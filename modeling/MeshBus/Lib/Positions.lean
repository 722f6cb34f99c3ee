import Mathlib.Algebra.Ring.Nat
import Mathlib.Data.List.InsertIdx
import Mathlib.Data.List.Sort

/-!
# Dropping the end of a list

When everything behind a dropped entry is dropped too, the entries that stay keep
their positions.  The lemmas below say so for the three ways of dropping that
occur: by a predicate on entries, by erasing positions from the highest to the
lowest, and by a function of entry and position.
-/

namespace MeshBus.Lib

open List Nat
variable {α β : Type*}

lemma filter_eq_take_of_pairwise {q : α → Bool} {l : List α}
    (h : l.Pairwise fun a b => q a = true → q b = true) :
    ∃ m, l.filter (fun a => !q a) = l.take m := by
  induction l with
  | nil => exact ⟨0, rfl⟩
  | cons a l ih =>
    obtain ⟨hhead, htail⟩ := pairwise_cons.mp h
    cases ha : q a with
    | true =>
      refine ⟨0, filter_eq_nil_iff.mpr fun b hb => ?_⟩
      rcases mem_cons.mp hb with rfl | hb
      · simp [ha]
      · simp [hhead b hb ha]
    | false =>
      obtain ⟨m, hm⟩ := ih htail
      exact ⟨m + 1, by simp [ha, hm]⟩

lemma filter_range_eq_range' (h : ∀ i j, i < j → j < n → q i = true → q j = true) :
    ∃ m k, m + k = n ∧ (range n).filter q = range' m k ∧
      ∀ i < n, q i = true ↔ m ≤ i := by
  induction n with
  | zero => exact ⟨0, 0, rfl, rfl, fun i hi => absurd hi (not_lt_zero i)⟩
  | succ n ih =>
    obtain ⟨m, k, hn, hfilter, hiff⟩ := ih fun i j hij hj => h i j hij (lt_succ_of_lt hj)
    rw [range_succ, filter_append]
    cases hlast : q n with
    | true =>
      refine ⟨m, k + 1, by omega, ?_, fun i hi => ?_⟩
      · rw [hfilter, range'_concat]
        simp [hlast, hn]
      · rcases Nat.lt_succ_iff_lt_or_eq.mp hi with hlt | rfl
        · exact hiff i hlt
        · exact ⟨fun _ => by omega, fun _ => hlast⟩
    | false =>
      -- Nothing before the last position can be dropped either.
      have hnone : ∀ i < n + 1, q i = false := by
        intro i hi
        rcases Nat.lt_succ_iff_lt_or_eq.mp hi with hlt | rfl
        · exact Bool.eq_false_iff.mpr fun hi => by
            rw [h i n hlt (lt_succ_self n) hi] at hlast
            cases hlast
        · exact hlast
      refine ⟨n + 1, 0, rfl, ?_, fun i hi => ?_⟩
      · have hbef : (range n).filter q = [] :=
          filter_eq_nil_iff.mpr fun i hi => by
            simp [hnone i (lt_succ_of_lt (mem_range.mp hi))]
        simp [hbef, hlast]
      · rw [hnone i hi]
        exact ⟨Bool.false_ne_true.elim, fun hle => absurd hi (not_lt.mpr hle)⟩

lemma mergeSort_range' (m k : Nat) :
    (range' m k).mergeSort (fun a b => decide (b ≤ a)) = (range' m k).reverse := by
  refine @List.Perm.eq_of_pairwise _ (fun a b => b ≤ a) _ _ (fun a b _ _ hab hba => ?_) ?_ ?_ ?_
  · omega
  · have hsorted := @List.pairwise_mergeSort Nat (fun a b => decide (b ≤ a))
      (fun a b c => by simp; omega) (fun a b => by simp; omega) (range' m k)
    simpa using hsorted
  · rw [pairwise_reverse]
    exact pairwise_le_range'
  · exact (mergeSort_perm _ _).trans (reverse_perm _).symm

lemma foldl_eraseIdx_reverse_range' (l : List α) (m k : Nat) (h : l.length = m + k) :
    (range' m k).reverse.foldl eraseIdx l = l.take m := by
  induction k generalizing l with
  | zero =>
    rw [take_of_length_le (show l.length ≤ m from le_of_eq h)]
    rfl
  | succ k ih =>
    rw [range'_concat, reverse_append, one_mul]
    simp only [reverse_singleton, singleton_append, foldl_cons]
    rw [ih _ (by rw [length_eraseIdx]; simp [h]),
      take_eraseIdx_eq_take_of_le _ _ _ (le_add_right m k)]

lemma filterMap_zipIdx_eq_map {l : List α}
    (hkeep : ∀ a i, l[i]? = some a → i < m → f (a, i) = some (g (a, i)))
    (hdrop : ∀ a i, l[i]? = some a → m ≤ i → f (a, i) = none) :
    l.zipIdx.filterMap f = (l.take m).zipIdx.map g := by
  conv_lhs => rw [← take_append_drop m l, zipIdx_append, filterMap_append]
  have hfirst : (l.take m).zipIdx.filterMap f = (l.take m).zipIdx.map g := by
    rw [← filterMap_eq_map]
    refine filterMap_congr fun entry hentry => ?_
    have hat := mem_zipIdx_iff_getElem?.mp hentry
    rw [getElem?_take] at hat
    split at hat
    · rename_i hlt
      exact hkeep entry.1 entry.2 hat hlt
    · cases hat
  have hrest : ((l.drop m).zipIdx (0 + (l.take m).length)).filterMap f = [] := by
    rw [filterMap_eq_nil_iff]
    rintro ⟨a, i⟩ hentry
    obtain ⟨hle, hat⟩ := mk_mem_zipIdx_iff_le_and_getElem?_sub.mp hentry
    rw [getElem?_drop] at hat
    have hlt := (List.getElem?_eq_some_iff.mp hat).1
    rw [length_take, zero_add] at hle hat
    have hi : m + (i - min m l.length) = i := by omega
    rw [hi] at hat
    exact hdrop a i hat (by omega)
  rw [hfirst, hrest, append_nil]

/-! ## Updates in turn -/

section
variable {σ κ ν ι : Type*} {get : σ → κ → ν} {f : σ → ι → σ} {key : ι → κ}

lemma get_foldl_of_forall_ne (hother : ∀ s i k, k ≠ key i → get (f s i) k = get s k)
    (l : List ι) (s : σ) (hk : ∀ i ∈ l, k ≠ key i) : get (l.foldl f s) k = get s k := by
  induction l generalizing s with
  | nil => rfl
  | cons i l ih =>
    rw [foldl_cons, ih _ fun j hj => hk j (mem_cons_of_mem _ hj)]
    exact hother s i k (hk i mem_cons_self)

lemma get_foldl_of_mem (hother : ∀ s i k, k ≠ key i → get (f s i) k = get s k)
    (hkey : Function.Injective key) (l : List ι) (s : σ) (hl : l.Nodup) {i : ι} (hi : i ∈ l) :
    ∃ s', get s' (key i) = get s (key i) ∧ get (l.foldl f s) (key i) = get (f s' i) (key i) := by
  induction l generalizing s with
  | nil => cases hi
  | cons j l ih =>
    obtain ⟨hj, hl⟩ := nodup_cons.mp hl
    rcases mem_cons.mp hi with rfl | hi
    · refine ⟨s, rfl, get_foldl_of_forall_ne hother l (f s i) fun j hmem heq => ?_⟩
      exact hj (hkey heq ▸ hmem)
    · obtain ⟨s', hs', hfold⟩ := ih (f s j) hl hi
      refine ⟨s', hs'.trans (hother s j (key i) fun heq => ?_), hfold⟩
      exact hj (hkey heq ▸ hi)

end
end MeshBus.Lib
