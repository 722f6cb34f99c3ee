import Mathlib.Algebra.Ring.Nat
import Mathlib.Data.List.Basic

/-!
# Maximal runs of a numbered log

A log that may be filled in any order is a partial function `f` from numbers to
entries.  Reading it in order from `n` yields the entries up to the first hole;
`MaximalRun f n xs` says that `xs` is that reading.
-/

namespace MeshBus.Lib

open List Nat
variable {α : Type*}

/-- `xs` lists `f n, f (n + 1), …` up to the first hole. -/
def MaximalRun (f : Nat → Option α) (n : Nat) (xs : List α) : Prop :=
  ∀ i ≤ xs.length, f (n + i) = xs[i]?

namespace MaximalRun
variable {xs ys : List α}

lemma stop (h : MaximalRun f n xs) : f (n + xs.length) = none := by
  rw [h xs.length (le_rfl), getElem?_eq_none (le_rfl)]

lemma nil_iff : MaximalRun f n [] ↔ f n = none := by
  constructor
  · intro h
    exact h 0 (le_rfl)
  · intro h i hi
    obtain rfl : i = 0 := by simpa using hi
    exact h

lemma cons_iff : MaximalRun f n (x :: xs) ↔ f n = some x ∧ MaximalRun f (n + 1) xs := by
  constructor
  · intro h
    refine ⟨h 0 (zero_le _), fun i hi => ?_⟩
    have hi' := h (i + 1) (by simpa using hi)
    rwa [getElem?_cons_succ, ← Nat.add_assoc, Nat.add_right_comm] at hi'
  · rintro ⟨hx, h⟩ i hi
    cases i with
    | zero => exact hx
    | succ i =>
      rw [getElem?_cons_succ, ← h i (by simpa using hi), Nat.add_right_comm, add_assoc]

lemma append_iff (hxs : ∀ i < xs.length, f (n + i) = xs[i]?) :
    MaximalRun f n (xs ++ ys) ↔ MaximalRun f (n + xs.length) ys := by
  induction xs generalizing n with
  | nil => simp
  | cons x xs ih =>
    have hhead := hxs 0 (by simp)
    have htail : ∀ i < xs.length, f (n + 1 + i) = xs[i]? := by
      intro i hi
      have hi' := hxs (i + 1) (by simpa using hi)
      rwa [getElem?_cons_succ, ← Nat.add_assoc, Nat.add_right_comm] at hi'
    rw [cons_append, cons_iff, ih htail, length_cons, add_assoc, add_comm 1 xs.length]
    exact ⟨fun h => h.2, fun h => ⟨hhead, h⟩⟩

lemma congr (h : MaximalRun f n xs) (hfg : ∀ k, n ≤ k → f k = g k) : MaximalRun g n xs := by
  intro i hi
  rw [← hfg (n + i) (by omega), h i hi]

lemma lt_iff (h : MaximalRun f n xs) :
    s < n + xs.length ↔ ∀ j, n ≤ j → j ≤ s → (f j).isSome = true := by
  constructor
  · intro hs j hj hjs
    obtain ⟨i, rfl⟩ := Nat.exists_eq_add_of_le hj
    rw [h i (by omega), getElem?_eq_getElem (by omega)]
    rfl
  · intro hall
    by_contra hs
    have hfilled := hall (n + xs.length) (by omega) (by omega)
    rw [h.stop] at hfilled
    cases hfilled

end MaximalRun
end MeshBus.Lib
