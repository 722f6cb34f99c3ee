import Mathlib.Algebra.Order.BigOperators.Group.List
import Mathlib.Algebra.Order.Ring.Nat
import Mathlib.Data.List.AList

/-!
# Bounded tables

Finite maps with a capacity.  A full table makes room by dropping one entry; as
the iteration order of a hash map is not specified, which entry goes is up to
the caller's `choice`.
-/

namespace MeshBus.Lib

open List

abbrev Table (κ ν : Type) := AList fun _ : κ => ν

namespace Table
variable {κ ν : Type}

def size (t : Table κ ν) : Nat := t.keys.length

def anyKey (t : Table κ ν) (choice : Nat) : Option κ := t.keys[choice % t.size]?

def evictee (t : Table κ ν) (capacity choice : Nat) : Option κ :=
  if capacity ≤ t.size then t.anyKey choice else none

def total (f : ν → Nat) (t : Table κ ν) : Nat := (t.entries.map fun entry => f entry.2).sum

def retain (t : Table κ ν) (keep : κ → ν → Bool) : Table κ ν where
  entries := t.entries.filter fun entry => keep entry.1 entry.2
  nodupKeys := t.nodupKeys.sublist filter_sublist

variable {capacity : Nat} {t : Table κ ν}

lemma size_pos_of_mem (h : k ∈ t) : 0 < size t := length_pos_of_mem (AList.mem_keys.mp h)

lemma evictee_mem (h : t.evictee capacity choice = some k) : k ∈ t := by
  unfold evictee at h
  split at h
  · exact AList.mem_keys.mpr (mem_of_getElem? h)
  · cases h

variable [DecidableEq κ]

def makeRoom (t : Table κ ν) (capacity choice : Nat) : Table κ ν :=
  match t.evictee capacity choice with
  | none => t
  | some k => t.erase k

/-! ## Lookups -/

lemma lookup_insert_if (t : Table κ ν) (k k' : κ) (v : ν) :
    (t.insert k v).lookup k' = if k' = k then some v else t.lookup k' := by
  by_cases h : k' = k
  · subst h
    rw [AList.lookup_insert, if_pos rfl]
  · rw [AList.lookup_insert_ne h, if_neg h]

lemma lookup_erase_if (t : Table κ ν) (k k' : κ) :
    (t.erase k).lookup k' = if k' = k then none else t.lookup k' := by
  by_cases h : k' = k
  · subst h
    rw [AList.lookup_erase, if_pos rfl]
  · rw [AList.lookup_erase_ne h, if_neg h]

lemma lookup_makeRoom (t : Table κ ν) (capacity choice : Nat) (k : κ) :
    (t.makeRoom capacity choice).lookup k =
      if t.evictee capacity choice = some k then none else t.lookup k := by
  unfold makeRoom
  split
  · rename_i hnone
    rw [if_neg (by rw [hnone]; simp)]
  · rename_i k' hsome
    rw [lookup_erase_if, hsome]
    simp only [Option.some.injEq, eq_comm]

lemma lookup_of_retain (h : (t.retain keep).lookup k = some v) : t.lookup k = some v := by
  have hmem := AList.mem_lookup_iff.mp (Option.mem_def.mpr h)
  exact Option.mem_def.mp (AList.mem_lookup_iff.mpr (mem_of_mem_filter hmem))

lemma not_mem_retain (h : ∀ v, keep k v = false) : k ∉ t.retain keep := by
  intro hmem
  obtain ⟨v, hlook⟩ := Option.isSome_iff_exists.mp (AList.lookup_isSome.mpr hmem)
  have hentry := AList.mem_lookup_iff.mp (Option.mem_def.mpr hlook)
  have hkeep := (mem_filter.mp hentry).2
  rw [h v] at hkeep
  cases hkeep

/-! ## Sizes -/

lemma size_erase_le (t : Table κ ν) (k : κ) : size (t.erase k) ≤ size t := by
  unfold size
  rw [AList.keys_erase]
  exact length_erase_le

lemma size_erase_of_mem (h : k ∈ t) : size (t.erase k) = size t - 1 := by
  unfold size
  rw [AList.keys_erase]
  exact length_erase_of_mem (AList.mem_keys.mp h)

lemma size_insert_le : size (t.insert k v) ≤ size t + 1 := by
  unfold size
  rw [AList.keys_insert]
  exact Nat.succ_le_succ length_erase_le

lemma size_insert_of_mem (h : k ∈ t) : size (t.insert k v) = size t := by
  have hpos := size_pos_of_mem h
  unfold size at hpos ⊢
  rw [AList.keys_insert, length_cons, length_erase_of_mem (AList.mem_keys.mp h)]
  omega

lemma size_makeRoom_lt (hpos : 0 < capacity) (hsize : size t ≤ capacity) (choice : Nat) :
    size (t.makeRoom capacity choice) < capacity := by
  unfold makeRoom
  split
  · rename_i hnone
    unfold evictee at hnone
    split at hnone
    · rename_i hfull
      have hlt : choice % size t < t.keys.length := Nat.mod_lt _ (by omega)
      rw [anyKey, getElem?_eq_getElem hlt] at hnone
      cases hnone
    · omega
  · rename_i k hsome
    have hmem := evictee_mem hsome
    rw [size_erase_of_mem hmem]
    omega

lemma size_insert_le_of_lt (h : size t < capacity ∨ (k ∈ t ∧ size t ≤ capacity)) (v : ν) :
    size (t.insert k v) ≤ capacity := by
  rcases h with hlt | ⟨hmem, hle⟩
  · exact le_trans size_insert_le hlt
  · rw [size_insert_of_mem hmem]
    exact hle

lemma total_le (t : Table κ ν)
    (h : ∀ k v, t.lookup k = some v → f v ≤ b) : total f t ≤ size t * b := by
  have hentr : ∀ n ∈ t.entries.map (fun entry => f entry.2), n ≤ b := by
    intro n hn
    obtain ⟨entry, hentry, rfl⟩ := mem_map.mp hn
    exact h entry.1 entry.2 (AList.mem_lookup_iff.mpr hentry)
  have hsum := sum_le_card_nsmul (t.entries.map fun entry => f entry.2) b hentr
  simpa [total, size, AList.keys, keys] using hsum

end Table
end MeshBus.Lib
