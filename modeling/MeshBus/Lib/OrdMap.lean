import Mathlib.Algebra.Ring.Nat
import Mathlib.Data.List.Nodup
import Mathlib.Order.Lattice

/-!
# Maps ordered by key

A finite map as the list of its entries, in increasing order of their keys: what a
search tree holds, read from left to right.
-/

namespace MeshBus.Lib

open List Option Prod
variable {κ ν : Type} [LinearOrder κ]

def insertEntry (k : κ) (v : ν) : List (κ × ν) → List (κ × ν)
  | [] => [(k, v)]
  | entry :: rest =>
    if k < entry.1 then (k, v) :: entry :: rest
    else if k = entry.1 then (k, v) :: rest
    else entry :: insertEntry k v rest

lemma mem_insertEntry {k : κ} {v : ν} {entry : κ × ν}
    (h : entry ∈ insertEntry k v entries) : entry = (k, v) ∨ entry ∈ entries := by
  induction entries with
  | nil => exact .inl (mem_singleton.mp h)
  | cons head rest ih =>
    unfold insertEntry at h
    split at h
    · exact mem_cons.mp h
    · split at h
      · exact (mem_cons.mp h).imp_right (mem_cons_of_mem _)
      · rcases mem_cons.mp h with rfl | h
        · exact .inr mem_cons_self
        · exact (ih h).imp_right (mem_cons_of_mem _)

lemma pairwise_insertEntry (k : κ) (v : ν) (h : entries.Pairwise fun a b => a.1 < b.1) :
    (insertEntry k v entries).Pairwise fun a b => a.1 < b.1 := by
  induction entries with
  | nil => exact pairwise_singleton _ _
  | cons head rest ih =>
    obtain ⟨hhead, hrest⟩ := pairwise_cons.mp h
    unfold insertEntry
    split
    · rename_i hlt
      refine pairwise_cons.mpr ⟨fun entry hmem => ?_, h⟩
      rcases mem_cons.mp hmem with rfl | hmem
      · exact hlt
      · exact lt_trans hlt (hhead entry hmem)
    · split
      · rename_i heq
        exact pairwise_cons.mpr ⟨fun entry hmem => heq ▸ hhead entry hmem, hrest⟩
      · rename_i hnlt hne
        refine pairwise_cons.mpr ⟨fun entry hmem => ?_, ih hrest⟩
        rcases mem_insertEntry hmem with rfl | hmem
        · exact lt_of_le_of_ne (not_lt.mp hnlt) (Ne.symm hne)
        · exact hhead entry hmem

/-- A map ordered by its keys. -/
structure OrdMap (κ ν : Type) [LinearOrder κ] where
  entries : List (κ × ν)
  sorted : entries.Pairwise fun a b => a.1 < b.1

namespace OrdMap

def empty : OrdMap κ ν := ⟨[], List.Pairwise.nil⟩

def insert (m : OrdMap κ ν) (k : κ) (v : ν) : OrdMap κ ν :=
  ⟨insertEntry k v m.entries, pairwise_insertEntry k v m.sorted⟩

def filter (m : OrdMap κ ν) (keep : κ → ν → Bool) : OrdMap κ ν :=
  ⟨m.entries.filter fun entry => keep entry.1 entry.2, m.sorted.sublist filter_sublist⟩

def erase (m : OrdMap κ ν) (k : κ) : OrdMap κ ν := m.filter fun k' _ => k' ≠ k

def lookup (m : OrdMap κ ν) (k : κ) : Option ν :=
  (m.entries.find? fun entry => entry.1 = k).map snd

def keys (m : OrdMap κ ν) : List κ := m.entries.map fst

def values (m : OrdMap κ ν) : List ν := m.entries.map snd

/-! ## Keys -/

variable {entries : List (κ × ν)} {m : OrdMap κ ν}

lemma mem_keys : k ∈ m.keys ↔ ∃ v, (k, v) ∈ m.entries := by
  simp only [keys, List.mem_map, Prod.exists, exists_and_right, exists_eq_right]

lemma mem_entries_filter : (k, v) ∈ (m.filter keep).entries ↔ (k, v) ∈ m.entries ∧ keep k v :=
  mem_filter

lemma mem_entries_insert (h : (k', v') ∈ (m.insert k v).entries) :
    k' = k ∧ v' = v ∨ (k', v') ∈ m.entries :=
  (mem_insertEntry h).imp_left Prod.mk.inj

lemma mem_keys_erase : k' ∈ (m.erase k).keys ↔ k' ∈ m.keys ∧ k' ≠ k := by
  simp only [mem_keys, erase, mem_entries_filter, decide_eq_true_eq, exists_and_right]

lemma nodup_keys (m : OrdMap κ ν) : m.keys.Nodup :=
  pairwise_map.mpr (m.sorted.imp fun hlt => ne_of_lt hlt)

lemma eq_of_mem_entries (h : (k, v) ∈ m.entries) (h' : (k, v') ∈ m.entries) : v = v' :=
  (Prod.mk.inj (inj_on_of_nodup_map m.nodup_keys h h' rfl)).2

/-! ## Lookup -/

lemma mem_entries_of_lookup (h : m.lookup k = some v) : (k, v) ∈ m.entries := by
  obtain ⟨⟨k', v'⟩, hfind, rfl⟩ := map_eq_some_iff.mp h
  have hkey : k' = k := by simpa using find?_some hfind
  exact hkey ▸ mem_of_find?_eq_some hfind

lemma not_mem_keys_of_lookup (h : m.lookup k = none) : k ∉ m.keys := by
  intro hmem
  obtain ⟨v, hv⟩ := mem_keys.mp hmem
  have hnone := find?_eq_none.mp (map_eq_none_iff.mp h) (k, v) hv
  exact hnone (decide_eq_true rfl)

lemma lookup_eq_some_iff : m.lookup k = some v ↔ (k, v) ∈ m.entries := by
  refine ⟨mem_entries_of_lookup, fun hmem => ?_⟩
  cases h : m.lookup k with
  | none => exact absurd (mem_keys.mpr ⟨v, hmem⟩) (not_mem_keys_of_lookup h)
  | some v' => rw [eq_of_mem_entries (mem_entries_of_lookup h) hmem]

lemma mem_insertEntry_self (k : κ) (v : ν) (entries : List (κ × ν)) :
    (k, v) ∈ insertEntry k v entries := by
  induction entries with
  | nil => exact mem_singleton.mpr rfl
  | cons head rest ih =>
    unfold insertEntry
    split
    · exact mem_cons_self
    · split
      · exact mem_cons_self
      · exact mem_cons_of_mem _ ih

lemma mem_insertEntry_of_ne (hmem : entry ∈ entries) (hne : entry.1 ≠ k) :
    entry ∈ insertEntry k v entries := by
  induction entries with
  | nil => cases hmem
  | cons head rest ih =>
    unfold insertEntry
    split
    · exact mem_cons_of_mem _ hmem
    · rcases mem_cons.mp hmem with rfl | hrest
      · rw [if_neg (fun heq => hne heq.symm)]
        exact mem_cons_self
      · split
        · exact mem_cons_of_mem _ hrest
        · exact mem_cons_of_mem _ (ih hrest)

@[simp] lemma lookup_insert (m : OrdMap κ ν) (k k' : κ) (v : ν) :
    (m.insert k v).lookup k' = if k' = k then some v else m.lookup k' := by
  apply Option.ext
  intro w
  split
  · next heq =>
      subst heq
      rw [lookup_eq_some_iff, Option.some.injEq]
      refine ⟨fun hmem => eq_of_mem_entries (mem_insertEntry_self k' v m.entries) hmem, ?_⟩
      rintro rfl
      exact mem_insertEntry_self k' v m.entries
  · next hne =>
      rw [lookup_eq_some_iff, lookup_eq_some_iff]
      refine ⟨fun hmem => ?_, fun hmem => mem_insertEntry_of_ne hmem hne⟩
      exact (mem_entries_insert hmem).resolve_left fun h => hne h.1

lemma insertEntry_eq_self (hsorted : entries.Pairwise fun a b => a.1 < b.1)
    (hmem : (k, v) ∈ entries) : insertEntry k v entries = entries := by
  induction entries with
  | nil => cases hmem
  | cons head rest ih =>
    obtain ⟨hhead, hrest⟩ := pairwise_cons.mp hsorted
    unfold insertEntry
    rcases mem_cons.mp hmem with rfl | hmem
    · rw [if_neg (lt_irrefl _), if_pos rfl]
    · have hlt := hhead _ hmem
      rw [if_neg (not_lt_of_gt hlt), if_neg (ne_of_gt hlt), ih hrest hmem]

lemma insert_eq_self (h : m.lookup k = some v) : m.insert k v = m := by
  unfold insert
  simp only [insertEntry_eq_self m.sorted (mem_entries_of_lookup h)]

lemma isSome_lookup : (m.lookup k).isSome ↔ k ∈ m.keys := by
  rw [isSome_iff_exists, mem_keys]
  exact exists_congr fun v => lookup_eq_some_iff

/-! ## Entries up to order -/

lemma perm_insertEntry (hnew : ∀ entry ∈ entries, entry.1 ≠ k) :
    List.Perm (insertEntry k v entries) ((k, v) :: entries) := by
  induction entries with
  | nil => exact .refl _
  | cons head rest ih =>
    unfold insertEntry
    split
    · exact .refl _
    · rw [if_neg fun heq => hnew head mem_cons_self heq.symm]
      have hrest := ih fun entry hmem => hnew entry (mem_cons_of_mem _ hmem)
      exact (hrest.cons head).trans (.swap _ _ _)

lemma perm_insert (v : ν) (hnew : k ∉ m.keys) :
    List.Perm (m.insert k v).entries ((k, v) :: m.entries) := by
  apply perm_insertEntry
  rintro ⟨k', v'⟩ hmem rfl
  exact hnew (mem_keys.mpr ⟨v', hmem⟩)

lemma entries_erase_of_not_mem (h : k ∉ m.keys) : (m.erase k).entries = m.entries := by
  apply filter_eq_self.mpr
  rintro ⟨k', v⟩ hmem
  apply decide_eq_true
  rintro rfl
  exact h (mem_keys.mpr ⟨v, hmem⟩)

lemma perm_erase (h : m.lookup k = some v) :
    List.Perm ((k, v) :: (m.erase k).entries) m.entries := by
  have hmem := mem_entries_of_lookup h
  have hnodup : m.entries.Nodup := m.nodup_keys.of_map _
  have herased : (m.erase k).entries.Nodup := (m.erase k).nodup_keys.of_map _
  have hgone : (k, v) ∉ (m.erase k).entries := by
    intro hmem
    exact of_decide_eq_true (mem_entries_filter.mp hmem).2 rfl
  apply (perm_ext_iff_of_nodup (herased.cons hgone) hnodup).mpr
  rintro ⟨k', v'⟩
  rw [mem_cons, erase, mem_entries_filter, decide_eq_true_eq]
  by_cases hkey : k' = k
  · subst hkey
    refine ⟨fun hcases => ?_, fun hmem' => .inl (by rw [eq_of_mem_entries hmem hmem'])⟩
    exact hcases.elim (fun heq => heq ▸ hmem) fun hboth => hboth.1
  · refine ⟨fun hcases => ?_, fun hmem' => .inr ⟨hmem', hkey⟩⟩
    exact hcases.elim (fun heq => absurd (Prod.mk.inj heq).1 hkey) fun hboth => hboth.1

lemma perm_flatten_erase (m : OrdMap κ (List α)) (k : κ) :
    List.Perm ((m.lookup k).getD [] ++ (m.erase k).values.flatten) m.values.flatten := by
  cases h : m.lookup k with
  | none =>
    rw [values, entries_erase_of_not_mem (not_mem_keys_of_lookup h)]
    exact .refl _
  | some v => exact ((perm_erase h).map snd).flatten

lemma perm_flatten_insert {m : OrdMap κ (List α)} (v : List α) (hnew : k ∉ m.keys) :
    List.Perm (m.insert k v).values.flatten (v ++ m.values.flatten) :=
  ((perm_insert v hnew).map snd).flatten

end OrdMap
end MeshBus.Lib
