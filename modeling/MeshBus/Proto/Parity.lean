import MeshBus.Lib.Bytes
import Mathlib.Data.List.Perm.Basic

/-!
# XOR parity

One parity chunk for a generation of data chunks.  At every position the parity is the
xor of the octets there, with zero beyond the end of a chunk, so that the xor of the
parity and the chunks that are left is the chunk that is missing.
-/

namespace MeshBus.Proto

open Lib List Option

/-- `*o ^= *b` over the zip of the two: what is left of the longer one is not touched. -/
def xorInto : Bytes → Bytes → Bytes
  | o :: out, b :: bs => (o ^^^ b) :: xorInto out bs
  | out, _ => out

def chunkWidth (chunks : List Bytes) : Nat := (chunks.map length).max?.getD 0

def xorParity (chunks : List Bytes) : Bytes :=
  chunks.foldl xorInto (replicate (chunkWidth chunks) 0)

/-- The scan for the absent slot; it returns early at the second one. -/
def findMissing (missing : Option Nat) : List (Option Bytes × Nat) → Option (Option Nat)
  | [] => some missing
  | (some _, _) :: rest => findMissing missing rest
  | (none, idx) :: rest => if missing.isSome then none else findMissing (some idx) rest

def addSlot (out slot : Bytes) : Bytes :=
  xorInto (if out.length < slot.length then out.rightpad slot.length 0 else out) slot

def reconstructMissing (present : List (Option Bytes)) (parity : Bytes) : Option Bytes := do
  let missing ← findMissing none present.zipIdx
  let _ ← missing
  some ((present.filterMap id).foldl addSlot parity)

/-! ## Adding a chunk -/

lemma xorInto_right_comm (out bs cs : Bytes) :
    xorInto (xorInto out bs) cs = xorInto (xorInto out cs) bs := by
  induction out generalizing bs cs with
  | nil => rfl
  | cons o out ih =>
    cases bs with
    | nil => cases cs <;> rfl
    | cons b bs =>
      cases cs with
      | nil => rfl
      | cons c cs =>
        have hhead : o ^^^ b ^^^ c = o ^^^ c ^^^ b := by
          rw [UInt8.xor_assoc, UInt8.xor_comm b, UInt8.xor_assoc]
        rw [xorInto, xorInto, xorInto, xorInto, ih, hhead]

instance : RightCommutative xorInto := ⟨xorInto_right_comm⟩

lemma xorInto_cancel : xorInto (xorInto out bs) bs = out := by
  induction out generalizing bs with
  | nil => rfl
  | cons o out ih =>
    cases bs with
    | nil => rfl
    | cons b bs => simp [xorInto, ih, UInt8.xor_assoc]

lemma length_xorInto : (xorInto out bs).length = out.length := by
  fun_induction xorInto out bs with
  | case1 o out b bs ih => rw [length_cons, length_cons, ih]
  | case2 => rfl

lemma xorInto_zeros (h : bs.length ≤ width) :
    xorInto (replicate width 0) bs = bs.rightpad width 0 := by
  induction bs generalizing width with
  | nil => cases width <;> simp [xorInto, rightpad, replicate_succ]
  | cons b bs ih =>
    obtain ⟨width, rfl⟩ := Nat.exists_eq_add_of_lt (lt_of_lt_of_le (Nat.succ_pos _) h)
    have hrest := ih (Nat.le_of_succ_le_succ (by simpa using h))
    simpa [replicate_succ, xorInto, rightpad] using hrest

lemma length_foldl_xorInto {out : Bytes} {chunks : List Bytes} :
    (chunks.foldl xorInto out).length = out.length := by
  induction chunks generalizing out with
  | nil => rfl
  | cons chunk rest ih => rw [foldl_cons, ih, length_xorInto]

lemma foldl_xorInto_cancel {out : Bytes} {chunks : List Bytes} :
    (chunks ++ chunks).foldl xorInto out = out := by
  induction chunks generalizing out with
  | nil => rfl
  | cons chunk rest ih =>
    have hfront : chunk :: rest ++ chunk :: rest ~ chunk :: chunk :: (rest ++ rest) :=
      perm_middle.cons chunk
    rw [hfront.foldl_eq, foldl_cons, foldl_cons, xorInto_cancel, ih]

lemma length_le_chunkWidth (h : chunk ∈ chunks) : chunk.length ≤ chunkWidth chunks :=
  le_max?_getD_of_mem (mem_map_of_mem h)

/-! ## The chunk that is missing -/

lemma findMissing_eq_none_iff :
    (findMissing missing slots).bind id = none ↔
      (slots.map Prod.fst).count none + missing.toList.length ≠ 1 := by
  induction slots generalizing missing with
  | nil => cases missing <;> simp [findMissing]
  | cons slot rest ih =>
    obtain ⟨slot, idx⟩ := slot
    cases slot with
    | some chunk =>
      rw [findMissing, ih]
      simp
    | none =>
      cases missing with
      | none =>
        rw [findMissing, if_neg (by simp), ih]
        simp
      | some first => simp [findMissing]

lemma foldl_addSlot {chunks : List Bytes} (h : ∀ chunk ∈ chunks, chunk.length ≤ out.length) :
    chunks.foldl addSlot out = chunks.foldl xorInto out := by
  induction chunks generalizing out with
  | nil => rfl
  | cons chunk rest ih =>
    obtain ⟨hchunk, hrest⟩ := forall_mem_cons.mp h
    rw [foldl_cons, foldl_cons, addSlot, if_neg (not_lt.mpr hchunk), ih]
    rwa [length_xorInto]

/-- The other chunks are in the parity and are added once more. -/
lemma foldl_addSlot_parity (before after : List Bytes) (chunk : Bytes) :
    (before ++ after).foldl addSlot (xorParity (before ++ chunk :: after)) =
      chunk.rightpad (chunkWidth (before ++ chunk :: after)) 0 := by
  have hwidth : ∀ chunk' ∈ before ++ chunk :: after,
      chunk'.length ≤ chunkWidth (before ++ chunk :: after) := fun _ => length_le_chunkWidth
  have hother : (before ++ after).Sublist (before ++ chunk :: after) :=
    (sublist_cons_self _ _).append_left before
  rw [foldl_addSlot, xorParity, ← foldl_append]
  · have hfront : before ++ chunk :: after ++ (before ++ after) ~
        chunk :: (before ++ after ++ (before ++ after)) := perm_middle.append_right _
    rw [hfront.foldl_eq, foldl_cons, foldl_xorInto_cancel, xorInto_zeros (hwidth chunk (by simp))]
  · intro other hmem
    rw [xorParity, length_foldl_xorInto, length_replicate]
    exact hwidth other (hother.subset hmem)

lemma reconstructMissing_eq :
    reconstructMissing present parity = ((findMissing none present.zipIdx).bind id).map
      fun _ => (present.filterMap id).foldl addSlot parity := by
  unfold reconstructMissing
  cases findMissing none present.zipIdx with
  | none => rfl
  | some missing => cases missing <;> rfl

lemma reconstructMissing_eq_none_iff (present : List (Option Bytes)) (parity : Bytes) :
    reconstructMissing present parity = none ↔ present.count none ≠ 1 := by
  rw [reconstructMissing_eq, map_eq_none_iff, findMissing_eq_none_iff, zipIdx_map_fst]
  rfl

/-- A chunk that is absent is rebuilt from the parity of the whole list, padded with zeros to the
longest chunk; and nothing is rebuilt exactly when the number of absent chunks is not one. -/
theorem reconstructMissing_exact (chunks : List Bytes) (i : Fin chunks.length)
    (present : List (Option Bytes)) (parity : Bytes) :
    reconstructMissing ((chunks.map some).set i none) (xorParity chunks) =
        some (chunks[i].rightpad (chunkWidth chunks) 0) ∧
      (reconstructMissing present parity = none ↔ present.count none ≠ 1) := by
  refine ⟨?_, reconstructMissing_eq_none_iff present parity⟩
  have hsplit : chunks.take i ++ chunks[i] :: chunks.drop (i + 1) = chunks := by simp
  have hpres : (chunks.map some).set i none =
      (chunks.take i).map some ++ none :: (chunks.drop (i + 1)).map some := by
    rw [set_eq_take_append_cons_drop, if_pos (by simp), map_take, map_drop]
  have hfree : ∀ l : List Bytes, (l.map some).count none = 0 := fun l =>
    count_eq_zero.mpr (by simp)
  have hkept : ∀ l : List Bytes, (l.map some).filterMap id = l := fun l => by simp
  have hcount : ((chunks.map some).set i none).count none = 1 := by
    rw [hpres, count_append, count_cons_self, hfree, hfree]
  obtain ⟨chunk, hchunk⟩ := Option.ne_none_iff_exists'.mp fun hnone =>
    (reconstructMissing_eq_none_iff _ (xorParity chunks)).mp hnone hcount
  have hrest := foldl_addSlot_parity (chunks.take i) (chunks.drop (i + 1)) chunks[i]
  rw [hsplit] at hrest
  rw [hchunk, ← hrest]
  rw [reconstructMissing_eq, map_eq_some_iff, hpres] at hchunk
  obtain ⟨_, -, hchunk⟩ := hchunk
  rw [← hchunk, filterMap_append, filterMap_cons_none rfl, hkept, hkept]

end MeshBus.Proto
