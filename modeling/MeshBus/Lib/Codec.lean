import MeshBus.Lib.Bytes

/-!
# Byte codecs

A codec writes values as byte strings and reads them back from the front of a
longer string.  The round trip is a field, so codecs can only be combined into
codecs that round-trip.  Lengths travel as 64-bit integers, so the law is about
encodings shorter than `2 ^ 64` octets.
-/

namespace MeshBus.Lib

open List Option UInt32

structure Codec (α : Type) where
  put : α → Bytes
  get : Bytes → Option (α × Bytes)
  get_put : ∀ a rest, (put a).length < 2 ^ 64 → get (put a ++ rest) = some (a, rest)

namespace Codec
variable {α β : Type}

def decode (c : Codec α) (bs : Bytes) : Option α := (c.get bs).map Prod.fst

lemma decode_put (c : Codec α) (a : α) (h : (c.put a).length < 2 ^ 64) :
    c.decode (c.put a) = some a := by
  have hget := c.get_put a [] h
  rw [append_nil] at hget
  rw [decode, hget, map_some]

/-- The first `n` octets and the rest, if there are that many. -/
def split (n : Nat) (bs : Bytes) : Option (Bytes × Bytes) :=
  if n ≤ bs.length then some (bs.take n, bs.drop n) else none

lemma split_append (h : bs.length = n) : split n (bs ++ rest) = some (bs, rest) := by
  subst h
  simp [split]

/-! ## Basic values -/

def fixint (width : Nat) (toNat : α → Nat) (ofNat : Nat → α)
    (hlt : ∀ a, toNat a < 256 ^ width) (hinv : ∀ a, ofNat (toNat a) = a) : Codec α where
  put a := leBytes width (toNat a)
  get bs := (split width bs).map fun p => (ofNat (ofLeBytes p.1), p.2)
  get_put a rest _ := by
    rw [split_append (length_leBytes _ _)]
    simp [ofLeBytes_leBytes (hlt a), hinv]

def u8 : Codec UInt8 :=
  fixint 1 UInt8.toNat UInt8.ofNat (fun a => a.toNat_lt) (by simp)

def u16 : Codec UInt16 :=
  fixint 2 UInt16.toNat UInt16.ofNat (fun a => a.toNat_lt) (by simp)

def u32 : Codec UInt32 :=
  fixint 4 toNat ofNat (fun a => a.toNat_lt) (by simp)

def u64 : Codec UInt64 :=
  fixint 8 UInt64.toNat UInt64.ofNat (fun a => a.toNat_lt) (by simp)

/-- An array of known size travels without its length. -/
def octets (n : Nat) : Codec (Octets n) where
  put v := v.toList
  get bs := (split n bs).map fun p => (firstOctets n p.1, p.2)
  get_put v rest _ := by
    rw [split_append (by simp), map_some]
    have hfirst := firstOctets_toList n v []
    rw [append_nil] at hfirst
    rw [hfirst]

def bytes : Codec Bytes where
  put bs := leBytes 8 bs.length ++ bs
  get bs := do
    let (len, rest) ← split 8 bs
    split (ofLeBytes len) rest
  get_put bs rest h := by
    have hlen : bs.length < 256 ^ 8 := by
      rw [length_append] at h
      omega
    rw [append_assoc, split_append (length_leBytes _ _)]
    simp only [bind_eq_bind, bind_some]
    rw [ofLeBytes_leBytes hlen, split_append rfl]

/-! ## Combinators -/

/-- Transport along `f`, with a check on the way back. -/
def imap (c : Codec β) (f : α → β) (g : β → Option α) (hgf : ∀ a, g (f a) = some a) :
    Codec α where
  put a := c.put (f a)
  get bs := do
    let (b, rest) ← c.get bs
    let a ← g b
    pure (a, rest)
  get_put a rest h := by
    simp [c.get_put (f a) rest h, hgf]

def string : Codec String := bytes.imap utf8 ofUtf8 ofUtf8_utf8

def bool : Codec Bool :=
  u8.imap (fun b => if b then 1 else 0)
    (fun x => if x = 0 then some false else if x = 1 then some true else none)
    (by decide)

def pair (ca : Codec α) (cb : Codec β) : Codec (α × β) where
  put p := ca.put p.1 ++ cb.put p.2
  get bs := do
    let (a, rest) ← ca.get bs
    let (b, rest) ← cb.get rest
    pure ((a, b), rest)
  get_put p rest h := by
    rw [length_append] at h
    rw [append_assoc]
    simp [ca.get_put p.1 _ (by omega), cb.get_put p.2 rest (by omega)]

def option (c : Codec α) : Codec (Option α) where
  put
    | none => [0]
    | some a => 1 :: c.put a
  get
    | [] => none
    | tag :: rest =>
      if tag = 0 then some (none, rest)
      else if tag = 1 then (c.get rest).map fun p => (some p.1, p.2)
      else none
  get_put o rest h := by
    cases o with
    | none => rfl
    | some a =>
      simp only [length_cons] at h
      simp [c.get_put a rest (by omega)]

def variants [DecidableEq α] (values : List α) (hall : ∀ a, a ∈ values)
    (hlen : values.length < 2 ^ 32) : Codec α :=
  u32.imap (fun a => ofNat (values.idxOf a)) (fun tag => values[tag.toNat]?) (by
    intro a
    have hidx := idxOf_lt_length_of_mem (hall a)
    have htag : (ofNat (values.idxOf a)).toNat = values.idxOf a :=
      toNat_ofNat_of_lt' (lt_trans hidx hlen)
    rw [htag, getElem?_eq_getElem hidx, getElem_idxOf hidx])

lemma get_tagged (c : Codec α) (tag : UInt32) (a : α) (rest : Bytes)
    (h : (u32.put tag ++ c.put a).length < 2 ^ 64) :
    u32.get (u32.put tag ++ c.put a ++ rest) = some (tag, c.put a ++ rest) ∧
      c.get (c.put a ++ rest) = some (a, rest) := by
  rw [length_append] at h
  exact ⟨u32.get_put tag _ (by omega), c.get_put a rest (by omega)⟩

def getMany (c : Codec α) : Nat → Bytes → Option (List α × Bytes)
  | 0, bs => some ([], bs)
  | n + 1, bs => do
      let (a, rest) ← c.get bs
      let (as, rest) ← getMany c n rest
      pure (a :: as, rest)

lemma getMany_flatMap (c : Codec α) (h : (as.flatMap c.put).length < 2 ^ 64) :
    c.getMany as.length (as.flatMap c.put ++ rest) = some (as, rest) := by
  induction as with
  | nil => rfl
  | cons a as ih =>
    rw [flatMap_cons, length_append] at h
    rw [length_cons, getMany]
    simp [c.get_put a _ (by omega), ih (by omega)]

lemma length_le_flatMap (c : Codec α) (hpos : ∀ a, 0 < (c.put a).length) (as : List α) :
    as.length ≤ (as.flatMap c.put).length := by
  induction as with
  | nil => simp
  | cons a as ih =>
    have := hpos a
    rw [flatMap_cons, length_append, length_cons]
    omega

def list (c : Codec α) (hpos : ∀ a, 0 < (c.put a).length) : Codec (List α) where
  put as := leBytes 8 as.length ++ as.flatMap c.put
  get bs := do
    let (len, rest) ← split 8 bs
    c.getMany (ofLeBytes len) rest
  get_put as rest h := by
    have hle := c.length_le_flatMap hpos as
    rw [length_append] at h
    have hlen : as.length < 256 ^ 8 := by omega
    rw [append_assoc, split_append (length_leBytes _ _)]
    simp only [bind_eq_bind, bind_some]
    rw [ofLeBytes_leBytes hlen, c.getMany_flatMap (by omega)]

end Codec
end MeshBus.Lib
