import Mathlib.Algebra.Ring.Nat
import Mathlib.Data.List.Basic
import Mathlib.Data.List.Induction

/-!
# Byte strings

Byte strings are lists of octets; a fixed-size array `[u8; n]` is a vector, so
its length is part of its type.  Integers travel in a fixed number of octets,
little or big end first, and text as UTF-8.
-/

namespace MeshBus.Lib

abbrev Bytes := List UInt8

abbrev Octets (n : Nat) := Vector UInt8 n

open List Nat

def zeroOctets (n : Nat) : Bytes := replicate n 0

@[simp] lemma length_zeroOctets (n : Nat) : (zeroOctets n).length = n := by
  simp [zeroOctets]

/-- The first `n` octets as an array, padded with zeros if there are too few. -/
def firstOctets (n : Nat) (bs : Bytes) : Octets n :=
  ⟨((bs ++ zeroOctets n).take n).toArray, by simp⟩

@[simp] lemma firstOctets_toList (n : Nat) (v : Octets n) (rest : Bytes) :
    firstOctets n (v.toList ++ rest) = v := by
  apply Vector.toList_inj.mp
  simp [firstOctets]

/-! ## Integers -/

/-- The `width` low octets of `value`, least significant first. -/
def leBytes : Nat → Nat → Bytes
  | 0, _ => []
  | width + 1, value => UInt8.ofNat (value % 256) :: leBytes width (value / 256)

/-- The integer a little-endian byte string stands for. -/
def ofLeBytes : Bytes → Nat
  | [] => 0
  | b :: bs => b.toNat + 256 * ofLeBytes bs

/-- The `width` low octets of `value`, most significant first. -/
def beBytes (width value : Nat) : Bytes := (leBytes width value).reverse

def ofBeBytes (bs : Bytes) : Nat := ofLeBytes bs.reverse

@[simp] lemma length_leBytes (width value : Nat) : (leBytes width value).length = width := by
  induction width generalizing value with
  | zero => rfl
  | succ width ih => simp [leBytes, ih]

@[simp] lemma length_beBytes (width value : Nat) : (beBytes width value).length = width := by
  simp [beBytes]

lemma ofLeBytes_leBytes_mod : ofLeBytes (leBytes width value) = value % 256 ^ width := by
  induction width generalizing value with
  | zero => simp [leBytes, ofLeBytes, mod_one]
  | succ width ih =>
    have hbyte : (UInt8.ofNat (value % 256)).toNat = value % 256 := by simp
    rw [leBytes, ofLeBytes, ih, hbyte, pow_succ', mod_mul]

lemma ofLeBytes_leBytes (h : value < 256 ^ width) : ofLeBytes (leBytes width value) = value := by
  rw [ofLeBytes_leBytes_mod, mod_eq_of_lt h]

lemma ofBeBytes_beBytes_mod (width value : Nat) :
    ofBeBytes (beBytes width value) = value % 256 ^ width := by
  rw [ofBeBytes, beBytes, reverse_reverse, ofLeBytes_leBytes_mod]

lemma ofBeBytes_beBytes (h : value < 256 ^ width) : ofBeBytes (beBytes width value) = value := by
  rw [ofBeBytes_beBytes_mod, mod_eq_of_lt h]

lemma ofLeBytes_lt (bs : Bytes) : ofLeBytes bs < 256 ^ bs.length := by
  induction bs with
  | nil => exact Nat.one_pos
  | cons b bs ih =>
    have hb := b.toNat_lt
    rw [ofLeBytes, length_cons]
    omega

lemma ofBeBytes_lt (bs : Bytes) : ofBeBytes bs < 256 ^ bs.length := by
  have hlt := ofLeBytes_lt bs.reverse
  rwa [length_reverse] at hlt

lemma leBytes_succ :
    leBytes (width + 1) value =
      leBytes width value ++ [UInt8.ofNat (value / 256 ^ width % 256)] := by
  induction width generalizing value with
  | zero => simp [leBytes]
  | succ width ih =>
    rw [leBytes, ih, Nat.div_div_eq_div_mul, ← pow_succ']
    rfl

lemma beBytes_succ (width value : Nat) :
    beBytes (width + 1) value = UInt8.ofNat (value / 256 ^ width % 256) :: beBytes width value := by
  rw [beBytes, leBytes_succ, reverse_append]
  rfl

lemma foldl_octets (start : Nat) (bs : Bytes) :
    bs.foldl (fun value b => value * 256 + b.toNat) start =
      start * 256 ^ bs.length + ofBeBytes bs := by
  induction bs using reverseRecOn with
  | nil => simp [ofBeBytes, ofLeBytes]
  | append_singleton bs b ih =>
    have hlast : ofBeBytes (bs ++ [b]) = b.toNat + 256 * ofBeBytes bs := by
      rw [ofBeBytes, reverse_append]
      rfl
    rw [foldl_append, ih, length_append, length_singleton, pow_succ]
    simp only [foldl_cons, foldl_nil]
    rw [add_mul, mul_assoc]
    omega

def u64le (x : UInt64) : Bytes := leBytes 8 x.toNat

def ofU64le (bs : Bytes) : UInt64 := UInt64.ofNat (ofLeBytes bs)

@[simp] lemma length_u64le : (u64le x).length = 8 := by
  simp [u64le]

@[simp] lemma ofU64le_u64le (x : UInt64) : ofU64le (u64le x) = x := by
  have h : x.toNat < 256 ^ 8 := x.toNat_lt
  simp [ofU64le, u64le, ofLeBytes_leBytes h]

lemma u64le_injective : Function.Injective u64le := Function.LeftInverse.injective ofU64le_u64le

/-! ## Text -/

def utf8 (s : String) : Bytes := s.toUTF8.data.toList

def ofUtf8 (bs : Bytes) : Option String := String.fromUTF8? ⟨bs.toArray⟩

@[simp] lemma ofUtf8_utf8 (s : String) : ofUtf8 (utf8 s) = some s := by
  have hvalid : s.toByteArray.IsValidUTF8 := s.isValidUTF8
  simp only [ofUtf8, utf8, Array.toArray_toList, String.toUTF8_eq_toByteArray]
  rw [String.fromUTF8?, dif_pos hvalid]
  rfl

lemma utf8_of_ofUtf8 (h : ofUtf8 bs = some s) : utf8 s = bs := by
  rw [ofUtf8, String.fromUTF8?] at h
  split_ifs at h with hvalid
  rw [← Option.some.inj h]
  rfl

lemma utf8_injective : Function.Injective utf8 := by
  intro s t h
  have hsome : some s = some t := by rw [← ofUtf8_utf8 s, h, ofUtf8_utf8]
  exact Option.some.inj hsome

lemma utf8_ofList (cs : List Char) :
    utf8 (String.ofList cs) = cs.flatMap String.utf8EncodeChar := by
  simp [utf8, utf8Encode]

/-! ## ASCII -/

def isAsciiAlphabetic (b : UInt8) : Bool := (65 ≤ b && b ≤ 90) || (97 ≤ b && b ≤ 122)

def isAsciiAlphanumeric (b : UInt8) : Bool := isAsciiAlphabetic b || (48 ≤ b && b ≤ 57)

def splitDots (key : String) : List String :=
  (key.toList.splitOn '.').map String.ofList

end MeshBus.Lib
