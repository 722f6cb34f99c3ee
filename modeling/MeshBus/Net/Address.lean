import MeshBus.Lib.Bytes
import MeshBus.Lib.Text
import MeshBus.Rule.Chain

/-!
# Addresses

Addresses in text form, as the `Display` and `FromStr` implementations of the standard
library give them, and the addresses of sockets.
-/

namespace MeshBus.Net

open Lib List Char BitVec Nat
open Rule (IpAddr toAsciiLowercase)

/-- Writing and parsing addresses.  An address that was written is parsed back. -/
structure IpText where
  display : IpAddr → String
  parse : String → Option IpAddr
  parse_display : ∀ ip, parse (display ip) = some ip

structure SocketAddr where
  ip : IpAddr
  port : UInt16
deriving DecidableEq, Repr

def SocketAddr.display (text : IpText) (addr : SocketAddr) : String :=
  let port := toString addr.port.toNat
  match addr.ip with
  | .v4 bits => text.display (.v4 bits) ++ ":" ++ port
  | .v6 bits => "[" ++ text.display (.v6 bits) ++ "]:" ++ port

def isUnspecified : IpAddr → Bool
  | .v4 bits => bits == 0
  | .v6 bits => bits == 0

def octets : IpAddr → Bytes
  | .v4 bits => beBytes 4 bits.toNat
  | .v6 bits => beBytes 16 bits.toNat

def ipv4 (bs : Bytes) : IpAddr := .v4 (BitVec.ofNat 32 (ofBeBytes bs))

def ipv6 (bs : Bytes) : IpAddr := .v6 (BitVec.ofNat 128 (ofBeBytes bs))

lemma ipv4_octets (bits : BitVec 32) : ipv4 (octets (.v4 bits)) = .v4 bits := by
  rw [ipv4, octets, ofBeBytes_beBytes bits.isLt, BitVec.ofNat_toNat, setWidth_eq]

lemma ipv6_octets (bits : BitVec 128) : ipv6 (octets (.v6 bits)) = .v6 bits := by
  rw [ipv6, octets, ofBeBytes_beBytes bits.isLt, BitVec.ofNat_toNat, setWidth_eq]

/-! ## A text form

Every octet in decimal, with dots between those of a version 4 address and colons between
those of a version 6 address. -/

namespace Decimal

def showOctet (b : UInt8) : List Char := toDigits 10 b.toNat

def readOctet (cs : List Char) : Option UInt8 :=
  if cs.all isDigit then
    some (UInt8.ofNat (cs.foldl (fun n c => 10 * n + (c.toNat - 48)) 0))
  else none

def showOctets (sep : Char) (bs : Bytes) : List Char :=
  [sep].intercalate (bs.map showOctet)

def readOctets (sep : Char) (cs : List Char) : Option Bytes := (cs.splitOn sep).mapM readOctet

def display : IpAddr → String
  | .v4 bits => String.ofList (showOctets '.' (octets (.v4 bits)))
  | .v6 bits => String.ofList (showOctets ':' (octets (.v6 bits)))

def parse (text : String) : Option IpAddr :=
  if ':' ∈ text.toList then
    (readOctets ':' text.toList).bind fun bs =>
      if bs.length = 16 then some (ipv6 bs) else none
  else
    (readOctets '.' text.toList).bind fun bs =>
      if bs.length = 4 then some (ipv4 bs) else none

lemma showOctet_spec :
    (showOctet b).all isDigit = true ∧
      (showOctet b).foldl (fun n c => 10 * n + (c.toNat - 48)) 0 = b.toNat := by
  have hall : ∀ n : Fin 256, (toDigits 10 n).all isDigit = true ∧
      (toDigits 10 n).foldl (fun n c => 10 * n + (c.toNat - 48)) 0 = n.val := by
    decide +kernel
  exact hall ⟨b.toNat, b.toNat_lt⟩

lemma readOctet_showOctet (b : UInt8) : readOctet (showOctet b) = some b := by
  obtain ⟨hdigits, hvalue⟩ := showOctet_spec
  rw [readOctet, if_pos hdigits, hvalue, UInt8.ofNat_toNat]

lemma not_mem_showOctet (hc : c.isDigit = false) : c ∉ showOctet b := by
  intro hmem
  rw [all_eq_true.mp showOctet_spec.1 c hmem] at hc
  cases hc

lemma readOctets_showOctets {sep : Char} (hsep : sep.isDigit = false) {bs : Bytes}
    (hne : bs ≠ []) : readOctets sep (showOctets sep bs) = some bs := by
  have hsplit : (showOctets sep bs).splitOn sep = bs.map showOctet := by
    apply splitOn_intercalate
    · intro cs hcs
      obtain ⟨b, -, rfl⟩ := mem_map.mp hcs
      exact not_mem_showOctet hsep
    · exact fun hmap => hne (map_eq_nil_iff.mp hmap)
  have hread : readOctet ∘ showOctet = (pure : UInt8 → Option UInt8) := funext readOctet_showOctet
  rw [readOctets, hsplit, mapM_map, hread]
  simpa using @List.mapM_pure Option UInt8 UInt8 _ _ bs id

lemma showOctets_cons_cons (sep : Char) (b b' : UInt8) (bs : Bytes) :
    showOctets sep (b :: b' :: bs) = showOctet b ++ sep :: showOctets sep (b' :: bs) := by
  simp [showOctets, intercalate]

lemma not_mem_showOctets {sep c : Char} (hc : c.isDigit = false) (hne : c ≠ sep) (bs : Bytes) :
    c ∉ showOctets sep bs := by
  induction bs with
  | nil => exact not_mem_nil
  | cons b bs ih =>
    cases bs with
    | nil => simpa [showOctets, intercalate] using not_mem_showOctet hc
    | cons b' bs =>
      rw [showOctets_cons_cons, mem_append, mem_cons]
      rintro (hb | rfl | hrest)
      · exact not_mem_showOctet hc hb
      · exact hne rfl
      · exact ih hrest

lemma length_showOctet (b : UInt8) : 0 < (showOctet b).length ∧ (showOctet b).length ≤ 3 := by
  have hall : ∀ n : Fin 256, 0 < (toDigits 10 n).length ∧ (toDigits 10 n).length ≤ 3 := by
    decide +kernel
  exact hall ⟨b.toNat, b.toNat_lt⟩

lemma length_showOctets (sep : Char) (b : UInt8) {bs : Bytes} :
    0 < (showOctets sep (b :: bs)).length ∧
      (showOctets sep (b :: bs)).length ≤ 4 * bs.length + 3 := by
  induction bs generalizing b with
  | nil => simpa [showOctets, intercalate] using length_showOctet b
  | cons b' bs ih =>
    have hfirst := length_showOctet b
    have hrest := ih b'
    rw [showOctets_cons_cons, length_append, length_cons, length_cons]
    omega

lemma sized_showOctets (sep : Char) (hne : bs ≠ []) (hlen : bs.length ≤ 16) :
    String.ofList (showOctets sep bs) ≠ "" ∧
      (utf8 (String.ofList (showOctets sep bs))).length ≤ 255 := by
  obtain ⟨b, rest, rfl⟩ := exists_cons_of_ne_nil hne
  obtain ⟨hpos, hle⟩ := length_showOctets sep b
  rw [length_cons] at hlen
  refine ⟨fun hempty => ?_, ?_⟩
  · have hnil : showOctets sep (b :: rest) = [] := by simpa using congrArg String.toList hempty
    rw [hnil] at hpos
    exact absurd hpos (lt_irrefl 0)
  · have hchars : ∀ cs : List Char, (cs.flatMap String.utf8EncodeChar).length ≤ 4 * cs.length := by
      intro cs
      induction cs with
      | nil => exact le_refl 0
      | cons c cs ih =>
        have hchar : (String.utf8EncodeChar c).length ≤ 4 := by
          rw [String.length_utf8EncodeChar]
          exact c.utf8Size_le_four
        rw [flatMap_cons, length_append, length_cons]
        omega
    rw [utf8_ofList]
    have hbound := hchars (showOctets sep (b :: rest))
    omega

lemma parse_display (ip : IpAddr) : parse (display ip) = some ip := by
  cases ip with
  | v4 bits =>
    have hlen : (octets (.v4 bits)).length = 4 := length_beBytes 4 _
    have hread := @readOctets_showOctets '.' (by decide) _
      (ne_nil_of_length_eq_add_one hlen)
    have hcolon := @not_mem_showOctets '.' ':' (by decide) (by decide) (octets (.v4 bits))
    simp only [parse, display, String.toList_ofList, if_neg hcolon, hread, Option.bind_some,
      hlen, if_true, ipv4_octets]
  | v6 bits =>
    have hlen : (octets (.v6 bits)).length = 16 := length_beBytes 16 _
    have hread := @readOctets_showOctets ':' (by decide) _
      (ne_nil_of_length_eq_add_one hlen)
    have hcolon : ':' ∈ showOctets ':' (octets (.v6 bits)) := by
      obtain ⟨b, rest, hbs⟩ := exists_cons_of_length_eq_add_one hlen
      rw [hbs] at hlen
      obtain ⟨b', bs, rfl⟩ := exists_cons_of_length_eq_add_one (succ.inj hlen)
      exact mem_append_right _ mem_cons_self
    simp only [parse, display, String.toList_ofList, if_pos hcolon, hread, Option.bind_some,
      hlen, if_true, ipv6_octets]

lemma toLower_of_isDigit {c d : Char} (hd : d.isDigit = true) : c.toLower = d ↔ c = d := by
  refine Text.toLower_eq_iff ?_ c
  have hle : d.val ≤ 57 := of_decide_eq_true (Bool.and_eq_true_iff.mp hd).2
  have hle : d.val.toNat ≤ 57 := UInt32.le_iff_toNat_le.mp hle
  omega

lemma readOctet_map_toLower (cs : List Char) : readOctet (cs.map toLower) = readOctet cs := by
  have hdigit : isDigit ∘ toLower = isDigit := by
    funext c
    rw [Function.comp_apply, Bool.eq_iff_iff]
    constructor
    · intro h
      rwa [← (toLower_of_isDigit h).mp rfl] at h
    · intro h
      rwa [(toLower_of_isDigit h).mpr rfl]
  rw [readOctet, readOctet, all_map, hdigit]
  split_ifs with hall
  · have hsame : cs.map toLower = cs :=
      (map_congr_left fun c hc =>
        (toLower_of_isDigit (all_eq_true.mp hall c hc)).mpr rfl).trans (map_id _)
    rw [hsame]
  · rfl

lemma readOctets_map_toLower (hsep : sep.val.toNat < 65) (cs : List Char) :
    readOctets sep (cs.map toLower) = readOctets sep cs := by
  rw [readOctets, readOctets, Text.splitOn_map fun c _ => Text.toLower_eq_iff hsep c, mapM_map]
  exact congrArg (fun f => (cs.splitOn sep).mapM f) (funext readOctet_map_toLower)

lemma parse_toAsciiLowercase {text : String} : parse (toAsciiLowercase text) = parse text := by
  have hcolon : ':' ∈ text.toList.map toLower ↔ ':' ∈ text.toList := by
    rw [mem_map]
    constructor
    · rintro ⟨c, hc, heq⟩
      rwa [(Text.toLower_eq_iff (by decide) c).mp heq] at hc
    · intro h
      exact ⟨':', h, by decide⟩
  rw [parse, parse, toAsciiLowercase, String.toList_ofList, readOctets_map_toLower (by decide),
    readOctets_map_toLower (by decide)]
  by_cases h : ':' ∈ text.toList
  · rw [if_pos h, if_pos (hcolon.mpr h)]
  · rw [if_neg h, if_neg fun hl => h (hcolon.mp hl)]

end Decimal

open Decimal

def decimalText : IpText where
  display := display
  parse := parse
  parse_display := parse_display

lemma decimalText_parse_congr (a b : String) (h : toAsciiLowercase a = toAsciiLowercase b) :
    decimalText.parse a = decimalText.parse b :=
  calc parse a = parse (toAsciiLowercase a) :=
        parse_toAsciiLowercase.symm
    _ = parse (toAsciiLowercase b) := by rw [h]
    _ = parse b := parse_toAsciiLowercase

def IpText.Sized (text : IpText) : Prop :=
  ∀ ip, text.display ip ≠ "" ∧ (utf8 (text.display ip)).length ≤ 255

lemma decimalText_sized : decimalText.Sized := by
  intro ip
  cases ip with
  | v4 bits =>
    have hlen : (octets (.v4 bits)).length = 4 := length_beBytes 4 _
    exact sized_showOctets '.' (ne_nil_of_length_eq_add_one hlen) (by omega)
  | v6 bits =>
    have hlen : (octets (.v6 bits)).length = 16 := length_beBytes 16 _
    exact sized_showOctets ':' (ne_nil_of_length_eq_add_one hlen) (by omega)

example : decimalText.parse "10.0.0.9" = some (ipv4 [10, 0, 0, 9]) := by decide +kernel

end MeshBus.Net
