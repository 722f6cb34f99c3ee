import Mathlib.Algebra.Ring.Nat
import Mathlib.Tactic.Tauto

/-!
# Text

Strings as lists of characters, with the operations of `str` that parsers use: cutting at a
character or at a line end, trimming, comparing without regard to ASCII case, and reading a
number.
-/

namespace MeshBus.Lib.Text

open List Option UInt32

/-! ## Cutting at a character -/

def splitOnce (c : Char) : List Char → Option (List Char × List Char)
  | [] => none
  | x :: xs =>
    if x = c then some ([], xs) else (splitOnce c xs).map fun parts => (x :: parts.1, parts.2)

def rsplitOnce (c : Char) (cs : List Char) : Option (List Char × List Char) :=
  (splitOnce c cs.reverse).map fun parts => (parts.2.reverse, parts.1.reverse)

def stripStart (start cs : List Char) : Option (List Char) :=
  if start.isPrefixOf cs then some (cs.drop start.length) else none

section

lemma splitOnce_append (hc : c ∉ a) (b : List Char) : splitOnce c (a ++ c :: b) = some (a, b) := by
  induction a with
  | nil => exact if_pos rfl
  | cons x xs ih =>
    obtain ⟨hx, hxs⟩ := ne_and_not_mem_of_not_mem_cons hc
    rw [cons_append, splitOnce, if_neg (Ne.symm hx), ih hxs]
    rfl

lemma splitOnce_eq_some (h : splitOnce c cs = some (a, b)) : cs = a ++ c :: b ∧ c ∉ a := by
  induction cs generalizing a with
  | nil => cases h
  | cons x xs ih =>
    rw [splitOnce] at h
    split at h
    · next hx =>
        cases h
        exact ⟨by rw [hx, nil_append], not_mem_nil⟩
    · next hx =>
        obtain ⟨parts, hparts, hab⟩ := map_eq_some_iff.mp h
        cases hab
        obtain ⟨hxs, hc⟩ := ih hparts
        refine ⟨by rw [hxs, cons_append], fun hmem => ?_⟩
        rcases mem_cons.mp hmem with rfl | hrest
        · exact hx rfl
        · exact hc hrest

lemma splitOnce_eq_none : splitOnce c cs = none ↔ c ∉ cs := by
  induction cs with
  | nil => exact ⟨fun _ => not_mem_nil, fun _ => rfl⟩
  | cons x xs ih =>
    rw [splitOnce, mem_cons, not_or]
    split
    · next hx => exact ⟨by rintro ⟨⟩, fun h => absurd hx.symm h.1⟩
    · next hx => rw [map_eq_none_iff, ih, and_iff_right (Ne.symm hx)]

lemma rsplitOnce_append (hc : c ∉ b) (a : List Char) :
    rsplitOnce c (a ++ c :: b) = some (a, b) := by
  have hrev : (a ++ c :: b).reverse = b.reverse ++ c :: a.reverse := by simp
  rw [rsplitOnce, hrev, splitOnce_append (by simpa using hc)]
  simp

lemma rsplitOnce_eq_none : rsplitOnce c cs = none ↔ c ∉ cs := by
  rw [rsplitOnce, map_eq_none_iff, splitOnce_eq_none, mem_reverse]

lemma stripStart_eq_some (h : stripStart start cs = some rest) : cs = start ++ rest := by
  rw [stripStart] at h
  split at h
  · next hstart =>
      obtain ⟨tail, rfl⟩ := isPrefixOf_iff_prefix.mp hstart
      rw [← Option.some.inj h, drop_left]
  · cases h

end

lemma mem_intersperse {a sep : α} {as : List α} (h : a ∈ as) : a ∈ as.intersperse sep := by
  induction as with
  | nil => exact h
  | cons x xs ih =>
    cases xs with
    | nil => exact h
    | cons y ys =>
      rcases mem_cons.mp h with rfl | hrest
      · exact mem_cons_self
      · exact mem_cons_of_mem _ (mem_cons_of_mem _ (ih hrest))

lemma infix_of_mem_splitOn {c : Char} (h : piece ∈ cs.splitOn c) : piece <:+: cs := by
  have hin : piece <:+: [c].intercalate (cs.splitOn c) := infix_of_mem_flatten (mem_intersperse h)
  rwa [intercalate_splitOn] at hin

/-! ## Line ends -/

def crlf : List Char := ['\r', '\n']

def splitCrlf : List Char → List (List Char)
  | [] => [[]]
  | '\r' :: '\n' :: rest => [] :: splitCrlf rest
  | c :: rest =>
    match splitCrlf rest with
    | [] => [[c]]
    | line :: lines => (c :: line) :: lines

def Clean (cs : List Char) : Prop := '\r' ∉ cs ∧ '\n' ∉ cs

instance (cs : List Char) : Decidable (Clean cs) := inferInstanceAs (Decidable (_ ∧ _))

/-- Carriage returns and line feeds occur only as line ends; the flag is for a text that
follows a carriage return. -/
def crlfFrom : Bool → List Char → Bool
  | afterCr, [] => !afterCr
  | true, c :: cs => c == '\n' && crlfFrom false cs
  | false, c :: cs => if c = '\r' then crlfFrom true cs else c != '\n' && crlfFrom false cs

def crlfOnly (cs : List Char) : Bool := crlfFrom false cs

lemma clean_append : Clean (a ++ b) ↔ Clean a ∧ Clean b := by
  simp only [Clean, mem_append, not_or]
  tauto

lemma clean_cons : Clean (c :: b) ↔ (c ≠ '\r' ∧ c ≠ '\n') ∧ Clean b := by
  simp only [Clean, mem_cons, not_or, ne_eq, @eq_comm _ c]
  tauto

lemma crlfFrom_append_cons (hr : c ≠ '\r') (hn : c ≠ '\n') (s : Bool)
    (a b : List Char) : crlfFrom s (a ++ c :: b) = (crlfFrom s a && crlfFrom false b) := by
  induction a generalizing s with
  | nil =>
    cases s with
    | false => simp [crlfFrom, hr, hn]
    | true => simp [crlfFrom, hn]
  | cons x xs ih =>
    cases s with
    | false =>
      rw [cons_append, crlfFrom, crlfFrom, ih, ih]
      split
      · rfl
      · rw [Bool.and_assoc]
    | true => rw [cons_append, crlfFrom, crlfFrom, ih, Bool.and_assoc]

lemma crlfFrom_append_crlf (s : Bool) (a b : List Char) :
    crlfFrom s (a ++ (crlf ++ b)) = (crlfFrom s a && crlfFrom false b) := by
  induction a generalizing s with
  | nil =>
    cases s with
    | _ => simp [crlfFrom, crlf]
  | cons x xs ih =>
    cases s with
    | false =>
      rw [cons_append, crlfFrom, crlfFrom, ih, ih]
      split
      · rfl
      · rw [Bool.and_assoc]
    | true => rw [cons_append, crlfFrom, crlfFrom, ih, Bool.and_assoc]

lemma crlfOnly_of_clean (h : Clean cs) : crlfOnly cs = true := by
  induction cs with
  | nil => rfl
  | cons c cs ih =>
    obtain ⟨⟨hr, hn⟩, hcs⟩ := clean_cons.mp h
    rw [crlfOnly, crlfFrom, if_neg hr, bne_iff_ne.mpr hn]
    exact ih hcs

lemma clean_of_crlfOnly (hno : ¬ crlf <:+: cs) (h : crlfOnly cs = true) : Clean cs := by
  induction cs with
  | nil => exact ⟨not_mem_nil, not_mem_nil⟩
  | cons c cs ih =>
    rw [crlfOnly, crlfFrom] at h
    split at h
    · next hr =>
        -- a carriage return that is all right is followed by a line feed
        cases cs with
        | nil => cases h
        | cons c' cs =>
          obtain ⟨hn, -⟩ := Bool.and_eq_true_iff.mp h
          refine absurd ⟨[], cs, ?_⟩ hno
          rw [hr, eq_of_beq hn]
          rfl
    · next hr =>
        obtain ⟨hn, hcs⟩ := Bool.and_eq_true_iff.mp h
        exact clean_cons.mpr ⟨⟨hr, bne_iff_ne.mp hn⟩,
          ih (fun hin => hno (hin.trans (suffix_cons c cs).isInfix)) hcs⟩

lemma head_splitCrlf {cs first : List Char} {lines : List (List Char)}
    (h : splitCrlf cs = first :: lines) : first <+: cs := by
  revert first lines
  fun_induction splitCrlf cs with
  | case1 =>
    intro first lines h
    exact ⟨[], by rw [← (cons.inj h).1, append_nil]⟩
  | case2 rest ih =>
    intro first lines h
    exact ⟨_, by rw [← (cons.inj h).1, nil_append]⟩
  | case3 c rest hne hnil ih =>
    intro first lines h
    exact ⟨rest, by rw [← (cons.inj h).1, singleton_append]⟩
  | case4 c rest hne first lines hcons ih =>
    intro first' lines' h
    obtain ⟨tail, htail⟩ := ih hcons
    exact ⟨tail, by rw [← (cons.inj h).1, cons_append, htail]⟩

lemma not_crlf_of_mem_splitCrlf (h : line ∈ splitCrlf cs) : ¬ crlf <:+: line := by
  revert line
  fun_induction splitCrlf cs with
  | case1 =>
    intro line h
    rw [mem_singleton.mp h]
    decide
  | case2 rest ih =>
    intro line h
    rcases mem_cons.mp h with rfl | hrest
    · decide
    · exact ih hrest
  | case3 c rest hne hnil ih =>
    intro line h
    rw [mem_singleton.mp h]
    rintro ⟨a, b, hab⟩
    have hlen := congrArg length hab
    simp [crlf] at hlen
    omega
  | case4 c rest hne first lines hcons ih =>
    intro line h
    rcases mem_cons.mp h with rfl | hrest
    · rintro ⟨a, b, hab⟩
      cases a with
      | nil =>
        -- the line feed would stand at the beginning of the rest
        obtain ⟨rfl, hfirst⟩ := cons.inj hab
        obtain ⟨tail, htail⟩ := head_splitCrlf hcons
        exact hne (b ++ tail) rfl (by rw [← htail, ← hfirst]; rfl)
      | cons x a =>
        obtain ⟨-, hfirst⟩ := cons.inj hab
        exact ih (hcons ▸ mem_cons_self) ⟨a, b, hfirst⟩
    · exact ih (hcons ▸ mem_cons_of_mem _ hrest)

/-! ## Lines -/

/-- `str::lines`: a line feed ends a line, together with a carriage return before it; after the
last one there is no empty line. -/
def lines (cs : List Char) : List (List Char) :=
  let pieces := cs.splitOn '\n'
  let last := pieces.getLastD []
  (pieces.dropLast.map fun line => if line.getLast? = some '\r' then line.dropLast else line) ++
    (if last = [] then [] else [last])

example : lines "a\r\n\nb\r".toList = ["a".toList, [], "b\r".toList] := by decide +kernel

/-! ## Trimming and comparing -/

/-- `char::is_whitespace`: the characters with the property White_Space. -/
def isWhitespace (c : Char) : Bool :=
  ('\t' ≤ c && c ≤ '\r') || c = ' ' || c = '\u0085' || c = '\u00a0' || c = '\u1680' ||
    ('\u2000' ≤ c && c ≤ '\u200a') || c = '\u2028' || c = '\u2029' || c = '\u202f' ||
    c = '\u205f' || c = '\u3000'

def trim (cs : List Char) : List Char :=
  (((cs.dropWhile isWhitespace).reverse).dropWhile isWhitespace).reverse

lemma trim_infix (cs : List Char) : trim cs <:+: cs := by
  refine List.IsInfix.trans ?_ (dropWhile_suffix isWhitespace).isInfix
  refine (List.IsPrefix.isInfix ?_)
  rw [trim, ← reverse_suffix, reverse_reverse]
  exact dropWhile_suffix isWhitespace

lemma toLower_eq_iff (hd : d.val.toNat < 65) (c : Char) : c.toLower = d ↔ c = d := by
  by_cases h : c.val ≥ 'A'.val ∧ c.val ≤ 'Z'.val
  · have hlow : 65 ≤ c.val.toNat := le_iff_toNat_le.mp h.1
    have hhigh : c.val.toNat ≤ 90 := le_iff_toNat_le.mp h.2
    have hval : c.toLower.val.toNat = (c.val.toNat + 32) % 2 ^ 32 := by
      delta Char.toLower
      rw [dif_pos h]
      exact UInt32.toNat_add _ _
    constructor
    · rintro rfl
      omega
    · rintro rfl
      omega
  · have hsame : c.toLower = c := dif_neg h
    rw [hsame]

lemma toLower_eq_dot (c : Char) : c.toLower = '.' ↔ c = '.' := toLower_eq_iff (by decide) c

lemma toLower_toLower (c : Char) : c.toLower.toLower = c.toLower := by
  by_cases h : c.val ≥ 'A'.val ∧ c.val ≤ 'Z'.val
  · have hlow : 65 ≤ c.val.toNat := le_iff_toNat_le.mp h.1
    have hval : c.toLower.val.toNat = (c.val.toNat + 32) % 2 ^ 32 := by
      delta Char.toLower
      rw [dif_pos h]
      exact UInt32.toNat_add _ _
    have hhigh : c.val.toNat ≤ 90 := le_iff_toNat_le.mp h.2
    refine dif_neg ?_
    rintro ⟨-, hle⟩
    have hle : c.toLower.val.toNat ≤ 90 := le_iff_toNat_le.mp hle
    omega
  · have hsame : c.toLower = c := dif_neg h
    rw [hsame, hsame]

def eqIgnoreAsciiCase (a b : List Char) : Bool := a.map Char.toLower == b.map Char.toLower

/-! ## Numbers -/

inductive IntErrorKind where
  | empty | invalidDigit | posOverflow
deriving DecidableEq, Repr

def readDigits (limit : Nat) : Nat → List Char → Except IntErrorKind Nat
  | value, [] => .ok value
  | value, c :: cs =>
    if c.isDigit then
      let next := 10 * value + (c.toNat - 48)
      if limit < next then .error .posOverflow else readDigits limit next cs
    else .error .invalidDigit

/-- `str::parse` for an unsigned integer type. -/
def parseUnsigned (limit : Nat) : List Char → Except IntErrorKind Nat
  | [] => .error .empty
  | ['+'] | ['-'] => .error .invalidDigit
  | '+' :: digits => readDigits limit 0 digits
  | digits => readDigits limit 0 digits

def parseU16 (cs : List Char) : Except IntErrorKind UInt16 :=
  (parseUnsigned 65535 cs).map UInt16.ofNat

example : parseU16 "+080".toList = .ok 80 := by decide +kernel

/-! ## Pieces with a separator behind them -/

section
variable {α : Type} {sep : α}

def terminated (sep : α) (pieces : List (List α)) : List α := pieces.flatMap (· ++ [sep])

lemma terminated_cons (piece : List α) (pieces : List (List α)) :
    terminated sep (piece :: pieces) = piece ++ sep :: terminated sep pieces := by
  simp [terminated]

lemma terminated_append :
    terminated sep (pieces ++ pieces') = terminated sep pieces ++ terminated sep pieces' :=
  flatMap_append

variable [DecidableEq α]

lemma splitOn_terminated (pieces : List (List α)) :
    (terminated sep pieces).splitOn sep = pieces.flatMap (·.splitOn sep) ++ [[]] := by
  induction pieces with
  | nil => exact splitOn_nil sep
  | cons piece pieces ih =>
    rw [terminated_cons, splitOn_append_cons_self, ih, flatMap_cons, append_assoc]

lemma terminated_splitOn : terminated sep (piece.splitOn sep) = piece ++ [sep] := by
  have hsplit := splitOn_ne_nil sep piece
  suffices h : ∀ pieces : List (List α), pieces ≠ [] →
      terminated sep pieces = [sep].intercalate pieces ++ [sep] by
    rw [h _ hsplit, intercalate_splitOn]
  intro pieces
  induction pieces with
  | nil => exact fun h => absurd rfl h
  | cons first rest ih =>
    intro _
    cases rest with
    | nil => simp [terminated]
    | cons second rest =>
      rw [terminated_cons, ih (cons_ne_nil _ _)]
      simp

lemma terminated_flatMap_splitOn (pieces : List (List α)) :
    terminated sep (pieces.flatMap (·.splitOn sep)) = terminated sep pieces := by
  induction pieces with
  | nil => rfl
  | cons piece pieces ih =>
    rw [flatMap_cons, terminated_append, ih, terminated_splitOn, terminated_cons, append_assoc]
    rfl

lemma length_terminated_filter (pieces : List (List α)) :
    (terminated sep (pieces.filter (!·.isEmpty))).length + pieces.count [] =
      (terminated sep pieces).length := by
  induction pieces with
  | nil => rfl
  | cons piece pieces ih =>
    cases piece with
    | nil =>
      simp only [filter_cons, isEmpty_nil, Bool.not_true, Bool.false_eq_true,
        if_false, terminated_cons, nil_append, length_cons, count_cons_self]
      omega
    | cons x xs =>
      simp only [filter_cons, isEmpty_cons, Bool.not_false, if_true,
        terminated_cons, length_append, length_cons]
      rw [count_cons_of_ne (cons_ne_nil _ _)]
      omega

lemma terminated_filter_eq_iff (pieces : List (List α)) :
    terminated sep (pieces.filter (!·.isEmpty)) = terminated sep pieces ↔ [] ∉ pieces := by
  constructor
  · intro heq hmem
    have hpos : 0 < pieces.count [] := count_pos_iff.mpr hmem
    have hlen := @length_terminated_filter _ sep _ pieces
    rw [heq] at hlen
    omega
  · intro hnot
    rw [filter_eq_self.mpr]
    intro piece hpiece
    cases piece with
    | nil => exact absurd hpiece hnot
    | cons x xs => rfl

lemma not_mem_of_mem_splitOn {l piece : List α} (h : piece ∈ l.splitOn sep) : sep ∉ piece := by
  induction l generalizing piece with
  | nil =>
    rw [splitOn_nil, mem_singleton] at h
    rw [h]
    exact not_mem_nil
  | cons x l ih =>
    rw [splitOn_cons_eq_if_modifyHead] at h
    split_ifs at h with hx
    · rcases mem_cons.mp h with rfl | h
      · exact not_mem_nil
      · exact ih h
    · cases hsplit : l.splitOn sep with
      | nil => exact absurd hsplit (splitOn_ne_nil sep l)
      | cons first rest =>
        rw [hsplit] at h ih
        rcases mem_cons.mp h with rfl | h
        · rw [mem_cons, not_or]
          exact ⟨fun heq => hx (beq_iff_eq.mpr heq.symm), ih mem_cons_self⟩
        · exact ih (mem_cons_of_mem _ h)

lemma splitOn_map [DecidableEq β] {f : α → β} {sep' : β} {l : List α}
    (h : ∀ x ∈ l, f x = sep' ↔ x = sep) : (l.map f).splitOn sep' = (l.splitOn sep).map (map f) := by
  induction l with
  | nil => rfl
  | cons x l ih =>
    obtain ⟨hx, hrest⟩ := forall_mem_cons.mp h
    rw [map_cons, splitOn_cons_eq_if_modifyHead, splitOn_cons_eq_if_modifyHead, ih hrest]
    by_cases hsep : x = sep
    · rw [if_pos (beq_iff_eq.mpr (hx.mpr hsep)), if_pos (beq_iff_eq.mpr hsep)]
      rfl
    · rw [if_neg (fun hb => hsep (hx.mp (beq_iff_eq.mp hb))),
        if_neg (fun hb => hsep (beq_iff_eq.mp hb))]
      cases hsplit : l.splitOn sep with
      | _ => rfl

end
end MeshBus.Lib.Text
