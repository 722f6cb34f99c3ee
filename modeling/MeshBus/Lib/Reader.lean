import MeshBus.Lib.Bytes

/-!
# Readers

A reader takes a value off the front of a byte string, or fails.  `Parses` says that it
reads a value from some octets whatever follows them, `Ensures` what is true of every
value that it reads, `Steady` that octets which come later make no difference to a value
that was read, `Frames` that in addition no part of the octets is taken for the whole.  All
follow the structure of a reader: one rule for each way of putting readers together.
-/

namespace MeshBus.Lib

open List StateT

/-- Read a value, and leave the octets after it. -/
abbrev Reader (ε α : Type) := StateT Bytes (Except ε) α

namespace Reader
variable {ε α β : Type}

def octet (short : ε) : Reader ε UInt8
  | [] => .error short
  | b :: bs => .ok (b, bs)

def toEnd : Reader ε Bytes := fun bs => .ok (bs, [])

def remaining : Reader ε Nat := fun bs => .ok (bs.length, bs)

def need (short : ε) (n : Nat) : Reader ε Unit := fun bs =>
  if bs.length < n then .error short else .ok ((), bs)

def take (short : ε) (n : Nat) : Reader ε Bytes := fun bs =>
  if bs.length < n then .error short else .ok (bs.take n, bs.drop n)

def check (ok : Bool) (e : ε) : Reader ε Unit := if ok then pure () else throw e

def mapError {ε' : Type} (f : ε → ε') (r : Reader ε α) : Reader ε' α := fun bs =>
  (r.run bs).mapError f

variable {bs : Bytes} {r : Reader ε α}

lemma run_mapError {f : ε → ε'}
    (h : r.run bs = .ok (a, rest)) : (r.mapError f).run bs = .ok (a, rest) := by
  show (r.run bs).mapError f = _
  rw [h]
  rfl

/-- Read from a buffer, which loses the octets of a value that was read and nothing else. -/
def onBuffer (r : Reader ε α) (buf : Bytes) : Except ε α × Bytes :=
  match r.run buf with
  | .ok (a, rest) => (.ok a, rest)
  | .error e => (.error e, buf)

/-! ## What a reader reads -/

/-- The value is read from the octets and leaves what follows them. -/
def Parses (r : Reader ε α) (bs : Bytes) (a : α) : Prop :=
  ∀ tail, r.run (bs ++ tail) = .ok (a, tail)

lemma Parses.pure (a : α) : Parses (Pure.pure a : Reader ε α) [] a := fun _ => rfl

lemma Parses.bind (h : Parses r bs a) (h' : Parses (f a) bs' b) :
    Parses (r >>= f) (bs ++ bs') b := by
  intro tail
  rw [append_assoc, run_bind, h]
  exact h' tail

lemma Parses.last (h : Parses r bs a) (h' : Parses (f a) [] b) : Parses (r >>= f) bs b := by
  rw [← append_nil bs]
  exact h.bind h'

lemma Parses.need {r : Unit → Reader ε α} {short : ε} {n : Nat} {a : α} (hlen : n ≤ bs.length)
    (h : Parses (r ()) bs a) : Parses (need short n >>= r) bs a := by
  intro tail
  have hneed : (Reader.need short n).run (bs ++ tail) = .ok ((), bs ++ tail) :=
    if_neg (by rw [length_append]; omega)
  rw [run_bind, hneed]
  exact h tail

lemma parses_take (short : ε) (bs : Bytes) : Parses (take short bs.length) bs bs := by
  intro tail
  show take short bs.length (bs ++ tail) = _
  unfold take
  rw [if_neg (by rw [length_append]; omega), take_left', drop_left']
  all_goals rfl

lemma parses_check (h : ok = true) (e : ε) : Parses (check ok e) [] () := by
  intro tail
  show (check ok e).run tail = _
  unfold check
  rw [if_pos h]
  rfl

lemma parses_octet (short : ε) (b : UInt8) : Parses (octet short) [b] b := fun _ => rfl

/-! ## Frames -/

/-- The value is read from the octets, and from no strict prefix of them: more are asked for. -/
structure Frames (short : ε) (r : Reader ε α) (bs : Bytes) (a : α) : Prop where
  parses : Parses r bs a
  starves : ∀ p, p <+: bs → p ≠ bs → r.run p = .error short

section

lemma Frames.of_nil (h : Parses r [] a) : Frames short r [] a where
  parses := h
  starves := fun _ hp hne => absurd (prefix_nil.mp hp) hne

lemma Frames.pure (a : α) : Frames short (Pure.pure a : Reader ε α) [] a := .of_nil (.pure a)

lemma frames_check (h : ok = true) (e : ε) : Frames short (check ok e) [] () :=
  .of_nil (parses_check h e)

lemma frames_octet (b : UInt8) : Frames short (octet short) [b] b where
  parses := parses_octet short b
  starves := by
    intro p hp hne
    cases p with
    | nil => rfl
    | cons b' bs =>
      obtain ⟨rfl, hbs⟩ := cons_prefix_cons.mp hp
      exact absurd (by rw [prefix_nil.mp hbs]) hne

lemma frames_take (bs : Bytes) : Frames short (take short bs.length) bs bs where
  parses := parses_take short bs
  starves := by
    intro p hp hne
    have hlt : p.length < bs.length := by
      refine lt_of_le_of_ne hp.length_le fun hlen => hne (hp.eq_of_length hlen)
    exact if_pos hlt

lemma Frames.bind (h : Frames short r bs a) (h' : Frames short (f a) bs' b) :
    Frames short (r >>= f) (bs ++ bs') b where
  parses := h.parses.bind h'.parses
  starves := by
    intro p hp hne
    rw [run_bind]
    obtain ⟨t, ht⟩ := hp
    rcases append_eq_append_iff.mp ht with ⟨middle, hmiddle, -⟩ | ⟨p', rfl, hp'⟩
    · have hfirst : p <+: bs := ⟨middle, hmiddle.symm⟩
      by_cases hwhole : p = bs
      · have hread := h.parses []
        rw [append_nil] at hread
        rw [hwhole, hread]
        refine h'.starves [] (prefix_iff_eq_take.mpr rfl) fun hnil => hne ?_
        rw [hwhole, ← hnil, append_nil]
      · rw [h.starves p hfirst hwhole]
        rfl
    · rw [h.parses p']
      exact h'.starves p' ⟨t, hp'.symm⟩ fun heq => hne (by rw [heq])

lemma Frames.last (h : Frames short r bs a)
    (h' : Frames short (f a) [] b) : Frames short (r >>= f) bs b := by
  rw [← append_nil bs]
  exact h.bind h'

lemma Frames.need {r : Unit → Reader ε α} {n : Nat} {a : α} (hlen : n ≤ bs.length)
    (h : Frames short (r ()) bs a) :
    Frames short (need short n >>= r) bs a where
  parses := h.parses.need hlen
  starves := by
    intro p hp hne
    rw [run_bind]
    by_cases hshort : p.length < n
    · rw [show (Reader.need short n).run p = .error short from if_pos hshort]
      rfl
    · rw [show (Reader.need short n).run p = .ok ((), p) from if_neg hshort]
      exact h.starves p hp hne

lemma Frames.onBuffer (h : Frames short r bs a) (tail : Bytes) :
    r.onBuffer (bs ++ tail) = (.ok a, tail) := by
  rw [Reader.onBuffer, h.parses tail]

lemma Frames.onBuffer_starved (h : Frames short r bs a) (hp : p <+: bs)
    (hne : p ≠ bs) : r.onBuffer p = (.error short, p) := by
  rw [Reader.onBuffer, h.starves p hp hne]

end

/-! ## What is true of a value that was read -/

/-- Every value that is read has the property, and what is left is the end of the string. -/
def Ensures (r : Reader ε α) (P : α → Prop) : Prop :=
  ∀ bs a rest, r.run bs = .ok (a, rest) → P a ∧ rest <:+ bs

lemma Ensures.pure (h : P a) : Ensures (Pure.pure a : Reader ε α) P := by
  intro bs a' rest hread
  cases hread
  exact ⟨h, suffix_refl _⟩

lemma Ensures.throw (e : ε) : Ensures (throw e : Reader ε α) P := by
  intro bs a rest hread
  cases hread

lemma Ensures.bind (h : Ensures r P) (h' : ∀ a, P a → Ensures (f a) Q) : Ensures (r >>= f) Q := by
  intro bs b rest hread
  rw [run_bind] at hread
  cases hfirst : r.run bs with
  | error e =>
    rw [hfirst] at hread
    cases hread
  | ok first =>
    obtain ⟨a, middle⟩ := first
    rw [hfirst] at hread
    obtain ⟨ha, hmiddle⟩ := h bs a middle hfirst
    obtain ⟨hb, hrest⟩ := h' a ha middle b rest hread
    exact ⟨hb, hrest.trans hmiddle⟩

lemma Ensures.ite [Decidable c] (h : c → Ensures r P)
    (h' : ¬c → Ensures r' P) : Ensures (if c then r else r') P := by
  split
  · next hc => exact h hc
  · next hc => exact h' hc

lemma ensures_remaining : Ensures (remaining : Reader ε Nat) (fun _ => True) := by
  intro bs n rest hread
  cases hread
  exact ⟨True.intro, suffix_refl _⟩

/-! ## Octets that come later -/

/-- A value that was read is read again when more octets follow, and they are left. -/
def Steady (r : Reader ε α) : Prop :=
  ∀ bs a rest more, r.run bs = .ok (a, rest) → r.run (bs ++ more) = .ok (a, rest ++ more)

lemma Steady.pure (a : α) : Steady (Pure.pure a : Reader ε α) := by
  intro bs a' rest more hread
  cases hread
  rfl

lemma Steady.throw (e : ε) : Steady (throw e : Reader ε α) := by
  intro bs a rest more hread
  cases hread

lemma Steady.bind (h : Steady r) (h' : ∀ a, Steady (f a)) : Steady (r >>= f) := by
  intro bs b rest more hread
  rw [run_bind] at hread ⊢
  cases hfirst : r.run bs with
  | error e =>
    rw [hfirst] at hread
    cases hread
  | ok first =>
    rw [hfirst] at hread
    rw [h bs first.1 first.2 more hfirst]
    exact h' first.1 first.2 b rest more hread

lemma steady_octet (short : ε) : Steady (octet short) := by
  intro bs b rest more hread
  cases bs with
  | nil => cases hread
  | cons b' bs =>
    cases hread
    rfl

lemma steady_need (short : ε) (n : Nat) : Steady (need short n) := by
  intro bs u rest more hread
  change need short n bs = _ at hread
  show need short n (bs ++ more) = _
  unfold need at hread ⊢
  split at hread
  · cases hread
  · cases hread
    rw [if_neg (by rw [length_append]; omega)]

lemma steady_take (short : ε) (n : Nat) : Steady (take short n) := by
  intro bs taken rest more hread
  change take short n bs = _ at hread
  show take short n (bs ++ more) = _
  unfold take at hread ⊢
  split at hread
  · cases hread
  · next hlong =>
      have hle : n ≤ bs.length := not_lt.mp hlong
      cases hread
      rw [if_neg (by rw [length_append]; omega), take_append_of_le_length hle,
        drop_append_of_le_length hle]

lemma steady_check (ok : Bool) (e : ε) : Steady (check ok e) := by
  unfold check
  split
  · exact Steady.pure ()
  · exact Steady.throw e

end Reader
end MeshBus.Lib
