import MeshBus.Lib.Reader

/-!
# Conversations over a stream of chunks

A connection delivers its octets in chunks that know nothing of the frames in them.  One
side of a conversation keeps what it has read in a buffer, takes frames off it and reads on
when a frame is not complete.  `Follows` compares such a conversation with a reader of all
octets at once: when it comes to an end, it has read what the reader reads, whatever the
chunks were, and chunks that arrive later stay where they are.
-/

namespace MeshBus.Lib

open List Prod Pure

/-- One side of a conversation: the octets that were read and not taken yet, what the next
reads return (after the last of them a read returns nothing, or fails), and the rest of
its state. -/
structure Feed (ω : Type) where
  buf : Bytes
  reads : List Bytes
  out : ω
deriving DecidableEq, Repr

/-- A part of a conversation, which returns a value or ends the conversation. -/
abbrev Talk (ω α : Type) := OptionT (StateM (Feed ω)) α

namespace Feed
variable {ω : Type}

def pending (s : Feed ω) : Bytes := s.buf ++ s.reads.flatten

def extend (later : List Bytes) (s : Feed ω) : Feed ω := { s with reads := s.reads ++ later }

lemma pending_extend (later : List Bytes) (s : Feed ω) :
    (s.extend later).pending = s.pending ++ later.flatten := by
  simp [pending, extend]

end Feed

namespace Talk
variable {ω ε α β : Type}

def on (m : Talk ω α) (s : Feed ω) : Option α × Feed ω := m.run.run s

def stop : Talk ω α := OptionT.mk fun s => (none, s)

/-- Something that concerns the rest of the state only. -/
def perform (f : ω → Option α × ω) : Talk ω α := OptionT.mk fun s =>
  ((f s.out).1, { s with out := (f s.out).2 })

def read : Talk ω Unit := OptionT.mk fun s =>
  match s.reads with
  | [] => (none, s)
  | [] :: reads => (none, { s with reads })
  | (b :: bs) :: reads => (some (), { s with buf := s.buf ++ b :: bs, reads })

/-- Decode from the buffer, and read on while the error says that octets are missing. -/
def awaitFrom (short : ε → Bool) (decode : Reader ε α) (buf : Bytes) (reads : List Bytes) :
    Option (Except ε α) × Bytes × List Bytes :=
  match decode.run buf with
  | .ok (a, rest) => (some (.ok a), rest, reads)
  | .error e =>
    if short e then
      match reads with
      | [] => (none, buf, [])
      | [] :: reads => (none, buf, reads)
      | (b :: bs) :: reads => awaitFrom short decode (buf ++ b :: bs) reads
    else (some (.error e), buf, reads)

/-- A frame off the buffer; any other error is left to `fail`. -/
def await (short : ε → Bool) (decode : Reader ε α) (fail : ε → Talk ω α) : Talk ω α :=
  OptionT.mk fun s =>
    let r := awaitFrom short decode s.buf s.reads
    let s' := { s with buf := r.2.1, reads := r.2.2 }
    match r.1 with
    | none => (none, s')
    | some (.ok a) => (some a, s')
    | some (.error e) => (fail e).on s'

def dropBuffer : Talk ω Unit := OptionT.mk fun s => (some (), { s with buf := [] })

lemma on_bind (m : Talk ω α) (f : α → Talk ω β) (s : Feed ω) :
    (m >>= f).on s =
      (m.on s).1.elim (none, (m.on s).2) (fun a => (f a).on (m.on s).2) := by
  unfold on
  rw [OptionT.run_bind]
  show (fun r : Option α × Feed ω =>
    (r.1.elim (pure none) fun a => (f a).run : StateM (Feed ω) (Option β)).run r.2)
      (m.run.run s) = _
  cases m.run.run s with
  | mk first middle =>
    cases first with
    | _ => rfl

variable {decode r : Reader ε α} {m : Talk ω α}

lemma on_bind_some (h : (m >>= f).on s = (some b, s')) :
    ∃ a middle, m.on s = (some a, middle) ∧ (f a).on middle = (some b, s') := by
  rw [on_bind] at h
  cases hm : m.on s with
  | mk first middle =>
    rw [hm] at h
    cases first with
    | none => cases (mk.inj h).1
    | some a => exact ⟨a, middle, rfl, h⟩

/-! ## What a conversation reads -/

/-- Where the conversation goes on, it has read what `r` reads from all pending octets, and
it does the same when more chunks have arrived. -/
def Follows (m : Talk ω α) (r : Reader ε α) : Prop :=
  ∀ s a s', m.on s = (some a, s') →
    r.run s.pending = .ok (a, s'.pending) ∧
      ∀ later, m.on (s.extend later) = (some a, s'.extend later)

def Stops (m : Talk ω α) : Prop := ∀ s, (m.on s).1 = none

lemma stops_stop : Stops (stop : Talk ω α) := fun _ => rfl

lemma Stops.follows (h : Stops m) (r : Reader ε α) : Follows m r := by
  intro s a s' hm
  have hnone := h s
  rw [hm] at hnone
  cases hnone

lemma Follows.pure (a : α) : Follows (pure a : Talk ω α) (pure a : Reader ε α) := by
  intro s a' s' hm
  obtain ⟨ha, rfl⟩ := mk.inj hm
  cases ha
  exact ⟨rfl, fun later => rfl⟩

lemma Follows.bind (h : Follows m r)
    (h' : ∀ a, Follows (f a) (g a)) : Follows (m >>= f) (r >>= g) := by
  intro s b s' hm
  obtain ⟨a, middle, hfirst, hsecond⟩ := on_bind_some hm
  obtain ⟨hread, hlater⟩ := h s a middle hfirst
  obtain ⟨hread', hlat'⟩ := h' a middle b s' hsecond
  refine ⟨?_, fun later => ?_⟩
  · rw [StateT.run_bind, hread]
    exact hread'
  · rw [on_bind, hlater later]
    exact hlat' later

lemma Follows.silent {m : Talk ω Unit} {f : Unit → Talk ω α}
    (h : Follows m (Pure.pure () : Reader ε Unit)) (h' : Follows (f ()) r) :
    Follows (m >>= f) r := by
  exact h.bind fun _ => h'

lemma Follows.ite [Decidable c] (h : c → Follows m r) (h' : ¬c → Follows m' r') :
    Follows (if c then m else m') (if c then r else r') := by
  split
  · next hc => exact h hc
  · next hc => exact h' hc

lemma Follows.mapError (h : Follows m r) (f : ε → ε') : Follows m (r.mapError f) := by
  intro s a s' hm
  exact ⟨Reader.run_mapError (h s a s' hm).1, (h s a s' hm).2⟩

lemma follows_perform (f : ω → Option Unit × ω) :
    Follows (perform f) (pure () : Reader ε Unit) := by
  intro s a s' hm
  obtain ⟨ha, rfl⟩ := mk.inj hm
  refine ⟨rfl, fun later => ?_⟩
  show ((f s.out).1, _) = _
  rw [ha]
  rfl

lemma stops_perform {f : ω → Option α × ω} (h : ∀ out, (f out).1 = none) :
    Stops (perform f) := fun s => h s.out

lemma follows_read : Follows (read : Talk ω Unit) (pure () : Reader ε Unit) := by
  intro s a s' hm
  obtain ⟨buf, reads, out⟩ := s
  cases reads with
  | nil => cases (mk.inj hm).1
  | cons chunk reads =>
    cases chunk with
    | nil => cases (mk.inj hm).1
    | cons b bs =>
      cases hm
      refine ⟨?_, fun later => rfl⟩
      show Except.ok ((), buf ++ ((b :: bs) :: reads).flatten) = _
      rw [Feed.pending, flatten_cons, ← append_assoc]

/-! ## Frames -/

lemma awaitFrom_of_ok {reads : List Bytes} (h : decode.run buf = .ok (a, rest)) :
    awaitFrom short decode buf reads = (some (.ok a), rest, reads) := by
  unfold awaitFrom
  rw [h]

lemma awaitFrom_of_error (h : decode.run buf = .error e) (hshort : short e = false) :
    awaitFrom short decode buf reads = (some (.error e), buf, reads) := by
  unfold awaitFrom
  simp only [h, hshort, Bool.false_eq_true, if_false]

lemma awaitFrom_of_short (h : decode.run buf = .error e) (hshort : short e = true) :
    awaitFrom short decode buf ((b :: bs) :: reads) =
      awaitFrom short decode (buf ++ b :: bs) reads := by
  conv_lhs => unfold awaitFrom
  simp only [h, hshort, if_true]

/-- The frame is what the decoder reads from the whole stream: a prefix of it was enough,
and what follows a frame makes no difference. -/
lemma awaitFrom_ok (hsteady : decode.Steady)
    (h : awaitFrom short decode buf reads = (some (.ok a), buf', reads')) :
    decode.run (buf ++ reads.flatten) = .ok (a, buf' ++ reads'.flatten) ∧
      ∀ later, awaitFrom short decode buf (reads ++ later) =
        (some (.ok a), buf', reads' ++ later) := by
  cases hdec : decode.run buf with
  | ok read =>
    rw [awaitFrom_of_ok hdec] at h
    obtain ⟨ha, hleft⟩ := mk.inj h
    cases hleft
    obtain rfl := Except.ok.inj (Option.some.inj ha)
    exact ⟨hsteady _ _ _ _ hdec, fun later => awaitFrom_of_ok hdec⟩
  | error e =>
    cases hshort : short e with
    | false =>
      rw [awaitFrom_of_error hdec hshort] at h
      cases (mk.inj h).1
    | true =>
      cases reads with
      | nil =>
        simp only [awaitFrom, hdec, hshort, if_true] at h
        cases (mk.inj h).1
      | cons chunk reads =>
        cases chunk with
        | nil =>
          simp only [awaitFrom, hdec, hshort, if_true] at h
          cases (mk.inj h).1
        | cons b bs =>
          rw [awaitFrom_of_short hdec hshort] at h
          obtain ⟨hread, hlater⟩ := awaitFrom_ok hsteady h
          refine ⟨?_, fun later => ?_⟩
          · rwa [append_assoc] at hread
          · rw [cons_append, awaitFrom_of_short hdec hshort]
            exact hlater later
termination_by reads

lemma on_await_of_ok (h : awaitFrom short decode s.buf s.reads = (some (.ok a), buf, reads)) :
    (await short decode fail).on s = (some a, { s with buf, reads }) := by
  unfold await on
  dsimp only [OptionT.run, OptionT.mk, StateT.run]
  rw [h]

lemma on_await_some (hfail : ∀ e, Stops (fail e))
    (h : (await short decode fail).on s = (some a, s')) :
    ∃ buf reads, awaitFrom short decode s.buf s.reads = (some (.ok a), buf, reads) ∧
      s' = { s with buf, reads } := by
  unfold await on at h
  dsimp only [OptionT.run, OptionT.mk, StateT.run] at h
  cases hawait : awaitFrom short decode s.buf s.reads with
  | mk outcome left =>
    rw [hawait] at h
    cases outcome with
    | none => cases (mk.inj h).1
    | some outcome =>
      cases outcome with
      | ok a' =>
        obtain ⟨ha, rfl⟩ := mk.inj h
        cases ha
        exact ⟨left.1, left.2, rfl, rfl⟩
      | error e =>
        have hnone := hfail e { s with buf := left.1, reads := left.2 }
        change ((fail e).on _) = _ at h
        rw [h] at hnone
        cases hnone

lemma follows_await (hsteady : decode.Steady) (hfail : ∀ e, Stops (fail e)) :
    Follows (await short decode fail) decode := by
  intro s a s' hm
  obtain ⟨buf, reads, hawait, rfl⟩ := on_await_some hfail hm
  obtain ⟨hread, hlater⟩ := awaitFrom_ok hsteady hawait
  exact ⟨hread, fun later => on_await_of_ok (hlater later)⟩

end Talk
end MeshBus.Lib
