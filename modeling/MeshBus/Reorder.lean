import Mathlib.Data.List.AList
import MeshBus.Lib.InOrder
import MeshBus.Lib.Run
import MeshBus.Proto.Frame

/-!
# Family reorder state

Ordering, de-duplication and feedback for the packages of one event family.
Sequence numbers are kept as natural numbers below `2 ^ 64`; the frontier wraps
there, as the code's does.
-/

namespace MeshBus.Reorder

open Lib Proto List AList MaximalRun UInt64 Nat

def familyBitmapBits : Nat := 128

abbrev Buffer := AList fun _ : Nat => DataPackage

inductive FamilyPushOutcome where
  /-- The frontier advanced; lowest number first. -/
  | deliver (packages : List DataPackage)
  | buffered
  | duplicate
  | gap (ack : AckNack)
  /-- Beyond the window; the family is terminal now. -/
  | windowOverflow (ack : AckNack)

open FamilyPushOutcome

structure FamilyReorderState where
  familyId : String
  nextExpectedSeq : Nat
  receivedBitmap : BitVec 128
  reorderWindow : UInt16
  buffer : Buffer
  highestSeen : Option Nat
  closed : Option CloseReasonWire

def nextSeq (x : Nat) : Nat := (x + 1) % 2 ^ 64

/-- `while let Some(next) = buffer.remove(&next_expected_seq)`: the packages taken,
the frontier and what is left.  Every round takes one entry out. -/
def drain : Nat → Nat → Buffer → List DataPackage × Nat × Buffer
  | 0, next, buffer => ([], next, buffer)
  | rounds + 1, next, buffer =>
    match buffer.lookup next with
    | none => ([], next, buffer)
    | some package =>
      let rest := drain rounds (nextSeq next) (buffer.erase next)
      (package :: rest.1, rest.2)

/-- `bits |= 1 << d` for every buffered number at distance `d` of the frontier. -/
def bitmapOf (next : Nat) (keys : List Nat) : BitVec 128 :=
  keys.foldl
    (fun bits k => if k - next < familyBitmapBits then bits ||| (1#128 <<< (k - next)) else bits)
    0#128

def hex32 (bits : BitVec 128) : String :=
  String.ofList ((range 32).map fun i => digitChar (bits.toNat / 16 ^ (31 - i) % 16))

/-- The loop of `ack_snapshot`: the open hole, if any, and the closed ones. -/
def missingStep (buffer : Buffer) (acc : Option Nat × List SeqRange) (seq : Nat) :
    Option Nat × List SeqRange :=
  if (buffer.lookup seq).isSome then
    match acc.1 with
    | some start =>
      (none, acc.2 ++ [{ start := ofNat start, stop := ofNat (seq - 1) }])
    | none => acc
  else if acc.1.isNone then
    (some seq, acc.2)
  else
    acc

namespace FamilyReorderState

def new (familyId : String) (startSeq : Nat) (reorderWindow : UInt16) : FamilyReorderState where
  familyId := familyId
  nextExpectedSeq := startSeq
  receivedBitmap := 0
  reorderWindow := reorderWindow
  buffer := ∅
  highestSeen := none
  closed := none

def window (st : FamilyReorderState) : Nat := min st.reorderWindow.toNat familyBitmapBits

def rebuildBitmap (st : FamilyReorderState) : FamilyReorderState :=
  { st with receivedBitmap := bitmapOf st.nextExpectedSeq st.buffer.keys }

def missingRanges (st : FamilyReorderState) : List SeqRange :=
  match st.highestSeen with
  | none => []
  | some highest =>
    let acc := (range' st.nextExpectedSeq (highest + 1 - st.nextExpectedSeq)).foldl
      (missingStep st.buffer) (none, [])
    match acc.1 with
    | some start =>
      acc.2 ++ [{ start := ofNat start, stop := ofNat highest }]
    | none => acc.2

def ackSnapshot (st : FamilyReorderState) : AckNack where
  familyId := st.familyId
  cumulativeSeq := ofNat st.nextExpectedSeq
  receivedBitmap := hex32 st.receivedBitmap
  missingRanges := st.missingRanges

def extendsFrontier (st : FamilyReorderState) (seq : Nat) : Bool :=
  match st.highestSeen with
  | none => true
  | some h => decide (h < seq)

def pushPackage (st : FamilyReorderState) (package : DataPackage) :
    FamilyReorderState × FamilyPushOutcome :=
  if st.closed.isSome then
    (st, .windowOverflow st.ackSnapshot)
  else
    let seq := package.seq.toNat
    if seq < st.nextExpectedSeq ∨ (st.buffer.lookup seq).isSome then
      (st, .duplicate)
    else if seq = st.nextExpectedSeq then
      let drained := drain st.buffer.keys.length (nextSeq st.nextExpectedSeq) st.buffer
      let st' := { st with nextExpectedSeq := drained.2.1, buffer := drained.2.2 }
      (st'.rebuildBitmap, .deliver (package :: drained.1))
    else if st.window ≤ seq - st.nextExpectedSeq then
      let st' := { st with closed := some .protocolError }
      (st', .windowOverflow st'.ackSnapshot)
    else
      let st' := ({ st with
        buffer := st.buffer.insert seq package
        highestSeen := some (max seq (st.highestSeen.getD seq)) }).rebuildBitmap
      (st', if st.extendsFrontier seq then .gap st'.ackSnapshot else .buffered)

end FamilyReorderState

/-! ## What a push can do -/

namespace FamilyPushOutcome

def delivered : FamilyPushOutcome → List DataPackage
  | .deliver packages => packages
  | _ => []

/-- The package was taken, now or into the buffer. -/
def accepts : FamilyPushOutcome → Bool
  | .deliver _ | .buffered | .gap _ => true
  | .duplicate | .windowOverflow _ => false

def overflows : FamilyPushOutcome → Bool
  | .windowOverflow _ => true
  | _ => false

end FamilyPushOutcome

open FamilyReorderState

/-- Every way a push can end, with what is known on that way. -/
inductive Pushed (st : FamilyReorderState) (p : DataPackage) :
    FamilyReorderState × FamilyPushOutcome → Prop
  | terminal (hclosed : st.closed.isSome = true) :
      Pushed st p (st, .windowOverflow st.ackSnapshot)
  | duplicate (hopen : st.closed = none)
      (hdup : p.seq.toNat < st.nextExpectedSeq ∨
        (st.buffer.lookup p.seq.toNat).isSome = true) :
      Pushed st p (st, .duplicate)
  | deliver (hopen : st.closed = none) (hseq : p.seq.toNat = st.nextExpectedSeq)
      (hnew : st.buffer.lookup p.seq.toNat = none) {taken : List DataPackage} {next : Nat}
      {buffer : Buffer}
      (hdrain : drain st.buffer.keys.length (nextSeq st.nextExpectedSeq) st.buffer =
        (taken, next, buffer)) :
      Pushed st p (({ st with nextExpectedSeq := next, buffer }).rebuildBitmap,
        .deliver (p :: taken))
  | overflow (hopen : st.closed = none) (hnew : st.buffer.lookup p.seq.toNat = none)
      (hfar : st.nextExpectedSeq + st.window ≤ p.seq.toNat) (ack : AckNack) :
      Pushed st p ({ st with closed := some .protocolError }, .windowOverflow ack)
  | store (hopen : st.closed = none) (hnew : st.buffer.lookup p.seq.toNat = none)
      (habove : st.nextExpectedSeq < p.seq.toNat)
      (hnear : p.seq.toNat < st.nextExpectedSeq + st.window) {outcome : FamilyPushOutcome}
      (hout : outcome.accepts = true ∧ outcome.delivered = [] ∧ outcome.overflows = false)
      (highestSeen : Option Nat) :
      Pushed st p (({ st with
        buffer := st.buffer.insert p.seq.toNat p, highestSeen }).rebuildBitmap, outcome)

lemma pushPackage_cases (st : FamilyReorderState) (p : DataPackage) :
    Pushed st p (st.pushPackage p) := by
  unfold pushPackage
  split
  · exact .terminal ‹_›
  · rename_i hclos
    have hopen : st.closed = none := by simpa using hclos
    dsimp only
    split
    · exact .duplicate hopen ‹_›
    · rename_i hdup
      rw [not_or] at hdup
      have hnew : st.buffer.lookup p.seq.toNat = none := by simpa using hdup.2
      split
      · exact .deliver hopen ‹_› hnew rfl
      · split
        · exact .overflow hopen hnew (by omega) _
        · refine .store hopen hnew (by omega) (by omega) ?_ _
          split <;> exact ⟨rfl, rfl, rfl⟩

/-- The family is open and the number is the next one it delivers. -/
structure FamilyReorderState.Awaits (st : FamilyReorderState) (seq : Nat) : Prop where
  opened : st.closed = none
  next : st.nextExpectedSeq = seq
  unbuffered : st.buffer.lookup seq = none

/-- What the buffer releases once the frontier has moved past `seq`. -/
def FamilyReorderState.releasedBy (st : FamilyReorderState) (seq : Nat) : List DataPackage :=
  (drain st.buffer.keys.length (nextSeq seq) st.buffer).1

lemma pushPackage_awaited {st : FamilyReorderState} (h : st.Awaits p.seq.toNat) :
    (st.pushPackage p).2 = .deliver (p :: st.releasedBy p.seq.toNat) := by
  simp [pushPackage, releasedBy, h.opened, h.next, h.unbuffered]

lemma releasedBy_eq_nil {st : FamilyReorderState}
    (h : st.buffer.lookup (nextSeq seq) = none) : st.releasedBy seq = [] := by
  unfold releasedBy
  cases st.buffer.keys.length with
  | zero => rfl
  | succ rounds => simp [drain, h]

lemma nextSeq_of_lt (h : x < 2 ^ 64 - 1) : nextSeq x = x + 1 := by
  rw [nextSeq, mod_eq_of_lt (by omega)]

lemma drain_spec (rounds next : Nat) (buffer : Buffer) (hrounds : buffer.keys.length ≤ rounds)
    (hsmall : ∀ k, (buffer.lookup k).isSome = true → k < 2 ^ 64 - 1) :
    MaximalRun buffer.lookup next (drain rounds next buffer).1 ∧
    (drain rounds next buffer).2.1 = next + (drain rounds next buffer).1.length ∧
    ∀ k, (drain rounds next buffer).2.2.lookup k =
      if next ≤ k ∧ k < next + (drain rounds next buffer).1.length then none
      else buffer.lookup k := by
  induction rounds generalizing next buffer with
  | zero =>
    have hempty : buffer.lookup next = none := by
      have hkeys : buffer.keys = [] := eq_nil_of_length_eq_zero (by omega)
      rw [AList.lookup_eq_none, AList.mem_keys, hkeys]
      simp
    refine ⟨nil_iff.mpr hempty, rfl, fun k => ?_⟩
    rw [if_neg (by simp [drain])]
    rfl
  | succ rounds ih =>
    unfold drain
    cases hlook : buffer.lookup next with
    | none =>
      refine ⟨nil_iff.mpr hlook, rfl, fun k => ?_⟩
      rw [if_neg (by simp)]
    | some package =>
      have hnext : nextSeq next = next + 1 := nextSeq_of_lt (hsmall next (by simp [hlook]))
      have hkeys : (buffer.erase next).keys.length ≤ rounds := by
        have hmem : next ∈ buffer.keys := by
          rw [← AList.mem_keys, ← lookup_isSome, hlook]
          rfl
        rw [keys_erase, length_erase_of_mem hmem]
        omega
      have hother : ∀ k, k ≠ next → (buffer.erase next).lookup k = buffer.lookup k :=
        fun k hk => lookup_erase_ne hk
      have hsmal' : ∀ k, ((buffer.erase next).lookup k).isSome = true → k < 2 ^ 64 - 1 := by
        intro k hk
        by_cases hkn : k = next
        · rw [hkn, lookup_erase] at hk
          cases hk
        · exact hsmall k (by rwa [hother k hkn] at hk)
      obtain ⟨hrun, hfront, hleft⟩ := ih (next + 1) (buffer.erase next) hkeys hsmal'
      simp only [hnext]
      refine ⟨cons_iff.mpr ⟨hlook, hrun.congr fun k hk => hother k (by omega)⟩,
        ?_, fun k => ?_⟩
      · rw [length_cons]
        omega
      · rw [hleft, length_cons]
        by_cases hkn : k = next
        · rw [if_neg (by omega), if_pos (by omega), hkn, lookup_erase]
        · rw [hother k hkn]
          congr 1
          exact propext (by omega)

lemma drain_frontier {st : FamilyReorderState} (hnext : st.nextExpectedSeq < 2 ^ 64 - 1)
    (hsmall : ∀ k, (st.buffer.lookup k).isSome = true → k < 2 ^ 64 - 1)
    {taken : List DataPackage} {next : Nat} {buffer : Buffer}
    (hdrain : drain st.buffer.keys.length (nextSeq st.nextExpectedSeq) st.buffer =
      (taken, next, buffer)) :
    MaximalRun st.buffer.lookup (st.nextExpectedSeq + 1) taken ∧
    next = st.nextExpectedSeq + 1 + taken.length ∧
    ∀ k, buffer.lookup k =
      if st.nextExpectedSeq + 1 ≤ k ∧ k < st.nextExpectedSeq + 1 + taken.length then none
      else st.buffer.lookup k := by
  have hspec := drain_spec st.buffer.keys.length (nextSeq st.nextExpectedSeq) st.buffer
    (le_rfl) hsmall
  rw [hdrain, nextSeq_of_lt hnext] at hspec
  exact hspec

lemma seq_of_delivered {st : FamilyReorderState}
    (h : (st.pushPackage p).2.delivered ≠ []) : p.seq.toNat = st.nextExpectedSeq := by
  have hcases := pushPackage_cases st p
  generalize st.pushPackage p = result at hcases h
  cases hcases with
  | deliver _ hseq => exact hseq
  | store _ _ _ _ hout => exact absurd hout.2.1 h
  | _ => exact absurd rfl h

lemma overflows_of_delivered {outcome : FamilyPushOutcome} (h : outcome.delivered ≠ []) :
    outcome.overflows = false := by
  cases outcome with
  | windowOverflow ack => exact absurd rfl h
  | _ => rfl

lemma drain_subset (rounds next : Nat) (buffer : Buffer) :
    (∀ p ∈ (drain rounds next buffer).1, ∃ k, buffer.lookup k = some p) ∧
    ∀ k p, (drain rounds next buffer).2.2.lookup k = some p → buffer.lookup k = some p := by
  induction rounds generalizing next buffer with
  | zero => exact ⟨fun p hp => by simp [drain] at hp, fun k p h => h⟩
  | succ rounds ih =>
    unfold drain
    cases hlook : buffer.lookup next with
    | none => exact ⟨fun p hp => by simp at hp, fun k p h => h⟩
    | some package =>
      obtain ⟨htaken, hleft⟩ := ih (nextSeq next) (buffer.erase next)
      have hold : ∀ k p, (buffer.erase next).lookup k = some p →
          buffer.lookup k = some p := by
        intro k p h
        by_cases hk : k = next
        · rw [hk, lookup_erase] at h
          cases h
        · rwa [lookup_erase_ne hk] at h
      refine ⟨fun p hp => ?_, fun k p h => hold k p (hleft k p h)⟩
      rcases mem_cons.mp hp with rfl | hp
      · exact ⟨next, hlook⟩
      · obtain ⟨k, hk⟩ := htaken p hp
        exact ⟨k, hold k p hk⟩

/-! ## Families of known packages -/

def FamilyReorderState.Holds (known : DataPackage → Prop) (st : FamilyReorderState) : Prop :=
  ∀ k p, st.buffer.lookup k = some p → p.seq.toNat = k ∧ known p

section
variable {st : FamilyReorderState}

lemma FamilyReorderState.Holds.new (known : DataPackage → Prop) (familyId : String) (start : Nat) (w : UInt16) :
    (new familyId start w).Holds known := by
  intro k p h
  simp [FamilyReorderState.new] at h

lemma FamilyReorderState.Holds.push (h : st.Holds known) (hp : known p) :
    (st.pushPackage p).1.Holds known ∧ ∀ q ∈ (st.pushPackage p).2.delivered, known q := by
  have hcases := pushPackage_cases st p
  generalize st.pushPackage p = result at hcases ⊢
  cases hcases with
  | overflow hopen hnew hfar ack =>
    exact ⟨h, fun q hq => by simp [delivered] at hq⟩
  | deliver hopen hseq hnew hdrain =>
    have hsub := drain_subset st.buffer.keys.length (nextSeq st.nextExpectedSeq) st.buffer
    rw [hdrain] at hsub
    refine ⟨fun k q hq => h k q (hsub.2 k q hq), fun q hq => ?_⟩
    rcases mem_cons.mp hq with rfl | hq
    · exact hp
    · obtain ⟨k, hk⟩ := hsub.1 q hq
      exact (h k q hk).2
  | store hopen hnew habove hnear hout highestSeen =>
    refine ⟨fun k q hq => ?_, fun q hq => by simp [hout.2.1] at hq⟩
    change (st.buffer.insert p.seq.toNat p).lookup k = some q at hq
    by_cases hk : k = p.seq.toNat
    · rw [hk, lookup_insert] at hq
      cases hq
      exact ⟨hk.symm, hp⟩
    · rw [lookup_insert_ne hk] at hq
      exact h k q hq
  | _ => exact ⟨h, fun q hq => by simp [delivered] at hq⟩

/-- What a push delivers has consecutive numbers from the frontier on, and the
frontier moves past them. -/
lemma FamilyReorderState.Holds.delivered_seqs (h : st.Holds known)
    (hsmall : ∀ q, known q → q.seq.toNat < 2 ^ 64 - 1) (hp : known p) :
    (st.pushPackage p).2.delivered.map (fun q => q.seq.toNat) =
      range' st.nextExpectedSeq (st.pushPackage p).2.delivered.length ∧
    (st.pushPackage p).1.nextExpectedSeq =
      st.nextExpectedSeq + (st.pushPackage p).2.delivered.length := by
  have hcases := pushPackage_cases st p
  generalize st.pushPackage p = result at hcases ⊢
  cases hcases with
  | store hopen hnew habove hnear hout highestSeen => simp [hout.2.1, rebuildBitmap]
  | @deliver hopen hseq hnew taken next buffer hdrain =>
    have hbuff : ∀ k, (st.buffer.lookup k).isSome = true → k < 2 ^ 64 - 1 := by
      intro k hk
      obtain ⟨q, hq⟩ := Option.isSome_iff_exists.mp hk
      obtain ⟨hnum, hknown⟩ := h k q hq
      rw [← hnum]
      exact hsmall q hknown
    have hnext : st.nextExpectedSeq < 2 ^ 64 - 1 := by
      rw [← hseq]
      exact hsmall p hp
    obtain ⟨hrun, hfront, -⟩ := drain_frontier hnext hbuff hdrain
    have htaken : taken.map (fun q => q.seq.toNat) =
        range' (st.nextExpectedSeq + 1) taken.length := by
      apply ext_getElem
      · simp
      · intro i hi _
        rw [length_map] at hi
        have hread := hrun i (le_of_lt hi)
        rw [getElem?_eq_getElem hi] at hread
        simp [(h _ _ hread).1]
    refine ⟨?_, ?_⟩
    · rw [delivered, map_cons, htaken, length_cons, range'_succ, hseq]
    · change next = st.nextExpectedSeq + (taken.length + 1)
      omega
  | _ => exact ⟨rfl, rfl⟩

end

/-! ## The bitmap -/

lemma getLsbD_bitmapOf {next : Nat} {keys : List Nat} (hd : d < familyBitmapBits) :
    (bitmapOf next keys).getLsbD d = true ↔ ∃ k ∈ keys, k - next = d := by
  have hfold : ∀ (keys : List Nat) (bits : BitVec 128),
      (keys.foldl (fun bits k =>
        if k - next < familyBitmapBits then bits ||| (1#128 <<< (k - next)) else bits)
        bits).getLsbD d = true ↔ bits.getLsbD d = true ∨ ∃ k ∈ keys, k - next = d := by
    intro keys
    induction keys with
    | nil => simp
    | cons k keys ih =>
      intro bits
      rw [foldl_cons, ih]
      have hbit : (if k - next < familyBitmapBits then bits ||| (1#128 <<< (k - next))
          else bits).getLsbD d = true ↔ bits.getLsbD d = true ∨ k - next = d := by
        split
        · rename_i hk
          rw [← BitVec.twoPow_eq]
          simp only [familyBitmapBits] at hk
          simp [hk]
        · constructor
          · exact Or.inl
          · rintro (h | h)
            · exact h
            · omega
      rw [hbit]
      simp [or_assoc]
  rw [bitmapOf, hfold]
  simp

/-! ## Refinement of an in-order log -/

abbrev PushHistory := List (DataPackage × FamilyPushOutcome)

def acceptedPackages (past : PushHistory) : List DataPackage :=
  (past.filter fun e => e.2.accepts).map Prod.fst

def deliveredPackages (past : PushHistory) : List DataPackage :=
  past.flatMap fun e => e.2.delivered

/-- The log of a run: the first package accepted under each number. -/
def firstAccepted (past : PushHistory) (k : Nat) : Option DataPackage :=
  (acceptedPackages past).find? fun p => p.seq.toNat = k

lemma firstAccepted_concat :
    firstAccepted (past ++ [(p, outcome)]) k =
      if outcome.accepts = true then
        (firstAccepted past k).or (if p.seq.toNat = k then some p else none)
      else firstAccepted past k := by
  unfold firstAccepted acceptedPackages
  by_cases h : outcome.accepts = true
  · by_cases hk : p.seq.toNat = k
    · simp [filter_append, h, find?_append, hk]
    · simp [filter_append, h, find?_append, hk]
  · simp [filter_append, h]

@[simp] lemma deliveredPackages_concat :
    deliveredPackages (past ++ [(p, outcome)]) = deliveredPackages past ++ outcome.delivered := by
  simp [deliveredPackages]

/-- The state after a run is the log read up to its first hole, with the rest of
the log in the buffer. -/
structure Refines (start : Nat) (w : UInt16) (past : PushHistory) (st : FamilyReorderState) :
    Prop where
  reading : MaximalRun (firstAccepted past) start (deliveredPackages past)
  frontier : st.nextExpectedSeq = start + (deliveredPackages past).length
  frontier_lt : st.nextExpectedSeq < 2 ^ 64
  buffer : ∀ k, st.buffer.lookup k =
    if st.nextExpectedSeq ≤ k then firstAccepted past k else none
  low : ∀ k, (firstAccepted past k).isSome = true → start ≤ k
  inside : ∀ k, (firstAccepted past k).isSome = true → k < st.nextExpectedSeq + st.window
  small : ∀ k, (firstAccepted past k).isSome = true → k < 2 ^ 64 - 1
  width : st.reorderWindow = w
  bitmap : st.receivedBitmap = bitmapOf st.nextExpectedSeq st.buffer.keys
  terminal : (∃ e ∈ past, e.2.overflows = true) → st.closed.isSome = true

lemma Refines.new (familyId : String) (start : Nat) (w : UInt16) (hstart : start < 2 ^ 64) :
    Refines start w [] (new familyId start w) where
  reading := nil_iff.mpr rfl
  frontier := rfl
  frontier_lt := hstart
  buffer k := by simp [FamilyReorderState.new, firstAccepted, acceptedPackages]
  low k h := by simp [firstAccepted, acceptedPackages] at h
  inside k h := by simp [firstAccepted, acceptedPackages] at h
  small k h := by simp [firstAccepted, acceptedPackages] at h
  width := rfl
  bitmap := rfl
  terminal h := by simp at h

section
variable {past : PushHistory} {p : DataPackage}

lemma Refines.hole (h : Refines start w past st) :
    firstAccepted past st.nextExpectedSeq = none := by
  rw [h.frontier]
  exact h.reading.stop

private lemma Refines.ignore (h : Refines start w past st) (hacc : outcome.accepts = false)
    (hdel : outcome.delivered = [])
    (hnext : st'.nextExpectedSeq = st.nextExpectedSeq) (hbuffer : st'.buffer = st.buffer)
    (hwidth : st'.reorderWindow = st.reorderWindow)
    (hbitmap : st'.receivedBitmap = st.receivedBitmap)
    (hterm : (outcome.overflows = true ∨ st.closed.isSome = true) →
      st'.closed.isSome = true) : Refines start w (past ++ [(p, outcome)]) st' := by
  have hlog : firstAccepted (past ++ [(p, outcome)]) = firstAccepted past := by
    funext k
    simp [firstAccepted_concat, hacc]
  have hwin : st'.window = st.window := by
    simp [window, hwidth]
  constructor
  · rw [hlog, deliveredPackages_concat, hdel, append_nil]
    exact h.reading
  · rw [hnext, deliveredPackages_concat, hdel, append_nil]
    exact h.frontier
  · rw [hnext]
    exact h.frontier_lt
  · rw [hlog, hnext, hbuffer]
    exact h.buffer
  · rw [hlog]
    exact h.low
  · rw [hlog, hnext, hwin]
    exact h.inside
  · rw [hlog]
    exact h.small
  · rw [hwidth]
    exact h.width
  · rw [hbitmap, hnext, hbuffer]
    exact h.bitmap
  · rintro ⟨e, he, hover⟩
    rcases mem_append.mp he with hpast | hlast
    · exact hterm (Or.inr (h.terminal ⟨e, hpast, hover⟩))
    · rw [mem_singleton] at hlast
      subst hlast
      exact hterm (Or.inl hover)

private lemma firstAccepted_new (hacc : outcome.accepts = true)
    (hnew : firstAccepted past p.seq.toNat = none) (k : Nat) :
    firstAccepted (past ++ [(p, outcome)]) k =
      if k = p.seq.toNat then some p else firstAccepted past k := by
  rw [firstAccepted_concat, if_pos hacc]
  by_cases hk : k = p.seq.toNat
  · subst hk
    simp [hnew]
  · simp [hk, Ne.symm hk]

private lemma terminal_of_accept (hover : outcome.overflows = false)
    (h : ∃ e ∈ past ++ [(p, outcome)], e.2.overflows = true) :
    ∃ e ∈ past, e.2.overflows = true := by
  obtain ⟨e, he, heover⟩ := h
  rcases mem_append.mp he with hpast | hlast
  · exact ⟨e, hpast, heover⟩
  · rw [mem_singleton] at hlast
    subst hlast
    rw [hover] at heover
    cases heover

section
variable (h : Refines start w past st) (hp : p.seq.toNat < 2 ^ 64 - 1)
include h hp

private lemma Refines.store
    (hnew : st.buffer.lookup p.seq.toNat = none) (habove : st.nextExpectedSeq < p.seq.toNat)
    (hnear : p.seq.toNat < st.nextExpectedSeq + st.window) (hacc : outcome.accepts = true)
    (hdel : outcome.delivered = []) (hover : outcome.overflows = false) (highestSeen : Option Nat) :
    Refines start w (past ++ [(p, outcome)])
      ({ st with buffer := st.buffer.insert p.seq.toNat p, highestSeen }).rebuildBitmap := by
  have hfree : firstAccepted past p.seq.toNat = none := by
    have hbuffer := h.buffer p.seq.toNat
    rw [if_pos (le_of_lt habove), hnew] at hbuffer
    exact hbuffer.symm
  have hlog := firstAccepted_new hacc hfree
  have hsome : ∀ {k}, (firstAccepted (past ++ [(p, outcome)]) k).isSome = true →
      k = p.seq.toNat ∨ (firstAccepted past k).isSome = true := by
    intro k hk
    rw [hlog] at hk
    by_cases hkp : k = p.seq.toNat
    · exact Or.inl hkp
    · rw [if_neg hkp] at hk
      exact Or.inr hk
  have hfront := h.frontier
  have hlow : start ≤ p.seq.toNat := by omega
  constructor
  · rw [deliveredPackages_concat, hdel, append_nil]
    intro i hi
    rw [hlog, if_neg (by omega), h.reading i hi]
  · rw [deliveredPackages_concat, hdel, append_nil]
    exact hfront
  · exact h.frontier_lt
  · intro k
    change (st.buffer.insert p.seq.toNat p).lookup k = if st.nextExpectedSeq ≤ k then _ else none
    rw [hlog]
    by_cases hk : k = p.seq.toNat
    · subst hk
      rw [lookup_insert, if_pos (le_of_lt habove), if_pos rfl]
    · rw [lookup_insert_ne hk, h.buffer k, if_neg hk]
  · intro k hk
    rcases hsome hk with rfl | hold
    · exact hlow
    · exact h.low k hold
  · intro k hk
    rcases hsome hk with rfl | hold
    · exact hnear
    · exact h.inside k hold
  · intro k hk
    rcases hsome hk with rfl | hold
    · exact hp
    · exact h.small k hold
  · exact h.width
  · rfl
  · intro hterm
    exact h.terminal (terminal_of_accept hover hterm)

private lemma Refines.deliver
    (hseq : p.seq.toNat = st.nextExpectedSeq) {taken : List DataPackage} {next : Nat}
    {buffer : Buffer}
    (hdrain : drain st.buffer.keys.length (nextSeq st.nextExpectedSeq) st.buffer =
      (taken, next, buffer)) :
    Refines start w (past ++ [(p, .deliver (p :: taken))])
      ({ st with nextExpectedSeq := next, buffer }).rebuildBitmap := by
  have hfree : firstAccepted past p.seq.toNat = none := by rw [hseq, h.hole]
  have hlog := @firstAccepted_new past p (.deliver (p :: taken)) rfl hfree
  have hbufS : ∀ k, (st.buffer.lookup k).isSome = true → k < 2 ^ 64 - 1 := by
    intro k hk
    rw [h.buffer k] at hk
    split at hk
    · exact h.small k hk
    · cases hk
  obtain ⟨hrun, hnext, hleft⟩ := drain_frontier (by omega) hbufS hdrain
  have hfront := h.frontier
  have hread : MaximalRun (firstAccepted (past ++ [(p, .deliver (p :: taken))])) start
      (deliveredPackages past ++ p :: taken) := by
    rw [append_iff, ← hfront, cons_iff]
    · refine ⟨by rw [hlog, if_pos hseq.symm], hrun.congr fun k hk => ?_⟩
      rw [h.buffer k, if_pos (by omega), hlog, if_neg (by omega)]
    · intro i hi
      rw [hlog, if_neg (by omega), h.reading i (by omega)]
  have hsmall : ∀ k, (firstAccepted (past ++ [(p, .deliver (p :: taken))]) k).isSome = true →
      k < 2 ^ 64 - 1 := by
    intro k hk
    rw [hlog] at hk
    split at hk
    · omega
    · exact h.small k hk
  constructor
  · rw [deliveredPackages_concat]
    exact hread
  · rw [deliveredPackages_concat]
    simp only [rebuildBitmap, delivered, length_append, length_cons]
    omega
  · -- The last number read is an accepted one, so the frontier has not wrapped.
    have hlast := hread.lt_iff.mp
      (show next - 1 < start + (deliveredPackages past ++ p :: taken).length by
        rw [length_append, length_cons]
        omega) (next - 1) (by omega) (le_rfl)
    have := hsmall _ hlast
    change next < 2 ^ 64
    omega
  · intro k
    change buffer.lookup k = if next ≤ k then _ else none
    rw [hleft, h.buffer k, hlog]
    by_cases hk : next ≤ k
    · rw [if_neg (by omega), if_pos (by omega), if_pos hk, if_neg (by omega)]
    · split
      · rfl
      · split
        · have hknext : k = st.nextExpectedSeq := by omega
          rw [hknext, h.hole]
        · rfl
  · intro k hk
    rw [hlog] at hk
    split at hk
    · omega
    · exact h.low k hk
  · intro k hk
    change k < next + st.window
    rw [hlog] at hk
    split at hk
    · omega
    · have := h.inside k hk
      omega
  · exact hsmall
  · exact h.width
  · rfl
  · intro hterm
    exact h.terminal (terminal_of_accept rfl hterm)

lemma Refines.step :
    Refines start w (past ++ [(p, (st.pushPackage p).2)]) (st.pushPackage p).1 := by
  have hcases := pushPackage_cases st p
  generalize st.pushPackage p = result at hcases ⊢
  cases hcases with
  | terminal hclos => exact h.ignore rfl rfl rfl rfl rfl rfl fun _ => hclos
  | duplicate hopen hdup =>
    exact h.ignore rfl rfl rfl rfl rfl rfl (by simp [overflows])
  | deliver hopen hseq hnew hdrain => exact h.deliver hp hseq hdrain
  | overflow hopen hnew hfar ack => exact h.ignore rfl rfl rfl rfl rfl rfl fun _ => rfl
  | store hopen hnew habove hnear hout highestSeen =>
    exact h.store hp hnew habove hnear hout.1 hout.2.1 hout.2.2 highestSeen

end
end

lemma refines_run (familyId : String) (start : Nat) (w : UInt16) (hstart : start < 2 ^ 64)
    (packages : List DataPackage) (hseq : ∀ p ∈ packages, p.seq.toNat < 2 ^ 64 - 1) :
    Refines start w (history pushPackage (new familyId start w) packages)
      (run pushPackage (new familyId start w) packages).1 := by
  have hrun := run_invariant (fun past st p h hp => Refines.step h hp) packages []
    (new familyId start w) (Refines.new familyId start w hstart)
    (Along.of_forall_mem packages [] _ hseq)
  simpa using hrun

section
variable {st : FamilyReorderState}

private lemma seq_of_firstAccepted (h : firstAccepted past k = some p) : p.seq.toNat = k := by
  simpa using find?_some h

lemma Refines.delivered_seqs (h : Refines start w past st) :
    (deliveredPackages past).map (fun p => p.seq.toNat) =
      range' start (deliveredPackages past).length := by
  apply ext_getElem
  · simp
  · intro i hi _
    rw [length_map] at hi
    have hread := h.reading i (by omega)
    rw [getElem?_eq_getElem hi] at hread
    simp [seq_of_firstAccepted hread]

lemma Refines.delivered_first (h : Refines start w past st) (hp : p ∈ deliveredPackages past) :
    (acceptedPackages past).find? (fun q => q.seq = p.seq) = some p := by
  obtain ⟨i, hi, rfl⟩ := mem_iff_getElem.mp hp
  have hread := h.reading i (by omega)
  rw [getElem?_eq_getElem hi] at hread
  have hnum := seq_of_firstAccepted hread
  rw [firstAccepted, ← hnum] at hread
  simpa only [UInt64.toNat_inj] using hread

lemma isSome_firstAccepted :
    (firstAccepted past k).isSome = true ↔
      k ∈ (acceptedPackages past).map (fun p => p.seq.toNat) := by
  simp [firstAccepted, find?_isSome]

section
variable (h : Refines start w past st)
include h

lemma Refines.delivered_iff (s : Nat) :
    s ∈ (deliveredPackages past).map (fun p => p.seq.toNat) ↔
      start ≤ s ∧ ∀ j, start ≤ j → j ≤ s →
        j ∈ (acceptedPackages past).map (fun p => p.seq.toNat) := by
  simp only [← isSome_firstAccepted]
  rw [h.delivered_seqs, ← h.reading.lt_iff, mem_range'_1]

lemma Refines.mem_buffer (hk : k ∈ st.buffer) :
    st.nextExpectedSeq < k ∧ k < st.nextExpectedSeq + st.window := by
  rw [← lookup_isSome, h.buffer k] at hk
  split at hk
  · rename_i hle
    refine ⟨lt_of_le_of_ne hle fun heq => ?_, h.inside k hk⟩
    rw [← heq, h.hole] at hk
    cases hk
  · cases hk

lemma Refines.getLsbD_bitmap (hd : d < familyBitmapBits) :
    st.receivedBitmap.getLsbD d = true ↔ st.nextExpectedSeq + d ∈ st.buffer := by
  rw [h.bitmap, getLsbD_bitmapOf hd]
  constructor
  · rintro ⟨k, hk, rfl⟩
    have := (h.mem_buffer (mem_keys.mpr hk)).1
    rwa [Nat.add_sub_cancel' (le_of_lt this)]
  · intro hk
    exact ⟨_, hk, by omega⟩

lemma Refines.overflow_again (hover : ∃ e ∈ past, e.2.overflows = true) (p : DataPackage) :
    (st.pushPackage p).2 = .windowOverflow st.ackSnapshot := by
  rw [pushPackage, if_pos (h.terminal hover)]

end

/-- A number that has come: another push of it is a duplicate. -/
def FamilyReorderState.Has (st : FamilyReorderState) (k : Nat) : Prop :=
  k < st.nextExpectedSeq ∨ (st.buffer.lookup k).isSome = true

section
variable (h : Refines start w past st)
include h

lemma Refines.has_iff (hk : start ≤ k) : st.Has k ↔ (firstAccepted past k).isSome = true := by
  constructor
  · rintro (hlt | hbuff)
    · rw [h.frontier] at hlt
      exact h.reading.lt_iff.mp hlt k hk (le_refl k)
    · rw [h.buffer] at hbuff
      split at hbuff
      · exact hbuff
      · cases hbuff
  · intro hfilled
    by_cases hlt : k < st.nextExpectedSeq
    · exact Or.inl hlt
    · right
      rwa [h.buffer, if_pos (Nat.le_of_not_lt hlt)]

lemma Refines.has_push (hp : p.seq.toNat < 2 ^ 64 - 1) (hk : start ≤ k) (hhas : st.Has k) :
    (st.pushPackage p).1.Has k := by
  rw [h.has_iff hk] at hhas
  rw [(h.step hp).has_iff hk, firstAccepted_concat]
  split
  · rw [Option.isSome_or, hhas]
    rfl
  · exact hhas

lemma Refines.has_pushed (hp : p.seq.toNat < 2 ^ 64 - 1) (hstart : start ≤ p.seq.toNat)
    (hfits : (st.pushPackage p).2.overflows = false) : (st.pushPackage p).1.Has p.seq.toNat := by
  have hcases := pushPackage_cases st p
  have hacc : (st.pushPackage p).2.accepts = true → (st.pushPackage p).1.Has p.seq.toNat := by
    intro haccep
    rw [(h.step hp).has_iff hstart, firstAccepted_concat, if_pos haccep, if_pos rfl,
      Option.isSome_or]
    simp
  generalize st.pushPackage p = result at hcases hfits hacc ⊢
  cases hcases with
  | duplicate hopen hdup => exact hdup
  | deliver hopen hseq hnew hdrain => exact hacc rfl
  | store hopen hnew habove hnear hout highestSeen => exact hacc hout.1
  | _ => cases hfits

lemma Refines.lt_next (hall : ∀ k, start ≤ k → k ≤ n → st.Has k) : n < st.nextExpectedSeq := by
  rw [h.frontier, h.reading.lt_iff]
  intro k hk hkn
  rw [← h.has_iff hk]
  exact hall k hk hkn

end
end

end MeshBus.Reorder
