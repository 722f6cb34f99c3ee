import MeshBus.Kernel.Silent
import MeshBus.Session.Datagram

/-!
# What a step of a datagram session can do

One constructor for each thing that can happen; the invariants of runs are
proved by cases on it.
-/

namespace MeshBus.Session

open Lib Kernel List Option DatagramEgressAdapter
open Proto (Endpoint)

lemma send_idle {a : DatagramEgressAdapter}
    (hcarr : frame.Carries) (hsucc : (a.send reply frame).2.success = true) :
    (a.send reply frame).2.returnEvent = .idle := by
  unfold send at hsucc ⊢
  rw [if_pos hcarr] at hsucc ⊢
  split at hsucc
  · cases hsucc
  · split at hsucc
    · rfl
    · cases hsucc

lemma moment_silent (s : System) (w : World) (hcarr : frame.Carries) :
    Silent (s.moment w frame) :=
  fun _ hsucc => send_idle hcarr hsucc

/-- The number an adapter gives to a reply: the oldest that waits for one from
this source, or 0. -/
def replySeq (pending : PendingDatagramSeqs) (source : Endpoint) : Nat :=
  (popPendingSeq pending source).2.getD 0

/-- What becomes of a reply: the tables after it, and the events that went on the
return channel. -/
def replyReturn (t : Tables) (returnFrame : Frame) (seq : Nat) (payload : Bytes) :
    Tables × List ReturnEvent :=
  sendReturnWithPacketId t returnFrame (.data seq payload)
    (polledPacketId returnFrame (.data seq payload))

def System.afterReply (s : System) (idx : Nat) (returnFrame : Frame)
    (pending : PendingDatagramSeqs) (source : Endpoint) (payload : Bytes) : System :=
  let replied := replyReturn s.tables returnFrame (replySeq pending source) payload
  { s with
    tables := replied.1
    adapters := Function.update s.adapters idx
      { s.adapters idx with
        sessions := (s.adapters idx).sessions.insert s.session.sessionId
          (popPendingSeq pending source).1 }
    returns := s.returns ++ replied.2.map (⟨·, some (source, payload)⟩) }

def System.afterEnd (s : System) (idx : Nat) (returnFrame : Frame) (reason : CloseReason)
    (now : Nat) : System :=
  let t := closeFlow s.tables returnFrame.flowId now
  { s with
    tables := { t with activeStreamPolls := t.activeStreamPolls.erase (s.session.sessionId, idx) }
    returns := s.returns ++ [⟨.closed reason, none⟩] }

def System.afterDispatch (s : System) (w : World) (frame : Frame) (d : Dispatched) : System :=
  { s with
    tables := d.tables
    adapters := fun idx =>
      if idx ∈ System.visited d then ((s.adapters idx).send (w.replies idx) frame).1
      else s.adapters idx
    returns := s.returns ++ d.returns.map (⟨·, none⟩) }

inductive Stepped (bus : Bus) (mintFor : MintFor) (s : System) :
    SystemStep → System × SystemOutput → Prop where
  | tooLarge {target : Endpoint} {payload : Bytes}
      (hlarge : s.session.maxPayloadBytes < payload.length) :
      Stepped bus mintFor s (.sendTo target payload) (s, .nothing)
  | sent {target : Endpoint} {payload : Bytes} :
      Stepped bus mintFor s (.sendTo target payload)
        ({ s with
            session :=
              { s.session with
                seq := min (s.session.seq + 1) u64Max
                pendingSources := s.session.pendingSources.insert s.session.seq target }
            submitted := s.submitted ++
              [datagramFrame mintFor s.session.request s.session.sessionId s.session.seq target
                payload] }, .nothing)
  | noFrame {w : World} (hsubmitted : s.submitted = []) :
      Stepped bus mintFor s (.dispatch w) (s, .nothing)
  /-- The dispatch goes out of bounds. -/
  | failed {w : World} {frame : Frame} {rest : List Frame}
      (hsubmitted : s.submitted = frame :: rest)
      (hd : dispatch bus (s.moment w frame) s.tables frame = none) :
      Stepped bus mintFor s (.dispatch w) ({ s with submitted := rest }, .nothing)
  | dispatched {w : World} {frame : Frame} {rest : List Frame} {d : Dispatched}
      (hsubmitted : s.submitted = frame :: rest)
      (hd : dispatch bus (s.moment w frame) s.tables frame = some d) :
      Stepped bus mintFor s (.dispatch w)
        (({ s with submitted := rest }).afterDispatch w frame d, .nothing)
  /-- There is no poll task, or nothing for it to poll. -/
  | notPolled {idx : Nat} {yielded : DatagramEgressAdapter.Yielded} {now : Nat}
      (hnone : s.tables.activeStreamPolls.lookup (s.session.sessionId, idx) = none ∨
        (s.adapters idx).sessions.lookup s.session.sessionId = none ∨
        bus.egresses.length ≤ idx) :
      Stepped bus mintFor s (.polled idx yielded now) (s, .nothing)
  | replied {idx : Nat} {source : Endpoint} {payload : Bytes} {now : Nat} {returnFrame : Frame}
      {pending : PendingDatagramSeqs}
      (hpoll : s.tables.activeStreamPolls.lookup (s.session.sessionId, idx) = some returnFrame)
      (hpending : (s.adapters idx).sessions.lookup s.session.sessionId = some pending)
      (hidx : idx < bus.egresses.length) :
      Stepped bus mintFor s (.polled idx (.ok (source, payload)) now)
        (s.afterReply idx returnFrame pending source payload, .yielded source payload
            (replyReturn s.tables returnFrame (replySeq pending source) payload).2)
  | ended {idx : Nat} {lastError : Option DisconnectReason} {now : Nat} {returnFrame : Frame}
      {reason : CloseReason}
      (hpoll : s.tables.activeStreamPolls.lookup (s.session.sessionId, idx) = some returnFrame) :
      Stepped bus mintFor s (.polled idx (.error lastError) now)
        (s.afterEnd idx returnFrame reason now, .nothing)
  | noEvent (hreturns : s.returns = []) : Stepped bus mintFor s .recv (s, .nothing)
  | received {seq : Nat} {payload : Bytes} {origin : Option (Endpoint × Bytes)}
      {rest : List Returned} (hreturns : s.returns = ⟨.data seq payload, origin⟩ :: rest) :
      Stepped bus mintFor s .recv
        ({ s with
            session :=
              { s.session with pendingSources := s.session.pendingSources.erase seq }
            returns := rest }, .received (s.session.sourceOf seq) payload origin)
  | skipped {event : ReturnEvent} {origin : Option (Endpoint × Bytes)} {rest : List Returned}
      (hreturns : s.returns = ⟨event, origin⟩ :: rest)
      (hdata : ∀ seq payload, event ≠ .data seq payload) :
      Stepped bus mintFor s .recv ({ s with returns := rest }, .nothing)

lemma polled_stepped
    (hpoll : s.tables.activeStreamPolls.lookup (s.session.sessionId, idx) = some returnFrame) :
    Stepped bus mintFor s (.polled idx yielded now) (s.polled bus idx returnFrame yielded now) := by
  by_cases hidx : idx < bus.egresses.length
  · simp only [System.polled, poll, pollTurn, getElem?_eq_getElem hidx, bind_eq_bind, bind_some]
    cases hpend : (s.adapters idx).sessions.lookup s.session.sessionId with
    | none =>
      simp only [Option.pure_def, Function.update_eq_self, map_nil, append_nil]
      exact .notPolled (.inr (.inl hpend))
    | some pending =>
      cases yielded with
      | ok reply =>
        obtain ⟨source, payload⟩ := reply
        exact .replied hpoll hpend hidx
      | error lastError =>
        simp only [Function.update_eq_self]
        exact .ended hpoll
  · simp only [System.polled, pollTurn, getElem?_eq_none (not_lt.mp hidx),
      bind_eq_bind, Option.bind_none]
    exact .notPolled (.inr (.inr (not_lt.mp hidx)))

lemma step_stepped (bus : Bus) (mintFor : MintFor) (s : System) (step : SystemStep) :
    Stepped bus mintFor s step (s.step bus mintFor step) := by
  cases step with
  | sendTo target payload =>
    by_cases hlarge : s.session.maxPayloadBytes < payload.length
    · simp only [System.step, DatagramSession.datagramSend, if_pos hlarge]
      exact .tooLarge hlarge
    · simp only [System.step, DatagramSession.datagramSend, if_neg hlarge]
      exact .sent
  | dispatch w =>
    cases hsubm : s.submitted with
    | nil =>
      simp only [System.step, hsubm]
      exact .noFrame hsubm
    | cons frame rest =>
      simp only [System.step, hsubm, System.dispatch]
      cases hd : dispatch bus (s.moment w frame) s.tables frame with
      | none =>
        have hd' : dispatch bus
            (({ s with submitted := rest } : System).moment w frame) s.tables frame = none :=
          hd
        simp only [hd']
        exact .failed hsubm hd
      | some d =>
        have hd' : dispatch bus
            (({ s with submitted := rest } : System).moment w frame) s.tables frame =
              some d := hd
        simp only [hd']
        exact .dispatched hsubm hd
  | polled idx yielded now =>
    simp only [System.step]
    split
    · rename_i hpoll
      exact .notPolled (.inl hpoll)
    · rename_i returnFrame hpoll
      exact polled_stepped hpoll
  | recv =>
    simp only [System.step, System.recv]
    split
    · rename_i hret
      exact .noEvent hret
    · rename_i event origin rest hret
      split
      · exact .received hret
      · rename_i hdata
        exact .skipped hret hdata

/-! ## What every run keeps -/

def System.Datagrams (s : System) : Prop :=
  ∀ frame ∈ s.submitted, frame.kind = .datagram ∧ frame.sessionId = s.session.sessionId

lemma carries_of_datagram {frame : Frame} (hkind : frame.kind = .datagram) : frame.Carries := by
  simp [Frame.Carries, hkind]

section

lemma Stepped.datagrams {next} (hstep : Stepped bus mintFor s step next) (h : s.Datagrams) :
    next.1.Datagrams := by
  cases hstep with
  | sent =>
    intro frame hframe
    rcases mem_append.mp hframe with hmem | hmem
    · exact h frame hmem
    · rw [mem_singleton.mp hmem]
      exact ⟨rfl, rfl⟩
  | failed hsubm hd =>
    exact fun frame hmem => h frame (hsubm ▸ mem_cons_of_mem _ hmem)
  | dispatched hsubm hd =>
    exact fun frame hmem => h frame (hsubm ▸ mem_cons_of_mem _ hmem)
  | _ => exact h

lemma Stepped.inBounds {next} (hstep : Stepped bus mintFor s step next)
    (h : s.tables.InBounds bus.egresses.length) : next.1.tables.InBounds bus.egresses.length := by
  cases hstep with
  | dispatched hsubm hd => exact h.updates (dispatch_updates _ hd)
  | replied hpoll hpend hidx =>
    exact h.updates (sendReturnWithPacketId_updates _ s.session.sessionId s.tables _ _ _)
  | ended hpoll => exact h.updates (endPoll_updates _ s.tables _ _ _)
  | _ => exact h

end
end MeshBus.Session
