import MeshBus.Session.Steps

/-!
# Replies that reach the session

Every datagram that an egress yields to a poll task is put on the return channel,
or dropped as a duplicate: the packet it is taken for was returned before.  The
session receives what is on the channel in order.
-/

namespace MeshBus.Session

open Lib Kernel List SystemOutput
open Proto (Endpoint)

/-! ## Payloads along a run -/

def payloadOf : ReturnEvent → Option Bytes
  | .data _ payload => some payload
  | _ => none

namespace SystemOutput

def yields : SystemOutput → List Bytes
  | .yielded _ payload _ => [payload]
  | _ => []

def returns : SystemOutput → List Bytes
  | .yielded _ _ events => events.filterMap payloadOf
  | _ => []

def receives : SystemOutput → List Bytes
  | .received _ payload _ => [payload]
  | _ => []

end SystemOutput

def yieldedIn (past : List (SystemStep × SystemOutput)) : List Bytes :=
  past.flatMap fun entry => entry.2.yields

def returnedIn (past : List (SystemStep × SystemOutput)) : List Bytes :=
  past.flatMap fun entry => entry.2.returns

def receivedIn (past : List (SystemStep × SystemOutput)) : List Bytes :=
  past.flatMap fun entry => entry.2.receives

def System.waiting (s : System) : List Bytes := s.returns.filterMap fun r => payloadOf r.event

section
variable {s : System}

lemma Stepped.waiting {next} (hstep : Stepped bus mintFor s step next) (h : s.Datagrams) :
    next.2.receives ++ next.1.waiting = s.waiting ++ next.2.returns := by
  cases hstep with
  | dispatched hsubm hd =>
    rename_i w frame rest d
    obtain ⟨hkind, -⟩ := h frame (hsubm ▸ mem_cons_self)
    have hcarr := carries_of_datagram hkind
    have hquiet := dispatch_quiet (moment_silent s w hcarr) (by simp [hkind]) hcarr hd
    have hnone : d.returns.filterMap payloadOf = [] := by
      rw [filterMap_eq_nil_iff]
      intro event hevent
      obtain ⟨reason, rfl⟩ := hquiet.closes event hevent
      rfl
    simp [System.waiting, System.afterDispatch, receives, returns,
      filterMap_map, Function.comp_def, hnone]
  | replied hpoll hpending hidx =>
    simp [System.waiting, System.afterReply, receives, returns, filterMap_map, Function.comp_def]
  | ended hpoll =>
    simp [System.waiting, System.afterEnd, receives, returns, payloadOf]
  | received hret =>
    simp [System.waiting, hret, receives, returns, payloadOf]
  | skipped hret hdata =>
    rename_i event origin rest
    have hnone : payloadOf event = none := by
      cases event with
      | data seq payload => exact absurd rfl (hdata seq payload)
      | _ => rfl
    simp [System.waiting, hret, receives, returns, hnone]
  | _ => simp [System.waiting, receives, returns]

def Fresh (s : System) : SystemStep → Prop
  | .polled idx (.ok (source, payload)) _ => ∀ returnFrame pending,
      s.tables.activeStreamPolls.lookup (s.session.sessionId, idx) = some returnFrame →
      (s.adapters idx).sessions.lookup s.session.sessionId = some pending →
        returnFrame.returnSemantics = .direct ∨
          (returnFrame.flowId,
            polledPacketId returnFrame (.data (replySeq pending source) payload)) ∉
              s.tables.packetReturns
  | _ => True

section
variable (hpoll : s.tables.activeStreamPolls.lookup (s.session.sessionId, idx) = some returnFrame)
  (hpending : (s.adapters idx).sessions.lookup s.session.sessionId = some pending)
include hpoll hpending

lemma fresh_iff :
    Fresh s (.polled idx (.ok (source, payload)) now) ↔ returnFrame.returnSemantics = .direct ∨
        (returnFrame.flowId, polledPacketId returnFrame (.data (replySeq pending source) payload)) ∉
            s.tables.packetReturns := by
  constructor
  · exact fun hfresh => hfresh returnFrame pending hpoll hpending
  · intro hnew frame queues hframe hqueues
    rw [hpoll] at hframe
    rw [hpending] at hqueues
    cases hframe
    cases hqueues
    exact hnew

lemma replyReturn_of_fresh (hfresh : Fresh s (.polled idx (.ok (source, payload)) now)) :
    (replyReturn s.tables returnFrame (replySeq pending source) payload).2 =
      [.data (replySeq pending source) payload] := by
  have hnew := hfresh _ _ hpoll hpending
  simp only [replyReturn, sendReturnWithPacketId]
  split
  · rfl
  · rename_i hdirect
    rw [if_neg (hnew.resolve_left hdirect)]

lemma replyReturn_of_not_fresh (hfresh : ¬Fresh s (.polled idx (.ok (source, payload)) now)) :
    (replyReturn s.tables returnFrame (replySeq pending source) payload).2 = [] := by
  rw [fresh_iff hpoll hpending, not_or, not_not] at hfresh
  simp [replyReturn, sendReturnWithPacketId, hfresh.1, hfresh.2]

end

lemma Stepped.returns_of_fresh {next} (hstep : Stepped bus mintFor s step next)
    (hfresh : Fresh s step) : next.2.returns = next.2.yields := by
  cases hstep with
  | replied hpoll hpending hidx =>
    rw [replyReturn_of_fresh hpoll hpending hfresh]
    rfl
  | _ => rfl

lemma Stepped.returns_of_not_fresh {next} (hstep : Stepped bus mintFor s step next)
    (hbds : s.tables.InBounds bus.egresses.length) (hfresh : ¬Fresh s step) :
    next.2.returns = [] ∧ next.2.yields.length = 1 := by
  cases hstep with
  | replied hpoll hpending hidx =>
    rw [replyReturn_of_not_fresh hpoll hpending hfresh]
    exact ⟨rfl, rfl⟩
  | @notPolled idx yielded now hnone =>
    refine absurd ?_ hfresh
    cases yielded with
    | error lastError => trivial
    | ok reply =>
      intro returnFrame pending hpoll hpending
      rcases hnone with hnone | hnone | hout
      · rw [hpoll] at hnone
        cases hnone
      · rw [hpending] at hnone
        cases hnone
      · exact absurd (hbds.polls _ _ hpoll) (not_lt.mpr hout)
  | _ => exact absurd trivial hfresh

lemma Stepped.returns_recv {next} (hstep : Stepped bus mintFor s .recv next) :
    next.2.returns = [] := by
  cases hstep <;> rfl

end

/-! ## Whole runs -/

section
variable (bus : Bus) (mintFor : MintFor)

lemma received_waiting (steps : List SystemStep) (h : s.Datagrams) :
    receivedIn (history (System.step bus mintFor) s steps) ++
        (run (System.step bus mintFor) s steps).1.waiting =
      s.waiting ++ returnedIn (history (System.step bus mintFor) s steps) := by
  induction steps generalizing s with
  | nil => simp [receivedIn, returnedIn]
  | cons step steps ih =>
    have hstep := step_stepped bus mintFor s step
    have hone := hstep.waiting h
    have hrest := ih (hstep.datagrams h)
    simp only [receivedIn, returnedIn] at hrest
    simp only [receivedIn, returnedIn, history_cons, run_cons, flatMap_cons, append_assoc, hrest]
    rw [← append_assoc, hone, append_assoc]

lemma waiting_drained (s : System) :
    (run (System.step bus mintFor) s (replicate s.returns.length .recv)).1.waiting = [] := by
  obtain ⟨n, hn⟩ : ∃ n, s.returns.length = n := ⟨_, rfl⟩
  rw [hn]
  induction n generalizing s with
  | zero =>
    rw [replicate_zero, run_nil, System.waiting, length_eq_zero_iff.mp hn]
    rfl
  | succ n ih =>
    refine ih _ ?_
    simp only [System.step, System.recv]
    split
    · rename_i hnil
      rw [hnil] at hn
      cases hn
    · rename_i event origin rest hret
      rw [hret] at hn
      split <;> exact Nat.succ.inj hn

lemma returned_drained (s : System) (n : Nat) :
    returnedIn (history (System.step bus mintFor) s (replicate n .recv)) = [] := by
  induction n generalizing s with
  | zero => rfl
  | succ n ih =>
    rw [replicate_succ, history_cons]
    simp only [returnedIn, flatMap_cons] at ih ⊢
    rw [ih, append_nil]
    exact (step_stepped bus mintFor s .recv).returns_recv

lemma length_returned_le (steps : List SystemStep)
    (hbds : s.tables.InBounds bus.egresses.length) :
    (returnedIn (history (System.step bus mintFor) s steps)).length ≤
      (yieldedIn (history (System.step bus mintFor) s steps)).length := by
  induction steps generalizing s with
  | nil => exact le_rfl
  | cons step steps ih =>
    have hstep := step_stepped bus mintFor s step
    have hrest := ih (hstep.inBounds hbds)
    simp only [returnedIn, yieldedIn, history_cons, flatMap_cons, length_append] at hrest ⊢
    by_cases hfresh : Fresh s step
    · rw [hstep.returns_of_fresh hfresh]
      omega
    · obtain ⟨hret, hyields⟩ := hstep.returns_of_not_fresh hbds hfresh
      rw [hret, length_nil]
      omega

lemma returned_eq_yielded_iff (steps : List SystemStep)
    (past : List (SystemStep × SystemOutput)) (hbds : s.tables.InBounds bus.egresses.length) :
    returnedIn (history (System.step bus mintFor) s steps) =
        yieldedIn (history (System.step bus mintFor) s steps) ↔
      Along (System.step bus mintFor) (fun _ => Fresh) past s steps := by
  induction steps generalizing s past with
  | nil => exact ⟨fun _ => True.intro, fun _ => rfl⟩
  | cons step steps ih =>
    have hstep := step_stepped bus mintFor s step
    have hrest := ih (past ++ [(step, (s.step bus mintFor step).2)]) (hstep.inBounds hbds)
    have hle := length_returned_le bus mintFor steps (hstep.inBounds hbds)
    simp only [returnedIn, yieldedIn] at hrest hle
    simp only [returnedIn, yieldedIn, history_cons, flatMap_cons, Along]
    by_cases hfresh : Fresh s step
    · rw [hstep.returns_of_fresh hfresh, append_cancel_left_eq, hrest]
      exact (and_iff_right hfresh).symm
    · obtain ⟨hret, hyields⟩ := hstep.returns_of_not_fresh hbds hfresh
      refine iff_of_false ?_ fun halong => hfresh halong.1
      -- A dropped reply is missing from then on.
      intro heq
      have hlen := congrArg length heq
      rw [hret, nil_append, length_append] at hlen
      omega

end
section
variable (bus : Bus) (mintFor : MintFor) (sessionId : SessionId) (request : BusSessionRequest)
  (maxPayloadBytes : Nat) (tables : Tables) (adapters : Nat → DatagramEgressAdapter)

/-- When the return channel has been read to its end, the session has received
every datagram that was yielded, once and in order, exactly if no reply was taken
for a packet that had been returned already. -/
theorem replies_delivered_iff_fresh (hbounds : tables.InBounds bus.egresses.length)
    (steps : List SystemStep) :
    let start := System.new sessionId request maxPayloadBytes tables adapters
    let drain := replicate
      (run (System.step bus mintFor) start steps).1.returns.length SystemStep.recv
    receivedIn (history (System.step bus mintFor) start (steps ++ drain)) =
        yieldedIn (history (System.step bus mintFor) start steps) ↔
      Along (System.step bus mintFor) (fun _ => Fresh) [] start steps := by
  intro start drain
  have hdgrams : start.Datagrams := forall_mem_nil _
  have hall := received_waiting bus mintFor (steps ++ drain) hdgrams
  have hwait : (run (System.step bus mintFor) start (steps ++ drain)).1.waiting = [] := by
    rw [run_append]
    exact waiting_drained bus mintFor _
  have hret : returnedIn (history (System.step bus mintFor) start (steps ++ drain)) =
      returnedIn (history (System.step bus mintFor) start steps) := by
    rw [history_append, returnedIn, flatMap_append]
    have hnone := returned_drained bus mintFor (run (System.step bus mintFor) start steps).1
      (run (System.step bus mintFor) start steps).1.returns.length
    rw [returnedIn] at hnone
    rw [hnone, append_nil, returnedIn]
  rw [hwait, append_nil, hret] at hall
  rw [hall]
  exact returned_eq_yielded_iff bus mintFor steps [] hbounds

end

/-! ## One request, two replies -/

def oneDatagramExit : Bus where
  egresses := [⟨"u", ⟨false, true, []⟩⟩]
  retains pin alt := 5 * pin < 6 * alt

def freshAdapter (_ : Nat) : DatagramEgressAdapter := ⟨"u", ∅⟩

/-- Every egress takes the datagram, in the order they have. -/
def openWorld (decision : ScheduleDecision) : World where
  scheduler := { schedule := fun _ _ => decision, scoreFor := fun _ _ _ => 0 }
  snapshot := ⟨[]⟩
  pinSnapshot := ⟨[]⟩
  replies _ := ⟨none, none, 1⟩
  race := id
  race_perm := List.Perm.refl
  now := 0

def hostFlow : MintFor := fun sessionId target => sessionId ++ target.host

def newSession : System :=
  .new "s" (.datagram exampleEndpoint) 1500 .empty freshAdapter

def oneReply : List SystemStep :=
  [.sendTo exampleEndpoint [1], .dispatch (openWorld (.ordered [0])),
    .polled 0 (.ok (exampleEndpoint, [2])) 0]

theorem replies_delivered_of_one_reply :
    receivedIn (history (System.step oneDatagramExit hostFlow) newSession
      (oneReply ++ [.recv])) = [[2]] ∧
    Along (System.step oneDatagramExit hostFlow) (fun _ => Fresh) [] newSession oneReply := by
  have hrecv : receivedIn (history (System.step oneDatagramExit hostFlow) newSession
      (oneReply ++ [.recv])) = [[2]] := by decide +kernel
  exact ⟨hrecv, (replies_delivered_iff_fresh oneDatagramExit hostFlow "s"
    (.datagram exampleEndpoint) 1500 .empty freshAdapter (.empty _) oneReply).mp hrecv⟩

/-- The second reply to a request is numbered 0 and taken for the first. -/
theorem second_reply_is_lost :
    yieldedIn (history (System.step oneDatagramExit hostFlow) newSession
      (oneReply ++ [.polled 0 (.ok (exampleEndpoint, [3])) 0])) = [[2], [3]] ∧
    receivedIn (history (System.step oneDatagramExit hostFlow) newSession
      (oneReply ++ [.polled 0 (.ok (exampleEndpoint, [3])) 0, .recv, .recv])) = [[2]] := by
  decide +kernel

end MeshBus.Session
