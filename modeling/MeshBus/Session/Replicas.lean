import MeshBus.Session.Attribution

/-!
# Replicated datagrams

A replicated datagram goes to several exits, and each of them may answer it.  The
replies come in through one poll task for each exit, and a task recognises a
duplicate among the packets returned for the flow of the frame that started it.
So duplicates are recognised across exits as long as frames of one flow have
started all the tasks.
-/

namespace MeshBus.Session

open Lib Kernel List
open Proto (Endpoint)

/-! ## One flow for all the tasks -/

/-- The numbers that a step put on the return channel. -/
def SystemOutput.delivers : SystemOutput → List Nat
  | .yielded _ _ events => events.filterMap dataSeq
  | _ => []

def deliveredIn (past : List (SystemStep × SystemOutput)) : List Nat :=
  past.flatMap fun entry => entry.2.delivers

/-- The step replicates its frame, and starts no poll task for a frame of another
flow: the frame belongs to the flow, or every exit that takes it has a task. -/
def KeepsToFlow (bus : Bus) (flowId : FlowId) (s : System) : SystemStep → Prop
  | .dispatch w => ∀ frame rest, s.submitted = frame :: rest →
      ∃ order, decisionFor bus (s.moment w frame) s.tables frame.hop = .replicate order ∧
        (frame.flowId = flowId ∨
          ∀ idx ∈ rankedEgresses bus (s.moment w frame) frame.hop order,
            ((s.adapters idx).send (w.replies idx) frame).2.success = true →
              s.tables.activeStreamPolls.lookup (s.session.sessionId, idx) ≠ none)
  | _ => True

/-- Every poll task of the session deduplicates under the same flow. -/
structure Deduplicates (flowId : FlowId) (s : System) : Prop where
  datagram : s.session.request.flowSemantics = .datagram
  submitted : ∀ frame ∈ s.submitted, frame.flowSemantics = .datagram
  polls : ∀ idx returnFrame,
    s.tables.activeStreamPolls.lookup (s.session.sessionId, idx) = some returnFrame →
      returnFrame.flowId = flowId ∧ returnFrame.returnSemantics = .packetDedup ∧
        returnFrame.flowSemantics = .datagram

section
variable {next : System × SystemOutput}

lemma Stepped.deduplicates (hstep : Stepped bus mintFor s step next)
    (hbds : s.tables.InBounds bus.egresses.length) (hdgrams : s.Datagrams)
    (h : Deduplicates flowId s) (hok : KeepsToFlow bus flowId s step) :
    Deduplicates flowId next.1 := by
  cases hstep with
  | sent =>
    refine ⟨h.datagram, fun frame hframe => ?_, h.polls⟩
    rcases mem_append.mp hframe with hold | hlast
    · exact h.submitted frame hold
    · rw [mem_singleton.mp hlast]
      exact h.datagram
  | failed hsubm hd =>
    exact ⟨h.datagram,
      fun frame hmem => h.submitted frame (hsubm ▸ mem_cons_of_mem _ hmem), h.polls⟩
  | @dispatched w frame rest d hsubm hd =>
    refine ⟨h.datagram, fun frame hmem => h.submitted frame (hsubm ▸ mem_cons_of_mem _ hmem), ?_⟩
    have hmem : frame ∈ s.submitted := hsubm ▸ mem_cons_self
    obtain ⟨hkind, hid⟩ := hdgrams frame hmem
    obtain ⟨order, hdcn, hflow⟩ := hok frame rest hsubm
    intro idx returnFrame hpoll
    rcases dispatch_polls hbds (carries_of_datagram hkind) hdcn hd hpoll with
      hold | ⟨rfl, hnone, hranked, -, htook⟩
    · exact h.polls idx returnFrame hold
    · refine ⟨?_, rfl, h.submitted frame hmem⟩
      rcases hflow with hflow | htasks
      · exact hflow
      · exact absurd hnone (htasks idx hranked htook)
  | @replied idx source payload now returnFrame pending hpoll hpend hidx =>
    obtain ⟨packets, htabs⟩ := sendReturnWithPacketId_tables s.tables returnFrame
      (.data (replySeq pending source) payload)
      (polledPacketId returnFrame (.data (replySeq pending source) payload))
    refine ⟨h.datagram, h.submitted, fun idx' frame hframe => h.polls idx' frame ?_⟩
    simpa only [System.afterReply, replyReturn, htabs] using hframe
  | ended hpoll =>
    refine ⟨h.datagram, h.submitted, fun idx' frame hframe => h.polls idx' frame ?_⟩
    simp only [System.afterEnd, Table.lookup_erase_if] at hframe
    split at hframe
    · cases hframe
    · exact hframe
  | _ => exact ⟨h.datagram, h.submitted, h.polls⟩

lemma Stepped.delivers (hstep : Stepped bus mintFor s step next) (hdgrams : s.Datagrams)
    (h : Deduplicates flowId s) :
    (next.2.delivers = [] ∧ s.tables.packetReturns ⊆ next.1.tables.packetReturns) ∨
      ∃ seq, next.2.delivers = [seq] ∧ (flowId, seq) ∉ s.tables.packetReturns ∧
        next.1.tables.packetReturns = (flowId, seq) :: s.tables.packetReturns := by
  cases hstep with
  | @dispatched w frame rest d hsubm hd =>
    obtain ⟨hkind, -⟩ := hdgrams frame (hsubm ▸ mem_cons_self)
    have hcarr := carries_of_datagram hkind
    have hquiet := dispatch_quiet (moment_silent s w hcarr) (by simp [hkind]) hcarr hd
    exact .inl ⟨rfl, fun p hp => hquiet.packets ▸ hp⟩
  | @replied idx source payload now returnFrame pending hpoll hpend hidx =>
    obtain ⟨hflow, hdedup, hdgram⟩ := h.polls idx returnFrame hpoll
    simp only [SystemOutput.delivers, System.afterReply, replyReturn, sendReturnWithPacketId,
      polledPacketId, hflow, hdedup, hdgram, reduceCtorEq, if_false, if_true]
    split
    · exact .inl ⟨rfl, fun _ hp => hp⟩
    · rename_i hnew
      exact .inr ⟨_, rfl, hnew, rfl⟩
  | _ => exact .inl ⟨rfl, fun _ hp => hp⟩

end

/-- In a run whose steps all replicate and keep to one flow for their poll tasks,
no number is delivered twice to the session. -/
theorem replicas_delivered_once (bus : Bus) (mintFor : MintFor) (flowId : FlowId)
    (sessionId : SessionId) (request : BusSessionRequest) (maxPayloadBytes : Nat)
    (tables : Tables) (adapters : Nat → DatagramEgressAdapter)
    (hdatagram : request.flowSemantics = .datagram) (hbounds : tables.InBounds bus.egresses.length)
    (hpolls : ∀ idx, tables.activeStreamPolls.lookup (sessionId, idx) = none)
    (steps : List SystemStep)
    (hsteps : Along (System.step bus mintFor) (fun _ => KeepsToFlow bus flowId) []
      (.new sessionId request maxPayloadBytes tables adapters) steps) :
    (deliveredIn (history (System.step bus mintFor)
      (.new sessionId request maxPayloadBytes tables adapters) steps)).Nodup := by
  have hrun := @run_invariant _ _ _ (System.step bus mintFor)
    (fun past s => s.tables.InBounds bus.egresses.length ∧ s.Datagrams ∧
      Deduplicates flowId s ∧ (deliveredIn past).Nodup ∧
        ∀ seq ∈ deliveredIn past, (flowId, seq) ∈ s.tables.packetReturns)
    (fun _ => KeepsToFlow bus flowId) ?_ steps [] _ ?_ hsteps
  · exact hrun.2.2.2.1
  · rintro past s step ⟨hbounds, hdgrams, h, hnodup, hrec⟩ hok
    have hstep := step_stepped bus mintFor s step
    refine ⟨hstep.inBounds hbounds, hstep.datagrams hdgrams,
      hstep.deduplicates hbounds hdgrams h hok, ?_⟩
    have hpast : deliveredIn (past ++ [(step, (s.step bus mintFor step).2)]) =
        deliveredIn past ++ (s.step bus mintFor step).2.delivers := by
      simp [deliveredIn]
    rw [hpast]
    rcases hstep.delivers hdgrams h with ⟨hnone, hsubset⟩ | ⟨seq, hone, hnew, hpkts⟩
    · rw [hnone, append_nil]
      exact ⟨hnodup, fun seq hseq => hsubset (hrec seq hseq)⟩
    · rw [hone, hpkts]
      refine ⟨nodup_append.mpr ⟨hnodup, nodup_singleton _, ?_⟩, ?_⟩
      · rintro x hx y hy rfl
        exact hnew (mem_singleton.mp hy ▸ hrec x hx)
      · intro x hx
        rcases mem_append.mp hx with hold | hlast
        · exact mem_cons_of_mem _ (hrec x hold)
        · rw [mem_singleton.mp hlast]
          exact mem_cons_self
  · refine ⟨hbounds, forall_mem_nil _,
      ⟨hdatagram, forall_mem_nil _, fun idx _ hpoll => ?_⟩, nodup_nil,
      forall_mem_nil _⟩
    have hnone := hpolls idx
    rw [show tables.activeStreamPolls.lookup (sessionId, idx) = _ from hpoll] at hnone
    cases hnone

/-! ## Two exits -/

def twoDatagramExits : Bus where
  egresses := [⟨"u", ⟨false, true, []⟩⟩, ⟨"v", ⟨false, true, []⟩⟩]
  retains pin alt := 5 * pin < 6 * alt

/-- Both exits take the datagram, or only the first one. -/
def replicating (second : Bool) : World :=
  { openWorld (.replicate [0, 1]) with
    replies := fun idx => ⟨none, if idx = 1 ∧ !second then some .bufferFull else none, 1⟩ }

def bothAnswer (source : Endpoint) : List SystemStep :=
  [.polled 0 (.ok (source, [2])) 0, .polled 1 (.ok (source, [2])) 0]

theorem replica_delivered_once :
    deliveredIn (history (System.step twoDatagramExits hostFlow) newSession
      ([.sendTo exampleEndpoint [1], .dispatch (replicating true)] ++
        bothAnswer exampleEndpoint)) = [0] ∧
    (deliveredIn (history (System.step twoDatagramExits hostFlow) newSession
      ([.sendTo exampleEndpoint [1], .dispatch (replicating true)] ++
        bothAnswer exampleEndpoint))).Nodup := by
  refine ⟨by decide +kernel, replicas_delivered_once twoDatagramExits hostFlow
    (hostFlow "s" exampleEndpoint) "s" (.datagram exampleEndpoint) 1500 .empty freshAdapter rfl
    (.empty _) (fun _ => rfl) _ ⟨trivial, fun frame rest hsubm => ?_, trivial, trivial, trivial⟩⟩
  obtain ⟨rfl, rfl⟩ := cons.inj hsubm
  exact ⟨[0, 1], rfl, .inl rfl⟩

/-- The second exit failed for the first datagram, so that its task was started by
a datagram to another target; the reply to that one is delivered twice. -/
theorem replica_delivered_twice :
    deliveredIn (history (System.step twoDatagramExits hostFlow) newSession
      ([.sendTo exampleEndpoint [1], .dispatch (replicating false),
        .sendTo otherEndpoint [1], .dispatch (replicating true)] ++
        bothAnswer otherEndpoint)) = [1, 1] := by
  decide +kernel

end MeshBus.Session
