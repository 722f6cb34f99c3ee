import MeshBus.Kernel.Dispatch

/-!
# What a step does to the tables

All changes that a dispatch or a poll makes to the shared tables are a few kinds
of updates, each for the flow and session of the frame at hand.  Invariants of
the tables are proved for one update.
-/

namespace MeshBus.Kernel

open Lib List Option Relation.ReflTransGen

/-- One change to the tables, for a flow of a session on a bus of `n` egresses. -/
inductive Update (n : Nat) (flowId : FlowId) (sessionId : SessionId) : Tables → Tables → Prop where
  | pinned {t : Tables} (idx : Nat) (hidx : idx < n) :
      Update n flowId sessionId t { t with flowPins := t.flowPins.insert flowId idx }
  | unpinned {t : Tables} :
      Update n flowId sessionId t { t with flowPins := t.flowPins.erase flowId }
  | registered {t : Tables} (frame : Frame) (idx : Nat) (shape : DataplaneShape)
      (exitId : ExitId) (hidx : idx < n) (hflow : frame.flowId = flowId) :
      Update n flowId sessionId t (registerFlow t frame idx shape exitId)
  | polled {t : Tables} (frame : Frame) (idx : Nat) (hidx : idx < n)
      (hflow : frame.flowId = flowId) (hsession : frame.sessionId = sessionId) :
      Update n flowId sessionId t (ensureStreamPoll t frame idx)
  | returned {t : Tables} (packets : List (FlowId × PacketId))
      (hpackets : ∀ p ∈ packets, p ∈ t.packetReturns ∨ p.1 = flowId) :
      Update n flowId sessionId t { t with packetReturns := packets }
  | closed {t : Tables} (now : Nat) : Update n flowId sessionId t (closeFlow t flowId now)
  /-- Poll tasks end. -/
  | ended {t : Tables} (polls : Table (SessionId × Nat) Frame)
      (hpolls : ∀ key frame, polls.lookup key = some frame →
        t.activeStreamPolls.lookup key = some frame) :
      Update n flowId sessionId t { t with activeStreamPolls := polls }

abbrev Updates (n : Nat) (flowId : FlowId) (sessionId : SessionId) : Tables → Tables → Prop :=
  Relation.ReflTransGen (Update n flowId sessionId)

lemma Updates.preserve {P : Tables → Prop} (h : Updates n flowId sessionId t t')
    (hupd : ∀ t t', Update n flowId sessionId t t' → P t → P t') (ht : P t) : P t' := by
  induction h with
  | refl => exact ht
  | tail _ hlast ih => exact hupd _ _ hlast ih

section

lemma sendReturnWithPacketId_updates (n : Nat) (sessionId : SessionId) (t : Tables)
    (frame : Frame) (event : ReturnEvent) (packetId : PacketId) :
    Updates n frame.flowId sessionId t (sendReturnWithPacketId t frame event packetId).1 := by
  unfold sendReturnWithPacketId
  split
  · exact .refl
  · split
    · exact .refl
    · apply single
      apply Update.returned
      intro p hp
      rcases mem_cons.mp hp with rfl | hp
      · exact .inr rfl
      · exact .inl hp

lemma acceptSend_updates (hidx : idx < n) {result : ExitResult} :
    Updates n frame.flowId frame.sessionId t (acceptSend frame idx shape result t).tables := by
  simp only [acceptSend]
  set registered := if frame.kind = .open then registerFlow t frame idx shape result.exitId
    else { t with flowPins := t.flowPins.insert frame.flowId idx } with hreg
  have hfirst : Updates n frame.flowId frame.sessionId t registered := by
    rw [hreg]
    split
    · exact .single (.registered frame idx shape _ hidx rfl)
    · exact .single (.pinned idx hidx)
  have hpolled := hfirst.tail (.polled frame idx hidx rfl rfl)
  split
  · exact hpolled.trans (sendReturnWithPacketId_updates n _ _ frame _ _)
  · exact hpolled

lemma attemptSend_updates (hidx : idx < n)
    (hsend : attemptSend frame idx shape result t = .handled d) :
    Updates n frame.flowId frame.sessionId t d.tables := by
  unfold attemptSend at hsend
  split at hsend
  · cases hsend
    exact acceptSend_updates hidx
  · cases hsend

lemma attempt_updates (hidx : idx < n) (hatt : (attempt exit frame idx reply t).2 = .handled d) :
    Updates n frame.flowId frame.sessionId t d.tables := by
  unfold attempt at hatt
  split at hatt
  · split at hatt
    · cases hatt
      have hreg : Updates n frame.flowId frame.sessionId t
          (registerFlow t frame idx .forwarder exit.id) :=
        .single (.registered frame idx .forwarder exit.id hidx rfl)
      exact hreg.trans (sendReturnWithPacketId_updates n _ _ frame _ _)
    · cases hatt
    · exact attemptSend_updates hidx hatt
  · split at hatt
    · cases hatt
      exact .single (.registered frame idx _ _ hidx rfl)
    · cases hatt
    · cases hatt
      exact .refl
  · exact attemptSend_updates hidx hatt

lemma attempt_of_not_open (hkind : frame.kind ≠ .open) :
    attempt exit frame idx reply t =
      ([.send], attemptSend frame idx .frameRouter reply.send t) := by
  simp [attempt, shapeFor, hkind]

lemma dispatchOrdered_cons
    (hd : dispatchOrdered bus m t (idx :: rest) lastFailure frame = some d) :
    ∃ exit, bus.egresses[idx]? = some exit ∧
      ((∃ d', (attempt exit (frame.via exit) idx (m.replies idx) t).2 = .handled d' ∧
          d.tables = d'.tables ∧ d.accepted = d'.accepted) ∨
        ∃ event d', (attempt exit (frame.via exit) idx (m.replies idx) t).2 = .failed event ∧
          dispatchOrdered bus m t rest (some event) (frame.via exit) = some d' ∧
          d.tables = d'.tables ∧ d.accepted = d'.accepted) := by
  simp only [dispatchOrdered, bind_eq_bind, bind_eq_some_iff] at hd
  obtain ⟨exit, hexit, hd⟩ := hd
  refine ⟨exit, hexit, ?_⟩
  split at hd
  · rename_i calls d' hatt
    cases hd
    exact .inl ⟨d', by rw [hatt], rfl, rfl⟩
  · rename_i calls event hatt
    obtain ⟨d', hd', hd⟩ := bind_eq_some_iff.mp hd
    cases hd
    exact .inr ⟨event, d', by rw [hatt], hd', rfl, rfl⟩

lemma dispatchOrdered_updates (order : List Nat) (lastFailure : Option ReturnEvent)
    (frame : Frame) (hd : dispatchOrdered bus m t order lastFailure frame = some d) :
    Updates bus.egresses.length frame.flowId frame.sessionId t d.tables := by
  induction order generalizing lastFailure frame d with
  | nil =>
    cases hd
    exact .refl
  | cons idx rest ih =>
    obtain ⟨exit, hexit, ⟨d', hatt, htabs, -⟩ | ⟨event, d', -, hrest, htabs, -⟩⟩ :=
      dispatchOrdered_cons hd
    · have hups := attempt_updates (List.getElem?_eq_some_iff.mp hexit).1 hatt
      rw [htabs]
      exact hups
    · have hups := ih _ _ hrest
      rw [htabs]
      exact hups

lemma collectReplies_updates (frame : Frame) (order : List Nat) (returned : Bool) (t : Tables)
    (hlt : ∀ idx ∈ order, idx < n) :
    Updates n frame.flowId frame.sessionId t (collectReplies m frame order returned t).tables := by
  induction order generalizing returned t with
  | nil => exact .refl
  | cons idx rest ih =>
    have hidx := hlt idx mem_cons_self
    have hrest : ∀ idx ∈ rest, idx < n := fun idx hmem => hlt idx (mem_cons_of_mem _ hmem)
    have hpolled : Updates n frame.flowId frame.sessionId t (ensureStreamPoll t frame idx) :=
      .single (.polled frame idx hidx rfl rfl)
    simp only [collectReplies]
    split
    · split
      · exact hpolled.trans (ih true _ hrest)
      · have hpin := hpolled.tail (.pinned idx hidx)
        split
        · exact (hpin.trans (sendReturnWithPacketId_updates n _ _ frame _ _)).trans
            (ih true _ hrest)
        · exact hpin.trans (ih true _ hrest)
    · exact ih returned t hrest

lemma dispatchReplicate_updates (hd : dispatchReplicate bus m t order frame = some d) :
    Updates bus.egresses.length frame.flowId frame.sessionId t d.tables := by
  simp only [dispatchReplicate] at hd
  split at hd
  · cases hd
    exact .refl
  · obtain ⟨-, -, hd⟩ := bind_eq_some_iff.mp hd
    cases hd
    refine collectReplies_updates frame _ false t fun idx hmem => ?_
    exact (mem_of_mem_validOrder ((m.race_perm _).mem_iff.mp hmem)).2

lemma dispatchScheduled_updates (hd : dispatchScheduled bus m t frame = some d) :
    Updates bus.egresses.length frame.flowId frame.sessionId t d.tables := by
  simp only [dispatchScheduled] at hd
  split at hd
  · obtain ⟨order, -, hd⟩ := bind_eq_some_iff.mp hd
    exact dispatchOrdered_updates _ _ _ hd
  · obtain ⟨order, -, hd⟩ := bind_eq_some_iff.mp hd
    have hups := dispatchReplicate_updates hd
    exact hups

lemma dispatchForwarderFrame_updates (hd : dispatchForwarderFrame bus m t state frame = some d) :
    Updates bus.egresses.length frame.flowId frame.sessionId t d.tables := by
  simp only [dispatchForwarderFrame, bind_eq_bind, bind_eq_some_iff] at hd
  obtain ⟨-, -, hd⟩ := hd
  split at hd
  · split at hd
    · cases hd
      exact sendReturnWithPacketId_updates _ _ t frame _ _
    · cases hd
      exact .refl
  · cases hd
    exact .single (.closed m.now)

lemma endFlow_updates (hd : endFlow bus m t frame = some d) :
    Updates bus.egresses.length frame.flowId frame.sessionId t d.tables := by
  simp only [endFlow] at hd
  split at hd
  · cases hd
    have hpolls : ∀ key frame',
        (t.activeStreamPolls.retain fun key _ => key.1 ≠ frame.sessionId).lookup key =
          some frame' → t.activeStreamPolls.lookup key = some frame' :=
      fun _ _ => Table.lookup_of_retain
    exact (((single .unpinned).tail (.ended _ hpolls)).tail
      (.closed m.now)).tail (.returned _ fun p hp => .inl (mem_of_mem_filter hp))
  · cases hd

lemma dispatch_cases (hd : dispatch bus m t frame = some d) :
    (frame.ttl = 0 ∧ d = { tables := t, returns := [.closed .ttlExpired] }) ∨
    (frame.ttl ≠ 0 ∧ frame.Carries ∧ ∃ state, forwarderState t frame = some state ∧
      dispatchForwarderFrame bus m t state frame.hop = some d) ∨
    (frame.ttl ≠ 0 ∧ frame.Carries ∧ forwarderState t frame = none ∧
      dispatchScheduled bus m t frame.hop = some d) ∨
    (frame.ttl ≠ 0 ∧ ¬frame.Carries ∧ endFlow bus m t frame.hop = some d) := by
  unfold dispatch at hd
  split at hd
  · rename_i httl
    exact .inl ⟨httl, (Option.some.inj hd).symm⟩
  · rename_i httl
    split at hd
    · rename_i hcarr
      split at hd
      · rename_i state hstate
        exact .inr (.inl ⟨httl, hcarr, state, hstate, hd⟩)
      · rename_i hstate
        exact .inr (.inr (.inl ⟨httl, hcarr, hstate, hd⟩))
    · rename_i hends
      exact .inr (.inr (.inr ⟨httl, hends, hd⟩))

lemma dispatch_updates (frame : Frame) (hd : dispatch bus m t frame = some d) :
    Updates bus.egresses.length frame.flowId frame.sessionId t d.tables := by
  rcases dispatch_cases hd with
    ⟨-, rfl⟩ | ⟨-, -, state, -, hd⟩ | ⟨-, -, -, hd⟩ | ⟨-, -, hd⟩
  · exact .refl
  · have hups := dispatchForwarderFrame_updates hd
    exact hups
  · have hups := dispatchScheduled_updates hd
    exact hups
  · have hups := endFlow_updates hd
    exact hups

lemma endPoll_updates (n : Nat) (t : Tables) (key : SessionId × Nat) (flowId : FlowId)
    (now : Nat) :
    Updates n flowId key.1 t
      { closeFlow t flowId now with activeStreamPolls := t.activeStreamPolls.erase key } := by
  refine (single (.closed now)).tail (.ended _ fun key' frame hlook => ?_)
  rw [Table.lookup_erase_if] at hlook
  split at hlook
  · cases hlook
  · exact hlook

lemma pollTurn_updates (hpoll : pollTurn bus t key returnFrame event now = some polled) :
    Updates n returnFrame.flowId key.1 t polled.1 := by
  simp only [pollTurn, bind_eq_bind, bind_eq_some_iff] at hpoll
  obtain ⟨-, -, hpoll⟩ := hpoll
  cases event with
  | idle =>
    cases hpoll
    exact .refl
  | closed reason =>
    cases hpoll
    exact endPoll_updates n t key returnFrame.flowId now
  | _ =>
    cases hpoll
    exact sendReturnWithPacketId_updates n key.1 t returnFrame _ _

lemma pollTurn_tables (hevent : ∀ reason, event ≠ .closed reason)
    (hpoll : pollTurn bus t key returnFrame event now = some polled) :
    ∃ packets, polled.1 = { t with packetReturns := packets } := by
  simp only [pollTurn, bind_eq_bind, bind_eq_some_iff] at hpoll
  obtain ⟨-, -, hpoll⟩ := hpoll
  cases event with
  | idle =>
    cases hpoll
    exact ⟨t.packetReturns, rfl⟩
  | closed reason => exact absurd rfl (hevent reason)
  | _ =>
    cases hpoll
    exact sendReturnWithPacketId_tables t returnFrame _ _

end

def KernelStep.flow (t : Tables) : KernelStep → Option FlowId
  | .dispatch _ frame => some frame.flowId
  | .polled key _ _ => (t.activeStreamPolls.lookup key).map (·.flowId)
  | .forwarderClosed flowId _ => some flowId

lemma kernelStep_updates (bus : Bus) (t : Tables) (step : KernelStep) :
    (kernelStep bus t step).1 = t ∨ ∃ flowId sessionId, step.flow t = some flowId ∧
      Updates bus.egresses.length flowId sessionId t (kernelStep bus t step).1 := by
  cases step with
  | dispatch m frame =>
    simp only [kernelStep]
    split
    · rename_i d hd
      exact .inr ⟨frame.flowId, frame.sessionId, rfl, dispatch_updates frame hd⟩
    · exact .inl rfl
  | polled key event now =>
    simp only [kernelStep]
    split
    · exact .inl rfl
    · rename_i returnFrame hpoll
      split
      · rename_i t' returns hpolled
        exact .inr ⟨returnFrame.flowId, key.1, by simp [KernelStep.flow, hpoll],
          pollTurn_updates hpolled⟩
      · exact .inl rfl
  | forwarderClosed flowId now => exact .inr ⟨flowId, "", rfl, .single (.closed now)⟩

end MeshBus.Kernel
