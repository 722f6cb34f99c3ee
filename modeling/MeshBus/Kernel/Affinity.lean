import MeshBus.Kernel.Attempts

/-!
# Which exit carries a flow

The `Open` of a flow pins it to the exit that took it.  Later frames of a
forwarder flow go straight to that exit.  All others are scheduled again, and
stay on the exit as long as the pin holds: the exit is still among the
candidates and healthy, no alternative beats its score by more than the
hysteresis, and it takes the frame.
-/

namespace MeshBus.Kernel

open Lib List Option AList KernelStep

/-! ## Whether the pin holds -/

def scoreOf (bus : Bus) (m : Moment) (t : Tables) (frame : Frame) (idx : Nat) : Nat :=
  match bus.egresses[idx]? with
  | some exit => m.scheduler.scoreFor exit.id (candidatesFor bus m frame).1 (rankContext t frame)
  | none => 0

/-- The pinned exit is healthy, and no alternative is better by more than the
hysteresis. -/
def Retained (bus : Bus) (m : Moment) (t : Tables) (frame : Frame) (ranked : List Nat)
    (i : Nat) : Prop :=
  (∀ exit, bus.egresses[i]? = some exit → exit.id ∉ m.pinSnapshot.unhealthy) ∧
    ∀ alt, ranked.find? (· != i) = some alt →
      bus.retains (scoreOf bus m t frame i) (scoreOf bus m t frame alt) = true

/-- The scheduler puts the pinned exit first, or ranks it and the pin is retained. -/
def PinHolds (bus : Bus) (m : Moment) (t : Tables) (frame : Frame) (i : Nat) : Prop :=
  ∃ order, decisionFor bus m t frame = .ordered order ∧
    i ∈ rankedEgresses bus m frame order ∧
    ((rankedEgresses bus m frame order).head? = some i ∨
      Retained bus m t frame (rankedEgresses bus m frame order) i)

def KernelStep.Opens (flowId : FlowId) : KernelStep → Prop
  | .dispatch _ frame => frame.flowId = flowId ∧ frame.kind = .open
  | _ => False

/-- The step does not take the flow off its exit: it does not close the flow, and
if it dispatches one of its frames, the exit takes it, with the pin held unless
the flow has a forwarder. -/
def KernelStep.Stays (bus : Bus) (flowId : FlowId) (i : Nat) (t : Tables) : KernelStep → Prop
  | .dispatch m frame => frame.flowId = flowId → frame.ttl ≠ 0 → frame.Carries ∧
      ((forwarderState t frame).isSome ∨ PinHolds bus m t frame i) ∧
        (m.replies i).send.success = true
  | .polled key event _ => ∀ returnFrame reason,
      t.activeStreamPolls.lookup key = some returnFrame → returnFrame.flowId = flowId →
        event ≠ .closed reason
  | .forwarderClosed flowId' _ => flowId' ≠ flowId

/-- The flow is pinned to the exit, and so is its forwarder, if it has one. -/
structure OnExit (flowId : FlowId) (i : Nat) (t : Tables) : Prop where
  pin : t.flowPins.lookup flowId = some i
  sink : ∀ state, t.flowStates.lookup flowId = some state → state.shape = .forwarder →
    state.sinkIdx = i

lemma OnExit.congr (h : OnExit flowId i t)
    (hpins : t'.flowPins.lookup flowId = t.flowPins.lookup flowId)
    (hstates : t'.flowStates.lookup flowId = t.flowStates.lookup flowId) : OnExit flowId i t' :=
  ⟨hpins ▸ h.pin, hstates ▸ h.sink⟩

/-! ## The pin's place in the order -/

lemma head_applyPin (hi : i ∈ order)
    (hkept : order.head? = some i ∨ ∀ alt pinExit altExit, order.find? (· != i) = some alt →
      bus.egresses[i]? = some pinExit → bus.egresses[alt]? = some altExit →
        bus.retains (scheduler.scoreFor pinExit.id exits ctx)
          (scheduler.scoreFor altExit.id exits ctx) = true)
    (happly : applyPinWithHysteresis bus scheduler exits ctx i order = some order') :
    order'.head? = some i := by
  unfold applyPinWithHysteresis at happly
  split at happly
  · rename_i hnone
    simp only [findIdx?_eq_none_iff] at hnone
    simpa using hnone i hi
  · split at happly
    · cases happly
      rfl
    · split at happly
      · -- the order names no other egress
        rename_i hnoalt
        cases happly
        simp only [find?_eq_none] at hnoalt
        cases order with
        | nil => cases hi
        | cons first rest => simpa using hnoalt first mem_cons_self
      · rename_i alt halt
        simp only [bind_eq_bind, bind_eq_some_iff] at happly
        obtain ⟨pinExit, hpinE, altExit, haltE, hres⟩ := happly
        cases hres
        split
        · rfl
        · rename_i hloses
          rcases hkept with hhead | hret
          · exact hhead
          · exact absurd (hret alt pinExit altExit halt hpinE haltE) hloses

lemma validOrder_cons (hi : i < n) : ∃ rest', validOrder (i :: rest) n = i :: rest' := by
  refine ⟨validOrder.go n [i] rest, ?_⟩
  simp [validOrder, validOrder.go, hi]

section

lemma head_pinnedOrder (hpin : t.flowPins.lookup frame.flowId = some i) (hi : i ∈ ranked)
    (hkept : ranked.head? = some i ∨ Retained bus m t frame ranked i)
    (horder : pinnedOrder bus m t frame.flowId (candidatesFor bus m frame).1 (rankContext t frame)
      ranked = some order) : order.head? = some i := by
  simp only [pinnedOrder, hpin, bind_eq_bind, bind_eq_some_iff] at horder
  obtain ⟨exit, hexit, horder⟩ := horder
  split at horder
  · rename_i hunh
    cases horder
    rcases hkept with hhead | ⟨hheal, -⟩
    · exact hhead
    · exact absurd (by simpa using hunh) (hheal exit hexit)
  · refine head_applyPin hi (hkept.imp_right fun hret => ?_) horder
    intro alt pinExit altExit halt hpinE haltE
    simpa [scoreOf, hpinE, haltE] using hret.2 alt halt

/-! ## Taking a frame -/

lemma sendReturn_flowPins {event : ReturnEvent} :
    (sendReturn t frame event).1.flowPins = t.flowPins := by
  obtain ⟨packets, htabs⟩ := sendReturnWithPacketId_tables t frame event frame.packetId
  rw [sendReturn, htabs]

lemma sendReturn_flowStates {event : ReturnEvent} :
    (sendReturn t frame event).1.flowStates = t.flowStates := by
  obtain ⟨packets, htabs⟩ := sendReturnWithPacketId_tables t frame event frame.packetId
  rw [sendReturn, htabs]

section
variable (shape : DataplaneShape) (result : ExitResult)

lemma acceptSend_accepted : (acceptSend frame i shape result t).accepted = [i] := by
  simp only [acceptSend]
  split <;> rfl

lemma acceptSend_flowPins :
    (acceptSend frame i shape result t).tables.flowPins = t.flowPins.insert frame.flowId i := by
  simp only [acceptSend]
  split
  · rw [sendReturn_flowPins, ensureStreamPoll_flowPins]
    split <;> rfl
  · rw [ensureStreamPoll_flowPins]
    split <;> rfl

lemma acceptSend_flowStates : (acceptSend frame i shape result t).tables.flowStates =
      if frame.kind = .open then
        (registerFlow t frame i shape result.exitId).flowStates
      else
        t.flowStates := by
  simp only [acceptSend]
  split
  · rw [sendReturn_flowStates, ensureStreamPoll_flowStates]
    split <;> rfl
  · rw [ensureStreamPoll_flowStates]
    split <;> rfl

end

lemma registerFlow_onExit (t : Tables) (frame : Frame) (i : Nat) (shape : DataplaneShape)
    (exitId : ExitId) : OnExit frame.flowId i (registerFlow t frame i shape exitId) := by
  refine ⟨lookup_insert _, fun state hstate _ => ?_⟩
  simp only [registerFlow, lookup_insert, Option.some.injEq] at hstate
  rw [← hstate]

lemma acceptSend_onExit_of_open (hopen : frame.kind = .open) (shape : DataplaneShape)
    (result : ExitResult) : OnExit frame.flowId i (acceptSend frame i shape result t).tables := by
  refine (registerFlow_onExit t frame i shape result.exitId).congr ?_ ?_
  · rw [acceptSend_flowPins]
    rfl
  · rw [acceptSend_flowStates, if_pos hopen]

lemma OnExit.acceptSend (h : OnExit frame.flowId i t) (hkind : frame.kind ≠ .open)
    (shape : DataplaneShape) (result : ExitResult) :
    OnExit frame.flowId i (Kernel.acceptSend frame i shape result t).tables := by
  refine h.congr ?_ ?_
  · rw [acceptSend_flowPins, lookup_insert, h.pin]
  · rw [acceptSend_flowStates, if_neg hkind]

lemma dispatchScheduled_stays (h : OnExit frame.flowId i t) (hkind : frame.kind ≠ .open)
    (hholds : PinHolds bus m t frame i) (hacc : (m.replies i).send.success = true)
    (hd : dispatchScheduled bus m t frame = some d) :
    d.accepted = [i] ∧ OnExit frame.flowId i d.tables := by
  obtain ⟨order, hdcn, hi, hkept⟩ := hholds
  simp only [dispatchScheduled, hdcn] at hd
  obtain ⟨order', horder, hd⟩ := bind_eq_some_iff.mp hd
  have hhead := head_pinnedOrder h.pin hi hkept horder
  obtain ⟨rest, rfl⟩ := head?_eq_some_iff.mp hhead
  have hlt : i < bus.egresses.length := by
    obtain ⟨c, hc, rfl⟩ := mem_map.mp (mem_of_mem_mapCandidateOrder hi)
    exact egressIdx_lt (permitted_of_chosen hc).capable
  obtain ⟨rest', hvalid⟩ := validOrder_cons hlt
  rw [hvalid] at hd
  obtain ⟨exit, -, hcases⟩ := dispatchOrdered_cons hd
  have hvia : (frame.via exit).kind ≠ .open := hkind
  rw [attempt_of_not_open hvia, attemptSend, if_pos hacc] at hcases
  rcases hcases with ⟨d', hatt, htabs, haccepted⟩ | ⟨event, d', hatt, -⟩
  · cases hatt
    have hon : OnExit (frame.via exit).flowId i t := h
    rw [htabs, haccepted, acceptSend_accepted]
    exact ⟨rfl, hon.acceptSend hvia _ _⟩
  · cases hatt

lemma dispatchForwarderFrame_stays (h : OnExit frame.flowId i t)
    (hsink : state.sinkIdx = i) (hacc : (m.replies i).send.success = true)
    (hd : dispatchForwarderFrame bus m t state frame = some d) :
    d.accepted = [i] ∧ OnExit frame.flowId i d.tables := by
  simp only [dispatchForwarderFrame, bind_eq_bind, bind_eq_some_iff] at hd
  obtain ⟨-, -, hd⟩ := hd
  rw [hsink, if_pos hacc] at hd
  split at hd
  · cases hd
    exact ⟨rfl, h.congr (by rw [sendReturn_flowPins]) (by rw [sendReturn_flowStates])⟩
  · cases hd
    exact ⟨rfl, h⟩

lemma attempt_onExit_of_open
    (hopen : frame.kind = .open) (hatt : (attempt exit frame idx reply t).2 = .handled d)
    (hi : i ∈ d.accepted) : OnExit frame.flowId i d.tables := by
  have hsend : ∀ shape, attemptSend frame idx shape reply.send t = .handled d →
      OnExit frame.flowId i d.tables := by
    intro shape hsend
    unfold attemptSend at hsend
    split at hsend
    · cases hsend
      rw [acceptSend_accepted, mem_singleton] at hi
      rw [hi]
      exact acceptSend_onExit_of_open hopen _ _
    · cases hsend
  unfold attempt at hatt
  split at hatt
  · split at hatt
    · rw [← AttemptEnd.handled.inj hatt] at hi ⊢
      rw [mem_singleton.mp hi]
      exact (registerFlow_onExit t frame idx _ _).congr (by rw [sendReturn_flowPins])
        (by rw [sendReturn_flowStates])
    · cases hatt
    · exact hsend _ hatt
  · split at hatt
    · cases hatt
      rw [mem_singleton.mp hi]
      exact registerFlow_onExit t frame idx _ _
    · cases hatt
    · cases hatt
      cases hi
  · exact hsend _ hatt

lemma dispatchOrdered_onExit_of_open (order : List Nat) (lastFailure : Option ReturnEvent)
    (frame : Frame) (hopen : frame.kind = .open)
    (hd : dispatchOrdered bus m t order lastFailure frame = some d) (hi : i ∈ d.accepted) :
    OnExit frame.flowId i d.tables := by
  induction order generalizing lastFailure frame d with
  | nil =>
    cases hd
    cases hi
  | cons idx rest ih =>
    obtain ⟨exit, -, ⟨d', hatt, htabs, hacc⟩ |
      ⟨event, d', -, hrest, htabs, hacc⟩⟩ := dispatchOrdered_cons hd
    · have hvia : (frame.via exit).kind = .open := hopen
      have hon := attempt_onExit_of_open hvia hatt (hacc ▸ hi)
      exact htabs ▸ hon
    · have hon := ih _ (frame.via exit) hopen hrest (hacc ▸ hi)
      exact htabs ▸ hon

end

/-! ## Runs -/

def acceptedBy (bus : Bus) (t : Tables) (step : KernelStep) : List Nat :=
  match (kernelStep bus t step).2 with
  | some d => d.accepted
  | none => []

lemma dispatch_onExit_of_open (hopen : frame.kind = .open)
    (hord : decisionFor bus m t frame = .ordered order)
    (hi : i ∈ acceptedBy bus t (.dispatch m frame)) :
    OnExit frame.flowId i (kernelStep bus t (.dispatch m frame)).1 := by
  simp only [acceptedBy, kernelStep] at hi ⊢
  cases hd : dispatch bus m t frame with
  | none => simp [hd] at hi
  | some d =>
    simp only [hd] at hi ⊢
    have hdcn : decisionFor bus m t frame.hop = .ordered order := hord
    rcases dispatch_cases hd with
      ⟨-, rfl⟩ | ⟨-, -, state, hstate, -⟩ | ⟨-, -, -, hd⟩ | ⟨-, hends, -⟩
    · cases hi
    · exact absurd hopen (lookup_of_forwarderState hstate).1
    · simp only [dispatchScheduled, hdcn] at hd
      obtain ⟨order', -, hd⟩ := bind_eq_some_iff.mp hd
      have hon := dispatchOrdered_onExit_of_open _ _ frame.hop hopen hd hi
      exact hon
    · exact absurd (by simp [Frame.Carries, hopen]) hends

lemma OnExit.update_other (h : OnExit flowId i t) (hne : flowId ≠ flowId')
    (hupd : Update n flowId' sessionId t t') : OnExit flowId i t' := by
  cases hupd with
  | pinned idx hidx => exact h.congr (lookup_insert_ne hne) rfl
  | unpinned => exact h.congr (lookup_erase_ne hne) rfl
  | registered frame idx shape exitId hidx hflow =>
    subst hflow
    exact h.congr (lookup_insert_ne hne) (lookup_insert_ne hne)
  | polled frame idx hidx hflow hsess =>
    exact h.congr (by rw [ensureStreamPoll_flowPins]) (by rw [ensureStreamPoll_flowStates])
  | closed now => exact h.congr (lookup_erase_ne hne) (lookup_erase_ne hne)
  | _ => exact h.congr rfl rfl

lemma OnExit.step_other (h : OnExit flowId i t) {step : KernelStep}
    (hother : step.flow t ≠ some flowId) : OnExit flowId i (kernelStep bus t step).1 := by
  rcases kernelStep_updates bus t step with hsame | ⟨flowId', sessionId, hflow, hups⟩
  · rw [hsame]
    exact h
  · have hne : flowId ≠ flowId' := fun heq => hother (heq ▸ hflow)
    exact hups.preserve (fun _ _ hupd ht => ht.update_other hne hupd) h

lemma OnExit.dispatch (h : OnExit frame.flowId i t) (hkind : frame.kind ≠ .open)
    (hstays : KernelStep.Stays bus frame.flowId i t (.dispatch m frame))
    (hd : Kernel.dispatch bus m t frame = some d) :
    OnExit frame.flowId i d.tables ∧ ∀ j ∈ d.accepted, j = i := by
  rcases dispatch_cases hd with
    ⟨-, rfl⟩ | ⟨httl, -, state, hstate, hd⟩ | ⟨httl, -, hstate, hd⟩ | ⟨httl, hends, -⟩
  · exact ⟨h, forall_mem_nil _⟩
  · obtain ⟨-, -, hacc⟩ := hstays rfl httl
    obtain ⟨-, hlook, hshape⟩ := lookup_of_forwarderState hstate
    have hon : OnExit frame.hop.flowId i t := h
    obtain ⟨haccepted, hon'⟩ := dispatchForwarderFrame_stays hon (h.sink state hlook hshape) hacc hd
    exact ⟨hon', fun j hj => by simpa [haccepted] using hj⟩
  · obtain ⟨-, hholds, hacc⟩ := hstays rfl httl
    have hpin : PinHolds bus m t frame.hop i := hholds.resolve_left (by simp [hstate])
    have hon : OnExit frame.hop.flowId i t := h
    obtain ⟨haccepted, hon'⟩ := dispatchScheduled_stays hon hkind hpin hacc hd
    exact ⟨hon', fun j hj => by simpa [haccepted] using hj⟩
  · exact absurd (hstays rfl httl).1 hends

/-- As long as nothing takes the flow off its exit, it stays there, and only that
exit takes its frames. -/
lemma OnExit.step {bus : Bus} {i : Nat} {t : Tables} (h : OnExit flowId i t) (step : KernelStep)
    (hopens : ¬step.Opens flowId) (hstays : step.Stays bus flowId i t) :
    OnExit flowId i (kernelStep bus t step).1 ∧
      ∀ m frame, step = .dispatch m frame → frame.flowId = flowId →
        ∀ j ∈ acceptedBy bus t step, j = i := by
  cases step with
  | dispatch m frame =>
    by_cases hflow : frame.flowId = flowId
    · subst hflow
      have hkind : frame.kind ≠ .open := fun hkind => hopens ⟨rfl, hkind⟩
      simp only [acceptedBy, kernelStep]
      cases hd : Kernel.dispatch bus m t frame with
      | none => exact ⟨h, fun _ _ _ _ => forall_mem_nil _⟩
      | some d =>
        obtain ⟨hon, hacc⟩ := h.dispatch hkind hstays hd
        exact ⟨hon, fun _ _ _ _ => hacc⟩
    · refine ⟨h.step_other (by simpa [flow] using hflow), ?_⟩
      rintro _ _ ⟨⟩ hflow'
      exact absurd hflow' hflow
  | polled key event now =>
    refine ⟨?_, fun _ _ hstep => by cases hstep⟩
    by_cases hflow : (polled key event now).flow t = some flowId
    · obtain ⟨returnFrame, hpoll, hflow⟩ := map_eq_some_iff.mp hflow
      simp only [kernelStep, hpoll]
      cases hturn : pollTurn bus t key returnFrame event now with
      | none => exact h
      | some polled =>
        obtain ⟨packets, htabs⟩ := pollTurn_tables
          (fun reason => hstays returnFrame reason hpoll hflow) hturn
        simp only [htabs]
        exact h.congr rfl rfl
    · exact h.step_other hflow
  | forwarderClosed flowId' now =>
    have hne : flowId' ≠ flowId := hstays
    refine ⟨h.step_other (by simpa [flow] using hne), ?_⟩
    intro _ _ hstep
    cases hstep

def taking : EgressReplies where
  openForwarderStream := none
  openForwarderDatagram := none
  send := ⟨"", true, 1, none, .idle⟩

/-- Both exits take everything; the scheduler ranks them as told and prefers the
second by far. -/
def ranking (order : List Nat) : Moment where
  scheduler :=
    { schedule := fun _ _ => .ordered order
      scoreFor := fun exit _ _ => if exit = "a" then 200 else 100 }
  snapshot := ⟨[]⟩
  pinSnapshot := ⟨[]⟩
  replies _ := taking
  race := id
  race_perm := List.Perm.refl
  now := 0

def dedupFrame (kind : FrameKind) (packetId : PacketId) : Frame :=
  { exampleFrame with kind, packetId, seq := packetId, returnSemantics := .packetDedup }

end MeshBus.Kernel
