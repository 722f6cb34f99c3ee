import MeshBus.Kernel.Updates
import MeshBus.Lib.Run

/-!
# Which exits a dispatch tries

Whatever the scheduler answers, the order in which the exits are tried is made
of positions of chosen candidates, each at most once.  The indices kept in the
tables stay positions of egresses, so no lookup in the list of egresses fails.
-/

namespace MeshBus.Kernel

open Lib List Option Table

/-! ## Candidates -/

lemma egress_of_mem_bucket (hc : c ∈ bucket egresses want) :
    ∃ e, egresses[c.egressIdx]? = some e ∧ capabilityMatchesFlow e.capabilities want = true ∧
      c.exitId = e.id ∧ c.groups = e.capabilities.groups := by
  obtain ⟨⟨e, idx⟩, hmem, hsome⟩ := mem_filterMap.mp hc
  have hat := mem_zipIdx_iff_getElem?.mp hmem
  simp only at hsome hat
  split at hsome
  · rename_i hcap
    cases hsome
    exact ⟨e, hat, hcap, rfl, rfl⟩
  · cases hsome

lemma egressIdx_lt (hc : c ∈ bucket egresses want) : c.egressIdx < egresses.length := by
  obtain ⟨e, hat, -⟩ := egress_of_mem_bucket hc
  exact (List.getElem?_eq_some_iff.mp hat).1

lemma CompiledCandidate.matches_iff (c : CompiledCandidate)
    (routeGroup targetSink : Option String) :
    c.matches routeGroup targetSink = true ↔
      (∀ group, routeGroup = some group → group ∈ c.groups) ∧
        (∀ sink, targetSink = some sink → c.exitId = sink) := by
  cases routeGroup <;> cases targetSink <;> simp [CompiledCandidate.matches, and_comm]

/-- The candidate may carry the frame under this health snapshot. -/
structure Permitted (bus : Bus) (snapshot : HealthSnapshot) (frame : Frame)
    (c : CompiledCandidate) : Prop where
  capable : c ∈ bucket bus.egresses frame.flowSemantics
  in_group : ∀ group, frame.routeGroup = some group → group ∈ c.groups
  is_sink : ∀ sink, frame.targetSink = some sink → c.exitId = sink
  /-- An unhealthy exit is a last resort of frames without any constraint. -/
  last_resort : c.exitId ∈ snapshot.unhealthy →
    frame.routeGroup = none ∧ frame.targetSink = none ∧
      ∀ c' ∈ bucket bus.egresses frame.flowSemantics, c'.exitId ∈ snapshot.unhealthy

abbrev candidatesOf (bus : Bus) (snapshot : HealthSnapshot) (frame : Frame) :
    List CompiledCandidate :=
  chosenCandidates bus.egresses snapshot frame.flowSemantics frame.routeGroup frame.targetSink

lemma permitted_of_chosen (hc : c ∈ candidatesOf bus snapshot frame) :
    Permitted bus snapshot frame c := by
  simp only [candidatesOf, chosenCandidates] at hc
  have hmatc : ∀ c, c ∈ (bucket bus.egresses frame.flowSemantics).filter
      (·.matches frame.routeGroup frame.targetSink) →
      c ∈ bucket bus.egresses frame.flowSemantics ∧
        (∀ group, frame.routeGroup = some group → group ∈ c.groups) ∧
          ∀ sink, frame.targetSink = some sink → c.exitId = sink := by
    intro c hmem
    rw [mem_filter, CompiledCandidate.matches_iff] at hmem
    exact hmem
  split at hc
  · rename_i hempty
    split at hc
    · cases hc
    · -- no healthy candidate, and no constraint: every match is unhealthy
      rename_i hfree
      obtain ⟨hbkt, hgroup, hsink⟩ := hmatc c hc
      simp only [Bool.or_eq_true, isSome_iff_ne_none, not_or, not_not] at hfree
      refine ⟨hbkt, hgroup, hsink, fun _ => ⟨hfree.1, hfree.2, fun c' hc' => ?_⟩⟩
      rw [List.isEmpty_iff, filter_eq_nil_iff] at hempty
      have hmatch : c'.matches frame.routeGroup frame.targetSink = true := by
        simp [CompiledCandidate.matches, hfree.1, hfree.2]
      simpa using hempty c' (mem_filter.mpr ⟨hc', hmatch⟩)
  · obtain ⟨hmem, hheal⟩ := mem_filter.mp hc
    obtain ⟨hbkt, hgroup, hsink⟩ := hmatc c hmem
    refine ⟨hbkt, hgroup, hsink, fun hunh => ?_⟩
    simp [hunh] at hheal

/-! ## The order of the attempts -/

lemma mem_of_mem_mapCandidateOrder
    (h : idx ∈ mapCandidateOrder order candidateMap) : idx ∈ candidateMap := by
  obtain ⟨_, _, hget⟩ := mem_filterMap.mp h
  exact List.mem_of_getElem? hget

section
variable {order : List Nat}

lemma cons_eraseIdx_perm (h : order.findIdx? (· == pinned) = some pos) :
    (pinned :: order.eraseIdx pos).Perm order := by
  obtain ⟨hlt, hat, -⟩ := findIdx?_eq_some_iff_getElem.mp h
  have hpin : order[pos] = pinned := by simpa using hat
  simpa [hpin] using getElem_cons_eraseIdx_perm hlt

lemma applyPin_perm {ctx : RankContext} (hpin : pinned < bus.egresses.length)
    (horder : ∀ idx ∈ order, idx < bus.egresses.length) :
    ∃ order', applyPinWithHysteresis bus scheduler candidates ctx pinned order = some order' ∧
      order'.Perm order := by
  unfold applyPinWithHysteresis
  split
  · exact ⟨order, rfl, .refl _⟩
  · rename_i pos hpos
    have hperm := cons_eraseIdx_perm hpos
    split
    · exact ⟨_, rfl, hperm⟩
    · split
      · exact ⟨order, rfl, .refl _⟩
      · rename_i alt halt
        have hlt := horder alt (mem_of_find?_eq_some halt)
        rw [getElem?_eq_getElem hpin, getElem?_eq_getElem hlt]
        refine ⟨_, rfl, ?_⟩
        split
        · exact hperm
        · exact .refl _

lemma pinnedOrder_perm {ctx : RankContext}
    (hpins : ∀ idx, t.flowPins.lookup flowId = some idx → idx < bus.egresses.length)
    (horder : ∀ idx ∈ order, idx < bus.egresses.length) :
    ∃ order', pinnedOrder bus m t flowId candidates ctx order = some order' ∧
      order'.Perm order := by
  unfold pinnedOrder
  cases hpin : t.flowPins.lookup flowId with
  | none => exact ⟨order, rfl, .refl _⟩
  | some pinned =>
    have hlt := hpins pinned hpin
    simp only [getElem?_eq_getElem hlt, bind_eq_bind, bind_some]
    split
    · exact ⟨order, rfl, .refl _⟩
    · exact applyPin_perm hlt horder

end

/-! ## Indices -/

/-- Every index kept in the tables is the position of an egress. -/
structure Tables.InBounds (n : Nat) (t : Tables) : Prop where
  pins : ∀ flowId idx, t.flowPins.lookup flowId = some idx → idx < n
  states : ∀ flowId state, t.flowStates.lookup flowId = some state → state.sinkIdx < n
  polls : ∀ key frame, t.activeStreamPolls.lookup key = some frame → key.2 < n

namespace Tables.InBounds

lemma empty (n : Nat) : Tables.empty.InBounds n :=
  ⟨fun _ _ h => (by cases h), fun _ _ h => (by cases h), fun _ _ h => (by cases h)⟩

lemma update (h : t.InBounds n) (hupd : Update n flowId sessionId t t') : t'.InBounds n := by
  cases hupd with
  | pinned idx hidx =>
    refine ⟨fun flowId' idx' hlook => ?_, h.states, h.polls⟩
    rw [lookup_insert_if] at hlook
    split at hlook
    · cases hlook
      exact hidx
    · exact h.pins _ _ hlook
  | unpinned =>
    refine ⟨fun flowId' idx hlook => ?_, h.states, h.polls⟩
    rw [lookup_erase_if] at hlook
    split at hlook
    · cases hlook
    · exact h.pins _ _ hlook
  | registered frame idx shape exitId hidx hflow =>
    refine ⟨fun flowId' idx' hlook => ?_, fun flowId' state hlook => ?_, h.polls⟩
    all_goals
      simp only [registerFlow, lookup_insert_if] at hlook
      split at hlook
      · cases hlook
        exact hidx
    · exact h.pins _ _ hlook
    · exact h.states _ _ hlook
  | polled frame idx hidx hflow hsess =>
    unfold ensureStreamPoll
    split
    · exact h
    · split
      · exact h
      · refine ⟨h.pins, h.states, fun key frame' hlook => ?_⟩
        rw [lookup_insert_if] at hlook
        split at hlook
        · rename_i hkey
          exact hkey ▸ hidx
        · exact h.polls _ _ hlook
  | returned packets => exact ⟨h.pins, h.states, h.polls⟩
  | closed now =>
    refine ⟨fun flowId' idx hlook => ?_, fun flowId' state hlook => ?_, h.polls⟩
    all_goals
      simp only [closeFlow, lookup_erase_if] at hlook
      split at hlook
      · cases hlook
    · exact h.pins _ _ hlook
    · exact h.states _ _ hlook
  | ended polls hpolls =>
    exact ⟨h.pins, h.states, fun key frame hlook => h.polls _ _ (hpolls _ _ hlook)⟩

lemma updates (h : t.InBounds n) (hups : Updates n flowId sessionId t t') : t'.InBounds n :=
  hups.preserve (fun _ _ hupd ht => ht.update hupd) h

end Tables.InBounds

/-! ## Attempts -/

/-- A visit makes one call, or falls back from a forwarder to a plain send. -/
def Attempt.Single (a : Attempt) : Prop :=
  a.calls = [.openForwarderStream] ∨ a.calls = [.openForwarderStream, .send] ∨
    a.calls = [.openForwarderDatagram] ∨ a.calls = [.send]

section

lemma attempt_single (exit : Egress) (frame : Frame) (idx : Nat) (reply : EgressReplies)
    (t : Tables) : Attempt.Single ⟨idx, (attempt exit frame idx reply t).1⟩ := by
  unfold Attempt.Single attempt
  split
  · split <;> simp
  · split <;> simp
  · simp

lemma dispatchOrdered_attempts (order : List Nat) (lastFailure : Option ReturnEvent)
    (frame : Frame) (hlt : ∀ idx ∈ order, idx < bus.egresses.length) :
    ∃ d, dispatchOrdered bus m t order lastFailure frame = some d ∧
      d.attempts.map (·.egress) <+: order ∧ ∀ a ∈ d.attempts, a.Single := by
  induction order generalizing lastFailure frame with
  | nil => exact ⟨_, rfl, prefix_rfl, forall_mem_nil _⟩
  | cons idx rest ih =>
    have hidx := hlt idx mem_cons_self
    simp only [dispatchOrdered, getElem?_eq_getElem hidx, bind_eq_bind, bind_some]
    set exit := bus.egresses[idx]
    have hsingle := attempt_single exit (frame.via exit) idx (m.replies idx) t
    cases hatt : attempt exit (frame.via exit) idx (m.replies idx) t with
    | mk calls ended =>
      rw [hatt] at hsingle
      cases ended with
      | handled d => exact ⟨_, rfl, by simp, by simpa using hsingle⟩
      | failed event =>
        obtain ⟨d, hd, hatts, hsing⟩ := ih (some event) (frame.via exit)
          fun idx hmem => hlt idx (mem_cons_of_mem _ hmem)
        refine ⟨{ d with attempts := ⟨idx, calls⟩ :: d.attempts }, by simp [hd], ?_, ?_⟩
        · simpa using hatts
        · simpa using ⟨hsingle, hsing⟩

end
section

lemma mapM_getElem?_isSome (l : List α) (order : List Nat)
    (hlt : ∀ idx ∈ order, idx < l.length) : ∃ as, order.mapM (fun idx => l[idx]?) = some as := by
  induction order with
  | nil => exact ⟨[], rfl⟩
  | cons idx rest ih =>
    obtain ⟨as, has⟩ := ih fun idx hmem => hlt idx (mem_cons_of_mem _ hmem)
    have hidx := hlt idx mem_cons_self
    exact ⟨l[idx] :: as, by simp [mapM_cons, getElem?_eq_getElem hidx, has]⟩

lemma dispatchReplicate_attempts (order : List Nat) (frame : Frame) :
    ∃ d, dispatchReplicate bus m t order frame = some d ∧
      d.attempts.map (·.egress) <+: validOrder order bus.egresses.length ∧
      ∀ a ∈ d.attempts, a.Single := by
  simp only [dispatchReplicate]
  split
  · exact ⟨_, rfl, nil_prefix, forall_mem_nil _⟩
  · obtain ⟨as, has⟩ := mapM_getElem?_isSome bus.egresses
      (validOrder order bus.egresses.length) fun idx hmem => (mem_of_mem_validOrder hmem).2
    refine ⟨_, by rw [has]; rfl, by simp [Function.comp_def], fun a ha => ?_⟩
    obtain ⟨idx, -, rfl⟩ := mem_map.mp ha
    simp [Attempt.Single]

end

/-! ## Dispatch -/

/-- The visits of a dispatch: each egress at most once, and only those the frame
is permitted to use. -/
structure WithinConstraints (bus : Bus) (snapshot : HealthSnapshot) (frame : Frame)
    (attempts : List Attempt) : Prop where
  permitted : ∀ a ∈ attempts, ∃ c, c.egressIdx = a.egress ∧ Permitted bus snapshot frame c
  once : (attempts.map (·.egress)).Nodup
  single : ∀ a ∈ attempts, a.Single

lemma WithinConstraints.nil (bus : Bus) (snapshot : HealthSnapshot) (frame : Frame) :
    WithinConstraints bus snapshot frame [] :=
  ⟨forall_mem_nil _, nodup_nil, forall_mem_nil _⟩

lemma WithinConstraints.of_hop (h : WithinConstraints bus snapshot frame.hop attempts) :
    WithinConstraints bus snapshot frame attempts := by
  refine ⟨fun a ha => ?_, h.once, h.single⟩
  obtain ⟨c, hidx, hc⟩ := h.permitted a ha
  exact ⟨c, hidx, hc.capable, hc.in_group, hc.is_sink, hc.last_resort⟩

lemma withinConstraints_of_order (hperm : order'.Perm (rankedEgresses bus m frame order))
    (hinit : attempts.map (·.egress) <+: validOrder order' bus.egresses.length)
    (hsingle : ∀ a ∈ attempts, a.Single) : WithinConstraints bus m.snapshot frame attempts := by
  refine ⟨fun a ha => ?_, (nodup_validOrder _ _).sublist hinit.sublist, hsingle⟩
  have hvalid := hinit.subset (mem_map_of_mem ha)
  have hmapped := hperm.mem_iff.mp (mem_of_mem_validOrder hvalid).1
  obtain ⟨c, hc, hidx⟩ := mem_map.mp (mem_of_mem_mapCandidateOrder hmapped)
  exact ⟨c, hidx, permitted_of_chosen hc⟩

section

lemma pinned_perm_ranked (h : t.InBounds bus.egresses.length) (frame : Frame) (order : List Nat) :
    ∃ order', pinnedOrder bus m t frame.flowId (candidatesFor bus m frame).1
        (rankContext t frame) (rankedEgresses bus m frame order) = some order' ∧
      order'.Perm (rankedEgresses bus m frame order) := by
  refine pinnedOrder_perm (h.pins frame.flowId) fun idx hmem => ?_
  obtain ⟨c, hc, rfl⟩ := mem_map.mp (mem_of_mem_mapCandidateOrder hmem)
  exact egressIdx_lt (permitted_of_chosen hc).capable

lemma dispatchScheduled_within (h : t.InBounds bus.egresses.length) (frame : Frame) :
    ∃ d, dispatchScheduled bus m t frame = some d ∧
      WithinConstraints bus m.snapshot frame d.attempts := by
  have hpinned := pinned_perm_ranked (m := m) h frame
  unfold dispatchScheduled
  cases decisionFor bus m t frame with
  | ordered order =>
    obtain ⟨order', hpin, hperm⟩ := hpinned order
    obtain ⟨d, hd, hinit, hsingle⟩ := dispatchOrdered_attempts (m := m) (t := t)
      (validOrder order' bus.egresses.length) none frame
      fun idx hmem => (mem_of_mem_validOrder hmem).2
    exact ⟨d, by simp [hpin, hd], withinConstraints_of_order hperm hinit hsingle⟩
  | replicate order =>
    obtain ⟨order', hpin, hperm⟩ := hpinned order
    obtain ⟨d, hd, hinit, hsingle⟩ := dispatchReplicate_attempts (m := m) (t := t) order'
      { frame with returnSemantics := .packetDedup }
    exact ⟨d, by simp [hpin, hd], withinConstraints_of_order hperm hinit hsingle⟩

lemma dispatchForwarderFrame_attempts
    (hsink : state.sinkIdx < bus.egresses.length) (frame : Frame) :
    ∃ d, dispatchForwarderFrame bus m t state frame = some d ∧ d.attempts = [] := by
  simp only [dispatchForwarderFrame, getElem?_eq_getElem hsink, bind_eq_bind, bind_some]
  split
  · split
    · exact ⟨_, rfl, rfl⟩
    · exact ⟨_, rfl, rfl⟩
  · exact ⟨_, rfl, rfl⟩

lemma lookup_of_forwarderState (h : forwarderState t frame = some state) :
    frame.kind ≠ .open ∧ t.flowStates.lookup frame.flowId = some state ∧
      state.shape = .forwarder := by
  unfold forwarderState at h
  split at h
  · cases h
  · rename_i hkind
    obtain ⟨hlook, hshape⟩ := Option.filter_eq_some_iff.mp h
    exact ⟨hkind, hlook, by simpa using hshape⟩

lemma endFlow_attempts (h : t.InBounds bus.egresses.length) (frame : Frame) :
    ∃ d, endFlow bus m t frame = some d ∧ d.attempts = [] := by
  have hcloses : (t.flowPins.lookup frame.flowId).all (· < bus.egresses.length) = true := by
    cases hpin : t.flowPins.lookup frame.flowId with
    | none => rfl
    | some idx => simpa using h.pins _ _ hpin
  simp only [endFlow]
  rw [if_pos hcloses]
  exact ⟨_, rfl, rfl⟩

/-- A dispatch that starts with indices in bounds runs to its end, and visits only
what the frame permits. -/
lemma dispatch_within (h : t.InBounds bus.egresses.length) (m : Moment) (frame : Frame) :
    ∃ d, dispatch bus m t frame = some d ∧
      WithinConstraints bus m.snapshot frame d.attempts := by
  simp only [dispatch]
  split
  · exact ⟨_, rfl, .nil _ _ _⟩
  · split
    · split
      · rename_i state hstate
        have hsink := h.states _ _ (lookup_of_forwarderState hstate).2.1
        obtain ⟨d, hd, hnone⟩ := dispatchForwarderFrame_attempts (m := m) (t := t) hsink
          frame.hop
        exact ⟨d, hd, hnone ▸ .nil _ _ _⟩
      · obtain ⟨d, hd, hwithin⟩ := dispatchScheduled_within (m := m) h
          frame.hop
        exact ⟨d, hd, hwithin.of_hop⟩
    · obtain ⟨d, hd, hnone⟩ := endFlow_attempts (m := m) h frame.hop
      exact ⟨d, hd, hnone ▸ .nil _ _ _⟩

end

/-! ## Runs -/

lemma pollTurn_isSome
    (hkey : key.2 < bus.egresses.length) (returnFrame : Frame) (event : ReturnEvent)
    (now : Nat) : ∃ polled, pollTurn bus t key returnFrame event now = some polled := by
  simp only [pollTurn, getElem?_eq_getElem hkey, bind_eq_bind, bind_some]
  cases event <;> exact ⟨_, rfl⟩

lemma kernelStep_inBounds (h : t.InBounds bus.egresses.length)
    (step : KernelStep) : (kernelStep bus t step).1.InBounds bus.egresses.length := by
  rcases kernelStep_updates bus t step with hsame | ⟨flowId, sessionId, -, hups⟩
  · rw [hsame]
    exact h
  · exact h.updates hups

lemma kernelStep_isSome (h : t.InBounds bus.egresses.length)
    (step : KernelStep) : (kernelStep bus t step).2.isSome = true := by
  cases step with
  | dispatch m frame =>
    obtain ⟨d, hd, -⟩ := dispatch_within h m frame
    simp only [kernelStep, hd, Option.isSome_some]
  | polled key event now =>
    simp only [kernelStep]
    split
    · rfl
    · rename_i returnFrame hpoll
      obtain ⟨polled, hpolled⟩ := pollTurn_isSome (t := t) (h.polls _ _ hpoll) returnFrame event
        now
      rw [hpolled]
      rfl
  | forwarderClosed flowId now => rfl

def tablesAfter (bus : Bus) (steps : List KernelStep) : Tables :=
  (run (kernelStep bus) Tables.empty steps).1

lemma tablesAfter_inBounds (bus : Bus) (steps : List KernelStep) :
    (tablesAfter bus steps).InBounds bus.egresses.length := by
  apply run_state_invariant
  · exact fun t step h => kernelStep_inBounds h step
  · exact .empty _

/-- Dispatch never leaves its constraints, whatever the scheduler answers, and
never goes out of bounds: the indices in the tables of a running bus are
positions of egresses, and from any such tables every frame is dispatched to the
end, within the constraints it carries. -/
theorem dispatch_stays_within_constraints (bus : Bus) :
    (∀ steps, (tablesAfter bus steps).InBounds bus.egresses.length ∧
      ∀ step, (kernelStep bus (tablesAfter bus steps) step).2.isSome = true) ∧
    ∀ (t : Tables), t.InBounds bus.egresses.length →
      ∀ (m : Moment) (frame : Frame), frame.Carries →
        ∃ d, dispatch bus m t frame = some d ∧
          WithinConstraints bus m.snapshot frame d.attempts := by
  refine ⟨fun steps => ?_, fun t h m frame _ => ?_⟩
  · have hbds := tablesAfter_inBounds bus steps
    exact ⟨hbds, kernelStep_isSome hbds⟩
  exact dispatch_within h m frame

def wildScheduler : SchedulerPlugin where
  schedule _ _ := .ordered [7, 1, 1, 0, 7]
  scoreFor _ _ _ := 0

def refusing : EgressReplies where
  openForwarderStream := none
  openForwarderDatagram := none
  send := ⟨"", false, 0, none, .closed .connectionReset⟩

def wildMoment : Moment where
  scheduler := wildScheduler
  snapshot := ⟨[]⟩
  pinSnapshot := ⟨[]⟩
  replies _ := refusing
  race := id
  race_perm := List.Perm.refl
  now := 0

def exampleEndpoint : Proto.Endpoint :=
  ⟨"example.com", 443, by decide, by decide +kernel, by decide⟩

def exampleFrame : Frame where
  packetId := 0
  flowId := "f"
  sessionId := "s"
  seq := 0
  kind := .data
  payload := []
  target := exampleEndpoint
  ttl := 8
  trafficClass := .bulk
  policyRef := none
  deadlineMs := none
  scheduleHint := .auto
  pathTrace := []
  flowSemantics := .byteStream
  returnSemantics := .direct
  sourceKey := none
  targetKey := none
  routeGroup := none
  targetSink := none

def twoStreams : Bus where
  egresses := [⟨"a", ⟨true, false, []⟩⟩, ⟨"b", ⟨true, false, ["cn"]⟩⟩]
  retains pin alt := 5 * pin < 6 * alt

theorem dispatch_stays_within_constraints_wild :
    exampleFrame.Carries ∧ ∃ d, dispatch twoStreams wildMoment .empty exampleFrame = some d ∧
      WithinConstraints twoStreams wildMoment.snapshot exampleFrame d.attempts :=
  ⟨by decide, (dispatch_stays_within_constraints twoStreams).2 .empty (.empty _) wildMoment
    exampleFrame (by decide)⟩

example : (dispatch twoStreams wildMoment .empty exampleFrame).map (·.attempts) =
    some [⟨1, [.send]⟩, ⟨0, [.send]⟩] := by decide +kernel

end MeshBus.Kernel
