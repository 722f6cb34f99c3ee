import MeshBus.Kernel.Probes
import MeshBus.Session.Pending

/-!
# Closing a datagram session

The `Close` of a session names the target of its request, and so the flow of that
target.  Datagrams to other targets are flows of their own: what an egress that
took one of them left in the tables stays there when the session is closed.
-/

namespace MeshBus.Session

open Lib Kernel Proto List Option AList

/-! ## Refused frames -/

section
variable {bus : Bus} {m : Moment} {t : Tables} {frame : Frame}

lemma dispatchOrdered_refused (order : List Nat) (lastFailure : Option ReturnEvent)
    (frame : Frame) (hkind : frame.kind ≠ .open) (href : Refused m order)
    (hd : dispatchOrdered bus m t order lastFailure frame = some d) : d.tables = t := by
  induction order generalizing lastFailure frame d with
  | nil =>
    cases hd
    rfl
  | cons idx rest ih =>
    obtain ⟨exit, -, ⟨d', hatt, -, -⟩ | ⟨event, d', -, hrest, htabs, -⟩⟩ := dispatchOrdered_cons hd
    · rw [attempt_of_not_open (show (frame.via exit).kind ≠ .open from hkind)] at hatt
      have hsucc := (attemptSend_handled hatt).1
      rw [href idx mem_cons_self] at hsucc
      cases hsucc
    · rw [htabs]
      exact ih _ (frame.via exit) hkind
        (fun idx hmem => href idx (mem_cons_of_mem _ hmem)) hrest

lemma collectReplies_refused (href : Refused m order) :
    (collectReplies m frame order false t).tables = t := by
  induction order with
  | nil => rfl
  | cons idx rest ih =>
    rw [collectReplies, href idx mem_cons_self]
    exact ih fun idx hmem => href idx (mem_cons_of_mem _ hmem)

def orderOf : ScheduleDecision → List Nat
  | .ordered order => order
  | .replicate order => order

def TurnedAway (bus : Bus) (m : Moment) (t : Tables) (frame : Frame) : Prop :=
  Refused m (rankedEgresses bus m frame (orderOf (decisionFor bus m t frame)))

lemma refused_of_subset (h : Refused m order) (hsubset : order' ⊆ order) : Refused m order' :=
  fun idx hmem => h idx (hsubset hmem)

lemma validOrder_subset (order : List Nat) (n : Nat) : validOrder order n ⊆ order :=
  fun _ hmem => (mem_of_mem_validOrder hmem).1

lemma dispatchScheduled_refused (hkind : frame.kind ≠ .open)
    (haway : TurnedAway bus m t frame) (hd : dispatchScheduled bus m t frame = some d) :
    d.tables = t := by
  unfold TurnedAway at haway
  simp only [dispatchScheduled] at hd
  split at hd
  · rename_i order hdcn
    rw [hdcn] at haway
    obtain ⟨order', hpin, hd⟩ := bind_eq_some_iff.mp hd
    have hsubset := List.Subset.trans (validOrder_subset order' bus.egresses.length)
      (perm_of_pinnedOrder hpin).subset
    exact dispatchOrdered_refused _ _ _ hkind (refused_of_subset haway hsubset) hd
  · rename_i order hdcn
    rw [hdcn] at haway
    obtain ⟨order', hpin, hd⟩ := bind_eq_some_iff.mp hd
    have hsubset := List.Subset.trans (validOrder_subset order' bus.egresses.length)
      (perm_of_pinnedOrder hpin).subset
    simp only [dispatchReplicate] at hd
    split at hd
    · cases hd
      rfl
    · obtain ⟨-, -, hd⟩ := bind_eq_some_iff.mp hd
      cases hd
      exact collectReplies_refused
        (refused_of_subset haway (List.Subset.trans (m.race_perm _).subset hsubset))

/-- A datagram of a flow with no forwarder that every egress refuses leaves no
trace. -/
lemma dispatch_refused (hkind : frame.kind = .datagram) (httl : frame.ttl ≠ 0)
    (hstate : frame.flowId ∉ t.flowStates) (haway : TurnedAway bus m t frame)
    (hd : dispatch bus m t frame = some d) : d.tables = t := by
  rcases dispatch_cases hd with
    ⟨hzero, -⟩ | ⟨-, -, state, hforw, -⟩ | ⟨-, -, -, hd⟩ | ⟨-, hends, -⟩
  · exact absurd hzero httl
  · have hlook := (lookup_of_forwarderState hforw).2.1
    rw [lookup_eq_none.mpr hstate] at hlook
    cases hlook
  · have hhop : frame.hop.kind ≠ .open := by
      change frame.kind ≠ .open
      rw [hkind]
      decide
    exact dispatchScheduled_refused hhop haway hd
  · exact absurd ⟨by rw [hkind]; decide, by rw [hkind]; decide⟩ hends

end

/-! ## Tables without the flows of a session -/

/-- Nothing is kept for these flows, and no poll task works for one of them. -/
structure Clean (flows : FlowId → Prop) (t : Tables) : Prop where
  pins : ∀ flowId, flows flowId → flowId ∉ t.flowPins
  states : ∀ flowId, flows flowId → flowId ∉ t.flowStates
  counters : ∀ flowId, flows flowId → flowId ∉ t.flowCounters
  packets : ∀ p ∈ t.packetReturns, ¬flows p.1
  polls : ∀ key frame, t.activeStreamPolls.lookup key = some frame → ¬flows frame.flowId

namespace Clean
variable {flows : FlowId → Prop}

lemma empty (flows : FlowId → Prop) : Clean flows .empty where
  pins _ _ := notMem_empty _
  states _ _ := notMem_empty _
  counters _ _ := notMem_empty _
  packets := forall_mem_nil _
  polls _ _ hlook := by cases hlook

lemma not_mem_insert {table : Table FlowId ν} {v : ν}
    (hflow : ¬flows flowId) (hother : flows flowId') (h : flowId' ∉ table) :
    flowId' ∉ table.insert flowId v := by
  rw [mem_insert, not_or]
  refine ⟨?_, h⟩
  rintro rfl
  exact hflow hother

lemma not_mem_erase {table : Table FlowId ν}
    (h : flowId' ∉ table) : flowId' ∉ table.erase flowId := by
  rw [mem_erase, not_and]
  exact fun _ => h

lemma closeFlow (h : Clean flows t) (flowId : FlowId) (now : Nat) :
    Clean flows (closeFlow t flowId now) where
  pins _ hother := not_mem_erase (h.pins _ hother)
  states _ hother := not_mem_erase (h.states _ hother)
  counters _ hother := not_mem_erase (h.counters _ hother)
  packets := h.packets
  polls := h.polls

lemma update (h : Clean flows t) (hflow : ¬flows flowId)
    (hupd : Update n flowId sessionId t t') : Clean flows t' := by
  cases hupd with
  | pinned idx hidx =>
    exact { h with pins := fun _ hother => not_mem_insert hflow hother (h.pins _ hother) }
  | unpinned => exact { h with pins := fun _ hother => not_mem_erase (h.pins _ hother) }
  | registered frame idx shape exitId hidx hframe =>
    rw [← hframe] at hflow
    constructor
    case pins => exact fun _ hother => not_mem_insert hflow hother (h.pins _ hother)
    case states => exact fun _ hother => not_mem_insert hflow hother (h.states _ hother)
    case counters => exact fun _ hother => not_mem_insert hflow hother (h.counters _ hother)
    case packets => exact h.packets
    case polls => exact h.polls
  | polled frame idx hidx hframe hsess =>
    rw [← hframe] at hflow
    unfold ensureStreamPoll
    split
    · exact h
    · split
      · exact h
      · refine { h with polls := fun key frame' hlook => ?_ }
        rw [Table.lookup_insert_if] at hlook
        split at hlook
        · cases hlook
          exact hflow
        · exact h.polls key frame' hlook
  | returned packets hpkts =>
    refine { h with packets := fun p hp => ?_ }
    rcases hpkts p hp with hold | hnew
    · exact h.packets p hold
    · rw [hnew]
      exact hflow
  | closed now => exact h.closeFlow flowId now
  | ended polls hpolls =>
    exact { h with polls := fun key frame hlook => h.polls key frame (hpolls key frame hlook) }

lemma updates (h : Clean flows t) (hflow : ¬flows flowId)
    (hups : Updates n flowId sessionId t t') : Clean flows t' :=
  hups.preserve (fun _ _ hupd ht => ht.update hflow hupd) h

lemma kernelStep (h : Clean flows t) (bus : Bus) (step : KernelStep)
    (hdisp : ∀ m frame, step = .dispatch m frame → ¬flows frame.flowId) :
    Clean flows (kernelStep bus t step).1 := by
  cases step with
  | forwarderClosed flowId now => exact h.closeFlow flowId now
  | dispatch m frame =>
    rcases kernelStep_updates bus t (.dispatch m frame) with
      hsame | ⟨flowId, sessionId, hflowId, hups⟩
    · rw [hsame]
      exact h
    · cases hflowId
      exact h.updates (hdisp m frame rfl) hups
  | polled key event now =>
    rcases kernelStep_updates bus t (.polled key event now) with
      hsame | ⟨flowId, sessionId, hflowId, hups⟩
    · rw [hsame]
      exact h
    · obtain ⟨returnFrame, hlook, rfl⟩ := map_eq_some_iff.mp hflowId
      exact h.updates (h.polls key returnFrame hlook) hups

end Clean

/-! ## A session on the bus -/

def openFrame (mintFor : MintFor) (request : BusSessionRequest) (sessionId : SessionId) : Frame :=
  { datagramFrame mintFor request sessionId 0 request.target [] with kind := .open }

def closeFrame (mintFor : MintFor) (request : BusSessionRequest) (sessionId : SessionId)
    (seq : Nat) : Frame :=
  { datagramFrame mintFor request sessionId seq request.target [] with kind := .close }

inductive SessionStep where
  /-- The session probes for a datagram forwarder.  When its wait is over, however
  it ends, the guard of the probe takes the sender out of the table. -/
  | probe (m : Moment)
  | datagram (m : Moment) (seq : Nat) (target : Endpoint) (payload : Bytes)
  /-- Poll tasks, forwarders, and the frames of other sessions. -/
  | kernel (step : KernelStep)

/-- The kernel's tables, with the probes. -/
structure BusState where
  tables : Tables
  probes : ProbeChannels

open BusState

namespace BusState

def new : BusState := ⟨.empty, ∅⟩

def dispatched (s : BusState) (bus : Bus) (m : Moment) (frame : Frame) : BusState :=
  match dispatchProbed bus m s.tables s.probes frame with
  | none => s
  | some (d, probes) => ⟨d.tables, probes⟩

def step (bus : Bus) (mintFor : MintFor) (request : BusSessionRequest) (sessionId : SessionId)
    (s : BusState) : SessionStep → BusState × Unit
  | .probe m =>
    let waiting : BusState := { s with probes := s.probes.insert sessionId () }
    let s := waiting.dispatched bus m (openFrame mintFor request sessionId)
    ({ s with probes := s.probes.erase sessionId }, ())
  | .datagram m seq target payload =>
    (s.dispatched bus m (datagramFrame mintFor request sessionId seq target payload), ())
  | .kernel step => ({ s with tables := (kernelStep bus s.tables step).1 }, ())

end BusState

def FlowOf (mintFor : MintFor) (sessionId : SessionId) (flowId : FlowId) : Prop :=
  ∃ target, mintFor sessionId target = flowId

def SessionStep.Foreign (mintFor : MintFor) (sessionId : SessionId) : SessionStep → Prop
  | .kernel (.dispatch _ frame) => ¬FlowOf mintFor sessionId frame.flowId
  | _ => True

def SessionStep.OnTarget (bus : Bus) (mintFor : MintFor) (request : BusSessionRequest)
    (sessionId : SessionId) (s : BusState) : SessionStep → Prop
  | .datagram m seq target payload =>
    target = request.target ∨ TurnedAway bus m s.tables
      (datagramFrame mintFor request sessionId seq target payload)
  | _ => True

/-- No entry is left for a flow of the session, or for the session. -/
structure NoResidue (mintFor : MintFor) (sessionId : SessionId) (s : BusState) : Prop where
  pins : ∀ target, mintFor sessionId target ∉ s.tables.flowPins
  states : ∀ target, mintFor sessionId target ∉ s.tables.flowStates
  counters : ∀ target, mintFor sessionId target ∉ s.tables.flowCounters
  packets : ∀ target packetId, (mintFor sessionId target, packetId) ∉ s.tables.packetReturns
  polls : ∀ idx, (sessionId, idx) ∉ s.tables.activeStreamPolls
  probes : sessionId ∉ s.probes

section
variable {bus : Bus} {mintFor : MintFor} {request : BusSessionRequest} {sessionId : SessionId}

def OtherFlow (mintFor : MintFor) (request : BusSessionRequest) (sessionId : SessionId)
    (flowId : FlowId) : Prop :=
  flowId ≠ mintFor sessionId request.target ∧ FlowOf mintFor sessionId flowId

/-- While the session runs, nothing is kept for its other flows. -/
structure Tidy (bus : Bus) (mintFor : MintFor) (request : BusSessionRequest)
    (sessionId : SessionId) (s : BusState) : Prop where
  clean : Clean (OtherFlow mintFor request sessionId) s.tables
  bounds : s.tables.InBounds bus.egresses.length
  probes : sessionId ∉ s.probes

lemma dispatched_tables (bus : Bus) (s : BusState) (m : Moment) (frame : Frame) :
    (s.dispatched bus m frame).tables = s.tables ∨
      ∃ d, dispatch bus m s.tables frame = some d ∧
        (s.dispatched bus m frame).tables = d.tables := by
  unfold dispatched dispatchProbed
  cases hd : dispatch bus m s.tables frame with
  | none => exact .inl rfl
  | some d => exact .inr ⟨d, rfl, rfl⟩

lemma dispatched_probes (s : BusState) (m : Moment) (frame : Frame)
    (h : sessionId ∉ s.probes) : sessionId ∉ (s.dispatched bus m frame).probes := by
  unfold dispatched dispatchProbed
  cases hd : dispatch bus m s.tables frame with
  | none => exact h
  | some d =>
    change sessionId ∉ if d.probe.isSome then s.probes.erase frame.sessionId else s.probes
    split
    · rw [mem_erase, not_and]
      exact fun _ => h
    · exact h

lemma dispatched_inBounds {s : BusState} (h : s.tables.InBounds bus.egresses.length)
    (m : Moment) (frame : Frame) :
    (s.dispatched bus m frame).tables.InBounds bus.egresses.length := by
  rcases dispatched_tables bus s m frame with hsame | ⟨d, hd, htabs⟩
  · rw [hsame]
    exact h
  · rw [htabs]
    exact h.updates (dispatch_updates frame hd)

lemma dispatched_clean {s : BusState} (h : Clean flows s.tables)
    (m : Moment) (hflow : ¬flows frame.flowId) : Clean flows (s.dispatched bus m frame).tables := by
  rcases dispatched_tables bus s m frame with hsame | ⟨d, hd, htabs⟩
  · rw [hsame]
    exact h
  · rw [htabs]
    exact h.updates hflow (dispatch_updates frame hd)

lemma Tidy.new : Tidy bus mintFor request sessionId .new where
  clean := .empty _
  bounds := .empty _
  probes := notMem_empty _

lemma Tidy.step {s : BusState} (h : Tidy bus mintFor request sessionId s) (step : SessionStep)
    (hfor : step.Foreign mintFor sessionId) (htgt : step.OnTarget bus mintFor request sessionId s) :
    Tidy bus mintFor request sessionId (s.step bus mintFor request sessionId step).1 := by
  cases step with
  | probe m =>
    let waiting : BusState := { s with probes := s.probes.insert sessionId () }
    have hflow : ¬OtherFlow mintFor request sessionId
        (openFrame mintFor request sessionId).flowId := fun hother => hother.1 rfl
    constructor
    case clean => exact dispatched_clean (s := waiting) h.clean m hflow
    case bounds => exact dispatched_inBounds (s := waiting) h.bounds m _
    case probes => simp [BusState.step, mem_erase]
  | datagram m seq target payload =>
    refine ⟨?_, dispatched_inBounds h.bounds m _, dispatched_probes s m _ h.probes⟩
    rcases htgt with rfl | haway
    · exact dispatched_clean h.clean m fun hother => hother.1 rfl
    · by_cases hother : OtherFlow mintFor request sessionId (mintFor sessionId target)
      · rcases dispatched_tables bus s m
          (datagramFrame mintFor request sessionId seq target payload) with
          hsame | ⟨d, hd, htabs⟩
        · rw [BusState.step, hsame]
          exact h.clean
        · rw [BusState.step, htabs, dispatch_refused rfl (Nat.succ_ne_zero _)
            (h.clean.states _ hother) haway hd]
          exact h.clean
      · exact dispatched_clean h.clean m hother
  | kernel step =>
    refine ⟨h.clean.kernelStep bus step ?_, kernelStep_inBounds h.bounds step, h.probes⟩
    rintro m frame rfl hother
    exact hfor hother.2

lemma dispatch_close (h : t.InBounds bus.egresses.length) (mintFor : MintFor)
    (request : BusSessionRequest) (sessionId : SessionId) (m : Moment) (seq : Nat) :
    ∃ d, dispatch bus m t (closeFrame mintFor request sessionId seq) = some d ∧ d.probe = none ∧
      (∀ flowId, flowId ∈ d.tables.flowPins →
        flowId ≠ mintFor sessionId request.target ∧ flowId ∈ t.flowPins) ∧
      (∀ flowId, flowId ∈ d.tables.flowStates →
        flowId ≠ mintFor sessionId request.target ∧ flowId ∈ t.flowStates) ∧
      (∀ flowId, flowId ∈ d.tables.flowCounters →
        flowId ≠ mintFor sessionId request.target ∧ flowId ∈ t.flowCounters) ∧
      (∀ p ∈ d.tables.packetReturns, p.1 ≠ mintFor sessionId request.target ∧ p ∈ t.packetReturns) ∧
      ∀ idx, (sessionId, idx) ∉ d.tables.activeStreamPolls := by
  obtain ⟨d, hd, -⟩ := endFlow_attempts (m := m) h (closeFrame mintFor request sessionId seq).hop
  refine ⟨d, hd, ?_⟩
  simp only [endFlow] at hd
  split at hd
  · cases hd
    refine ⟨rfl, ?_, ?_, ?_, ?_, ?_⟩
    · intro flowId hmem
      obtain ⟨hne, hmem⟩ := mem_erase.mp hmem
      exact ⟨hne, (mem_erase.mp hmem).2⟩
    · exact fun flowId hmem => mem_erase.mp hmem
    · exact fun flowId hmem => mem_erase.mp hmem
    · intro p hp
      obtain ⟨hmem, hkeep⟩ := mem_filter.mp hp
      exact ⟨of_decide_eq_true hkeep, hmem⟩
    · intro idx
      exact Table.not_mem_retain fun _ => decide_eq_false fun hne => hne rfl
  · cases hd

lemma Tidy.close (h : Tidy bus mintFor request sessionId s) (m : Moment) (seq : Nat) :
    NoResidue mintFor sessionId
      (s.dispatched bus m (closeFrame mintFor request sessionId seq)) := by
  obtain ⟨d, hd, hprobe, hpins, hstates, hcoun, hpkts, hpolls⟩ :=
    dispatch_close h.bounds mintFor request sessionId m seq
  have hdisp : s.dispatched bus m (closeFrame mintFor request sessionId seq) =
      ⟨d.tables, s.probes⟩ := by
    simp [dispatched, dispatchProbed, hd, hprobe]
  rw [hdisp]
  constructor
  case pins =>
    intro target hmem
    obtain ⟨hne, hmem⟩ := hpins _ hmem
    exact h.clean.pins _ ⟨hne, target, rfl⟩ hmem
  case states =>
    intro target hmem
    obtain ⟨hne, hmem⟩ := hstates _ hmem
    exact h.clean.states _ ⟨hne, target, rfl⟩ hmem
  case counters =>
    intro target hmem
    obtain ⟨hne, hmem⟩ := hcoun _ hmem
    exact h.clean.counters _ ⟨hne, target, rfl⟩ hmem
  case packets =>
    intro target packetId hmem
    obtain ⟨hne, hmem⟩ := hpkts _ hmem
    exact h.clean.packets _ hmem ⟨hne, target, rfl⟩
  case polls => exact hpolls
  case probes => exact h.probes

/-- After its `Close`, nothing is left of a session, in every run in which each of
its datagrams goes to the target of the request or is refused by every egress. -/
theorem closed_session_leaves_nothing (bus : Bus) (mintFor : MintFor)
    (request : BusSessionRequest) (sessionId : SessionId) (steps : List SessionStep) (m : Moment)
    (seq : Nat) (hforeign : ∀ step ∈ steps, step.Foreign mintFor sessionId)
    (htargets : Along (step bus mintFor request sessionId)
      (fun _ s step => step.OnTarget bus mintFor request sessionId s) [] .new steps) :
    NoResidue mintFor sessionId
      ((run (step bus mintFor request sessionId) .new steps).1.dispatched bus m
        (closeFrame mintFor request sessionId seq)) := by
  have hall := (Along.of_forall_mem steps [] new hforeign).and htargets
  have htidy := @run_invariant _ _ _ (step bus mintFor request sessionId)
    (fun _ s => Tidy bus mintFor request sessionId s) _
    (fun _ s step h hok => h.step step hok.1 hok.2) steps [] .new Tidy.new hall
  exact htidy.close m seq

end

def acceptingMoment : Moment :=
  { wildMoment with replies := fun _ => { refusing with send := ⟨"a", true, 1, none, .idle⟩ } }

def otherTarget : Endpoint :=
  ⟨"other.example", 53, by decide, by decide +kernel, Proto.dns_ne_zero⟩

def keyFlow : MintFor := fun _ target => datagramKey target

def oneTarget : List SessionStep :=
  [.datagram acceptingMoment 0 exampleEndpoint [1], .kernel (.polled ("s", 0) (.data 0 [2]) 0)]

theorem one_target_leaves_nothing :
    NoResidue keyFlow "s"
      ((run (step datagramBus keyFlow (.datagram exampleEndpoint) "s") .new
        oneTarget).1.dispatched datagramBus wildMoment
        (closeFrame keyFlow (.datagram exampleEndpoint) "s" 1)) := by
  apply closed_session_leaves_nothing
  · intro step hstep
    rcases mem_cons.mp hstep with rfl | hstep
    · exact True.intro
    · rw [mem_singleton.mp hstep]
      exact True.intro
  · exact ⟨.inl rfl, True.intro, True.intro⟩

/-- A datagram to a second target leaves its pin behind. -/
theorem second_target_stays_pinned :
    Function.Injective (keyFlow "s") ∧
    keyFlow "s" otherTarget ∈ ((run (step datagramBus keyFlow (.datagram exampleEndpoint)
        "s") .new [.datagram acceptingMoment 0 otherTarget [1]]).1.dispatched datagramBus wildMoment
        (closeFrame keyFlow (.datagram exampleEndpoint) "s" 1)).tables.flowPins := by
  exact ⟨fun _ _ h => datagramKey_injective h, by decide +kernel⟩

end MeshBus.Session
