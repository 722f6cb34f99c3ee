import MeshBus.Kernel.Frame
import MeshBus.Lib.Table

/-!
# Dispatch of frames

A frame that carries traffic is offered to the exits that can carry its flow.
The candidates come from the compiled buckets, the scheduler orders them, the
flow's pin is moved to the front where its score allows, and the exits are then
tried one after another, or all at once for a replicated frame.

What the rest of the world decides during one dispatch (the scheduler, the
health snapshots, the exits' answers, the clock) is a `Moment`; the tables the
dispatch tasks share are `Tables`.  An index out of bounds is `none`.
-/

namespace MeshBus.Kernel

open Lib List
open Proto (Endpoint)

/-- What an egress plugin says about itself. -/
structure Egress where
  id : ExitId
  capabilities : Capabilities
  deriving DecidableEq

/-! ## Candidates -/

structure CompiledCandidate where
  egressIdx : Nat
  exitId : ExitId
  groups : List String
  deriving DecidableEq

def bucket (egresses : List Egress) (want : FlowSemantics) : List CompiledCandidate :=
  egresses.zipIdx.filterMap fun (e, idx) =>
    if capabilityMatchesFlow e.capabilities want then
      some { egressIdx := idx, exitId := e.id, groups := e.capabilities.groups }
    else
      none

structure HealthSnapshot where
  unhealthy : List ExitId

def CompiledCandidate.matches (c : CompiledCandidate) (routeGroup targetSink : Option String) :
    Bool :=
  (match targetSink with
    | some sink => c.exitId == sink
    | none => true) &&
  (match routeGroup with
    | some group => c.groups.contains group
    | none => true)

/-- The healthy candidates; without any, all that match, unless the frame asks
for a group or a sink. -/
def chosenCandidates (egresses : List Egress) (snapshot : HealthSnapshot)
    (flowSemantics : FlowSemantics) (routeGroup targetSink : Option String) :
    List CompiledCandidate :=
  let matching := (bucket egresses flowSemantics).filter (·.matches routeGroup targetSink)
  let healthy := matching.filter fun c => !snapshot.unhealthy.contains c.exitId
  if healthy.isEmpty then
    if routeGroup.isSome || targetSink.isSome then [] else matching
  else
    healthy

def healthyCandidates (egresses : List Egress) (snapshot : HealthSnapshot)
    (flowSemantics : FlowSemantics) (routeGroup targetSink : Option String) :
    List ExitId × List Nat :=
  let chosen := chosenCandidates egresses snapshot flowSemantics routeGroup targetSink
  (chosen.map (·.exitId), chosen.map (·.egressIdx))

/-- From positions among the candidates to positions among the egresses. -/
def mapCandidateOrder (order candidateMap : List Nat) : List Nat :=
  order.filterMap fun idx => candidateMap[idx]?

def scheduleFrame (frame : Frame) (candidates : List ExitId) (ctx : RankContext)
    (scheduler : SchedulerPlugin) : ScheduleDecision :=
  match frame.flowSemantics, frame.scheduleHint with
  | .datagram, .fanOut k => .replicate (range (min k candidates.length))
  | _, _ => scheduler.schedule candidates ctx

def validOrder.go (egressCount : Nat) : List Nat → List Nat → List Nat
  | _, [] => []
  | seen, idx :: rest =>
    if idx < egressCount ∧ idx ∉ seen then
      idx :: validOrder.go egressCount (idx :: seen) rest
    else
      validOrder.go egressCount seen rest

def validOrder (order : List Nat) (egressCount : Nat) : List Nat :=
  validOrder.go egressCount [] order

lemma mem_validOrder_go
    (h : idx ∈ validOrder.go n seen order) : idx ∈ order ∧ idx < n ∧ idx ∉ seen := by
  fun_induction validOrder.go n seen order with
  | case1 => cases h
  | case2 seen head rest hcond ih =>
    rcases mem_cons.mp h with rfl | hmem
    · exact ⟨mem_cons_self, hcond⟩
    · obtain ⟨hrest, hlt, hseen⟩ := ih hmem
      exact ⟨mem_cons_of_mem _ hrest, hlt, fun hin => hseen (mem_cons_of_mem _ hin)⟩
  | case3 seen head rest hcond ih =>
    obtain ⟨hrest, hlt, hseen⟩ := ih h
    exact ⟨mem_cons_of_mem _ hrest, hlt, hseen⟩

lemma nodup_validOrder_go : (validOrder.go n seen order).Nodup := by
  fun_induction validOrder.go n seen order with
  | case1 => exact nodup_nil
  | case2 seen head rest hcond ih =>
    refine nodup_cons.mpr ⟨fun hmem => ?_, ih⟩
    exact (mem_validOrder_go hmem).2.2 mem_cons_self
  | case3 seen head rest hcond ih => exact ih

lemma mem_of_mem_validOrder (h : idx ∈ validOrder order n) : idx ∈ order ∧ idx < n :=
  ⟨(mem_validOrder_go h).1, (mem_validOrder_go h).2.1⟩

lemma nodup_validOrder (order : List Nat) (n : Nat) : (validOrder order n).Nodup :=
  nodup_validOrder_go

/-! ## Shapes -/

inductive DataplaneShape where
  | forwarder
  | datagramForwarder
  | frameRouter
  deriving DecidableEq

def DataplaneShape.derive (flowSemantics : FlowSemantics) (returnSemantics : ReturnSemantics)
    (realizedPathsAtOpen : Nat) (sinkCaps : Capabilities) (transformSteps : List String) :
    DataplaneShape :=
  if realizedPathsAtOpen ≠ 1 ∨ transformSteps ≠ [] then
    .frameRouter
  else
    match flowSemantics with
    | .byteStream =>
      if returnSemantics = .direct ∧ sinkCaps.supportsStream then .forwarder else .frameRouter
    | .datagram =>
      if (returnSemantics = .direct ∨ returnSemantics = .packetDedup) ∧
          sinkCaps.supportsDatagram then
        .datagramForwarder
      else
        .frameRouter
    | .message => .frameRouter

/-- Only an `Open` can take a shape other than the frame router's. -/
def shapeFor (frame : Frame) (exit : Egress) : DataplaneShape :=
  if frame.kind = .open then
    DataplaneShape.derive frame.flowSemantics frame.returnSemantics 1 exit.capabilities []
  else
    .frameRouter

/-! ## Tables -/

structure FlowState where
  shape : DataplaneShape
  sinkIdx : Nat
  exitId : ExitId
  sourceKey : Option String
  deriving DecidableEq

/-- The tables that the dispatch and poll tasks share.  A poll task is known by
its session and egress, and keeps the frame that started it.  Of the counters of a
flow only their presence matters here. -/
structure Tables where
  flowPins : Table FlowId Nat
  flowStates : Table FlowId FlowState
  flowCounters : Table FlowId Unit
  sourceActivity : Table String SourceActivity
  packetReturns : List (FlowId × PacketId)
  activeStreamPolls : Table (SessionId × Nat) Frame
  deriving DecidableEq

def Tables.empty : Tables where
  flowPins := ∅
  flowStates := ∅
  flowCounters := ∅
  sourceActivity := ∅
  packetReturns := []
  activeStreamPolls := ∅

def u32Max : Nat := 2 ^ 32 - 1

def markOpen (activity : Table String SourceActivity) :
    Option String → Table String SourceActivity
  | none => activity
  | some key =>
    let entry := (activity.lookup key).getD ⟨0, none⟩
    activity.insert key
      { entry with activeFlows := min (entry.activeFlows + 1) u32Max, idleSinceMs := none }

def markClosed (activity : Table String SourceActivity) (now : Nat) :
    Option String → Table String SourceActivity
  | none => activity
  | some key =>
    let entry := (activity.lookup key).getD ⟨0, none⟩
    let activeFlows := entry.activeFlows - 1
    activity.insert key
      { activeFlows
        idleSinceMs := if activeFlows = 0 then some now else entry.idleSinceMs }

/-- `remove_flow_runtime_state`, which closing a flow comes down to. -/
def closeFlow (t : Tables) (flowId : FlowId) (now : Nat) : Tables :=
  { t with
    flowStates := t.flowStates.erase flowId
    flowCounters := t.flowCounters.erase flowId
    flowPins := t.flowPins.erase flowId
    sourceActivity :=
      match t.flowStates.lookup flowId with
      | some state => markClosed t.sourceActivity now state.sourceKey
      | none => t.sourceActivity }

def registerFlow (t : Tables) (frame : Frame) (idx : Nat) (shape : DataplaneShape)
    (exitId : ExitId) : Tables :=
  { t with
    flowPins := t.flowPins.insert frame.flowId idx
    flowCounters := t.flowCounters.insert frame.flowId ()
    flowStates := t.flowStates.insert frame.flowId
      { shape, sinkIdx := idx, exitId, sourceKey := frame.sourceKey }
    sourceActivity :=
      if (t.flowStates.lookup frame.flowId).isNone then
        markOpen t.sourceActivity frame.sourceKey
      else
        t.sourceActivity }

/-- At most one poll task per session and egress; the frame that starts it stays
with it. -/
def ensureStreamPoll (t : Tables) (frame : Frame) (idx : Nat) : Tables :=
  if frame.flowSemantics = .message then
    t
  else if (frame.sessionId, idx) ∈ t.activeStreamPolls then
    t
  else
    { t with activeStreamPolls := t.activeStreamPolls.insert (frame.sessionId, idx) frame }

section
variable (t : Tables) (frame : Frame) (idx : Nat)

@[simp] lemma ensureStreamPoll_flowPins :
    (ensureStreamPoll t frame idx).flowPins = t.flowPins := by
  unfold ensureStreamPoll
  split
  · rfl
  · split <;> rfl

@[simp] lemma ensureStreamPoll_flowStates :
    (ensureStreamPoll t frame idx).flowStates = t.flowStates := by
  unfold ensureStreamPoll
  split
  · rfl
  · split <;> rfl

end

/-- Direct returns always go out; the others once for each packet of the flow. -/
def sendReturnWithPacketId (t : Tables) (frame : Frame) (event : ReturnEvent)
    (packetId : PacketId) : Tables × List ReturnEvent :=
  if frame.returnSemantics = .direct then
    (t, [event])
  else if (frame.flowId, packetId) ∈ t.packetReturns then
    (t, [])
  else
    ({ t with packetReturns := (frame.flowId, packetId) :: t.packetReturns }, [event])

lemma sendReturnWithPacketId_tables (t : Tables) (frame : Frame) (event : ReturnEvent)
    (packetId : PacketId) :
    ∃ packets, (sendReturnWithPacketId t frame event packetId).1 =
      { t with packetReturns := packets } := by
  unfold sendReturnWithPacketId
  split
  · exact ⟨t.packetReturns, rfl⟩
  · split
    · exact ⟨t.packetReturns, rfl⟩
    · exact ⟨_, rfl⟩

def sendReturn (t : Tables) (frame : Frame) (event : ReturnEvent) : Tables × List ReturnEvent :=
  sendReturnWithPacketId t frame event frame.packetId

/-! ## The world around a dispatch -/

structure Opened where
  localEndpoint : Option Endpoint
  rttMs : Nat

/-- How an egress answers the calls that one dispatch can make. -/
structure EgressReplies where
  openForwarderStream : Option (Except DisconnectReason Opened)
  openForwarderDatagram : Option (Except DisconnectReason Opened)
  send : ExitResult

/-- The bus: its egresses, and the `f64` comparison of a pin's score with the
score of the best alternative, `pin < (1.0 + 0.20) * alt`. -/
structure Bus where
  egresses : List Egress
  retains : Nat → Nat → Bool

structure Moment where
  scheduler : SchedulerPlugin
  /-- The snapshot that selects the candidates. -/
  snapshot : HealthSnapshot
  /-- The snapshot that is read again for the pin. -/
  pinSnapshot : HealthSnapshot
  replies : Nat → EgressReplies
  /-- The order in which the replicas of a frame are answered. -/
  race : List Nat → List Nat
  race_perm : ∀ order, (race order).Perm order
  now : Nat

inductive EgressCall where
  | openForwarderStream
  | openForwarderDatagram
  | send
  deriving DecidableEq

/-- One visit to an egress, with the calls made there. -/
structure Attempt where
  egress : Nat
  calls : List EgressCall
  deriving DecidableEq

/-- What the waiter of a datagram probe is told. -/
inductive ProbeOutcome where
  | handled
  | fallback
  | failed (event : ReturnEvent)
  deriving DecidableEq

structure Dispatched where
  tables : Tables
  /-- The visits on the ordered or the replicate path. -/
  attempts : List Attempt := []
  /-- The egress of a forwarder flow, which got the frame without being scheduled. -/
  forwarded : Option Nat := none
  /-- The egresses that took the frame. -/
  accepted : List Nat := []
  returns : List ReturnEvent := []
  probe : Option ProbeOutcome := none
  /-- The egress that is told to close the session. -/
  closes : Option Nat := none
  deriving DecidableEq

/-! ## The pin -/

/-- Move the pinned egress to the front of the order, unless the best alternative
is better by more than the hysteresis. -/
def applyPinWithHysteresis (bus : Bus) (scheduler : SchedulerPlugin) (candidates : List ExitId)
    (ctx : RankContext) (pinned : Nat) (order : List Nat) : Option (List Nat) :=
  match order.findIdx? (· == pinned) with
  | none => some order
  | some pos =>
    if order.length ≤ 1 then
      some (pinned :: order.eraseIdx pos)
    else
      match order.find? (· != pinned) with
      | none => some order
      | some alt => do
          let pinExit ← bus.egresses[pinned]?
          let altExit ← bus.egresses[alt]?
          let pinScore := scheduler.scoreFor pinExit.id candidates ctx
          let altScore := scheduler.scoreFor altExit.id candidates ctx
          return if bus.retains pinScore altScore then pinned :: order.eraseIdx pos else order

def pinnedOrder (bus : Bus) (m : Moment) (t : Tables) (flowId : FlowId)
    (candidates : List ExitId) (ctx : RankContext) (order : List Nat) : Option (List Nat) :=
  match t.flowPins.lookup flowId with
  | none => some order
  | some pinned => do
      let exit ← bus.egresses[pinned]?
      if m.pinSnapshot.unhealthy.contains exit.id then
        return order
      else
        applyPinWithHysteresis bus m.scheduler candidates ctx pinned order

/-! ## The ordered path -/

inductive AttemptEnd where
  | handled (d : Dispatched)
  | failed (event : ReturnEvent)

def openReturnEvent (frame : Frame) (result : ExitResult) : ReturnEvent :=
  if frame.kind = .open then
    .connected result.exitId result.localEndpoint result.rttMs
  else
    result.returnEvent

def acceptSend (frame : Frame) (idx : Nat) (shape : DataplaneShape) (result : ExitResult)
    (t : Tables) : Dispatched :=
  let t :=
    if frame.kind = .open then
      registerFlow t frame idx shape result.exitId
    else
      { t with flowPins := t.flowPins.insert frame.flowId idx }
  let t := ensureStreamPoll t frame idx
  let event := openReturnEvent frame result
  if event ≠ .idle ∨ frame.kind = .open then
    let (t, returns) := sendReturn t frame event
    { tables := t, accepted := [idx], returns }
  else
    { tables := t, accepted := [idx] }

def attemptSend (frame : Frame) (idx : Nat) (shape : DataplaneShape) (result : ExitResult)
    (t : Tables) : AttemptEnd :=
  if result.success then
    .handled (acceptSend frame idx shape result t)
  else
    .failed result.returnEvent

/-- One turn of the loop of `dispatch_ordered`. -/
def attempt (exit : Egress) (frame : Frame) (idx : Nat) (reply : EgressReplies) (t : Tables) :
    List EgressCall × AttemptEnd :=
  match shapeFor frame exit with
  | .forwarder =>
    match reply.openForwarderStream with
    | some (.ok opened) =>
      let t := registerFlow t frame idx .forwarder exit.id
      let (t, returns) :=
        sendReturn t frame (.connected exit.id opened.localEndpoint opened.rttMs)
      ([.openForwarderStream], .handled { tables := t, accepted := [idx], returns })
    | some (.error reason) =>
      ([.openForwarderStream], .failed (.closed (closeFromDisconnect reason)))
    | none =>
      -- the egress has no forwarder: the frame is sent like any other
      ([.openForwarderStream, .send], attemptSend frame idx .forwarder reply.send t)
  | .datagramForwarder =>
    match reply.openForwarderDatagram with
    | some (.ok _) =>
      let t := registerFlow t frame idx .datagramForwarder exit.id
      ([.openForwarderDatagram],
        .handled { tables := t, accepted := [idx], probe := some .handled })
    | some (.error reason) =>
      ([.openForwarderDatagram], .failed (.closed (closeFromDisconnect reason)))
    | none =>
      ([.openForwarderDatagram], .handled { tables := t, probe := some .fallback })
  | .frameRouter => ([.send], attemptSend frame idx .frameRouter reply.send t)

def lastReason : Option ReturnEvent → CloseReason
  | some (.closed reason) => reason
  | _ => .noUsableExit

def Frame.via (frame : Frame) (exit : Egress) : Frame :=
  { frame with pathTrace := frame.pathTrace ++ [exit.id] }

def dispatchOrdered (bus : Bus) (m : Moment) (t : Tables) :
    List Nat → Option ReturnEvent → Frame → Option Dispatched
  | [], lastFailure, _ =>
    some
      { tables := t
        returns := [.closed (lastReason lastFailure)]
        probe := some (.failed (lastFailure.getD (.closed .noUsableExit))) }
  | idx :: rest, _, frame => do
      let exit ← bus.egresses[idx]?
      match attempt exit (frame.via exit) idx (m.replies idx) t with
      | (calls, .handled d) => return { d with attempts := [⟨idx, calls⟩] }
      | (calls, .failed event) =>
        let d ← dispatchOrdered bus m t rest (some event) (frame.via exit)
        return { d with attempts := ⟨idx, calls⟩ :: d.attempts }

/-! ## The replicate path -/

/-- Take the answers to the replicas as they come; the first success is the one
that counts. -/
def collectReplies (m : Moment) (frame : Frame) : List Nat → Bool → Tables → Dispatched
  | [], returned, t =>
    { tables := t, returns := if returned then [] else [.closed .noUsableExit] }
  | idx :: rest, returned, t =>
    let result := (m.replies idx).send
    if result.success then
      let t := ensureStreamPoll t frame idx
      if returned then
        let d := collectReplies m frame rest true t
        { d with accepted := idx :: d.accepted }
      else
        let t := { t with flowPins := t.flowPins.insert frame.flowId idx }
        let (t, returns) :=
          if result.returnEvent ≠ .idle ∨ frame.kind = .open then
            sendReturn t frame result.returnEvent
          else
            (t, [])
        let d := collectReplies m frame rest true t
        { d with accepted := idx :: d.accepted, returns := returns ++ d.returns }
    else
      collectReplies m frame rest returned t

def dispatchReplicate (bus : Bus) (m : Moment) (t : Tables) (order : List Nat) (frame : Frame) :
    Option Dispatched :=
  let order := validOrder order bus.egresses.length
  if order = [] then
    some { tables := t, returns := [.closed .noUsableExit] }
  else do
    let _ ← order.mapM fun idx => bus.egresses[idx]?
    let d := collectReplies m frame (m.race order) false t
    return { d with attempts := order.map fun idx => ⟨idx, [.send]⟩ }

/-! ## Dispatch -/

/-- `Close` and `Cancel`: the flow's pinned egress is closed, and all that is kept
for the flow and its session goes. -/
def endFlow (bus : Bus) (m : Moment) (t : Tables) (frame : Frame) : Option Dispatched :=
  let closes := t.flowPins.lookup frame.flowId
  if closes.all (· < bus.egresses.length) then
    let t :=
      { t with
        flowPins := t.flowPins.erase frame.flowId
        activeStreamPolls := t.activeStreamPolls.retain fun key _ => key.1 ≠ frame.sessionId }
    let t := closeFlow t frame.flowId m.now
    some
      { tables := { t with packetReturns := t.packetReturns.filter fun p => p.1 ≠ frame.flowId }
        returns := [.closed .sessionClosed]
        closes }
  else
    none

def dispatchForwarderFrame (bus : Bus) (m : Moment) (t : Tables) (state : FlowState)
    (frame : Frame) : Option Dispatched := do
  let _ ← bus.egresses[state.sinkIdx]?
  let result := (m.replies state.sinkIdx).send
  let d : Dispatched := { tables := t, forwarded := some state.sinkIdx }
  if result.success then
    if result.returnEvent ≠ .idle then
      let (t, returns) := sendReturn t frame result.returnEvent
      return { d with tables := t, accepted := [state.sinkIdx], returns }
    else
      return { d with accepted := [state.sinkIdx] }
  else
    let reason := match result.returnEvent with
      | .closed reason => reason
      | _ => .other "send failed"
    return { d with tables := closeFlow t frame.flowId m.now, returns := [.closed reason] }

def forwarderState (t : Tables) (frame : Frame) : Option FlowState :=
  if frame.kind = .open then
    none
  else
    (t.flowStates.lookup frame.flowId).filter fun state => state.shape = .forwarder

def candidatesFor (bus : Bus) (m : Moment) (frame : Frame) : List ExitId × List Nat :=
  healthyCandidates bus.egresses m.snapshot frame.flowSemantics frame.routeGroup frame.targetSink

def rankContext (t : Tables) (frame : Frame) : RankContext :=
  RankContext.ofFrame frame (frame.sourceKey.bind t.sourceActivity.lookup)

def decisionFor (bus : Bus) (m : Moment) (t : Tables) (frame : Frame) : ScheduleDecision :=
  scheduleFrame frame (candidatesFor bus m frame).1 (rankContext t frame) m.scheduler

def rankedEgresses (bus : Bus) (m : Moment) (frame : Frame) (order : List Nat) : List Nat :=
  mapCandidateOrder order (candidatesFor bus m frame).2

def dispatchScheduled (bus : Bus) (m : Moment) (t : Tables) (frame : Frame) :
    Option Dispatched :=
  let pinned := pinnedOrder bus m t frame.flowId (candidatesFor bus m frame).1
    (rankContext t frame)
  match decisionFor bus m t frame with
  | .ordered order => do
      let order ← pinned (rankedEgresses bus m frame order)
      dispatchOrdered bus m t (validOrder order bus.egresses.length) none frame
  | .replicate order => do
      let order ← pinned (rankedEgresses bus m frame order)
      dispatchReplicate bus m t order { frame with returnSemantics := .packetDedup }

def Frame.hop (frame : Frame) : Frame := { frame with ttl := frame.ttl - 1 }

def dispatch (bus : Bus) (m : Moment) (t : Tables) (frame : Frame) : Option Dispatched :=
  if frame.ttl = 0 then
    some { tables := t, returns := [.closed .ttlExpired] }
  else if frame.hop.Carries then
    match forwarderState t frame.hop with
    | some state => dispatchForwarderFrame bus m t state frame.hop
    | none => dispatchScheduled bus m t frame.hop
  else
    endFlow bus m t frame.hop

/-! ## Polls -/

def polledPacketId (returnFrame : Frame) : ReturnEvent → PacketId
  | .data seq _ =>
    if returnFrame.flowSemantics = .datagram then seq else returnFrame.packetId
  | _ => returnFrame.packetId

/-- One turn of the loop of a poll task, whose egress answered `event`. -/
def pollTurn (bus : Bus) (t : Tables) (key : SessionId × Nat) (returnFrame : Frame)
    (event : ReturnEvent) (now : Nat) : Option (Tables × List ReturnEvent) := do
  let _ ← bus.egresses[key.2]?
  match event with
  | .idle => return (t, [])
  | .closed reason =>
    let t := closeFlow t returnFrame.flowId now
    return ({ t with activeStreamPolls := t.activeStreamPolls.erase key }, [.closed reason])
  | event => return sendReturnWithPacketId t returnFrame event (polledPacketId returnFrame event)

/-! ## Runs -/

inductive KernelStep where
  | dispatch (m : Moment) (frame : Frame)
  /-- The poll task of a session and egress gets an event. -/
  | polled (key : SessionId × Nat) (event : ReturnEvent) (now : Nat)
  /-- A forwarder reports the end of its flow. -/
  | forwarderClosed (flowId : FlowId) (now : Nat)

/-- One step of the kernel.  A task that fails (`none`) leaves the tables alone. -/
def kernelStep (bus : Bus) (t : Tables) : KernelStep → Tables × Option Dispatched
  | .dispatch m frame =>
    match dispatch bus m t frame with
    | some d => (d.tables, some d)
    | none => (t, none)
  | .polled key event now =>
    match t.activeStreamPolls.lookup key with
    | none => (t, some { tables := t })
    | some returnFrame =>
      match pollTurn bus t key returnFrame event now with
      | some (t, returns) => (t, some { tables := t, returns })
      | none => (t, none)
  | .forwarderClosed flowId now =>
    let t := closeFlow t flowId now
    (t, some { tables := t })

end MeshBus.Kernel
