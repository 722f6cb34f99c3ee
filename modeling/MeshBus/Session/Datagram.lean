import MeshBus.Kernel.Updates
import MeshBus.Lib.Run

/-!
# Datagram sessions over the frame router

A datagram session numbers what it sends and remembers the target of each
number.  The egress adapter keeps, for every target, the numbers that wait for a
reply there; a reply takes the oldest number of its source with it, and the
session looks the target of that number up again.  So the source of a reply is
not carried along: it is rebuilt from the two tables.

`System` puts one session, the tables of the bus and the adapters together.  An
event on the return channel also records what the egress reported with it, which
nothing in the code reads.
-/

namespace MeshBus.Session

open Lib Kernel
open Proto (Endpoint)

def u64Max : Nat := 2 ^ 64 - 1

/-! ## The egress adapter -/

def datagramKey (e : Endpoint) : String :=
  let port := toString e.port.toNat
  if ':' ∈ e.host.toList then "[" ++ e.host ++ "]:" ++ port else e.host ++ ":" ++ port

/-- The numbers that wait for a reply, oldest first, by the display of the target. -/
abbrev PendingDatagramSeqs := Table String (List Nat)

def pushPendingSeq (pending : PendingDatagramSeqs) (target : Endpoint) (seq : Nat) :
    PendingDatagramSeqs :=
  let key := datagramKey target
  pending.insert key ((pending.lookup key).getD [] ++ [seq])

def popPendingSeq (pending : PendingDatagramSeqs) (source : Endpoint) :
    PendingDatagramSeqs × Option Nat :=
  let key := datagramKey source
  match pending.lookup key with
  | none => (pending, none)
  | some [] => (pending.erase key, none)
  | some (seq :: rest) =>
    (if rest.isEmpty then pending.erase key else pending.insert key rest, some seq)

def removePendingSeq (pending : PendingDatagramSeqs) (target : Endpoint) (seq : Nat) :
    PendingDatagramSeqs :=
  let key := datagramKey target
  match pending.lookup key with
  | none => pending
  | some queue =>
    let queue := queue.erase seq
    if queue.isEmpty then pending.erase key else pending.insert key queue

/-- An adapter: the sessions it has opened, each with the numbers that wait. -/
structure DatagramEgressAdapter where
  id : ExitId
  sessions : Table SessionId PendingDatagramSeqs

/-- How the egress behind an adapter answers a frame. -/
structure AdapterReplies where
  openDatagram : Option DisconnectReason
  sendTo : Option SendError
  rttMs : Nat

def closeFromSendError : SendError → CloseReason
  | .payloadTooLarge => .addressNotSupported
  | .addressNotSupported => .addressNotSupported
  | .bufferFull => .timedOut
  | .closed => .sessionClosed

namespace DatagramEgressAdapter

def openFor (a : DatagramEgressAdapter) (reply : AdapterReplies) (sessionId : SessionId) :
    Except CloseReason PendingDatagramSeqs :=
  match a.sessions.lookup sessionId, reply.openDatagram with
  | some pending, _ => .ok pending
  | none, none => .ok ∅
  | none, some reason => .error (closeFromDisconnect reason)

def send (a : DatagramEgressAdapter) (reply : AdapterReplies) (frame : Frame) :
    DatagramEgressAdapter × ExitResult :=
  if frame.Carries then
    match a.openFor reply frame.sessionId with
    | .error reason => (a, ⟨a.id, false, reply.rttMs, none, .closed reason⟩)
    | .ok pending =>
      let pending := pushPendingSeq pending frame.target frame.seq
      match reply.sendTo with
      | none =>
        ({ a with sessions := a.sessions.insert frame.sessionId pending },
          ⟨a.id, true, reply.rttMs, none, .idle⟩)
      | some err =>
        let pending := removePendingSeq pending frame.target frame.seq
        ({ a with sessions := a.sessions.insert frame.sessionId pending },
          ⟨a.id, false, reply.rttMs, none, .closed (closeFromSendError err)⟩)
  else
    ({ a with sessions := a.sessions.erase frame.sessionId },
      ⟨a.id, true, reply.rttMs, none, .closed .sessionClosed⟩)

/-- What the receive half of an egress yields: a datagram with its source, or the
end, with the last error. -/
abbrev Yielded := Except (Option DisconnectReason) (Endpoint × Bytes)

def poll (a : DatagramEgressAdapter) (sessionId : SessionId) (yielded : Yielded) :
    DatagramEgressAdapter × ReturnEvent :=
  match a.sessions.lookup sessionId, yielded with
  | none, _ => (a, .idle)
  | some pending, .ok (source, payload) =>
    let (pending, seq) := popPendingSeq pending source
    ({ a with sessions := a.sessions.insert sessionId pending }, .data (seq.getD 0) payload)
  | some _, .error lastError => (a, .closed ((lastError.map closeFromDisconnect).getD .upstreamEof))

end DatagramEgressAdapter

/-! ## The session -/

structure BusSessionRequest where
  target : Endpoint
  flowSemantics : FlowSemantics
  trafficClass : TrafficClass
  deadlineMs : Option Nat
  policyRef : Option String
  returnSemantics : ReturnSemantics
  scheduleHint : ScheduleHint
  sourceKey : Option String
  targetKey : Option String
  routeGroup : Option String
  targetSink : Option String
  deriving DecidableEq

def BusSessionRequest.datagram (target : Endpoint) : BusSessionRequest where
  target := target
  flowSemantics := .datagram
  trafficClass := .interactive
  deadlineMs := none
  policyRef := none
  returnSemantics := .packetDedup
  scheduleHint := .auto
  sourceKey := none
  targetKey := none
  routeGroup := none
  targetSink := none

abbrev MintFor := SessionId → Endpoint → FlowId

def datagramFrame (mintFor : MintFor) (request : BusSessionRequest) (sessionId : SessionId)
    (seq : Nat) (target : Endpoint) (payload : Bytes) : Frame where
  packetId := seq
  flowId := mintFor sessionId target
  sessionId := sessionId
  seq := seq
  kind := .datagram
  payload := payload
  target := target
  ttl := 8
  trafficClass := request.trafficClass
  policyRef := request.policyRef
  deadlineMs := request.deadlineMs
  scheduleHint := request.scheduleHint
  pathTrace := []
  flowSemantics := request.flowSemantics
  returnSemantics := request.returnSemantics
  sourceKey := request.sourceKey
  targetKey := request.targetKey
  routeGroup := request.routeGroup
  targetSink := request.targetSink

structure DatagramSession where
  sessionId : SessionId
  request : BusSessionRequest
  maxPayloadBytes : Nat
  seq : Nat
  pendingSources : Table Nat Endpoint

namespace DatagramSession

def new (sessionId : SessionId) (request : BusSessionRequest) (maxPayloadBytes : Nat) :
    DatagramSession where
  sessionId := sessionId
  request := request
  maxPayloadBytes := maxPayloadBytes
  seq := 0
  pendingSources := ∅

def datagramSend (mintFor : MintFor) (s : DatagramSession) (target : Endpoint)
    (payload : Bytes) : Except SendError (DatagramSession × Frame) :=
  if s.maxPayloadBytes < payload.length then
    .error .payloadTooLarge
  else
    .ok ({ s with
        seq := min (s.seq + 1) u64Max
        pendingSources := s.pendingSources.insert s.seq target },
      datagramFrame mintFor s.request s.sessionId s.seq target payload)

def sourceOf (s : DatagramSession) (seq : Nat) : Endpoint :=
  (s.pendingSources.lookup seq).getD s.request.target

end DatagramSession

/-! ## The session on its bus -/

/-- An event on the return channel, with the datagram that the egress reported. -/
structure Returned where
  event : ReturnEvent
  origin : Option (Endpoint × Bytes)

structure System where
  session : DatagramSession
  /-- Frames on their way to the bus, which takes them one at a time. -/
  submitted : List Frame
  tables : Tables
  adapters : Nat → DatagramEgressAdapter
  returns : List Returned

/-- What the world decides while the bus dispatches a frame to adapters. -/
structure World where
  scheduler : SchedulerPlugin
  snapshot : HealthSnapshot
  pinSnapshot : HealthSnapshot
  replies : Nat → AdapterReplies
  race : List Nat → List Nat
  race_perm : ∀ order, (race order).Perm order
  now : Nat

inductive SystemStep where
  | sendTo (target : Endpoint) (payload : Bytes)
  | dispatch (w : World)
  /-- The receive half of an egress yields something to the session's poll task. -/
  | polled (idx : Nat) (yielded : DatagramEgressAdapter.Yielded) (now : Nat)
  /-- One event is taken off the return channel by `recv_from`. -/
  | recv

inductive SystemOutput where
  | nothing
  /-- The egress yielded a datagram, and these events went on the return channel. -/
  | yielded (source : Endpoint) (payload : Bytes) (returns : List ReturnEvent)
  /-- `recv_from` returned a datagram; `origin` is what the egress had reported. -/
  | received (source : Endpoint) (payload : Bytes) (origin : Option (Endpoint × Bytes))
  deriving DecidableEq

namespace System

def new (sessionId : SessionId) (request : BusSessionRequest) (maxPayloadBytes : Nat)
    (tables : Tables) (adapters : Nat → DatagramEgressAdapter) : System where
  session := .new sessionId request maxPayloadBytes
  submitted := []
  tables := tables
  adapters := adapters
  returns := []

/-- The adapters' answers to a frame.  Their forwarders are asked on `Open` only. -/
def moment (s : System) (w : World) (frame : Frame) : Moment where
  scheduler := w.scheduler
  snapshot := w.snapshot
  pinSnapshot := w.pinSnapshot
  replies idx :=
    { openForwarderStream := none
      openForwarderDatagram := none
      send := ((s.adapters idx).send (w.replies idx) frame).2 }
  race := w.race
  race_perm := w.race_perm
  now := w.now

def visited (d : Dispatched) : List Nat := d.attempts.map (·.egress) ++ d.forwarded.toList

def dispatch (bus : Bus) (s : System) (w : World) (frame : Frame) : System :=
  match Kernel.dispatch bus (s.moment w frame) s.tables frame with
  | none => s
  | some d =>
    { s with
      tables := d.tables
      adapters := fun idx =>
        if idx ∈ visited d then ((s.adapters idx).send (w.replies idx) frame).1
        else s.adapters idx
      returns := s.returns ++ d.returns.map (⟨·, none⟩) }

def polled (bus : Bus) (s : System) (idx : Nat) (returnFrame : Frame)
    (yielded : DatagramEgressAdapter.Yielded) (now : Nat) : System × SystemOutput :=
  let sessionId := s.session.sessionId
  let (adapter, event) := (s.adapters idx).poll sessionId yielded
  match pollTurn bus s.tables (sessionId, idx) returnFrame event now with
  | none => (s, .nothing)
  | some (tables, events) =>
    ({ s with
        tables
        adapters := Function.update s.adapters idx adapter
        returns := s.returns ++ events.map (⟨·, yielded.toOption⟩) },
      match event, yielded with
      | .data _ _, .ok (source, payload) => .yielded source payload events
      | _, _ => .nothing)

def recv (s : System) : System × SystemOutput :=
  match s.returns with
  | [] => (s, .nothing)
  | ⟨event, origin⟩ :: rest =>
    match event with
    | .data seq payload =>
      let pendingSources := s.session.pendingSources.erase seq
      ({ s with session := { s.session with pendingSources }, returns := rest },
        .received (s.session.sourceOf seq) payload origin)
    | _ => ({ s with returns := rest }, .nothing)

def step (bus : Bus) (mintFor : MintFor) (s : System) : SystemStep → System × SystemOutput
  | .sendTo target payload =>
    match s.session.datagramSend mintFor target payload with
    | .error _ => (s, .nothing)
    | .ok (session, frame) => ({ s with session, submitted := s.submitted ++ [frame] }, .nothing)
  | .dispatch w =>
    match s.submitted with
    | [] => (s, .nothing)
    | frame :: rest => (dispatch bus { s with submitted := rest } w frame, .nothing)
  | .polled idx yielded now =>
    match s.tables.activeStreamPolls.lookup (s.session.sessionId, idx) with
    | none => (s, .nothing)
    | some returnFrame => s.polled bus idx returnFrame yielded now
  | .recv => s.recv

end System
end MeshBus.Session
