import Mathlib.Data.List.Infix
import MeshBus.Ingress.State

/-!
# The loop of the mesh-peer ingress

One inbound datagram goes through three layers: MeshSec opens it, the wire mode
turns it into frames in order, and every frame is handled against the session
tables.
-/

namespace MeshBus.Ingress

open Lib MeshSec Proto Reorder List
variable {Addr : Type} [DecidableEq Addr]

def State.asked {Addr : Type} (st : State Addr) : State Addr := { st with tick := st.tick + 1 }

/-! ## Receiver mouths -/

def mouthSoftTtlSecs : Nat := 30

/-- Prune what expired for the peer, then record the mouth unless it is older
than what is known. -/
def applyPortOpen (mouths : Table (SessionKey Addr) MouthEntry) (peer : Addr)
    (mouth : ReceiverMouth) (now : UInt64) : Table (SessionKey Addr) MouthEntry × Bool :=
  let mouths := mouths.retain fun key entry =>
    key.1 ≠ peer || now.toNat - entry.lastSeen.toNat ≤ mouthSoftTtlSecs
  let stale : Bool := match mouths.lookup (peer, mouth.mouthId) with
    | some existing => mouth.epoch < existing.epoch
    | none => false
  if stale then
    (mouths, false)
  else
    let entry : MouthEntry :=
      { epoch := mouth.epoch
        udpAddr := mouth.udpAddr
        familyFilter := mouth.familyFilter
        advertisedCapacity := mouth.advertisedCapacity
        lastSeen := now }
    (mouths.insert (peer, mouth.mouthId) entry, true)

def applyPortClose (mouths : Table (SessionKey Addr) MouthEntry) (peer : Addr) (mouthId : String)
    (epoch : UInt64) : Table (SessionKey Addr) MouthEntry × Bool :=
  match mouths.lookup (peer, mouthId) with
  | some existing =>
    if epoch < existing.epoch then (mouths, false) else (mouths.erase (peer, mouthId), true)
  | none => (mouths, false)

/-! ## Layer 1: MeshSec -/

structure Opened where
  clear : Bytes
  replySeal : Option MeshSecSealContext
  isSealed : Bool

def acceptedEpochs (now : UInt64) : UInt64 × UInt64 :=
  let epoch := meshsecEpochNumber now
  (if epoch < meshsecAcceptedEpochSkewSlots then 0 else epoch - meshsecAcceptedEpochSkewSlots,
    epoch + meshsecAcceptedEpochSkewSlots)

def openInbound (ingress : MeshPeerUdpIngress) (P : Primitives) (st : State Addr)
    (inbound : Inbound Addr) : State Addr × Except MeshSecError Opened :=
  match ingress.meshsec with
  | none => (st, .ok { clear := inbound.payload, replySeal := none, isSealed := false })
  | some ms =>
    match openBytes P inbound.payload ms.keys ms.localNodeId (acceptedEpochs inbound.now)
        st.replay with
    | (replay, .error err) => ({ st with replay }, .error err)
    | (replay, .ok (peerId, clear)) =>
      let reply := replySealFor ms peerId st.replyCounters
      ({ st with replay, replyCounters := reply.1 },
        .ok { clear, replySeal := reply.2.map Prod.fst, isSealed := true })

/-! ## Layer 2: the wire mode -/

section
variable (ingress : MeshPeerUdpIngress) (answers : Answers)

/-- The family's state, created on first use; a full table drops some family. -/
def pushFamily (st : State Addr) (key : SessionKey Addr) (package : DataPackage) :
    State Addr × FamilyPushOutcome :=
  let families := if key ∈ st.familyStates then st.familyStates
    else st.familyStates.makeRoom ingress.maxPeerSessions (answers st.tick).evict
  let family := (families.lookup key).getD (FamilyReorderState.new key.2 1 nativeReorderWindow)
  let pushed := family.pushPackage package
  ({ st.asked with familyStates := families.insert key pushed.1 }, pushed.2)

def undecodable (peer : Addr) (package : DataPackage) : Option (Effect Addr) :=
  match decodeFrame package.payload with
  | .ok _ => none
  | .error _ => some (dropNative peer .packageFrameDecode)

def decodePackage (package : DataPackage) : Option MeshFrame :=
  (decodeFrame package.payload).toOption

/-- What the loop reports about a push: undecodable packages, a closed family, or
the numbers that are missing. -/
def familyEffects (peer : Addr) (replySeal : Option MeshSecSealContext) (event : MeshEvent) :
    FamilyPushOutcome → List (Effect Addr)
  | .deliver packages => packages.filterMap (undecodable peer)
  | .windowOverflow _ =>
    let close : MeshFrame := .streamClose event.familyId .protocolError
    dropNative peer .queueOverflow ::
      if event.semantic = .stream
      then [.controlReply ⟨peer, ingress.nativeEventMode, replySeal, close⟩] else []
  | .gap ack => [.controlReply ⟨peer, ingress.nativeEventMode, replySeal, .ackNack ack⟩]
  | .buffered => []
  | .duplicate => []

/-- A package of an ordered family: the frames that are in order now.  A family
that overflows is removed. -/
def decodeFamilyPackage (st : State Addr) (peer : Addr) (replySeal : Option MeshSecSealContext)
    (event : MeshEvent) (package : DataPackage) :
    State Addr × List (Effect Addr) × List MeshFrame :=
  let key := (peer, event.familyId)
  let pushed := pushFamily ingress answers st key package
  (if pushed.2.overflows
    then { pushed.1 with familyStates := pushed.1.familyStates.erase key } else pushed.1,
    familyEffects ingress peer replySeal event pushed.2,
    pushed.2.delivered.filterMap decodePackage)

def decodeNativeEvent (st : State Addr) (peer : Addr) (replySeal : Option MeshSecSealContext)
    (event : MeshEvent) : State Addr × List (Effect Addr) × List MeshFrame :=
  match event.semantic with
  | .control | .observation =>
    match eventFramePayload event with
    | none => (st, [dropNative peer .controlPayloadMissing], [])
    | some payload =>
      match decodeFrame payload with
      | .ok frame => (st, [], [frame])
      | .error _ => (st, [dropNative peer .controlFrameDecode], [])
  | .stream | .datagram =>
    match event.package with
    | none => (st, [dropNative peer .unsupportedEventFamily], [])
    | some package => decodeFamilyPackage ingress answers st peer replySeal event package

def decodeLegacy (opened : Opened) : Except CodecError MeshFrame :=
  if opened.isSealed then decodeMeshFrameClear opened.clear else decodeFrame opened.clear

def decodeInbound (st : State Addr) (peer : Addr) (opened : Opened) :
    State Addr × List (Effect Addr) × List MeshFrame :=
  match ingress.nativeEventMode with
  | .meshFrame =>
    match decodeLegacy opened with
    | .ok frame => (st, [], [frame])
    | .error _ => (st, [], [])
  | .secureUdpNative =>
    match decodeEvent opened.clear with
    | .error _ => (st, [dropNative peer .eventDecode], [])
    | .ok event => decodeNativeEvent ingress answers st peer opened.replySeal event

end

/-! ## Layer 3: frames -/

section
variable (ingress : MeshPeerUdpIngress) (answers : Answers)

/-- Open a datagram session and enter it; a full table closes some other one. -/
def openDatagramSession (st : State Addr) (key : SessionKey Addr) (target : Endpoint) :
    State Addr × List (Effect Addr) × Option Nat :=
  let answer := answers st.tick
  if answer.openDatagram then
    let evicted := st.sessions.evictee ingress.maxPeerSessions answer.evict
    let sessions := st.sessions.makeRoom ingress.maxPeerSessions answer.evict
    ({ st.asked with sessions := sessions.insert key st.tick },
      .openDatagram key st.tick target ::
        ((evicted.bind fun k => st.sessions.lookup k).toList.map .closeDatagram),
      some st.tick)
  else
    (st.asked, [], none)

def handleDatagramOpen (st : State Addr) (peer : Addr) (request : DatagramOpen) :
    State Addr × List (Effect Addr) :=
  match request.fixedTarget with
  | none => (st, [])
  | some target =>
    if (peer, request.sessionId) ∈ st.sessions then
      (st, [])
    else
      let opened := openDatagramSession ingress answers st (peer, request.sessionId) target
      (opened.1, opened.2.1)

def handleDatagramSend (st : State Addr) (key : SessionKey Addr) (target : Endpoint)
    (payload : Bytes) : State Addr × List (Effect Addr) :=
  match st.sessions.lookup key with
  | some half => (st, [.sendTo key half target payload])
  | none =>
    match openDatagramSession ingress answers st key target with
    | (st, effects, none) => (st, effects)
    | (st, effects, some half) => (st, effects ++ [.sendTo key half target payload])

def handleDatagramClose (st : State Addr) (key : SessionKey Addr) :
    State Addr × List (Effect Addr) :=
  ({ st with familyStates := st.familyStates.erase key, sessions := st.sessions.erase key },
    (st.sessions.lookup key).toList.map .closeDatagram)

def closeStream (st : State Addr) (key : SessionKey Addr) : State Addr × List (Effect Addr) :=
  ({ st with streamSessions := st.streamSessions.erase key },
    (st.streamSessions.lookup key).toList.map fun half => .abort half .sessionClosed)

/-- Hand one payload to the bus; on an error the session is closed.  The flag is
whether the payload was taken. -/
def sendStream (st : State Addr) (key : SessionKey Addr) (half : Nat) (payload : Bytes) :
    State Addr × List (Effect Addr) × Bool :=
  if (answers st.tick).sendOk then
    (st.asked, [.send key half payload], true)
  else
    let closed := closeStream st.asked key
    (closed.1, .send key half payload :: closed.2, false)

/-- Hand over what was pending, up to the first error. -/
def flushPending (key : SessionKey Addr) (half : Nat) :
    State Addr → List Bytes → State Addr × List (Effect Addr)
  | st, [] => (st, [])
  | st, payload :: rest =>
    match sendStream answers st key half payload with
    | (st, effects, false) => (st, effects)
    | (st, effects, true) =>
      let flushed := flushPending key half st rest
      (flushed.1, effects ++ flushed.2)

/-- Enter an opened stream session; a full table closes some other one. -/
def enterStream (st : State Addr) (key : SessionKey Addr) (half choice : Nat) :
    State Addr × List (Effect Addr) :=
  let evicted := st.streamSessions.evictee ingress.maxPeerSessions choice
  let sessions := st.streamSessions.makeRoom ingress.maxPeerSessions choice
  ({ st with streamSessions := sessions.insert key half },
    (evicted.bind fun k => st.streamSessions.lookup k).toList.map
      fun old => .abort old .sessionClosed)

def handleStreamOpen (st : State Addr) (peer : Addr) (replySeal : Option MeshSecSealContext)
    (request : StreamOpen) : State Addr × List (Effect Addr) :=
  let key := (peer, request.sessionId)
  let reply (frame : MeshFrame) : Effect Addr :=
    .sendFrame { peer, nativeEventMode := ingress.nativeEventMode, replySeal, frame }
  if key ∈ st.streamSessions then
    (st, [])
  else
    match (answers st.tick).openStream with
    | some reason =>
      (st.asked, [reply (.streamOpenReject request.sessionId request.openToken
        (rejectReason reason) (closeReasonWire reason))])
    | none =>
      let entered := enterStream ingress st.asked key st.tick (answers st.tick).evict
      let accepted := .openStream key st.tick request.target request.routeGroup ::
        reply (.streamOpenAccepted request.sessionId request.openToken) :: entered.2
      match st.pendingStreamData.lookup key with
      | none => (entered.1, accepted)
      | some pending =>
        let taken := { entered.1 with pendingStreamData := st.pendingStreamData.erase key }
        let flushed := flushPending answers key st.tick taken pending.frames
        (flushed.1, accepted ++ flushed.2)

def handleStreamData (st : State Addr) (peer : Addr) (sessionId : String) (payload : Bytes) :
    State Addr × List (Effect Addr) :=
  let key := (peer, sessionId)
  match st.streamSessions.lookup key with
  | some half =>
    let sent := sendStream answers st key half payload
    (sent.1, sent.2.1)
  | none =>
    let pending := (st.pendingStreamData.lookup key).getD .empty
    if ingress.pendingStreamDataMaxBytes < pending.bytes + payload.length then
      ({ st with pendingStreamData := st.pendingStreamData.insert key pending },
        [dropNative peer .streamDataPending])
    else
      ({ st with pendingStreamData := st.pendingStreamData.insert key (pending.push payload) },
        [])

def handleStreamShutdownWrite (st : State Addr) (key : SessionKey Addr) :
    State Addr × List (Effect Addr) :=
  (st, (st.streamSessions.lookup key).toList.map fun half => .shutdownWrite key half)

def handleStreamClose (st : State Addr) (key : SessionKey Addr) :
    State Addr × List (Effect Addr) :=
  closeStream
    { st with
      familyStates := st.familyStates.erase key
      pendingStreamData := st.pendingStreamData.erase key }
    key

def handleFrame (peer : Addr) (replySeal : Option MeshSecSealContext) (now : UInt64)
    (st : State Addr) : MeshFrame → State Addr × List (Effect Addr)
  | .datagramOpen request => handleDatagramOpen ingress answers st peer request
  | .datagramSend sessionId _ target payload =>
    handleDatagramSend ingress answers st (peer, sessionId) target payload
  | .datagramClose sessionId _ => handleDatagramClose st (peer, sessionId)
  | .streamOpen request => handleStreamOpen ingress answers st peer replySeal request
  | .streamData sessionId _ payload => handleStreamData ingress answers st peer sessionId payload
  | .streamOpenAccepted .. => (st, [])
  | .streamShutdownWrite sessionId => handleStreamShutdownWrite st (peer, sessionId)
  | .streamClose sessionId _ => handleStreamClose st (peer, sessionId)
  | .portOpen mouth => ({ st with mouths := (applyPortOpen st.mouths peer mouth now).1 }, [])
  | .portClose mouthId epoch =>
    ({ st with mouths := (applyPortClose st.mouths peer mouthId epoch).1 }, [])
  | _ => (st, [])

def step (P : Primitives) (st : State Addr) (inbound : Inbound Addr) :
    State Addr × List (Effect Addr) :=
  match openInbound ingress P st inbound with
  | (st, .error err) => (st, [dropMeshsec inbound.source err])
  | (st, .ok opened) =>
    let decoded := decodeInbound ingress answers st inbound.source opened
    let handled := run (handleFrame ingress answers inbound.source opened.replySeal inbound.now)
      decoded.1 decoded.2.2
    (handled.1, decoded.2.1 ++ handled.2.flatten)

/-- Every frame of the datagram is handled in a state that meets the guard, which
may look at the effects the datagram has had so far. -/
def HandledAlong (P : Primitives) (ok : Addr → List (Effect Addr) → State Addr → MeshFrame → Prop)
    (st : State Addr) (inbound : Inbound Addr) : Prop :=
  match openInbound ingress P st inbound with
  | (_, .error _) => True
  | (st, .ok opened) =>
    let decoded := decodeInbound ingress answers st inbound.source opened
    Along (handleFrame ingress answers inbound.source opened.replySeal inbound.now)
      (fun past st frame => ok inbound.source (past.flatMap Prod.snd) st frame) []
      decoded.1 decoded.2.2

instance (P : Primitives) (ok : Addr → List (Effect Addr) → State Addr → MeshFrame → Prop)
    [∀ peer effects st frame, Decidable (ok peer effects st frame)] (st : State Addr)
    (inbound : Inbound Addr) : Decidable (HandledAlong ingress answers P ok st inbound) :=
  match h : openInbound ingress P st inbound with
  | (_, .error _) => .isTrue (by simp [HandledAlong, h])
  | (st, .ok opened) =>
    let decoded := decodeInbound ingress answers st inbound.source opened
    decidable_of_iff
      (Along (handleFrame ingress answers inbound.source opened.replySeal inbound.now)
        (fun past st frame => ok inbound.source (past.flatMap Prod.snd) st frame) []
        decoded.1 decoded.2.2)
      (by simp [HandledAlong, h, decoded])

/-- The states the loop goes through for one datagram: once it is open, once it
is decoded, and after each of its frames. -/
def points (P : Primitives) (st : State Addr) (inbound : Inbound Addr) : List (State Addr) :=
  match openInbound ingress P st inbound with
  | (st, .error _) => [st]
  | (st, .ok opened) =>
    let decoded := decodeInbound ingress answers st inbound.source opened
    st :: decoded.2.2.inits.map fun frames =>
      (run (handleFrame ingress answers inbound.source opened.replySeal inbound.now)
        decoded.1 frames).1

end

/-! ## Invariants of the loop -/

section
variable {ingress : MeshPeerUdpIngress} {answers : Answers}

omit [DecidableEq Addr] in
lemma openInbound_fst (st : State Addr) (inbound : Inbound Addr) :
    ∃ replay replyCounters,
      (openInbound ingress P st inbound).1 = { st with replay, replyCounters } := by
  unfold openInbound
  split
  · exact ⟨_, _, rfl⟩
  · split
    · exact ⟨_, _, rfl⟩
    · exact ⟨_, _, rfl⟩

/-- A frame that does not go through a family: a legacy frame, or the payload of a
control or observation event. -/
def UnorderedFrame (ingress : MeshPeerUdpIngress) (opened : Opened) (frame : MeshFrame) : Prop :=
  match ingress.nativeEventMode with
  | .meshFrame => decodeLegacy opened = .ok frame
  | .secureUdpNative => ∃ event payload, decodeEvent opened.clear = .ok event ∧
      (event.semantic = .control ∨ event.semantic = .observation) ∧
      eventFramePayload event = some payload ∧ decodeFrame payload = .ok frame

/-- What layer 2 makes of an opened datagram. -/
inductive Decoding (ingress : MeshPeerUdpIngress) (answers : Answers) (st : State Addr) (peer : Addr)
    (opened : Opened) : State Addr × List (Effect Addr) × List MeshFrame → Prop where
  | dropped (reasons : List NativeDropReason)
      (hpackage : ingress.nativeEventMode = .secureUdpNative → ∀ event,
        decodeEvent opened.clear = .ok event →
        event.semantic = .stream ∨ event.semantic = .datagram → event.package = none) :
      Decoding ingress answers st peer opened (st, reasons.map (dropNative peer), [])
  | unordered (frame : MeshFrame) (hframe : UnorderedFrame ingress opened frame) :
      Decoding ingress answers st peer opened (st, [], [frame])
  | ordered (event : MeshEvent) (package : DataPackage)
      (hmode : ingress.nativeEventMode = .secureUdpNative)
      (hevent : decodeEvent opened.clear = .ok event)
      (hsemantic : event.semantic = .stream ∨ event.semantic = .datagram)
      (hpackage : event.package = some package) :
      Decoding ingress answers st peer opened
        (decodeFamilyPackage ingress answers st peer opened.replySeal event package)

section
variable {peer : Addr}

lemma Decoding.control (hmode : ingress.nativeEventMode = .secureUdpNative)
    (hevent : decodeEvent opened.clear = .ok event)
    (hsem : event.semantic = .control ∨ event.semantic = .observation) :
    Decoding ingress answers st peer opened
      (match eventFramePayload event with
        | none => (st, [dropNative peer .controlPayloadMissing], [])
        | some payload =>
          match decodeFrame payload with
          | .ok frame => (st, [], [frame])
          | .error _ => (st, [dropNative peer .controlFrameDecode], [])) := by
  have hpkg : ingress.nativeEventMode = .secureUdpNative → ∀ event',
      decodeEvent opened.clear = .ok event' →
      event'.semantic = .stream ∨ event'.semantic = .datagram → event'.package = none := by
    intro _ event' heven' hsem'
    rw [hevent] at heven'
    cases heven'
    rcases hsem with hsem | hsem <;> simp [hsem] at hsem'
  split
  · exact .dropped [.controlPayloadMissing] hpkg
  · rename_i payload hpay
    split
    · rename_i frame hframe
      apply Decoding.unordered
      unfold UnorderedFrame
      rw [hmode]
      exact ⟨event, payload, hevent, hsem, hpay, hframe⟩
    · exact .dropped [.controlFrameDecode] hpkg

lemma Decoding.family (hmode : ingress.nativeEventMode = .secureUdpNative)
    (hevent : decodeEvent opened.clear = .ok event)
    (hsem : event.semantic = .stream ∨ event.semantic = .datagram) :
    Decoding ingress answers st peer opened
      (match event.package with
        | none => (st, [dropNative peer .unsupportedEventFamily], [])
        | some package =>
          decodeFamilyPackage ingress answers st peer opened.replySeal event package) := by
  split
  · rename_i hpkg
    refine .dropped [.unsupportedEventFamily] fun _ event' heven' _ => ?_
    rw [hevent] at heven'
    cases heven'
    exact hpkg
  · rename_i package hpkg
    exact .ordered event package hmode hevent hsem hpkg

lemma decodeInbound_decoding (st : State Addr) (peer : Addr) (opened : Opened) :
    Decoding ingress answers st peer opened (decodeInbound ingress answers st peer opened) := by
  unfold decodeInbound
  split
  · rename_i hmode
    split
    · rename_i frame hframe
      apply Decoding.unordered
      unfold UnorderedFrame
      rw [hmode]
      exact hframe
    · exact .dropped [] fun hnative => by simp [hmode] at hnative
  · rename_i hmode
    split
    · rename_i err hevent
      exact .dropped [.eventDecode] fun _ event heven' => by simp [hevent] at heven'
    · rename_i event hevent
      unfold decodeNativeEvent
      split
      · rename_i hsem
        exact .control hmode hevent (Or.inl hsem)
      · rename_i hsem
        exact .control hmode hevent (Or.inr hsem)
      · rename_i hsem
        exact .family hmode hevent (Or.inl hsem)
      · rename_i hsem
        exact .family hmode hevent (Or.inr hsem)

end

/-- What holds before a datagram, survives its opening and its decoding, and is
kept by every frame that meets the guard, holds at every point. -/
lemma points_invariant {Inv : State Addr → Prop}
    (hopen : ∀ st replay replyCounters, Inv st → Inv { st with replay, replyCounters })
    (hdec : ∀ st peer opened, Inv st → Inv (decodeInbound ingress answers st peer opened).1)
    (hframe : ∀ effects st peer replySeal now frame, Inv st → ok peer effects st frame →
      Inv (handleFrame ingress answers peer replySeal now st frame).1) (hinv : Inv st)
    (hok : HandledAlong ingress answers P ok st inbound) :
    ∀ s ∈ points ingress answers P st inbound, Inv s := by
  obtain ⟨replay, replyCounters, hfst⟩ := @openInbound_fst Addr ingress P st inbound
  have hopnd : Inv (openInbound ingress P st inbound).1 := by
    rw [hfst]
    exact hopen st replay replyCounters hinv
  unfold HandledAlong at hok
  unfold points
  split
  · rename_i st' err heq
    rw [heq] at hopnd
    intro s hs
    rw [mem_singleton.mp hs]
    exact hopnd
  · rename_i st' opened heq
    rw [heq] at hopnd hok
    intro s hs
    rcases mem_cons.mp hs with rfl | hs
    · exact hopnd
    · obtain ⟨frames, hfrs, rfl⟩ := mem_map.mp hs
      obtain ⟨rest, hrest⟩ := (mem_inits _ _).mp hfrs
      have hdecod := hdec st' inbound.source opened hopnd
      simp only at hok
      rw [← hrest] at hok
      exact run_invariant (fun _ st frame hst hfram' =>
        hframe _ st inbound.source opened.replySeal inbound.now frame hst hfram')
        frames [] _ hdecod hok.append.1

lemma step_mem_points (st : State Addr) (inbound : Inbound Addr) :
    (step ingress answers P st inbound).1 ∈ points ingress answers P st inbound := by
  unfold step points
  split
  · exact mem_singleton_self _
  · apply mem_cons_of_mem
    exact mem_map.mpr ⟨_, (mem_inits _ _).mpr (prefix_refl _), rfl⟩

end
end MeshBus.Ingress
