import MeshBus.Quic.Conn

/-!
# What a connection does with what it receives

Acknowledgements and losses, frames, packets, whole datagrams, and the timers.
-/

namespace MeshBus.Quic

open Lib

namespace Conn
variable {τ κ : Type}

/-! ## Acknowledged and lost packets -/

def forgetAcked (level : Level) (c : Conn τ κ) (p : SentPacket) : Conn τ κ :=
  let stored := c.sentFrames.get level
  { c.note (.acked level p.pn ((stored.lookup p.pn).getD [])) with
    sentFrames := c.sentFrames.set level (stored.erase p.pn) }

def requeue (level : Level) (c : Conn τ κ) (p : SentPacket) : Conn τ κ :=
  let stored := c.sentFrames.get level
  let frames := (stored.lookup p.pn).getD []
  { c.note (.lost level p.pn frames) with
    sentFrames := c.sentFrames.set level (stored.erase p.pn)
    retransmit := c.retransmit ++ (frames.filter Frame.retransmittable).map (⟨level, ·⟩) }

def requeueLost (c : Conn τ κ) (level : Level) (lost : List SentPacket) : Conn τ κ :=
  lost.foldl (requeue level) c

def detectLost (c : Conn τ κ) (level : Level) : Conn τ κ × List SentPacket :=
  let detected := c.recovery.detectLost level c.now
  ({ c with recovery := detected.1 }.requeueLost level detected.2, detected.2)

def handleAck (c : Conn τ κ) (level : Level) (largest delay firstRange : Nat)
    (ranges : List AckRange) : Conn τ κ :=
  let acked := c.recovery.onAck level largest firstRange ranges delay c.now
  (acked.2.foldl (forgetAcked level) { c with recovery := acked.1 }).detectLost level |>.1

/-! ## Frames -/

def handleStream (c : Conn τ κ) (id offset : Nat) (fin : Bool) (data : Bytes) :
    Conn τ κ × Except Error Unit :=
  match c.recvFc.consume data.length with
  | none => (c, .error (.transport "connection flow control exceeded"))
  | some fc =>
    let c := { c with recvFc := fc }.note (.counted (.stream id offset fin data))
    if c.streams.wouldExceedCap id then (c, .error (.transport "stream count cap"))
    else ({ c with streams := c.streams.modify id fun s =>
      { s with recv := s.recv.ingest offset data fin } }, .ok ())

def handleFrame (c : Conn τ κ) (level : Level) : Frame → Conn τ κ × Except Error Unit
  | .padding _ => (c, .ok ())
  | .ping => (c, .ok ())
  | .ack largest delay firstRange ranges =>
    (c.handleAck level largest delay firstRange ranges, .ok ())
  | .crypto offset data =>
    let space := c.spaces.get level
    ({ c with
      spaces := c.spaces.set level { space with crypto := space.crypto.recv offset data } },
      .ok ())
  | .resetStream streamId _ _ =>
    ({ c with streams := c.streams.modify streamId fun s => { s with recv := s.recv.stop } },
      .ok ())
  | .stopSending _ _ => (c, .ok ())
  | .stream id offset fin data => c.handleStream id offset fin data
  | .maxData max => ({ c with sendFc := c.sendFc.setLimit max }, .ok ())
  | .maxStreamData _ max =>
    ({ c with peerStreamData := if c.peerStreamData < max then max else c.peerStreamData },
      .ok ())
  | .maxStreams bidi max => ({ c with streams := c.streams.setPeerMax bidi max }, .ok ())
  | .dataBlocked _ => (c, .ok ())
  | .streamDataBlocked _ _ => (c, .ok ())
  | .streamsBlocked _ _ => (c, .ok ())
  | .connectionClose _ _ _ => ({ c with closed := true }, .ok ())
  | .handshakeDone =>
    (if c.side = .client then { c with handshakeConfirmed := true } else c, .ok ())
  | .datagram data =>
    ({ c with datagrams := c.datagrams.ingest data }.note (.delivered data), .ok ())

def handleFrames (c : Conn τ κ) (level : Level) : List Frame → Conn τ κ × Except Error Unit
  | [] => (c, .ok ())
  | frame :: rest =>
    match c.handleFrame level frame with
    | (c, .error err) => (c, .error err)
    | (c, .ok _) => c.handleFrames level rest

/-! ## Timers -/

/-- Loss detection over the levels, and whether anything was lost. -/
def detectLevels (c : Conn τ κ) : List Level → Conn τ κ × Bool
  | [] => (c, false)
  | level :: rest =>
    let detected := c.detectLost level
    let later := detected.1.detectLevels rest
    (later.1, !detected.2.isEmpty || later.2)

def onTimeout (c : Conn τ κ) (now : Nat) : Conn τ κ :=
  let c := { c with now := now }
  if 0 < c.idleTimeoutUs ∧ c.lastActivity + c.idleTimeoutUs ≤ now then { c with closed := true }
  else
    let (c, anyLost) := c.detectLevels levels
    if anyLost then c
    else match c.recovery.lossTimer with
      | some deadline =>
        if deadline ≤ now then { c with recovery := c.recovery.onPtoExpired } else c
      | none => c

/-! ## TLS -/

def readLevel (e : Engine τ κ) (c : Conn τ κ) (level : Level) : Conn τ κ × Except Error Unit :=
  let space := c.spaces.get level
  let pending := space.crypto.readInOrder
  let c := { c with spaces := c.spaces.set level { space with crypto := pending.1 } }
  if pending.2.isEmpty then (c, .ok ())
  else
    let read := e.readHandshake c.tls pending.2
    ({ c with tls := read.1 }, read.2)

def readLevels (e : Engine τ κ) (c : Conn τ κ) : List Level → Conn τ κ × Except Error Unit
  | [] => (c, .ok ())
  | level :: rest =>
    match c.readLevel e level with
    | (c, .error err) => (c, .error err)
    | (c, .ok _) => c.readLevels e rest

def pushHandshake (c : Conn τ κ) (data : Bytes) : Conn τ κ :=
  let space := c.spaces.get c.writeLevel
  { c with spaces := c.spaces.set c.writeLevel { space with crypto := space.crypto.pushTx data } }

def installKeys (c : Conn τ κ) : KeyChange κ → Conn τ κ
  | .handshake own peer =>
    { c with
      txKeys := c.txKeys.set .handshake (some own)
      rxKeys := c.rxKeys.set .handshake (some peer)
      writeLevel := .handshake }
  | .oneRtt own peer =>
    { c with
      txKeys := c.txKeys.set .data (some own)
      rxKeys := c.rxKeys.set .data (some peer)
      writeLevel := .data }

def writeHandshake (e : Engine τ κ) (c : Conn τ κ) : Conn τ κ :=
  let written := e.writeHandshake c.tls
  let c := { c with tls := written.1 }
  let c := written.2.1.foldl (fun c change => (c.pushHandshake change.1).installKeys change.2) c
  c.pushHandshake written.2.2

def learnParams (e : Engine τ κ) (c : Conn τ κ) : Conn τ κ :=
  match c.peerParams, e.peerTransportParameters c.tls with
  | none, some params => { c.adoptPeerParams params with peerParams := some params }
  | _, _ => c

def confirm (e : Engine τ κ) (c : Conn τ κ) : Conn τ κ :=
  if c.side = .server ∧ e.isHandshaking c.tls = false ∧ c.handshakeConfirmed = false then
    { c with handshakeConfirmed := true, sendHandshakeDone := true }
  else c

def pumpTls (e : Engine τ κ) (c : Conn τ κ) : Conn τ κ × Except Error Unit :=
  match c.readLevels e levels with
  | (c, .error err) => (c, .error err)
  | (c, .ok _) => (((c.writeHandshake e).learnParams e).confirm e, .ok ())

/-! ## Packets -/

def markReceived (c : Conn τ κ) (level : Level) (pn : Nat) : Conn τ κ :=
  let space := c.spaces.get level
  { c.note (.decrypted level pn) with
    spaces := c.spaces.set level { space with
      largestRecv := some (space.largestRecv.elim pn (max · pn))
      recvCount := space.recvCount + 1
      ackPending := true } }

/-- What `PktCrypto::open` says when it fails. -/
def openError (level : Level) : Error :=
  .crypto (if level = .initial then "aead open" else "rustls aead open")

def noKeys : Error := .crypto "no rx keys for level"

def adoptInitial (e : Engine τ κ) (c : Conn τ κ) (ty : LongType) (dcid scid : ConnectionId) :
    Conn τ κ × Except Error Unit :=
  if c.side = .server ∧ ty = .initial ∧ (c.rxKeys.get .initial).isNone then
    { c with dcid := scid }.installInitialKeys e dcid.bytes
  else (c, .ok ())

section
variable [DecidableEq κ]

def decryptAndHandle (c : Conn τ κ) (header : Header) (short : Bool) (body : Sealed κ) :
    Conn τ κ × Except Error Unit :=
  let level := header.level
  match c.rxKeys.get level with
  | none => (c, .error noKeys)
  | some key =>
    if short then (c, .error .shortBuffer)
    else
      let pn := decodePacketNumber ((c.spaces.get level).largestRecv.getD 0) header.pn
      match body.openWith key pn header with
      | none => (c, .error (openError level))
      | some (.error err) => (c.markReceived level pn, .error err)
      | some (.ok frames) => (c.markReceived level pn).handleFrames level frames

def recvOne (e : Engine τ κ) (c : Conn τ κ) : Packet κ → Conn τ κ × Except Error Unit
  | .malformed err => (c, .error err)
  | .whole (.short dcid pn) short body => c.decryptAndHandle (.short dcid pn) short body
  | .whole (.long ty version dcid scid pn) short body =>
    if version ≠ version1 then (c, .error (.unsupportedVersion version))
    else match c.adoptInitial e ty dcid scid with
      | (c, .error err) => (c, .error err)
      | (c, .ok _) => c.decryptAndHandle (.long ty version dcid scid pn) short body

/-! ## Datagrams -/

/-- One pass over the packets: those whose level has no keys are put off, and any
other failure ends it.  The flag says whether a packet was taken. -/
def recvPass (e : Engine τ κ) (c : Conn τ κ) :
    List (Packet κ) → Conn τ κ × Except Error (List (Packet κ) × Bool)
  | [] => (c, .ok ([], false))
  | packet :: rest =>
    match c.recvOne e packet with
    | (c, .ok _) =>
      let later := c.recvPass e rest
      (later.1, later.2.map fun result => (result.1, true))
    | (c, .error err) =>
      if err = noKeys then
        let later := c.recvPass e rest
        (later.1, later.2.map fun result => (packet :: result.1, result.2))
      else (c, .error err)

/-- Passes, until no packet is put off or none was taken.  Every pass but the last
takes a packet, so that the number of packets is fuel enough. -/
def recvLoop (e : Engine τ κ) : Nat → Conn τ κ → List (Packet κ) → Conn τ κ × Except Error Unit
  | 0, c, _ => (c, .ok ())
  | fuel + 1, c, queue =>
    match c.recvPass e queue with
    | (c, .error err) => (c, .error err)
    | (c, .ok (deferred, progressed)) =>
      match c.pumpTls e with
      | (c, .error err) => (c, .error err)
      | (c, .ok _) =>
        if deferred.isEmpty || !progressed then (c, .ok ())
        else recvLoop e fuel c deferred

def recv (e : Engine τ κ) (c : Conn τ κ) : Datagram κ → Conn τ κ × Except Error Unit
  | .error err => (c, .error err)
  | .ok packets => recvLoop e (packets.length + 1) c packets

end
end Conn
end MeshBus.Quic
