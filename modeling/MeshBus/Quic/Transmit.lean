import MeshBus.Quic.Receive

/-!
# What a connection sends

`poll_transmit` builds at most one packet for each level.  A packet whose body is
too short for the sample of the header protection makes `protect` panic; such a
result is `none`.
-/

namespace MeshBus.Quic

open Lib

/-! ## STREAM frames -/

/-- Frames of one stream while `remaining` octets may be sent.  Every frame but the
last takes an octet, so that `remaining` is fuel enough. -/
def takeFrames (id : Nat) : Nat → Nat → SendStream → List Frame × Nat × SendStream
  | 0, remaining, s => ([], remaining, s)
  | fuel + 1, remaining, s =>
    if remaining = 0 then ([], remaining, s)
    else match s.take (min remaining appFrameBudget) with
      | none => ([], remaining, s)
      | some (s, offset, data, fin) =>
        if fin then ([.stream id offset fin data], remaining - data.length, s)
        else
          let later := takeFrames id fuel (remaining - data.length) s
          (.stream id offset fin data :: later.1, later.2)

def takeStreams : List Nat → StreamMap → Nat → List Frame × StreamMap
  | [], m, _ => ([], m)
  | id :: ids, m, remaining =>
    let taken := takeFrames id remaining remaining (m.entry id).send
    let later := takeStreams ids (m.modify id fun s => { s with send := taken.2.2 }) taken.2.1
    (taken.1 ++ later.1, later.2)

def Frame.streamLen : Frame → Nat
  | .stream _ _ _ data => data.length
  | _ => 0

/-- Handshake data in frames; `fuel` is the number of octets. -/
def takeCrypto : Nat → CryptoStream → CryptoStream × List Frame
  | 0, s => (s, [])
  | fuel + 1, s =>
    match s.takeTx appFrameBudget with
    | none => (s, [])
    | some (s, offset, data) =>
      let later := takeCrypto fuel s
      (later.1, .crypto offset data :: later.2)

namespace Conn
variable {τ κ : Type}

/-- What may be sent: the credit of the peer, and room in the congestion window. -/
def sendBudget (c : Conn τ κ) : Nat := min c.sendFc.available c.recovery.cc.available

def collectStreamFrames (c : Conn τ κ) : Conn τ κ × List Frame :=
  let taken := takeStreams c.streams.sendable c.streams c.sendBudget
  ({ c with
    streams := taken.2
    sendFc := taken.1.foldl (fun fc frame => (fc.consume frame.streamLen).getD fc) c.sendFc
    trace := c.trace ++ taken.1.map .produced }, taken.1)

/-! ## The frames of a packet -/

/-- An acknowledgement, if one is due: of every number up to the largest. -/
def takeAck (c : Conn τ κ) (level : Level) : Conn τ κ × List Frame :=
  let space := c.spaces.get level
  match space.ackPending, space.largestRecv with
  | true, some largest =>
    ({ c with spaces := c.spaces.set level { space with ackPending := false } },
      [.ack largest 0 largest []])
  | _, _ => (c, [])

def extendCredit (c : Conn τ κ) : Conn τ κ × List Frame :=
  let extended := c.recvFc.maybeExtend c.recvWindow
  ({ c with recvFc := extended.1 }, extended.2.toList.map .maxData)

/-- The whole queue goes into the packet of the data level. -/
def takeRetransmit (c : Conn τ κ) : Conn τ κ × List Frame :=
  ({ c with
    retransmit := []
    trace := c.trace ++ c.retransmit.map fun lost => .resent lost .data },
    c.retransmit.map fun lost => lost.frame)

def takeDatagrams (c : Conn τ κ) : Conn τ κ × List Frame :=
  let taken := c.datagrams.takeAll appFrameBudget
  ({ c with datagrams := taken.1 }, taken.2.map .datagram)

def appFrames (c : Conn τ κ) : Conn τ κ × List Frame :=
  let credit := c.extendCredit
  let again := credit.1.takeRetransmit
  let fresh := again.1.collectStreamFrames
  let datagrams := fresh.1.takeDatagrams
  (datagrams.1, credit.2 ++ again.2 ++ fresh.2 ++ datagrams.2)

def takeHandshake (c : Conn τ κ) (level : Level) : Conn τ κ × List Frame :=
  let space := c.spaces.get level
  let taken := takeCrypto space.crypto.tx.length space.crypto
  ({ c with spaces := c.spaces.set level { space with crypto := taken.1 } }, taken.2)

def takeHandshakeDone (c : Conn τ κ) (level : Level) : Conn τ κ × List Frame :=
  if level = .data ∧ c.side = .server ∧ c.sendHandshakeDone then
    ({ c with sendHandshakeDone := false }, [.handshakeDone])
  else (c, [])

def gatherFrames (c : Conn τ κ) (level : Level) : Conn τ κ × List Frame × Bool :=
  let ack := c.takeAck level
  if level = .data then
    match ack.1.closePending with
    | some (application, errorCode, reason) =>
      ({ ack.1 with closePending := none },
        ack.2 ++ [.connectionClose application errorCode reason], true)
    | none =>
      let app := ack.1.appFrames
      let handshake := app.1.takeHandshake level
      let done := handshake.1.takeHandshakeDone level
      (done.1, ack.2 ++ app.2 ++ handshake.2 ++ done.2, false)
  else
    let handshake := ack.1.takeHandshake level
    (handshake.1, ack.2 ++ handshake.2, false)

/-! ## Packets and datagrams -/

def headerFor (c : Conn τ κ) (level : Level) (pn : Nat) : Header :=
  match level with
  | .initial => .long .initial version1 c.dcid c.scid (encodePacketNumber pn)
  | .handshake => .long .handshake version1 c.dcid c.scid (encodePacketNumber pn)
  | .data => .short c.dcid (encodePacketNumber pn)

def recordSent (c : Conn τ κ) (level : Level) (size : Nat) (frames : List Frame)
    (closing : Bool) : Conn τ κ :=
  let space := c.spaces.get level
  let pn := space.nextPn
  let eliciting := frames.any Frame.ackEliciting
  let keep := frames.filter Frame.retransmittable
  { c.note (.sent level pn frames) with
    spaces := c.spaces.set level { space with nextPn := pn + 1 }
    recovery := c.recovery.onPacketSent level ⟨pn, c.now, size, eliciting⟩
    sentFrames := if keep.isEmpty then c.sentFrames
      else c.sentFrames.set level ((c.sentFrames.get level).insert pn keep)
    lastActivity := if eliciting then c.now else c.lastActivity
    closed := c.closed || closing }

def sendPacket (c : Conn τ κ) (level : Level) (key : κ) (frames : List Frame) (closing : Bool) :
    Option (Conn τ κ × Packet κ) :=
  let pn := (c.spaces.get level).nextPn
  let header := c.headerFor level pn
  let bodyLen := (frames.flatMap Frame.encode).length
  if header.pn.len + bodyLen < 4 then none
  else
    let size := header.size bodyLen + header.pn.len + bodyLen + 16
    some (c.recordSent level size frames closing, .whole header false ⟨key, pn, header, .ok frames⟩)

def buildPacket (c : Conn τ κ) (level : Level) : Option (Conn τ κ × List (Packet κ)) :=
  match c.txKeys.get level with
  | none => some (c, [])
  | some key =>
    let gathered := c.gatherFrames level
    if gathered.2.1.isEmpty then some (gathered.1, [])
    else (gathered.1.sendPacket level key gathered.2.1 gathered.2.2).map fun sent =>
      (sent.1, [sent.2])

def buildPackets (c : Conn τ κ) : List Level → Option (Conn τ κ × List (Packet κ))
  | [] => some (c, [])
  | level :: rest => do
      let built ← c.buildPacket level
      let later ← built.1.buildPackets rest
      some (later.1, built.2 ++ later.2)

def isFirst (c : Conn τ κ) : Bool := decide (c.side = .client) && !c.initialSent

/-- Before its first datagram a client lets TLS write; an error is ignored. -/
def primed (e : Engine τ κ) (c : Conn τ κ) : Conn τ κ :=
  if c.isFirst then (c.pumpTls e).1 else c

def pollTransmit (e : Engine τ κ) (c : Conn τ κ) :
    Option (Conn τ κ × Option (List (Packet κ))) :=
  if c.closed then some (c, none)
  else do
    let built ← (c.primed e).buildPackets levels
    if built.2.isEmpty then some (built.1, none)
    else some (if c.isFirst then { built.1 with initialSent := true } else built.1, some built.2)

end Conn
end MeshBus.Quic
