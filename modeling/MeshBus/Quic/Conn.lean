import MeshBus.Lib.Run
import MeshBus.Quic.Packet
import MeshBus.Quic.Stream

/-!
# QUIC connections

The state machine of one connection: datagrams in, datagrams out, timers, and what
the application asks for.  TLS is a parameter (`Engine`).  A call that fails keeps
the changes it made before it failed.
-/

namespace MeshBus.Quic

open Lib

/-! ## TLS -/

/-- `quic_transport_parameters`, as far as a connection adopts them. -/
structure TransportParameters where
  maxIdleTimeoutMs : Nat := 30000
  initialMaxData : Nat := 2 ^ 20
  initialMaxStreamDataBidiRemote : Nat := 256 * 1024
  initialMaxStreamDataUni : Nat := 256 * 1024
  initialMaxStreamsBidi : Nat := 64
  initialMaxStreamsUni : Nat := 8
deriving DecidableEq, Repr

/-- New keys, ours first. -/
inductive KeyChange (κ : Type) where
  | handshake (own peer : κ)
  | oneRtt (own peer : κ)

/-- A TLS session.  `writeHandshake` is the whole loop of calls: what each call
wrote before a change of keys, and what the last one wrote. -/
structure Engine (τ κ : Type) where
  readHandshake : τ → Bytes → τ × Except Error Unit
  writeHandshake : τ → τ × List (Bytes × KeyChange κ) × Bytes
  peerTransportParameters : τ → Option (Except Error TransportParameters)
  isHandshaking : τ → Bool
  /-- The keys of client and server for a client's first connection id. -/
  initialKeys : Bytes → Except Error (κ × κ)

/-! ## State -/

structure Space where
  nextPn : Nat := 0
  largestRecv : Option Nat := none
  recvCount : Nat := 0
  ackPending : Bool := false
  crypto : CryptoStream := {}

/-- A frame that waits to be sent again, with the level its packet had.  The level
is history: the queue of the source holds the frame alone. -/
structure LostFrame where
  level : Level
  frame : Frame
deriving DecidableEq, Repr

/-- What happened to a connection. -/
inductive Event where
  | wrote (id : Nat) (data : Bytes)
  /-- A STREAM frame was made of queued data. -/
  | produced (frame : Frame)
  /-- The credit took the octets of a STREAM frame. -/
  | counted (frame : Frame)
  /-- A DATAGRAM frame went into the queue of the application. -/
  | delivered (data : Bytes)
  | sent (level : Level) (pn : Nat) (frames : List Frame)
  /-- A lost frame went into a packet of some level. -/
  | resent (lost : LostFrame) (level : Level)
  | decrypted (level : Level) (pn : Nat)
  | acked (level : Level) (pn : Nat) (frames : List Frame)
  | lost (level : Level) (pn : Nat) (frames : List Frame)
deriving DecidableEq, Repr

/-- A connection.  `trace` is a history variable, which nothing reads. -/
structure Conn (τ κ : Type) where
  side : Side
  dcid : ConnectionId
  scid : ConnectionId
  tls : τ
  writeLevel : Level
  spaces : PerLevel Space
  txKeys : PerLevel (Option κ)
  rxKeys : PerLevel (Option κ)
  initialSent : Bool
  handshakeConfirmed : Bool
  sendHandshakeDone : Bool
  closed : Bool
  peerParams : Option (Except Error TransportParameters)
  streams : StreamMap
  datagrams : DatagramQueue
  recovery : LossRecovery
  sendFc : FlowController
  recvFc : FlowController
  recvWindow : Nat
  peerStreamData : Nat
  /-- The frames to keep of every packet, by level and number. -/
  sentFrames : PerLevel (OrdMap Nat (List Frame))
  retransmit : List LostFrame
  closePending : Option (Bool × Nat × Bytes)
  now : Nat
  lastActivity : Nat
  idleTimeoutUs : Nat
  trace : List Event

def appFrameBudget : Nat := 1100

def version1 : Nat := 1

namespace Conn
variable {τ κ : Type}

def new (side : Side) (dcid scid : ConnectionId) (tls : τ) : Conn τ κ where
  side := side
  dcid := dcid
  scid := scid
  tls := tls
  writeLevel := .initial
  spaces := .same {}
  txKeys := .same none
  rxKeys := .same none
  initialSent := false
  handshakeConfirmed := false
  sendHandshakeDone := false
  closed := false
  peerParams := none
  streams := .new side
  datagrams := .new 64
  recovery := {}
  sendFc := .new 0
  recvFc := .new (2 ^ 20)
  recvWindow := 2 ^ 20
  peerStreamData := 0
  sentFrames := .same .empty
  retransmit := []
  closePending := none
  now := 0
  lastActivity := 0
  idleTimeoutUs := 30000 * 1000
  trace := []

def note (c : Conn τ κ) (event : Event) : Conn τ κ := { c with trace := c.trace ++ [event] }

def adoptPeerParams (c : Conn τ κ) : Except Error TransportParameters → Conn τ κ
  | .error _ => c
  | .ok peer =>
    let peerIdle := min (peer.maxIdleTimeoutMs * 1000) (2 ^ 64 - 1)
    { c with
      sendFc := c.sendFc.setLimit peer.initialMaxData
      peerStreamData := max peer.initialMaxStreamDataBidiRemote peer.initialMaxStreamDataUni
      streams := (c.streams.setPeerMax true peer.initialMaxStreamsBidi).setPeerMax false
        peer.initialMaxStreamsUni
      idleTimeoutUs :=
        if c.idleTimeoutUs = 0 then peerIdle
        else if peerIdle = 0 then c.idleTimeoutUs
        else min c.idleTimeoutUs peerIdle }

def installInitialKeys (e : Engine τ κ) (c : Conn τ κ) (clientDcid : Bytes) :
    Conn τ κ × Except Error Unit :=
  match e.initialKeys clientDcid with
  | .error err => (c, .error err)
  | .ok (client, server) =>
    let (tx, rx) := match c.side with
      | .client => (client, server)
      | .server => (server, client)
    ({ c with
      txKeys := c.txKeys.set .initial (some tx)
      rxKeys := c.rxKeys.set .initial (some rx) }, .ok ())

def isEstablished (e : Engine τ κ) (c : Conn τ κ) : Bool :=
  !e.isHandshaking c.tls && (c.txKeys.get .data).isSome && (c.rxKeys.get .data).isSome

end Conn
end MeshBus.Quic
