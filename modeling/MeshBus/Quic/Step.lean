import MeshBus.Quic.Transmit

/-!
# The interface of a connection

Every public call that changes a connection is an input of `step`.  A call that
panics does not come back; the run that goes on from the state before it says
nothing about such a connection.
-/

namespace MeshBus.Quic

open Lib

inductive Input (κ : Type) where
  | setNow (now : Nat)
  | timeout (now : Nat)
  | openStream (bidi : Bool)
  | write (id : Nat) (data : Bytes) (fin : Bool)
  | read (id : Nat)
  | sendDatagram (data : Bytes)
  | recvDatagram
  | close (application : Bool) (errorCode : Nat) (reason : Bytes)
  | recv (datagram : Datagram κ)
  | poll

inductive Output (κ : Type) where
  | done
  | opened (id : Option Nat)
  | read (data : Bytes)
  | queued (accepted : Bool)
  | received (data : Option Bytes)
  | processed (result : Except Error Unit)
  | transmit (datagram : Option (List (Packet κ)))
  | panicked

namespace Conn
variable {τ κ : Type}

def client (e : Engine τ κ) (dcid scid : ConnectionId) (tls : τ) : Conn τ κ × Except Error Unit :=
  (Conn.new .client dcid scid tls).installInitialKeys e dcid.bytes

/-- `Conn::server`: the empty id stands until the first Initial packet. -/
def server (scid : ConnectionId) (tls : τ) : Conn τ κ :=
  Conn.new .server ⟨[], by decide⟩ scid tls

def Starts (e : Engine τ κ) (c : Conn τ κ) : Prop :=
  (∃ scid tls, c = server scid tls) ∨ ∃ dcid scid tls, client e dcid scid tls = (c, .ok ())

def setNow (c : Conn τ κ) (now : Nat) : Conn τ κ :=
  { c with
    now := now
    lastActivity := if c.lastActivity = 0 then now else c.lastActivity }

def openStream (c : Conn τ κ) (bidi : Bool) : Conn τ κ × Option Nat :=
  let opened := c.streams.openNext bidi
  ({ c with streams := opened.1 }, opened.2)

def writeStream (c : Conn τ κ) (id : Nat) (data : Bytes) (fin : Bool) : Conn τ κ :=
  { c with streams := c.streams.modify id fun s => { s with send := s.send.write data fin } }.note
    (.wrote id data)

def readStream (c : Conn τ κ) (id : Nat) : Conn τ κ × Bytes :=
  let read := (c.streams.entry id).recv.read
  ({ c with streams := c.streams.modify id fun s => { s with recv := read.1 } }, read.2)

def sendDatagram (c : Conn τ κ) (data : Bytes) : Conn τ κ × Bool :=
  let queued := c.datagrams.queueOutgoing data
  ({ c with datagrams := queued.1 }, queued.2)

def recvDatagram (c : Conn τ κ) : Conn τ κ × Option Bytes :=
  let received := c.datagrams.recv
  ({ c with datagrams := received.1 }, received.2)

def close (c : Conn τ κ) (application : Bool) (errorCode : Nat) (reason : Bytes) : Conn τ κ :=
  if c.closePending = none ∧ c.closed = false then
    { c with closePending := some (application, errorCode, reason) }
  else c

def step [DecidableEq κ] (e : Engine τ κ) (c : Conn τ κ) : Input κ → Conn τ κ × Output κ
  | .setNow now => (c.setNow now, .done)
  | .timeout now => (c.onTimeout now, .done)
  | .openStream bidi => ((c.openStream bidi).1, .opened (c.openStream bidi).2)
  | .write id data fin => (c.writeStream id data fin, .done)
  | .read id => ((c.readStream id).1, .read (c.readStream id).2)
  | .sendDatagram data => ((c.sendDatagram data).1, .queued (c.sendDatagram data).2)
  | .recvDatagram => (c.recvDatagram.1, .received c.recvDatagram.2)
  | .close application errorCode reason => (c.close application errorCode reason, .done)
  | .recv datagram => ((c.recv e datagram).1, .processed (c.recv e datagram).2)
  | .poll =>
    match c.pollTransmit e with
    | some (c, datagram) => (c, .transmit datagram)
    | none => (c, .panicked)

end Conn

/-- A session whose handshake is over once it has written `hello`: the keys of the
data level are there, and the parameters of the peer are the default ones. -/
def Engine.instant {κ : Type} (hello : Bytes) (own peer : κ) : Engine Bool κ where
  readHandshake done _ := (done, .ok ())
  writeHandshake done := (true, if done then [] else [(hello, .oneRtt own peer)], [])
  peerTransportParameters _ := some (.ok {})
  isHandshaking done := !done
  initialKeys _ := .ok (own, peer)

end MeshBus.Quic
