import MeshBus.Lib.Feed
import MeshBus.Socks5.Codec

/-!
# The SOCKS5 handshake

The greeting, the user name and password where the ingress asks for them, and the request
arrive on one connection.  The ingress reads chunks into one buffer that all three decoders
share; `wholeHandshake` is what a reader of the whole connection would decode.  The two
agree whatever the chunks are.  The buffer is gone when the handshake ends.
-/

namespace MeshBus.Socks5

open Lib CodecError
open Lib.Talk
open Net

/-! ## Users -/

structure AuthConfig where
  users : Table String String

def AuthConfig.verify (auth : AuthConfig) (username password : String) : Bool :=
  (auth.users.lookup username).any (· == password)

def AuthConfig.isEmpty (auth : AuthConfig) : Bool := auth.users.keys.isEmpty

/-- `Socks5Ingress::with_auth`: without users nobody has to log in. -/
def withAuth (auth : AuthConfig) : Option AuthConfig := if auth.isEmpty then none else some auth

structure Handshake where
  request : Request
  authenticatedUser : Option String
deriving DecidableEq

/-! ## The connection -/

/-- The writing side: whether the next calls of `write_all` succeed, and what was written. -/
structure Writer where
  writes : List Bool
  written : List Bytes
deriving DecidableEq, Repr

/-- `write_all`; the conversation ends if it fails. -/
def writeAll (bs : Bytes) : Talk Writer Unit := perform fun w =>
  match w.writes with
  | true :: writes => (some (), ⟨writes, w.written ++ [bs]⟩)
  | _ => (none, { w with writes := w.writes.tail })

def refuse {α : Type} (bs : Bytes) : Talk Writer α := perform fun w =>
  match w.writes with
  | true :: writes => (none, ⟨writes, w.written ++ [bs]⟩)
  | _ => (none, { w with writes := w.writes.tail })

lemma stops_refuse (bs : Bytes) : Stops (refuse bs : Talk Writer α) := by
  refine stops_perform fun w => ?_
  split
  · rfl
  · rfl

/-! ## The three steps -/

section
variable (text : IpText)

def requiredMethod (auth : Option AuthConfig) : Method :=
  if auth.isSome then .userPass else .noAuth

def negotiateMethod (auth : Option AuthConfig) : Talk Writer Unit := do
  read
  let greeting ← await isIncomplete decodeGreeting fun _ => stop
  if requiredMethod auth ∈ greeting.methods then
    writeAll [0x05, (requiredMethod auth).wireCode]
  else refuse [0x05, 0xff]

def runUserPassSubnegotiation (auth : AuthConfig) : Talk Writer String := do
  let req ← await isIncomplete decodeUserPassRequest fun _ =>
    refuse (encodeUserPassReply userPassStatusFailure)
  match ofUtf8 req.username with
  | none => refuse (encodeUserPassReply userPassStatusFailure)
  | some username =>
    match ofUtf8 req.password with
    | none => refuse (encodeUserPassReply userPassStatusFailure)
    | some password =>
      if auth.verify username password then do
        writeAll (encodeUserPassReply userPassStatusSuccess)
        pure username
      else refuse (encodeUserPassReply userPassStatusFailure)

def authenticate : Option AuthConfig → Talk Writer (Option String)
  | some auth => some <$> runUserPassSubnegotiation auth
  | none => pure none

/-- `read_handshake` up to its return: the buffer still holds what follows the request. -/
def negotiate (auth : Option AuthConfig) : Talk Writer Handshake := do
  negotiateMethod auth
  let user ← authenticate auth
  let request ← await isIncomplete (decodeRequest text) fun _ => stop
  pure ⟨request, user⟩

def readHandshake (auth : Option AuthConfig) : Talk Writer Handshake := do
  let handshake ← negotiate text auth
  dropBuffer
  pure handshake

end

/-! ## The whole connection -/

inductive HandshakeError where
  | codec (e : CodecError)
  | noAcceptableMethod
  | userRejected
deriving DecidableEq, Repr

open HandshakeError

section
variable (text : IpText)

def wholeMethod (auth : Option AuthConfig) : Reader HandshakeError Unit := do
  let greeting ← decodeGreeting.mapError .codec
  if requiredMethod auth ∈ greeting.methods then pure () else throw .noAcceptableMethod

def AuthConfig.admits (auth : AuthConfig) (req : UserPassRequest) : Option String :=
  (ofUtf8 req.username).bind fun username =>
    (ofUtf8 req.password).bind fun password =>
      if auth.verify username password then some username else none

def wholeUser (auth : AuthConfig) : Reader HandshakeError String := do
  let req ← decodeUserPassRequest.mapError .codec
  (auth.admits req).elim (throw .userRejected) pure

def wholeAuthenticate : Option AuthConfig → Reader HandshakeError (Option String)
  | some auth => some <$> wholeUser auth
  | none => pure none

/-- The handshake at the front of all the octets of a connection, however they arrive. -/
def wholeHandshake (auth : Option AuthConfig) : Reader HandshakeError Handshake := do
  wholeMethod auth
  let user ← wholeAuthenticate auth
  let request ← (decodeRequest text).mapError .codec
  pure ⟨request, user⟩

def afterHandshake (auth : Option AuthConfig) (bs : Bytes) : Option Bytes :=
  ((wholeHandshake text auth).run bs).toOption.map Prod.snd

lemma afterHandshake_of_ok {text : IpText} {auth : Option AuthConfig} {bs rest : Bytes}
    {handshake : Handshake} (h : (wholeHandshake text auth).run bs = .ok (handshake, rest)) :
    afterHandshake text auth bs = some rest := by
  rw [afterHandshake, h]
  rfl

lemma follows_writeAll (bs : Bytes) :
    Follows (writeAll bs) (pure () : Reader ε Unit) := follows_perform _

lemma follows_negotiateMethod : Follows (negotiateMethod auth) (wholeMethod auth) := by
  refine follows_read.silent ?_
  refine ((follows_await steady_decodeGreeting fun _ =>
    stops_stop).mapError codec).bind fun greeting => ?_
  exact .ite (fun _ => follows_writeAll _) fun _ => (stops_refuse _).follows _

lemma follows_runUserPassSubnegotiation :
    Follows (runUserPassSubnegotiation auth) (wholeUser auth) := by
  refine ((follows_await steady_decodeUserPassRequest fun _ =>
    stops_refuse _).mapError codec).bind fun req => ?_
  unfold AuthConfig.admits
  cases ofUtf8 req.username with
  | none => exact (stops_refuse _).follows _
  | some username =>
    cases ofUtf8 req.password with
    | none => exact (stops_refuse _).follows _
    | some password =>
      dsimp only [Option.bind_some]
      split
      · exact (follows_writeAll _).silent (.pure username)
      · exact (stops_refuse _).follows _

lemma follows_authenticate : Follows (authenticate auth) (wholeAuthenticate auth) := by
  cases auth with
  | none => exact .pure none
  | some auth => exact follows_runUserPassSubnegotiation.bind fun user => .pure (some user)

/-- However the connection is cut into chunks, the handshake is the one at its front, and
what follows the request is still to come, in the buffer or from the next reads. -/
lemma follows_negotiate (auth : Option AuthConfig) :
    Follows (negotiate text auth) (wholeHandshake text auth) := by
  refine follows_negotiateMethod.bind fun _ => ?_
  refine follows_authenticate.bind fun user => ?_
  refine ((follows_await (steady_decodeRequest text) fun _ =>
    stops_stop).mapError codec).bind fun request => ?_
  exact .pure _

/-! ## What a client sends -/

end
end MeshBus.Socks5
