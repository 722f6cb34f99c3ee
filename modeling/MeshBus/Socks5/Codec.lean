import MeshBus.Lib.Reader
import MeshBus.Net.Address
import MeshBus.Net.Endpoint

/-!
# The SOCKS5 wire codec

Frames as the ingress decodes and encodes them.  A decoder checks what it needs before it
takes anything off the buffer, and says `incomplete` when octets are missing; a frame that
was decoded is decoded again, with the same length, when more octets follow it.
-/

namespace MeshBus.Socks5

open Lib List UInt8
open Lib.Reader
open Net
open Proto (Endpoint ParseError)
open Rule (IpAddr)

/-! ## Frames -/

inductive Method where
  | noAuth | gssApi | userPass
  | unknown (code : UInt8)
deriving DecidableEq, Repr

open Method

def Method.wireCode : Method → UInt8
  | .noAuth => 0x00
  | .gssApi => 0x01
  | .userPass => 0x02
  | .unknown code => code

def Method.ofWire (code : UInt8) : Method :=
  if code = 0 then .noAuth
  else if code = 1 then .gssApi
  else if code = 2 then .userPass
  else .unknown code

inductive Reply where
  | succeeded | generalFailure | connectionNotAllowed | networkUnreachable | hostUnreachable
  | connectionRefused | ttlExpired | commandNotSupported | addressTypeNotSupported
deriving DecidableEq, Repr

def Reply.wireCode : Reply → UInt8
  | .succeeded => 0x00
  | .generalFailure => 0x01
  | .connectionNotAllowed => 0x02
  | .networkUnreachable => 0x03
  | .hostUnreachable => 0x04
  | .connectionRefused => 0x05
  | .ttlExpired => 0x06
  | .commandNotSupported => 0x07
  | .addressTypeNotSupported => 0x08

inductive Command where
  | connect | bind | udpAssociate
deriving DecidableEq, Repr

def Command.wireCode : Command → UInt8
  | .connect => 0x01
  | .bind => 0x02
  | .udpAssociate => 0x03

structure Greeting where
  methods : List Method
deriving DecidableEq, Repr

structure Request where
  command : Command
  endpoint : Endpoint
deriving DecidableEq

structure UdpDatagram where
  target : Endpoint
  payload : Bytes
deriving DecidableEq

def userPassVersion : UInt8 := 0x01
def userPassStatusSuccess : UInt8 := 0x00
def userPassStatusFailure : UInt8 := 0xff

structure UserPassRequest where
  username : Bytes
  password : Bytes
deriving DecidableEq, Repr

inductive CodecError where
  | incomplete
  | unsupportedVersion (version : UInt8)
  | invalidAtyp (atyp : UInt8)
  | unsupportedCommand (command : UInt8)
  | unsupportedFragment (fragment : UInt8)
  | reservedNotZero (value : UInt8)
  | invalidHost
  | endpoint (text : String)
  | unsupportedAuthVersion (version : UInt8)
  | invalidAuthLen
deriving DecidableEq, Repr

def CodecError.isIncomplete : CodecError → Bool
  | .incomplete => true
  | _ => false

/-- The `Display` text of an endpoint that was rejected. -/
def rejectedText (e : ParseError) : String := e.text

/-! ## Decoders -/

section
variable (text : IpText)

def decodeGreeting : Reader CodecError Greeting := do
  need .incomplete 2
  let version ← octet .incomplete
  check (version == 0x05) (.unsupportedVersion version)
  let n ← octet .incomplete
  let methods ← take .incomplete n.toNat
  pure ⟨methods.map ofWire⟩

def decodeCommand (code : UInt8) : Reader CodecError Command :=
  if code = 0x01 then pure .connect
  else if code = 0x02 then pure .bind
  else if code = 0x03 then pure .udpAssociate
  else throw (.unsupportedCommand code)

/-- The host of an endpoint, by its address type; the two octets of the port have to be
there as well. -/
def decodeHost (atyp : UInt8) : Reader CodecError String :=
  if atyp = 0x01 then do
    need .incomplete (4 + 2)
    let bs ← take .incomplete 4
    pure (text.display (ipv4 bs))
  else if atyp = 0x03 then do
    let len ← octet .incomplete
    need .incomplete (len.toNat + 2)
    let bs ← take .incomplete len.toNat
    (ofUtf8 bs).elim (throw .invalidHost) pure
  else if atyp = 0x04 then do
    need .incomplete (16 + 2)
    let bs ← take .incomplete 16
    pure (text.display (ipv6 bs))
  else throw (.invalidAtyp atyp)

/-- `decode_endpoint_at`, once what stands before the offset is taken. -/
def decodeEndpoint : Reader CodecError Endpoint := do
  let atyp ← octet .incomplete
  let host ← decodeHost text atyp
  let port ← take .incomplete 2
  match Endpoint.new host (UInt16.ofNat (ofBeBytes port)) with
  | .ok endpoint => pure endpoint
  | .error e => throw (.endpoint (rejectedText e))

def decodeRequest : Reader CodecError Request := do
  need .incomplete 7
  let version ← octet .incomplete
  check (version == 0x05) (.unsupportedVersion version)
  let code ← octet .incomplete
  let command ← decodeCommand code
  let reserved ← octet .incomplete
  check (reserved == 0) (.reservedNotZero reserved)
  let endpoint ← decodeEndpoint text
  pure ⟨command, endpoint⟩

def decodeUserPassRequest : Reader CodecError UserPassRequest := do
  need .incomplete 2
  let version ← octet .incomplete
  check (version == userPassVersion) (.unsupportedAuthVersion version)
  let ulen ← octet .incomplete
  check (ulen != 0) .invalidAuthLen
  need .incomplete (ulen.toNat + 1)
  let username ← take .incomplete ulen.toNat
  let plen ← octet .incomplete
  check (plen != 0) .invalidAuthLen
  let password ← take .incomplete plen.toNat
  pure ⟨username, password⟩

def decodeUdpDatagram : Reader CodecError UdpDatagram := do
  need .incomplete 7
  let first ← octet .incomplete
  let second ← octet .incomplete
  check (first == 0 && second == 0) (.unsupportedVersion first)
  let fragment ← octet .incomplete
  check (fragment == 0) (.unsupportedFragment fragment)
  let target ← decodeEndpoint text
  let payload ← toEnd
  pure ⟨target, payload⟩

end

/-! ## Encoders -/

section
variable (text : IpText)

def encodeGreeting (methods : List Method) : Bytes :=
  [0x05, ofNat methods.length] ++ methods.map wireCode

def encodeHost (host : String) : Bytes :=
  match text.parse host with
  | some (.v4 bits) => 0x01 :: octets (.v4 bits)
  | some (.v6 bits) => 0x04 :: octets (.v6 bits)
  | none => 0x03 :: ofNat (utf8 host).length :: utf8 host

def encodeEndpoint (target : Endpoint) : Bytes :=
  encodeHost text target.host ++ beBytes 2 target.port.toNat

def encodeRequest (command : Command) (target : Endpoint) : Bytes :=
  [0x05, command.wireCode, 0x00] ++ encodeEndpoint text target

def encodeReply (reply : Reply) : Bytes :=
  [0x05, reply.wireCode, 0x00, 0x01, 127, 0, 0, 1, 0, 0]

def encodeReplyWithEndpoint (reply : Reply) (bind : Endpoint) : Bytes :=
  [0x05, reply.wireCode, 0x00] ++ encodeEndpoint text bind

def encodeUdpDatagram (target : Endpoint) (payload : Bytes) : Bytes :=
  [0x00, 0x00, 0x00] ++ encodeEndpoint text target ++ payload

def encodeUserPassRequest (username password : Bytes) : Except CodecError Bytes :=
  if username = [] ∨ 255 < username.length then .error .invalidAuthLen
  else if password = [] ∨ 255 < password.length then .error .invalidAuthLen
  else
    .ok ([userPassVersion, ofNat username.length] ++ username ++
      ofNat password.length :: password)

def encodeUserPassReply (status : UInt8) : Bytes := [userPassVersion, status]

end

/-! ## Frames that were decoded stay decoded -/

section
variable (text : IpText)

lemma steady_decodeGreeting : decodeGreeting.Steady := by
  refine (steady_need _ _).bind fun _ => (steady_octet _).bind fun version => ?_
  refine (steady_check _ _).bind fun _ => (steady_octet _).bind fun n => ?_
  exact (steady_take _ _).bind fun methods => .pure _

lemma steady_decodeCommand : (decodeCommand code).Steady := by
  unfold decodeCommand
  split
  · exact .pure _
  · split
    · exact .pure _
    · split
      · exact .pure _
      · exact .throw _

lemma steady_decodeHost (atyp : UInt8) : (decodeHost text atyp).Steady := by
  unfold decodeHost
  split
  · exact (steady_need _ _).bind fun _ => (steady_take _ _).bind fun bs => .pure _
  · split
    · refine (steady_octet _).bind fun len => (steady_need _ _).bind fun _ => ?_
      refine (steady_take _ _).bind fun bs => ?_
      cases ofUtf8 bs with
      | none => exact .throw _
      | some host => exact .pure host
    · split
      · exact (steady_need _ _).bind fun _ => (steady_take _ _).bind fun bs => .pure _
      · exact .throw _

lemma steady_decodeEndpoint : (decodeEndpoint text).Steady := by
  refine (steady_octet _).bind fun atyp => (steady_decodeHost text atyp).bind fun host => ?_
  refine (steady_take _ _).bind fun port => ?_
  split
  · exact .pure _
  · exact .throw _

lemma steady_decodeRequest : (decodeRequest text).Steady := by
  refine (steady_need _ _).bind fun _ => (steady_octet _).bind fun version => ?_
  refine (steady_check _ _).bind fun _ => (steady_octet _).bind fun code => ?_
  refine steady_decodeCommand.bind fun command => (steady_octet _).bind fun reserved => ?_
  exact (steady_check _ _).bind fun _ => (steady_decodeEndpoint text).bind fun _ => .pure _

lemma steady_decodeUserPassRequest : decodeUserPassRequest.Steady := by
  refine (steady_need _ _).bind fun _ => (steady_octet _).bind fun version => ?_
  refine (steady_check _ _).bind fun _ => (steady_octet _).bind fun ulen => ?_
  refine (steady_check _ _).bind fun _ => (steady_need _ _).bind fun _ => ?_
  refine (steady_take _ _).bind fun username => (steady_octet _).bind fun plen => ?_
  exact (steady_check _ _).bind fun _ => (steady_take _ _).bind fun _ => .pure _

end

/-! ## Round trips -/

section
variable (text : IpText)

lemma frames_octets (h : bs.length = n) :
    Frames .incomplete (take CodecError.incomplete n) bs bs := h ▸ frames_take bs

lemma toNat_ofNat_length (h : n ≤ 255) : (ofNat n).toNat = n := by
  rw [toNat_ofNat', Nat.mod_eq_of_lt (by omega)]

lemma frames_greeting (h : methods.length ≤ 255) :
    Frames .incomplete decodeGreeting (encodeGreeting methods)
      ⟨methods.map fun method => .ofWire method.wireCode⟩ := by
  have hlen : (methods.map wireCode).length = (ofNat methods.length).toNat := by
    rw [length_map, toNat_ofNat_length h]
  refine Frames.need (by simp [encodeGreeting]) ((frames_octet 0x05).bind ?_)
  refine (frames_check (by decide) _).bind ((frames_octet _).bind ?_)
  rw [← append_nil (methods.map wireCode)]
  refine (frames_octets hlen).bind ?_
  rw [map_map]
  exact Frames.pure _

/-- A host the way it comes back: a name as it is, an address the way it is displayed. -/
def canonicalHost (host : String) : String := (text.parse host).elim host text.display

lemma frames_before_port (hlen : bs.length = n)
    (hport : port.length = 2) {k : Bytes → Reader CodecError β} {b : β}
    (hk : Frames .incomplete (k bs) port b) :
    Frames .incomplete (need .incomplete (n + 2) >>= fun _ => take .incomplete n >>= k)
      (bs ++ port) b := by
  have hneed : n + 2 ≤ (bs ++ port).length := by rw [length_append, hlen, hport]
  exact Frames.need hneed ((frames_octets hlen).bind hk)

lemma frames_host (hfits : (utf8 host).length ≤ 255) (hport : port.length = 2)
    (hk : Frames .incomplete (k (canonicalHost text host)) port b) :
    Frames .incomplete (octet .incomplete >>= fun atyp => decodeHost text atyp >>= k)
      (encodeHost text host ++ port) b := by
  unfold encodeHost
  unfold canonicalHost at hk
  cases hparse : text.parse host with
  | none =>
    rw [hparse] at hk
    have hlen : (utf8 host).length = (ofNat (utf8 host).length).toNat :=
      (toNat_ofNat_length hfits).symm
    show Frames _ _ ([0x03] ++ ([ofNat (utf8 host).length] ++ (utf8 host ++ port))) b
    refine (frames_octet _).bind ?_
    rw [decodeHost, if_neg (by decide), if_pos rfl]
    simp only [bind_assoc]
    refine (frames_octet _).bind (frames_before_port hlen hport ?_)
    rw [ofUtf8_utf8]
    exact hk
  | some ip =>
    rw [hparse] at hk
    cases ip with
    | v4 bits =>
      have hlen : (octets (.v4 bits)).length = 4 := length_beBytes 4 _
      show Frames _ _ ([0x01] ++ (octets (.v4 bits) ++ port)) b
      refine (frames_octet _).bind ?_
      rw [decodeHost, if_pos rfl]
      simp only [bind_assoc]
      refine frames_before_port hlen hport ?_
      rw [ipv4_octets]
      exact hk
    | v6 bits =>
      have hlen : (octets (.v6 bits)).length = 16 := length_beBytes 16 _
      show Frames _ _ ([0x04] ++ (octets (.v6 bits) ++ port)) b
      refine (frames_octet _).bind ?_
      rw [decodeHost, if_neg (by decide), if_neg (by decide), if_pos rfl]
      simp only [bind_assoc]
      refine frames_before_port hlen hport ?_
      rw [ipv6_octets]
      exact hk

lemma four_le_encodeEndpoint (target : Endpoint) : 4 ≤ (encodeEndpoint text target).length := by
  have hhost : 2 ≤ (encodeHost text target.host).length := by
    unfold encodeHost
    split
    · rw [length_cons, octets, length_beBytes]; omega
    · rw [length_cons, octets, length_beBytes]; omega
    · rw [length_cons, length_cons]; omega
  rw [encodeEndpoint, length_append, length_beBytes]
  omega

def ReadsBack (target target' : Endpoint) : Prop :=
  target'.host = canonicalHost text target.host ∧ target'.port = target.port

variable {text}

lemma frames_endpoint (hback : ReadsBack text target target') :
    Frames .incomplete (decodeEndpoint text) (encodeEndpoint text target) target' := by
  have hport : ofBeBytes (beBytes 2 target.port.toNat) = target.port.toNat :=
    ofBeBytes_beBytes target.port.toNat_lt
  refine frames_host text target.host_fits (length_beBytes 2 _) ?_
  refine (frames_octets (length_beBytes 2 _)).last ?_
  rw [hport, UInt16.ofNat_toNat, ← hback.1, ← hback.2, Endpoint.new_host_port]
  exact Frames.pure target'

lemma frames_request {command : Command} (hback : ReadsBack text target target') :
    Frames .incomplete (decodeRequest text) (encodeRequest text command target)
      ⟨command, target'⟩ := by
  have hcomm : Frames .incomplete (decodeCommand command.wireCode) [] command := by
    cases command with
    | _ => exact Frames.pure _
  have hlen := four_le_encodeEndpoint text target
  refine Frames.need (by rw [encodeRequest, length_append]; simp; omega) ?_
  refine (frames_octet 0x05).bind ((frames_check (by decide) _).bind ?_)
  refine (frames_octet _).bind (hcomm.bind ((frames_octet 0x00).bind ?_))
  refine (frames_check (by decide) _).bind ?_
  exact (frames_endpoint hback).last (Frames.pure _)

lemma run_encodeUdpDatagram (hback : ReadsBack text target target') {payload : Bytes} :
    (decodeUdpDatagram text).run (encodeUdpDatagram text target payload) =
      .ok (⟨target', payload⟩, []) := by
  have hlen := four_le_encodeEndpoint text target
  have hneed : (Reader.need CodecError.incomplete 7).run (encodeUdpDatagram text target payload) =
      .ok ((), encodeUdpDatagram text target payload) := by
    refine if_neg ?_
    rw [encodeUdpDatagram]
    simp
    omega
  have htgt := (frames_endpoint hback).parses payload
  unfold decodeUdpDatagram
  rw [StateT.run_bind, hneed]
  show (decodeEndpoint text >>= fun target => toEnd >>= fun payload =>
    pure (UdpDatagram.mk target payload)).run (encodeEndpoint text target ++ payload) = _
  rw [StateT.run_bind, htgt]
  rfl

lemma ofNat_length_ne_zero (h : ¬(bs = [] ∨ 255 < bs.length)) :
    bs.length = (ofNat bs.length).toNat ∧ (ofNat bs.length != 0) = true := by
  obtain ⟨hne, hlong⟩ := not_or.mp h
  have hlen := toNat_ofNat_length (not_lt.mp hlong)
  refine ⟨hlen.symm, bne_iff_ne.mpr fun hzero => hne ?_⟩
  rw [hzero] at hlen
  exact eq_nil_of_length_eq_zero hlen.symm

lemma frames_userPassRequest (h : encodeUserPassRequest username password = .ok frame) :
    Frames .incomplete decodeUserPassRequest frame ⟨username, password⟩ := by
  unfold encodeUserPassRequest at h
  split at h
  · cases h
  · next huser =>
      split at h
      · cases h
      · next hpass =>
          obtain ⟨hulen, hune⟩ := ofNat_length_ne_zero huser
          obtain ⟨hplen, hpne⟩ := ofNat_length_ne_zero hpass
          cases h
          have hneed : (ofNat username.length).toNat + 1 ≤
              (username ++ ofNat password.length :: password).length := by
            rw [length_append, length_cons]
            omega
          refine Frames.need (by simp) ((frames_octet userPassVersion).bind ?_)
          refine (frames_check (by decide) _).bind ((frames_octet _).bind ?_)
          refine (frames_check hune _).bind (Frames.need hneed ?_)
          refine (frames_octets hulen).bind ((frames_octet _).bind ?_)
          exact (frames_check hpne _).bind ((frames_octets hplen).last (Frames.pure _))

lemma encodeUserPassRequest_ok (hu : username ≠ []) (hulen : username.length ≤ 255)
    (hp : password ≠ []) (hplen : password.length ≤ 255) :
    ∃ frame, encodeUserPassRequest username password = .ok frame := by
  rw [encodeUserPassRequest, if_neg (by simp [hu, hulen]), if_neg (by simp [hp, hplen])]
  exact ⟨_, rfl⟩

end

/-! ## Exact streaming -/

def canonicalEndpoint (text : IpText) (hsized : text.Sized) (target : Endpoint) : Endpoint where
  host := canonicalHost text target.host
  port := target.port
  host_nonempty := by
    unfold canonicalHost
    cases text.parse target.host with
    | none => exact target.host_nonempty
    | some ip => exact (hsized ip).1
  host_fits := by
    unfold canonicalHost
    cases text.parse target.host with
    | none => exact target.host_fits
    | some ip => exact (hsized ip).2
  port_ne_zero := target.port_ne_zero

/-- The frame is read whatever follows, which stays in the buffer; a strict prefix of it is
incomplete, and the buffer stays as it is. -/
def Exact {α : Type} (decode : Reader CodecError α) (frame : Bytes) (a : α) : Prop :=
  (∀ tail, decode.onBuffer (frame ++ tail) = (.ok a, tail)) ∧
    ∀ p, p <+: frame → p ≠ frame → decode.onBuffer p = (.error .incomplete, p)

lemma exact_of_frames (h : Frames .incomplete decode frame a) : Exact decode frame a :=
  ⟨h.onBuffer, fun _ hp hne => h.onBuffer_starved hp hne⟩

lemma ofWire_wireCode (h : ∀ code, method = .unknown code → 3 ≤ code) :
    ofWire method.wireCode = method := by
  cases method with
  | unknown code =>
    have hcode := h code rfl
    have hne : ∀ small : UInt8, small < 3 → code ≠ small := by
      rintro small hsmall rfl
      exact UInt8.not_lt.mpr hcode hsmall
    rw [wireCode, ofWire, if_neg (hne 0 (by decide)), if_neg (hne 1 (by decide)),
      if_neg (hne 2 (by decide))]
  | _ => rfl

/-- Decoders undo the encoders on a stream, and ask for more until a frame is whole; an address
comes back the way it is displayed. -/
theorem codecs_exact (text : IpText) (hsized : text.Sized) :
    (∀ methods : List Method, methods.length ≤ 255 → (∀ code, .unknown code ∈ methods → 3 ≤ code) →
        Exact decodeGreeting (encodeGreeting methods) ⟨methods⟩) ∧
      (∀ command target, Exact (decodeRequest text) (encodeRequest text command target)
        ⟨command, canonicalEndpoint text hsized target⟩) ∧
      (∀ username password : Bytes, username ≠ [] → username.length ≤ 255 → password ≠ [] →
        password.length ≤ 255 → ∃ frame, encodeUserPassRequest username password = .ok frame ∧
          Exact decodeUserPassRequest frame ⟨username, password⟩) ∧
      ∀ target payload, (decodeUdpDatagram text).onBuffer (encodeUdpDatagram text target payload) =
        (.ok ⟨canonicalEndpoint text hsized target, payload⟩, []) := by
  have hback : ∀ target, ReadsBack text target (canonicalEndpoint text hsized target) :=
    fun target => ⟨rfl, rfl⟩
  refine ⟨?_, ?_, ?_, ?_⟩
  · intro methods hlen hcodes
    have hsame : (methods.map fun method => ofWire method.wireCode) = methods := by
      conv_rhs => rw [← map_id methods]
      refine map_congr_left fun method hmem => ofWire_wireCode fun code hcode => ?_
      exact hcodes code (hcode ▸ hmem)
    have hfrs := frames_greeting hlen
    rw [hsame] at hfrs
    exact exact_of_frames hfrs
  · intro command target
    exact exact_of_frames (frames_request (hback target))
  · intro username password hu hulen hp hplen
    obtain ⟨frame, hframe⟩ := encodeUserPassRequest_ok hu hulen hp hplen
    exact ⟨frame, hframe, exact_of_frames (frames_userPassRequest hframe)⟩
  · intro target payload
    rw [Reader.onBuffer, run_encodeUdpDatagram (hback target)]

theorem decimal_codecs_exact :
    decimalText.Sized ∧ Exact decodeGreeting (encodeGreeting [.userPass, .unknown 9])
      ⟨[.userPass, .unknown 9]⟩ := by
  refine ⟨decimalText_sized, (codecs_exact decimalText decimalText_sized).1 _ (by decide) ?_⟩
  intro code hcode
  simp only [mem_cons, not_mem_nil, or_false, reduceCtorEq, false_or, unknown.injEq] at hcode
  rw [hcode]
  decide

end MeshBus.Socks5
