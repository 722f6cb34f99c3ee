import MeshBus.Dns.Reencode
import MeshBus.Net.Address
import MeshBus.Net.Endpoint
import MeshBus.Resolver.Resolve

/-!
# One exchange with a server

`single_shot` and `single_shot_tcp` send a query and take the first datagram, or the first
frame, that comes back.  What they make of its octets is what `singleShot` makes of the
decoded reply.
-/

namespace MeshBus.Resolver

open Lib List Dns Except
open Net (IpText)
open Proto (Endpoint)
open Rule (endsWith toAsciiLowercase)

/-! ## Queries -/

def qtypeToDns : QType → Dns.QType
  | .a => .a
  | .aaaa => .aaaa
  | .ptr => .ptr
  | .cname => .cname
  | .txt => .txt

def ednsUdpPayloadSize : UInt16 := 1232

def ednsOptRr : Dns.ResourceRecord :=
  ⟨.defaultRoot, .opt, .in_, 0, .opt ednsUdpPayloadSize 0 0 0 []⟩

def queryMessage (txid : UInt16) (name : Dns.Name) (qtype : QType) : Dns.Message :=
  ⟨⟨txid, 0x0100, 0, 0, 0, 0⟩, [⟨name, qtypeToDns qtype, .in_⟩], [], [], [ednsOptRr]⟩

/-- The encoder's errors; it does not panic on a query (`encodeMessage_query_ne_panicked`). -/
def encodeError : Dns.EncodeStop → ResolveError
  | .error e => .decode e
  | .panicked => .io "internal error: entered unreachable code: OPT handled above"

def buildQuery (txid : UInt16) (qname : String) (qtype : QType) : Except ResolveError Bytes := do
  let name ← (Dns.Name.fromAscii qname.toList).mapError .decode
  (encodeMessage (queryMessage txid name qtype)).mapError encodeError

/-! ## Exchanges -/

/-- What a datagram session does: errors are the `Debug` text of their reason, and what comes
back may depend on what was sent. -/
structure DatagramPort where
  opened : Except String Unit
  sent : Except String Unit
  received : Bytes → Option (Option (Endpoint × Bytes))
  elapsed : Nat

/-- What a pooled stream does: `get_or_open`, and sending a query and reading a frame, where
`none` is a timeout. -/
structure StreamPort where
  opened : Except ResolveError Unit
  frame : Bytes → Option (Except ResolveError Bytes)
  elapsed : Nat

def acceptReply (txid : UInt16) (qname : String) (data : Bytes) (elapsed : Nat) :
    Except ResolveError (Dns.Message × Nat) := do
  let msg ← (decodeMessage data).mapError .decode
  if validateReply msg txid qname then pure (msg, elapsed)
  else throw (.io "TXID or QNAME mismatch (RFC 5452)")

/-- A query: its transaction id, name and type. -/
structure Query where
  txid : UInt16
  qname : String
  qtype : QType
deriving DecidableEq, Repr

/-- `single_shot`, up to the reply: the source of the datagram is not looked at. -/
def receiveUdp (text : IpText) (port : DatagramPort) (server : SocketAddr) (query : Query)
    (budget : Nat) : Except ResolveError Bytes := do
  let _ep ← (Endpoint.new (text.display server.ip) server.port).mapError fun e => .io e.text
  port.opened.mapError fun e => .io ("open_datagram: " ++ e)
  let payload ← buildQuery query.txid query.qname query.qtype
  port.sent.mapError fun e => .io ("send_to: " ++ e)
  match port.received payload with
  | none => throw (.timeout budget)
  | some none => throw (.io "session closed before reply")
  | some (some (_src, data)) => pure data

def writeTcpFrame (msg : Bytes) : Bytes := u16be (UInt16.ofNat msg.length) ++ msg

/-- `single_shot_tcp`, up to the reply. -/
def receiveTcp (port : StreamPort) (query : Query) (budget : Nat) : Except ResolveError Bytes := do
  port.opened
  let payload ← buildQuery query.txid query.qname query.qtype
  match port.frame (writeTcpFrame payload) with
  | none => throw (.timeout budget)
  | some (.error e) => throw e
  | some (.ok data) => pure data

/-- An exchange, with the server that is asked. -/
inductive Exchange where
  | datagram (text : IpText) (port : DatagramPort) (server : SocketAddr)
  | stream (port : StreamPort)

namespace Exchange

def receive : Exchange → Query → Nat → Except ResolveError Bytes
  | .datagram text port server, query, budget => receiveUdp text port server query budget
  | .stream port, query, budget => receiveTcp port query budget

def elapsed : Exchange → Nat
  | .datagram _ port _ => port.elapsed
  | .stream port => port.elapsed

/-- `single_shot` and `single_shot_tcp`. -/
def shoot (x : Exchange) (query : Query) (budget : Nat) :
    Except ResolveError (Dns.Message × Nat) := do
  let data ← x.receive query budget
  acceptReply query.txid (normalizeQname query.qname) data x.elapsed

def shot (x : Exchange) (query : Query) (budget : Nat) : Shot where
  txid := query.txid
  reply := do
    let data ← x.receive query budget
    (decodeMessage data).mapError .decode
  elapsed := x.elapsed

lemma shoot_eq_singleShot (x : Exchange) (query : Query) (budget : Nat) :
    x.shoot query budget = singleShot (normalizeQname query.qname) (x.shot query budget) := by
  rw [shoot, shot]
  cases x.receive query budget with
  | error e => rfl
  | ok data =>
    simp only [bind, Except.bind, acceptReply]
    cases (decodeMessage data).mapError ResolveError.decode with
    | _ => rfl

/-- The octets that come back for a payload, and for a datagram their source. -/
inductive Delivers : Exchange → Bytes → Option Endpoint → Bytes → Prop where
  | datagram {text : IpText} {port : DatagramPort} {server : SocketAddr} {payload data : Bytes}
      {src : Endpoint} (h : port.received payload = some (some (src, data))) :
      Delivers (.datagram text port server) payload (some src) data
  | stream {port : StreamPort} {payload data : Bytes}
      (h : port.frame (writeTcpFrame payload) = some (.ok data)) :
      Delivers (.stream port) payload none data

lemma delivers_of_receive {x : Exchange} (h : x.receive query budget = .ok data) :
    ∃ payload src, buildQuery query.txid query.qname query.qtype = .ok payload ∧
      x.Delivers payload src data := by
  cases x with
  | datagram text port server =>
    change receiveUdp text port server query budget = _ at h
    obtain ⟨ep, -, h⟩ := bind_eq_ok.mp h
    obtain ⟨_, -, h⟩ := bind_eq_ok.mp h
    obtain ⟨payload, hpay, h⟩ := bind_eq_ok.mp h
    obtain ⟨_, -, h⟩ := bind_eq_ok.mp h
    cases hrecv : port.received payload with
    | none =>
      rw [hrecv] at h
      cases h
    | some got =>
      cases got with
      | none =>
        rw [hrecv] at h
        cases h
      | some got =>
        rw [hrecv] at h
        cases h
        exact ⟨payload, some got.1, hpay, .datagram hrecv⟩
  | stream port =>
    change receiveTcp port query budget = _ at h
    obtain ⟨_, -, h⟩ := bind_eq_ok.mp h
    obtain ⟨payload, hpay, h⟩ := bind_eq_ok.mp h
    cases hframe : port.frame (writeTcpFrame payload) with
    | none =>
      rw [hframe] at h
      cases h
    | some got =>
      cases got with
      | error e =>
        rw [hframe] at h
        cases h
      | ok data =>
        rw [hframe] at h
        cases h
        exact ⟨payload, none, hpay, .stream hframe⟩

end Exchange

/-! ## Names -/

lemma toList_normalizeQname (qname : String) :
    (normalizeQname qname).toList = (Dns.Name.withDot qname.toList).map Char.toLower := by
  have hends : endsWith (toAsciiLowercase qname) "." = true ↔
      (qname.toList.map Char.toLower).getLast? = some '.' := by
    rw [endsWith, isSuffixOf_iff_suffix, getLast?_eq_some_iff, toAsciiLowercase,
      String.toList_ofList, String.toList_ofList]
    exact exists_congr fun front => eq_comm
  rw [← withDot_map_toLower, normalizeQname, Dns.Name.withDot]
  by_cases hdot : endsWith (toAsciiLowercase qname) "." = true
  · rw [if_pos hdot, if_pos (hends.mp hdot), toAsciiLowercase, String.toList_ofList]
  · rw [if_neg hdot, if_neg fun hlast => hdot (hends.mpr hlast), toAsciiLowercase,
      String.toList_append, String.toList_ofList]
    rfl

/-- A name as it stands on the wire, with a dot behind each label. -/
def wireText (labels : List Bytes) : List Char :=
  if labels = [] then ['.'] else dotted (labels.map (·.map fun b => Char.ofNat b.toNat))

lemma canonical_nameOf (labels : List Bytes) :
    (nameOf labels).canonical.toList = (wireText labels).map Char.toLower := by
  rw [nameOf, textName, String.toList_ofList, wireText]
  by_cases hnil : labels = []
  · rw [hnil]
    rfl
  · rw [if_neg hnil, if_neg (fun hmap => hnil (map_eq_nil_iff.mp hmap))]
    simp only [dotted, Text.terminated, map_flatMap, flatMap_map, map_append, map_map]
    rfl

def SameName (labels : List Bytes) (qname : String) : Prop :=
  Text.eqIgnoreAsciiCase (wireText labels) (Dns.Name.withDot qname.toList) = true

lemma sameName_iff :
    SameName labels qname ↔ (nameOf labels).canonical = normalizeQname qname := by
  rw [SameName, Text.eqIgnoreAsciiCase, beq_iff_eq, ← canonical_nameOf, ← toList_normalizeQname,
    String.toList_inj]

/-! ## Replies that are accepted -/

lemma validateReply_eq_true (h : validateReply msg txid qname = true) :
    msg.header.id = txid ∧ ∀ q ∈ msg.questions.head?, q.name.canonical = qname := by
  unfold validateReply at h
  split_ifs at h with hid
  refine ⟨not_not.mp hid, fun q hq => ?_⟩
  rw [Option.mem_def.mp hq] at h
  exact beq_iff_eq.mp h

lemma head_questions_wire (hdec : decodeMessage data = .ok msg) (hw : wireMessage data = .ok w)
    (hq : q ∈ w.questions.head?) :
    ∃ question ∈ msg.questions.head?, question.name = nameOf q.1 := by
  obtain ⟨raw, hraw, rfl⟩ := map_eq_ok.mp hdec
  obtain ⟨w', hw', hfrom⟩ := rawMessage_wire hraw
  cases ok.inj (hw.symm.trans hw')
  have hqs := hfrom.questions
  cases hlist : w.questions with
  | nil =>
    rw [hlist] at hq
    cases hq
  | cons first rest =>
    rw [hlist] at hqs hq
    cases hq
    cases hraws : raw.questions with
    | nil =>
      rw [hraws] at hqs
      cases hqs
    | cons head tail =>
      rw [hraws] at hqs
      cases hqs with
      | cons hasked _ =>
        refine ⟨toQuestion head, ?_, hasked.name⟩
        rw [Dns.RawMessage.toMessage, hraws]
        rfl

/-- A reply is accepted only if it was delivered for the query, decodes, carries its transaction
id, and asks first, if it asks anything, for the name of the query in some spelling. -/
theorem accepted_reply_matches (x : Exchange) (query : Query) (budget : Nat) (msg : Dns.Message)
    (elapsed : Nat) (h : x.shoot query budget = .ok (msg, elapsed)) :
    ∃ payload src data, buildQuery query.txid query.qname query.qtype = .ok payload ∧
      x.Delivers payload src data ∧ decodeMessage data = .ok msg ∧
      msg.header.id = query.txid ∧
      ∀ w, wireMessage data = .ok w → ∀ q ∈ w.questions.head?, SameName q.1 query.qname := by
  obtain ⟨data, hrec, haccept⟩ := bind_eq_ok.mp h
  obtain ⟨payload, src, hpay, hdel⟩ := Exchange.delivers_of_receive hrec
  obtain ⟨msg', hdec, hvalid⟩ := bind_eq_ok.mp haccept
  split_ifs at hvalid with hval
  · cases ok.inj hvalid
    obtain ⟨hid, hname⟩ := validateReply_eq_true hval
    refine ⟨payload, src, data, hpay, hdel, mapError_eq_ok.mp hdec, hid, ?_⟩
    intro w hw q hq
    obtain ⟨question, hques, heq⟩ := head_questions_wire (mapError_eq_ok.mp hdec) hw hq
    rw [sameName_iff, ← heq]
    exact hname question hques

def answeringStream (data : Bytes) : Exchange := .stream ⟨.ok (), fun _ => some (.ok data), 5⟩

def queryA : Query := ⟨7, "a", .a⟩

theorem compressedReply_accepted :
    (answeringStream compressedReply).shoot queryA 1000 = .ok (compressedMessage, 5) ∧
      ∃ payload src data, buildQuery 7 "a" .a = .ok payload ∧
        (answeringStream compressedReply).Delivers payload src data ∧
        decodeMessage data = .ok compressedMessage ∧
        compressedMessage.header.id = 7 ∧
        ∀ w, wireMessage data = .ok w → ∀ q ∈ w.questions.head?, SameName q.1 "a" := by
  have hshoot : (answeringStream compressedReply).shoot queryA 1000 =
      .ok (compressedMessage, 5) := by decide +kernel
  exact ⟨hshoot, accepted_reply_matches _ _ _ _ _ hshoot⟩

/-- The reply answers the query: a response to its one question, of its type, that for a datagram
comes from the server. -/
structure Answers (x : Exchange) (query : Query) (src : Option Endpoint) (data : Bytes) : Prop where
  response : ∃ raw name, rawMessage data = .ok raw ∧ raw.header.qr = true ∧
    raw.header.id = query.txid ∧ raw.questions = [(name, (qtypeToDns query.qtype).toU16)] ∧
    name.canonical = normalizeQname query.qname
  source : ∀ text port server, x = .datagram text port server →
    ∃ ep, Endpoint.new (text.display server.ip) server.port = .ok ep ∧ src = some ep

/-- A datagram that is a query itself, with the transaction id and no question. -/
def emptyReply : Bytes := [0, 7, 0, 0, 0, 0, 0, 0, 0, 0, 0, 0]

def stranger : Endpoint := ⟨"10.9.9.9", 53, by decide, by decide +kernel, by decide⟩

def forgedExchange : Exchange :=
  .datagram Net.decimalText ⟨.ok (), .ok (), fun _ => some (some (stranger, emptyReply)), 5⟩
    ⟨.v4 0x0a000009, 53⟩

def serviceReplyA : Bytes :=
  [0, 7, 0x81, 0x80, 0, 1, 0, 0, 0, 0, 0, 0, 1, 97, 0, 0, 33, 0, 1]

/-- The datagram of a stranger and the response for another type are accepted. -/
theorem forged_replies_accepted :
    ((forgedExchange.shoot queryA 1000).toOption.isSome = true ∧
        ∃ payload, forgedExchange.Delivers payload (some stranger) emptyReply ∧
          ¬ Answers forgedExchange queryA (some stranger) emptyReply) ∧
      ((answeringStream serviceReplyA).shoot queryA 1000).toOption.isSome = true ∧
        ∃ payload, (answeringStream serviceReplyA).Delivers payload none serviceReplyA ∧
          ¬ Answers (answeringStream serviceReplyA) queryA none serviceReplyA := by
  refine ⟨⟨by decide +kernel, [], .datagram rfl, ?_⟩, by decide +kernel, [], .stream rfl, ?_⟩
  · rintro ⟨⟨raw, name, hraw, hqr, -⟩, -⟩
    have hquery : (rawMessage emptyReply).map (·.header.qr) = .ok false := by decide +kernel
    rw [hraw] at hquery
    exact absurd (hqr.symm.trans (ok.inj hquery)) (by decide)
  · rintro ⟨⟨raw, name, hraw, -, -, hqs, -⟩, -⟩
    have htypes : (rawMessage serviceReplyA).map (·.questions.map Prod.snd) = .ok [33] := by
      decide +kernel
    rw [hraw] at htypes
    have htypes : raw.questions.map Prod.snd = [33] := ok.inj htypes
    rw [hqs] at htypes
    have hsame : (qtypeToDns queryA.qtype).toU16 = 33 := (List.cons.inj htypes).1
    exact absurd hsame (by decide)

end MeshBus.Resolver
