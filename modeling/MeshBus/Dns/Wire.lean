import MeshBus.Dns.Message
import MeshBus.Lib.Scan
import MeshBus.Lib.Text

/-!
# The DNS wire codec

Messages as they are encoded and decoded.  A name may end in a pointer to an earlier place of
the message, so that the decoder keeps the whole buffer in view.
-/

namespace MeshBus.Dns

open Lib UInt16 QType
open Lib.Scan

/-! ## Types and names -/

def QType.toU16 : QType → UInt16
  | .a => 1
  | .cname => 5
  | .ptr => 12
  | .txt => 16
  | .aaaa => 28
  | .opt => 41
  | .any => 255

def QType.fromU16 (v : UInt16) : Option QType :=
  if v = 1 then some .a
  else if v = 5 then some .cname
  else if v = 12 then some .ptr
  else if v = 16 then some .txt
  else if v = 28 then some .aaaa
  else if v = 41 then some .opt
  else if v = 255 then some .any
  else none

def RClass.toU16 : RClass → UInt16
  | .in_ => 1

namespace Name

def isAscii (c : Char) : Bool := c.toNat < 128

def withDot (s : List Char) : List Char := if s.getLast? = some '.' then s else s ++ ['.']

def fromAscii (s : List Char) : Except DecodeError Name :=
  if s = [] then .error (.invalidLabel 0)
  else if s.all isAscii then .ok ⟨String.ofList (withDot (s.map Char.toLower))⟩
  else .error .notUtf8

def labels (name : Name) : List (List Char) :=
  (name.canonical.toList.splitOn '.').filter (!·.isEmpty)

def defaultRoot : Name := ⟨"."⟩

end Name

def MessageHeader.qr (header : MessageHeader) : Bool := (header.flags >>> 15) &&& 1 == 1

/-! ## Encoding -/

/-- An error, or a panic. -/
inductive EncodeStop where
  | error (e : DecodeError)
  | panicked
deriving DecidableEq, Repr

def u16be (v : UInt16) : Bytes := beBytes 2 v.toNat

def u32be (v : UInt32) : Bytes := beBytes 4 v.toNat

def encodeLabels : List (List Char) → Except EncodeStop Bytes
  | [] => .ok [0]
  | label :: rest =>
    let bs := utf8 (String.ofList label)
    if 63 < bs.length then .error (.error (.oversize "label > 63 octets"))
    else do
      let tail ← encodeLabels rest
      pure (UInt8.ofNat bs.length :: bs ++ tail)

def encodeName (name : Name) : Except EncodeStop Bytes := encodeLabels name.labels

def encodeTxt : List String → Except EncodeStop Bytes
  | [] => .ok []
  | part :: rest =>
    let bs := utf8 part
    if 255 < bs.length then .error (.error (.oversize "TXT segment > 255"))
    else do
      let tail ← encodeTxt rest
      pure (UInt8.ofNat bs.length :: bs ++ tail)

def encodeRData : RData → Except EncodeStop Bytes
  | .a ip => .ok (beBytes 4 ip.toNat)
  | .aaaa ip => .ok (beBytes 16 ip.toNat)
  | .ptr name => encodeName name
  | .cname name => encodeName name
  | .txt parts => encodeTxt parts
  | .opt .. => .error .panicked
  | .opaqueData _ raw => .ok raw

def packTtl (extRcode ednsVersion : UInt8) (flags : UInt16) : UInt32 :=
  (extRcode.toUInt32 <<< 24) ||| (ednsVersion.toUInt32 <<< 16) ||| flags.toUInt32

def encodeOpt : RData → Except EncodeStop Bytes
  | .opt udpPayloadSize extRcode ednsVersion flags options =>
    if 65535 < options.length then .error (.error (.oversize "OPT options > u16"))
    else
      .ok ([0] ++ u16be opt.toU16 ++ u16be udpPayloadSize ++
        u32be (packTtl extRcode ednsVersion flags) ++ u16be (ofNat options.length) ++
        options)
  | _ => .error (.error (.invalidRData opt.toU16))

def encodeRr (rr : ResourceRecord) : Except EncodeStop Bytes :=
  if rr.qtype = .opt then encodeOpt rr.data
  else do
    let name ← encodeName rr.name
    let rdata ← encodeRData rr.data
    if 65535 < rdata.length then throw (.error (.oversize "rdata > u16"))
    pure (name ++ u16be rr.qtype.toU16 ++ u16be rr.qclass.toU16 ++ u32be rr.ttl ++
      u16be (ofNat rdata.length) ++ rdata)

def encodeQuestion (q : Question) : Except EncodeStop Bytes := do
  let name ← encodeName q.name
  pure (name ++ u16be q.qtype.toU16 ++ u16be q.qclass.toU16)

def Message.records (msg : Message) : List ResourceRecord :=
  msg.answers ++ msg.authorities ++ msg.additionals

def encodeHeader (msg : Message) : Bytes :=
  u16be msg.header.id ++ u16be msg.header.flags ++ u16be (ofNat msg.questions.length) ++
    u16be (ofNat msg.answers.length) ++ u16be (ofNat msg.authorities.length) ++
    u16be (ofNat msg.additionals.length)

def encodeMessage (msg : Message) : Except EncodeStop Bytes :=
  if 65535 < msg.questions.length ∨ 65535 < msg.answers.length ∨
      65535 < msg.authorities.length ∨ 65535 < msg.additionals.length then
    .error (.error (.oversize "section count > u16"))
  else do
    let questions ← msg.questions.mapM encodeQuestion
    let records ← msg.records.mapM encodeRr
    pure (encodeHeader msg ++ questions.flatten ++ records.flatten)

/-! ## Decoding -/

def u16 : Scan DecodeError UInt16 := do
  let bs ← takeAt .truncated 2
  pure (ofNat (ofBeBytes bs))

def u32 : Scan DecodeError UInt32 := do
  let bs ← takeAt .truncated 4
  pure (UInt32.ofNat (ofBeBytes bs))

def maxPointerHops : Nat := 16

def lowerLabel (bs : Bytes) : Except DecodeError (List Char) :=
  bs.mapM fun b => if b < 128 then .ok (Char.ofNat b.toNat).toLower else .error .notUtf8

/-- The loop of `decode_name`: the place of the next octet, the pointers followed so far, and
the place behind the name once a pointer was followed. -/
def nameLoop {α : Type} (label : Bytes → Except DecodeError α) (buf : Bytes) (pos jumps : Nat)
    (next : Option Nat) : Except DecodeError (List α × Nat) :=
  if h : pos < buf.length then
    let len := buf[pos]
    if len = 0 then .ok ([], next.getD (pos + 1))
    else if len &&& 0xc0 = 0xc0 then
      match buf[pos + 1]? with
      | none => .error (.truncated pos)
      | some low =>
        let ptr := ((len &&& 0x3f).toNat <<< 8) ||| low.toNat
        if maxPointerHops < jumps + 1 then .error .compressionLoop
        -- pointers go back; one that does not would make a cycle
        else if pos ≤ ptr then .error .compressionLoop
        else nameLoop label buf ptr (jumps + 1) (some (next.getD (pos + 2)))
    else if len &&& 0xc0 ≠ 0 then .error (.invalidLabel len)
    else if buf.length < pos + 1 + len.toNat then .error (.truncated pos)
    else do
      let first ← label ((buf.drop (pos + 1)).take len.toNat)
      let rest ← nameLoop label buf (pos + 1 + len.toNat) jumps next
      pure (first :: rest.1, rest.2)
  else .error (.truncated pos)
termination_by (maxPointerHops + 1 - jumps) * (buf.length + 1) + (buf.length - pos)
decreasing_by
  · have hsub : maxPointerHops + 1 - jumps = (maxPointerHops + 1 - (jumps + 1)) + 1 := by omega
    rw [hsub, Nat.add_mul]
    omega
  · omega

def dotted (labels : List (List Char)) : List Char := Text.terminated '.' labels

def decodeName : Scan DecodeError Name := fun buf pos => do
  let labels ← nameLoop lowerLabel buf pos 0 none
  let out := dotted labels.1
  let name ← Name.fromAscii (if out = [] then ['.'] else out)
  pure (name, labels.2)

def txtParts (bs : Bytes) : Except DecodeError (List String) :=
  match bs with
  | [] => .ok []
  | len :: rest =>
    if rest.length < len.toNat then .error (.invalidRData txt.toU16)
    else
      match ofUtf8 (rest.take len.toNat) with
      | none => .error .notUtf8
      | some part => do
          let parts ← txtParts (rest.drop len.toNat)
          pure (part :: parts)
termination_by bs.length
decreasing_by exact Nat.lt_succ_of_le (List.drop_sublist ..).length_le

/-- The data of a record of the type, from its octets and from where they stand. -/
def decodeRData (qtypeRaw qclassRaw : UInt16) (ttl : UInt32) (start : Nat) (rdata : Bytes) :
    Scan DecodeError RData :=
  match fromU16 qtypeRaw with
  | some .a =>
    if rdata.length = 4 then pure (.a (BitVec.ofNat 32 (ofBeBytes rdata)))
    else throw (.invalidRData qtypeRaw)
  | some .aaaa =>
    if rdata.length = 16 then pure (.aaaa (BitVec.ofNat 128 (ofBeBytes rdata)))
    else throw (.invalidRData qtypeRaw)
  -- a name may point outside the data, and is not held to its length
  | some .ptr => do
      seek start
      let name ← decodeName
      pure (.ptr name)
  | some .cname => do
      seek start
      let name ← decodeName
      pure (.cname name)
  | some .txt =>
    match txtParts rdata with
    | .ok parts => pure (.txt parts)
    | .error e => throw e
  | some .opt =>
    pure (.opt qclassRaw (ttl >>> 24).toUInt8 (ttl >>> 16).toUInt8 (ttl &&& 0xffff).toUInt16
      rdata)
  | some .any | none => pure (.opaqueData qtypeRaw rdata)

def decodeRr : Scan DecodeError ResourceRecord := do
  let name ← decodeName
  let qtypeRaw ← u16
  let qclassRaw ← u16
  let ttl ← u32
  let rdlen ← u16
  let start ← position
  let rdata ← takeAt .truncated rdlen.toNat
  let data ← decodeRData qtypeRaw qclassRaw ttl start rdata
  seek (start + rdlen.toNat)
  pure ⟨name, (fromU16 qtypeRaw).getD .a, .in_, ttl, data⟩

def decodeQuestion : Scan DecodeError (Name × UInt16) := do
  let name ← decodeName
  let qtypeRaw ← u16
  let _qclassRaw ← u16
  pure (name, qtypeRaw)

def toQuestion (raw : Name × UInt16) : Question := ⟨raw.1, (fromU16 raw.2).getD .a, .in_⟩

/-- A message whose questions still have their types. -/
structure RawMessage where
  header : MessageHeader
  questions : List (Name × UInt16)
  answers : List ResourceRecord
  authorities : List ResourceRecord
  additionals : List ResourceRecord

def RawMessage.toMessage (raw : RawMessage) : Message :=
  ⟨raw.header, raw.questions.map toQuestion, raw.answers, raw.authorities, raw.additionals⟩

def decodeHeader : Scan DecodeError MessageHeader := do
  let id ← u16
  let flags ← u16
  let qd ← u16
  let an ← u16
  let ns ← u16
  let ar ← u16
  pure ⟨id, flags, qd, an, ns, ar⟩

def decodeRaw : Scan DecodeError RawMessage := do
  let header ← decodeHeader
  let questions ← times header.qdcount.toNat decodeQuestion
  let answers ← times header.ancount.toNat decodeRr
  let authorities ← times header.nscount.toNat decodeRr
  let additionals ← times header.arcount.toNat decodeRr
  pure ⟨header, questions, answers, authorities, additionals⟩

def rawMessage (buf : Bytes) : Except DecodeError RawMessage :=
  (decodeRaw.runAt buf 0).map Prod.fst

def decodeMessage (buf : Bytes) : Except DecodeError Message :=
  (rawMessage buf).map RawMessage.toMessage

/-- A pointer to the name of the question. -/
example : decodeMessage [0, 7, 0x81, 0, 0, 1, 0, 1, 0, 0, 0, 0, 1, 65, 0, 0, 1, 0, 1, 0xc0, 12,
    0, 1, 0, 1, 0, 0, 0, 60, 0, 4, 10, 0, 0, 9] =
    .ok ⟨⟨7, 0x8100, 1, 1, 0, 0⟩, [⟨⟨"a."⟩, .a, .in_⟩],
      [⟨⟨"a."⟩, .a, .in_, 60, .a 0x0a000009⟩], [], []⟩ := by decide +kernel

end MeshBus.Dns
