import MeshBus.Lib.Bytes

/-!
# DNS messages

A message as the codec hands it over.
-/

namespace MeshBus.Dns

open Lib

inductive DecodeError where
  | truncated (offset : Nat)
  | compressionLoop
  | invalidLabel (len : UInt8)
  | oversize (what : String)
  | invalidRData (qtype : UInt16)
  | notUtf8
deriving DecidableEq, Repr

inductive QType where
  | a | cname | ptr | txt | aaaa | opt | any
deriving DecidableEq, Repr

inductive RClass where
  | in_
deriving DecidableEq, Repr

/-- A name in canonical form: lower case, with a trailing dot. -/
structure Name where
  canonical : String
deriving DecidableEq, Repr

structure MessageHeader where
  id : UInt16
  flags : UInt16
  qdcount : UInt16
  ancount : UInt16
  nscount : UInt16
  arcount : UInt16
deriving DecidableEq, Repr

def MessageHeader.tc (header : MessageHeader) : Bool :=
  (header.flags >>> 9) &&& 1 == 1

structure Question where
  name : Name
  qtype : QType
  qclass : RClass
deriving DecidableEq, Repr

inductive RData where
  | a (ip : BitVec 32)
  | aaaa (ip : BitVec 128)
  | ptr (name : Name)
  | cname (name : Name)
  | txt (parts : List String)
  | opt (udpPayloadSize : UInt16) (extRcode ednsVersion : UInt8) (flags : UInt16)
      (options : Bytes)
  | opaqueData (qtype : UInt16) (raw : Bytes)
deriving DecidableEq, Repr

structure ResourceRecord where
  name : Name
  qtype : QType
  qclass : RClass
  ttl : UInt32
  data : RData
deriving DecidableEq, Repr

structure Message where
  header : MessageHeader
  questions : List Question
  answers : List ResourceRecord
  authorities : List ResourceRecord
  additionals : List ResourceRecord
deriving DecidableEq, Repr

end MeshBus.Dns
