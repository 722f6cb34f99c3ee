import MeshBus.Rule.Chain

/-!
# The DNS cache

Positive entries hold the records of an answer, negative ones the fact that a name
does not exist; both are kept under the normalised name and the type, and both
expire.  The clock is an argument: `now`, in milliseconds.
-/

namespace MeshBus.Resolver

open Lib Rule

inductive QType where
  | a | aaaa | ptr | cname | txt
deriving DecidableEq, Repr

inductive AnswerRecord where
  | a (ip : BitVec 32)
  | aaaa (ip : BitVec 128)
  | ptr (name : String)
  | cname (name : String)
  | txt (parts : List String)
deriving DecidableEq, Repr

structure CacheKey where
  qname : String
  qtype : QType
deriving DecidableEq, Repr

structure PositiveEntry where
  records : List AnswerRecord
  expiresAt : Nat
deriving DecidableEq, Repr

structure NegativeEntry where
  expiresAt : Nat
deriving DecidableEq, Repr

/-- What `lookup` and `put_*` use of the cache. -/
structure DnsCache where
  positive : Table CacheKey PositiveEntry
  negative : Table CacheKey NegativeEntry

def DnsCache.new : DnsCache := ⟨∅, ∅⟩

def ttlMaxPositive : Nat := 300000

def ttlDefaultNegative : Nat := 60000

inductive Lookup where
  | positive (records : List AnswerRecord) (expiresAt : Nat)
  | negative (expiresAt : Nat)
deriving DecidableEq, Repr

def Lookup.expiresAt : Lookup → Nat
  | .positive _ expiresAt => expiresAt
  | .negative expiresAt => expiresAt

def Lookup.isFresh (hit : Lookup) (now : Nat) : Bool :=
  now < hit.expiresAt

def Lookup.records : Lookup → List AnswerRecord
  | .positive records _ => records
  | .negative _ => []

namespace DnsCache

def putPositive (cache : DnsCache) (now : Nat) (key : CacheKey) (records : List AnswerRecord)
    (ttl : Nat) : DnsCache :=
  { cache with positive := cache.positive.insert key ⟨records, now + min ttl ttlMaxPositive⟩ }

def putNegative (cache : DnsCache) (now : Nat) (key : CacheKey) (ttl : Option Nat) : DnsCache :=
  { cache with negative := cache.negative.insert key ⟨now + ttl.getD ttlDefaultNegative⟩ }

def lookup (cache : DnsCache) (key : CacheKey) : Option Lookup :=
  match cache.positive.lookup key with
  | some entry => some (.positive entry.records entry.expiresAt)
  | none =>
    match cache.negative.lookup key with
    | some entry => some (.negative entry.expiresAt)
    | none => none

end DnsCache
end MeshBus.Resolver
