import MeshBus.Lib.Table

/-!
# Rule chains

A chain is a list of rules and a default action; the first rule whose match holds
of the context decides.  The context has the facts of every plane that uses rules;
each adapter fills in the ones it knows.
-/

namespace MeshBus.Rule

open Lib

/-! ## Addresses -/

inductive IpAddr where
  | v4 (bits : BitVec 32)
  | v6 (bits : BitVec 128)
deriving DecidableEq, Repr

/-- `ipnet::IpNet`. -/
inductive IpNet where
  | v4 (addr : BitVec 32) (prefixLen : Nat)
  | v6 (addr : BitVec 128) (prefixLen : Nat)
deriving DecidableEq, Repr

/-- The addresses that share the first `prefixLen` bits. -/
def IpNet.contains : IpNet → IpAddr → Bool
  | .v4 addr prefixLen, .v4 ip => addr >>> (32 - prefixLen) == ip >>> (32 - prefixLen)
  | .v6 addr prefixLen, .v6 ip => addr >>> (128 - prefixLen) == ip >>> (128 - prefixLen)
  | _, _ => false

/-! ## Text -/

def endsWith (text suffix : String) : Bool :=
  suffix.toList.isSuffixOf text.toList

def containsText (text part : String) : Bool :=
  text.toList.tails.any fun tail => part.toList.isPrefixOf tail

def toAsciiLowercase (text : String) : String :=
  String.ofList (text.toList.map Char.toLower)

/-! ## Contexts -/

inductive RuleNetwork where
  | tcp | udp
deriving DecidableEq, Repr

inductive RuleSessionShape where
  | stream | datagram
deriving DecidableEq, Repr

inductive RuleTrafficClass where
  | interactive | bulk | control
deriving DecidableEq, Repr

inductive RuleTransformKind where
  | fragment | compress | encrypt | checksum | parity
deriving DecidableEq, Repr

inductive RuleSocks5Command where
  | connect | bind | udpAssociate
deriving DecidableEq, Repr

inductive RuleScheduleHint where
  | auto
  | fanOut (k : Nat)
deriving DecidableEq, Repr

/-- The facts that predicates read. -/
structure RuleCtx where
  srcIp : Option IpAddr := none
  dstIp : Option IpAddr := none
  dstPort : Option UInt16 := none
  network : Option RuleNetwork := none
  sessionShape : Option RuleSessionShape := none
  operation : Option String := none
  trafficClass : Option RuleTrafficClass := none
  transformKind : Option RuleTransformKind := none
  fragmentGroup : Option String := none
  hostname : Option String := none
  socks5Command : Option RuleSocks5Command := none
  consumer : Option String := none
  dnsQtype : Option String := none
  authenticatedUser : Option String := none
  dstGeo : Option String := none
  asn : Option Nat := none
  geositeTags : List String := []

/-! ## Rules -/

inductive Predicate where
  | srcCidr (net : IpNet)
  | dstCidr (net : IpNet)
  | srcIpEq (ip : IpAddr)
  | dstIpEq (ip : IpAddr)
  | dstPortEq (port : UInt16)
  | dstPortRange (first last : UInt16)
  | networkEq (network : RuleNetwork)
  | sessionShapeEq (shape : RuleSessionShape)
  | operationEq (operation : String)
  | socks5CommandEq (command : RuleSocks5Command)
  | hostnameExact (host : String)
  | hostnameSuffix (suffix : String)
  | hostnameKeyword (keyword : String)
  /-- A regular expression: its text, and what it matches. -/
  | hostnameRegex (pattern : String) (isMatch : String → Bool)
  | fragmentGroupExact (group : String)
  | transformKindEq (kind : RuleTransformKind)
  | trafficClassEq (trafficClass : RuleTrafficClass)
  | rulesetMember (name : String)
  | consumer (name : String)
  | dnsQtype (qtype : String)
  | authenticatedUserEq (user : String)
  | authenticatedUserAny
  | dstGeoEq (geo : String)
  | asnEq (asn : Nat)
  | asnAny (asns : List Nat)
  | geositeTag (tag : String)

inductive MatchExpr where
  | term (predicate : Predicate)
  | predicate (predicate : Predicate)
  | all (items : List MatchExpr)
  | any (items : List MatchExpr)
  | not (item : MatchExpr)

/-- `serde_json::Value`. -/
inductive JsonValue where
  | null
  | bool (value : Bool)
  | number (text : String)
  | string (value : String)
  | array (items : List JsonValue)
  | object (fields : List (String × JsonValue))

structure RuleTransformDescriptor where
  kind : RuleTransformKind
  params : JsonValue

inductive Action where
  | allow
  | deny
  | setRouteGroup (group : String)
  | setResolverPool (pool : String)
  | setScheduleHint (hint : RuleScheduleHint)
  | setTransform (descriptor : RuleTransformDescriptor)
  | compose (actions : List Action)
  | setCostBias (bias : Int)

structure Rule where
  id : Option String
  match_ : MatchExpr
  action : Action

structure RuleChain where
  rules : List Rule
  default_ : Action

structure MatchTrace where
  matched : Bool
  ruleIndex : Option Nat
  ruleId : Option String
  defaultUsed : Bool
deriving DecidableEq, Repr

structure RuleDecision where
  action : Action
  trace : MatchTrace

/-! ## Rule sets -/

inductive RulesetFormat where
  | domainSuffix | ipCidr | classical
deriving DecidableEq, Repr

inductive RulesetField where
  | hostname | srcIp | dstIp
deriving DecidableEq, Repr

structure ResolvedRuleset where
  field : Option RulesetField
  format : RulesetFormat
  entries : List String
  cidrs : List IpNet
deriving DecidableEq, Repr

abbrev RuleSetRegistry : Type := Table String ResolvedRuleset

/-! ## Evaluation -/

def pickIp (ctx : RuleCtx) : Option RulesetField → Option IpAddr
  | some .srcIp => ctx.srcIp
  | some .dstIp => ctx.dstIp
  | _ => none

def evalRuleset (name : String) (ctx : RuleCtx) (reg : RuleSetRegistry) : Bool :=
  match reg.lookup name with
  | none => false
  | some set =>
    match set.format with
    | .domainSuffix => ctx.hostname.any fun host => set.entries.any (endsWith host)
    | .ipCidr => (pickIp ctx set.field).any fun ip => set.cidrs.any (·.contains ip)
    -- resolved into single rules when the chain is parsed
    | .classical => false

def evalPredicate (ctx : RuleCtx) (reg : RuleSetRegistry) : Predicate → Bool
  | .srcCidr net => ctx.srcIp.any net.contains
  | .dstCidr net => ctx.dstIp.any net.contains
  | .srcIpEq ip => ctx.srcIp = some ip
  | .dstIpEq ip => ctx.dstIp = some ip
  | .dstPortEq port => ctx.dstPort = some port
  | .dstPortRange first last => ctx.dstPort.any fun port => first ≤ port && port ≤ last
  | .networkEq network => ctx.network = some network
  | .sessionShapeEq shape => ctx.sessionShape = some shape
  | .operationEq operation => ctx.operation = some operation
  | .socks5CommandEq command => ctx.socks5Command = some command
  | .hostnameExact host => ctx.hostname = some host
  | .hostnameSuffix suffix => ctx.hostname.any fun host => endsWith host suffix
  | .hostnameKeyword keyword => ctx.hostname.any fun host => containsText host keyword
  | .hostnameRegex _ isMatch => ctx.hostname.any isMatch
  | .fragmentGroupExact group => ctx.fragmentGroup = some group
  | .transformKindEq kind => ctx.transformKind = some kind
  | .trafficClassEq trafficClass => ctx.trafficClass = some trafficClass
  | .rulesetMember name => evalRuleset name ctx reg
  | .consumer name => ctx.consumer = some name
  | .dnsQtype qtype =>
    ctx.dnsQtype.any fun asked => toAsciiLowercase asked == toAsciiLowercase qtype
  | .authenticatedUserEq user => ctx.authenticatedUser = some user
  | .authenticatedUserAny => ctx.authenticatedUser.isSome
  | .dstGeoEq geo => ctx.dstGeo = some geo
  | .asnEq asn => ctx.asn = some asn
  | .asnAny asns => ctx.asn.any fun asn => asns.contains asn
  | .geositeTag tag => ctx.geositeTags.any (· == tag)

mutual

def evalMatch (ctx : RuleCtx) (reg : RuleSetRegistry) : MatchExpr → Bool
  | .term predicate => evalPredicate ctx reg predicate
  | .predicate predicate => evalPredicate ctx reg predicate
  | .all items => evalAll ctx reg items
  | .any items => evalAny ctx reg items
  | .not item => !evalMatch ctx reg item

def evalAll (ctx : RuleCtx) (reg : RuleSetRegistry) : List MatchExpr → Bool
  | [] => true
  | item :: rest => evalMatch ctx reg item && evalAll ctx reg rest

def evalAny (ctx : RuleCtx) (reg : RuleSetRegistry) : List MatchExpr → Bool
  | [] => false
  | item :: rest => evalMatch ctx reg item || evalAny ctx reg rest

end

/-- The loop over the rules, from the `index`-th on. -/
def evaluateFrom (ctx : RuleCtx) (reg : RuleSetRegistry) (default_ : Action) (index : Nat) :
    List Rule → RuleDecision
  | [] => ⟨default_, ⟨false, none, none, true⟩⟩
  | rule :: rest =>
    if evalMatch ctx reg rule.match_ then ⟨rule.action, ⟨true, some index, rule.id, false⟩⟩
    else evaluateFrom ctx reg default_ (index + 1) rest

def evaluateWithTrace (chain : RuleChain) (ctx : RuleCtx) (reg : RuleSetRegistry) :
    RuleDecision :=
  evaluateFrom ctx reg chain.default_ 0 chain.rules

end MeshBus.Rule
