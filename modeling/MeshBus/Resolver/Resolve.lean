import MeshBus.Dns.Message
import MeshBus.Lib.Run
import MeshBus.Resolver.Cache

/-!
# The resolver

`Resolver::resolve` looks the name up in the cache, answers some names itself, asks
the rule chain for a pool, and queries the servers of that pool.  Calls are
concurrent: a call either returns at once or waits for the network, and what it
does with the reply is a step of its own.
-/

namespace MeshBus.Resolver

open Lib Rule

/-! ## Types -/

structure ResolveRequest where
  qname : String
  qtype : QType
  consumer : String
deriving DecidableEq, Repr

structure SocketAddr where
  ip : IpAddr
  port : UInt16
deriving DecidableEq, Repr

inductive ResolverSource where
  | system
  | meshDirect (server : SocketAddr)
  | tunneled (server : SocketAddr)
deriving DecidableEq, Repr

/-- An answer; times are in milliseconds, lifetimes in seconds. -/
structure ResolveAnswer where
  records : List AnswerRecord
  source : ResolverSource
  truncated : Bool
  rtt : Nat
  minRrTtl : Nat
deriving DecidableEq, Repr

inductive ResolveError where
  | denied
  | nxDomain
  | timeout (budget : Nat)
  | io (reason : String)
  | decode (error : Dns.DecodeError)
  | poolNotFound (pool : String)
  | noDatagramPort
  | noStreamPort
deriving DecidableEq, Repr

inductive ServerPolicy where
  | roundRobin
  | consistentHash
  | fanOut (k : Nat)
deriving DecidableEq, Repr

inductive PoolMode where
  | systemMode
  | meshDirect (policy : ServerPolicy)
  | tunneled (policy : ServerPolicy)
deriving DecidableEq, Repr

structure Pool where
  mode : PoolMode
  servers : List SocketAddr
deriving DecidableEq, Repr

inductive WinnerExit where
  | system
  | singlePath (server : SocketAddr)
  | fanOut (winner : SocketAddr) (losers : List SocketAddr)
deriving DecidableEq, Repr

structure ResolutionSignals where
  qnameKey : String
  pool : String
  resolverRttMs : Nat := 0
  winnerExit : WinnerExit := .system
  attempted : Nat := 0
  answerCount : Nat := 0
  truncated : Bool := false
  matchedRuleId : Option String := none
  matchedRuleIndex : Option Nat := none
  defaultUsed : Bool := false
  action : String := "allow"
  scheduleHint : String := "ordered"
deriving DecidableEq, Repr

abbrev Resolved : Type := Except ResolveError ResolveAnswer × ResolutionSignals

/-! ## Names -/

def normalizeQname (qname : String) : String :=
  let lower := toAsciiLowercase qname
  if endsWith lower "." then lower else lower ++ "."

def isSpecialUseLocalhost (qname : String) : Bool :=
  qname == "localhost." || endsWith qname ".localhost."

def isSpecialUseInvalidOrReserved (qname : String) : Bool :=
  endsWith qname ".invalid." || endsWith qname ".test." || endsWith qname ".example." ||
    qname == "invalid." || qname == "test." || qname == "example."

def isRfc6303Reverse (qname : String) : Bool :=
  ["10.in-addr.arpa.", "168.192.in-addr.arpa.", "254.169.in-addr.arpa.", "d.f.ip6.arpa.",
    "c.f.ip6.arpa."].any (endsWith qname) ||
  (List.range' 16 16).any fun n =>
    endsWith qname ("." ++ toString n ++ ".172.in-addr.arpa.") ||
      endsWith qname (toString n ++ ".172.in-addr.arpa.")

def localhostRecords : QType → List AnswerRecord
  | .a => [.a 0x7f000001]
  | .aaaa => [.aaaa 1]
  | _ => [.a 0x7f000001, .aaaa 1]

/-! ## Rules -/

def trimDots (name : String) : String :=
  String.ofList (name.toList.reverse.dropWhile (· == '.')).reverse

def QType.text : QType → String
  | .a => "A"
  | .aaaa => "AAAA"
  | .ptr => "PTR"
  | .cname => "CNAME"
  | .txt => "TXT"

def buildRuleCtx (req : ResolveRequest) : RuleCtx :=
  let host := trimDots (toAsciiLowercase req.qname)
  { hostname := if host = "" then none else some host
    dnsQtype := some req.qtype.text
    consumer := some req.consumer }

structure Projection where
  pool : Option String := none
  routeGroup : Option String := none
  scheduleHintLabel : String := ""
  actionLabel : String := ""
  denied : Bool := false
deriving DecidableEq, Repr

mutual

def walk (p : Projection) : Action → Projection
  | .allow => if p.actionLabel = "" then { p with actionLabel := "allow" } else p
  | .deny => { p with denied := true, actionLabel := "deny" }
  | .setRouteGroup group =>
    { p with
      routeGroup := some group
      actionLabel := if p.actionLabel = "" then "set_route_group:" ++ group else p.actionLabel }
  | .setScheduleHint .auto => { p with scheduleHintLabel := "ordered" }
  | .setScheduleHint (.fanOut k) => { p with scheduleHintLabel := "fanout:k=" ++ toString k }
  | .setResolverPool pool =>
    { p with pool := some pool, actionLabel := "set_resolver_pool:" ++ pool }
  | .setTransform _ => p
  | .compose actions => walkAll p actions
  | .setCostBias _ => p

/-- The members of a `Compose`, up to a denial. -/
def walkAll (p : Projection) : List Action → Projection
  | [] => p
  | action :: rest =>
    let p := walk p action
    if p.denied then p else walkAll p rest

end

def projectDecision (decision : RuleDecision) : Projection :=
  let p := walk { scheduleHintLabel := "ordered" } decision.action
  if p.actionLabel = "" then { p with actionLabel := "allow" } else p

def actionLabel : Action → String
  | .allow => "allow"
  | .deny => "deny"
  | .setResolverPool pool => "set_resolver_pool:" ++ pool
  | .setRouteGroup group => "set_route_group:" ++ group
  | .setScheduleHint .auto => "set_schedule_hint:auto"
  | .setScheduleHint (.fanOut k) => "set_schedule_hint:fanout:k=" ++ toString k
  | .setTransform _ => "set_transform"
  | .compose _ => "compose"
  | .setCostBias _ => "unknown"

def freshSignals (qname pool : String) : ResolutionSignals :=
  { qnameKey := qname, pool := pool }

def recordRuleDecision (sig : ResolutionSignals) (decision : RuleDecision) :
    ResolutionSignals :=
  { sig with
    matchedRuleId := decision.trace.ruleId
    matchedRuleIndex := decision.trace.ruleIndex.map (· % 2 ^ 32)
    defaultUsed := decision.trace.defaultUsed
    action := actionLabel decision.action }

/-! ## Replies -/

/-- One exchange with a server: the transaction id that was drawn, what came of
sending the query and decoding the reply, and how long it took. -/
structure Shot where
  txid : UInt16
  reply : Except ResolveError Dns.Message
  elapsed : Nat

/-- What the network has to say to one call: the host's own resolver, and the
exchange of each attempt. -/
structure Network where
  hostAddrs : Except ResolveError (List IpAddr)
  elapsed : Nat
  shot : Nat → Shot

def validateReply (reply : Dns.Message) (txid : UInt16) (qname : String) : Bool :=
  if reply.header.id ≠ txid then false
  else match reply.questions.head? with
    | some question => question.name.canonical == qname
    | none => true

def singleShot (qname : String) (shot : Shot) : Except ResolveError (Dns.Message × Nat) :=
  match shot.reply with
  | .error e => .error e
  | .ok msg =>
    if validateReply msg shot.txid qname then .ok (msg, shot.elapsed)
    else .error (.io "TXID or QNAME mismatch (RFC 5452)")

def rdataToAnswer (rr : Dns.ResourceRecord) : Option AnswerRecord :=
  match rr.data with
  | .a ip => some (.a ip)
  | .aaaa ip => some (.aaaa ip)
  | .ptr name => some (.ptr name.canonical)
  | .cname name => some (.cname name.canonical)
  | .txt parts => some (.txt parts)
  | .opt .. => none
  | .opaqueData .. => none

def extractAnswer (msg : Dns.Message) (source : ResolverSource) (rtt : Nat) : ResolveAnswer where
  records := msg.answers.filterMap rdataToAnswer
  source := source
  truncated := msg.header.tc
  rtt := rtt
  minRrTtl := (msg.answers.map fun rr => rr.ttl.toNat).min?.getD 60

def recordOf : IpAddr → AnswerRecord
  | .v4 ip => .a ip
  | .v6 ip => .aaaa ip

/-- Whether an address is of the family that was asked for; other types take both. -/
def wanted (qtype : QType) : IpAddr → Bool
  | .v4 _ => qtype ≠ .aaaa
  | .v6 _ => qtype ≠ .a

def resolveSystem (parseIp : String → Option IpAddr) (qname : String) (qtype : QType)
    (net : Network) : Except ResolveError ResolveAnswer :=
  match parseIp (trimDots qname) with
  | some ip => .ok ⟨[recordOf ip], .system, false, net.elapsed, 60⟩
  | none =>
    match net.hostAddrs with
    | .error e => .error e
    | .ok addrs =>
      let records := (addrs.filter (wanted qtype)).map recordOf
      if addrs.isEmpty || records.isEmpty then .error .nxDomain
      else .ok ⟨records, .system, false, net.elapsed, 60⟩

/-! ## Calls -/

/-- The configuration.  `hash` is the standard library's hasher and `parseIp` its
parser of addresses. -/
structure Resolver where
  pools : Table String Pool
  defaultPool : Option String
  ruleChain : Option RuleChain
  ruleSets : Option RuleSetRegistry
  hasOpener : Bool
  hasStreamOpener : Bool
  hasCache : Bool
  hash : String → Nat
  parseIp : String → Option IpAddr

/-- How a waiting call asks. -/
inductive Asking where
  | system
  /-- A reverse zone, answered by the host and never written to the cache. -/
  | reverseZone
  | meshDirect (servers : List SocketAddr) (fanout : Bool)
  | tunneled (servers : List SocketAddr) (fanout : Bool)
deriving DecidableEq, Repr

/-- A call that waits for the network. -/
structure Waiting where
  req : ResolveRequest
  asking : Asking
  routeGroup : Option String
  sig : ResolutionSignals
deriving DecidableEq, Repr

abbrev CallId : Type := Nat

structure ResolverState where
  cache : DnsCache
  counters : Table String Nat
  waiting : Table CallId Waiting

def ResolverState.new : ResolverState := ⟨.new, ∅, ∅⟩

inductive Begun where
  | returned (result : Resolved)
  | waits (waiting : Waiting)

def cacheKey (req : ResolveRequest) : CacheKey := ⟨normalizeQname req.qname, req.qtype⟩

/-- The entry that answers a call without any further step. -/
def freshHit (resolver : Resolver) (s : ResolverState) (req : ResolveRequest) (now : Nat) :
    Option Lookup :=
  if resolver.hasCache then (s.cache.lookup (cacheKey req)).filter (·.isFresh now) else none

def answerFromCache (req : ResolveRequest) (hit : Lookup) : Resolved :=
  let sig := { freshSignals (normalizeQname req.qname) "cache" with
    answerCount := hit.records.length % 2 ^ 32 }
  match hit with
  | .positive records _ => (.ok ⟨records, .system, false, 0, 0⟩, sig)
  | .negative _ => (.error .nxDomain, sig)

def ruleDecision (resolver : Resolver) (req : ResolveRequest) : Option RuleDecision :=
  resolver.ruleChain.map fun chain =>
    evaluateWithTrace chain (buildRuleCtx req) (resolver.ruleSets.getD ∅)

def projection (resolver : Resolver) (req : ResolveRequest) : Projection :=
  (ruleDecision resolver req).elim {} projectDecision

def poolName (resolver : Resolver) (req : ResolveRequest) : String :=
  (projection resolver req).pool.getD (resolver.defaultPool.getD "(none)")

/-- `select_round_robin`, `select_consistent_hash` and `select_fanout`, with the
errors of an empty choice. -/
def selectServers (hash : String → Nat) (counter : Nat) (qname : String)
    (servers : List SocketAddr) : ServerPolicy → Except ResolveError (List SocketAddr)
  | .roundRobin =>
    match servers[counter % servers.length]? with
    | some server => .ok [server]
    | none => .error (.io "no servers configured")
  | .consistentHash =>
    match servers[hash qname % servers.length]? with
    | some server => .ok [server]
    | none => .error (.io "no servers configured")
  | .fanOut k =>
    if servers.isEmpty then .error (.io "no servers configured")
    else if (servers.take k).isEmpty then .error (.io "fanout k=0 produced no servers")
    else .ok (servers.take k)

def askPool (resolver : Resolver) (s : ResolverState) (req : ResolveRequest)
    (sig : ResolutionSignals) (name : String) (pool : Pool) : ResolverState × Begun :=
  let routeGroup := (projection resolver req).routeGroup
  let ask (policy : ServerPolicy) (asking : List SocketAddr → Bool → Asking) :=
    let counter := (s.counters.lookup name).getD 0
    match selectServers resolver.hash counter (normalizeQname req.qname) pool.servers policy with
    | .error e => (s, .returned (.error e, sig))
    | .ok servers =>
      -- only round robin moves the counter of the pool
      let s := if policy = .roundRobin then
          { s with counters := s.counters.insert name ((counter + 1) % 2 ^ 64) }
        else s
      let fanout := policy ≠ .roundRobin && policy ≠ .consistentHash
      (s, .waits ⟨req, asking servers fanout, routeGroup, sig⟩)
  match pool.mode with
  | .systemMode => (s, .waits ⟨req, .system, routeGroup, sig⟩)
  | .meshDirect policy =>
    if resolver.hasOpener then ask policy .meshDirect
    else (s, .returned (.error (.io ("MeshDirect pool requires DatagramOpener " ++
      "(use ResolverBuilder::with_datagram_opener)")), sig))
  | .tunneled policy =>
    if resolver.hasStreamOpener then ask policy .tunneled
    else (s, .returned (.error (.io ("Tunneled pool requires StreamOpener " ++
      "(use ResolverBuilder::with_stream_opener)")), sig))

def resolveByRules (resolver : Resolver) (s : ResolverState) (req : ResolveRequest) :
    ResolverState × Begun :=
  let p := projection resolver req
  let sig := (ruleDecision resolver req).elim (freshSignals (normalizeQname req.qname) "")
    (recordRuleDecision (freshSignals (normalizeQname req.qname) ""))
  if p.denied then (s, .returned (.error .denied, { sig with pool := "(denied)" }))
  else
    let name := poolName resolver req
    let hint := if p.scheduleHintLabel = "" then "ordered" else p.scheduleHintLabel
    let sig := { sig with
      pool := name
      scheduleHint := if sig.scheduleHint = "" then hint else sig.scheduleHint }
    match resolver.pools.lookup name with
    | none => (s, .returned (.error (.poolNotFound name), sig))
    | some pool => askPool resolver s req sig name pool

def resolve (resolver : Resolver) (s : ResolverState) (req : ResolveRequest) (now : Nat) :
    ResolverState × Begun :=
  let qname := normalizeQname req.qname
  match freshHit resolver s req now with
  | some hit => (s, .returned (answerFromCache req hit))
  | none =>
    if isSpecialUseLocalhost qname then
      (s, .returned (.ok ⟨localhostRecords req.qtype, .system, false, 0, 60⟩,
        freshSignals qname "(special-use:localhost)"))
    else if isSpecialUseInvalidOrReserved qname then
      (s, .returned (.error .nxDomain, freshSignals qname "(special-use:nxdomain)"))
    else if isRfc6303Reverse qname then
      (s, .waits ⟨req, .reverseZone, none, freshSignals qname "(rfc6303:system)"⟩)
    else resolveByRules resolver s req

/-! ## Answers -/

def firstReply (qname : String) (net : Network) :
    Nat → List SocketAddr → Option (Dns.Message × Nat × SocketAddr)
  | _, [] => none
  | index, server :: rest =>
    match singleShot qname (net.shot index) with
    | .ok (msg, elapsed) => some (msg, elapsed, server)
    | .error _ => firstReply qname net (index + 1) rest

/-- What `resolve_mesh_direct` and `resolve_tunneled` make of the replies: the
answer, the server it came from, and the number of records it had. -/
def askServers (qname : String) (net : Network) (source : SocketAddr → ResolverSource)
    (servers : List SocketAddr) (fanout : Bool) :
    Except ResolveError (ResolveAnswer × SocketAddr × Nat) :=
  if fanout then
    match firstReply qname net 0 servers with
    | some (msg, elapsed, server) =>
      .ok (extractAnswer msg (source server) elapsed, server, msg.answers.length)
    | none => .error (.io "all fanout attempts failed")
  else
    match servers with
    | [] => .error (.io "no servers configured")
    | server :: _ =>
      match singleShot qname (net.shot 0) with
      | .ok (msg, _) =>
        .ok (extractAnswer msg (source server) net.elapsed, server, msg.answers.length)
      | .error e => .error e

def writeBack (resolver : Resolver) (s : ResolverState) (req : ResolveRequest) (now : Nat)
    (answer : ResolveAnswer) : ResolverState :=
  if resolver.hasCache then
    { s with
      cache := s.cache.putPositive now (cacheKey req) answer.records
        (max answer.minRrTtl 1 * 1000) }
  else s

def systemSignals (sig : ResolutionSignals) (answer : ResolveAnswer) : ResolutionSignals :=
  { sig with
    resolverRttMs := answer.rtt
    answerCount := answer.records.length % 2 ^ 32
    truncated := answer.truncated }

def applyTelemetry (resolver : Resolver) (s : ResolverState) (w : Waiting)
    (servers : List SocketAddr) (fanout : Bool) (source : SocketAddr → ResolverSource)
    (net : Network) (now : Nat) : ResolverState × Resolved :=
  match askServers (normalizeQname w.req.qname) net source servers fanout with
  | .error e => (s, (.error e, w.sig))
  | .ok (answer, winner, count) =>
    let losers := if fanout then servers.filter (· ≠ winner) else []
    (writeBack resolver s w.req now answer, (.ok answer, { w.sig with
      resolverRttMs := answer.rtt
      answerCount := count % 2 ^ 32
      truncated := answer.truncated
      attempted := servers.length
      winnerExit := if losers.isEmpty then .singlePath winner else .fanOut winner losers }))

def finish (resolver : Resolver) (s : ResolverState) (w : Waiting) (net : Network) (now : Nat) :
    ResolverState × Resolved :=
  match w.asking with
  | .system =>
    match resolveSystem resolver.parseIp w.req.qname w.req.qtype net with
    | .ok answer =>
      (writeBack resolver s w.req now answer, (.ok answer, systemSignals w.sig answer))
    | .error e => (s, (.error e, w.sig))
  | .reverseZone =>
    match resolveSystem resolver.parseIp w.req.qname w.req.qtype net with
    | .ok answer => (s, (.ok answer, systemSignals w.sig answer))
    | .error e => (s, (.error e, w.sig))
  | .meshDirect servers fanout =>
    applyTelemetry resolver s w servers fanout .meshDirect net now
  | .tunneled servers fanout =>
    applyTelemetry resolver s w servers fanout .tunneled net now

/-! ## Steps -/

inductive ResolverStep where
  | call (id : CallId) (req : ResolveRequest) (now : Nat)
  | reply (id : CallId) (net : Network) (now : Nat)

inductive ResolverOutput where
  | returned (req : ResolveRequest) (result : Resolved)
  | waits
  | answered (waiting : Waiting) (result : Resolved)
  /-- The id of a call that waits is taken; a reply needs a call that waits. -/
  | ignored

def ResolverOutput.result : ResolverOutput → Option (ResolveRequest × Resolved)
  | .returned req result => some (req, result)
  | .answered waiting result => some (waiting.req, result)
  | .waits => none
  | .ignored => none

def Resolver.step (resolver : Resolver) (s : ResolverState) :
    ResolverStep → ResolverState × ResolverOutput
  | .call id req now =>
    if id ∈ s.waiting then (s, .ignored)
    else match resolve resolver s req now with
      | (s, .returned result) => (s, .returned req result)
      | (s, .waits w) => ({ s with waiting := s.waiting.insert id w }, .waits)
  | .reply id net now =>
    match s.waiting.lookup id with
    | none => (s, .ignored)
    | some w =>
      let finished := finish resolver { s with waiting := s.waiting.erase id } w net now
      (finished.1, .answered w finished.2)

end MeshBus.Resolver
