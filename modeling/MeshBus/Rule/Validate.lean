import MeshBus.Rule.Chain

/-!
# Validation of rule chains

What a chain and its rule sets have to look like before they are used: no empty names,
values or groups, and in a composed action no two effects that exclude each other.
-/

namespace MeshBus.Rule

inductive ValidateError where
  | composeAllowDenyConflict
  | composeMultipleRouteGroup
  | composeMultipleResolverPool
  | composeMultipleCostBias
  | emptyCompose
  | emptyRouteGroup
  | emptyResolverPool
  | invalidTransformParams
  | invalidFanoutK
  | invalidCostBias
  | emptyRulesetName
  | emptyRulesetRef
  | duplicateRulesetName (name : String)
  | emptyRulesetValue (name : String)
  | emptyRulesetPath (name : String)
  | emptyRuleId
  | emptyPredicateValue (field : String)
  | emptyPredicateSet (field : String)
  | emptyMatchGroup (op : String)
  | invalidDstPortRange (start stop : UInt16)
  | rulesetIpCidrField (name : String)
  | rulesetDomainSuffixField (name : String)
  | rulesetClassicalField (name : String)
deriving DecidableEq, Repr

def ValidateError.text : ValidateError → String
  | .composeAllowDenyConflict => "Compose contains both Allow and Deny"
  | .composeMultipleRouteGroup => "Compose contains more than one SetRouteGroup"
  | .composeMultipleResolverPool => "Compose contains more than one set_resolver_pool"
  | .composeMultipleCostBias => "Compose contains more than one SetCostBias"
  | .emptyCompose => "Compose must not be empty"
  | .emptyRouteGroup => "SetRouteGroup must not be empty"
  | .emptyResolverPool => "set_resolver_pool must not be empty"
  | .invalidTransformParams => "SetTransform params must be absent or object"
  | .invalidFanoutK => "fanout.k must be >= 1"
  | .invalidCostBias => "SetCostBias must be between -9000 and 9000"
  | .emptyRulesetName => "ruleset name must not be empty"
  | .emptyRulesetRef => "ruleset reference must not be empty"
  | .duplicateRulesetName name => "ruleset `" ++ name ++ "` is duplicate"
  | .emptyRulesetValue name => "ruleset `" ++ name ++ "` value must not be empty"
  | .emptyRulesetPath name => "ruleset `" ++ name ++ "` local path must not be empty"
  | .emptyRuleId => "rule id must not be empty"
  | .emptyPredicateValue field => "predicate `" ++ field ++ "` must not be empty"
  | .emptyPredicateSet field => "predicate set `" ++ field ++ "` must not be empty"
  | .emptyMatchGroup op => "match `" ++ op ++ "` group must not be empty"
  | .invalidDstPortRange start stop =>
    "dst_port_range start `" ++ toString start.toNat ++ "` must be <= end `" ++
      toString stop.toNat ++ "`"
  | .rulesetIpCidrField name =>
    "Ruleset `" ++ name ++ "` format `ip-cidr` requires field=src_ip or dst_ip"
  | .rulesetDomainSuffixField name =>
    "Ruleset `" ++ name ++ "` format `domain-suffix` requires field=hostname"
  | .rulesetClassicalField name => "Ruleset `" ++ name ++ "` format `classical` must omit field"

inductive RulesetSource where
  | inlined (values : List String)
  | localFile (path : String)
deriving DecidableEq, Repr

structure Ruleset where
  name : String
  format : RulesetFormat
  field : Option RulesetField
  source : RulesetSource
deriving DecidableEq, Repr

/-! ## Matches -/

def checkValue (field value : String) : Except ValidateError Unit :=
  if value = "" then .error (.emptyPredicateValue field) else .ok ()

def validatePredicate : Predicate → Except ValidateError Unit
  | .dstPortRange first last =>
    if last < first then .error (.invalidDstPortRange first last) else .ok ()
  | .hostnameExact host => checkValue "hostname" host
  | .operationEq operation => checkValue "operation" operation
  | .hostnameSuffix suffix => checkValue "hostname_suffix" suffix
  | .hostnameKeyword keyword => checkValue "hostname_keyword" keyword
  | .hostnameRegex pattern _ => checkValue "hostname_regex" pattern
  | .fragmentGroupExact group => checkValue "fragment_group" group
  | .rulesetMember name => if name = "" then .error .emptyRulesetRef else .ok ()
  | .consumer name => checkValue "consumer" name
  | .dnsQtype qtype => checkValue "dns_qtype" qtype
  | .authenticatedUserEq user => checkValue "authenticated_user" user
  | .dstGeoEq geo => checkValue "dst_geo" geo
  | .asnAny asns => if asns = [] then .error (.emptyPredicateSet "asn") else .ok ()
  | .geositeTag tag => checkValue "geosite_tag" tag
  | _ => .ok ()

mutual

def validateMatch : MatchExpr → Except ValidateError Unit
  | .term predicate => validatePredicate predicate
  | .predicate predicate => validatePredicate predicate
  | .all items => if items.isEmpty then .error (.emptyMatchGroup "all") else validateMatches items
  | .any items => if items.isEmpty then .error (.emptyMatchGroup "any") else validateMatches items
  | .not item => validateMatch item

def validateMatches : List MatchExpr → Except ValidateError Unit
  | [] => .ok ()
  | item :: rest => do
      validateMatch item
      validateMatches rest

end

/-! ## Actions -/

structure ComposeEffects where
  hasAllow : Bool := false
  hasDeny : Bool := false
  routeGroups : Nat := 0
  resolverPools : Nat := 0
  costBiases : Nat := 0

mutual

def collectEffects (out : ComposeEffects) : Action → ComposeEffects
  | .allow => { out with hasAllow := true }
  | .deny => { out with hasDeny := true }
  | .setRouteGroup _ => { out with routeGroups := out.routeGroups + 1 }
  | .setResolverPool _ => { out with resolverPools := out.resolverPools + 1 }
  | .setCostBias _ => { out with costBiases := out.costBiases + 1 }
  | .compose actions => collectAll out actions
  | .setScheduleHint _ | .setTransform _ => out

def collectAll (out : ComposeEffects) : List Action → ComposeEffects
  | [] => out
  | action :: rest => collectAll (collectEffects out action) rest

end

def checkEffects (eff : ComposeEffects) : Except ValidateError Unit :=
  if eff.hasAllow && eff.hasDeny then .error .composeAllowDenyConflict
  else if 1 < eff.routeGroups then .error .composeMultipleRouteGroup
  else if 1 < eff.resolverPools then .error .composeMultipleResolverPool
  else if 1 < eff.costBiases then .error .composeMultipleCostBias
  else .ok ()

def JsonValue.isNullOrObject : JsonValue → Bool
  | .null | .object _ => true
  | _ => false

mutual

def validateAction : Action → Except ValidateError Unit
  | .setRouteGroup group => if group = "" then .error .emptyRouteGroup else .ok ()
  | .setResolverPool pool => if pool = "" then .error .emptyResolverPool else .ok ()
  | .setScheduleHint (.fanOut k) => if k = 0 then .error .invalidFanoutK else .ok ()
  | .setTransform descriptor =>
    if descriptor.params.isNullOrObject then .ok () else .error .invalidTransformParams
  | .setCostBias bias =>
    if -9000 ≤ bias ∧ bias ≤ 9000 then .ok () else .error .invalidCostBias
  | .compose actions => do
      if actions.isEmpty then throw .emptyCompose
      validateActions actions
      checkEffects (collectAll {} actions)
  | .allow | .deny | .setScheduleHint .auto => .ok ()

def validateActions : List Action → Except ValidateError Unit
  | [] => .ok ()
  | action :: rest => do
      validateAction action
      validateActions rest

end

/-! ## Rule sets and chains -/

def validateRulesetSource (name : String) : RulesetSource → Except ValidateError Unit
  | .inlined values =>
    if values = [] ∨ "" ∈ values then .error (.emptyRulesetValue name) else .ok ()
  | .localFile path => if path = "" then .error (.emptyRulesetPath name) else .ok ()

def validateRuleset (set : Ruleset) : Except ValidateError Unit := do
  if set.name = "" then throw .emptyRulesetName
  validateRulesetSource set.name set.source
  match set.format, set.field with
  | .ipCidr, some .srcIp | .ipCidr, some .dstIp => pure ()
  | .ipCidr, _ => throw (.rulesetIpCidrField set.name)
  | .domainSuffix, some .hostname => pure ()
  | .domainSuffix, _ => throw (.rulesetDomainSuffixField set.name)
  | .classical, none => pure ()
  | .classical, some _ => throw (.rulesetClassicalField set.name)

def validateRule (rule : Rule) : Except ValidateError Unit := do
  if rule.id = some "" then throw .emptyRuleId
  validateMatch rule.match_
  validateAction rule.action

def validateRulesets (seen : List String) : List Ruleset → Except ValidateError Unit
  | [] => .ok ()
  | set :: rest => do
      validateRuleset set
      if set.name ∈ seen then throw (.duplicateRulesetName set.name)
      validateRulesets (set.name :: seen) rest

def validate (chain : RuleChain) (rulesets : List Ruleset) : Except ValidateError Unit := do
  chain.rules.forM validateRule
  validateAction chain.default_
  validateRulesets [] rulesets

end MeshBus.Rule
