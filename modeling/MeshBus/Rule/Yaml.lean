import MeshBus.Lib.Checks
import MeshBus.Lib.Text
import MeshBus.Rule.Validate

/-!
# Rule chains in YAML

The parser of rule chains and rule sets, over the values that `serde_yaml` makes of a document.
-/

namespace MeshBus.Rule

open Lib
open Lib.Text (IntErrorKind parseU16 splitOnce)

/-! ## Values -/

/-- `serde_yaml::Number`; a float is kept as text. -/
inductive YamlNumber where
  | posInt (n : UInt64)
  | negInt (n : Int)
  | float (text : String)
deriving DecidableEq, Repr

/-- `serde_yaml::Value`. -/
inductive YamlValue where
  | null
  | bool (value : Bool)
  | number (value : YamlNumber)
  | string (value : String)
  | sequence (items : List YamlValue)
  | mapping (entries : List (YamlValue × YamlValue))
  | tagged (tag : String) (value : YamlValue)

open YamlValue

namespace YamlValue

def untag : YamlValue → YamlValue
  | .tagged _ value => value.untag
  | value => value

def asStr (v : YamlValue) : Option String :=
  match v.untag with
  | .string s => some s
  | _ => none

def asU64 (v : YamlValue) : Option Nat :=
  match v.untag with
  | .number (.posInt n) => some n.toNat
  | _ => none

def asI64 (v : YamlValue) : Option Int :=
  match v.untag with
  | .number (.posInt n) => if n.toNat < 2 ^ 63 then some n.toNat else none
  | .number (.negInt n) => some n
  | _ => none

def asSequence (v : YamlValue) : Option (List YamlValue) :=
  match v.untag with
  | .sequence items => some items
  | _ => none

def asMapping (v : YamlValue) : Option (List (YamlValue × YamlValue)) :=
  match v.untag with
  | .mapping entries => some entries
  | _ => none

def isKey (key : String) : YamlValue → Bool
  | .string s => s == key
  | _ => false

end YamlValue

def getKey (entries : List (YamlValue × YamlValue)) (key : String) : Option YamlValue :=
  (entries.find? fun entry => entry.1.isKey key).map Prod.snd

def containsKey (entries : List (YamlValue × YamlValue)) (key : String) : Bool :=
  (getKey entries key).isSome

/-! ## Errors -/

inductive ParseError where
  | yaml (e : String)
  | missingDefault
  | missingRules
  | unknownAction (text : String)
  | unknownPredicateKey (key : String)
  | ruleBothMatchAndFlat
  | cidr (e : String)
  | regex (e : String)
  | ip
  | int (kind : IntErrorKind)
  | invalidValue (field value : String)
deriving DecidableEq, Repr

/-- An error, or a panic. -/
inductive ParseStop where
  | error (e : ParseError)
  | panicked
deriving DecidableEq, Repr

abbrev Parse (α : Type) : Type := Except ParseStop α

def invalidValue {α : Type} (field value : String) : Parse α :=
  .error (.error (.invalidValue field value))

def unknownAction {α : Type} (text : String) : Parse α := .error (.error (.unknownAction text))

lemma invalidValue_ne_ok : invalidValue field value ≠ .ok a := by
  rintro ⟨⟩

/-- The packages that the parser uses, and the address parser. -/
structure YamlDeps where
  fromStr : String → Except String YamlValue
  /-- The `Debug` text of a value. -/
  debug : YamlValue → String
  net : String → Except String IpNet
  ip : String → Option IpAddr
  regex : String → Except String (String → Bool)
  toJson : YamlValue → Except String JsonValue

variable (deps : YamlDeps)

/-! ## Predicates -/

def rejectEmptySymbol (field value : String) : Parse Unit :=
  if value = "" then invalidValue field "empty" else .ok ()

def parseNonEmptyString (field : String) (value : YamlValue) : Parse String :=
  match value.asStr with
  | none => invalidValue field (deps.debug value)
  | some s => do
      rejectEmptySymbol field s
      pure s

def parseChoice {α : Type} (field : String) (choices : List (String × α)) (value : String) :
    Parse α :=
  match choices.lookup value with
  | some a => .ok a
  | none => invalidValue field value

def networks : List (String × RuleNetwork) := [("tcp", .tcp), ("udp", .udp)]

def sessionShapes : List (String × RuleSessionShape) :=
  [("stream", .stream), ("datagram", .datagram)]

def socks5Commands : List (String × RuleSocks5Command) :=
  [("connect", .connect), ("bind", .bind), ("udp_associate", .udpAssociate)]

def trafficClasses : List (String × RuleTrafficClass) :=
  [("interactive", .interactive), ("bulk", .bulk), ("control", .control)]

def transformKinds : List (String × RuleTransformKind) :=
  [("fragment", .fragment), ("compress", .compress), ("encrypt", .encrypt),
    ("checksum", .checksum), ("parity", .parity)]

def parseNet (text : String) : Parse IpNet := (deps.net text).mapError fun e => .error (.cidr e)

def parseIp (text : String) : Parse IpAddr :=
  match deps.ip text with
  | some ip => .ok ip
  | none => .error (.error .ip)

def parseDstPort (val : YamlValue) : Parse Predicate :=
  match val.asU64 with
  | none => invalidValue "dst_port" (val.asStr.getD "")
  | some n =>
    if 65535 < n then invalidValue "dst_port" (toString n)
    else .ok (.dstPortEq (UInt16.ofNat n))

def parseDstPortRange (text : String) : Parse Predicate :=
  match splitOnce '-' text.toList with
  | none => invalidValue "dst_port_range" text
  | some (a, b) => do
      let start ← (parseU16 a).mapError fun kind => .error (.int kind)
      let stop ← (parseU16 b).mapError fun kind => .error (.int kind)
      if stop < start then invalidValue "dst_port_range" text
      else pure (.dstPortRange start stop)

def parseAsns : List YamlValue → Parse (List Nat)
  | [] => .ok []
  | v :: rest =>
    match v.asU64 with
    | none => invalidValue "asn[]" (deps.debug v)
    | some n =>
      if 2 ^ 32 ≤ n then invalidValue "asn[]" (toString n)
      else do
        let asns ← parseAsns rest
        pure (n :: asns)

def parseAsn (val : YamlValue) : Parse Predicate :=
  match val.asU64 with
  | some n => if 2 ^ 32 ≤ n then invalidValue "asn" (toString n) else .ok (.asnEq n)
  | none =>
    match val.asSequence with
    | some [] => invalidValue "asn" "empty"
    | some items => do
        let asns ← parseAsns deps items
        pure (.asnAny asns)
    | none => invalidValue "asn" (deps.debug val)

def parseAuthenticatedUser (val : YamlValue) : Parse Predicate := do
  let value ← parseNonEmptyString deps "authenticated_user" val
  pure (if value = "*" then .authenticatedUserAny else .authenticatedUserEq value)

def parseRulesetRef (name : String) : Parse Predicate := do
  rejectEmptySymbol "ruleset" name
  pure (.rulesetMember name)

def parseHostnameRegex (val : YamlValue) : Parse Predicate := do
  let pattern ← parseNonEmptyString deps "hostname_regex" val
  let isMatch ← (deps.regex pattern).mapError fun e => .error (.regex e)
  pure (.hostnameRegex pattern isMatch)

/-- A value that is not a string counts as the empty one where the code asks for no more. -/
def parsePredicate (key : String) (val : YamlValue) : Parse Predicate :=
  let s := val.asStr.getD ""
  match key with
  | "src_cidr" => .srcCidr <$> parseNet deps s
  | "dst_cidr" => .dstCidr <$> parseNet deps s
  | "src_ip" => .srcIpEq <$> parseIp deps s
  | "dst_ip" => .dstIpEq <$> parseIp deps s
  | "dst_port" => parseDstPort val
  | "dst_port_range" => parseDstPortRange s
  | "network" => .networkEq <$> parseChoice "network" networks s
  | "session_shape" => .sessionShapeEq <$> parseChoice "session_shape" sessionShapes s
  | "operation" => .operationEq <$> parseNonEmptyString deps "operation" val
  | "socks5_command" => .socks5CommandEq <$> parseChoice "socks5_command" socks5Commands s
  | "hostname" => .hostnameExact <$> parseNonEmptyString deps "hostname" val
  | "hostname_suffix" => .hostnameSuffix <$> parseNonEmptyString deps "hostname_suffix" val
  | "hostname_keyword" => .hostnameKeyword <$> parseNonEmptyString deps "hostname_keyword" val
  | "hostname_regex" => parseHostnameRegex deps val
  | "fragment_group" => .fragmentGroupExact <$> parseNonEmptyString deps "fragment_group" val
  | "traffic_class" => .trafficClassEq <$> parseChoice "traffic_class" trafficClasses s
  | "transform_kind" => .transformKindEq <$> parseChoice "transform_kind" transformKinds s
  | "ruleset" => parseRulesetRef s
  | "consumer" => .consumer <$> parseNonEmptyString deps "consumer" val
  | "dns_qtype" => .dnsQtype <$> parseNonEmptyString deps "dns_qtype" val
  | "authenticated_user" => parseAuthenticatedUser deps val
  | "dst_geo" => .dstGeoEq <$> parseNonEmptyString deps "dst_geo" val
  | "asn" => parseAsn deps val
  | "geosite_tag" => .geositeTag <$> parseNonEmptyString deps "geosite_tag" val
  | other => .error (.error (.unknownPredicateKey other))

/-! ## Matches -/

def checkControls (entries : List (YamlValue × YamlValue)) : List String → Parse Unit
  | [] => .ok ()
  | ctrl :: rest =>
    if containsKey entries ctrl && decide (1 < entries.length) then
      unknownAction ("match control key `" ++ ctrl ++ "` must be the only key in mapping")
    else checkControls entries rest

/-- The predicates of a mapping, one for each key; a key that is not a string counts as empty. -/
def parseTerms : List (YamlValue × YamlValue) → Parse (List MatchExpr)
  | [] => .ok []
  | entry :: rest => do
      let predicate ← parsePredicate deps (entry.1.asStr.getD "") entry.2
      let terms ← parseTerms rest
      pure (.term predicate :: terms)

def parseTermMapping (entries : List (YamlValue × YamlValue)) : Parse MatchExpr := do
  let terms ← parseTerms deps entries
  match terms with
  | [] => unknownAction "empty match"
  | [term] => pure term
  | terms => pure (.all terms)

def parseLeaf (entries : List (YamlValue × YamlValue)) : Parse MatchExpr :=
  match (getKey entries "ruleset").bind asStr with
  | some name => .term <$> parseRulesetRef name
  | none => parseTermMapping deps entries

mutual

def parseMatch : YamlValue → Parse MatchExpr
  | .tagged _ value => parseMatch value
  | .mapping entries => do
      checkControls entries ["all", "any", "not", "ruleset"]
      match parseGroupAt "all" entries with
      | some items => .all <$> items
      | none =>
        match parseGroupAt "any" entries with
        | some items => .any <$> items
        | none =>
          match parseMatchAt "not" entries with
          | some item => .not <$> item
          | none => parseLeaf deps entries
  | _ => unknownAction "match must be mapping"

def parseGroupAt (key : String) : List (YamlValue × YamlValue) → Option (Parse (List MatchExpr))
  | [] => none
  | (k, v) :: rest => if k.isKey key then parseGroup key v else parseGroupAt key rest

def parseGroup (key : String) : YamlValue → Option (Parse (List MatchExpr))
  | .tagged _ value => parseGroup key value
  | .sequence items =>
    some (if items.isEmpty then invalidValue key "empty" else parseMatches items)
  | _ => none

def parseMatchAt (key : String) : List (YamlValue × YamlValue) → Option (Parse MatchExpr)
  | [] => none
  | (k, v) :: rest => if k.isKey key then some (parseMatch v) else parseMatchAt key rest

def parseMatches : List YamlValue → Parse (List MatchExpr)
  | [] => .ok []
  | v :: rest => do
      let item ← parseMatch v
      let items ← parseMatches rest
      pure (item :: items)

end

/-! ## Actions -/

def parseEmptyActionPayload (field : String) (value : YamlValue) : Parse Unit :=
  match value.asMapping with
  | none => invalidValue field (deps.debug value)
  | some [] => .ok ()
  | some _ => invalidValue field "non-empty payload"

/-- The keys of a mapping are strings from a list: the loop at the head of each parser of a
mapping, with its two errors. -/
def checkKeys (allowed : List String) (notString : ParseError) (unknown : String → ParseError) :
    List (YamlValue × YamlValue) → Parse Unit
  | [] => .ok ()
  | entry :: rest =>
    match entry.1.asStr with
    | none => .error (.error notString)
    | some key =>
      if key ∈ allowed then checkKeys allowed notString unknown rest
      else .error (.error (unknown key))

def parseFanout (fanout : YamlValue) : Parse RuleScheduleHint :=
  match fanout.asMapping with
  | none => invalidValue "fanout" (deps.debug fanout)
  | some entries => do
      checkKeys ["k"] (.unknownAction "fanout keys must be strings")
        (fun key => .invalidValue ("fanout." ++ key) "unknown key") entries
      match (getKey entries "k").bind asU64 with
      | none => invalidValue "fanout.k" "missing"
      | some k =>
        if k = 0 ∨ 2 ^ 32 ≤ k then invalidValue "fanout.k" (toString k) else pure (.fanOut k)

def parseScheduleHint (v : YamlValue) : Parse RuleScheduleHint :=
  if v.asStr = some "auto" then .ok .auto
  else
    match v.asMapping with
    | none => unknownAction "schedule_hint shape"
    | some entries => do
        checkKeys ["fanout"] (.unknownAction "schedule_hint keys must be strings")
          (fun key => .invalidValue ("schedule_hint." ++ key) "unknown key") entries
        match getKey entries "fanout" with
        | some fanout => parseFanout deps fanout
        | none => unknownAction "unknown schedule_hint"

def parseTransformParams : Option YamlValue → Parse JsonValue
  | none => .ok .null
  | some params =>
    match params.asMapping with
    | none => invalidValue "set_transform.params" (deps.debug params)
    | some _ =>
      (deps.toJson params).mapError fun e =>
        .error (.invalidValue "set_transform.params" e)

def parseTransform (v : YamlValue) : Parse Action :=
  match v.asMapping with
  | none => unknownAction "set_transform must be mapping"
  | some entries => do
      checkKeys ["kind", "params"] (.unknownAction "set_transform keys must be strings")
        (fun key => .invalidValue ("set_transform." ++ key) "unknown key") entries
      match (getKey entries "kind").bind asStr with
      | none => unknownAction "set_transform.kind missing"
      | some kind => do
          let kind ← parseChoice "transform.kind" transformKinds kind
          let params ← parseTransformParams deps (getKey entries "params")
          pure (.setTransform ⟨kind, params⟩)

def parseCostBias (v : YamlValue) : Parse Action :=
  match v.asI64 with
  | none => invalidValue "set_cost_bias" (deps.debug v)
  | some n =>
    if -9000 ≤ n ∧ n ≤ 9000 then .ok (.setCostBias n)
    else invalidValue "set_cost_bias" (toString n)

mutual

def parseAction : YamlValue → Parse Action
  | .tagged _ value => parseAction value
  | .string "allow" => .ok .allow
  | .string "deny" => .ok .deny
  | .string other => unknownAction other
  | .mapping [(k, v)] =>
    match k.asStr with
    | none => unknownAction "action key must be a string"
    | some "allow" => do
        parseEmptyActionPayload deps "allow" v
        pure .allow
    | some "deny" => do
        parseEmptyActionPayload deps "deny" v
        pure .deny
    | some "set_route_group" => .setRouteGroup <$> parseNonEmptyString deps "set_route_group" v
    | some "set_resolver_pool" =>
      .setResolverPool <$> parseNonEmptyString deps "set_resolver_pool" v
    | some "set_schedule_hint" => .setScheduleHint <$> parseScheduleHint deps v
    | some "set_transform" => parseTransform deps v
    | some "compose" => .compose <$> parseCompose v
    | some "set_cost_bias" => parseCostBias deps v
    | some other => unknownAction other
  | .mapping entries =>
    unknownAction
      ("action mapping must have exactly one key, got " ++ toString entries.length)
  | _ => unknownAction "action must be string or mapping"

def parseCompose : YamlValue → Parse (List Action)
  | .tagged _ value => parseCompose value
  | .sequence items => if items.isEmpty then invalidValue "compose" "empty" else parseActions items
  | _ => unknownAction "compose must be sequence"

def parseActions : List YamlValue → Parse (List Action)
  | [] => .ok []
  | v :: rest => do
      let action ← parseAction v
      let actions ← parseActions rest
      pure (action :: actions)

end

/-! ## Rules -/

def parseRuleId : Option YamlValue → Parse (Option String)
  | none => .ok none
  | some (.string s) => if s = "" then invalidValue "id" "empty" else .ok (some s)
  | some other => invalidValue "id" (deps.debug other)

/-- The predicates of a rule without `match`; a key that is not a string is taken for one. -/
def parseFlatTerms : List (YamlValue × YamlValue) → Parse (List MatchExpr)
  | [] => .ok []
  | entry :: rest =>
    match entry.1.asStr with
    | none => .error .panicked
    | some key => do
        let predicate ← parsePredicate deps key entry.2
        let terms ← parseFlatTerms rest
        pure (.term predicate :: terms)

def parseFlatMatch (flat : List (YamlValue × YamlValue)) : Parse MatchExpr := do
  let terms ← parseFlatTerms deps flat
  match terms with
  | [] => unknownAction "rule has no predicates"
  | [term] => pure term
  | terms => pure (.all terms)

def flatEntries (entries : List (YamlValue × YamlValue)) : List (YamlValue × YamlValue) :=
  entries.filter fun entry => entry.1.asStr.getD "" ∉ ["action", "match", "id"]

def parseRuleMatch (entries : List (YamlValue × YamlValue)) : Parse MatchExpr :=
  match getKey entries "match" with
  | some v =>
    if (flatEntries entries).isEmpty then parseMatch deps v
    else .error (.error .ruleBothMatchAndFlat)
  | none => parseFlatMatch deps (flatEntries entries)

def parseRule (v : YamlValue) : Parse Rule :=
  match v.asMapping with
  | none => unknownAction "rule must be mapping"
  | some entries =>
    match getKey entries "action" with
    | none => unknownAction "rule missing `action`"
    | some action => do
        let action ← parseAction deps action
        let id ← parseRuleId deps (getKey entries "id")
        let match_ ← parseRuleMatch deps entries
        pure ⟨id, match_, action⟩

/-! ## Rule sets -/

def rulesetFormats : List (String × RulesetFormat) :=
  [("domain-suffix", .domainSuffix), ("ip-cidr", .ipCidr), ("classical", .classical)]

def rulesetFields : List (String × RulesetField) :=
  [("hostname", .hostname), ("src_ip", .srcIp), ("dst_ip", .dstIp)]

def parseRulesetField (path : String) : Option String → Parse (Option RulesetField)
  | none => .ok none
  | some value => some <$> parseChoice (path ++ ".field") rulesetFields value

def parseValues (path : String) : List YamlValue → Parse (List String)
  | [] => .ok []
  | v :: rest => do
      let value ← parseNonEmptyString deps (path ++ ".values[]") v
      let values ← parseValues path rest
      pure (value :: values)

def parseInlineSource (path : String) (entries : List (YamlValue × YamlValue)) :
    Parse RulesetSource :=
  if containsKey entries "path" then
    invalidValue (path ++ ".path") "not allowed for inline source"
  else
    match (getKey entries "values").bind asSequence with
    | none => unknownAction (path ++ ".values missing")
    | some [] => invalidValue (path ++ ".values") "empty"
    | some items => .inlined <$> parseValues deps path items

def parseLocalSource (path : String) (entries : List (YamlValue × YamlValue)) :
    Parse RulesetSource :=
  if containsKey entries "values" then
    invalidValue (path ++ ".values") "not allowed for local source"
  else
    match (getKey entries "path").bind asStr with
    | none => unknownAction (path ++ ".path missing")
    | some file =>
      if file = "" then invalidValue (path ++ ".path") "empty" else .ok (.localFile file)

def parseRulesetSource (path : String) (entries : List (YamlValue × YamlValue)) :
    Parse RulesetSource :=
  match (getKey entries "type").bind asStr with
  | none => unknownAction (path ++ ".type missing (inline|local)")
  | some "inline" => parseInlineSource deps path entries
  | some "local" => parseLocalSource path entries
  | some other => invalidValue (path ++ ".type") other

def parseRuleset (name : String) (v : YamlValue) : Parse Ruleset :=
  let path := "rule_sets." ++ name
  match v.asMapping with
  | none => unknownAction (path ++ " must be mapping")
  | some entries => do
      checkKeys ["type", "format", "field", "values", "path"]
        (.unknownAction (path ++ " keys must be strings"))
        (fun key => .invalidValue (path ++ "." ++ key) "unknown key") entries
      match (getKey entries "format").bind asStr with
      | none => unknownAction (path ++ ".format missing")
      | some format => do
          let format ← parseChoice (path ++ ".format") rulesetFormats format
          let field ← parseRulesetField path ((getKey entries "field").bind asStr)
          if format = .classical ∧ field.isSome then
            invalidValue (path ++ ".field") "not allowed for classical"
          else do
            let source ← parseRulesetSource deps path entries
            pure ⟨name, format, field, source⟩

def parseRulesets : List (YamlValue × YamlValue) → Parse (List Ruleset)
  | [] => .ok []
  | entry :: rest =>
    match entry.1.asStr with
    | none => unknownAction "rule_sets keys must be strings"
    | some "" => invalidValue "rule_sets" "empty name"
    | some name => do
        let set ← parseRuleset deps name entry.2
        let sets ← parseRulesets rest
        pure (set :: sets)

/-! ## Documents -/

def parseRules : Option YamlValue → Parse (List Rule)
  | none => .error (.error .missingRules)
  | some (.sequence items) => items.mapM (parseRule deps)
  | some _ => unknownAction "rules must be sequence"

def parseRuleSetsBlock : Option YamlValue → Parse (List Ruleset)
  | none => .ok []
  | some (.mapping entries) => parseRulesets deps entries
  | some _ => unknownAction "rule_sets must be mapping"

def parseChainAndRulesets (raw : YamlValue) : Parse (RuleChain × List Ruleset) :=
  match raw.asMapping with
  | none => unknownAction "chain must be mapping"
  | some entries => do
      checkKeys ["rules", "default", "rule_sets"]
        (.unknownAction "top-level keys must be strings")
        (fun key => .invalidValue key "unknown top-level key") entries
      match getKey entries "default" with
      | none => .error (.error .missingDefault)
      | some value => do
          let default_ ← parseAction deps value
          let rules ← parseRules deps (getKey entries "rules")
          let rulesets ← parseRuleSetsBlock deps (getKey entries "rule_sets")
          pure (⟨rules, default_⟩, rulesets)

def parseChainAndRulesetsYaml (document : String) : Parse (RuleChain × List Ruleset) := do
  let raw ← (deps.fromStr document).mapError fun e => .error (.yaml e)
  parseChainAndRulesets deps raw

end MeshBus.Rule
