import MeshBus.Kernel.Metadata
import MeshBus.Kernel.Registry
import MeshBus.Net.Address

/-!
# The rule chain as a hook

The hook makes a rule context of an event's metadata, lets the chain decide, and writes the
action back to the metadata.  A chain that denies ends the run.
-/

namespace MeshBus.Hooks

open Lib
open Kernel (Event HookFn KernelCtx MetaValue Reason ScheduleHintLabel Verdict)
open Net (IpText)
open Rule

/-- The part of the shared context that the hook reads. -/
structure SharedHookCtx where
  ruleChain : RuleChain
  ruleSets : RuleSetRegistry

def reasonCode (code : String) : Reason := ⟨code, none⟩

section
variable (text : IpText)

def parseOr (reason : String) (value : String) : Except Reason IpAddr :=
  match text.parse value with
  | some ip => .ok ip
  | none => .error (reasonCode reason)

/-- The nonempty pieces between zero octets that are text. -/
def geositeTagsOf (bs : Bytes) : List String :=
  ((bs.splitOn 0).filter (!·.isEmpty)).filterMap ofUtf8

def readExt (c : RuleCtx) : String × MetaValue → Except Reason RuleCtx
  | ("dst_ip_primary", .string value) => do
      let ip ← parseOr text "invalid_dst_ip_primary" value
      pure { c with dstIp := some ip }
  | ("operation", .string value) => .ok { c with operation := some value }
  | ("geo_country", .string value) => .ok { c with dstGeo := some value }
  | ("asn", .u64 value) => .ok { c with asn := some value.toUInt32.toNat }
  | ("geosite_tags", .bytes value) => .ok { c with geositeTags := geositeTagsOf value }
  | _ => .ok c

def networkOf : Option String → Except Reason RuleNetwork
  | some "tcp" => .ok .tcp
  | some "udp" => .ok .udp
  | some _ => .error (reasonCode "invalid_transport_family")
  | none => .error (reasonCode "missing_transport_family")

def buildRuleCtx (event : Event) : Except Reason RuleCtx := do
  let srcIp ← event.meta_.net.srcIp.mapM (parseOr text "invalid_src_ip")
  let network ← networkOf event.meta_.net.protocol
  let c : RuleCtx :=
    { srcIp, network := some network
      dstPort := event.meta_.net.dstPort
      hostname := event.meta_.net.dstHost
      authenticatedUser := event.meta_.auth.user }
  event.meta_.ext.foldlM (readExt text) c

end
section

def writeExt (event : Event) (key : String) (value : MetaValue) : Event :=
  let ext := event.meta_.ext
  let ext' :=
    match ext.findIdx? (·.1 == key) with
    | some i => ext.set i (key, value)
    | none => ext ++ [(key, value)]
  { event with meta_ := { event.meta_ with ext := ext' } }

def encodeBias (bias : Int) : UInt64 :=
  let clamped := max (-9000) (min bias 9000)
  if 0 ≤ clamped then UInt64.ofNat clamped.toNat
  else ((1 : UInt64) <<< 63) ||| UInt64.ofNat (-clamped).toNat

def setRouteGroup (event : Event) (group : String) : Event :=
  { event with meta_ := { event.meta_ with policy := { routeGroup := some group } } }

def setScheduleHint (event : Event) (hint : Option ScheduleHintLabel) (k : Option Nat) : Event :=
  { event with
    meta_ := { event.meta_ with
      transport := { event.meta_.transport with scheduleHint := hint, scheduleFanoutK := k } } }

def unsupportedForwardRuleAction : Verdict :=
  .reject (reasonCode "unsupported_forward_rule_action")

mutual

def applyAction (event : Event) : Action → Verdict × Event
  | .allow => (.continue, event)
  | .deny => (.reject (reasonCode "denied_by_rule"), event)
  | .setRouteGroup group => (.continue, setRouteGroup event group)
  | .setCostBias bias => (.continue, writeExt event "cost_bias" (.u64 (encodeBias bias)))
  | .setScheduleHint .auto => (.continue, setScheduleHint event none none)
  | .setScheduleHint (.fanOut k) => (.continue, setScheduleHint event (some .fanOut) (some k))
  | .setTransform _ | .setResolverPool _ => (unsupportedForwardRuleAction, event)
  | .compose actions => applyActions event actions

def applyActions (event : Event) : List Action → Verdict × Event
  | [] => (.continue, event)
  | action :: rest =>
    match applyAction event action with
    | (.continue, event) => applyActions event rest
    | (other, event) => (other, event)

end
end

def ruleChain (text : IpText) (shared : Option SharedHookCtx) : HookFn Event := fun event ctx =>
  match shared with
  | none => (.reject (reasonCode "hook_ctx_missing"), event, ctx)
  | some shared =>
    match buildRuleCtx text event with
    | .error reason => (.reject reason, event, ctx)
    | .ok rctx =>
      let decision := evaluateWithTrace shared.ruleChain rctx shared.ruleSets
      let applied := applyAction event decision.action
      (applied.1, applied.2, ctx)

end MeshBus.Hooks
