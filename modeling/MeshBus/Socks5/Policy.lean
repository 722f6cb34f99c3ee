import MeshBus.Hooks.Rule
import MeshBus.Kernel.Pipeline
import MeshBus.Rule.Validate
import MeshBus.Session.Datagram

/-!
# Policy

The ingress has two ways to decide a request.  A rule policy is evaluated on a context made
from the request, and its action is applied to the session request.  A pipeline runs its
hooks, the rule chain among them, on an event made from the request, and the metadata of the
event is read back.
-/

namespace MeshBus.Session

def BusSessionRequest.stream (target : Proto.Endpoint) : BusSessionRequest where
  target := target
  flowSemantics := .byteStream
  trafficClass := .bulk
  deadlineMs := none
  policyRef := none
  returnSemantics := .direct
  scheduleHint := .auto
  sourceKey := none
  targetKey := none
  routeGroup := none
  targetSink := none

end MeshBus.Session

namespace MeshBus.Socks5

open Kernel (Event HookFn HooksEnd KernelCtx MetaValue RunResult ScheduleHint
  ScheduleHintLabel SinkId TypedMap Verdict)
open Net Hooks
open Proto (Endpoint)
open Rule
open Session (BusSessionRequest)

/-! ## Contexts -/

section
variable (text : IpText)

def hostToFields (target : Endpoint) : Option String × Option IpAddr :=
  match text.parse target.host with
  | some ip => (none, some ip)
  | none => (some (toAsciiLowercase target.host), none)

def targetCtx (network : RuleNetwork) (shape : RuleSessionShape) (operation : String)
    (command : RuleSocks5Command) (peer : SocketAddr) (target : Endpoint)
    (authenticatedUser : Option String) : RuleCtx where
  srcIp := some peer.ip
  dstIp := (hostToFields text target).2
  dstPort := some target.port
  network := some network
  sessionShape := some shape
  operation := some operation
  socks5Command := some command
  hostname := (hostToFields text target).1
  authenticatedUser := authenticatedUser

def buildConnectCtx := targetCtx text .tcp .stream "connect" .connect

def buildBindCtx := targetCtx text .tcp .stream "bind" .bind

def buildUdpPacketCtx := targetCtx text .udp .datagram "datagram_send" .udpAssociate

def buildUdpAssociateCtx (peer : SocketAddr) (_declaredPeer : Endpoint)
    (authenticatedUser : Option String) : RuleCtx where
  srcIp := some peer.ip
  network := some .udp
  sessionShape := some .datagram
  operation := some "datagram_associate"
  socks5Command := some .udpAssociate
  authenticatedUser := authenticatedUser

end

/-! ## Events -/

section
variable (text : IpText)

def setOperation (meta_ : TypedMap) (operation : String) : TypedMap :=
  { meta_ with ext := meta_.ext ++ [("operation", .string operation)] }

def setHostFields (meta_ : TypedMap) (target : Endpoint) : TypedMap :=
  match text.parse target.host with
  | some ip => { meta_ with ext := meta_.ext ++ [("dst_ip_primary", .string (text.display ip))] }
  | none => { meta_ with net := { meta_.net with dstHost := some (toAsciiLowercase target.host) } }

def flowId (peer : SocketAddr) (target : Endpoint) : String :=
  peer.display text ++ "->" ++ target.host ++ ":" ++ toString target.port.toNat

def targetEvent (protocol operation : String) (peer : SocketAddr) (target : Endpoint)
    (authenticatedUser : Option String) : Event :=
  let meta_ := setHostFields text (setOperation {} operation) target
  { payload := []
    meta_ := { meta_ with
      net := { meta_.net with
        dstPort := some target.port, protocol := some protocol
        srcIp := some (text.display peer.ip) }
      auth := { user := authenticatedUser }
      trace := { flowId := some (flowId text peer target) } } }

def buildConnectEvent := targetEvent text "tcp" "connect"

def buildBindEvent := targetEvent text "tcp" "bind"

def buildUdpPacketEvent := targetEvent text "udp" "datagram_send"

end

/-! ## Applying a decision -/

inductive ApplyOutcome where
  | allow (request : BusSessionRequest)
  | deny
deriving DecidableEq

def unsupportedLegacyRuleAction : String :=
  "unsupported legacy rule action: action cannot be projected onto BusSessionRequest"

mutual

def validateProjectableAction : Action → Except String Unit
  | .allow | .deny | .setRouteGroup _ | .setScheduleHint _ => .ok ()
  | .compose actions => validateProjectableActions actions
  | .setResolverPool _ | .setTransform _ | .setCostBias _ => .error unsupportedLegacyRuleAction

def validateProjectableActions : List Action → Except String Unit
  | [] => .ok ()
  | action :: rest => do
      validateProjectableAction action
      validateProjectableActions rest

end

def validateRulePolicyActions (chain : RuleChain) : Except String Unit := do
  validateProjectableActions (chain.rules.map Rule.action)
  validateProjectableAction chain.default_

def mapScheduleHint : RuleScheduleHint → ScheduleHint
  | .auto => .auto
  | .fanOut k => .fanOut k

mutual

def applyOne (request : BusSessionRequest) : Action → ApplyOutcome
  | .allow => .allow request
  | .deny => .deny
  | .setRouteGroup group => .allow { request with routeGroup := some group }
  | .setScheduleHint hint => .allow { request with scheduleHint := mapScheduleHint hint }
  | .compose actions => applyAll request actions
  | .setTransform _ | .setResolverPool _ | .setCostBias _ => .deny

def applyAll (request : BusSessionRequest) : List Action → ApplyOutcome
  | [] => .allow request
  | action :: rest =>
    match applyOne request action with
    | .allow next => applyAll next rest
    | .deny => .deny

end

def applyDecision (decision : RuleDecision) (request : BusSessionRequest) : ApplyOutcome :=
  applyOne request decision.action

/-! ## Applying a verdict -/

inductive PipelineOutcome where
  | allow (request : BusSessionRequest)
  | deny (reason : String)
  | drop
deriving DecidableEq

def scheduleHintOf (event : Event) : ScheduleHintLabel → Except String ScheduleHint
  | .ordered => .ok .singlePath
  | .fanOut =>
    match event.meta_.transport.scheduleFanoutK with
    | some k => .ok (.fanOut k)
    | none => .error "missing_schedule_fanout_k"
  | .stripe => .ok .auto

def withRouteGroup (request : BusSessionRequest) : Option String → BusSessionRequest
  | some group => { request with routeGroup := some group }
  | none => request

def project (base : BusSessionRequest) (event : Event) : Except String BusSessionRequest :=
  let req := withRouteGroup base event.meta_.policy.routeGroup
  match event.meta_.transport.scheduleHint with
  | some label => (scheduleHintOf event label).map fun hint => { req with scheduleHint := hint }
  | none => .ok req

def applyVerdict (verdict : Verdict) (event : Event) (base : BusSessionRequest) :
    PipelineOutcome :=
  match verdict with
  | .accept sink =>
    match project base event with
    | .ok request => .allow { request with targetSink := some sink }
    | .error reason => .deny reason
  | .reject reason => .deny reason.code
  | .drop => .drop
  | .continue | .jump _ => .deny "pipeline_did_not_terminate"

/-! ## The two ways -/

structure RulePolicy where
  chain : RuleChain
  registry : RuleSetRegistry

def socks5SourceKey (text : IpText) (peer : SocketAddr) : String := text.display peer.ip

def socks5TargetKey (text : IpText) (target : Endpoint) : String :=
  let normalized :=
    match text.parse target.host with
    | some ip => text.display ip
    | none => toAsciiLowercase target.host
  normalized ++ ":" ++ toString target.port.toNat

/-- The requests that both ways decide. -/
inductive Decided where
  | connect | bind | udpPacket
deriving DecidableEq, Repr

namespace Decided
variable (text : IpText)

def ctx : Decided → SocketAddr → Endpoint → Option String → RuleCtx
  | .connect => buildConnectCtx text
  | .bind => buildBindCtx text
  | .udpPacket => buildUdpPacketCtx text

def event : Decided → SocketAddr → Endpoint → Option String → Event
  | .connect => buildConnectEvent text
  | .bind => buildBindEvent text
  | .udpPacket => buildUdpPacketEvent text

def base (peer : SocketAddr) (target : Endpoint) : Decided → BusSessionRequest
  | .connect =>
    { BusSessionRequest.stream target with
      sourceKey := some (socks5SourceKey text peer)
      targetKey := some (socks5TargetKey text target) }
  | .bind => BusSessionRequest.stream target
  | .udpPacket =>
    { BusSessionRequest.datagram target with
      sourceKey := some (socks5SourceKey text peer)
      targetKey := some (socks5TargetKey text target) }

end Decided

def legacyDecision (policy : RulePolicy) (ctx : RuleCtx) (base : BusSessionRequest) :
    ApplyOutcome :=
  applyDecision (evaluateWithTrace policy.chain ctx policy.registry) base

def acceptTo (sink : SinkId) : HookFn Event := fun event ctx => (.accept sink, event, ctx)

def callFn (hook : HookFn Event) (event : Event) (ctx : KernelCtx) : RunResult Event KernelCtx :=
  (.ok (hook event ctx).1, (hook event ctx).2)

def pipelineDecision (text : IpText) (policy : RulePolicy) (sink : SinkId) (event : Event)
    (base : BusSessionRequest) : Option PipelineOutcome :=
  let hooks := [ruleChain text (some ⟨policy.chain, policy.registry⟩), acceptTo sink]
  match Kernel.runHooks callFn hooks event ⟨[]⟩ with
  | (.returned (.ok verdict), event, _) => some (applyVerdict verdict event base)
  | _ => none

/-- Both deny, or both allow with the same route group and the same schedule hint. -/
inductive Agree : ApplyOutcome → Option PipelineOutcome → Prop
  | deny (reason : String) : Agree .deny (some (.deny reason))
  | allow {request request' : BusSessionRequest}
      (routeGroup : request.routeGroup = request'.routeGroup)
      (scheduleHint : request.scheduleHint = request'.scheduleHint) :
      Agree (.allow request) (some (.allow request'))

/-! ## Contexts agree -/

/-- The facts that an event can carry: an event says nothing of the session shape or of the
SOCKS5 command. -/
def carried (ctx : RuleCtx) : RuleCtx := { ctx with sessionShape := none, socks5Command := none }

lemma buildRuleCtx_targetEvent (text : IpText)
    (hprot : networkOf (some protocol) = .ok network) (shape : RuleSessionShape)
    (operation : String) (command : RuleSocks5Command) (peer : SocketAddr) (target : Endpoint)
    (user : Option String) :
    buildRuleCtx text (targetEvent text protocol operation peer target user) =
      .ok (carried (targetCtx text network shape operation command peer target user)) := by
  have hsrc : parseOr text "invalid_src_ip" (text.display peer.ip) = .ok peer.ip := by
    rw [parseOr, text.parse_display]
  unfold buildRuleCtx targetEvent targetCtx setHostFields hostToFields
  cases hhost : text.parse target.host with
  | none =>
    simp only [Option.mapM_some, hsrc, hprot]
    rfl
  | some ip =>
    have hdst : parseOr text "invalid_dst_ip_primary" (text.display ip) = .ok ip := by
      rw [parseOr, text.parse_display]
    simp only [Option.mapM_some, hsrc, hprot]
    show readExt text _ ("dst_ip_primary", .string (text.display ip)) >>= pure = _
    simp only [readExt, hdst]
    rfl

def neutralPredicate : Predicate → Bool
  | .sessionShapeEq _ | .socks5CommandEq _ => false
  | _ => true

mutual

def neutral : MatchExpr → Bool
  | .term predicate => neutralPredicate predicate
  | .predicate predicate => neutralPredicate predicate
  | .all items => allNeutral items
  | .any items => allNeutral items
  | .not item => neutral item

def allNeutral : List MatchExpr → Bool
  | [] => true
  | item :: rest => neutral item && allNeutral rest

end
section
variable (ctx : RuleCtx) (reg : RuleSetRegistry)

lemma evalPredicate_carried (h : neutralPredicate predicate = true) :
    evalPredicate (carried ctx) reg predicate = evalPredicate ctx reg predicate := by
  cases predicate with
  | sessionShapeEq shape => cases h
  | socks5CommandEq command => cases h
  | _ => rfl

lemma evalMatch_carried (m : MatchExpr) (h : neutral m = true) :
    evalMatch (carried ctx) reg m = evalMatch ctx reg m := by
  revert h
  refine @MatchExpr.rec
    (fun m => neutral m = true → evalMatch (carried ctx) reg m = evalMatch ctx reg m)
    (fun items => allNeutral items = true →
      evalAll (carried ctx) reg items = evalAll ctx reg items ∧
        evalAny (carried ctx) reg items = evalAny ctx reg items)
    ?_ ?_ ?_ ?_ ?_ ?_ ?_ m
  · intro predicate h
    rw [evalMatch, evalMatch]
    exact evalPredicate_carried ctx reg h
  · intro predicate h
    rw [evalMatch, evalMatch]
    exact evalPredicate_carried ctx reg h
  · intro items ih h
    rw [evalMatch, evalMatch]
    exact (ih h).1
  · intro items ih h
    rw [evalMatch, evalMatch]
    exact (ih h).2
  · intro item ih h
    rw [evalMatch, evalMatch, ih h]
  · intro _
    exact ⟨rfl, rfl⟩
  · intro item rest ih ihrest h
    obtain ⟨hitem, hrest⟩ := Bool.and_eq_true_iff.mp h
    rw [evalAll, evalAll, evalAny, evalAny, ih hitem, (ihrest hrest).1, (ihrest hrest).2]
    exact ⟨rfl, rfl⟩

lemma evaluateWithTrace_carried (h : ∀ rule ∈ chain.rules, neutral rule.match_ = true) :
    evaluateWithTrace chain (carried ctx) reg = evaluateWithTrace chain ctx reg := by
  have hfrom : ∀ rules index, (∀ rule ∈ rules, neutral rule.match_ = true) →
      evaluateFrom (carried ctx) reg chain.default_ index rules =
        evaluateFrom ctx reg chain.default_ index rules := by
    intro rules
    induction rules with
    | nil => exact fun _ _ => rfl
    | cons rule rest ih =>
      intro index hrules
      obtain ⟨hrule, hrest⟩ := List.forall_mem_cons.mp hrules
      rw [evaluateFrom, evaluateFrom, evalMatch_carried ctx reg _ hrule, ih _ hrest]
  exact hfrom chain.rules 0 h

end

/-! ## Actions agree -/

section
variable {base request : BusSessionRequest} {event : Event}

def projectedHint (base : BusSessionRequest) (event : Event) : Except String ScheduleHint :=
  match event.meta_.transport.scheduleHint with
  | some label => scheduleHintOf event label
  | none => .ok base.scheduleHint

lemma project_eq {base : BusSessionRequest} {event : Event} :
    project base event = (projectedHint base event).map fun hint =>
      { withRouteGroup base event.meta_.policy.routeGroup with scheduleHint := hint } := by
  unfold project projectedHint
  cases event.meta_.transport.scheduleHint with
  | some label => rfl
  | none =>
    cases event.meta_.policy.routeGroup with
    | _ => rfl

lemma project_ok_iff :
    project base event = .ok request ↔ ∃ hint, projectedHint base event = .ok hint ∧
      request =
        { withRouteGroup base event.meta_.policy.routeGroup with scheduleHint := hint } := by
  rw [project_eq]
  cases projectedHint base event with
  | error e => exact ⟨by rintro ⟨⟩, by rintro ⟨_, ⟨⟩, _⟩⟩
  | ok hint =>
    constructor
    · intro h
      exact ⟨hint, rfl, (Except.ok.inj h).symm⟩
    · rintro ⟨hint', hsame, rfl⟩
      cases hsame
      rfl

lemma project_setRouteGroup (h : project base event = .ok request) :
    project base (setRouteGroup event group) =
      .ok { request with routeGroup := some group } := by
  obtain ⟨hint, hhint, rfl⟩ := project_ok_iff.mp h
  refine project_ok_iff.mpr ⟨hint, hhint, ?_⟩
  cases event.meta_.policy.routeGroup with
  | _ => rfl

lemma project_setScheduleHint (hbase : base.scheduleHint = .auto)
    (h : project base event = .ok request) (hint : RuleScheduleHint) :
    project base (applyAction event (.setScheduleHint hint)).2 =
      .ok { request with scheduleHint := mapScheduleHint hint } := by
  obtain ⟨old, -, rfl⟩ := project_ok_iff.mp h
  refine project_ok_iff.mpr ⟨mapScheduleHint hint, ?_, ?_⟩
  · cases hint with
    | auto => exact congrArg Except.ok hbase
    | fanOut k => rfl
  · cases hint with
    | _ => rfl

lemma project_targetEvent {text : IpText} :
    project base (targetEvent text protocol operation peer target user) = .ok base := by
  unfold targetEvent setHostFields
  cases text.parse target.host with
  | _ => rfl

def Simulates (base : BusSessionRequest) : ApplyOutcome → Verdict × Event → Prop
  | .allow request, (.continue, event) => project base event = .ok request
  | .deny, (.reject _, _) => True
  | _, _ => False

lemma Simulates.next {action : Action} {rest : List Action}
    (h : Simulates base (applyOne request action) (applyAction event action))
    (hrest : ∀ {request event}, project base event = .ok request →
      Simulates base (applyAll request rest) (applyActions event rest)) :
    Simulates base (applyAll request (action :: rest))
      (applyActions event (action :: rest)) := by
  rw [applyAll, applyActions]
  generalize applyOne request action = outcome at h
  generalize applyAction event action = applied at h
  obtain ⟨verdict, event'⟩ := applied
  cases outcome with
  | allow next =>
    cases verdict with
    | «continue» => exact hrest h
    | _ => exact h.elim
  | deny =>
    cases verdict with
    | reject reason => exact True.intro
    | _ => exact h.elim

lemma simulates_applyOne (hbase : base.scheduleHint = .auto)
    (hprojectable : validateProjectableAction action = .ok ())
    (h : project base event = .ok request) :
    Simulates base (applyOne request action) (applyAction event action) := by
  revert request event
  revert hprojectable
  refine @Rule.Action.rec
    (fun action => validateProjectableAction action = .ok () → ∀ {request event},
      project base event = .ok request →
        Simulates base (applyOne request action) (applyAction event action))
    (fun actions => validateProjectableActions actions = .ok () → ∀ {request event},
      project base event = .ok request →
        Simulates base (applyAll request actions) (applyActions event actions))
    ?_ ?_ ?_ ?_ ?_ ?_ ?_ ?_ ?_ ?_ action
  · intro _ request event h
    rw [applyOne, applyAction]
    exact h
  · intro _ request event h
    rw [applyOne, applyAction]
    exact True.intro
  · intro group _ request event h
    rw [applyOne, applyAction]
    exact project_setRouteGroup h
  · intro pool hproj
    rw [validateProjectableAction] at hproj
    cases hproj
  · intro hint _ request event h
    have hproject := project_setScheduleHint hbase h hint
    cases hint with
    | _ =>
      rw [applyOne, applyAction]
      exact hproject
  · intro descriptor hproj
    rw [validateProjectableAction] at hproj
    cases hproj
  · intro actions ih hproj request event h
    rw [applyOne, applyAction]
    exact ih hproj h
  · intro bias hproj
    rw [validateProjectableAction] at hproj
    cases hproj
  · intro _ request event h
    rw [applyAll, applyActions]
    exact h
  · intro action rest ih ihrest hproj request event h
    rw [validateProjectableActions] at hproj
    cases haction : validateProjectableAction action with
    | error e =>
      rw [haction] at hproj
      cases hproj
    | ok _ =>
      rw [haction] at hproj
      exact (ih haction h).next (ihrest hproj)

end

/-! ## Decisions agree -/

section
variable {text : IpText} {policy : RulePolicy}

lemma projectable_of_mem (h : validateProjectableActions actions = .ok ()) :
    ∀ action ∈ actions, validateProjectableAction action = .ok () := by
  induction actions with
  | nil => exact List.forall_mem_nil _
  | cons action rest ih =>
    rw [validateProjectableActions] at h
    cases haction : validateProjectableAction action with
    | error e =>
      rw [haction] at h
      cases h
    | ok _ =>
      rw [haction] at h
      exact List.forall_mem_cons.mpr ⟨haction, ih h⟩

lemma evaluateFrom_action {P : Action → Prop}
    (hdef : P default_) (rules : List Rule.Rule) (index : Nat)
    (hrules : ∀ rule ∈ rules, P rule.action) :
    P (evaluateFrom ctx reg default_ index rules).action := by
  induction rules generalizing index with
  | nil => exact hdef
  | cons rule rest ih =>
    obtain ⟨hrule, hrest⟩ := List.forall_mem_cons.mp hrules
    rw [evaluateFrom]
    split
    · exact hrule
    · exact ih _ hrest

lemma projectable_decision (hact : validateRulePolicyActions policy.chain = .ok ())
    {ctx : RuleCtx} :
    validateProjectableAction (evaluateWithTrace policy.chain ctx policy.registry).action =
      .ok () := by
  rw [validateRulePolicyActions] at hact
  cases hrules : validateProjectableActions (policy.chain.rules.map Rule.Rule.action) with
  | error e =>
    rw [hrules] at hact
    cases hact
  | ok _ =>
    rw [hrules] at hact
    refine evaluateFrom_action (P := fun a => validateProjectableAction a = .ok ()) hact _ 0 ?_
    intro rule hrule
    exact projectable_of_mem hrules _ (List.mem_map_of_mem hrule)

lemma agree_of_simulates (hctx : buildRuleCtx text event = .ok ctx) (hsim : Simulates base outcome
      (applyAction event (evaluateWithTrace policy.chain ctx policy.registry).action)) :
    Agree outcome (pipelineDecision text policy sink event base) := by
  unfold pipelineDecision
  simp only [Kernel.runHooks, callFn, ruleChain, hctx]
  generalize applyAction event _ = applied at hsim
  obtain ⟨verdict, event'⟩ := applied
  cases outcome with
  | allow request =>
    cases verdict with
    | «continue» =>
      change project base event' = .ok request at hsim
      simp only [acceptTo, applyVerdict, hsim]
      exact .allow rfl rfl
    | _ => exact hsim.elim
  | deny =>
    cases verdict with
    | reject reason => exact .deny reason.code
    | _ => exact hsim.elim

/-- Without questions about the session shape or the SOCKS5 command, the rule policy and the
pipeline decide alike. -/
theorem policy_and_pipeline_agree (hactions : validateRulePolicyActions policy.chain = .ok ())
    (hneutral : ∀ rule ∈ policy.chain.rules, neutral rule.match_ = true)
    (kind : Decided) (peer : SocketAddr) (target : Endpoint) (user : Option String)
    (sink : SinkId) :
    Agree (legacyDecision policy (kind.ctx text peer target user) (kind.base text peer target))
      (pipelineDecision text policy sink (kind.event text peer target user)
        (kind.base text peer target)) := by
  have hctx : buildRuleCtx text (kind.event text peer target user) =
      .ok (carried (kind.ctx text peer target user)) := by
    cases kind with
    | _ => exact buildRuleCtx_targetEvent text rfl _ _ _ _ _ _
  have hbase : (kind.base text peer target).scheduleHint = .auto := by
    cases kind <;> rfl
  have hfresh : project (kind.base text peer target) (kind.event text peer target user) =
      .ok (kind.base text peer target) := by
    cases kind <;> exact project_targetEvent
  refine agree_of_simulates hctx ?_
  rw [evaluateWithTrace_carried _ _ hneutral]
  exact simulates_applyOne hbase (projectable_decision hactions) hfresh

end

/-! ## Where they agree, and where they do not -/

def clientAddr : SocketAddr := ⟨ipv4 [10, 0, 0, 9], 40000⟩

def exampleTarget : Endpoint :=
  ⟨"Example.org", 443, by decide, by decide +kernel, Proto.https_ne_zero⟩

def denying (predicate : Predicate) : RulePolicy where
  chain := ⟨[⟨none, .term predicate, .deny⟩], .allow⟩
  registry := ∅

theorem host_policy_and_pipeline_agree :
    validateRulePolicyActions (denying (.hostnameExact "example.org")).chain = .ok () ∧
      Agree
        (legacyDecision (denying (.hostnameExact "example.org"))
          (Decided.connect.ctx decimalText clientAddr exampleTarget none)
          (Decided.connect.base decimalText clientAddr exampleTarget))
        (pipelineDecision decimalText (denying (.hostnameExact "example.org")) "direct"
          (Decided.connect.event decimalText clientAddr exampleTarget none)
          (Decided.connect.base decimalText clientAddr exampleTarget)) := by
  refine ⟨rfl, policy_and_pipeline_agree rfl ?_ .connect clientAddr exampleTarget none "direct"⟩
  intro rule hrule
  obtain rfl := List.mem_singleton.mp hrule
  rfl

def Disagree (predicate : Predicate) : Prop :=
  validate (denying predicate).chain [] = .ok () ∧
    validateRulePolicyActions (denying predicate).chain = .ok () ∧
    ¬ Agree
      (legacyDecision (denying predicate)
        (Decided.connect.ctx decimalText clientAddr exampleTarget none)
        (Decided.connect.base decimalText clientAddr exampleTarget))
      (pipelineDecision decimalText (denying predicate) "direct"
        (Decided.connect.event decimalText clientAddr exampleTarget none)
        (Decided.connect.base decimalText clientAddr exampleTarget))

/-- An event does not say which SOCKS5 command it is of, or which shape of session it is for. -/
theorem command_and_shape_disagree :
    Disagree (.socks5CommandEq .connect) ∧ Disagree (.sessionShapeEq .stream) := by
  have hlegacy : ∀ predicate, predicate = .socks5CommandEq .connect ∨
      predicate = .sessionShapeEq .stream →
      legacyDecision (denying predicate)
        (Decided.connect.ctx decimalText clientAddr exampleTarget none)
        (Decided.connect.base decimalText clientAddr exampleTarget) = .deny := by
    rintro _ (rfl | rfl) <;> decide +kernel
  have hpipe : ∀ predicate, predicate = .socks5CommandEq .connect ∨
      predicate = .sessionShapeEq .stream →
      pipelineDecision decimalText (denying predicate) "direct"
        (Decided.connect.event decimalText clientAddr exampleTarget none)
        (Decided.connect.base decimalText clientAddr exampleTarget) =
        some (.allow { Decided.connect.base decimalText clientAddr exampleTarget with
          targetSink := some "direct" }) := by
    rintro _ (rfl | rfl) <;> decide +kernel
  refine ⟨⟨rfl, rfl, ?_⟩, ⟨rfl, rfl, ?_⟩⟩
  · rw [hlegacy _ (.inl rfl), hpipe _ (.inl rfl)]
    rintro ⟨⟩
  · rw [hlegacy _ (.inr rfl), hpipe _ (.inr rfl)]
    rintro ⟨⟩

end MeshBus.Socks5
