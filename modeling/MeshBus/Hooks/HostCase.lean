import MeshBus.Rule.Registry
import MeshBus.Rule.Spelling
import MeshBus.Socks5.Policy

/-!
# Host rules and the case of letters

The ingresses put the host of a target into the rule context in lower case.  The host values of
a chain stay as they were written.
-/

namespace MeshBus.Hooks

open Kernel (Event Reason)
open Net
open Proto (Endpoint)
open Rule
open Socks5 (Decided buildRuleCtx_targetEvent carried hostToFields targetCtx targetEvent)

/-! ## Contexts -/

def buildHttpProxyEvent (text : IpText) (peer : SocketAddr) (target : Endpoint)
    (operation : String) : Event :=
  targetEvent text "tcp" operation peer target none

/-- The ways in which a target comes to the rules. -/
inductive Ingress where
  /-- The SOCKS5 ingress builds the context itself. -/
  | socks5 (kind : Decided) (user : Option String)
  /-- The SOCKS5 ingress builds an event for the hooks. -/
  | socks5Event (kind : Decided) (user : Option String)
  | httpProxy (operation : String)
deriving DecidableEq, Repr

def Ingress.ruleCtx (text : IpText) (peer : SocketAddr) (target : Endpoint) :
    Ingress → Except Reason RuleCtx
  | .socks5 kind user => .ok (kind.ctx text peer target user)
  | .socks5Event kind user => buildRuleCtx text (kind.event text peer target user)
  | .httpProxy operation => buildRuleCtx text (buildHttpProxyEvent text peer target operation)

/-- An ingress has a context for every target: that of the SOCKS5 ingress, as it is or with the
facts that an event can carry. -/
lemma Ingress.ruleCtx_eq {text : IpText} (ingress : Ingress) :
    ∃ network shape operation command user,
      (∀ target, ingress.ruleCtx text peer target =
        .ok (targetCtx text network shape operation command peer target user)) ∨
      ∀ target, ingress.ruleCtx text peer target =
        .ok (carried (targetCtx text network shape operation command peer target user)) := by
  cases ingress with
  | socks5 kind user =>
    cases kind with
    | _ => exact ⟨_, _, _, _, user, .inl fun _ => rfl⟩
  | socks5Event kind user =>
    cases kind with
    | connect =>
      exact ⟨.tcp, .stream, _, .connect, user, .inr fun target =>
        buildRuleCtx_targetEvent text rfl _ _ _ _ target _⟩
    | bind =>
      exact ⟨.tcp, .stream, _, .bind, user, .inr fun target =>
        buildRuleCtx_targetEvent text rfl _ _ _ _ target _⟩
    | udpPacket =>
      exact ⟨.udp, .datagram, _, .udpAssociate, user, .inr fun target =>
        buildRuleCtx_targetEvent text rfl _ _ _ _ target _⟩
  | httpProxy operation =>
    exact ⟨.tcp, .stream, operation, .connect, none, .inr fun target =>
      buildRuleCtx_targetEvent text rfl _ _ _ _ target _⟩

lemma hostToFields_of_sameLetters (htext : ∀ a b, SameLetters a b → text.parse a = text.parse b)
    (hhost : SameLetters target.host target'.host) :
    hostToFields text target = hostToFields text target' := by
  rw [hostToFields, hostToFields, htext _ _ hhost, hhost]

lemma hostname_hostToFields :
    ∀ host ∈ (hostToFields text target).1, host = toAsciiLowercase target.host := by
  intro host hmem
  rw [hostToFields] at hmem
  cases hparse : text.parse target.host with
  | none =>
    rw [hparse] at hmem
    exact (Option.some.inj hmem).symm
  | some ip =>
    rw [hparse] at hmem
    cases hmem

lemma Ingress.ruleCtx_sameLetters (htext : ∀ a b, SameLetters a b → text.parse a = text.parse b)
    (hhost : SameLetters target.host target'.host) (hport : target.port = target'.port)
    (ingress : Ingress) :
    ∃ ctx, ingress.ruleCtx text peer target = .ok ctx ∧
      ingress.ruleCtx text peer target' = .ok ctx ∧
      ∀ host ∈ ctx.hostname, host = toAsciiLowercase target.host := by
  have hfields := hostToFields_of_sameLetters htext hhost
  obtain ⟨network, shape, operation, command, user, hctx⟩ := ingress.ruleCtx_eq
  have hsame : targetCtx text network shape operation command peer target' user =
      targetCtx text network shape operation command peer target user := by
    rw [targetCtx, targetCtx, hfields, hport]
  rcases hctx with hctx | hctx
  · exact ⟨_, hctx target, by rw [hctx target', hsame], hostname_hostToFields⟩
  · exact ⟨_, hctx target, by rw [hctx target', hsame], hostname_hostToFields⟩

/-! ## Decisions -/

def hostYaml (value : String) : String :=
  "rules:\n- hostname: " ++ value ++ "\n  action: deny\ndefault: allow\n"

def hostDeps (value : String) : YamlDeps :=
  depsFor (hostYaml value) <| fields
    [("rules", .sequence [fields [("hostname", .string value), ("action", .string "deny")]]),
      ("default", .string "allow")]

def hostChain (value : String) : RuleChain :=
  ⟨[⟨none, .term (.hostnameExact value), .deny⟩], .allow⟩

lemma hostChain_paired (h : R (.hostnameExact value) (.hostnameExact value')) :
    (hostChain value).Paired R (hostChain value') :=
  ⟨.cons ⟨rfl, rfl, .term h⟩ .nil, rfl⟩

lemma empty_paired :
    RuleSetRegistry.Paired R ∅ ∅ := fun _ => .none

lemma example_nonempty : "example.com" ≠ "" := by decide

lemma example_fits : (Lib.utf8 "example.com").length ≤ 255 := by decide +kernel

def exampleTarget : Endpoint :=
  ⟨"example.com", 443, example_nonempty, example_fits, Proto.https_ne_zero⟩

def exampleTarget' : Endpoint :=
  ⟨"EXAMPLE.com", 443, by decide, by decide +kernel, Proto.https_ne_zero⟩

def examplePeer : SocketAddr := ⟨.v4 0x0a000001, 50000⟩

end MeshBus.Hooks
