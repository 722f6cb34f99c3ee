import Mathlib.Data.List.Infix
import MeshBus.Lib.Text
import MeshBus.Rule.Chain

/-!
# Spellings of a chain

Two chains that differ in the case of the letters of their host values.  A value with a capital
letter holds of no host in lower case, so such chains decide alike where the values that would
hold, were case ignored, have capitals in both or in neither.
-/

namespace MeshBus.Rule

open Lib List

/-! ## Host values -/

def SameLetters (a b : String) : Prop := toAsciiLowercase a = toAsciiLowercase b

instance (a b : String) : Decidable (SameLetters a b) := inferInstanceAs (Decidable (_ = _))

def isLowercase (text : String) : Bool := toAsciiLowercase text == text

lemma isLowercase_iff : isLowercase text = true ↔ ∀ c ∈ text.toList, c.toLower = c := by
  rw [isLowercase, beq_iff_eq, toAsciiLowercase, ← String.toList_inj, String.toList_ofList]
  constructor
  · intro h c hc
    obtain ⟨i, hi, rfl⟩ := getElem_of_mem hc
    have hget := getElem_of_eq h (by rwa [length_map])
    rwa [getElem_map] at hget
  · intro h
    exact (map_congr_left h).trans (map_id _)

lemma isLowercase_toAsciiLowercase (text : String) :
    isLowercase (toAsciiLowercase text) = true := by
  rw [isLowercase_iff, toAsciiLowercase, String.toList_ofList]
  intro c hc
  obtain ⟨d, -, rfl⟩ := mem_map.mp hc
  exact Text.toLower_toLower d

/-- The predicates that compare the host with a value. -/
inductive HostTest where
  | exact | suffix | keyword
deriving DecidableEq, Repr

open HostTest

namespace HostTest

def predicate : HostTest → String → Predicate
  | .exact => .hostnameExact
  | .suffix => .hostnameSuffix
  | .keyword => .hostnameKeyword

def holds (test : HostTest) (host value : String) : Bool :=
  match test with
  | .exact => host = value
  | .suffix => endsWith host value
  | .keyword => containsText host value

lemma evalPredicate_predicate {ctx : RuleCtx} {test : HostTest} :
    evalPredicate ctx reg (test.predicate value) =
      ctx.hostname.any fun host => test.holds host value := by
  cases test with
  | exact =>
    cases hhost : ctx.hostname with
    | none => simp [predicate, evalPredicate, hhost]
    | some host => simp [predicate, evalPredicate, hhost, holds]
  | _ => rfl

lemma infix_of_holds {test : HostTest} (h : test.holds host value = true) :
    value.toList <:+: host.toList := by
  cases test with
  | exact =>
    rw [of_decide_eq_true h]
  | suffix => exact (isSuffixOf_iff_suffix.mp h).isInfix
  | keyword =>
    obtain ⟨tail, htail, hstart⟩ := any_eq_true.mp h
    exact ( isPrefixOf_iff_prefix.mp hstart).isInfix.trans
      ((mem_tails tail _).mp htail).isInfix

lemma holds_eq {test : HostTest} (hhost : isLowercase host = true) (value : String) :
    test.holds host value = (isLowercase value && test.holds host (toAsciiLowercase value)) := by
  cases hvalue : isLowercase value with
  | true => rw [beq_iff_eq.mp hvalue, Bool.true_and]
  | false =>
    rw [Bool.false_and, Bool.eq_false_iff]
    intro hholds
    have hlower : isLowercase value = true := isLowercase_iff.mpr fun c hc =>
      isLowercase_iff.mp hhost c ((infix_of_holds hholds).subset hc)
    exact absurd (hlower.symm.trans hvalue) (by decide)

/-- Two spellings of a value hold alike exactly if, should the value hold when case is ignored,
both have capitals or neither has. -/
lemma holds_eq_iff {test : HostTest} {host : String} (hhost : isLowercase host = true)
    {value value' : String} (h : SameLetters value value') :
    test.holds host value = test.holds host value' ↔
      (test.holds host (toAsciiLowercase value) = true →
        isLowercase value = isLowercase value') := by
  rw [holds_eq hhost value, holds_eq hhost value', ← h]
  cases test.holds host (toAsciiLowercase value) with
  | _ => simp

end HostTest

/-! ## Pairs of chains -/

mutual

/-- The matches have one shape, and their predicates are related. -/
inductive MatchExpr.Paired (R : Predicate → Predicate → Prop) : MatchExpr → MatchExpr → Prop where
  | term {p p' : Predicate} (h : R p p') : MatchExpr.Paired R (.term p) (.term p')
  | predicate {p p' : Predicate} (h : R p p') : MatchExpr.Paired R (.predicate p) (.predicate p')
  | all {items items' : List MatchExpr} (h : PairedItems R items items') :
      MatchExpr.Paired R (.all items) (.all items')
  | any {items items' : List MatchExpr} (h : PairedItems R items items') :
      MatchExpr.Paired R (.any items) (.any items')
  | not {item item' : MatchExpr} (h : MatchExpr.Paired R item item') :
      MatchExpr.Paired R (.not item) (.not item')

inductive PairedItems (R : Predicate → Predicate → Prop) :
    List MatchExpr → List MatchExpr → Prop where
  | nil : PairedItems R [] []
  | cons {item item' : MatchExpr} {rest rest' : List MatchExpr}
      (h : MatchExpr.Paired R item item') (hrest : PairedItems R rest rest') :
      PairedItems R (item :: rest) (item' :: rest')

end

structure PairedRule (R : Predicate → Predicate → Prop) (rule rule' : Rule) : Prop where
  id : rule.id = rule'.id
  action : rule.action = rule'.action
  match_ : rule.match_.Paired R rule'.match_

structure RuleChain.Paired (R : Predicate → Predicate → Prop) (chain chain' : RuleChain) :
    Prop where
  rules : List.Forall₂ (PairedRule R) chain.rules chain'.rules
  default_ : chain.default_ = chain'.default_

section

lemma MatchExpr.Paired.and {m m' : MatchExpr} (h : m.Paired R m') (h' : m.Paired S m') :
    m.Paired (fun p p' => R p p' ∧ S p p') m' := by
  revert h'
  refine @MatchExpr.Paired.rec R
    (fun m m' _ => m.Paired S m' → m.Paired (fun p p' => R p p' ∧ S p p') m')
    (fun items items' _ => PairedItems S items items' →
      PairedItems (fun p p' => R p p' ∧ S p p') items items')
    ?_ ?_ ?_ ?_ ?_ ?_ ?_ m m' h
  · intro p p' h h'
    cases h' with
    | term h' => exact .term ⟨h, h'⟩
  · intro p p' h h'
    cases h' with
    | predicate h' => exact .predicate ⟨h, h'⟩
  · intro items items' _ ih h'
    cases h' with
    | all h' => exact .all (ih h')
  · intro items items' _ ih h'
    cases h' with
    | any h' => exact .any (ih h')
  · intro item item' _ ih h'
    cases h' with
    | not h' => exact .not (ih h')
  · exact fun _ => .nil
  · intro item item' rest rest' _ _ ih ihrest h'
    cases h' with
    | cons h' hrest' => exact .cons (ih h') (ihrest hrest')

lemma RuleChain.Paired.and {chain chain' : RuleChain} (h : chain.Paired R chain')
    (h' : chain.Paired S chain') : chain.Paired (fun p p' => R p p' ∧ S p p') chain' := by
  refine ⟨?_, h.default_⟩
  have hand : ∀ {rules rules' : List Rule}, List.Forall₂ (PairedRule R) rules rules' →
      List.Forall₂ (PairedRule S) rules rules' →
      List.Forall₂ (PairedRule fun p p' => R p p' ∧ S p p') rules rules' := by
    intro rules rules' hr hs
    induction hr with
    | nil => exact .nil
    | cons hrule _ ih =>
      cases hs with
      | cons hrule' hrest' =>
        exact .cons ⟨hrule.id, hrule.action, hrule.match_.and hrule'.match_⟩ (ih hrest')
  exact hand h.rules h'.rules

end
section

lemma evalMatch_of_paired
    (hR : ∀ p p', R p p' → evalPredicate ctx reg p = evalPredicate ctx reg' p')
    (h : m.Paired R m') : evalMatch ctx reg m = evalMatch ctx reg' m' := by
  refine @MatchExpr.Paired.rec R
    (fun m m' _ => evalMatch ctx reg m = evalMatch ctx reg' m')
    (fun items items' _ => evalAll ctx reg items = evalAll ctx reg' items' ∧
      evalAny ctx reg items = evalAny ctx reg' items')
    ?_ ?_ ?_ ?_ ?_ ?_ ?_ m m' h
  · intro p p' h
    rw [evalMatch, evalMatch, hR p p' h]
  · intro p p' h
    rw [evalMatch, evalMatch, hR p p' h]
  · intro items items' _ ih
    rw [evalMatch, evalMatch, ih.1]
  · intro items items' _ ih
    rw [evalMatch, evalMatch, ih.2]
  · intro item item' _ ih
    rw [evalMatch, evalMatch, ih]
  · exact ⟨rfl, rfl⟩
  · intro item item' rest rest' _ _ ih ihrest
    rw [evalAll, evalAny, ih, ihrest.1, ihrest.2]
    exact ⟨rfl, rfl⟩

lemma evaluateWithTrace_of_paired
    (hR : ∀ p p', R p p' → evalPredicate ctx reg p = evalPredicate ctx reg' p')
    (h : chain.Paired R chain') :
    evaluateWithTrace chain ctx reg = evaluateWithTrace chain' ctx reg' := by
  have hfrom : ∀ {rules rules' : List Rule}, List.Forall₂ (PairedRule R) rules rules' →
      ∀ index, evaluateFrom ctx reg chain.default_ index rules =
        evaluateFrom ctx reg' chain'.default_ index rules' := by
    intro rules rules' hrules
    induction hrules with
    | nil =>
      intro index
      rw [evaluateFrom, evaluateFrom, h.default_]
    | cons hrule _ ih =>
      intro index
      rw [evaluateFrom, evaluateFrom, evalMatch_of_paired hR hrule.match_, hrule.action,
        hrule.id, ih]
  exact hfrom h.rules 0

end

/-! ## Spellings -/

/-- The predicates are the same but for the case of the letters of a host value. -/
inductive Predicate.Respelled : Predicate → Predicate → Prop where
  | same (p : Predicate) : Predicate.Respelled p p
  | host (test : HostTest) {value value' : String} (h : SameLetters value value') :
      Predicate.Respelled (test.predicate value) (test.predicate value')

/-- The sets are the same but for the case of the letters of their entries. -/
structure ResolvedRuleset.Respelled (set set' : ResolvedRuleset) : Prop where
  field : set.field = set'.field
  format : set.format = set'.format
  entries : List.Forall₂ SameLetters set.entries set'.entries
  cidrs : set.cidrs = set'.cidrs

def RuleSetRegistry.Paired (R : ResolvedRuleset → ResolvedRuleset → Prop)
    (reg reg' : RuleSetRegistry) : Prop :=
  ∀ name, Option.Rel R (reg.lookup name) (reg'.lookup name)

/-- Should the value hold of the host when case is ignored, both spellings have capitals or
neither has. -/
def KeepsCase (test : HostTest) (host value value' : String) : Prop :=
  test.holds host (toAsciiLowercase value) = true → isLowercase value = isLowercase value'

def Predicate.CaseKept (host : String) (p p' : Predicate) : Prop :=
  ∀ (test : HostTest) (value value' : String), p = test.predicate value →
    p' = test.predicate value' → KeepsCase test host value value'

def ResolvedRuleset.CaseKept (host : String) (set set' : ResolvedRuleset) : Prop :=
  set.format = .domainSuffix →
    List.Forall₂ (KeepsCase .suffix host) set.entries set'.entries

lemma any_entries_eq (hhost : isLowercase host = true) :
    ∀ {entries' : List String}, List.Forall₂ SameLetters entries entries' →
      List.Forall₂ (KeepsCase .suffix host) entries entries' →
      entries.any (endsWith host) = entries'.any (endsWith host) := by
  induction entries with
  | nil =>
    intro entries' h _
    cases h
    rfl
  | cons entry rest ih =>
    intro entries' h hkept
    cases h with
    | cons hentry hrest =>
      cases hkept with
      | cons hkeep hkeeps =>
        have hfirst := (@holds_eq_iff .suffix host hhost _ _ hentry).mpr hkeep
        rw [any_cons, ih hrest hkeeps]
        exact congrArg (· || _) hfirst

section

lemma evalRuleset_respelled (hlower : isLowercase host = true)
    (hctx : ∀ h ∈ ctx.hostname, h = host) (hreg : reg.Paired ResolvedRuleset.Respelled reg')
    (hsets : reg.Paired (ResolvedRuleset.CaseKept host) reg') :
    evalRuleset name ctx reg = evalRuleset name ctx reg' := by
  have hspel := hreg name
  have hkept := hsets name
  rw [evalRuleset, evalRuleset]
  cases hset : reg.lookup name with
  | none =>
    rw [hset] at hspel
    cases hset' : reg'.lookup name with
    | none => rfl
    | some set' =>
      rw [hset'] at hspel
      cases hspel
  | some set =>
    rw [hset] at hspel hkept
    cases hset' : reg'.lookup name with
    | none =>
      rw [hset'] at hspel
      cases hspel
    | some set' =>
      rw [hset'] at hspel hkept
      cases hspel with
      | some hspel =>
        cases hkept with
        | some hkept =>
          dsimp only
          rw [← hspel.format, ← hspel.field, ← hspel.cidrs]
          cases hfmt : set.format with
          | domainSuffix =>
            cases hhost : ctx.hostname with
            | none => rfl
            | some h =>
              cases hctx h hhost
              exact any_entries_eq hlower hspel.entries (hkept hfmt)
          | _ => rfl

lemma evalPredicate_respelled (hlower : isLowercase host = true)
    (hctx : ∀ h ∈ ctx.hostname, h = host) (hreg : reg.Paired ResolvedRuleset.Respelled reg')
    (hsets : reg.Paired (ResolvedRuleset.CaseKept host) reg')
    (h : p.Respelled p' ∧ p.CaseKept host p') :
    evalPredicate ctx reg p = evalPredicate ctx reg' p' := by
  obtain ⟨hspel, hkept⟩ := h
  cases hspel with
  | same p =>
    cases p with
    | rulesetMember name => exact evalRuleset_respelled hlower hctx hreg hsets
    | _ => rfl
  | @host test value value' hlett =>
    rw [evalPredicate_predicate, evalPredicate_predicate]
    cases hhost : ctx.hostname with
    | none => rfl
    | some h =>
      cases hctx h hhost
      exact (holds_eq_iff hlower hlett).mpr (hkept test value value' rfl rfl)

lemma evaluateWithTrace_respelled (hlower : isLowercase host = true)
    (hctx : ∀ h ∈ ctx.hostname, h = host) (hchain : chain.Paired Predicate.Respelled chain')
    (hreg : reg.Paired ResolvedRuleset.Respelled reg')
    (hkept : chain.Paired (Predicate.CaseKept host) chain')
    (hsets : reg.Paired (ResolvedRuleset.CaseKept host) reg') :
    evaluateWithTrace chain ctx reg = evaluateWithTrace chain' ctx reg' :=
  evaluateWithTrace_of_paired
    (fun _ _ h => evalPredicate_respelled hlower hctx hreg hsets h) (hchain.and hkept)

end
end MeshBus.Rule
