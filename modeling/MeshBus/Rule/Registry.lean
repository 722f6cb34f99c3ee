import MeshBus.Rule.Yaml

/-!
# Loading rule sets

The registry of rule sets, and the way of a document from the parser through the validator to
the registry.
-/

namespace MeshBus.Rule

open Lib Except

/-! ## The registry -/

section
variable (deps : YamlDeps)

-- reading a file gives its text or the text of an error
variable (readToString : String → Except String String)

/-- The lines of a file that are neither blank nor comments. -/
def usefulLines (text : String) : List String :=
  ((Text.lines text.toList).map Text.trim).filterMap fun line =>
    if line = [] ∨ line.head? = some '#' then none else some (String.ofList line)

def rawLines : RulesetSource → Parse (List String)
  | .inlined values => .ok values
  | .localFile path =>
    match readToString path with
    | .error e => unknownAction ("read " ++ path ++ ": " ++ e)
    | .ok text => .ok (usefulLines text)

def parseCidr (name line : String) : Parse IpNet :=
  (deps.net line).mapError fun e =>
    .error (.invalidValue ("rule_sets." ++ name ++ ".values[]") (line ++ ": " ++ e))

def resolveRuleset (set : Ruleset) (lines : List String) : Parse ResolvedRuleset :=
  match set.format with
  | .domainSuffix => .ok ⟨set.field, set.format, lines, []⟩
  | .ipCidr => do
      let cidrs ← lines.mapM (parseCidr deps set.name)
      pure ⟨set.field, set.format, [], cidrs⟩
  | .classical => .ok ⟨set.field, set.format, lines, []⟩

def loadRuleset (reg : RuleSetRegistry) (set : Ruleset) : Parse RuleSetRegistry :=
  if (reg.lookup set.name).isSome then
    invalidValue "rule_sets" ("duplicate name `" ++ set.name ++ "`")
  else do
    (validateRuleset set).mapError fun e =>
      .error (.invalidValue ("rule_sets." ++ set.name) e.text)
    let lines ← rawLines readToString set.source
    if lines = [] then invalidValue "rule_sets" ("`" ++ set.name ++ "` empty")
    else do
      let resolved ← resolveRuleset deps set lines
      pure (reg.insert set.name resolved)

def loadInto : RuleSetRegistry → List Ruleset → Parse RuleSetRegistry
  | reg, [] => .ok reg
  | reg, set :: rest => do
      let reg ← loadRuleset deps readToString reg set
      loadInto reg rest

def RuleSetRegistry.load (sets : List Ruleset) : Parse RuleSetRegistry :=
  loadInto deps readToString ∅ sets

/-! ## Documents -/

/-- The stage at which loading a document fails. -/
inductive LoadStop where
  | parse (stop : ParseStop)
  | validate (e : ValidateError)
  | load (stop : ParseStop)
deriving DecidableEq, Repr

def Ruleset.rebase (resolvePath : String → String) (set : Ruleset) : Ruleset :=
  match set.source with
  | .localFile path => { set with source := .localFile (resolvePath path) }
  | .inlined _ => set

def loadChain (resolvePath : String → String) (document : String) :
    Except LoadStop (RuleChain × RuleSetRegistry) := do
  let parsed ← (parseChainAndRulesetsYaml deps document).mapError .parse
  (validate parsed.1 parsed.2).mapError .validate
  let reg ← (RuleSetRegistry.load deps readToString
    (parsed.2.map (·.rebase resolvePath))).mapError .load
  pure (parsed.1, reg)

end

/-! ## References -/

def Predicate.references : Predicate → List String
  | .rulesetMember name => [name]
  | _ => []

mutual

def MatchExpr.references : MatchExpr → List String
  | .term predicate => predicate.references
  | .predicate predicate => predicate.references
  | .all items => referencesIn items
  | .any items => referencesIn items
  | .not item => item.references

def referencesIn : List MatchExpr → List String
  | [] => []
  | item :: rest => item.references ++ referencesIn rest

end

def RuleChain.references (chain : RuleChain) : List String :=
  chain.rules.flatMap (·.match_.references)

/-! ## Loaded sets -/

section
variable {deps : YamlDeps}

lemma loadRuleset_eq_ok {set : Ruleset} (h : loadRuleset deps readToString reg set = .ok reg') :
    reg.lookup set.name = none ∧ validateRuleset set = .ok () ∧
      ∃ lines resolved, lines ≠ [] ∧ resolveRuleset deps set lines = .ok resolved ∧
        reg' = reg.insert set.name resolved := by
  rw [loadRuleset] at h
  split_ifs at h with hname
  · exact absurd h invalidValue_ne_ok
  · obtain ⟨_, hvalid, h⟩ := bind_eq_ok.mp h
    obtain ⟨lines, -, h⟩ := bind_eq_ok.mp h
    split_ifs at h with hlines
    · exact absurd h invalidValue_ne_ok
    · obtain ⟨resolved, hrslv, h⟩ := bind_eq_ok.mp h
      refine ⟨?_, mapError_eq_ok.mp hvalid, lines, resolved, hlines, hrslv, (ok.inj h).symm⟩
      rwa [Option.not_isSome_iff_eq_none] at hname

def Loaded (deps : YamlDeps) (set : Ruleset) (resolved : ResolvedRuleset) : Prop :=
  validateRuleset set = .ok () ∧
    ∃ lines, lines ≠ [] ∧ resolveRuleset deps set lines = .ok resolved

lemma loadInto_spec : ∀ {reg reg' : RuleSetRegistry},
    loadInto deps readToString reg sets = .ok reg' →
    (∀ set ∈ sets, reg.lookup set.name = none) ∧
      (∀ set ∈ sets, ∃ resolved, reg'.lookup set.name = some resolved ∧
        Loaded deps set resolved) ∧
      ∀ name, (∀ set ∈ sets, set.name ≠ name) → reg'.lookup name = reg.lookup name := by
  induction sets with
  | nil =>
    intro reg reg' h
    cases ok.inj h
    exact ⟨List.forall_mem_nil _, List.forall_mem_nil _, fun _ _ => rfl⟩
  | cons set rest ih =>
    intro reg reg' h
    obtain ⟨mid, hmid, hrest⟩ := bind_eq_ok.mp h
    obtain ⟨hnone, hvalid, lines, resolved, hlines, hrslv, rfl⟩ := loadRuleset_eq_ok hmid
    obtain ⟨hfresh, hloaded, hother⟩ := ih hrest
    have hnew : ∀ other ∈ rest, other.name ≠ set.name ∧ reg.lookup other.name = none := by
      intro other hmem
      have hlook := hfresh other hmem
      rw [Table.lookup_insert_if] at hlook
      split_ifs at hlook with hname
      exact ⟨hname, hlook⟩
    refine ⟨List.forall_mem_cons.mpr ⟨hnone, fun other hmem => (hnew other hmem).2⟩,
      List.forall_mem_cons.mpr ⟨⟨resolved, ?_, hvalid, lines, hlines, hrslv⟩, hloaded⟩, ?_⟩
    · rw [hother set.name fun other hmem => (hnew other hmem).1, Table.lookup_insert_if, if_pos rfl]
    · intro name hne
      obtain ⟨hfirst, hoths⟩ := List.forall_mem_cons.mp hne
      rw [hother name hoths, Table.lookup_insert_if, if_neg (Ne.symm hfirst)]

lemma endsWith_self {text : String} : endsWith text text = true :=
  List.isSuffixOf_iff_suffix.mpr List.suffix_rfl

def IpNet.addr : IpNet → IpAddr
  | .v4 addr _ => .v4 addr
  | .v6 addr _ => .v6 addr

lemma IpNet.contains_addr (net : IpNet) : net.contains net.addr = true := by
  cases net with
  | _ => exact beq_self_eq_true _

lemma field_of_validateRuleset {set : Ruleset} (h : validateRuleset set = .ok ())
    (hfmt : set.format = .ipCidr) : set.field = some .srcIp ∨ set.field = some .dstIp := by
  unfold validateRuleset at h
  split_ifs at h with hname
  · cases h
  · obtain ⟨_, -, h⟩ := bind_eq_ok.mp h
    rw [hfmt] at h
    cases hfield : set.field with
    | none =>
      rw [hfield] at h
      cases h
    | some field =>
      rw [hfield] at h
      cases field with
      | hostname => cases h
      | srcIp => exact .inl rfl
      | dstIp => exact .inr rfl

lemma Loaded.satisfiable {set : Ruleset}
    (h : Loaded deps set resolved) (hfmt : set.format ≠ .classical)
    (hlook : reg.lookup name = some resolved) : ∃ ctx, evalRuleset name ctx reg = true := by
  obtain ⟨hvalid, lines, hlines, hrslv⟩ := h
  obtain ⟨line, rest, rfl⟩ := List.exists_cons_of_ne_nil hlines
  rw [resolveRuleset] at hrslv
  cases hset : set.format with
  | classical => exact absurd hset hfmt
  | domainSuffix =>
    rw [hset] at hrslv
    cases ok.inj hrslv
    refine ⟨{ hostname := some line }, ?_⟩
    rw [evalRuleset, hlook]
    simp [endsWith_self]
  | ipCidr =>
    rw [hset] at hrslv
    obtain ⟨cidrs, hcidrs, hrslv⟩ := bind_eq_ok.mp hrslv
    cases ok.inj hrslv
    rw [List.mapM_cons] at hcidrs
    obtain ⟨cidr, -, hcidrs⟩ := bind_eq_ok.mp hcidrs
    obtain ⟨others, -, hcidrs⟩ := bind_eq_ok.mp hcidrs
    cases ok.inj hcidrs
    -- the field picks the address of the context
    rcases field_of_validateRuleset hvalid hset with hfield | hfield
    · refine ⟨{ srcIp := some cidr.addr }, ?_⟩
      rw [evalRuleset, hlook]
      simp [hfield, pickIp, cidr.contains_addr]
    · refine ⟨{ dstIp := some cidr.addr }, ?_⟩
      rw [evalRuleset, hlook]
      simp [hfield, pickIp, cidr.contains_addr]

end

lemma Ruleset.name_rebase {set : Ruleset} : (set.rebase resolvePath).name = set.name := by
  rw [rebase]
  cases set.source with
  | _ => rfl

lemma Ruleset.format_rebase {set : Ruleset} : (set.rebase resolvePath).format = set.format := by
  rw [rebase]
  cases set.source with
  | _ => rfl

/-- In a chain that was loaded a reference leads to a set exactly if the document declares it;
one that leads nowhere never holds, and a set of suffixes or of nets has a member. -/
theorem loaded_references (deps : YamlDeps) (readToString : String → Except String String)
    (resolvePath : String → String) (document : String) (chain : RuleChain) (reg : RuleSetRegistry)
    (h : loadChain deps readToString resolvePath document = .ok (chain, reg)) :
    ∃ rulesets, parseChainAndRulesetsYaml deps document = .ok (chain, rulesets) ∧
      validate chain rulesets = .ok () ∧
      ∀ name ∈ chain.references,
        ((reg.lookup name).isSome = true ↔ ∃ set ∈ rulesets, set.name = name) ∧
        ((reg.lookup name).isSome = false →
          ∀ ctx, evalPredicate ctx reg (.rulesetMember name) = false) ∧
        ∀ set ∈ rulesets, set.name = name → set.format ≠ .classical →
          ∃ ctx, evalPredicate ctx reg (.rulesetMember name) = true := by
  obtain ⟨parsed, hparsed, h⟩ := bind_eq_ok.mp h
  obtain ⟨_, hvalid, h⟩ := bind_eq_ok.mp h
  obtain ⟨reg', hreg, h⟩ := bind_eq_ok.mp h
  obtain ⟨rfl, rfl⟩ := Prod.mk.inj (ok.inj h)
  obtain ⟨-, hloaded, hother⟩ := loadInto_spec (mapError_eq_ok.mp hreg)
  have hset : ∀ set ∈ parsed.2, ∃ resolved, reg'.lookup set.name = some resolved ∧
      Loaded deps (set.rebase resolvePath) resolved := by
    intro set hmem
    obtain ⟨resolved, hlook, hload⟩ := hloaded _ (List.mem_map_of_mem hmem)
    exact ⟨resolved, by rwa [Ruleset.name_rebase] at hlook, hload⟩
  refine ⟨parsed.2, mapError_eq_ok.mp hparsed, mapError_eq_ok.mp hvalid, fun name _ => ⟨?_, ?_, ?_⟩⟩
  · constructor
    · intro hsome
      by_contra hnone
      have hempty : reg'.lookup name = none := by
        refine (hother name fun set hmem => ?_).trans rfl
        obtain ⟨old, hold, rfl⟩ := List.mem_map.mp hmem
        rw [Ruleset.name_rebase]
        exact fun hname => hnone ⟨old, hold, hname⟩
      rw [hempty] at hsome
      cases hsome
    · rintro ⟨set, hmem, rfl⟩
      obtain ⟨resolved, hlook, -⟩ := hset set hmem
      rw [hlook]
      rfl
  · intro hnone ctx
    rw [Option.isSome_eq_false_iff, Option.isNone_iff_eq_none] at hnone
    rw [evalPredicate, evalRuleset, hnone]
  · rintro set hmem rfl hfmt
    obtain ⟨resolved, hlook, hload⟩ := hset set hmem
    exact hload.satisfiable (by rwa [Ruleset.format_rebase]) hlook

def depsFor (document : String) (value : YamlValue) : YamlDeps where
  fromStr text := if text = document then .ok value else .error "another document"
  debug _ := "a value"
  net _ := .error "invalid IP address syntax"
  ip _ := none
  regex _ := .error "regex parse error"
  toJson _ := .ok .null

def noFiles : String → Except String String := fun _ => .error "No such file or directory"

def fields (entries : List (String × YamlValue)) : YamlValue :=
  .mapping (entries.map fun entry => (.string entry.1, entry.2))

def suffixYaml : String :=
  "rule_sets:\n  cn:\n    type: inline\n    format: domain-suffix\n    field: hostname\n" ++
    "    values: [.cn]\nrules:\n- match:\n    not:\n      ruleset: cn\n  action: deny\n" ++
    "default: allow\n"

def suffixDeps : YamlDeps :=
  depsFor suffixYaml <| fields
    [("rule_sets", fields [("cn", fields [("type", .string "inline"),
        ("format", .string "domain-suffix"), ("field", .string "hostname"),
        ("values", .sequence [.string ".cn"])])]),
      ("rules", .sequence [fields [("match", fields [("not", fields [("ruleset", .string "cn")])]),
        ("action", .string "deny")]]),
      ("default", .string "allow")]

/-- A reference under a negation leads to its set. -/
theorem suffixYaml_references : ∃ chain reg,
    loadChain suffixDeps noFiles id suffixYaml = .ok (chain, reg) ∧ chain.references = ["cn"] ∧
      ∃ rulesets, parseChainAndRulesetsYaml suffixDeps suffixYaml = .ok (chain, rulesets) ∧
        validate chain rulesets = .ok () ∧
        ∀ name ∈ chain.references,
          ((reg.lookup name).isSome = true ↔ ∃ set ∈ rulesets, set.name = name) ∧
          ((reg.lookup name).isSome = false →
            ∀ ctx, evalPredicate ctx reg (.rulesetMember name) = false) ∧
          ∀ set ∈ rulesets, set.name = name → set.format ≠ .classical →
            ∃ ctx, evalPredicate ctx reg (.rulesetMember name) = true := by
  have hload : (loadChain suffixDeps noFiles id suffixYaml).map (·.1.references) = .ok ["cn"] := by
    decide +kernel
  obtain ⟨⟨chain, reg⟩, hok, href⟩ := map_eq_ok.mp hload
  exact ⟨chain, reg, hok, href, loaded_references _ _ _ _ _ _ hok⟩

def danglingYaml : String :=
  "rules:\n- ruleset: lan\n  action: deny\ndefault: allow\n"

def danglingDeps : YamlDeps :=
  depsFor danglingYaml <| fields
    [("rules", .sequence [fields [("ruleset", .string "lan"), ("action", .string "deny")]]),
      ("default", .string "allow")]

/-- A rule names a set that the document does not declare, and the chain is loaded. -/
theorem dangling_reference_loaded : ∃ chain reg,
    loadChain danglingDeps noFiles id danglingYaml = .ok (chain, reg) ∧
      "lan" ∈ chain.references ∧ (reg.lookup "lan").isSome = false := by
  have hload : (loadChain danglingDeps noFiles id danglingYaml).map
      (fun loaded => (loaded.1.references, (loaded.2.lookup "lan").isSome)) =
        .ok (["lan"], false) := by
    decide +kernel
  obtain ⟨⟨chain, reg⟩, hok, hpair⟩ := map_eq_ok.mp hload
  obtain ⟨href, hlook⟩ := Prod.mk.inj hpair
  exact ⟨chain, reg, hok, by rw [href]; exact List.mem_singleton_self _, hlook⟩

end MeshBus.Rule
