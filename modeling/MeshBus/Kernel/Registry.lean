import MeshBus.Lib.Bytes
import MeshBus.Lib.Checks

/-!
# Kernel registry

Sources, sinks, hooks and pipelines by id, the wiring of sources to pipelines
and the hook functions, with the checks `verify` makes before a registry is run.
Maps are ordered by key, as `BTreeMap` is.  The kernel hands events to the hook
functions and never looks inside one, so their type `E` is a parameter.
-/

namespace MeshBus.Kernel

open Lib

abbrev PipelineId := String
abbrev SinkId := String
abbrev SourceId := String
abbrev HookId := String

/-! ## Verdicts and specs -/

structure Reason where
  code : String
  detail : Option String
  deriving Repr, DecidableEq

inductive Verdict
  | continue
  | jump (target : PipelineId)
  | accept (sink : SinkId)
  | reject (reason : Reason)
  | drop
  deriving Repr, DecidableEq

def verdictLabel : Verdict → String
  | .continue => "Continue"
  | .jump _ => "Jump"
  | .accept _ => "Accept"
  | .reject _ => "Reject"
  | .drop => "Drop"

structure HookTrace where
  hookId : HookId
  verdict : String
  deriving Repr, DecidableEq

def hookTraceRecord (hookId : HookId) (verdict : Verdict) : HookTrace :=
  ⟨hookId, verdictLabel verdict⟩

structure KernelCtx where
  hookTrace : List HookTrace
  deriving Repr, DecidableEq

/-- A hook function may change the event and the context. -/
abbrev HookFn (E : Type) := E → KernelCtx → Verdict × E × KernelCtx

inductive HookKind
  | net
  | transport
  | policy
  | auth
  | sideEffect
  deriving Repr, DecidableEq

structure HookSpec where
  id : HookId
  kind : HookKind
  allowedNamespaces : List String
  reads : List String
  writes : List String
  mayTerminate : Bool
  mayJump : Bool
  mayJumpTo : List PipelineId
  mayAcceptTo : List SinkId
  sideEffectOnly : Bool
  deriving Repr, DecidableEq

structure SourceSpec where
  id : SourceId
  kind : String
  initialWrites : List String
  deriving Repr, DecidableEq

structure SinkSpec where
  id : SinkId
  kind : String
  deriving Repr, DecidableEq

structure Pipeline where
  id : PipelineId
  hooks : List HookId
  deriving Repr, DecidableEq

structure Wiring where
  source : SourceId
  pipeline : PipelineId
  deriving Repr, DecidableEq

structure KernelRegistry (E : Type) where
  sources : Std.TreeMap SourceId SourceSpec
  sinks : Std.TreeMap SinkId SinkSpec
  hooks : Std.TreeMap HookId HookSpec
  pipelines : Std.TreeMap PipelineId Pipeline
  wirings : List Wiring
  fns : Std.TreeMap HookId (HookFn E)

inductive VerifyError
  | unknownHook (pipeline hook : String)
  | missingHookFn (pipeline hook : String)
  | unknownHookFn (hook : String)
  | registryIdentityMismatch (kind key id : String)
  | invalidSourceId (sourceId : String)
  | invalidSinkId (sinkId : String)
  | invalidPipelineId (pipelineId : String)
  | invalidHookId (hookId : String)
  | invalidSourceKind (sourceId kind : String)
  | invalidSinkKind (sinkId kind : String)
  | unknownSource (sourceId : String)
  | unknownWiringPipeline (sourceId pipeline : String)
  | duplicateWiringSource (sourceId : String)
  | missingSourceWiring (sourceId : String)
  | unknownSink (hook sink : String)
  | invalidAcceptDeclaration (hook : String)
  | unknownPipelineJumpTarget (source hook target : String)
  | invalidJumpDeclaration (hook : String)
  | jumpCycle (pipeline : String)
  | unsatisfiedRead (pipeline hook key : String)
  | namespaceViolation (pipeline hook key side : String)
  | invalidMetadataKey (owner key : String)
  | invalidNamespacePattern (hook pattern : String)
  | policyReadsPayload (pipeline hook : String)
  | sideEffectMutatesVerdict (pipeline hook key : String)
  | pipelineDoesNotTerminate (pipeline : String)
  deriving Repr, DecidableEq

variable {E : Type}

def valuesOf {σ : Type} (t : Std.TreeMap String σ) : List σ := t.toList.map Prod.snd

/-! ## Identities, ids and kinds -/

def checkIdentity {σ : Type} (kind : String) (idOf : σ → String) (entry : String × σ) :
    Except VerifyError Unit :=
  reject (idOf entry.2 ≠ entry.1) (.registryIdentityMismatch kind entry.1 (idOf entry.2))

def checkRegistryIdentities (reg : KernelRegistry E) : Except VerifyError Unit := do
  checkAll (checkIdentity "source" SourceSpec.id) reg.sources.toList
  checkAll (checkIdentity "sink" SinkSpec.id) reg.sinks.toList
  checkAll (checkIdentity "hook" HookSpec.id) reg.hooks.toList
  checkAll (checkIdentity "pipeline" Pipeline.id) reg.pipelines.toList

/-- Not empty, and every byte alphanumeric or one of `_`, `.`, `:`, `-`. -/
def isValidIdShape (id : String) : Bool :=
  id ≠ "" && (utf8 id).all fun b =>
    isAsciiAlphanumeric b || b = 95 || b = 46 || b = 58 || b = 45

def checkShape (invalid : String → VerifyError) (id : String) : Except VerifyError Unit :=
  reject (!isValidIdShape id) (invalid id)

def checkSourceId := checkShape .invalidSourceId
def checkSinkId := checkShape .invalidSinkId
def checkPipelineId := checkShape .invalidPipelineId
def checkHookId := checkShape .invalidHookId

def checkIdShapes (reg : KernelRegistry E) : Except VerifyError Unit := do
  checkAll checkSourceId reg.sources.keys
  checkAll (fun wiring => checkSourceId wiring.source) reg.wirings
  checkAll checkSinkId reg.sinks.keys
  checkAll checkPipelineId reg.pipelines.keys
  checkAll (fun wiring => checkPipelineId wiring.pipeline) reg.wirings
  checkAll checkHookId (reg.hooks.keys ++ reg.fns.keys)
  checkAll (fun pipeline => do
    checkPipelineId pipeline.id
    checkAll checkHookId pipeline.hooks) (valuesOf reg.pipelines)
  checkAll (fun spec => do
    checkHookId spec.id
    checkAll checkPipelineId spec.mayJumpTo) (valuesOf reg.hooks)
  checkAll (fun spec => checkAll checkSinkId spec.mayAcceptTo) (valuesOf reg.hooks)

def checkSpecKinds (reg : KernelRegistry E) : Except VerifyError Unit := do
  checkAll (fun (id, source) =>
    reject (source.kind ≠ "application/source") (.invalidSourceKind id source.kind))
    reg.sources.toList
  checkAll (fun (id, sink) =>
    reject (!(["stream_egress", "datagram_egress"].contains sink.kind))
      (.invalidSinkKind id sink.kind))
    reg.sinks.toList

/-! ## References -/

/-- The loop over the wirings; `wired` are the sources met so far. -/
def checkWirings (reg : KernelRegistry E) :
    List SourceId → List Wiring → Except VerifyError (List SourceId)
  | wired, [] => .ok wired
  | wired, wiring :: rest => do
      reject (wired.contains wiring.source) (.duplicateWiringSource wiring.source)
      reject (!reg.sources.contains wiring.source) (.unknownSource wiring.source)
      reject (!reg.pipelines.contains wiring.pipeline)
        (.unknownWiringPipeline wiring.source wiring.pipeline)
      checkWirings reg (wiring.source :: wired) rest

def checkWiringsExist (reg : KernelRegistry E) : Except VerifyError Unit := do
  let wired ← checkWirings reg [] reg.wirings
  checkAll (fun sourceId =>
    reject (!wired.contains sourceId) (.missingSourceWiring sourceId)) reg.sources.keys

def checkPipelineHooks (reg : KernelRegistry E)
    (check : PipelineId → HookId → Except VerifyError Unit) : Except VerifyError Unit :=
  checkAll (fun (pid, pipeline) => checkAll (check pid) pipeline.hooks) reg.pipelines.toList

def checkHooksExist (reg : KernelRegistry E) : Except VerifyError Unit :=
  checkPipelineHooks reg fun pid hookId =>
    reject (!reg.hooks.contains hookId) (.unknownHook pid hookId)

def checkHookFns (reg : KernelRegistry E) : Except VerifyError Unit := do
  checkAll (fun hookId => reject (!reg.hooks.contains hookId) (.unknownHookFn hookId))
    reg.fns.keys
  checkPipelineHooks reg fun pid hookId =>
    reject (!reg.fns.contains hookId) (.missingHookFn pid hookId)

def checkAcceptDeclarations (reg : KernelRegistry E) : Except VerifyError Unit :=
  checkAll (fun (hookId, spec) =>
    reject (!spec.mayTerminate && !spec.mayAcceptTo.isEmpty) (.invalidAcceptDeclaration hookId))
    reg.hooks.toList

def checkSinkTargets (reg : KernelRegistry E) : Except VerifyError Unit :=
  checkAll (fun (hookId, spec) =>
    checkAll (fun sink => reject (!reg.sinks.contains sink) (.unknownSink hookId sink))
      spec.mayAcceptTo)
    reg.hooks.toList

def checkJumpDeclarations (reg : KernelRegistry E) : Except VerifyError Unit :=
  checkAll (fun (hookId, spec) =>
    reject (!spec.mayJump && !spec.mayJumpTo.isEmpty) (.invalidJumpDeclaration hookId))
    reg.hooks.toList

def checkJumpTargets (reg : KernelRegistry E) : Except VerifyError Unit :=
  checkPipelineHooks reg fun pid hookId =>
    match reg.hooks[hookId]? with
    | none => .ok ()
    | some spec =>
      checkAll (fun target =>
        reject (!reg.pipelines.contains target) (.unknownPipelineJumpTarget pid hookId target))
        spec.mayJumpTo

/-! ## The jump graph -/

def jumpTargets (reg : KernelRegistry E) (pid : PipelineId) : List PipelineId :=
  match reg.pipelines[pid]? with
  | none => []
  | some pipeline =>
    (pipeline.hooks.filterMap fun hookId => reg.hooks[hookId]?).flatMap HookSpec.mayJumpTo

/-- `0` not visited, `1` on the search path, `2` done. -/
abbrev Colors := Std.TreeMap PipelineId Nat

/-- The depth-first search for a cycle.  The recursion of the source is bounded
by `fuel`; running out of it is the error `none`. -/
def dfsCycle (adj : PipelineId → List PipelineId) :
    Nat → PipelineId → Colors → Except (Option VerifyError) Colors
  | 0, _, _ => .error none
  | fuel + 1, node, color => do
      let color ← (adj node).foldlM (fun color neighbor =>
        match color.getD neighbor 0 with
        | 0 => dfsCycle adj fuel neighbor color
        | 1 => .error (some (.jumpCycle node))
        | _ => .ok color) (color.insert node 1)
      return color.insert node 2

/-- Search from every pipeline not yet visited.  A search enters each pipeline
once, so one more than their number is deep enough. -/
def searchJumps (reg : KernelRegistry E) : Except (Option VerifyError) Colors :=
  reg.pipelines.keys.foldlM (fun color start =>
    if color.getD start 0 = 0
    then dfsCycle (jumpTargets reg) (reg.pipelines.size + 1) start color
    else .ok color) ∅

def checkJumpDag (reg : KernelRegistry E) : Except VerifyError Unit :=
  match searchJumps reg with
  | .ok _ => .ok ()
  | .error (some e) => .error e
  -- Never taken: the search does not run out of fuel.
  | .error none => .error (.jumpCycle "")

def checkPipelineTerminates (reg : KernelRegistry E) : Except VerifyError Unit :=
  checkAll (fun (pid, pipeline) =>
    let canTerminate := pipeline.hooks.any fun hookId =>
      match reg.hooks[hookId]? with
      | none => false
      | some spec => spec.mayTerminate || (spec.mayJump && !spec.mayJumpTo.isEmpty)
    reject (!canTerminate) (.pipelineDoesNotTerminate pid))
    reg.pipelines.toList

/-! ## Metadata keys and namespaces -/

def verdictNamespaces : List String := ["policy", "auth"]

def metadataNamespaces : List String := ["net", "transport", "policy", "auth", "trace", "ext"]

def head (key : String) : String := (splitDots key).headD ""

def patternHead (pattern : String) : Option String :=
  (pattern.dropSuffix? ".*").map fun rest => rest.toString

def nsCovers (patterns : List String) (key : String) : Bool :=
  patterns.any fun pattern =>
    match patternHead pattern with
    | none => false
    | some head =>
      match key.dropPrefix? head with
      | none => false
      | some rest => rest.startsWith '.'

def isValidNamespacePattern (pattern : String) : Bool :=
  match patternHead pattern with
  | none => false
  | some head => metadataNamespaces.contains head

def isValidMetadataKey (key : String) : Bool :=
  match splitDots key with
  | head :: part :: parts =>
    metadataNamespaces.contains head && (part :: parts).all fun part =>
      part ≠ "" && (utf8 part).all fun b => isAsciiAlphanumeric b || b = 95
  | _ => false

def checkMetadataKey (owner key : String) : Except VerifyError Unit :=
  reject (!isValidMetadataKey key) (.invalidMetadataKey owner key)

def checkMetadataKeys (reg : KernelRegistry E) : Except VerifyError Unit := do
  checkAll (fun (sourceId, source) =>
    checkAll (checkMetadataKey ("source:" ++ sourceId)) source.initialWrites)
    reg.sources.toList
  checkAll (fun (hookId, spec) =>
    checkAll (checkMetadataKey ("hook:" ++ hookId)) (spec.reads ++ spec.writes))
    reg.hooks.toList

def checkNamespacePatterns (reg : KernelRegistry E) : Except VerifyError Unit :=
  checkAll (fun (hookId, spec) =>
    checkAll (fun pattern =>
      reject (!isValidNamespacePattern pattern) (.invalidNamespacePattern hookId pattern))
      spec.allowedNamespaces)
    reg.hooks.toList

def checkHookRules (pid : PipelineId) (hookId : HookId) (spec : HookSpec)
    (available : List String) : Except VerifyError Unit := do
  reject (spec.kind = .policy && spec.reads.contains "net.payload")
    (.policyReadsPayload pid hookId)
  checkAll (fun key => reject (!nsCovers spec.allowedNamespaces key)
    (.namespaceViolation pid hookId key "write")) spec.writes
  checkAll (fun key => reject (!nsCovers spec.allowedNamespaces key)
    (.namespaceViolation pid hookId key "read")) spec.reads
  checkAll (fun key => reject (spec.sideEffectOnly && verdictNamespaces.contains (head key))
    (.sideEffectMutatesVerdict pid hookId key)) spec.writes
  checkAll (fun key => reject (!available.contains key) (.unsatisfiedRead pid hookId key))
    spec.reads

def checkHooksInOrder (reg : KernelRegistry E) (pid : PipelineId) :
    List String → List HookId → Except VerifyError Unit
  | _, [] => .ok ()
  | available, hookId :: rest =>
    match reg.hooks[hookId]? with
    | none => checkHooksInOrder reg pid available rest
    | some spec => do
        checkHookRules pid hookId spec available
        checkHooksInOrder reg pid (available ++ spec.writes) rest

def initiallyAvailable (reg : KernelRegistry E) (pid : PipelineId) : List String :=
  ((reg.wirings.filter fun wiring => wiring.pipeline = pid).filterMap fun wiring =>
    reg.sources[wiring.source]?).flatMap SourceSpec.initialWrites

def checkNamespaceRules (reg : KernelRegistry E) : Except VerifyError Unit :=
  checkAll (fun (pid, pipeline) =>
    checkHooksInOrder reg pid (initiallyAvailable reg pid) pipeline.hooks)
    reg.pipelines.toList

def verify (reg : KernelRegistry E) : Except VerifyError Unit := do
  checkRegistryIdentities reg
  checkIdShapes reg
  checkSpecKinds reg
  checkWiringsExist reg
  checkHooksExist reg
  checkAcceptDeclarations reg
  checkSinkTargets reg
  checkJumpDeclarations reg
  checkJumpTargets reg
  checkJumpDag reg
  checkPipelineTerminates reg
  checkMetadataKeys reg
  checkNamespacePatterns reg
  checkNamespaceRules reg
  checkHookFns reg

end MeshBus.Kernel
