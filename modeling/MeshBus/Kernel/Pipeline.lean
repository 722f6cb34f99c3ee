import MeshBus.Kernel.Registry

/-!
# Running a pipeline

A pipeline runs its hooks in order until one of them jumps to another pipeline
or ends the run.  `runPipeline` is generic in what it calls for a hook;
`runPipelineWithRegistry` calls the registered function and checks its verdict
against the targets the hook has declared.
-/

namespace MeshBus.Kernel

def maxJumpDepth : Nat := 32

inductive PipelineRunError
  | unknownHook (hook : String)
  | unknownPipeline (pipeline : String)
  | fellOffEnd (pipeline : String)
  | jumpDepthExceeded
  | undeclaredAcceptTarget (hook sink : String)
  | undeclaredJumpTarget (hook pipeline : String)
  deriving Repr, DecidableEq

abbrev RunResult (E C : Type) := Except PipelineRunError Verdict × E × C

/-- How the loop over the hooks of one pipeline ends. -/
inductive HooksEnd
  | returned (result : Except PipelineRunError Verdict)
  | jumped (target : PipelineId)
  | fellOff
  deriving DecidableEq

section
variable {H E C : Type} (resolve : H → E → C → RunResult E C)

def runHooks : List H → E → C → HooksEnd × E × C
  | [], event, ctx => (.fellOff, event, ctx)
  | hook :: rest, event, ctx =>
    match resolve hook event ctx with
    | (.error e, event, ctx) => (.returned (.error e), event, ctx)
    | (.ok .continue, event, ctx) => runHooks rest event ctx
    | (.ok (.jump target), event, ctx) => (.jumped target, event, ctx)
    | (.ok terminal, event, ctx) => (.returned (.ok terminal), event, ctx)

/-- The outer loop, with room for `fuel - 1` more jumps. -/
def runFrom (hooksOf : PipelineId → Option (List H)) :
    Nat → PipelineId → E → C → RunResult E C
  | 0, _, event, ctx => (.error .jumpDepthExceeded, event, ctx)
  | fuel + 1, current, event, ctx =>
    match hooksOf current with
    | none => (.error (.unknownPipeline current), event, ctx)
    | some hooks =>
      match runHooks resolve hooks event ctx with
      | (.returned result, event, ctx) => (result, event, ctx)
      | (.jumped target, event, ctx) => runFrom hooksOf fuel target event ctx
      | (.fellOff, event, ctx) => (.error (.fellOffEnd current), event, ctx)

end

def runPipeline {E C : Type} (entry : PipelineId) (pipelines : List Pipeline) (event : E)
    (ctx : C) (resolve : HookId → E → C → RunResult E C) : RunResult E C :=
  let hooksOf current :=
    (pipelines.find? fun pipeline => pipeline.id = current).map Pipeline.hooks
  -- The loop stops once `jumps > MAX_JUMP_DEPTH`.
  runFrom resolve hooksOf (maxJumpDepth + 1) entry event ctx

variable {E : Type}

/-- Whether a verdict names only declared targets, and if not how the run fails. -/
def checkTargets (hookId : HookId) (mayAcceptTo : List SinkId) (mayJumpTo : List PipelineId) :
    Verdict → Except PipelineRunError Unit
  | .accept sink =>
    if mayAcceptTo.contains sink then .ok () else .error (.undeclaredAcceptTarget hookId sink)
  | .jump target =>
    if mayJumpTo.contains target then .ok () else .error (.undeclaredJumpTarget hookId target)
  | _ => .ok ()

def callHook (hookId : HookId) (f : HookFn E) (mayAcceptTo : List SinkId)
    (mayJumpTo : List PipelineId) (event : E) (ctx : KernelCtx) : RunResult E KernelCtx :=
  match f event ctx with
  | (verdict, event, ctx) =>
    match checkTargets hookId mayAcceptTo mayJumpTo verdict with
    | .error e => (.error e, event, ctx)
    | .ok () => (.ok verdict, event, ⟨ctx.hookTrace ++ [hookTraceRecord hookId verdict]⟩)

def resolveHook (reg : KernelRegistry E) (hookId : HookId) (event : E) (ctx : KernelCtx) :
    RunResult E KernelCtx :=
  match reg.hooks[hookId]? with
  | none => (.error (.unknownHook hookId), event, ctx)
  | some spec =>
    match reg.fns[hookId]? with
    | none => (.error (.unknownHook hookId), event, ctx)
    | some f => callHook hookId f spec.mayAcceptTo spec.mayJumpTo event ctx

def runPipelineWithRegistry (reg : KernelRegistry E) (pid : PipelineId) (event : E)
    (ctx : KernelCtx) : RunResult E KernelCtx :=
  runPipeline pid (valuesOf reg.pipelines) event ctx (resolveHook reg)

end MeshBus.Kernel
