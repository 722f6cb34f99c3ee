import Mathlib.Data.List.Forall2
import MeshBus.Kernel.Pipeline
import MeshBus.Kernel.Verified

/-!
# Pipelines as a graph of bound hooks

What both interpreters compute, without their tables: each pipeline is the list
of its hooks, each hook with its function and its declared targets.  On a
verified registry the interpreter that looks every id up runs this graph.
-/

namespace MeshBus.Kernel

open Lib List Option Std.TreeMap

/-! ## Runs in lock step -/

section
variable {H H' E E' C C' : Type} {S : E → C → E' → C' → Prop}

def Related {α : Type} (S : E → C → E' → C' → Prop) (r : α × E × C) (r' : α × E' × C') :
    Prop :=
  r.1 = r'.1 ∧ S r.2.1 r.2.2 r'.2.1 r'.2.2

lemma runHooks_related
    (hstep : ∀ hook hook' event ctx event' ctx', R hook hook' → S event ctx event' ctx' →
      Related S (resolve hook event ctx) (resolve' hook' event' ctx'))
    (hhooks : List.Forall₂ R hooks hooks') (hs : S event ctx event' ctx') :
    Related S (runHooks resolve hooks event ctx) (runHooks resolve' hooks' event' ctx') := by
  induction hhooks generalizing event ctx event' ctx' with
  | nil => exact ⟨rfl, hs⟩
  | @cons hook hook' rest rest' hR _ ih =>
    have hcall := hstep hook hook' event ctx event' ctx' hR hs
    rw [runHooks, runHooks]
    generalize resolve hook event ctx = r at hcall ⊢
    generalize resolve' hook' event' ctx' = r' at hcall ⊢
    obtain ⟨result, event, ctx⟩ := r
    obtain ⟨result', event', ctx'⟩ := r'
    obtain ⟨rfl, hS⟩ := hcall
    cases result with
    | error e => exact ⟨rfl, hS⟩
    | ok verdict =>
      cases verdict with
      | «continue» => exact ih hS
      | _ => exact ⟨rfl, hS⟩

lemma runFrom_related
    (hstep : ∀ hook hook' event ctx event' ctx', R hook hook' → S event ctx event' ctx' →
      Related S (resolve hook event ctx) (resolve' hook' event' ctx'))
    (hhooks : ∀ pid, Option.Rel (List.Forall₂ R) (hooksOf pid) (hooksOf' pid))
    (fuel : Nat) (current : PipelineId) (hs : S event ctx event' ctx') :
    Related S (runFrom resolve hooksOf fuel current event ctx)
      (runFrom resolve' hooksOf' fuel current event' ctx') := by
  induction fuel generalizing current event ctx event' ctx' with
  | zero => exact ⟨rfl, hs⟩
  | succ fuel ih =>
    have hcurr := hhooks current
    rw [runFrom, runFrom]
    generalize hooksOf current = found at hcurr ⊢
    generalize hooksOf' current = found' at hcurr ⊢
    cases hcurr with
    | none => exact ⟨rfl, hs⟩
    | @some hooks hooks' hlists =>
      have hloop := runHooks_related hstep hlists hs
      dsimp only
      generalize runHooks resolve hooks event ctx = r at hloop ⊢
      generalize runHooks resolve' hooks' event' ctx' = r' at hloop ⊢
      obtain ⟨result, event, ctx⟩ := r
      obtain ⟨result', event', ctx'⟩ := r'
      obtain ⟨rfl, hS⟩ := hloop
      cases result with
      | jumped target => exact ih target hS
      | _ => exact ⟨rfl, hS⟩

end

/-! ## The graph of a registry -/

variable {E : Type}

/-- One hook with its function and its declared targets. -/
structure CompiledHook (E : Type) where
  id : HookId
  f : HookFn E
  mayAcceptTo : List SinkId
  mayJumpTo : List PipelineId

open CompiledHook

def CompiledHook.call (hook : CompiledHook E) : E → KernelCtx → RunResult E KernelCtx :=
  callHook hook.id hook.f hook.mayAcceptTo hook.mayJumpTo

abbrev Graph (E : Type) := PipelineId → Option (List (CompiledHook E))

def Graph.run (graph : Graph E) (entry : PipelineId) (event : E) (ctx : KernelCtx) :
    RunResult E KernelCtx :=
  runFrom call graph (maxJumpDepth + 1) entry event ctx

def KernelRegistry.bound (reg : KernelRegistry E) (hookId : HookId) :
    Option (CompiledHook E) := do
  let spec ← reg.hooks[hookId]?
  let f ← reg.fns[hookId]?
  return ⟨hookId, f, spec.mayAcceptTo, spec.mayJumpTo⟩

open KernelRegistry

def KernelRegistry.graph (reg : KernelRegistry E) : Graph E := fun pid =>
  reg.pipelines[pid]?.map fun pipeline => pipeline.hooks.filterMap reg.bound

variable {reg : KernelRegistry E}

lemma bound_eq_some (h : reg.bound hookId = some hook) :
    hook.id = hookId ∧ reg.fns[hookId]? = some hook.f ∧ ∃ spec, reg.hooks[hookId]? = some spec ∧
      hook.mayAcceptTo = spec.mayAcceptTo ∧ hook.mayJumpTo = spec.mayJumpTo := by
  simp only [bound, bind, bind_eq_some_iff, pure, Option.some.injEq] at h
  obtain ⟨spec, hspec, f, hf, rfl⟩ := h
  exact ⟨rfl, hf, spec, hspec, rfl, rfl⟩

lemma bound_of_uses (hv : Verified reg) (huses : reg.Uses pid hookId) :
    ∃ spec f, reg.hooks[hookId]? = some spec ∧ reg.fns[hookId]? = some f ∧
      reg.bound hookId = some ⟨hookId, f, spec.mayAcceptTo, spec.mayJumpTo⟩ := by
  obtain ⟨spec, hspec⟩ := getElem?_of_mem (hv.hook_spec pid hookId huses)
  obtain ⟨f, hf⟩ := getElem?_of_mem (hv.hook_fn pid hookId huses)
  exact ⟨spec, f, hspec, hf, by simp [bound, hspec, hf]⟩

lemma find?_valuesOf (hv : Verified reg) :
    (valuesOf reg.pipelines).find? (fun pipeline => pipeline.id = pid) = reg.pipelines[pid]? := by
  have hmem : ∀ pipeline ∈ valuesOf reg.pipelines,
      pipeline.id = pid ↔ reg.pipelines[pid]? = some pipeline := by
    intro pipeline hpipe
    obtain ⟨⟨id, _⟩, hentry, rfl⟩ := mem_map.mp hpipe
    have hget := mem_toList_iff_getElem?_eq_some.mp hentry
    constructor
    · intro hid
      rw [← hid, hv.pipeline_id id _ hget, hget]
    · exact hv.pipeline_id pid _
  cases hfind : (valuesOf reg.pipelines).find? fun pipeline => pipeline.id = pid with
  | some pipeline =>
    have hid : pipeline.id = pid := by simpa using find?_some hfind
    exact ((hmem pipeline (mem_of_find?_eq_some hfind)).mp hid).symm
  | none =>
    cases hget : reg.pipelines[pid]? with
    | none => rfl
    | some pipeline =>
      have hin : pipeline ∈ valuesOf reg.pipelines := mem_map.mpr
        ⟨(pid, pipeline), mem_toList_iff_getElem?_eq_some.mpr hget, rfl⟩
      have hne := find?_eq_none.mp hfind pipeline hin
      simp [hv.pipeline_id pid pipeline hget] at hne

lemma forall₂_filterMap (f : α → Option β) (h : ∀ a ∈ as, (f a).isSome) :
    List.Forall₂ (fun a b => f a = some b) as (as.filterMap f) := by
  induction as with
  | nil => exact .nil
  | cons a as ih =>
    obtain ⟨b, hb⟩ := isSome_iff_exists.mp (h a mem_cons_self)
    rw [filterMap_cons_some hb]
    exact .cons hb (ih fun a ha => h a (mem_cons_of_mem _ ha))

lemma bound_isSome (hv : Verified reg) {pid : PipelineId}
    (hpipe : reg.pipelines[pid]? = some pipeline) :
    ∀ hookId ∈ pipeline.hooks, (reg.bound hookId).isSome := by
  intro hookId hmem
  obtain ⟨_, _, _, _, hbound⟩ := bound_of_uses hv ⟨pipeline, hpipe, hmem⟩
  rw [hbound]
  rfl

lemma map_id_bound {hids : List HookId} (h : ∀ hid ∈ hids, (reg.bound hid).isSome) :
    (hids.filterMap reg.bound).map CompiledHook.id = hids := by
  induction hids with
  | nil => rfl
  | cons hid hids ih =>
    obtain ⟨hook, hbound⟩ := isSome_iff_exists.mp (h hid mem_cons_self)
    rw [filterMap_cons_some hbound, map_cons, (bound_eq_some hbound).1,
      ih fun hid hhid => h hid (mem_cons_of_mem _ hhid)]

lemma runPipelineWithRegistry_eq (hv : Verified reg) (pid : PipelineId) (event : E)
    (ctx : KernelCtx) :
    runPipelineWithRegistry reg pid event ctx = reg.graph.run pid event ctx := by
  have hrel : Related (fun event ctx event' ctx' => event = event' ∧ ctx = ctx')
      (runPipelineWithRegistry reg pid event ctx) (reg.graph.run pid event ctx) := by
    refine runFrom_related (R := fun hookId hook => reg.bound hookId = some hook) ?_ ?_ _ _
      ⟨rfl, rfl⟩
    · rintro hookId hook event ctx _ _ hbound ⟨rfl, rfl⟩
      obtain ⟨hid, hf, spec, hspec, haccept, hjump⟩ := bound_eq_some hbound
      simp only [resolveHook, hspec, hf, call, hid, haccept, hjump]
      exact ⟨rfl, rfl, rfl⟩
    · intro pid
      rw [find?_valuesOf hv, graph]
      cases hpipe : reg.pipelines[pid]? with
      | none => exact .none
      | some pipeline => exact .some (forall₂_filterMap reg.bound (bound_isSome hv hpipe))
  exact Prod.ext hrel.1 (Prod.ext hrel.2.1 hrel.2.2)

/-! ## What a run executes -/

abbrev HookLog := List (HookId × Verdict)

/-- A hook function that notes each of its calls next to the event. -/
def logged (hookId : HookId) (f : HookFn E) : HookFn (E × HookLog) := fun event ctx =>
  match f event.1 ctx with
  | (verdict, event', ctx) => (verdict, (event', event.2 ++ [(hookId, verdict)]), ctx)

def KernelRegistry.logged (reg : KernelRegistry E) : KernelRegistry (E × HookLog) :=
  reg.withFns (reg.fns.map Kernel.logged)

def executed (reg : KernelRegistry E) (pid : PipelineId) (event : E) (ctx : KernelCtx) :
    HookLog :=
  (runPipelineWithRegistry reg.logged pid (event, []) ctx).2.1.2

lemma Verified.logged (hv : Verified reg) : Verified reg.logged where
  pipeline_id := hv.pipeline_id
  wired := hv.wired
  hook_spec := hv.hook_spec
  hook_fn := fun pid hid huses => mem_map.mpr (hv.hook_fn pid hid huses)
  jump_target := hv.jump_target
  order := hv.order

def SameButLog (event : E × HookLog) (ctx : KernelCtx) (event' : E) (ctx' : KernelCtx) : Prop :=
  event.1 = event' ∧ ctx = ctx'

lemma resolveHook_logged (hookId : HookId) {event : E × HookLog} {ctx : KernelCtx} :
    Related SameButLog (resolveHook reg.logged hookId event ctx)
      (resolveHook reg hookId event.1 ctx) := by
  unfold resolveHook
  have hfns : reg.logged.fns[hookId]? = reg.fns[hookId]?.map (Kernel.logged hookId) := getElem?_map
  have hhooks : reg.logged.hooks = reg.hooks := rfl
  rw [hfns, hhooks]
  cases reg.hooks[hookId]? with
  | none => exact ⟨rfl, rfl, rfl⟩
  | some spec =>
    cases reg.fns[hookId]? with
    | none => exact ⟨rfl, rfl, rfl⟩
    | some f =>
      simp only [map_some, callHook, Kernel.logged]
      generalize f event.1 ctx = r
      obtain ⟨verdict, event', ctx'⟩ := r
      cases checkTargets hookId spec.mayAcceptTo spec.mayJumpTo verdict with
      | _ => exact ⟨rfl, rfl, rfl⟩

lemma run_logged (reg : KernelRegistry E) (pid : PipelineId) (event : E) (log : HookLog)
    (ctx : KernelCtx) :
    Related SameButLog (runPipelineWithRegistry reg.logged pid (event, log) ctx)
      (runPipelineWithRegistry reg pid event ctx) := by
  refine runFrom_related (R := Eq) ?_ ?_ _ _ ⟨rfl, rfl⟩
  · rintro hookId _ event ctx _ _ rfl ⟨rfl, rfl⟩
    exact resolveHook_logged hookId
  · intro pid
    show Option.Rel _ (((valuesOf reg.pipelines).find? fun p => p.id = pid).map _) _
    cases (valuesOf reg.pipelines).find? fun p => p.id = pid with
    | none => exact .none
    | some pipeline => exact .some (forall₂_same.mpr fun _ _ => rfl)

end MeshBus.Kernel
