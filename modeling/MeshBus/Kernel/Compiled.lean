import Mathlib.Data.List.GetD
import MeshBus.Kernel.Graph

/-!
# Compiled pipelines

`CompiledKernel::from_registry` numbers the hooks and the pipelines in the order
of their ids and replaces each reference by a 32-bit slot; the compiled run then
goes from slot to slot.  A slot is the position modulo `2 ^ 32`.
-/

namespace MeshBus.Kernel

open Lib List Std.TreeMap UInt32
variable {E : Type}

/-! ## Compilation -/

def intern (ids : List String) : Std.TreeMap String UInt32 × List String :=
  (.ofList (ids.zipIdx.map fun (id, i) => (id, ofNat i)), ids)

structure CompiledPipeline where
  id : PipelineId
  hooks : List UInt32

structure CompiledKernel (E : Type) where
  hookSlots : Std.TreeMap HookId UInt32
  pipelineSlots : Std.TreeMap PipelineId UInt32
  compiledHooks : List (CompiledHook E)
  compiledPipelines : List CompiledPipeline

open CompiledKernel

/-- Why no kernel comes out: an error is returned, or an `expect` panics. -/
inductive BuildFailure
  | rejected (e : VerifyError)
  | panicked (message : String)
  deriving DecidableEq

def expect {α : Type} (value : Option α) (message : String) : Except BuildFailure α :=
  match value with
  | some a => .ok a
  | none => .error (.panicked message)

def compileHook (reg : KernelRegistry E) (hid : HookId) :
    Except BuildFailure (CompiledHook E) := do
  let spec ← expect reg.hooks[hid]? "verify() guarantees hook spec"
  let f ← expect reg.fns[hid]? "verify() guarantees hook fn"
  return ⟨hid, f, spec.mayAcceptTo, spec.mayJumpTo⟩

def compilePipeline (reg : KernelRegistry E) (hookSlots : Std.TreeMap HookId UInt32)
    (pid : PipelineId) : Except BuildFailure CompiledPipeline := do
  let pipeline ← expect reg.pipelines[pid]? "verify() guarantees pipeline"
  let hooks ← pipeline.hooks.mapM fun hid =>
    expect hookSlots[hid]? "verify() guarantees pipeline hook registered"
  return ⟨pid, hooks⟩

namespace CompiledKernel

def fromRegistry (reg : KernelRegistry E) : Except BuildFailure (CompiledKernel E) :=
  match verify reg with
  | .error e => .error (.rejected e)
  | .ok () => do
      let (hookSlots, hookIds) := intern reg.hooks.keys
      let (pipelineSlots, pipelineIds) := intern reg.pipelines.keys
      let compiledHooks ← hookIds.mapM (compileHook reg)
      let compiledPipelines ← pipelineIds.mapM (compilePipeline reg hookSlots)
      return { hookSlots, pipelineSlots, compiledHooks, compiledPipelines }

/-! ## The compiled run -/

/-- The loop over the hooks of a pipeline; `none` is an index out of bounds. -/
def runHooks (k : CompiledKernel E) :
    List UInt32 → E → KernelCtx → Option (HooksEnd × E × KernelCtx)
  | [], event, ctx => some (.fellOff, event, ctx)
  | slot :: rest, event, ctx =>
    match k.compiledHooks[slot.toNat]? with
    | none => none
    | some hook =>
      match hook.call event ctx with
      | (.error e, event, ctx) => some (.returned (.error e), event, ctx)
      | (.ok .continue, event, ctx) => k.runHooks rest event ctx
      | (.ok (.jump target), event, ctx) => some (.jumped target, event, ctx)
      | (.ok terminal, event, ctx) => some (.returned (.ok terminal), event, ctx)

def runFrom (k : CompiledKernel E) :
    Nat → PipelineId → E → KernelCtx → Option (RunResult E KernelCtx)
  | 0, _, event, ctx => some (.error .jumpDepthExceeded, event, ctx)
  | fuel + 1, current, event, ctx =>
    match k.pipelineSlots[current]? with
    | none => some (.error (.unknownPipeline current), event, ctx)
    | some slot =>
      match k.compiledPipelines[slot.toNat]? with
      | none => none
      | some pipeline =>
        match k.runHooks pipeline.hooks event ctx with
        | none => none
        | some (.returned result, event, ctx) => some (result, event, ctx)
        | some (.jumped target, event, ctx) => k.runFrom fuel target event ctx
        | some (.fellOff, event, ctx) => some (.error (.fellOffEnd current), event, ctx)

def runPipeline (k : CompiledKernel E) (entry : PipelineId) (event : E) (ctx : KernelCtx) :
    Option (RunResult E KernelCtx) :=
  k.runFrom (maxJumpDepth + 1) entry event ctx

/-! ## The graph behind the slots -/

/-- Every slot of the pipelines points to these hooks, in the same order. -/
def Bound (k : CompiledKernel E) (slots : List UInt32) (hooks : List (CompiledHook E)) : Prop :=
  List.Forall₂ (fun slot hook => k.compiledHooks[slot.toNat]? = some hook) slots hooks

/-- What a pipeline's slot leads to. -/
inductive Leads (k : CompiledKernel E) (pid : PipelineId) : Option (List (CompiledHook E)) → Prop
  | unknown (h : k.pipelineSlots[pid]? = none) : Leads k pid none
  | hooks {slot pipeline hooks} (hslot : k.pipelineSlots[pid]? = some slot)
      (hpipeline : k.compiledPipelines[slot.toNat]? = some pipeline)
      (hbound : k.Bound pipeline.hooks hooks) : Leads k pid (some hooks)

lemma runHooks_eq {k : CompiledKernel E}
    (hbound : k.Bound slots hooks) (event : E) (ctx : KernelCtx) :
    k.runHooks slots event ctx = some (Kernel.runHooks CompiledHook.call hooks event ctx) := by
  induction hbound generalizing event ctx with
  | nil => rfl
  | @cons slot hook slots hooks hslot _ ih =>
    rw [runHooks, Kernel.runHooks, hslot]
    dsimp only
    obtain ⟨result, event', ctx'⟩ := hook.call event ctx
    cases result with
    | error e => rfl
    | ok verdict =>
      cases verdict with
      | «continue» => exact ih event' ctx'
      | _ => rfl

lemma runPipeline_eq {k : CompiledKernel E} {graph : Graph E}
    (hleads : ∀ pid, k.Leads pid (graph pid)) (entry : PipelineId) (event : E)
    (ctx : KernelCtx) : k.runPipeline entry event ctx = some (graph.run entry event ctx) := by
  unfold runPipeline Graph.run
  generalize maxJumpDepth + 1 = fuel
  induction fuel generalizing entry event ctx with
  | zero => rfl
  | succ fuel ih =>
    have hentry := hleads entry
    rw [runFrom, Kernel.runFrom]
    generalize graph entry = found at hentry ⊢
    cases hentry with
    | unknown h => rw [h]
    | @hooks slot pipeline hooks hslot hpipe hbound =>
      rw [hslot]
      dsimp only
      rw [hpipe]
      dsimp only
      rw [runHooks_eq hbound]
      obtain ⟨outcome, event', ctx'⟩ := Kernel.runHooks CompiledHook.call hooks event ctx
      cases outcome with
      | jumped target => exact ih target event' ctx'
      | _ => rfl

end CompiledKernel

/-! ## Slots -/

def slotSpan : Nat := 2 ^ 32

/-- The id found where the slot of `id` points. -/
def slotMate (ids : List String) (id : String) : String :=
  ids.getD (ids.idxOf id % slotSpan) id

variable {ids : List String} {id : String}

lemma idxOf_mod_lt (h : id ∈ ids) : ids.idxOf id % slotSpan < ids.length :=
  lt_of_le_of_lt (Nat.mod_le _ _) (idxOf_lt_length_of_mem h)

lemma getElem?_slot (h : id ∈ ids) : ids[ids.idxOf id % slotSpan]? = some (slotMate ids id) := by
  have hlt := idxOf_mod_lt h
  rw [slotMate, getD_eq_getElem _ _ hlt, getElem?_eq_getElem hlt]

lemma slotMate_mem (h : id ∈ ids) : slotMate ids id ∈ ids :=
  List.mem_of_getElem? (getElem?_slot h)

lemma idxOf_slotMate (hnodup : ids.Nodup) (h : id ∈ ids) :
    ids.idxOf (slotMate ids id) = ids.idxOf id % slotSpan := by
  have hlt := idxOf_mod_lt h
  rw [slotMate, getD_eq_getElem _ _ hlt]
  exact hnodup.idxOf_getElem _ hlt

lemma slotMate_eq_iff (hnodup : ids.Nodup) (h : id ∈ ids) :
    slotMate ids id = id ↔ ids.idxOf id < slotSpan := by
  constructor
  · intro heq
    have hidx := idxOf_slotMate hnodup h
    rw [heq] at hidx
    rw [hidx]
    exact Nat.mod_lt _ (Nat.two_pow_pos 32)
  · intro hlt
    have hget := getElem?_slot h
    rw [Nat.mod_eq_of_lt hlt, getElem?_eq_getElem (idxOf_lt_length_of_mem h), getElem_idxOf] at hget
    exact (Option.some.inj hget).symm

lemma intern_getElem? (hnodup : ids.Nodup) (h : id ∈ ids) :
    (intern ids).1[id]? = some (ofNat (ids.idxOf id)) := by
  refine getElem?_ofList_of_mem (k := id) Std.ReflCmp.compare_self ?_ ?_
  · rw [pairwise_map]
    have hpairs : (ids.zipIdx.map Prod.fst).Nodup := by rwa [zipIdx_map_fst]
    refine (pairwise_map.mp hpairs).imp fun hne => ?_
    simpa [Std.LawfulEqCmp.compare_eq_iff_eq] using hne
  · refine mem_map.mpr ⟨(id, ids.idxOf id), ?_, rfl⟩
    rw [mem_zipIdx_iff_getElem?]
    rw [getElem?_eq_getElem (idxOf_lt_length_of_mem h), getElem_idxOf]

lemma intern_getElem?_none (h : id ∉ ids) : (intern ids).1[id]? = none := by
  refine getElem?_ofList_of_contains_eq_false ?_
  have hfst : (Prod.fst ∘ fun x : String × Nat => (x.1, ofNat x.2)) = Prod.fst := rfl
  simpa [hfst, zipIdx_map_fst] using h

/-! ## What compilation produces -/

lemma mapM_ok {f : α → Except ε β} {P : α → β → Prop} {as : List α}
    (h : ∀ a ∈ as, ∃ b, f a = .ok b ∧ P a b) : ∃ bs, as.mapM f = .ok bs ∧ List.Forall₂ P as bs := by
  induction as with
  | nil => exact ⟨[], rfl, .nil⟩
  | cons a as ih =>
    obtain ⟨b, hb, hP⟩ := h a mem_cons_self
    obtain ⟨bs, hbs, hall⟩ := ih fun a ha => h a (mem_cons_of_mem _ ha)
    refine ⟨b :: bs, ?_, .cons hP hall⟩
    rw [mapM_cons, hb, hbs]
    rfl

lemma forall₂_getElem? {P : α → β → Prop} {as : List α} {bs : List β}
    (h : List.Forall₂ P as bs) {i : Nat} {a : α} (ha : as[i]? = some a) :
    ∃ b, bs[i]? = some b ∧ P a b := by
  induction h generalizing i with
  | nil => simp at ha
  | cons hP _ ih =>
    cases i with
    | zero =>
      simp only [getElem?_cons_zero, Option.some.injEq] at ha ⊢
      exact ⟨_, rfl, ha ▸ hP⟩
    | succ i =>
      exact ih ha

/-- The tables of a compiled kernel, against the registry. -/
structure Compiles (reg : KernelRegistry E) (k : CompiledKernel E) : Prop where
  hookSlots : k.hookSlots = (intern reg.hooks.keys).1
  pipelineSlots : k.pipelineSlots = (intern reg.pipelines.keys).1
  compiledHooks : List.Forall₂ (fun hid hook => reg.bound hid = some hook)
    reg.hooks.keys k.compiledHooks
  compiledPipelines : List.Forall₂ (fun pid (compiled : CompiledPipeline) =>
    ∃ pipeline, reg.pipelines[pid]? = some pipeline ∧
      List.Forall₂ (fun hid slot => k.hookSlots[hid]? = some slot) pipeline.hooks compiled.hooks)
    reg.pipelines.keys k.compiledPipelines

variable {reg : KernelRegistry E}

def KernelRegistry.HasFns (reg : KernelRegistry E) : Prop := ∀ hid ∈ reg.hooks, hid ∈ reg.fns

lemma compileHook_ok (hfns : reg.HasFns) :
    ∀ hid ∈ reg.hooks.keys, ∃ hook,
      compileHook reg hid = .ok hook ∧ reg.bound hid = some hook := by
  intro hid hmem
  have hhook := mem_keys.mp hmem
  obtain ⟨spec, hspec⟩ := getElem?_of_mem hhook
  obtain ⟨f, hf⟩ := getElem?_of_mem (hfns hid hhook)
  refine ⟨⟨hid, f, spec.mayAcceptTo, spec.mayJumpTo⟩, ?_, ?_⟩
  · simp only [compileHook, hspec, hf]
    rfl
  · simp [KernelRegistry.bound, hspec, hf]

lemma compilePipeline_ok (hv : Verified reg) :
    ∀ pid ∈ reg.pipelines.keys, ∃ compiled,
      compilePipeline reg (intern reg.hooks.keys).1 pid = .ok compiled ∧
      ∃ pipeline, reg.pipelines[pid]? = some pipeline ∧
        List.Forall₂ (fun hid slot => (intern reg.hooks.keys).1[hid]? = some slot)
          pipeline.hooks compiled.hooks := by
  intro pid hmem
  obtain ⟨pipeline, hpipe⟩ := getElem?_of_mem (mem_keys.mp hmem)
  have hslots : ∀ hid ∈ pipeline.hooks, ∃ slot,
      expect (intern reg.hooks.keys).1[hid]? "verify() guarantees pipeline hook registered" =
        .ok slot ∧ (intern reg.hooks.keys).1[hid]? = some slot := by
    intro hid hhid
    have hkey := mem_keys.mpr (hv.hook_spec pid hid ⟨pipeline, hpipe, hhid⟩)
    have hslot := intern_getElem? nodup_keys hkey
    exact ⟨_, by rw [hslot]; rfl, hslot⟩
  obtain ⟨slots, hmapped, hall⟩ := mapM_ok hslots
  refine ⟨⟨pid, slots⟩, ?_, pipeline, hpipe, hall⟩
  unfold compilePipeline
  rw [hpipe]
  show (pipeline.hooks.mapM (m := Except BuildFailure) _ >>= _) = _
  rw [hmapped]
  rfl

lemma fromRegistry_ok (hvfy : verify reg = .ok ()) (hfns : reg.HasFns) :
    ∃ k, fromRegistry reg = .ok k ∧ Compiles reg k := by
  obtain ⟨hooks, hhooks, hbound⟩ := mapM_ok (compileHook_ok hfns)
  obtain ⟨pipelines, hpip, hcomp⟩ := mapM_ok (compilePipeline_ok (verified_of_verify hvfy))
  refine ⟨⟨(intern reg.hooks.keys).1, (intern reg.pipelines.keys).1, hooks, pipelines⟩, ?_,
    ⟨rfl, rfl, hbound, hcomp⟩⟩
  unfold fromRegistry
  rw [hvfy]
  show (reg.hooks.keys.mapM (compileHook reg) >>= fun _ =>
    reg.pipelines.keys.mapM (compilePipeline reg (intern reg.hooks.keys).1) >>= fun _ => _) = _
  rw [hhooks, hpip]
  rfl

/-! ## The compiled graph -/

/-- The graph the slots span: a pipeline runs the hooks of its slot mate, each
replaced by its own. -/
def compiledGraph (reg : KernelRegistry E) : Graph E := fun pid =>
  if pid ∈ reg.pipelines then
    reg.pipelines[slotMate reg.pipelines.keys pid]?.map fun pipeline =>
      (pipeline.hooks.map (slotMate reg.hooks.keys)).filterMap reg.bound
  else none

lemma bound_slots (hk : Compiles reg k) (hmem : ∀ hid ∈ hids, hid ∈ reg.hooks)
    (hslots : List.Forall₂ (fun hid slot => k.hookSlots[hid]? = some slot) hids slots) :
    k.Bound slots ((hids.map (slotMate reg.hooks.keys)).filterMap reg.bound) := by
  induction hslots with
  | nil => exact .nil
  | @cons hid slot hids slots hslot _ ih =>
    have hkey := mem_keys.mpr (hmem hid mem_cons_self)
    obtain ⟨hook, hhook, hbound⟩ := forall₂_getElem? hk.compiledHooks (getElem?_slot hkey)
    rw [hk.hookSlots, intern_getElem? nodup_keys hkey, Option.some.injEq] at hslot
    rw [map_cons, filterMap_cons_some hbound]
    refine .cons ?_ (ih fun hid hhid => hmem hid (mem_cons_of_mem _ hhid))
    rw [← hslot]
    exact hhook

lemma leads_compiledGraph (hv : Verified reg) (hk : Compiles reg k)
    (pid : PipelineId) : k.Leads pid (compiledGraph reg pid) := by
  unfold compiledGraph
  split
  · rename_i hmem
    have hkey := mem_keys.mpr hmem
    obtain ⟨compiled, hcomp, pipeline, hpipe, hslots⟩ :=
      forall₂_getElem? hk.compiledPipelines (getElem?_slot hkey)
    rw [hpipe]
    refine .hooks (hk.pipelineSlots ▸ intern_getElem? nodup_keys hkey)
      (by rw [toNat_ofNat']; exact hcomp) (bound_slots hk ?_ hslots)
    exact fun hid hhid => hv.hook_spec _ hid ⟨pipeline, hpipe, hhid⟩
  · rename_i hmem
    refine .unknown ?_
    rw [hk.pipelineSlots]
    exact intern_getElem?_none fun hkey => hmem (mem_keys.mp hkey)

lemma compiledRun_eq (hv : Verified reg) (hk : Compiles reg k)
    (entry : PipelineId) (event : E) (ctx : KernelCtx) :
    k.runPipeline entry event ctx = some ((compiledGraph reg).run entry event ctx) :=
  runPipeline_eq (leads_compiledGraph hv hk) entry event ctx

end MeshBus.Kernel
