import MeshBus.Kernel.Outcomes

/-!
# Are the keys a hook reads there?

Verification lets a hook of a pipeline read what any of the sources wired to
that pipeline writes.  A run starts at one source and may come to a pipeline by
a jump.  Its hooks find the keys they read exactly when every declared path from
the source supplies them.
-/

namespace MeshBus.Kernel

open Lib List Kernel Std.TreeMap
variable {E : Type}

/-! ## Paths -/

/-- The declared paths from a pipeline: with room for `fuel` more jumps, in the
pipeline `current`, the hooks called so far and those still ahead. -/
inductive Walk (reg : KernelRegistry E) (entry : PipelineId) :
    (fuel : Nat) → (current : PipelineId) → (called ahead : List HookId) → Prop
  | start {pipeline} (h : reg.pipelines[entry]? = some pipeline) :
      Walk reg entry maxJumpDepth entry [] pipeline.hooks
  | next {fuel current called hid ahead} (h : Walk reg entry fuel current called (hid :: ahead)) :
      Walk reg entry fuel current (called ++ [hid]) ahead
  | jump {fuel current called hid ahead spec target pipeline}
      (h : Walk reg entry (fuel + 1) current called (hid :: ahead))
      (hspec : reg.hooks[hid]? = some spec) (htarget : target ∈ spec.mayJumpTo)
      (hpipeline : reg.pipelines[target]? = some pipeline) :
      Walk reg entry fuel target (called ++ [hid]) pipeline.hooks

def Supplied (reg : KernelRegistry E) (source : SourceSpec) (called : List HookId)
    (hid : HookId) : Prop :=
  ∀ spec : HookSpec, reg.hooks[hid]? = some spec → ∀ key ∈ spec.reads,
    key ∈ source.initialWrites ∨
      ∃ earlier ∈ called, ∃ espec : HookSpec,
        reg.hooks[earlier]? = some espec ∧ key ∈ espec.writes

def PathsSupply (reg : KernelRegistry E) (source : SourceSpec) (entry : PipelineId) : Prop :=
  ∀ fuel current called hid ahead, Walk reg entry fuel current called (hid :: ahead) →
    Supplied reg source called hid

/-- Each of the calls, made in order after those in `called`, is supplied. -/
def CallsSupplied (reg : KernelRegistry E) (source : SourceSpec) :
    List HookId → HookLog → Prop
  | _, [] => True
  | called, call :: calls =>
    Supplied reg source called call.1 ∧ CallsSupplied reg source (called ++ [call.1]) calls

variable {reg : KernelRegistry E} {source : SourceSpec}

lemma callsSupplied_append :
    CallsSupplied reg source called (as ++ bs) ↔ CallsSupplied reg source called as ∧
      CallsSupplied reg source (called ++ as.map Prod.fst) bs := by
  induction as generalizing called with
  | nil => simp [CallsSupplied]
  | cons a as ih =>
    rw [cons_append, CallsSupplied, CallsSupplied, ih, map_cons, and_assoc,
      append_assoc, singleton_append]

lemma Walk.uses
    (h : Walk reg entry fuel current called ahead) : ∀ hid ∈ ahead, reg.Uses current hid := by
  induction h with
  | start hpipe => exact fun hid hmem => ⟨_, hpipe, hmem⟩
  | next _ ih => exact fun hid hmem => ih hid (mem_cons_of_mem _ hmem)
  | jump _ _ _ hpipe _ => exact fun hid hmem => ⟨_, hpipe, hmem⟩

lemma map_fst_passed (hids : List HookId) : (passed hids).map Prod.fst = hids := by
  simp [passed, Function.comp_def]

lemma Walk.through (pre : List HookId) (h : Walk reg entry fuel current called (pre ++ rest)) :
    Walk reg entry fuel current (called ++ pre) rest := by
  induction pre generalizing called with
  | nil => simpa using h
  | cons hid pre ih => simpa using ih (.next h)

/-! ## Sufficiency -/

section

lemma callsSupplied_passed (hall : PathsSupply reg source entry) (hids : List HookId)
    (h : Walk reg entry fuel current called (hids ++ rest)) :
    CallsSupplied reg source called (passed hids) := by
  induction hids generalizing called with
  | nil => trivial
  | cons hid hids ih => exact ⟨hall _ _ _ _ _ h, ih (.next h)⟩

lemma callsSupplied_stopped (hall : PathsSupply reg source entry) (verdict : Verdict)
    (h : Walk reg entry fuel current called (pre ++ hid :: post)) :
    CallsSupplied reg source called (passed pre ++ [(hid, verdict)]) := by
  rw [callsSupplied_append, map_fst_passed]
  exact ⟨callsSupplied_passed hall pre h, hall _ _ _ _ _ (h.through pre), trivial⟩

/-- The calls of a run from a point on a path are supplied.  With no fuel left
there is no such point, and no call. -/
lemma runFrom_supplied (hv : Verified reg) (hall : PathsSupply reg source entry)
    (hwalk : ∀ n, fuel = n + 1 → ∃ pipeline, reg.pipelines[current]? = some pipeline ∧
      Walk reg entry n current called pipeline.hooks) (event : E × HookLog) (ctx : KernelCtx) :
    ∃ calls,
      (runFrom CompiledHook.call reg.logged.graph fuel current event ctx).2.1.2 =
        event.2 ++ calls ∧ CallsSupplied reg source called calls := by
  induction fuel generalizing current called event ctx with
  | zero => exact ⟨[], (append_nil _).symm, trivial⟩
  | succ fuel ih =>
    obtain ⟨pipeline, hpipe, hwalk⟩ := hwalk fuel rfl
    have hran := runFrom_ran hv hpipe fuel event ctx
    generalize runFrom CompiledHook.call reg.logged.graph (fuel + 1) current event ctx = r
      at hran ⊢
    cases hran with
    | fellOff =>
      rw [← append_nil pipeline.hooks] at hwalk
      exact ⟨_, rfl, callsSupplied_passed hall _ hwalk⟩
    | undeclared hsplit _ _ =>
      rw [hsplit] at hwalk
      exact ⟨_, rfl, callsSupplied_stopped hall _ hwalk⟩
    | terminal hsplit _ =>
      rw [hsplit] at hwalk
      exact ⟨_, rfl, callsSupplied_stopped hall _ hwalk⟩
    | @jumped pre hid post spec target event' ctx' hsplit hspec htgt =>
      have huses : reg.Uses current hid := ⟨pipeline, hpipe, by rw [hsplit]; simp⟩
      have hreg := hv.jump_target current hid huses spec hspec target htgt
      obtain ⟨next, hnext⟩ := getElem?_of_mem hreg
      rw [hsplit] at hwalk
      have hgoesOn : ∀ n, fuel = n + 1 → ∃ pipeline, reg.pipelines[target]? = some pipeline ∧
          Walk reg entry n target (called ++ pre ++ [hid]) pipeline.hooks := by
        rintro n rfl
        exact ⟨next, hnext, .jump (hwalk.through pre) hspec htgt hnext⟩
      obtain ⟨calls, hlog, hcalls⟩ := ih hgoesOn
        (event', event.2 ++ (passed pre ++ [(hid, .jump target)])) ctx'
      refine ⟨passed pre ++ [(hid, .jump target)] ++ calls, ?_, ?_⟩
      · rw [append_assoc] at hlog
        exact hlog
      · rw [callsSupplied_append]
        refine ⟨callsSupplied_stopped hall _ hwalk, ?_⟩
        rw [map_append, map_fst_passed, ← append_assoc]
        exact hcalls

end

/-! ## Necessity -/

section

def resume (graph : Graph E) (fuel : Nat) (current : PipelineId) (hooks : List (CompiledHook E))
    (event : E) (ctx : KernelCtx) : RunResult E KernelCtx :=
  match runHooks CompiledHook.call hooks event ctx with
  | (.returned result, event, ctx) => (result, event, ctx)
  | (.jumped target, event, ctx) => runFrom CompiledHook.call graph fuel target event ctx
  | (.fellOff, event, ctx) => (.error (.fellOffEnd current), event, ctx)

variable {event event' : E} {ctx ctx' : KernelCtx}

lemma runFrom_eq_resume (hgraph : graph current = some hooks) :
    runFrom CompiledHook.call graph (fuel + 1) current event ctx =
      resume graph fuel current hooks event ctx := by
  rw [runFrom, hgraph, resume]
  dsimp only
  obtain ⟨outcome, event', ctx'⟩ := runHooks CompiledHook.call hooks event ctx
  cases outcome with
  | _ => rfl

lemma resume_continue (h : hook.call event ctx = (.ok .continue, event', ctx')) :
    resume graph fuel current (hook :: hooks) event ctx =
      resume graph fuel current hooks event' ctx' := by
  simp only [resume, runHooks, h]

lemma resume_jump {target : PipelineId} {next : List (CompiledHook E)}
    (h : hook.call event ctx = (.ok (.jump target), event', ctx'))
    (hgraph : graph target = some next) :
    resume graph (fuel + 1) current (hook :: hooks) event ctx =
      resume graph fuel target next event' ctx' := by
  rw [← runFrom_eq_resume hgraph]
  simp only [resume, runHooks, h]

lemma resume_drop (h : hook.call event ctx = (.ok .drop, event', ctx')) :
    resume graph fuel current (hook :: hooks) event ctx = (.ok .drop, event', ctx') := by
  simp only [resume, runHooks, h]

/-- A function that follows a script, and drops the event after its end; the
trace tells how far the run has come. -/
def scripted (script : List Verdict) : HookFn E := fun event ctx =>
  (script.getD ctx.hookTrace.length .drop, event, ctx)

def KernelRegistry.scripted (reg : KernelRegistry E) (script : List Verdict) :
    KernelRegistry E :=
  reg.withFns (reg.fns.map fun _ _ => Kernel.scripted script)

lemma Verified.scripted (hv : Verified reg) (script : List Verdict) :
    Verified (reg.scripted script) where
  pipeline_id := hv.pipeline_id
  wired := hv.wired
  hook_spec := hv.hook_spec
  hook_fn := fun pid hid huses => mem_map.mpr (hv.hook_fn pid hid huses)
  jump_target := hv.jump_target
  order := hv.order

def scriptedHook (script : List Verdict) (hid : HookId) (spec : HookSpec) :
    CompiledHook (E × HookLog) :=
  ⟨hid, logged hid (scripted script), spec.mayAcceptTo, spec.mayJumpTo⟩

lemma bound_scripted (hv : Verified reg) (huses : reg.Uses pid hid)
    (hspec : reg.hooks[hid]? = some spec) :
    (reg.scripted script).logged.bound hid = some (scriptedHook script hid spec) := by
  obtain ⟨f, hf⟩ := getElem?_of_mem (hv.hook_fn pid hid huses)
  have hfn : (reg.scripted script).logged.fns[hid]? =
      some (Kernel.logged hid (scripted script)) := by
    show ((reg.fns.map _).map _)[hid]? = _
    rw [Std.TreeMap.getElem?_map, Std.TreeMap.getElem?_map, hf]
    rfl
  have hspec' : (reg.scripted script).logged.hooks[hid]? = some spec := hspec
  simp [KernelRegistry.bound, hspec', hfn, scriptedHook]

lemma call_scripted (hverd : script.getD trace.length .drop = verdict)
    (htarg : checkTargets hid spec.mayAcceptTo spec.mayJumpTo verdict = .ok ()) :
    (scriptedHook script hid spec).call (event, log) ⟨trace⟩ =
      (.ok verdict, (event, log ++ [(hid, verdict)]),
        ⟨trace ++ [hookTraceRecord hid verdict]⟩) := by
  simp only [CompiledHook.call, callHook, scriptedHook, logged, scripted, hverd, htarg]

lemma Walk.reached (hv : Verified reg) (h : Walk reg entry fuel current called ahead) :
    ∃ script : List Verdict, script.length = called.length ∧ ∀ (tail : List Verdict) (event : E),
      ∃ (log : HookLog) (trace : List HookTrace), log.map Prod.fst = called ∧
        trace.length = called.length ∧
        (reg.scripted (script ++ tail)).logged.graph.run entry (event, []) ⟨[]⟩ =
          resume (reg.scripted (script ++ tail)).logged.graph fuel current
            (ahead.filterMap (reg.scripted (script ++ tail)).logged.bound) (event, log)
            ⟨trace⟩ := by
  have hgraph : ∀ script pid (pipeline : Pipeline), reg.pipelines[pid]? = some pipeline →
      (reg.scripted script).logged.graph pid =
        some (pipeline.hooks.filterMap (reg.scripted script).logged.bound) := by
    intro script pid pipeline hpipe
    show reg.pipelines[pid]?.map _ = _
    rw [hpipe]
    rfl
  induction h with
  | start hpipe =>
    refine ⟨[], rfl, fun tail event => ⟨[], [], rfl, rfl, ?_⟩⟩
    exact runFrom_eq_resume (hgraph _ _ _ hpipe)
  | @next fuel current called hid ahead hwalk ih =>
    obtain ⟨script, hlen, hreach⟩ := ih
    have huses := hwalk.uses hid mem_cons_self
    obtain ⟨spec, hspec⟩ := getElem?_of_mem (hv.hook_spec current hid huses)
    refine ⟨script ++ [.continue], by simp [hlen], fun tail event => ?_⟩
    obtain ⟨log, trace, hlog, htrace, hrun⟩ := hreach (.continue :: tail) event
    rw [append_assoc, singleton_append]
    refine ⟨log ++ [(hid, .continue)], trace ++ [hookTraceRecord hid .continue],
      by simp [hlog], by simp [htrace], ?_⟩
    rw [hrun, filterMap_cons_some (bound_scripted hv huses hspec)]
    exact resume_continue (call_scripted (by simp [htrace, ← hlen]) rfl)
  | @jump fuel current called hid ahead spec target pipeline hwalk hspec htgt hpipe ih =>
    obtain ⟨script, hlen, hreach⟩ := ih
    have huses := hwalk.uses hid mem_cons_self
    refine ⟨script ++ [.jump target], by simp [hlen], fun tail event => ?_⟩
    obtain ⟨log, trace, hlog, htrace, hrun⟩ := hreach (.jump target :: tail) event
    rw [append_assoc, singleton_append]
    refine ⟨log ++ [(hid, .jump target)], trace ++ [hookTraceRecord hid (.jump target)],
      by simp [hlog], by simp [htrace], ?_⟩
    rw [hrun, filterMap_cons_some (bound_scripted hv huses hspec)]
    refine resume_jump (call_scripted (by simp [htrace, ← hlen]) ?_)
      (hgraph _ _ _ hpipe)
    simp [checkTargets, htgt]

lemma Walk.executed (hv : Verified reg)
    (h : Walk reg entry fuel current called (hid :: ahead)) (event : E) :
    ∃ (script : List Verdict) (log : HookLog), log.map Prod.fst = called ∧
      executed (reg.scripted script) entry event ⟨[]⟩ = log ++ [(hid, .drop)] := by
  obtain ⟨script, hlen, hreach⟩ := h.reached hv
  obtain ⟨log, trace, hlog, htrace, hrun⟩ := hreach [] event
  have huses := h.uses hid mem_cons_self
  obtain ⟨spec, hspec⟩ := getElem?_of_mem (hv.hook_spec current hid huses)
  refine ⟨script ++ [], log, hlog, ?_⟩
  rw [Kernel.executed, runPipelineWithRegistry_eq (hv.scripted _).logged, hrun,
    filterMap_cons_some (bound_scripted hv huses hspec),
    resume_drop (call_scripted (by simp [htrace, ← hlen]) rfl)]

end

/-! ## Both ways -/

section

lemma Walk.of_withFns (h : Walk (reg.withFns fns) entry fuel current called ahead) :
    Walk reg entry fuel current called ahead := by
  induction h with
  | start hpipe => exact .start hpipe
  | next _ ih => exact .next ih
  | jump _ hspec htgt hpipe ih => exact .jump ih hspec htgt hpipe

lemma callsSupplied_withFns :
    CallsSupplied (reg.withFns fns) source called calls ↔
      CallsSupplied reg source called calls := by
  induction calls generalizing called with
  | nil => exact Iff.rfl
  | cons call calls ih => exact and_congr Iff.rfl ih

end

/-- Whatever functions stand behind the hooks, the runs from a wired source find
every key their hooks read if and only if the declared paths supply them. -/
theorem reads_supplied_iff [Nonempty E] (reg : KernelRegistry E) (hverify : verify reg = .ok ()) :
    (∀ fns : Std.TreeMap HookId (HookFn E), fns.keys = reg.fns.keys →
      ∀ wiring ∈ reg.wirings, ∀ source, reg.sources[wiring.source]? = some source →
      ∀ event ctx, CallsSupplied reg source []
        (executed (reg.withFns fns) wiring.pipeline event ctx)) ↔
    ∀ wiring ∈ reg.wirings, ∀ source, reg.sources[wiring.source]? = some source →
      PathsSupply reg source wiring.pipeline := by
  have hv := verified_of_verify hverify
  constructor
  · intro hruns wiring hwiring source hsrc fuel current called hid ahead hwalk
    obtain ⟨event⟩ := ‹Nonempty E›
    obtain ⟨script, log, rfl, hexec⟩ := hwalk.executed hv event
    have hcalls := hruns (reg.fns.map fun _ _ => scripted script) keys_map wiring
      hwiring source hsrc event ⟨[]⟩
    rw [show reg.withFns _ = reg.scripted script from rfl, hexec, callsSupplied_append] at hcalls
    simpa using hcalls.2.1
  · intro hpaths fns hkeys wiring hwiring source hsrc event ctx
    have hv' := verified_of_verify ((verify_withFns hkeys).trans hverify)
    have hall : PathsSupply (reg.withFns fns) source wiring.pipeline :=
      fun _ _ _ _ _ hwalk => hpaths wiring hwiring source hsrc _ _ _ _ _ hwalk.of_withFns
    have hstart : ∀ n, maxJumpDepth + 1 = n + 1 → ∃ pipeline,
        (reg.withFns fns).pipelines[wiring.pipeline]? = some pipeline ∧
        Walk (reg.withFns fns) wiring.pipeline n wiring.pipeline [] pipeline.hooks := by
      rintro n hn
      obtain ⟨pipeline, hpipe⟩ := getElem?_of_mem (hv'.wired wiring hwiring)
      cases hn
      exact ⟨pipeline, hpipe, .start hpipe⟩
    obtain ⟨calls, hlog, hcalls⟩ := runFrom_supplied hv' hall hstart (event, []) ctx
    have hexec : executed (reg.withFns fns) wiring.pipeline event ctx = calls := by
      rw [executed, runPipelineWithRegistry_eq hv'.logged]
      exact hlog
    rw [hexec]
    exact callsSupplied_withFns.mp hcalls

lemma pathsSupply_of_source {entry : PipelineId}
    (h : ∀ (hid : HookId) (spec : HookSpec), reg.hooks[hid]? = some spec →
      ∀ key ∈ spec.reads, key ∈ source.initialWrites) : PathsSupply reg source entry :=
  fun _ _ _ _ _ _ spec hspec key hkey => .inl (h _ spec hspec key hkey)

def readerRegistry (sources : List (SourceId × List String)) : KernelRegistry Unit where
  sources := .ofList (sources.map fun (id, writes) =>
    (id, (⟨id, "application/source", writes⟩ : SourceSpec)))
  sinks := ∅
  hooks := mapOf ["h"] fun id =>
    { idleSpec id with allowedNamespaces := ["net.*"], reads := ["net.dst_host"] }
  pipelines := mapOf ["p"] fun id => ⟨id, ["h"]⟩
  wirings := sources.map fun (id, _) => ⟨id, "p"⟩
  fns := mapOf ["h"] fun _ => scripted []

theorem reads_supplied_one_source :
    verify (readerRegistry [("a", ["net.dst_host"])]) = .ok () ∧
      ∀ event ctx, CallsSupplied (readerRegistry [("a", ["net.dst_host"])])
        ⟨"a", "application/source", ["net.dst_host"]⟩ []
        (executed (readerRegistry [("a", ["net.dst_host"])]) "p" event ctx) := by
  have hvfy : verify (readerRegistry [("a", ["net.dst_host"])]) = .ok () := by decide +kernel
  refine ⟨hvfy, (reads_supplied_iff _ hvfy).mpr ?_ _ rfl ⟨"a", "p"⟩ (by decide) _ rfl⟩
  intro wiring hwiring source hsrc
  obtain rfl := mem_singleton.mp hwiring
  cases hsrc
  refine pathsSupply_of_source fun hid spec hspec key hkey => ?_
  obtain ⟨-, rfl⟩ := getElem?_mapOf (by simp) hspec
  exact hkey

/-- Verification accepts a second source that does not write the host, as the
first one does; a run from the second reads what nobody wrote. -/
theorem reads_unsupplied :
    verify (readerRegistry [("a", ["net.dst_host"]), ("b", [])]) = .ok () ∧
      ⟨"b", "p"⟩ ∈ (readerRegistry [("a", ["net.dst_host"]), ("b", [])]).wirings ∧
      (readerRegistry [("a", ["net.dst_host"]), ("b", [])]).sources["b"]? =
        some ⟨"b", "application/source", []⟩ ∧
      ¬CallsSupplied (readerRegistry [("a", ["net.dst_host"]), ("b", [])])
        ⟨"b", "application/source", []⟩ []
        (executed (readerRegistry [("a", ["net.dst_host"]), ("b", [])]) "p" () ⟨[]⟩) := by
  refine ⟨by decide +kernel, by decide +kernel, by decide +kernel, fun hcalls => ?_⟩
  obtain hwrit | ⟨_, hcalled, _⟩ := hcalls.1 _ rfl "net.dst_host" mem_cons_self
  · cases hwrit
  · cases hcalled

end MeshBus.Kernel
