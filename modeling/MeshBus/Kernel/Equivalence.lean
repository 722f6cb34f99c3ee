import Mathlib.Data.List.Nodup
import MeshBus.Kernel.Compiled

/-!
# Compiled against interpreted runs

The two interpreters agree on a verified registry, whatever its functions do,
exactly when the 32-bit slots still tell apart what the pipelines use.
-/

namespace MeshBus.Kernel

open Lib List Std.TreeMap
variable {E : Type} {reg : KernelRegistry E}

/-- The hooks in use stand among the first `2 ^ 32`, and a pipeline beyond them
has the hooks of the one whose slot it gets. -/
structure Addressable (reg : KernelRegistry E) : Prop where
  hook : ∀ pid hookId, reg.Uses pid hookId → reg.hooks.keys.idxOf hookId < slotSpan
  pipeline : ∀ pid ∈ reg.pipelines,
    reg.pipelines[slotMate reg.pipelines.keys pid]?.map Pipeline.hooks =
      reg.pipelines[pid]?.map Pipeline.hooks

lemma addressable_of_size_le (hhooks : reg.hooks.size ≤ slotSpan)
    (hpip : reg.pipelines.size ≤ slotSpan) (hv : Verified reg) : Addressable reg := by
  constructor
  · intro pid hookId huses
    have hkey := mem_keys.mpr (hv.hook_spec pid hookId huses)
    have hlt := idxOf_lt_length_of_mem hkey
    rw [length_keys] at hlt
    omega
  · intro pid hpid
    have hkey := mem_keys.mpr hpid
    have hlt := idxOf_lt_length_of_mem hkey
    rw [length_keys] at hlt
    rw [(slotMate_eq_iff nodup_keys hkey).mpr (by omega)]

def ReadsBack (reg : KernelRegistry E) (pid : PipelineId) : Prop :=
  reg.pipelines[slotMate reg.pipelines.keys pid]?.map
      (fun pipeline => pipeline.hooks.map (slotMate reg.hooks.keys)) =
    reg.pipelines[pid]?.map Pipeline.hooks

lemma ReadsBack.of_addressable (hv : Verified reg) (h : Addressable reg)
    (hpid : pid ∈ reg.pipelines) : ReadsBack reg pid := by
  obtain ⟨pipeline, hpipe⟩ := getElem?_of_mem hpid
  have hmate := h.pipeline pid hpid
  rw [hpipe, Option.map_some, Option.map_eq_some_iff] at hmate
  obtain ⟨mate, hget, hhooks⟩ := hmate
  have hself : pipeline.hooks.map (slotMate reg.hooks.keys) = pipeline.hooks.map id := by
    refine map_congr_left fun hid hmem => ?_
    have huses : reg.Uses pid hid := ⟨pipeline, hpipe, hmem⟩
    have hkey := mem_keys.mpr (hv.hook_spec pid hid huses)
    exact (slotMate_eq_iff nodup_keys hkey).mpr (h.hook pid hid huses)
  rw [ReadsBack, hget, hpipe, Option.map_some, Option.map_some, hhooks, hself, map_id]

lemma addressable_of_readsBack (hv : Verified reg)
    (h : ∀ pid ∈ reg.pipelines, ReadsBack reg pid) : Addressable reg := by
  have hmates : ∀ pid ∈ reg.pipelines, ∃ mate pipeline,
      reg.pipelines[slotMate reg.pipelines.keys pid]? = some mate ∧
      reg.pipelines[pid]? = some pipeline ∧
      mate.hooks.map (slotMate reg.hooks.keys) = pipeline.hooks := by
    intro pid hpid
    obtain ⟨pipeline, hpipe⟩ := getElem?_of_mem hpid
    have hread := h pid hpid
    rw [ReadsBack, hpipe, Option.map_some, Option.map_eq_some_iff] at hread
    obtain ⟨mate, hmate, hhooks⟩ := hread
    exact ⟨mate, pipeline, hmate, hpipe, hhooks⟩
  constructor
  · rintro pid hookId ⟨pipeline, hpipe, hmem⟩
    obtain ⟨mate, pipeline', hmate, hpipe', hhooks⟩ := hmates pid (mem_of_getElem? hpipe)
    obtain rfl : pipeline' = pipeline := Option.some.inj (hpipe'.symm.trans hpipe)
    -- A hook read through a slot is among the first `2 ^ 32`.
    rw [← hhooks] at hmem
    obtain ⟨hid, hhid, rfl⟩ := mem_map.mp hmem
    have hkey := mem_keys.mpr (hv.hook_spec _ hid ⟨mate, hmate, hhid⟩)
    rw [idxOf_slotMate nodup_keys hkey]
    exact Nat.mod_lt _ (Nat.two_pow_pos 32)
  · intro pid hpid
    have hkey := mem_keys.mpr hpid
    have hmat := slotMate_mem hkey
    obtain ⟨mate, pipeline, hmate, hpipe, hhooks⟩ := hmates pid hpid
    obtain ⟨mate', pipeline', hmate', hpipe', hhook'⟩ := hmates _ (mem_keys.mp hmat)
    -- The slot mate has its own slot, so it reads back its own hooks.
    have hfixed : slotMate reg.pipelines.keys (slotMate reg.pipelines.keys pid) =
        slotMate reg.pipelines.keys pid := by
      rw [slotMate_eq_iff nodup_keys hmat, idxOf_slotMate nodup_keys hkey]
      exact Nat.mod_lt _ (Nat.two_pow_pos 32)
    rw [hfixed, hmate] at hmate'
    rw [hmate] at hpipe'
    cases hmate'
    cases hpipe'
    rw [hmate, hpipe, Option.map_some, Option.map_some, ← hhooks, hhook']

/-! ## Sufficiency -/

lemma compiledGraph_eq (hv : Verified reg) (h : Addressable reg) :
    compiledGraph reg = reg.graph := by
  funext pid
  unfold compiledGraph KernelRegistry.graph
  split
  · rename_i hpid
    have hread := congrArg (Option.map (filterMap reg.bound))
      (ReadsBack.of_addressable hv h hpid)
    simpa only [Option.map_map, Function.comp_def] using hread
  · rename_i hpid
    rw [getElem?_eq_none hpid]
    rfl

lemma compiledRun_eq_interpreted (hv : Verified reg) (h : Addressable reg)
    (hk : Compiles reg k) (entry : PipelineId) (event : E) (ctx : KernelCtx) :
    k.runPipeline entry event ctx = some (runPipelineWithRegistry reg entry event ctx) := by
  rw [compiledRun_eq hv hk, compiledGraph_eq hv h, runPipelineWithRegistry_eq hv]

/-! ## Necessity -/

/-- A function that does nothing and lets the pipeline go on. -/
def idle : HookFn E := fun event ctx => (.continue, event, ctx)

def idleTrace (hids : List HookId) : List HookTrace :=
  hids.map fun hid => hookTraceRecord hid .continue

lemma idleTrace_injective : Function.Injective idleTrace := by
  intro as bs h
  have hids := congrArg (map HookTrace.hookId) h
  simpa [idleTrace, hookTraceRecord, Function.comp_def] using hids

lemma runHooks_idle (hidle : ∀ hook ∈ hooks, hook.f = idle) {event : E} {ctx : KernelCtx} :
    runHooks CompiledHook.call hooks event ctx =
      (.fellOff, event, ⟨ctx.hookTrace ++ idleTrace (hooks.map CompiledHook.id)⟩) := by
  induction hooks generalizing ctx with
  | nil => simp [runHooks, idleTrace]
  | cons hook hooks ih =>
    have hcall : hook.call event ctx =
        (.ok .continue, event, ⟨ctx.hookTrace ++ [hookTraceRecord hook.id .continue]⟩) := by
      simp only [CompiledHook.call, callHook, hidle hook mem_cons_self]
      rfl
    rw [runHooks, hcall]
    dsimp only
    rw [ih fun hook hmem => hidle hook (mem_cons_of_mem _ hmem)]
    simp [idleTrace]

lemma run_idle {graph : Graph E} (hgraph : graph pid = some hooks)
    (hidle : ∀ hook ∈ hooks, hook.f = idle) {event : E} {ctx : KernelCtx} :
    graph.run pid event ctx = (.error (.fellOffEnd pid), event,
      ⟨ctx.hookTrace ++ idleTrace (hooks.map CompiledHook.id)⟩) := by
  rw [Graph.run, runFrom, hgraph]
  dsimp only
  rw [runHooks_idle hidle]

lemma readsBack_of_agree (hv : Verified reg) (hfns : reg.HasFns)
    (hidle : ∀ (hid : HookId) (f : HookFn E), reg.fns[hid]? = some f → f = idle)
    (hk : Compiles reg k) (hpid : pid ∈ reg.pipelines) {event : E} {ctx : KernelCtx}
    (hagree : k.runPipeline pid event ctx = some (runPipelineWithRegistry reg pid event ctx)) :
    ReadsBack reg pid := by
  have hmat := slotMate_mem (mem_keys.mpr hpid)
  obtain ⟨mate, hmate⟩ := getElem?_of_mem (mem_keys.mp hmat)
  obtain ⟨pipeline, hpipe⟩ := getElem?_of_mem hpid
  have hidl : ∀ hids : List HookId, ∀ hook ∈ hids.filterMap reg.bound, hook.f = idle := by
    intro hids hook hmem
    obtain ⟨hid, -, hbound⟩ := mem_filterMap.mp hmem
    exact hidle hid hook.f (bound_eq_some hbound).2.1
  have hcomp : compiledGraph reg pid =
      some ((mate.hooks.map (slotMate reg.hooks.keys)).filterMap reg.bound) := by
    rw [compiledGraph, if_pos hpid, hmate]
    rfl
  have hgraph : reg.graph pid = some (pipeline.hooks.filterMap reg.bound) := by
    rw [KernelRegistry.graph, hpipe]
    rfl
  rw [compiledRun_eq hv hk, runPipelineWithRegistry_eq hv, Option.some.injEq,
    run_idle hcomp (hidl _), run_idle hgraph (hidl _)] at hagree
  simp only [Prod.mk.injEq, KernelCtx.mk.injEq, append_cancel_left_eq, true_and] at hagree
  have hids := idleTrace_injective hagree
  rw [map_id_bound, map_id_bound (bound_isSome hv hpipe)] at hids
  · rw [ReadsBack, hmate, hpipe, Option.map_some, Option.map_some, hids]
  · intro hid hmem
    obtain ⟨source, hsrc, rfl⟩ := mem_map.mp hmem
    have hkey := mem_keys.mpr (hv.hook_spec _ source ⟨mate, hmate, hsrc⟩)
    obtain ⟨hook, -, hbound⟩ := compileHook_ok hfns _ (slotMate_mem hkey)
    rw [hbound]
    rfl

/-! ## Agreement -/

/-- The compiled and the interpreted run of every entry, on every event and
context, end alike. -/
def Agree (reg : KernelRegistry E) : Prop :=
  ∃ k, CompiledKernel.fromRegistry reg = .ok k ∧ ∀ entry event ctx,
    k.runPipeline entry event ctx = some (runPipelineWithRegistry reg entry event ctx)

def idleSpec (hid : HookId) : HookSpec where
  id := hid
  kind := .sideEffect
  allowedNamespaces := []
  reads := []
  writes := []
  mayTerminate := true
  mayJump := false
  mayJumpTo := []
  mayAcceptTo := []
  sideEffectOnly := false

def unaryIds (n : Nat) : List HookId :=
  (range n).map fun i => String.ofList (replicate (i + 1) 'h')

def mapOf {σ : Type} (ids : List String) (value : String → σ) : Std.TreeMap String σ :=
  .ofList (ids.map fun id => (id, value id))

def wideRegistry (n : Nat) : KernelRegistry Unit where
  sources := mapOf ["s"] fun id => ⟨id, "application/source", []⟩
  sinks := ∅
  hooks := mapOf (unaryIds n) idleSpec
  pipelines := mapOf ["p"] fun id => ⟨id, (mapOf (unaryIds n) idleSpec).keys⟩
  wirings := [⟨"s", "p"⟩]
  fns := mapOf (unaryIds n) fun _ => idle

lemma unaryIds_nodup : (unaryIds n).Nodup := by
  refine List.Nodup.map (fun i j h => ?_) nodup_range
  have hlen := congrArg (fun s : String => s.toList.length) h
  simpa using hlen

lemma mapOf_distinct {ids : List String} (hnodup : ids.Nodup) (value : String → σ) :
    (ids.map fun id => (id, value id)).Pairwise fun a b => ¬compare a.1 b.1 = .eq := by
  rw [pairwise_map]
  exact hnodup.imp fun hne => by simpa [Std.LawfulEqCmp.compare_eq_iff_eq] using hne

lemma mem_mapOf {id : String} : id ∈ mapOf ids value ↔ id ∈ ids := by
  rw [mapOf]
  simp [Function.comp_def]

lemma getElem?_mapOf (hnodup : ids.Nodup) {value : String → σ}
    {id : String} {v : σ} (h : (mapOf ids value)[id]? = some v) : id ∈ ids ∧ v = value id := by
  have hmem := mem_mapOf.mp (mem_of_getElem? h)
  have hvalue : (mapOf ids value)[id]? = some (value id) :=
    getElem?_ofList_of_mem (k := id) Std.ReflCmp.compare_self
      (mapOf_distinct hnodup value) (mem_map.mpr ⟨id, hmem, rfl⟩)
  exact ⟨hmem, Option.some.inj (h.symm.trans hvalue)⟩

lemma length_keys_mapOf (hnodup : ids.Nodup) {value : String → σ} :
    (mapOf ids value).keys.length = ids.length := by
  rw [length_keys, mapOf, size_ofList (mapOf_distinct hnodup value), length_map]

lemma isValidIdShape_unary {id : HookId} (h : id ∈ unaryIds n) : isValidIdShape id = true := by
  obtain ⟨i, -, rfl⟩ := mem_map.mp h
  have hchar : String.utf8EncodeChar 'h' = [104] := by decide
  have hne : String.ofList (replicate (i + 1) 'h') ≠ "" := by
    intro hempty
    have hlen := congrArg (fun s : String => s.toList.length) hempty
    simp at hlen
  rw [isValidIdShape, utf8_ofList]
  simp [hne, hchar, isAsciiAlphanumeric, isAsciiAlphabetic]

section

lemma wide_hook
    (h : (wideRegistry n).hooks[hid]? = some spec) : hid ∈ unaryIds n ∧ spec = idleSpec hid :=
  getElem?_mapOf unaryIds_nodup h

lemma wide_pipeline (h : (wideRegistry n).pipelines[pid]? = some pipeline) :
    pid = "p" ∧ pipeline = ⟨"p", (wideRegistry n).hooks.keys⟩ := by
  obtain ⟨hpid, hpipe⟩ := getElem?_mapOf (by simp) h
  obtain rfl := mem_singleton.mp hpid
  exact ⟨rfl, hpipe⟩

lemma wide_source (h : (wideRegistry n).sources[sid]? = some source) :
    sid = "s" ∧ source = ⟨"s", "application/source", []⟩ := by
  obtain ⟨hsid, hsrc⟩ := getElem?_mapOf (by simp) h
  obtain rfl := mem_singleton.mp hsid
  exact ⟨rfl, hsrc⟩

lemma wide_uses (h : (wideRegistry n).Uses pid hid) : pid = "p" ∧ hid ∈ unaryIds n := by
  obtain ⟨pipeline, hpipe, hmem⟩ := h
  obtain ⟨rfl, rfl⟩ := wide_pipeline hpipe
  exact ⟨rfl, mem_mapOf.mp (mem_keys.mp hmem)⟩

lemma wide_hasFns : (wideRegistry n).HasFns := fun _ hmem => mem_mapOf.mpr (mem_mapOf.mp hmem)

lemma wide_jumpTargets : jumpTargets (wideRegistry n) pid = [] := by
  unfold jumpTargets
  split
  · rfl
  · rw [flatMap_eq_nil_iff]
    intro spec hspec
    obtain ⟨hid, -, hget⟩ := mem_filterMap.mp hspec
    rw [(wide_hook hget).2]
    rfl

lemma wide_checkIdShapes : checkIdShapes (wideRegistry n) = .ok () := by
  have hunary : ∀ hid ∈ unaryIds n, checkHookId hid = .ok () := fun hid hmem => by
    simp [checkHookId, checkShape, isValidIdShape_unary hmem]
  have hspec : ∀ spec ∈ valuesOf (wideRegistry n).hooks, spec = idleSpec spec.id ∧
      spec.id ∈ unaryIds n := by
    intro spec hmem
    obtain ⟨⟨hid, _⟩, hentry, rfl⟩ := mem_map.mp hmem
    obtain ⟨hid, rfl⟩ := wide_hook (mem_toList_iff_getElem?_eq_some.mp hentry)
    exact ⟨rfl, hid⟩
  have hs : checkSourceId "s" = .ok () := by decide +kernel
  have hp : checkPipelineId "p" = .ok () := by decide +kernel
  simp only [checkIdShapes, seq_eq_ok, checkAll_eq_ok]
  refine ⟨?_, ?_, ?_, ?_, ?_, ?_, ?_, ?_, ?_⟩
  · intro sid hmem
    obtain rfl := mem_singleton.mp (mem_mapOf.mp (mem_keys.mp hmem))
    exact hs
  · intro wiring hmem
    obtain rfl := mem_singleton.mp hmem
    exact hs
  · intro sink hmem
    cases hmem
  · intro pid hmem
    obtain rfl := mem_singleton.mp (mem_mapOf.mp (mem_keys.mp hmem))
    exact hp
  · intro wiring hmem
    obtain rfl := mem_singleton.mp hmem
    exact hp
  · intro hid hmem
    rcases mem_append.mp hmem with hmem | hmem
    · exact hunary hid (mem_mapOf.mp (mem_keys.mp hmem))
    · exact hunary hid (mem_mapOf.mp (mem_keys.mp hmem))
  · intro pipeline hmem
    obtain ⟨⟨pid, _⟩, hentry, rfl⟩ := mem_map.mp hmem
    obtain ⟨rfl, rfl⟩ := wide_pipeline (mem_toList_iff_getElem?_eq_some.mp hentry)
    refine ⟨hp, fun hid hhid => ?_⟩
    exact hunary hid (mem_mapOf.mp (mem_keys.mp hhid))
  · intro spec hmem
    obtain ⟨heq, hid⟩ := hspec spec hmem
    refine ⟨hunary _ hid, fun pid hpid => ?_⟩
    rw [heq] at hpid
    cases hpid
  · intro spec hmem sink hsink
    rw [(hspec spec hmem).1] at hsink
    cases hsink

lemma wide_checkHooksInOrder (available : List String) (hids : List HookId) :
    checkHooksInOrder (wideRegistry n) pid available hids = .ok () := by
  induction hids generalizing available with
  | nil => rfl
  | cons hid hids ih =>
    rw [checkHooksInOrder]
    split
    · exact ih available
    · rename_i spec hspec
      obtain ⟨-, rfl⟩ := wide_hook hspec
      rw [seq_eq_ok]
      exact ⟨rfl, ih _⟩

lemma wide_searchJumps : checkJumpDag (wideRegistry n) = .ok () := by
  have hkeys : (wideRegistry n).pipelines.keys = ["p"] := rfl
  have hsize : (wideRegistry n).pipelines.size = 1 := rfl
  simp [checkJumpDag, searchJumps, hkeys, hsize, dfsCycle, wide_jumpTargets, pure, Except.pure,
    bind, Except.bind]

lemma wide_checkPipelineTerminates (hn : 0 < n) :
    checkPipelineTerminates (wideRegistry n) = .ok () := by
  simp only [checkPipelineTerminates, checkAll_eq_ok, reject_eq_ok]
  rw [forall_toList]
  intro pid pipeline hpipe
  obtain ⟨rfl, rfl⟩ := wide_pipeline hpipe
  have hfirst : String.ofList (replicate 1 'h') ∈ (wideRegistry n).hooks :=
    mem_mapOf.mpr (mem_map.mpr ⟨0, mem_range.mpr hn, rfl⟩)
  obtain ⟨spec, hspec⟩ := getElem?_of_mem hfirst
  simp only [Bool.not_eq_false', any_eq_true]
  refine ⟨_, mem_keys.mpr hfirst, ?_⟩
  rw [hspec, (wide_hook hspec).2]
  rfl

lemma wide_verify (hn : 0 < n) : verify (wideRegistry n) = .ok () := by
  have hhooks : ∀ {p : HookId × HookSpec → Prop}, (∀ hid ∈ unaryIds n, p (hid, idleSpec hid)) →
      ∀ entry ∈ (wideRegistry n).hooks.toList, p entry := by
    intro p h
    rw [forall_toList]
    intro hid spec hspec
    obtain ⟨hmem, rfl⟩ := wide_hook hspec
    exact h hid hmem
  have hsour : ∀ {p : SourceId × SourceSpec → Prop}, p ("s", ⟨"s", "application/source", []⟩) →
      ∀ entry ∈ (wideRegistry n).sources.toList, p entry := by
    intro p h
    rw [forall_toList]
    intro sid source hsrc
    obtain ⟨rfl, rfl⟩ := wide_source hsrc
    exact h
  simp only [verify, seq_eq_ok]
  refine ⟨?_, wide_checkIdShapes, ?_, ?_, ?_, ?_, ?_, ?_, ?_, wide_searchJumps,
    wide_checkPipelineTerminates hn, ?_, ?_, ?_, ?_⟩
  · simp only [checkRegistryIdentities, seq_eq_ok, checkAll_eq_ok]
    refine ⟨hsour rfl, forall_mem_nil _, hhooks fun hid _ => by simp [checkIdentity, idleSpec], ?_⟩
    rw [forall_toList]
    intro pid pipeline hpipe
    obtain ⟨rfl, rfl⟩ := wide_pipeline hpipe
    rfl
  · simp only [checkSpecKinds, seq_eq_ok, checkAll_eq_ok]
    exact ⟨hsour rfl, forall_mem_nil _⟩
  · rfl
  · rw [checkHooksExist, checkPipelineHooks_eq_ok]
    intro pid hid huses
    have hmem : hid ∈ (wideRegistry n).hooks := mem_mapOf.mpr (wide_uses huses).2
    simpa using hmem
  · simp only [checkAcceptDeclarations, checkAll_eq_ok]
    exact hhooks fun hid _ => rfl
  · simp only [checkSinkTargets, checkAll_eq_ok]
    exact hhooks fun _ _ => forall_mem_nil _
  · simp only [checkJumpDeclarations, checkAll_eq_ok]
    exact hhooks fun hid _ => rfl
  · rw [checkJumpTargets, checkPipelineHooks_eq_ok]
    intro pid hid huses
    split
    · rfl
    · rename_i spec hspec
      rw [(wide_hook hspec).2]
      rfl
  · simp only [checkMetadataKeys, seq_eq_ok, checkAll_eq_ok]
    exact ⟨hsour (forall_mem_nil _), hhooks fun _ _ => forall_mem_nil _⟩
  · simp only [checkNamespacePatterns, checkAll_eq_ok]
    exact hhooks fun _ _ => forall_mem_nil _
  · simp only [checkNamespaceRules, checkAll_eq_ok]
    exact fun entry _ => wide_checkHooksInOrder _ _
  · simp only [checkHookFns, seq_eq_ok, checkAll_eq_ok, checkPipelineHooks_eq_ok]
    refine ⟨fun hid hmem => ?_, fun pid hid huses => ?_⟩
    · have hhook : hid ∈ (wideRegistry n).hooks := mem_mapOf.mpr (mem_mapOf.mp (mem_keys.mp hmem))
      simpa using hhook
    · have hfn : hid ∈ (wideRegistry n).fns := mem_mapOf.mpr (wide_uses huses).2
      simpa using hfn

lemma wide_le_of_agree (hvfy : verify (wideRegistry n) = .ok ())
    (hk : Compiles (wideRegistry n) k) (hagree : k.runPipeline "p" () ⟨[]⟩ =
      some (runPipelineWithRegistry (wideRegistry n) "p" () ⟨[]⟩)) : n ≤ slotSpan := by
  have hidle : ∀ (hid : HookId) (f : HookFn Unit), (wideRegistry n).fns[hid]? = some f → f = idle :=
    fun hid f hf => (getElem?_mapOf unaryIds_nodup hf).2
  have hread := readsBack_of_agree (verified_of_verify hvfy) wide_hasFns hidle hk
    (mem_mapOf.mpr mem_cons_self) hagree
  have hp : (wideRegistry n).pipelines["p"]? = some ⟨"p", (wideRegistry n).hooks.keys⟩ := rfl
  have hmate : slotMate (wideRegistry n).pipelines.keys "p" = "p" :=
    (slotMate_eq_iff nodup_keys (mem_singleton.mpr rfl)).mpr
      (Nat.two_pow_pos 32)
  rw [ReadsBack, hmate, hp, Option.map_some, Option.map_some, Option.some.injEq] at hread
  have hnodup : (wideRegistry n).hooks.keys.Nodup := nodup_keys
  have hlen : (wideRegistry n).hooks.keys.length = n :=
    (length_keys_mapOf unaryIds_nodup).trans (by simp [unaryIds])
  generalize (wideRegistry n).hooks.keys = keys at hread hnodup hlen
  by_contra hlt
  -- The hook after the last slot would have to keep a slot that is taken.
  have hlast : slotSpan < keys.length := by omega
  have hself : slotMate keys keys[slotSpan] = keys[slotSpan] := by
    have hall := map_inj_left.mp (hread.trans (map_id keys).symm)
    exact hall _ (getElem_mem hlast)
  rw [slotMate_eq_iff hnodup (getElem_mem hlast), hnodup.idxOf_getElem _ hlast] at hself
  omega

end

end MeshBus.Kernel
