import MeshBus.Kernel.Registry
import MeshBus.Lib.Topological

/-!
# What a verified registry guarantees

The checks of `verify` read backwards: pipelines stand under their own id, their
hooks have a spec and a function, the jump targets of those hooks exist, and the
pipelines have a topological order for the declared jumps.
-/

namespace MeshBus.Kernel

open Lib List Std.TreeMap

/-! ## Entries of an ordered map -/

section
variable {t : Std.TreeMap String σ}

lemma forall_toList {p : String × σ → Prop} :
    (∀ entry ∈ t.toList, p entry) ↔ ∀ id v, t[id]? = some v → p (id, v) := by
  constructor
  · intro h id v hv
    exact h _ (mem_toList_iff_getElem?_eq_some.mpr hv)
  · rintro h ⟨id, v⟩ hmem
    exact h id v (mem_toList_iff_getElem?_eq_some.mp hmem)

lemma getElem?_of_mem {id : String} (h : id ∈ t) : ∃ v, t[id]? = some v :=
  ⟨t[id], getElem?_eq_some_getElem h⟩

lemma mem_of_getElem? {id : String} (h : t[id]? = some v) : id ∈ t := by
  rw [mem_iff_isSome_getElem?, h]
  rfl

end

/-! ## The depth-first search -/

section
variable {adj : PipelineId → List PipelineId}

/-- The finished vertices, in the reverse order of finishing. -/
structure Finished (adj : PipelineId → List PipelineId) (color : Colors)
    (order : List PipelineId) : Prop where
  topo : TopoOrder adj order
  mem_iff : ∀ p, p ∈ order ↔ 2 ≤ color.getD p 0

/-- The search goes on from `color` to `color'`: nothing finished is lost, and the
same vertices are on the path. -/
structure Progress (color color' : Colors) : Prop where
  finished : ∀ p, 2 ≤ color.getD p 0 → 2 ≤ color'.getD p 0
  path : ∀ p, color'.getD p 0 = 1 ↔ color.getD p 0 = 1

lemma Progress.refl (color : Colors) : Progress color color := ⟨fun _ h => h, fun _ => Iff.rfl⟩

lemma Progress.trans (hab : Progress a b) (hbc : Progress b c) : Progress a c :=
  ⟨fun p h => hbc.finished p (hab.finished p h), fun p => (hbc.path p).trans (hab.path p)⟩

lemma getD_insert_color (color : Colors) (node p : PipelineId) (c : Nat) :
    (color.insert node c).getD p 0 = if node = p then c else color.getD p 0 := by
  rw [getD_insert]
  simp only [Std.LawfulEqCmp.compare_eq_iff_eq]

lemma foldlM_finished {visit : Colors → PipelineId → Except (Option VerifyError) Colors}
    {ps : List PipelineId}
    (hvisit : ∀ color p color' order, Progress start color → Finished adj color order →
      visit color p = .ok color' →
      Progress color color' ∧ 2 ≤ color'.getD p 0 ∧ ∃ order', Finished adj color' order')
    (hfold : ps.foldlM visit color = .ok color') (hstart : Progress start color)
    (horder : Finished adj color order) :
    Progress color color' ∧ (∀ p ∈ ps, 2 ≤ color'.getD p 0) ∧
      ∃ order', Finished adj color' order' := by
  induction ps generalizing color order with
  | nil =>
    cases hfold
    exact ⟨.refl _, by simp, order, horder⟩
  | cons p ps ih =>
    rw [foldlM_cons] at hfold
    cases hp : visit color p with
    | error e => rw [hp] at hfold; cases hfold
    | ok mid =>
      rw [hp] at hfold
      obtain ⟨hprog, hdone, order', hord'⟩ := hvisit _ _ _ _ hstart horder hp
      obtain ⟨hrest, hall, hfinal⟩ := ih hfold (hstart.trans hprog) hord'
      refine ⟨hprog.trans hrest, ?_, hfinal⟩
      intro q hq
      rcases mem_cons.mp hq with rfl | hq
      · exact hrest.finished q hdone
      · exact hall q hq

lemma Finished.enter (h : Finished adj color order) (hwhite : color.getD node 0 = 0) :
    Finished adj (color.insert node 1) order := by
  refine ⟨h.topo, fun p => ?_⟩
  rw [h.mem_iff, getD_insert_color]
  split
  · subst_vars; omega
  · rfl

lemma dfsCycle_finished (hok : dfsCycle adj fuel node color = .ok color')
    (hwhite : color.getD node 0 = 0) (horder : Finished adj color order) :
    Progress color color' ∧ 2 ≤ color'.getD node 0 ∧ ∃ order', Finished adj color' order' := by
  induction fuel generalizing node color color' order with
  | zero => cases hok
  | succ fuel ih =>
    rw [dfsCycle] at hok
    generalize hloop : foldlM (m := Except (Option VerifyError)) _ (color.insert node 1)
      (adj node) = loop at hok
    cases loop with
    | error e => cases hok
    | ok mid =>
      cases hok
      obtain ⟨hprog, hsucc, order', hord'⟩ := foldlM_finished
        (by
          intro color p color' order _ hfin hvisit
          split at hvisit
          · exact ih hvisit ‹_› hfin
          · cases hvisit
          · rename_i hwhite hpath
            cases hvisit
            exact ⟨.refl _, by grind, order, hfin⟩)
        hloop (.refl _) (horder.enter hwhite)
      -- The node is still on the path, so it is not among the finished yet.
      have hpath : mid.getD node 0 = 1 := by
        rw [hprog.path, getD_insert_color, if_pos rfl]
      refine ⟨⟨fun p hp => ?_, fun p => ?_⟩, ?_, node :: order', ⟨?_, ?_, hord'.topo⟩, ?_⟩
      · have hmid := hprog.finished p
        grind
      · have hmid := hprog.path p
        grind
      · exact le_of_eq (by rw [getD_insert_color, if_pos rfl])
      · intro p hp
        exact (hord'.mem_iff p).mpr (hsucc p hp)
      · rw [hord'.mem_iff]; omega
      · intro p
        rw [mem_cons, hord'.mem_iff]
        grind

lemma start_finished (hstart : Progress ∅ color) (hfin : Finished adj color order)
    (hvisit : (if color.getD p 0 = 0 then dfsCycle adj fuel p color else .ok color) = .ok color') :
    Progress color color' ∧ 2 ≤ color'.getD p 0 ∧ ∃ order', Finished adj color' order' := by
  split at hvisit
  · exact dfsCycle_finished hvisit ‹_› hfin
  · -- Between two searches the path is empty: what is visited is finished.
    cases hvisit
    have hpath : color.getD p 0 ≠ 1 := by
      rw [ne_eq, hstart.path]
      simp
    exact ⟨.refl _, by omega, order, hfin⟩

lemma finished_empty : Finished adj ∅ [] := ⟨trivial, by simp⟩

end

variable {E : Type} {reg : KernelRegistry E}

/-- `searchJumps` with the pipelines in any order. -/
def searchJumpsIn (reg : KernelRegistry E) (pids : List PipelineId) :
    Except (Option VerifyError) Colors :=
  pids.foldlM (fun color start =>
    if color.getD start 0 = 0
    then dfsCycle (jumpTargets reg) (reg.pipelines.size + 1) start color
    else .ok color) ∅

lemma topoOrder_of_searchJumpsIn (hsearch : searchJumpsIn reg pids = .ok color) :
    ∃ order, TopoOrder (jumpTargets reg) order ∧ ∀ pid ∈ pids, pid ∈ order := by
  obtain ⟨-, hall, order, horder⟩ := foldlM_finished
    (fun _ _ _ _ hstart hfin hvisit => start_finished hstart hfin hvisit) hsearch (.refl _)
    finished_empty
  exact ⟨order, horder.topo, fun pid hpid => (horder.mem_iff pid).mpr (hall pid hpid)⟩

lemma exists_topoOrder (h : checkJumpDag reg = .ok ()) :
    ∃ order, TopoOrder (jumpTargets reg) order ∧ ∀ pid ∈ reg.pipelines, pid ∈ order := by
  unfold checkJumpDag at h
  split at h
  · next hsearch =>
      obtain ⟨order, htopo, hall⟩ := topoOrder_of_searchJumpsIn
        (show searchJumpsIn reg reg.pipelines.keys = .ok _ from hsearch)
      exact ⟨order, htopo, fun pid hpid => hall pid (mem_keys.mpr hpid)⟩
  · cases h
  · cases h

/-! ### The search does not run out of fuel -/

def unvisited (nodes : List PipelineId) (color : Colors) : Nat :=
  nodes.countP fun p => color.getD p 0 = 0

def Visits (color color' : Colors) : Prop := ∀ p, color.getD p 0 ≠ 0 → color'.getD p 0 ≠ 0

variable {color : Colors}

lemma Visits.unvisited_le (h : Visits color color') (nodes : List PipelineId) :
    unvisited nodes color' ≤ unvisited nodes color := by
  refine countP_mono_left fun p _ hp => ?_
  simp only [decide_eq_true_eq] at hp ⊢
  exact by_contra fun hne => h p hne hp

lemma visits_insert (color : Colors) (node : PipelineId) (hc : c ≠ 0) :
    Visits color (color.insert node c) := by
  intro p hp
  rw [getD_insert_color]
  split
  · exact hc
  · exact hp

lemma unvisited_insert_lt (hmem : node ∈ nodes) (hwhite : color.getD node 0 = 0) :
    unvisited nodes (color.insert node 1) < unvisited nodes color := by
  induction nodes with
  | nil => cases hmem
  | cons p ps ih =>
    have hle := (visits_insert color node (c := 1) (by omega)).unvisited_le ps
    unfold unvisited at ih hle ⊢
    simp only [countP_cons, getD_insert_color, decide_eq_true_eq] at ih hle ⊢
    by_cases hp : node = p
    · subst hp
      simp only [if_true, hwhite, Nat.one_ne_zero, if_false]
      omega
    · have hlt := ih ((mem_cons.mp hmem).resolve_left hp)
      simp only [if_neg hp]
      omega

/-- The search has not run out of fuel, and has lost nothing visited. -/
def Fueled (color : Colors) : Except (Option VerifyError) Colors → Prop
  | .ok color' => Visits color color'
  | .error e => e ≠ none

lemma foldlM_fueled {ps : List PipelineId}
    (hvisit : ∀ color, ∀ p ∈ ps, Visits start color → Fueled color (visit color p))
    (hstart : Visits start color) : Fueled color (ps.foldlM visit color) := by
  induction ps generalizing color with
  | nil => exact fun _ hp => hp
  | cons p ps ih =>
    rw [foldlM_cons]
    have hfueled := hvisit color p mem_cons_self hstart
    cases hp : visit color p with
    | error e =>
      rw [hp] at hfueled
      exact hfueled
    | ok mid =>
      rw [hp] at hfueled
      have hrest := ih (fun color q hq => hvisit color q (mem_cons_of_mem _ hq))
        fun q hq => hfueled q (hstart q hq)
      show Fueled color (ps.foldlM visit mid)
      generalize ps.foldlM visit mid = last at hrest ⊢
      cases last with
      | error e => exact hrest
      | ok color' => exact fun q hq => hrest q (hfueled q hq)

lemma Fueled.leave (hloop : Fueled (color.insert node 1) loop) :
    Fueled color (loop >>= fun mid => .ok (mid.insert node 2)) := by
  cases loop with
  | error e => exact hloop
  | ok mid =>
    intro q hq
    have hent := visits_insert color node (c := 1) (by omega) q hq
    exact visits_insert mid node (by omega) q (hloop q hent)

lemma dfsCycle_fueled (nodes : List PipelineId)
    (hadj : ∀ p, p ∉ nodes → adj p = []) (hwhite : color.getD node 0 = 0)
    (hfuel : unvisited nodes color < fuel) : Fueled color (dfsCycle adj fuel node color) := by
  induction fuel generalizing node color with
  | zero => omega
  | succ fuel ih =>
    refine Fueled.leave (foldlM_fueled (fun color' p hp hstart => ?_) fun _ hp => hp)
    have hmem : node ∈ nodes := by
      by_contra hmem
      rw [hadj node hmem] at hp
      cases hp
    have hless := unvisited_insert_lt hmem hwhite
    have hle := hstart.unvisited_le nodes
    split
    · exact ih ‹_› (by omega)
    · exact Option.some_ne_none _
    · exact fun _ hp => hp

lemma searchJumpsIn_fueled (reg : KernelRegistry E) (pids : List PipelineId) :
    Fueled ∅ (searchJumpsIn reg pids) := by
  refine foldlM_fueled (fun color p _ _ => ?_) fun _ hp => hp
  split
  · refine dfsCycle_fueled reg.pipelines.keys (fun q hq => ?_) ‹_› ?_
    · have hnone : reg.pipelines[q]? = none := getElem?_eq_none fun hmem => hq (mem_keys.mpr hmem)
      rw [jumpTargets, hnone]
    · have hle := countP_le_length (p := fun p => decide (color.getD p 0 = 0))
        (l := reg.pipelines.keys)
      rw [length_keys] at hle
      exact Nat.lt_succ_of_le hle
  · exact fun _ hp => hp

/-! ## The checks read backwards -/

def KernelRegistry.Uses (reg : KernelRegistry E) (pid : PipelineId) (hookId : HookId) : Prop :=
  ∃ pipeline, reg.pipelines[pid]? = some pipeline ∧ hookId ∈ pipeline.hooks

structure Verified (reg : KernelRegistry E) : Prop where
  pipeline_id : ∀ (pid : PipelineId) (pipeline : Pipeline),
    reg.pipelines[pid]? = some pipeline → pipeline.id = pid
  wired : ∀ wiring ∈ reg.wirings, wiring.pipeline ∈ reg.pipelines
  hook_spec : ∀ pid hookId, reg.Uses pid hookId → hookId ∈ reg.hooks
  hook_fn : ∀ pid hookId, reg.Uses pid hookId → hookId ∈ reg.fns
  jump_target : ∀ pid hookId, reg.Uses pid hookId →
    ∀ spec : HookSpec, reg.hooks[hookId]? = some spec →
    ∀ target ∈ spec.mayJumpTo, target ∈ reg.pipelines
  order : ∃ order, TopoOrder (jumpTargets reg) order ∧ ∀ pid ∈ reg.pipelines, pid ∈ order

lemma checkPipelineHooks_eq_ok :
    checkPipelineHooks reg check = .ok () ↔
      ∀ pid hookId, reg.Uses pid hookId → check pid hookId = .ok () := by
  simp only [checkPipelineHooks, checkAll_eq_ok]
  rw [forall_toList]
  constructor
  · rintro h pid hookId ⟨pipeline, hpipe, hmem⟩
    exact h pid pipeline hpipe hookId hmem
  · intro h pid pipeline hpipe hookId hmem
    exact h pid hookId ⟨pipeline, hpipe, hmem⟩

lemma checkWirings_wired (h : checkWirings reg met wirings = .ok met') :
    ∀ wiring ∈ wirings, wiring.pipeline ∈ reg.pipelines := by
  induction wirings generalizing met with
  | nil => simp
  | cons wiring rest ih =>
    simp only [checkWirings, reject] at h
    split at h
    · cases h
    split at h
    · cases h
    split at h
    · cases h
    · rename_i hpipe
      intro w hw
      rcases mem_cons.mp hw with rfl | hw
      · simpa using hpipe
      · exact ih h w hw

lemma verified_of_verify (h : verify reg = .ok ()) : Verified reg := by
  simp only [verify, seq_eq_ok] at h
  obtain ⟨hids, -, -, hwir, hhooks, -, -, -, htarg, hdag, -, -, -, -, hfns⟩ := h
  simp only [checkHooksExist, checkPipelineHooks_eq_ok, reject_eq_ok] at hhooks
  simp only [checkJumpTargets, checkPipelineHooks_eq_ok] at htarg
  simp only [checkHookFns, seq_eq_ok, checkPipelineHooks_eq_ok, reject_eq_ok] at hfns
  refine ⟨?_, ?_, ?_, ?_, ?_, exists_topoOrder hdag⟩
  · simp only [checkRegistryIdentities, seq_eq_ok, checkAll_eq_ok] at hids
    intro pid pipeline hpipe
    have hid := forall_toList.mp hids.2.2.2 pid pipeline hpipe
    simpa [checkIdentity] using hid
  · unfold checkWiringsExist at hwir
    generalize hmet : checkWirings reg [] reg.wirings = met at hwir
    cases met with
    | error e => cases hwir
    | ok met => exact checkWirings_wired hmet
  · intro pid hookId huses
    simpa using hhooks pid hookId huses
  · intro pid hookId huses
    simpa using hfns.2 pid hookId huses
  · intro pid hookId huses spec hspec target htgt
    have hcheck := htarg pid hookId huses
    simp only [hspec, checkAll_eq_ok, reject_eq_ok] at hcheck
    simpa using hcheck target htgt

/-! ## Other functions under the same ids -/

def KernelRegistry.withFns {E' : Type} (reg : KernelRegistry E)
    (fns : Std.TreeMap HookId (HookFn E')) : KernelRegistry E' where
  sources := reg.sources
  sinks := reg.sinks
  hooks := reg.hooks
  pipelines := reg.pipelines
  wirings := reg.wirings
  fns := fns

lemma contains_eq_of_keys_eq {s : Std.TreeMap String σ}
    {t : Std.TreeMap String τ} (h : s.keys = t.keys) (id : String) :
    s.contains id = t.contains id := by
  rw [← contains_keys, ← contains_keys, h]

section

lemma checkWirings_withFns :
    checkWirings (reg.withFns fns) wired wirings = checkWirings reg wired wirings := by
  induction wirings generalizing wired with
  | nil => rfl
  | cons wiring rest ih =>
    rw [checkWirings, ih]
    rfl

lemma checkHooksInOrder_withFns {available : List String} (hooks : List HookId) :
    checkHooksInOrder (reg.withFns fns) pid available hooks =
      checkHooksInOrder reg pid available hooks := by
  induction hooks generalizing available with
  | nil => rfl
  | cons hookId rest ih =>
    rw [checkHooksInOrder]
    simp only [ih]
    rfl

lemma verify_withFns (h : fns.keys = reg.fns.keys) : verify (reg.withFns fns) = verify reg := by
  have hshapes : checkIdShapes (reg.withFns fns) = checkIdShapes reg := by
    simp only [checkIdShapes, KernelRegistry.withFns, h]
  have hfns : checkHookFns (reg.withFns fns) = checkHookFns reg := by
    simp only [checkHookFns, checkPipelineHooks, KernelRegistry.withFns, h,
      contains_eq_of_keys_eq h]
  have hwir : checkWiringsExist (reg.withFns fns) = checkWiringsExist reg := by
    unfold checkWiringsExist
    rw [checkWirings_withFns]
    rfl
  have hrules : checkNamespaceRules (reg.withFns fns) = checkNamespaceRules reg := by
    unfold checkNamespaceRules
    simp only [checkHooksInOrder_withFns]
    rfl
  unfold verify
  rw [hshapes, hfns, hwir, hrules]
  rfl

end
end MeshBus.Kernel
