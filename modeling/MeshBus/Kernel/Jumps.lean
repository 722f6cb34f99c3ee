import MeshBus.Kernel.Outcomes
import Mathlib.Logic.Relation

/-!
# What the jump check accepts

A search that fails has met a pipeline on its own path.  Every pipeline on the path
leads to the one that is visited, so that the jump back closes a cycle; and a search that
succeeds has put the pipelines in an order that no cycle is compatible with.
-/

namespace MeshBus.Kernel

open Lib Relation List

/-- Some hook of `p` declares `q` as a jump target. -/
def KernelRegistry.Jumps (reg : KernelRegistry E) (p q : PipelineId) : Prop :=
  ∃ hookId, reg.Uses p hookId ∧ ∃ spec : HookSpec, reg.hooks[hookId]? = some spec ∧
    q ∈ spec.mayJumpTo

lemma jumpTargets_eq_jumps : (fun p q => q ∈ jumpTargets reg p) = reg.Jumps := by
  funext p q
  refine propext ⟨fun h => ?_, ?_⟩
  · unfold jumpTargets at h
    split at h
    · cases h
    · next pipeline hpipe =>
        obtain ⟨spec, hspec, hq⟩ := mem_flatMap.mp h
        obtain ⟨hookId, hmem, hspec⟩ := mem_filterMap.mp hspec
        exact ⟨hookId, ⟨pipeline, hpipe, hmem⟩, spec, hspec, hq⟩
  · rintro ⟨hookId, huses, spec, hspec, hq⟩
    exact mem_jumpTargets huses hspec hq

section
variable {adj : PipelineId → List PipelineId}

lemma not_transGen_of_topoOrder (h : TopoOrder adj order) (ha : a ∈ order)
    (hab : TransGen (fun p q => q ∈ adj p) a b) : b ∈ order ∧ b ≠ a := by
  induction order generalizing a with
  | nil => cases ha
  | cons c rest ih =>
    obtain ⟨hsucc, hnew, hrest⟩ := h
    rcases mem_cons.mp ha with rfl | ha
    · -- behind the first step every pipeline stands in the rest
      have hmem : b ∈ rest := by
        obtain ⟨d, hfirst, hlater⟩ := TransGen.head'_iff.mp hab
        rcases reflTransGen_iff_eq_or_transGen.mp hlater with rfl | hlater
        · exact hsucc _ hfirst
        · exact (ih hrest (hsucc d hfirst) hlater).1
      exact ⟨mem_cons_of_mem _ hmem, fun heq => hnew (heq ▸ hmem)⟩
    · exact (ih hrest ha hab).imp_left (mem_cons_of_mem _)

lemma foldlM_failed {visit : Colors → PipelineId → Except (Option VerifyError) Colors}
    {ps : List PipelineId}
    (hvisit : ∀ color p color' order, Progress start color → Finished adj color order →
      visit color p = .ok color' →
      Progress color color' ∧ 2 ≤ color'.getD p 0 ∧ ∃ order', Finished adj color' order')
    (hfold : ps.foldlM visit color = .error e) (hstart : Progress start color)
    (horder : Finished adj color order) :
    ∃ p ∈ ps, ∃ mid order', Progress start mid ∧ Finished adj mid order' ∧
      visit mid p = .error e := by
  induction ps generalizing color order with
  | nil => cases hfold
  | cons p ps ih =>
    rw [foldlM_cons] at hfold
    cases hp : visit color p with
    | error found =>
      rw [hp] at hfold
      cases hfold
      exact ⟨p, mem_cons_self, color, order, hstart, horder, hp⟩
    | ok mid =>
      rw [hp] at hfold
      obtain ⟨hprog, -, order', hord'⟩ := hvisit _ _ _ _ hstart horder hp
      obtain ⟨q, hq, hfound⟩ := ih hfold (hstart.trans hprog) hord'
      exact ⟨q, mem_cons_of_mem _ hq, hfound⟩

/-- The search fails inside a cycle, if the path leads to where it starts. -/
lemma dfsCycle_failed (hfailed : dfsCycle adj fuel node color = .error (some e))
    (hwhite : color.getD node 0 = 0) (hfin : Finished adj color order)
    (hpath : ∀ p, color.getD p 0 = 1 → ReflTransGen (fun p q => q ∈ adj p) p node) :
    ∃ p, TransGen (fun p q => q ∈ adj p) p p := by
  induction fuel generalizing node color order with
  | zero => cases hfailed
  | succ fuel ih =>
    rw [dfsCycle] at hfailed
    generalize hloop : foldlM (m := Except (Option VerifyError)) _ (color.insert node 1)
      (adj node) = loop at hfailed
    cases loop with
    | ok mid => cases hfailed
    | error found =>
      cases hfailed
      obtain ⟨q, hq, mid, order', hprog, hfin', hvisit⟩ := foldlM_failed
        (by
          intro color p color' order _ hfin hvisit
          split at hvisit
          · exact dfsCycle_finished hvisit ‹_› hfin
          · cases hvisit
          · cases hvisit
            exact ⟨.refl _, by grind, order, hfin⟩)
        hloop (.refl _) (hfin.enter hwhite)
      have hlead : ∀ p, mid.getD p 0 = 1 → ReflTransGen (fun p q => q ∈ adj p) p node := by
        intro p hp
        rw [hprog.path, getD_insert_color] at hp
        split at hp
        · next heq => exact heq ▸ .refl
        · exact hpath p hp
      split at hvisit
      · exact ih hvisit ‹_› hfin' fun p hp => (hlead p hp).tail hq
      · exact ⟨q, .tail' (hlead q ‹_›) hq⟩
      · cases hvisit

end

variable {reg : KernelRegistry E}

lemma cycle_of_searchJumpsIn (h : searchJumpsIn reg pids = .error (some e)) :
    ∃ p, TransGen reg.Jumps p p := by
  rw [← jumpTargets_eq_jumps]
  obtain ⟨p, -, mid, order, hprog, hfin, hvisit⟩ := foldlM_failed
    (fun _ _ _ _ hstart hfin hvisit => start_finished hstart hfin hvisit) h (.refl _)
    finished_empty
  split at hvisit
  · refine dfsCycle_failed hvisit ‹_› hfin fun q hq => ?_
    rw [hprog.path] at hq
    simp at hq
  · cases hvisit

lemma searchJumpsIn_acyclic (h : searchJumpsIn reg pids = .ok color)
    (hpids : pids.Perm reg.pipelines.keys) (p : PipelineId) : ¬TransGen reg.Jumps p p := by
  intro hcycle
  obtain ⟨order, htopo, hall⟩ := topoOrder_of_searchJumpsIn h
  obtain ⟨_, ⟨_, ⟨pipeline, hpipe, -⟩, -⟩, -⟩ := TransGen.head'_iff.mp hcycle
  have hmem : p ∈ pids := hpids.mem_iff.mpr (Std.TreeMap.mem_keys.mpr (mem_of_getElem? hpipe))
  rw [← jumpTargets_eq_jumps] at hcycle
  exact (not_transGen_of_topoOrder htopo (hall p hmem) hcycle).2 rfl

/-- Whatever the order of the pipelines, the search ends, and it succeeds exactly if there is no
cycle of declared jumps; so the jump check accepts exactly the registries without one. -/
theorem jump_check_exact (reg : KernelRegistry E) (pids : List PipelineId)
    (hpids : pids.Perm reg.pipelines.keys) :
    searchJumpsIn reg pids ≠ .error none ∧
      ((∃ color, searchJumpsIn reg pids = .ok color) ↔ ∀ p, ¬TransGen reg.Jumps p p) ∧
      (checkJumpDag reg = .ok () ↔ ∃ color, searchJumpsIn reg pids = .ok color) := by
  have hiff : ∀ {pids : List PipelineId}, pids.Perm reg.pipelines.keys →
      ((∃ color, searchJumpsIn reg pids = .ok color) ↔ ∀ p, ¬TransGen reg.Jumps p p) := by
    intro pids hpids
    refine ⟨?_, fun hacyc => ?_⟩
    · rintro ⟨color, h⟩
      exact searchJumpsIn_acyclic h hpids
    · have hfueled := searchJumpsIn_fueled reg pids
      cases hsearch : searchJumpsIn reg pids with
      | ok color => exact ⟨color, rfl⟩
      | error found =>
        rw [hsearch] at hfueled
        obtain ⟨e, rfl⟩ := Option.ne_none_iff_exists'.mp hfueled
        obtain ⟨p, hcycle⟩ := cycle_of_searchJumpsIn hsearch
        exact absurd hcycle (hacyc p)
  refine ⟨fun h => ?_, hiff hpids, ?_⟩
  · have hfueled := searchJumpsIn_fueled reg pids
    rw [h] at hfueled
    exact hfueled rfl
  · rw [hiff hpids, ← hiff (List.Perm.refl _)]
    unfold checkJumpDag
    show _ ↔ ∃ color, searchJumps reg = .ok color
    cases searchJumps reg with
    | ok color => simp
    | error found => cases found <;> simp

theorem jump_check_exact_chain :
    ["C", "B", "A"].Perm (chainRegistry 3).pipelines.keys ∧
      checkJumpDag (chainRegistry 3) = .ok () ∧ ∀ p, ¬TransGen (chainRegistry 3).Jumps p p := by
  have hperm : ["C", "B", "A"].Perm (chainRegistry 3).pipelines.keys := by decide +kernel
  have hok : checkJumpDag (chainRegistry 3) = .ok () := by decide +kernel
  obtain ⟨-, hacyc, hcheck⟩ := jump_check_exact (chainRegistry 3) ["C", "B", "A"] hperm
  exact ⟨hperm, hok, hacyc.mp (hcheck.mp hok)⟩

end MeshBus.Kernel
