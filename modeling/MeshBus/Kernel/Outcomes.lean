import MeshBus.Kernel.Equivalence

/-!
# How the run of a verified registry ends

Each pipeline calls its hooks in order up to the one that stops it.  Over a
whole run the pipelines follow declared jumps, so on a verified registry the
only errors left are falling off the end and jumping too often.
-/

namespace MeshBus.Kernel

open Lib List CompiledHook
variable {E : Type}

/-! ## One pipeline -/

def Verdict.isTerminal : Verdict → Bool
  | .accept _ | .reject _ | .drop => true
  | .continue | .jump _ => false

def CompiledHook.Logs (hook : CompiledHook (E × HookLog)) : Prop :=
  ∃ f, hook.f = Kernel.logged hook.id f

def passed (hids : List HookId) : HookLog := hids.map fun hid => (hid, .continue)

/-- How a verdict stops the loop over the hooks. -/
inductive Stops (hook : CompiledHook E) : Verdict → HooksEnd → Prop
  | undeclared {verdict e}
      (h : checkTargets hook.id hook.mayAcceptTo hook.mayJumpTo verdict = .error e) :
      Stops hook verdict (.returned (.error e))
  | jumped {target} (h : target ∈ hook.mayJumpTo) : Stops hook (.jump target) (.jumped target)
  | terminal {verdict} (hterminal : verdict.isTerminal = true) :
      Stops hook verdict (.returned (.ok verdict))

/-- What the loop over the hooks does to the log. -/
inductive HooksRan (hooks : List (CompiledHook (E × HookLog))) (log : HookLog) :
    HooksEnd × (E × HookLog) × KernelCtx → Prop
  | fellOff {event ctx} :
      HooksRan hooks log (.fellOff, (event, log ++ passed (hooks.map CompiledHook.id)), ctx)
  | stopped {pre hook post verdict stop event ctx} (hsplit : hooks = pre ++ hook :: post)
      (hstop : Stops hook verdict stop) :
      HooksRan hooks log (stop,
        (event, log ++ (passed (pre.map CompiledHook.id) ++ [(hook.id, verdict)])), ctx)

/-- One call of a hook: its verdict is logged, and returned if it is declared. -/
inductive Called (hook : CompiledHook (E × HookLog)) (log : HookLog) :
    RunResult (E × HookLog) KernelCtx → Prop
  | undeclared {verdict e event ctx}
      (h : checkTargets hook.id hook.mayAcceptTo hook.mayJumpTo verdict = .error e) :
      Called hook log (.error e, (event, log ++ [(hook.id, verdict)]), ctx)
  | declared {verdict event ctx}
      (h : checkTargets hook.id hook.mayAcceptTo hook.mayJumpTo verdict = .ok ()) :
      Called hook log (.ok verdict, (event, log ++ [(hook.id, verdict)]), ctx)

variable {hook : CompiledHook (E × HookLog)} {hooks : List (CompiledHook (E × HookLog))}
  {current target : PipelineId}

lemma call_called (hlogs : hook.Logs) (event : E × HookLog) (ctx : KernelCtx) :
    Called hook event.2 (hook.call event ctx) := by
  obtain ⟨f, hf⟩ := hlogs
  simp only [call, callHook, hf, Kernel.logged]
  generalize f event.1 ctx = r
  obtain ⟨verdict, event', ctx'⟩ := r
  cases htarg : checkTargets hook.id hook.mayAcceptTo hook.mayJumpTo verdict with
  | error e => exact .undeclared htarg
  | ok u => exact .declared htarg

lemma mem_mayJumpTo
    (h : checkTargets hook.id hook.mayAcceptTo hook.mayJumpTo (.jump target) = .ok ()) :
    target ∈ hook.mayJumpTo := by
  simp only [checkTargets] at h
  split at h
  · simpa using ‹hook.mayJumpTo.contains target = true›
  · cases h

lemma HooksRan.cons {log : HookLog} {r : HooksEnd × (E × HookLog) × KernelCtx}
    (h : HooksRan hooks (log ++ [(hook.id, .continue)]) r) : HooksRan (hook :: hooks) log r := by
  cases h with
  | fellOff =>
    rw [append_assoc]
    exact .fellOff
  | @stopped pre next post verdict stop event ctx hsplit hstop =>
    rw [append_assoc]
    show HooksRan _ log (stop,
      (event, log ++ (passed ((hook :: pre).map CompiledHook.id) ++ [(next.id, verdict)])), ctx)
    exact .stopped (by rw [hsplit, cons_append]) hstop

lemma runHooks_ran (hlogs : ∀ hook ∈ hooks, hook.Logs) (event : E × HookLog) (ctx : KernelCtx) :
    HooksRan hooks event.2 (runHooks CompiledHook.call hooks event ctx) := by
  induction hooks generalizing event ctx with
  | nil =>
    have hran : HooksRan [] event.2 (.fellOff, (event.1, event.2 ++ passed []), ctx) := .fellOff
    rw [runHooks]
    simpa [passed] using hran
  | cons hook hooks ih =>
    have hcalled := call_called (hlogs hook mem_cons_self) event ctx
    rw [runHooks]
    generalize hook.call event ctx = r at hcalled ⊢
    have hfirst : ∀ {verdict stop event' ctx'}, Stops hook verdict stop →
        HooksRan (hook :: hooks) event.2
          (stop, (event', event.2 ++ (passed ([].map CompiledHook.id) ++ [(hook.id, verdict)])),
            ctx') :=
      fun hstop => .stopped (nil_append _).symm hstop
    cases hcalled with
    | undeclared h => exact hfirst (.undeclared h)
    | @declared verdict event' ctx' h =>
      cases verdict with
      | «continue» =>
        exact .cons (ih (fun hook hmem => hlogs hook (mem_cons_of_mem _ hmem))
          (event', event.2 ++ [(hook.id, .continue)]) ctx')
      | jump target => exact hfirst (.jumped (mem_mayJumpTo h))
      | _ => exact hfirst (.terminal rfl)

/-! ## Whole runs -/

def jumpsOf (calls : HookLog) : List PipelineId :=
  calls.filterMap fun call =>
    match call.2 with
    | .jump target => some target
    | _ => none

def Declared (reg : KernelRegistry E) (call : HookId × Verdict) : Prop :=
  ∀ spec : HookSpec, reg.hooks[call.1]? = some spec →
    checkTargets call.1 spec.mayAcceptTo spec.mayJumpTo call.2 = .ok ()

variable {reg : KernelRegistry E}

@[simp] lemma jumpsOf_passed (hids : List HookId) : jumpsOf (passed hids) = [] := by
  simp [jumpsOf, passed]

lemma jumpsOf_append (as bs : HookLog) : jumpsOf (as ++ bs) = jumpsOf as ++ jumpsOf bs :=
  filterMap_append

lemma logs_of_bound (h : reg.logged.bound hid = some hook) :
    hook.Logs ∧ ∃ spec, reg.hooks[hook.id]? = some spec ∧ hook.mayAcceptTo = spec.mayAcceptTo ∧
      hook.mayJumpTo = spec.mayJumpTo := by
  obtain ⟨rfl, hf, hspec⟩ := bound_eq_some h
  have hmap : (reg.fns.map Kernel.logged)[hook.id]? = some hook.f := hf
  rw [Std.TreeMap.getElem?_map, Option.map_eq_some_iff] at hmap
  obtain ⟨f, -, hlogged⟩ := hmap
  exact ⟨⟨f, hlogged.symm⟩, hspec⟩

lemma mem_graph (hgraph : reg.logged.graph pid = some hooks)
    (hmem : hook ∈ hooks) : reg.Uses pid hook.id ∧ reg.logged.bound hook.id = some hook := by
  obtain ⟨pipeline, hpipe, rfl⟩ := Option.map_eq_some_iff.mp hgraph
  obtain ⟨hid, hhid, hbound⟩ := mem_filterMap.mp hmem
  obtain ⟨rfl, -⟩ := bound_eq_some hbound
  exact ⟨⟨pipeline, hpipe, hhid⟩, hbound⟩

/-- One pipeline of a logged run, with its hooks `hids`: it passes some of them
and stops at one, or passes them all. -/
inductive PipelineRan (reg : KernelRegistry E) (fuel : Nat) (current : PipelineId)
    (hids : List HookId) (log : HookLog) : RunResult (E × HookLog) KernelCtx → Prop
  | fellOff {event ctx} : PipelineRan reg fuel current hids log
      (.error (.fellOffEnd current), (event, log ++ passed hids), ctx)
  | undeclared {pre hid post spec verdict e event ctx} (hsplit : hids = pre ++ hid :: post)
      (hspec : reg.hooks[hid]? = some spec)
      (h : checkTargets hid spec.mayAcceptTo spec.mayJumpTo verdict = .error e) :
      PipelineRan reg fuel current hids log
        (.error e, (event, log ++ (passed pre ++ [(hid, verdict)])), ctx)
  | terminal {pre hid post verdict event ctx} (hsplit : hids = pre ++ hid :: post)
      (h : verdict.isTerminal = true) :
      PipelineRan reg fuel current hids log
        (.ok verdict, (event, log ++ (passed pre ++ [(hid, verdict)])), ctx)
  | jumped {pre hid post spec target event ctx} (hsplit : hids = pre ++ hid :: post)
      (hspec : reg.hooks[hid]? = some spec) (htarget : target ∈ spec.mayJumpTo) :
      PipelineRan reg fuel current hids log
        (runFrom call reg.logged.graph fuel target
          (event, log ++ (passed pre ++ [(hid, .jump target)])) ctx)

lemma runFrom_ran (hv : Verified reg)
    (hpipe : reg.pipelines[current]? = some pipeline) (fuel : Nat) (event : E × HookLog)
    (ctx : KernelCtx) :
    PipelineRan reg fuel current pipeline.hooks event.2
      (runFrom call reg.logged.graph (fuel + 1) current event ctx) := by
  have hgraph : reg.logged.graph current = some (pipeline.hooks.filterMap reg.logged.bound) := by
    show reg.pipelines[current]?.map _ = _
    rw [hpipe]
    rfl
  have hran := runHooks_ran
    (fun hook hmem => (logs_of_bound (mem_graph hgraph hmem).2).1) event ctx
  have hids := map_id_bound (bound_isSome hv.logged hpipe)
  rw [runFrom, hgraph]
  dsimp only
  generalize pipeline.hooks.filterMap reg.logged.bound = hooks at hgraph hran hids ⊢
  generalize runHooks call hooks event ctx = r at hran ⊢
  rw [← hids]
  cases hran with
  | fellOff => exact .fellOff
  | @stopped pre hook post verdict stop event' ctx' hsplit hstop =>
    have hmem : hook ∈ hooks := by rw [hsplit]; simp
    obtain ⟨-, spec, hspec, haccept, hjump⟩ := logs_of_bound (mem_graph hgraph hmem).2
    have hspl' : hooks.map CompiledHook.id =
        pre.map CompiledHook.id ++ hook.id :: post.map CompiledHook.id := by
      rw [hsplit, map_append, map_cons]
    cases hstop with
    | undeclared herror => exact .undeclared hspl' hspec (haccept ▸ hjump ▸ herror)
    | terminal hterm => exact .terminal hspl' hterm
    | jumped htgt => exact .jumped hspl' hspec (hjump ▸ htgt)

/-- How a run with room for `fuel - 1` jumps ends, if it keeps to the declarations. -/
def EndsWell (fuel : Nat) (calls : HookLog) : Except PipelineRunError Verdict → Prop
  | .ok verdict => verdict.isTerminal = true ∧ (jumpsOf calls).length < fuel
  | .error (.fellOffEnd _) => (jumpsOf calls).length < fuel
  | .error .jumpDepthExceeded => (jumpsOf calls).length = fuel
  | .error _ => False

/-- A run that keeps to the declarations: it ends well, along declared jumps
between registered pipelines. -/
structure KeepsTo (reg : KernelRegistry E) (fuel : Nat) (current : PipelineId) (calls : HookLog)
    (result : Except PipelineRunError Verdict) : Prop where
  ends : EndsWell fuel calls result
  walk : List.IsChain (fun p q => q ∈ jumpTargets reg p) (current :: jumpsOf calls)
  registered : ∀ pid ∈ jumpsOf calls, pid ∈ reg.pipelines

lemma KeepsTo.of_no_jump (hends : EndsWell fuel calls result)
    (hjumps : jumpsOf calls = []) : KeepsTo reg fuel current calls result :=
  ⟨hends, by rw [hjumps]; exact .singleton _, by simp [hjumps]⟩

lemma KeepsTo.jump {fuel : Nat} {first calls : HookLog}
    {result : Except PipelineRunError Verdict} (hfirst : jumpsOf first = [target])
    (htgt : target ∈ jumpTargets reg current) (hreg : target ∈ reg.pipelines)
    (h : KeepsTo reg fuel target calls result) :
    KeepsTo reg (fuel + 1) current (first ++ calls) result := by
  have hjumps : jumpsOf (first ++ calls) = target :: jumpsOf calls := by
    rw [jumpsOf_append, hfirst, singleton_append]
  refine ⟨?_, ?_, ?_⟩
  · have hends := h.ends
    unfold EndsWell at hends ⊢
    split at hends <;> simp_all
  · rw [hjumps]
    exact isChain_cons_cons.mpr ⟨htgt, h.walk⟩
  · rw [hjumps]
    intro pid hpid
    rcases mem_cons.mp hpid with rfl | hpid
    · exact hreg
    · exact h.registered pid hpid

lemma mem_jumpTargets (huses : reg.Uses pid hid) (hspec : reg.hooks[hid]? = some spec)
    (htgt : target ∈ spec.mayJumpTo) : target ∈ jumpTargets reg pid := by
  obtain ⟨pipeline, hpipe, hmem⟩ := huses
  rw [jumpTargets, hpipe]
  exact mem_flatMap.mpr ⟨spec, mem_filterMap.mpr ⟨hid, hmem, hspec⟩, htgt⟩

lemma runFrom_keepsTo (hv : Verified reg) (hcurr : current ∈ reg.pipelines)
    (event : E × HookLog) (ctx : KernelCtx) :
    ∃ calls,
      (runFrom call reg.logged.graph fuel current event ctx).2.1.2 =
        event.2 ++ calls ∧
      ((∀ call ∈ calls, Declared reg call) → KeepsTo reg fuel current calls
        (runFrom call reg.logged.graph fuel current event ctx).1) := by
  induction fuel generalizing current event ctx with
  | zero => exact ⟨[], (append_nil _).symm, fun _ => .of_no_jump rfl rfl⟩
  | succ fuel ih =>
    obtain ⟨pipeline, hpipe⟩ := getElem?_of_mem hcurr
    have hran := runFrom_ran hv hpipe fuel event ctx
    generalize runFrom call reg.logged.graph (fuel + 1) current event ctx = r
      at hran ⊢
    cases hran with
    | fellOff =>
      exact ⟨passed _, rfl, fun _ => .of_no_jump (by simp [EndsWell]) (jumpsOf_passed _)⟩
    | @undeclared pre hid post spec verdict e event' ctx' hsplit hspec herror =>
      refine ⟨passed pre ++ [(hid, verdict)], rfl, fun hdecl => ?_⟩
      have hok := hdecl (hid, verdict) (by simp) spec hspec
      rw [hok] at herror
      cases herror
    | @terminal pre hid post verdict event' ctx' hsplit hterm =>
      refine ⟨passed pre ++ [(hid, verdict)], rfl, fun _ => ?_⟩
      have hjumps : jumpsOf (passed pre ++ [(hid, verdict)]) = [] := by
        rw [jumpsOf_append, jumpsOf_passed]
        cases verdict <;> first | rfl | cases hterm
      exact .of_no_jump ⟨hterm, by rw [hjumps]; exact Nat.succ_pos _⟩ hjumps
    | @jumped pre hid post spec target event' ctx' hsplit hspec htgt =>
      have huses : reg.Uses current hid := ⟨pipeline, hpipe, by rw [hsplit]; simp⟩
      have hreg := hv.jump_target current hid huses spec hspec target htgt
      obtain ⟨calls, hlog, hkeeps⟩ := ih hreg
        (event', event.2 ++ (passed pre ++ [(hid, .jump target)])) ctx'
      refine ⟨passed pre ++ [(hid, .jump target)] ++ calls, ?_, fun hdecl => ?_⟩
      · rw [append_assoc] at hlog
        exact hlog
      · refine .jump ?_ (mem_jumpTargets huses hspec htgt) hreg
          (hkeeps fun call hcall => hdecl call (mem_append_right _ hcall))
        rw [jumpsOf_append, jumpsOf_passed]
        rfl

/-- A verified registry compiles if every hook has a function, and the compiled
run is then the interpreted one where slots can tell the hooks apart.  A run of
a registered pipeline that keeps to the declarations ends with a terminal
verdict or at the end of a pipeline, unless it jumps more than `maxJumpDepth`
times, and then it has entered as many different pipelines. -/
theorem verified_runs_end_well (reg : KernelRegistry E) (hverify : verify reg = .ok ()) :
    (reg.HasFns → ∃ k, CompiledKernel.fromRegistry reg = .ok k ∧
      (Addressable reg → ∀ entry event ctx, k.runPipeline entry event ctx =
        some (runPipelineWithRegistry reg entry event ctx))) ∧
    ∀ entry ∈ reg.pipelines, ∀ event ctx,
      (∀ call ∈ executed reg entry event ctx, Declared reg call) →
      EndsWell (maxJumpDepth + 1) (executed reg entry event ctx)
        (runPipelineWithRegistry reg entry event ctx).1 ∧
      (entry :: jumpsOf (executed reg entry event ctx)).Nodup ∧
      ∀ pid ∈ jumpsOf (executed reg entry event ctx), pid ∈ reg.pipelines := by
  have hv := verified_of_verify hverify
  constructor
  · intro hfns
    obtain ⟨k, hk, hcomp⟩ := fromRegistry_ok hverify hfns
    exact ⟨k, hk, fun haddr => compiledRun_eq_interpreted hv haddr hcomp⟩
  · intro entry hentry event ctx hdecl
    obtain ⟨calls, hcalls, hkeeps⟩ := runFrom_keepsTo hv hentry (event, []) ctx
    have hrun := runPipelineWithRegistry_eq hv.logged entry (event, []) ctx
    have hexec : executed reg entry event ctx = calls := by
      rw [executed, hrun]
      exact hcalls
    have hres : (reg.logged.graph.run entry (event, []) ctx).1 =
        (runPipelineWithRegistry reg entry event ctx).1 := by
      rw [← hrun]
      exact (run_logged reg entry event [] ctx).1
    rw [hexec] at hdecl ⊢
    have hkept := hkeeps hdecl
    obtain ⟨order, htopo, hall⟩ := hv.order
    refine ⟨hres ▸ hkept.ends, ?_, hkept.registered⟩
    exact (htopo.walk_sublist (hall entry hentry) hkept.walk).nodup htopo.nodup

instance (reg : KernelRegistry E) (call : HookId × Verdict) : Decidable (Declared reg call) :=
  match h : reg.hooks[call.1]? with
  | none => isTrue fun spec hspec => by simp [h] at hspec
  | some spec =>
    decidable_of_iff (checkTargets call.1 spec.mayAcceptTo spec.mayJumpTo call.2 = .ok ())
      (by simp [Declared, h])

def letter (i : Nat) : String :=
  String.ofList [Char.ofNat (if i < 26 then 65 + i else 71 + i)]

/-- The hook of the `i`-th of `n` pipelines jumps to the next one, if there is one. -/
def chainSpec (n i : Nat) : HookSpec where
  __ := idleSpec (letter i)
  mayJump := i + 1 < n
  mayJumpTo := if i + 1 < n then [letter (i + 1)] else []

def chainFn (n i : Nat) : HookFn Unit := fun event ctx =>
  (if i + 1 < n then .jump (letter (i + 1)) else .drop, event, ctx)

/-- `n` pipelines in a row; the last one drops the event. -/
def chainRegistry (n : Nat) : KernelRegistry Unit where
  sources := mapOf ["s"] fun id => ⟨id, "application/source", []⟩
  sinks := ∅
  hooks := .ofList ((range n).map fun i => (letter i, chainSpec n i))
  pipelines := .ofList ((range n).map fun i =>
    (letter i, (⟨letter i, [letter i]⟩ : Pipeline)))
  wirings := [⟨"s", "A"⟩]
  fns := .ofList ((range n).map fun i => (letter i, chainFn n i))

theorem verified_runs_end_well_chain :
    verify (chainRegistry 3) = .ok () ∧
      EndsWell (maxJumpDepth + 1) (executed (chainRegistry 3) "A" () ⟨[]⟩)
        (runPipelineWithRegistry (chainRegistry 3) "A" () ⟨[]⟩).1 ∧
      jumpsOf (executed (chainRegistry 3) "A" () ⟨[]⟩) = ["B", "C"] := by
  have hvfy : verify (chainRegistry 3) = .ok () := by decide +kernel
  refine ⟨hvfy, ((verified_runs_end_well (chainRegistry 3) hvfy).2 "A" (by decide +kernel) ()
    ⟨[]⟩ (by decide +kernel)).1, by decide +kernel⟩

def spareRegistry : KernelRegistry Unit where
  sources := mapOf ["s"] fun id => ⟨id, "application/source", []⟩
  sinks := ∅
  hooks := mapOf ["used", "spare"] idleSpec
  pipelines := mapOf ["p"] fun id => ⟨id, ["used"]⟩
  wirings := [⟨"s", "p"⟩]
  fns := mapOf ["used"] fun _ => idle

/-- A hook without a function that is in no pipeline passes verification and makes
compilation panic; a verified chain of 34 pipelines exceeds the jump depth. -/
theorem verified_registry_fails :
    (verify spareRegistry = .ok () ∧ CompiledKernel.fromRegistry spareRegistry =
      .error (.panicked "verify() guarantees hook fn")) ∧
    verify (chainRegistry 34) = .ok () ∧
      (∀ call ∈ executed (chainRegistry 34) "A" () ⟨[]⟩, Declared (chainRegistry 34) call) ∧
      (runPipelineWithRegistry (chainRegistry 34) "A" () ⟨[]⟩).1 = .error .jumpDepthExceeded := by
  refine ⟨⟨by decide +kernel, rfl⟩, by decide +kernel, by decide +kernel, by decide +kernel⟩

end MeshBus.Kernel
