import MeshBus.Lib.Run

/-!
# Shutting the bus down

`Bus::run` takes frames from its channel, counts each in `in_flight` and spawns a
task for it; the task that brings the counter back to zero calls `notify_waiters`.
`BusHandle::shutdown` loads the counter and, while it is not zero, waits to be
notified.  The load and the registration of the waiter are two steps: a task that
finishes between them wakes nobody.
-/

namespace MeshBus.Kernel

open Lib List

/-- Where the loop of `run` stands. -/
inductive LoopPhase where
  | idle
  /-- A frame is received and waits for a permit. -/
  | holding
  | permitted
  /-- `in_flight` counts the frame; its task is not spawned yet. -/
  | counted
  | ended
deriving DecidableEq, Repr

inductive TaskPhase where
  | running
  /-- The task brought `in_flight` to zero and has not called `notify_waiters`. -/
  | last
  /-- All that is left is to drop the permit. -/
  | finishing
  | ended
deriving DecidableEq, Repr

/-- Where the caller of `shutdown` stands. -/
inductive CallerPhase where
  | away
  /-- About to load `in_flight`. -/
  | checking
  /-- The load was not zero; `notified` is not called yet. -/
  | sawWork
  | registered
  | joining
  | returned
deriving DecidableEq, Repr

def dispatchConcurrencyLimit : Nat := 512

def submitCapacity : Nat := 256

/-- The loop, the tasks and the caller.  Of the frames in the channel only their
number matters. -/
structure Draining where
  shutdown : Bool
  inFlight : Nat
  queued : Nat
  permits : Nat
  loop : LoopPhase
  tasks : List TaskPhase
  caller : CallerPhase
  /-- The caller is in `shutdown_with_timeout`. -/
  timed : Bool
  /-- `join.abort()` was called. -/
  aborted : Bool

namespace Draining

def new : Draining :=
  ⟨false, 0, 0, dispatchConcurrencyLimit, .idle, [], .away, false, false⟩

inductive Action where
  | submit
  | receive
  | acquire
  | count
  | spawn
  /-- The loop's sleep is over. -/
  | tick
  /-- An aborted loop ends where it awaits something. -/
  | stop
  /-- The dispatch of a task is done, and it takes its frame off the counter. -/
  | uncount (task : Nat)
  /-- The dispatch of a task panics. -/
  | panic (task : Nat)
  | notify (task : Nat)
  | release (task : Nat)
  | callShutdown (timed : Bool)
  | load
  | register
  /-- The deadline of `shutdown_with_timeout` passes. -/
  | expire
  | join
deriving DecidableEq, Repr

def act (s : Draining) : Action → Option Draining
  | .submit =>
    if s.queued < submitCapacity ∧ s.loop ≠ .ended then some { s with queued := s.queued + 1 }
    else none
  | .receive =>
    if s.loop = .idle ∧ s.queued ≠ 0 then
      some { s with loop := .holding, queued := s.queued - 1 }
    else none
  | .acquire =>
    if s.loop = .holding ∧ s.permits ≠ 0 then
      some { s with loop := .permitted, permits := s.permits - 1 }
    else none
  | .count =>
    if s.loop = .permitted then some { s with loop := .counted, inFlight := s.inFlight + 1 }
    else none
  | .spawn =>
    if s.loop = .counted then some { s with loop := .idle, tasks := s.tasks ++ [.running] }
    else none
  | .tick =>
    if s.loop = .idle then some { s with loop := if s.shutdown then .ended else .idle }
    else none
  | .stop =>
    if s.aborted ∧ (s.loop = .idle ∨ s.loop = .holding) then some { s with loop := .ended }
    else none
  | .uncount task =>
    if s.tasks[task]? = some .running then
      some { s with
        inFlight := s.inFlight - 1
        tasks := s.tasks.set task (if s.inFlight = 1 then .last else .finishing) }
    else none
  | .panic task =>
    -- unwinding drops the permit; the frame stays counted
    if s.tasks[task]? = some .running then
      some { s with tasks := s.tasks.set task .ended, permits := s.permits + 1 }
    else none
  | .notify task =>
    if s.tasks[task]? = some .last then
      some { s with
        tasks := s.tasks.set task .finishing
        caller := if s.caller = .registered then .checking else s.caller }
    else none
  | .release task =>
    if s.tasks[task]? = some .finishing then
      some { s with tasks := s.tasks.set task .ended, permits := s.permits + 1 }
    else none
  | .callShutdown timed =>
    if s.caller = .away then
      some { s with shutdown := true, caller := .checking, timed := timed }
    else none
  | .load =>
    if s.caller = .checking then
      some { s with caller := if s.inFlight = 0 then .joining else .sawWork }
    else none
  | .register => if s.caller = .sawWork then some { s with caller := .registered } else none
  | .expire =>
    if s.timed ∧ (s.caller = .sawWork ∨ s.caller = .registered) then
      some { s with caller := .returned, aborted := true }
    else none
  | .join =>
    if s.caller = .joining ∧ s.loop = .ended then some { s with caller := .returned } else none

def step (s : Draining) (action : Action) : Draining × Unit := ((s.act action).getD s, ())

/-- Everything is done, and the caller waits to be told. -/
structure Hung (s : Draining) : Prop where
  idle : s.inFlight = 0
  tasks : ∀ task ∈ s.tasks, task = .ended
  frames : s.loop = .ended ∨ s.loop = .idle ∧ s.queued = 0
  blocked : s.caller = .registered

/-- A frame is counted, or the last task has yet to call `notify_waiters`. -/
def WillNotify (s : Draining) : Prop :=
  s.inFlight ≠ 0 ∨ .last ∈ s.tasks

/-- The waiter is registered while there is somebody to wake it. -/
def InTime (s : Draining) : Action → Prop
  | .register => s.WillNotify
  | _ => True

section
variable {tasks : List TaskPhase} {i : Nat} {phase before : TaskPhase}

lemma count_running_set (hbef : tasks[i]? = some .running) (hphase : phase ≠ .running) :
    (tasks.set i phase).count .running + 1 = tasks.count .running := by
  obtain ⟨hi, hget⟩ := List.getElem?_eq_some_iff.mp hbef
  have hpos : 0 < tasks.count .running := count_pos_iff.mpr (mem_of_getElem? hbef)
  rw [count_set hi, hget]
  simp [hphase]
  omega

lemma count_running_set_of_ne (hbef : tasks[i]? = some before) (hne : before ≠ .running)
    (hphase : phase ≠ .running) : (tasks.set i phase).count .running = tasks.count .running := by
  obtain ⟨hi, hget⟩ := List.getElem?_eq_some_iff.mp hbef
  rw [count_set hi, hget]
  simp [hne, hphase]

lemma last_mem_set (hlast : .last ∈ tasks) (hbef : tasks[i]? = some before)
    (hne : before ≠ .last) : .last ∈ tasks.set i phase := by
  obtain ⟨j, hj⟩ := mem_iff_getElem?.mp hlast
  apply mem_iff_getElem?.mpr
  refine ⟨j, ?_⟩
  have hij : i ≠ j := by
    rintro rfl
    rw [hbef] at hj
    exact hne (Option.some.inj hj)
  rw [getElem?_set_ne hij, hj]

end

lemma of_enabled {guard : Prop} [Decidable guard]
    (h : (if guard then some s else none) = some s') : guard ∧ s = s' := by
  split at h
  · rename_i hguard
    exact ⟨hguard, Option.some.inj h⟩
  · cases h

/-- Every running task is counted, and a registered waiter will be woken. -/
structure Sound (s : Draining) : Prop where
  counted : s.tasks.count .running + (if s.loop = .counted then 1 else 0) ≤ s.inFlight
  woken : s.caller = .registered → s.WillNotify

lemma Sound.new : Sound .new where
  counted := le_rfl
  woken h := by cases h

lemma WillNotify.set {s : Draining}
    (h : s.WillNotify) (hbef : s.tasks[i]? = some before) (hne : before ≠ .last) :
    s.inFlight ≠ 0 ∨ .last ∈ s.tasks.set i phase :=
  h.imp_right fun hlast => last_mem_set hlast hbef hne

lemma Sound.act (h : Sound s) (hok : s.InTime action)
    (hact : s.act action = some s') : Sound s' := by
  have hcnt := h.counted
  cases action with
  | submit =>
    obtain ⟨-, rfl⟩ := of_enabled hact
    exact ⟨hcnt, h.woken⟩
  | receive | acquire | stop =>
    -- the loop moves, and no frame of it is counted before or after
    obtain ⟨-, rfl⟩ := of_enabled hact
    refine ⟨?_, h.woken⟩
    simp only [reduceCtorEq, if_false]
    omega
  | tick =>
    obtain ⟨-, rfl⟩ := of_enabled hact
    refine ⟨?_, h.woken⟩
    have hnext : (if s.shutdown then LoopPhase.ended else .idle) ≠ .counted := by
      split <;> decide
    simp only [hnext, if_false]
    omega
  | count =>
    obtain ⟨hloop, rfl⟩ := of_enabled hact
    refine ⟨?_, fun _ => .inl (Nat.succ_ne_zero _)⟩
    simp only [hloop, reduceCtorEq, if_false, if_true] at hcnt ⊢
    omega
  | spawn =>
    obtain ⟨hloop, rfl⟩ := of_enabled hact
    refine ⟨?_, fun hcall => (h.woken hcall).imp_right (mem_append_left _)⟩
    simp only [hloop, if_true] at hcnt
    simpa using hcnt
  | uncount task =>
    obtain ⟨hbef, rfl⟩ := of_enabled hact
    have hset := @count_running_set s.tasks task
      (if s.inFlight = 1 then .last else .finishing) hbef (by split <;> decide)
    refine ⟨?_, fun hcall => ?_⟩
    · dsimp only
      omega
    · by_cases hone : s.inFlight = 1
      · obtain ⟨htask, -⟩ := List.getElem?_eq_some_iff.mp hbef
        rw [if_pos hone]
        exact .inr (mem_set htask _)
      · exact .inl (by change s.inFlight - 1 ≠ 0; omega)
  | panic task =>
    obtain ⟨hbef, rfl⟩ := of_enabled hact
    have hset := @count_running_set s.tasks task .ended hbef (by decide)
    refine ⟨?_, fun hcall => (h.woken hcall).set hbef (by decide)⟩
    dsimp only
    omega
  | notify task =>
    obtain ⟨hbef, rfl⟩ := of_enabled hact
    have hset := @count_running_set_of_ne s.tasks task .finishing _ hbef (by decide) (by decide)
    refine ⟨?_, fun hcall => ?_⟩
    · dsimp only
      omega
    · -- a waiter that was registered is checking now
      split at hcall
      · cases hcall
      · rename_i hnot
        exact absurd hcall hnot
  | release task =>
    obtain ⟨hbef, rfl⟩ := of_enabled hact
    have hset := @count_running_set_of_ne s.tasks task .ended _ hbef (by decide) (by decide)
    refine ⟨?_, fun hcall => (h.woken hcall).set hbef (by decide)⟩
    dsimp only
    omega
  | callShutdown | expire | join =>
    obtain ⟨-, rfl⟩ := of_enabled hact
    exact ⟨hcnt, fun hcall => (by cases hcall)⟩
  | load =>
    obtain ⟨-, rfl⟩ := of_enabled hact
    refine ⟨hcnt, fun hcall => ?_⟩
    split at hcall <;> cases hcall
  | register =>
    obtain ⟨-, rfl⟩ := of_enabled hact
    exact ⟨hcnt, fun _ => hok⟩

lemma Sound.step {s : Draining} (h : Sound s) (action : Action) (hok : s.InTime action) :
    Sound (s.step action).1 := by
  unfold Draining.step
  cases hact : s.act action with
  | none => exact h
  | some s' => exact h.act hok hact

lemma Sound.not_hung (h : Sound s) : ¬s.Hung := by
  intro hhung
  rcases h.woken hhung.blocked with hcnt | hlast
  · exact hcnt hhung.idle
  · cases hhung.tasks _ hlast

/-- The caller of `shutdown` never hangs on finished work in a run in which its
waiter is registered only while a frame is counted or the last task has yet to
notify. -/
theorem shutdown_never_hangs (actions : List Action)
    (hintime : Along step (fun _ s action => s.InTime action) [] .new actions) :
    ¬(run step .new actions).1.Hung := by
  have hsound := @run_invariant _ _ _ step (fun _ s => Sound s) _
    (fun _ s action h hok => h.step action hok) actions [] .new Sound.new hintime
  exact hsound.not_hung

def waitAndWake : List Action :=
  [.submit, .receive, .acquire, .count, .spawn, .callShutdown false, .load, .register,
    .uncount 0, .notify 0, .release 0, .load, .tick, .join]

theorem woken_caller_returns :
    (run step .new waitAndWake).1.caller = .returned ∧ ¬(run step .new waitAndWake).1.Hung := by
  refine ⟨by decide, shutdown_never_hangs waitAndWake ?_⟩
  simp only [waitAndWake, Along, InTime, true_and, and_true]
  exact .inl (by decide)

/-- The last task finishes between the load and the registration. -/
theorem late_waiter_hangs :
    (run step .new [.submit, .receive, .acquire, .count, .spawn, .callShutdown false, .load,
      .uncount 0, .notify 0, .release 0, .register, .tick]).1.Hung := by
  exact ⟨by decide, by decide, by decide, by decide⟩

end Draining
end MeshBus.Kernel
