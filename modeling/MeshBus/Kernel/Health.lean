import MeshBus.Kernel.Attempts
import MeshBus.Kernel.Observation

/-!
# The health of exits

Failures and successes of exits reach the health observer as samples.  Its
drainer records each sample in a table and publishes the exits that may not be
dispatched to at the time of that sample; dispatch reads the last publication.
So an exit whose probe delay has run out since then is still left out.
-/

namespace MeshBus.Kernel

open Lib List

/-! ## The health table -/

def u8Max : Nat := 255

structure HealthPolicy where
  failureThreshold : Nat
  recoveryWindowMs : Nat
  probeAfterMs : Nat

def HealthPolicy.default : HealthPolicy where
  failureThreshold := 2
  recoveryWindowMs := 60000
  probeAfterMs := 1000

structure ExitHealth where
  failures : Nat
  lastFailureMs : Nat
  lastSuccessMs : Nat

structure ExitHealthTable where
  policy : HealthPolicy
  exits : Table String ExitHealth

namespace ExitHealthTable

def new (policy : HealthPolicy) : ExitHealthTable := ⟨policy, ∅⟩

def canDispatch (t : ExitHealthTable) (exitId : String) (nowMs : Nat) : Bool :=
  match t.exits.lookup exitId with
  | none => true
  | some health =>
    if health.failures < t.policy.failureThreshold then true
    else decide (t.policy.probeAfterMs ≤ nowMs - health.lastFailureMs)

def record (t : ExitHealthTable) (exitId : String) (success : Bool) (nowMs : Nat) :
    ExitHealthTable :=
  let health := (t.exits.lookup exitId).getD ⟨0, 0, 0⟩
  let health :=
    if success then
      { health with failures := 0, lastSuccessMs := nowMs }
    else
      let failures :=
        if t.policy.recoveryWindowMs < nowMs - health.lastFailureMs then 0 else health.failures
      { health with failures := min (failures + 1) u8Max, lastFailureMs := nowMs }
  { t with exits := t.exits.insert exitId health }

end ExitHealthTable

/-! ## The observer -/

/-- What the health observer reads of an event. -/
structure EventPayload where
  exitId : Option String
  selectedExit : Option String
  success : Option Bool
  atMs : Nat

structure EventEnvelope where
  typeId : EventTypeId
  payload : EventPayload

inductive Sample where
  | success (exitId : String) (atMs : Nat)
  | failure (exitId : String) (atMs : Nat)
  deriving DecidableEq

def Sample.atMs : Sample → Nat
  | .success _ atMs => atMs
  | .failure _ atMs => atMs

def onCoreEvent (env : EventEnvelope) : Option Sample :=
  match env.payload.selectedExit.or env.payload.exitId with
  | none => none
  | some exitId =>
    match env.typeId with
    | .core .flowClosed =>
      if env.payload.success.getD true then some (.success exitId env.payload.atMs)
      else some (.failure exitId env.payload.atMs)
    | .core .pathIoError => some (.failure exitId env.payload.atMs)
    | _ => none

def sampleCapacity : Nat := 4096

structure HealthState where
  /-- Samples on their way to the drainer. -/
  samples : List Sample
  table : ExitHealthTable
  snapshot : HealthSnapshot

inductive HealthStep where
  | event (env : EventEnvelope)
  /-- The drainer takes the oldest sample. -/
  | drain

def ExitHealthTable.recordSample (t : ExitHealthTable) : Sample → ExitHealthTable
  | .success exitId atMs => t.record exitId true atMs
  | .failure exitId atMs => t.record exitId false atMs

def publishHealth (exitIds : List ExitId) (t : ExitHealthTable) (nowMs : Nat) : HealthSnapshot :=
  ⟨exitIds.filter fun exitId => !t.canDispatch exitId nowMs⟩

namespace HealthState

def new (policy : HealthPolicy) : HealthState := ⟨[], .new policy, ⟨[]⟩⟩

/-- One step, with the sample that it recorded.  A sample that finds the queue
full is lost. -/
def step (exitIds : List ExitId) (s : HealthState) : HealthStep → HealthState × Option Sample
  | .event env =>
    match onCoreEvent env with
    | none => (s, none)
    | some sample =>
      if s.samples.length < sampleCapacity then
        ({ s with samples := s.samples ++ [sample] }, none)
      else
        (s, none)
  | .drain =>
    match s.samples with
    | [] => (s, none)
    | sample :: rest =>
      let table := s.table.recordSample sample
      (⟨rest, table, publishHealth exitIds table sample.atMs⟩, some sample)

end HealthState

/-! ## What the snapshot says -/

def recordedIn (past : List (HealthStep × Option Sample)) : List Sample :=
  past.filterMap Prod.snd

def tableOf (policy : HealthPolicy) (samples : List Sample) : ExitHealthTable :=
  samples.foldl ExitHealthTable.recordSample (.new policy)

def lastSampleMs (samples : List Sample) : Nat := (samples.getLast?.map Sample.atMs).getD 0

/-- The table is that of the recorded samples, and the snapshot was right when the
last of them was recorded. -/
structure Published (policy : HealthPolicy) (exitIds : List ExitId)
    (past : List (HealthStep × Option Sample)) (s : HealthState) : Prop where
  table : s.table = tableOf policy (recordedIn past)
  snapshot : ∀ exitId ∈ exitIds, exitId ∈ s.snapshot.unhealthy ↔
    (tableOf policy (recordedIn past)).canDispatch exitId (lastSampleMs (recordedIn past)) = false

lemma published_step (h : Published policy exitIds past s) {step : HealthStep} :
    Published policy exitIds (past ++ [(step, (s.step exitIds step).2)])
      (s.step exitIds step).1 := by
  have hsame : ∀ s' : HealthState, s'.table = s.table → s'.snapshot = s.snapshot →
      Published policy exitIds (past ++ [(step, none)]) s' := by
    intro s' htable hsnap
    have hrec : recordedIn (past ++ [(step, none)]) = recordedIn past := by
      simp [recordedIn]
    exact ⟨by rw [htable, hrec, h.table], by rw [hsnap, hrec]; exact h.snapshot⟩
  cases step with
  | event env =>
    simp only [HealthState.step]
    split
    · exact hsame s rfl rfl
    · split
      · exact hsame _ rfl rfl
      · exact hsame s rfl rfl
  | drain =>
    simp only [HealthState.step]
    split
    · exact hsame s rfl rfl
    · rename_i sample rest hsamp
      have hrec : recordedIn (past ++ [(.drain, some sample)]) =
          recordedIn past ++ [sample] := by simp [recordedIn]
      have htable : tableOf policy (recordedIn past ++ [sample]) =
          s.table.recordSample sample := by simp [tableOf, h.table]
      have htime : lastSampleMs (recordedIn past ++ [sample]) = sample.atMs := by
        simp [lastSampleMs]
      refine ⟨by rw [hrec, htable], fun exitId hexit => ?_⟩
      rw [hrec, htable, htime]
      simp [publishHealth, hexit]

lemma published_run (policy : HealthPolicy) (exitIds : List ExitId) (steps : List HealthStep) :
    Published policy exitIds (history (HealthState.step exitIds) (.new policy) steps)
      (run (HealthState.step exitIds) (.new policy) steps).1 :=
  @run_history_invariant _ _ _ (HealthState.step exitIds) (Published policy exitIds)
    (fun _ _ step h => published_step h) _ steps
    ⟨rfl, fun _ _ => by simp [HealthState.new, recordedIn, tableOf, ExitHealthTable.new,
      ExitHealthTable.canDispatch]⟩

/-! ## Candidates left out -/

def matchingCandidates (egresses : List Egress) (flowSemantics : FlowSemantics)
    (routeGroup targetSink : Option String) : List CompiledCandidate :=
  (bucket egresses flowSemantics).filter (·.matches routeGroup targetSink)

/-- A match is left out exactly when it is unhealthy and the last resort of an
unconstrained frame does not apply. -/
lemma not_mem_chosen_iff
    (hc : c ∈ matchingCandidates egresses flowSemantics routeGroup targetSink) :
    c ∉ chosenCandidates egresses snapshot flowSemantics routeGroup targetSink ↔
      c.exitId ∈ snapshot.unhealthy ∧
        ¬(routeGroup = none ∧ targetSink = none ∧
          ∀ c' ∈ matchingCandidates egresses flowSemantics routeGroup targetSink,
            c'.exitId ∈ snapshot.unhealthy) := by
  change c ∉ (if ((matchingCandidates egresses flowSemantics routeGroup targetSink).filter
      fun c => !snapshot.unhealthy.contains c.exitId).isEmpty then _ else _) ↔ _
  split
  · rename_i hempty
    have hall : ∀ c' ∈ matchingCandidates egresses flowSemantics routeGroup targetSink,
        c'.exitId ∈ snapshot.unhealthy := by
      intro c' hc'
      simpa using filter_eq_nil_iff.mp (isEmpty_iff.mp hempty) c' hc'
    split
    · rename_i hcons
      simp only [Bool.or_eq_true, Option.isSome_iff_ne_none] at hcons
      refine iff_of_true (by simp) ⟨hall c hc, fun hfree => ?_⟩
      exact hcons.elim (absurd hfree.1) (absurd hfree.2.1)
    · rename_i hfree
      simp only [Bool.or_eq_true, Option.isSome_iff_ne_none, not_or, not_not] at hfree
      exact iff_of_false (fun hout => hout hc) fun hleft => hleft.2 ⟨hfree.1, hfree.2, hall⟩
  · rename_i hsome
    have hheal : ¬∀ c' ∈ matchingCandidates egresses flowSemantics routeGroup targetSink,
        c'.exitId ∈ snapshot.unhealthy := by
      intro hall
      refine hsome (isEmpty_iff.mpr (filter_eq_nil_iff.mpr fun c' hc' => ?_))
      simpa using hall c' hc'
    rw [mem_filter]
    constructor
    · intro hout
      refine ⟨?_, fun hfree => hheal hfree.2.2⟩
      by_contra hnot
      exact hout ⟨hc, by simpa using hnot⟩
    · rintro ⟨hunh, -⟩ ⟨-, hin⟩
      simp [hunh] at hin

/-- The exit's probe delay has run out since the last sample. -/
def Overdue (policy : HealthPolicy) (samples : List Sample) (exitId : ExitId) (nowMs : Nat) :
    Prop :=
  ∃ health, (tableOf policy samples).exits.lookup exitId = some health ∧
    policy.failureThreshold ≤ health.failures ∧
    lastSampleMs samples - health.lastFailureMs < policy.probeAfterMs ∧
    policy.probeAfterMs ≤ nowMs - health.lastFailureMs

def HeldBack (policy : HealthPolicy) (samples : List Sample) (exitId : ExitId) : Prop :=
  ∃ health, (tableOf policy samples).exits.lookup exitId = some health ∧
    policy.failureThreshold ≤ health.failures ∧
    lastSampleMs samples - health.lastFailureMs < policy.probeAfterMs

lemma tableOf_policy : (tableOf policy samples).policy = policy := by
  refine foldlRecOn (motive := fun t => ExitHealthTable.policy t = policy) _ _ rfl
    fun t ht sample _ => ?_
  cases sample <;> exact ht

lemma canDispatch_eq_false_iff (t : ExitHealthTable) (exitId : ExitId) (nowMs : Nat) :
    t.canDispatch exitId nowMs = false ↔
      ∃ health, t.exits.lookup exitId = some health ∧
        t.policy.failureThreshold ≤ health.failures ∧
        nowMs - health.lastFailureMs < t.policy.probeAfterMs := by
  unfold ExitHealthTable.canDispatch
  cases t.exits.lookup exitId with
  | none => simp
  | some health =>
    by_cases hfew : health.failures < t.policy.failureThreshold
    · simp [hfew]
    · simp [hfew, not_lt.mp hfew]

lemma heldBack_iff {policy : HealthPolicy} :
    HeldBack policy samples exitId ↔
      (tableOf policy samples).canDispatch exitId (lastSampleMs samples) = false := by
  rw [canDispatch_eq_false_iff, tableOf_policy, HeldBack]

lemma overdue_iff :
    Overdue policy samples exitId nowMs ↔
      (tableOf policy samples).canDispatch exitId (lastSampleMs samples) = false ∧
        (tableOf policy samples).canDispatch exitId nowMs = true := by
  rw [← Bool.not_eq_false, canDispatch_eq_false_iff, canDispatch_eq_false_iff, tableOf_policy,
    Overdue]
  constructor
  · rintro ⟨health, hlook, hmany, hheld, hover⟩
    refine ⟨⟨health, hlook, hmany, hheld⟩, ?_⟩
    rintro ⟨healt', hlook', -, hlate⟩
    rw [hlook] at hlook'
    cases hlook'
    omega
  · rintro ⟨⟨health, hlook, hmany, hheld⟩, hover⟩
    refine ⟨health, hlook, hmany, hheld, not_lt.mp fun hlate => ?_⟩
    exact hover ⟨health, hlook, hmany, hlate⟩

lemma exitId_mem_of_matching
    (hc : c ∈ matchingCandidates egresses flowSemantics routeGroup targetSink) :
    c.exitId ∈ egresses.map (·.id) := by
  obtain ⟨e, hat, -, hid, -⟩ := egress_of_mem_bucket (mem_of_mem_filter hc)
  exact hid ▸ mem_map_of_mem (List.mem_of_getElem? hat)

/-- At any point of a run, a dispatch leaves out no exit that the health policy
allows at that time exactly if none of its matches is overdue, or if it takes all
of them as its last resort. -/
theorem exclusion_follows_policy_iff (policy : HealthPolicy) (egresses : List Egress)
    (steps : List HealthStep) (flowSemantics : FlowSemantics)
    (routeGroup targetSink : Option String) (nowMs : Nat) :
    let step := HealthState.step (egresses.map (·.id))
    let samples := recordedIn (history step (.new policy) steps)
    let matching := matchingCandidates egresses flowSemantics routeGroup targetSink
    (∀ c ∈ matching,
        c ∉ chosenCandidates egresses (run step (.new policy) steps).1.snapshot flowSemantics
          routeGroup targetSink →
        (tableOf policy samples).canDispatch c.exitId nowMs = false) ↔
      ∀ c ∈ matching, Overdue policy samples c.exitId nowMs →
        routeGroup = none ∧ targetSink = none ∧
          ∀ c' ∈ matching, HeldBack policy samples c'.exitId := by
  intro step samples matching
  have hpubl := published_run policy (egresses.map (·.id)) steps
  have hunh : ∀ c ∈ matching, (c.exitId ∈ (run step (.new policy) steps).1.snapshot.unhealthy ↔
        HeldBack policy samples c.exitId) := fun c hc =>
    (hpubl.snapshot c.exitId (exitId_mem_of_matching hc)).trans heldBack_iff.symm
  have hresort : (∀ c' ∈ matching,
      c'.exitId ∈ (run step (.new policy) steps).1.snapshot.unhealthy) ↔
        ∀ c' ∈ matching, HeldBack policy samples c'.exitId :=
    forall₂_congr hunh
  refine forall₂_congr fun c hc => ?_
  rw [not_mem_chosen_iff hc, hunh c hc, hresort, overdue_iff, ← heldBack_iff, ← Bool.not_eq_true]
  tauto

/-! ## The history of an exit -/

def Sample.exitId : Sample → ExitId
  | .success exitId _ => exitId
  | .failure exitId _ => exitId

def Sample.failed : Sample → Bool
  | .success _ _ => false
  | .failure _ _ => true

/-- The failures of an exit since its last success, latest first. -/
def failuresOf (exitId : ExitId) (samples : List Sample) : List Nat :=
  ((samples.reverse.filter (·.exitId = exitId)).takeWhile Sample.failed).map Sample.atMs

/-- The times up to the first gap that is larger than the window. -/
def unbroken (windowMs : Nat) : List Nat → List Nat
  | last :: before :: rest =>
    if last - before ≤ windowMs then last :: unbroken windowMs (before :: rest) else [last]
  | times => times

def lastRun (windowMs : Nat) (exitId : ExitId) (samples : List Sample) : List Nat :=
  unbroken windowMs (failuresOf exitId samples)

lemma failuresOf_concat {sample : Sample} : failuresOf exitId (samples ++ [sample]) =
    if sample.exitId = exitId then
      if sample.failed then sample.atMs :: failuresOf exitId samples else []
    else failuresOf exitId samples := by
  simp only [failuresOf, reverse_append, reverse_singleton, singleton_append, filter_cons]
  split <;> simp_all [takeWhile_cons]
  split <;> simp

lemma head?_unbroken : (unbroken windowMs times).head? = times.head? := by
  fun_cases unbroken windowMs times <;> rfl

lemma health_tableOf (policy : HealthPolicy) (exitId : ExitId) (samples : List Sample) :
    let health := ((tableOf policy samples).exits.lookup exitId).getD ⟨0, 0, 0⟩
    health.failures = min (lastRun policy.recoveryWindowMs exitId samples).length u8Max ∧
      ∀ last ∈ (failuresOf exitId samples).head?, health.lastFailureMs = last := by
  induction samples using reverseRecOn with
  | nil => exact ⟨rfl, by simp [failuresOf]⟩
  | append_singleton samples sample ih =>
    have htable : tableOf policy (samples ++ [sample]) =
        (tableOf policy samples).recordSample sample := by simp [tableOf]
    rw [htable, lastRun, failuresOf_concat]
    by_cases hid : sample.exitId = exitId
    · subst hid
      rw [if_pos rfl]
      cases sample with
      | success name atMs =>
        simp [ExitHealthTable.recordSample, ExitHealthTable.record, Sample.exitId, Sample.failed,
          unbroken]
      | failure name atMs =>
        simp only [ExitHealthTable.recordSample, ExitHealthTable.record, Sample.exitId,
          Sample.failed, Sample.atMs, tableOf_policy, AList.lookup_insert, Option.getD_some] at ih ⊢
        refine ⟨?_, by simp⟩
        rw [ih.1, lastRun]
        cases hold : failuresOf name samples with
        | nil => simp [unbroken, u8Max]
        | cons before rest =>
          rw [ih.2 before (by rw [hold]; rfl)]
          by_cases hgap : atMs - before ≤ policy.recoveryWindowMs
          · simp only [Bool.false_eq_true, if_false, if_true, unbroken, if_pos hgap,
              if_neg (not_lt.mpr hgap), length_cons]
            omega
          · simp [unbroken, hgap, not_le.mp hgap, u8Max]
    · rw [if_neg hid]
      have hother : ((tableOf policy samples).recordSample sample).exits.lookup exitId =
          (tableOf policy samples).exits.lookup exitId := by
        cases sample <;> exact AList.lookup_insert_ne (Ne.symm hid)
      rw [hother]
      exact ih

/-- An exit is held back exactly while its last run of failures has reached the threshold and its
last failure is not long ago. -/
theorem dispatch_matches_history (policy : HealthPolicy) (hpos : 1 ≤ policy.failureThreshold)
    (hmax : policy.failureThreshold ≤ u8Max) (samples : List Sample) (exitId : ExitId)
    (nowMs : Nat) :
    (tableOf policy samples).canDispatch exitId nowMs = false ↔
      policy.failureThreshold ≤ (lastRun policy.recoveryWindowMs exitId samples).length ∧
        ∃ last ∈ (lastRun policy.recoveryWindowMs exitId samples).head?,
          nowMs - last < policy.probeAfterMs := by
  obtain ⟨hcount, hlast⟩ := health_tableOf policy exitId samples
  rw [canDispatch_eq_false_iff, tableOf_policy]
  constructor
  · rintro ⟨health, hlook, hmany, hsoon⟩
    rw [hlook] at hcount hlast
    have hlong : policy.failureThreshold ≤
        (lastRun policy.recoveryWindowMs exitId samples).length := by
      dsimp only [Option.getD_some] at hcount
      omega
    obtain ⟨last, hhead⟩ : ∃ last, (lastRun policy.recoveryWindowMs exitId samples).head? =
        some last := Option.isSome_iff_exists.mp (by
      rw [isSome_head?]
      exact ne_nil_of_length_pos (by omega))
    refine ⟨hlong, last, hhead, ?_⟩
    rw [← hlast last (by rwa [lastRun, head?_unbroken] at hhead)]
    exact hsoon
  · rintro ⟨hlong, last, hhead, hsoon⟩
    rw [lastRun, head?_unbroken] at hhead
    cases hlook : (tableOf policy samples).exits.lookup exitId with
    | none =>
      rw [hlook] at hcount
      dsimp only [Option.getD_none] at hcount
      omega
    | some health =>
      rw [hlook] at hcount hlast
      dsimp only [Option.getD_some] at hcount
      exact ⟨health, rfl, by omega, (hlast last hhead).symm ▸ hsoon⟩

theorem dispatch_matches_two_failures :
    (tableOf .default [.failure "b" 5, .success "a" 6, .failure "b" 9]).canDispatch "b" 900 =
      false :=
  (dispatch_matches_history .default (by decide) (by decide) _ "b" 900).mpr (by decide)

/-! ## An exit that is never tried again -/

def failureEvent (exitId : String) (atMs : Nat) : EventEnvelope where
  typeId := .core .pathIoError
  payload := ⟨some exitId, none, none, atMs⟩

def twoFailures : List HealthStep :=
  [.event (failureEvent "b" 0), .drain, .event (failureEvent "b" 0), .drain]

/-- The only exit of a group is left out long after its probe delay. -/
theorem recovered_exit_left_out :
    let step := HealthState.step (twoStreams.egresses.map (·.id))
    matchingCandidates twoStreams.egresses .byteStream (some "cn") none = [⟨1, "b", ["cn"]⟩] ∧
    chosenCandidates twoStreams.egresses
      (run step (.new .default) twoFailures).1.snapshot .byteStream (some "cn") none = [] ∧
    (tableOf .default (recordedIn (history step (.new .default) twoFailures))).canDispatch "b"
      2000 = true := by
  decide +kernel

end MeshBus.Kernel
