import Mathlib.Algebra.Ring.Nat
import Mathlib.Data.List.Basic

/-!
# Runs of a step function

A component with state is a function `step : σ → ι → σ × ω`: one input, the
next state, and the outputs of that call.  `run` feeds it a list of inputs and
`history` pairs every input with its output.  Invariants are proved one step at
a time; the rules below lift them to whole runs, with an optional guard `ok`
that every step of the run has to meet (`Along`).
-/

namespace MeshBus.Lib

open List
variable {σ ι ω : Type*}

/-- Feed a list of inputs to `step`, collecting one output per input. -/
def run (step : σ → ι → σ × ω) : σ → List ι → σ × List ω
  | s, [] => (s, [])
  | s, i :: is =>
    let next := step s i
    let rest := run step next.1 is
    (rest.1, next.2 :: rest.2)

def history (step : σ → ι → σ × ω) (s : σ) (is : List ι) : List (ι × ω) :=
  is.zip (run step s is).2

/-- Every step of the run from `s` meets the guard, which may look at what has
happened so far, at the state before the step and at the input. -/
def Along (step : σ → ι → σ × ω) (ok : List (ι × ω) → σ → ι → Prop) :
    List (ι × ω) → σ → List ι → Prop
  | _, _, [] => True
  | past, s, i :: is =>
    ok past s i ∧ Along step ok (past ++ [(i, (step s i).2)]) (step s i).1 is

instance Along.instDecidable (step : σ → ι → σ × ω) (ok : List (ι × ω) → σ → ι → Prop)
    [∀ past s i, Decidable (ok past s i)] :
    (past : List (ι × ω)) → (s : σ) → (is : List ι) → Decidable (Along step ok past s is)
  | _, _, [] => .isTrue True.intro
  | past, s, i :: is =>
    @instDecidableAnd (ok past s i) (Along step ok (past ++ [(i, (step s i).2)]) (step s i).1 is)
      inferInstance (Along.instDecidable step ok _ _ is)

section
variable (step : σ → ι → σ × ω)

@[simp] lemma run_nil (s : σ) : run step s [] = (s, []) := rfl

lemma run_cons (s : σ) (i : ι) (is : List ι) :
    run step s (i :: is) =
      ((run step (step s i).1 is).1,
        (step s i).2 :: (run step (step s i).1 is).2) := rfl

@[simp] lemma length_run_snd (s : σ) (is : List ι) : (run step s is).2.length = is.length := by
  induction is generalizing s with
  | nil => rfl
  | cons i is ih => simp [run_cons, ih]

lemma run_append (s : σ) (is js : List ι) :
    run step s (is ++ js) =
      ((run step (run step s is).1 js).1,
        (run step s is).2 ++ (run step (run step s is).1 js).2) := by
  induction is generalizing s with
  | nil => simp
  | cons i is ih => simp [run_cons, ih]

lemma run_append_snd (s : σ) (is js : List ι) :
    (run step s (is ++ js)).2 =
      (run step s is).2 ++ (run step (run step s is).1 js).2 := by
  rw [run_append]

@[simp] lemma history_nil : history step s [] = [] := rfl

lemma history_cons (s : σ) (i : ι) (is : List ι) :
    history step s (i :: is) =
      (i, (step s i).2) :: history step (step s i).1 is := rfl

lemma history_append (s : σ) (is js : List ι) :
    history step s (is ++ js) = history step s is ++ history step (run step s is).1 js := by
  induction is generalizing s with
  | nil => rfl
  | cons i is ih => simp [history_cons, run_cons, ih]

lemma map_snd_history (s : σ) (is : List ι) :
    (history step s is).map Prod.snd = (run step s is).2 := by
  rw [history, map_snd_zip]
  simp

end
section
variable {step : σ → ι → σ × ω}

/-- A guarded step invariant over the past, the state and the inputs still to come. -/
lemma run_remaining_invariant {Inv : List (ι × ω) → σ → List ι → Prop}
    {ok : List (ι × ω) → σ → ι → Prop} (hstep : ∀ past s i is, Inv past s (i :: is) → ok past s i →
      Inv (past ++ [(i, (step s i).2)]) (step s i).1 is) :
    ∀ (is : List ι) (past : List (ι × ω)) (s : σ), Inv past s is →
      Along step ok past s is →
      Inv (past ++ history step s is) (run step s is).1 [] := by
  intro is
  induction is with
  | nil =>
    intro past s hinv _
    simpa using hinv
  | cons i is ih =>
    intro past s hinv halong
    have hnext := hstep past s i is hinv halong.1
    have hrest := ih _ _ hnext halong.2
    simpa [history_cons, run_cons] using hrest

/-- A guarded step invariant over the past and the state holds after the run. -/
lemma run_invariant {Inv : List (ι × ω) → σ → Prop} {ok : List (ι × ω) → σ → ι → Prop}
    (hstep : ∀ past s i, Inv past s → ok past s i → Inv (past ++ [(i, (step s i).2)]) (step s i).1)
    (is : List ι) (past : List (ι × ω)) (s : σ) (hinv : Inv past s)
    (halong : Along step ok past s is) : Inv (past ++ history step s is) (run step s is).1 :=
  @run_remaining_invariant σ ι ω step (fun past s _ => Inv past s) ok
    (fun past s i _ => hstep past s i) is past s hinv halong

/-- A guard on the inputs alone. -/
lemma Along.of_forall_mem {ok : ι → Prop} (is : List ι) (past : List (ι × ω)) (s : σ)
    (hok : ∀ i ∈ is, ok i) : Along step (fun _ _ i => ok i) past s is := by
  induction is generalizing past s with
  | nil => exact True.intro
  | cons i is ih => exact ⟨hok i (by simp), ih _ _ fun j hj => hok j (by simp [hj])⟩

/-- What a guarded invariant of the state says about the outputs. -/
lemma forall_mem_history {Inv : σ → Prop} {ok : List (ι × ω) → σ → ι → Prop} {P : ι → ω → Prop}
    (hstep : ∀ past s i, Inv s → ok past s i → Inv (step s i).1 ∧ P i (step s i).2)
    (is : List ι) (past : List (ι × ω)) (s : σ) (hs : Inv s) (halong : Along step ok past s is) :
    ∀ entry ∈ history step s is, P entry.1 entry.2 := by
  induction is generalizing past s with
  | nil => exact forall_mem_nil _
  | cons i is ih =>
    obtain ⟨hnext, hout⟩ := hstep past s i hs halong.1
    intro entry hentry
    rw [history_cons, mem_cons] at hentry
    rcases hentry with rfl | hrest
    · exact hout
    · exact ih _ _ hnext halong.2 entry hrest

/-- An unguarded invariant over the past and the state, from an initial state. -/
lemma run_history_invariant {Inv : List (ι × ω) → σ → Prop}
    (hstep : ∀ past s i, Inv past s → Inv (past ++ [(i, (step s i).2)]) (step s i).1)
    (s : σ) (is : List ι) (hs : Inv [] s) : Inv (history step s is) (run step s is).1 := by
  have hrun := run_invariant (fun past s i hinv (_ : True) => hstep past s i hinv) is [] s hs
    (Along.of_forall_mem is [] s fun _ _ => True.intro)
  simpa using hrun

/-- An unguarded invariant of the state alone. -/
lemma run_state_invariant {Inv : σ → Prop}
    (hstep : ∀ s i, Inv s → Inv (step s i).1) (s : σ) (is : List ι) (hs : Inv s) :
    Inv (run step s is).1 := by
  induction is generalizing s with
  | nil => exact hs
  | cons i is ih => exact ih _ (hstep s i hs)

/-- Where one step keeps a property exactly if it meets a guard, a run does. -/
lemma run_iff_along {P : σ → Prop} {ok : σ → ι → Prop}
    (hstep : ∀ s i, P (step s i).1 ↔ P s ∧ ok s i) (is : List ι) (past : List (ι × ω)) (s : σ) :
    P (run step s is).1 ↔ P s ∧ Along step (fun _ s i => ok s i) past s is := by
  induction is generalizing past s with
  | nil => exact ⟨fun h => ⟨h, True.intro⟩, fun h => h.1⟩
  | cons i is ih =>
    rw [run_cons, Along, ih, hstep, and_assoc]

/-- Two components that take the same inputs stay related. -/
lemma run_simulation {step' : τ → ι → τ × ω'} {R : σ → τ → Prop}
    (hstep : ∀ past s t i, R s t → ok past s i → R (step s i).1 (step' t i).1)
    (is : List ι) (past : List (ι × ω)) (s : σ) (t : τ) (h : R s t)
    (halong : Along step ok past s is) : R (run step s is).1 (run step' t is).1 := by
  induction is generalizing past s t with
  | nil => exact h
  | cons i is ih => exact ih _ _ _ (hstep past s t i h halong.1) halong.2

/-- A guarded run splits at every point. -/
lemma Along.append (h : Along step ok past s (is ++ js)) :
    Along step ok past s is ∧
      Along step ok (past ++ history step s is) (run step s is).1 js := by
  induction is generalizing past s with
  | nil => exact ⟨True.intro, by simpa using h⟩
  | cons i is ih =>
    obtain ⟨hok, hrest⟩ := h
    obtain ⟨hleft, hright⟩ := ih hrest
    refine ⟨⟨hok, hleft⟩, ?_⟩
    simpa [history_cons, run_cons] using hright

lemma Along.imp (himp : ∀ past s i, ok past s i → ok' past s i)
    (h : Along step ok past s is) : Along step ok' past s is := by
  induction is generalizing past s with
  | nil => exact True.intro
  | cons i is ih => exact ⟨himp _ _ _ h.1, ih h.2⟩

lemma Along.and (h : Along step ok past s is) (h' : Along step ok' past s is) :
    Along step (fun past s i => ok past s i ∧ ok' past s i) past s is := by
  induction is generalizing past s with
  | nil => exact True.intro
  | cons i is ih => exact ⟨⟨h.1, h'.1⟩, ih h.2 h'.2⟩

end
end MeshBus.Lib
