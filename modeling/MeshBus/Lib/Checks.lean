import Mathlib.Algebra.Ring.Nat
import Mathlib.Data.List.Basic

/-!
# Fallible checks

A check either passes or stops with an error.  Checks are run one after the
other, over lists in order, and the first error is the result; read backwards,
a passed sequence is the conjunction of its parts.
-/

namespace MeshBus.Lib

open Except
variable {ε ε' α β : Type}

def reject (condition : Bool) (error : ε) : Except ε Unit :=
  if condition then .error error else .ok ()

def checkAll (check : α → Except ε Unit) : List α → Except ε Unit
  | [] => .ok ()
  | a :: as => do
      check a
      checkAll check as

@[simp] lemma seq_eq_ok (x y : Except ε Unit) :
    (x >>= fun _ => y) = .ok () ↔ x = .ok () ∧ y = .ok () := by
  cases x with
  | _ => simp [bind, Except.bind]

lemma bind_eq_ok {x : Except ε α} {b : β} : x >>= f = .ok b ↔ ∃ a, x = .ok a ∧ f a = .ok b := by
  cases x with
  | error e => exact ⟨by rintro ⟨⟩, by rintro ⟨a, ⟨⟩, -⟩⟩
  | ok a =>
    refine ⟨fun h => ⟨a, rfl, h⟩, ?_⟩
    rintro ⟨a', ha, h⟩
    rw [ok.inj ha]
    exact h

lemma map_eq_ok {x : Except ε α} {f : α → β} {b : β} :
    x.map f = .ok b ↔ ∃ a, x = .ok a ∧ f a = b := by
  cases x with
  | error e => exact ⟨by rintro ⟨⟩, by rintro ⟨a, ⟨⟩, -⟩⟩
  | ok a =>
    constructor
    · intro h
      exact ⟨a, rfl, ok.inj h⟩
    · rintro ⟨a', ha, rfl⟩
      cases ha
      rfl

lemma mapError_eq_ok {x : Except ε α} : x.mapError f = .ok a ↔ x = .ok a := by
  cases x with
  | error e => exact ⟨by rintro ⟨⟩, by rintro ⟨⟩⟩
  | ok a' => exact ⟨fun h => congrArg _ (ok.inj h), fun h => congrArg _ (ok.inj h)⟩

@[simp] lemma reject_eq_ok (condition : Bool) (error : ε) :
    reject condition error = .ok () ↔ condition = false := by
  cases condition <;> simp [reject]

@[simp] lemma checkAll_eq_ok (check : α → Except ε Unit) (as : List α) :
    checkAll check as = .ok () ↔ ∀ a ∈ as, check a = .ok () := by
  induction as with
  | nil => simp [checkAll]
  | cons a as ih => simp [checkAll, ih]

end MeshBus.Lib
