import Mathlib.Algebra.Ring.Nat
import Mathlib.Data.List.Basic

/-!
# Topological orders

A list of vertices in which every successor of a vertex stands after it.  A walk
from one of them is a sublist of the order, so it meets no vertex twice and is
no longer than the order.
-/

namespace MeshBus.Lib

open List
variable {α : Type}

/-- No vertex occurs twice, and what a vertex points to stands after it. -/
def TopoOrder (adj : α → List α) : List α → Prop
  | [] => True
  | a :: rest => (∀ b ∈ adj a, b ∈ rest) ∧ a ∉ rest ∧ TopoOrder adj rest

namespace TopoOrder

lemma nodup (h : TopoOrder adj order) : order.Nodup := by
  induction order with
  | nil => exact nodup_nil
  | cons a rest ih => exact nodup_cons.mpr ⟨h.2.1, ih h.2.2⟩

lemma walk_sublist (h : TopoOrder adj order)
    (ha : a ∈ order) (hwalk : List.IsChain (fun a b => b ∈ adj a) (a :: walk)) :
    (a :: walk).Sublist order := by
  induction order generalizing a walk with
  | nil => cases ha
  | cons c rest ih =>
    obtain ⟨hsucc, -, hrest⟩ := h
    rcases mem_cons.mp ha with rfl | ha
    · refine List.Sublist.cons_cons _ ?_
      cases walk with
      | nil => exact nil_sublist _
      | cons b walk =>
        obtain ⟨hab, hwalk⟩ := isChain_cons_cons.mp hwalk
        exact ih hrest (hsucc b hab) hwalk
    · exact (ih hrest ha hwalk).cons _

end TopoOrder
end MeshBus.Lib
