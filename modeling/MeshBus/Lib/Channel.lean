/-!
# Bounded channels

A queue between two tasks with a fixed capacity.  The sender never waits:
`trySend` fails on a full channel.
-/

namespace MeshBus.Lib

structure Channel (α : Type) (capacity : Nat) where
  items : List α
  bounded : items.length ≤ capacity

namespace Channel
variable {α : Type} {capacity : Nat}

def empty : Channel α capacity := ⟨[], Nat.zero_le _⟩

def trySend (c : Channel α capacity) (a : α) : Option (Channel α capacity) :=
  if h : c.items.length < capacity then
    some ⟨c.items ++ [a], by
      rw [List.length_append]
      exact h⟩
  else
    none

def tryRecv (c : Channel α capacity) : Option (α × Channel α capacity) :=
  match h : c.items with
  | [] => none
  | a :: rest => some (a, ⟨rest, by
      have hbounded := c.bounded
      rw [h, List.length_cons] at hbounded
      omega⟩)

theorem items_of_trySend {c c' : Channel α capacity} (h : c.trySend a = some c') :
    c'.items = c.items ++ [a] := by
  unfold trySend at h
  split at h
  · cases h
    rfl
  · cases h

theorem items_of_tryRecv {c c' : Channel α capacity} (h : c.tryRecv = some (a, c')) :
    c.items = a :: c'.items := by
  unfold tryRecv at h
  split at h
  · cases h
  · rename_i hitems
    cases h
    exact hitems

end Channel
end MeshBus.Lib
