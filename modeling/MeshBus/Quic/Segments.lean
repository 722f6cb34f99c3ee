import MeshBus.Quic.Emission

/-!
# Streams cut into frames

A stream is the octets the application wrote to it.  Its frames lie end to end from
the start of the stream, and what they do not cover yet is the queue.
-/

namespace MeshBus.Quic

open Lib List Function Frame

def Frame.dataOn (id : Nat) : Frame → Bytes
  | .stream id' _ _ data => if id' = id then data else []
  | _ => []

def bytesOf (id : Nat) (frames : List Frame) : Bytes := frames.flatMap (dataOn id)

@[simp] lemma bytesOf_append (id : Nat) (frames frames' : List Frame) :
    bytesOf id (frames ++ frames') = bytesOf id frames ++ bytesOf id frames' :=
  flatMap_append

@[simp] lemma bytesOf_singleton {id : Nat} : bytesOf id [frame] = frame.dataOn id :=
  flatMap_singleton _ _

def Laid (id : Nat) : Nat → List Frame → Prop
  | _, [] => True
  | start, frame :: rest =>
    (∀ offset fin data, frame = .stream id offset fin data → offset = start) ∧
      Laid id (start + (frame.dataOn id).length) rest

lemma laid_append_singleton {id start : Nat} {frames : List Frame} :
    Laid id start (frames ++ [frame]) ↔
      Laid id start frames ∧ ∀ offset fin data, frame = .stream id offset fin data →
        offset = start + (bytesOf id frames).length := by
  induction frames generalizing start with
  | nil => simp only [nil_append, Laid, and_true, true_and, bytesOf, flatMap_nil,
      length_nil, add_zero]
  | cons head rest ih =>
    simp only [cons_append, Laid, ih, bytesOf, flatMap_cons, length_append, add_assoc, and_assoc]

lemma Laid.end_le {id start offset : Nat}
    (h : Laid id start frames) (hmem : .stream id offset fin data ∈ frames) :
    offset + data.length ≤ start + (bytesOf id frames).length := by
  induction frames generalizing start with
  | nil => cases hmem
  | cons head rest ih =>
    simp only [bytesOf, flatMap_cons, length_append]
    rcases mem_cons.mp hmem with rfl | hrest
    · have hoff : offset = start := h.1 offset fin data rfl
      have hdata : (stream id offset fin data).dataOn id = data := if_pos rfl
      rw [hdata]
      omega
    · have hend := ih h.2 hrest
      unfold bytesOf at hend
      omega

/-- The frames that were cut off the streams, what was written to them, and what is
left of them. -/
structure Cut (frames : List Frame) (written : Nat → Bytes) (sends : Nat → SendStream) : Prop where
  bytes : ∀ id, written id = bytesOf id frames ++ (sends id).queued
  offset : ∀ id, (sends id).sendOff = (bytesOf id frames).length
  laid : ∀ id, Laid id 0 frames
  ended : ∀ id offset fin, stream id offset fin [] ∈ frames → (sends id).finSent = true
  distinct : frames.Nodup

namespace Cut

lemma empty (hsends : ∀ id, sends id = {}) : Cut [] (fun _ => []) sends where
  bytes id := by rw [hsends]; rfl
  offset id := by rw [hsends]; rfl
  laid _ := True.intro
  ended _ _ _ h := by cases h
  distinct := nodup_nil

lemma write (h : Cut frames written sends) (id : Nat) (data : Bytes) (fin : Bool) :
    Cut frames (update written id (written id ++ data))
      (update sends id ((sends id).write data fin)) where
  bytes id' := by
    simp only [update_apply]
    split
    · next heq =>
        subst heq
        rw [h.bytes id', append_assoc]
        rfl
    · exact h.bytes id'
  offset id' := by
    simp only [update_apply]
    split
    · next heq =>
        subst heq
        exact h.offset id'
    · exact h.offset id'
  laid := h.laid
  ended id' offset fin' hmem := by
    simp only [update_apply]
    split
    · next heq =>
        subst heq
        exact h.ended id' offset fin' hmem
    · exact h.ended id' offset fin' hmem
  distinct := h.distinct

/-- A frame that is cut off now was not cut off before: it begins where the others
end, and an empty one is the only one of its stream. -/
lemma not_mem_of_take (h : Cut frames written sends) {id max offset : Nat} (hroom : 0 < max)
    (htaken : (sends id).take max = some (s, offset, data, fin)) :
    stream id offset fin data ∉ frames := by
  intro hmem
  have hoff : offset = (bytesOf id frames).length := by
    rw [(SendStream.take_spec htaken).1, h.offset]
  have hend := (h.laid id).end_le hmem
  have hnil : data = [] := eq_nil_of_length_eq_zero (by omega)
  subst hnil
  have hsent := h.ended id offset fin hmem
  rw [(SendStream.take_nil htaken hroom).1] at hsent
  cases hsent

lemma take (h : Cut frames written sends) {id max offset : Nat} (hroom : 0 < max)
    (htaken : (sends id).take max = some (s, offset, data, fin)) :
    Cut (frames ++ [.stream id offset fin data]) written (update sends id s) where
  bytes id' := by
    obtain ⟨-, hqueued, -⟩ := SendStream.take_spec htaken
    rw [h.bytes id', bytesOf_append, bytesOf_singleton, update_apply, dataOn]
    by_cases heq : id' = id
    · subst heq
      rw [if_pos rfl, if_pos rfl, hqueued, append_assoc]
    · rw [if_neg heq, if_neg (Ne.symm heq), append_nil]
  offset id' := by
    obtain ⟨-, -, hoff, -⟩ := SendStream.take_spec htaken
    rw [bytesOf_append, bytesOf_singleton, length_append, ← h.offset id', update_apply, dataOn]
    by_cases heq : id' = id
    · subst heq
      rw [if_pos rfl, if_pos rfl, hoff]
    · rw [if_neg heq, if_neg (Ne.symm heq)]
      rfl
  laid id' := by
    rw [laid_append_singleton]
    refine ⟨h.laid id', fun offset' fin' data' heq => ?_⟩
    obtain ⟨rfl, rfl, -⟩ := stream.inj heq
    rw [(SendStream.take_spec htaken).1, h.offset, zero_add]
  ended id' offset' fin' hmem := by
    rw [update_apply]
    rcases mem_append.mp hmem with hold | hnew
    · have hsent := h.ended id' offset' fin' hold
      split
      · next heq =>
          subst heq
          exact (SendStream.take_spec htaken).2.2.2.2 hsent
      · exact hsent
    · obtain ⟨rfl, rfl, rfl, rfl⟩ := stream.inj (mem_singleton.mp hnew)
      rw [if_pos rfl]
      exact (SendStream.take_nil htaken hroom).2
  distinct := by
    refine List.Nodup.append h.distinct (nodup_singleton _) ?_
    exact disjoint_singleton.mpr (h.not_mem_of_take hroom htaken)

lemma produces (h : Cut frames written sends)
    (hfresh : Produces sends fresh sends') : Cut (frames ++ fresh) written sends' := by
  induction hfresh generalizing frames with
  | nil => rwa [append_nil]
  | cons room taken _ ih =>
    have hlater := ih (h.take room taken)
    rwa [append_assoc] at hlater

end Cut
end MeshBus.Quic
