import Mathlib
import MeshBus.Session.Datagram

/-!
# The numbers that wait for a reply

An adapter keeps one queue of numbers for every target, under the target as it is
displayed.  The display determines the endpoint, so that a reply finds the queue
of its own source and no other.
-/

namespace MeshBus.Session

open Lib Kernel List String
open Proto (Endpoint)

/-! ## The display of an endpoint -/

lemma append_cons_inj_of_last (hds : c ∉ ds)
    (hes : c ∉ es) (h : xs ++ c :: ds = ys ++ c :: es) : xs = ys ∧ ds = es := by
  rcases append_eq_append_iff.mp h with ⟨as, hys, hcons⟩ | ⟨as, hxs, hcons⟩ <;>
    cases as with
    | _ => simp_all

lemma not_mem_toString_nat {n : Nat} : ':' ∉ (toString n).toList := by
  intro hmem
  have hdigits : ':' ∈ Nat.toDigits 10 n := Nat.toList_repr ▸ hmem
  exact absurd (Nat.isDigit_of_mem_toDigits (by decide) (by decide) hdigits) (by decide)

lemma toList_datagramKey (e : Endpoint) :
    (datagramKey e).toList =
      (if ':' ∈ e.host.toList then '[' :: e.host.toList ++ [']'] else e.host.toList) ++
        ':' :: (toString e.port.toNat).toList := by
  unfold datagramKey
  split <;> simp [toList_append]

lemma datagramKey_injective (h : datagramKey e = datagramKey e') : e = e' := by
  have hlist := congrArg toList h
  rw [toList_datagramKey, toList_datagramKey] at hlist
  obtain ⟨hhost, hport⟩ := append_cons_inj_of_last not_mem_toString_nat
    not_mem_toString_nat hlist
  have hport : e.port = e'.port := UInt16.toNat_inj.mp (Nat.repr_injective (toList_inj.mp hport))
  have hhost : e.host = e'.host := by
    apply toList_inj.mp
    split at hhost <;> split at hhost
    · simpa using hhost
    · rename_i hcolon hnone
      exact absurd (hhost ▸ by simp [hcolon]) hnone
    · rename_i hnone hcolon
      exact absurd (hhost ▸ by simp [hcolon]) hnone
    · exact hhost
  cases e
  cases e'
  simp_all

/-! ## The queues -/

def Waits (pending : PendingDatagramSeqs) (key : String) (seq : Nat) : Prop :=
  ∃ queue, pending.lookup key = some queue ∧ seq ∈ queue

def NodupQueues (pending : PendingDatagramSeqs) : Prop :=
  ∀ key queue, pending.lookup key = some queue → queue.Nodup

lemma not_waits_empty (key : String) (seq : Nat) : ¬Waits ∅ key seq := by
  rintro ⟨queue, hlook, -⟩
  cases hlook

section
variable {pending : PendingDatagramSeqs}

lemma waits_of_push (h : Waits (pushPendingSeq pending target seq) key x) :
    Waits pending key x ∨ (key = datagramKey target ∧ x = seq) := by
  obtain ⟨queue, hlook, hmem⟩ := h
  rw [pushPendingSeq, Table.lookup_insert_if] at hlook
  split at hlook
  · rename_i hkey
    subst hkey
    cases hlook
    rcases mem_append.mp hmem with hold | hnew
    · cases hqueue : pending.lookup (datagramKey target) with
      | none => simp [hqueue] at hold
      | some queue => exact .inl ⟨queue, hqueue, by simpa [hqueue] using hold⟩
    · exact .inr ⟨rfl, mem_singleton.mp hnew⟩
  · exact .inl ⟨queue, hlook, hmem⟩

lemma NodupQueues.push (h : NodupQueues pending)
    (hnew : ¬Waits pending (datagramKey target) seq) :
    NodupQueues (pushPendingSeq pending target seq) := by
  intro key queue hlook
  rw [pushPendingSeq, Table.lookup_insert_if] at hlook
  split at hlook
  · cases hlook
    cases hqueue : pending.lookup (datagramKey target) with
    | none => simp
    | some queue =>
      have hmem : seq ∉ queue := fun hmem => hnew ⟨queue, hqueue, hmem⟩
      simpa [hqueue] using nodup_append.mpr
        ⟨h _ _ hqueue, nodup_singleton seq, by
          rintro a ha b hb rfl
          exact hmem (mem_singleton.mp hb ▸ ha)⟩
  · exact h key queue hlook

lemma lookup_of_shortened {old short queue : List Nat}
    (hold : pending.lookup place = some old) (hsubl : short.Sublist old)
    (h : (if short.isEmpty then pending.erase place else pending.insert place short).lookup key =
      some queue) :
    ∃ queue', pending.lookup key = some queue' ∧ queue.Sublist queue' := by
  split at h
  · rw [Table.lookup_erase_if] at h
    split at h
    · cases h
    · exact ⟨queue, h, .refl _⟩
  · rw [Table.lookup_insert_if] at h
    split at h
    · rename_i hkey
      subst hkey
      cases h
      exact ⟨old, hold, hsubl⟩
    · exact ⟨queue, h, .refl _⟩

lemma lookup_of_remove (h : (removePendingSeq pending target seq).lookup key = some queue) :
    ∃ queue', pending.lookup key = some queue' ∧ queue.Sublist queue' := by
  simp only [removePendingSeq] at h
  split at h
  · exact ⟨queue, h, .refl _⟩
  · rename_i old hold
    exact lookup_of_shortened hold erase_sublist h

lemma lookup_of_pop (h : (popPendingSeq pending source).1.lookup key = some queue) :
    ∃ queue', pending.lookup key = some queue' ∧ queue.Sublist queue' := by
  simp only [popPendingSeq] at h
  split at h
  · exact ⟨queue, h, .refl _⟩
  · rename_i hold
    exact lookup_of_shortened hold (nil_sublist _) h
  · rename_i first rest hold
    exact lookup_of_shortened hold (sublist_cons_self _ _) h

lemma Waits.of_sublist (hlook : ∀ {queue : List Nat}, pending'.lookup key = some queue →
      ∃ queue', pending.lookup key = some queue' ∧ queue.Sublist queue')
    (h : Waits pending' key x) : Waits pending key x := by
  obtain ⟨queue, hqueue, hmem⟩ := h
  obtain ⟨queue', hqueue', hsubl⟩ := hlook hqueue
  exact ⟨queue', hqueue', hsubl.mem hmem⟩

lemma NodupQueues.of_sublist
    (hlook : ∀ {key : String} {queue : List Nat}, pending'.lookup key = some queue →
      ∃ queue', pending.lookup key = some queue' ∧ queue.Sublist queue')
    (h : NodupQueues pending) : NodupQueues pending' := by
  intro key queue hqueue
  obtain ⟨queue', hqueue', hsubl⟩ := hlook hqueue
  exact (h key queue' hqueue').sublist hsubl

/-- The number that a reply takes with it waited in the queue of the reply's
source, and waits there no more. -/
lemma waits_of_pop (h : NodupQueues pending) (hpop : (popPendingSeq pending source).2 = some x) :
    Waits pending (datagramKey source) x ∧
      ¬Waits (popPendingSeq pending source).1 (datagramKey source) x := by
  simp only [popPendingSeq] at hpop ⊢
  split at hpop
  · cases hpop
  · cases hpop
  · rename_i first rest hold
    cases hpop
    refine ⟨⟨_, hold, mem_cons_self⟩, ?_⟩
    rintro ⟨queue, hqueue, hmem⟩
    have hrest := (nodup_cons.mp (h _ _ hold)).1
    split at hqueue
    · rw [AList.lookup_erase] at hqueue
      cases hqueue
    · rw [AList.lookup_insert] at hqueue
      cases hqueue
      exact hrest hmem

lemma not_waits_of_pop (hpop : (popPendingSeq pending source).2 = none) :
    ¬Waits pending (datagramKey source) x := by
  rintro ⟨queue, hqueue, hmem⟩
  simp only [popPendingSeq, hqueue] at hpop
  cases queue with
  | nil => cases hmem
  | cons first rest => cases hpop

end

/-! ## What an adapter keeps for a session -/

namespace DatagramEgressAdapter

def pendingFor (a : DatagramEgressAdapter) (sessionId : SessionId) : PendingDatagramSeqs :=
  (a.sessions.lookup sessionId).getD ∅

variable {a : DatagramEgressAdapter}

lemma openFor_ok
    (h : a.openFor reply sessionId = .ok pending) : pending = a.pendingFor sessionId := by
  unfold openFor at h
  unfold pendingFor
  split at h
  · rename_i hlook
    cases h
    rw [hlook]
    rfl
  · rename_i hlook _
    cases h
    rw [hlook]
    rfl
  · cases h

lemma pendingFor_send (hcarr : frame.Carries) :
    let queued := pushPendingSeq (a.pendingFor frame.sessionId) frame.target frame.seq
    (a.send reply frame).1.pendingFor frame.sessionId = a.pendingFor frame.sessionId ∨
      (a.send reply frame).1.pendingFor frame.sessionId = queued ∨
      (a.send reply frame).1.pendingFor frame.sessionId =
        removePendingSeq queued frame.target frame.seq := by
  unfold send
  rw [if_pos hcarr]
  split
  · exact .inl rfl
  · rename_i pending hopen
    cases openFor_ok hopen
    split
    · exact .inr (.inl (by simp [pendingFor]))
    · exact .inr (.inr (by simp [pendingFor]))

lemma waits_of_send (hcarr : frame.Carries)
    (h : Waits ((a.send reply frame).1.pendingFor frame.sessionId) key x) :
    Waits (a.pendingFor frame.sessionId) key x ∨
      (key = datagramKey frame.target ∧ x = frame.seq) := by
  rcases pendingFor_send hcarr with heq | heq | heq <;> rw [heq] at h
  · exact .inl h
  · exact waits_of_push h
  · exact waits_of_push (h.of_sublist lookup_of_remove)

lemma nodupQueues_send (hcarr : frame.Carries) (h : NodupQueues (a.pendingFor frame.sessionId))
    (hnew : ¬Waits (a.pendingFor frame.sessionId) (datagramKey frame.target) frame.seq) :
    NodupQueues ((a.send reply frame).1.pendingFor frame.sessionId) := by
  rcases pendingFor_send hcarr with heq | heq | heq <;> rw [heq]
  · exact h
  · exact h.push hnew
  · exact (h.push hnew).of_sublist lookup_of_remove

end DatagramEgressAdapter
end MeshBus.Session
