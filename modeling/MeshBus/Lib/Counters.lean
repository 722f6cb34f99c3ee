import Mathlib.Data.List.Nodup
import MeshBus.Lib.Run

/-!
# Families of 64-bit counters

Every owner has a counter that `fetch_add(1)` reads and advances, wrapping at
`2 ^ 64`.  As long as at most `2 ^ 64` numbers are taken in all, no owner gets
the same number twice.
-/

namespace MeshBus.Lib

open List UInt64
variable {κ : Type*} [DecidableEq κ]

def takeNumber (counters : κ → UInt64) (k : κ) : (κ → UInt64) × UInt64 :=
  (Function.update counters k (counters k + 1), counters k)

def taken (past : List (κ × UInt64)) (k : κ) : Nat := past.countP fun e => e.1 = k

/-- What the counters are after handing out `past`. -/
structure HandedOut (start : κ → UInt64) (past : List (κ × UInt64)) (counters : κ → UInt64) :
    Prop where
  next : ∀ k, counters k = start k + ofNat (taken past k)
  earlier : ∀ e ∈ past, ∃ n < taken past e.1, e.2 = start e.1 + ofNat n
  distinct : past.length ≤ 2 ^ 64 → past.Nodup

private lemma taken_concat (past : List (κ × UInt64)) (k k' : κ) (c : UInt64) :
    taken (past ++ [(k, c)]) k' = taken past k' + if k = k' then 1 else 0 := by
  by_cases h : k = k'
  · simp [taken, h]
  · simp [taken, h]

private lemma ofNat_inj_of_lt (hm : m < 2 ^ 64) (hn : n < 2 ^ 64)
    (h : ofNat m = ofNat n) : m = n := by
  have htoNat := congrArg toNat h
  rwa [toNat_ofNat_of_lt' hm, toNat_ofNat_of_lt' hn] at htoNat

lemma HandedOut.step {start : κ → UInt64} {past : List (κ × UInt64)} {counters : κ → UInt64}
    (h : HandedOut start past counters) (k : κ) :
    HandedOut start (past ++ [(k, (takeNumber counters k).2)]) (takeNumber counters k).1 := by
  have hbound : taken past k ≤ past.length := countP_le_length
  constructor
  · intro k'
    rw [taken_concat]
    by_cases hk : k' = k
    · subst hk
      simp [takeNumber, h.next, UInt64.add_assoc]
    · simp [takeNumber, hk, Ne.symm hk, h.next]
  · intro e he
    rcases mem_append.mp he with hpast | hlast
    · obtain ⟨n, hn, hval⟩ := h.earlier e hpast
      exact ⟨n, by rw [taken_concat]; omega, hval⟩
    · rw [mem_singleton] at hlast
      subst hlast
      exact ⟨taken past k, by simp [taken_concat], h.next k⟩
  · intro hlen
    rw [length_append, length_singleton] at hlen
    rw [nodup_append]
    refine ⟨h.distinct (by omega), by simp, ?_⟩
    intro e he e' he' heq
    rw [mem_singleton] at he'
    subst he'
    obtain ⟨n, hn, hval⟩ := h.earlier e he
    subst heq
    have hsame : ofNat (taken past k) = ofNat n := by
      have hval' : start k + ofNat (taken past k) = start k + UInt64.ofNat n := by
        rw [← h.next k]
        exact hval
      exact UInt64.add_right_inj (start k) |>.mp hval'
    dsimp only at hn
    have := ofNat_inj_of_lt (by omega) (by omega) hsame
    omega

lemma history_takeNumber_nodup (counters : κ → UInt64) (ks : List κ)
    (hlen : ks.length ≤ 2 ^ 64) : (history takeNumber counters ks).Nodup := by
  have hstart : HandedOut counters [] counters :=
    ⟨fun k => by simp [taken], by simp, fun _ => nodup_nil⟩
  have hrun : HandedOut counters (history takeNumber counters ks)
      (run takeNumber counters ks).1 :=
    run_history_invariant (fun _ _ k h => h.step k) counters ks hstart
  apply hrun.distinct
  rw [history, length_zip, length_run_snd, Nat.min_self]
  exact hlen

end MeshBus.Lib
