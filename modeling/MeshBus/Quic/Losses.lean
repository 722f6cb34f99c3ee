import MeshBus.Lib.Run
import MeshBus.Quic.Recovery

/-!
# Histories of loss recovery

What is in flight, when the window is cut and when the timer runs, over any sequence
of calls.  A call adds at most one packet to the tables and takes some out of those
of one level.
-/

namespace MeshBus.Quic

open Lib List OrdMap PerLevel Congestion

namespace LossRecovery

inductive Call where
  | sent (level : Level) (pkt : SentPacket)
  | ack (level : Level) (largest firstRange : Nat) (ranges : List AckRange) (ackDelay now : Nat)
  | detect (level : Level) (now : Nat)
  | ptoExpired

def step (r : LossRecovery) : Call → LossRecovery × List SentPacket
  | .sent level pkt => (r.onPacketSent level pkt, [])
  | .ack level largest firstRange ranges ackDelay now =>
    r.onAck level largest firstRange ranges ackDelay now
  | .detect level now => r.detectLost level now
  | .ptoExpired => (r.onPtoExpired, [])

/-- The packets that are tracked as sent. -/
def tracked (r : LossRecovery) : List (Level × Nat × SentPacket) :=
  levels.flatMap fun level => (r.spaces.get level).sent.entries.map (level, ·)

/-- Whether a call takes a packet out of the table of its level. -/
def takes (r : LossRecovery) (call : Call) : Level × Nat × SentPacket → Bool
  | (level, pn, p) =>
    match call with
    | .sent level' pkt => level = level' && pn = pkt.pn
    | .ack level' largest firstRange ranges _ _ =>
      level = level' && (ackedNumbers largest firstRange ranges).any (inBlock · pn)
    | .detect level' now =>
      level = level' &&
        (r.spaces.get level').largestAcked.any (isLost · r.lossThreshold now pn p)
    | .ptoExpired => false

lemma mem_tracked {r : LossRecovery} {level : Level} {pn : Nat} {p : SentPacket} :
    (level, pn, p) ∈ r.tracked ↔ (pn, p) ∈ (r.spaces.get level).sent.entries := by
  simp [tracked, mem_levels]

lemma mem_takeBlocks {sent : OrdMap Nat SentPacket} {blocks : List (Nat × Nat)} {pn : Nat}
    {p : SentPacket} : (pn, p) ∈ (takeBlocks sent blocks).1.entries ↔
      (pn, p) ∈ sent.entries ∧ blocks.any (inBlock · pn) = false := by
  induction blocks generalizing sent with
  | nil => simp [takeBlocks]
  | cons block rest ih =>
    rw [takeBlocks, ih, mem_entries_filter, any_cons, Bool.or_eq_false_iff, and_assoc,
      Bool.not_eq_true']

/-- What is tracked after a call: what it brings, and what it did not take. -/
lemma mem_tracked_step (r : LossRecovery) (call : Call) (level : Level) (pn : Nat)
    (p : SentPacket) : (level, pn, p) ∈ (step r call).1.tracked ↔
      (call = .sent level p ∧ pn = p.pn) ∨
        (level, pn, p) ∈ r.tracked ∧ r.takes call (level, pn, p) = false := by
  rw [mem_tracked, mem_tracked]
  unfold takes
  cases call with
  | sent level' pkt =>
    dsimp only [step, onPacketSent]
    rw [get_set]
    split
    · next heq =>
        subst heq
        rw [← OrdMap.lookup_eq_some_iff, OrdMap.lookup_insert, ← OrdMap.lookup_eq_some_iff]
        grind
    · grind
  | ack level' largest firstRange ranges ackDelay now =>
    dsimp only [step, onAck]
    rw [get_set]
    split
    · next heq =>
        subst heq
        rw [mem_takeBlocks]
        simp
    · simp [*]
  | detect level' now =>
    dsimp only [step, detectLost]
    cases hlarg : (r.spaces.get level').largestAcked with
    | none => simp
    | some largest =>
      dsimp only
      rw [get_set]
      split
      · next heq =>
          subst heq
          rw [mem_entries_filter]
          simp
      · simp [*]
  | ptoExpired => simp [step, onPtoExpired]

/-! ## Octets in flight -/

def sizes (packets : List SentPacket) : Nat := (packets.map SentPacket.size).sum

def trackedBytes (spaces : PerLevel SpaceRecovery) : Nat :=
  (levels.map fun level => sizes (spaces.get level).sent.values).sum

lemma sizes_append : sizes (ps ++ qs) = sizes ps + sizes qs := by
  simp [sizes]

lemma sizes_filter (sent : OrdMap Nat SentPacket) (gone : Nat → SentPacket → Bool) :
    sizes (sent.filter gone).values + sizes (sent.filter fun pn p => !gone pn p).values =
      sizes sent.values := by
  rw [← sizes_append]
  unfold values
  rw [← map_append]
  exact (((filter_append_perm _ sent.entries).map Prod.snd).map _).sum_nat

lemma sizes_takeBlocks (sent : OrdMap Nat SentPacket) (blocks : List (Nat × Nat)) :
    sizes (takeBlocks sent blocks).2 + sizes (takeBlocks sent blocks).1.values =
      sizes sent.values := by
  induction blocks generalizing sent with
  | nil => exact zero_add _
  | cons block rest ih =>
    have hrest := ih (sent.filter fun pn _ => !inBlock block pn)
    have hblock := sizes_filter sent fun pn _ => inBlock block pn
    rw [takeBlocks]
    dsimp only
    rw [sizes_append]
    omega

lemma trackedBytes_set {spaces : PerLevel SpaceRecovery} (out new : Nat)
    (h : out + sizes s.sent.values = sizes (spaces.get level).sent.values + new) :
    trackedBytes (spaces.set level s) = trackedBytes spaces + new - out := by
  cases level <;> simp [trackedBytes, levels, PerLevel.set, PerLevel.get] at h ⊢ <;> omega

lemma foldl_onAcked (out : List SentPacket) (cc : Congestion) :
    let cc' := out.foldl (fun cc p => cc.onAcked p.size) cc
    cc'.bytesInFlight = cc.bytesInFlight - sizes out ∧ cc.cwnd ≤ cc'.cwnd ∧
      cc'.recoveryStart = cc.recoveryStart := by
  induction out generalizing cc with
  | nil => exact ⟨rfl, le_rfl, rfl⟩
  | cons p rest ih =>
    obtain ⟨hflt, hwin, hstart⟩ := ih (cc.onAcked p.size)
    refine ⟨?_, le_trans ?_ hwin, hstart⟩
    · rw [foldl_cons, hflt]
      simp [onAcked, sizes]
      omega
    · unfold onAcked
      dsimp only
      split <;> exact Nat.le_add_right _ _

lemma minWindow_le_onLoss {cc : Congestion} (h : minWindow ≤ cc.cwnd) {bytes last : Nat} :
    minWindow ≤ (cc.onLoss bytes last).cwnd := by
  unfold onLoss
  dsimp only
  split
  · exact h
  · exact le_max_right _ _

lemma bytesInFlight_onLoss {cc : Congestion} {bytes last : Nat} :
    (cc.onLoss bytes last).bytesInFlight = cc.bytesInFlight - bytes := by
  unfold onLoss
  dsimp only
  split <;> rfl

/-- Whether a call sends no packet under a number its level has used before. -/
def isNew (past : List (Call × List SentPacket)) : Call → Bool
  | .sent level pkt => past.all fun entry =>
    match entry.1 with
    | .sent level' pkt' => level' ≠ level || pkt'.pn ≠ pkt.pn
    | _ => true
  | _ => true

structure Exact (past : List (Call × List SentPacket)) (r : LossRecovery) : Prop where
  inFlight : r.cc.bytesInFlight = trackedBytes r.spaces
  window : minWindow ≤ r.cc.cwnd
  used : ∀ level pn p, (level, pn, p) ∈ r.tracked →
    ∃ pkt out, (.sent level pkt, out) ∈ past ∧ pkt.pn = pn

lemma Exact.step (h : Exact past r) (hnew : isNew past call = true) :
    Exact (past ++ [(call, (step r call).2)]) (step r call).1 := by
  have hused : ∀ level pn p, (level, pn, p) ∈ (LossRecovery.step r call).1.tracked → ∃ pkt out,
      (.sent level pkt, out) ∈ past ++ [(call, (LossRecovery.step r call).2)] ∧ pkt.pn = pn := by
    intro level pn p hp
    rcases (mem_tracked_step r call level pn p).mp hp with ⟨rfl, rfl⟩ | ⟨hp, -⟩
    · exact ⟨p, _, mem_append_right _ mem_cons_self, rfl⟩
    · obtain ⟨pkt, out, hmem, heq⟩ := h.used level pn p hp
      exact ⟨pkt, out, mem_append_left _ hmem, heq⟩
  cases call with
  | sent level pkt =>
    refine ⟨?_, h.window, hused⟩
    have hfree : pkt.pn ∉ (r.spaces.get level).sent.keys := by
      intro hmem
      obtain ⟨p, hp⟩ := mem_keys.mp hmem
      obtain ⟨pkt', out, hpast, heq⟩ := h.used level pkt.pn p (mem_tracked.mpr hp)
      have hdiff := all_eq_true.mp hnew _ hpast
      simp [heq] at hdiff
    have hins := ((perm_insert pkt hfree).map Prod.snd).map SentPacket.size
    show r.cc.bytesInFlight + pkt.size = _
    rw [h.inFlight]
    refine (trackedBytes_set 0 pkt.size ?_).symm
    rw [zero_add, add_comm]
    exact hins.sum_nat
  | ack level largest firstRange ranges ackDelay now =>
    obtain ⟨hacked, hwin, -⟩ := foldl_onAcked
      (takeBlocks (r.spaces.get level).sent (ackedNumbers largest firstRange ranges)).2 r.cc
    refine ⟨hacked.trans ?_, le_trans h.window hwin, hused⟩
    rw [h.inFlight]
    exact (trackedBytes_set _ 0 (sizes_takeBlocks _ _)).symm
  | detect level now =>
    cases hlarg : (r.spaces.get level).largestAcked with
    | none =>
      have hsame : LossRecovery.step r (.detect level now) = (r, []) := by
        simp only [LossRecovery.step, detectLost, hlarg]
      rw [hsame] at hused ⊢
      exact ⟨h.inFlight, h.window, hused⟩
    | some largest =>
      refine ⟨?_, ?_, hused⟩ <;> simp only [LossRecovery.step, detectLost, hlarg]
      · refine Eq.trans ?_ (trackedBytes_set _ 0 (sizes_filter _ _)).symm
        rw [← h.inFlight]
        split
        · next hnone => rw [isEmpty_iff.mp hnone]; rfl
        · exact bytesInFlight_onLoss
      · split
        · exact h.window
        · exact minWindow_le_onLoss h.window
  | ptoExpired => exact ⟨h.inFlight, h.window, hused⟩

/-- As long as no number is used twice, what counts as in flight is what is tracked, and
the window is at least the smallest. -/
theorem in_flight_exact (calls : List Call)
    (hnew : Along step (fun past _ call => isNew past call = true) [] {} calls) :
    (run step {} calls).1.cc.bytesInFlight = trackedBytes (run step {} calls).1.spaces ∧
      minWindow ≤ (run step {} calls).1.cc.cwnd := by
  have hstart : Exact [] {} := by
    refine ⟨rfl, by decide, fun level pn p hp => ?_⟩
    cases level <;> cases hp
  have hend := @run_invariant _ _ _ step Exact _ (fun _ _ _ => Exact.step) calls [] {} hstart hnew
  exact ⟨hend.inFlight, hend.window⟩

/-- Of three packets one is acknowledged and one lost. -/
theorem in_flight_of_third :
    let calls : List Call := [.sent .data ⟨0, 5, 100, true⟩, .sent .data ⟨3, 6, 200, false⟩,
      .sent .data ⟨4, 7, 300, true⟩, .ack .data 3 0 [] 0 9, .detect .data 9]
    Along step (fun past _ call => isNew past call = true) [] {} calls ∧
      (run step {} calls).1.cc.bytesInFlight = trackedBytes (run step {} calls).1.spaces ∧
      minWindow ≤ (run step {} calls).1.cc.cwnd ∧
      trackedBytes (run step {} calls).1.spaces = 300 := by
  intro calls
  have hnew : Along step (fun past _ call => isNew past call = true) [] {} calls := by
    decide +kernel
  obtain ⟨hflt, hwin⟩ := in_flight_exact calls hnew
  exact ⟨hnew, hflt, hwin, by decide +kernel⟩

/-! ## The window -/

variable {r : LossRecovery}

lemma mem_detectLost : p ∈ (r.detectLost level now).2 ↔
    ∃ pn, (level, pn, p) ∈ r.tracked ∧ r.takes (.detect level now) (level, pn, p) = true := by
  simp only [mem_tracked]
  unfold detectLost takes
  cases hlarg : (r.spaces.get level).largestAcked with
  | none => simp [hlarg]
  | some largest => simp [hlarg, OrdMap.values, OrdMap.filter]

lemma lastSent_le {lost : List SentPacket} : (lost.map fun p => p.timeSent).max?.getD 0 ≤ b ↔
    ∀ p ∈ lost, p.timeSent ≤ b := by
  cases hmax : (lost.map fun p => p.timeSent).max? with
  | none => simp [map_eq_nil_iff.mp (max?_eq_none_iff.mp hmax)]
  | some last => rw [Option.getD_some, max?_le_iff hmax, forall_mem_map]

lemma recoveryStart_step {call : Call} :
    r.cc.recoveryStart ≤ (step r call).1.cc.recoveryStart := by
  cases call with
  | ack level largest firstRange ranges ackDelay now => exact le_of_eq (foldl_onAcked _ r.cc).2.2.symm
  | detect level now =>
    unfold step detectLost onLoss
    grind
  | _ => exact le_rfl

/-- The window is cut only for packets sent after those it was cut for before. -/
lemma detectLost_window (r : LossRecovery) (level : Level) (now : Nat) :
    (r.detectLost level now).1.cc.cwnd = r.cc.cwnd ∨
      (¬∀ p ∈ (r.detectLost level now).2, p.timeSent ≤ r.cc.recoveryStart) ∧
        ∀ p ∈ (r.detectLost level now).2, p.timeSent ≤ (r.detectLost level now).1.cc.recoveryStart := by
  unfold detectLost
  dsimp only
  split
  · exact .inl rfl
  · dsimp only
    split
    · exact .inl rfl
    · unfold onLoss
      dsimp only
      split
      · exact .inl rfl
      · next hafter => exact .inr ⟨fun h => hafter (lastSent_le.mpr h), lastSent_le.mp le_rfl⟩

/-- A cut at `t` for packets after which none that is tracked was sent before `t`: later
losses of packets sent before `t` do not cut the window again. -/
theorem cut_once_per_epoch (r : LossRecovery) (level : Level) (t : Nat) (calls : List Call)
    (hcut : (r.detectLost level t).1.cc.cwnd < r.cc.cwnd)
    (hlast : ∀ entry ∈ r.tracked, entry.2.2.timeSent < t → ∃ entry' ∈ r.tracked,
      r.takes (.detect level t) entry' = true ∧ entry.2.2.timeSent ≤ entry'.2.2.timeSent)
    (hlater : ∀ call ∈ calls, ∀ level' pkt, call = .sent level' pkt → t ≤ pkt.timeSent)
    (level' : Level) (t' : Nat) :
    let s := (run step (r.detectLost level t).1 calls).1
    (∀ p ∈ (s.detectLost level' t').2, p.timeSent < t) →
      ¬(s.detectLost level' t').1.cc.cwnd < s.cc.cwnd := by
  intro s hearly
  have hstart : ∀ entry ∈ (r.detectLost level t).1.tracked, entry.2.2.timeSent < t →
      entry.2.2.timeSent ≤ (r.detectLost level t).1.cc.recoveryStart := by
    rintro ⟨level', pn, p⟩ hp hbef
    rcases (mem_tracked_step r (.detect level t) level' pn p).mp hp with ⟨⟨⟩, -⟩ | ⟨hp, -⟩
    obtain ⟨⟨level'', pn', q⟩, hq, htaken, hle⟩ := hlast _ hp hbef
    obtain rfl : level'' = level := by simp_all [takes]
    rcases detectLost_window r level'' t with hsame | ⟨-, hlost⟩
    · omega
    · exact le_trans hle (hlost q (mem_detectLost.mpr ⟨pn', hq, htaken⟩))
  have hend := @run_invariant _ _ _ step
    (fun _ s => ∀ entry ∈ s.tracked, entry.2.2.timeSent < t →
      entry.2.2.timeSent ≤ s.cc.recoveryStart)
    (fun _ _ call => ∀ level' pkt, call = .sent level' pkt → t ≤ pkt.timeSent)
    (by
      rintro _ s call hs hcall ⟨level', pn, p⟩ hp hbef
      rcases (mem_tracked_step s call level' pn p).mp hp with ⟨heq, -⟩ | ⟨hp, -⟩
      · exact absurd (hcall level' p heq) (not_le.mpr hbef)
      · exact le_trans (hs _ hp hbef) recoveryStart_step)
    calls [] _ hstart (.of_forall_mem calls [] _ hlater)
  rcases detectLost_window s level' t' with hsame | ⟨hnew, -⟩
  · omega
  · refine absurd (fun p hp => ?_) hnew
    obtain ⟨pn, htrac, -⟩ := mem_detectLost.mp hp
    exact hend _ htrac (hearly p hp)

/-- Packets sent at 10 and 20 are lost one after the other: a second cut, though both
were sent before the first. -/
theorem epoch_cut_twice :
    let s := (run step {} [.sent .data ⟨0, 10, 100, true⟩, .sent .data ⟨1, 20, 100, true⟩,
      .sent .data ⟨3, 30, 100, true⟩, .sent .data ⟨4, 40, 100, true⟩, .ack .data 3 0 [] 0 50]).1
    let s' := (run step (s.detectLost .data 50).1 [.ack .data 4 0 [] 0 60]).1
    (s.detectLost .data 50).1.cc.cwnd < s.cc.cwnd ∧
      (s'.detectLost .data 60).2 = [⟨1, 20, 100, true⟩] ∧
      (s'.detectLost .data 60).1.cc.cwnd < s'.cc.cwnd := by
  decide +kernel

/-- Of two packets sent at 10 the second is lost after the cut for the first. -/
theorem epoch_cut_of_first :
    let s := (run step {} [.sent .data ⟨0, 10, 100, true⟩, .sent .data ⟨1, 10, 100, true⟩,
      .sent .data ⟨3, 50, 100, true⟩, .sent .data ⟨4, 50, 100, true⟩, .ack .data 3 0 [] 0 50]).1
    let s' := (run step (s.detectLost .data 50).1 [.ack .data 4 0 [] 0 60]).1
    (s'.detectLost .data 60).2 = [⟨1, 10, 100, true⟩] ∧
      ¬(s'.detectLost .data 60).1.cc.cwnd < s'.cc.cwnd := by
  intro s s'
  refine ⟨by decide +kernel, ?_⟩
  exact cut_once_per_epoch s .data 50 _ (by decide +kernel) (by decide +kernel) (by simp) .data 60
    (by decide +kernel)

/-! ## The timer -/

/-- A packet that asks for an acknowledgement is tracked. -/
abbrev Outstanding (r : LossRecovery) : Prop := ∃ entry ∈ r.tracked, entry.2.2.ackEliciting = true

def Idle (r : LossRecovery) : Prop :=
  ∀ level, (r.spaces.get level).lossTime = none ∧ (r.spaces.get level).lastAckEliciting = none

/-- A call leaves a packet that asks for an acknowledgement, or brings one, or none is
tracked and no other packet waits to be declared lost. -/
def KeepsTimer (r : LossRecovery) (call : Call) : Prop :=
  (∃ entry ∈ r.tracked, entry.2.2.ackEliciting = true ∧ r.takes call entry = false) ∨
    (∃ level pkt, call = .sent level pkt ∧ pkt.ackEliciting = true) ∨
    ¬r.Outstanding ∧ ∀ level now, call = .detect level now → ∀ entry ∈ r.tracked,
      entry.1 = level → r.takes call entry = true ∨
        (r.spaces.get level).largestAcked.all (· ≤ entry.2.1) = true

lemma KeepsTimer.step (hkeeps : r.KeepsTimer call) (h : r.Outstanding ∨ r.Idle) :
    (step r call).1.Outstanding ∨ (step r call).1.Idle := by
  have hbrg : ∀ level pkt, call = .sent level pkt → pkt.ackEliciting = true →
      (LossRecovery.step r call).1.Outstanding := fun level pkt heq hasks =>
    ⟨_, (mem_tracked_step r call level pkt.pn pkt).mpr (.inl ⟨heq, rfl⟩), hasks⟩
  rcases hkeeps with ⟨⟨level, pn, p⟩, hp, hasks, hstays⟩ | ⟨level, pkt, heq, hasks⟩ | ⟨hnone, hwaits⟩
  · exact .inl ⟨_, (mem_tracked_step r call level pn p).mpr (.inr ⟨hp, hstays⟩), hasks⟩
  · exact .inl (hbrg level pkt heq hasks)
  have hidle := h.resolve_left hnone
  cases call with
  | sent level pkt =>
    cases hasks : pkt.ackEliciting with
    | true => exact .inl (hbrg level pkt rfl hasks)
    | false =>
      refine .inr fun level' => ?_
      dsimp only [LossRecovery.step, onPacketSent]
      rw [get_set, hasks]
      split
      · exact hidle level
      · exact hidle level'
  | ack level largest firstRange ranges ackDelay now =>
    refine .inr fun level' => ?_
    dsimp only [LossRecovery.step, onAck]
    rw [get_set]
    split
    · exact hidle level
    · exact hidle level'
  | detect level now =>
    refine .inr fun level' => ?_
    dsimp only [LossRecovery.step, detectLost]
    cases hlarg : (r.spaces.get level).largestAcked with
    | none => exact hidle level'
    | some largest =>
      dsimp only
      rw [get_set]
      split
      · refine ⟨min?_eq_none_iff.mpr (map_eq_nil_iff.mpr (filter_eq_nil_iff.mpr ?_)), (hidle level).2⟩
        rintro ⟨pn, p⟩ hp
        obtain ⟨hp, hkept⟩ := mem_entries_filter.mp hp
        have hwait := hwaits level now rfl _ (mem_tracked.mpr hp) rfl
        simp_all [takes]
      · exact hidle level'
  | ptoExpired => exact .inr hidle

/-- The timer stops with the last packet that asks for an acknowledgement only in runs
that never had one. -/
theorem timer_only_while_outstanding (calls : List Call)
    (hkeeps : Along step (fun _ r call => r.KeepsTimer call) [] {} calls)
    (hnone : ¬(run step {} calls).1.Outstanding) : (run step {} calls).1.lossTimer = none := by
  have hstart : Outstanding {} ∨ Idle {} := .inr fun level => by cases level <;> exact ⟨rfl, rfl⟩
  have hend := @run_invariant _ _ _ step (fun _ r => r.Outstanding ∨ r.Idle) _
    (fun _ _ _ h hkeeps => hkeeps.step h) calls [] {} hstart hkeeps
  have hidle := hend.resolve_left hnone
  generalize (run step {} calls).1 = r at hidle
  simp [lossTimer, (hidle _).1, (hidle _).2]

/-- The only packet is acknowledged, and the timer still runs. -/
theorem timer_of_nothing :
    let r := (run step {} [.sent .data ⟨0, 5, 100, true⟩, .ack .data 0 0 [] 0 9]).1
    r.tracked = [] ∧ r.lossTimer ≠ none := by
  decide +kernel

/-- A packet that asks for nothing is sent and acknowledged. -/
theorem timer_of_silent :
    let calls : List Call := [.sent .data ⟨0, 5, 100, false⟩, .ack .data 0 0 [] 0 9]
    Along step (fun _ r call => r.KeepsTimer call) [] {} calls ∧
      (run step {} calls).1.lossTimer = none := by
  intro calls
  have hkeeps : Along step (fun _ r call => r.KeepsTimer call) [] {} calls := by
    refine ⟨.inr (.inr ⟨?_, by simp⟩), .inr (.inr ⟨?_, by simp⟩), True.intro⟩ <;> decide +kernel
  exact ⟨hkeeps, timer_only_while_outstanding calls hkeeps (by decide +kernel)⟩

end LossRecovery
end MeshBus.Quic
