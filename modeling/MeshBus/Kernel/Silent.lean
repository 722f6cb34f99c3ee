import MeshBus.Kernel.Attempts

/-!
# Dispatches that only send

An exit may answer a frame with nothing but its fate; what comes back is polled.
Such a dispatch puts at most a close on the return channel, and records no packet
as returned.  A replicated frame starts a poll task on every exit that takes it
and has none.
-/

namespace MeshBus.Kernel

open Lib List

def Silent (m : Moment) : Prop :=
  ∀ idx, (m.replies idx).send.success = true → (m.replies idx).send.returnEvent = .idle

/-- Nothing but closes went back, and no packet was recorded. -/
structure Quiet (t : Tables) (d : Dispatched) : Prop where
  closes : ∀ event ∈ d.returns, ∃ reason, event = .closed reason
  packets : d.tables.packetReturns = t.packetReturns

@[simp] lemma ensureStreamPoll_packetReturns :
    (ensureStreamPoll t frame idx).packetReturns = t.packetReturns := by
  unfold ensureStreamPoll
  split
  · rfl
  · split <;> rfl

section

lemma acceptSend_silent (hkind : frame.kind ≠ .open) (hidle : result.returnEvent = .idle) :
    acceptSend frame idx shape result t =
      { tables := ensureStreamPoll { t with flowPins := t.flowPins.insert frame.flowId idx } frame
          idx
        accepted := [idx] } := by
  simp [acceptSend, openReturnEvent, hkind, hidle]

lemma dispatchOrdered_quiet (hsil : Silent m) (order : List Nat)
    (lastFailure : Option ReturnEvent) (frame : Frame) (hkind : frame.kind ≠ .open)
    (hd : dispatchOrdered bus m t order lastFailure frame = some d) : Quiet t d := by
  induction order generalizing lastFailure frame d with
  | nil =>
    cases hd
    exact ⟨by simp, rfl⟩
  | cons idx rest ih =>
    simp only [dispatchOrdered, Option.bind_eq_bind, Option.bind_eq_some_iff] at hd
    obtain ⟨exit, -, hd⟩ := hd
    have hvia : (frame.via exit).kind ≠ .open := hkind
    rw [attempt_of_not_open hvia] at hd
    simp only [attemptSend] at hd
    split at hd
    · rename_i hended
      split at hended
      · rename_i hsucc
        cases hended
        cases hd
        rw [acceptSend_silent hvia (hsil idx hsucc)]
        exact ⟨by simp, by simp⟩
      · cases hended
    · obtain ⟨d', hd', hd⟩ := Option.bind_eq_some_iff.mp hd
      cases hd
      have hquiet := ih _ (frame.via exit) hkind hd'
      exact ⟨hquiet.closes, hquiet.packets⟩

lemma collectReplies_quiet (hsil : Silent m) (frame : Frame) (hkind : frame.kind ≠ .open)
    (order : List Nat) (returned : Bool) (t : Tables) :
    Quiet t (collectReplies m frame order returned t) := by
  induction order generalizing returned t with
  | nil => exact ⟨by simp [collectReplies], rfl⟩
  | cons idx rest ih =>
    simp only [collectReplies]
    split
    · rename_i hsucc
      split
      · have hquiet := ih true (ensureStreamPoll t frame idx)
        exact ⟨hquiet.closes, by simp [hquiet.packets]⟩
      · simp only [hsil idx hsucc, hkind, ne_eq, not_true_eq_false, or_self, if_false]
        have hquiet := ih true
          { ensureStreamPoll t frame idx with
            flowPins := (ensureStreamPoll t frame idx).flowPins.insert frame.flowId idx }
        exact ⟨by simpa using hquiet.closes,
          hquiet.packets.trans ensureStreamPoll_packetReturns⟩
    · exact ih returned t

lemma dispatch_quiet (hsil : Silent m) (hkind : frame.kind ≠ .open)
    (hcarr : frame.Carries) (hd : dispatch bus m t frame = some d) : Quiet t d := by
  rcases dispatch_cases hd with
    ⟨-, rfl⟩ | ⟨-, -, state, -, hd⟩ | ⟨-, -, -, hd⟩ | ⟨-, hends, -⟩
  · exact ⟨by simp, rfl⟩
  · simp only [dispatchForwarderFrame, Option.bind_eq_bind, Option.bind_eq_some_iff] at hd
    obtain ⟨-, -, hd⟩ := hd
    split at hd
    · rename_i hsucc
      simp only [hsil _ hsucc, ne_eq, not_true_eq_false, if_false] at hd
      cases hd
      exact ⟨by simp, rfl⟩
    · cases hd
      exact ⟨by simp, rfl⟩
  · simp only [dispatchScheduled] at hd
    split at hd
    · obtain ⟨order, -, hd⟩ := Option.bind_eq_some_iff.mp hd
      exact dispatchOrdered_quiet hsil _ _ frame.hop hkind hd
    · obtain ⟨order, -, hd⟩ := Option.bind_eq_some_iff.mp hd
      simp only [dispatchReplicate] at hd
      split at hd
      · cases hd
        exact ⟨by simp, rfl⟩
      · obtain ⟨-, -, hd⟩ := Option.bind_eq_some_iff.mp hd
        cases hd
        have hquiet := collectReplies_quiet hsil
          { frame.hop with returnSemantics := .packetDedup } hkind
          (m.race (validOrder order bus.egresses.length)) false t
        exact ⟨hquiet.closes, hquiet.packets⟩
  · exact absurd hcarr hends

end

/-! ## The poll tasks that a dispatch starts -/

/-- A poll task is as before, or the frame has just started it on an egress that
took the frame. -/
def Started (m : Moment) (t : Tables) (frame : Frame) (order : List Nat)
    (key : SessionId × Nat) (returnFrame : Frame) : Prop :=
  t.activeStreamPolls.lookup key = some returnFrame ∨
    (returnFrame = frame ∧ t.activeStreamPolls.lookup key = none ∧ key.2 ∈ order ∧
      key.1 = frame.sessionId ∧ (m.replies key.2).send.success = true)

section

lemma lookup_ensureStreamPoll
    (h : (ensureStreamPoll t frame idx).activeStreamPolls.lookup key = some returnFrame) :
    t.activeStreamPolls.lookup key = some returnFrame ∨
      (returnFrame = frame ∧ key = (frame.sessionId, idx) ∧
        t.activeStreamPolls.lookup key = none) := by
  unfold ensureStreamPoll at h
  split at h
  · exact .inl h
  · split at h
    · exact .inl h
    · rename_i hnone
      rw [Table.lookup_insert_if] at h
      split at h
      · rename_i hkey
        cases h
        rw [hkey]
        exact .inr ⟨rfl, rfl, AList.lookup_eq_none.mpr hnone⟩
      · exact .inl h

lemma lookup_none_of_ensureStreamPoll
    (h : (ensureStreamPoll t frame idx).activeStreamPolls.lookup key = none) :
    t.activeStreamPolls.lookup key = none := by
  unfold ensureStreamPoll at h
  split at h
  · exact h
  · split at h
    · exact h
    · rw [Table.lookup_insert_if] at h
      split at h
      · cases h
      · exact h

lemma sendReturn_activeStreamPolls (t : Tables) (frame : Frame) (event : ReturnEvent) :
    (sendReturn t frame event).1.activeStreamPolls = t.activeStreamPolls := by
  obtain ⟨packets, htabs⟩ := sendReturnWithPacketId_tables t frame event frame.packetId
  rw [sendReturn, htabs]

lemma collectReplies_polls (order : List Nat) (returned : Bool) (t : Tables)
    (h : (collectReplies m frame order returned t).tables.activeStreamPolls.lookup key =
      some returnFrame) : Started m t frame order key returnFrame := by
  induction order generalizing returned t with
  | nil => exact .inl h
  | cons idx rest ih =>
    -- What the rest starts was not there before, nor started just now.
    have hnext : ∀ t', t'.activeStreamPolls = (ensureStreamPoll t frame idx).activeStreamPolls →
        (m.replies idx).send.success = true → Started m t' frame rest key returnFrame →
        Started m t frame (idx :: rest) key returnFrame := by
      rintro t' hpolls hsucc (hold | ⟨rfl, hnone, hmem, hid, htook⟩)
      · rw [hpolls] at hold
        rcases lookup_ensureStreamPoll hold with hold | ⟨rfl, rfl, hnone⟩
        · exact .inl hold
        · exact .inr ⟨rfl, hnone, mem_cons_self, rfl, hsucc⟩
      · refine .inr ⟨rfl, ?_, mem_cons_of_mem _ hmem, hid, htook⟩
        rw [hpolls] at hnone
        exact lookup_none_of_ensureStreamPoll hnone
    simp only [collectReplies] at h
    split at h
    · rename_i hsucc
      split at h
      · exact hnext _ rfl hsucc (ih true _ h)
      · refine hnext _ ?_ hsucc (ih true _ h)
        split
        · rw [sendReturn_activeStreamPolls]
        · rfl
    · rcases ih returned t h with hold | ⟨rfl, hnone, hmem, hrest⟩
      · exact .inl hold
      · exact .inr ⟨rfl, hnone, mem_cons_of_mem _ hmem, hrest⟩

lemma dispatch_polls (hbds : t.InBounds bus.egresses.length) (hcarr : frame.Carries)
    (hdcn : decisionFor bus m t frame.hop = .replicate order)
    (hd : dispatch bus m t frame = some d)
    (h : d.tables.activeStreamPolls.lookup key = some returnFrame) :
    Started m t { frame.hop with returnSemantics := .packetDedup }
      (rankedEgresses bus m frame.hop order) key returnFrame := by
  rcases dispatch_cases hd with
    ⟨-, rfl⟩ | ⟨-, -, state, -, hd⟩ | ⟨-, -, -, hd⟩ | ⟨-, hends, -⟩
  · exact .inl h
  · simp only [dispatchForwarderFrame, Option.bind_eq_bind, Option.bind_eq_some_iff] at hd
    obtain ⟨-, -, hd⟩ := hd
    split at hd
    · split at hd
      · cases hd
        rw [sendReturn_activeStreamPolls] at h
        exact .inl h
      · cases hd
        exact .inl h
    · cases hd
      exact .inl h
  · obtain ⟨order', hpin, hperm⟩ := pinned_perm_ranked (m := m) hbds frame.hop order
    simp only [dispatchScheduled, hdcn, hpin, Option.bind_eq_bind, Option.bind_some,
      dispatchReplicate] at hd
    split at hd
    · cases hd
      exact .inl h
    · obtain ⟨-, -, hd⟩ := Option.bind_eq_some_iff.mp hd
      cases hd
      rcases collectReplies_polls _ _ _ h with hold | ⟨rfl, hnone, hmem, hrest⟩
      · exact .inl hold
      · have hvalid := (m.race_perm _).mem_iff.mp hmem
        exact .inr ⟨rfl, hnone, hperm.mem_iff.mp (mem_of_mem_validOrder hvalid).1, hrest⟩
  · exact absurd hcarr hends

end
end MeshBus.Kernel
