import MeshBus.Kernel.Attempts

/-!
# The waiters of datagram probes

A session may wait for the fate of its `Open` on a channel that it leaves in the
table of probes.  A dispatch that tells the waiter takes the sender out of the
table; the ends of a dispatch that do not are those of an expired frame, of a
replicated one, and of one that an egress takes like any other frame.
-/

namespace MeshBus.Kernel

open Lib List Option

abbrev ProbeChannels := Table SessionId Unit

/-- A dispatch with the table of probes.  Whatever the waiter is told, its sender
goes. -/
def dispatchProbed (bus : Bus) (m : Moment) (t : Tables) (probes : ProbeChannels)
    (frame : Frame) : Option (Dispatched × ProbeChannels) := do
  let d ← dispatch bus m t frame
  return (d, if d.probe.isSome then probes.erase frame.sessionId else probes)

/-- No egress that the order leads to takes the frame when it is sent there. -/
def Refused (m : Moment) (order : List Nat) : Prop :=
  ∀ idx ∈ order, (m.replies idx).send.success = false

/-- The scheduler puts the egresses in order, and if the flow is one that datagram
forwarders do not carry, none of these egresses takes the frame. -/
def Resolves (bus : Bus) (m : Moment) (frame : Frame) : ScheduleDecision → Prop
  | .ordered order =>
    frame.returnSemantics = .sequenceReorder → Refused m (rankedEgresses bus m frame order)
  | .replicate _ => False

section

lemma shapeFor_of_datagram (hkind : frame.kind = .open)
    (hdgram : frame.flowSemantics = .datagram)
    (hexit : exit.capabilities.supportsDatagram = true) :
    shapeFor frame exit =
      if frame.returnSemantics = .sequenceReorder then .frameRouter else .datagramForwarder := by
  unfold shapeFor DataplaneShape.derive
  rw [if_pos hkind, hdgram, hexit]
  cases frame.returnSemantics <;> rfl

lemma attempt_of_forwardable (hkind : frame.kind = .open)
    (hdgram : frame.flowSemantics = .datagram) (hexit : exit.capabilities.supportsDatagram = true)
    (hret : frame.returnSemantics ≠ .sequenceReorder)
    (h : (attempt exit frame idx reply t).2 = .handled d) : d.probe.isSome = true := by
  have hshape := shapeFor_of_datagram hkind hdgram hexit
  rw [if_neg hret] at hshape
  unfold attempt at h
  rw [hshape] at h
  dsimp only at h
  split at h
  · cases h
    rfl
  · cases h
  · cases h
    rfl

lemma attempt_of_reordered (hkind : frame.kind = .open) (hdgram : frame.flowSemantics = .datagram)
    (hexit : exit.capabilities.supportsDatagram = true)
    (hret : frame.returnSemantics = .sequenceReorder) :
    attempt exit frame idx reply t =
      ([.send], attemptSend frame idx .frameRouter reply.send t) := by
  have hshape := shapeFor_of_datagram hkind hdgram hexit
  rw [if_pos hret] at hshape
  unfold attempt
  rw [hshape]

lemma attemptSend_handled (h : attemptSend frame idx shape result t = .handled d) :
    result.success = true ∧ d.probe = none := by
  unfold attemptSend at h
  split at h
  · rename_i hsucc
    cases h
    refine ⟨hsucc, ?_⟩
    unfold acceptSend
    dsimp only
    split <;> rfl
  · cases h

lemma attemptSend_failed (h : attemptSend frame idx shape result t = .failed event) :
    result.success = false := by
  unfold attemptSend at h
  split at h
  · cases h
  · rename_i hsucc
    exact Bool.eq_false_iff.mpr hsucc

/-- Along an order of datagram egresses the waiter is told, unless the flow has no
datagram forwarder and an egress takes the frame. -/
lemma dispatchOrdered_probe (order : List Nat) (lastFailure : Option ReturnEvent)
    (frame : Frame) (hkind : frame.kind = .open) (hdgram : frame.flowSemantics = .datagram)
    (hexits : ∀ idx ∈ order, ∀ exit, bus.egresses[idx]? = some exit →
      exit.capabilities.supportsDatagram = true)
    (hd : dispatchOrdered bus m t order lastFailure frame = some d) :
    d.probe.isSome = true ↔
      (frame.returnSemantics = .sequenceReorder → Refused m order) := by
  induction order generalizing lastFailure frame d with
  | nil =>
    cases hd
    exact ⟨fun _ _ => forall_mem_nil _, fun _ => rfl⟩
  | cons idx rest ih =>
    simp only [dispatchOrdered, bind_eq_bind, bind_eq_some_iff] at hd
    obtain ⟨exit, hexit, hd⟩ := hd
    have hcap := hexits idx mem_cons_self exit hexit
    have hrest : ∀ idx ∈ rest, ∀ exit, bus.egresses[idx]? = some exit →
        exit.capabilities.supportsDatagram = true :=
      fun idx hmem => hexits idx (mem_cons_of_mem _ hmem)
    by_cases hret : frame.returnSemantics = .sequenceReorder
    · rw [attempt_of_reordered (show (frame.via exit).kind = .open from hkind) hdgram
        hcap hret] at hd
      split at hd
      · rename_i calls d' hatt
        cases hd
        obtain ⟨hsucc, hprobe⟩ := attemptSend_handled (Prod.mk.inj hatt).2
        have htaken : ¬Refused m (idx :: rest) := by
          intro href
          rw [href idx mem_cons_self] at hsucc
          cases hsucc
        simp [hprobe, hret, htaken]
      · rename_i calls event hatt
        obtain ⟨d', hd', hd⟩ := bind_eq_some_iff.mp hd
        cases hd
        have hfailed := attemptSend_failed (Prod.mk.inj hatt).2
        have hlater : d'.probe.isSome = true ↔
            (frame.returnSemantics = .sequenceReorder → Refused m rest) :=
          ih _ (frame.via exit) hkind hdgram hrest hd'
        simpa [Refused, hfailed] using hlater
    · split at hd
      · rename_i calls d' hatt
        cases hd
        have htold := attempt_of_forwardable (show (frame.via exit).kind = .open from hkind)
          hdgram hcap hret (congrArg Prod.snd hatt)
        simp [htold, hret]
      · obtain ⟨d', hd', hd⟩ := bind_eq_some_iff.mp hd
        cases hd
        have hlater := ih _ (frame.via exit) hkind hdgram hrest hd'
        exact hlater.trans ⟨fun _ h => absurd h hret, fun _ h => absurd h hret⟩

end
section
variable {bus : Bus} {m : Moment} {t : Tables} {frame : Frame} {d : Dispatched}

lemma collectReplies_probe : (collectReplies m frame order returned t).probe = none := by
  induction order generalizing returned t with
  | nil => rfl
  | cons idx rest ih =>
    simp only [collectReplies]
    split
    · split <;> apply ih
    · apply ih

lemma dispatchReplicate_probe
    (hd : dispatchReplicate bus m t order frame = some d) : d.probe = none := by
  simp only [dispatchReplicate] at hd
  split at hd
  · cases hd
    rfl
  · obtain ⟨-, -, hd⟩ := bind_eq_some_iff.mp hd
    cases hd
    exact collectReplies_probe

lemma perm_of_applyPin
    (h : applyPinWithHysteresis bus scheduler candidates ctx pinned order = some order') :
    order'.Perm order := by
  unfold applyPinWithHysteresis at h
  split at h
  · cases h
    exact .refl _
  · rename_i pos hpos
    split at h
    · cases h
      exact cons_eraseIdx_perm hpos
    · split at h
      · cases h
        exact .refl _
      · simp only [bind_eq_bind, bind_eq_some_iff] at h
        obtain ⟨pinExit, -, altExit, -, h⟩ := h
        have horder := Option.some.inj h
        rw [← horder]
        split
        · exact cons_eraseIdx_perm hpos
        · exact .refl _

lemma perm_of_pinnedOrder (h : pinnedOrder bus m t flowId candidates ctx order = some order') :
    order'.Perm order := by
  unfold pinnedOrder at h
  split at h
  · cases h
    exact .refl _
  · simp only [bind_eq_bind, bind_eq_some_iff] at h
    obtain ⟨exit, -, h⟩ := h
    split at h
    · cases h
      exact .refl _
    · exact perm_of_applyPin h

lemma mem_validOrder_go_of_mem (hmem : idx ∈ order) (hlt : idx < n) (hseen : idx ∉ seen) :
    idx ∈ validOrder.go n seen order := by
  fun_induction validOrder.go n seen order with
  | case1 => cases hmem
  | case2 seen head rest hcond ih =>
    by_cases hhead : idx = head
    · rw [hhead]
      exact mem_cons_self
    · have hrest := (mem_cons.mp hmem).resolve_left hhead
      exact mem_cons_of_mem _ (ih hrest (not_mem_cons_of_ne_of_not_mem hhead hseen))
  | case3 seen head rest hcond ih =>
    -- the head was dropped, so it is not the index at hand
    apply ih _ hseen
    apply (mem_cons.mp hmem).resolve_left
    rintro rfl
    exact hcond ⟨hlt, hseen⟩

lemma mem_validOrder_iff (hlt : ∀ idx ∈ order, idx < n) :
    idx ∈ validOrder order n ↔ idx ∈ order :=
  ⟨fun h => (mem_of_mem_validOrder h).1,
    fun h => mem_validOrder_go_of_mem h (hlt idx h) not_mem_nil⟩

lemma ranked_supportsDatagram (hdgram : frame.flowSemantics = .datagram)
    (hmem : idx ∈ rankedEgresses bus m frame order) :
    ∃ exit, bus.egresses[idx]? = some exit ∧ exit.capabilities.supportsDatagram = true := by
  obtain ⟨c, hc, rfl⟩ := mem_map.mp (mem_of_mem_mapCandidateOrder hmem)
  obtain ⟨exit, hat, hcap, -⟩ := egress_of_mem_bucket (permitted_of_chosen hc).capable
  rw [hdgram] at hcap
  exact ⟨exit, hat, hcap⟩

lemma dispatchScheduled_probe (hkind : frame.kind = .open)
    (hdgram : frame.flowSemantics = .datagram) (hd : dispatchScheduled bus m t frame = some d) :
    d.probe.isSome = true ↔ Resolves bus m frame (decisionFor bus m t frame) := by
  simp only [dispatchScheduled] at hd
  split at hd
  · rename_i order hdcn
    obtain ⟨order', hpin, hd⟩ := bind_eq_some_iff.mp hd
    have hperm := perm_of_pinnedOrder hpin
    have hexits : ∀ idx ∈ order', ∃ exit, bus.egresses[idx]? = some exit ∧
        exit.capabilities.supportsDatagram = true :=
      fun idx hmem => ranked_supportsDatagram hdgram (hperm.mem_iff.mp hmem)
    have hlt : ∀ idx ∈ order', idx < bus.egresses.length := by
      intro idx hmem
      obtain ⟨exit, hat, -⟩ := hexits idx hmem
      exact (List.getElem?_eq_some_iff.mp hat).1
    have htold := dispatchOrdered_probe _ none frame hkind hdgram (fun idx hmem exit hat => by
      obtain ⟨exit', hat', hcap⟩ := hexits idx (mem_of_mem_validOrder hmem).1
      rw [hat] at hat'
      cases hat'
      exact hcap) hd
    have href : Refused m (validOrder order' bus.egresses.length) ↔
        Refused m (rankedEgresses bus m frame order) := by
      simp only [Refused, mem_validOrder_iff hlt, hperm.mem_iff]
    rw [hdcn, htold, href]
    rfl
  · rename_i order hdcn
    obtain ⟨order', -, hd⟩ := bind_eq_some_iff.mp hd
    rw [hdcn, dispatchReplicate_probe hd]
    exact ⟨fun h => (by cases h), False.elim⟩

/-- The waiter of a probe is told its fate exactly when the frame has hops left,
the scheduler puts the egresses in order, and, for a flow that datagram forwarders
do not carry, no egress takes the frame. -/
theorem probe_answered_iff (bus : Bus) (m : Moment) (t : Tables) (probes probes' : ProbeChannels)
    (frame : Frame) (d : Dispatched) (hkind : frame.kind = .open)
    (hdatagram : frame.flowSemantics = .datagram) (hwaits : frame.sessionId ∈ probes)
    (hd : dispatchProbed bus m t probes frame = some (d, probes')) :
    frame.sessionId ∉ probes' ↔
      frame.ttl ≠ 0 ∧ Resolves bus m frame (decisionFor bus m t frame) := by
  simp only [dispatchProbed, bind_eq_bind, bind_eq_some_iff] at hd
  obtain ⟨d', hd, hres⟩ := hd
  cases hres
  have hgone : frame.sessionId ∉
      (if d.probe.isSome then probes.erase frame.sessionId else probes) ↔
        d.probe.isSome = true := by
    split
    · rename_i htold
      simp [htold, AList.mem_erase]
    · rename_i htold
      simp [htold, hwaits]
  rw [hgone]
  rcases dispatch_cases hd with
    ⟨httl, rfl⟩ | ⟨-, -, state, hstate, -⟩ | ⟨httl, -, -, hd⟩ | ⟨-, hends, -⟩
  · simp [httl]
  · exact absurd hkind (lookup_of_forwarderState hstate).1
  · rw [dispatchScheduled_probe (show frame.hop.kind = .open from hkind) hdatagram hd]
    exact ⟨fun h => ⟨httl, h⟩, fun h => h.2⟩
  · exact absurd ⟨by rw [hkind]; decide, by rw [hkind]; decide⟩ hends

end

def datagramBus : Bus where
  egresses := [⟨"a", ⟨false, true, []⟩⟩]
  retains pin alt := 5 * pin < 6 * alt

def decidedMoment (schedule : List ExitId → ScheduleDecision) : Moment :=
  { wildMoment with scheduler := ⟨fun exits _ => schedule exits, fun _ _ _ => 0⟩ }

def probeFrame : Frame :=
  { exampleFrame with kind := .open, flowSemantics := .datagram, returnSemantics := .packetDedup }

def waitingProbe : ProbeChannels := AList.insert "s" () ∅

theorem probe_answered_when_ordered :
    ∃ d probes', dispatchProbed datagramBus (decidedMoment fun _ => .ordered [0]) .empty
        waitingProbe probeFrame = some (d, probes') ∧ probeFrame.sessionId ∉ probes' := by
  obtain ⟨⟨d, probes'⟩, hd⟩ := isSome_iff_exists.mp
    (show (dispatchProbed datagramBus (decidedMoment fun _ => .ordered [0]) .empty waitingProbe
      probeFrame).isSome = true by decide +kernel)
  refine ⟨d, probes', hd, ?_⟩
  exact (probe_answered_iff datagramBus _ .empty waitingProbe probes' probeFrame d rfl rfl
    (by decide) hd).mpr ⟨by decide, fun h => (by cases h)⟩

/-- The waiter of a frame that the scheduler replicates is left waiting. -/
theorem replicated_probe_unanswered :
    probeFrame.kind = .open ∧ probeFrame.flowSemantics = .datagram ∧
    probeFrame.sessionId ∈ waitingProbe ∧
    (dispatchProbed datagramBus (decidedMoment fun exits => .replicate (range exits.length))
      .empty waitingProbe probeFrame).map (fun result => decide (probeFrame.sessionId ∈ result.2)) =
      some true := by
  decide +kernel

end MeshBus.Kernel
