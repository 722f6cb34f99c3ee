import MeshBus.Quic.Emission

/-!
# The level at which lost frames are sent again

The frames of lost packets of all levels wait in one queue, and the packet of the
data level takes the whole queue.  Lost handshake data of the other levels is then
sent at the wrong level.
-/

namespace MeshBus.Quic

open Lib List

def Frame.isCrypto : Frame → Bool
  | .crypto .. => true
  | _ => false

/-- Frames that were sent again, and the level of the packet they went into. -/
def Event.resent? : Event → Option (LostFrame × Level)
  | .resent again level => some (again, level)
  | _ => none

def resent (trace : List Event) : List (LostFrame × Level) := trace.filterMap Event.resent?

lemma resent_append (t t' : List Event) : resent (t ++ t') = resent t ++ resent t' :=
  filterMap_append

lemma resent_of_none (h : ∀ event ∈ events, event.resent? = none) : resent events = [] :=
  filterMap_eq_nil_iff.mpr h

/-- Lost handshake data was only sent again at the level it was lost at. -/
def AtOwnLevel (trace : List Event) : Prop :=
  ∀ again ∈ resent trace, again.1.frame.isCrypto = true → again.2 = again.1.level

namespace Conn
variable {τ κ : Type}
variable {c c' : Conn τ κ}

lemma resent_of_learned (h : Learned c c') : resent c'.trace = resent c.trace := by
  refine Noted.filterMap (h.imp fun event hinc => ?_)
  cases event with
  | resent again level => cases hinc
  | _ => rfl

/-! ## The queue goes into the packet of the data level -/

def Drains (c : Conn τ κ) (level : Level) : Prop :=
  level = .data ∧ c.closePending = none ∧ (c.txKeys.get level).isSome = true

lemma resent_recordSent (d : Conn τ κ) (level : Level) (size : Nat) (frames : List Frame)
    (closing : Bool) : resent (d.recordSent level size frames closing).trace = resent d.trace := by
  have htrace : (d.recordSent level size frames closing).trace =
    d.trace ++ [.sent level (d.spaces.get level).nextPn frames] := rfl
  rw [htrace, resent_append]
  exact append_nil _

lemma resent_of_drains (hbuilt : c.buildPacket level = some (c', packets))
    (hdrains : c.Drains level) :
    resent c'.trace = resent c.trace ++ c.retransmit.map fun lost => (lost, .data) := by
  obtain ⟨hlevel, hrunn, hkeys⟩ := hdrains
  have hgathd : resent (c.gatherFrames level).1.trace =
      resent c.trace ++ c.retransmit.map fun lost => (lost, .data) := by
    have hgath := c.gatherFrames_cases level
    generalize (c.gatherFrames level).2.1 = frames at hgath
    generalize (c.gatherFrames level).1 = d at hgath
    cases hgath with
    | control idle _ _ => exact absurd hrunn (idle hlevel)
    | app data running same ok =>
      have htrace : d.trace = c.trace ++ c.retransmit.map (fun lost => .resent lost .data) ++
        c.fresh.1.map .produced := congrArg Account.trace same
      have hagain : resent (c.retransmit.map fun lost => .resent lost .data) =
          c.retransmit.map fun lost => (lost, .data) := by
        unfold resent
        rw [filterMap_map, ← filterMap_eq_map]
        rfl
      have hfresh : resent (c.fresh.1.map .produced) = [] :=
        resent_of_none (forall_mem_map.mpr fun _ _ => rfl)
      rw [htrace, resent_append, resent_append, hagain, hfresh, append_nil]
  rcases buildPacket_cases hbuilt with
    ⟨hnone, -, -⟩ | ⟨-, ⟨-, rfl, -⟩ | ⟨-, _, _, _, _, -, rfl, -⟩⟩
  · rw [hnone] at hkeys
    cases hkeys
  · exact hgathd
  · rw [resent_recordSent, hgathd]

lemma resent_of_not_drains (hbuilt : c.buildPacket level = some (c', packets))
    (hdrains : ¬c.Drains level) :
    resent c'.trace = resent c.trace ∧ c'.retransmit = c.retransmit := by
  rcases buildPacket_cases hbuilt with ⟨-, rfl, -⟩ | ⟨hkeys, hsent⟩
  · exact ⟨rfl, rfl⟩
  · have hgathd : (c.gatherFrames level).1.trace = c.trace ∧
        (c.gatherFrames level).1.retransmit = c.retransmit := by
      have hgath := c.gatherFrames_cases level
      generalize (c.gatherFrames level).2.1 = frames at hgath
      generalize (c.gatherFrames level).1 = d at hgath
      cases hgath with
      | control _ same _ => exact ⟨congrArg Account.trace same, congrArg Account.retransmit same⟩
      | app data running same ok => exact absurd ⟨data, running, hkeys⟩ hdrains
    rcases hsent with ⟨-, rfl, -⟩ | ⟨-, _, _, _, _, -, rfl, -⟩
    · exact ⟨by rw [hgathd.1], hgathd.2⟩
    · exact ⟨by rw [resent_recordSent, hgathd.1], hgathd.2⟩

lemma primed_spec (c : Conn τ κ) :
    (c.primed e).trace = c.trace ∧ (c.primed e).retransmit = c.retransmit ∧
      (c.primed e).closePending = c.closePending := by
  have honly : ∀ {c d : Conn τ κ}, TlsOnly c d → d.trace = c.trace ∧
      d.retransmit = c.retransmit ∧ d.closePending = c.closePending := by
    rintro c d ⟨_, _, _, _, _, _, _, rfl, -⟩
    exact ⟨rfl, rfl, rfl⟩
  unfold primed
  split
  · rcases pumpTls_cases e c with h | ⟨d, params, hbef, -, -, hafter⟩
    · exact honly h
    · obtain ⟨htrace, hqueue, hclose⟩ := honly hafter
      rw [htrace, hqueue, hclose]
      obtain ⟨htrac', hqueue', hclose'⟩ := honly hbef
      cases params <;> exact ⟨htrac', hqueue', hclose'⟩
  · exact ⟨rfl, rfl, rfl⟩

lemma other_level_spec (hlevel : level ≠ .data)
    (hbuilt : c.buildPacket level = some (c', packets)) :
    resent c'.trace = resent c.trace ∧ c'.retransmit = c.retransmit ∧
      (c'.Drains .data ↔ c.Drains .data) := by
  have hbeside := beside_buildPacket hbuilt
  obtain ⟨htrace, hqueue⟩ := resent_of_not_drains hbuilt fun hdrains => hlevel hdrains.1
  refine ⟨htrace, hqueue, ?_⟩
  rw [Drains, Drains, hbeside.keys, hbeside.close hlevel]

lemma mem_resent_pollTransmit
    (hpoll : c.pollTransmit e = some (c', datagram)) (again : LostFrame × Level) :
    again ∈ resent c'.trace ↔ again ∈ resent c.trace ∨
      c.closed = false ∧ (c.primed e).Drains .data ∧ ∃ lost ∈ c.retransmit, (lost, .data) = again := by
  rcases pollTransmit_cases hpoll with ⟨hclos, rfl, -⟩ | ⟨d, packets, hopen, hbuilt, hsame, -⟩
  · rw [hclos]
    exact ⟨.inl, fun h => h.resolve_right fun hfalse => absurd hfalse.1 Bool.noConfusion⟩
  · obtain ⟨htrace, hqueue, -⟩ := c.primed_spec
    obtain ⟨c₁, c₂, _, _, _, hinit, hshake, hdata⟩ := buildPackets_levels hbuilt
    obtain ⟨htrac₁, hqueue₁, hdrains₁⟩ := other_level_spec (by decide) hinit
    obtain ⟨htrac₂, hqueue₂, hdrains₂⟩ := other_level_spec (by decide) hshake
    rw [show c'.trace = d.trace from congrArg Account.trace hsame, ← hdrains₁, ← hdrains₂]
    have hbef : resent c₂.trace = resent c.trace := by rw [htrac₂, htrac₁, htrace]
    have hwait : c₂.retransmit = c.retransmit := by rw [hqueue₂, hqueue₁, hqueue]
    by_cases hdrains : c₂.Drains .data
    · rw [resent_of_drains hdata hdrains, hbef, hwait, mem_append, mem_map]
      exact or_congr_right ⟨fun h => ⟨hopen, hdrains, h⟩, fun h => h.2.2⟩
    · rw [(resent_of_not_drains hdata hdrains).1, hbef]
      exact ⟨.inl, fun h => h.resolve_right fun hfalse => hdrains hfalse.2.1⟩

/-! ## Runs -/

/-- A call of `poll_transmit` that returns and takes the queue finds no lost handshake
data of another level in it. -/
def KeepsLevels (e : Engine τ κ) (c : Conn τ κ) (i : Input κ) : Prop :=
  i = .poll → (c.pollTransmit e).isSome → c.closed = false → c.closePending = none →
    ((c.primed e).txKeys.get .data).isSome →
      ∀ lost ∈ c.retransmit, lost.frame.isCrypto = true → lost.level = .data

variable [DecidableEq κ]

lemma atOwnLevel_step (e : Engine τ κ) (c : Conn τ κ) (i : Input κ) :
    AtOwnLevel (c.step e i).1.trace ↔ AtOwnLevel c.trace ∧ c.KeepsLevels e i := by
  have hother : i ≠ .poll → resent (c.step e i).1.trace = resent c.trace →
      (AtOwnLevel (c.step e i).1.trace ↔ AtOwnLevel c.trace ∧ c.KeepsLevels e i) := by
    intro hne htrace
    rw [AtOwnLevel, htrace]
    exact ⟨fun h => ⟨h, fun heq => absurd heq hne⟩, fun h => h.1⟩
  rcases c.step_cases e i with ⟨bidi, rfl⟩ | ⟨id, data, fin, rfl⟩ | ⟨id, rfl⟩ | rfl | ⟨hne, hacts⟩
  · exact hother (by rintro ⟨⟩) rfl
  · refine hother (by rintro ⟨⟩) ?_
    rw [show (c.step e (.write id data fin)).1.trace = c.trace ++ [.wrote id data] from rfl,
      resent_append]
    exact append_nil _
  · exact hother (by rintro ⟨⟩) rfl
  · unfold step
    cases hpoll : c.pollTransmit e with
    | none =>
      refine ⟨fun h => ⟨h, fun _ hsome => ?_⟩, fun h => h.1⟩
      rw [hpoll] at hsome
      cases hsome
    | some result =>
      have hmem := mem_resent_pollTransmit hpoll
      constructor
      · intro h
        refine ⟨fun again hagain => h again ((hmem again).mpr (.inl hagain)), ?_⟩
        intro _ _ hopen hrunn hkeys lost hlost hcryp
        have hclose : (c.primed e).closePending = none := c.primed_spec.2.2.trans hrunn
        have hagain := h (lost, .data) ((hmem _).mpr
          (.inr ⟨hopen, ⟨rfl, hclose, hkeys⟩, lost, hlost, rfl⟩)) hcryp
        exact hagain.symm
      · rintro ⟨hbef, hkeeps⟩ again hagain hcryp
        rcases (hmem again).mp hagain with hold | ⟨hopen, hdrains, lost, hlost, rfl⟩
        · exact hbef again hold hcryp
        · have hrunn : c.closePending = none := c.primed_spec.2.2.symm.trans hdrains.2.1
          have hsome : (c.pollTransmit e).isSome := by rw [hpoll]; rfl
          exact (hkeeps rfl hsome hopen hrunn hdrains.2.2 lost hlost hcryp).symm
  · exact hother hne (resent_of_learned (learned_acts hacts))

/-- In every run: lost handshake data is only sent again at its own level, exactly if
every call of `poll_transmit` that takes the queue finds none of another level in it. -/
theorem crypto_resent_at_own_level_iff (e : Engine τ κ) (c : Conn τ κ) (hstarts : c.Starts e)
    (is : List (Input κ)) :
    AtOwnLevel (run (step e) c is).1.trace ↔
      Along (step e) (fun _ c i => c.KeepsLevels e i) [] c is := by
  have hnoth : AtOwnLevel c.trace := by
    obtain ⟨side, dcid, scid, tls, hsame⟩ := account_of_starts hstarts
    rw [show c.trace = [] from congrArg Account.trace hsame]
    exact forall_mem_nil _
  rw [@run_iff_along _ _ _ (step e) (fun c => AtOwnLevel c.trace) (fun c i => c.KeepsLevels e i)
    (atOwnLevel_step e) is [] c]
  exact and_iff_right hnoth

/-- A client loses its first packet: the second is acknowledged, and the first was
sent too long ago. -/
def lossOfHello : List (Input Nat) :=
  let fromServer (pn : Nat) (frames : List Frame) : Packet Nat :=
    let header : Header := .long .initial version1 ⟨[9], nine_fits⟩ ⟨[8], eight_fits⟩
      (encodePacketNumber pn)
    .whole header false ⟨2, pn, header, .ok frames⟩
  [.setNow 1, .poll, .recv (.ok [fromServer 0 [.ping]]), .poll,
    .recv (.ok [fromServer 1 [.ack 1 0 0 []]]), .timeout 400000]

/-- The handshake data of the first packet waits, and was not sent again. -/
theorem lost_hello_waits :
    let c := (client (.instant [1, 2, 3] 1 2) ⟨[8], by decide⟩ ⟨[9], by decide⟩ false).1
    (run (step (.instant [1, 2, 3] 1 2)) c lossOfHello).1.retransmit =
        [⟨.initial, .crypto 0 [1, 2, 3]⟩] ∧
      AtOwnLevel (run (step (.instant [1, 2, 3] 1 2)) c lossOfHello).1.trace := by
  intro c
  refine ⟨by decide +kernel, ?_⟩
  refine (crypto_resent_at_own_level_iff _ c (.inr ⟨_, _, _, rfl⟩) lossOfHello).mpr ?_
  have hempty : ∀ (c : Conn Bool Nat) (i : Input Nat), c.retransmit = [] →
      c.KeepsLevels (.instant [1, 2, 3] 1 2) i := by
    intro c i hnil _ _ _ _ _ lost hlost
    rw [hnil] at hlost
    cases hlost
  refine ⟨hempty _ _ ?_, hempty _ _ ?_, hempty _ _ ?_, hempty _ _ ?_, hempty _ _ ?_,
    hempty _ _ ?_, True.intro⟩
  all_goals decide +kernel

/-- The next packet of the data level takes it. -/
theorem lost_hello_resent_at_data_level :
    let c := (client (.instant [1, 2, 3] 1 2) ⟨[8], by decide⟩ ⟨[9], by decide⟩ false).1
    let c' := (run (step (.instant [1, 2, 3] 1 2)) c (lossOfHello ++ [.poll])).1
    .lost .initial 0 [.crypto 0 [1, 2, 3]] ∈ c'.trace ∧
      .sent .data 0 [.crypto 0 [1, 2, 3]] ∈ c'.trace ∧ ¬AtOwnLevel c'.trace := by
  refine ⟨by decide +kernel, by decide +kernel, ?_⟩
  unfold AtOwnLevel
  decide +kernel

end Conn
end MeshBus.Quic
