import MeshBus.Quic.Emission

/-!
# Which packets a connection acknowledges

A connection keeps the largest packet number it opened and acknowledges all numbers
up to it.  Such an acknowledgement is true if no number below was missed.
-/

namespace MeshBus.Quic

open Lib List

def Frame.Covers : Frame → Nat → Prop
  | .ack largest _ firstRange ranges, pn =>
    ∃ block ∈ ackedNumbers largest firstRange ranges, inBlock block pn = true
  | _, _ => False

lemma covers_own_ack {largest delay pn : Nat} :
    (Frame.ack largest delay largest []).Covers pn ↔ pn ≤ largest := by
  have hblock : ackedNumbers largest largest [] = [(0, largest)] := by
    unfold ackedNumbers laterBlocks wrapSub
    rw [Nat.add_sub_cancel_left, Nat.mod_self]
  simp only [Frame.Covers, hblock, mem_singleton, exists_eq_left, inBlock, Nat.zero_le,
    decide_true, Bool.true_and, decide_eq_true_eq]

/-- Every acknowledgement in the packets is of a number that was opened. -/
def Truthful {κ : Type} (trace : List Event) (packets : List (Packet κ)) : Prop :=
  ∀ packet ∈ packets, ∀ level frame, packet.Carries level frame →
    ∀ pn, frame.Covers pn → .decrypted level pn ∈ trace

lemma truthful_append :
    Truthful trace (packets ++ packets') ↔ Truthful trace packets ∧ Truthful trace packets' :=
  forall_mem_append

namespace Conn
variable {τ κ : Type}

def AckDue (c : Conn τ κ) (level : Level) (largest : Nat) : Prop :=
  (c.spaces.get level).ackPending = true ∧ (c.spaces.get level).largestRecv = some largest

def NoGap (trace : List Event) (c : Conn τ κ) (level : Level) : Prop :=
  ∀ largest, c.AckDue level largest → ∀ pn ≤ largest, .decrypted level pn ∈ trace

/-! ## Frames that wait are not acknowledgements -/

/-- Only handshake and stream data wait to be sent again. -/
def Resendable (a : Account) : Prop := ∀ lost ∈ a.retransmit, lost.frame.retransmittable = true

variable {c c' : Conn τ κ} {level : Level}

section
variable (h : Resendable c.account) (level : Level)
include h

lemma resendable_requeue (p : SentPacket) : Resendable (requeue level c p).account := by
  refine forall_mem_append.mpr ⟨h, forall_mem_map.mpr fun frame hframe => ?_⟩
  exact (mem_filter.mp hframe).2

lemma resendable_detectLost : Resendable (c.detectLost level).1.account := by
  have hfold : ∀ (out : List SentPacket) (c : Conn τ κ), Resendable c.account →
      Resendable (out.foldl (requeue level) c).account := by
    intro out
    induction out with
    | nil => exact fun _ hc => hc
    | cons p rest ih => exact fun c hc => ih _ (resendable_requeue hc level p)
  exact hfold _ _ h

lemma resendable_handleAck (largest delay firstRange : Nat) (ranges : List AckRange) :
    Resendable (c.handleAck level largest delay firstRange ranges).account := by
  have hfold : ∀ (out : List SentPacket) (c : Conn τ κ), Resendable c.account →
      Resendable (out.foldl (forgetAcked level) c).account := by
    intro out
    induction out with
    | nil => exact fun _ hc => hc
    | cons p rest ih => exact fun c hc => ih (forgetAcked level c p) hc
  exact resendable_detectLost
    (hfold (c.recovery.onAck level largest firstRange ranges delay c.now).2
      { c with recovery := (c.recovery.onAck level largest firstRange ranges delay c.now).1 } h) level

lemma resendable_handleFrame (frame : Frame) :
    Resendable (c.handleFrame level frame).1.account := by
  by_cases hack : ∃ largest delay firstRange ranges, frame = .ack largest delay firstRange ranges
  · obtain ⟨largest, delay, firstRange, ranges, rfl⟩ := hack
    exact resendable_handleAck h level largest delay firstRange ranges
  · obtain ⟨_, _, _, _, _, hsame⟩ := c.account_handleFrame level frame
      fun _ _ _ _ heq => hack ⟨_, _, _, _, heq⟩
    rw [hsame]
    exact h

end

lemma resendable_act (h : Act e allowed c c')
    (hc : Resendable c.account) : Resendable c'.account := by
  cases h with
  | quiet same => rwa [same]
  | adopt params first _ =>
    cases params with
    | _ => exact hc
  | received level pn => exact hc
  | frame level frame ok => exact resendable_handleFrame hc level frame
  | lost level => exact resendable_detectLost hc level

lemma resendable_buildPacket (h : Resendable c.account)
    (hbuilt : c.buildPacket level = some (c', packets)) : Resendable c'.account := by
  have hgathd : ∀ d frames, Gathers c level d frames → Resendable d.account := by
    intro d frames hgath
    cases hgath with
    | control _ same ok => rwa [same]
    | app data running same ok =>
      rw [same]
      exact forall_mem_nil _
  exact @buildPacket_invariant _ _ (fun c => Resendable c.account) _ _ _ _ hbuilt h
    (fun d frames hgath _ => hgathd d frames hgath)
    (fun d frames _ _ hgath => hgathd d frames hgath)

lemma resendable_step [DecidableEq κ] (e : Engine τ κ) (c : Conn τ κ) (i : Input κ)
    (h : Resendable c.account) : Resendable (c.step e i).1.account := by
  exact @step_invariant _ _ _ (fun c => Resendable c.account) e c i (fun _ _ hc => hc)
    (fun _ _ _ hc => hc) (fun _ hc => hc) (fun _ _ hact => resendable_act hact)
    (fun _ _ _ _ hbuilt hc => resendable_buildPacket hc hbuilt) h

lemma resendable_of_starts (h : c.Starts e) : Resendable c.account := by
  obtain ⟨side, dcid, scid, tls, hsame⟩ := account_of_starts h
  rw [hsame]
  exact forall_mem_nil _

/-! ## The acknowledgements of a packet -/

lemma not_covers_appFrames (h : Resendable c.account)
    (hframe : frame ∈ c.appFrames.2) {pn : Nat} : ¬frame.Covers pn := by
  intro hcovers
  cases frame with
  | ack largest delay firstRange ranges =>
    rw [appFrames_snd, mem_append, mem_append, mem_append] at hframe
    rcases hframe with ((hcred | hagain) | hfresh) | hdgram
    · obtain ⟨max, -, heq⟩ := mem_map.mp hcred
      cases heq
    · obtain ⟨lost, hlost, heq⟩ := mem_map.mp hagain
      have hkept := h lost hlost
      rw [heq] at hkept
      cases hkept
    · cases c.fresh_produces.streams _ hfresh
    · obtain ⟨data, -, heq⟩ := mem_map.mp hdgram
      cases heq
  | _ => exact hcovers

lemma covers_gatherFrames (h : Resendable c.account)
    (hframe : frame ∈ (c.gatherFrames level).2.1) (hcovers : frame.Covers pn) :
    ∃ largest, c.AckDue level largest ∧ pn ≤ largest := by
  have hctrl : c.Control level frame → ∃ largest, c.AckDue level largest ∧ pn ≤ largest := by
    intro hok
    cases frame with
    | ack largest delay firstRange ranges =>
      obtain ⟨hpend, hlarg, hfirst, hrgs⟩ := hok
      rw [hfirst, hrgs] at hcovers
      exact ⟨largest, ⟨hpend, hlarg⟩, covers_own_ack.mp hcovers⟩
    | _ => exact hcovers.elim
  have hgath := c.gatherFrames_cases level
  generalize (c.gatherFrames level).2.1 = frames at hframe hgath
  generalize (c.gatherFrames level).1 = d at hgath
  cases hgath with
  | control _ same ok => exact hctrl (ok frame hframe)
  | app data running same ok =>
    rcases mem_append.mp hframe with hframe | hafter
    · rcases mem_append.mp hframe with hbef | happ
      · exact hctrl (ok frame (mem_append_left _ hbef))
      · exact absurd hcovers (not_covers_appFrames h happ)
    · exact hctrl (ok frame (mem_append_right _ hafter))

lemma ack_mem_gatherFrames (h : c.AckDue level largest) :
    .ack largest 0 largest [] ∈ (c.gatherFrames level).2.1 := by
  have hack : (c.takeAck level).2 = [.ack largest 0 largest []] := by
    unfold takeAck
    dsimp only
    rw [h.1, h.2]
  unfold gatherFrames
  dsimp only
  rw [hack]
  split
  · split <;> exact mem_cons_self
  · exact mem_cons_self

lemma truthful_buildPacket (h : Resendable c.account)
    (hbuilt : c.buildPacket level = some (c', packets)) {trace : List Event} :
    Truthful trace packets ↔ ((c.txKeys.get level).isSome → c.NoGap trace level) := by
  rcases buildPacket_cases hbuilt with
    ⟨hnone, -, rfl⟩ | ⟨hsome, ⟨hnil, -, rfl⟩ | ⟨-, key, header, _, _, hlevel, -, rfl⟩⟩
  · rw [hnone]
    exact ⟨fun _ hsome => absurd hsome Bool.false_ne_true, fun _ => forall_mem_nil _⟩
  · refine ⟨fun _ _ largest hdue => ?_, fun _ => forall_mem_nil _⟩
    have hmem := ack_mem_gatherFrames hdue
    rw [hnil] at hmem
    cases hmem
  · have hcarr : ∀ level' frame, (Packet.whole header false ⟨key,
        ((c.gatherFrames level).1.spaces.get level).nextPn, header,
        .ok (c.gatherFrames level).2.1⟩).Carries level' frame ↔
          level' = level ∧ frame ∈ (c.gatherFrames level).2.1 := by
      intro level' frame
      constructor
      · rintro ⟨head', body, frames, heq, rfl, hpay, hframe⟩
        obtain ⟨rfl, -, rfl⟩ := Packet.whole.inj heq
        exact ⟨hlevel, by rw [Except.ok.inj hpay]; exact hframe⟩
      · rintro ⟨rfl, hframe⟩
        exact ⟨header, _, _, rfl, hlevel, rfl, hframe⟩
    constructor
    · intro htrut _ largest hdue pn hpn
      refine htrut _ (mem_singleton.mpr rfl) level _
        ((hcarr _ _).mpr ⟨rfl, ack_mem_gatherFrames hdue⟩) pn ?_
      exact covers_own_ack.mpr hpn
    · intro hgap packet hpkt level' frame hframe pn hcovers
      rw [mem_singleton.mp hpkt] at hframe
      obtain ⟨rfl, hmem⟩ := (hcarr level' frame).mp hframe
      obtain ⟨largest, hdue, hpn⟩ := covers_gatherFrames h hmem hcovers
      exact hgap hsome largest hdue pn hpn

lemma truthful_buildPackets (h : Resendable c.account) (hdist : ls.Nodup)
    (hbuilt : c.buildPackets ls = some (c', packets)) (trace : List Event) :
    Truthful trace packets ↔
      ∀ level ∈ ls, (c.txKeys.get level).isSome → c.NoGap trace level := by
  induction ls generalizing c packets with
  | nil =>
    cases hbuilt
    exact ⟨fun _ => forall_mem_nil _, fun _ => forall_mem_nil _⟩
  | cons level rest ih =>
    obtain ⟨c₁, first, others, hfirst, hoths, rfl⟩ := buildPackets_cons hbuilt
    obtain ⟨hnew, hdist⟩ := nodup_cons.mp hdist
    have hkept : Resendable c₁.account := resendable_buildPacket h hfirst
    have hbeside := beside_buildPacket hfirst
    rw [truthful_append, truthful_buildPacket h hfirst, ih hkept hdist hoths, forall_mem_cons]
    refine and_congr_right fun _ => forall₂_congr fun level' hlev' => ?_
    have hspace : c₁.spaces.get level' = c.spaces.get level' :=
      hbeside.spaces level' fun heq => hnew (heq ▸ hlev')
    simp only [NoGap, AckDue, hbeside.keys, hspace]

lemma ackDue_primed {level : Level} :
    (c.primed e).AckDue level largest ↔ c.AckDue level largest := by
  have honly : ∀ {c d : Conn τ κ}, TlsOnly c d → (d.AckDue level largest ↔
      c.AckDue level largest) := by
    intro c d h
    obtain ⟨_, _, _, _, _, _, _, rfl, hsps⟩ := h
    obtain ⟨crypto, hcryp⟩ := hsps level
    unfold AckDue
    rw [hcryp]
  unfold primed
  split
  · rcases pumpTls_cases e c with h | ⟨d, params, hbef, -, -, hafter⟩
    · exact honly h
    · rw [honly hafter, ← honly hbef]
      cases params <;> exact Iff.rfl
  · exact Iff.rfl

lemma resendable_primed (h : Resendable c.account) : Resendable (c.primed e).account := by
  exact @Acts.invariant _ _ e (fun _ _ => True) (fun c => Resendable c.account)
    (fun _ _ hact => resendable_act hact) _ _ (acts_primed e c) h

lemma truthful_pollTransmit (h : Resendable c.account)
    (hpoll : c.pollTransmit e = some (c', datagram)) :
    Truthful c.trace (datagram.getD []) ↔
      (c.closed = false → ∀ level, ((c.primed e).txKeys.get level).isSome →
        c.NoGap c.trace level) := by
  rcases pollTransmit_cases hpoll with ⟨hclos, rfl, rfl⟩ | ⟨d, packets, hopen, hbuilt, -, rfl⟩
  · rw [hclos]
    exact ⟨fun _ hfalse => absurd hfalse Bool.noConfusion, fun _ => forall_mem_nil _⟩
  · rw [truthful_buildPackets (resendable_primed h) (by decide) hbuilt]
    have hevery : ∀ level, level ∈ levels := by
      intro level
      cases level <;> decide
    have hgap : ∀ level, (c.primed e).NoGap c.trace level ↔ c.NoGap c.trace level := fun level =>
      forall_congr' fun largest => by rw [ackDue_primed]
    constructor
    · exact fun h _ level hkeys => (hgap level).mp (h level (hevery level) hkeys)
    · exact fun h level _ hkeys => (hgap level).mpr (h hopen level hkeys)

variable [DecidableEq κ]

/-- Whatever happened before a call of `poll_transmit`: what its datagram acknowledges
was opened, exactly if at every level that has keys and owes an acknowledgement no
number below the largest is missing. -/
theorem acks_truthful_iff (e : Engine τ κ) (c₀ : Conn τ κ) (hstarts : c₀.Starts e)
    (is : List (Input κ)) (c c' : Conn τ κ) (hrun : (run (step e) c₀ is).1 = c)
    (datagram : Option (List (Packet κ))) (hpoll : c.pollTransmit e = some (c', datagram)) :
    Truthful c.trace (datagram.getD []) ↔
      (c.closed = false → ∀ level, ((c.primed e).txKeys.get level).isSome →
        c.NoGap c.trace level) := by
  refine truthful_pollTransmit ?_ hpoll
  rw [← hrun]
  exact @run_state_invariant _ _ _ (step e) (fun c => Resendable c.account)
    (fun c i => resendable_step e c i) c₀ is (resendable_of_starts hstarts)

/-- A server opens packets 0 and 1 and acknowledges both. -/
theorem ordered_packets_acknowledged :
    let packet (pn : Nat) : Packet Nat := .whole (.short ⟨[7], by decide⟩ (encodePacketNumber pn))
      false ⟨2, pn, .short ⟨[7], by decide⟩ (encodePacketNumber pn), .ok [.ping]⟩
    let is : List (Input Nat) := [.recv (.ok []), .recv (.ok [packet 0]), .recv (.ok [packet 1])]
    let c : Conn Bool Nat := (run (step (.instant [] 1 2)) (server ⟨[7], by decide⟩ false) is).1
    ∃ c' datagram, c.pollTransmit (.instant [] 1 2) = some (c', datagram) ∧
      Truthful c.trace (datagram.getD []) := by
  intro packet is c
  obtain ⟨⟨c', datagram⟩, hpoll⟩ :=
    Option.isSome_iff_exists.mp (show (c.pollTransmit (.instant [] 1 2)).isSome by decide +kernel)
  refine ⟨c', datagram, hpoll, ?_⟩
  refine (acks_truthful_iff _ _ (.inl ⟨_, _, rfl⟩) is c c' rfl datagram hpoll).mpr ?_
  intro _ level _ largest hdue pn hpn
  cases level with
  | data =>
    have hlarg : some 1 = some largest :=
      (show (c.spaces.get .data).largestRecv = some 1 by decide +kernel).symm.trans hdue.2
    have hpn : pn ≤ 1 := Option.some.inj hlarg ▸ hpn
    rcases Nat.le_one_iff_eq_zero_or_eq_one.mp hpn with rfl | rfl
    · decide +kernel
    · decide +kernel
  | _ => exact absurd hdue.1 (by decide +kernel)

/-- Packet 0 is lost.  The server opens packet 1 and acknowledges both. -/
theorem lost_packet_acknowledged :
    let packet : Packet Nat := .whole (.short ⟨[7], by decide⟩ (encodePacketNumber 1))
      false ⟨2, 1, .short ⟨[7], by decide⟩ (encodePacketNumber 1), .ok [.ping]⟩
    let is : List (Input Nat) := [.recv (.ok []), .recv (.ok [packet])]
    let c : Conn Bool Nat := (run (step (.instant [] 1 2)) (server ⟨[7], by decide⟩ false) is).1
    ∃ c' datagram, c.pollTransmit (.instant [] 1 2) = some (c', datagram) ∧
      ¬Truthful c.trace (datagram.getD []) := by
  intro packet is c
  obtain ⟨⟨c', datagram⟩, hpoll⟩ :=
    Option.isSome_iff_exists.mp (show (c.pollTransmit (.instant [] 1 2)).isSome by decide +kernel)
  refine ⟨c', datagram, hpoll, fun htrut => ?_⟩
  have hkept : Resendable c.account := fun lost hlost => by
    cases hlost
  have hgap := (truthful_pollTransmit hkept hpoll).mp htrut (by decide +kernel) .data
    (by decide +kernel) 1 ⟨by decide +kernel, by decide +kernel⟩ 0 (Nat.zero_le 1)
  exact absurd hgap (by decide +kernel)

end Conn
end MeshBus.Quic
