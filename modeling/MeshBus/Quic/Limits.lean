import MeshBus.Quic.Credit
import Mathlib.Order.Interval.Finset.Nat

/-!
# The limits of the peer

A sender never makes more new octets than the connection limit allows.  The limit of
a stream is kept but not looked at: it holds as long as no queue reaches over it.
-/

namespace MeshBus.Quic

open Lib List Nat Prod Function

def Frame.streamEnd : Frame → Nat
  | .stream _ offset _ data => offset + data.length
  | _ => 0

def Frame.places : Frame → Finset (Nat × Nat)
  | .stream id offset _ data => {id} ×ˢ Finset.Ico offset (offset + data.length)
  | _ => ∅

/-- The octets that some frames have, each of them once. -/
def places (frames : List Frame) : Finset (Nat × Nat) := frames.toFinset.biUnion Frame.places

def Packet.frames {κ : Type} (packet : Packet κ) : List Frame := packet.contents.map snd

def Output.streams {κ : Type} : Output κ → List Frame
  | .transmit datagram => ((datagram.getD []).flatMap Packet.frames).filter Frame.isStream
  | _ => []

def emitted {κ : Type} (outputs : List (Output κ)) : List Frame := outputs.flatMap Output.streams

lemma card_places {frame : Frame} : frame.places.card = frame.streamLen := by
  cases frame with
  | stream id offset fin data =>
    show ({id} ×ˢ Finset.Ico offset (offset + data.length)).card = data.length
    rw [Finset.card_product, Finset.card_singleton, card_Ico, one_mul, Nat.add_sub_cancel_left]
  | _ => rfl

lemma card_places_le (frames : List Frame) : (places frames).card ≤ octets frames := by
  induction frames with
  | nil => exact le_rfl
  | cons frame rest ih =>
    have hsum : octets (frame :: rest) = frame.streamLen + octets rest := sum_cons
    unfold places at ih ⊢
    rw [toFinset_cons, Finset.biUnion_insert, hsum, ← card_places]
    exact le_trans (Finset.card_union_le _ _) (Nat.add_le_add_left ih _)

lemma places_subset (h : frames ⊆ frames') : places frames ⊆ places frames' := by
  refine Finset.biUnion_subset_biUnion_of_subset_left _ fun frame hframe => ?_
  exact mem_toFinset.mpr (h (mem_toFinset.mp hframe))

/-! ## New frames -/

lemma length_bytesOf_le (id : Nat) (frames : List Frame) :
    (bytesOf id frames).length ≤ octets frames := by
  induction frames with
  | nil => exact le_rfl
  | cons frame rest ih =>
    have hframe : (frame.dataOn id).length ≤ frame.streamLen := by
      cases frame with
      | stream id' offset fin data =>
        show (if id' = id then data else []).length ≤ data.length
        split
        · exact le_refl _
        · exact zero_le _
      | _ => exact le_rfl
    unfold bytesOf octets at ih ⊢
    rw [flatMap_cons, length_append, map_cons, sum_cons]
    omega

lemma Produces.ends (h : Produces sends frames sends') :
    (∀ id, (sends id).queued = bytesOf id frames ++ (sends' id).queued) ∧
      ∀ id offset fin data, .stream id offset fin data ∈ frames →
        offset + data.length ≤ (sends id).sendOff + (bytesOf id frames).length := by
  induction h with
  | nil => exact ⟨fun _ => rfl, fun _ _ _ _ hmem => (by cases hmem)⟩
  | @cons sends sends' id max offset fin data s frames room taken later ih =>
    obtain ⟨hoff, hqueued, hsend, -⟩ := SendStream.take_spec taken
    obtain ⟨ihqueued, ihends⟩ := ih
    have hdata : (Frame.stream id offset fin data).dataOn id = data := if_pos rfl
    refine ⟨fun id' => ?_, fun id' offset' fin' data' hmem => ?_⟩
    · have hrest := ihqueued id'
      rw [update_apply] at hrest
      unfold bytesOf at hrest ⊢
      rw [flatMap_cons, append_assoc]
      by_cases heq : id' = id
      · subst heq
        rw [if_pos rfl] at hrest
        rw [hqueued, hrest, hdata]
      · rw [if_neg heq] at hrest
        rw [hrest, show (Frame.stream id offset fin data).dataOn id' = [] from
          if_neg (Ne.symm heq), nil_append]
    · unfold bytesOf at ihends ⊢
      rw [flatMap_cons, length_append]
      rcases mem_cons.mp hmem with heq | hrest
      · obtain ⟨rfl, rfl, rfl, rfl⟩ := Frame.stream.inj heq
        rw [hdata]
        omega
      · have hend := ihends id' offset' fin' data' hrest
        rw [update_apply] at hend
        by_cases heq : id' = id
        · subst heq
          rw [if_pos rfl] at hend
          rw [hdata]
          omega
        · rw [if_neg heq] at hend
          omega

namespace Conn
variable {τ κ : Type}

open Account (Credit Settled)

/-- What may be sent now of any stream lies within the limit of the streams. -/
def Fits (c : Conn τ κ) : Prop :=
  ∀ id, (c.streams.sends id).sendOff + min (c.streams.sends id).queued.length c.sendBudget ≤
    c.peerStreamData

lemma streamEnd_fresh_le {c : Conn τ κ} (h : c.Fits) :
    ∀ frame ∈ c.fresh.1, frame.streamEnd ≤ c.peerStreamData := by
  intro frame hframe
  obtain ⟨hqueued, hends⟩ := c.fresh_produces.ends
  cases frame with
  | stream id offset fin data =>
    have hend := hends id offset fin data hframe
    have hlen := congrArg length (hqueued id)
    rw [length_append] at hlen
    have hoct : (bytesOf id c.fresh.1).length ≤ c.sendBudget :=
      le_trans (length_bytesOf_le id _) (takeStreams_length _ _ _)
    have hmin : (bytesOf id c.fresh.1).length ≤
        min (c.streams.sends id).queued.length c.sendBudget :=
      Nat.le_min.mpr ⟨by omega, hoct⟩
    calc offset + data.length
        ≤ (c.streams.sends id).sendOff + (bytesOf id c.fresh.1).length := hend
      _ ≤ (c.streams.sends id).sendOff +
          min (c.streams.sends id).queued.length c.sendBudget := Nat.add_le_add_left hmin _
      _ ≤ c.peerStreamData := h id
  | _ => exact zero_le _

/-! ## Packets -/

lemma streams_buildPacket {c c' : Conn τ κ} (h : Settled c.account)
    (hbuilt : c.buildPacket level = some (c', packets)) :
    (packets.flatMap Packet.frames).filter Frame.isStream ⊆ produced c'.trace := by
  rcases buildPacket_cases hbuilt with
    ⟨-, -, rfl⟩ | ⟨-, ⟨-, -, rfl⟩ | ⟨-, _, _, _, _, -, rfl, rfl⟩⟩
  · exact nil_subset _
  · exact nil_subset _
  · obtain ⟨hcust, -⟩ := custody_gathers h (c.gatherFrames_cases level)
    intro frame hframe
    have hmade : frame ∈ produced (c.gatherFrames level).1.trace := by
      refine hcust.placed.subset (mem_append_right _ ?_)
      simpa [Packet.frames, Packet.contents] using hframe
    rw [show ((c.gatherFrames level).1.recordSent level _ _ _).trace =
      (c.gatherFrames level).1.trace ++ [.sent level _ _] from rfl, produced_append]
    exact mem_append_left _ hmade

lemma produced_subset (h : Noted P c c') : produced c.trace ⊆ produced c'.trace := by
  obtain ⟨events, htrace, -⟩ := h
  rw [htrace, produced_append]
  exact subset_append_left _ _

lemma streams_buildPackets {c c' : Conn τ κ} (h : Settled c.account)
    (hbuilt : c.buildPackets ls = some (c', packets)) :
    (packets.flatMap Packet.frames).filter Frame.isStream ⊆ produced c'.trace := by
  induction ls generalizing c packets with
  | nil =>
    cases hbuilt
    exact nil_subset _
  | cons level rest ih =>
    obtain ⟨c₁, first, others, hfirst, hoths, rfl⟩ := buildPackets_cons hbuilt
    have hlater : Noted (fun event => event.incoming = false) c₁ c' :=
      @buildPackets_invariant _ _ (fun c => Noted (fun event => event.incoming = false) c₁ c)
        (fun _ _ _ _ hone hnoted => hnoted.trans (noted_buildPacket hone)) _ _ _ _ hoths
        (.of_eq rfl)
    rw [flatMap_append, filter_append]
    refine append_subset.mpr ⟨?_, ih (settled_buildPacket h hfirst) hoths⟩
    exact List.Subset.trans (streams_buildPacket h hfirst) (produced_subset hlater)

lemma streams_step [DecidableEq κ] (e : Engine τ κ) (c : Conn τ κ) (i : Input κ)
    (h : Settled c.account) : (c.step e i).2.streams ⊆ produced (c.step e i).1.trace := by
  cases i with
  | poll =>
    unfold step
    dsimp only
    split
    · next c' datagram hpoll =>
        rcases pollTransmit_cases hpoll with ⟨-, -, rfl⟩ | ⟨d, packets, -, hbuilt, hsame, rfl⟩
        · exact nil_subset _
        · have hprimed : Settled (c.primed e).account :=
            @Acts.invariant _ _ e (fun _ _ => True) (fun c => Settled c.account)
              (fun _ _ hact => settled_act hact) _ _ (acts_primed e c) h
          rw [show c'.trace = d.trace from congrArg Account.trace hsame]
          exact streams_buildPackets hprimed hbuilt
    · exact nil_subset _
  | _ => exact nil_subset _

/-! ## Limits that are known -/

/-- The parameters of the peer were adopted.  Its limits are among some that it
advertised, and that of the streams did not fall below `low`. -/
structure Advertised (low : Nat) (stream data : Nat → Prop) (c : Conn τ κ) : Prop where
  known : c.peerParams.isSome = true
  low_le : low ≤ c.peerStreamData
  stream_ok : stream c.peerStreamData
  data_ok : data c.sendFc.limit

def Raises (stream data : Nat → Prop) (allowed : Level → Frame → Prop) : Prop :=
  ∀ level, (∀ id max, allowed level (.maxStreamData id max) → stream max) ∧
    ∀ max, allowed level (.maxData max) → data max

section

lemma Advertised.of_same (h : Advertised low stream data c)
    (hsame : (c'.peerParams, c'.peerStreamData, c'.sendFc.limit) =
      (c.peerParams, c.peerStreamData, c.sendFc.limit)) : Advertised low stream data c' := by
  obtain ⟨hprms, hrest⟩ := Prod.mk.inj hsame
  obtain ⟨hstr, hdata⟩ := Prod.mk.inj hrest
  exact ⟨hprms ▸ h.known, hstr ▸ h.low_le, hstr ▸ h.stream_ok, hdata ▸ h.data_ok⟩

lemma Advertised.of_account (h : Advertised low stream data c) (hsame : c'.account = c.account) :
    Advertised low stream data c' :=
  h.of_same (congrArg (fun a => (a.peerParams, a.peerStreamData, a.sendFc.limit)) hsame)

lemma advertised_handleFrame (hbds : Raises stream data allowed) {level : Level}
    (ok : allowed level frame) (h : Advertised low stream data c) :
    Advertised low stream data (c.handleFrame level frame).1 := by
  cases frame with
  | ack largest delay firstRange ranges =>
    exact h.of_same (@handleAck_same _ _ _
      (fun c => (c.peerParams, c.peerStreamData, c.sendFc.limit)) (fun _ _ => rfl)
      (fun _ _ _ => rfl) (fun _ _ _ => rfl) c level largest delay firstRange ranges)
  | stream id offset fin bytes =>
    rcases c.handleFrame_stream level id offset fin bytes with ⟨-, heq⟩ | ⟨fc, -, ⟨-, heq⟩ | ⟨-, heq⟩⟩
    all_goals
      rw [heq]
      exact h.of_same rfl
  | maxData max =>
    refine ⟨h.known, h.low_le, h.stream_ok, ?_⟩
    show data (c.sendFc.setLimit max).limit
    rw [(c.sendFc.setLimit_spec max).2]
    rcases le_total c.sendFc.limit max with hle | hle
    · rw [max_eq_right hle]
      exact (hbds level).2 max ok
    · rw [max_eq_left hle]
      exact h.data_ok
  | maxStreamData id max =>
    refine ⟨h.known, ?_, ?_, h.data_ok⟩
    · show low ≤ if c.peerStreamData < max then max else c.peerStreamData
      split
      · next hlt => exact le_trans h.low_le (le_of_lt hlt)
      · exact h.low_le
    · show stream (if c.peerStreamData < max then max else c.peerStreamData)
      split
      · exact (hbds level).1 id max ok
      · exact h.stream_ok
  | handshakeDone =>
    unfold handleFrame
    dsimp only
    split <;> exact h.of_same rfl
  | _ => exact h.of_same rfl

lemma advertised_act (hbds : Raises stream data allowed) (hact : Act e allowed c c')
    (h : Advertised low stream data c) : Advertised low stream data c' := by
  cases hact with
  | quiet same => exact h.of_account same
  | adopt params first _ =>
    have hknown := h.known
    rw [first] at hknown
    cases hknown
  | received level pn => exact h.of_same rfl
  | frame level frame ok => exact advertised_handleFrame hbds ok h
  | lost level =>
    exact h.of_same (@detectLost_same _ _ _
      (fun c => (c.peerParams, c.peerStreamData, c.sendFc.limit)) (fun _ _ => rfl)
      (fun _ _ _ => rfl) c level)

lemma advertised_buildPacket
    (hbuilt : c.buildPacket level = some (c', packets)) (h : Advertised low stream data c) :
    Advertised low stream data c' := by
  have hsame : ∀ d frames, Gathers c level d frames →
      (d.peerParams, d.peerStreamData) = (c.peerParams, c.peerStreamData) := by
    intro d frames hgath
    cases hgath with
    | control _ same _ => exact congrArg (fun a => (a.peerParams, a.peerStreamData)) same
    | app _ _ same _ =>
      exact congrArg (fun a => (a.peerParams, a.peerStreamData)) (same.trans c.account_appFrames)
  have hprms := @buildPacket_invariant _ _
    (fun d => (d.peerParams, d.peerStreamData) = (c.peerParams, c.peerStreamData)) _ _ _ _ hbuilt rfl
    (fun d frames hd _ => hsame d frames hd) (fun d frames _ _ hd => hsame d frames hd)
  obtain ⟨hknown, hlimit⟩ := Prod.mk.inj hprms
  refine h.of_same ?_
  rw [hknown, hlimit, sendLimit_buildPacket hbuilt]

lemma advertised_step [DecidableEq κ] (e : Engine τ κ)
    (hbds : Raises stream data (Brings i)) (h : Advertised low stream data c) :
    Advertised low stream data (c.step e i).1 := by
  exact step_invariant e c i (fun _ _ hc => hc.of_same rfl) (fun _ _ _ hc => hc.of_same rfl)
    (fun _ hc => hc.of_same rfl) (fun _ _ => advertised_act hbds)
    (fun _ _ _ _ => advertised_buildPacket) h

end

lemma known_step [DecidableEq κ] (e : Engine τ κ) {c : Conn τ κ} (i : Input κ)
    (h : c.peerParams.isSome = true) :
    (c.step e i).1.peerParams.isSome = true ∧
      c.peerStreamData ≤ (c.step e i).1.peerStreamData := by
  have hbef : Advertised c.peerStreamData (fun _ => True) (fun _ => True) c :=
    ⟨h, le_rfl, True.intro, True.intro⟩
  have hafter := advertised_step e (i := i)
    (fun _ => ⟨fun _ _ _ => True.intro, fun _ _ => True.intro⟩) hbef
  exact ⟨hafter.known, hafter.low_le⟩

/-! ## Frames within the limit of the streams -/

def Within (c : Conn τ κ) : Prop := ∀ frame ∈ produced c.trace, frame.streamEnd ≤ c.peerStreamData

lemma within_buildPacket {c c' : Conn τ κ}
    (hbuilt : c.buildPacket level = some (c', packets)) (hfits : c.Fits) (h : c.Within) :
    c'.Within := by
  have hgath : ∀ d frames, Gathers c level d frames → d.Within := by
    intro d frames hgath
    cases hgath with
    | control _ same _ =>
      unfold Within
      rw [show d.trace = c.trace from congrArg Account.trace same,
        show d.peerStreamData = c.peerStreamData from congrArg Account.peerStreamData same]
      exact h
    | app _ _ same _ =>
      have hsame := same.trans c.account_appFrames
      unfold Within
      rw [show d.trace = _ from congrArg Account.trace hsame,
        show d.peerStreamData = c.peerStreamData from congrArg Account.peerStreamData hsame]
      rw [produced_append, produced_append, produced_map_resent, produced_map_produced, append_nil]
      exact forall_mem_append.mpr ⟨h, streamEnd_fresh_le hfits⟩
  refine buildPacket_invariant hbuilt h (fun d frames hd _ => hgath d frames hd) ?_
  intro d frames size closing hd
  have hprod : produced (d.recordSent level size frames closing).trace = produced d.trace := by
    rw [show (d.recordSent level size frames closing).trace = d.trace ++ [.sent level _ frames]
      from rfl, produced_append]
    exact append_nil _
  unfold Within
  rw [hprod]
  exact hgath d frames hd

lemma fits_buildPacket {c c' : Conn τ κ} (hlevel : level ≠ .data)
    (hbuilt : c.buildPacket level = some (c', packets)) (h : c.Fits) : c'.Fits := by
  have hsame : (c'.streams, c'.sendFc, c'.peerStreamData) =
      (c.streams, c.sendFc, c.peerStreamData) := by
    have hgath : ∀ d frames, Gathers c level d frames →
        (d.streams, d.sendFc, d.peerStreamData) = (c.streams, c.sendFc, c.peerStreamData) := by
      intro d frames hgath
      cases hgath with
      | control _ same _ =>
        exact congrArg (fun a => (a.streams, a.sendFc, a.peerStreamData)) same
      | app data _ _ _ => exact absurd data hlevel
    exact @buildPacket_invariant _ _ (fun d => (d.streams, d.sendFc, d.peerStreamData) =
        (c.streams, c.sendFc, c.peerStreamData)) _ _ _ _ hbuilt rfl
      (fun d frames hd _ => hgath d frames hd) (fun d frames _ _ hd => hgath d frames hd)
  obtain ⟨hstrs, hrest⟩ := Prod.mk.inj hsame
  obtain ⟨hcred, hlimit⟩ := Prod.mk.inj hrest
  have hbudget : c'.sendBudget ≤ c.sendBudget := by
    unfold sendBudget
    rw [hcred]
    exact min_le_min_left _ (beside_buildPacket hbuilt).room
  intro id
  rw [hstrs, hlimit]
  exact le_trans (Nat.add_le_add_left (min_le_min_left _ hbudget) _) (h id)

lemma tlsOnly_pumpTls (e : Engine τ κ) (h : c.peerParams.isSome = true) :
    TlsOnly c (c.pumpTls e).1 := by
  rcases pumpTls_cases e c with honly | ⟨d, params, hbef, first, -, -⟩
  · exact honly
  · rw [show d.peerParams = c.peerParams from congrArg Account.peerParams hbef.account] at first
    rw [first] at h
    cases h

lemma tlsOnly_primed (h : c.peerParams.isSome = true) : TlsOnly c (c.primed e) := by
  unfold primed
  split
  · exact tlsOnly_pumpTls e h
  · exact .refl c

lemma within_step [DecidableEq κ] {c : Conn τ κ} (hknown : c.peerParams.isSome = true)
    (hfits : i = .poll → c.Fits) (h : c.Within) : (c.step e i).1.Within := by
  have hlimit := (known_step e i hknown).2
  have hother : produced (c.step e i).1.trace = produced c.trace → (c.step e i).1.Within := by
    intro hsame frame hframe
    rw [hsame] at hframe
    exact le_trans (h frame hframe) hlimit
  rcases c.step_cases e i with ⟨bidi, rfl⟩ | ⟨id, bytes, fin, rfl⟩ | ⟨id, rfl⟩ | rfl | ⟨-, hacts⟩
  · exact hother rfl
  · refine hother ?_
    rw [show (c.step e (.write id bytes fin)).1.trace = c.trace ++ [.wrote id bytes] from rfl,
      produced_append]
    exact append_nil _
  · exact hother rfl
  · unfold step
    cases hpoll : c.pollTransmit e with
    | none => exact h
    | some result =>
      rcases pollTransmit_cases hpoll with ⟨-, hsame, -⟩ | ⟨d, packets, -, hbuilt, hsame, -⟩
      · exact hsame ▸ h
      · have hprimed : (c.primed e).Fits ∧ (c.primed e).Within := by
          obtain ⟨_, _, _, _, _, _, _, heq, -⟩ := tlsOnly_primed hknown
          rw [heq]
          exact ⟨hfits rfl, h⟩
        obtain ⟨c₁, c₂, _, _, _, hinit, hshake, hdata⟩ := buildPackets_levels hbuilt
        have hfits₁ := fits_buildPacket (by decide) hinit hprimed.1
        have hwithin₁ := within_buildPacket hinit hprimed.1 hprimed.2
        have hfits₂ := fits_buildPacket (by decide) hshake hfits₁
        have hwithin₂ := within_buildPacket hshake hfits₁ hwithin₁
        have hwithin := within_buildPacket hdata hfits₂ hwithin₂
        unfold Within
        rw [show result.1.trace = d.trace from congrArg Account.trace hsame,
          show result.1.peerStreamData = d.peerStreamData from
            congrArg Account.peerStreamData hsame]
        exact hwithin
  · refine hother (Noted.filterMap ((learned_acts hacts).imp fun event hinc => ?_))
    cases event with
    | produced frame => cases hinc
    | _ => rfl

/-! ## Runs -/

variable [DecidableEq κ]

lemma emitted_run (e : Engine τ κ) (hstar : c.Starts e) (is : List (Input κ)) :
    emitted (run (step e) c is).2 ⊆ produced (run (step e) c is).1.trace := by
  have hinv := @run_history_invariant _ _ _ (step e)
    (fun past c => Settled c.account ∧ emitted (past.map snd) ⊆ produced c.trace)
    (fun past c i hc => ?_) c is ⟨settled_of_starts hstar, nil_subset _⟩
  · rw [map_snd_history] at hinv
    exact hinv.2
  · refine ⟨settled_step e c i hc.1, ?_⟩
    have hpast := List.Subset.trans hc.2 (produced_subset (noted_step e c i))
    unfold emitted at hpast ⊢
    rw [map_append, flatMap_append]
    refine append_subset.mpr ⟨hpast, ?_⟩
    rw [map_singleton, flatMap_singleton]
    exact streams_step e c i hc.1

/-- In every run, once the parameters of the peer were adopted: the octets that were
sent, each counted once, are within the largest limit of the connection that arrived.
If all frames that were made end within the limit of the streams, which is the largest
that arrived, and every call of `poll_transmit` finds streams that fit, then all frames
that are sent end within it. -/
theorem peer_limits_respected (e : Engine τ κ) (c₀ : Conn τ κ) (hstarts : c₀.Starts e)
    (is₀ is : List (Input κ)) (c c' : Conn τ κ) (hc : (run (step e) c₀ is₀).1 = c)
    (hadopted : c.peerParams.isSome = true) (hc' : (run (step e) c is).1 = c') :
    (places (emitted (run (step e) c₀ (is₀ ++ is)).2)).card ≤ c'.sendFc.limit ∧
      (c'.sendFc.limit = c.sendFc.limit ∨
        ∃ i ∈ is, ∃ level, Brings i level (.maxData c'.sendFc.limit)) ∧
      (c'.peerStreamData = c.peerStreamData ∨
        ∃ i ∈ is, ∃ level id, Brings i level (.maxStreamData id c'.peerStreamData)) ∧
      (c.Within → Along (step e) (fun _ c i => i = .poll → c.Fits) [] c is →
        ∀ frame ∈ emitted (run (step e) c₀ (is₀ ++ is)).2,
          frame.streamEnd ≤ c'.peerStreamData) := by
  have hsent := emitted_run e hstarts (is₀ ++ is)
  have hend : (run (step e) c₀ (is₀ ++ is)).1 = c' := by rw [run_append, hc, hc']
  have hcred : Credit (run (step e) c₀ (is₀ ++ is)).1.account :=
    @run_state_invariant _ _ _ (step e) (fun c => Credit c.account) (fun c i => credit_step e c i)
      c₀ (is₀ ++ is) (credit_of_starts hstarts)
  rw [hend] at hsent hcred
  have hlimits : Advertised 0
      (fun max => max = c.peerStreamData ∨
        ∃ i ∈ is, ∃ level id, Brings i level (.maxStreamData id max))
      (fun max => max = c.sendFc.limit ∨ ∃ i ∈ is, ∃ level, Brings i level (.maxData max)) c' := by
    rw [← hc']
    refine @run_invariant _ _ _ (step e) (fun _ c => Advertised 0 _ _ c) (fun _ _ i => i ∈ is)
      (fun _ c i h hi => advertised_step e (fun level => ⟨?_, ?_⟩) h) is [] c
      ⟨hadopted, zero_le _, .inl rfl, .inl rfl⟩ (Along.of_forall_mem is [] c fun _ hi => hi)
    · exact fun id max hbrg => .inr ⟨i, hi, level, id, hbrg⟩
    · exact fun max hbrg => .inr ⟨i, hi, level, hbrg⟩
  refine ⟨?_, hlimits.data_ok, hlimits.stream_ok, fun hwithin hfits frame hframe => ?_⟩
  · calc (places (emitted (run (step e) c₀ (is₀ ++ is)).2)).card
        ≤ (places (produced c'.trace)).card := Finset.card_le_card (places_subset hsent)
      _ ≤ octets (produced c'.trace) := card_places_le _
      _ = c'.sendFc.used := hcred.sent.symm
      _ ≤ c'.sendFc.limit := hcred.sent_le
  · have hrun := @run_invariant _ _ _ (step e)
      (fun _ c => c.peerParams.isSome = true ∧ c.Within) (fun _ c i => i = .poll → c.Fits)
      (fun _ c i h hok => ⟨(known_step e i h.1).1, within_step h.1 hok h.2⟩) is [] c
      ⟨hadopted, hwithin⟩ hfits
    rw [hc'] at hrun
    exact hrun.2 frame (hsent hframe)

/-- A server sends three octets of a stream, for which the limit of its peer is the
default one. -/
theorem short_stream_within_limit :
    let c₀ : Conn Bool Nat := server ⟨[7], by decide⟩ false
    let is : List (Input Nat) := [.write 1 [10, 11, 12] true, .poll]
    let c := (run (step (.instant [] 1 2)) c₀ [.recv (.ok [])]).1
    let c' := (run (step (.instant [] 1 2)) c is).1
    let sent := emitted (run (step (.instant [] 1 2)) c₀ (.recv (.ok []) :: is)).2
    sent = [.stream 1 0 true [10, 11, 12]] ∧ (places sent).card ≤ c'.sendFc.limit ∧
      ∀ frame ∈ sent, frame.streamEnd ≤ c'.peerStreamData := by
  intro c₀ is c c' sent
  obtain ⟨hdata, -, -, hstr⟩ := peer_limits_respected (.instant [] 1 2) c₀ (.inl ⟨_, _, rfl⟩)
    [.recv (.ok [])] is c c' rfl (by decide +kernel) rfl
  refine ⟨by decide +kernel, hdata, hstr ?_ ⟨(by rintro ⟨⟩), fun _ id => ?_, True.intro⟩⟩
  · intro frame hframe
    cases hframe
  · have hsends : (c.writeStream 1 [10, 11, 12] true).streams.sends =
        update (fun _ => {}) 1 ((c.streams.sends 1).write [10, 11, 12] true) :=
      c.streams.sends_modify_send 1 _
    show ((c.writeStream 1 [10, 11, 12] true).streams.sends id).sendOff +
      min ((c.writeStream 1 [10, 11, 12] true).streams.sends id).queued.length _ ≤
        (c.writeStream 1 [10, 11, 12] true).peerStreamData
    rw [hsends, update_apply]
    refine le_trans (Nat.add_le_add_left (min_le_left _ _) _) ?_
    split <;> decide +kernel

/-- The limit of a stream is one octet, and a server sends three. -/
theorem stream_limit_exceeded :
    let params : TransportParameters :=
      { initialMaxStreamDataBidiRemote := 1, initialMaxStreamDataUni := 1 }
    let e : Engine Bool Nat :=
      { Engine.instant [] 1 2 with peerTransportParameters := fun _ => some (.ok params) }
    let is : List (Input Nat) := [.recv (.ok []), .write 1 [10, 11, 12] true, .poll]
    let c' := (run (step e) (server ⟨[7], by decide⟩ false) is).1
    let sent := emitted (run (step e) (server ⟨[7], by decide⟩ false) is).2
    c'.peerParams.isSome ∧ sent = [.stream 1 0 true [10, 11, 12]] ∧
      ∃ frame ∈ sent, ¬frame.streamEnd ≤ c'.peerStreamData := by
  decide +kernel

end Conn
end MeshBus.Quic
