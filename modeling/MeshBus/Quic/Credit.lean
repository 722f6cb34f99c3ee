import MeshBus.Quic.Custody

/-!
# Connection credit

A sender uses its credit for every new octet it puts in a STREAM frame; a receiver
uses its own for every octet of every STREAM frame that it takes.  Both stay within
their limits.
-/

namespace MeshBus.Quic

open Lib List FlowController

def octets (frames : List Frame) : Nat := (frames.map Frame.streamLen).sum

@[simp] lemma octets_append (frames frames' : List Frame) :
    octets (frames ++ frames') = octets frames + octets frames' := by
  unfold octets
  rw [map_append, sum_append]

def Event.counted? : Event → Option Frame
  | .counted frame => some frame
  | _ => none

def counted (trace : List Event) : List Frame := trace.filterMap Event.counted?

/-! ## Limits -/

namespace FlowController
variable {fc fc' : FlowController}

lemma consume_eq_some :
    fc.consume n = some fc' ↔ n ≤ fc.limit - fc.used ∧ fc' = { fc with used := fc.used + n } := by
  unfold consume
  split
  · next h =>
      refine ⟨fun heq => (by cases heq), fun heq => ?_⟩
      exact absurd heq.1 (not_le.mpr h)
  · next h =>
      rw [Option.some.injEq]
      exact ⟨fun heq => ⟨not_lt.mp h, heq.symm⟩, fun heq => heq.2.symm⟩

lemma setLimit_spec (fc : FlowController) (limit : Nat) :
    (fc.setLimit limit).used = fc.used ∧ (fc.setLimit limit).limit = max fc.limit limit := by
  unfold setLimit
  split
  · next h => exact ⟨rfl, (max_eq_right (le_of_lt h)).symm⟩
  · next h => exact ⟨rfl, (max_eq_left (not_lt.mp h)).symm⟩

/-- A receiver that has not used more than its limit never takes a limit back, and
advertises the limit it has. -/
lemma maybeExtend_spec (fc : FlowController) (window : Nat) (h : fc.used ≤ fc.limit) :
    (fc.maybeExtend window).1.used = fc.used ∧ fc.limit ≤ (fc.maybeExtend window).1.limit ∧
      ∀ limit ∈ (fc.maybeExtend window).2, limit = (fc.maybeExtend window).1.limit := by
  unfold maybeExtend
  split
  · next hhalf =>
      refine ⟨rfl, ?_, fun limit hlimit => (Option.some.inj hlimit).symm⟩
      dsimp only
      omega
  · exact ⟨rfl, le_rfl, fun limit hlimit => by cases hlimit⟩

lemma foldl_consume (fc : FlowController) (frames : List Frame)
    (h : octets frames ≤ fc.limit - fc.used) :
    frames.foldl (fun fc frame => (fc.consume frame.streamLen).getD fc) fc =
      { fc with used := fc.used + octets frames } := by
  induction frames generalizing fc with
  | nil => rfl
  | cons frame rest ih =>
    have hsum : octets (frame :: rest) = frame.streamLen + octets rest := sum_cons
    have hfirst : fc.consume frame.streamLen =
        some { fc with used := fc.used + frame.streamLen } :=
      consume_eq_some.mpr ⟨by omega, rfl⟩
    rw [foldl_cons, hfirst, Option.getD_some, ih _ (by dsimp only; omega), hsum]
    rw [add_assoc]

end FlowController

/-! ## Both sides of the account -/

/-- Credit is used for what was made and for what was counted. -/
structure Account.Credit (a : Account) : Prop where
  sent : a.sendFc.used = octets (produced a.trace)
  sent_le : a.sendFc.used ≤ a.sendFc.limit
  received : a.recvFc.used = octets (counted a.trace)
  received_le : a.recvFc.used ≤ a.recvFc.limit

namespace Conn

open Account (Credit)
variable {c c' : Conn τ κ}

lemma credit_of_noted (h : Credit c.account)
    (hnoted : Noted (fun event => event.produced? = none ∧ event.counted? = none) c c')
    (hsend : c'.sendFc = c.sendFc) (hrecv : c'.recvFc = c.recvFc) : Credit c'.account := by
  have hprod : produced c'.trace = produced c.trace :=
    Noted.filterMap (hnoted.imp fun _ hevent => hevent.1)
  have hcnt : counted c'.trace = counted c.trace :=
    Noted.filterMap (hnoted.imp fun _ hevent => hevent.2)
  refine ⟨?_, ?_, ?_, ?_⟩
  · rw [show c'.account.sendFc = c.sendFc from hsend, show produced c'.account.trace = _ from hprod]
    exact h.sent
  · rw [show c'.account.sendFc = c.sendFc from hsend]
    exact h.sent_le
  · rw [show c'.account.recvFc = c.recvFc from hrecv, show counted c'.account.trace = _ from hcnt]
    exact h.received
  · rw [show c'.account.recvFc = c.recvFc from hrecv]
    exact h.received_le

lemma credit_detectLost (h : Credit c.account) {level : Level} :
    Credit (c.detectLost level).1.account := by
  have hsame : ((c.detectLost level).1.sendFc, (c.detectLost level).1.recvFc) =
      (c.sendFc, c.recvFc) :=
    @detectLost_same _ _ _ (fun c => (c.sendFc, c.recvFc)) (fun _ _ => rfl) (fun _ _ _ => rfl) c
      level
  exact credit_of_noted h (noted_detectLost (fun _ _ _ => ⟨rfl, rfl⟩) c level)
    (Prod.mk.inj hsame).1 (Prod.mk.inj hsame).2

lemma credit_handleAck {ranges} (h : Credit c.account) {level : Level} :
    Credit (c.handleAck level largest delay firstRange ranges).account := by
  have hsame : ((c.handleAck level largest delay firstRange ranges).sendFc,
      (c.handleAck level largest delay firstRange ranges).recvFc) = (c.sendFc, c.recvFc) :=
    @handleAck_same _ _ _ (fun c => (c.sendFc, c.recvFc)) (fun _ _ => rfl) (fun _ _ _ => rfl)
      (fun _ _ _ => rfl) c level largest delay firstRange ranges
  exact credit_of_noted h
    (noted_handleAck (fun _ _ _ => ⟨rfl, rfl⟩) (fun _ _ _ => ⟨rfl, rfl⟩) c level largest delay
      firstRange ranges) (Prod.mk.inj hsame).1 (Prod.mk.inj hsame).2

lemma credit_stream (h : Credit c.account) (level : Level) {id offset : Nat} :
    Credit (c.handleFrame level (.stream id offset fin data)).1.account := by
  have hcnt : ∀ fc, c.recvFc.consume data.length = some fc → Credit
      (({ c with recvFc := fc } : Conn τ κ).note (.counted (.stream id offset fin data))).account := by
    intro fc hcons
    obtain ⟨hfits, rfl⟩ := consume_eq_some.mp hcons
    have htrace : produced (c.trace ++ [.counted (.stream id offset fin data)]) =
        produced c.trace ∧ counted (c.trace ++ [.counted (.stream id offset fin data)]) =
          counted c.trace ++ [.stream id offset fin data] := by
      refine ⟨?_, filterMap_append⟩
      rw [produced_append]
      exact append_nil _
    have hrecv := h.received
    have hrec := h.received_le
    refine ⟨?_, h.sent_le, ?_, ?_⟩
    · exact h.sent.trans (congrArg octets htrace.1.symm)
    · refine Eq.trans ?_ (congrArg octets htrace.2.symm)
      rw [octets_append, ← show c.recvFc.used = octets (counted c.trace) from hrecv]
      rfl
    · show c.recvFc.used + data.length ≤ c.recvFc.limit
      have hle : c.recvFc.used ≤ c.recvFc.limit := hrec
      omega
  rcases c.handleFrame_stream level id offset fin data with
    ⟨-, heq⟩ | ⟨fc, hcons, ⟨-, heq⟩ | ⟨-, heq⟩⟩
  · rw [heq]
    exact h
  · rw [heq]
    exact hcnt fc hcons
  · rw [heq]
    have hnoted := hcnt fc hcons
    exact ⟨hnoted.sent, hnoted.sent_le, hnoted.received, hnoted.received_le⟩

lemma Credit.setLimit (h : Credit a) (limit : Nat) :
    Credit { a with sendFc := a.sendFc.setLimit limit } := by
  obtain ⟨hused, hlimit⟩ := a.sendFc.setLimit_spec limit
  refine ⟨?_, ?_, h.received, h.received_le⟩
  · exact hused.trans h.sent
  · rw [hused, hlimit]
    exact le_trans h.sent_le (le_max_left _ _)

lemma credit_handleFrame (h : Credit c.account) (level : Level) {frame : Frame} :
    Credit (c.handleFrame level frame).1.account := by
  cases frame with
  | ack largest delay firstRange ranges =>
    exact credit_handleAck h
  | crypto offset data =>
    exact (c.account_setCrypto level ((c.spaces.get level).crypto.recv offset data)).symm ▸ h
  | stream id offset fin data => exact credit_stream h level
  | maxData max => exact Credit.setLimit h max
  | handshakeDone =>
    unfold handleFrame
    dsimp only
    split <;> exact h
  | datagram data =>
    have hqueued : Credit ({ c with datagrams := c.datagrams.ingest data } : Conn τ κ).account := h
    exact credit_of_noted hqueued (.of_event rfl ⟨rfl, rfl⟩) rfl rfl
  | _ => exact ⟨h.sent, h.sent_le, h.received, h.received_le⟩

lemma credit_act (h : Act e allowed c c') (hc : Credit c.account) : Credit c'.account := by
  cases h with
  | quiet same => rwa [same]
  | adopt params first _ =>
    cases params with
    | error err => exact ⟨hc.sent, hc.sent_le, hc.received, hc.received_le⟩
    | ok peer =>
      have hraised := Credit.setLimit hc peer.initialMaxData
      exact ⟨hraised.sent, hraised.sent_le, hraised.received, hraised.received_le⟩
  | received level pn =>
    have hnoted : Noted (fun event => event.produced? = none ∧ event.counted? = none) c
      (c.markReceived level pn) := .of_event rfl ⟨rfl, rfl⟩
    exact credit_of_noted hc hnoted rfl rfl
  | frame level frame ok => exact credit_handleFrame hc level
  | lost level => exact credit_detectLost hc

lemma recvFc_act (h : Act e allowed c c') :
    c'.recvFc = c.recvFc ∨ ∃ n, c.recvFc.consume n = some c'.recvFc := by
  cases h with
  | quiet same => exact .inl (congrArg Account.recvFc same)
  | adopt params first _ => cases params <;> exact .inl rfl
  | received level pn => exact .inl rfl
  | frame level frame ok =>
    cases frame with
    | ack largest delay firstRange ranges =>
      exact .inl (@handleAck_same _ _ _ (fun c => c.recvFc) (fun _ _ => rfl) (fun _ _ _ => rfl)
        (fun _ _ _ => rfl) c level largest delay firstRange ranges)
    | stream id offset fin data =>
      rcases c.handleFrame_stream level id offset fin data with
        ⟨-, heq⟩ | ⟨fc, hfc, ⟨-, heq⟩ | ⟨-, heq⟩⟩
      · rw [heq]
        exact .inl rfl
      · rw [heq]
        exact .inr ⟨_, hfc⟩
      · rw [heq]
        exact .inr ⟨_, hfc⟩
    | handshakeDone =>
      unfold handleFrame
      dsimp only
      split <;> exact .inl rfl
    | _ => exact .inl rfl
  | lost level =>
    exact .inl (@detectLost_same _ _ _ (fun c => c.recvFc) (fun _ _ => rfl) (fun _ _ _ => rfl) c
      level)

lemma recvFc_act_le (h : Act e allowed c c') :
    c'.recvFc.limit = c.recvFc.limit ∧ c.recvFc.used ≤ c'.recvFc.used := by
  rcases recvFc_act h with heq | ⟨n, hn⟩
  · rw [heq]
    exact ⟨rfl, le_rfl⟩
  · rw [(consume_eq_some.mp hn).2]
    exact ⟨rfl, Nat.le_add_right _ _⟩

/-! ## Packets -/

lemma octets_fresh_le (c : Conn τ κ) : octets c.fresh.1 ≤ c.sendFc.limit - c.sendFc.used :=
  le_trans (takeStreams_length _ _ _) (min_le_left _ _)

lemma counted_map_resent {queue : List LostFrame} :
    counted (queue.map fun lost => .resent lost .data) = [] :=
  filterMap_eq_nil_iff.mpr (forall_mem_map.mpr fun _ _ => rfl)

lemma counted_map_produced {frames : List Frame} : counted (frames.map .produced) = [] :=
  filterMap_eq_nil_iff.mpr (forall_mem_map.mpr fun _ _ => rfl)

lemma counted_append (t t' : List Event) : counted (t ++ t') = counted t ++ counted t' :=
  filterMap_append

lemma credit_appFrames (h : Credit c.account) : Credit c.appFrames.1.account := by
  have hfits := c.octets_fresh_le
  have hsentLe : c.sendFc.used ≤ c.sendFc.limit := h.sent_le
  obtain ⟨hused, hlimit, -⟩ := c.recvFc.maybeExtend_spec c.recvWindow h.received_le
  have hprod : produced (c.trace ++ c.retransmit.map (fun lost => .resent lost .data) ++
      c.fresh.1.map .produced) = produced c.trace ++ c.fresh.1 := by
    rw [produced_append, produced_append, produced_map_resent, produced_map_produced, append_nil]
  have hcnt : counted (c.trace ++ c.retransmit.map (fun lost => .resent lost .data) ++
      c.fresh.1.map .produced) = counted c.trace := by
    rw [counted_append, counted_append, counted_map_resent, counted_map_produced, append_nil,
      append_nil]
  rw [account_appFrames, foldl_consume c.sendFc c.fresh.1 hfits]
  refine ⟨?_, ?_, ?_, ?_⟩
  · rw [hprod, octets_append]
    exact congrArg (· + octets c.fresh.1) h.sent
  · dsimp only
    omega
  · rw [hused, hcnt]
    exact h.received
  · rw [hused]
    exact le_trans h.received_le hlimit

lemma credit_gathers (h : Credit c.account)
    (hgath : Gathers c level d frames) : Credit d.account := by
  cases hgath with
  | control _ same ok => rwa [same]
  | app data running same ok =>
    rw [same]
    exact credit_appFrames h

lemma credit_buildPacket (h : Credit c.account)
    (hbuilt : c.buildPacket level = some (c', packets)) : Credit c'.account := by
  refine @buildPacket_invariant _ _ (fun c => Credit c.account) _ _ _ _ hbuilt h ?_ ?_
  · exact fun d frames hgath _ => credit_gathers h hgath
  · intro d frames size closing hgath
    exact credit_of_noted (credit_gathers h hgath) (.of_event rfl ⟨rfl, rfl⟩) rfl rfl

lemma sendLimit_buildPacket
    (hbuilt : c.buildPacket level = some (c', packets)) : c'.sendFc.limit = c.sendFc.limit := by
  have hgath : ∀ d frames, Gathers c level d frames → d.sendFc.limit = c.sendFc.limit := by
    intro d frames hgath
    cases hgath with
    | control _ same _ => exact congrArg (fun a => a.sendFc.limit) same
    | app _ _ same _ =>
      have hsame := same.trans c.account_appFrames
      rw [foldl_consume c.sendFc c.fresh.1 c.octets_fresh_le] at hsame
      exact congrArg (fun a => a.sendFc.limit) hsame
  refine @buildPacket_invariant _ _ (fun d => d.sendFc.limit = c.sendFc.limit) _ _ _ _ hbuilt rfl
    (fun d frames hd _ => hgath d frames hd) ?_
  exact fun d frames _ _ hd => hgath d frames hd

lemma credit_step [DecidableEq κ] (e : Engine τ κ) (c : Conn τ κ) (i : Input κ)
    (h : Credit c.account) : Credit (c.step e i).1.account := by
  refine @step_invariant _ _ _ (fun c => Credit c.account) e c i ?_ ?_ ?_
    (fun _ _ hact => credit_act hact) (fun _ _ _ _ hbuilt hc => credit_buildPacket hc hbuilt) h
  · exact fun _ _ hc => ⟨hc.sent, hc.sent_le, hc.received, hc.received_le⟩
  · exact fun _ _ _ hc => credit_of_noted hc (.of_event rfl ⟨rfl, rfl⟩) rfl rfl
  · exact fun _ hc => ⟨hc.sent, hc.sent_le, hc.received, hc.received_le⟩

lemma credit_of_starts (h : c.Starts e) : Credit c.account := by
  obtain ⟨side, dcid, scid, tls, hsame⟩ := account_of_starts h
  rw [hsame]
  exact ⟨rfl, Nat.le_refl _, rfl, Nat.zero_le _⟩

end Conn
end MeshBus.Quic
