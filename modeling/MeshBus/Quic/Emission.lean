import MeshBus.Quic.Acts

/-!
# What a packet is made of

The frames of a packet are an acknowledgement, handshake data and the like, and in
a packet of the data level also what the application has: frames to send again and
new STREAM frames.  New frames are cut off the front of the queues one at a time.
-/

namespace MeshBus.Quic

open Lib List Function Bool

/-! ## New STREAM frames -/

def StreamMap.sends (m : StreamMap) (id : Nat) : SendStream := (m.entry id).send

@[simp] lemma StreamMap.entry_modify (m : StreamMap) (id id' : Nat) (f : Stream → Stream) :
    (m.modify id f).entry id' = if id' = id then f (m.entry id) else m.entry id' := by
  unfold modify entry
  rw [OrdMap.lookup_insert]
  split <;> rfl

lemma StreamMap.sends_modify_send (m : StreamMap) (id : Nat) (send : SendStream) :
    (m.modify id fun s => { s with send := send }).sends = update m.sends id send := by
  funext id'
  unfold sends
  rw [entry_modify, update_apply]
  split <;> rfl

lemma StreamMap.sends_modify_recv (m : StreamMap) (id : Nat) (f : RecvStream → RecvStream) :
    (m.modify id fun s => { s with recv := f s.recv }).sends = m.sends := by
  funext id'
  unfold sends
  rw [entry_modify]
  split
  · next h => rw [h]
  · rfl

lemma StreamMap.sends_openNext (m : StreamMap) (bidi : Bool) :
    m.openNext bidi = (m, none) ∨
      ∃ id, (m.openNext bidi).2 = some id ∧
        (m.openNext bidi).1.sends = update m.sends id {} := by
  have hins : ∀ (m' : StreamMap) (id : Nat), m'.streams = m.streams.insert id {} →
      m'.sends = update m.sends id {} := by
    intro m' id hstrs
    funext id'
    rw [update_apply, sends, entry, hstrs, OrdMap.lookup_insert]
    split <;> rfl
  unfold openNext
  cases bidi with
  | true =>
    rw [if_pos rfl]
    split
    · exact .inl rfl
    · exact .inr ⟨_, rfl, hins _ _ rfl⟩
  | false =>
    rw [if_neg Bool.false_ne_true]
    split
    · exact .inl rfl
    · exact .inr ⟨_, rfl, hins _ _ rfl⟩

/-- Frames cut off the queues one after the other. -/
inductive Produces : (Nat → SendStream) → List Frame → (Nat → SendStream) → Prop
  | nil (sends : Nat → SendStream) : Produces sends [] sends
  | cons {sends sends' : Nat → SendStream} {id max offset : Nat} {fin : Bool} {data : Bytes}
      {s : SendStream} {frames : List Frame} (room : 0 < max)
      (taken : (sends id).take max = some (s, offset, data, fin))
      (later : Produces (update sends id s) frames sends') :
      Produces sends (.stream id offset fin data :: frames) sends'

lemma Produces.trans (h : Produces sends₁ frames sends₂) (h' : Produces sends₂ frames' sends₃) :
    Produces sends₁ (frames ++ frames') sends₃ := by
  induction h with
  | nil => exact h'
  | cons room taken _ ih => exact .cons room taken (ih h')

lemma takeFrames_produces (id fuel remaining : Nat) (sends : Nat → SendStream) :
    Produces sends (takeFrames id fuel remaining (sends id)).1
      (update sends id (takeFrames id fuel remaining (sends id)).2.2) := by
  induction fuel generalizing remaining sends with
  | zero =>
    rw [takeFrames, update_eq_self]
    exact .nil sends
  | succ fuel ih =>
    unfold takeFrames
    split
    · rw [update_eq_self]
      exact .nil sends
    · next hpos =>
        have hroom : 0 < min remaining appFrameBudget :=
          lt_min (Nat.pos_of_ne_zero hpos) (by decide)
        split
        · rw [update_eq_self]
          exact .nil sends
        · next s offset data fin htaken =>
            split
            · exact .cons hroom htaken (.nil _)
            · refine .cons hroom htaken ?_
              have hlater := ih (remaining - data.length) (update sends id s)
              rw [update_self, update_idem] at hlater
              exact hlater

lemma takeStreams_produces (ids : List Nat) (m : StreamMap) (remaining : Nat) :
    Produces m.sends (takeStreams ids m remaining).1 (takeStreams ids m remaining).2.sends := by
  induction ids generalizing m remaining with
  | nil => exact .nil _
  | cons id ids ih =>
    refine (takeFrames_produces id remaining remaining m.sends).trans ?_
    rw [← StreamMap.sends_modify_send]
    exact ih _ _

lemma Produces.streams
    (h : Produces sends frames sends') : ∀ frame ∈ frames, frame.isStream = true := by
  induction h with
  | nil => exact forall_mem_nil _
  | cons _ _ _ ih => exact forall_mem_cons.mpr ⟨rfl, ih⟩

lemma SendStream.take_spec {s s' : SendStream} {max offset : Nat} {fin : Bool}
    (h : s.take max = some (s', offset, data, fin)) :
    offset = s.sendOff ∧ s.queued = data ++ s'.queued ∧ s'.sendOff = s.sendOff + data.length ∧
      data.length ≤ max ∧ (s.finSent → s'.finSent) := by
  unfold take at h
  split at h
  · cases h
    refine ⟨rfl, (take_append_drop max s.queued).symm, rfl, ?_, ?_⟩
    · exact length_take_le _ _
    · intro hsent
      rw [hsent, Bool.true_or]
  · cases h

lemma SendStream.take_nil {s s' : SendStream} {max offset : Nat} {fin : Bool}
    (h : s.take max = some (s', offset, [], fin)) (hroom : 0 < max) :
    s.finSent = false ∧ s'.finSent = true := by
  unfold take hasPending at h
  split at h
  · next hpend =>
      obtain ⟨rfl, -, htaken, hfin⟩ : _ ∧ _ ∧ s.queued.take max = [] ∧ _ := by
        simpa only [Option.some.injEq, Prod.mk.injEq] using h
      have hempty : s.queued = [] := (take_eq_nil_iff.mp htaken).resolve_left (ne_of_gt hroom)
      rw [hempty] at hpend
      simp only [isEmpty_nil, Bool.not_true, Bool.false_or, and_eq_true, not_eq_true'] at hpend
      simp [hempty, hpend.1, hpend.2]
  · cases h

lemma takeFrames_length (id fuel remaining : Nat) (s : SendStream) :
    ((takeFrames id fuel remaining s).1.map Frame.streamLen).sum +
      (takeFrames id fuel remaining s).2.1 = remaining := by
  induction fuel generalizing remaining s with
  | zero => exact zero_add _
  | succ fuel ih =>
    unfold takeFrames
    split
    · exact zero_add _
    · split
      · exact zero_add _
      · next s' offset data fin htaken =>
          have hlen : data.length ≤ remaining :=
            le_trans (SendStream.take_spec htaken).2.2.2.1 (min_le_left _ _)
          split
          · simp only [map_cons, Frame.streamLen, map_nil, sum_cons, sum_nil]
            omega
          · have hlater := ih (remaining - data.length) s'
            simp only [map_cons, Frame.streamLen, sum_cons]
            omega

lemma takeStreams_length (ids : List Nat) (m : StreamMap) (remaining : Nat) :
    ((takeStreams ids m remaining).1.map Frame.streamLen).sum ≤ remaining := by
  induction ids generalizing m remaining with
  | nil => exact Nat.zero_le _
  | cons id ids ih =>
    unfold takeStreams
    have hfirst := takeFrames_length id remaining remaining (m.entry id).send
    have hlater := ih (m.modify id fun s =>
      { s with send := (takeFrames id remaining remaining (m.entry id).send).2.2 })
      (takeFrames id remaining remaining (m.entry id).send).2.1
    rw [map_append, sum_append]
    omega

/-! ## Frames of a packet -/

lemma takeCrypto_crypto {fuel : Nat} (s : CryptoStream) :
    ∀ frame ∈ (takeCrypto fuel s).2, ∃ offset data, frame = .crypto offset data := by
  induction fuel generalizing s with
  | zero => exact forall_mem_nil _
  | succ fuel ih =>
    unfold takeCrypto
    split
    · exact forall_mem_nil _
    · exact forall_mem_cons.mpr ⟨⟨_, _, rfl⟩, ih _⟩

namespace Conn
variable {τ κ : Type}

def Control (c : Conn τ κ) (level : Level) : Frame → Prop
  | .ack largest _ firstRange ranges =>
    (c.spaces.get level).ackPending = true ∧
      (c.spaces.get level).largestRecv = some largest ∧ firstRange = largest ∧ ranges = []
  | .crypto .. => True
  | .connectionClose .. => True
  | .handshakeDone => True
  | _ => False

variable {c c' : Conn τ κ} {level : Level}

lemma Control.not_stream (h : c.Control level frame) : frame.isStream = false := by
  cases frame with
  | stream id offset fin data => exact h.elim
  | _ => rfl

/-- The frames of a packet, and the connection once they are taken: what the
application has is in it, or not at all. -/
inductive Gathers (c : Conn τ κ) (level : Level) : Conn τ κ → List Frame → Prop
  | control {d : Conn τ κ} {frames : List Frame}
      (idle : level = .data → c.closePending ≠ none) (same : d.account = c.account)
      (ok : ∀ frame ∈ frames, c.Control level frame) : Gathers c level d frames
  | app {d : Conn τ κ} {before after : List Frame} (data : level = .data)
      (running : c.closePending = none) (same : d.account = c.appFrames.1.account)
      (ok : ∀ frame ∈ before ++ after, c.Control level frame) :
      Gathers c level d (before ++ c.appFrames.2 ++ after)

lemma takeAck_spec (c : Conn τ κ) (level : Level) :
    (∃ spaces, (c.takeAck level).1 = { c with spaces := spaces } ∧
      (∀ l, (spaces.get l).nextPn = (c.spaces.get l).nextPn) ∧
      ∀ l, (spaces.get l).largestRecv = (c.spaces.get l).largestRecv) ∧
    ∀ frame ∈ (c.takeAck level).2, c.Control level frame := by
  unfold takeAck
  dsimp only
  split
  · next largest hpend hlarg =>
      refine ⟨⟨_, rfl, fun l => ?_, fun l => ?_⟩, ?_⟩
      · rw [PerLevel.get_set]
        split
        · next h => rw [h]
        · rfl
      · rw [PerLevel.get_set]
        split
        · next h => rw [h]
        · rfl
      · exact forall_mem_singleton.mpr ⟨hpend, hlarg, rfl, rfl⟩
  · exact ⟨⟨c.spaces, rfl, fun _ => rfl, fun _ => rfl⟩, forall_mem_nil _⟩

lemma account_takeHandshake {level : Level} : (c.takeHandshake level).1.account = c.account :=
  c.account_setCrypto level _

lemma takeHandshake_control (c d : Conn τ κ) (level level' : Level) :
    ∀ frame ∈ (d.takeHandshake level').2, c.Control level frame := by
  intro frame hframe
  obtain ⟨offset, data, rfl⟩ := takeCrypto_crypto _ frame hframe
  exact True.intro

lemma takeHandshakeDone_spec (c d : Conn τ κ) (level level' : Level) :
    (d.takeHandshakeDone level').1.account = d.account ∧
      ∀ frame ∈ (d.takeHandshakeDone level').2, c.Control level frame := by
  unfold takeHandshakeDone
  split
  · exact ⟨rfl, forall_mem_singleton.mpr True.intro⟩
  · exact ⟨rfl, forall_mem_nil _⟩

def fresh (c : Conn τ κ) : List Frame × StreamMap :=
  takeStreams c.streams.sendable c.streams c.sendBudget

lemma fresh_produces (c : Conn τ κ) : Produces c.streams.sends c.fresh.1 c.fresh.2.sends :=
  takeStreams_produces _ _ _

lemma account_appFrames (c : Conn τ κ) :
    c.appFrames.1.account = { c.account with
      streams := c.fresh.2
      sendFc := c.fresh.1.foldl (fun fc frame => (fc.consume frame.streamLen).getD fc) c.sendFc
      recvFc := (c.recvFc.maybeExtend c.recvWindow).1
      retransmit := []
      trace := c.trace ++ c.retransmit.map (fun lost => .resent lost .data) ++
        c.fresh.1.map .produced } := by
  dsimp only [appFrames, takeDatagrams, collectStreamFrames, takeRetransmit, extendCredit, account,
    fresh, sendBudget]

lemma appFrames_snd (c : Conn τ κ) :
    c.appFrames.2 = (c.recvFc.maybeExtend c.recvWindow).2.toList.map .maxData ++
      c.retransmit.map LostFrame.frame ++ c.fresh.1 ++
      (c.datagrams.takeAll appFrameBudget).2.map .datagram := by
  dsimp only [appFrames, takeDatagrams, collectStreamFrames, takeRetransmit, extendCredit, account,
    fresh, sendBudget]

lemma spaces_appFrames (c : Conn τ κ) : c.appFrames.1.spaces = c.spaces := by
  dsimp only [appFrames, takeDatagrams, collectStreamFrames, takeRetransmit, extendCredit]

lemma gatherFrames_cases (c : Conn τ κ) (level : Level) :
    Gathers c level (c.gatherFrames level).1 (c.gatherFrames level).2.1 := by
  obtain ⟨⟨spaces, hack, hpn, hrecv⟩, hok⟩ := c.takeAck_spec level
  have hquiet : ({ c with spaces := spaces } : Conn τ κ).account = c.account := by
    simp only [account, hpn, hrecv]
  unfold gatherFrames
  dsimp only
  rw [hack]
  split
  · next hlevel =>
      split
      · next hclos =>
          refine .control (fun _ hnone => ?_) hquiet ?_
          · rw [show ({ c with spaces := spaces } : Conn τ κ).closePending = none from hnone]
              at hclos
            cases hclos
          · exact forall_mem_append.mpr ⟨hok, forall_mem_singleton.mpr True.intro⟩
      · next hrunn =>
          -- what the application has does not depend on the spaces
          have happ : ({ c with spaces := spaces } : Conn τ κ).appFrames =
              ({ c.appFrames.1 with spaces := spaces }, c.appFrames.2) := rfl
          have hsps : ({ c.appFrames.1 with spaces := spaces } : Conn τ κ).account =
              c.appFrames.1.account := by
            simp only [account, hpn, hrecv, spaces_appFrames]
          rw [happ]
          generalize ({ c.appFrames.1 with spaces := spaces } : Conn τ κ) = d at hsps ⊢
          obtain ⟨hdone, hdoneOk⟩ := takeHandshakeDone_spec c (d.takeHandshake level).1 level level
          have hafter := forall_mem_append.mpr ⟨takeHandshake_control c d level level, hdoneOk⟩
          rw [append_assoc ((c.takeAck level).2 ++ _)]
          refine .app hlevel hrunn ?_ (forall_mem_append.mpr ⟨hok, hafter⟩)
          rw [hdone, account_takeHandshake, hsps]
  · next hlevel =>
    refine .control (fun heq => absurd heq hlevel) ?_ ?_
    · rw [account_takeHandshake, hquiet]
    · exact forall_mem_append.mpr ⟨hok, takeHandshake_control c _ level level⟩

lemma buildPacket_cases (h : c.buildPacket level = some (c', packets)) :
    (c.txKeys.get level = none ∧ c' = c ∧ packets = []) ∨
      (c.txKeys.get level).isSome ∧
        ((c.gatherFrames level).2.1 = [] ∧ c' = (c.gatherFrames level).1 ∧ packets = [] ∨
          (c.gatherFrames level).2.1 ≠ [] ∧ ∃ key header size closing, header.level = level ∧
            c' = (c.gatherFrames level).1.recordSent level size (c.gatherFrames level).2.1 closing ∧
            packets = [.whole header false ⟨key, ((c.gatherFrames level).1.spaces.get level).nextPn,
              header, .ok (c.gatherFrames level).2.1⟩]) := by
  unfold buildPacket at h
  split at h
  · next hnone =>
      cases h
      exact .inl ⟨hnone, rfl, rfl⟩
  · next key hkey =>
      refine .inr ⟨by rw [hkey]; rfl, ?_⟩
      dsimp only at h
      split at h
      · next hempty =>
          cases h
          exact .inl ⟨isEmpty_iff.mp hempty, rfl, rfl⟩
      · next hfrs =>
          refine .inr ⟨fun hnil => hfrs (isEmpty_iff.mpr hnil), ?_⟩
          obtain ⟨⟨c₁, packet⟩, hsent, heq⟩ := Option.map_eq_some_iff.mp h
          cases heq
          unfold sendPacket at hsent
          dsimp only at hsent
          split at hsent
          · cases hsent
          · cases hsent
            refine ⟨key, _, _, _, ?_, rfl, rfl⟩
            cases level <;> rfl

/-- What every way of gathering frames and recording them keeps, building a packet
keeps. -/
lemma buildPacket_invariant {Inv : Conn τ κ → Prop} {c c' : Conn τ κ} {level : Level}
    {packets : List (Packet κ)} (h : c.buildPacket level = some (c', packets)) (hc : Inv c)
    (hgathd : ∀ d frames, Gathers c level d frames → frames = [] → Inv d)
    (hsent : ∀ d frames size closing, Gathers c level d frames →
      Inv (d.recordSent level size frames closing)) : Inv c' := by
  have hgath := c.gatherFrames_cases level
  rcases buildPacket_cases h with ⟨-, rfl, -⟩ | ⟨-, ⟨hnil, rfl, -⟩ | ⟨-, _, _, size, closing, -, rfl, -⟩⟩
  · exact hc
  · exact hgathd _ _ hgath hnil
  · exact hsent _ _ size closing hgath

lemma noted_buildPacket (h : c.buildPacket level = some (c', packets)) :
    Noted (fun event => event.incoming = false) c c' := by
  have hgath : ∀ d frames, Gathers c level d frames →
      Noted (fun event => event.incoming = false) c d := by
    intro d frames hgath
    cases hgath with
    | control _ same _ => exact .of_eq (congrArg Account.trace same)
    | app _ _ same _ =>
      have htrace := congrArg Account.trace (same.trans c.account_appFrames)
      refine ⟨_, htrace.trans (append_assoc _ _ _), forall_mem_append.mpr ⟨?_, ?_⟩⟩
      · exact forall_mem_map.mpr fun _ _ => rfl
      · exact forall_mem_map.mpr fun _ _ => rfl
  refine buildPacket_invariant h (.of_eq rfl) (fun d frames hd _ => hgath d frames hd) ?_
  intro d frames size closing hd
  have hsent : (d.recordSent level size frames closing).trace = d.trace ++ [.sent level _ frames] :=
    rfl
  exact (hgath d frames hd).trans (.of_event hsent rfl)

lemma noted_step [DecidableEq κ] (e : Engine τ κ) (c : Conn τ κ) (i : Input κ) :
    Noted (fun _ => True) c (c.step e i).1 := by
  refine @step_invariant _ _ _ (fun c' => Noted (fun _ => True) c c') e c i ?_ ?_ ?_ ?_ ?_
    (.of_eq rfl)
  · exact fun _ _ _ => .of_eq rfl
  · exact fun _ _ _ _ => .of_event rfl True.intro
  · exact fun _ _ => .of_eq rfl
  · exact fun _ _ hact hnoted => hnoted.trans ((learned_act hact).imp fun _ _ => True.intro)
  · exact fun _ _ _ _ hbuilt hnoted =>
      hnoted.trans ((noted_buildPacket hbuilt).imp fun _ _ => True.intro)

/-! ## The other levels -/

/-- A packet of one level leaves the keys and the spaces of the others alone, and makes
no room in the congestion window.  A packet of another level than data leaves a close
pending. -/
structure Beside (level : Level) (c d : Conn τ κ) : Prop where
  keys : d.txKeys = c.txKeys
  spaces : ∀ level', level' ≠ level → d.spaces.get level' = c.spaces.get level'
  room : d.recovery.cc.available ≤ c.recovery.cc.available
  close : level ≠ .data → d.closePending = c.closePending

lemma Beside.refl (level : Level) (c : Conn τ κ) : Beside level c c :=
  ⟨rfl, fun _ _ => rfl, le_rfl, fun _ => rfl⟩

lemma Beside.trans (h : Beside level c₁ c₂) (h' : Beside level c₂ c₃) :
    Beside level c₁ c₃ where
  keys := h'.keys.trans h.keys
  spaces level' hne := (h'.spaces level' hne).trans (h.spaces level' hne)
  room := le_trans h'.room h.room
  close hne := (h'.close hne).trans (h.close hne)

lemma beside_setSpace (c : Conn τ κ) {level : Level} (space : Space) :
    Beside level c { c with spaces := c.spaces.set level space } where
  keys := rfl
  spaces level' hne := by
    dsimp only
    rw [PerLevel.get_set, if_neg hne]
  room := le_rfl
  close _ := rfl

lemma beside_takeAck (c : Conn τ κ) (level : Level) : Beside level c (c.takeAck level).1 := by
  unfold takeAck
  dsimp only
  split
  · exact c.beside_setSpace _
  · exact .refl level c

lemma beside_takeHandshake (c : Conn τ κ) {level : Level} :
    Beside level c (c.takeHandshake level).1 :=
  c.beside_setSpace _

lemma beside_recordSent {level : Level} {size : Nat} {frames : List Frame} :
    Beside level d (d.recordSent level size frames closing) where
  keys := rfl
  spaces := (d.beside_setSpace _).spaces
  room := by
    have hcc : (d.recordSent level size frames closing).recovery.cc =
      d.recovery.cc.onSent size := rfl
    rw [hcc]
    unfold Congestion.available Congestion.onSent
    dsimp only
    omega
  close _ := rfl

lemma beside_takeHandshakeDone {level : Level} :
    Beside level c (c.takeHandshakeDone level).1 := by
  unfold takeHandshakeDone
  split
  · exact ⟨rfl, fun _ _ => rfl, le_rfl, fun _ => rfl⟩
  · exact .refl level c

lemma beside_appFrames (c : Conn τ κ) {level : Level} : Beside level c c.appFrames.1 := by
  have hrcv : c.appFrames.1.recovery = c.recovery := by
    dsimp only [appFrames, takeDatagrams, collectStreamFrames, takeRetransmit, extendCredit]
  refine ⟨?_, fun _ _ => ?_, le_of_eq (by rw [hrcv]), fun _ => ?_⟩ <;>
    dsimp only [appFrames, takeDatagrams, collectStreamFrames, takeRetransmit, extendCredit]

lemma beside_gatherFrames (c : Conn τ κ) (level : Level) :
    Beside level c (c.gatherFrames level).1 := by
  have hack := c.beside_takeAck level
  unfold gatherFrames
  dsimp only
  generalize (c.takeAck level) = taken at hack
  split
  · next hlevel =>
      split
      · exact ⟨hack.keys, hack.spaces, hack.room, fun hne => absurd hlevel hne⟩
      · have happ := hack.trans taken.1.beside_appFrames
        generalize taken.1.appFrames = app at happ
        have hshake := happ.trans app.1.beside_takeHandshake
        exact hshake.trans beside_takeHandshakeDone
  · exact hack.trans taken.1.beside_takeHandshake

lemma beside_buildPacket (h : c.buildPacket level = some (c', packets)) : Beside level c c' := by
  have hgathd := c.beside_gatherFrames level
  rcases buildPacket_cases h with ⟨-, rfl, -⟩ | ⟨-, ⟨-, rfl, -⟩ | ⟨-, _, _, _, _, -, rfl, -⟩⟩
  · exact .refl level _
  · exact hgathd
  · exact hgathd.trans beside_recordSent

end Conn
end MeshBus.Quic
