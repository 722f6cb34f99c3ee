import MeshBus.Quic.Limits
import Mathlib.Algebra.Order.BigOperators.Group.List
import Mathlib.Algebra.Order.Group.Nat

/-!
# How long a datagram is

One packet takes all that is queued at its level: every lost frame, every datagram and
all handshake data, and as much stream data as the credit of the peer and the congestion
window allow.  A datagram is as long as that makes it.
-/

namespace MeshBus.Quic

open Lib List Frame Bool SendStream StreamMap

/-! ## Sizes -/

def Frame.size (frame : Frame) : Nat := frame.encode.length

def framesSize (frames : List Frame) : Nat := (frames.map size).sum

lemma framesSize_append {frames frames' : List Frame} :
    framesSize (frames ++ frames') = framesSize frames + framesSize frames' := by
  unfold framesSize
  rw [map_append, sum_append]

lemma Frame.size_pos {frame : Frame} (h : ∀ run, frame ≠ .padding run) : 1 ≤ frame.size := by
  cases frame with
  | padding run => exact absurd rfl (h run)
  | _ => exact Nat.succ_le_succ (Nat.zero_le _)

lemma eq_nil_of_framesSize
    (hfrs : ∀ frame ∈ frames, ∀ run, frame ≠ .padding run) (hzero : framesSize frames = 0) :
    frames = [] := by
  cases frames with
  | nil => rfl
  | cons frame rest =>
    have hpos := size_pos (hfrs frame mem_cons_self)
    unfold framesSize at hzero
    rw [map_cons, sum_cons] at hzero
    omega

def Header.packetSize (header : Header) (bodyLen : Nat) : Nat :=
  header.size bodyLen + header.pn.len + bodyLen + 16

def Packet.size {κ : Type} : Packet κ → Nat
  | .malformed _ => 0
  | .whole header _ body => header.packetSize (framesSize (body.payload.toOption.getD []))

open Packet

lemma varintLen_mono (h : a ≤ b) : varintLen a ≤ varintLen b := by
  unfold varintLen
  grind

lemma varintLen_le (value : Nat) : varintLen value ≤ 8 := by
  unfold varintLen
  split
  · decide
  · split
    · decide
    · split <;> decide

lemma Header.packetSize_mono (header : Header) (h : a ≤ b) :
    header.packetSize a ≤ header.packetSize b := by
  unfold packetSize
  cases header with
  | long ty version dcid scid pn =>
    have hlen := varintLen_mono (show pn.len + a + 16 ≤ pn.len + b + 16 by omega)
    dsimp [size, Header.pn]
    omega
  | short dcid pn =>
    dsimp [size, Header.pn]
    omega

/-! ## Stream data -/

lemma Frame.size_stream (id offset : Nat) (fin : Bool) (hdata : data.length ≤ appFrameBudget) :
    (stream id offset fin data).size ≤ 19 + data.length := by
  have hid := varintLen_le id
  have hoff := varintLen_le offset
  have hlen : varintLen data.length ≤ varintLen appFrameBudget := varintLen_mono hdata
  have hbudget : varintLen appFrameBudget = 2 := rfl
  unfold size encode
  simp only [cons_append, length_cons, length_append, length_encodeVarint]
  split
  · rw [length_nil]
    omega
  · rw [length_encodeVarint]
    omega

lemma Frame.size_crypto (offset : Nat) (hdata : data.length ≤ appFrameBudget) :
    (crypto offset data).size ≤ 11 + data.length := by
  have hoff := varintLen_le offset
  have hlen : varintLen data.length ≤ varintLen appFrameBudget := varintLen_mono hdata
  have hbudget : varintLen appFrameBudget = 2 := rfl
  unfold size encode
  simp only [cons_append, length_cons, length_append, length_encodeVarint]
  omega

def chunkCount (octets : Nat) : Nat := octets / appFrameBudget + 1

lemma chunkCount_mono (h : a ≤ b) : chunkCount a ≤ chunkCount b :=
  Nat.succ_le_succ (Nat.div_le_div_right h)

lemma takeFrames_nothing {id : Nat} (h : remaining = 0 ∨ s.hasPending = false) :
    (takeFrames id fuel remaining s).1 = [] := by
  cases fuel with
  | zero => rfl
  | succ fuel =>
    unfold takeFrames
    split
    · rfl
    · next hrem =>
        have hnone : s.take (min remaining appFrameBudget) = none := by
          unfold SendStream.take
          rw [h.resolve_left hrem]
          rfl
        rw [hnone]

/-- A frame that is not full takes the last octet that may be sent, or the last that is
there. -/
lemma SendStream.take_short {s s' : SendStream} {fin : Bool}
    (h : s.take (min remaining appFrameBudget) = some (s', offset, data, fin))
    (hfin : ¬fin = true) (hshort : data.length < appFrameBudget) :
    remaining - data.length = 0 ∨ s'.hasPending = false := by
  unfold take at h
  split at h
  · obtain ⟨rfl, -, rfl, rfl⟩ : _ ∧ _ ∧ _ ∧ _ := by
      simpa only [Option.some.injEq, Prod.mk.injEq] using h
    rw [length_take] at hshort ⊢
    by_cases hall : s.queued.length ≤ min remaining appFrameBudget
    · refine .inr ?_
      have hempty : s.queued.drop (min remaining appFrameBudget) = [] := drop_eq_nil_of_le hall
      rw [hempty] at hfin ⊢
      simp only [isEmpty_nil, Bool.and_true, Bool.not_true, Bool.false_or] at hfin ⊢
      rw [eq_false_iff.mpr hfin]
      rfl
    · exact .inl (by omega)
  · cases h

/-- The frames of one stream: how many octets of it they hold, how many they are, and how
long they are. -/
lemma takeFrames_size (id fuel remaining : Nat) (s : SendStream) :
    ((takeFrames id fuel remaining s).1.map streamLen).sum +
        (takeFrames id fuel remaining s).2.2.queued.length = s.queued.length ∧
      (takeFrames id fuel remaining s).1.length ≤ chunkCount (min s.queued.length remaining) ∧
      framesSize (takeFrames id fuel remaining s).1 ≤
        ((takeFrames id fuel remaining s).1.map streamLen).sum +
          19 * (takeFrames id fuel remaining s).1.length := by
  induction fuel generalizing remaining s with
  | zero => exact ⟨Nat.zero_add _, Nat.zero_le _, Nat.zero_le _⟩
  | succ fuel ih =>
    unfold takeFrames
    split
    · exact ⟨Nat.zero_add _, Nat.zero_le _, Nat.zero_le _⟩
    · next hrem =>
        split
        · exact ⟨Nat.zero_add _, Nat.zero_le _, Nat.zero_le _⟩
        · next s' offset data fin htaken =>
            obtain ⟨-, hqueued, -, hlen, -⟩ := take_spec htaken
            have hsize := size_stream id offset fin
              (Nat.le_trans hlen (Nat.min_le_right _ _))
            have hsum := congrArg length hqueued
            rw [length_append] at hsum
            split
            · refine ⟨?_, Nat.succ_le_succ (Nat.zero_le _), ?_⟩
              · simp only [map_cons, streamLen, map_nil, sum_cons, sum_nil]
                omega
              · simp only [framesSize, map_cons, streamLen, map_nil, sum_cons,
                  sum_nil, length_singleton]
                omega
            · next hfin =>
                obtain ⟨hocts, hcount, hsizes⟩ := ih (remaining - data.length) s'
                refine ⟨?_, ?_, ?_⟩
                · simp only [map_cons, streamLen, sum_cons]
                  omega
                · rw [length_cons]
                  by_cases hfull : data.length < appFrameBudget
                  · rw [takeFrames_nothing (take_short htaken hfin hfull)]
                    exact Nat.succ_le_succ (Nat.zero_le _)
                  · have hone : min s.queued.length remaining =
                        min s'.queued.length (remaining - data.length) + appFrameBudget := by
                      omega
                    unfold chunkCount at hcount ⊢
                    rw [hone, Nat.add_div_right _ (by decide)]
                    omega
                · simp only [framesSize, map_cons, streamLen, sum_cons, length_cons] at hsizes ⊢
                  omega

def StreamMap.queuedAt (m : StreamMap) (id : Nat) : Nat := (m.entry id).send.queued.length

lemma takeStreams_size (hids : ids.Nodup) (m : StreamMap) (hbudget : remaining ≤ budget) :
    ((takeStreams ids m remaining).1.map streamLen).sum ≤ (ids.map m.queuedAt).sum ∧
      framesSize (takeStreams ids m remaining).1 ≤
        ((takeStreams ids m remaining).1.map streamLen).sum +
          19 * (ids.map fun id => chunkCount (min (m.queuedAt id) budget)).sum := by
  induction ids generalizing m remaining with
  | nil => exact ⟨Nat.zero_le _, Nat.zero_le _⟩
  | cons id ids ih =>
    obtain ⟨hid, hrest⟩ := nodup_cons.mp hids
    obtain ⟨hoct, hcount, hsize⟩ := takeFrames_size id remaining remaining (m.entry id).send
    have hleft := takeFrames_length id remaining remaining (m.entry id).send
    unfold takeStreams
    generalize takeFrames id remaining remaining (m.entry id).send = taken
      at hoct hcount hsize hleft
    obtain ⟨hlater, hlat'⟩ := ih hrest (m.modify id fun s => { s with send := taken.2.2 })
      (show taken.2.1 ≤ budget by omega)
    have hsame : ∀ other ∈ ids,
        (m.modify id fun s => { s with send := taken.2.2 }).queuedAt other = m.queuedAt other := by
      intro other hother
      have hne : other ≠ id := by
        rintro rfl
        exact hid hother
      unfold queuedAt
      rw [entry_modify, if_neg hne]
    have hhere : taken.1.length ≤ chunkCount (min (m.queuedAt id) budget) :=
      le_trans hcount (chunkCount_mono (by unfold queuedAt; omega))
    have hthere : m.queuedAt id = (m.entry id).send.queued.length := rfl
    rw [map_congr_left hsame] at hlater
    rw [map_congr_left fun other hother =>
      congrArg (fun octets => chunkCount (min octets budget)) (hsame other hother)] at hlat'
    rw [map_append, sum_append, framesSize_append, map_cons, map_cons, sum_cons, sum_cons]
    omega

/-- At most this much stream data goes into a packet, with the overhead of its frames:
what the streams have, and not more than may be sent. -/
def streamLoad (m : StreamMap) (budget : Nat) : Nat :=
  if budget = 0 then 0
  else min (m.sendable.map m.queuedAt).sum budget +
    19 * (m.sendable.map fun id => chunkCount (min (m.queuedAt id) budget)).sum

lemma nodup_sendable (m : StreamMap) : m.sendable.Nodup := by
  have hsub : m.sendable.Sublist m.streams.keys := filter_sublist.map _
  exact m.streams.nodup_keys.sublist hsub

lemma takeStreams_zero : (takeStreams ids m 0).1 = [] := by
  induction ids generalizing m with
  | nil => rfl
  | cons id ids ih =>
    unfold takeStreams
    dsimp only [takeFrames]
    rw [ih]
    rfl

lemma takeStreams_load :
    framesSize (takeStreams m.sendable m budget).1 ≤ streamLoad m budget := by
  unfold streamLoad
  split
  · next hzero =>
      rw [hzero, takeStreams_zero]
      exact le_refl _
  · obtain ⟨hoct, hsize⟩ := takeStreams_size (nodup_sendable m) m (le_refl budget)
    have hbudget := takeStreams_length m.sendable m budget
    omega

lemma streamLoad_mono (h : a ≤ b) : streamLoad m a ≤ streamLoad m b := by
  unfold streamLoad
  split
  · omega
  · have hfrs : (m.sendable.map fun id => chunkCount (min (m.queuedAt id) a)).sum ≤
        (m.sendable.map fun id => chunkCount (min (m.queuedAt id) b)).sum :=
      sum_le_sum fun id _ => chunkCount_mono (by omega)
    rw [if_neg (by omega)]
    omega

def cryptoLoad (octets : Nat) : Nat := if octets = 0 then 0 else octets + 11 * chunkCount octets

lemma takeCrypto_load {fuel : Nat} (s : CryptoStream) :
    framesSize (takeCrypto fuel s).2 ≤ cryptoLoad s.tx.length := by
  induction fuel generalizing s with
  | zero => exact Nat.zero_le _
  | succ fuel ih =>
    unfold takeCrypto CryptoStream.takeTx
    by_cases hempty : s.tx.isEmpty = true
    · rw [if_pos hempty]
      exact Nat.zero_le _
    · rw [if_neg hempty]
      have hlater := ih { s with
        tx := s.tx.drop appFrameBudget
        txOff := s.txOff + (s.tx.take appFrameBudget).length }
      have hsize := size_crypto s.txOff (length_take_le appFrameBudget s.tx)
      have hpos : s.tx.length ≠ 0 := by
        rw [ne_eq, List.length_eq_zero_iff, ← List.isEmpty_iff]
        exact hempty
      refine le_trans (add_le_add hsize hlater) ?_
      rw [length_drop, length_take]
      unfold cryptoLoad chunkCount appFrameBudget
      split <;> omega

namespace Conn
variable {τ κ : Type}

/-! ## What is queued -/

def appLoad (c : Conn τ κ) : Nat :=
  framesSize ((c.recvFc.maybeExtend c.recvWindow).2.toList.map .maxData) +
    framesSize (c.retransmit.map LostFrame.frame) + streamLoad c.streams c.sendBudget +
    framesSize ((c.datagrams.takeAll appFrameBudget).2.map .datagram)

def load (c : Conn τ κ) (level : Level) : Nat :=
  framesSize (c.takeAck level).2 +
    if level = .data then
      match c.closePending with
      | some (application, errorCode, reason) =>
        (connectionClose application errorCode reason).size
      | none =>
        c.appLoad + cryptoLoad (c.spaces.get level).crypto.tx.length +
          if c.side = .server ∧ c.sendHandshakeDone then 1 else 0
    else cryptoLoad (c.spaces.get level).crypto.tx.length

def Idle (c : Conn τ κ) (level : Level) : Prop :=
  c.load level = 0 ∧ (level = .data → c.retransmit = [])

instance (c : Conn τ κ) (level : Level) : Decidable (c.Idle level) :=
  inferInstanceAs (Decidable (_ ∧ _))

def packetLoad (c : Conn τ κ) (level : Level) : Nat :=
  if (c.txKeys.get level).isNone ∨ c.Idle level then 0
  else (c.headerFor level (c.spaces.get level).nextPn).packetSize (c.load level)

def queued (e : Engine τ κ) (c : Conn τ κ) : Nat :=
  let total := (levels.map (c.primed e).packetLoad).sum
  if c.isFirst then max maxDatagram total else total

def datagramSize (c : Conn τ κ) (packets : List (Packet κ)) : Nat :=
  let total := (packets.map Packet.size).sum
  if c.isFirst then max maxDatagram total else total

section
variable (c : Conn τ κ)

lemma crypto_takeAck (level level' : Level) :
    ((c.takeAck level).1.spaces.get level').crypto = (c.spaces.get level').crypto := by
  unfold takeAck
  dsimp only
  split
  · rw [PerLevel.get_set]
    split
    · next heq => rw [heq]
    · rfl
  · rfl

lemma appFrames_load : framesSize c.appFrames.2 ≤ c.appLoad := by
  have hfresh : framesSize c.fresh.1 ≤ streamLoad c.streams c.sendBudget := takeStreams_load
  rw [appFrames_snd, framesSize_append, framesSize_append, framesSize_append]
  unfold appLoad
  omega

lemma takeHandshake_load (level : Level) :
    framesSize (c.takeHandshake level).2 ≤ cryptoLoad (c.spaces.get level).crypto.tx.length :=
  takeCrypto_load _

/-- What packets say of their endpoint, and what a packet of handshake data or of the
application leaves alone. -/
lemma takeHandshake_fields (level : Level) : (c.takeHandshake level).1.side = c.side ∧
      (c.takeHandshake level).1.sendHandshakeDone = c.sendHandshakeDone ∧
      (c.takeHandshake level).1.dcid = c.dcid ∧ (c.takeHandshake level).1.scid = c.scid :=
  ⟨rfl, rfl, rfl, rfl⟩

lemma appFrames_fields :
    c.appFrames.1.side = c.side ∧ c.appFrames.1.sendHandshakeDone = c.sendHandshakeDone ∧
      c.appFrames.1.dcid = c.dcid ∧ c.appFrames.1.scid = c.scid := by
  refine ⟨?_, ?_, ?_, ?_⟩ <;>
    dsimp [appFrames, takeDatagrams, collectStreamFrames, takeRetransmit, extendCredit]

lemma takeHandshakeDone_load (level : Level) :
    framesSize (c.takeHandshakeDone level).2 ≤
      if c.side = .server ∧ c.sendHandshakeDone then 1 else 0 := by
  unfold takeHandshakeDone
  split
  · next hcond =>
      rw [if_pos hcond.2]
      exact Nat.le_refl 1
  · exact Nat.zero_le _

lemma gatherFrames_load (level : Level) :
    framesSize (c.gatherFrames level).2.1 ≤ c.load level := by
  obtain ⟨⟨spaces, hack, -⟩, -⟩ := c.takeAck_spec level
  have hcryp := c.crypto_takeAck level level
  have hsame : (c.takeAck level).1.closePending = c.closePending ∧
      (c.takeAck level).1.appLoad = c.appLoad ∧
      (c.takeAck level).1.side = c.side ∧
      (c.takeAck level).1.sendHandshakeDone = c.sendHandshakeDone := by
    rw [hack]
    exact ⟨rfl, rfl, rfl, rfl⟩
  unfold gatherFrames load
  dsimp only
  generalize c.takeAck level = taken at hcryp hsame
  obtain ⟨hclose, happ, hside, hdone⟩ := hsame
  rw [← hclose, ← hside, ← hdone, ← hcryp]
  split
  · cases taken.1.closePending with
    | some pending =>
      rw [framesSize_append]
      exact le_rfl
    | none =>
      have hsps := taken.1.spaces_appFrames
      have happs := taken.1.appFrames_load
      have hshake := takeHandshake_load taken.1.appFrames.1 level
      have hends := takeHandshakeDone_load (taken.1.appFrames.1.takeHandshake level).1 level
      rw [hsps] at hshake
      dsimp only
      rw [framesSize_append, framesSize_append, framesSize_append]
      rw [(takeHandshake_fields _ level).1, (appFrames_fields _).1, (takeHandshake_fields _ level).2.1,
        (appFrames_fields _).2.1] at hends
      omega
  · have hshake := takeHandshake_load taken.1 level
    rw [framesSize_append]
    omega

lemma headerFor_gatherFrames (level : Level) :
    (c.gatherFrames level).1.headerFor level ((c.gatherFrames level).1.spaces.get level).nextPn =
      c.headerFor level (c.spaces.get level).nextPn := by
  have hids : ∀ {d : Conn τ κ}, d.dcid = c.dcid → d.scid = c.scid → ∀ pn,
      d.headerFor level pn = c.headerFor level pn := by
    intro d hdcid hscid pn
    unfold headerFor
    rw [hdcid, hscid]
  have hpn : ((c.gatherFrames level).1.spaces.get level).nextPn = (c.spaces.get level).nextPn := by
    generalize hgathd : c.gatherFrames level = gathered
    have hcases := c.gatherFrames_cases level
    rw [hgathd] at hcases
    generalize gathered.2.1 = frames at hcases
    cases hcases with
    | control _ same _ => exact congrArg (fun a => a.nextPn level) same
    | app _ _ same _ => exact congrArg (fun a => a.nextPn level) (same.trans c.account_appFrames)
  rw [hpn]
  obtain ⟨⟨spaces, hack, -⟩, -⟩ := c.takeAck_spec level
  have htaken : (c.takeAck level).1.dcid = c.dcid ∧ (c.takeAck level).1.scid = c.scid := by
    rw [hack]
    exact ⟨rfl, rfl⟩
  unfold gatherFrames
  dsimp only
  generalize c.takeAck level = taken at htaken
  split
  · cases taken.1.closePending with
    | some pending => exact hids htaken.1 htaken.2 _
    | none =>
      have hdone : ∀ d : Conn τ κ, (d.takeHandshakeDone level).1.dcid = d.dcid ∧
          (d.takeHandshakeDone level).1.scid = d.scid := by
        intro d
        unfold takeHandshakeDone
        split <;> exact ⟨rfl, rfl⟩
      obtain ⟨hdcid, hscid⟩ := hdone (taken.1.appFrames.1.takeHandshake level).1
      obtain ⟨-, -, hdcid', hscid'⟩ := takeHandshake_fields taken.1.appFrames.1 level
      obtain ⟨-, -, hdcid'', hscid''⟩ := taken.1.appFrames_fields
      exact hids (hdcid.trans (hdcid'.trans (hdcid''.trans htaken.1)))
        (hscid.trans (hscid'.trans (hscid''.trans htaken.2))) _
  · exact hids htaken.1 htaken.2 _

end

variable {c c' : Conn τ κ} {packets : List (Packet κ)}

lemma Control.ne_padding (h : c.Control level frame) (run : Nat) : frame ≠ .padding run := by
  rintro rfl
  exact h

lemma appFrames_ne_padding (hretr : c.retransmit = []) :
    ∀ frame ∈ c.appFrames.2, ∀ run, frame ≠ .padding run := by
  rw [appFrames_snd, hretr]
  simp only [map_nil, append_nil, forall_mem_append, forall_mem_map]
  refine ⟨⟨fun _ _ _ => Frame.noConfusion, fun frame hframe run => ?_⟩,
    fun _ _ _ => Frame.noConfusion⟩
  rintro rfl
  exact false_ne_true (c.fresh_produces.streams _ hframe)

lemma gatherFrames_of_idle (h : c.Idle level) : (c.gatherFrames level).2.1 = [] := by
  have hzero := Nat.eq_zero_of_le_zero (le_trans (c.gatherFrames_load level) (le_of_eq h.1))
  have hcases := c.gatherFrames_cases level
  generalize c.gatherFrames level = gathered at hzero hcases
  generalize gathered.2.1 = frames at hzero hcases
  refine eq_nil_of_framesSize ?_ hzero
  cases hcases with
  | control _ _ ok => exact fun frame hframe => (ok frame hframe).ne_padding
  | app data _ _ ok =>
    obtain ⟨hbef, hafter⟩ := forall_mem_append.mp ok
    refine forall_mem_append.mpr ⟨forall_mem_append.mpr ⟨?_, ?_⟩, ?_⟩
    · exact fun frame hframe => (hbef frame hframe).ne_padding
    · exact appFrames_ne_padding (h.2 data)
    · exact fun frame hframe => (hafter frame hframe).ne_padding

lemma buildPacket_load (h : c.buildPacket level = some (c', packets)) :
    (packets.map Packet.size).sum ≤ c.packetLoad level := by
  unfold buildPacket at h
  cases hkey : c.txKeys.get level with
  | none =>
    rw [hkey] at h
    obtain ⟨-, rfl⟩ := Prod.mk.inj (Option.some.inj h)
    exact Nat.zero_le _
  | some key =>
    rw [hkey] at h
    dsimp only at h
    split at h
    · obtain ⟨-, rfl⟩ := Prod.mk.inj (Option.some.inj h)
      exact Nat.zero_le _
    · next hfrs =>
        obtain ⟨⟨c₁, packet⟩, hsent, heq⟩ := Option.map_eq_some_iff.mp h
        obtain ⟨-, rfl⟩ := Prod.mk.inj heq
        have hbusy : ¬c.Idle level := by
          intro hidle
          rw [gatherFrames_of_idle hidle] at hfrs
          exact hfrs rfl
        have hload := c.gatherFrames_load level
        have hhdr := c.headerFor_gatherFrames level
        unfold sendPacket at hsent
        dsimp only at hsent
        split at hsent
        · cases hsent
        · obtain ⟨-, rfl⟩ := Prod.mk.inj (Option.some.inj hsent)
          unfold packetLoad
          rw [if_neg (not_or.mpr ⟨by rw [hkey]; exact false_ne_true, hbusy⟩), ← hhdr]
          exact Header.packetSize_mono _ hload

/-! ## A datagram -/

lemma buildPacket_early (h : c.buildPacket level = some (c', packets)) (hdata : level ≠ .data) :
    ∃ spaces recovery trace sentFrames lastActivity closed,
      c' = { c with
        spaces := spaces
        recovery := recovery
        trace := trace
        sentFrames := sentFrames
        lastActivity := lastActivity
        closed := closed } := by
  have hgathd : ∃ spaces, (c.gatherFrames level).1 = { c with spaces := spaces } := by
    obtain ⟨⟨spaces, hack, -⟩, -⟩ := c.takeAck_spec level
    unfold gatherFrames
    rw [if_neg hdata, hack]
    exact ⟨_, rfl⟩
  obtain ⟨spaces, hgathd⟩ := hgathd
  rcases buildPacket_cases h with ⟨-, rfl, -⟩ | ⟨-, ⟨-, rfl, -⟩ | ⟨-, _, _, _, _, -, rfl, -⟩⟩
  · exact ⟨_, _, _, _, _, _, rfl⟩
  · exact ⟨_, _, _, _, _, _, hgathd⟩
  · rw [hgathd]
    exact ⟨_, _, _, _, _, _, rfl⟩

lemma load_le {spaces : PerLevel Space} {recovery : LossRecovery} {trace : List Event}
    {sentFrames : PerLevel (OrdMap Nat (List Frame))} {lastActivity : Nat} {closed : Bool}
    (hsame : c' = { c with
      spaces := spaces
      recovery := recovery
      trace := trace
      sentFrames := sentFrames
      lastActivity := lastActivity
      closed := closed }) (hspace : c'.spaces.get level = c.spaces.get level)
    (hroom : c'.recovery.cc.available ≤ c.recovery.cc.available) :
    c'.load level ≤ c.load level := by
  have hack : (c'.takeAck level).2 = (c.takeAck level).2 := by
    unfold takeAck
    dsimp only
    rw [hspace]
    split <;> rfl
  have hbudget : c'.sendBudget ≤ c.sendBudget := by
    have hfc : c'.sendFc = c.sendFc := by rw [hsame]
    unfold sendBudget
    rw [hfc]
    omega
  have hstrs : streamLoad c.streams c'.sendBudget ≤ streamLoad c.streams c.sendBudget :=
    streamLoad_mono hbudget
  unfold load appLoad
  rw [hack, hspace]
  generalize c'.sendBudget = budget at hstrs
  rw [hsame]
  split
  · cases c.closePending with
    | some pending => exact le_rfl
    | none =>
      dsimp only
      omega
  · exact le_rfl

lemma packetLoad_buildPacket (h : c.buildPacket level = some (c', packets))
    (hdata : level ≠ .data) (hne : level' ≠ level) :
    c'.packetLoad level' ≤ c.packetLoad level' := by
  have hbeside := beside_buildPacket h
  have hspace := hbeside.spaces level' hne
  have hroom := hbeside.room
  obtain ⟨spaces, recovery, trace, sentFrames, lastActivity, closed, hsame⟩ :=
    buildPacket_early h hdata
  have hload : c'.load level' ≤ c.load level' := load_le hsame hspace hroom
  have hkeys : c'.txKeys = c.txKeys := hbeside.keys
  have hhdr : c'.headerFor level' (c'.spaces.get level').nextPn =
      c.headerFor level' (c.spaces.get level').nextPn := by
    rw [hspace, hsame]
    rfl
  have hretr : c'.retransmit = c.retransmit := by rw [hsame]
  unfold packetLoad
  rw [hkeys, hhdr]
  by_cases hidle : (c.txKeys.get level').isNone = true ∨ c.Idle level'
  · rw [if_pos hidle, if_pos (hidle.imp id fun hidle => ?_)]
    refine ⟨Nat.eq_zero_of_le_zero (le_trans hload (le_of_eq hidle.1)), ?_⟩
    rw [hretr]
    exact hidle.2
  · split
    · omega
    · exact Header.packetSize_mono _ hload

lemma buildPackets_load (hls : ls.Pairwise fun a b => a ≠ .data ∧ b ≠ a)
    (h : c.buildPackets ls = some (c', packets)) :
    (packets.map Packet.size).sum ≤ (ls.map c.packetLoad).sum := by
  induction ls generalizing c packets with
  | nil =>
    obtain ⟨-, rfl⟩ := Prod.mk.inj (Option.some.inj h)
    exact Nat.zero_le _
  | cons level rest ih =>
    obtain ⟨c₁, first, others, hfirst, hoths, rfl⟩ := buildPackets_cons h
    obtain ⟨hlevel, hrest⟩ := pairwise_cons.mp hls
    have hlater : (rest.map c₁.packetLoad).sum ≤ (rest.map c.packetLoad).sum :=
      sum_le_sum fun level' hmem =>
        packetLoad_buildPacket hfirst (hlevel level' hmem).1 (hlevel level' hmem).2
    rw [map_append, sum_append]
    exact add_le_add (buildPacket_load hfirst) (le_trans (ih hrest hoths) hlater)

lemma datagramSize_le (h : c.pollTransmit e = some (c', some packets)) :
    c.datagramSize packets ≤ c.queued e := by
  rcases pollTransmit_cases h with ⟨-, -, hnone⟩ | ⟨d, built, -, hbuilt, -, rfl⟩
  · cases hnone
  · have hload := buildPackets_load (by decide) hbuilt
    unfold datagramSize queued
    split
    · exact Nat.max_le.mpr ⟨le_max_left _ _, le_trans hload (le_max_right _ _)⟩
    · exact hload

/-! ## STREAM data -/

/-- Stream data waits to be sent, for the first time or again. -/
def StreamsWait (c : Conn τ κ) : Prop :=
  c.streams.sendable ≠ [] ∨ ∃ lost ∈ c.retransmit, lost.frame.isStream = true

instance (c : Conn τ κ) : Decidable c.StreamsWait := inferInstanceAs (Decidable (_ ∨ _))

lemma appFrames_streamsWait (hframe : frame ∈ c.appFrames.2) (hstr : frame.isStream = true) :
    c.StreamsWait := by
  rw [appFrames_snd] at hframe
  simp only [mem_append, mem_map] at hframe
  rcases hframe with ((⟨_, -, rfl⟩ | ⟨lost, hlost, rfl⟩) | hfresh) | ⟨_, -, rfl⟩
  · cases hstr
  · exact .inr ⟨lost, hlost, hstr⟩
  · refine .inl fun hnone => ?_
    have hempty : c.fresh.1 = [] := by
      unfold fresh
      rw [hnone]
      rfl
    rw [hempty] at hfresh
    cases hfresh
  · cases hstr

lemma buildPacket_streamsWait (h : c.buildPacket level = some (c', packets))
    (hframe : frame ∈ packets.flatMap frames) (hstr : frame.isStream = true) :
    level = .data ∧ c.StreamsWait := by
  rcases buildPacket_cases h with ⟨-, -, rfl⟩ | ⟨-, ⟨-, -, rfl⟩ | ⟨-, _, _, _, _, -, -, rfl⟩⟩
  · cases hframe
  · cases hframe
  · have hgath := c.gatherFrames_cases level
    rw [flatMap_singleton] at hframe
    simp only [frames, contents, map_map, Function.comp_def, map_id'] at hframe
    generalize (c.gatherFrames level).1 = d at hgath
    generalize (c.gatherFrames level).2.1 = frames at hgath hframe
    have hctrl : ¬c.Control level frame := by
      intro hok
      rw [hok.not_stream] at hstr
      cases hstr
    cases hgath with
    | control _ _ ok => exact absurd (ok frame hframe) hctrl
    | app data _ _ ok =>
      refine ⟨data, ?_⟩
      rcases mem_append.mp hframe with hframe | hafter
      · rcases mem_append.mp hframe with hbef | happ
        · exact absurd (ok frame (mem_append_left _ hbef)) hctrl
        · exact appFrames_streamsWait happ hstr
      · exact absurd (ok frame (mem_append_right _ hafter)) hctrl

lemma buildPackets_streamsWait (h : c.buildPackets ls = some (c', packets))
    (hframe : frame ∈ packets.flatMap frames) (hstr : frame.isStream = true)
    (hls : ls.Pairwise fun a b => a ≠ .data ∧ b ≠ a) : c.StreamsWait := by
  induction ls generalizing c packets with
  | nil =>
    cases h
    cases hframe
  | cons level rest ih =>
    obtain ⟨c₁, first, others, hfirst, hoths, rfl⟩ := buildPackets_cons h
    obtain ⟨hlevel, hrest⟩ := pairwise_cons.mp hls
    rw [flatMap_append] at hframe
    rcases mem_append.mp hframe with hframe | hframe
    · exact (buildPacket_streamsWait hfirst hframe hstr).2
    · have hwait := ih hoths hframe hrest
      cases rest with
      | nil =>
        cases hoths
        cases hframe
      | cons level' rest =>
        have hdata := (hlevel level' mem_cons_self).1
        obtain ⟨_, _, _, _, _, _, rfl⟩ := buildPacket_early hfirst hdata
        exact hwait

/-! ## Budgets -/

/-- All that is queued fits in a datagram and, when stream data waits, in the congestion
window. -/
def FitsBudget (e : Engine τ κ) (c : Conn τ κ) : Prop :=
  c.queued e ≤ maxDatagram ∧
    ((c.primed e).StreamsWait → c.queued e ≤ c.recovery.cc.available)

instance (e : Engine τ κ) (c : Conn τ κ) : Decidable (c.FitsBudget e) :=
  inferInstanceAs (Decidable (_ ∧ _))

/-- A datagram is within its limit and, if it has STREAM data, within the room that there
was in the congestion window. -/
def InBudget (c : Conn τ κ) (packets : List (Packet κ)) : Prop :=
  c.datagramSize packets ≤ maxDatagram ∧
    ((Output.transmit (some packets)).streams ≠ [] →
      c.datagramSize packets ≤ c.recovery.cc.available)

lemma inBudget_pollTransmit (h : c.pollTransmit e = some (c', some packets))
    (hfits : c.FitsBudget e) : c.InBudget packets := by
  have hsize := datagramSize_le h
  refine ⟨le_trans hsize hfits.1, fun hstrs => le_trans hsize (hfits.2 ?_)⟩
  obtain ⟨frame, hframe⟩ := exists_mem_of_ne_nil _ hstrs
  obtain ⟨hframe, hstr⟩ := mem_filter.mp hframe
  rcases pollTransmit_cases h with ⟨-, -, hnone⟩ | ⟨d, built, -, hbuilt, -, rfl⟩
  · cases hnone
  · exact buildPackets_streamsWait hbuilt hframe hstr (by decide)

/-- In every run of an established connection whose queues fit whenever it is polled, every
datagram is within budget. -/
theorem datagrams_within_budget [DecidableEq κ] (e : Engine τ κ) (c : Conn τ κ)
    (is : List (Input κ)) (hfits : Along (step e)
      (fun _ c i => i = .poll → c.isEstablished e = true → c.FitsBudget e) [] c is) :
    Along (step e) (fun _ c i => c.isEstablished e = true → ∀ packets,
      (c.step e i).2 = .transmit (some packets) → c.InBudget packets) [] c is := by
  refine hfits.imp fun _ c i hfits hest packets hsent => ?_
  cases i with
  | poll =>
    unfold step at hsent
    dsimp only at hsent
    split at hsent
    · next c' datagram hpoll =>
        cases hsent
        exact inBudget_pollTransmit hpoll (hfits rfl hest)
    · cases hsent
  | _ => cases hsent

/-- The reply of a server: three octets in a datagram of 26. -/
theorem short_write_in_budget :
    let e : Engine Bool Nat := .instant [] 1 2
    let is : List (Input Nat) := [.recv (.ok []), .write 1 [10, 11, 12] true, .poll]
    let c := (run (step e) (server ⟨[7], by decide⟩ false) (is.take 2)).1
    c.isEstablished e = true ∧ Along (step e) (fun _ c i => c.isEstablished e = true → ∀ packets,
        (c.step e i).2 = .transmit (some packets) → c.InBudget packets) []
        (server ⟨[7], by decide⟩ false) is ∧
      (c.pollTransmit e).map (fun polled => polled.2.map c.datagramSize) = some (some 26) := by
  intro e is c
  refine ⟨by decide +kernel, datagrams_within_budget e _ is ?_, by decide +kernel⟩
  exact ⟨(by rintro ⟨⟩), (by rintro ⟨⟩), fun _ _ => by decide +kernel, True.intro⟩

/-- Twelve thousand octets are written at once.  The window has room for them, and the next
datagram takes them all: it is longer than a datagram may be, and with its headers longer
than the room that there was. -/
theorem long_write_out_of_budget :
    let e : Engine Bool Nat := .instant [] 1 2
    let c := (run (step e) (server ⟨[7], by decide⟩ false)
      [.recv (.ok []), .write 1 (replicate 12000 0) true]).1
    c.isEstablished e = true ∧ ∃ c' packets, c.pollTransmit e = some (c', some packets) ∧
      ¬c.datagramSize packets ≤ maxDatagram ∧
      (Output.transmit (some packets)).streams ≠ [] ∧
      ¬c.datagramSize packets ≤ c.recovery.cc.available := by
  intro e c
  have hfacts : c.isEstablished e = true ∧ c.recovery.cc.available = 12000 ∧
      ((c.pollTransmit e).map fun polled => polled.2.map fun packets =>
        (c.datagramSize packets, decide ((Output.transmit (some packets)).streams = []))) =
          some (some (12084, false)) := by decide +kernel
  obtain ⟨hest, hroom, hsent⟩ := hfacts
  obtain ⟨⟨c', datagram⟩, hpoll, hsent⟩ := Option.map_eq_some_iff.mp hsent
  cases datagram with
  | none => cases hsent
  | some packets =>
    obtain ⟨hsize, hstrs⟩ := Prod.mk.inj (Option.some.inj hsent)
    refine ⟨hest, c', packets, hpoll, ?_, of_decide_eq_false hstrs, ?_⟩
    · rw [hsize]
      decide
    · rw [hsize]
      decide

end Conn
end MeshBus.Quic
