import MeshBus.Quic.Passes
import MeshBus.Quic.Peers

/-!
# Acknowledgements of acknowledgements

Every packet that is opened makes an acknowledgement due, also one that holds nothing
but an acknowledgement.  Two connections with nothing to send answer each other for
ever.
-/

namespace MeshBus.Quic

open Lib List PerLevel Function Conn LossRecovery Nat

/-! ## Accounts of a level -/

/-- What acknowledgements are about, at one level: the next number to send, the largest
received, whether an acknowledgement is due, and the largest number acknowledged. -/
structure Ledger where
  next : Nat
  received : Option Nat
  due : Bool
  acked : Option Nat

def larger (old : Option Nat) (n : Nat) : Nat := old.elim n (max · n)

namespace Ledger

def answer (l : Ledger) : Ledger := { l with next := l.next + 1, due := false }

/-- The packet `pn` came with an acknowledgement of `largest`. -/
def get (l : Ledger) (pn largest : Nat) : Ledger :=
  { l with
    received := some (larger l.received pn)
    due := true
    acked := some (larger l.acked largest) }

/-- The next packet has its number read as it is, what was received has been sent, and
what was acknowledged has been received. -/
structure Follows (own peer : Ledger) : Prop where
  decodes : decodePacketNumber (peer.received.getD 0) (encodePacketNumber own.next) = own.next
  sent : ∀ pn, peer.received = some pn → pn < own.next
  acked : ∀ pn, own.acked = some pn → ∃ largest, peer.received = some largest ∧ pn ≤ largest

lemma decode_next {pn : Nat} : decodePacketNumber pn (encodePacketNumber (pn + 1)) = pn + 1 := by
  unfold decodePacketNumber encodePacketNumber
  dsimp only
  have hbits : 1 ≤ 8 * max (packetNumberLen (pn + 1) none) 2 := by omega
  generalize 8 * max (packetNumberLen (pn + 1) none) 2 = bits at hbits
  have hwin : 0 < 2 ^ bits / 2 :=
    Nat.div_pos (le_trans (by decide) (Nat.pow_le_pow_right (by decide) hbits)) (by decide)
  rw [div_add_mod', if_neg fun h => ?_, if_neg fun h => ?_]
  · exact absurd h.1 (by omega)
  · exact absurd h.1 (by omega)

lemma le_larger_left (h : old = some pn) : pn ≤ larger old n := by
  rw [h]
  exact le_max_left _ _

lemma le_larger_right : n ≤ larger old n := by
  cases old with
  | none => exact le_refl n
  | some pn => exact le_max_right _ _

lemma larger_le (hold : ∀ pn, old = some pn → pn ≤ bound)
    (hn : n ≤ bound) : larger old n ≤ bound := by
  cases old with
  | none => exact hn
  | some pn => exact Nat.max_le.mpr ⟨hold pn rfl, hn⟩

lemma Follows.answer {own peer : Ledger} (h : own.Follows peer)
    (h' : peer.Follows own) (hrecv : own.received = some largest) :
    own.answer.Follows (peer.get own.next largest) ∧
      (peer.get own.next largest).Follows own.answer := by
  have hnext : larger peer.received own.next = own.next :=
    le_antisymm (larger_le (fun pn hpn => le_of_lt (h.sent pn hpn)) (le_rfl))
      le_larger_right
  refine ⟨⟨?_, fun pn hpn => ?_, fun pn hpn => ?_⟩, ⟨h'.decodes, h'.sent, fun pn hpn => ?_⟩⟩
  · show decodePacketNumber (larger peer.received own.next) (encodePacketNumber (own.next + 1)) = _
    rw [hnext]
    exact decode_next
  · rw [← Option.some.inj hpn, hnext]
    exact lt_succ_self _
  · obtain ⟨before, hbef, hle⟩ := h.acked pn hpn
    exact ⟨_, rfl, le_trans hle (le_larger_left hbef)⟩
  · refine ⟨largest, hrecv, ?_⟩
    rw [← Option.some.inj hpn]
    refine larger_le (fun pn hpn => ?_) (le_rfl)
    obtain ⟨before, hbef, hle⟩ := h'.acked pn hpn
    rw [hrecv] at hbef
    exact Option.some.inj hbef ▸ hle

end Ledger

namespace Conn
variable {τ κ : Type}

def ledger (c : Conn τ κ) (level : Level) : Ledger where
  next := (c.spaces.get level).nextPn
  received := (c.spaces.get level).largestRecv
  due := (c.spaces.get level).ackPending
  acked := (c.recovery.spaces.get level).largestAcked

def owes (c : Conn τ κ) (level : Level) : Bool :=
  (c.txKeys.get level).isSome && (c.ledger level).due && (c.ledger level).received.isSome

/-- A packet that acknowledges all numbers up to `largest`. -/
def ackPacket (c : Conn τ κ) (level : Level) (key : κ) (largest : Nat) : Packet κ :=
  .whole (c.headerFor level (c.ledger level).next) false
    ⟨key, (c.ledger level).next, c.headerFor level (c.ledger level).next,
      .ok [.ack largest 0 largest []]⟩

def answers (c : Conn τ κ) (level : Level) : List (Packet κ) :=
  match c.txKeys.get level, (c.ledger level).due, (c.ledger level).received with
  | some key, true, some largest => [c.ackPacket level key largest]
  | _, _, _ => []

lemma owes_iff {c : Conn τ κ} :
    c.owes level = true ↔ ∃ key largest, c.txKeys.get level = some key ∧
      (c.ledger level).due = true ∧ (c.ledger level).received = some largest := by
  unfold owes
  rw [Bool.and_eq_true, Bool.and_eq_true, Option.isSome_iff_exists, Option.isSome_iff_exists]
  constructor
  · rintro ⟨⟨⟨key, hkey⟩, hdue⟩, largest, hlarg⟩
    exact ⟨key, largest, hkey, hdue, hlarg⟩
  · rintro ⟨key, largest, hkey, hdue, hlarg⟩
    exact ⟨⟨⟨key, hkey⟩, hdue⟩, largest, hlarg⟩

lemma answers_of_owes {c : Conn τ κ}
    (hkey : c.txKeys.get level = some key) (hdue : (c.ledger level).due = true)
    (hlarg : (c.ledger level).received = some largest) :
    c.answers level = [c.ackPacket level key largest] := by
  unfold answers
  rw [hkey, hdue, hlarg]

lemma answers_of_not_owes {c : Conn τ κ} (h : c.owes level ≠ true) : c.answers level = [] := by
  unfold answers
  split
  · next key largest hkey hdue hlarg => exact absurd (owes_iff.mpr ⟨key, largest, hkey, hdue, hlarg⟩) h
  · rfl

/-! ## Connections with nothing to send -/

def OnlyPackets (c c' : Conn τ κ) : Prop :=
  ∃ spaces recovery sentFrames trace,
    c' = { c with
      spaces := spaces
      recovery := recovery
      sentFrames := sentFrames
      trace := trace } ∧
    ∀ level, (spaces.get level).crypto = (c.spaces.get level).crypto

lemma OnlyPackets.refl (c : Conn τ κ) : OnlyPackets c c := ⟨_, _, _, _, rfl, fun _ => rfl⟩

lemma OnlyPackets.trans (h : OnlyPackets c₁ c₂) (h' : OnlyPackets c₂ c₃) : OnlyPackets c₁ c₃ := by
  obtain ⟨_, _, _, _, rfl, hcryp⟩ := h
  obtain ⟨_, _, _, _, rfl, hcryp'⟩ := h'
  exact ⟨_, _, _, _, rfl, fun level => (hcryp' level).trans (hcryp level)⟩

/-- Nothing is queued: no stream data, datagram, handshake data or lost frame, no credit
to extend and no close.  TLS is through. -/
structure AtRest (e : Engine τ κ) (c : Conn τ κ) : Prop where
  isOpen : c.closed = false
  begun : c.isFirst = false
  close : c.closePending = none
  credit : c.recvWindow < (c.recvFc.limit - c.recvFc.used) * 2
  retransmit : c.retransmit = []
  streams : c.streams.sendable = []
  datagrams : c.datagrams.outgoing = []
  crypto : ∀ level, (c.spaces.get level).crypto.tx = []
  drained : ∀ level, c.Drained level
  done : c.sendHandshakeDone = false
  tls : e.writeHandshake c.tls = (c.tls, [], [])
  params : c.peerParams ≠ none ∨ e.peerTransportParameters c.tls = none
  confirmed : c.side = .server → c.handshakeConfirmed = true

section
variable {c : Conn τ κ}

lemma AtRest.onlyPackets (h : AtRest e c) (honly : OnlyPackets c c') : AtRest e c' := by
  obtain ⟨_, _, _, _, rfl, hcryp⟩ := honly
  refine ⟨h.isOpen, h.begun, h.close, h.credit, h.retransmit, h.streams, h.datagrams,
    fun level => ?_, fun level => ?_, h.done, h.tls, h.params, h.confirmed⟩
  · exact (congrArg CryptoStream.tx (hcryp level)).trans (h.crypto level)
  · unfold Drained
    rw [hcryp level]
    exact h.drained level

lemma onlyPackets_takeAck {level : Level} : OnlyPackets c (c.takeAck level).1 := by
  unfold takeAck
  dsimp only
  split
  · refine ⟨_, _, _, _, rfl, fun level' => ?_⟩
    rw [get_set]
    split
    · next heq => rw [heq]
    · rfl
  · exact .refl c

lemma AtRest.pumpTls (h : AtRest e c) : c.pumpTls e = (c, .ok ()) := by
  refine pumpTls_of_idle h.drained h.tls h.params (if_neg fun hcond => ?_)
  rw [h.confirmed hcond.1] at hcond
  cases hcond.2.2

lemma AtRest.appFrames (h : AtRest e c) : c.appFrames = (c, []) := by
  have hcred : c.extendCredit = (c, []) := by
    unfold extendCredit FlowController.maybeExtend
    rw [if_neg (not_le.mpr h.credit)]
    rfl
  have hagain : c.takeRetransmit = (c, []) := by
    unfold takeRetransmit
    rw [h.retransmit, map_nil, map_nil, append_nil, ← h.retransmit]
  have hfresh : c.collectStreamFrames = (c, []) := by
    unfold collectStreamFrames
    rw [h.streams]
    dsimp only [takeStreams, foldl_nil]
    rw [map_nil, append_nil]
  have hdgrams : c.takeDatagrams = (c, []) := by
    have hnone : c.datagrams.takeAll appFrameBudget = (c.datagrams, []) := by
      have hempty := h.datagrams
      generalize c.datagrams = q at hempty
      obtain ⟨outgoing, incoming, maxQueued, maxRecv⟩ := q
      obtain rfl : outgoing = [] := hempty
      rfl
    unfold takeDatagrams
    rw [hnone]
    rfl
  unfold Conn.appFrames
  rw [hcred]
  dsimp only
  rw [hagain]
  rw [hfresh]
  rw [hdgrams]
  rfl

lemma AtRest.takeHandshake (h : AtRest e c) (level : Level) : c.takeHandshake level = (c, []) := by
  unfold Conn.takeHandshake
  dsimp only
  rw [h.crypto level]
  dsimp only [length_nil, takeCrypto]
  rw [set_get]

lemma AtRest.gatherFrames (h : AtRest e c) (level : Level) :
    c.gatherFrames level = ((c.takeAck level).1, (c.takeAck level).2, false) := by
  have hrest : AtRest e (c.takeAck level).1 := h.onlyPackets onlyPackets_takeAck
  unfold Conn.gatherFrames
  dsimp only
  split
  · have hdone : (c.takeAck level).1.takeHandshakeDone level = ((c.takeAck level).1, []) := by
      refine if_neg fun hcond => ?_
      rw [hrest.done] at hcond
      cases hcond.2.2
    rw [hrest.close]
    rw [hrest.appFrames]
    rw [hrest.takeHandshake]
    rw [hdone, append_nil, append_nil, append_nil]
  · rw [hrest.takeHandshake, append_nil]

lemma length_ack (largest : Nat) : 5 ≤ (Frame.ack largest 0 largest []).encode.length := by
  have hlarg := varintLen_pos largest
  have hzero := varintLen_pos 0
  simp only [Frame.encode, cons_append, length_cons, length_append, length_encodeVarint,
    length_nil, flatMap_nil]
  omega

lemma takeAck_of_due (hdue : (c.ledger level).due = true)
    (hlarg : (c.ledger level).received = some largest) :
    c.takeAck level = ({ c with
      spaces := c.spaces.set level { c.spaces.get level with ackPending := false } },
      [.ack largest 0 largest []]) := by
  have hpend : (c.spaces.get level).ackPending = true := hdue
  have hrecv : (c.spaces.get level).largestRecv = some largest := hlarg
  unfold takeAck
  dsimp only
  rw [hpend, hrecv]

lemma takeAck_of_not_due
    (h : ∀ largest, (c.ledger level).due = true → (c.ledger level).received ≠ some largest) :
    c.takeAck level = (c, []) := by
  unfold takeAck
  dsimp only
  split
  · next largest hdue hlarg => exact absurd hlarg (h largest hdue)
  · rfl

/-- The account of a packet that holds an acknowledgement only. -/
lemma recordSent_ack (c : Conn τ κ) {level : Level} {size largest : Nat} :
    ∃ trace, c.recordSent level size [.ack largest 0 largest []] false = { c with
      spaces := c.spaces.set level { c.spaces.get level with
        nextPn := (c.spaces.get level).nextPn + 1 }
      recovery := c.recovery.onPacketSent level ⟨(c.spaces.get level).nextPn, c.now, size, false⟩
      trace := trace } := by
  refine ⟨c.trace ++ [.sent level (c.spaces.get level).nextPn [.ack largest 0 largest []]], ?_⟩
  unfold recordSent
  rw [Bool.or_false]
  rfl

lemma acked_onPacketSent (r : LossRecovery) (level level' : Level) (p : SentPacket) :
    ((r.onPacketSent level p).spaces.get level').largestAcked =
      (r.spaces.get level').largestAcked := by
  unfold onPacketSent
  rw [get_set]
  split
  · next heq => rw [heq]
  · rfl

lemma AtRest.buildPacket (h : AtRest e c) (level : Level) :
    ∃ c', c.buildPacket level = some (c', c.answers level) ∧ OnlyPackets c c' ∧
      ∀ level', c'.ledger level' =
        if level' = level ∧ c.owes level = true then (c.ledger level').answer else c.ledger level' := by
  by_cases howes : c.owes level = true
  · obtain ⟨key, largest, hkey, hdue, hlarg⟩ := owes_iff.mp howes
    have hgathd := h.gatherFrames level
    rw [takeAck_of_due hdue hlarg] at hgathd
    -- the packet is long enough to be sampled
    have hlong : ∀ n, ¬n + ([Frame.ack largest 0 largest []].flatMap Frame.encode).length < 4 := by
      intro n
      have hack := length_ack largest
      rw [flatMap_singleton]
      omega
    generalize hd : { c with
      spaces := c.spaces.set level { c.spaces.get level with ackPending := false } } = d at hgathd
    obtain ⟨size, hbuilt⟩ : ∃ size, c.buildPacket level =
        some (d.recordSent level size [.ack largest 0 largest []] false, c.answers level) := by
      have hnext : (d.spaces.get level).nextPn = (c.ledger level).next := by
        rw [← hd, get_set, if_pos rfl]
        rfl
      have hhdr : d.headerFor level (c.ledger level).next =
          c.headerFor level (c.ledger level).next := by
        rw [← hd]
        cases level <;> rfl
      unfold Conn.buildPacket
      rw [hkey, hgathd, answers_of_owes hkey hdue hlarg]
      dsimp only
      rw [sendPacket, hnext, hhdr, if_neg (hlong _)]
      exact ⟨_, rfl⟩
    obtain ⟨trace, hsent⟩ := d.recordSent_ack
    refine ⟨_, hbuilt, ?_, fun level' => ?_⟩
    · rw [hsent, ← hd]
      refine ⟨_, _, _, _, rfl, fun level' => ?_⟩
      by_cases heq : level' = level
      · rw [heq]
        simp only [get_set, if_true]
      · simp only [get_set, if_neg heq]
    · rw [hsent, ← hd]
      by_cases heq : level' = level
      · rw [if_pos ⟨heq, howes⟩, heq]
        simp only [ledger, acked_onPacketSent, get_set, if_true, Ledger.answer]
      · rw [if_neg fun h => heq h.1]
        simp only [ledger, acked_onPacketSent, get_set, if_neg heq]
  · rw [answers_of_not_owes howes]
    refine ⟨c, ?_, .refl c, fun level' => by rw [if_neg fun h => howes h.2]⟩
    unfold Conn.buildPacket
    cases hkey : c.txKeys.get level with
    | none => rfl
    | some key =>
      have hnone : c.takeAck level = (c, []) := takeAck_of_not_due fun largest hdue hlarg =>
        howes (owes_iff.mpr ⟨key, largest, hkey, hdue, hlarg⟩)
      rw [h.gatherFrames, hnone]
      rfl

lemma OnlyPackets.answers (h : OnlyPackets c c') (hledg : c'.ledger level = c.ledger level) :
    c'.answers level = c.answers level ∧ c'.owes level = c.owes level := by
  have hpkt : ∀ key largest, c'.ackPacket level key largest = c.ackPacket level key largest := by
    intro key largest
    unfold ackPacket
    rw [hledg]
    obtain ⟨_, _, _, _, rfl, -⟩ := h
    cases level <;> rfl
  have hkeys : c'.txKeys = c.txKeys := by
    obtain ⟨_, _, _, _, rfl, -⟩ := h
    rfl
  unfold Conn.answers owes
  simp only [hpkt, hkeys, hledg, and_self]

lemma AtRest.buildPackets (h : AtRest e c) (hls : ls.Nodup) :
    ∃ c', c.buildPackets ls = some (c', ls.flatMap c.answers) ∧ OnlyPackets c c' ∧
      ∀ level, c'.ledger level =
        if level ∈ ls ∧ c.owes level = true then (c.ledger level).answer else c.ledger level := by
  induction ls generalizing c with
  | nil => exact ⟨c, rfl, .refl c, fun level => by rw [if_neg fun h => not_mem_nil h.1]⟩
  | cons first rest ih =>
    obtain ⟨hfirst, hrest⟩ := nodup_cons.mp hls
    obtain ⟨c₁, hbuilt, honly, hledg⟩ := h.buildPacket first
    obtain ⟨c₂, hoths, honly', hledg'⟩ := ih (h.onlyPackets honly) hrest
    -- the other levels are as they were
    have hsame : ∀ level ∈ rest, c₁.ledger level = c.ledger level := by
      intro level hlevel
      rw [hledg, if_neg]
      rintro ⟨rfl, -⟩
      exact hfirst hlevel
    refine ⟨c₂, ?_, honly.trans honly', fun level => ?_⟩
    · have hans : rest.flatMap c₁.answers = rest.flatMap c.answers :=
        flatMap_congr fun level hlevel => (honly.answers (hsame level hlevel)).1
      unfold buildPackets
      rw [hbuilt]
      show (c₁.buildPackets rest).bind _ = _
      rw [hoths, hans]
      rfl
    · rw [hledg']
      by_cases hmem : level ∈ rest
      · have hne : level ≠ first := by
          rintro rfl
          exact hfirst hmem
        rw [hsame level hmem, (honly.answers (hsame level hmem)).2]
        simp only [hmem, mem_cons, hne, true_and, false_or]
      · rw [if_neg fun h => hmem h.1, hledg]
        simp only [mem_cons, hmem, or_false]
        by_cases heq : level = first
        · rw [heq]
        · rw [if_neg fun h => heq h.1, if_neg fun h => heq h.1]

lemma AtRest.pollTransmit (h : AtRest e c) :
    ∃ c', c.pollTransmit e = some (c', if (levels.flatMap c.answers).isEmpty then none
        else some (levels.flatMap c.answers)) ∧ OnlyPackets c c' ∧
      ∀ level, c'.ledger level =
        if c.owes level = true then (c.ledger level).answer else c.ledger level := by
  obtain ⟨c', hbuilt, honly, hledg⟩ := h.buildPackets (show levels.Nodup by decide)
  refine ⟨c', ?_, honly, fun level => ?_⟩
  · have hprimed : c.primed e = c := by
      unfold primed
      rw [h.begun]
      rfl
    unfold Conn.pollTransmit
    rw [h.isOpen, if_neg Bool.false_ne_true, hprimed, hbuilt, h.begun]
    show (if _ then _ else _) = _
    split <;> rfl
  · have hlevel : level ∈ levels := by cases level <;> decide
    rw [hledg]
    simp only [hlevel, true_and]

/-! ## An acknowledgement arrives -/

lemma onAck_all (r : LossRecovery) (level : Level) (largest now : Nat) :
    (∀ entry ∈ ((r.onAck level largest largest [] 0 now).1.spaces.get level).sent.entries,
      largest < entry.1) ∧
    ∀ level', ((r.onAck level largest largest [] 0 now).1.spaces.get level').largestAcked =
      if level' = level then some (larger (r.spaces.get level').largestAcked largest)
      else (r.spaces.get level').largestAcked := by
  have hfirst : wrapSub largest largest = 0 := by
    unfold wrapSub
    rw [Nat.add_sub_cancel_left, mod_self]
  unfold onAck
  constructor
  · rw [get_set, if_pos rfl]
    dsimp only [ackedNumbers, laterBlocks, takeBlocks]
    rw [hfirst]
    intro entry hentry
    have hout := (OrdMap.mem_entries_filter.mp hentry).2
    simpa [inBlock] using hout
  · intro level'
    rw [get_set]
    split
    · next heq => rw [heq]; rfl
    · rfl

lemma detectLost_none {r : LossRecovery} {level : Level} {now largest : Nat}
    (hsent : ∀ entry ∈ (r.spaces.get level).sent.entries, largest < entry.1)
    (hacked : ∀ pn, (r.spaces.get level).largestAcked = some pn → pn ≤ largest) :
    (r.detectLost level now).2 = [] ∧
      ∀ level', ((r.detectLost level now).1.spaces.get level').largestAcked =
        (r.spaces.get level').largestAcked := by
  unfold LossRecovery.detectLost
  dsimp only
  split
  · exact ⟨rfl, fun _ => rfl⟩
  · next pn hpn =>
      refine ⟨?_, fun level' => ?_⟩
      · refine map_eq_nil_iff.mpr (eq_nil_iff_forall_not_mem.mpr fun entry hentry => ?_)
        obtain ⟨hmem, hlost⟩ := OrdMap.mem_entries_filter.mp hentry
        have hlt := hsent entry hmem
        have hle := hacked pn hpn
        simp only [isLost, Bool.and_eq_true, decide_eq_true_eq] at hlost
        omega
      · rw [get_set]
        split
        · next heq => rw [heq]
        · rfl

lemma foldl_forgetAcked {level : Level} {out : List SentPacket} (c : Conn τ κ) :
    ∃ sentFrames trace, out.foldl (forgetAcked level) c =
      { c with sentFrames := sentFrames, trace := trace } := by
  induction out generalizing c with
  | nil => exact ⟨c.sentFrames, c.trace, rfl⟩
  | cons p rest ih =>
    obtain ⟨sentFrames, trace, heq⟩ := ih (forgetAcked level c p)
    exact ⟨sentFrames, trace, heq⟩

lemma handleAck_all {level : Level} {largest : Nat}
    (hacked : ∀ pn, (c.ledger level).acked = some pn → pn ≤ largest) :
    OnlyPackets c (c.handleAck level largest 0 largest []) ∧
      ∀ level', (c.handleAck level largest 0 largest []).ledger level' =
        if level' = level then
          { c.ledger level' with acked := some (larger (c.ledger level').acked largest) }
        else c.ledger level' := by
  obtain ⟨hsent, hlarg⟩ := onAck_all c.recovery level largest c.now
  obtain ⟨sentFrames, trace, hforgot⟩ := foldl_forgetAcked
    { c with recovery := (c.recovery.onAck level largest largest [] 0 c.now).1 }
  obtain ⟨hnone, hsame⟩ := @detectLost_none (c.recovery.onAck level largest largest [] 0 c.now).1
    level c.now largest hsent (by
      intro pn hpn
      rw [hlarg, if_pos rfl] at hpn
      rw [← Option.some.inj hpn]
      exact Ledger.larger_le hacked (le_rfl))
  have heq : c.handleAck level largest 0 largest [] = { c with
      recovery := ((c.recovery.onAck level largest largest [] 0 c.now).1.detectLost level c.now).1
      sentFrames := sentFrames
      trace := trace } := by
    unfold handleAck
    dsimp only
    rw [hforgot]
    unfold detectLost
    dsimp only
    rw [hnone]
    rfl
  rw [heq]
  refine ⟨⟨_, _, _, _, rfl, fun _ => rfl⟩, fun level' => ?_⟩
  unfold ledger
  rw [hsame, hlarg]
  split <;> rfl

section
variable [DecidableEq κ]
variable {own peer : Conn τ κ}

lemma recvOne_headerFor (hkey : peer.rxKeys.get level = some key) {pn : Nat} {body : Sealed κ} :
    peer.recvOne e (.whole (own.headerFor level pn) false body) =
      peer.decryptAndHandle (own.headerFor level pn) false body := by
  have hver : ¬version1 ≠ version1 := fun h => h rfl
  cases level with
  | data => rfl
  | handshake => exact recvOne_of_adopted hver (if_neg fun h => (by cases h.2.1))
  | initial =>
    refine recvOne_of_adopted hver (if_neg fun h => ?_)
    rw [hkey] at h
    cases h.2.2

lemma recvOne_ackPacket (e : Engine τ κ) (hkey : peer.rxKeys.get level = some key)
    (hdec : decodePacketNumber ((peer.ledger level).received.getD 0)
      (encodePacketNumber (own.ledger level).next) = (own.ledger level).next)
    (hacked : ∀ pn, (peer.ledger level).acked = some pn → pn ≤ largest) :
    ∃ peer', peer.recvOne e (own.ackPacket level key largest) = (peer', .ok ()) ∧
      OnlyPackets peer peer' ∧
      ∀ level', peer'.ledger level' =
        if level' = level then (peer.ledger level').get (own.ledger level).next largest
        else peer.ledger level' := by
  have hopnd : peer.recvOne e (own.ackPacket level key largest) =
      ((peer.markReceived level (own.ledger level).next).handleAck level largest 0 largest [],
        .ok ()) := by
    unfold ackPacket
    generalize (own.ledger level).next = pn at hdec
    rw [recvOne_headerFor hkey]
    have hlevel : (own.headerFor level pn).level = level := by cases level <;> rfl
    have hpn : (own.headerFor level pn).pn = encodePacketNumber pn := by cases level <;> rfl
    have hnum : decodePacketNumber ((peer.spaces.get level).largestRecv.getD 0)
        (encodePacketNumber pn) = pn := hdec
    unfold decryptAndHandle
    dsimp only
    rw [hlevel, hkey]
    dsimp only
    rw [if_neg Bool.false_ne_true, hpn, hnum, Sealed.openWith, if_pos ⟨rfl, rfl, rfl⟩]
    rfl
  have hmarked : OnlyPackets peer (peer.markReceived level (own.ledger level).next) := by
    refine ⟨_, _, _, _, rfl, fun level' => ?_⟩
    rw [get_set]
    split
    · next heq => rw [heq]
    · rfl
  have hledg : ∀ level', (peer.markReceived level (own.ledger level).next).ledger level' =
      if level' = level then { peer.ledger level' with
        received := some (larger (peer.ledger level').received (own.ledger level).next)
        due := true }
      else peer.ledger level' := by
    intro level'
    unfold markReceived ledger
    rw [get_set]
    split
    · next heq => rw [heq]; rfl
    · rfl
  obtain ⟨honly, hafter⟩ := @handleAck_all _ _ (peer.markReceived level (own.ledger level).next)
    level largest (by
      intro pn hpn
      exact hacked pn hpn)
  refine ⟨_, hopnd, hmarked.trans honly, fun level' => ?_⟩
  rw [hafter, hledg]
  split <;> rfl

lemma recvPass_answers {ls : List Level} (hls : ls.Nodup)
    (hkeys : ∀ level key, own.txKeys.get level = some key → peer.rxKeys.get level = some key)
    (hfoll : ∀ level ∈ ls, (own.ledger level).Follows (peer.ledger level) ∧
      (peer.ledger level).Follows (own.ledger level)) :
    ∃ peer' taken, peer.recvPass e (ls.flatMap own.answers) = (peer', .ok ([], taken)) ∧
      OnlyPackets peer peer' ∧
      ∀ level, peer'.ledger level =
        if level ∈ ls ∧ own.owes level = true then
          (peer.ledger level).get (own.ledger level).next ((own.ledger level).received.getD 0)
        else peer.ledger level := by
  induction ls generalizing peer with
  | nil => exact ⟨peer, false, rfl, .refl peer, fun level => by rw [if_neg fun h => not_mem_nil h.1]⟩
  | cons first rest ih =>
    obtain ⟨hfirst, hrest⟩ := nodup_cons.mp hls
    obtain ⟨⟨hown, hpeer⟩, hoths⟩ := forall_mem_cons.mp hfoll
    rw [flatMap_cons]
    by_cases howes : own.owes first = true
    · obtain ⟨key, largest, hkey, hdue, hlarg⟩ := owes_iff.mp howes
      obtain ⟨peer₁, hone, honly, hledg⟩ := recvOne_ackPacket e (hkeys first key hkey) hown.decodes
        (fun pn hpn => by
          obtain ⟨before, hbef, hle⟩ := hpeer.acked pn hpn
          rw [hlarg] at hbef
          exact Option.some.inj hbef ▸ hle)
      have hsame : ∀ level ∈ rest, peer₁.ledger level = peer.ledger level := by
        intro level hlevel
        rw [hledg, if_neg]
        rintro rfl
        exact hfirst hlevel
      have hkeys' : ∀ level key, own.txKeys.get level = some key →
          peer₁.rxKeys.get level = some key := by
        obtain ⟨_, _, _, _, rfl, -⟩ := honly
        exact hkeys
      obtain ⟨peer₂, taken, hpass, honly', hledg'⟩ := ih hrest hkeys' (fun level hlevel => by
        rw [hsame level hlevel]
        exact hoths level hlevel)
      rw [answers_of_owes hkey hdue hlarg, singleton_append]
      refine ⟨peer₂, true, ?_, honly.trans honly', fun level => ?_⟩
      · rw [recvPass_taken _ (by rw [hone]), hone, hpass]
        rfl
      · rw [hledg', hledg]
        by_cases heq : level = first
        · subst heq
          rw [if_neg fun h => hfirst h.1, if_pos rfl, if_pos ⟨mem_cons_self, howes⟩, hlarg]
          rfl
        · simp only [heq, mem_cons, false_or, if_false]
    · obtain ⟨peer₁, taken, hpass, honly, hledg⟩ := ih hrest hkeys hoths
      rw [answers_of_not_owes howes]
      refine ⟨peer₁, taken, hpass, honly, fun level => ?_⟩
      rw [hledg]
      by_cases heq : level = first
      · subst heq
        rw [if_neg fun h => howes h.2, if_neg fun h => howes h.2]
      · simp only [mem_cons, heq, false_or]

lemma AtRest.recv_answers (h : AtRest e peer)
    (hkeys : ∀ level key, own.txKeys.get level = some key → peer.rxKeys.get level = some key)
    (hfoll : ∀ level, (own.ledger level).Follows (peer.ledger level) ∧
      (peer.ledger level).Follows (own.ledger level)) :
    ∃ peer', peer.recv e (.ok (levels.flatMap own.answers)) = (peer', .ok ()) ∧
      OnlyPackets peer peer' ∧
      ∀ level, peer'.ledger level =
        if own.owes level = true then
          (peer.ledger level).get (own.ledger level).next ((own.ledger level).received.getD 0)
        else peer.ledger level := by
  obtain ⟨peer', taken, hpass, honly, hledg⟩ := recvPass_answers
    (show levels.Nodup by decide) hkeys fun level _ => hfoll level
  refine ⟨peer', ?_, honly, fun level => ?_⟩
  · show recvLoop e _ peer _ = _
    rw [recvLoop_passed _ hpass, if_neg fun hgoes => hgoes.2.1 rfl, (h.onlyPackets honly).pumpTls]
  · have hlevel : level ∈ levels := by cases level <;> decide
    rw [hledg]
    simp only [hlevel, true_and]

def Owing (c : Conn τ κ) : Prop := ∃ level, c.owes level = true

lemma flatMap_answers_eq_nil : levels.flatMap c.answers = [] ↔ ¬c.Owing := by
  rw [flatMap_eq_nil_iff]
  constructor
  · rintro h ⟨level, howes⟩
    obtain ⟨key, largest, hkey, hdue, hlarg⟩ := owes_iff.mp howes
    have hnil := h level (by cases level <;> decide)
    rw [answers_of_owes hkey hdue hlarg] at hnil
    cases hnil
  · exact fun h level _ => answers_of_not_owes fun howes => h ⟨level, howes⟩

end
end
end Conn

/-! ## The exchange -/

namespace Exchange
variable {τ κ : Type} [DecidableEq κ]

def sends (e : Side → Engine τ κ) (pair : Side → Conn τ κ) (side : Side) :
    Option (Option (List (Packet κ))) :=
  ((pair side).pollTransmit (e side)).map Prod.snd

def turn (e : Side → Engine τ κ) (pair : Side → Conn τ κ) (side : Side) : Side → Conn τ κ :=
  match (pair side).pollTransmit (e side) with
  | none => pair
  | some (c, none) => update pair side c
  | some (c, some datagram) =>
    update (update pair side c) side.other
      ((pair side.other).recv (e side.other) (.ok datagram)).1

/-- The ends take turns, and at some time neither has anything to send. -/
inductive Ends (e : Side → Engine τ κ) : (Side → Conn τ κ) → Side → Prop
  | silent {pair : Side → Conn τ κ} {side : Side} (own : sends e pair side = some none)
      (other : sends e (turn e pair side) side.other = some none) : Ends e pair side
  | turn {pair : Side → Conn τ κ} {side : Side} (later : Ends e (turn e pair side) side.other) :
      Ends e pair side

/-- Two connections with nothing left to send, which can read each other. -/
structure Quiet (e : Side → Engine τ κ) (pair : Side → Conn τ κ) : Prop where
  rest : ∀ side, (pair side).AtRest (e side)
  keys : ∀ side level key, (pair side).txKeys.get level = some key →
    (pair side.other).rxKeys.get level = some key ∧ ((pair side.other).txKeys.get level).isSome
  follows : ∀ side level, ((pair side).ledger level).Follows ((pair side.other).ledger level)

section
variable {pair pair' : Side → Conn τ κ}

lemma Quiet.onlyPackets (h : Quiet e pair)
    (honly : ∀ side, Conn.OnlyPackets (pair side) (pair' side))
    (hfoll : ∀ side level, ((pair' side).ledger level).Follows ((pair' side.other).ledger level)) :
    Quiet e pair' := by
  refine ⟨fun side => (h.rest side).onlyPackets (honly side), fun side level key hkey => ?_, hfoll⟩
  have hown : (pair' side).txKeys = (pair side).txKeys := by
    obtain ⟨_, _, _, _, heq, -⟩ := honly side
    rw [heq]
  have hother : (pair' side.other).txKeys = (pair side.other).txKeys ∧
      (pair' side.other).rxKeys = (pair side.other).rxKeys := by
    obtain ⟨_, _, _, _, heq, -⟩ := honly side.other
    rw [heq]
    exact ⟨rfl, rfl⟩
  rw [hother.1, hother.2]
  exact h.keys side level key (hown ▸ hkey)

lemma Quiet.silent (h : Quiet e pair) {side : Side} (howing : ¬(pair side).Owing) :
    sends e pair side = some none ∧ Quiet e (turn e pair side) ∧
      ∀ side', (turn e pair side side').Owing ↔ (pair side').Owing := by
  obtain ⟨c, hpoll, honly, hledg⟩ := (h.rest side).pollTransmit
  rw [flatMap_answers_eq_nil.mpr howing] at hpoll
  have hsame : ∀ level, c.ledger level = (pair side).ledger level := by
    intro level
    rw [hledg, if_neg fun howes => howing ⟨level, howes⟩]
  have hturn : turn e pair side = update pair side c := by
    unfold turn
    rw [hpoll]
    rfl
  have honly' : ∀ side', Conn.OnlyPackets (pair side') (turn e pair side side') := by
    intro side'
    rw [hturn]
    by_cases heq : side' = side
    · rw [heq, update_self]
      exact honly
    · rw [update_of_ne heq]
      exact .refl _
  have hled : ∀ side' level,
      (turn e pair side side').ledger level = (pair side').ledger level := by
    intro side' level
    rw [hturn]
    by_cases heq : side' = side
    · rw [heq, update_self, hsame]
    · rw [update_of_ne heq]
  refine ⟨by unfold sends; rw [hpoll]; rfl, h.onlyPackets honly' fun side' level => ?_, fun side' => ?_⟩
  · rw [hled, hled]
    exact h.follows side' level
  · exact exists_congr fun level => by rw [((honly' side').answers (hled side' level)).2]

lemma Quiet.answered (h : Quiet e pair) {side : Side} (howing : (pair side).Owing) :
    sends e pair side = some (some (levels.flatMap (pair side).answers)) ∧
      Quiet e (turn e pair side) ∧ (turn e pair side side.other).Owing := by
  obtain ⟨c, hpoll, honly, hledg⟩ := (h.rest side).pollTransmit
  have hne : (levels.flatMap (pair side).answers).isEmpty = false :=
    isEmpty_eq_false_iff.mpr fun hnil => flatMap_answers_eq_nil.mp hnil howing
  rw [hne, if_neg Bool.false_ne_true] at hpoll
  have hfoll : ∀ level, ((pair side).ledger level).Follows ((pair side.other).ledger level) ∧
      ((pair side.other).ledger level).Follows ((pair side).ledger level) := by
    intro level
    have hback := h.follows side.other level
    rw [Side.other_other] at hback
    exact ⟨h.follows side level, hback⟩
  obtain ⟨d, hrecv, honly', hledg'⟩ := (h.rest side.other).recv_answers
    (fun level key hkey => (h.keys side level key hkey).1) hfoll
  have hturn : turn e pair side =
      update (update pair side c) side.other d := by
    unfold turn
    rw [hpoll]
    dsimp only
    rw [hrecv]
  have hown : turn e pair side side = c := by
    rw [hturn, update_of_ne side.other_ne.symm, update_self]
  have hother : turn e pair side side.other = d := by
    rw [hturn, update_self]
  -- level by level, the two still follow each other
  have hfoll' : ∀ level, (c.ledger level).Follows (d.ledger level) ∧
      (d.ledger level).Follows (c.ledger level) := by
    intro level
    rw [hledg, hledg']
    by_cases howes : (pair side).owes level = true
    · obtain ⟨_, largest, -, -, hlarg⟩ := owes_iff.mp howes
      rw [if_pos howes, if_pos howes, hlarg]
      exact (hfoll level).1.answer (hfoll level).2 hlarg
    · rw [if_neg howes, if_neg howes]
      exact hfoll level
  refine ⟨by unfold sends; rw [hpoll]; rfl, h.onlyPackets (fun side' => ?_) fun side' level => ?_, ?_⟩
  · rcases side.eq_or_eq_other side' with rfl | rfl
    · rw [hown]
      exact honly
    · rw [hother]
      exact honly'
  · rcases side.eq_or_eq_other side' with rfl | rfl
    · rw [hown, hother]
      exact (hfoll' level).1
    · rw [Side.other_other, hown, hother]
      exact (hfoll' level).2
  · obtain ⟨level, howes⟩ := howing
    obtain ⟨key, largest, hkey, -, -⟩ := owes_iff.mp howes
    obtain ⟨-, hsome⟩ := h.keys side level key hkey
    obtain ⟨key', hkey'⟩ := Option.isSome_iff_exists.mp hsome
    have htx : d.txKeys = (pair side.other).txKeys := by
      obtain ⟨_, _, _, _, heq, -⟩ := honly'
      rw [heq]
    rw [hother]
    have hafter := hledg' level
    rw [if_pos howes] at hafter
    exact ⟨level, owes_iff.mpr ⟨key', _, by rw [htx, hkey'], by rw [hafter]; rfl,
      by rw [hafter]; rfl⟩⟩

end

lemma Quiet.ends_iff {pair} {e : Side → Engine τ κ} (hquiet : Quiet e pair)
    (side : Side) : Ends e pair side ↔ ∀ side', ¬(pair side').Owing := by
  refine ⟨fun hends => ?_, fun hnone => ?_⟩
  · induction hends with
    | @silent pair side hown hother =>
      have hsil : ¬(pair side).Owing := by
        intro howing
        rw [(hquiet.answered howing).1] at hown
        cases hown
      obtain ⟨-, hquiet', hsame⟩ := hquiet.silent hsil
      have hsil' : ¬(turn e pair side side.other).Owing := by
        intro howing
        rw [(hquiet'.answered howing).1] at hother
        cases hother
      intro side'
      rcases side.eq_or_eq_other side' with rfl | rfl
      · exact hsil
      · exact fun howing => hsil' ((hsame _).mpr howing)
    | @turn pair side later ih =>
      by_cases howing : (pair side).Owing
      · obtain ⟨-, hquiet', howin'⟩ := hquiet.answered howing
        exact absurd howin' (ih hquiet' side.other)
      · obtain ⟨-, hquiet', hsame⟩ := hquiet.silent howing
        exact fun side' howin' => ih hquiet' side' ((hsame side').mpr howin')
  · obtain ⟨hown, hquiet', hsame⟩ := hquiet.silent (hnone side)
    exact .silent hown (hquiet'.silent fun howing => hnone _ ((hsame _).mp howing)).1

/-- Two connections with nothing left to send take turns for ever, unless no
acknowledgement is due at either end from the start.  What they send are
acknowledgements, and each makes the next one due. -/
theorem ends_iff_nothing_owed (e : Side → Engine τ κ) (pair : Side → Conn τ κ)
    (hquiet : Quiet e pair) (side : Side) :
    (Ends e pair side ↔ ∀ side', ¬(pair side').Owing) ∧
      ((pair side).Owing → ∃ datagram answer, sends e pair side = some (some datagram) ∧
        (∀ packet ∈ datagram, ∃ largest, packet.frames = [.ack largest 0 largest []]) ∧
        sends e (turn e pair side) side.other = some (some answer)) := by
  refine ⟨hquiet.ends_iff side, fun howing => ?_⟩
  obtain ⟨hsends, hquiet', howin'⟩ := hquiet.answered howing
  refine ⟨_, _, hsends, fun packet hpkt => ?_, (hquiet'.answered howin').1⟩
  obtain ⟨level, -, hansw⟩ := mem_flatMap.mp hpkt
  by_cases howes : (pair side).owes level = true
  · obtain ⟨key, largest, hkey, hdue, hlarg⟩ := owes_iff.mp howes
    rw [answers_of_owes hkey hdue hlarg] at hansw
    rw [mem_singleton.mp hansw]
    exact ⟨largest, rfl⟩
  · rw [answers_of_not_owes howes] at hansw
    cases hansw

/-! ## A handshake -/

def helloPair : Side → Engine Bool Nat
  | .client => .instant [1] 1 2
  | .server => { Engine.instant [2] 2 1 with initialKeys := fun _ => .ok (1, 2) }

def handshake : List (Move Nat) :=
  [.call .client .poll Input.poll_own, .deliver .server 0,
    .call .server (.sendDatagram [9]) rfl, .call .server .poll Input.poll_own, .deliver .client 0]

def after (moves : List (Move Nat)) : Side → Conn Bool Nat :=
  (run (Peers.step helloPair) Peers.newPair moves).1.conn

def restTest (c : Conn Bool Nat) : Bool :=
  !c.closed && !c.isFirst && c.closePending.isNone &&
    decide (c.recvWindow < (c.recvFc.limit - c.recvFc.used) * 2) && c.retransmit.isEmpty &&
    c.streams.sendable.isEmpty && c.datagrams.outgoing.isEmpty && !c.sendHandshakeDone && c.tls &&
    c.peerParams.isSome && c.handshakeConfirmed &&
    levels.all fun level =>
      (c.spaces.get level).crypto.tx.isEmpty && (c.spaces.get level).crypto.rxBuf.entries.isEmpty

lemma atRest_of_restTest (h : restTest c = true) (side : Side) : c.AtRest (helloPair side) := by
  simp only [restTest, Bool.and_eq_true, Bool.not_eq_true', Option.isNone_iff_eq_none,
    List.isEmpty_iff, all_eq_true, decide_eq_true_eq] at h
  obtain ⟨⟨⟨⟨⟨⟨⟨⟨⟨⟨⟨hopen, hfirst⟩, hclose⟩, hcred⟩, hlost⟩, hstrs⟩, hdgrams⟩, hdone⟩, htls⟩,
    hprms⟩, hconf⟩, hcryp⟩ := h
  have hlevel : ∀ level, level ∈ levels := fun level => by cases level <;> decide
  refine ⟨hopen, hfirst, hclose, hcred, hlost, hstrs, hdgrams,
    fun level => (hcryp level (hlevel level)).1,
    fun level => CryptoStream.drained_of_empty (hcryp level (hlevel level)).2, hdone, ?_,
    .inl ?_, fun _ => hconf⟩
  · rw [htls]
    cases side <;> rfl
  · exact Option.isSome_iff_ne_none.mp hprms

def linkTest (own peer : Conn Bool Nat) : Bool :=
  levels.all fun level =>
    decide (peer.rxKeys.get level = own.txKeys.get level) &&
      ((peer.txKeys.get level).isSome == (own.txKeys.get level).isSome) &&
      decide (decodePacketNumber ((peer.ledger level).received.getD 0)
        (encodePacketNumber (own.ledger level).next) = (own.ledger level).next) &&
      (peer.ledger level).received.all (fun pn => decide (pn < (own.ledger level).next)) &&
      (own.ledger level).acked.all fun pn =>
        (peer.ledger level).received.any fun largest => decide (pn ≤ largest)

lemma quiet_of_tests {pair} (hrest : ∀ side, restTest (pair side) = true)
    (hlink : ∀ side, linkTest (pair side) (pair side.other) = true) : Quiet helloPair pair := by
  have hlevel : ∀ level, level ∈ levels := fun level => by cases level <;> decide
  refine ⟨fun side => atRest_of_restTest (hrest side) side, fun side level key hkey => ?_,
    fun side level => ?_⟩
  all_goals
    have hfacts := all_eq_true.mp (hlink side) level (hlevel level)
    simp only [Bool.and_eq_true, decide_eq_true_eq, beq_iff_eq, Option.all_eq_true,
      Option.any_eq_true] at hfacts
    obtain ⟨⟨⟨⟨hrx, htx⟩, hdec⟩, hsent⟩, hacked⟩ := hfacts
  · exact ⟨hrx.trans hkey, htx.trans (by rw [hkey]; rfl)⟩
  · exact ⟨hdec, fun pn hpn => hsent pn hpn, fun pn hpn => hacked pn hpn⟩

/-- The acknowledgement of the client is lost: no more is due, and the turns end. -/
theorem ends_after_lost_ack :
    let pair := after (handshake ++ [.call .client .poll rfl])
    (pair .client).isEstablished (helloPair .client) = true ∧
      (pair .server).isEstablished (helloPair .server) = true ∧ Ends helloPair pair .client := by
  intro pair
  have hquiet : Quiet helloPair pair := quiet_of_tests (fun side => by cases side <;> decide +kernel)
    fun side => by cases side <;> decide +kernel
  refine ⟨by decide +kernel, by decide +kernel,
    (ends_iff_nothing_owed helloPair pair hquiet .client).1.mpr ?_⟩
  have hnone : ∀ side ∈ [Side.client, .server], ∀ level ∈ levels, (pair side).owes level = false := by
    decide +kernel
  rintro side ⟨level, howes⟩
  rw [hnone side (by cases side <;> decide) level (by cases level <;> decide)] at howes
  cases howes

/-- After the handshake the client owes an acknowledgement, and the turns never end. -/
theorem acks_never_end :
    let pair := after handshake
    (pair .client).isEstablished (helloPair .client) = true ∧
      (pair .server).isEstablished (helloPair .server) = true ∧ Quiet helloPair pair ∧
      ¬Ends helloPair pair .client := by
  intro pair
  have hquiet : Quiet helloPair pair := quiet_of_tests (fun side => by cases side <;> decide +kernel)
    fun side => by cases side <;> decide +kernel
  refine ⟨by decide +kernel, by decide +kernel, hquiet, fun hends => ?_⟩
  exact (hquiet.ends_iff .client).mp hends .client ⟨.data, by decide +kernel⟩

end Exchange
end MeshBus.Quic
