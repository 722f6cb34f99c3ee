import MeshBus.Quic.Acks
import MeshBus.Quic.Limits
import Mathlib.Algebra.Order.BigOperators.Group.List
import Mathlib.Algebra.Order.Group.Nat

/-!
# Two endpoints and the network between them

Every datagram that an endpoint has sent may arrive at the other, at any time and any
number of times, or never.  The receiver counts the octets of every STREAM frame that
arrives against its limit, also of one that it has counted before; the sender counts
new octets only.
-/

namespace MeshBus.Quic

open Lib List Frame Prod Function Side

/-! ## The system -/

def Side.other : Side → Side
  | .client => .server
  | .server => .client

lemma Side.eq_or_eq_other (side side' : Side) : side' = side ∨ side' = side.other := by
  cases side <;> cases side' <;> decide

@[simp] lemma Side.other_other (side : Side) : side.other.other = side := by
  cases side <;> rfl

lemma Side.other_ne (side : Side) : side.other ≠ side := by
  cases side <;> decide

def Input.isRecv {κ : Type} : Input κ → Bool
  | .recv _ => true
  | _ => false

def Output.datagrams {κ : Type} : Output κ → List (List (Packet κ))
  | .transmit (some packets) => [packets]
  | _ => []

lemma Input.poll_own : (.poll : Input κ).isRecv = false := rfl

/-- The endpoints, and all datagrams that each has sent so far. -/
structure Peers (τ κ : Type) where
  conn : Side → Conn τ κ
  sent : Side → List (List (Packet κ))

/-- An endpoint is called, or the network delivers a datagram to it. -/
inductive Move (κ : Type) where
  | call (side : Side) (input : Input κ) (own : input.isRecv = false)
  | deliver (side : Side) (index : Nat)

/-- What `recv` says when a STREAM frame does not fit in the credit. -/
def exceeded : Error := .transport "connection flow control exceeded"

/-- A call of `recv` that says so. -/
def Output.exceeds {κ : Type} : Output κ → Bool
  | .processed (.error err) => decide (err = exceeded)
  | _ => false

namespace Peers
variable {τ κ : Type} [DecidableEq κ]

def act (e : Side → Engine τ κ) (p : Peers τ κ) (side : Side) (input : Input κ) :
    Peers τ κ × Output κ :=
  let next := (p.conn side).step (e side) input
  ({ conn := update p.conn side next.1
     sent := update p.sent side (p.sent side ++ next.2.datagrams) }, next.2)

def step (e : Side → Engine τ κ) (p : Peers τ κ) : Move κ → Peers τ κ × Output κ
  | .call side input _ => p.act e side input
  | .deliver side index =>
    match (p.sent side.other)[index]? with
    | some packets => p.act e side (.recv (.ok packets))
    | none => (p, .done)

/-- Two new endpoints, and nothing on the way. -/
def Starts (e : Side → Engine τ κ) (p : Peers τ κ) : Prop :=
  ∀ side, (p.conn side).Starts (e side) ∧ p.sent side = []

end Peers

/-! ## Octets that are counted once -/

def Frame.hasData (frame : Frame) : Bool := decide (0 < frame.streamLen)

lemma octets_filter_hasData {frames : List Frame} :
    octets (frames.filter hasData) = octets frames := by
  induction frames with
  | nil => rfl
  | cons frame rest ih =>
    have hsum : octets (frame :: rest) = frame.streamLen + octets rest := sum_cons
    cases hdata : frame.hasData with
    | true =>
      rw [filter_cons_of_pos hdata, hsum, ← ih]
      exact sum_cons
    | false =>
      have hzero : frame.streamLen = 0 := by simpa [hasData] using hdata
      rw [filter_cons_of_neg (Bool.eq_false_iff.mp hdata), hsum, ih, hzero, zero_add]

lemma octets_le_of_nodup (hnodup : (frames.filter hasData).Nodup)
    (hsub : frames.filter hasData ⊆ frames') : octets frames ≤ octets frames' := by
  obtain ⟨among, hperm, hsubl⟩ := subperm_of_subset hnodup hsub
  calc octets frames = octets (frames.filter hasData) := octets_filter_hasData.symm
    _ = octets among := ((hperm.map _).sum_eq).symm
    _ ≤ octets frames' := (hsubl.map _).sum_le_sum fun _ _ => Nat.zero_le _

namespace Conn
variable {τ κ : Type}

open Account (Credit Settled)

/-! ## The limit of a receiver -/

variable {c c' : Conn τ κ} {e : Engine τ κ} {level : Level} {frames : List Frame}

lemma recvLimit_gathers (h : Credit c.account)
    (hgath : Gathers c level d frames) : c.recvFc.limit ≤ d.recvFc.limit := by
  cases hgath with
  | control _ same _ =>
    exact le_of_eq (congrArg (fun a => a.recvFc.limit) same).symm
  | app _ _ same _ =>
    have hsame : d.recvFc = (c.recvFc.maybeExtend c.recvWindow).1 :=
      congrArg Account.recvFc (same.trans c.account_appFrames)
    rw [hsame]
    exact (c.recvFc.maybeExtend_spec c.recvWindow h.received_le).2.1

lemma recvLimit_buildPacket (h : Credit c.account)
    (hbuilt : c.buildPacket level = some (c', packets)) : c.recvFc.limit ≤ c'.recvFc.limit := by
  refine @buildPacket_invariant _ _ (fun d => c.recvFc.limit ≤ d.recvFc.limit) _ _ _ _ hbuilt
    (le_rfl) (fun _ _ hgath _ => recvLimit_gathers h hgath) ?_
  intro d frames size closing hgath
  exact le_trans (recvLimit_gathers h hgath) (Nat.le_refl d.recvFc.limit)

lemma recvLimit_step [DecidableEq κ] (e : Engine τ κ) (c : Conn τ κ) (i : Input κ)
    (h : Credit c.account) : c.recvFc.limit ≤ (c.step e i).1.recvFc.limit := by
  have hinv := @step_invariant _ _ _
    (fun d => Credit d.account ∧ c.recvFc.limit ≤ d.recvFc.limit) e c i
    (fun _ _ hc => ⟨⟨hc.1.sent, hc.1.sent_le, hc.1.received, hc.1.received_le⟩, hc.2⟩)
    (fun _ _ _ hc => ⟨credit_of_noted hc.1 (.of_event rfl ⟨rfl, rfl⟩) rfl rfl, hc.2⟩)
    (fun _ hc => ⟨⟨hc.1.sent, hc.1.sent_le, hc.1.received, hc.1.received_le⟩, hc.2⟩)
    (fun _ _ hact hc => ⟨credit_act hact hc.1, by rw [(recvFc_act_le hact).1]; exact hc.2⟩)
    (fun _ _ _ _ hbuilt hc => ⟨credit_buildPacket hc.1 hbuilt,
      le_trans hc.2 (recvLimit_buildPacket hc.1 hbuilt)⟩) ⟨h, le_rfl⟩
  exact hinv.2

/-! ## The limit of a sender -/

/-- The limits that a connection gets to know are within a bound. -/
structure Bounded (bound : Nat) (e : Engine τ κ) (allowed : Level → Frame → Prop) : Prop where
  frames : ∀ level max, allowed level (.maxData max) → max ≤ bound
  params : ∀ tls peer, e.peerTransportParameters tls = some (.ok peer) →
    peer.initialMaxData ≤ bound

lemma sendLimit_act
    (hbound : Bounded bound e allowed) (h : Act e allowed c c') (hc : c.sendFc.limit ≤ bound) :
    c'.sendFc.limit ≤ bound := by
  cases h with
  | quiet same =>
    rwa [show c'.sendFc = c.sendFc from congrArg Account.sendFc same]
  | adopt params first offered =>
    cases params with
    | error err => exact hc
    | ok peer =>
      obtain ⟨tls, hpeer⟩ := offered
      show (c.sendFc.setLimit peer.initialMaxData).limit ≤ bound
      rw [(c.sendFc.setLimit_spec _).2]
      exact Nat.max_le.mpr ⟨hc, hbound.params tls peer hpeer⟩
  | received level pn => exact hc
  | frame level frame ok =>
    cases frame with
    | ack largest delay firstRange ranges =>
      rwa [show (c.handleFrame level (.ack largest delay firstRange ranges)).1.sendFc = c.sendFc
        from @handleAck_same _ _ _ (fun c => c.sendFc) (fun _ _ => rfl) (fun _ _ _ => rfl)
          (fun _ _ _ => rfl) c level largest delay firstRange ranges]
    | stream id offset fin data =>
      rcases c.handleFrame_stream level id offset fin data with
        ⟨-, heq⟩ | ⟨fc, -, ⟨-, heq⟩ | ⟨-, heq⟩⟩
      all_goals
        rw [heq]
        exact hc
    | maxData max =>
      show (c.sendFc.setLimit max).limit ≤ bound
      rw [(c.sendFc.setLimit_spec max).2]
      exact Nat.max_le.mpr ⟨hc, hbound.frames level max ok⟩
    | handshakeDone =>
      unfold handleFrame
      dsimp only
      split <;> exact hc
    | _ => exact hc
  | lost level =>
    rwa [show (c.detectLost level).1.sendFc = c.sendFc from @detectLost_same _ _ _
      (fun c => c.sendFc) (fun _ _ => rfl) (fun _ _ _ => rfl) c level]

lemma sendLimit_step [DecidableEq κ] (hbound : Bounded bound e (Brings i))
    (hc : c.sendFc.limit ≤ bound) : (c.step e i).1.sendFc.limit ≤ bound := by
  refine @step_invariant _ _ _ (fun c => c.sendFc.limit ≤ bound) e c i (fun _ _ hc => hc)
    (fun _ _ _ hc => hc) (fun _ hc => hc) (fun _ _ => sendLimit_act hbound) ?_ hc
  intro c c' level packets hbuilt hc
  rw [sendLimit_buildPacket hbuilt]
  exact hc

/-! ## Packets that were sent -/

/-- A packet says what its sender stands for: the STREAM frames in it were made of
queued data, and no limit in it is above that of the sender. -/
structure Honest (c : Conn τ κ) (packet : Packet κ) : Prop where
  plain : PlainPacket (fun err => err ≠ exceeded) packet
  streams : ∀ frame ∈ packet.frames, frame.isStream = true → frame ∈ produced c.trace
  limits : ∀ max, .maxData max ∈ packet.frames → max ≤ c.recvFc.limit

lemma Honest.mono (h : Honest c packet)
    (hprod : produced c.trace ⊆ produced c'.trace) (hlimit : c.recvFc.limit ≤ c'.recvFc.limit) :
    Honest c' packet where
  plain := h.plain
  streams frame hframe hstr := hprod (h.streams frame hframe hstr)
  limits max hmax := le_trans (h.limits max hmax) hlimit

lemma maxData_gathers (hcred : Credit c.account)
    (hresend : Resendable c.account) (hgath : Gathers c level d frames) {max : Nat}
    (hmax : .maxData max ∈ frames) : max ≤ d.recvFc.limit := by
  cases hgath with
  | control _ _ ok => exact (ok _ hmax).elim
  | app _ _ same ok =>
    have hsame : d.recvFc = (c.recvFc.maybeExtend c.recvWindow).1 :=
      congrArg Account.recvFc (same.trans c.account_appFrames)
    rcases mem_append.mp hmax with hmax | hafter
    · rcases mem_append.mp hmax with hbef | happ
      · exact (ok _ (mem_append_left _ hbef)).elim
      · rw [appFrames_snd, mem_append, mem_append, mem_append] at happ
        rcases happ with ((hcredited | hagain) | hfresh) | hdgram
        · obtain ⟨limit, hlimit, heq⟩ := mem_map.mp hcredited
          obtain rfl := maxData.inj heq
          have hspec := (c.recvFc.maybeExtend_spec c.recvWindow hcred.received_le).2.2
          rw [hsame]
          exact le_of_eq (hspec limit (Option.mem_toList.mp hlimit))
        · obtain ⟨lost, hlost, heq⟩ := mem_map.mp hagain
          have hkept := hresend lost hlost
          rw [heq] at hkept
          cases hkept
        · cases c.fresh_produces.streams _ hfresh
        · obtain ⟨data, -, heq⟩ := mem_map.mp hdgram
          cases heq
    · exact (ok _ (mem_append_right _ hafter)).elim

/-- The parts of a connection that its packets are honest about. -/
structure Fair (c : Conn τ κ) : Prop where
  credit : Credit c.account
  settled : Settled c.account
  resendable : Resendable c.account

lemma fair_buildPacket (h : Fair c) (hbuilt : c.buildPacket level = some (c', packets)) :
    Fair c' :=
  ⟨credit_buildPacket h.credit hbuilt, settled_buildPacket h.settled hbuilt,
    resendable_buildPacket h.resendable hbuilt⟩

lemma fair_act (hact : Act e allowed c c') (h : Fair c) : Fair c' :=
  ⟨credit_act hact h.credit, settled_act hact h.settled, resendable_act hact h.resendable⟩

lemma fair_step [DecidableEq κ] (h : Fair c) : Fair (c.step e i).1 :=
  ⟨credit_step e c i h.credit, settled_step e c i h.settled, resendable_step e c i h.resendable⟩

lemma honest_buildPacket (h : Fair c) (hbuilt : c.buildPacket level = some (c', packets)) :
    ∀ packet ∈ packets, Honest c' packet := by
  have hstrs := streams_buildPacket h.settled hbuilt
  rcases buildPacket_cases hbuilt with
    ⟨-, -, rfl⟩ | ⟨-, ⟨-, -, rfl⟩ | ⟨-, key, header, _, _, -, rfl, rfl⟩⟩
  · exact forall_mem_nil _
  · exact forall_mem_nil _
  · refine forall_mem_singleton.mpr ⟨fun err herr => (by cases herr), ?_, fun max hmax => ?_⟩
    · intro frame hframe hstr
      refine hstrs (mem_filter.mpr ⟨?_, hstr⟩)
      rw [flatMap_singleton]
      exact hframe
    · refine maxData_gathers h.credit h.resendable (c.gatherFrames_cases level) ?_
      simpa [Packet.frames, Packet.contents] using hmax

lemma honest_buildPackets (h : Fair c)
    (hbuilt : c.buildPackets ls = some (c', packets)) : ∀ packet ∈ packets, Honest c' packet := by
  induction ls generalizing c packets with
  | nil =>
    cases hbuilt
    exact forall_mem_nil _
  | cons level rest ih =>
    obtain ⟨c₁, first, others, hfirst, hoths, rfl⟩ := buildPackets_cons hbuilt
    have hfair := fair_buildPacket h hfirst
    have hlater := @buildPackets_invariant _ _
      (fun d => Fair d ∧ Noted (fun event => event.incoming = false) c₁ d ∧
        c₁.recvFc.limit ≤ d.recvFc.limit)
      (fun _ _ _ _ hone hd => ⟨fair_buildPacket hd.1 hone, hd.2.1.trans (noted_buildPacket hone),
        le_trans hd.2.2 (recvLimit_buildPacket hd.1.credit hone)⟩)
      _ _ _ _ hoths ⟨hfair, .of_eq rfl, le_rfl⟩
    refine forall_mem_append.mpr ⟨fun packet hpkt => ?_, ih hfair hoths⟩
    exact (honest_buildPacket h hfirst packet hpkt).mono (produced_subset hlater.2.1)
      hlater.2.2

lemma honest_step [DecidableEq κ] (h : Fair c) :
    ∀ packets ∈ (c.step e i).2.datagrams, ∀ packet ∈ packets, Honest (c.step e i).1 packet := by
  cases i with
  | poll =>
    unfold step
    cases hpoll : c.pollTransmit e with
    | none => exact forall_mem_nil _
    | some result =>
      obtain ⟨c', datagram⟩ := result
      rcases pollTransmit_cases hpoll with ⟨-, -, rfl⟩ | ⟨d, packets, -, hbuilt, hsame, hsent⟩
      · exact forall_mem_nil _
      · have hprimed : Fair (c.primed e) :=
          @Acts.invariant _ _ e (fun _ _ => True) Fair (fun _ _ => fair_act) _ _
            (acts_primed e c) h
        cases datagram with
        | none => exact forall_mem_nil _
        | some packets' =>
          obtain rfl : packets' = packets := hsent
          refine forall_mem_singleton.mpr fun packet hpkt => ?_
          refine (honest_buildPackets hprimed hbuilt packet hpkt).mono ?_ ?_
          · rw [show c'.trace = d.trace from congrArg Account.trace hsame]
            exact List.Subset.refl _
          · rw [show c'.recvFc = d.recvFc from congrArg Account.recvFc hsame]
  | _ => exact forall_mem_nil _

/-! ## Frames that are counted -/

lemma counted_of_noted (h : Noted (fun event => event.counted? = none) c c') :
    counted c'.trace = counted c.trace :=
  Noted.filterMap h

lemma counted_handleFrame (c : Conn τ κ) {level : Level} :
    counted (c.handleFrame level frame).1.trace = counted c.trace ∨
      counted (c.handleFrame level frame).1.trace = counted c.trace ++ [frame] := by
  cases frame with
  | ack largest delay firstRange ranges =>
    exact .inl (counted_of_noted (noted_handleAck (fun _ _ _ => rfl) (fun _ _ _ => rfl) c level
      largest delay firstRange ranges))
  | stream id offset fin data =>
    rcases c.handleFrame_stream level id offset fin data with ⟨-, heq⟩ | ⟨fc, -, ⟨-, heq⟩ | ⟨-, heq⟩⟩
    · rw [heq]
      exact .inl rfl
    · rw [heq]
      exact .inr (counted_append _ _)
    · rw [heq]
      exact .inr (counted_append _ _)
  | handshakeDone =>
    unfold handleFrame
    dsimp only
    split <;> exact .inl rfl
  | datagram data => exact .inl (counted_of_noted (.of_event rfl rfl))
  | _ => exact .inl rfl

lemma counted_act (h : Act e (fun _ _ => False) c c') : counted c'.trace = counted c.trace := by
  cases h with
  | quiet same => rw [show c'.trace = c.trace from congrArg Account.trace same]
  | adopt params first _ => cases params <;> rfl
  | received level pn => exact counted_of_noted (.of_event rfl rfl)
  | frame level frame ok => exact ok.elim
  | lost level => exact counted_of_noted (noted_detectLost (fun _ _ _ => rfl) c level)

lemma counted_trail (h : Trail e c handled d) :
    ∃ taken, counted d.trace = counted c.trace ++ taken ∧
      List.Sublist taken (handled.map snd) := by
  induction h with
  | refl => exact ⟨[], (append_nil _).symm, .slnil⟩
  | act _ act ih =>
    obtain ⟨taken, htaken, hsub⟩ := ih
    exact ⟨taken, (counted_act act).trans htaken, hsub⟩
  | @frame handled d _ level frame ih =>
    obtain ⟨taken, htaken, hsub⟩ := ih
    rw [map_append]
    rcases d.counted_handleFrame with hsame | hmore
    · exact ⟨taken, hsame.trans htaken, hsub.trans (sublist_append_left _ _)⟩
    · refine ⟨taken ++ [frame], ?_, hsub.append (.refl _)⟩
      rw [hmore, htaken, append_assoc]

/-- What may be counted next: frames that a sender made, none of them twice. -/
structure CountsOnce (o : Conn τ κ) (frames : List Frame) : Prop where
  distinct : (frames.filter hasData).Nodup
  made : ∀ frame ∈ frames, frame.hasData = true → frame ∈ produced o.trace

lemma CountsOnce.of_subperm (h : CountsOnce o frames)
    (hsub : List.Subperm frames' frames) : CountsOnce o frames' := by
  obtain ⟨among, hperm, hsubl⟩ := hsub.filter hasData
  exact ⟨hperm.nodup_iff.mp (h.distinct.sublist hsubl),
    fun frame hframe => h.made frame (hsub.subset hframe)⟩

lemma CountsOnce.octets_le (h : CountsOnce o frames) (ho : Credit o.account) :
    octets frames ≤ o.sendFc.limit := by
  have hmade : octets frames ≤ octets (produced o.trace) := by
    refine octets_le_of_nodup h.distinct fun frame hframe => ?_
    obtain ⟨hmem, hdata⟩ := mem_filter.mp hframe
    exact h.made frame hmem hdata
  exact le_trans hmade (le_trans (le_of_eq ho.sent.symm) ho.sent_le)

lemma countsOnce_trail {o d : Conn τ κ} {offered : List (Level × Frame)}
    (h : CountsOnce o (counted c.trace ++ offered.map snd))
    {handled after : List (Level × Frame)} (htrail : Trail e c handled d)
    (hsub : List.Subperm (handled ++ after) offered) :
    CountsOnce o (counted d.trace ++ after.map snd) := by
  obtain ⟨taken, htaken, hsubl⟩ := counted_trail htrail
  refine h.of_subperm ?_
  rw [htaken, append_assoc]
  have hfrs : List.Subperm ((handled ++ after).map snd) (offered.map snd) := by
    obtain ⟨among, hperm, hamong⟩ := hsub
    exact ⟨among.map snd, hperm.map _, hamong.map _⟩
  rw [map_append] at hfrs
  exact (List.Subperm.refl _).append ((hsubl.append (.refl _)).subperm.trans hfrs)

lemma not_fails_exceeded {o : Conn τ κ} (hc : Credit c.account)
    (ho : Credit o.account) (hlimit : o.sendFc.limit ≤ c.recvFc.limit)
    (h : CountsOnce o (counted c.trace ++ offered.map snd))
    (hsub : List.Subperm handled offered) : ¬Fails e c handled exceeded := by
  rintro ⟨before, d, level, frame, rfl, htrail, herr⟩
  have hacts : Acts e (fun _ _ => True) c d := htrail.acts fun _ _ => True.intro
  have hd : Credit d.account ∧ d.recvFc.limit = c.recvFc.limit :=
    @Acts.invariant _ _ e _ (fun d => Credit d.account ∧ d.recvFc.limit = c.recvFc.limit)
      (fun _ _ hact hd => ⟨credit_act hact hd.1, (recvFc_act_le hact).1.trans hd.2⟩) _ _ hacts
      ⟨hc, rfl⟩
  have hfits := (countsOnce_trail h htrail hsub).octets_le ho
  rw [octets_append] at hfits
  cases frame with
  | stream id offset fin data =>
    rcases d.handleFrame_stream level id offset fin data with
      ⟨hnone, -⟩ | ⟨fc, -, ⟨-, heq⟩ | ⟨-, heq⟩⟩
    · have hused : d.recvFc.used = octets (counted d.trace) := hd.1.received
      have hone : octets ([(level, stream id offset fin data)].map snd) = data.length := add_zero _
      have hcons : d.recvFc.consume data.length =
          some { d.recvFc with used := d.recvFc.used + data.length } :=
        FlowController.consume_eq_some.mpr ⟨by omega, rfl⟩
      rw [hcons] at hnone
      cases hnone
    · rw [heq] at herr
      exact absurd (Except.error.inj herr) (by decide)
    · rw [heq] at herr
      cases herr
  | _ => cases herr

end Conn

/-- The errors of TLS and of the Initial keys. -/
structure Engine.Sound {τ κ : Type} (e : Engine τ κ) : Prop where
  read : ∀ tls data err, (e.readHandshake tls data).2 = .error err → ∃ what, err = .tls what
  keys : ∀ dcid err, e.initialKeys dcid = .error err → ∃ what, err = .crypto what

lemma Engine.Sound.plain (h : e.Sound) :
    Conn.Plain e (fun err => err ≠ exceeded) where
  read tls data err herr := by
    obtain ⟨what, rfl⟩ := h.read tls data err herr
    rintro ⟨⟩
  keys dcid err herr := by
    obtain ⟨what, rfl⟩ := h.keys dcid err herr
    rintro ⟨⟩
  noKeys := by rintro ⟨⟩
  short := by rintro ⟨⟩
  sealed level := by rintro ⟨⟩
  version _ := by rintro ⟨⟩

namespace Peers
variable {τ κ : Type}

open Conn

/-- What the endpoints know of each other. -/
structure Agree (p : Peers τ κ) : Prop where
  fair : ∀ side, Fair (p.conn side)
  initial : ∀ side, 2 ^ 20 ≤ (p.conn side).recvFc.limit
  limit : ∀ side, (p.conn side).sendFc.limit ≤ (p.conn side.other).recvFc.limit
  honest : ∀ side, ∀ packets ∈ p.sent side, ∀ packet ∈ packets, Honest (p.conn side) packet
  counted : ∀ side, CountsOnce (p.conn side.other) (counted (p.conn side).trace)

variable [DecidableEq κ]

/-- An endpoint takes an input that brings no limit above that of its peer, and counts
nothing twice. -/
lemma agree_act (e : Side → Engine τ κ) {p : Peers τ κ} (h : p.Agree) (side : Side)
    (input : Input κ) (hbound : Bounded (p.conn side.other).recvFc.limit (e side) (Brings input))
    (hcnt : CountsOnce (p.conn side.other)
      (counted ((p.conn side).step (e side) input).1.trace)) : (p.act e side input).1.Agree := by
  have hself : (p.act e side input).1.conn side = ((p.conn side).step (e side) input).1 :=
    update_self ..
  have hother : (p.act e side input).1.conn side.other = p.conn side.other :=
    update_of_ne side.other_ne ..
  have hlimit := recvLimit_step (e side) (p.conn side) input (h.fair side).credit
  have hgrows := produced_subset (noted_step (e side) (p.conn side) input)
  refine ⟨fun s => ?_, fun s => ?_, fun s => ?_, fun s => ?_, fun s => ?_⟩
  all_goals obtain rfl | rfl := side.eq_or_eq_other s
  · rw [hself]
    exact fair_step (h.fair s)
  · rw [hother]
    exact h.fair _
  · rw [hself]
    exact le_trans (h.initial s) hlimit
  · rw [hother]
    exact h.initial _
  · rw [hself, hother]
    exact sendLimit_step hbound (h.limit s)
  · rw [hother, other_other, hself]
    have hbef := h.limit side.other
    rw [other_other] at hbef
    omega
  · intro packets hpkts packet hpkt
    rw [hself]
    have hsent : (p.act e s input).1.sent s =
        p.sent s ++ ((p.conn s).step (e s) input).2.datagrams := update_self ..
    rw [hsent] at hpkts
    rcases mem_append.mp hpkts with hold | hnew
    · exact (h.honest s packets hold packet hpkt).mono hgrows hlimit
    · exact honest_step (h.fair s) packets hnew packet hpkt
  · intro packets hpkts packet hpkt
    rw [hother]
    have hsent : (p.act e side input).1.sent side.other = p.sent side.other :=
      update_of_ne side.other_ne ..
    rw [hsent] at hpkts
    exact h.honest _ packets hpkts packet hpkt
  · rw [hself, hother]
    exact hcnt
  · rw [hother, other_other, hself]
    have hbef := h.counted side.other
    rw [other_other] at hbef
    exact ⟨hbef.distinct, fun frame hframe hdata => hgrows (hbef.made frame hframe hdata)⟩

lemma agree_call (e : Side → Engine τ κ)
    (hprms : ∀ side tls peer, (e side).peerTransportParameters tls = some (.ok peer) →
      peer.initialMaxData ≤ 2 ^ 20)
    {p : Peers τ κ} (h : p.Agree) (side : Side) (input : Input κ) (own : input.isRecv = false) :
    (p.act e side input).1.Agree := by
  have hbrg : ∀ level frame, ¬Brings input level frame := by
    rintro level frame ⟨packets, rfl, -⟩
    cases own
  have hcnt : counted ((p.conn side).step (e side) input).1.trace =
      counted (p.conn side).trace := by
    refine @step_invariant _ _ _ (fun d => counted d.trace = counted (p.conn side).trace) (e side)
      (p.conn side) input (fun _ _ hc => hc) ?_ (fun _ hc => hc) ?_ ?_ rfl
    · intro id data fin hc
      rw [counted_of_noted (.of_event rfl rfl)]
    · intro c c' hact hc
      rw [counted_act (hact.imp hbrg), hc]
    · intro c c' level packets hbuilt hc
      refine (counted_of_noted ((noted_buildPacket hbuilt).imp fun event hevent => ?_)).trans hc
      cases event with
      | counted frame => cases hevent
      | _ => rfl
  refine agree_act e h side input ⟨fun level max hmax => (hbrg level _ hmax).elim, ?_⟩ ?_
  · exact fun tls peer hpeer => le_trans (hprms side tls peer hpeer) (h.initial _)
  · rw [hcnt]
    exact h.counted side

lemma agree_deliver {e : Side → Engine τ κ} (he : ∀ side, (e side).Sound)
    (hprms : ∀ side tls peer, (e side).peerTransportParameters tls = some (.ok peer) →
      peer.initialMaxData ≤ 2 ^ 20) {p : Peers τ κ} (h : p.Agree) {side : Side}
    (hsent : packets ∈ p.sent side.other)
    (hunseen : ((counted (p.conn side).trace ++ packets.flatMap Packet.frames).filter
      hasData).Nodup) :
    (p.act e side (.recv (.ok packets))).1.Agree ∧
      (p.act e side (.recv (.ok packets))).2.exceeds = false := by
  have hhonest := h.honest side.other packets hsent
  obtain ⟨handled, htrail, hsub, herr⟩ := trail_recv (he side).plain (p.conn side) packets
    fun packet hpkt => (hhonest packet hpkt).plain
  have hfrs : (packets.flatMap Packet.contents).map snd =
      packets.flatMap Packet.frames := map_flatMap
  have honce : CountsOnce (p.conn side.other)
      (counted (p.conn side).trace ++ (packets.flatMap Packet.contents).map snd) := by
    rw [hfrs]
    refine ⟨hunseen, fun frame hframe hdata => ?_⟩
    rcases mem_append.mp hframe with hold | hnew
    · exact (h.counted side).made frame hold hdata
    · obtain ⟨packet, hpkt, hmem⟩ := mem_flatMap.mp hnew
      refine (hhonest packet hpkt).streams frame hmem ?_
      cases frame with
      | stream id offset fin data => rfl
      | _ => cases hdata
  refine ⟨agree_act e h side _ ⟨?_, ?_⟩ ?_, ?_⟩
  · rintro level max ⟨packets', heq, packet, hpkt, hcarr⟩
    obtain rfl := Except.ok.inj (Input.recv.inj heq)
    refine (hhonest packet hpkt).limits max ?_
    obtain ⟨header, ⟨key, pn, head', payload⟩, frames, rfl, -, hpay, hmem⟩ := hcarr
    obtain rfl : payload = .ok frames := hpay
    simpa [Packet.frames, Packet.contents] using hmem
  · exact fun tls peer hpeer => le_trans (hprms side tls peer hpeer) (h.initial _)
  · have hafter := @countsOnce_trail _ _ _ _ _ _ _ honce _ [] htrail (by rwa [append_nil])
    rwa [map_nil, append_nil] at hafter
  · have hres : (p.act e side (.recv (.ok packets))).2 =
        .processed ((p.conn side).recv (e side) (.ok packets)).2 := rfl
    rw [hres]
    cases hrecv : ((p.conn side).recv (e side) (.ok packets)).2 with
    | ok _ => rfl
    | error err =>
      refine decide_eq_false fun heq => ?_
      subst heq
      have hlimit := h.limit side.other
      rw [other_other] at hlimit
      refine (herr exceeded hrecv).elim (fun hplain => hplain rfl) ?_
      exact not_fails_exceeded (h.fair side).credit (h.fair side.other).credit hlimit honce hsub

/-- The datagram that is delivered has no STREAM frame with data that its receiver has
counted already, and none twice. -/
def Unseen (p : Peers τ κ) (move : Move κ) : Prop :=
  ∀ side index packets, move = .deliver side index → (p.sent side.other)[index]? = some packets →
    ((counted (p.conn side).trace ++ packets.flatMap Packet.frames).filter hasData).Nodup

lemma agree_of_starts {p : Peers τ κ} (h : p.Starts e) : p.Agree := by
  have hacc : ∀ side, ∃ s dcid scid tls, (p.conn side).account =
      (Conn.new s dcid scid tls : Conn τ κ).account := fun side => account_of_starts (h side).1
  have htrace : ∀ side, (p.conn side).trace = [] := by
    intro side
    obtain ⟨_, _, _, _, hsame⟩ := hacc side
    exact congrArg Account.trace hsame
  have hlimits : ∀ side, (p.conn side).recvFc.limit = 2 ^ 20 ∧ (p.conn side).sendFc.limit = 0 := by
    intro side
    obtain ⟨_, _, _, _, hsame⟩ := hacc side
    exact ⟨congrArg (fun a => a.recvFc.limit) hsame, congrArg (fun a => a.sendFc.limit) hsame⟩
  refine ⟨fun side => ?_, fun side => ?_, fun side => ?_, fun side => ?_, fun side => ?_⟩
  · exact ⟨credit_of_starts (h side).1, settled_of_starts (h side).1, resendable_of_starts (h side).1⟩
  · rw [(hlimits side).1]
  · rw [(hlimits side).2]
    omega
  · rw [(h side).2]
    exact forall_mem_nil _
  · rw [htrace side]
    exact ⟨nodup_nil, forall_mem_nil _⟩

/-- In every run of two endpoints, whatever is lost, late or reordered: `recv` never
finds the credit exceeded, as long as no STREAM frame with data is delivered to an
endpoint that has counted it, and neither endpoint advertises more than the limit it
starts with. -/
theorem credit_never_exceeded (e : Side → Engine τ κ) (he : ∀ side, (e side).Sound)
    (hparams : ∀ side tls peer, (e side).peerTransportParameters tls = some (.ok peer) →
      peer.initialMaxData ≤ 2 ^ 20) (p : Peers τ κ) (hp : p.Starts e) (moves : List (Move κ))
    (hunseen : Along (step e) (fun _ p move => p.Unseen move) [] p moves) :
    ∀ output ∈ (run (step e) p moves).2, output.exceeds = false := by
  have hstep : ∀ (_ : List (Move κ × Output κ)) (p : Peers τ κ) (move : Move κ), p.Agree →
      p.Unseen move → (p.step e move).1.Agree ∧ (p.step e move).2.exceeds = false := by
    intro _ p move hagree hok
    cases move with
    | call side input own =>
      refine ⟨agree_call e hparams hagree side input own, ?_⟩
      show ((p.conn side).step (e side) input).2.exceeds = false
      cases input with
      | recv datagram => cases own
      | poll =>
        unfold Conn.step
        dsimp only
        split <;> rfl
      | _ => rfl
    | deliver side index =>
      unfold step
      dsimp only
      split
      · next packets hfound =>
          exact agree_deliver he hparams hagree (mem_of_getElem? hfound)
            (hok side index packets rfl hfound)
      · exact ⟨hagree, rfl⟩
  have hall := @forall_mem_history _ _ _ (step e) Agree (fun _ p move => p.Unseen move)
    (fun _ output => output.exceeds = false) hstep moves [] p (agree_of_starts hp) hunseen
  rw [← map_snd_history]
  exact forall_mem_map.mpr fun entry hentry => hall entry hentry

/-- Two sessions that have each other's keys. -/
def instantPair : Side → Engine Bool Nat
  | .client => .instant [] 1 2
  | .server => .instant [] 2 1

def newPair : Peers Bool Nat where
  conn
    | .client => (Conn.client (.instant [] 1 2) ⟨[8], eight_fits⟩ ⟨[9], nine_fits⟩ false).1
    | .server => Conn.server ⟨[7], seven_fits⟩ false
  sent _ := []

lemma newPair_starts : newPair.Starts instantPair := by
  intro side
  cases side with
  | client => exact ⟨.inr ⟨_, _, _, rfl⟩, rfl⟩
  | server => exact ⟨.inl ⟨_, _, rfl⟩, rfl⟩

lemma instantPair_sound (side : Side) : (instantPair side).Sound := by
  cases side with
  | _ => exact ⟨fun _ _ _ h => (by cases h), fun _ _ h => (by cases h)⟩

/-- A client writes to a stream.  The first copy of its datagram finds a server without
keys and is dropped, the second is taken. -/
def firstData (octets : Nat) : List (Move Nat) :=
  [.call .client (.write 0 (replicate octets 0) false) rfl, .call .client .poll Input.poll_own,
    .deliver .server 0, .deliver .server 0]

/-- The octets are counted once. -/
theorem first_data_counted :
    counted ((run (step instantPair) newPair (firstData 3)).1.conn .server).trace =
        [.stream 0 0 false [0, 0, 0]] ∧
      ∀ output ∈ (run (step instantPair) newPair (firstData 3)).2, output.exceeds = false := by
  have hcall : ∀ (p : Peers Bool Nat) (side : Side) (input : Input Nat)
      (own : input.isRecv = false), p.Unseen (.call side input own) := by
    rintro p side input own side' index packets ⟨⟩
  have hdel : ∀ (p : Peers Bool Nat) (side : Side) (index : Nat), ((counted (p.conn side).trace ++
        ((p.sent side.other)[index]?.getD []).flatMap Packet.frames).filter hasData).Nodup →
      p.Unseen (.deliver side index) := by
    rintro p side index hnodup side' index' packets ⟨⟩ hfound
    rwa [hfound] at hnodup
  refine ⟨by decide +kernel, credit_never_exceeded instantPair instantPair_sound ?_ newPair
    newPair_starts (firstData 3) ⟨hcall _ _ _ _, hcall _ _ _ _, hdel _ _ _ ?_,
      hdel _ _ _ ?_, True.intro⟩⟩
  · intro side tls peer hpeer
    cases side with
    | _ => cases hpeer; decide
  · decide +kernel
  · decide +kernel

/-- Both endpoints are established and the client sends 8800 octets once.  The network
delivers the datagram 119 more times, and the server finds its credit exceeded. -/
theorem duplicates_exceed_credit :
    let p := (run (step instantPair) newPair (firstData 8800)).1
    (p.conn .client).isEstablished (instantPair .client) = true ∧
      (p.conn .server).isEstablished (instantPair .server) = true ∧
      octets (produced (p.conn .client).trace) = 8800 ∧
      ∃ output ∈ (run (step instantPair) p (replicate 119 (.deliver .server 0))).2,
        output.exceeds = true := by
  decide +kernel

end Peers
end MeshBus.Quic
