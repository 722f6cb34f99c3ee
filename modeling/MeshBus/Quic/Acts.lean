import MeshBus.Quic.Step
import Mathlib.Data.List.Perm.Subperm

/-!
# What a call can do to the accounts of a connection

A call that brings something in is a sequence of a few acts: TLS and the timers
leave the accounts as they are, a packet is opened, a frame is handled, packets are
declared lost.  `poll_transmit` builds a packet for every level.  An invariant is
proved for one act and for one packet, and holds after any call.
-/

namespace MeshBus.Quic

open Lib List Option Except Packet Prod

/-- Notes of packets and frames that arrive, and of packets that are acknowledged or
lost. -/
def Event.incoming : Event → Bool
  | .counted _ => true
  | .delivered _ => true
  | .decrypted .. => true
  | .acked .. => true
  | .lost .. => true
  | _ => false

/-- The part of a connection that data, credit and acknowledgements live in. -/
structure Account where
  side : Side
  peerParams : Option (Except Error TransportParameters)
  streams : StreamMap
  sendFc : FlowController
  recvFc : FlowController
  recvWindow : Nat
  peerStreamData : Nat
  sentFrames : PerLevel (OrdMap Nat (List Frame))
  retransmit : List LostFrame
  tracked : PerLevel SpaceRecovery
  nextPn : Level → Nat
  largestRecv : Level → Option Nat
  trace : List Event

def Packet.Carries {κ : Type} (packet : Packet κ) (level : Level) (frame : Frame) : Prop :=
  ∃ header body frames, packet = .whole header false body ∧ header.level = level ∧
    body.payload = .ok frames ∧ frame ∈ frames

def Packet.contents {κ : Type} : Packet κ → List (Level × Frame)
  | .whole header false ⟨_, _, _, .ok frames⟩ => frames.map (header.level, ·)
  | _ => []

lemma Packet.carries_of_mem {packet : Packet κ}
    (h : (level, frame) ∈ packet.contents) : packet.Carries level frame := by
  unfold contents at h
  split at h
  · next header key pn head' frames =>
      obtain ⟨_, hframe, heq⟩ := mem_map.mp h
      cases heq
      exact ⟨header, _, frames, rfl, rfl, rfl, hframe⟩
  · cases h

namespace Conn
variable {τ κ : Type}

def account (c : Conn τ κ) : Account where
  side := c.side
  peerParams := c.peerParams
  streams := c.streams
  sendFc := c.sendFc
  recvFc := c.recvFc
  recvWindow := c.recvWindow
  peerStreamData := c.peerStreamData
  sentFrames := c.sentFrames
  retransmit := c.retransmit
  tracked := c.recovery.spaces
  nextPn := fun level => (c.spaces.get level).nextPn
  largestRecv := fun level => (c.spaces.get level).largestRecv
  trace := c.trace

lemma account_of_starts {c : Conn τ κ} (h : c.Starts e) :
    ∃ side dcid scid tls, c.account = (Conn.new side dcid scid tls : Conn τ κ).account := by
  rcases h with ⟨scid, tls, rfl⟩ | ⟨dcid, scid, tls, hclient⟩
  · exact ⟨.server, _, scid, tls, rfl⟩
  · refine ⟨.client, dcid, scid, tls, ?_⟩
    unfold client installInitialKeys at hclient
    split at hclient
    · cases (Prod.mk.inj hclient).2
    · rw [← (Prod.mk.inj hclient).1]
      rfl

/-- One act.  `allowed` says which frames may be handled, and at which level. -/
inductive Act (e : Engine τ κ) (allowed : Level → Frame → Prop) : Conn τ κ → Conn τ κ → Prop
  | quiet {c c' : Conn τ κ} (same : c'.account = c.account) : Act e allowed c c'
  | adopt (c : Conn τ κ) (params : Except Error TransportParameters)
      (first : c.peerParams = none) (offered : ∃ tls, e.peerTransportParameters tls = some params) :
      Act e allowed c { c.adoptPeerParams params with peerParams := some params }
  | received (c : Conn τ κ) (level : Level) (pn : Nat) : Act e allowed c (c.markReceived level pn)
  | frame (c : Conn τ κ) (level : Level) (frame : Frame) (ok : allowed level frame) :
      Act e allowed c (c.handleFrame level frame).1
  | lost (c : Conn τ κ) (level : Level) : Act e allowed c (c.detectLost level).1

abbrev Acts (e : Engine τ κ) (allowed : Level → Frame → Prop) : Conn τ κ → Conn τ κ → Prop :=
  Relation.ReflTransGen (Act e allowed)

lemma Acts.invariant {e : Engine τ κ} {allowed : Level → Frame → Prop} {Inv : Conn τ κ → Prop}
    (hact : ∀ c c', Act e allowed c c' → Inv c → Inv c') {c c' : Conn τ κ}
    (hacts : Acts e allowed c c') (hc : Inv c) : Inv c' := by
  induction hacts with
  | refl => exact hc
  | tail _ act ih => exact hact _ _ act ih

section
variable {e : Engine τ κ}
variable {c c' : Conn τ κ} {err : Error} {handled : List (Level × Frame)}

lemma Acts.quiet (same : c'.account = c.account) : Acts e allowed c c' := .single (.quiet same)

/-! ## TLS -/

/-- TLS changes its own state, the keys, handshake data and what is known of the
handshake. -/
def TlsOnly (c c' : Conn τ κ) : Prop :=
  ∃ tls writeLevel spaces txKeys rxKeys confirmed done,
    c' = { c with
      tls := tls
      writeLevel := writeLevel
      spaces := spaces
      txKeys := txKeys
      rxKeys := rxKeys
      handshakeConfirmed := confirmed
      sendHandshakeDone := done } ∧
    ∀ level, ∃ crypto, spaces.get level = { c.spaces.get level with crypto := crypto }

lemma TlsOnly.refl (c : Conn τ κ) : TlsOnly c c := ⟨_, _, _, _, _, _, _, rfl, fun _ => ⟨_, rfl⟩⟩

lemma TlsOnly.trans (h : TlsOnly c₁ c₂) (h' : TlsOnly c₂ c₃) : TlsOnly c₁ c₃ := by
  obtain ⟨_, _, spaces, _, _, _, _, rfl, hsps⟩ := h
  obtain ⟨_, _, spaces', _, _, _, _, rfl, hsps'⟩ := h'
  refine ⟨_, _, _, _, _, _, _, rfl, fun level => ?_⟩
  obtain ⟨crypto, hcryp⟩ := hsps level
  obtain ⟨crypto', hcryp'⟩ := hsps' level
  refine ⟨crypto', ?_⟩
  rw [hcryp']
  rw [hcryp]

lemma TlsOnly.account (h : TlsOnly c c') : c'.account = c.account := by
  obtain ⟨_, _, spaces, _, _, _, _, rfl, hsps⟩ := h
  have hpn : ∀ level, (spaces.get level).nextPn = (c.spaces.get level).nextPn := by
    intro level
    obtain ⟨crypto, hcryp⟩ := hsps level
    rw [hcryp]
  have hrecv : ∀ level, (spaces.get level).largestRecv = (c.spaces.get level).largestRecv := by
    intro level
    obtain ⟨crypto, hcryp⟩ := hsps level
    rw [hcryp]
  simp [Conn.account, hpn, hrecv]

lemma tlsOnly_setCrypto (c : Conn τ κ) (level : Level) (crypto : CryptoStream) :
    TlsOnly c { c with
      spaces := c.spaces.set level { c.spaces.get level with crypto := crypto } } := by
  refine ⟨_, _, _, _, _, _, _, rfl, fun level' => ?_⟩
  rw [PerLevel.get_set]
  split
  · next heq => exact ⟨crypto, by rw [heq]⟩
  · exact ⟨_, rfl⟩

lemma account_setCrypto (c : Conn τ κ) (level : Level) (crypto : CryptoStream) :
    { c with spaces := c.spaces.set level { c.spaces.get level with crypto := crypto } }.account =
      c.account :=
  (c.tlsOnly_setCrypto level crypto).account

lemma tlsOnly_readLevel (c : Conn τ κ) {level : Level} : TlsOnly c (c.readLevel e level).1 := by
  have hcryp := c.tlsOnly_setCrypto level (c.spaces.get level).crypto.readInOrder.1
  unfold readLevel
  dsimp only
  split
  · exact hcryp
  · exact hcryp.trans ⟨_, _, _, _, _, _, _, rfl, fun _ => ⟨_, rfl⟩⟩

lemma readLevels_invariant {Inv : Conn τ κ → Prop}
    (hread : ∀ c level, Inv c → Inv (c.readLevel e level).1) (ls : List Level) (h : Inv c) :
    Inv (c.readLevels e ls).1 := by
  induction ls generalizing c with
  | nil => exact h
  | cons level rest ih =>
    have hone := hread c level h
    unfold readLevels
    split
    · next heq =>
        rw [heq] at hone
        exact hone
    · next heq =>
        rw [heq] at hone
        exact ih hone

lemma tlsOnly_pushHandshake (c : Conn τ κ) : TlsOnly c (c.pushHandshake data) :=
  c.tlsOnly_setCrypto c.writeLevel _

lemma tlsOnly_installKeys (c : Conn τ κ) : TlsOnly c (c.installKeys change) := by
  cases change with
  | _ => exact ⟨_, _, _, _, _, _, _, rfl, fun _ => ⟨_, rfl⟩⟩

lemma writeHandshake_invariant {Inv : Conn τ κ → Prop}
    (hpush : ∀ c data, Inv c → Inv (c.pushHandshake data))
    (hinst : ∀ c change, Inv c → Inv (c.installKeys change))
    (h : Inv { c with tls := (e.writeHandshake c.tls).1 }) : Inv (c.writeHandshake e) :=
  hpush _ _ (foldlRecOn _ _ h fun d hd change _ => hinst _ change.2 (hpush d change.1 hd))

section
variable (e : Engine τ κ) (c : Conn τ κ)

lemma tlsOnly_writeHandshake : TlsOnly c (c.writeHandshake e) := by
  refine writeHandshake_invariant (fun d data h => h.trans d.tlsOnly_pushHandshake)
    (fun d change h => h.trans d.tlsOnly_installKeys) ?_
  exact ⟨_, _, _, _, _, _, _, rfl, fun _ => ⟨_, rfl⟩⟩

lemma tlsOnly_confirm : TlsOnly c (c.confirm e) := by
  unfold confirm
  split
  · exact ⟨_, _, _, _, _, _, _, rfl, fun _ => ⟨_, rfl⟩⟩
  · exact .refl c

lemma pumpTls_cases :
    TlsOnly c (c.pumpTls e).1 ∨
      ∃ d params, TlsOnly c d ∧ d.peerParams = none ∧
        (∃ tls, e.peerTransportParameters tls = some params) ∧
        TlsOnly { d.adoptPeerParams params with peerParams := some params } (c.pumpTls e).1 := by
  unfold pumpTls
  have hread : TlsOnly c (c.readLevels e levels).1 :=
    readLevels_invariant (fun d level h => h.trans d.tlsOnly_readLevel) _ (.refl c)
  split
  · next h =>
      rw [h] at hread
      exact .inl hread
  · next d _ h =>
      rw [h] at hread
      have hwrit := hread.trans (d.tlsOnly_writeHandshake e)
      unfold learnParams
      split
      · next first hoff =>
          exact .inr ⟨d.writeHandshake e, _, hwrit, first, ⟨_, hoff⟩, tlsOnly_confirm e _⟩
      · exact .inl (hwrit.trans (tlsOnly_confirm e _))

lemma acts_pumpTls : Acts e allowed c (c.pumpTls e).1 := by
  rcases pumpTls_cases e c with honly | ⟨d, params, hbef, first, offered, hafter⟩
  · exact Acts.quiet honly.account
  · have hadopt : Acts e allowed d { d.adoptPeerParams params with peerParams := some params } :=
      .single (.adopt d params first offered)
    exact .head (.quiet hbef.account) (hadopt.trans (Acts.quiet hafter.account))

end

/-! ## Timers -/

lemma acts_detectLevels (c : Conn τ κ) (ls : List Level) :
    Acts e allowed c (c.detectLevels ls).1 := by
  induction ls generalizing c with
  | nil => exact .refl
  | cons level rest ih => exact .head (.lost c level) (ih _)

lemma acts_onTimeout (c : Conn τ κ) (now : Nat) : Acts e allowed c (c.onTimeout now) := by
  unfold onTimeout
  dsimp only
  split
  · exact Acts.quiet rfl
  · have hnow : Act e allowed c { c with now := now } := .quiet rfl
    have hdet : Acts e allowed c ({ c with now := now }.detectLevels levels).1 :=
      .head hnow (acts_detectLevels _ _)
    split
    · exact hdet
    · split
      · split
        · exact .tail hdet (.quiet rfl)
        · exact hdet
      · exact hdet

/-! ## Packets that arrive -/

lemma handleFrame_stream (c : Conn τ κ) (level : Level) (id offset : Nat) (fin : Bool)
    (data : Bytes) :
    (c.recvFc.consume data.length = none ∧ c.handleFrame level (.stream id offset fin data) =
        (c, .error (.transport "connection flow control exceeded"))) ∨
      ∃ fc, c.recvFc.consume data.length = some fc ∧
        (c.streams.wouldExceedCap id = true ∧ c.handleFrame level (.stream id offset fin data) =
            ({ c with recvFc := fc }.note (.counted (.stream id offset fin data)),
              .error (.transport "stream count cap")) ∨
          c.streams.wouldExceedCap id = false ∧ c.handleFrame level (.stream id offset fin data) =
            ({ { c with recvFc := fc }.note (.counted (.stream id offset fin data)) with
              streams := c.streams.modify id fun s =>
                { s with recv := s.recv.ingest offset data fin } }, .ok ())) := by
  unfold handleFrame
  dsimp only
  unfold handleStream
  cases hcons : c.recvFc.consume data.length with
  | none => exact .inl ⟨rfl, rfl⟩
  | some fc =>
    refine .inr ⟨fc, rfl, ?_⟩
    dsimp only
    have hstrs : ({ c with recvFc := fc }.note
      (.counted (.stream id offset fin data))).streams = c.streams := rfl
    rw [hstrs]
    cases hcap : c.streams.wouldExceedCap id with
    | true => exact .inl ⟨rfl, rfl⟩
    | false => exact .inr ⟨rfl, rfl⟩

lemma account_handleFrame (c : Conn τ κ) (level : Level) (frame : Frame)
    (hack : ∀ largest delay firstRange ranges, frame ≠ .ack largest delay firstRange ranges) :
    ∃ streams sendFc recvFc limit trace,
      (c.handleFrame level frame).1.account = { c.account with
        streams := streams
        sendFc := sendFc
        recvFc := recvFc
        peerStreamData := limit
        trace := trace } := by
  cases frame with
  | ack largest delay firstRange ranges => exact absurd rfl (hack _ _ _ _)
  | crypto offset data => exact ⟨_, _, _, _, _, c.account_setCrypto level _⟩
  | stream id offset fin data =>
    rcases c.handleFrame_stream level id offset fin data with ⟨-, h⟩ | ⟨fc, -, ⟨-, h⟩ | ⟨-, h⟩⟩
    all_goals
      rw [h]
      exact ⟨_, _, _, _, _, rfl⟩
  | handshakeDone =>
    unfold handleFrame
    dsimp only
    split <;> exact ⟨_, _, _, _, _, rfl⟩
  | _ => exact ⟨_, _, _, _, _, rfl⟩

lemma handleFrame_error
    (h : (c.handleFrame level frame).2 = .error err) : ∃ what, err = .transport what := by
  cases frame with
  | stream id offset fin data =>
    rcases c.handleFrame_stream level id offset fin data with ⟨-, heq⟩ | ⟨fc, -, ⟨-, heq⟩ | ⟨-, heq⟩⟩
    · rw [heq] at h
      exact ⟨_, (error.inj h).symm⟩
    · rw [heq] at h
      exact ⟨_, (error.inj h).symm⟩
    · rw [heq] at h
      cases h
  | _ => cases h

/-- Acts, and the frames that are handled among them, in order. -/
inductive Trail (e : Engine τ κ) (c : Conn τ κ) : List (Level × Frame) → Conn τ κ → Prop
  | refl : Trail e c [] c
  | act {handled : List (Level × Frame)} {d c' : Conn τ κ} (before : Trail e c handled d)
      (act : Act e (fun _ _ => False) d c') : Trail e c handled c'
  | frame {handled : List (Level × Frame)} {d : Conn τ κ} (before : Trail e c handled d)
      (level : Level) (frame : Frame) :
      Trail e c (handled ++ [(level, frame)]) (d.handleFrame level frame).1

lemma Trail.trans (h : Trail e c handled d)
    (h' : Trail e d handl' c') : Trail e c (handled ++ handl') c' := by
  induction h' with
  | refl => rwa [append_nil]
  | act _ act ih => exact .act ih act
  | frame _ level frame ih =>
    rw [← append_assoc]
    exact .frame ih level frame

lemma Trail.of_acts (h : Acts e (fun _ _ => False) c c') : Trail e c [] c' := by
  induction h with
  | refl => exact .refl
  | tail _ act ih => exact .act ih act

lemma Act.imp
    (himp : ∀ level frame, allowed level frame → allowed' level frame) (h : Act e allowed c c') :
    Act e allowed' c c' := by
  cases h with
  | quiet same => exact .quiet same
  | adopt params first offered => exact .adopt c params first offered
  | received level pn => exact .received c level pn
  | frame level frame ok => exact .frame c level frame (himp level frame ok)
  | lost level => exact .lost c level

lemma Trail.acts (h : Trail e c handled c') (ok : ∀ entry ∈ handled, allowed entry.1 entry.2) :
    Acts e allowed c c' := by
  induction h with
  | refl => exact .refl
  | act _ act ih => exact .tail (ih ok) (act.imp fun _ _ => False.elim)
  | frame _ level frame ih =>
    obtain ⟨hbef, hlast⟩ := forall_mem_append.mp ok
    exact .tail (ih hbef) (.frame _ level frame (hlast _ (mem_singleton.mpr rfl)))

def Fails (e : Engine τ κ) (c : Conn τ κ) (handled : List (Level × Frame)) (err : Error) : Prop :=
  ∃ before d level frame, handled = before ++ [(level, frame)] ∧ Trail e c before d ∧
    (d.handleFrame level frame).2 = .error err

lemma Fails.of_trail (h : Trail e c handled d)
    (hfails : Fails e d handl' err) : Fails e c (handled ++ handl') err := by
  obtain ⟨before, d', level, frame, rfl, htrail, herr⟩ := hfails
  exact ⟨handled ++ before, d', level, frame, (append_assoc _ _ _).symm, h.trans htrail, herr⟩

lemma trail_handleFrames (c : Conn τ κ) (level : Level) (frames : List Frame) :
    ∃ handled, Trail e c handled (c.handleFrames level frames).1 ∧
      List.Sublist handled (frames.map (level, ·)) ∧
      ∀ err, (c.handleFrames level frames).2 = .error err → Fails e c handled err := by
  induction frames generalizing c with
  | nil => exact ⟨[], .refl, .slnil, fun err h => (by cases h)⟩
  | cons frame rest ih =>
    have hframe : Trail e c [(level, frame)] (c.handleFrame level frame).1 := .frame .refl level frame
    unfold handleFrames
    split
    · next c' err h =>
        rw [h] at hframe
        refine ⟨_, hframe, .cons_cons _ (nil_sublist _), fun err' herr => ?_⟩
        refine ⟨[], c, level, frame, rfl, .refl, ?_⟩
        rw [h]
        exact herr
    · next c' _ h =>
        rw [h] at hframe
        obtain ⟨handled, htrail, hsub, herr⟩ := ih c'
        exact ⟨_, hframe.trans htrail, .cons_cons _ hsub,
          fun err h => Fails.of_trail hframe (herr err h)⟩

lemma acts_adoptInitial (e : Engine τ κ) (c : Conn τ κ) (ty : LongType)
    (dcid scid : ConnectionId) : Acts e allowed c (c.adoptInitial e ty dcid scid).1 := by
  unfold adoptInitial installInitialKeys
  split
  · split
    · exact .quiet rfl
    · exact .quiet rfl
  · exact .refl

/-- Errors that no frame is the cause of. -/
structure Plain (e : Engine τ κ) (plain : Error → Prop) : Prop where
  read : ∀ tls data err, (e.readHandshake tls data).2 = .error err → plain err
  keys : ∀ dcid err, e.initialKeys dcid = .error err → plain err
  noKeys : plain noKeys
  short : plain .shortBuffer
  sealed : ∀ level, plain (openError level)
  version : ∀ version, plain (.unsupportedVersion version)

lemma readLevels_error (hplain : Plain e plain)
    (h : (c.readLevels e ls).2 = .error err) : plain err := by
  induction ls generalizing c with
  | nil => cases h
  | cons level rest ih =>
    unfold readLevels at h
    split at h
    · next c' err' hread =>
        obtain rfl : err' = err := error.inj h
        unfold readLevel at hread
        dsimp only at hread
        split at hread
        · cases (Prod.mk.inj hread).2
        · exact hplain.read _ _ _ (Prod.mk.inj hread).2
    · exact ih h

lemma pumpTls_error (hplain : Plain e plain) (h : (c.pumpTls e).2 = .error err) : plain err := by
  unfold pumpTls at h
  split at h
  · next hread =>
      have herr := congrArg snd hread
      rw [error.inj h] at herr
      exact readLevels_error hplain herr
  · cases h

def PlainPacket (plain : Error → Prop) : Packet κ → Prop
  | .malformed err => plain err
  | .whole _ _ body => ∀ err, body.payload = .error err → plain err

lemma plain_any : Plain e (fun _ => True) := by
  constructor <;> intros <;> exact True.intro

lemma plainPacket_any (packet : Packet κ) : PlainPacket (fun _ => True) packet := by
  cases packet with
  | malformed err => exact True.intro
  | whole header short body => exact fun _ _ => True.intro

/-- The frames that a packet had handled, and why it failed: before any of them, or
with the last. -/
def Handles (e : Engine τ κ) (plain : Error → Prop) (c : Conn τ κ) (packet : Packet κ)
    (result : Conn τ κ × Except Error Unit) : Prop :=
  ∃ handled, Trail e c handled result.1 ∧ List.Subperm handled packet.contents ∧
    ∀ err, result.2 = .error err → handled = [] ∧ plain err ∨ Fails e c handled err

lemma Handles.of_error (h : Trail e c [] c')
    (herr : plain err) : Handles e plain c packet (c', .error err) := by
  refine ⟨[], h, nil_subperm, fun err' heq => .inl ⟨rfl, ?_⟩⟩
  rwa [← error.inj heq]

section
variable [DecidableEq κ]

lemma payload_of_openWith {body : Sealed κ} (h : body.openWith key pn header = some payload) :
    body.payload = payload := by
  unfold Sealed.openWith at h
  split at h
  · exact Option.some.inj h
  · cases h

lemma handles_decryptAndHandle (hplain : Plain e plain) (c : Conn τ κ) (header : Header)
    (short : Bool) (body : Sealed κ) (hpkt : PlainPacket plain (.whole header short body)) :
    Handles e plain c (.whole header short body) (c.decryptAndHandle header short body) := by
  unfold decryptAndHandle
  dsimp only
  split
  · exact .of_error .refl hplain.noKeys
  · split
    · exact .of_error .refl hplain.short
    · next hshort =>
        split
        · exact .of_error .refl (hplain.sealed _)
        · next err hopen =>
            exact .of_error (.act .refl (.received _ _ _)) (hpkt err (payload_of_openWith hopen))
        · next frames hopen =>
            obtain ⟨handled, htrail, hsub, herr⟩ := trail_handleFrames
              (c.markReceived header.level (decodePacketNumber _ header.pn)) header.level frames
            have hrecv : Trail e c [] (c.markReceived header.level
              (decodePacketNumber ((c.spaces.get header.level).largestRecv.getD 0) header.pn)) :=
              .act .refl (.received _ _ _)
            refine ⟨handled, hrecv.trans htrail, ?_, fun err h => .inr ?_⟩
            · have hcont : (whole header short body).contents =
                  frames.map (header.level, ·) := by
                obtain ⟨key, pn, head', payload⟩ := body
                have hpay : payload = .ok frames := payload_of_openWith hopen
                rw [Bool.eq_false_iff.mpr hshort, hpay]
                rfl
              rw [hcont]
              exact hsub.subperm
            · exact Fails.of_trail hrecv (herr err h)

lemma handles_recvOne (hplain : Plain e plain) (c : Conn τ κ) (packet : Packet κ)
    (hpkt : PlainPacket plain packet) : Handles e plain c packet (c.recvOne e packet) := by
  unfold recvOne
  split
  · exact .of_error .refl hpkt
  · exact handles_decryptAndHandle hplain _ _ _ _ hpkt
  · next ty version dcid scid pn short body =>
      have hadopt : Trail e c [] (c.adoptInitial e ty dcid scid).1 :=
        .of_acts (acts_adoptInitial e c ty dcid scid)
      split
      · exact .of_error .refl (hplain.version _)
      · split
        · next c' err h =>
            rw [h] at hadopt
            refine .of_error hadopt ?_
            unfold adoptInitial installInitialKeys at h
            split at h
            · split at h
              · next hkeys =>
                  obtain ⟨-, heq⟩ := Prod.mk.inj h
                  exact hplain.keys _ _ (hkeys.trans (congrArg _ (error.inj heq)))
              · cases (Prod.mk.inj h).2
            · cases (Prod.mk.inj h).2
        · next c' _ h =>
            rw [h] at hadopt
            obtain ⟨handled, htrail, hsub, herr⟩ := handles_decryptAndHandle hplain c'
              (.long ty version dcid scid pn) short body hpkt
            refine ⟨handled, hadopt.trans htrail, hsub, fun err h => ?_⟩
            exact (herr err h).imp_right fun hfails => Fails.of_trail hadopt hfails

lemma exists_of_map_eq_ok {f : α → β} {x : Except ε α} {b : β}
    (h : x.map f = .ok b) : ∃ a, x = .ok a ∧ f a = b := by
  cases x with
  | error err => cases h
  | ok a => exact ⟨a, rfl, ok.inj h⟩

lemma eq_error_of_map {f : α → β} {x : Except ε α} {err : ε}
    (h : x.map f = .error err) : x = .error err := by
  cases x with
  | error err' => rw [error.inj h]
  | ok a => cases h

/-- The packets of a queue, one after the other.  Those that are put off were not
handled. -/
lemma trail_recvPass (hplain : Plain e plain) (c : Conn τ κ) (queue : List (Packet κ))
    (hqueue : ∀ packet ∈ queue, PlainPacket plain packet) :
    ∃ handled, Trail e c handled (c.recvPass e queue).1 ∧
      List.Subperm handled (queue.flatMap contents) ∧
      (∀ err, (c.recvPass e queue).2 = .error err → plain err ∨ Fails e c handled err) ∧
      ∀ deferred progressed, (c.recvPass e queue).2 = .ok (deferred, progressed) →
        deferred ⊆ queue ∧ List.Subperm (handled ++ deferred.flatMap contents)
          (queue.flatMap contents) := by
  induction queue generalizing c with
  | nil =>
    refine ⟨[], .refl, nil_subperm, fun err h => (by cases h), fun deferred progressed h => ?_⟩
    have hpair : ([], false) = (deferred, progressed) := ok.inj h
    rw [← (Prod.mk.inj hpair).1]
    exact ⟨List.Subset.refl _, nil_subperm⟩
  | cons packet rest ih =>
    obtain ⟨hpkt, hrest⟩ := forall_mem_cons.mp hqueue
    obtain ⟨handled, htrail, hsub, herr⟩ := handles_recvOne hplain c packet hpkt
    unfold recvPass
    split
    · next c' _ h =>
        rw [h] at htrail
        obtain ⟨later, hlater, hsub', herr', hok⟩ := ih c' hrest
        refine ⟨handled ++ later, htrail.trans hlater, hsub.append hsub', ?_, ?_⟩
        · exact fun err h => (herr' err (eq_error_of_map h)).imp_right (Fails.of_trail htrail)
        · intro deferred progressed h
          obtain ⟨⟨deferred', flag⟩, heq, hpair⟩ := exists_of_map_eq_ok h
          cases hpair
          obtain ⟨hmem, hperm⟩ := hok deferred' flag heq
          refine ⟨List.Subset.trans hmem (subset_cons_self _ _), ?_⟩
          rw [append_assoc]
          exact hsub.append hperm
    · next c' err h =>
        rw [h] at htrail herr
        split
        · next hkeys =>
            -- a packet without keys comes back to the queue as it was
            have hnone : handled = [] := by
              rcases herr err rfl with ⟨hnil, -⟩ | ⟨_, _, _, _, -, -, hfail⟩
              · exact hnil
              · obtain ⟨what, hwhat⟩ := handleFrame_error hfail
                rw [hkeys] at hwhat
                cases hwhat
            subst hnone
            obtain ⟨later, hlater, hsub', herr', hok⟩ := ih c' hrest
            refine ⟨later, htrail.trans hlater, ?_, ?_, ?_⟩
            · exact hsub'.trans (sublist_append_right _ _).subperm
            · exact fun err h => (herr' err (eq_error_of_map h)).imp_right (Fails.of_trail htrail)
            · intro deferred progressed h
              obtain ⟨⟨deferred', flag⟩, heq, hpair⟩ := exists_of_map_eq_ok h
              cases hpair
              obtain ⟨hmem, hperm⟩ := hok deferred' flag heq
              refine ⟨cons_subset_cons _ hmem, ?_⟩
              have hswap := perm_append_comm_assoc later packet.contents
                (deferred'.flatMap contents)
              exact hswap.subperm.trans ((List.Subperm.refl _).append hperm)
        · refine ⟨handled, htrail, hsub.trans (sublist_append_left _ _).subperm, ?_, ?_⟩
          · intro err' h
            rw [← error.inj h]
            exact (herr err rfl).imp_left And.right
          · exact fun deferred progressed h => (by cases h)

lemma trail_recvLoop (hplain : Plain e plain) (fuel : Nat) (c : Conn τ κ)
    (queue : List (Packet κ)) (hqueue : ∀ packet ∈ queue, PlainPacket plain packet) :
    ∃ handled, Trail e c handled (recvLoop e fuel c queue).1 ∧
      List.Subperm handled (queue.flatMap contents) ∧
      ∀ err, (recvLoop e fuel c queue).2 = .error err → plain err ∨ Fails e c handled err := by
  induction fuel generalizing c queue with
  | zero => exact ⟨[], .refl, nil_subperm, fun err h => (by cases h)⟩
  | succ fuel ih =>
    obtain ⟨handled, htrail, hsub, herr, hok⟩ := trail_recvPass hplain c queue hqueue
    unfold recvLoop
    split
    · next h =>
        rw [h] at htrail herr
        exact ⟨handled, htrail, hsub, fun err heq => herr err (congrArg _ (error.inj heq))⟩
    · next c₁ deferred progressed h =>
        rw [h] at htrail hok
        obtain ⟨hmem, hperm⟩ := hok deferred progressed rfl
        have hpump : Trail e c₁ [] (c₁.pumpTls e).1 := .of_acts (acts_pumpTls e c₁)
        have hpumped := htrail.trans hpump
        rw [append_nil] at hpumped
        split
        · next c₂ err h =>
            rw [h] at hpumped
            refine ⟨handled, hpumped, hsub, fun err' herr' => .inl ?_⟩
            exact pumpTls_error hplain ((congrArg snd h).trans herr')
        · next c₂ _ h =>
            rw [h] at hpumped
            split
            · exact ⟨handled, hpumped, hsub, fun err' herr' => (by cases herr')⟩
            · obtain ⟨later, hlater, hsub', herr'⟩ :=
                ih c₂ deferred fun packet hpkt => hqueue packet (hmem hpkt)
              refine ⟨handled ++ later, hpumped.trans hlater, ?_, fun err h => ?_⟩
              · exact ((List.Subperm.refl _).append hsub').trans hperm
              · exact (herr' err h).imp_right (Fails.of_trail hpumped)

lemma trail_recv (hplain : Plain e plain) (c : Conn τ κ) (packets : List (Packet κ))
    (hpkts : ∀ packet ∈ packets, PlainPacket plain packet) :
    ∃ handled, Trail e c handled (c.recv e (.ok packets)).1 ∧
      List.Subperm handled (packets.flatMap contents) ∧
      ∀ err, (c.recv e (.ok packets)).2 = .error err → plain err ∨ Fails e c handled err :=
  trail_recvLoop hplain _ c packets hpkts

lemma acts_recv {datagram : Datagram κ}
    (ok : ∀ packets, datagram = .ok packets → ∀ packet ∈ packets, ∀ level frame,
      packet.Carries level frame → allowed level frame) :
    Acts e allowed c (c.recv e datagram).1 := by
  cases datagram with
  | error err => exact .refl
  | ok packets =>
    obtain ⟨handled, htrail, hsub, -⟩ :=
      trail_recv plain_any c packets fun packet _ => plainPacket_any packet
    refine htrail.acts fun entry hentry => ?_
    obtain ⟨packet, hpkt, hmem⟩ := mem_flatMap.mp (hsub.subset hentry)
    exact ok packets rfl packet hpkt _ _ (carries_of_mem hmem)

end

/-! ## Packets that leave -/

lemma buildPackets_cons (h : c.buildPackets (level :: rest) = some (d, packets)) :
    ∃ c₁ first others, c.buildPacket level = some (c₁, first) ∧
      c₁.buildPackets rest = some (d, others) ∧ packets = first ++ others := by
  obtain ⟨⟨c₁, first⟩, hfirst, h⟩ := bind_eq_some_iff.mp h
  obtain ⟨⟨c₂, others⟩, hoths, h⟩ := bind_eq_some_iff.mp h
  cases h
  exact ⟨c₁, first, others, hfirst, hoths, rfl⟩

lemma buildPackets_invariant {Inv : Conn τ κ → Prop}
    (hpkt : ∀ c c' level packets, c.buildPacket level = some (c', packets) → Inv c → Inv c')
    {ls : List Level} {c c' : Conn τ κ} {packets : List (Packet κ)}
    (h : c.buildPackets ls = some (c', packets)) (hc : Inv c) : Inv c' := by
  induction ls generalizing c packets with
  | nil =>
    cases h
    exact hc
  | cons level rest ih =>
    obtain ⟨c₁, first, others, hfirst, hoths, -⟩ := buildPackets_cons h
    exact ih hoths (hpkt c c₁ level first hfirst hc)

lemma buildPackets_levels (h : c.buildPackets levels = some (d, packets)) :
    ∃ c₁ c₂ first second third, c.buildPacket .initial = some (c₁, first) ∧
      c₁.buildPacket .handshake = some (c₂, second) ∧ c₂.buildPacket .data = some (d, third) := by
  obtain ⟨c₁, first, _, hinit, h, -⟩ := buildPackets_cons h
  obtain ⟨c₂, second, _, hshake, h, -⟩ := buildPackets_cons h
  obtain ⟨c₃, third, _, hdata, h, -⟩ := buildPackets_cons h
  cases h
  exact ⟨c₁, c₂, first, second, third, hinit, hshake, hdata⟩

lemma acts_primed (e : Engine τ κ) (c : Conn τ κ) : Acts e allowed c (c.primed e) := by
  unfold primed
  split
  · exact acts_pumpTls e c
  · exact .refl

lemma pollTransmit_cases (h : c.pollTransmit e = some (c', datagram)) :
    (c.closed = true ∧ c' = c ∧ datagram = none) ∨
      ∃ d packets, c.closed = false ∧ (c.primed e).buildPackets levels = some (d, packets) ∧
        c'.account = d.account ∧ datagram.getD [] = packets := by
  unfold pollTransmit at h
  split at h
  · next hclos =>
      cases h
      exact .inl ⟨hclos, rfl, rfl⟩
  · next hclos =>
      obtain ⟨⟨d, packets⟩, hbuilt, h⟩ := bind_eq_some_iff.mp h
      refine .inr ⟨d, packets, Bool.eq_false_iff.mpr hclos, hbuilt, ?_⟩
      split at h
      · next hempty =>
          cases h
          exact ⟨rfl, (isEmpty_iff.mp hempty).symm⟩
      · cases h
        refine ⟨?_, rfl⟩
        split <;> rfl

/-! ## What acknowledgements and losses leave alone -/

section
variable {v : Conn τ κ → α}

lemma foldl_same (hf : ∀ c p, v (f c p) = v c)
    (out : List SentPacket) (c : Conn τ κ) : v (out.foldl f c) = v c := by
  induction out generalizing c with
  | nil => rfl
  | cons p rest ih => rw [foldl_cons, ih, hf]

lemma detectLost_same (hrcv : ∀ c recovery, v { c with recovery := recovery } = v c)
    (hreq : ∀ level c p, v (requeue level c p) = v c) (c : Conn τ κ) (level : Level) :
    v (c.detectLost level).1 = v c := by
  unfold detectLost requeueLost
  rw [foldl_same (hreq level), hrcv]

lemma handleAck_same (hrcv : ∀ c recovery, v { c with recovery := recovery } = v c)
    (hreq : ∀ level c p, v (requeue level c p) = v c)
    (hforget : ∀ level c p, v (forgetAcked level c p) = v c) (c : Conn τ κ) (level : Level)
    (largest delay firstRange : Nat) (ranges : List AckRange) :
    v (c.handleAck level largest delay firstRange ranges) = v c := by
  unfold handleAck
  rw [detectLost_same hrcv hreq, foldl_same (hforget level), hrcv]

end

/-! ## What is noted of what comes in -/

def Noted (P : Event → Prop) (c c' : Conn τ κ) : Prop :=
  ∃ events, c'.trace = c.trace ++ events ∧ ∀ event ∈ events, P event

section

lemma Noted.of_eq (h : c'.trace = c.trace) : Noted P c c' :=
  ⟨[], by rw [h, append_nil], forall_mem_nil _⟩

lemma Noted.of_event (h : c'.trace = c.trace ++ [event]) (hevent : P event) : Noted P c c' :=
  ⟨[event], h, forall_mem_singleton.mpr hevent⟩

lemma Noted.trans (h : Noted P c₁ c₂) (h' : Noted P c₂ c₃) : Noted P c₁ c₃ := by
  obtain ⟨events, htrace, hevents⟩ := h
  obtain ⟨events', htrac', hevents'⟩ := h'
  refine ⟨events ++ events', ?_, forall_mem_append.mpr ⟨hevents, hevents'⟩⟩
  rw [htrac', htrace, append_assoc]

lemma Noted.foldl (hf : ∀ c p, Noted P c (f c p))
    (out : List SentPacket) (c : Conn τ κ) : Noted P c (out.foldl f c) := by
  induction out generalizing c with
  | nil => exact .of_eq rfl
  | cons p rest ih => exact (hf c p).trans (ih _)

lemma Noted.filterMap (h : Noted (fun event => f event = none) c c') :
    c'.trace.filterMap f = c.trace.filterMap f := by
  obtain ⟨events, htrace, hevents⟩ := h
  rw [htrace, filterMap_append, filterMap_eq_nil_iff.mpr hevents, append_nil]

lemma Noted.imp (hPQ : ∀ event, P event → Q event) (h : Noted P c c') : Noted Q c c' := by
  obtain ⟨events, htrace, hevents⟩ := h
  exact ⟨events, htrace, fun event hevent => hPQ event (hevents event hevent)⟩

lemma noted_detectLost (hlost : ∀ level pn frames, P (.lost level pn frames)) (c : Conn τ κ)
    (level : Level) : Noted P c (c.detectLost level).1 := by
  have hreq : ∀ (c : Conn τ κ) (p : SentPacket), Noted P c (requeue level c p) := by
    intro c p
    have htrace : (requeue level c p).trace = c.trace ++ [.lost level p.pn _] := rfl
    exact .of_event htrace (hlost _ _ _)
  have hrcv : Noted P c { c with recovery := (c.recovery.detectLost level c.now).1 } :=
    .of_eq rfl
  exact hrcv.trans (.foldl hreq _ _)

lemma noted_handleAck (hlost : ∀ level pn frames, P (.lost level pn frames))
    (hacked : ∀ level pn frames, P (.acked level pn frames)) (c : Conn τ κ) (level : Level)
    (largest delay firstRange : Nat) (ranges : List AckRange) :
    Noted P c (c.handleAck level largest delay firstRange ranges) := by
  have hforget : ∀ (c : Conn τ κ) (p : SentPacket), Noted P c (forgetAcked level c p) := by
    intro c p
    have htrace : (forgetAcked level c p).trace = c.trace ++ [.acked level p.pn _] := rfl
    exact .of_event htrace (hacked _ _ _)
  have hrcv : Noted P c { c with
      recovery := (c.recovery.onAck level largest firstRange ranges delay c.now).1 } :=
    .of_eq rfl
  have hforg := hrcv.trans (.foldl hforget
    (c.recovery.onAck level largest firstRange ranges delay c.now).2 _)
  exact hforg.trans (noted_detectLost hlost _ level)

end

/-- Packets and frames that arrived, and packets that were acknowledged or lost. -/
abbrev Learned (c c' : Conn τ κ) : Prop := Noted (fun event => event.incoming = true) c c'

lemma learned_handleFrame {level : Level} : Learned c (c.handleFrame level frame).1 := by
  cases frame with
  | ack largest delay firstRange ranges =>
    exact noted_handleAck (fun _ _ _ => rfl) (fun _ _ _ => rfl) c level largest delay firstRange
      ranges
  | stream id offset fin data =>
    rcases c.handleFrame_stream level id offset fin data with ⟨-, h⟩ | ⟨fc, -, ⟨-, h⟩ | ⟨-, h⟩⟩
    · rw [h]
      exact .of_eq rfl
    · rw [h]
      exact .of_event rfl rfl
    · rw [h]
      exact .of_event rfl rfl
  | handshakeDone =>
    unfold handleFrame
    dsimp only
    split <;> exact .of_eq rfl
  | datagram data => exact .of_event rfl rfl
  | _ => exact .of_eq rfl

lemma learned_act (h : Act e allowed c c') : Learned c c' := by
  cases h with
  | quiet same => exact .of_eq (congrArg Account.trace same)
  | adopt params first _ => cases params <;> exact .of_eq rfl
  | received level pn => exact .of_event rfl rfl
  | frame level frame ok => exact learned_handleFrame
  | lost level => exact noted_detectLost (fun _ _ _ => rfl) c level

lemma learned_acts (h : Acts e allowed c c') : Learned c c' := by
  induction h with
  | refl => exact .of_eq rfl
  | tail _ act ih => exact ih.trans (learned_act act)

end

/-! ## Any call -/

def Brings (i : Input κ) (level : Level) (frame : Frame) : Prop :=
  ∃ packets, i = .recv (.ok packets) ∧ ∃ packet ∈ packets, packet.Carries level frame

/-- What the application does to its streams is done at once.  Any other call is a
sequence of acts, or it polls. -/
lemma step_cases [DecidableEq κ] (e : Engine τ κ) (c : Conn τ κ) (i : Input κ) :
    (∃ bidi, i = .openStream bidi) ∨ (∃ id data fin, i = .write id data fin) ∨
      (∃ id, i = .read id) ∨ i = .poll ∨ i ≠ .poll ∧ Acts e (Brings i) c (c.step e i).1 := by
  cases i with
  | timeout now => exact .inr (.inr (.inr (.inr ⟨(by rintro ⟨⟩), acts_onTimeout c now⟩)))
  | openStream bidi => exact .inl ⟨bidi, rfl⟩
  | write id data fin => exact .inr (.inl ⟨id, data, fin, rfl⟩)
  | read id => exact .inr (.inr (.inl ⟨id, rfl⟩))
  | close application errorCode reason =>
    refine .inr (.inr (.inr (.inr ⟨(by rintro ⟨⟩), Acts.quiet ?_⟩)))
    unfold step close
    dsimp only
    split <;> rfl
  | recv datagram =>
    refine .inr (.inr (.inr (.inr ⟨(by rintro ⟨⟩), acts_recv ?_⟩)))
    rintro packets rfl packet hpkt level frame hcarr
    exact ⟨packets, rfl, packet, hpkt, hcarr⟩
  | poll => exact .inr (.inr (.inr (.inl rfl)))
  | _ => exact .inr (.inr (.inr (.inr ⟨(by rintro ⟨⟩), Acts.quiet rfl⟩)))

lemma poll_invariant [DecidableEq κ] {Inv : Conn τ κ → Prop}
    (hact : ∀ c c', Act e allowed c c' → Inv c → Inv c')
    (hpkt : ∀ c c' level packets, c.buildPacket level = some (c', packets) → Inv c → Inv c')
    (hc : Inv c) : Inv (c.step e .poll).1 := by
  unfold step
  dsimp only
  split
  · next hpoll =>
      rcases pollTransmit_cases hpoll with ⟨-, rfl, -⟩ | ⟨d, packets, -, hbuilt, hsame, -⟩
      · exact hc
      · have hprimed : Inv (c.primed e) := (acts_primed e c).invariant hact hc
        exact hact d _ (.quiet hsame) (buildPackets_invariant hpkt hbuilt hprimed)
  · exact hc

lemma step_invariant [DecidableEq κ] {Inv : Conn τ κ → Prop} (e : Engine τ κ) (c : Conn τ κ)
    (i : Input κ) (hopen : ∀ bidi, i = .openStream bidi → Inv c → Inv (c.openStream bidi).1)
    (hwrite : ∀ id data fin, Inv c → Inv (c.writeStream id data fin))
    (hread : ∀ id, Inv c → Inv (c.readStream id).1)
    (hact : ∀ c c', Act e (Brings i) c c' → Inv c → Inv c')
    (hpkt : ∀ c c' level packets, c.buildPacket level = some (c', packets) → Inv c → Inv c')
    (hc : Inv c) : Inv (c.step e i).1 := by
  rcases c.step_cases e i with ⟨bidi, rfl⟩ | ⟨id, data, fin, rfl⟩ | ⟨id, rfl⟩ | rfl | ⟨-, hacts⟩
  · exact hopen bidi rfl hc
  · exact hwrite id data fin hc
  · exact hread id hc
  · exact poll_invariant hact hpkt hc
  · exact hacts.invariant hact hc

end Conn
end MeshBus.Quic
