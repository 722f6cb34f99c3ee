import MeshBus.Quic.Acts

/-!
# Passes over a datagram

`recv` goes through the packets of a datagram in passes, with a pass of TLS after
each.  A packet is put off, refused or opened.
-/

namespace MeshBus.Quic

open Lib List PerLevel Nat Prod

def Header.foreign : Header → Bool
  | .long _ version _ _ _ => version ≠ version1
  | .short _ _ => false

/-! ## A pass of TLS -/

lemma drainChunks_again (next : Nat) (chunks : List (Nat × Bytes)) :
    drainChunks (drainChunks next chunks).2.2 (drainChunks next chunks).2.1 =
      ([], (drainChunks next chunks).2.1, (drainChunks next chunks).2.2) := by
  induction chunks generalizing next with
  | nil => rfl
  | cons chunk rest ih =>
    obtain ⟨off, data⟩ := chunk
    by_cases hlt : next < off
    · have hstays : drainChunks next ((off, data) :: rest) = ([], (off, data) :: rest, next) :=
        if_pos hlt
      rw [hstays]
      exact hstays
    · have hgoes : (drainChunks next ((off, data) :: rest)).2 =
          (drainChunks (next + (data.drop (next - off)).length) rest).2 := by
        rw [drainChunks, if_neg hlt]
      rw [hgoes]
      exact ih _

/-- All handshake data that is in order was handed out. -/
def CryptoStream.Drained (s : CryptoStream) : Prop := s.readInOrder = (s, [])

lemma CryptoStream.drained_readInOrder (s : CryptoStream) : s.readInOrder.1.Drained := by
  have hagain := drainChunks_again s.rxNext s.rxBuf.entries
  unfold Drained readInOrder readChunks
  simp only [hagain]

lemma CryptoStream.drained_of_empty {s : CryptoStream} (h : s.rxBuf.entries = []) :
    s.Drained := by
  obtain ⟨tx, txOff, rxNext, entries, sorted⟩ := s
  obtain rfl : entries = [] := h
  rfl

/-- TLS that has written all it has to write has nothing more to write until it reads. -/
def Engine.Settles {τ κ : Type} (e : Engine τ κ) : Prop :=
  ∀ tls, e.writeHandshake (e.writeHandshake tls).1 = ((e.writeHandshake tls).1, [], [])

lemma PerLevel.set_get (p : PerLevel α) (level : Level) : p.set level (p.get level) = p := by
  cases level <;> rfl

namespace Conn
variable {τ κ : Type}

def Drained (c : Conn τ κ) (level : Level) : Prop := (c.spaces.get level).crypto.Drained

variable {level : Level}

lemma readLevel_of_drained {c : Conn τ κ} (h : c.Drained level) :
    c.readLevel e level = (c, .ok ()) := by
  have hread : (c.spaces.get level).crypto.readInOrder = ((c.spaces.get level).crypto, []) := h
  unfold readLevel
  dsimp only
  rw [hread]
  rw [set_get]
  rfl

lemma readLevels_of_drained {c : Conn τ κ} (h : ∀ level, c.Drained level) :
    c.readLevels e ls = (c, .ok ()) := by
  induction ls with
  | nil => rfl
  | cons level rest ih =>
    unfold readLevels
    rw [readLevel_of_drained (h level)]
    exact ih

lemma drained_readLevel (e : Engine τ κ) (c : Conn τ κ) (level level' : Level)
    (h : level' = level ∨ c.Drained level') : (c.readLevel e level).1.Drained level' := by
  have hsps : (c.readLevel e level).1.spaces = c.spaces.set level { c.spaces.get level with
      crypto := (c.spaces.get level).crypto.readInOrder.1 } := by
    unfold readLevel
    dsimp only
    split <;> rfl
  unfold Drained
  rw [hsps, get_set]
  split
  · exact CryptoStream.drained_readInOrder _
  · next hne => exact h.resolve_left hne

lemma drained_readLevels {c : Conn τ κ} (hok : (c.readLevels e ls).2 = .ok ())
    (h : level ∈ ls ∨ c.Drained level) : (c.readLevels e ls).1.Drained level := by
  induction ls generalizing c with
  | nil => exact h.resolve_left not_mem_nil
  | cons first rest ih =>
    have hfirst := drained_readLevel e c first level
    unfold readLevels at hok ⊢
    split at hok
    · cases hok
    · next d _ heq =>
        rw [heq] at hfirst
        refine ih hok ?_
        rcases h with h | h
        · exact (mem_cons.mp h).elim (fun heq => .inr (hfirst (.inl heq))) .inl
        · exact .inr (hfirst (.inr h))

lemma drained_pushHandshake {c : Conn τ κ} (h : c.Drained level) {data : Bytes} :
    (c.pushHandshake data).Drained level := by
  have hpush : ∀ s : CryptoStream, s.Drained → (s.pushTx data).Drained := by
    intro s hs
    have hread := congrArg (fun r => (({ r.1 with tx := s.tx ++ data } : CryptoStream), r.2)) hs
    exact hread
  unfold pushHandshake Drained
  rw [get_set]
  split
  · next heq => exact hpush _ (heq ▸ h)
  · exact h

lemma drained_writeHandshake {e : Engine τ κ} {c : Conn τ κ} (h : c.Drained level) :
    (c.writeHandshake e).Drained level := by
  refine @writeHandshake_invariant _ _ e c (Drained · level)
    (fun _ data hd => drained_pushHandshake hd) (fun d change hd => ?_) h
  cases change <;> exact hd

lemma tls_writeHandshake {e : Engine τ κ} {c : Conn τ κ} :
    (c.writeHandshake e).tls = (e.writeHandshake c.tls).1 := by
  refine @writeHandshake_invariant _ _ e c (·.tls = (e.writeHandshake c.tls).1)
    (fun _ _ hd => hd) (fun d change hd => ?_) rfl
  cases change <;> exact hd

lemma writeHandshake_of_idle {c : Conn τ κ}
    (h : e.writeHandshake c.tls = (c.tls, [], [])) : c.writeHandshake e = c := by
  have hpush : (c.spaces.get c.writeLevel).crypto.pushTx [] = (c.spaces.get c.writeLevel).crypto := by
    unfold CryptoStream.pushTx
    rw [append_nil]
  unfold writeHandshake
  rw [h]
  dsimp only [foldl_nil, pushHandshake]
  rw [hpush, set_get]

lemma spaces_learnParams (e : Engine τ κ) (c : Conn τ κ) :
    (c.learnParams e).spaces = c.spaces ∧ (c.learnParams e).tls = c.tls := by
  unfold learnParams
  split
  · next params _ _ => cases params <;> exact ⟨rfl, rfl⟩
  · exact ⟨rfl, rfl⟩

lemma learnParams_again {e : Engine τ κ} {c : Conn τ κ} :
    (c.learnParams e).peerParams ≠ none ∨
      e.peerTransportParameters (c.learnParams e).tls = none := by
  unfold learnParams
  split
  · exact .inl (by rintro ⟨⟩)
  · next hother =>
      cases hknown : c.peerParams with
      | some params => exact .inl (by rintro ⟨⟩)
      | none =>
        refine .inr (Option.eq_none_iff_forall_ne_some.mpr fun params hprms => ?_)
        exact hother params hknown hprms

lemma confirm_fields (e : Engine τ κ) (c : Conn τ κ) :
    (c.confirm e).tls = c.tls ∧ (c.confirm e).peerParams = c.peerParams ∧
      (c.confirm e).spaces = c.spaces ∧ (c.confirm e).confirm e = c.confirm e := by
  unfold confirm
  split
  · refine ⟨rfl, rfl, rfl, if_neg ?_⟩
    rintro ⟨-, -, ⟨⟩⟩
  · exact ⟨rfl, rfl, rfl, rfl⟩

lemma pumpTls_of_idle {c : Conn τ κ} (hdrain : ∀ level, c.Drained level)
    (hidle : e.writeHandshake c.tls = (c.tls, [], []))
    (hprms : c.peerParams ≠ none ∨ e.peerTransportParameters c.tls = none)
    (hconf : c.confirm e = c) : c.pumpTls e = (c, .ok ()) := by
  have hlear : c.learnParams e = c := by
    unfold learnParams
    split
    · next hnone hsome =>
        rcases hprms with hknown | hunkn
        · exact absurd hnone hknown
        · rw [hunkn] at hsome
          cases hsome
    · rfl
  unfold pumpTls
  rw [readLevels_of_drained hdrain]
  dsimp only
  rw [writeHandshake_of_idle hidle, hlear, hconf]

lemma pumpTls_again (hsettles : e.Settles) {c d : Conn τ κ}
    (h : c.pumpTls e = (d, .ok ())) : d.pumpTls e = (d, .ok ()) := by
  unfold pumpTls at h
  split at h
  · cases (Prod.mk.inj h).2
  · next c₁ _ hread =>
      obtain ⟨hsps, htls⟩ := spaces_learnParams e (c₁.writeHandshake e)
      obtain ⟨htls', hprms', hsps', hconf⟩ := confirm_fields e ((c₁.writeHandshake e).learnParams e)
      rw [(Prod.mk.inj h).1] at htls' hprms' hsps' hconf
      refine pumpTls_of_idle (fun level => ?_) ?_ ?_ hconf
      · have hlevel : level ∈ levels := by cases level <;> decide
        have hdrain := drained_readLevels (by rw [hread]) (.inl hlevel)
        rw [hread] at hdrain
        unfold Drained
        rw [hsps', hsps]
        exact drained_writeHandshake hdrain
      · rw [htls', htls, tls_writeHandshake]
        exact hsettles _
      · rw [hprms', htls']
        exact learnParams_again

lemma trace_pumpTls (e : Engine τ κ) (c : Conn τ κ) : (c.pumpTls e).1.trace = c.trace := by
  rcases pumpTls_cases e c with honly | ⟨d, params, hbef, -, -, hafter⟩
  · exact congrArg Account.trace honly.account
  · refine (congrArg Account.trace hafter.account).trans ?_
    refine Eq.trans ?_ (congrArg Account.trace hbef.account)
    cases params <;> rfl

def origin (c : Conn τ κ) : ConnectionId × Option κ := (c.dcid, c.rxKeys.get .initial)

lemma origin_pumpTls (e : Engine τ κ) (c : Conn τ κ) : (c.pumpTls e).1.origin = c.origin := by
  have hread : (c.readLevels e levels).1.origin = c.origin := by
    refine @readLevels_invariant _ _ e c (·.origin = c.origin) (fun d level hd => ?_) levels rfl
    unfold readLevel
    dsimp only
    split <;> exact hd
  have hwrite : ∀ d : Conn τ κ, (d.writeHandshake e).origin = d.origin := by
    intro d
    refine @writeHandshake_invariant _ _ e d (·.origin = d.origin) (fun _ _ h => h)
      (fun _ change h => ?_) rfl
    cases change <;> exact h
  have hlast : ∀ d : Conn τ κ, ((d.learnParams e).confirm e).origin = d.origin := by
    intro d
    have hlear : (d.learnParams e).origin = d.origin := by
      unfold learnParams
      split
      · next params _ _ => cases params <;> rfl
      · rfl
    refine Eq.trans ?_ hlear
    unfold confirm
    split <;> rfl
  unfold pumpTls
  split
  · next heq =>
      rw [heq] at hread
      exact hread
  · next d _ heq =>
      rw [heq] at hread
      exact (hlast _).trans ((hwrite d).trans hread)

/-! ## One packet -/

lemma keys_handleFrame (c : Conn τ κ) (level : Level) (frame : Frame) :
    ((c.handleFrame level frame).1.side, (c.handleFrame level frame).1.rxKeys) =
      (c.side, c.rxKeys) := by
  cases frame with
  | ack largest delay firstRange ranges =>
    exact @handleAck_same _ _ _ (fun c => (c.side, c.rxKeys)) (fun _ _ => rfl)
      (fun _ _ _ => rfl) (fun _ _ _ => rfl) c level largest delay firstRange ranges
  | stream id offset fin data =>
    rcases c.handleFrame_stream level id offset fin data with ⟨-, heq⟩ | ⟨fc, -, ⟨-, heq⟩ | ⟨-, heq⟩⟩
    · rw [heq]
    · rw [heq]
      rfl
    · rw [heq]
      rfl
  | handshakeDone =>
    unfold handleFrame
    dsimp only
    split <;> rfl
  | _ => rfl

lemma keys_handleFrames (c : Conn τ κ) (level : Level) (frames : List Frame) :
    ((c.handleFrames level frames).1.side, (c.handleFrames level frames).1.rxKeys) =
      (c.side, c.rxKeys) := by
  induction frames generalizing c with
  | nil => rfl
  | cons frame rest ih =>
    have hone := c.keys_handleFrame level frame
    unfold handleFrames
    split
    · next heq =>
        rw [heq] at hone
        exact hone
    · next heq =>
        rw [heq] at hone
        exact (ih _).trans hone

lemma keys_decryptAndHandle [DecidableEq κ] (c : Conn τ κ) (header : Header) {body : Sealed κ} :
    ((c.decryptAndHandle header short body).1.side,
      (c.decryptAndHandle header short body).1.rxKeys) = (c.side, c.rxKeys) := by
  unfold decryptAndHandle
  dsimp only
  split
  · rfl
  · split
    · rfl
    · split
      · rfl
      · rfl
      · exact keys_handleFrames _ _ _

lemma keys_adoptInitial (e : Engine τ κ) (c : Conn τ κ) (ty : LongType)
    (dcid scid : ConnectionId) :
    (c.adoptInitial e ty dcid scid).1.side = c.side ∧
      ∀ level, ¬(c.side = .server ∧ level = .initial) →
        (c.adoptInitial e ty dcid scid).1.rxKeys.get level = c.rxKeys.get level := by
  unfold adoptInitial installInitialKeys
  split
  · next hcond =>
      split
      · exact ⟨rfl, fun _ _ => rfl⟩
      · refine ⟨rfl, fun level hlevel => ?_⟩
        show (PerLevel.set _ _ _).get level = _
        rw [get_set, if_neg fun h => hlevel ⟨hcond.1, h⟩]
  · exact ⟨rfl, fun _ _ => rfl⟩

def LacksKeys (c : Conn τ κ) : Packet κ → Prop
  | .malformed _ => False
  | .whole header _ _ =>
    header.foreign = false ∧ c.rxKeys.get header.level = none ∧
      ¬(c.side = .server ∧ header.level = .initial)

section
variable [DecidableEq κ]
variable {e : Engine τ κ} {packet : Packet κ}

lemma recvOne_of_adopted {c d : Conn τ κ} {ty : LongType} {version : Nat}
    {dcid scid : ConnectionId} {pn : TruncatedPn} {short : Bool} {body : Sealed κ}
    (hver : ¬version ≠ version1) (h : c.adoptInitial e ty dcid scid = (d, .ok ())) :
    c.recvOne e (.whole (.long ty version dcid scid pn) short body) =
      d.decryptAndHandle (.long ty version dcid scid pn) short body := by
  unfold recvOne
  dsimp only
  rw [if_neg hver, h]

lemma recvOne_of_not_adopted {c d : Conn τ κ}
    {dcid scid : ConnectionId} (pn : TruncatedPn) (short : Bool) (body : Sealed κ)
    (hver : ¬version ≠ version1) (h : c.adoptInitial e ty dcid scid = (d, .error err)) :
    c.recvOne e (.whole (.long ty version dcid scid pn) short body) = (d, .error err) := by
  unfold recvOne
  dsimp only
  rw [if_neg hver, h]

lemma recvOne_of_lacksKeys (e : Engine τ κ) {c : Conn τ κ} (h : c.LacksKeys packet) :
    c.recvOne e packet = (c, .error noKeys) := by
  cases packet with
  | malformed err => exact h.elim
  | whole header short body =>
    obtain ⟨hknown, hnone, hadopts⟩ := h
    have hdecr : c.decryptAndHandle header short body = (c, .error noKeys) := by
      unfold decryptAndHandle
      dsimp only
      rw [hnone]
    cases header with
    | short dcid pn => exact hdecr
    | long ty version dcid scid pn =>
      have hver : ¬version ≠ version1 := of_decide_eq_false hknown
      have hadopt : c.adoptInitial e ty dcid scid = (c, .ok ()) := by
        refine if_neg fun hcond => hadopts ⟨hcond.1, ?_⟩
        rw [hcond.2.1]
        rfl
      rw [recvOne_of_adopted hver hadopt]
      exact hdecr

lemma recvOne_of_other_key (e : Engine τ κ) {c : Conn τ κ}
    (hkey : c.rxKeys.get .data = some key) (dcid : ConnectionId) (pn : TruncatedPn)
    (body : Sealed κ) (hother : body.key ≠ key) :
    c.recvOne e (.whole (.short dcid pn) false body) = (c, .error (openError .data)) := by
  show c.decryptAndHandle (.short dcid pn) false body = _
  dsimp only [decryptAndHandle, Header.level, Header.pn]
  rw [hkey]
  dsimp only
  rw [if_neg Bool.false_ne_true, Sealed.openWith, if_neg fun h => hother h.1]

lemma decryptAndHandle_cases (e : Engine τ κ) {c : Conn τ κ}
    (hkey : c.rxKeys.get header.level = some key) (hpay : body.payload ≠ .error noKeys) :
    (∃ err, c.decryptAndHandle header short body = (c, .error err) ∧ err ≠ noKeys) ∨
      (∃ pn events, (c.decryptAndHandle header short body).1.trace =
        c.trace ++ .decrypted header.level pn :: events) ∧
        (c.decryptAndHandle header short body).2 ≠ .error noKeys := by
  unfold decryptAndHandle
  dsimp only
  rw [hkey]
  dsimp only
  split
  · exact .inl ⟨.shortBuffer, rfl, by rintro ⟨⟩⟩
  · split
    · refine .inl ⟨_, rfl, ?_⟩
      cases header.level <;> decide
    · next err hopen =>
        refine .inr ⟨⟨_, [], rfl⟩, fun h => hpay ?_⟩
        exact (payload_of_openWith hopen).trans (congrArg _ (Except.error.inj h))
    · next frames hopen =>
        generalize decodePacketNumber ((c.spaces.get header.level).largestRecv.getD 0) header.pn = pn
        obtain ⟨handled, htrail, -, herr⟩ := @trail_handleFrames _ _ e
          (c.markReceived header.level pn) header.level frames
        have hacts : Acts e (fun _ _ => True) _ (handleFrames _ header.level frames).1 :=
          htrail.acts fun _ _ => True.intro
        obtain ⟨events, htrace, -⟩ := learned_acts hacts
        refine .inr ⟨⟨pn, events, ?_⟩, fun h => ?_⟩
        · rw [htrace]
          exact append_assoc _ _ _
        · obtain ⟨_, _, _, _, -, -, hfail⟩ := herr _ h
          obtain ⟨what, hwhat⟩ := handleFrame_error hfail
          cases hwhat

def Decrypts (e : Engine τ κ) (c : Conn τ κ) (packet : Packet κ) : Prop :=
  ∃ level pn events, (c.recvOne e packet).1.trace = c.trace ++ .decrypted level pn :: events

lemma Decrypts.length_lt {c : Conn τ κ} (h : c.Decrypts e packet) :
    c.trace.length < (c.recvOne e packet).1.trace.length := by
  obtain ⟨level, pn, events, htrace⟩ := h
  rw [htrace, length_append]
  exact Nat.lt_add_of_pos_right (zero_lt_succ _)

def Fares (e : Engine τ κ) (c : Conn τ κ) (packet : Packet κ) : Prop :=
  c.LacksKeys packet ∨
    (∃ d err, c.recvOne e packet = (d, .error err) ∧ err ≠ noKeys ∧ d.trace = c.trace ∧
      (d.origin = c.origin → d = c)) ∨
    c.Decrypts e packet ∧ (c.recvOne e packet).2 ≠ .error noKeys

lemma Fares.of_decrypts (hpay : body.payload ≠ .error noKeys)
    (heq : c.recvOne e (.whole header short body) = d.decryptAndHandle header short body)
    (hkey : d.rxKeys.get header.level = some key) (htrace : d.trace = c.trace)
    (horigin : d.origin = c.origin → d = c) : Fares e c (.whole header short body) := by
  unfold Fares Decrypts
  rw [heq]
  rcases decryptAndHandle_cases e hkey hpay with
    ⟨err, href, hne⟩ | ⟨⟨pn, events, hnoted⟩, hne⟩
  · exact .inr (.inl ⟨d, err, href, hne, htrace, horigin⟩)
  · rw [htrace] at hnoted
    exact .inr (.inr ⟨⟨header.level, pn, events, hnoted⟩, hne⟩)

lemma fares_recvOne (hkeys : ∀ dcid, e.initialKeys dcid ≠ .error noKeys) (c : Conn τ κ)
    (hpkt : PlainPacket (· ≠ noKeys) packet) : Fares e c packet := by
  cases packet with
  | malformed err => exact .inr (.inl ⟨c, err, rfl, hpkt, rfl, fun _ => rfl⟩)
  | whole header short body =>
    have hpay : body.payload ≠ .error noKeys := fun h => hpkt noKeys h rfl
    cases header with
    | short dcid pn =>
      cases hkey : c.rxKeys.get .data with
      | none => exact .inl ⟨rfl, hkey, fun h => (by cases h.2)⟩
      | some key => exact .of_decrypts hpay rfl hkey rfl fun _ => rfl
    | long ty version dcid scid pn =>
      by_cases hver : version ≠ version1
      · have heq : c.recvOne e (.whole (.long ty version dcid scid pn) short body) =
            (c, .error (.unsupportedVersion version)) := if_pos hver
        exact .inr (.inl ⟨c, _, heq, (by rintro ⟨⟩), rfl, fun _ => rfl⟩)
      have hknown : (Header.long ty version dcid scid pn).foreign = false := decide_eq_false hver
      by_cases hadopts : c.side = .server ∧ ty = .initial ∧ (c.rxKeys.get .initial).isNone
      · have hinst : c.adoptInitial e ty dcid scid =
            { c with dcid := scid }.installInitialKeys e dcid.bytes := if_pos hadopts
        obtain ⟨hserver, rfl, hnone⟩ := hadopts
        unfold installInitialKeys at hinst
        cases hpair : e.initialKeys dcid.bytes with
        | error err =>
          rw [hpair] at hinst
          have hone := recvOne_of_not_adopted pn short body hver hinst
          refine .inr (.inl ⟨_, err, hone, fun h => hkeys _ (h ▸ hpair), rfl, fun h => ?_⟩)
          rw [show scid = c.dcid from congrArg fst h]
        | ok pair =>
          rw [hpair] at hinst
          refine .of_decrypts hpay (recvOne_of_adopted hver hinst) rfl rfl fun h => ?_
          have hsome : some _ = c.rxKeys.get .initial := congrArg snd h
          rw [← hsome] at hnone
          cases hnone
      · have hadopt : c.adoptInitial e ty dcid scid = (c, .ok ()) := if_neg hadopts
        have hone := @recvOne_of_adopted _ _ _ e c c ty version dcid scid pn short body hver hadopt
        cases hkey : c.rxKeys.get ty.level with
        | none =>
          refine .inl ⟨hknown, hkey, fun h => hadopts ⟨h.1, ?_, ?_⟩⟩
          · cases ty with
            | initial => rfl
            | handshake => cases h.2
          · rw [← show ty.level = .initial from h.2, hkey]
            rfl
        | some key => exact .of_decrypts hpay hone hkey rfl fun _ => rfl

lemma keys_recvOne (e : Engine τ κ) (c : Conn τ κ) (packet : Packet κ) :
    (c.recvOne e packet).1.side = c.side ∧
      ∀ level, ¬(c.side = .server ∧ level = .initial) →
        (c.recvOne e packet).1.rxKeys.get level = c.rxKeys.get level := by
  have hdecr : ∀ (d : Conn τ κ) (header : Header) (short : Bool) (body : Sealed κ),
      (d.decryptAndHandle header short body).1.side = d.side ∧
        (d.decryptAndHandle header short body).1.rxKeys = d.rxKeys :=
    fun d header short body => Prod.mk.inj (d.keys_decryptAndHandle header)
  unfold recvOne
  split
  · exact ⟨rfl, fun _ _ => rfl⟩
  · exact ⟨(hdecr _ _ _ _).1, fun _ _ => by rw [(hdecr _ _ _ _).2]⟩
  · next ty version dcid scid pn short body =>
      have hadopt := keys_adoptInitial e c ty dcid scid
      split
      · exact ⟨rfl, fun _ _ => rfl⟩
      · split
        · next heq =>
            rw [heq] at hadopt
            exact hadopt
        · next heq =>
            rw [heq] at hadopt
            refine ⟨(hdecr _ _ _ _).1.trans hadopt.1, fun level hlevel => ?_⟩
            rw [(hdecr _ _ _ _).2]
            exact hadopt.2 level hlevel

lemma LacksKeys.recvOne {c : Conn τ κ} (h : c.LacksKeys packet) (other : Packet κ) :
    (c.recvOne e other).1.LacksKeys packet := by
  obtain ⟨hside, hkeys⟩ := keys_recvOne e c other
  cases packet with
  | malformed err => exact h
  | whole header short body =>
    obtain ⟨hknown, hnone, hadopts⟩ := h
    exact ⟨hknown, (hkeys _ hadopts).trans hnone, by rw [hside]; exact hadopts⟩

/-! ## Passes -/

lemma recvPass_of_lacksKeys (e : Engine τ κ) {c : Conn τ κ}
    (h : ∀ packet ∈ queue, c.LacksKeys packet) : c.recvPass e queue = (c, .ok (queue, false)) := by
  induction queue with
  | nil => rfl
  | cons packet rest ih =>
    obtain ⟨hpkt, hrest⟩ := forall_mem_cons.mp h
    unfold recvPass
    rw [recvOne_of_lacksKeys e hpkt]
    dsimp only
    rw [ih hrest]
    rfl

lemma recvPass_taken {c : Conn τ κ} (rest : List (Packet κ))
    (h : (c.recvOne e packet).2 = .ok ()) :
    c.recvPass e (packet :: rest) = (((c.recvOne e packet).1.recvPass e rest).1,
      ((c.recvOne e packet).1.recvPass e rest).2.map fun result => (result.1, true)) := by
  rw [recvPass]
  rcases hone : c.recvOne e packet with ⟨d, err | _⟩
  · rw [hone] at h
    cases h
  · rfl

lemma recvPass_putOff {c : Conn τ κ} (rest : List (Packet κ))
    (h : (c.recvOne e packet).2 = .error noKeys) :
    c.recvPass e (packet :: rest) = (((c.recvOne e packet).1.recvPass e rest).1,
      ((c.recvOne e packet).1.recvPass e rest).2.map
        fun result => (packet :: result.1, result.2)) := by
  rw [recvPass]
  rcases hone : c.recvOne e packet with ⟨d, err | _⟩
  · rw [hone] at h
    rw [Except.error.inj h]
    dsimp only
    rw [if_pos rfl]
  · rw [hone] at h
    cases h

lemma recvPass_refused {c d : Conn τ κ} (rest : List (Packet κ))
    (h : c.recvOne e packet = (d, .error err)) (hne : err ≠ noKeys) :
    c.recvPass e (packet :: rest) = (d, .error err) := by
  rw [recvPass, h]
  dsimp only
  rw [if_neg hne]

lemma length_trace_recvPass (e : Engine τ κ) (c : Conn τ κ) (queue : List (Packet κ)) :
    c.trace.length ≤ (c.recvPass e queue).1.trace.length := by
  obtain ⟨handled, htrail, -⟩ :=
    trail_recvPass plain_any c queue fun packet _ => plainPacket_any packet
  have hacts : Acts e (fun _ _ => True) c (c.recvPass e queue).1 :=
    htrail.acts fun _ _ => True.intro
  obtain ⟨events, htrace, -⟩ := learned_acts hacts
  rw [htrace, length_append]
  omega

lemma recvPass_deferred {c : Conn τ κ} {taken : Bool}
    (h : (c.recvPass e queue).2 = .ok (deferred, taken)) :
    deferred.Sublist queue ∧ (taken = true → deferred.length < queue.length) := by
  induction queue generalizing c deferred taken with
  | nil =>
    cases h
    exact ⟨.slnil, fun h => (by cases h)⟩
  | cons packet rest ih =>
    unfold recvPass at h
    split at h
    · obtain ⟨⟨deferred', taken'⟩, heq, hpair⟩ := exists_of_map_eq_ok h
      cases hpair
      obtain ⟨hsub, -⟩ := ih heq
      exact ⟨hsub.cons _, fun _ => lt_succ_of_le hsub.length_le⟩
    · split at h
      · obtain ⟨⟨deferred', taken'⟩, heq, hpair⟩ := exists_of_map_eq_ok h
        cases hpair
        obtain ⟨hsub, hlt⟩ := ih heq
        exact ⟨hsub.cons_cons _, fun htaken => succ_lt_succ (hlt htaken)⟩
      · cases h

/-! ## The loop -/

lemma recvLoop_refused (fuel : Nat) (h : c.recvPass e queue = (d, .error err)) :
    recvLoop e (fuel + 1) c queue = (d, .error err) := by
  rw [recvLoop, h]

lemma recvLoop_passed {c d : Conn τ κ} {taken : Bool} (fuel : Nat)
    (h : c.recvPass e queue = (d, .ok (deferred, taken))) :
    recvLoop e (fuel + 1) c queue =
      if (d.pumpTls e).2 = .ok () ∧ deferred ≠ [] ∧ taken = true then
        recvLoop e fuel (d.pumpTls e).1 deferred
      else d.pumpTls e := by
  rw [recvLoop, h]
  dsimp only
  rcases d.pumpTls e with ⟨d', err | _⟩
  · rw [if_neg fun h => (by cases h.1)]
  · cases deferred <;> cases taken <;> simp

lemma recvLoop_fuel (e : Engine τ κ) (c : Conn τ κ) (h : queue.length < fuel)
    (h' : queue.length < fuel') : recvLoop e fuel c queue = recvLoop e fuel' c queue := by
  induction fuel generalizing fuel' c queue with
  | zero => omega
  | succ fuel ih =>
    cases fuel' with
    | zero => omega
    | succ fuel' =>
      rcases hpass : c.recvPass e queue with ⟨d, err | ⟨deferred, taken⟩⟩
      · rw [recvLoop_refused _ hpass, recvLoop_refused _ hpass]
      · rw [recvLoop_passed _ hpass, recvLoop_passed _ hpass]
        split
        · next hgoes =>
            have hfewer := (recvPass_deferred (by rw [hpass])).2 hgoes.2.2
            exact ih _ (lt_of_lt_of_le hfewer (le_of_lt_succ h))
              (lt_of_lt_of_le hfewer (le_of_lt_succ h'))
        · rfl

lemma recvLoop_of_lacksKeys (h : ∀ packet ∈ queue, c.LacksKeys packet)
    (hpump : (c.pumpTls e).1 = c) (fuel : Nat) : (recvLoop e fuel c queue).1 = c := by
  cases fuel with
  | zero => rfl
  | succ fuel =>
    rw [recvLoop_passed fuel (recvPass_of_lacksKeys e h), if_neg fun h => (by cases h.2.2)]
    exact hpump

/-- A pass that took a packet is followed by the next one, even if there is nothing left
for it to do. -/
lemma recvLoop_goesOn (hsettles : e.Settles) (hfuel : 0 < fuel)
    (hpass : c.recvPass e queue = (d, .ok (deferred, true))) (hpump : d.pumpTls e = (d', .ok ())) :
    recvLoop e (fuel + 1) c queue = recvLoop e fuel d' deferred := by
  rw [recvLoop_passed fuel hpass, hpump]
  cases deferred with
  | cons packet rest => exact if_pos ⟨rfl, cons_ne_nil _ _, rfl⟩
  | nil =>
    rw [if_neg fun h => h.2.1 rfl]
    obtain ⟨fuel, rfl⟩ := exists_eq_succ_of_ne_zero (ne_of_gt hfuel)
    have hnoth : d'.recvPass e [] = (d', .ok ([], false)) := rfl
    rw [recvLoop_passed fuel hnoth, if_neg fun h => h.2.1 rfl, pumpTls_again hsettles hpump]

lemma length_trace_recvLoop {queue : List (Packet κ)} :
    c.trace.length ≤ (recvLoop e fuel c queue).1.trace.length := by
  obtain ⟨handled, htrail, -⟩ :=
    trail_recvLoop plain_any fuel c queue fun packet _ => plainPacket_any packet
  have hacts : Acts e (fun _ _ => True) c (recvLoop e fuel c queue).1 :=
    htrail.acts fun _ _ => True.intro
  obtain ⟨events, htrace, -⟩ := learned_acts hacts
  rw [htrace, length_append]
  omega

lemma length_trace_passed {c d : Conn τ κ} {taken : Bool} (fuel : Nat)
    (h : c.recvPass e queue = (d, .ok (deferred, taken))) :
    d.trace.length ≤ (recvLoop e (fuel + 1) c queue).1.trace.length := by
  rw [recvLoop_passed fuel h]
  split
  · rw [← trace_pumpTls e d]
    exact length_trace_recvLoop
  · rw [trace_pumpTls]

end
end Conn
end MeshBus.Quic
