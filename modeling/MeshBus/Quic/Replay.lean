import MeshBus.Quic.Limits

/-!
# A packet that arrives again

A connection keeps no record of the packet numbers it has opened.  A packet that is
opened again has its frames handled again: its datagrams are delivered again and its
stream data is counted again.
-/

namespace MeshBus.Quic

open Lib List List.Subset StreamMap OrdMap FlowController RecvStream

def Event.delivered? : Event → Option Bytes
  | .delivered data => some data
  | _ => none

/-- The datagrams that went into the queue of the application. -/
def delivered (trace : List Event) : List Bytes := trace.filterMap Event.delivered?

lemma delivered_append : delivered (t ++ t') = delivered t ++ delivered t' := filterMap_append

/-- Frames that neither deliver a datagram nor use credit when they are handled one
after the other.  Stream data that does not fit in the credit ends it. -/
def spent (available : Nat) : List Frame → Bool
  | [] => true
  | .datagram _ :: _ => false
  | .stream _ _ _ data :: rest =>
    if data.isEmpty then spent available rest else decide (available < data.length)
  | _ :: rest => spent available rest

namespace Conn
variable {τ κ : Type}

def contents (c : Conn τ κ) (id : Nat) : SendStream × Chunks × Nat :=
  ((c.streams.entry id).send, (c.streams.entry id).recv.chunks, (c.streams.entry id).recv.readOff)

/-- No datagram was delivered, no credit used or granted, and no stream changed. -/
structure Unaffected (c c' : Conn τ κ) : Prop where
  datagrams : delivered c'.trace = delivered c.trace
  received : c'.recvFc = c.recvFc
  sent : c'.sendFc = c.sendFc
  streams : c'.contents = c.contents

lemma Unaffected.trans (h : Unaffected c₁ c₂) (h' : Unaffected c₂ c₃) :
    Unaffected c₁ c₃ where
  datagrams := h'.datagrams.trans h.datagrams
  received := h'.received.trans h.received
  sent := h'.sent.trans h.sent
  streams := h'.streams.trans h.streams

/-! ## What a packet leaves behind -/

/-- The streams of some frames are there, and the limits in them are known. -/
structure Remembers (c : Conn τ κ) (frames : List Frame) : Prop where
  streams : ∀ id offset fin data, .stream id offset fin data ∈ frames →
    id ∈ c.streams.streams.keys
  limits : ∀ max, .maxData max ∈ frames → max ≤ c.sendFc.limit

/-- No stream is taken away and no limit lowered. -/
structure Keeps (c c' : Conn τ κ) : Prop where
  streams : c.streams.streams.keys ⊆ c'.streams.streams.keys
  limit : c.sendFc.limit ≤ c'.sendFc.limit

variable {c c' : Conn τ κ} {frames : List Frame}

lemma Remembers.of_keeps (h : Remembers c frames) (hkeeps : Keeps c c') :
    Remembers c' frames where
  streams id offset fin data hmem := hkeeps.streams (h.streams id offset fin data hmem)
  limits max hmem := le_trans (h.limits max hmem) hkeeps.limit

lemma Keeps.refl (c : Conn τ κ) : Keeps c c := ⟨List.Subset.refl _, le_rfl⟩

lemma Keeps.trans (h : Keeps c₁ c₂) (h' : Keeps c₂ c₃) : Keeps c₁ c₃ :=
  ⟨List.Subset.trans h.streams h'.streams, le_trans h.limit h'.limit⟩

lemma Keeps.of_same (h : (c'.streams, c'.sendFc) = (c.streams, c.sendFc)) : Keeps c c' := by
  obtain ⟨hstrs, hsend⟩ := Prod.mk.inj h
  exact ⟨by rw [hstrs]; exact List.Subset.refl _, by rw [hsend]⟩

lemma keys_subset_modify (m : StreamMap) (id : Nat) (f : Stream → Stream) :
    m.streams.keys ⊆ (m.modify id f).streams.keys := by
  intro id' hid'
  rw [← isSome_lookup] at hid' ⊢
  unfold StreamMap.modify
  rw [lookup_insert]
  split
  · rfl
  · exact hid'

lemma mem_keys_modify (m : StreamMap) (id : Nat) (f : Stream → Stream) :
    id ∈ (m.modify id f).streams.keys := by
  rw [← isSome_lookup]
  unfold StreamMap.modify
  rw [lookup_insert, if_pos rfl]
  rfl

lemma keys_setPeerMax (m : StreamMap) (bidi : Bool) (value : Nat) :
    (m.setPeerMax bidi value).streams = m.streams := by
  unfold setPeerMax
  split <;> rfl

lemma keeps_setLimit (fc : FlowController) (limit : Nat) :
    fc.limit ≤ (fc.setLimit limit).limit := by
  rw [(fc.setLimit_spec limit).2]
  omega

lemma keeps_handleFrame (c : Conn τ κ) (level : Level) (frame : Frame) :
    Keeps c (c.handleFrame level frame).1 := by
  cases frame with
  | ack largest delay firstRange ranges =>
    exact .of_same (@handleAck_same _ _ _ (fun c => (c.streams, c.sendFc)) (fun _ _ => rfl)
      (fun _ _ _ => rfl) (fun _ _ _ => rfl) c level largest delay firstRange ranges)
  | stream id offset fin data =>
    rcases c.handleFrame_stream level id offset fin data with ⟨-, heq⟩ | ⟨fc, -, ⟨-, heq⟩ | ⟨-, heq⟩⟩
    · rw [heq]
      exact .refl c
    · rw [heq]
      exact .of_same rfl
    · rw [heq]
      exact ⟨keys_subset_modify _ _ _, le_rfl⟩
  | resetStream id errorCode finalSize => exact ⟨keys_subset_modify _ _ _, le_rfl⟩
  | maxData max => exact ⟨refl _, keeps_setLimit _ _⟩
  | maxStreams bidi max =>
    refine ⟨?_, le_rfl⟩
    show c.streams.streams.keys ⊆ (c.streams.setPeerMax bidi max).streams.keys
    rw [keys_setPeerMax]
    exact refl _
  | handshakeDone =>
    unfold handleFrame
    dsimp only
    split <;> exact .of_same rfl
  | _ => exact .of_same rfl

lemma keeps_act (h : Act e allowed c c') : Keeps c c' := by
  cases h with
  | quiet same => exact .of_same (congrArg (fun a => (a.streams, a.sendFc)) same)
  | adopt params first _ =>
    cases params with
    | error err => exact .of_same rfl
    | ok peer =>
      refine ⟨?_, keeps_setLimit _ _⟩
      show c.streams.streams.keys ⊆ ((c.streams.setPeerMax true peer.initialMaxStreamsBidi
        ).setPeerMax false peer.initialMaxStreamsUni).streams.keys
      exact refl _
  | received level pn => exact .of_same rfl
  | frame level frame ok => exact keeps_handleFrame c level frame
  | lost level =>
    exact .of_same (@detectLost_same _ _ _ (fun c => (c.streams, c.sendFc)) (fun _ _ => rfl)
      (fun _ _ _ => rfl) c level)

lemma keys_subset_takeStreams (ids : List Nat) (m : StreamMap) (remaining : Nat) :
    m.streams.keys ⊆ (takeStreams ids m remaining).2.streams.keys := by
  induction ids generalizing m remaining with
  | nil => exact List.Subset.refl _
  | cons id ids ih => exact List.Subset.trans (keys_subset_modify m id _) (ih _ _)

lemma keeps_buildPacket (hbuilt : c.buildPacket level = some (c', packets)) : Keeps c c' := by
  have hgath : ∀ d frames, Gathers c level d frames →
      c.streams.streams.keys ⊆ d.streams.streams.keys := by
    intro d frames hgath
    cases hgath with
    | control _ same _ =>
      rw [show d.streams = c.streams from congrArg Account.streams same]
      exact refl _
    | app _ _ same _ =>
      rw [show d.streams = c.fresh.2 from congrArg Account.streams (same.trans c.account_appFrames)]
      exact keys_subset_takeStreams _ _ _
  refine ⟨?_, le_of_eq (sendLimit_buildPacket hbuilt).symm⟩
  exact @buildPacket_invariant _ _ (fun d => c.streams.streams.keys ⊆ d.streams.streams.keys) _ _ _ _
    hbuilt (refl _) (fun d frames hd _ => hgath d frames hd)
    (fun d frames _ _ hd => hgath d frames hd)

lemma keys_subset_openNext (m : StreamMap) (bidi : Bool) :
    m.streams.keys ⊆ (m.openNext bidi).1.streams.keys := by
  have hins : ∀ id : Nat, m.streams.keys ⊆ (m.streams.insert id {}).keys := by
    intro id id' hid'
    rw [← isSome_lookup] at hid' ⊢
    rw [lookup_insert]
    split
    · rfl
    · exact hid'
  unfold openNext
  cases bidi with
  | true =>
    rw [if_pos rfl]
    split
    · exact refl _
    · exact hins _
  | false =>
    rw [if_neg Bool.false_ne_true]
    split
    · exact refl _
    · exact hins _

lemma keeps_step [DecidableEq κ] : Keeps c (c.step e i).1 := by
  refine @step_invariant _ _ _ (fun d => Keeps c d) e c i ?_ ?_ ?_
    (fun _ _ hact h => h.trans (keeps_act hact))
    (fun _ _ _ _ hbuilt h => h.trans (keeps_buildPacket hbuilt)) (.refl c)
  · exact fun bidi _ _ => ⟨keys_subset_openNext _ _, le_rfl⟩
  · exact fun id data fin _ => ⟨keys_subset_modify _ _ _, le_rfl⟩
  · exact fun id _ => ⟨keys_subset_modify _ _ _, le_rfl⟩

lemma remembers_handleFrames (h : (c.handleFrames level frames).2 = .ok ()) :
    Remembers (c.handleFrames level frames).1 frames := by
  have hkeeps : ∀ (frames : List Frame) (c : Conn τ κ), Keeps c (c.handleFrames level frames).1 := by
    intro frames
    induction frames with
    | nil => exact Keeps.refl
    | cons frame rest ih =>
      intro c
      have hone := c.keeps_handleFrame level frame
      unfold handleFrames
      split
      · next heq =>
          rw [heq] at hone
          exact hone
      · next heq =>
          rw [heq] at hone
          exact hone.trans (ih _)
  induction frames generalizing c with
  | nil => exact ⟨fun _ _ _ _ hmem => (by cases hmem), fun _ hmem => (by cases hmem)⟩
  | cons frame rest ih =>
    unfold handleFrames at h ⊢
    split at h
    · cases h
    · next d _ heq =>
        have hrest := ih h
        have hlater := hkeeps rest d
        refine ⟨fun id offset fin data hmem => ?_, fun max hmem => ?_⟩
        · rcases mem_cons.mp hmem with rfl | hmem
          · refine hlater.streams ?_
            rcases c.handleFrame_stream level id offset fin data with
              ⟨-, hcase⟩ | ⟨fc, -, ⟨-, hcase⟩ | ⟨-, hcase⟩⟩
            · rw [hcase] at heq
              cases (Prod.mk.inj heq).2
            · rw [hcase] at heq
              cases (Prod.mk.inj heq).2
            · rw [hcase] at heq
              rw [← (Prod.mk.inj heq).1]
              exact mem_keys_modify _ _ _
          · exact hrest.streams id offset fin data hmem
        · rcases mem_cons.mp hmem with rfl | hmem
          · refine le_trans ?_ hlater.limit
            rw [← (Prod.mk.inj heq).1]
            show max ≤ (c.sendFc.setLimit max).limit
            rw [(c.sendFc.setLimit_spec max).2]
            omega
          · exact hrest.limits max hmem

/-! ## Frames that are handled again -/

lemma Unaffected.of_noted (hnoted : Noted (fun event => event.delivered? = none) c c')
    (hsame : (c'.recvFc, c'.sendFc) = (c.recvFc, c.sendFc)) (hstrs : c'.contents = c.contents) :
    Unaffected c c' :=
  ⟨Noted.filterMap hnoted, (Prod.mk.inj hsame).1, (Prod.mk.inj hsame).2, hstrs⟩

lemma contents_modify {id : Nat} {f : RecvStream → RecvStream}
    (hstrs : c'.streams = c.streams.modify id fun s => { s with recv := f s.recv })
    (hf : ∀ s, (f s).chunks = s.chunks ∧ (f s).readOff = s.readOff) :
    c'.contents = c.contents := by
  funext id'
  unfold contents
  rw [hstrs, entry_modify]
  split
  · next heq =>
      subst heq
      rw [(hf _).1, (hf _).2]
  · rfl

lemma ingest_nil (s : RecvStream) (offset : Nat) (fin : Bool) :
    (s.ingest offset [] fin).chunks = s.chunks ∧ (s.ingest offset [] fin).readOff = s.readOff := by
  unfold ingest
  cases fin <;> simp

lemma handleFrame_nil {id : Nat} (hid : id ∈ c.streams.streams.keys) {level : Level} :
    (c.handleFrame level (.stream id offset fin [])).2 = .ok () ∧
      Unaffected c (c.handleFrame level (.stream id offset fin [])).1 := by
  have hcap : c.streams.wouldExceedCap id = false := by
    unfold wouldExceedCap
    rw [← isSome_lookup] at hid
    rw [Option.isNone_eq_false_iff.mpr hid, Bool.false_and]
  rcases c.handleFrame_stream level id offset fin [] with ⟨hnone, -⟩ | ⟨fc, hfc, ⟨hover, -⟩ | ⟨-, heq⟩⟩
  · cases hnone
  · rw [hcap] at hover
    cases hover
  · cases hfc
    rw [heq]
    refine ⟨rfl, .of_noted (.of_event rfl rfl) rfl ?_⟩
    exact contents_modify rfl fun s => ingest_nil s offset fin

/-- Any frame but a datagram or stream data leaves datagrams, credit and streams alone
once it is remembered. -/
lemma handleFrame_unaffected {level : Level} (hmem : Remembers c [frame])
    (hdgram : ∀ data, frame ≠ .datagram data)
    (hstr : ∀ id offset fin data, frame = .stream id offset fin data → data = []) :
    (c.handleFrame level frame).2 = .ok () ∧ Unaffected c (c.handleFrame level frame).1 := by
  cases frame with
  | ack largest delay firstRange ranges =>
    have hsame := @handleAck_same _ _ _ (fun c => (c.streams, c.recvFc, c.sendFc))
      (fun _ _ => rfl) (fun _ _ _ => rfl) (fun _ _ _ => rfl) c level largest delay firstRange
      ranges
    obtain ⟨hstrs, hcred⟩ := Prod.mk.inj hsame
    refine ⟨rfl, .of_noted (noted_handleAck (fun _ _ _ => rfl) (fun _ _ _ => rfl) c level largest
      delay firstRange ranges) hcred ?_⟩
    funext id
    unfold contents
    rw [show (c.handleFrame level (.ack largest delay firstRange ranges)).1.streams = c.streams
      from hstrs]
  | stream id offset fin data =>
    obtain rfl := hstr id offset fin data rfl
    exact handleFrame_nil (hmem.streams id offset fin [] mem_cons_self)
  | resetStream id errorCode finalSize =>
    exact ⟨rfl, .of_noted (.of_eq rfl) rfl (contents_modify rfl fun s => ⟨rfl, rfl⟩)⟩
  | maxData max =>
    have hlimit : c.sendFc.setLimit max = c.sendFc := by
      unfold setLimit
      rw [if_neg (not_lt.mpr (hmem.limits max mem_cons_self))]
    exact ⟨rfl, rfl, rfl, hlimit, rfl⟩
  | maxStreams bidi max =>
    refine ⟨rfl, rfl, rfl, rfl, ?_⟩
    funext id
    unfold contents
    show _ = _
    have hentry : (c.streams.setPeerMax bidi max).entry id = c.streams.entry id := by
      unfold entry
      rw [keys_setPeerMax]
    rw [show (c.handleFrame level (.maxStreams bidi max)).1.streams.entry id = _ from hentry]
  | handshakeDone =>
    unfold handleFrame
    dsimp only
    split <;> exact ⟨rfl, rfl, rfl, rfl, rfl⟩
  | datagram data => exact absurd rfl (hdgram data)
  | _ => exact ⟨rfl, rfl, rfl, rfl, rfl⟩

lemma handleFrames_of_ok (h : (c.handleFrame level frame).2 = .ok ()) :
    c.handleFrames level (frame :: rest) = (c.handleFrame level frame).1.handleFrames level rest := by
  rw [handleFrames]
  split
  · next heq =>
      rw [heq] at h
      cases h
  · next heq => rw [heq]

lemma grows_handleFrames (e : Engine τ κ) (c : Conn τ κ) (level : Level) (frames : List Frame) :
    (∃ more, delivered (c.handleFrames level frames).1.trace = delivered c.trace ++ more) ∧
      c.recvFc.used ≤ (c.handleFrames level frames).1.recvFc.used := by
  obtain ⟨handled, htrail, -, -⟩ := @trail_handleFrames _ _ e c level frames
  have hacts : Acts e (fun _ _ => True) c (c.handleFrames level frames).1 :=
    htrail.acts fun _ _ => True.intro
  obtain ⟨events, htrace, -⟩ := learned_acts hacts
  refine ⟨⟨delivered events, ?_⟩, ?_⟩
  · rw [htrace, delivered_append]
  · exact @Acts.invariant _ _ e _ (fun d => c.recvFc.used ≤ d.recvFc.used)
      (fun _ _ hact h => le_trans h (recvFc_act_le hact).2) _ _ hacts (le_rfl)

lemma unaffected_handleFrames_iff (e : Engine τ κ) (level : Level) (hmem : Remembers c frames) :
    Unaffected c (c.handleFrames level frames).1 ↔
      spent (c.recvFc.limit - c.recvFc.used) frames = true := by
  induction frames generalizing c with
  | nil => exact ⟨fun _ => rfl, fun _ => ⟨rfl, rfl, rfl, rfl⟩⟩
  | cons frame rest ih =>
    have hone : Remembers c [frame] := ⟨fun id offset fin data h => hmem.streams id offset fin data
          (mem_cons.mpr (.inl (mem_singleton.mp h))),
        fun max h => hmem.limits max (mem_cons.mpr (.inl (mem_singleton.mp h)))⟩
    have hrest : Remembers c rest :=
      ⟨fun id offset fin data h => hmem.streams id offset fin data (mem_cons_of_mem _ h),
        fun max h => hmem.limits max (mem_cons_of_mem _ h)⟩
    -- a frame without an effect is followed by the others
    have hquiet : (c.handleFrame level frame).2 = .ok () →
        Unaffected c (c.handleFrame level frame).1 →
        (Unaffected c (c.handleFrames level (frame :: rest)).1 ↔
          spent (c.recvFc.limit - c.recvFc.used) rest = true) := by
      intro hok hsame
      have hnext := ih (hrest.of_keeps (c.keeps_handleFrame level frame))
      rw [hsame.received] at hnext
      rw [← hnext, handleFrames_of_ok hok]
      refine ⟨fun h => ?_, fun h => hsame.trans h⟩
      exact ⟨h.datagrams.trans hsame.datagrams.symm, h.received.trans hsame.received.symm,
        h.sent.trans hsame.sent.symm, h.streams.trans hsame.streams.symm⟩
    cases frame with
    | datagram data =>
      refine ⟨fun h => ?_, fun h => (by cases h)⟩
      have hnext : (c.handleFrames level (.datagram data :: rest)).1 =
          ((({ c with datagrams := c.datagrams.ingest data } : Conn τ κ).note
            (.delivered data)).handleFrames level rest).1 := rfl
      obtain ⟨⟨more, hmore⟩, -⟩ := grows_handleFrames e
        (({ c with datagrams := c.datagrams.ingest data } : Conn τ κ).note (.delivered data))
        level rest
      have hlen := congrArg length h.datagrams
      rw [hnext, hmore, show (({ c with datagrams := c.datagrams.ingest data } : Conn τ κ).note
        (.delivered data)).trace = c.trace ++ [.delivered data] from rfl, delivered_append,
        length_append, length_append] at hlen
      have hnew : (delivered [Event.delivered data]).length = 1 := rfl
      omega
    | stream id offset fin data =>
      by_cases hempty : data = []
      · subst hempty
        obtain ⟨hok, hsame⟩ := handleFrame_nil
          (hone.streams id offset fin [] mem_cons_self)
        exact hquiet hok hsame
      · have hspent : spent (c.recvFc.limit - c.recvFc.used)
            (.stream id offset fin data :: rest) =
              decide (c.recvFc.limit - c.recvFc.used < data.length) := by
          show (if data.isEmpty then _ else _) = _
          rw [if_neg (fun h => hempty (isEmpty_iff.mp h))]
        have hpos : 0 < data.length := length_pos_iff.mpr hempty
        rw [hspent, decide_eq_true_iff]
        unfold handleFrames
        rcases c.handleFrame_stream level id offset fin data with
          ⟨hnone, heq⟩ | ⟨fc, hfc, hcase⟩
        · rw [heq]
          refine ⟨fun _ => ?_, fun _ => ⟨rfl, rfl, rfl, rfl⟩⟩
          refine Nat.lt_of_not_le fun hle => ?_
          rw [consume_eq_some.mpr ⟨hle, rfl⟩] at hnone
          cases hnone
        · obtain ⟨hle, hused⟩ := consume_eq_some.mp hfc
          refine ⟨fun h => ?_, fun h => absurd hle (not_le.mpr h)⟩
          have hafter : c.recvFc.used + data.length ≤
              (c.handleFrames level (.stream id offset fin data :: rest)).1.recvFc.used := by
            unfold handleFrames
            rcases hcase with ⟨-, heq⟩ | ⟨-, heq⟩
            · rw [heq]
              show _ ≤ fc.used
              rw [hused]
            · rw [heq]
              refine le_trans ?_ (grows_handleFrames e _ level rest).2
              show _ ≤ fc.used
              rw [hused]
          have hsame : (c.handleFrames level (.stream id offset fin data :: rest)).1.recvFc =
            c.recvFc := h.received
          rw [hsame] at hafter
          omega
    | _ =>
      obtain ⟨hok, hsame⟩ := handleFrame_unaffected hone (by rintro _ ⟨⟩)
        (by rintro _ _ _ _ ⟨⟩)
      exact hquiet hok hsame

/-! ## Packets that are opened again -/

section
variable [DecidableEq κ]

def Opens (c : Conn τ κ) (packet : Packet κ) (frames : List Frame) : Prop :=
  ∃ dcid pn body key, packet = .whole (.short dcid pn) false body ∧
    c.rxKeys.get .data = some key ∧
    body.openWith key (decodePacketNumber ((c.spaces.get .data).largestRecv.getD 0) pn)
      (.short dcid pn) = some (.ok frames)

lemma Opens.unique
    (h : Opens c packet frames) (h' : Opens c' packet frames') : frames' = frames := by
  obtain ⟨dcid, pn, body, key, rfl, -, hopen⟩ := h
  obtain ⟨dcid', pn', body', key', heq, -, hopen'⟩ := h'
  obtain ⟨-, -, rfl⟩ := Packet.whole.inj heq
  have hpay := (payload_of_openWith hopen).symm.trans (payload_of_openWith hopen')
  exact (Except.ok.inj hpay).symm

lemma recvOne_of_opens (h : Opens c packet frames) :
    ∃ pn, c.recvOne e packet = (c.markReceived .data pn).handleFrames .data frames := by
  obtain ⟨dcid, pn, body, key, rfl, hkey, hopen⟩ := h
  refine ⟨decodePacketNumber ((c.spaces.get .data).largestRecv.getD 0) pn, ?_⟩
  show c.decryptAndHandle (.short dcid pn) false body = _
  dsimp only [decryptAndHandle, Header.level, Header.pn]
  rw [hkey]
  dsimp only
  rw [if_neg Bool.false_ne_true, hopen]

/-- A packet of the data level that is not opened changes nothing, but for the number
of one whose payload is malformed. -/
lemma recvOne_of_not_opens (e : Engine τ κ) {dcid : ConnectionId}
    (h : ∀ frames, ¬Opens c (.whole (.short dcid pn) short body) frames) :
    (c.recvOne e (.whole (.short dcid pn) short body)).1 = c ∨
      ∃ num, (c.recvOne e (.whole (.short dcid pn) short body)).1 = c.markReceived .data num := by
  show (c.decryptAndHandle (.short dcid pn) short body).1 = c ∨
    ∃ num, (c.decryptAndHandle (.short dcid pn) short body).1 = c.markReceived .data num
  unfold decryptAndHandle
  dsimp only
  split
  · exact .inl rfl
  · next key hkey =>
      split
      · exact .inl rfl
      · next hshort =>
          split
          · exact .inl rfl
          · exact .inr ⟨_, rfl⟩
          · next frames hopen =>
              refine absurd ⟨dcid, pn, body, key, ?_, hkey, hopen⟩ (h frames)
              rw [Bool.eq_false_iff.mpr hshort]

lemma recv_single (e : Engine τ κ) (c : Conn τ κ) (packet : Packet κ) :
    (c.recv e (.ok [packet])).1 = (c.recvOne e packet).1 ∨
      (c.recv e (.ok [packet])).1 = ((c.recvOne e packet).1.pumpTls e).1 := by
  show (recvLoop e 2 c [packet]).1 = _ ∨ (recvLoop e 2 c [packet]).1 = _
  unfold recvLoop recvPass
  rcases hone : c.recvOne e packet with ⟨d, err | _⟩
  · dsimp only
    by_cases hkeys : err = noKeys
    · rw [if_pos hkeys]
      refine .inr ?_
      dsimp only [recvPass, Except.map]
      rcases d.pumpTls e with ⟨d', err' | _⟩ <;> rfl
    · rw [if_neg hkeys]
      exact .inl rfl
  · refine .inr ?_
    dsimp only [recvPass, Except.map]
    rcases d.pumpTls e with ⟨d', err' | _⟩ <;> rfl

end

/-! ## Frames that change nothing -/

/-- A frame of the data level that changes nothing when it is handled. -/
def Still (c : Conn τ κ) : Frame → Prop
  | .ack .. => False
  | .crypto offset data => offset + data.length ≤ (c.spaces.get .data).crypto.rxNext
  | .resetStream id _ _ =>
    ∃ stream, c.streams.streams.lookup id = some stream ∧ stream.recv.stopped = true
  | .stream id offset fin data =>
    data = [] ∧ ∃ stream, c.streams.streams.lookup id = some stream ∧
      (fin = true → stream.recv.finalSize = some offset)
  | .maxData max => max ≤ c.sendFc.limit
  | .maxStreamData _ max => max ≤ c.peerStreamData
  | .maxStreams bidi max => max ≤ if bidi then c.streams.peerMaxBidi else c.streams.peerMaxUni
  | .connectionClose .. => c.closed = true
  | .handshakeDone => c.side = .client → c.handshakeConfirmed = true
  | .datagram _ => False
  | _ => True

lemma modify_eq_self {m : StreamMap} {id : Nat}
    (hfound : m.streams.lookup id = some stream) (hf : f stream = stream) : m.modify id f = m := by
  have hentry : m.entry id = stream := by
    unfold StreamMap.entry
    rw [hfound]
    rfl
  unfold StreamMap.modify
  rw [hentry, hf, insert_eq_self hfound]

lemma handleFrame_of_still (h : c.Still frame) :
    ∃ trace, c.handleFrame .data frame = ({ c with trace := trace }, .ok ()) := by
  have hsame : ∀ d, d = c → ∃ trace, (d, (.ok () : Except Error Unit)) =
      ({ c with trace := trace }, .ok ()) := by
    rintro _ rfl
    exact ⟨_, rfl⟩
  cases frame with
  | ack largest delay firstRange ranges => exact h.elim
  | crypto offset data =>
    have hrecv : (c.spaces.get .data).crypto.recv offset data = (c.spaces.get .data).crypto :=
      if_pos h
    exact hsame _ (congrArg (fun crypto => { c with
      spaces := c.spaces.set .data { c.spaces.get .data with crypto := crypto } }) hrecv)
  | resetStream id errorCode finalSize =>
    obtain ⟨stream, hfound, hstopp⟩ := h
    have hstop : { stream with recv := stream.recv.stop } = stream := by
      unfold stop
      rw [← hstopp]
    exact hsame _ (congrArg (fun streams => { c with streams := streams })
      (modify_eq_self hfound hstop))
  | stream id offset fin data =>
    obtain ⟨rfl, stream, hfound, hfin⟩ := h
    have hcap : c.streams.wouldExceedCap id = false := by
      unfold wouldExceedCap
      rw [hfound]
      rfl
    have hingest : { stream with recv := stream.recv.ingest offset [] fin } = stream := by
      unfold ingest
      cases fin with
      | false => simp
      | true =>
        have hfinal := hfin rfl
        simp [← hfinal]
    refine ⟨c.trace ++ [.counted (.stream id offset fin [])], ?_⟩
    rcases c.handleFrame_stream .data id offset fin [] with
      ⟨hnone, -⟩ | ⟨fc, hfc, ⟨hover, -⟩ | ⟨-, heq⟩⟩
    · cases hnone
    · rw [hcap] at hover
      cases hover
    · cases hfc
      rw [heq, modify_eq_self hfound hingest]
      rfl
  | maxData max =>
    have hlimit : c.sendFc.setLimit max = c.sendFc := if_neg (not_lt.mpr h)
    exact hsame _ (congrArg (fun fc => { c with sendFc := fc }) hlimit)
  | maxStreamData id max =>
    have hlimit : (if c.peerStreamData < max then max else c.peerStreamData) = c.peerStreamData :=
      if_neg (not_lt.mpr h)
    exact hsame _ (congrArg (fun limit => { c with peerStreamData := limit }) hlimit)
  | maxStreams bidi max =>
    have hmax : c.streams.setPeerMax bidi max = c.streams := by
      cases bidi with
      | true =>
        have hmax : Nat.max c.streams.peerMaxBidi max = _ := max_eq_left h
        exact congrArg (fun n => { c.streams with peerMaxBidi := n }) hmax
      | false =>
        have hmax : Nat.max c.streams.peerMaxUni max = _ := max_eq_left h
        exact congrArg (fun n => { c.streams with peerMaxUni := n }) hmax
    exact hsame _ (congrArg (fun streams => { c with streams := streams }) hmax)
  | connectionClose application errorCode reason =>
    exact hsame _ (congrArg (fun closed => { c with closed := closed }) (Eq.symm h))
  | handshakeDone =>
    refine hsame _ ?_
    split
    · next hside => rw [← h hside]
    · rfl
  | datagram data => exact h.elim
  | _ => exact ⟨c.trace, rfl⟩

lemma handleFrames_of_still (h : ∀ frame ∈ frames, c.Still frame) :
    ∃ trace, (c.handleFrames .data frames).1 = { c with trace := trace } := by
  induction frames generalizing c with
  | nil => exact ⟨c.trace, rfl⟩
  | cons frame rest ih =>
    obtain ⟨hframe, hrest⟩ := forall_mem_cons.mp h
    obtain ⟨trace, heq⟩ := handleFrame_of_still hframe
    have hok : (c.handleFrame .data frame).2 = .ok () := by rw [heq]
    rw [handleFrames_of_ok hok, heq]
    obtain ⟨trace', hlater⟩ := @ih { c with trace := trace } hrest
    exact ⟨trace', hlater⟩

lemma pumpTls_trace (e : Engine τ κ) {c : Conn τ κ} {trace : List Event} :
    (({ c with trace := trace } : Conn τ κ).pumpTls e).1 =
      { (c.pumpTls e).1 with trace := trace } := by
  have hread : ∀ (ls : List Level) (c : Conn τ κ),
      ({ c with trace := trace } : Conn τ κ).readLevels e ls =
        ({ (c.readLevels e ls).1 with trace := trace }, (c.readLevels e ls).2) := by
    intro ls
    induction ls with
    | nil => exact fun _ => rfl
    | cons level rest ih =>
      intro c
      have hone : ({ c with trace := trace } : Conn τ κ).readLevel e level =
          ({ (c.readLevel e level).1 with trace := trace }, (c.readLevel e level).2) := by
        unfold readLevel
        dsimp only
        split <;> rfl
      unfold readLevels
      rw [hone]
      rcases c.readLevel e level with ⟨d, err | _⟩
      · rfl
      · exact ih d
  have hinst : ∀ (d : Conn τ κ) (change : KeyChange κ),
      ({ d with trace := trace } : Conn τ κ).installKeys change =
        { d.installKeys change with trace := trace } := by
    intro d change
    cases change <;> rfl
  have hlast : ∀ d : Conn τ κ,
      ((({ d with trace := trace } : Conn τ κ).writeHandshake e).learnParams e).confirm e =
        { ((d.writeHandshake e).learnParams e).confirm e with trace := trace } := by
    intro d
    have hwrit : ({ d with trace := trace } : Conn τ κ).writeHandshake e =
        { d.writeHandshake e with trace := trace } := by
      have hfold := @foldl_hom _ _ _ (fun d : Conn τ κ => { d with trace := trace })
        (fun d change => (d.pushHandshake change.1).installKeys change.2)
        (fun d change => (d.pushHandshake change.1).installKeys change.2)
        (e.writeHandshake d.tls).2.1 { d with tls := (e.writeHandshake d.tls).1 }
        fun d change => hinst (d.pushHandshake change.1) change.2
      exact congrArg (pushHandshake · (e.writeHandshake d.tls).2.2) hfold
    rw [hwrit]
    generalize d.writeHandshake e = d'
    have hlear : ({ d' with trace := trace } : Conn τ κ).learnParams e =
        { d'.learnParams e with trace := trace } := by
      unfold learnParams
      dsimp only
      split
      · next params _ _ => cases params <;> rfl
      · rfl
    rw [hlear]
    generalize d'.learnParams e = d''
    unfold confirm
    split <;> rfl
  unfold pumpTls
  rw [hread]
  rcases c.readLevels e levels with ⟨d, err | _⟩
  · rfl
  · exact hlast d

/-- Nothing happened but that a packet was marked as received, and a pass of TLS. -/
def OnlyMarked (e : Engine τ κ) (c c' : Conn τ κ) : Prop :=
  ∃ base trace, (base = c ∨ ∃ pn, base = c.markReceived .data pn) ∧
    (c' = { base with trace := trace } ∨ c' = { (base.pumpTls e).1 with trace := trace })

variable [DecidableEq κ]

/-- A connection has handled all frames of a packet; what came with it in its datagram
was handled since. -/
def HasHandled (e : Engine τ κ) (packet : Packet κ) (frames : List Frame) (c : Conn τ κ) : Prop :=
  ∃ d : Conn τ κ, Opens d packet frames ∧ (d.recvOne e packet).2 = .ok () ∧
    Acts e (fun _ _ => True) (d.recvOne e packet).1 c

lemma unaffected_recv_iff (hknown : c.peerParams.isSome = true) :
    Unaffected c (c.recv e (.ok [packet])).1 ↔ Unaffected c (c.recvOne e packet).1 := by
  rcases recv_single e c packet with heq | heq
  · rw [heq]
  · have hprms : (c.recvOne e packet).1.peerParams.isSome = true := by
      obtain ⟨handled, htrail, -, -⟩ := handles_recvOne plain_any c packet (plainPacket_any packet)
      have hacts : Acts e (fun _ _ => True) c (c.recvOne e packet).1 :=
        htrail.acts fun _ _ => True.intro
      have hbef : Advertised 0 (fun _ => True) (fun _ => True) c :=
        ⟨hknown, Nat.zero_le _, True.intro, True.intro⟩
      exact (hacts.invariant (fun _ _ => advertised_act
        (fun _ => ⟨fun _ _ _ => True.intro, fun _ _ => True.intro⟩)) hbef).known
    have honly := tlsOnly_pumpTls e hprms
    rw [heq]
    generalize (c.recvOne e packet).1 = d at honly
    obtain ⟨_, _, _, _, _, _, _, hd, -⟩ := honly
    rw [hd]
    exact ⟨fun h => ⟨h.datagrams, h.received, h.sent, h.streams⟩,
      fun h => ⟨h.datagrams, h.received, h.sent, h.streams⟩⟩

lemma unaffected_markReceived (c : Conn τ κ) (pn : Nat) :
    Unaffected c (c.markReceived .data pn) :=
  .of_noted (.of_event rfl rfl) rfl rfl

/-- A packet whose frames were all handled is handled again at any later time.  No
datagram is delivered, no credit used and no stream changed, exactly if the packet is
not opened or its frames are spent.  If none of them changes anything, all that is left
of the packet is that it was received. -/
theorem replay_unaffected_iff (e : Engine τ κ) (packet : Packet κ) (frames : List Frame)
    (c₁ : Conn τ κ) (hhandled : HasHandled e packet frames c₁) (is : List (Input κ))
    (c : Conn τ κ) (hrun : (run (step e) c₁ is).1 = c) (hknown : c.peerParams.isSome = true) :
    (Unaffected c (c.recv e (.ok [packet])).1 ↔
        (Opens c packet frames → spent (c.recvFc.limit - c.recvFc.used) frames = true)) ∧
      ((Opens c packet frames → ∀ frame ∈ frames, c.Still frame) →
        OnlyMarked e c (c.recv e (.ok [packet])).1) := by
  obtain ⟨d, hopens, hok, hacts⟩ := hhandled
  have hrem : Remembers c frames := by
    obtain ⟨pn, heq⟩ := recvOne_of_opens hopens
    rw [heq] at hok hacts
    have hkept : Keeps ((d.markReceived .data pn).handleFrames .data frames).1 c₁ :=
      @Acts.invariant _ _ e _ (fun c => Keeps ((d.markReceived .data pn).handleFrames .data frames).1 c)
        (fun _ _ hact h => h.trans (keeps_act hact)) _ _ hacts (.refl _)
    have hlater : Keeps c₁ (run (step e) c₁ is).1 :=
      @run_state_invariant _ _ _ (step e) (fun c => Keeps c₁ c)
        (fun c i h => h.trans keeps_step) c₁ is (.refl _)
    rw [hrun] at hlater
    exact ((remembers_handleFrames hok).of_keeps hkept).of_keeps hlater
  by_cases hagain : Opens c packet frames
  · obtain ⟨pn, heq⟩ := recvOne_of_opens hagain
    have hmarked := c.unaffected_markReceived pn
    refine ⟨?_, fun hstill => ?_⟩
    · rw [unaffected_recv_iff hknown, heq]
      have hiff := unaffected_handleFrames_iff e .data
        (show Remembers (c.markReceived .data pn) frames from ⟨hrem.streams, hrem.limits⟩)
      refine ⟨fun h _ => hiff.mp ?_, fun h => hmarked.trans (hiff.mpr (h hagain))⟩
      exact ⟨h.datagrams.trans hmarked.datagrams.symm, h.received, h.sent, h.streams⟩
    · obtain ⟨trace, hsame⟩ := handleFrames_of_still
        (show ∀ frame ∈ frames, (c.markReceived .data pn).Still frame from hstill hagain)
      have hone : (c.recvOne e packet).1 = { c.markReceived .data pn with trace := trace } := by
        rw [heq, hsame]
      refine ⟨c.markReceived .data pn, trace, .inr ⟨pn, rfl⟩, ?_⟩
      rcases recv_single e c packet with h | h
      · exact .inl (h.trans hone)
      · refine .inr (h.trans ?_)
        rw [hone, pumpTls_trace]
  · have hshape := hopens
    obtain ⟨dcid, num, body, _, rfl, -, -⟩ := hshape
    have hnot : ∀ frames', ¬Opens c (.whole (.short dcid num) false body) frames' := by
      intro frames' hopen'
      exact hagain (hopens.unique hopen' ▸ hopen')
    have hone := recvOne_of_not_opens e hnot
    refine ⟨⟨fun _ h => absurd h hagain, fun _ => ?_⟩, fun _ => ?_⟩
    · rw [unaffected_recv_iff hknown]
      rcases hone with heq | ⟨pn, heq⟩
      · rw [heq]
        exact ⟨rfl, rfl, rfl, rfl⟩
      · rw [heq]
        exact c.unaffected_markReceived pn
    · have hbase : (c.recvOne e (.whole (.short dcid num) false body)).1 = c ∨ ∃ pn,
          (c.recvOne e (.whole (.short dcid num) false body)).1 = c.markReceived .data pn := hone
      rcases recv_single e c (.whole (.short dcid num) false body) with h | h
      · exact ⟨_, _, hbase, .inl h⟩
      · exact ⟨_, _, hbase, .inr h⟩

/-- A packet of the data level for a server with the keys of `Engine.instant`. -/
def dataPacket (pn : Nat) (frames : List Frame) : Packet Nat :=
  .whole (.short ⟨[7], seven_fits⟩ (encodePacketNumber pn)) false
    ⟨2, pn, .short ⟨[7], seven_fits⟩ (encodePacketNumber pn), .ok frames⟩

def establishedServer : Conn Bool Nat :=
  (run (step (.instant [] 1 2)) (server ⟨[7], seven_fits⟩ false) [.recv (.ok [])]).1

/-- A packet that ends a stream and raises a limit comes again: nothing happens. -/
theorem end_of_stream_replayed :
    let packet := dataPacket 0 [.stream 0 0 true [], .maxData 5000]
    let c := (run (step (.instant [] 1 2)) (establishedServer.recvOne (.instant [] 1 2) packet).1
      [.poll]).1
    (c.spaces.get .data).largestRecv = some 0 ∧
      Unaffected c (c.recv (.instant [] 1 2) (.ok [packet])).1 ∧
      OnlyMarked (.instant [] 1 2) c (c.recv (.instant [] 1 2) (.ok [packet])).1 := by
  intro packet c
  have hopens : Opens establishedServer packet [.stream 0 0 true [], .maxData 5000] :=
    ⟨⟨[7], by decide⟩, encodePacketNumber 0, _, 2, rfl, by decide +kernel, by decide +kernel⟩
  obtain ⟨hiff, honly⟩ := replay_unaffected_iff (.instant [] 1 2) packet _ _
    ⟨establishedServer, hopens, by decide +kernel, .refl⟩ [.poll] c rfl (by decide +kernel)
  refine ⟨by decide +kernel, hiff.mpr fun _ => by decide +kernel, honly fun _ frame hframe => ?_⟩
  rcases mem_cons.mp hframe with rfl | hframe
  · have hsome : (c.streams.streams.lookup 0).isSome = true := by decide +kernel
    obtain ⟨stream, hstr⟩ := Option.isSome_iff_exists.mp hsome
    have hfinal : ∀ found ∈ c.streams.streams.lookup 0, found.recv.finalSize = some 0 := by
      decide +kernel
    exact ⟨rfl, stream, hstr, fun _ => hfinal stream hstr⟩
  · obtain rfl := mem_singleton.mp hframe
    show 5000 ≤ c.sendFc.limit
    decide +kernel

/-- A datagram and an octet of a stream come again: the datagram is delivered again, and
the octet counted again. -/
theorem datagram_replayed :
    let packet := dataPacket 0 [.datagram [1], .stream 0 0 false [2]]
    let c := (establishedServer.recv (.instant [] 1 2) (.ok [packet])).1
    let c' := (c.recv (.instant [] 1 2) (.ok [packet])).1
    c.isEstablished (.instant [] 1 2) = true ∧
      delivered c.trace = [[1]] ∧ delivered c'.trace = [[1], [1]] ∧
      c.datagrams.incoming = [[1]] ∧ c'.datagrams.incoming = [[1], [1]] ∧
      c.recvFc.used = 1 ∧ c'.recvFc.used = 2 ∧ ¬Unaffected c c' := by
  intro packet c c'
  refine ⟨by decide +kernel, by decide +kernel, by decide +kernel, by decide +kernel,
    by decide +kernel, by decide +kernel, by decide +kernel, fun h => ?_⟩
  exact absurd h.received (by decide +kernel)

end Conn
end MeshBus.Quic
