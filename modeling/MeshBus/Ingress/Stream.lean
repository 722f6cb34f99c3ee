import MeshBus.Ingress.Flow

/-!
# Stream integrity

What the ingress hands to the bus for one stream, against what the sender sent.
The payloads of a stream go through three tables that restart on their own: its
family, the data pending before the open, and the open session.  As long as none
of the three starts over in the middle of the stream, the payloads handed over
are a prefix of those sent, and all go to one bus half.
-/

namespace MeshBus.Ingress

open Lib MeshSec Proto Reorder Egress List Prod Sender State

/-! ## The sender -/

/-- A frame of a sender whose stream `sessionId` carries the payloads `ps`,
numbered from 1.  Datagram sessions have other ids. -/
def SentFrame (sessionId : String) (ps : List Bytes) : MeshFrame → Prop
  | .streamData id seq payload =>
    id = sessionId → 0 < seq.toNat ∧ ps[seq.toNat - 1]? = some payload
  | .datagramSend id _ _ _ => id ≠ sessionId
  | .datagramReturn id _ _ _ => id ≠ sessionId
  | _ => True

instance (sessionId : String) (ps : List Bytes) (frame : MeshFrame) :
    Decidable (SentFrame sessionId ps frame) :=
  match frame with
  | .streamData .. => inferInstanceAs (Decidable (_ → _ ∧ _))
  | .datagramSend .. | .datagramReturn .. => inferInstanceAs (Decidable (¬ _))
  | .hello _ | .streamOpen _ | .streamOpenReject .. | .streamShutdownWrite _ | .streamClose ..
  | .datagramOpen _ | .datagramClose .. | .portOpen _ | .portClose .. | .linkSample _ | .ackNack _
  | .streamOpenAccepted .. => .isTrue True.intro

def SentPackage (sessionId : String) (ps : List Bytes) (familyId : String) (p : DataPackage) :
    Prop :=
  ∃ frame, decodePackage p = some frame ∧ (frameEventMeta frame).1 = familyId ∧
    (frameEventMeta frame).2.1 = p.seq ∧ isData frame = true ∧
    SentFrame sessionId ps frame

section
variable [DecidableEq Addr] {K : SessionKey Addr}

lemma SentPackage.own (h : SentPackage sessionId ps sessionId p) :
    ∃ i payload, p.seq.toNat = i + 1 ∧ ps[i]? = some payload ∧
      decodePackage p = some (.streamData sessionId p.seq payload) := by
  obtain ⟨frame, hdec, hid, hseq, hdata, hsent⟩ := h
  cases frame with
  | streamData id seq payload =>
    obtain rfl : id = sessionId := hid
    obtain rfl : seq = p.seq := hseq
    obtain ⟨hpos, hpay⟩ := hsent rfl
    exact ⟨p.seq.toNat - 1, payload, by omega, hpay, hdec⟩
  | datagramSend id seq target payload => exact absurd hid hsent
  | datagramReturn id seq source payload => exact absurd hid hsent
  | _ => cases hdata

lemma SentPackage.seq_lt (h : SentPackage sessionId ps sessionId p)
    (hps : ps.length < 2 ^ 64 - 1) : p.seq.toNat < 2 ^ 64 - 1 := by
  obtain ⟨i, payload, hi, hpay, -⟩ := h.own
  obtain ⟨hlt, -⟩ := List.getElem?_eq_some_iff.mp hpay
  omega

lemma SentPackage.ne_nil (h : SentPackage sessionId ps sessionId p) : ps ≠ [] := by
  obtain ⟨i, payload, -, hpay, -⟩ := h.own
  intro hnil
  simp [hnil] at hpay

lemma SentPackage.other (h : SentPackage K.2 ps familyId p) (hne : familyId ≠ K.2) (peer : Addr) :
    (decodePackage p).bind (payloadFor K peer) = none := by
  obtain ⟨frame, hdec, hid, -⟩ := h
  rw [hdec]
  cases frame with
  | streamData id seq payload =>
    refine if_neg fun hkey => hne ?_
    rw [← hid, ← hkey]
    rfl
  | _ => rfl

lemma SentPackage.isData (h : SentPackage sessionId ps familyId p)
    (hframe : decodePackage p = some frame) : isData frame = true := by
  obtain ⟨frame', hdec, -, -, hdata, -⟩ := h
  rw [hframe] at hdec
  cases hdec
  exact hdata

lemma payloads_of_packages (packages : List DataPackage) (j : Nat)
    (hsent : ∀ q ∈ packages, SentPackage K.2 ps K.2 q)
    (hseqs : packages.map (fun q => q.seq.toNat) = range' (j + 1) packages.length) :
    (packages.filterMap decodePackage).filterMap (payloadFor K K.1) =
      (ps.drop j).take packages.length := by
  induction packages generalizing j with
  | nil => simp
  | cons q rest ih =>
    rw [map_cons, length_cons, range'_succ, cons.injEq] at hseqs
    obtain ⟨i, payload, hi, hpay, hdec⟩ := (hsent q mem_cons_self).own
    obtain rfl : i = j := by omega
    obtain ⟨hlt, hget⟩ := List.getElem?_eq_some_iff.mp hpay
    have hrest := ih (i + 1) (fun q hq => hsent q (mem_cons_of_mem _ hq)) hseqs.2
    have hhead : payloadFor K K.1 (.streamData K.2 q.seq payload) = some payload := if_pos rfl
    rw [filterMap_cons_some hdec, filterMap_cons_some hhead, hrest,
      drop_eq_getElem_cons hlt, length_cons, take_succ_cons, hget]

end

/-! ## Datagrams -/

section
variable {Addr : Type} [DecidableEq Addr] {ingress : MeshPeerUdpIngress} {P : Primitives}
  {K : SessionKey Addr} {ps : List Bytes} {ops : List StreamOp} {st : State Addr}

def carriedNumber (K : SessionKey Addr) (source : Addr) (opened : Opened) : Option UInt64 :=
  match decodeEvent opened.clear with
  | .error _ => none
  | .ok event =>
    if (source, event.familyId) = K ∧ (event.semantic = .stream ∨ event.semantic = .datagram)
    then event.package.map DataPackage.seq else none

lemma carriedNumber_eq (hevent : decodeEvent opened.clear = .ok event) :
    carriedNumber K source opened =
      if (source, event.familyId) = K ∧ (event.semantic = .stream ∨ event.semantic = .datagram)
      then event.package.map DataPackage.seq else none := by
  unfold carriedNumber
  rw [hevent]

def letIn (ingress : MeshPeerUdpIngress) (P : Primitives) (K : SessionKey Addr) (st : State Addr)
    (inbound : Inbound Addr) : Option UInt64 :=
  (openInbound ingress P st inbound).2.toOption.bind (carriedNumber K inbound.source)

/-- Payloads of the stream are pending, or have been handed to a session that is
still open. -/
def UnderWay (ops : List StreamOp) (v : View) : Prop :=
  payloads ops = [] ∧ v.pending.frames ≠ [] ∨ payloads ops ≠ [] ∧ v.session ≠ none

/-- The datagram brings number 1 to a family that starts over, while the stream is
under way. -/
def Restarts (ingress : MeshPeerUdpIngress) (P : Primitives) (K : SessionKey Addr)
    (ops : List StreamOp) (st : State Addr) (inbound : Inbound Addr) : Prop :=
  letIn ingress P K st inbound = some 1 ∧
    (familyOf st K).nextExpectedSeq = 1 ∧ UnderWay ops (viewOf K st)

instance (ops : List StreamOp) (v : View) : Decidable (UnderWay ops v) :=
  inferInstanceAs (Decidable (_ ∧ _ ∨ _ ∧ _))

instance (ops : List StreamOp) (st : State Addr) (inbound : Inbound Addr) :
    Decidable (Restarts ingress P K ops st inbound) :=
  inferInstanceAs (Decidable (_ ∧ _ ∧ _))

lemma eq_zero_of_not_underWay (hidle : ¬ UnderWay ops v) (hps : ps ≠ [])
    (hflow : payloads ops ++ v.pending.frames ++ [] = ps.take j)
    (hsess : payloads ops ≠ [] → v.session ≠ none) : j = 0 := by
  have huns : payloads ops = [] := by
    by_contra hsome
    exact hidle (Or.inr ⟨hsome, hsess hsome⟩)
  have hunp : v.pending.frames = [] := by
    by_contra hsome
    exact hidle (Or.inl ⟨huns, hsome⟩)
  rw [huns, hunp] at hflow
  rcases take_eq_nil_iff.mp hflow.symm with hj | hnil
  · exact hj
  · exact absurd hnil hps

lemma Sound.push {fam : FamilyReorderState}
    (h : Sound ps v ops []) (hfam : v.next = fam.nextExpectedSeq) (hps : ps.length < 2 ^ 64 - 1)
    (hholds : fam.Holds (SentPackage K.2 ps K.2)) (hp : SentPackage K.2 ps K.2 p)
    (hkept : p.seq = 1 → fam.nextExpectedSeq = 1 → ¬ UnderWay ops v) :
    Sound ps
      { v with
        family := if (fam.pushPackage p).2.overflows then none else some (fam.pushPackage p).1 }
      ops
      (((fam.pushPackage p).2.delivered.filterMap decodePackage).filterMap (payloadFor K K.1)) := by
  obtain ⟨hseqs, hnext'⟩ := hholds.delivered_seqs (fun q hq => hq.seq_lt hps) hp
  have hsent := (hholds.push hp).2
  cases h with
  | lost hbegin hsent hhalf hsess => exact .lost hbegin hsent hhalf hsess
  | live j hflow hnext hsess hhalf hpend =>
    rw [hfam] at hnext
    by_cases hnone : (fam.pushPackage p).2.delivered = []
    · rw [hnone] at hnext' ⊢
      refine .live j hflow ?_ hsess hhalf hpend
      split
      · exact Or.inr rfl
      · change (fam.pushPackage p).1.nextExpectedSeq = _ ∨ (fam.pushPackage p).1.nextExpectedSeq = _
        rw [hnext']
        exact hnext
    · have hnum := seq_of_delivered hnone
      -- The family has not started over, or nothing has been let through yet.
      have hfront : fam.nextExpectedSeq = j + 1 := by
        rcases hnext with hnext | hnext
        · exact hnext
        · have hone : p.seq = 1 := by
            rw [← UInt64.toNat_inj, hnum, hnext]
            rfl
          rw [eq_zero_of_not_underWay (hkept hone hnext) hp.ne_nil hflow hsess, hnext]
      rw [hfront] at hseqs hnext'
      refine .live (j + (fam.pushPackage p).2.delivered.length) ?_ (Or.inl ?_) hsess
        hhalf hpend
      · rw [payloads_of_packages _ j hsent hseqs, take_add, ← hflow, append_nil]
      · rw [if_neg (by simp [overflows_of_delivered hnone])]
        change (fam.pushPackage p).1.nextExpectedSeq = _
        omega

def SentClear (sessionId : String) (ps : List Bytes) (clear : Bytes) : Prop :=
  ∃ policyId frame, clear = encodeEvent (frameEvent policyId frame) ∧ clear.length < 2 ^ 32 ∧
    SentFrame sessionId ps frame

/-- Every family of the stream's peer buffers packages of the sender. -/
def SentFamilies (K : SessionKey Addr) (ps : List Bytes) (st : State Addr) : Prop :=
  ∀ familyId fam, st.familyStates.lookup (K.1, familyId) = some fam →
    fam.Holds (SentPackage K.2 ps familyId)

lemma SentFamilies.holds (h : SentFamilies K ps st) (familyId : String) :
    (familyOf st (K.1, familyId)).Holds (SentPackage K.2 ps familyId) := by
  unfold familyOf
  cases hlook : st.familyStates.lookup (K.1, familyId) with
  | none => exact .new _ _ _ _
  | some fam => exact h familyId fam hlook

lemma SentFamilies.of_dropped (h : SentFamilies K ps st) (hfams : ∀ familyId,
      st'.familyStates.lookup (K.1, familyId) = st.familyStates.lookup (K.1, familyId) ∨
      st'.familyStates.lookup (K.1, familyId) = none) : SentFamilies K ps st' := by
  intro familyId fam hlook
  rcases hfams familyId with hsame | hnone
  · rw [hsame] at hlook
    exact h familyId fam hlook
  · simp [hnone] at hlook

lemma SentFamilies.handle (h : SentFamilies K ps st) (peer : Addr)
    (replySeal : Option MeshSecSealContext) (now : UInt64) (frame : MeshFrame) :
    SentFamilies K ps (handleFrame ingress answers peer replySeal now st frame).1 :=
  h.of_dropped fun familyId =>
    (@handleFrame_handled Addr _ ingress answers (K.1, familyId) st peer replySeal now frame).family

lemma SentClear.event {event : MeshEvent}
    (h : SentClear sessionId ps clear) (hevent : decodeEvent clear = .ok event) :
    (∀ payload frame, event.semantic = .control ∨ event.semantic = .observation →
      eventFramePayload event = some payload → decodeFrame payload = .ok frame →
      isData frame = false) ∧
    (∀ package, event.semantic = .stream ∨ event.semantic = .datagram →
      event.package = some package → SentPackage sessionId ps event.familyId package) := by
  obtain ⟨policyId, frame, rfl, hlen, hsent⟩ := h
  obtain ⟨hdec, hframe⟩ := decode_frameEvent hlen
  rw [hdec] at hevent
  cases hevent
  refine ⟨?_, ?_⟩
  · intro payload frame' hsem hpay hfram'
    cases hpay
    rw [hframe] at hfram'
    cases hfram'
    change (frameEventMeta frame).2.2 = _ ∨ (frameEventMeta frame).2.2 = _ at hsem
    unfold isData
    rcases hsem with hsem | hsem <;> rw [hsem]
  · intro package hsem hpkg
    cases hpkg
    refine ⟨frame, ?_, rfl, rfl, ?_, hsent⟩
    · unfold decodePackage
      rw [hframe]
      rfl
    · change (frameEventMeta frame).2.2 = _ ∨ (frameEventMeta frame).2.2 = _ at hsem
      unfold isData
      rcases hsem with hsem | hsem <;> rw [hsem]

lemma payloadFor_of_ne (hsrc : source ≠ K.1) : payloadFor K source frame = none := by
  cases frame with
  | streamData sessionId seq payload => exact if_neg fun hkey => hsrc (congrArg fst hkey)
  | _ => rfl

lemma payloadFor_of_control (hctrl : isData frame = false) :
    payloadFor K source frame = none := by
  cases frame with
  | streamData sessionId seq payload => cases hctrl
  | _ => rfl

lemma InFlight.decode_other (hsrc : source ≠ K.1) {opened : Opened}
    (hsound : Sound ps (viewOf K st) ops []) (hfams : SentFamilies K ps st) :
    InFlight K source ps ops (decodeInbound ingress answers st source opened).1
        (decodeInbound ingress answers st source opened).2.2 ∧
      SentFamilies K ps (decodeInbound ingress answers st source opened).1 := by
  have hnone : ∀ frames : List MeshFrame, frames.filterMap (payloadFor K source) = [] := by
    intro frames
    simp [payloadFor_of_ne hsrc]
  have hdecg : Decoding ingress answers st source opened _ :=
    decodeInbound_decoding st source opened
  generalize decodeInbound ingress answers st source opened = decoded at hdecg ⊢
  cases hdecg with
  | ordered event package =>
    have hdrop : ∀ familyId, (K.1, familyId) ≠ (source, event.familyId) :=
      fun familyId hkey => hsrc (congrArg fst hkey).symm
    obtain ⟨-, hview, -, hother⟩ := @decodeFamilyPackage_view Addr _ ingress answers K st source
      opened.replySeal event package
    refine ⟨⟨Or.inl (hnone _), ?_⟩, hfams.of_dropped fun familyId => hother _ (hdrop familyId)⟩
    rw [hnone, hview]
    exact hsound.setFamily (hother K (hdrop K.2))
  | _ => exact ⟨⟨Or.inl (hnone _), by rwa [hnone]⟩, hfams⟩

lemma InFlight.decodeFamilyPackage {event : MeshEvent} {package : DataPackage}
    (hps : ps.length < 2 ^ 64 - 1) (hp : SentPackage K.2 ps event.familyId package)
    (hkept : event.familyId = K.2 → package.seq = 1 → (familyOf st K).nextExpectedSeq = 1 →
      ¬ UnderWay ops (viewOf K st))
    (hsound : Sound ps (viewOf K st) ops []) (hfams : SentFamilies K ps st)
    (replySeal : Option MeshSecSealContext) :
    let decoded := decodeFamilyPackage ingress answers st K.1 replySeal event package
    InFlight K K.1 ps ops decoded.1 decoded.2.2 ∧ SentFamilies K ps decoded.1 := by
  intro decoded
  obtain ⟨hfrs, hview, hown, hother⟩ := @decodeFamilyPackage_view Addr _ ingress answers K st
    K.1 replySeal event package
  obtain ⟨hholds, hsent⟩ := (hfams.holds event.familyId).push hp
  refine ⟨⟨Or.inr ?_, ?_⟩, ?_⟩
  · intro frame hframe
    rw [hfrs] at hframe
    obtain ⟨q, hq, hdec⟩ := mem_filterMap.mp hframe
    exact (hsent q hq).isData hdec
  · rw [hview, hfrs]
    by_cases hid : event.familyId = K.2
    · rw [hid] at hp hown ⊢
      rw [hown]
      exact hsound.push (next_viewOf K st) hps (hfams.holds K.2) hp (hkept hid)
    · have hnone : (((familyOf st (K.1, event.familyId)).pushPackage package).2.delivered.filterMap
          decodePackage).filterMap (payloadFor K K.1) = [] := by
        rw [filterMap_filterMap, filterMap_eq_nil_iff]
        exact fun q hq => (hsent q hq).other hid K.1
      rw [hnone]
      exact hsound.setFamily (hother K fun hkey => hid (congrArg snd hkey).symm)
  · intro familyId fam hlook
    by_cases hid : familyId = event.familyId
    · subst hid
      rw [hown] at hlook
      split at hlook
      · cases hlook
      · cases hlook
        exact hholds
    · rcases hother (K.1, familyId) fun hkey => hid (congrArg snd hkey) with hsame | hnone
      · rw [hsame] at hlook
        exact hfams familyId fam hlook
      · rw [hnone] at hlook
        cases hlook

lemma InFlight.decode_own (hmode : ingress.nativeEventMode = .secureUdpNative)
    (hps : ps.length < 2 ^ 64 - 1) (hclear : SentClear K.2 ps opened.clear)
    (hkept : carriedNumber K K.1 opened = some 1 → (familyOf st K).nextExpectedSeq = 1 →
      ¬ UnderWay ops (viewOf K st))
    (hsound : Sound ps (viewOf K st) ops []) (hfams : SentFamilies K ps st) :
    InFlight K K.1 ps ops (decodeInbound ingress answers st K.1 opened).1
        (decodeInbound ingress answers st K.1 opened).2.2 ∧
      SentFamilies K ps (decodeInbound ingress answers st K.1 opened).1 := by
  have hdecg : Decoding ingress answers st K.1 opened _ := decodeInbound_decoding st K.1 opened
  generalize decodeInbound ingress answers st K.1 opened = decoded at hdecg ⊢
  cases hdecg with
  | dropped => exact ⟨⟨Or.inl rfl, hsound⟩, hfams⟩
  | unordered frame hframe =>
    unfold UnorderedFrame at hframe
    rw [hmode] at hframe
    obtain ⟨event, payload, hevent, hsem, hpay, hdec⟩ := hframe
    have hctrl := (hclear.event hevent).1 payload frame hsem hpay hdec
    have hnone : [frame].filterMap (payloadFor K K.1) = [] := by
      simp [payloadFor_of_control hctrl]
    exact ⟨⟨Or.inl hnone, by rwa [hnone]⟩, hfams⟩
  | ordered event package _ hevent hsem hpkg =>
    have hp := (hclear.event hevent).2 package hsem hpkg
    refine InFlight.decodeFamilyPackage hps hp (fun hid hone => hkept ?_) hsound hfams _
    rw [carriedNumber_eq hevent, if_pos ⟨by rw [hid], hsem⟩, hpkg, Option.map_some,
      hone]

end

/-! ## Runs -/

section
variable {Addr : Type} [DecidableEq Addr]

/-- A datagram that a native-mode egress sent for a frame of the sender, sealed
exactly when the ingress expects it. -/
def SentDatagram (P : Primitives) (calls : Set SealCall) (ingress : MeshPeerUdpIngress)
    (sessionId : String) (ps : List Bytes) (inbound : Inbound Addr) : Prop :=
  ∃ (sender : Sender Addr) (sentAt : UInt64) (frame : MeshFrame)
    (datagrams : List (OutboundDatagram Addr)),
    sender.nativeEventMode = .secureUdpNative ∧
    sender.meshsec.isSome = ingress.meshsec.isSome ∧
    (∀ ms, sender.meshsec = some ms → sender.sealCall ms sentAt frame ∈ calls) ∧
    SentFrame sessionId ps frame ∧
    (sender.encodeFrameDatagrams P sentAt frame).2 = .ok datagrams ∧
    ∃ datagram ∈ datagrams, datagram.payload = inbound.payload

/-- The guard on a datagram: it does not restart the family of the stream while
the stream is under way, and none of its frames breaks the stream. -/
def Kept (ingress : MeshPeerUdpIngress) (answers : Answers) (P : Primitives) (K : SessionKey Addr)
    (past : List (Inbound Addr × List (Effect Addr))) (st : State Addr) (inbound : Inbound Addr) :
    Prop :=
  ¬ Restarts ingress P K (opsOf K (past.flatMap snd)) st inbound ∧
    HandledAlong ingress answers P
      (KeepsFrame ingress answers K (opsOf K (past.flatMap snd))) st inbound

instance (ingress : MeshPeerUdpIngress) (answers : Answers) (P : Primitives) (K : SessionKey Addr)
    (past : List (Inbound Addr × List (Effect Addr))) (st : State Addr) (inbound : Inbound Addr) :
    Decidable (Kept ingress answers P K past st inbound) :=
  inferInstanceAs (Decidable (_ ∧ _))

variable {ingress : MeshPeerUdpIngress} {answers : Answers} {P : Primitives} {calls : Set SealCall}
  {K : SessionKey Addr} {ps : List Bytes} {st : State Addr} {inbound : Inbound Addr}

omit [DecidableEq Addr] in
lemma SentDatagram.sentClear (ideal : IdealFor P calls)
    (h : SentDatagram P calls ingress sessionId ps inbound)
    (hopen : (openInbound ingress P st inbound).2 = .ok opened) :
    SentClear sessionId ps opened.clear := by
  obtain ⟨sender, sentAt, frame, datagrams, hmode, hseal, hcalls, hframe, hsent, datagram, hmem,
    hpay⟩ := h
  obtain ⟨henc, hfits⟩ := (encoded_of_sent hsent).2 datagram hmem
  rw [hpay] at henc hfits
  have hclearOf : sender.clearOf frame =
      encodeEvent (frameEvent sender.policy.policyId frame) := by
    rw [clearOf, hmode]
  suffices hclear : opened.clear = sender.clearOf frame ∧ opened.clear.length < 2 ^ 32 by
    exact ⟨sender.policy.policyId, frame, hclear.1.trans hclearOf, hclear.2, hframe⟩
  unfold openInbound at hopen
  unfold maxUdpPayloadBytes at hfits
  cases hms : sender.meshsec with
  | none =>
    rw [hms] at hseal
    have hnone : ingress.meshsec = none := by simpa using hseal.symm
    rw [hnone] at hopen
    cases hopen
    unfold encoded at henc
    rw [hmode, hms] at henc
    exact ⟨(Except.ok.inj henc).symm.trans hclearOf.symm, by dsimp only; omega⟩
  | some egress =>
    rw [hms] at hseal
    obtain ⟨ms, hingr⟩ := Option.isSome_iff_exists.mp hseal.symm
    rw [hingr] at hopen
    have hpkt := packet_of_encoded hms henc
    dsimp only at hopen
    split at hopen
    · cases hopen
    · rename_i replay peerId clear heq
      cases hopen
      have hclear : clear = sender.clearOf frame :=
        clear_of_openBytes ideal (hcalls egress hms) hpkt (congrArg snd heq)
      obtain ⟨plain, hpack⟩ := pack_of_packet hpkt
      have hlen := (packMeshsecPlaintext_eq_ok hpack).1
      unfold meshsecMaxClearLen at hlen
      dsimp only
      refine ⟨hclear, ?_⟩
      rw [hclear]
      change (sender.clearOf frame).length ≤ _ at hlen
      omega

/-- The invariant of the loop, after the calls `ops`. -/
structure Serving (K : SessionKey Addr) (ps : List Bytes) (ops : List StreamOp) (st : State Addr) :
    Prop where
  sound : Sound ps (viewOf K st) ops []
  families : SentFamilies K ps st

open Serving

lemma Serving.init : Serving K ps [] (State.init Addr) where
  sound := .live 0 rfl (Or.inl rfl) (by simp [payloads]) (by simp [viewOf, State.init])
    (by simp [viewOf, State.init])
  families := fun familyId fam hlook => by simp [State.init] at hlook

lemma viewOf_openInbound : viewOf K (openInbound ingress P st inbound).1 = viewOf K st := by
  obtain ⟨replay, replyCounters, hfst⟩ := @openInbound_fst Addr ingress P st inbound
  rw [hfst]
  rfl

lemma Serving.openInbound {ops : List StreamOp} (h : Serving K ps ops st) :
    Serving K ps ops (openInbound ingress P st inbound).1 := by
  obtain ⟨replay, replyCounters, hfst⟩ := @openInbound_fst Addr ingress P st inbound
  rw [hfst]
  exact ⟨h.sound, h.families⟩

lemma Serving.inFlight (ideal : IdealFor P calls)
    (hmode : ingress.nativeEventMode = .secureUdpNative) (hps : ps.length < 2 ^ 64 - 1)
    (hsnd : inbound.source = K.1 → SentDatagram P calls ingress K.2 ps inbound)
    {ops : List StreamOp} (h : Serving K ps ops st)
    (hkept : ¬ Restarts ingress P K ops st inbound) {st' : State Addr} {opened : Opened}
    (hopen : Ingress.openInbound ingress P st inbound = (st', .ok opened)) :
    InFlight K inbound.source ps ops (decodeInbound ingress answers st' inbound.source opened).1
        (decodeInbound ingress answers st' inbound.source opened).2.2 ∧
      SentFamilies K ps (decodeInbound ingress answers st' inbound.source opened).1 := by
  have hserving := @openInbound Addr _ ingress P K ps st inbound _ h
  have hview := @viewOf_openInbound Addr _ ingress P K st inbound
  unfold Restarts letIn at hkept
  rw [hopen] at hserving hview hkept
  have hnext' : (familyOf st' K).nextExpectedSeq = (familyOf st K).nextExpectedSeq := by
    rw [← next_viewOf, ← next_viewOf, hview]
  by_cases hsrc : inbound.source = K.1
  · have hclear := (hsnd hsrc).sentClear ideal (congrArg snd hopen)
    rw [hsrc] at hkept ⊢
    refine InFlight.decode_own hmode hps hclear ?_ hserving.sound hserving.families
    intro hone hnext hunder
    rw [hnext'] at hnext
    rw [hview] at hunder
    exact hkept ⟨hone, hnext, hunder⟩
  · exact InFlight.decode_other hsrc hserving.sound hserving.families

lemma opsOf_decodeInbound (source : Addr) (opened : Opened) :
    opsOf K (decodeInbound ingress answers st source opened).2.1 = [] := by
  have hdecg : Decoding ingress answers st source opened _ :=
    decodeInbound_decoding st source opened
  generalize decodeInbound ingress answers st source opened = decoded at hdecg ⊢
  cases hdecg with
  | dropped => exact opsOf_map_eq_nil _ fun _ => rfl
  | unordered frame _ => rfl
  | ordered event package => exact opsOf_familyEffects _ _ _

lemma Serving.step (ideal : IdealFor P calls)
    (hmode : ingress.nativeEventMode = .secureUdpNative) (hps : ps.length < 2 ^ 64 - 1)
    (hsnd : inbound.source = K.1 → SentDatagram P calls ingress K.2 ps inbound)
    {past : List (Inbound Addr × List (Effect Addr))}
    (h : Serving K ps (opsOf K (past.flatMap snd)) st)
    (hkept : Kept ingress answers P K past st inbound) :
    Serving K ps
      (opsOf K ((past ++ [(inbound, (step ingress answers P st inbound).2)]).flatMap snd))
      (step ingress answers P st inbound).1 := by
  obtain ⟨hrest, hfrs⟩ := hkept
  rw [flatMap_append, flatMap_singleton, opsOf_append]
  unfold HandledAlong at hfrs
  unfold Ingress.step
  split
  · rename_i st' err heq
    have hopnd := @openInbound Addr _ ingress P K ps st inbound _ h
    rw [heq] at hopnd
    have hnone : opsOf K [dropMeshsec inbound.source err] = [] := rfl
    dsimp only
    rw [hnone, append_nil]
    exact hopnd
  · rename_i st' opened heq
    obtain ⟨hflt, hfams⟩ := @inFlight Addr _ ingress answers P calls K ps st inbound
      ideal hmode hps hsnd _ h hrest _ _ heq
    rw [heq] at hfrs
    dsimp only
    rw [opsOf_append, opsOf_decodeInbound, nil_append]
    exact ⟨hflt.handleAll hfrs, run_state_invariant (fun st frame hst => hst.handle _ _ _ frame)
      _ _ hfams⟩

def callsOf (ingress : MeshPeerUdpIngress) (answers : Answers) (P : Primitives)
    (K : SessionKey Addr) (inbounds : List (Inbound Addr)) : List StreamOp :=
  opsOf K (run (step ingress answers P) (init Addr) inbounds).2.flatten

lemma serving_run (ideal : IdealFor P calls)
    (hmode : ingress.nativeEventMode = .secureUdpNative) (hps : ps.length < 2 ^ 64 - 1)
    (inbounds : List (Inbound Addr)) (hsnd : ∀ inbound ∈ inbounds, inbound.source = K.1 →
      SentDatagram P calls ingress K.2 ps inbound)
    (hkept : Along (step ingress answers P) (Kept ingress answers P K) [] (init Addr)
      inbounds) :
    Serving K ps (callsOf ingress answers P K inbounds)
      (run (step ingress answers P) (init Addr) inbounds).1 := by
  have hrun := @run_invariant _ _ _ (step ingress answers P)
    (fun past st => Serving K ps (opsOf K (past.flatMap snd)) st) _
    (fun past st inbound h hok => h.step ideal hmode hps hok.2 hok.1) inbounds [] (init Addr)
    init (hkept.and (Along.of_forall_mem inbounds [] _ hsnd))
  rwa [callsOf, ← map_snd_history, ← flatMap_def]

/-- In a run in which no datagram restarts or breaks the stream, the payloads
handed to the bus are a prefix of those sent, and all go to one bus half. -/
theorem payloads_prefix_sent (ideal : IdealFor P calls)
    (hmode : ingress.nativeEventMode = .secureUdpNative) (hps : ps.length < 2 ^ 64 - 1)
    (inbounds : List (Inbound Addr)) (hsender : ∀ inbound ∈ inbounds, inbound.source = K.1 →
      SentDatagram P calls ingress K.2 ps inbound)
    (hkept : Along (step ingress answers P) (Kept ingress answers P K) [] (init Addr)
      inbounds) :
    payloads (callsOf ingress answers P K inbounds) <+: ps ∧
      ∃ half, SentTo half (callsOf ingress answers P K inbounds) := by
  have hserving := serving_run ideal hmode hps inbounds hsender hkept
  exact ⟨hserving.sound.payloads_isPrefix, hserving.sound.exists_sentTo⟩

end

/-! ## A stream that holds and one that does not -/

lemma sentDatagrams_plain {ingress : MeshPeerUdpIngress} {sessionId : String} {ps : List Bytes}
    {source : Nat} {frames : List MeshFrame} (hclear : ingress.meshsec = none)
    (hfrs : ∀ frame ∈ frames, SentFrame sessionId ps frame ∧
      (nativeInbound source frame).payload.length ≤ maxUdpPayloadBytes) :
    ∀ inbound ∈ frames.map (nativeInbound source), inbound.source = source →
      SentDatagram plainPrimitives {call | call ∈ ([] : List SealCall)} ingress sessionId ps
        inbound := by
  intro inbound hmem _
  obtain ⟨frame, hframe, rfl⟩ := mem_map.mp hmem
  obtain ⟨hsent, hfits⟩ := hfrs frame hframe
  have henc : plainSender.encoded plainPrimitives 0 frame =
      .ok (nativeInbound source frame).payload := rfl
  obtain ⟨datagrams, hdgrams, hdgram⟩ := sent_of_encoded henc hfits
  exact ⟨plainSender, 0, frame, datagrams, rfl, by rw [hclear]; rfl, by simp [plainSender], hsent,
    hdgrams, _, hdgram, rfl⟩

def openFrame : MeshFrame := .streamOpen
  { sessionId := "s-1"
    openToken := 5
    target := ⟨"h", 80, by decide, by decide, Proto.http_ne_zero⟩
    routeGroup := none
    flowSemantics := .byteStream
    returnSemantics := .sequenceReorder
    sourceNodeId := "a"
    pathTrace := [] }

/-- The calls of session `s-1` when its peer's frames arrive in this order. -/
def callsAfter (ingress : MeshPeerUdpIngress) (frames : List MeshFrame) : List StreamOp :=
  callsOf ingress willing plainPrimitives (1, "s-1") (frames.map (nativeInbound 1))

/-- Two payloads out of order, one twice, around the open. -/
def shuffledFrames : List MeshFrame :=
  [.streamData "s-1" 2 [8], openFrame, .streamData "s-1" 1 [7], .streamData "s-1" 1 [7]]

theorem payloads_prefix_sent_shuffled :
    payloads (callsAfter .new shuffledFrames) <+: [[7], [8]] ∧
      payloads (callsAfter .new shuffledFrames) = [[7], [8]] :=
  ⟨(payloads_prefix_sent (codebookPrimitives_ideal (by decide)) rfl (by decide) _
    (sentDatagrams_plain rfl (by decide +kernel)) (by decide +kernel)).1, by decide +kernel⟩

def longPayloads : List Bytes := (range 66).map fun i => [UInt8.ofNat i]

/-- Number 66 overtakes the rest and number 1 arrives twice. -/
def overtakenFrames : List MeshFrame :=
  [openFrame, .streamData "s-1" 1 [0], .streamData "s-1" 66 [65], .streamData "s-1" 1 [0]]

/-- The overflow drops the family but not the session, so the second copy of
number 1 is handed to the same bus half again. -/
theorem overflow_repeats_payload :
    (∀ inbound ∈ overtakenFrames.map (nativeInbound 1), inbound.source = 1 →
      SentDatagram plainPrimitives {call | call ∈ ([] : List SealCall)} .new "s-1" longPayloads
        inbound) ∧
    callsAfter .new overtakenFrames = [.opened 0, .send 0 [0], .send 0 [0]] ∧
    ¬ payloads (callsAfter .new overtakenFrames) <+: longPayloads :=
  ⟨sentDatagrams_plain rfl (by decide +kernel), by decide +kernel, by decide +kernel⟩

-- Pending data beyond the limit is dropped, and what fits behind it is kept.
example :
    callsAfter (MeshPeerUdpIngress.new.withPendingStreamDataMaxBytes 2)
      [.streamData "s-1" 1 [7, 7, 7], .streamData "s-1" 2 [8], openFrame] =
        [.opened 2, .send 2 [8]] := by
  decide +kernel

-- A late copy of the open, after the close, starts the stream over on another half.
example :
    callsAfter .new
      [openFrame, .streamData "s-1" 1 [7], .streamClose "s-1" .normal, openFrame,
        .streamData "s-1" 1 [7]] =
          [.opened 0, .send 0 [7], .opened 3, .send 3 [7]] := by
  decide +kernel

end MeshBus.Ingress
