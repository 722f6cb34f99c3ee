import MeshBus.Ingress.Arrival

/-!
# Half-close

`StreamShutdownWrite` is a control frame: it passes by the reorder gate and by
the data pending before the open, and is handled ahead of both.  It ends a stream
in the right place when it comes once, after the open and after every package.
-/

namespace MeshBus.Ingress

open Lib MeshSec Proto Reorder Egress List State

def StreamOp.isShutdown : StreamOp → Bool
  | .shutdownWrite _ => true
  | .opened _ | .send _ _ => false

def shutdowns (ops : List StreamOp) : Nat := ops.countP StreamOp.isShutdown

@[simp] lemma shutdowns_append : shutdowns (ops ++ ops') = shutdowns ops + shutdowns ops' :=
  countP_append

/-- The half-close is called once, on the half that got every payload. -/
structure HalfClosed (ps : List Bytes) (ops : List StreamOp) : Prop where
  once : shutdowns ops = 1
  after : ∀ i half, ops[i]? = some (.shutdownWrite half) →
    payloads (ops.take i) = ps ∧ SentTo half (ops.take i)

section

lemma shutdowns_eq_zero : shutdowns ops = 0 ↔ ∀ half, .shutdownWrite half ∉ ops := by
  unfold shutdowns
  rw [countP_eq_zero]
  constructor
  · intro h half hmem
    exact h _ hmem rfl
  · intro h op hmem hop
    cases op with
    | shutdownWrite half => exact h half hmem
    | _ => cases hop

lemma HalfClosed.append_silent (h : HalfClosed ps ops) (hsil : shutdowns ops' = 0) :
    HalfClosed ps (ops ++ ops') where
  once := by
    rw [shutdowns_append, hsil]
    exact h.once
  after := by
    intro i half hi
    rw [getElem?_append] at hi
    split at hi
    · rename_i hlt
      rw [take_append_of_le_length (le_of_lt hlt)]
      exact h.after i half hi
    · exact absurd (mem_of_getElem? hi) (shutdowns_eq_zero.mp hsil half)

lemma HalfClosed.append_shutdown (hnone : shutdowns ops = 0)
    (hsent : payloads ops = ps) (hhalf : SentTo half ops) :
    HalfClosed ps (ops ++ [.shutdownWrite half]) where
  once := by
    rw [shutdowns_append, hnone]
    rfl
  after := by
    intro i half' hi
    rw [getElem?_append] at hi
    split at hi
    · exact absurd (mem_of_getElem? hi) (shutdowns_eq_zero.mp hnone half')
    · rename_i hge
      have hlt := (List.getElem?_eq_some_iff.mp hi).1
      obtain rfl : i = ops.length := by simp at hlt; omega
      rw [Nat.sub_self, getElem?_cons_zero] at hi
      cases hi
      rw [take_left]
      exact ⟨hsent, hhalf⟩

@[simp] lemma shutdowns_opened (half : Nat) (ps : List Bytes) :
    shutdowns (.opened half :: ps.map (.send half)) = 0 := by
  rw [shutdowns_eq_zero]
  intro half' hmem
  simp at hmem

end
section
variable [DecidableEq Addr] {peer : Addr}

lemma Handled.ops_of_shuts (h : Handled ingress K peer opens v frame v' ops)
    (hshuts : shutsFor K peer frame = true) (hopen : v.session = some half) :
    ops = [.shutdownWrite half] := by
  cases h with
  | untouched _ hshut => simp [hshut] at hshuts
  | evicted _ hshut => simp [hshut] at hshuts
  | shut _ hsess =>
    rw [hsess] at hopen
    cases hopen
    rfl
  | shutLost _ hsess => simp [hsess] at hopen
  | _ => cases hshuts

lemma Handled.shutdowns_eq_zero (h : Handled ingress K peer opens v frame v' ops)
    (hshuts : shutsFor K peer frame = false) : shutdowns ops = 0 := by
  cases h with
  | flushed => exact shutdowns_opened _ _
  | flushFailed => exact shutdowns_opened _ _
  | shut hkey => simp [shutsFor, hkey] at hshuts
  | _ => rfl

lemma shutdowns_handleAll (hnone : ∀ frame ∈ frames, shutsFor K peer frame = false) :
    shutdowns (opsOf K
      (run (handleFrame ingress answers peer replySeal now) st frames).2.flatten) = 0 := by
  induction frames generalizing st with
  | nil => rfl
  | cons frame rest ih =>
    have hframe := (@handleFrame_handled Addr _ ingress answers K st peer replySeal now
      frame).shutdowns_eq_zero (hnone frame mem_cons_self)
    rw [run_cons, flatten_cons, opsOf_append, shutdowns_append, hframe,
      ih fun f hf => hnone f (mem_cons_of_mem _ hf)]

end

/-! ## Datagrams -/

section
variable {Addr : Type} [DecidableEq Addr]

def HalfCloses (ingress : MeshPeerUdpIngress) (answers : Answers) (P : Primitives)
    (K : SessionKey Addr) (st : State Addr) (inbound : Inbound Addr) : Prop :=
  ∃ frame ∈ receivedFrames ingress answers P st inbound, shutsFor K inbound.source frame = true

instance (ingress : MeshPeerUdpIngress) (answers : Answers) (P : Primitives) (K : SessionKey Addr)
    (st : State Addr) (inbound : Inbound Addr) :
    Decidable (HalfCloses ingress answers P K st inbound) :=
  inferInstanceAs (Decidable (∃ frame ∈ receivedFrames ingress answers P st inbound, _ = true))

variable {ingress : MeshPeerUdpIngress} {answers : Answers} {P : Primitives} {calls : Set SealCall}
  {K : SessionKey Addr} {ps : List Bytes} {st : State Addr} {inbound : Inbound Addr}

lemma shutdowns_step (hnone : ¬ HalfCloses ingress answers P K st inbound) :
    shutdowns (opsOf K (step ingress answers P st inbound).2) = 0 := by
  unfold HalfCloses receivedFrames at hnone
  unfold step
  split
  · rfl
  · rename_i st' opened heq
    rw [heq] at hnone
    rw [opsOf_append, opsOf_decodeInbound]
    apply shutdowns_handleAll
    intro frame hmem
    by_contra hshuts
    exact hnone ⟨frame, hmem, by simpa using hshuts⟩

lemma shutsFor_eq_true (h : shutsFor K peer frame = true) :
    peer = K.1 ∧ Sender.isData frame = false := by
  cases frame with
  | streamShutdownWrite sessionId =>
    have hkey : (peer, sessionId) = K := of_decide_eq_true h
    exact ⟨congrArg Prod.fst hkey, rfl⟩
  | _ => cases h

lemma decode_of_shuts (hclear : SentClear K.2 ps opened.clear) (hfams : SentFamilies K ps st)
    (hmem : frame ∈ (decodeInbound ingress answers st K.1 opened).2.2)
    (hctrl : Sender.isData frame = false) :
    decodeInbound ingress answers st K.1 opened = (st, [], [frame]) := by
  have hdecg : Decoding ingress answers st K.1 opened _ := decodeInbound_decoding st K.1 opened
  generalize decodeInbound ingress answers st K.1 opened = decoded at hdecg hmem ⊢
  cases hdecg with
  | dropped => cases hmem
  | unordered frame' =>
    obtain rfl := mem_singleton.mp hmem
    rfl
  | ordered event package _ hevent hsem hpkg =>
    have hp := (hclear.event hevent).2 package hsem hpkg
    obtain ⟨hfrs, -⟩ := @decodeFamilyPackage_view Addr _ ingress answers K st K.1
      opened.replySeal event package
    rw [hfrs] at hmem
    obtain ⟨q, hq, hdec⟩ := mem_filterMap.mp hmem
    have hdata := (((hfams.holds event.familyId).push hp).2 q hq).isData hdec
    simp [hctrl] at hdata

lemma opsOf_step_of_halfCloses (ideal : IdealFor P calls)
    (hsnd : inbound.source = K.1 → SentDatagram P calls ingress K.2 ps inbound)
    (hfams : SentFamilies K ps st) (hopen : st.streamSessions.lookup K = some half)
    (hcloses : HalfCloses ingress answers P K st inbound) :
    opsOf K (step ingress answers P st inbound).2 = [.shutdownWrite half] := by
  obtain ⟨frame, hmem, hshuts⟩ := hcloses
  obtain ⟨hsrc, hctrl⟩ := shutsFor_eq_true hshuts
  have hview := @viewOf_openInbound Addr _ ingress P K st inbound
  unfold receivedFrames at hmem
  unfold step
  split
  · rename_i st' err heq
    simp [heq] at hmem
  · rename_i st' opened heq
    have hclear := (hsnd hsrc).sentClear ideal (congrArg Prod.snd heq)
    rw [heq] at hview hmem
    have hfams' : SentFamilies K ps st' :=
      hfams.of_dropped fun familyId => Or.inl (by
        have hsame := @familyStates_openInbound Addr ingress P st inbound
        rw [heq] at hsame
        rw [hsame])
    have hsess : (viewOf K st').session = some half := by
      rw [hview]
      exact hopen
    rw [hsrc] at hmem hshuts ⊢
    rw [decode_of_shuts hclear hfams' hmem hctrl]
    have hops := (@handleFrame_handled Addr _ ingress answers K st' K.1 opened.replySeal inbound.now
      frame).ops_of_shuts hshuts hsess
    simpa [run_cons] using hops

lemma shutdowns_run (hnone : Along (step ingress answers P)
      (fun _ st inbound => ¬ HalfCloses ingress answers P K st inbound) [] st inbounds) :
    shutdowns (opsOf K (run (step ingress answers P) st inbounds).2.flatten) = 0 := by
  have hrun := @run_invariant _ _ _ (step ingress answers P)
    (fun past _ => shutdowns (opsOf K (past.flatMap Prod.snd)) = 0) _
    (fun past st inbound hzero hno => by
      rw [flatMap_append, flatMap_singleton, opsOf_append, shutdowns_append, hzero,
        shutdowns_step hno])
    inbounds [] st rfl hnone
  rwa [← map_snd_history, ← flatMap_def]

/-- A half-close that comes once, with the session open and after every package of
a stream that is kept, is called once, on the half that got every payload. -/
theorem shutdown_after_payloads (ideal : IdealFor P calls)
    (hmode : ingress.nativeEventMode = .secureUdpNative) (hps : ps.length < 2 ^ 64 - 1)
    (earlier : List (Inbound Addr)) (inbound : Inbound Addr) (later : List (Inbound Addr))
    (hsender : ∀ i ∈ earlier ++ [inbound], i.source = K.1 → SentDatagram P calls ingress K.2 ps i)
    (hkept : Along (step ingress answers P) (Kept ingress answers P K) [] (init Addr) earlier)
    (hkeeps : Along (step ingress answers P) (KeepsFamily ingress answers P K) []
      (init Addr) earlier) (harrived : ∀ number, 1 ≤ number → number ≤ ps.length →
      Arrived ingress answers P K earlier number)
    (hopen : K ∈ (run (step ingress answers P) (init Addr) earlier).1.streamSessions)
    (hcloses : HalfCloses ingress answers P K
      (run (step ingress answers P) (init Addr) earlier).1 inbound)
    (hbefore : Along (step ingress answers P)
      (fun _ st i => ¬ HalfCloses ingress answers P K st i) [] (init Addr) earlier)
    (hafter : Along (step ingress answers P)
      (fun _ st i => ¬ HalfCloses ingress answers P K st i) []
      (run (step ingress answers P) (init Addr) (earlier ++ [inbound])).1 later) :
    HalfClosed ps (callsOf ingress answers P K (earlier ++ inbound :: later)) := by
  have hsnd' : ∀ i ∈ earlier, i.source = K.1 → SentDatagram P calls ingress K.2 ps i :=
    fun i hi => hsender i (by simp [hi])
  have hserving := serving_run ideal hmode hps earlier hsnd' hkept
  obtain ⟨half, hhalf⟩ := Option.isSome_iff_exists.mp (AList.lookup_isSome.mpr hopen)
  have hsent := payloads_eq_sent ideal hmode hps earlier hsnd' hkept hkeeps harrived
    (by simp [hhalf])
  have hcalled := opsOf_step_of_halfCloses ideal (hsender inbound (by simp)) hserving.families
    hhalf hcloses
  have hlater := shutdowns_run hafter
  have hsplit : callsOf ingress answers P K (earlier ++ inbound :: later) =
      callsOf ingress answers P K earlier ++ [.shutdownWrite half] ++
        opsOf K (run (step ingress answers P)
          (run (step ingress answers P) (init Addr) (earlier ++ [inbound])).1
          later).2.flatten := by
    unfold callsOf
    rw [run_append_snd, run_append, run_cons, flatten_append, flatten_cons, opsOf_append,
      opsOf_append, hcalled, append_assoc]
    rfl
  rw [hsplit]
  have hclos : HalfClosed ps (callsOf ingress answers P K earlier ++ [.shutdownWrite half]) :=
    .append_shutdown (shutdowns_run hbefore) hsent
      (hserving.sound.sentTo_session hhalf)
  exact hclos.append_silent hlater

end

/-! ## Half-closes in turn and out of turn -/

def shutFrame : MeshFrame := .streamShutdownWrite "s-1"

/-- The half-close comes after the open and after both payloads, which are out of
order; a late copy follows it. -/
theorem shutdown_after_payloads_shuffled :
    HalfClosed [[7], [8]]
      (callsAfter .new (shuffledFrames ++ [shutFrame, .streamData "s-1" 2 [8]])) := by
  refine @shutdown_after_payloads Nat _ .new willing plainPrimitives _ (1, "s-1") [[7], [8]]
    (codebookPrimitives_ideal (by decide)) rfl (by decide)
    (shuffledFrames.map (nativeInbound 1)) (nativeInbound 1 shutFrame)
    [nativeInbound 1 (.streamData "s-1" 2 [8])]
    (@sentDatagrams_plain .new "s-1" [[7], [8]] 1 (shuffledFrames ++ [shutFrame]) rfl
      (by decide +kernel))
    (by decide +kernel) (by decide +kernel) ?_ (by decide +kernel) (by decide +kernel)
    (by decide +kernel) (by decide +kernel)
  intro number hpos hle
  obtain rfl | rfl : number = 1 ∨ number = 2 := by
    change number ≤ 2 at hle
    omega
  · exact ⟨(shuffledFrames.take 2).map (nativeInbound 1), _, _, rfl, by decide +kernel⟩
  · exact ⟨[], _, _, rfl, by decide +kernel⟩

/-- Runs that deliver everything, with the half-close ahead of a payload, ahead of
the open, or twice. -/
def outOfTurn : List (List MeshFrame) :=
  [[openFrame, .streamData "s-1" 1 [7], shutFrame, .streamData "s-1" 2 [8]],
    [shutFrame, openFrame, .streamData "s-1" 1 [7], .streamData "s-1" 2 [8]],
    [openFrame, .streamData "s-1" 1 [7], .streamData "s-1" 2 [8], shutFrame, shutFrame]]

/-- The half-close is handled ahead of the ordered family: it is called before the
payload it overtakes, lost ahead of the open, and called for every copy. -/
theorem shutdown_out_of_turn :
    (∀ frames ∈ outOfTurn, ∀ inbound ∈ frames.map (nativeInbound 1), inbound.source = 1 →
      SentDatagram plainPrimitives {call | call ∈ ([] : List SealCall)} .new "s-1" [[7], [8]]
        inbound) ∧
    outOfTurn.map (callsAfter .new) =
      [[.opened 0, .send 0 [7], .shutdownWrite 0, .send 0 [8]],
        [.opened 0, .send 0 [7], .send 0 [8]],
        [.opened 0, .send 0 [7], .send 0 [8], .shutdownWrite 0, .shutdownWrite 0]] ∧
    ∀ frames ∈ outOfTurn, ¬ HalfClosed [[7], [8]] (callsAfter .new frames) := by
  have hcalls : outOfTurn.map (callsAfter .new) =
      [[.opened 0, .send 0 [7], .shutdownWrite 0, .send 0 [8]],
        [.opened 0, .send 0 [7], .send 0 [8]],
        [.opened 0, .send 0 [7], .send 0 [8], .shutdownWrite 0, .shutdownWrite 0]] := by
    decide +kernel
  refine ⟨fun frames hfrs => ?_, hcalls, fun frames hfrs h => ?_⟩
  · have hsent : ∀ frames ∈ outOfTurn, ∀ frame ∈ frames, SentFrame "s-1" [[7], [8]] frame ∧
        (nativeInbound 1 frame).payload.length ≤ maxUdpPayloadBytes := by
      decide +kernel
    exact sentDatagrams_plain rfl (hsent frames hfrs)
  · have hmem := mem_map_of_mem (f := callsAfter .new) hfrs
    rw [hcalls] at hmem
    generalize callsAfter .new frames = ops at h hmem
    simp only [mem_cons, not_mem_nil, or_false] at hmem
    rcases hmem with rfl | rfl | rfl
    · exact absurd (h.after 2 0 rfl).1 (by decide)
    · exact absurd h.once (by decide)
    · exact absurd h.once (by decide)

end MeshBus.Ingress
