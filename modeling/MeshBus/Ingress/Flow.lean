import MeshBus.Ingress.View

/-!
# The flow of one stream

How far the payloads of a stream have come: handed over, pending before the
open, or about to be handled.  Every frame moves them on in order, or ends the
stream, unless it drops pending data or opens a second bus half.
-/

namespace MeshBus.Ingress

open Lib MeshSec Proto Reorder Egress List

/-! ## Calls -/

def StreamOp.payload : StreamOp → Option Bytes
  | .send _ payload => some payload
  | .opened _ | .shutdownWrite _ => none

def payloads (ops : List StreamOp) : List Bytes := ops.filterMap StreamOp.payload

def SentTo (half : Nat) (ops : List StreamOp) : Prop :=
  ∀ h payload, .send h payload ∈ ops → h = half

section

@[simp] lemma payloads_append : payloads (ops ++ ops') = payloads ops ++ payloads ops' :=
  filterMap_append

@[simp] lemma payloads_map_send (ps : List Bytes) : payloads (ps.map (.send half)) = ps := by
  induction ps with
  | nil => rfl
  | cons p ps ih =>
    change p :: payloads (ps.map (.send half)) = p :: ps
    rw [ih]

@[simp] lemma payloads_opened : payloads (.opened half :: ops) = payloads ops := rfl

@[simp] lemma payloads_send {payload : Bytes} :
    payloads [.send half payload] = [payload] := rfl

lemma sentTo_of_payloads_eq_nil (h : payloads ops = []) : SentTo half ops := by
  intro h' payload hmem
  have hpay : payload ∈ payloads ops := mem_filterMap.mpr ⟨_, hmem, rfl⟩
  rw [h] at hpay
  cases hpay

lemma SentTo.append (h : SentTo half ops) (h' : SentTo half ops') :
    SentTo half (ops ++ ops') := by
  intro half' payload hmem
  rcases mem_append.mp hmem with hmem | hmem
  · exact h half' payload hmem
  · exact h' half' payload hmem

lemma sentTo_opened {ps : List Bytes} : SentTo half (.opened half :: ps.map (.send half)) := by
  intro half' payload hmem
  rcases mem_cons.mp hmem with hmem | hmem
  · cases hmem
  · obtain ⟨p, -, hp⟩ := mem_map.mp hmem
    cases hp
    rfl

lemma sentTo_send {payload : Bytes} : SentTo half [.send half payload] := by
  intro half' payload' hmem
  cases mem_singleton.mp hmem
  rfl

end

/-! ## How far a stream has come -/

/-- The state of a stream with payloads `ps`: what was handed over, what is
pending and what is about to be handled make up the first payloads, or the
session was lost after something had been handed over. -/
inductive Sound (ps : List Bytes) (v : View) (ops : List StreamOp) (flight : List Bytes) : Prop
  | live (j : Nat) (hflow : payloads ops ++ v.pending.frames ++ flight = ps.take j)
      (hnext : v.next = j + 1 ∨ v.next = 1)
      (hsession : payloads ops ≠ [] → v.session ≠ none)
      (hhalf : ∀ half, v.session = some half → SentTo half ops)
      (hpending : v.session ≠ none → v.pending.frames = [])
  | lost (hbegin : payloads ops <+: ps) (hsent : payloads ops ≠ []) {half : Nat}
      (hhalf : SentTo half ops) (hsession : v.session = none)

/-- A frame that starts the stream over, or leaves a gap in it: data dropped by
the pending limit before anything was handed over, or a new bus half opened
after something was. -/
def Breaks {Addr : Type} [DecidableEq Addr] (ingress : MeshPeerUdpIngress) (K : SessionKey Addr)
    (ops : List StreamOp) (peer : Addr) (opens : Bool) (v : View) : MeshFrame → Prop
  | .streamData sessionId _ payload =>
    (peer, sessionId) = K ∧ v.session = none ∧ payloads ops = [] ∧
      ingress.pendingStreamDataMaxBytes < v.pending.bytes + payload.length
  | .streamOpen request =>
    (peer, request.sessionId) = K ∧ v.session = none ∧ opens = true ∧ payloads ops ≠ []
  | _ => False

instance {Addr : Type} [DecidableEq Addr] (ingress : MeshPeerUdpIngress) (K : SessionKey Addr)
    (ops : List StreamOp) (peer : Addr) (opens : Bool) (v : View) (frame : MeshFrame) :
    Decidable (Breaks ingress K ops peer opens v frame) :=
  match frame with
  | .streamData .. => inferInstanceAs (Decidable (_ ∧ _ ∧ _ ∧ _))
  | .streamOpen _ => inferInstanceAs (Decidable (_ ∧ _ ∧ _ ∧ _))
  | .hello _ | .streamOpenReject .. | .streamShutdownWrite _ | .streamClose .. | .datagramOpen _
  | .datagramSend .. | .datagramReturn .. | .datagramClose .. | .portOpen _ | .portClose ..
  | .linkSample _ | .ackNack _ | .streamOpenAccepted .. => .isFalse id

section

section
variable (h : Sound ps v ops flight)
include h

lemma Sound.payloads_isPrefix : payloads ops <+: ps := by
  cases h with
  | lost hbegin => exact hbegin
  | live j hflow =>
    have hbegin : payloads ops <+: ps.take j := by
      rw [← hflow, append_assoc]
      exact prefix_append _ _
    exact hbegin.trans ( take_prefix j ps)

lemma Sound.exists_sentTo : ∃ half, SentTo half ops := by
  cases h with
  | lost _ _ hhalf => exact ⟨_, hhalf⟩
  | live j _ _ hsess hhalf =>
    by_cases hsent : payloads ops = []
    · exact ⟨0, sentTo_of_payloads_eq_nil hsent⟩
    · obtain ⟨half, hopen⟩ := Option.ne_none_iff_exists'.mp (hsess hsent)
      exact ⟨half, hhalf half hopen⟩

lemma Sound.sentTo_session (hopen : v.session = some half) : SentTo half ops := by
  cases h with
  | lost _ _ _ hsess => simp [hsess] at hopen
  | live j _ _ _ hhalf => exact hhalf half hopen

lemma Sound.lose (hsent : payloads ops ≠ [])
    (hsess : v'.session = none) (flight' : List Bytes) : Sound ps v' ops flight' := by
  obtain ⟨half, hhalf⟩ := h.exists_sentTo
  exact .lost h.payloads_isPrefix hsent hhalf hsess

lemma Sound.setFamily (hfamily : family = v.family ∨ family = none) :
    Sound ps { v with family } ops flight := by
  cases h with
  | live j hflow hnext hsess hhalf hpend =>
    refine .live j hflow ?_ hsess hhalf hpend
    rcases hfamily with rfl | rfl
    · exact hnext
    · exact Or.inr rfl
  | lost hbegin hsent hhalf hsess => exact .lost hbegin hsent hhalf hsess

lemma Sound.dropSession :
    Sound ps { v with session := none } ops flight := by
  by_cases hsent : payloads ops = []
  · cases h with
    | lost _ hne => exact absurd hsent hne
    | live j hflow hnext => exact .live j hflow hnext (absurd hsent) (by simp) (by simp)
  · exact h.lose hsent rfl flight

end

lemma Sound.close (h : Sound ps v ops []) : Sound ps ⟨none, .empty, none⟩ ops [] := by
  by_cases hsent : payloads ops = []
  · refine .live 0 ?_ (Or.inl rfl) (absurd hsent) (by simp) (by simp)
    rw [hsent]
    rfl
  · exact h.lose hsent rfl []

lemma Sound.append_silent (h : Sound ps v ops flight) (hsil : payloads ops' = []) :
    Sound ps v (ops ++ ops') flight := by
  have hpayl : payloads (ops ++ ops') = payloads ops := by simp [hsil]
  cases h with
  | lost hbegin hsent hhalf hsess =>
    rw [← hpayl] at hbegin hsent
    exact .lost hbegin hsent (hhalf.append (sentTo_of_payloads_eq_nil hsil)) hsess
  | live j hflow hnext hsess hhalf hpend =>
    rw [← hpayl] at hflow hsess
    exact .live j hflow hnext hsess
      (fun half hopen => (hhalf half hopen).append (sentTo_of_payloads_eq_nil hsil)) hpend

lemma Sound.send (h : Sound ps v ops (payload :: flight))
    (hopen : v.session = some half) : Sound ps v (ops ++ [.send half payload]) flight := by
  cases h with
  | lost _ _ _ hsess => simp [hopen] at hsess
  | live j hflow hnext _ hhalf hpend =>
    have hempty := hpend (by simp [hopen])
    refine .live j ?_ hnext (by simp [hopen]) (fun half' hopen' => ?_) hpend
    · rw [hempty] at hflow ⊢
      simpa using hflow
    · obtain rfl : half = half' := by simpa [hopen] using hopen'
      exact (hhalf half hopen).append sentTo_send

lemma Sound.queue (h : Sound ps v ops (payload :: flight)) (hclos : v.session = none) :
    Sound ps { v with pending := v.pending.push payload } ops flight := by
  cases h with
  | lost hbegin hsent hhalf hsess => exact .lost hbegin hsent hhalf hsess
  | live j hflow hnext hsess hhalf _ =>
    refine .live j ?_ hnext hsess hhalf (fun h => absurd hclos h)
    simpa [PendingStreamData.push] using hflow

section
variable (h : Sound ps v ops []) (hunsent : payloads ops = [])
include h hunsent

lemma Sound.pending_eq :
    ∃ j, v.pending.frames = ps.take j ∧
      (v.next = j + 1 ∨ v.next = 1) := by
  cases h with
  | lost _ hsent => exact absurd hunsent hsent
  | live j hflow hnext =>
    rw [hunsent] at hflow
    exact ⟨j, by simpa using hflow, hnext⟩

lemma Sound.flush (half : Nat) :
    Sound ps { v with session := some half, pending := .empty }
      (ops ++ .opened half :: v.pending.frames.map (.send half)) [] := by
  obtain ⟨j, hfrs, hnext⟩ := h.pending_eq hunsent
  refine .live j ?_ hnext (by simp) ?_ (fun _ => rfl)
  · rw [payloads_append, hunsent, payloads_opened, payloads_map_send, hfrs]
    simp [PendingStreamData.empty]
  · intro half' hopen
    cases hopen
    exact (sentTo_of_payloads_eq_nil hunsent).append sentTo_opened

lemma Sound.flushFail (half : Nat) (hi : i < v.pending.frames.length) :
    Sound ps { v with session := none, pending := .empty }
      (ops ++ .opened half :: (v.pending.frames.take (i + 1)).map (.send half)) [] := by
  obtain ⟨j, hfrs, -⟩ := h.pending_eq hunsent
  have hflus : payloads (ops ++ .opened half ::
      (v.pending.frames.take (i + 1)).map (.send half)) = v.pending.frames.take (i + 1) := by
    rw [payloads_append, hunsent, payloads_opened, payloads_map_send, nil_append]
  have hsome : v.pending.frames.take (i + 1) ≠ [] := by
    intro hnil
    have hlen := congrArg length hnil
    rw [length_take, length_nil] at hlen
    omega
  refine .lost ?_ (by rwa [hflus])
    ((sentTo_of_payloads_eq_nil hunsent).append sentTo_opened) rfl
  rw [hflus, hfrs]
  exact ( take_prefix _ _).trans ( take_prefix _ _)

end
end
section
variable {Addr : Type} [DecidableEq Addr] {ingress : MeshPeerUdpIngress} {answers : Answers}
  {K : SessionKey Addr} {peer : Addr} {ps : List Bytes}

lemma Sound.handle (h : Sound ps v ops ((payloadFor K peer frame).toList ++ flight))
    (hhand : Handled ingress K peer opens v frame v' ops')
    (hkept : ¬ Breaks ingress K ops peer opens v frame)
    (halone : Sender.isData frame = false → flight = []) : Sound ps v' (ops ++ ops') flight := by
  have hpay : ∀ {sessionId seq payload}, (peer, sessionId) = K →
      (payloadFor K peer (.streamData sessionId seq payload)).toList = [payload] := by
    intro sessionId seq payload hkey
    rw [payloadFor, if_pos hkey]
    rfl
  -- An accepted open is the first one: a second half would break the stream.
  have hfirst : ∀ {request}, frame = .streamOpen request → (peer, request.sessionId) = K →
      v.session = none → opens = true → payloads ops = [] := by
    intro request hframe hkey hsess hopens
    subst hframe
    by_contra hsent
    exact hkept ⟨hkey, hsess, hopens, hsent⟩
  cases hhand with
  | untouched hdata =>
    rw [hdata] at h
    simpa using h
  | evicted hdata =>
    rw [hdata] at h
    simpa using h.dropSession
  | familyClosed =>
    have hfamily := h.setFamily (Or.inr rfl)
    simpa [payloadFor] using hfamily
  | closed =>
    obtain rfl := halone rfl
    rw [append_nil]
    exact h.close
  | flushed hkey hsess hopens half =>
    obtain rfl := halone rfl
    exact h.flush (hfirst rfl hkey hsess hopens) half
  | flushFailed hkey hsess hopens half hi =>
    obtain rfl := halone rfl
    exact h.flushFail (hfirst rfl hkey hsess hopens) half hi
  | sent hkey hsess =>
    rw [hpay hkey] at h
    exact h.send hsess
  | sendFailed hkey hsess =>
    rw [hpay hkey] at h
    exact (h.send hsess).dropSession
  | queued hkey hsess =>
    rw [hpay hkey] at h
    rw [append_nil]
    exact h.queue hsess
  | dropped hkey hsess hover =>
    have hsent : payloads ops ≠ [] := fun hunsent => hkept ⟨hkey, hsess, hunsent, hover⟩
    rw [append_nil]
    exact h.lose hsent hsess flight
  | _ => exact h.append_silent rfl

/-- A stream with frames of a datagram still to be handled: none of its data, or
data only. -/
structure InFlight (K : SessionKey Addr) (peer : Addr) (ps : List Bytes) (ops : List StreamOp)
    (st : State Addr) (frames : List MeshFrame) : Prop where
  alone : frames.filterMap (payloadFor K peer) = [] ∨ ∀ frame ∈ frames, Sender.isData frame
  sound : Sound ps (viewOf K st) ops (frames.filterMap (payloadFor K peer))

lemma InFlight.handle (h : InFlight K peer ps ops st (frame :: rest))
    (hkept : ¬ Breaks ingress K ops peer (answers st.tick).openStream.isNone (viewOf K st) frame) :
    InFlight K peer ps
      (ops ++ opsOf K (handleFrame ingress answers peer replySeal now st frame).2)
      (handleFrame ingress answers peer replySeal now st frame).1 rest := by
  have hcons : (frame :: rest).filterMap (payloadFor K peer) =
      (payloadFor K peer frame).toList ++ rest.filterMap (payloadFor K peer) := by
    cases hpay : payloadFor K peer frame <;> simp [hpay]
  obtain ⟨halone, hsound⟩ := h
  rw [hcons] at halone hsound
  refine ⟨?_, hsound.handle (handleFrame_handled peer replySeal now frame) hkept ?_⟩
  · rcases halone with hnone | hdata
    · exact Or.inl (append_eq_nil_iff.mp hnone).2
    · exact Or.inr fun f hf => hdata f (mem_cons_of_mem _ hf)
  · intro hctrl
    rcases halone with hnone | hdata
    · exact (append_eq_nil_iff.mp hnone).2
    · simp [hctrl] at hdata

/-- The guard on a frame, after the calls `ops` and the effects its datagram has
had so far. -/
def KeepsFrame (ingress : MeshPeerUdpIngress) (answers : Answers) (K : SessionKey Addr)
    (ops : List StreamOp) (peer : Addr) (effects : List (Effect Addr)) (st : State Addr)
    (frame : MeshFrame) : Prop :=
  ¬ Breaks ingress K (ops ++ opsOf K effects) peer (answers st.tick).openStream.isNone
    (viewOf K st) frame

instance (ops : List StreamOp) (effects : List (Effect Addr)) (st : State Addr)
    (frame : MeshFrame) : Decidable (KeepsFrame ingress answers K ops peer effects st frame) :=
  inferInstanceAs (Decidable (¬ _))

lemma InFlight.handleAll (h : InFlight K peer ps ops st frames)
    (hkept : Along (handleFrame ingress answers peer replySeal now)
      (fun past st frame => KeepsFrame ingress answers K ops peer (past.flatMap Prod.snd) st frame)
      [] st frames) :
    Sound ps (viewOf K (run (handleFrame ingress answers peer replySeal now) st frames).1)
      (ops ++ opsOf K (run (handleFrame ingress answers peer replySeal now) st frames).2.flatten)
      [] := by
  have hrun := @run_remaining_invariant _ _ _ (handleFrame ingress answers peer replySeal now)
    (fun past st frames => InFlight K peer ps (ops ++ opsOf K (past.flatMap Prod.snd)) st frames) _
    (fun past st frame rest hflt hkeeps => by
      simpa [flatMap_append] using hflt.handle hkeeps)
    frames [] st (by simpa using h) hkept
  rw [← map_snd_history, ← flatMap_def]
  simpa using hrun.sound

end
end MeshBus.Ingress
