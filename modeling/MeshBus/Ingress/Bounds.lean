import MeshBus.Ingress.Wire

/-!
# Bounds of the ingress tables

Sessions, stream sessions and families stay within `max_peer_sessions`, since a
full table drops an entry first.  The table of pending stream data has no such
rule: it is within the limit as long as no frame starts another pending session
while it is full.
-/

namespace MeshBus.Ingress

open Lib MeshSec Proto Reorder List Table State Nat
variable {Addr : Type} [DecidableEq Addr]

/-- Stream data for a session that is neither open nor pending, with the pending
table full. -/
def OverfillsPending (ingress : MeshPeerUdpIngress) (peer : Addr) (st : State Addr) :
    MeshFrame → Prop
  | .streamData sessionId _ _ =>
    (peer, sessionId) ∉ st.streamSessions ∧ (peer, sessionId) ∉ st.pendingStreamData ∧
      ingress.maxPeerSessions ≤ st.pendingStreamData.size
  | _ => False

instance (ingress : MeshPeerUdpIngress) (peer : Addr) (st : State Addr) (frame : MeshFrame) :
    Decidable (OverfillsPending ingress peer st frame) :=
  match frame with
  | .streamData .. => inferInstanceAs (Decidable (_ ∧ _ ∧ _))
  | .hello _ | .streamOpen _ | .streamOpenReject .. | .streamShutdownWrite _ | .streamClose ..
  | .datagramOpen _ | .datagramSend .. | .datagramReturn .. | .datagramClose .. | .portOpen _
  | .portClose .. | .linkSample _ | .ackNack _ | .streamOpenAccepted .. => .isFalse id

structure Bounded (ingress : MeshPeerUdpIngress) (st : State Addr) : Prop where
  sessions : st.sessions.size ≤ ingress.maxPeerSessions
  streamSessions : st.streamSessions.size ≤ ingress.maxPeerSessions
  familyStates : st.familyStates.size ≤ ingress.maxPeerSessions
  pending : st.pendingStreamData.size ≤ ingress.maxPeerSessions
  pendingBytes : ∀ key pending, st.pendingStreamData.lookup key = some pending →
    pending.bytes ≤ ingress.pendingStreamDataMaxBytes

section
variable {st : State Addr}

lemma Bounded.init : Bounded ingress (init Addr) where
  sessions := zero_le _
  streamSessions := zero_le _
  familyStates := zero_le _
  pending := zero_le _
  pendingBytes := by
    intro key pending h
    simp [State.init] at h

section
variable (h : Bounded ingress st)
include h

lemma Bounded.pushFamily (key : SessionKey Addr)
    (package : DataPackage) : Bounded ingress (pushFamily ingress answers st key package).1 where
  sessions := h.sessions
  streamSessions := h.streamSessions
  familyStates := by
    unfold Ingress.pushFamily
    apply size_insert_le_of_lt
    split
    · rename_i hmem
      exact Or.inr ⟨hmem, h.familyStates⟩
    · exact Or.inl (size_makeRoom_lt ingress.maxPeerSessions_pos h.familyStates _)
  pending := h.pending
  pendingBytes := h.pendingBytes

lemma Bounded.eraseFamily (key : SessionKey Addr) :
    Bounded ingress { st with familyStates := st.familyStates.erase key } :=
  { h with familyStates := le_trans (size_erase_le _ _) h.familyStates }

lemma Bounded.decodeInbound (peer : Addr) (opened : Opened) :
    Bounded ingress (decodeInbound ingress answers st peer opened).1 := by
  have hdecg : Decoding ingress answers st peer opened _ := decodeInbound_decoding st peer opened
  generalize Ingress.decodeInbound ingress answers st peer opened = decoded at hdecg ⊢
  cases hdecg with
  | ordered event package =>
    have hpushed : Bounded ingress
        (Ingress.pushFamily ingress answers st (peer, event.familyId) package).1 :=
      h.pushFamily _ _
    unfold decodeFamilyPackage
    dsimp only
    split
    · exact hpushed.eraseFamily _
    · exact hpushed
  | _ => exact h

lemma Bounded.openDatagramSession (key : SessionKey Addr) (target : Endpoint) :
    Bounded ingress (openDatagramSession ingress answers st key target).1 := by
  unfold Ingress.openDatagramSession
  dsimp only
  split
  · have hroom := size_makeRoom_lt ingress.maxPeerSessions_pos h.sessions
      (answers st.tick).evict
    exact { h with sessions := size_insert_le_of_lt (Or.inl hroom) _ }
  · exact { h with }

lemma Bounded.closeStream (key : SessionKey Addr) : Bounded ingress (closeStream st key).1 :=
  { h with streamSessions := le_trans (size_erase_le _ _) h.streamSessions }

lemma Bounded.asked : Bounded ingress st.asked := { h with }

lemma Bounded.sendStream (key : SessionKey Addr) (half : Nat)
    (payload : Bytes) : Bounded ingress (sendStream answers st key half payload).1 := by
  unfold Ingress.sendStream
  split
  · exact h.asked
  · exact h.asked.closeStream key

end

lemma Bounded.flushPending (key : SessionKey Addr) (half : Nat) (payloads : List Bytes)
    {st : State Addr} (h : Bounded ingress st) :
    Bounded ingress (flushPending answers key half st payloads).1 := by
  induction payloads generalizing st with
  | nil => exact h
  | cons payload rest ih =>
    have hsent : Bounded ingress (Ingress.sendStream answers st key half payload).1 :=
      h.sendStream _ _ _
    unfold Ingress.flushPending
    split
    all_goals rename_i heq; rw [heq] at hsent
    · exact hsent
    · exact ih hsent

lemma Bounded.erasePending (h : Bounded ingress st) (key : SessionKey Addr) :
    Bounded ingress { st with pendingStreamData := st.pendingStreamData.erase key } where
  sessions := h.sessions
  streamSessions := h.streamSessions
  familyStates := h.familyStates
  pending := le_trans (size_erase_le _ _) h.pending
  pendingBytes := by
    intro key' pending hlook
    rw [lookup_erase_if] at hlook
    split at hlook
    · cases hlook
    · exact h.pendingBytes key' pending hlook

lemma Bounded.handleStreamOpen (h : Bounded ingress st) (peer : Addr)
    (replySeal : Option MeshSecSealContext) (request : StreamOpen) :
    Bounded ingress (handleStreamOpen ingress answers st peer replySeal request).1 := by
  have hent : ∀ key, Bounded ingress
      (enterStream ingress st.asked key st.tick (answers st.tick).evict).1 := by
    intro key
    have hroom := size_makeRoom_lt ingress.maxPeerSessions_pos h.streamSessions
      (answers st.tick).evict
    exact { h with streamSessions := size_insert_le_of_lt (Or.inl hroom) _ }
  unfold Ingress.handleStreamOpen
  dsimp only
  split
  · exact h
  · split
    · exact h.asked
    · split
      · exact hent _
      · exact Bounded.flushPending _ _ _ ((hent _).erasePending _)

lemma Bounded.handleStreamData (h : Bounded ingress st) (peer : Addr) (sessionId : String)
    (seq : UInt64) (payload : Bytes)
    (hok : ¬ OverfillsPending ingress peer st (.streamData sessionId seq payload)) :
    Bounded ingress (handleStreamData ingress answers st peer sessionId payload).1 := by
  unfold Ingress.handleStreamData
  dsimp only
  split
  · exact h.sendStream _ _ _
  · rename_i hclos
    have hroom : st.pendingStreamData.size < ingress.maxPeerSessions ∨
        ((peer, sessionId) ∈ st.pendingStreamData ∧
          st.pendingStreamData.size ≤ ingress.maxPeerSessions) := by
      by_cases hmem : (peer, sessionId) ∈ st.pendingStreamData
      · exact Or.inr ⟨hmem, h.pending⟩
      · left
        by_contra hfull
        exact hok ⟨AList.lookup_eq_none.mp hclos, hmem, Nat.le_of_not_lt hfull⟩
    have hins : ∀ pending : PendingStreamData,
        pending.bytes ≤ ingress.pendingStreamDataMaxBytes → Bounded ingress
          { st with pendingStreamData := st.pendingStreamData.insert (peer, sessionId) pending } := by
      intro pending hbytes
      refine { h with pending := size_insert_le_of_lt hroom _, pendingBytes := ?_ }
      intro key other hlook
      rw [lookup_insert_if] at hlook
      split at hlook
      · cases hlook
        exact hbytes
      · exact h.pendingBytes key other hlook
    have hold : ((st.pendingStreamData.lookup (peer, sessionId)).getD .empty).bytes ≤
        ingress.pendingStreamDataMaxBytes := by
      cases hlook : st.pendingStreamData.lookup (peer, sessionId) with
      | none => exact zero_le _
      | some pending => exact h.pendingBytes _ _ hlook
    split
    · exact hins _ hold
    · rename_i hfits
      exact hins _ (Nat.le_of_not_lt hfits)

lemma Bounded.handleFrame (h : Bounded ingress st) (peer : Addr)
    (replySeal : Option MeshSecSealContext) (now : UInt64) (frame : MeshFrame)
    (hok : ¬ OverfillsPending ingress peer st frame) :
    Bounded ingress (handleFrame ingress answers peer replySeal now st frame).1 := by
  cases frame with
  | datagramOpen request =>
    unfold Ingress.handleFrame handleDatagramOpen
    dsimp only
    split
    · exact h
    · split
      · exact h
      · exact h.openDatagramSession _ _
  | datagramSend sessionId seq target payload =>
    have hopnd : Bounded ingress
        (Ingress.openDatagramSession ingress answers st (peer, sessionId) target).1 :=
      h.openDatagramSession _ _
    unfold Ingress.handleFrame handleDatagramSend
    dsimp only
    split
    · exact h
    · split
      all_goals rename_i heq; rw [heq] at hopnd; exact hopnd
  | datagramClose sessionId closeReason =>
    exact { h.eraseFamily (peer, sessionId) with
      sessions := le_trans (size_erase_le _ _) h.sessions }
  | streamOpen request => exact h.handleStreamOpen peer replySeal request
  | streamData sessionId seq payload => exact h.handleStreamData peer sessionId seq payload hok
  | streamClose sessionId closeReason =>
    exact ((h.eraseFamily (peer, sessionId)).erasePending (peer, sessionId)).closeStream _
  | portOpen mouth => exact { h with }
  | portClose mouthId epoch => exact { h with }
  | _ => exact h

end

/-- As long as no frame starts another pending session while the pending table
is full, every table is within its limit at every point of the loop. -/
theorem tables_bounded (ingress : MeshPeerUdpIngress) (answers : Answers) (P : Primitives)
    (inputs : List (Inbound Addr)) (next : Inbound Addr) (hok : Along (step ingress answers P)
      (fun _ st inbound => HandledAlong ingress answers P
        (fun peer _ st frame => ¬ OverfillsPending ingress peer st frame) st inbound)
      [] (init Addr) (inputs ++ [next])) :
    ∀ st ∈ points ingress answers P (run (step ingress answers P) (init Addr) inputs).1 next,
      st.sessions.size ≤ ingress.maxPeerSessions ∧
      st.streamSessions.size ≤ ingress.maxPeerSessions ∧
      st.familyStates.size ≤ ingress.maxPeerSessions ∧
      st.pendingStreamData.size ≤ ingress.maxPeerSessions ∧
      st.pendingStreamData.total (fun pending => (pending.frames.map length).sum) ≤
        ingress.maxPeerSessions * ingress.pendingStreamDataMaxBytes := by
  have hpoints : ∀ (st : State Addr) (inbound : Inbound Addr), Bounded ingress st →
      HandledAlong ingress answers P
        (fun peer _ st frame => ¬ OverfillsPending ingress peer st frame) st inbound →
      ∀ s ∈ points ingress answers P st inbound, Bounded ingress s := by
    intro st inbound hst hguard
    exact points_invariant (fun st replay replyCounters h => { h with })
      (fun st peer opened h => h.decodeInbound peer opened)
      (fun _ st peer replySeal now frame h hframe => h.handleFrame peer replySeal now frame hframe)
      hst hguard
  obtain ⟨hinputs, hnext⟩ := hok.append
  have hbef : Bounded ingress (run (step ingress answers P) (init Addr) inputs).1 := by
    have hstep : ∀ (past : List (Inbound Addr × List (Effect Addr))) st inbound,
        Bounded ingress st → HandledAlong ingress answers P
          (fun peer _ st frame => ¬ OverfillsPending ingress peer st frame) st inbound →
        Bounded ingress (step ingress answers P st inbound).1 :=
      fun _ st inbound hst hguard => hpoints st inbound hst hguard _ (step_mem_points st inbound)
    exact run_invariant hstep inputs [] _ Bounded.init hinputs
  intro st hst
  have h := hpoints _ next hbef hnext.1 st hst
  refine ⟨h.sessions, h.streamSessions, h.familyStates, h.pending, ?_⟩
  calc st.pendingStreamData.total (fun pending => (pending.frames.map length).sum)
      ≤ st.pendingStreamData.size * ingress.pendingStreamDataMaxBytes := by
        apply total_le
        intro key pending hlook
        rw [← pending.bytes_eq]
        exact h.pendingBytes key pending hlook
    _ ≤ ingress.maxPeerSessions * ingress.pendingStreamDataMaxBytes := mul_le_mul_right _ h.pending

/-! ## Two peers against a table of one -/

def smallIngress : MeshPeerUdpIngress :=
  (MeshPeerUdpIngress.new.withMaxPeerSessions 1).withPendingStreamDataMaxBytes 8

def onePeer : State Nat :=
  (step smallIngress willing plainPrimitives
    (run (step smallIngress willing plainPrimitives) (init Nat)
      [nativeInbound 1 (.streamData "s-1" 1 [7])]).1
    (nativeInbound 1 (.streamData "s-1" 2 [8, 9]))).1

theorem tables_bounded_one_peer :
    onePeer.pendingStreamData.size ≤ 1 ∧
    onePeer.pendingStreamData.total (fun pending => (pending.frames.map length).sum) ≤ 8 := by
  have h := tables_bounded smallIngress willing plainPrimitives
    [nativeInbound 1 (.streamData "s-1" 1 [7])] (nativeInbound 1 (.streamData "s-1" 2 [8, 9]))
    (by decide +kernel) onePeer (by unfold onePeer; exact step_mem_points _ _)
  exact ⟨h.2.2.2.1, h.2.2.2.2⟩

/-- Two addresses send stream data before any open: two pending sessions, with
`max_peer_sessions` at 1. -/
theorem pendingStreamData_exceeds_limit :
    smallIngress.maxPeerSessions < (run (step smallIngress willing plainPrimitives) (init Nat)
      [nativeInbound 1 (.streamData "s-1" 1 [7]),
        nativeInbound 2 (.streamData "s-1" 1 [7])]).1.pendingStreamData.size := by
  decide +kernel

end MeshBus.Ingress
