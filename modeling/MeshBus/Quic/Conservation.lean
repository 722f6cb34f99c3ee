import MeshBus.Quic.Custody

/-!
# No stream data is lost or doubled

The frames of every stream lie end to end, and with the queue they are what the
application wrote.  Together with the three places of `Custody` this holds after
any run.
-/

namespace MeshBus.Quic

open Lib List Function

namespace Conn
variable {τ κ : Type}

open Account (Settled)

/-! ## The octets of the streams -/

def StreamsCut (c : Conn τ κ) : Prop := Cut (produced c.trace) (written c.trace) c.streams.sends

/-- Nothing was written, and no frame was made. -/
def SameCut (c c' : Conn τ κ) : Prop :=
  produced c'.trace = produced c.trace ∧ written c'.trace = written c.trace ∧
    c'.streams.sends = c.streams.sends

variable {c c' : Conn τ κ}

lemma StreamsCut.of_same (h : StreamsCut c) (hsame : SameCut c c') : StreamsCut c' := by
  unfold StreamsCut
  rw [hsame.1, hsame.2.1, hsame.2.2]
  exact h

lemma SameCut.of_account (h : c'.account = c.account) : SameCut c c' := by
  have htrace : c'.trace = c.trace := congrArg Account.trace h
  have hstrs : c'.streams = c.streams := congrArg Account.streams h
  unfold SameCut
  rw [htrace, hstrs]
  exact ⟨rfl, rfl, rfl⟩

lemma SameCut.trans (h : SameCut c₁ c₂) (h' : SameCut c₂ c₃) : SameCut c₁ c₃ :=
  ⟨h'.1.trans h.1, h'.2.1.trans h.2.1, h'.2.2.trans h.2.2⟩

lemma SameCut.of_event (htrace : c'.trace = c.trace ++ [event])
    (hstrs : c'.streams.sends = c.streams.sends) (hprod : event.produced? = none)
    (hwrit : ∀ id, event.writtenTo id = []) : SameCut c c' := by
  refine ⟨?_, ?_, hstrs⟩
  · rw [htrace, produced_append, produced_singleton, hprod]
    exact append_nil _
  · funext id
    rw [htrace, written_append, written_singleton, hwrit]
    exact append_nil _

lemma SameCut.foldl (hf : ∀ c p, SameCut c (f c p))
    (out : List SentPacket) (c : Conn τ κ) : SameCut c (out.foldl f c) := by
  induction out generalizing c with
  | nil => exact .of_account rfl
  | cons p rest ih => exact (hf c p).trans (ih (f c p))

lemma sameCut_forgetAcked (level : Level) (c : Conn τ κ) (p : SentPacket) :
    SameCut c (forgetAcked level c p) := by
  have htrace : (forgetAcked level c p).trace = c.trace ++ [.acked level p.pn _] := rfl
  exact .of_event htrace rfl rfl fun _ => rfl

lemma sameCut_requeue (level : Level) (c : Conn τ κ) (p : SentPacket) :
    SameCut c (requeue level c p) := by
  have htrace : (requeue level c p).trace = c.trace ++ [.lost level p.pn _] := rfl
  exact .of_event htrace rfl rfl fun _ => rfl

lemma sameCut_detectLost (c : Conn τ κ) (level : Level) : SameCut c (c.detectLost level).1 := by
  have hrcv : SameCut c { c with recovery := (c.recovery.detectLost level c.now).1 } :=
    ⟨rfl, rfl, rfl⟩
  exact hrcv.trans (.foldl (sameCut_requeue level) _ _)

lemma sameCut_handleAck {c : Conn τ κ} (level : Level) (largest delay firstRange : Nat)
    (ranges : List AckRange) : SameCut c (c.handleAck level largest delay firstRange ranges) := by
  have hrcv : SameCut c { c with
      recovery := (c.recovery.onAck level largest firstRange ranges delay c.now).1 } :=
    ⟨rfl, rfl, rfl⟩
  have hforg := hrcv.trans (.foldl (sameCut_forgetAcked level)
    (c.recovery.onAck level largest firstRange ranges delay c.now).2 _)
  exact hforg.trans (sameCut_detectLost _ level)

lemma sameCut_handleStream {c : Conn τ κ} {id offset : Nat} :
    SameCut c (c.handleStream id offset fin data).1 := by
  unfold handleStream
  split
  · exact .of_account rfl
  · next fc _ =>
      have hcnt : SameCut c (({ c with recvFc := fc } : Conn τ κ).note
          (.counted (.stream id offset fin data))) :=
        .of_event rfl rfl rfl fun _ => rfl
      dsimp only
      split
      · exact hcnt
      · have hsends := c.streams.sends_modify_recv id fun recv => recv.ingest offset data fin
        exact ⟨hcnt.1, hcnt.2.1, hsends⟩

lemma sameCut_handleFrame (c : Conn τ κ) {level : Level} :
    SameCut c (c.handleFrame level frame).1 := by
  cases frame with
  | ack largest delay firstRange ranges =>
    exact sameCut_handleAck level largest delay firstRange ranges
  | crypto offset data => exact .of_account (c.account_setCrypto level _)
  | resetStream streamId errorCode finalSize =>
    exact ⟨rfl, rfl, c.streams.sends_modify_recv streamId _⟩
  | stream id offset fin data => exact sameCut_handleStream
  | maxStreams bidi max =>
    refine ⟨rfl, rfl, ?_⟩
    cases bidi <;> rfl
  | handshakeDone =>
    unfold handleFrame
    dsimp only
    split <;> exact .of_account rfl
  | datagram data => exact .of_event rfl rfl rfl fun _ => rfl
  | _ => exact ⟨rfl, rfl, rfl⟩

lemma sameCut_recordSent {level : Level} {size : Nat} {frames : List Frame} :
    SameCut d (d.recordSent level size frames closing) := by
  have htrace : (d.recordSent level size frames closing).trace =
    d.trace ++ [.sent level (d.spaces.get level).nextPn frames] := rfl
  exact .of_event htrace rfl rfl fun _ => rfl

lemma streamsCut_of_app (h : StreamsCut c)
    (hsame : d.account = c.appFrames.1.account) : StreamsCut d := by
  have htrace : d.trace = c.trace ++ c.retransmit.map (fun lost => .resent lost .data) ++
    c.fresh.1.map .produced := congrArg Account.trace hsame
  have hstrs : d.streams = c.fresh.2 := congrArg Account.streams hsame
  have hwrit : written d.trace = written c.trace := by
    funext id
    have hresent : written (c.retransmit.map fun lost => .resent lost .data) id = [] :=
      flatMap_eq_nil_iff.mpr (forall_mem_map.mpr fun _ _ => rfl)
    have hprod : written (c.fresh.1.map .produced) id = [] :=
      flatMap_eq_nil_iff.mpr (forall_mem_map.mpr fun _ _ => rfl)
    rw [htrace, written_append, written_append, hresent, hprod, append_nil, append_nil]
  unfold StreamsCut
  rw [hwrit, hstrs, htrace, produced_append, produced_append, produced_map_resent,
    produced_map_produced, append_nil]
  exact h.produces c.fresh_produces

lemma streamsCut_buildPacket (h : StreamsCut c)
    (hbuilt : c.buildPacket level = some (c', packets)) : StreamsCut c' := by
  have hcut : ∀ d frames, Gathers c level d frames → StreamsCut d := by
    intro d frames hgath
    cases hgath with
    | control _ same ok => exact h.of_same (.of_account same)
    | app data running same ok => exact streamsCut_of_app h same
  refine buildPacket_invariant hbuilt h (fun d frames hgath _ => hcut d frames hgath) ?_
  intro d frames size closing hgath
  exact (hcut d frames hgath).of_same sameCut_recordSent

lemma streamsCut_act (h : Act e allowed c c') (hc : StreamsCut c) : StreamsCut c' := by
  cases h with
  | quiet same => exact hc.of_same (.of_account same)
  | adopt params first _ =>
    cases params with
    | _ => exact hc
  | received level pn => exact hc.of_same (.of_event rfl rfl rfl fun _ => rfl)
  | frame level frame ok => exact hc.of_same (sameCut_handleFrame c)
  | lost level => exact hc.of_same (sameCut_detectLost c level)

/-! ## Runs -/

lemma streamsCut_writeStream (h : StreamsCut c) {id : Nat} :
    StreamsCut (c.writeStream id data fin) := by
  have htrace : (c.writeStream id data fin).trace = c.trace ++ [.wrote id data] := rfl
  have hsends : (c.writeStream id data fin).streams.sends =
      update c.streams.sends id ((c.streams.sends id).write data fin) :=
    c.streams.sends_modify_send id _
  have hwrit : written (c.writeStream id data fin).trace =
      update (written c.trace) id (written c.trace id ++ data) := by
    funext id'
    rw [htrace, written_append, written_singleton, Event.writtenTo, update_apply]
    by_cases heq : id' = id
    · subst heq
      rw [if_pos rfl, if_pos rfl]
    · rw [if_neg heq, if_neg (Ne.symm heq), append_nil]
  have hprod : produced (c.writeStream id data fin).trace = produced c.trace := by
    rw [htrace, produced_append]
    exact append_nil _
  unfold StreamsCut
  rw [hprod, hwrit, hsends]
  exact h.write id data fin

def OpensUnused (c : Conn τ κ) (i : Input κ) : Prop :=
  ∀ bidi id, i = .openStream bidi → (c.openStream bidi).2 = some id → c.streams.sends id = {}

lemma streamsCut_openStream (h : StreamsCut c)
    (hunused : c.OpensUnused (.openStream bidi)) : StreamsCut (c.openStream bidi).1 := by
  rcases c.streams.sends_openNext bidi with hnone | ⟨id, hid, hsends⟩
  · refine h.of_same ⟨rfl, rfl, ?_⟩
    rw [show (c.openStream bidi).1.streams = (c.streams.openNext bidi).1 from rfl, hnone]
  · refine h.of_same ⟨rfl, rfl, ?_⟩
    rw [show (c.openStream bidi).1.streams = (c.streams.openNext bidi).1 from rfl, hsends,
      ← hunused bidi id rfl hid, update_eq_self]

lemma streamsCut_of_starts (h : c.Starts e) : StreamsCut c := by
  obtain ⟨side, dcid, scid, tls, hsame⟩ := account_of_starts h
  have htrace : c.trace = [] := congrArg Account.trace hsame
  have hstrs : c.streams = .new side := congrArg Account.streams hsame
  unfold StreamsCut
  rw [htrace, hstrs]
  exact Cut.empty fun _ => rfl

lemma streamsCut_step [DecidableEq κ] {e : Engine τ κ} (h : StreamsCut c)
    (hunused : c.OpensUnused i) : StreamsCut (c.step e i).1 := by
  refine step_invariant e c i ?_ ?_ ?_ (fun _ _ hact => streamsCut_act hact)
    (fun _ _ _ _ hbuilt hcut => streamsCut_buildPacket hcut hbuilt) h
  · rintro bidi rfl hc
    exact streamsCut_openStream hc hunused
  · exact fun id data fin hc => streamsCut_writeStream hc
  · refine fun id hc => hc.of_same ⟨rfl, rfl, ?_⟩
    exact c.streams.sends_modify_recv id fun _ => (c.streams.entry id).recv.read.1

/-- Stream data is conserved.  Every STREAM frame that was made is in one of three
places, and the frames of a stream and its queue are what was written to it. -/
structure Conserved (c : Conn τ κ) : Prop where
  placed : List.Perm (ackedStreams c.trace ++ c.account.inFlight ++ c.account.waiting)
    (produced c.trace)
  distinct : (produced c.trace).Nodup
  tracked : ∀ pn ∈ (c.sentFrames.get .data).keys, pn ∈ (c.recovery.spaces.get .data).sent.keys
  /-- The tables of the other levels have no STREAM frame. -/
  elsewhere : ∀ level, level ≠ .data → ∀ pn frames,
    (pn, frames) ∈ (c.sentFrames.get level).entries → ∀ frame ∈ frames, frame.isStream = false
  bytes : ∀ id, written c.trace id = bytesOf id (produced c.trace) ++ (c.streams.sends id).queued
  laid : ∀ id, Laid id 0 (produced c.trace)

variable [DecidableEq κ]

/-- In every run, whatever arrives and whatever is lost, as long as no stream is
opened over one that was written to. -/
theorem stream_data_conserved (e : Engine τ κ) (c : Conn τ κ) (hstarts : c.Starts e)
    (is : List (Input κ)) (hopens : Along (step e) (fun _ c i => c.OpensUnused i) [] c is) :
    (run (step e) c is).1.Conserved := by
  have hsett : Settled (run (step e) c is).1.account :=
    @run_state_invariant _ _ _ (step e) (fun c => Settled c.account)
      (fun c i => settled_step e c i) c is (settled_of_starts hstarts)
  have hcut : StreamsCut (run (step e) c is).1 :=
    @run_invariant _ _ _ (step e) (fun _ c => StreamsCut c) (fun _ c i => c.OpensUnused i)
      (fun _ _ _ hc hok => streamsCut_step hc hok) is [] c (streamsCut_of_starts hstarts) hopens
  refine ⟨?_, hcut.distinct, fun pn hpn => ?_, hsett.elsewhere, hcut.bytes, hcut.laid⟩
  · have hplaced := hsett.placed
    rw [append_nil] at hplaced
    exact hplaced
  · exact (hsett.tracked .data pn hpn).resolve_right id

/-- A server sends the whole of a stream and its frame is acknowledged. -/
theorem acknowledged_stream_conserved :
    let c : Conn Bool Nat := server ⟨[7], by decide⟩ false
    let ack : Packet Nat := .whole (.short ⟨[7], by decide⟩ (encodePacketNumber 0)) false
      ⟨2, 0, .short ⟨[7], by decide⟩ (encodePacketNumber 0), .ok [.ack 0 0 0 []]⟩
    let is : List (Input Nat) := [.recv (.ok []), .write 1 [10, 11, 12] true, .poll,
      .recv (.ok [ack])]
    ackedStreams (run (step (.instant [] 1 2)) c is).1.trace = [.stream 1 0 true [10, 11, 12]] ∧
      (run (step (.instant [] 1 2)) c is).1.Conserved := by
  refine ⟨by decide +kernel, stream_data_conserved _ _ (.inl ⟨_, _, rfl⟩) _ ?_⟩
  have hother : ∀ (c : Conn Bool Nat) (i : Input Nat), (∀ bidi, i ≠ .openStream bidi) →
      c.OpensUnused i := fun c i hne bidi id heq => absurd heq (hne bidi)
  refine ⟨hother _ _ ?_, hother _ _ ?_, hother _ _ ?_, hother _ _ ?_, True.intro⟩
  · rintro bidi ⟨⟩
  · rintro bidi ⟨⟩
  · rintro bidi ⟨⟩
  · rintro bidi ⟨⟩

end Conn
end MeshBus.Quic
