import MeshBus.Quic.Segments

/-!
# Where the STREAM frames are

Every STREAM frame that was made is in one of three places: its packet was
acknowledged, it is kept under a packet number whose packet is still in flight, or
it waits to be sent again.
-/

namespace MeshBus.Quic

open Lib List Frame OrdMap PerLevel Bool

/-! ## The history -/

namespace Event

def produced? : Event → Option Frame
  | .produced frame => some frame
  | _ => none

def ackedStreams : Event → List Frame
  | .acked .data _ frames => frames.filter isStream
  | _ => []

def writtenTo (id : Nat) : Event → Bytes
  | .wrote id' data => if id' = id then data else []
  | _ => []

end Event

def produced (trace : List Event) : List Frame := trace.filterMap Event.produced?

def ackedStreams (trace : List Event) : List Frame := trace.flatMap Event.ackedStreams

def written (trace : List Event) (id : Nat) : Bytes := trace.flatMap (Event.writtenTo id)

section
variable (t t' : List Event) (event : Event)

@[simp] lemma produced_append : produced (t ++ t') = produced t ++ produced t' := filterMap_append

@[simp] lemma produced_singleton : produced [event] = event.produced?.toList := by
  unfold produced
  cases h : event.produced? <;> simp [h]

@[simp] lemma ackedStreams_append : ackedStreams (t ++ t') = ackedStreams t ++ ackedStreams t' :=
  flatMap_append

@[simp] lemma ackedStreams_singleton : ackedStreams [event] = event.ackedStreams :=
  flatMap_singleton _ _

@[simp] lemma written_append (id : Nat) : written (t ++ t') id = written t id ++ written t' id :=
  flatMap_append

@[simp] lemma written_singleton (id : Nat) : written [event] id = event.writtenTo id :=
  flatMap_singleton _ _

end

/-! ## The three places -/

namespace Account

def inFlight (a : Account) : List Frame :=
  (a.sentFrames.get .data).values.flatten.filter isStream

def waiting (a : Account) : List Frame :=
  (a.retransmit.map LostFrame.frame).filter isStream

/-- Where the frames are, while some are in hand and the packets of some numbers are
no longer tracked. -/
structure Custody (hand : List Frame) (gone : Level → Nat → Prop) (a : Account) : Prop where
  placed : List.Perm (ackedStreams a.trace ++ a.inFlight ++ a.waiting ++ hand) (produced a.trace)
  tracked : ∀ level, ∀ pn ∈ (a.sentFrames.get level).keys,
    pn ∈ (a.tracked.get level).sent.keys ∨ gone level pn
  numbered : ∀ level pn p, (pn, p) ∈ (a.tracked.get level).sent.entries →
    p.pn = pn ∧ pn < a.nextPn level
  /-- STREAM frames are sent at the data level only. -/
  elsewhere : ∀ level, level ≠ .data → ∀ pn frames,
    (pn, frames) ∈ (a.sentFrames.get level).entries → ∀ frame ∈ frames, frame.isStream = false

abbrev Settled (a : Account) : Prop := Custody [] (fun _ _ => False) a

namespace Custody

lemma congr (h : Custody hand gone a) (hprod : produced a'.trace = produced a.trace)
    (hacked : ackedStreams a'.trace = ackedStreams a.trace)
    (hsent : a'.sentFrames = a.sentFrames) (hqueue : a'.retransmit = a.retransmit)
    (htrac : a'.tracked = a.tracked) (hnext : a'.nextPn = a.nextPn) :
    Custody hand gone a' where
  placed := by
    rw [hprod, hacked, inFlight, waiting, hsent, hqueue]
    exact h.placed
  tracked := by
    rw [hsent, htrac]
    exact h.tracked
  numbered := by
    rw [htrac, hnext]
    exact h.numbered
  elsewhere := by
    rw [hsent]
    exact h.elsewhere

lemma not_mem_keys (h : Custody hand (fun _ _ => False) a) {level : Level} :
    a.nextPn level ∉ (a.sentFrames.get level).keys := by
  intro hmem
  rcases h.tracked level _ hmem with htrac | hgone
  · obtain ⟨p, hp⟩ := mem_keys.mp htrac
    exact lt_irrefl _ (h.numbered level _ p hp).2
  · exact hgone

lemma untrack (h : Settled a) {after : PerLevel SpaceRecovery}
    (hout : Untracks a.tracked after level out) :
    Custody [] (fun level' pn => level' = level ∧ ∃ p ∈ out, p.pn = pn)
      { a with tracked := after } where
  placed := h.placed
  tracked level' pn hpn := by
    rcases h.tracked level' pn hpn with htrac | hgone
    · by_cases hlevel : level' = level
      · subst hlevel
        obtain ⟨p, hp⟩ := mem_keys.mp htrac
        rcases hout.here.cover (pn, p) hp with hkept | hmem
        · exact .inl (mem_keys.mpr ⟨p, hkept⟩)
        · exact .inr ⟨rfl, p, hmem, (h.numbered level' pn p hp).1⟩
      · exact .inl (by rw [hout.there level' hlevel]; exact htrac)
    · exact hgone.elim
  numbered level' pn p hp := by
    by_cases hlevel : level' = level
    · subst hlevel
      exact h.numbered level' pn p (hout.here.sub (pn, p) hp)
    · rw [hout.there level' hlevel] at hp
      exact h.numbered level' pn p hp
  elsewhere := h.elsewhere

end Custody
end Account

namespace Conn

open Account (Custody Settled)

/-! ## Frames that leave the table -/

def Gone (level : Level) (out : List SentPacket) (level' : Level) (pn : Nat) : Prop :=
  level' = level ∧ ∃ p ∈ out, p.pn = pn

variable {c : Conn τ κ}

lemma tracked_erase (h : Custody [] (Gone level (p :: out)) c.account) (level' : Level) (pn : Nat)
    (hpn : pn ∈ ((c.sentFrames.set level ((c.sentFrames.get level).erase p.pn)).get level').keys) :
    pn ∈ (c.recovery.spaces.get level').sent.keys ∨ Gone level out level' pn := by
  rw [get_set] at hpn
  split at hpn
  · next heq =>
      subst heq
      obtain ⟨hmem, hne⟩ := mem_keys_erase.mp hpn
      refine (h.tracked level' pn hmem).imp_right ?_
      rintro ⟨-, q, hq, hqpn⟩
      rcases mem_cons.mp hq with rfl | hq
      · exact absurd hqpn.symm hne
      · exact ⟨rfl, q, hq, hqpn⟩
  · next hne =>
      exact (h.tracked level' pn hpn).imp_right fun hgone => absurd hgone.1 hne

lemma elsewhere_erase
    (h : Custody hand gone c.account) (level : Level) (key : Nat) (level' : Level)
    (hlevel : level' ≠ .data) (pn : Nat) (frames : List Frame) (hmem : (pn, frames) ∈
      ((c.sentFrames.set level ((c.sentFrames.get level).erase key)).get level').entries) :
    ∀ frame ∈ frames, frame.isStream = false := by
  rw [get_set] at hmem
  split at hmem
  · next heq =>
      subst heq
      exact h.elsewhere level' hlevel pn frames (mem_entries_filter.mp hmem).1
  · exact h.elsewhere level' hlevel pn frames hmem

lemma streams_of_lookup (h : Custody hand gone c.account) (hlevel : level ≠ .data) (pn : Nat) :
    (((c.sentFrames.get level).lookup pn).getD []).filter isStream = [] := by
  cases hfound : (c.sentFrames.get level).lookup pn with
  | none => rfl
  | some frames =>
    refine filter_eq_nil_iff.mpr fun frame hframe => eq_false_iff.mp ?_
    exact h.elsewhere level hlevel pn frames (mem_entries_of_lookup hfound) frame hframe

/-- The STREAM frames in flight: those of the packet that leaves the table, and those
that are left. -/
lemma perm_inFlight_erase (h : Custody hand gone c.account) (level : Level) (pn : Nat) :
    List.Perm
      ((((c.sentFrames.get level).lookup pn).getD []).filter isStream ++
        ((c.sentFrames.set level ((c.sentFrames.get level).erase pn)).get
          .data).values.flatten.filter isStream)
      c.account.inFlight := by
  rw [get_set]
  split
  · next hdata =>
      subst hdata
      rw [← filter_append]
      exact (perm_flatten_erase _ _).filter _
  · next hdata =>
      rw [streams_of_lookup h (Ne.symm hdata)]
      exact .refl _

lemma custody_forgetAcked (h : Custody [] (Gone level (p :: out)) c.account) :
    Custody [] (Gone level out) (forgetAcked level c p).account where
  placed := by
    have hacked : (Event.acked level p.pn
        (((c.sentFrames.get level).lookup p.pn).getD [])).ackedStreams =
          (((c.sentFrames.get level).lookup p.pn).getD []).filter isStream := by
      cases level with
      | data => rfl
      | _ => exact (streams_of_lookup h (by decide) p.pn).symm
    have hflt := perm_inFlight_erase h level p.pn
    refine trans ?_ (h.placed.trans (.of_eq ?_))
    · rw [show (forgetAcked level c p).account.trace = c.trace ++ [_] from rfl, ackedStreams_append,
        ackedStreams_singleton, hacked, append_assoc (ackedStreams c.trace)]
      exact ((hflt.append_left _).append_right _).append_right _
    · rw [show (forgetAcked level c p).account.trace = c.trace ++ [_] from rfl, produced_append]
      exact (append_nil _).symm
  tracked := tracked_erase h
  numbered := h.numbered
  elsewhere := elsewhere_erase h level p.pn

lemma streams_of_retransmittable (level : Level) (frames : List Frame) :
    (((frames.filter retransmittable).map (LostFrame.mk level)).map LostFrame.frame).filter
      isStream = frames.filter isStream := by
  rw [map_map]
  rw [show LostFrame.frame ∘ LostFrame.mk level = id from rfl, map_id, filter_filter]
  refine filter_congr fun frame _ => ?_
  cases frame <;> rfl

lemma custody_requeue (h : Custody [] (Gone level (p :: out)) c.account) :
    Custody [] (Gone level out) (requeue level c p).account where
  placed := by
    have hflt := perm_inFlight_erase h level p.pn
    have hwait : (requeue level c p).account.waiting = c.account.waiting ++
        (((c.sentFrames.get level).lookup p.pn).getD []).filter isStream := by
      unfold Account.waiting
      rw [show (requeue level c p).account.retransmit = c.retransmit ++ _ from rfl,
        map_append, filter_append, streams_of_retransmittable]
      rfl
    have hacked : ackedStreams (requeue level c p).account.trace = ackedStreams c.trace := by
      rw [show (requeue level c p).account.trace = c.trace ++ [_] from rfl, ackedStreams_append]
      exact append_nil _
    have hprod : produced (requeue level c p).account.trace = produced c.trace := by
      rw [show (requeue level c p).account.trace = c.trace ++ [_] from rfl, produced_append]
      exact append_nil _
    rw [hacked, hprod, hwait]
    refine trans ?_ h.placed
    apply perm_iff_count.mpr
    intro frame
    have hcount := hflt.count_eq frame
    rw [show (requeue level c p).account.inFlight =
      ((c.sentFrames.set level ((c.sentFrames.get level).erase p.pn)).get
        .data).values.flatten.filter isStream from rfl]
    simp only [count_append] at hcount ⊢
    have htrace : c.account.trace = c.trace := rfl
    rw [htrace]
    omega
  tracked := tracked_erase h
  numbered := h.numbered
  elsewhere := elsewhere_erase h level p.pn

lemma settled_foldl (hf : ∀ c p out, Custody [] (Gone level (p :: out)) c.account →
      Custody [] (Gone level out) (f c p).account)
    (out : List SentPacket) (c : Conn τ κ) (h : Custody [] (Gone level out) c.account) :
    Settled (out.foldl f c).account := by
  induction out generalizing c with
  | nil =>
    refine ⟨h.placed, fun level' pn hpn => ?_, h.numbered, h.elsewhere⟩
    refine (h.tracked level' pn hpn).imp_right ?_
    rintro ⟨-, p, hp, -⟩
    cases hp
  | cons p rest ih => exact ih _ (hf c p rest h)

lemma settled_detectLost (h : Settled c.account) {level : Level} :
    Settled (c.detectLost level).1.account :=
  settled_foldl (fun _ _ _ => custody_requeue) _ _
    (h.untrack (c.recovery.detectLost_untracks level c.now))

lemma settled_handleAck {ranges} (h : Settled c.account) {level : Level} :
    Settled (c.handleAck level largest delay firstRange ranges).account := by
  apply settled_detectLost
  apply settled_foldl fun _ _ _ => custody_forgetAcked
  exact h.untrack (c.recovery.onAck_untracks level largest firstRange ranges delay c.now)

/-! ## Frames that are sent -/

lemma streams_of_kept (frames : List Frame) :
    (frames.filter retransmittable).filter isStream =
      frames.filter isStream := by
  rw [filter_filter]
  refine filter_congr fun frame _ => ?_
  cases frame <;> rfl

section
variable (d : Conn τ κ) (level : Level) (size : Nat) (frames : List Frame) (closing : Bool)

lemma sent_recordSent :
    ((d.recordSent level size frames closing).account.tracked.get level').sent =
      if level' = level then (d.recovery.spaces.get level).sent.insert
          (d.spaces.get level).nextPn
          ⟨(d.spaces.get level).nextPn, d.now, size, frames.any ackEliciting⟩
      else (d.recovery.spaces.get level').sent := by
  have htrac : (d.recordSent level size frames closing).account.tracked =
    d.recovery.spaces.set level _ := rfl
  rw [htrac, get_set]
  split <;> rfl

lemma nextPn_recordSent :
    (d.recordSent level size frames closing).account.nextPn level' =
      if level' = level then (d.spaces.get level).nextPn + 1
      else (d.spaces.get level').nextPn := by
  have hnext : (d.recordSent level size frames closing).account.nextPn level' =
    ((d.spaces.set level _).get level').nextPn := rfl
  rw [hnext, get_set]
  split <;> rfl

lemma mem_sentFrames_recordSent (h : (pn, kept) ∈
      ((d.recordSent level size frames closing).account.sentFrames.get level').entries) :
    level' = level ∧ pn = (d.spaces.get level).nextPn ∧
        kept = frames.filter retransmittable ∨
      (pn, kept) ∈ (d.sentFrames.get level').entries := by
  have hsent : (d.recordSent level size frames closing).account.sentFrames =
    if (frames.filter retransmittable).isEmpty then d.sentFrames
    else d.sentFrames.set level ((d.sentFrames.get level).insert
      (d.spaces.get level).nextPn (frames.filter retransmittable)) := rfl
  rw [hsent] at h
  split at h
  · exact .inr h
  · rw [get_set] at h
    split at h
    · next heq =>
        subst heq
        exact (mem_entries_insert h).imp_left fun hnew => ⟨rfl, hnew⟩
    · exact .inr h

end

lemma perm_inFlight_recordSent {d : Conn τ κ}
    (hnew : (d.spaces.get level).nextPn ∉ (d.sentFrames.get level).keys)
    (hother : level ≠ .data → ∀ frame ∈ frames, frame.isStream = false) (size : Nat)
    (closing : Bool) :
    List.Perm (d.recordSent level size frames closing).account.inFlight
      (frames.filter isStream ++ d.account.inFlight) := by
  have hflt : (d.recordSent level size frames closing).account.inFlight =
      ((if (frames.filter retransmittable).isEmpty then d.sentFrames
        else d.sentFrames.set level ((d.sentFrames.get level).insert
          (d.spaces.get level).nextPn (frames.filter retransmittable))).get
            .data).values.flatten.filter isStream := rfl
  rw [hflt]
  split
  · next hempty =>
      have hnone : frames.filter isStream = [] := by
        rw [← streams_of_kept, isEmpty_iff.mp hempty]
        rfl
      rw [hnone]
      exact .refl _
  · rw [get_set]
    split
    · next hdata =>
        subst hdata
        rw [← streams_of_kept frames, Account.inFlight, ← filter_append]
        exact (perm_flatten_insert _ hnew).filter _
    · next hdata =>
        have hnone : frames.filter isStream = [] :=
          filter_eq_nil_iff.mpr fun frame hframe =>
            eq_false_iff.mp (hother (Ne.symm hdata) frame hframe)
        rw [hnone]
        exact .refl _

lemma settled_recordSent {d : Conn τ κ}
    (h : Custody (frames.filter isStream) (fun _ _ => False) d.account)
    (hother : level ≠ .data → ∀ frame ∈ frames, frame.isStream = false) {size : Nat} :
    Settled (d.recordSent level size frames closing).account where
  placed := by
    have hflt := perm_inFlight_recordSent h.not_mem_keys hother size closing
    have htrace : (d.recordSent level size frames closing).account.trace = d.trace ++ [_] := rfl
    have hwait : (d.recordSent level size frames closing).account.waiting = d.account.waiting := rfl
    have hprod : produced (d.recordSent level size frames closing).account.trace =
        produced d.account.trace := by
      rw [htrace, produced_append]
      exact append_nil _
    have hacked : ackedStreams (d.recordSent level size frames closing).account.trace =
        ackedStreams d.account.trace := by
      rw [htrace, ackedStreams_append]
      exact append_nil _
    rw [hacked, hprod, hwait]
    refine trans ?_ h.placed
    apply perm_iff_count.mpr
    intro frame
    have hcount := hflt.count_eq frame
    simp only [count_append, count_nil] at hcount ⊢
    omega
  tracked level' pn hpn := by
    refine .inl ?_
    obtain ⟨kept, hkept⟩ := mem_keys.mp hpn
    rw [sent_recordSent]
    rcases mem_sentFrames_recordSent d level size frames closing hkept with ⟨rfl, rfl, -⟩ | hold
    · rw [if_pos rfl]
      exact mem_keys.mpr ⟨_, mem_insertEntry_self _ _ _⟩
    · have htrac := (h.tracked level' pn (mem_keys.mpr ⟨kept, hold⟩)).resolve_right id
      split
      · next heq =>
          subst heq
          obtain ⟨p, hp⟩ := mem_keys.mp htrac
          have hlt := (h.numbered level' pn p hp).2
          exact mem_keys.mpr ⟨p, mem_insertEntry_of_ne hp (ne_of_lt hlt)⟩
      · exact htrac
  numbered level' pn p hp := by
    rw [sent_recordSent] at hp
    rw [nextPn_recordSent]
    split at hp
    · next heq =>
        subst heq
        rw [if_pos rfl]
        rcases mem_entries_insert hp with ⟨rfl, rfl⟩ | hold
        · exact ⟨rfl, Nat.lt_succ_self _⟩
        · have hnumb := h.numbered level' pn p hold
          exact ⟨hnumb.1, Nat.lt_succ_of_lt hnumb.2⟩
    · next hne =>
        rw [if_neg hne]
        exact h.numbered level' pn p hp
  elsewhere level' hlevel pn kept hmem := by
    rcases mem_sentFrames_recordSent d level size frames closing hmem with ⟨rfl, -, rfl⟩ | hold
    · exact fun frame hframe => hother hlevel frame (mem_filter.mp hframe).1
    · exact h.elsewhere level' hlevel pn kept hold

lemma streams_appFrames : c.appFrames.2.filter isStream = c.account.waiting ++ c.fresh.1 := by
  have hfresh : c.fresh.1.filter isStream = c.fresh.1 := filter_eq_self.mpr c.fresh_produces.streams
  have hcred : ∀ limits : List Nat, (limits.map maxData).filter isStream = [] := by
    intro limits
    exact filter_eq_nil_iff.mpr (forall_mem_map.mpr fun _ _ => false_ne_true)
  have hdgrams : ∀ sent : List Bytes, (sent.map datagram).filter isStream = [] := by
    intro sent
    exact filter_eq_nil_iff.mpr (forall_mem_map.mpr fun _ _ => false_ne_true)
  rw [appFrames_snd, filter_append, filter_append, filter_append, hcred, hfresh,
    hdgrams, append_nil]
  rfl

lemma produced_map_resent (queue : List LostFrame) :
    produced (queue.map fun lost => .resent lost .data) = [] :=
  filterMap_eq_nil_iff.mpr (forall_mem_map.mpr fun _ _ => rfl)

lemma produced_map_produced (frames : List Frame) : produced (frames.map .produced) = frames := by
  unfold produced
  rw [filterMap_map]
  exact filterMap_some

section
variable (h : Settled c.account)
include h

lemma custody_appFrames :
    Custody (c.appFrames.2.filter isStream) (fun _ _ => False) c.appFrames.1.account := by
  rw [account_appFrames, streams_appFrames]
  refine ⟨?_, h.tracked, h.numbered, h.elsewhere⟩
  have hacked : ackedStreams (c.trace ++ c.retransmit.map (fun lost => .resent lost .data) ++
      c.fresh.1.map .produced) = ackedStreams c.trace := by
    have hresent : ackedStreams (c.retransmit.map fun lost => .resent lost .data) = [] :=
      flatMap_eq_nil_iff.mpr (forall_mem_map.mpr fun _ _ => rfl)
    have hprod : ackedStreams (c.fresh.1.map .produced) = [] :=
      flatMap_eq_nil_iff.mpr (forall_mem_map.mpr fun _ _ => rfl)
    rw [ackedStreams_append, ackedStreams_append, hresent, hprod, append_nil, append_nil]
  rw [hacked, produced_append, produced_append, produced_map_resent, produced_map_produced,
    append_nil, ← append_assoc]
  refine List.Perm.append_right _ (trans ?_ h.placed)
  simp only [Account.inFlight, Account.waiting, map_nil, filter_nil, append_nil]
  exact .refl _

lemma custody_gathers (hgath : Gathers c level d frames) :
    Custody (frames.filter isStream) (fun _ _ => False) d.account ∧
      (level ≠ .data → ∀ frame ∈ frames, frame.isStream = false) := by
  have hoths : ∀ others : List Frame, (∀ frame ∈ others, c.Control level frame) →
      others.filter isStream = [] := by
    intro others hok
    exact filter_eq_nil_iff.mpr fun frame hframe =>
      eq_false_iff.mp (hok frame hframe).not_stream
  cases hgath with
  | control _ same ok =>
    rw [hoths frames ok, same]
    exact ⟨h, fun _ frame hframe => (ok frame hframe).not_stream⟩
  | app data running same ok =>
    obtain ⟨hbef, hafter⟩ := forall_mem_append.mp ok
    rw [filter_append, filter_append, hoths _ hbef, hoths _ hafter, append_nil, same]
    exact ⟨custody_appFrames h, fun hlevel => absurd data hlevel⟩

lemma settled_buildPacket (hbuilt : c.buildPacket level = some (c', packets)) :
    Settled c'.account := by
  refine @buildPacket_invariant _ _ (fun c => Settled c.account) _ _ _ _ hbuilt h ?_ ?_
  · rintro d frames hgath rfl
    exact (custody_gathers h hgath).1
  · intro d frames size closing hgath
    obtain ⟨hcust, hother⟩ := custody_gathers h hgath
    exact settled_recordSent hcust hother

lemma settled_note (hprod : event.produced? = none)
    (hacked : event.ackedStreams = []) : Settled (c.note event).account := by
  refine h.congr ?_ ?_ rfl rfl rfl rfl
  · rw [show (c.note event).account.trace = c.trace ++ [event] from rfl, produced_append,
      produced_singleton, hprod]
    exact append_nil _
  · rw [show (c.note event).account.trace = c.trace ++ [event] from rfl, ackedStreams_append,
      ackedStreams_singleton, hacked]
    exact append_nil _

lemma settled_markReceived (level : Level) (pn : Nat) :
    Settled (c.markReceived level pn).account := by
  have hnoted : Settled (c.note (.decrypted level pn)).account := settled_note h rfl rfl
  refine hnoted.congr rfl rfl rfl rfl rfl ?_
  funext level'
  have hnext : (c.markReceived level pn).account.nextPn level' =
    ((c.spaces.set level _).get level').nextPn := rfl
  rw [hnext, get_set]
  split
  · next heq => rw [heq]; rfl
  · rfl

lemma settled_handleStream (id offset : Nat) (fin : Bool) (data : Bytes) :
    Settled (c.handleStream id offset fin data).1.account := by
  unfold handleStream
  split
  · exact h
  · next fc _ =>
      have hcred : Settled ({ c with recvFc := fc } : Conn τ κ).account :=
        h.congr rfl rfl rfl rfl rfl rfl
      have hcnt : Settled (({ c with recvFc := fc } : Conn τ κ).note
        (.counted (.stream id offset fin data))).account := settled_note hcred rfl rfl
      dsimp only
      split
      · exact hcnt
      · exact hcnt.congr rfl rfl rfl rfl rfl rfl

lemma settled_handleFrame (level : Level) (frame : Frame) :
    Settled (c.handleFrame level frame).1.account := by
  cases frame with
  | ack largest delay firstRange ranges =>
    exact settled_handleAck h
  | crypto offset data =>
    have hsame := c.account_setCrypto level ((c.spaces.get level).crypto.recv offset data)
    unfold handleFrame
    rw [hsame]
    exact h
  | stream id offset fin data => exact settled_handleStream h id offset fin data
  | handshakeDone =>
    unfold handleFrame
    dsimp only
    split
    · exact h
    · exact h
  | datagram data =>
    have hqueued : Settled ({ c with datagrams := c.datagrams.ingest data } : Conn τ κ).account :=
      h.congr rfl rfl rfl rfl rfl rfl
    exact settled_note hqueued rfl rfl
  | _ => exact h.congr rfl rfl rfl rfl rfl rfl

end

lemma settled_act (h : Act e allowed c c') (hc : Settled c.account) : Settled c'.account := by
  cases h with
  | quiet same => rwa [same]
  | adopt params first _ =>
    cases params with
    | _ => exact ⟨hc.placed, hc.tracked, hc.numbered, hc.elsewhere⟩
  | received level pn => exact settled_markReceived hc level pn
  | frame level frame ok => exact settled_handleFrame hc level frame
  | lost level => exact settled_detectLost hc

lemma settled_of_starts (h : c.Starts e) : Settled c.account := by
  obtain ⟨side, dcid, scid, tls, hsame⟩ := account_of_starts h
  rw [hsame]
  have hnone : ∀ level, ((Conn.new side dcid scid tls : Conn τ κ).account.sentFrames.get
      level).entries = [] := by
    intro level
    cases level <;> rfl
  have huntr : ∀ level, ((Conn.new side dcid scid tls : Conn τ κ).account.tracked.get
      level).sent.entries = [] := by
    intro level
    cases level <;> rfl
  refine ⟨.refl _, fun level pn hpn => ?_, fun level pn p hp => ?_, fun level _ pn kept hmem => ?_⟩
  · rw [OrdMap.keys, hnone level] at hpn
    cases hpn
  · rw [huntr level] at hp
    cases hp
  · rw [hnone level] at hmem
    cases hmem

lemma settled_step [DecidableEq κ] (e : Engine τ κ) (c : Conn τ κ) (i : Input κ)
    (h : Settled c.account) : Settled (c.step e i).1.account := by
  refine @step_invariant _ _ _ (fun c => Settled c.account) e c i ?_ ?_ ?_
    (fun _ _ hact => settled_act hact) (fun _ _ _ _ hbuilt hc => settled_buildPacket hc hbuilt) h
  · exact fun _ _ hc => hc.congr rfl rfl rfl rfl rfl rfl
  · intro id data fin hc
    have hwrit : Settled ({ c with streams := c.streams.modify id fun s =>
        { s with send := s.send.write data fin } } : Conn τ κ).account :=
      hc.congr rfl rfl rfl rfl rfl rfl
    exact settled_note hwrit rfl rfl
  · exact fun _ hc => hc.congr rfl rfl rfl rfl rfl rfl

end Conn
end MeshBus.Quic
