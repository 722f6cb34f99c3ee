import MeshBus.Ingress.Stream

/-!
# Arrived packages

As long as the family of a stream stays in its table, it is the in-order log of
the packages let in for it.  Once all of them have been let in and the session is
open, every payload has been handed over.
-/

namespace MeshBus.Ingress

open Lib MeshSec Proto Reorder Egress List State

/-! ## The family of a stream -/

section
variable {Addr : Type} [DecidableEq Addr] {ingress : MeshPeerUdpIngress} {answers : Answers}
  {P : Primitives} {calls : Set SealCall} {K : SessionKey Addr} {ps : List Bytes}
  {st st' : State Addr} {inbound : Inbound Addr}

lemma familyOf_congr (h : st'.familyStates.lookup K = st.familyStates.lookup K) :
    familyOf st' K = familyOf st K := by
  unfold familyOf
  rw [h]

lemma familyOf_of_none (h : st.familyStates.lookup K = none) :
    familyOf st K = .new K.2 1 nativeReorderWindow := by
  unfold familyOf
  rw [h]
  rfl

lemma familyOf_of_some (h : st.familyStates.lookup K = some fam) : familyOf st K = fam := by
  unfold familyOf
  rw [h]
  rfl

/-- What a datagram does to the family of the stream. -/
inductive FamilyMoved (ingress : MeshPeerUdpIngress) (P : Primitives) (K : SessionKey Addr)
    (ps : List Bytes) (st : State Addr) (inbound : Inbound Addr) :
    Option FamilyReorderState → Prop
  | kept (hnone : letIn ingress P K st inbound = none) :
      FamilyMoved ingress P K ps st inbound (st.familyStates.lookup K)
  | dropped : FamilyMoved ingress P K ps st inbound none
  | pushed {p : DataPackage} (hp : SentPackage K.2 ps K.2 p)
      (hnumber : letIn ingress P K st inbound = some p.seq)
      (hfits : ((familyOf st K).pushPackage p).2.overflows = false) :
      FamilyMoved ingress P K ps st inbound (some ((familyOf st K).pushPackage p).1)

omit [DecidableEq Addr] in
lemma familyStates_openInbound :
    (openInbound ingress P st inbound).1.familyStates = st.familyStates := by
  obtain ⟨replay, replyCounters, hfst⟩ := @openInbound_fst Addr ingress P st inbound
  rw [hfst]

lemma carriedNumber_eq_none (h : ∀ event, decodeEvent opened.clear = .ok event →
      event.semantic = .stream ∨ event.semantic = .datagram → event.package = none) :
    carriedNumber K source opened = none := by
  cases hevent : decodeEvent opened.clear with
  | error err =>
    unfold carriedNumber
    rw [hevent]
  | ok event =>
    rw [carriedNumber_eq hevent]
    split
    · rename_i hown
      rw [h event hevent hown.2]
      rfl
    · rfl

lemma FamilyMoved.ordered (hfams : st'.familyStates = st.familyStates)
    (hletIn : letIn ingress P K st inbound = carriedNumber K source opened)
    (hevent : decodeEvent opened.clear = .ok event)
    (hsem : event.semantic = .stream ∨ event.semantic = .datagram)
    (hpkg : event.package = some package)
    (hp : source = K.1 → SentPackage K.2 ps event.familyId package) :
    FamilyMoved ingress P K ps st inbound
      ((decodeFamilyPackage ingress answers st' source opened.replySeal event
        package).1.familyStates.lookup K) := by
  obtain ⟨-, -, hown, hother⟩ := @decodeFamilyPackage_view Addr _ ingress answers K st' source
    opened.replySeal event package
  rw [carriedNumber_eq hevent] at hletIn
  by_cases hkey : (source, event.familyId) = K
  · have hid : event.familyId = K.2 := congrArg Prod.snd hkey
    have hp' := hp (congrArg Prod.fst hkey)
    rw [hid] at hp'
    rw [if_pos ⟨hkey, hsem⟩, hpkg] at hletIn
    rw [hkey, familyOf_congr (congrArg (AList.lookup K) hfams)] at hown
    rw [hown]
    split
    · exact .dropped
    · rename_i hfits
      exact .pushed hp' hletIn (by simpa using hfits)
  · rcases hother K (Ne.symm hkey) with hsame | hnone
    · rw [if_neg fun hown => hkey hown.1] at hletIn
      rw [hsame, hfams]
      exact .kept hletIn
    · rw [hnone]
      exact .dropped

lemma FamilyMoved.decode (ideal : IdealFor P calls)
    (hmode : ingress.nativeEventMode = .secureUdpNative)
    (hsnd : inbound.source = K.1 → SentDatagram P calls ingress K.2 ps inbound)
    {opened : Opened} (hopen : openInbound ingress P st inbound = (st', .ok opened)) :
    FamilyMoved ingress P K ps st inbound
      ((decodeInbound ingress answers st' inbound.source opened).1.familyStates.lookup K) := by
  have hletIn : letIn ingress P K st inbound = carriedNumber K inbound.source opened := by
    unfold letIn
    rw [hopen]
    rfl
  have hfams : st'.familyStates = st.familyStates := by
    rw [← @familyStates_openInbound Addr ingress P st inbound, hopen]
  have hdecg : Decoding ingress answers st' inbound.source opened _ :=
    decodeInbound_decoding st' inbound.source opened
  generalize decodeInbound ingress answers st' inbound.source opened = decoded at hdecg ⊢
  cases hdecg with
  | dropped reasons hpkg =>
    rw [carriedNumber_eq_none (hpkg hmode)] at hletIn
    rw [hfams]
    exact .kept hletIn
  | unordered frame hframe =>
    unfold UnorderedFrame at hframe
    rw [hmode] at hframe
    obtain ⟨event, payload, hevent, hsem, -⟩ := hframe
    have hctrl : ¬ (event.semantic = .stream ∨ event.semantic = .datagram) := by
      rcases hsem with hsem | hsem <;> simp [hsem]
    rw [carriedNumber_eq hevent, if_neg fun hown => hctrl hown.2] at hletIn
    rw [hfams]
    exact .kept hletIn
  | ordered event package _ hevent hsem hpkg =>
    refine .ordered hfams hletIn hevent hsem hpkg fun hsrc => ?_
    have hclear := (hsnd hsrc).sentClear ideal (congrArg Prod.snd hopen)
    exact (hclear.event hevent).2 package hsem hpkg

lemma lookup_handleAll (peer : Addr) (replySeal : Option MeshSecSealContext) (now : UInt64)
    (frames : List MeshFrame) :
    (run (handleFrame ingress answers peer replySeal now) st frames).1.familyStates.lookup K =
      st.familyStates.lookup K ∨
    (run (handleFrame ingress answers peer replySeal now) st frames).1.familyStates.lookup K =
      none := by
  refine @run_state_invariant _ _ _ (handleFrame ingress answers peer replySeal now)
    (fun s => s.familyStates.lookup K = st.familyStates.lookup K ∨ s.familyStates.lookup K = none)
    (fun s frame h => ?_) st frames (Or.inl rfl)
  have hhand := (@handleFrame_handled Addr _ ingress answers K s peer replySeal now frame).family
  rcases hhand with hsame | hnone
  · exact h.imp hsame.trans hsame.trans
  · exact Or.inr hnone

lemma FamilyMoved.step (ideal : IdealFor P calls)
    (hmode : ingress.nativeEventMode = .secureUdpNative)
    (hsnd : inbound.source = K.1 → SentDatagram P calls ingress K.2 ps inbound) :
    FamilyMoved ingress P K ps st inbound
      ((step ingress answers P st inbound).1.familyStates.lookup K) := by
  unfold Ingress.step
  split
  · rename_i st' err heq
    have hfams := @familyStates_openInbound Addr ingress P st inbound
    rw [heq] at hfams
    dsimp only at hfams ⊢
    rw [hfams]
    refine .kept ?_
    unfold letIn
    rw [heq]
    rfl
  · rename_i st' opened heq
    have hdec := @FamilyMoved.decode Addr _ ingress answers P calls K ps st st' inbound ideal
      hmode hsnd opened heq
    dsimp only
    rcases lookup_handleAll inbound.source opened.replySeal inbound.now
      (decodeInbound ingress answers st' inbound.source opened).2.2 with hsame | hnone
    · rw [hsame]
      exact hdec
    · rw [hnone]
      exact .dropped

def Gathers (K : SessionKey Addr) (st : State Addr) : Prop :=
  ∃ past, Refines 1 nativeReorderWindow past (familyOf st K)

lemma Gathers.of_none (h : st.familyStates.lookup K = none) : Gathers K st := by
  refine ⟨[], ?_⟩
  rw [familyOf_of_none h]
  exact Refines.new _ _ _ (by decide)

section
variable (h : Gathers K st) (hps : ps.length < 2 ^ 64 - 1)
  (hmoved : FamilyMoved ingress P K ps st inbound (st'.familyStates.lookup K))
include h hps hmoved

lemma Gathers.moved : Gathers K st' := by
  obtain ⟨past, href⟩ := h
  generalize hlook : st'.familyStates.lookup K = family at hmoved
  cases hmoved with
  | kept =>
    rw [← familyOf_congr hlook] at href
    exact ⟨past, href⟩
  | dropped => exact .of_none hlook
  | pushed hp =>
    have hpushed := href.step (hp.seq_lt hps)
    rw [← familyOf_of_some hlook] at hpushed
    exact ⟨_, hpushed⟩

lemma Gathers.has_moved (hstays : K ∈ st.familyStates → K ∈ st'.familyStates) (hpos : 1 ≤ number)
    (hhas : (familyOf st K).Has number) : (familyOf st' K).Has number := by
  obtain ⟨past, href⟩ := h
  generalize hlook : st'.familyStates.lookup K = family at hmoved
  cases hmoved with
  | kept =>
    rw [familyOf_congr hlook]
    exact hhas
  | dropped =>
    have hmem : K ∉ st'.familyStates := AList.lookup_eq_none.mp hlook
    have hnone : st.familyStates.lookup K = none :=
      AList.lookup_eq_none.mpr fun hmem' => hmem (hstays hmem')
    rw [familyOf_of_none hnone] at hhas
    rcases hhas with hlt | hbuff
    · exact absurd hlt (not_lt.mpr hpos)
    · cases hbuff
  | pushed hp =>
    rw [familyOf_of_some hlook]
    exact href.has_push (hp.seq_lt hps) hpos hhas

lemma Gathers.has_letIn (hnum : letIn ingress P K st inbound = some number)
    (hstays : K ∈ st'.familyStates) : (familyOf st' K).Has number.toNat := by
  obtain ⟨past, href⟩ := h
  generalize hlook : st'.familyStates.lookup K = family at hmoved
  cases hmoved with
  | kept hnone => simp [hnone] at hnum
  | dropped => exact absurd hstays (AList.lookup_eq_none.mp hlook)
  | pushed hp hown hfits =>
    rw [hown] at hnum
    cases hnum
    obtain ⟨i, payload, hi, -⟩ := hp.own
    rw [familyOf_of_some hlook]
    exact href.has_pushed (hp.seq_lt hps) (by omega) hfits

end
end

/-! ## Runs -/

section
variable {Addr : Type} [DecidableEq Addr]

/-- The guard on a datagram: a package of the stream fits in the window, and the
family of the stream stays in the table. -/
def KeepsFamily (ingress : MeshPeerUdpIngress) (answers : Answers) (P : Primitives)
    (K : SessionKey Addr) (_past : List (Inbound Addr × List (Effect Addr))) (st : State Addr)
    (inbound : Inbound Addr) : Prop :=
  (letIn ingress P K st inbound).isSome = true ∨ K ∈ st.familyStates →
    K ∈ (step ingress answers P st inbound).1.familyStates

instance (ingress : MeshPeerUdpIngress) (answers : Answers) (P : Primitives) (K : SessionKey Addr)
    (past : List (Inbound Addr × List (Effect Addr))) (st : State Addr) (inbound : Inbound Addr) :
    Decidable (KeepsFamily ingress answers P K past st inbound) :=
  inferInstanceAs (Decidable (_ ∨ _ → _))

def Arrived (ingress : MeshPeerUdpIngress) (answers : Answers) (P : Primitives)
    (K : SessionKey Addr) (inbounds : List (Inbound Addr)) (number : Nat) : Prop :=
  ∃ earlier inbound later, inbounds = earlier ++ inbound :: later ∧
    (letIn ingress P K (run (step ingress answers P) (init Addr) earlier).1 inbound).map
      UInt64.toNat = some number

variable {ingress : MeshPeerUdpIngress} {answers : Answers} {P : Primitives} {calls : Set SealCall}
  {K : SessionKey Addr}

lemma gathers_run (ideal : IdealFor P calls)
    (hmode : ingress.nativeEventMode = .secureUdpNative) (hps : ps.length < 2 ^ 64 - 1)
    (inbounds : List (Inbound Addr)) (hsnd : ∀ inbound ∈ inbounds, inbound.source = K.1 →
      SentDatagram P calls ingress K.2 ps inbound) :
    Gathers K (run (step ingress answers P) (init Addr) inbounds).1 :=
  @run_invariant _ _ _ (step ingress answers P) (fun _ st => Gathers K st) _
    (fun _ _ _ hgath hsent => hgath.moved hps (FamilyMoved.step ideal hmode hsent)) inbounds
    [] (init Addr) (.of_none rfl) (Along.of_forall_mem inbounds [] _ hsnd)

lemma has_of_arrived (ideal : IdealFor P calls)
    (hmode : ingress.nativeEventMode = .secureUdpNative) (hps : ps.length < 2 ^ 64 - 1)
    (hsnd : ∀ inbound ∈ inbounds, inbound.source = K.1 →
      SentDatagram P calls ingress K.2 ps inbound)
    (hkeeps : Along (step ingress answers P) (KeepsFamily ingress answers P K) []
      (init Addr) inbounds) (hpos : 1 ≤ number)
    (harr : Arrived ingress answers P K inbounds number) :
    (familyOf (run (step ingress answers P) (init Addr) inbounds).1 K).Has number := by
  obtain ⟨earlier, inbound, later, rfl, hnum⟩ := harr
  obtain ⟨seq, hletIn, rfl⟩ := Option.map_eq_some_iff.mp hnum
  obtain ⟨-, hkeep, hlater⟩ := hkeeps.append
  have hbef := @gathers_run Addr _ ingress answers P calls K ps ideal hmode hps earlier
    fun i hi => hsnd i (by simp [hi])
  have hmoved := @FamilyMoved.step Addr _ ingress answers P calls K ps
    (run (step ingress answers P) (init Addr) earlier).1 inbound ideal hmode
    (hsnd inbound (by simp))
  have hhas := hbef.has_letIn hps hmoved hletIn (hkeep (Or.inl (by simp [hletIn])))
  have hrest := @run_invariant _ _ _ (step ingress answers P)
    (fun _ st => Gathers K st ∧ (familyOf st K).Has seq.toNat) _
    (fun past st i hinv hok =>
      have hmoved := FamilyMoved.step ideal hmode hok.2
      ⟨hinv.1.moved hps hmoved,
        hinv.1.has_moved hps hmoved (fun hmem => hok.1 (Or.inr hmem)) hpos hinv.2⟩)
    later _ _ ⟨hbef.moved hps hmoved, hhas⟩
    (hlater.and (Along.of_forall_mem later _ _ fun i hi => hsnd i (by simp [hi])))
  rw [run_append]
  exact hrest.2

/-- With the session open and the frontier past the last package, every payload
has been handed over. -/
lemma Sound.all_sent (h : Sound ps v ops [])
    (hopen : v.session ≠ none) (hnext : ps.length < v.next) : payloads ops = ps := by
  cases h with
  | lost _ _ _ hsess => exact absurd hsess hopen
  | live j hflow hfront _ _ hpend =>
    rw [hpend hopen, append_nil, append_nil] at hflow
    rw [hflow]
    apply take_of_length_le
    omega

/-- A stream that is kept, whose packages have all arrived and whose session is
open, has been handed over. -/
lemma payloads_eq_sent (ideal : IdealFor P calls)
    (hmode : ingress.nativeEventMode = .secureUdpNative) (hps : ps.length < 2 ^ 64 - 1)
    (inbounds : List (Inbound Addr)) (hsnd : ∀ inbound ∈ inbounds, inbound.source = K.1 →
      SentDatagram P calls ingress K.2 ps inbound)
    (hkept : Along (step ingress answers P) (Kept ingress answers P K) [] (init Addr) inbounds)
    (hkeeps : Along (step ingress answers P) (KeepsFamily ingress answers P K) []
      (init Addr) inbounds) (harr : ∀ number, 1 ≤ number → number ≤ ps.length →
      Arrived ingress answers P K inbounds number)
    (hopen : (run (step ingress answers P) (init Addr) inbounds).1.streamSessions.lookup K ≠
      none) : payloads (callsOf ingress answers P K inbounds) = ps := by
  have hserving := serving_run ideal hmode hps inbounds hsnd hkept
  obtain ⟨past, href⟩ := @gathers_run Addr _ ingress answers P calls K ps ideal hmode hps
    inbounds hsnd
  refine hserving.sound.all_sent hopen ?_
  rw [next_viewOf]
  exact href.lt_next fun number hpos hle =>
    has_of_arrived ideal hmode hps hsnd hkeeps hpos (harr number hpos hle)

end
end MeshBus.Ingress
