import MeshBus.Session.Delivery
import MeshBus.Session.Pending

/-!
# Where a reply came from

With one adapter, a reply that some request waits for is attributed to the
endpoint it came from.  A reply that no request waits for is numbered 0, and gets
the target of request 0, or the target of the session's request once a reply with
that number has been read.
-/

namespace MeshBus.Session

open Lib Kernel List DatagramEgressAdapter
open Proto (Endpoint)

/-! ## Numbers on the way -/

def dataSeq : ReturnEvent → Option Nat
  | .data seq _ => some seq
  | _ => none

def seqsOf (returns : List Returned) : List Nat := returns.filterMap fun r => dataSeq r.event

namespace System

def pending (s : System) : PendingDatagramSeqs := (s.adapters 0).pendingFor s.session.sessionId

def submittedSeqs (s : System) : List Nat := s.submitted.map (·.seq)

/-- Something with this number has not been read yet, or may still be answered. -/
def Outstanding (s : System) (seq : Nat) : Prop :=
  seq ∈ s.submittedSeqs ∨ (∃ key, Waits s.pending key seq) ∨ seq ∈ seqsOf s.returns

def nextSource (s : System) (seq : Nat) : Endpoint :=
  if seq ∈ seqsOf s.returns then s.session.request.target else s.session.sourceOf seq

end System

/-- A reply that no request waits for, and that is not dropped either, comes from
the endpoint that the session gives to number 0.  And a counter that has reached
its end is used again only when nothing with its last number is on the way. -/
def Attributable (s : System) : SystemStep → Prop
  | .sendTo _ _ => s.session.seq = u64Max → ¬s.Outstanding u64Max
  | .polled idx (.ok (source, payload)) now =>
    Fresh s (.polled idx (.ok (source, payload)) now) → ∀ pending,
      s.tables.activeStreamPolls.lookup (s.session.sessionId, idx) ≠ none →
      (s.adapters idx).sessions.lookup s.session.sessionId = some pending →
      (popPendingSeq pending source).2 = none → s.nextSource 0 = source
  | _ => True

/-! ## Reading the channel -/

def DatagramSession.afterRead (session : DatagramSession) (seq : Nat) : DatagramSession :=
  { session with pendingSources := session.pendingSources.erase seq }

lemma sourceOf_afterRead (session : DatagramSession) (seq x : Nat) :
    (session.afterRead seq).sourceOf x =
      if x = seq then session.request.target else session.sourceOf x := by
  simp only [DatagramSession.sourceOf, DatagramSession.afterRead, Table.lookup_erase_if]
  split <;> rfl

/-- Every reply on the channel will be read with the source it came from. -/
def ReadsRight : DatagramSession → List Returned → Prop
  | _, [] => True
  | session, ⟨.data seq payload, origin⟩ :: rest =>
    origin = some (session.sourceOf seq, payload) ∧ ReadsRight (session.afterRead seq) rest
  | session, _ :: rest => ReadsRight session rest

lemma ReadsRight.congr
    (h : ReadsRight session returns) (htarget : session'.request.target = session.request.target)
    (hsrc : ∀ x ∈ seqsOf returns, session'.sourceOf x = session.sourceOf x) :
    ReadsRight session' returns := by
  induction returns generalizing session session' with
  | nil => trivial
  | cons returned rest ih =>
    obtain ⟨event, origin⟩ := returned
    cases event with
    | data seq payload =>
      simp only [seqsOf, filterMap_cons, dataSeq, mem_cons, forall_eq_or_imp] at hsrc
      refine ⟨h.1.trans (by rw [hsrc.1]), ih h.2 htarget fun x hx => ?_⟩
      rw [sourceOf_afterRead, sourceOf_afterRead, htarget, hsrc.2 x hx]
    | _ => exact ih h htarget hsrc

lemma readsRight_append_data (session : DatagramSession) (returns : List Returned) (seq : Nat)
    (payload : Bytes) (origin : Option (Endpoint × Bytes)) :
    ReadsRight session (returns ++ [⟨.data seq payload, origin⟩]) ↔
      ReadsRight session returns ∧
        origin = some (if seq ∈ seqsOf returns then session.request.target
          else session.sourceOf seq, payload) := by
  induction returns generalizing session with
  | nil => simp [ReadsRight, seqsOf]
  | cons returned rest ih =>
    obtain ⟨event, origin'⟩ := returned
    cases event with
    | data seq' payload' =>
      simp only [cons_append, ReadsRight, ih, sourceOf_afterRead, and_assoc]
      simp only [seqsOf, filterMap_cons, dataSeq, mem_cons]
      by_cases hseq : seq = seq'
      · simp [hseq, DatagramSession.afterRead]
      · simp [hseq, DatagramSession.afterRead]
    | _ => simpa [ReadsRight, seqsOf, dataSeq] using ih session

lemma ReadsRight.append_closes (h : ReadsRight session returns) (hmore : seqsOf more = []) :
    ReadsRight session (returns ++ more) := by
  induction returns generalizing session with
  | nil =>
    induction more with
    | nil => trivial
    | cons returned rest ih =>
      obtain ⟨event, origin⟩ := returned
      cases event with
      | data seq payload => simp [seqsOf, dataSeq] at hmore
      | _ => exact ih hmore
  | cons returned rest ih =>
    obtain ⟨event, origin⟩ := returned
    cases event with
    | data seq payload => exact ⟨h.1, ih h.2⟩
    | _ => exact ih h

/-! ## The invariant -/

/-- A number is in one place, and below the session's counter. -/
structure Numbered (s : System) : Prop where
  bounded : s.session.seq ≤ u64Max
  submitted : s.submittedSeqs.Nodup
  queues : NodupQueues s.pending
  apart : ∀ key x, Waits s.pending key x → x ∉ s.submittedSeqs
  unread : ∀ x, x ∈ s.submittedSeqs ∨ (∃ key, Waits s.pending key x) → x ∉ seqsOf s.returns
  below : ∀ x, s.Outstanding x → x < s.session.seq ∨ (x = u64Max ∧ s.session.seq = u64Max)
  /-- Number 0 is the first to go. -/
  first : 0 ∉ s.submittedSeqs.tail
  started : ∀ idx, s.tables.activeStreamPolls.lookup (s.session.sessionId, idx) ≠ none →
    0 < s.session.seq ∧ 0 ∉ s.submittedSeqs

/-- A number belongs to the target it was sent to. -/
structure Sourced (s : System) : Prop where
  frames : ∀ frame ∈ s.submitted, s.session.sourceOf frame.seq = frame.target
  queued : ∀ key x, Waits s.pending key x → key = datagramKey (s.session.sourceOf x)
  reads : ReadsRight s.session s.returns

section
variable {s next : System}

lemma Numbered.not_outstanding (h : Numbered s)
    (hok : s.session.seq = u64Max → ¬s.Outstanding u64Max) : ¬s.Outstanding s.session.seq := by
  intro hout
  rcases h.below _ hout with hlt | ⟨hseq, -⟩
  · omega
  · exact hok hseq (hseq ▸ hout)

lemma Numbered.pos_of_outstanding (h : Numbered s) (hout : s.Outstanding x) :
    0 < s.session.seq := by
  rcases h.below x hout with hlt | ⟨-, hseq⟩
  · omega
  · rw [hseq]
    decide

/-! ### A datagram is sent -/

section
variable {target : Endpoint} {frame : Frame}
  (hsession : next.session =
    { s.session with
      seq := min (s.session.seq + 1) u64Max
      pendingSources := s.session.pendingSources.insert s.session.seq target })
  (hsubmitted : next.submitted = s.submitted ++ [frame]) (hframe : frame.seq = s.session.seq)
  (htarget : frame.target = target) (htables : next.tables = s.tables)
  (hadapters : next.adapters = s.adapters) (hreturns : next.returns = s.returns)

include hsession hadapters in
lemma pending_sent : next.pending = s.pending := by
  rw [System.pending, System.pending, hsession, hadapters]

include hsession in
lemma sourceOf_sent (x : Nat) :
    next.session.sourceOf x = if x = s.session.seq then target else s.session.sourceOf x := by
  rw [hsession]
  simp only [DatagramSession.sourceOf, Table.lookup_insert_if]
  split <;> rfl

include hsubmitted hframe in
lemma mem_submittedSeqs_sent {x : Nat} :
    x ∈ next.submittedSeqs ↔ x ∈ s.submittedSeqs ∨ x = s.session.seq := by
  simp [System.submittedSeqs, hsubmitted, hframe]

include hsession hsubmitted hframe hadapters hreturns in
lemma outstanding_sent {x : Nat} (h : next.Outstanding x) :
    s.Outstanding x ∨ x = s.session.seq := by
  rw [System.Outstanding, mem_submittedSeqs_sent hsubmitted hframe,
    pending_sent hsession hadapters, hreturns] at h
  rcases h with (hmem | hlast) | hrest
  · exact .inl (.inl hmem)
  · exact .inr hlast
  · exact .inl (.inr hrest)

include hsession hsubmitted hframe htables hadapters hreturns in
lemma Numbered.sent (h : Numbered s) (hnew : ¬s.Outstanding s.session.seq) : Numbered next := by
  have hboun := h.bounded
  have hmem : ∀ {x : Nat}, x ∈ next.submittedSeqs ↔ x ∈ s.submittedSeqs ∨ x = s.session.seq :=
    mem_submittedSeqs_sent hsubmitted hframe
  have hpend := pending_sent hsession hadapters
  have hother : ∀ x, s.Outstanding x → x ≠ s.session.seq := fun x hx heq => hnew (heq ▸ hx)
  have hseq : next.session.seq = min (s.session.seq + 1) u64Max := by rw [hsession]
  constructor
  case bounded => omega
  case submitted =>
    rw [System.submittedSeqs, hsubmitted, map_append, map_singleton, hframe]
    refine nodup_append.mpr ⟨h.submitted, nodup_singleton _, ?_⟩
    rintro x hx y hy rfl
    exact hother x (.inl hx) (mem_singleton.mp hy)
  case queues => exact hpend ▸ h.queues
  case apart =>
    intro key x hx
    rw [hpend] at hx
    rw [hmem, not_or]
    exact ⟨h.apart key x hx, hother x (.inr (.inl ⟨key, hx⟩))⟩
  case unread =>
    intro x hx hread
    rw [hreturns] at hread
    rw [hmem, hpend] at hx
    rcases hx with (hx | hx) | hx
    · exact h.unread x (.inl hx) hread
    · exact hother x (.inr (.inr hread)) hx
    · exact h.unread x (.inr hx) hread
  case below =>
    intro x hx
    rcases outstanding_sent hsession hsubmitted hframe hadapters hreturns hx with hout | hlast
    · rcases h.below x hout with hlt | ⟨hmax, hfull⟩ <;> omega
    · omega
  case first =>
    rw [System.submittedSeqs, hsubmitted, map_append, map_singleton, hframe]
    intro hzero
    cases hold : s.submitted with
    | nil => simp [hold] at hzero
    | cons frame rest =>
      have hpos := h.pos_of_outstanding (x := frame.seq) (.inl (by
        simp [System.submittedSeqs, hold]))
      have htail := h.first
      simp only [System.submittedSeqs, hold, map_cons, cons_append,
        tail_cons, mem_append, mem_singleton] at hzero htail
      rcases hzero with hzero | hzero
      · exact htail hzero
      · omega
  case started =>
    intro idx hpoll
    have hid : next.session.sessionId = s.session.sessionId := by rw [hsession]
    rw [hid, htables] at hpoll
    obtain ⟨hpos, hnone⟩ := h.started idx hpoll
    rw [hmem, not_or]
    have hmax : 0 < u64Max := by decide
    exact ⟨by omega, hnone, by omega⟩

include hsession hsubmitted hframe htarget hadapters hreturns in
lemma Sourced.sent (h : Sourced s) (hnew : ¬s.Outstanding s.session.seq) : Sourced next := by
  have hsrc := sourceOf_sent hsession
  have hother : ∀ x, s.Outstanding x → next.session.sourceOf x = s.session.sourceOf x := by
    intro x hx
    rw [hsrc, if_neg]
    rintro rfl
    exact hnew hx
  constructor
  case frames =>
    intro f hf
    rw [hsubmitted] at hf
    rcases mem_append.mp hf with hold | hlast
    · rw [hother _ (.inl (mem_map_of_mem hold))]
      exact h.frames f hold
    · rw [mem_singleton.mp hlast, hsrc, hframe, if_pos rfl, htarget]
  case queued =>
    intro key x hx
    rw [pending_sent hsession hadapters] at hx
    rw [hother x (.inr (.inl ⟨key, hx⟩))]
    exact h.queued key x hx
  case reads =>
    rw [hreturns]
    refine h.reads.congr (by rw [hsession]) fun x hx => hother x (.inr (.inr hx))

end

/-! ### A datagram leaves for the adapter -/

section
variable (hold : s.submitted = frame :: rest) (hsession : next.session = s.session)
  (hsubmitted : next.submitted = rest)
  (hwaits : ∀ key x, Waits next.pending key x → Waits s.pending key x ∨ (key = datagramKey frame.target ∧ x = frame.seq))
  (hseqs : seqsOf next.returns = seqsOf s.returns)

include hold hsubmitted in
lemma submittedSeqs_dispatched : s.submittedSeqs = frame.seq :: next.submittedSeqs := by
  simp [System.submittedSeqs, hold, hsubmitted]

include hold hsubmitted hwaits hseqs in
lemma outstanding_dispatched {x : Nat} (h : next.Outstanding x) : s.Outstanding x := by
  have hseqs' := submittedSeqs_dispatched hold hsubmitted
  rcases h with hmem | ⟨key, hx⟩ | hread
  · exact .inl (hseqs' ▸ mem_cons_of_mem _ hmem)
  · rcases hwaits key x hx with hx | ⟨-, rfl⟩
    · exact .inr (.inl ⟨key, hx⟩)
    · exact .inl (hseqs' ▸ mem_cons_self)
  · exact .inr (.inr (hseqs ▸ hread))

include hold hsession hsubmitted hwaits hseqs in
lemma Numbered.dispatched (h : Numbered s) (hqueues : NodupQueues next.pending) :
    Numbered next := by
  have hseqs' := submittedSeqs_dispatched hold hsubmitted
  have hnodup := h.submitted
  have hfirst := h.first
  rw [hseqs', nodup_cons] at hnodup
  rw [hseqs', tail_cons] at hfirst
  have hpos : 0 < s.session.seq := h.pos_of_outstanding (.inl (hseqs' ▸ mem_cons_self))
  constructor
  case bounded => exact hsession ▸ h.bounded
  case submitted => exact hnodup.2
  case queues => exact hqueues
  case apart =>
    intro key x hx hmem
    rcases hwaits key x hx with hx | ⟨-, rfl⟩
    · exact h.apart key x hx (hseqs' ▸ mem_cons_of_mem _ hmem)
    · exact hnodup.1 hmem
  case unread =>
    intro x hx
    rw [hseqs]
    rcases hx with hmem | ⟨key, hx⟩
    · exact h.unread x (.inl (hseqs' ▸ mem_cons_of_mem _ hmem))
    · rcases hwaits key x hx with hx | ⟨-, rfl⟩
      · exact h.unread x (.inr ⟨key, hx⟩)
      · exact h.unread _ (.inl (hseqs' ▸ mem_cons_self))
  case below =>
    intro x hx
    rw [hsession]
    exact h.below x (outstanding_dispatched hold hsubmitted hwaits hseqs hx)
  case first => exact fun hmem => hfirst (mem_of_mem_tail hmem)
  case started => exact fun _ _ => ⟨hsession ▸ hpos, hfirst⟩

include hold hsession hsubmitted hwaits in
lemma Sourced.dispatched (h : Sourced s) (hreads : ReadsRight s.session next.returns) :
    Sourced next := by
  constructor
  case frames =>
    intro f hf
    rw [hsession]
    exact h.frames f (by rw [hold]; exact mem_cons_of_mem _ (hsubmitted ▸ hf))
  case queued =>
    intro key x hx
    rw [hsession]
    rcases hwaits key x hx with hx | ⟨rfl, rfl⟩
    · exact h.queued key x hx
    · rw [h.frames frame (by rw [hold]; exact mem_cons_self)]
  case reads => exact hsession ▸ hreads

end

/-! ### A reply comes in, or is read -/

lemma Numbered.later (h : Numbered s) (hsubmitted : next.submitted = s.submitted)
    (hwaits : ∀ key x, Waits next.pending key x → Waits s.pending key x)
    (hid : next.session.sessionId = s.session.sessionId) (hseq : next.session.seq = s.session.seq)
    (hpolls : ∀ key, next.tables.activeStreamPolls.lookup key ≠ none →
      s.tables.activeStreamPolls.lookup key ≠ none) (hqueues : NodupQueues next.pending)
    (hreturns : ∀ x ∈ seqsOf next.returns, x ∈ seqsOf s.returns ∨
      (x ∉ s.submittedSeqs ∧ ∀ key, ¬Waits next.pending key x) ∧
        (x < s.session.seq ∨ (x = u64Max ∧ s.session.seq = u64Max))) : Numbered next := by
  have hseqs : next.submittedSeqs = s.submittedSeqs := by
    rw [System.submittedSeqs, hsubmitted, System.submittedSeqs]
  constructor
  case bounded => exact hseq ▸ h.bounded
  case submitted => exact hseqs ▸ h.submitted
  case queues => exact hqueues
  case apart => exact fun key x hx => hseqs ▸ h.apart key x (hwaits key x hx)
  case unread =>
    intro x hx hread
    rw [hseqs] at hx
    rcases hreturns x hread with hold | ⟨⟨hmem, hnone⟩, -⟩ <;> rcases hx with hx | ⟨key, hx⟩
    · exact h.unread x (.inl hx) hold
    · exact h.unread x (.inr ⟨key, hwaits key x hx⟩) hold
    · exact hmem hx
    · exact hnone key hx
  case below =>
    intro x hx
    rw [hseq]
    rcases hx with hmem | ⟨key, hx⟩ | hread
    · exact h.below x (.inl (hseqs ▸ hmem))
    · exact h.below x (.inr (.inl ⟨key, hwaits key x hx⟩))
    · rcases hreturns x hread with hold | ⟨-, hbelow⟩
      · exact h.below x (.inr (.inr hold))
      · exact hbelow
  case first => exact hseqs ▸ h.first
  case started =>
    intro idx hpoll
    rw [hid] at hpoll
    rw [hseq, hseqs]
    exact h.started idx (hpolls _ hpoll)

lemma Sourced.later (h : Sourced s) (hn : Numbered s) (hsubmitted : next.submitted = s.submitted)
    (hwaits : ∀ key x, Waits next.pending key x → Waits s.pending key x)
    (hsrc : ∀ x, x ∉ seqsOf s.returns → next.session.sourceOf x = s.session.sourceOf x)
    (hreads : ReadsRight next.session next.returns) : Sourced next := by
  constructor
  case frames =>
    intro f hf
    rw [hsubmitted] at hf
    rw [hsrc _ (hn.unread _ (.inl (mem_map_of_mem hf)))]
    exact h.frames f hf
  case queued =>
    intro key x hx
    have hx := hwaits key x hx
    rw [hsrc x (hn.unread x (.inr ⟨key, hx⟩))]
    exact h.queued key x hx
  case reads => exact hreads

section

lemma Sourced.nextSource_of_pop (h : Sourced s) (hn : Numbered s)
    (hpop : (popPendingSeq s.pending source).2 = some x) : s.nextSource x = source := by
  obtain ⟨hwaits, -⟩ := waits_of_pop hn.queues hpop
  rw [System.nextSource, if_neg (hn.unread x (.inr ⟨_, hwaits⟩))]
  exact (datagramKey_injective (h.queued _ x hwaits)).symm

lemma Sourced.reply_apart (h : Sourced s) (hn : Numbered s)
    (hpoll : s.tables.activeStreamPolls.lookup (s.session.sessionId, idx) ≠ none)
    (hsrc : s.nextSource (replySeq s.pending source) = source) :
    replySeq s.pending source ∉ s.submittedSeqs ∧
      ∀ key, ¬Waits (popPendingSeq s.pending source).1 key (replySeq s.pending source) := by
  cases hpop : (popPendingSeq s.pending source).2 with
  | some x =>
    obtain ⟨hwaits, hgone⟩ := waits_of_pop hn.queues hpop
    rw [show replySeq s.pending source = x by rw [replySeq, hpop]; rfl]
    refine ⟨hn.apart _ x hwaits, fun key hx => hgone ?_⟩
    -- Only one queue can have the number.
    have hkey := h.queued key x (hx.of_sublist lookup_of_pop)
    rwa [hkey, ← h.queued _ x hwaits] at hx
  | none =>
    have hzero : replySeq s.pending source = 0 := by rw [replySeq, hpop]; rfl
    rw [hzero] at hsrc ⊢
    refine ⟨(hn.started idx hpoll).2, fun key hx => ?_⟩
    have hwaits := hx.of_sublist lookup_of_pop
    rw [System.nextSource, if_neg (hn.unread 0 (.inr ⟨key, hwaits⟩))] at hsrc
    have hkey := h.queued key 0 hwaits
    rw [hsrc] at hkey
    exact not_waits_of_pop hpop (hkey ▸ hwaits)

lemma Numbered.reply_below (h : Numbered s)
    (hpoll : s.tables.activeStreamPolls.lookup (s.session.sessionId, idx) ≠ none) :
    replySeq s.pending source < s.session.seq ∨
      (replySeq s.pending source = u64Max ∧ s.session.seq = u64Max) := by
  cases hpop : (popPendingSeq s.pending source).2 with
  | some x =>
    rw [show replySeq s.pending source = x by rw [replySeq, hpop]; rfl]
    exact h.below x (.inr (.inl ⟨_, (waits_of_pop h.queues hpop).1⟩))
  | none =>
    rw [show replySeq s.pending source = 0 by rw [replySeq, hpop]; rfl]
    exact .inl (h.started idx hpoll).1

end
end

/-! ## Runs -/

/-- What one step of a session on a bus with one adapter keeps. -/
structure Attributed (s : System) : Prop where
  datagrams : s.Datagrams
  numbered : Numbered s
  sourced : Sourced s

lemma seqsOf_append {returns more : List Returned} :
    seqsOf (returns ++ more) = seqsOf returns ++ seqsOf more :=
  filterMap_append

section
variable {next : System × SystemOutput}

lemma Attributed.dispatched {w : World} {frame : Frame} {rest : List Frame} {d : Dispatched}
    (h : Attributed s) (hsubmitted : s.submitted = frame :: rest)
    (hd : Kernel.dispatch bus (s.moment w frame) s.tables frame = some d) :
    Numbered (({ s with submitted := rest } : System).afterDispatch w frame d) ∧
      Sourced (({ s with submitted := rest } : System).afterDispatch w frame d) := by
  obtain ⟨hkind, hid⟩ := h.datagrams frame (hsubmitted ▸ mem_cons_self)
  have hcarr := carries_of_datagram hkind
  have hquiet := dispatch_quiet (moment_silent s w hcarr) (by simp [hkind]) hcarr hd
  have hnone : seqsOf (d.returns.map (⟨·, none⟩)) = [] := by
    rw [seqsOf, filterMap_eq_nil_iff]
    intro returned hmem
    obtain ⟨event, hevent, rfl⟩ := mem_map.mp hmem
    obtain ⟨reason, rfl⟩ := hquiet.closes event hevent
    rfl
  have hnew : ¬Waits s.pending (datagramKey frame.target) frame.seq := fun hwaits =>
    h.numbered.apart _ _ hwaits (by simp [System.submittedSeqs, hsubmitted])
  have hpend : (({ s with submitted := rest } : System).afterDispatch w frame d).pending =
      if 0 ∈ System.visited d
      then ((s.adapters 0).send (w.replies 0) frame).1.pendingFor s.session.sessionId
      else s.pending := by
    simp only [System.pending, System.afterDispatch]
    split <;> rfl
  have hwaits : ∀ key x,
      Waits (({ s with submitted := rest } : System).afterDispatch w frame d).pending key x →
      Waits s.pending key x ∨ (key = datagramKey frame.target ∧ x = frame.seq) := by
    intro key x hx
    rw [hpend] at hx
    split at hx
    · rw [← hid] at hx
      have hold := waits_of_send hcarr hx
      rwa [hid] at hold
    · exact .inl hx
  have hqueues :
      NodupQueues (({ s with submitted := rest } : System).afterDispatch w frame d).pending := by
    rw [hpend]
    split
    · rw [System.pending, ← hid] at hnew
      have hqueues := h.numbered.queues
      rw [System.pending, ← hid] at hqueues
      rw [← hid]
      exact nodupQueues_send hcarr hqueues hnew
    · exact h.numbered.queues
  refine ⟨h.numbered.dispatched hsubmitted rfl rfl hwaits ?_ hqueues,
    h.sourced.dispatched hsubmitted rfl rfl hwaits (h.sourced.reads.append_closes hnone)⟩
  rw [System.afterDispatch, seqsOf_append, hnone, append_nil]

lemma Attributed.replied {source : Endpoint} {payload : Bytes} {now : Nat} {returnFrame : Frame}
    {pending : PendingDatagramSeqs} (h : Attributed s)
    (hpoll : s.tables.activeStreamPolls.lookup (s.session.sessionId, 0) = some returnFrame)
    (hpend : (s.adapters 0).sessions.lookup s.session.sessionId = some pending)
    (hok : Attributable s (.polled 0 (.ok (source, payload)) now)) :
    Numbered (s.afterReply 0 returnFrame pending source payload) ∧
      Sourced (s.afterReply 0 returnFrame pending source payload) := by
  obtain rfl : s.pending = pending := by
    rw [System.pending, pendingFor, hpend]
    rfl
  have hnext : (s.afterReply 0 returnFrame s.pending source payload).pending =
      (popPendingSeq s.pending source).1 := by
    rw [System.pending]
    simp [System.afterReply, pendingFor]
  have hpoll' : s.tables.activeStreamPolls.lookup (s.session.sessionId, 0) ≠ none := by
    rw [hpoll]
    simp
  have hwaits : ∀ key x, Waits (s.afterReply 0 returnFrame s.pending source payload).pending key x →
      Waits s.pending key x := by
    intro key x hx
    rw [hnext] at hx
    exact hx.of_sublist lookup_of_pop
  have hqueues : NodupQueues (s.afterReply 0 returnFrame s.pending source payload).pending := by
    rw [hnext]
    exact h.numbered.queues.of_sublist lookup_of_pop
  have hpolls : ∀ key,
      (s.afterReply 0 returnFrame s.pending source payload).tables.activeStreamPolls.lookup key ≠
        none → s.tables.activeStreamPolls.lookup key ≠ none := by
    intro key hkey
    simp only [System.afterReply, replyReturn] at hkey
    obtain ⟨packets, hpkts⟩ := sendReturnWithPacketId_tables s.tables returnFrame
      (.data (replySeq s.pending source) payload)
      (polledPacketId returnFrame (.data (replySeq s.pending source) payload))
    rwa [hpkts] at hkey
  have hreturns : (s.afterReply 0 returnFrame s.pending source payload).returns = s.returns ++
      (replyReturn s.tables returnFrame (replySeq s.pending source) payload).2.map
        (⟨·, some (source, payload)⟩) := rfl
  by_cases hfresh : Fresh s (.polled 0 (.ok (source, payload)) now)
  · have hsrc : s.nextSource (replySeq s.pending source) = source := by
      cases hpop : (popPendingSeq s.pending source).2 with
      | some x =>
        rw [show replySeq s.pending source = x by rw [replySeq, hpop]; rfl]
        exact h.sourced.nextSource_of_pop h.numbered hpop
      | none =>
        rw [show replySeq s.pending source = 0 by rw [replySeq, hpop]; rfl]
        exact hok hfresh s.pending hpoll' hpend hpop
    rw [replyReturn_of_fresh hpoll hpend hfresh] at hreturns
    refine ⟨h.numbered.later rfl hwaits rfl rfl hpolls hqueues ?_,
      h.sourced.later h.numbered rfl hwaits (fun _ _ => rfl) ?_⟩
    · intro x hx
      rw [hreturns, seqsOf_append, mem_append] at hx
      rcases hx with hold | hlast
      · exact .inl hold
      · rw [show x = replySeq s.pending source by simpa [seqsOf, dataSeq] using hlast, hnext]
        exact .inr ⟨h.sourced.reply_apart h.numbered hpoll' hsrc, h.numbered.reply_below hpoll'⟩
    · rw [hreturns]
      refine (readsRight_append_data _ _ _ _ _).mpr ⟨h.sourced.reads, ?_⟩
      exact congrArg (fun e => some (e, payload)) hsrc.symm
  · rw [replyReturn_of_not_fresh hpoll hpend hfresh, map_nil, append_nil] at hreturns
    refine ⟨h.numbered.later rfl hwaits rfl rfl hpolls hqueues fun x hx => .inl ?_,
      h.sourced.later h.numbered rfl hwaits (fun _ _ => rfl) ?_⟩
    · rwa [hreturns] at hx
    · rw [hreturns]
      exact h.sourced.reads

lemma Attributed.ended (h : Attributed s) :
    Numbered (s.afterEnd idx returnFrame reason now) ∧
      Sourced (s.afterEnd idx returnFrame reason now) := by
  have hclos : seqsOf [⟨.closed reason, none⟩] = [] := rfl
  refine ⟨h.numbered.later rfl (fun _ _ hx => hx) rfl rfl (fun key hkey hnone => hkey ?_)
      h.numbered.queues fun x hx => .inl ?_,
    h.sourced.later h.numbered rfl (fun _ _ hx => hx) (fun _ _ => rfl)
      (h.sourced.reads.append_closes hclos)⟩
  · simp only [System.afterEnd, Table.lookup_erase_if]
    split
    · rfl
    · exact hnone
  · rwa [System.afterEnd, seqsOf_append, hclos, append_nil] at hx

lemma Attributed.skipped (h : Attributed s) (hreturns : s.returns = ⟨event, origin⟩ :: rest)
    (hdata : ∀ seq payload, event ≠ .data seq payload) :
    Numbered { s with returns := rest } ∧ Sourced { s with returns := rest } := by
  have hreads := h.sourced.reads
  have hseqs : seqsOf s.returns = seqsOf rest := by
    cases event with
    | data seq payload => exact absurd rfl (hdata seq payload)
    | _ => rw [hreturns]; rfl
  refine ⟨h.numbered.later rfl (fun _ _ hx => hx) rfl rfl (fun _ hkey => hkey) h.numbered.queues
      fun x hx => .inl (hseqs ▸ hx),
    h.sourced.later h.numbered rfl (fun _ _ hx => hx) (fun _ _ => rfl) ?_⟩
  rw [hreturns] at hreads
  cases event with
  | data seq payload => exact absurd rfl (hdata seq payload)
  | _ => exact hreads

lemma Attributed.received (h : Attributed s)
    (hreturns : s.returns = ⟨.data seq payload, origin⟩ :: rest) :
    Numbered { s with session := s.session.afterRead seq, returns := rest } ∧
      Sourced { s with session := s.session.afterRead seq, returns := rest } := by
  have hreads := h.sourced.reads
  rw [hreturns] at hreads
  have hseqs : seqsOf s.returns = seq :: seqsOf rest := by simp [hreturns, seqsOf, dataSeq]
  refine ⟨h.numbered.later rfl (fun _ _ hx => hx) rfl rfl (fun _ hkey => hkey) h.numbered.queues
      fun x hx => .inl (hseqs ▸ mem_cons_of_mem _ hx),
    h.sourced.later h.numbered rfl (fun _ _ hx => hx) (fun x hx => ?_) hreads.2⟩
  rw [hseqs, mem_cons, not_or] at hx
  exact (sourceOf_afterRead _ _ _).trans (if_neg hx.1)

lemma Stepped.attributed (hone : bus.egresses.length = 1)
    (hstep : Stepped bus mintFor s step next) (h : Attributed s) (hok : Attributable s step) :
    Attributed next.1 := by
  suffices hboth : Numbered next.1 ∧ Sourced next.1 from
    ⟨hstep.datagrams h.datagrams, hboth.1, hboth.2⟩
  cases hstep with
  | sent =>
    have hnew := h.numbered.not_outstanding hok
    exact ⟨h.numbered.sent rfl rfl rfl rfl rfl rfl hnew,
      h.sourced.sent rfl rfl rfl rfl rfl rfl hnew⟩
  | failed hsubmitted hd =>
    exact ⟨h.numbered.dispatched hsubmitted rfl rfl (fun _ _ hx => .inl hx) rfl h.numbered.queues,
      h.sourced.dispatched hsubmitted rfl rfl (fun _ _ hx => .inl hx) h.sourced.reads⟩
  | dispatched hsubmitted hd => exact h.dispatched hsubmitted hd
  | replied hpoll hpend hidx =>
    cases Nat.lt_one_iff.mp (hone ▸ hidx)
    exact h.replied hpoll hpend hok
  | ended hpoll => exact h.ended
  | received hreturns => exact h.received hreturns
  | skipped hreturns hdata => exact h.skipped hreturns hdata
  | _ => exact ⟨h.numbered, h.sourced⟩

lemma Stepped.read_source (hstep : Stepped bus mintFor s step next)
    (h : Attributed s) (hout : next.2 = .received source payload origin) :
    origin = some (source, payload) := by
  cases hstep with
  | received hreturns =>
    cases hout
    have hreads := h.sourced.reads
    rw [hreturns] at hreads
    exact hreads.1
  | _ => cases hout

end

/-- A session that has just been opened, under an id that neither the adapter nor
the bus knows. -/
lemma attributed_new {maxPayloadBytes : Nat}
    (hadap : (adapters 0).sessions.lookup sessionId = none)
    (hpolls : ∀ idx, tables.activeStreamPolls.lookup (sessionId, idx) = none) :
    Attributed (.new sessionId request maxPayloadBytes tables adapters) := by
  have hnone : ∀ key x,
      ¬Waits (System.new sessionId request maxPayloadBytes tables adapters).pending key x := by
    intro key x hx
    rw [System.pending, pendingFor, System.new] at hx
    simp only [DatagramSession.new, hadap] at hx
    exact not_waits_empty key x hx
  refine ⟨forall_mem_nil _, ?_, ?_⟩
  · constructor
    case bounded => exact Nat.zero_le _
    case submitted => exact nodup_nil
    case queues =>
      intro key queue hqueue
      rw [System.pending, pendingFor, System.new] at hqueue
      simp only [DatagramSession.new, hadap] at hqueue
      cases hqueue
    case apart => exact fun key x hx => absurd hx (hnone key x)
    case unread => 
      intro x _ hread
      cases hread
    case below =>
      rintro x (hmem | ⟨key, hx⟩ | hread)
      · cases hmem
      · exact absurd hx (hnone key x)
      · cases hread
    case first => exact not_mem_nil
    case started => exact fun idx hpoll => absurd (hpolls idx) hpoll
  · constructor
    case frames => exact forall_mem_nil _
    case queued => exact fun key x hx => absurd hx (hnone key x)
    case reads => trivial

/-- In a run whose steps are all attributable, every datagram that `recv_from`
returns carries the source that the egress had reported with it. -/
theorem replies_attributed_to_source (bus : Bus) (hone : bus.egresses.length = 1)
    (mintFor : MintFor) (sessionId : SessionId) (request : BusSessionRequest)
    (maxPayloadBytes : Nat) (tables : Tables) (adapters : Nat → DatagramEgressAdapter)
    (hadapter : (adapters 0).sessions.lookup sessionId = none)
    (hpolls : ∀ idx, tables.activeStreamPolls.lookup (sessionId, idx) = none)
    (steps : List SystemStep) (hsteps : Along (System.step bus mintFor) (fun _ => Attributable) []
      (.new sessionId request maxPayloadBytes tables adapters) steps) :
    ∀ entry ∈ history (System.step bus mintFor)
        (.new sessionId request maxPayloadBytes tables adapters) steps,
      ∀ source payload origin, entry.2 = .received source payload origin →
        origin = some (source, payload) := by
  refine @forall_mem_history _ _ _ (System.step bus mintFor) Attributed _
    (fun _ out => ∀ source payload origin, out = .received source payload origin →
      origin = some (source, payload)) ?_ steps [] _
    (attributed_new hadapter hpolls) hsteps
  intro past s step h hok
  have hstep := step_stepped bus mintFor s step
  exact ⟨hstep.attributed hone h hok, fun _ _ _ hout => hstep.read_source h hout⟩

lemma other_nonempty : "other.example" ≠ "" := by decide

lemma other_fits : (utf8 "other.example").length ≤ 255 := by decide +kernel

def otherEndpoint : Endpoint :=
  ⟨"other.example", 53, other_nonempty, other_fits, Proto.dns_ne_zero⟩

def strangerEndpoint : Endpoint :=
  ⟨"stranger.example", 53, by decide, by decide +kernel, Proto.dns_ne_zero⟩

/-- A request to another endpoint than the session's. -/
def askOther : List SystemStep :=
  [.sendTo otherEndpoint [1], .dispatch (openWorld (.ordered [0]))]

theorem reply_attributed_to_other :
    receivedIn (history (System.step oneDatagramExit hostFlow) newSession
      (askOther ++ [.polled 0 (.ok (otherEndpoint, [2])) 0, .recv])) = [[2]] ∧
    ∀ entry ∈ history (System.step oneDatagramExit hostFlow) newSession
        (askOther ++ [.polled 0 (.ok (otherEndpoint, [2])) 0, .recv]),
      ∀ source payload origin, entry.2 = .received source payload origin →
        origin = some (source, payload) := by
  refine ⟨by decide +kernel, replies_attributed_to_source oneDatagramExit rfl hostFlow "s"
    (.datagram exampleEndpoint) 1500 .empty freshAdapter rfl (fun _ => rfl) _ ?_⟩
  refine ⟨fun hseq => absurd hseq (by decide), trivial, ?_, trivial, trivial⟩
  intro _ pending _ hpend hpop
  -- The request waits for this reply.
  have hwaits : (((run (System.step oneDatagramExit hostFlow) newSession askOther).1.adapters
      0).sessions.lookup "s").map (fun pending => (popPendingSeq pending otherEndpoint).2) =
        some (some 0) := by decide +kernel
  have hsome := hwaits.symm.trans (congrArg (Option.map _) hpend)
  rw [Option.map_some, hpop] at hsome
  cases hsome

/-- A datagram from a stranger, before the request was answered, is attributed to
the endpoint of the request. -/
theorem stranger_taken_for_other :
    (run (System.step oneDatagramExit hostFlow) newSession
      (askOther ++ [.polled 0 (.ok (strangerEndpoint, [2])) 0, .recv])).2.getLast? =
        some (.received otherEndpoint [2] (some (strangerEndpoint, [2]))) ∧
      otherEndpoint ≠ strangerEndpoint := by
  decide +kernel

end MeshBus.Session

