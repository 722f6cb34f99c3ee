import MeshBus.Quic.Passes
import MeshBus.Quic.Replay

/-!
# Packets that share a datagram

A packet without keys is put off to the next pass over the datagram.  A packet that
fails in any other way ends the call: the packets behind it, those that were put off
and TLS get nothing.
-/

namespace MeshBus.Quic

open Lib List Nat Prod Except

namespace Conn
variable {τ κ : Type} [DecidableEq κ]

/-- In a pass over `queue` that starts from `c`, a packet is tried in state `d`, with
`rest` behind it. -/
inductive TriesIn (e : Engine τ κ) :
    Conn τ κ → List (Packet κ) → Conn τ κ → Packet κ → List (Packet κ) → Prop
  | here {c : Conn τ κ} {packet : Packet κ} {rest : List (Packet κ)} :
      TriesIn e c (packet :: rest) c packet rest
  | next {c d : Conn τ κ} {packet tried : Packet κ} {queue rest : List (Packet κ)}
      (goes : (c.recvOne e packet).2 = .ok () ∨ c.LacksKeys packet)
      (later : TriesIn e (c.recvOne e packet).1 queue d tried rest) :
      TriesIn e c (packet :: queue) d tried rest

lemma TriesIn.lacksKeys {e : Engine τ κ} {c d : Conn τ κ}
    {tried packet : Packet κ} (h : TriesIn e c queue d tried rest) (hlacks : c.LacksKeys packet) :
    d.LacksKeys packet := by
  induction h with
  | here => exact hlacks
  | next _ _ ih => exact ih (hlacks.recvOne _)

lemma TriesIn.mem {e : Engine τ κ} {c d : Conn τ κ}
    {tried : Packet κ} (h : TriesIn e c queue d tried rest) : tried ∈ queue ∧ rest ⊆ queue := by
  induction h with
  | here => exact ⟨mem_cons_self, subset_cons_self _ _⟩
  | next _ _ ih =>
    exact ⟨mem_cons_of_mem _ ih.1, List.Subset.trans ih.2 (subset_cons_self _ _)⟩

/-- A packet is tried in one of the passes over `queue`. -/
inductive Tries (e : Engine τ κ) :
    Conn τ κ → List (Packet κ) → Conn τ κ → Packet κ → List (Packet κ) → Prop
  | inPass {c d : Conn τ κ} {tried : Packet κ} {queue rest : List (Packet κ)}
      (tries : TriesIn e c queue d tried rest) : Tries e c queue d tried rest
  | later {c c₁ c₂ d : Conn τ κ} {tried : Packet κ} {queue putOff rest : List (Packet κ)}
      (passed : c.recvPass e queue = (c₁, .ok (putOff, true)))
      (pumped : c₁.pumpTls e = (c₂, .ok ())) (tries : Tries e c₂ putOff d tried rest) :
      Tries e c queue d tried rest

/-- A failing packet that does no harm: it changes nothing, no packet behind it has keys,
and TLS has nothing to do. -/
def Spares (e : Engine τ κ) (d : Conn τ κ) (bad : Packet κ) (behind : List (Packet κ)) : Prop :=
  (d.recvOne e bad).1 = d ∧ (∀ packet ∈ behind, d.LacksKeys packet) ∧ (d.pumpTls e).1 = d

section
variable {e : Engine τ κ} (hkeys : ∀ dcid, e.initialKeys dcid ≠ .error noKeys)
  {keep : Packet κ → Bool}

include hkeys

variable {c : Conn τ κ}

lemma recvPass_filter (hplain : ∀ packet ∈ queue, PlainPacket (· ≠ noKeys) packet)
    (hnone : ∀ d bad rest, TriesIn e c queue d bad rest → keep bad = false → d.LacksKeys bad) :
    c.recvPass e (queue.filter keep) = ((c.recvPass e queue).1,
      (c.recvPass e queue).2.map fun result => (result.1.filter keep, result.2)) := by
  induction queue generalizing c with
  | nil => rfl
  | cons packet rest ih =>
    obtain ⟨hpkt, hrest⟩ := forall_mem_cons.mp hplain
    have hlater : (c.recvOne e packet).2 = .ok () ∨ c.LacksKeys packet → _ := fun goes =>
      @ih (c.recvOne e packet).1 hrest fun d bad rest htries => hnone d bad rest (.next goes htries)
    cases hkeep : keep packet with
    | false =>
      have hlacks := hnone c packet rest .here hkeep
      have hone := recvOne_of_lacksKeys e hlacks
      have hnext := hlater (.inr hlacks)
      rw [hone] at hnext
      rw [filter_cons_of_neg (by rw [hkeep]; exact Bool.false_ne_true), hnext,
        recvPass_putOff rest (by rw [hone]), hone]
      cases (c.recvPass e rest).2 with
      | error err => rfl
      | ok result =>
        show (_, ok _) = (_, ok (filter keep (packet :: _), _))
        rw [filter_cons_of_neg (by rw [hkeep]; exact Bool.false_ne_true)]
    | true =>
      rw [filter_cons_of_pos hkeep]
      rcases fares_recvOne hkeys c hpkt with hlacks | ⟨d, err, hone, hne, -, -⟩ | ⟨-, hne⟩
      · have hoff : (c.recvOne e packet).2 = .error noKeys := by
          rw [recvOne_of_lacksKeys e hlacks]
        rw [recvPass_putOff _ hoff, recvPass_putOff _ hoff, hlater (.inr hlacks)]
        cases ((c.recvOne e packet).1.recvPass e rest).2 with
        | error err => rfl
        | ok result =>
          show (_, ok (packet :: _, _)) = (_, ok (filter keep (packet :: _), _))
          rw [filter_cons_of_pos hkeep]
      · rw [recvPass_refused _ hone hne, recvPass_refused _ hone hne]
        rfl
      · rcases hres : (c.recvOne e packet).2 with err | _
        · have hone : c.recvOne e packet = ((c.recvOne e packet).1, .error err) := by
            rw [← hres]
          have hne' : err ≠ noKeys := fun h => hne (by rw [hres, h])
          rw [recvPass_refused _ hone hne', recvPass_refused _ hone hne']
          rfl
        · rw [recvPass_taken _ hres, recvPass_taken _ hres, hlater (.inl hres)]
          cases ((c.recvOne e packet).1.recvPass e rest).2 <;> rfl

lemma recvOne_failing (hplain : PlainPacket (· ≠ noKeys) bad)
    (hfails : ¬c.Decrypts e bad) (hmet : ¬c.LacksKeys bad) :
    ∃ d err, c.recvOne e bad = (d, .error err) ∧ err ≠ noKeys ∧ d.trace = c.trace ∧
      (d.origin = c.origin → d = c) := by
  rcases fares_recvOne hkeys c hplain with hlacks | href | ⟨hdecr, -⟩
  · exact absurd hlacks hmet
  · exact href
  · exact absurd hdecr hfails

/-- A pass ends where it meets a failing packet.  Without them it would go on from
there, with the packets that were put off so far. -/
lemma TriesIn.recvPass
    (h : TriesIn e c queue d bad rest) (hkeep : keep bad = false) (hmet : ¬d.LacksKeys bad)
    (hplain : ∀ packet ∈ queue, PlainPacket (· ≠ noKeys) packet)
    (hfails : ∀ x p rest, TriesIn e c queue x p rest → keep p = false → ¬x.Decrypts e p) :
    (∃ d' err, d.recvOne e bad = (d', .error err) ∧ d'.trace = d.trace ∧
      (d'.origin = d.origin → d' = d) ∧ c.recvPass e queue = (d', .error err)) ∧
    ∃ putOff taken, (∀ packet ∈ putOff, d.LacksKeys packet) ∧ putOff ⊆ queue ∧
      c.recvPass e (queue.filter keep) = ((d.recvPass e (rest.filter keep)).1,
        (d.recvPass e (rest.filter keep)).2.map fun result =>
          (putOff ++ result.1, taken || result.2)) := by
  induction h with
  | @here c bad rest =>
    obtain ⟨hbad, -⟩ := forall_mem_cons.mp hplain
    obtain ⟨d', err, hone, hne, htrace, horigin⟩ :=
      recvOne_failing hkeys hbad (hfails c bad rest .here hkeep) hmet
    refine ⟨⟨d', err, hone, htrace, horigin, recvPass_refused rest hone hne⟩,
      [], false, forall_mem_nil _, nil_subset _, ?_⟩
    rw [filter_cons_of_neg (by rw [hkeep]; exact Bool.false_ne_true)]
    cases hpass : c.recvPass e (rest.filter keep) with
    | mk d result => cases result <;> rfl
  | @next c d packet bad queue rest goes later ih =>
    obtain ⟨hpkt, hqueue⟩ := forall_mem_cons.mp hplain
    obtain ⟨⟨d', err, hone, htrace, horigin, hstops⟩, putOff, taken, hlacks, hmem, hpass⟩ :=
      ih hkeep hmet hqueue fun x p rest h => hfails x p rest (.next goes h)
    have hmem' : putOff ⊆ packet :: queue := List.Subset.trans hmem (subset_cons_self _ _)
    refine ⟨⟨d', err, hone, htrace, horigin, ?_⟩, ?_⟩
    · rcases goes with hok | hoff
      · rw [recvPass_taken queue hok, hstops]
        rfl
      · rw [recvPass_putOff queue (by rw [recvOne_of_lacksKeys e hoff]), hstops]
        rfl
    · cases hkept : keep packet with
      | false =>
        have hoff : c.LacksKeys packet := by
          by_contra hmet'
          obtain ⟨_, _, href, -⟩ := recvOne_failing hkeys hpkt
            (hfails c packet queue .here hkept) hmet'
          rw [href] at goes
          exact (by cases goes.resolve_right hmet')
        rw [recvOne_of_lacksKeys e hoff] at hpass
        rw [filter_cons_of_neg (by rw [hkept]; exact Bool.false_ne_true)]
        exact ⟨putOff, taken, hlacks, hmem', hpass⟩
      | true =>
        rw [filter_cons_of_pos hkept]
        rcases goes with hok | hoff
        · refine ⟨putOff, true, hlacks, hmem', ?_⟩
          rw [recvPass_taken _ hok, hpass]
          cases (d.recvPass e (rest.filter keep)).2 <;> rfl
        · refine ⟨packet :: putOff, taken, ?_, cons_subset_cons _ hmem, ?_⟩
          · exact forall_mem_cons.mpr ⟨later.lacksKeys (hoff.recvOne packet), hlacks⟩
          · rw [recvPass_putOff _ (by rw [recvOne_of_lacksKeys e hoff]), hpass]
            cases (d.recvPass e (rest.filter keep)).2 <;> rfl

lemma recvPass_quiet {deferred : List (Packet κ)} {taken : Bool}
    (hplain : ∀ packet ∈ queue, PlainPacket (· ≠ noKeys) packet)
    (hok : (c.recvPass e queue).2 = .ok (deferred, taken))
    (htrace : (c.recvPass e queue).1.trace.length ≤ c.trace.length) :
    ∀ packet ∈ queue, c.LacksKeys packet := by
  induction queue generalizing c deferred taken with
  | nil => exact forall_mem_nil _
  | cons packet rest ih =>
    obtain ⟨hpkt, hrest⟩ := forall_mem_cons.mp hplain
    rcases fares_recvOne hkeys c hpkt with hlacks | ⟨d, err, hone, hne, -, -⟩ | ⟨hdecr, hne⟩
    · refine forall_mem_cons.mpr ⟨hlacks, ?_⟩
      have hone := recvOne_of_lacksKeys e hlacks
      rw [recvPass_putOff rest (by rw [hone]), hone] at hok htrace
      obtain ⟨⟨deferred', taken'⟩, hok', -⟩ := exists_of_map_eq_ok hok
      exact ih hrest hok' htrace
    · rw [recvPass_refused rest hone hne] at hok
      cases hok
    · -- a packet that is opened is noted
      rcases hres : (c.recvOne e packet).2 with err | _
      · have hone : c.recvOne e packet = ((c.recvOne e packet).1, .error err) := by rw [← hres]
        rw [recvPass_refused rest hone fun h => hne (by rw [hres, h])] at hok
        cases hok
      · rw [recvPass_taken rest hres] at htrace
        have hlater := length_trace_recvPass e (c.recvOne e packet).1 rest
        exact absurd (le_trans hlater htrace) (not_le.mpr hdecr.length_lt)

lemma recvLoop_filter (hsettles : e.Settles) (hfuel : queue.length < fuel)
    (hplain : ∀ packet ∈ queue, PlainPacket (· ≠ noKeys) packet)
    (hfails : ∀ x p rest, Tries e c queue x p rest → keep p = false → ¬x.Decrypts e p)
    (hspares : ∀ d bad rest, Tries e c queue d bad rest → keep bad = false → ¬d.LacksKeys bad →
      Spares e d bad (rest.filter keep)) :
    (recvLoop e fuel c queue).1 = (recvLoop e fuel c (queue.filter keep)).1 := by
  induction fuel generalizing c queue with
  | zero => exact absurd hfuel (not_lt_zero _)
  | succ fuel ih =>
    by_cases hmeets : ∃ d bad rest, TriesIn e c queue d bad rest ∧ keep bad = false ∧
        ¬d.LacksKeys bad
    · obtain ⟨d, bad, rest, htries, hkeep, hmet⟩ := hmeets
      obtain ⟨hsame, hbehind, hpump⟩ := hspares d bad rest (.inPass htries) hkeep hmet
      obtain ⟨⟨d', err, hone, -, -, hstops⟩, putOff, taken, hlacks, -, hpass⟩ :=
        htries.recvPass hkeys hkeep hmet hplain fun x p rest h => hfails x p rest (.inPass h)
      rw [hone] at hsame
      rw [recvLoop_refused fuel hstops, show d' = d from hsame]
      rw [recvPass_of_lacksKeys e hbehind] at hpass
      rw [recvLoop_passed fuel hpass, hpump]
      split
      · have hall := forall_mem_append.mpr ⟨hlacks, hbehind⟩
        exact (recvLoop_of_lacksKeys hall hpump fuel).symm
      · exact hpump.symm
    · have hnone : ∀ d bad rest, TriesIn e c queue d bad rest → keep bad = false →
          d.LacksKeys bad := by
        intro d bad rest htries hkeep
        by_contra hmet
        exact hmeets ⟨d, bad, rest, htries, hkeep, hmet⟩
      have hpass := recvPass_filter hkeys hplain hnone
      rcases hqueue : c.recvPass e queue with ⟨d, err | ⟨deferred, taken⟩⟩
      · rw [hqueue] at hpass
        rw [recvLoop_refused fuel hqueue, recvLoop_refused fuel hpass]
      · rw [hqueue] at hpass
        obtain ⟨hsub, hfewer⟩ := recvPass_deferred (congrArg snd hqueue)
        by_cases hgoes : (d.pumpTls e).2 = .ok () ∧ taken = true
        · obtain ⟨hok, rfl⟩ := hgoes
          have hpumped : d.pumpTls e = ((d.pumpTls e).1, .ok ()) := by rw [← hok]
          have hless : deferred.length < fuel := lt_of_lt_of_le (hfewer rfl) (le_of_lt_succ hfuel)
          have hpos : 0 < fuel := lt_of_le_of_lt (zero_le _) hless
          rw [recvLoop_goesOn hsettles hpos hqueue hpumped,
            recvLoop_goesOn hsettles hpos hpass hpumped]
          exact ih hless (fun p h => hplain p (hsub.subset h))
            (fun x p rest h => hfails x p rest (.later hqueue hpumped h))
            fun d' bad rest h => hspares d' bad rest (.later hqueue hpumped h)
        · rw [recvLoop_passed fuel hqueue, recvLoop_passed fuel hpass,
            if_neg fun h => hgoes ⟨h.1, h.2.2⟩, if_neg fun h => hgoes ⟨h.1, h.2.2⟩]

lemma recvLoop_quiet (hplain : ∀ packet ∈ queue, PlainPacket (· ≠ noKeys) packet)
    (hpump : c.pumpTls e = (c, .ok ())) (hok : (recvLoop e fuel c queue).2 = .ok ())
    (htrace : (recvLoop e fuel c queue).1.trace.length ≤ c.trace.length) :
    (recvLoop e fuel c queue).1 = c := by
  cases fuel with
  | zero => rfl
  | succ fuel =>
    rcases hpass : c.recvPass e queue with ⟨d, err | ⟨deferred, taken⟩⟩
    · rw [recvLoop_refused fuel hpass] at hok
      cases hok
    · have hgrows := length_trace_passed fuel hpass
      have hlacks := recvPass_quiet hkeys hplain (congrArg snd hpass)
        (by rw [hpass]; exact le_trans hgrows htrace)
      exact recvLoop_of_lacksKeys hlacks (by rw [hpump]) (fuel + 1)

/-- If the datagram is received without an error once the failing packets are taken out,
then a failing packet is as good as absent only if it does no harm. -/
lemma Tries.spares (hsettles : e.Settles)
    (htries : Tries e c queue d bad rest) (hkeep : keep bad = false)
    (hmet : ¬d.LacksKeys bad) (hfuel : queue.length < fuel)
    (hplain : ∀ packet ∈ queue, PlainPacket (· ≠ noKeys) packet)
    (hfails : ∀ x p rest, Tries e c queue x p rest → keep p = false → ¬x.Decrypts e p)
    (hok : (recvLoop e fuel c (queue.filter keep)).2 = .ok ())
    (hsame : (recvLoop e fuel c queue).1 = (recvLoop e fuel c (queue.filter keep)).1) :
    Spares e d bad (rest.filter keep) := by
  induction htries generalizing fuel with
  | @inPass c d bad queue rest htries =>
    cases fuel with
    | zero => exact absurd hfuel (not_lt_zero _)
    | succ fuel =>
      obtain ⟨⟨d', err, hone, htrace, horigin, hstops⟩, putOff, taken, hlacks, hmem, hpass⟩ :=
        htries.recvPass hkeys hkeep hmet hplain fun x p rest h => hfails x p rest (.inPass h)
      rw [recvLoop_refused fuel hstops] at hsame
      have hfinal : (recvLoop e (fuel + 1) c (queue.filter keep)).1.trace.length ≤
          d.trace.length := by
        rw [← hsame, htrace]
      have hplain' : ∀ packet ∈ rest.filter keep, PlainPacket (· ≠ noKeys) packet :=
        fun p h => hplain p (htries.mem.2 (mem_filter.mp h).1)
      -- nothing is opened from here on
      have hlack' : ∀ packet ∈ rest.filter keep, d.LacksKeys packet := by
        rcases hrest : d.recvPass e (rest.filter keep) with ⟨x, err' | ⟨deferred, taken'⟩⟩
        · rw [hrest] at hpass
          rw [recvLoop_refused fuel hpass] at hok
          cases hok
        · rw [hrest] at hpass
          refine recvPass_quiet hkeys hplain' (congrArg snd hrest) ?_
          rw [hrest]
          exact le_trans (length_trace_passed fuel hpass) hfinal
      rw [recvPass_of_lacksKeys e hlack'] at hpass
      have hpump : (recvLoop e (fuel + 1) c (queue.filter keep)).1 = (d.pumpTls e).1 := by
        rw [recvLoop_passed fuel hpass] at hok hfinal ⊢
        split
        · next hgoes =>
            rw [if_pos hgoes] at hok hfinal
            refine recvLoop_quiet hkeys ?_ (pumpTls_again hsettles (Prod.ext rfl hgoes.1)) hok ?_
            · refine forall_mem_append.mpr ⟨fun p h => hplain p (hmem h), hplain'⟩
            · rw [trace_pumpTls]
              exact hfinal
        · rfl
      have hd : d' = d := horigin (by rw [show d' = _ from hsame.trans hpump, origin_pumpTls])
      refine ⟨by rw [hone, hd], hlack', ?_⟩
      rw [← hpump, ← hsame, hd]
  | @later c c₁ c₂ d bad queue putOff rest hpassed hpump htries ih =>
    cases fuel with
    | zero => exact absurd hfuel (not_lt_zero _)
    | succ fuel =>
      have hnone : ∀ d bad rest, TriesIn e c queue d bad rest → keep bad = false →
          d.LacksKeys bad := by
        intro d bad rest h hkeep
        by_contra hmet
        obtain ⟨⟨_, _, -, -, -, hstops⟩, -⟩ :=
          h.recvPass hkeys hkeep hmet hplain fun x p rest h => hfails x p rest (.inPass h)
        rw [hpassed] at hstops
        cases (Prod.mk.inj hstops).2
      have hpass := recvPass_filter hkeys hplain hnone
      rw [hpassed] at hpass
      obtain ⟨hsub, hfewer⟩ := recvPass_deferred (congrArg snd hpassed)
      have hless : putOff.length < fuel := lt_of_lt_of_le (hfewer rfl) (le_of_lt_succ hfuel)
      have hpos : 0 < fuel := lt_of_le_of_lt (zero_le _) hless
      rw [recvLoop_goesOn hsettles hpos hpassed hpump,
        recvLoop_goesOn hsettles hpos hpass hpump] at hsame
      rw [recvLoop_goesOn hsettles hpos hpass hpump] at hok
      exact ih hkeep hmet hless (fun p h => hplain p (hsub.subset h))
        (fun x p rest h => hfails x p rest (.later hpassed hpump h)) hok hsame

end

/-- A packet that was sealed with a key the server does not have. -/
def strangePacket (pn : Nat) : Packet Nat :=
  .whole (.short ⟨[7], seven_fits⟩ (encodePacketNumber pn)) false
    ⟨3, pn, .short ⟨[7], seven_fits⟩ (encodePacketNumber pn), .ok []⟩

end Conn
end MeshBus.Quic
