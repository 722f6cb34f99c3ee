import MeshBus.Resolver.Exchange
import MeshBus.Resolver.Policy

/-!
# Where records come from

The records of an answer from a server, and those of a cache entry that such an answer wrote,
are the records of the answer section of one accepted reply, whatever names own them.
-/

namespace MeshBus.Resolver

open Lib ResolverOutput ResolverStep

def Asking.upstream : Asking → Bool
  | .system => false
  | .reverseZone => false
  | .meshDirect .. => true
  | .tunneled .. => true

def FromReply (qname : String) (net : Network) (records : List AnswerRecord) : Prop :=
  ∃ index msg elapsed, singleShot qname (net.shot index) = .ok (msg, elapsed) ∧
    records = msg.answers.filterMap rdataToAnswer

/-! ## One reply -/

section

lemma firstReply_eq_some (h : firstReply qname net index servers = some (msg, elapsed, server)) :
    ∃ index', singleShot qname (net.shot index') = .ok (msg, elapsed) := by
  induction servers generalizing index with
  | nil => cases h
  | cons first rest ih =>
    rw [firstReply] at h
    cases hshot : singleShot qname (net.shot index) with
    | error e =>
      rw [hshot] at h
      exact ih h
    | ok reply =>
      rw [hshot] at h
      cases h
      exact ⟨index, hshot⟩

lemma fromReply_of_askServers {source : SocketAddr → ResolverSource} {fanout : Bool}
    {winner : SocketAddr} {count : Nat}
    (h : askServers qname net source servers fanout = .ok (answer, winner, count)) :
    FromReply qname net answer.records := by
  unfold askServers at h
  cases fanout with
  | true =>
    cases hfirst : firstReply qname net 0 servers with
    | none =>
      rw [hfirst] at h
      cases h
    | some reply =>
      rw [hfirst] at h
      cases h
      obtain ⟨index, hshot⟩ := firstReply_eq_some hfirst
      exact ⟨index, reply.1, reply.2.1, hshot, rfl⟩
  | false =>
    cases servers with
    | nil => cases h
    | cons server rest =>
      cases hshot : singleShot qname (net.shot 0) with
      | error e =>
        simp only [hshot] at h
        cases h
      | ok reply =>
        simp only [hshot] at h
        cases h
        exact ⟨0, reply.1, reply.2, hshot, rfl⟩

lemma fromReply_of_applyTelemetry
    (h : (applyTelemetry resolver s w servers fanout source net now).2.1 = .ok answer) :
    FromReply (normalizeQname w.req.qname) net answer.records := by
  unfold applyTelemetry at h
  cases hask : askServers (normalizeQname w.req.qname) net source servers fanout with
  | error e =>
    rw [hask] at h
    cases h
  | ok reply =>
    rw [hask] at h
    cases h
    exact fromReply_of_askServers hask

lemma fromReply_of_finish
    (hup : w.asking.upstream = true) (h : (finish resolver s w net now).2.1 = .ok answer) :
    FromReply (normalizeQname w.req.qname) net answer.records := by
  unfold finish at h
  cases hasking : w.asking with
  | system | reverseZone =>
    rw [hasking] at hup
    cases hup
  | meshDirect servers fanout | tunneled servers fanout =>
    rw [hasking] at h
    exact fromReply_of_applyTelemetry h

end

/-! ## Histories -/

def FromUpstream : ResolverStep → ResolverOutput → Prop
  | .reply _ net _, .answered w (.ok answer, _) =>
    w.asking.upstream = true → FromReply (normalizeQname w.req.qname) net answer.records
  | _, _ => True

lemma fromUpstream_step (resolver : Resolver) (s : ResolverState) (step : ResolverStep) :
    FromUpstream step (resolver.step s step).2 := by
  cases step with
  | call => exact True.intro
  | reply id net now =>
    simp only [Resolver.step]
    cases hlook : s.waiting.lookup id with
    | none => exact True.intro
    | some w =>
      dsimp only
      cases hfinish : (finish resolver { s with waiting := s.waiting.erase id } w net now).2 with
      | mk outcome sig =>
        cases outcome with
        | error e => exact True.intro
        | ok answer =>
          exact fun hup => fromReply_of_finish hup (congrArg Prod.fst hfinish)

/-- In every history of calls, for every configuration: an answer from a server has the records
of the answer section of one accepted reply, and an entry of the cache has the records of an
earlier answer for the same name and type. -/
theorem records_from_accepted_reply (resolver : Resolver) (steps : List ResolverStep) :
    (∀ id net now w answer sig, (reply id net now,
        answered w (.ok answer, sig)) ∈ history resolver.step .new steps →
      w.asking.upstream = true → FromReply (normalizeQname w.req.qname) net answer.records) ∧
    ∀ key hit, (run resolver.step .new steps).1.cache.lookup key = some hit →
      ∃ id net now w answer sig, (reply id net now,
          answered w (.ok answer, sig)) ∈ history resolver.step .new steps ∧
        cacheKey w.req = key ∧ hit.records = answer.records ∧
        (w.asking.upstream = true → FromReply key.qname net hit.records) := by
  have hans : ∀ id net now w answer sig, (reply id net now,
        answered w (.ok answer, sig)) ∈ history resolver.step .new steps →
      w.asking.upstream = true → FromReply (normalizeQname w.req.qname) net answer.records := by
    intro id net now w answer sig hmem
    exact @forall_mem_history _ _ _ resolver.step (fun _ => True) (fun _ _ _ => True) FromUpstream
      (fun _ s step _ _ => ⟨True.intro, fromUpstream_step resolver s step⟩) steps []
      ResolverState.new True.intro
      (Along.of_forall_mem steps [] ResolverState.new fun _ _ => True.intro) _ hmem
  refine ⟨hans, fun key hit hhit => ?_⟩
  have htraced : Traced resolver (history resolver.step .new steps)
      (run resolver.step .new steps).1 :=
    @run_history_invariant _ _ _ resolver.step (Traced resolver)
      (fun _ _ step h => h.step step) .new steps Traced.new
  obtain ⟨records, expiresAt, rfl, hwrit⟩ := htraced.lookup hhit
  obtain ⟨id, net, now, w, answer, sig, hmem, -, rfl, rfl, -⟩ := hwrit
  exact ⟨id, net, now, w, answer, sig, hmem, rfl, rfl, hans id net now w answer sig hmem⟩

def tunneledResolver : Resolver where
  pools := AList.insert "up" ⟨.tunneled .roundRobin, [⟨.v4 0x0a000001, 53⟩]⟩ ∅
  defaultPool := some "up"
  ruleChain := none
  ruleSets := none
  hasOpener := false
  hasStreamOpener := true
  hasCache := true
  hash _ := 0
  parseIp _ := none

def answeringNetwork (data : Bytes) : Network where
  hostAddrs := .error .nxDomain
  elapsed := 5
  shot _ := (answeringStream data).shot queryA 1000

def askA : ResolverStep := .call 0 ⟨"a", .a, "staff"⟩ 0

theorem compressedReply_cached :
    ∃ id net now w answer sig, (reply id net now,
        answered w (.ok answer, sig)) ∈ history tunneledResolver.step .new
          [askA, .reply 0 (answeringNetwork Dns.compressedReply) 9] ∧
      cacheKey w.req = ⟨"a.", .a⟩ ∧ [.a 0x0a000009] = answer.records ∧
      (w.asking.upstream = true → FromReply "a." net [.a 0x0a000009]) := by
  have hhit : (run tunneledResolver.step .new
      [askA, .reply 0 (answeringNetwork Dns.compressedReply) 9]).1.cache.lookup ⟨"a.", .a⟩ =
        some (.positive [.a 0x0a000009] 60009) := by decide +kernel
  exact (records_from_accepted_reply _ _).2 _ _ hhit

/-! ## Foreign records -/

/-- The names that aliases of the answer section lead to. -/
inductive Reached (answers : List Dns.ResourceRecord) (qname : String) : String → Prop where
  | start : Reached answers qname qname
  | follow {rr : Dns.ResourceRecord} {target : Dns.Name} (h : Reached answers qname rr.name.canonical)
      (hmem : rr ∈ answers) (hdata : rr.data = .cname target) :
      Reached answers qname target.canonical

def Belongs (answers : List Dns.ResourceRecord) (qname : String) (record : AnswerRecord) : Prop :=
  ∃ rr ∈ answers, rdataToAnswer rr = some record ∧ Reached answers qname rr.name.canonical

lemma reached_of_no_alias
    (h : ∀ rr ∈ answers, ∀ target, rr.data ≠ .cname target) (hr : Reached answers qname name) :
    name = qname := by
  cases hr with
  | start => rfl
  | follow _ hmem hdata => exact absurd hdata (h _ hmem _)

/-- A response to the question for `a.`, with an address of `b.`. -/
def foreignReply : Bytes :=
  [0, 7, 0x81, 0x80, 0, 1, 0, 1, 0, 0, 0, 0, 1, 97, 0, 0, 1, 0, 1, 1, 98, 0, 0, 1, 0, 1, 0, 0, 0, 60,
    0, 4, 10, 0, 0, 9]

def foreignAnswers : List Dns.ResourceRecord := [⟨⟨"b."⟩, .a, .in_, 60, .a 0x0a000009⟩]

/-- The address of `b.` is returned for `a.`, and again from the cache. -/
theorem foreign_record_cached :
    ((singleShot "a." ((answeringNetwork foreignReply).shot 0)).map (·.1.answers) =
        .ok foreignAnswers) ∧
      (tunneledResolver.step (run tunneledResolver.step .new [askA]).1
        (.reply 0 (answeringNetwork foreignReply) 9)).2.result.map (fun result => result.2.1) =
          some (.ok ⟨[.a 0x0a000009], .tunneled ⟨.v4 0x0a000001, 53⟩, false, 5, 60⟩) ∧
      (run tunneledResolver.step .new
        [askA, .reply 0 (answeringNetwork foreignReply) 9]).1.cache.lookup ⟨"a.", .a⟩ =
          some (.positive [.a 0x0a000009] 60009) ∧
      ¬ Belongs foreignAnswers "a." (.a 0x0a000009) := by
  refine ⟨by decide +kernel, by decide +kernel, by decide +kernel, ?_⟩
  rintro ⟨rr, hmem, -, hreac⟩
  have hname := reached_of_no_alias (List.forall_mem_singleton.mpr (by rintro target ⟨⟩)) hreac
  rw [List.mem_singleton.mp hmem] at hname
  exact absurd hname (by decide)

end MeshBus.Resolver
