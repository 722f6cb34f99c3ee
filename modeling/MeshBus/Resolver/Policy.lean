import MeshBus.Resolver.Resolve

/-!
# Whose policy an answer obeys

The cache is asked first and knows neither consumers nor pools.  A call that finds
no fresh entry gets what its own rules say; one that finds a fresh entry gets what
the rules of the call that wrote it said.
-/

namespace MeshBus.Resolver

open Lib Rule List Resolver Prod

def AnsweredLocally (req : ResolveRequest) : Bool :=
  isSpecialUseLocalhost (normalizeQname req.qname) ||
    isSpecialUseInvalidOrReserved (normalizeQname req.qname) ||
    isRfc6303Reverse (normalizeQname req.qname)

def Asking.Asks (pool : Pool) : Asking → Prop
  | .system => pool.mode = .systemMode
  | .reverseZone => False
  | .meshDirect servers _ => (∃ policy, pool.mode = .meshDirect policy) ∧ servers ⊆ pool.servers
  | .tunneled servers _ => (∃ policy, pool.mode = .tunneled policy) ∧ servers ⊆ pool.servers

def ByOwnRules (resolver : Resolver) (w : Waiting) : Prop :=
  (projection resolver w.req).denied = false ∧
    ∃ pool, resolver.pools.lookup (poolName resolver w.req) = some pool ∧ w.asking.Asks pool

/-- The records came from a pool, in the step of a call for the same name and
type. -/
def ObtainedFrom (resolver : Resolver) (name : String) (key : CacheKey)
    (records : List AnswerRecord) : ResolverStep × ResolverOutput → Prop
  | (_, .answered w (.ok answer, _)) =>
    cacheKey w.req = key ∧ answer.records = records ∧
      ∃ pool, resolver.pools.lookup name = some pool ∧ w.asking.Asks pool
  | _ => False

def ObeysRules (resolver : Resolver) (past : List (ResolverStep × ResolverOutput))
    (req : ResolveRequest) (result : Resolved) : Prop :=
  ((projection resolver req).denied = true → result.1 = .error .denied) ∧
    ∀ answer, result.1 = .ok answer →
      ∃ entry ∈ past,
        ObtainedFrom resolver (poolName resolver req) (cacheKey req) answer.records entry

/-- The records were written to the cache by an earlier call, which got them from
the pool that its own rules select, and are good until `expiresAt`. -/
def WrittenFor (resolver : Resolver) (past : List (ResolverStep × ResolverOutput))
    (key : CacheKey) (records : List AnswerRecord) (expiresAt : Nat) : Prop :=
  ∃ id net now w answer sig,
    (ResolverStep.reply id net now, ResolverOutput.answered w (.ok answer, sig)) ∈ past ∧
      ByOwnRules resolver w ∧ cacheKey w.req = key ∧ answer.records = records ∧
      expiresAt = now + min (max answer.minRrTtl 1 * 1000) ttlMaxPositive

lemma WrittenFor.append (h : WrittenFor resolver past key records expiresAt)
    (entry : ResolverStep × ResolverOutput) :
    WrittenFor resolver (past ++ [entry]) key records expiresAt := by
  obtain ⟨id, net, now, w, answer, sig, hmem, hrest⟩ := h
  exact ⟨id, net, now, w, answer, sig, mem_append_left _ hmem, hrest⟩

/-! ## What one call does -/

section

lemma selectServers_subset {hash : String → Nat}
    (h : selectServers hash counter qname servers policy = .ok chosen) : chosen ⊆ servers := by
  cases policy with
  | roundRobin | consistentHash =>
    simp only [selectServers] at h
    split at h
    · rename_i server hget
      cases h
      intro chosen hmem
      rw [mem_singleton.mp hmem]
      exact mem_of_getElem? hget
    · cases h
  | fanOut k =>
    simp only [selectServers] at h
    split at h
    · cases h
    · split at h
      · cases h
      · cases h
        exact take_subset k servers

section
variable (resolver : Resolver) (s : ResolverState) (req : ResolveRequest)

lemma askPool_cases (sig : ResolutionSignals) (name : String) (pool : Pool) :
    (askPool resolver s req sig name pool).1.cache = s.cache ∧
    (askPool resolver s req sig name pool).1.waiting = s.waiting ∧
    ((∃ e, (askPool resolver s req sig name pool).2 = .returned (.error e, sig)) ∨
      ∃ w, (askPool resolver s req sig name pool).2 = .waits w ∧ w.req = req ∧
        w.asking.Asks pool) := by
  unfold askPool
  cases hmode : pool.mode with
  | systemMode => exact ⟨rfl, rfl, .inr ⟨_, rfl, rfl, hmode⟩⟩
  | meshDirect policy | tunneled policy =>
    dsimp only
    split
    · split
      · exact ⟨rfl, rfl, .inl ⟨_, rfl⟩⟩
      · rename_i servers hselect
        refine ⟨?_, ?_, .inr ⟨_, rfl, rfl, ⟨policy, hmode⟩, selectServers_subset hselect⟩⟩
        · split <;> rfl
        · split <;> rfl
    · exact ⟨rfl, rfl, .inl ⟨_, rfl⟩⟩

lemma resolveByRules_cases : (resolveByRules resolver s req).1.cache = s.cache ∧
    (resolveByRules resolver s req).1.waiting = s.waiting ∧
    ((∃ sig, (resolveByRules resolver s req).2 = .returned (.error .denied, sig)) ∨
      (projection resolver req).denied = false ∧
        ((∃ e sig, (resolveByRules resolver s req).2 = .returned (.error e, sig)) ∨
          ∃ w, (resolveByRules resolver s req).2 = .waits w ∧ w.req = req ∧
            ByOwnRules resolver w)) := by
  unfold resolveByRules
  dsimp only
  split
  · exact ⟨rfl, rfl, .inl ⟨_, rfl⟩⟩
  · rename_i hallowed
    have hallowed := Bool.eq_false_iff.mpr hallowed
    split
    · exact ⟨rfl, rfl, .inr ⟨hallowed, .inl ⟨_, _, rfl⟩⟩⟩
    · rename_i pool hpool
      obtain ⟨hcache, hwait, ⟨e, he⟩ | ⟨w, hw, hreq, hasks⟩⟩ :=
        askPool_cases resolver s req _ (poolName resolver req) pool
      · exact ⟨hcache, hwait, .inr ⟨hallowed, .inl ⟨e, _, he⟩⟩⟩
      · refine ⟨hcache, hwait, .inr ⟨hallowed, .inr ⟨w, hw, hreq, ?_⟩⟩⟩
        rw [ByOwnRules, hreq]
        exact ⟨hallowed, pool, hpool, hasks⟩

lemma resolve_cases (now : Nat) : (∃ hit, freshHit resolver s req now = some hit ∧
      resolve resolver s req now = (s, .returned (answerFromCache req hit))) ∨
    freshHit resolver s req now = none ∧
      (AnsweredLocally req = true ∧ (resolve resolver s req now).1 = s ∧
          ((∃ result, (resolve resolver s req now).2 = .returned result) ∨
            ∃ w, (resolve resolver s req now).2 = .waits w ∧ w.req = req ∧
              w.asking = .reverseZone) ∨
        AnsweredLocally req = false ∧
          resolve resolver s req now = resolveByRules resolver s req) := by
  unfold resolve AnsweredLocally
  cases hhit : freshHit resolver s req now with
  | some hit => exact .inl ⟨hit, rfl, rfl⟩
  | none =>
    refine .inr ⟨rfl, ?_⟩
    dsimp only
    split
    · rename_i hlocal
      exact .inl ⟨by simp [hlocal], rfl, .inl ⟨_, rfl⟩⟩
    · split
      · rename_i hlocal
        exact .inl ⟨by simp [hlocal], rfl, .inl ⟨_, rfl⟩⟩
      · split
        · rename_i hlocal
          exact .inl ⟨by simp [hlocal], rfl, .inr ⟨_, rfl, rfl, rfl⟩⟩
        · rename_i hloc hres hrev
          exact .inr ⟨by simp [hloc, hres, hrev], rfl⟩

end

lemma writeBack_waiting {answer : ResolveAnswer} :
    (writeBack resolver s req now answer).waiting = s.waiting := by
  unfold writeBack
  split <;> rfl

lemma writeBack_cache {answer : ResolveAnswer} :
    (writeBack resolver s req now answer).cache = s.cache ∨
      (writeBack resolver s req now answer).cache =
        s.cache.putPositive now (cacheKey req) answer.records (max answer.minRrTtl 1 * 1000) := by
  unfold writeBack
  split
  · exact .inr rfl
  · exact .inl rfl

lemma finish_cases :
    (finish resolver s w net now).1.waiting = s.waiting ∧
      ((finish resolver s w net now).1.cache = s.cache ∨
        w.asking ≠ .reverseZone ∧ ∃ answer sig, (finish resolver s w net now).2 = (.ok answer, sig) ∧
          (finish resolver s w net now).1.cache = s.cache.putPositive now (cacheKey w.req)
            answer.records (max answer.minRrTtl 1 * 1000)) := by
  unfold finish
  cases hasking : w.asking with
  | system =>
    dsimp only
    split
    · rename_i answer _
      refine ⟨writeBack_waiting, writeBack_cache.imp_right fun h => ?_⟩
      exact ⟨by simp, answer, _, rfl, h⟩
    · exact ⟨rfl, .inl rfl⟩
  | reverseZone =>
    dsimp only
    split
    · exact ⟨rfl, .inl rfl⟩
    · exact ⟨rfl, .inl rfl⟩
  | meshDirect servers fanout | tunneled servers fanout =>
    dsimp only
    unfold applyTelemetry
    split
    · exact ⟨rfl, .inl rfl⟩
    · rename_i answer winner count _
      refine ⟨writeBack_waiting, writeBack_cache.imp_right fun h => ?_⟩
      exact ⟨by simp, answer, _, rfl, h⟩

end

/-! ## Histories -/

/-- Every entry of the cache was written for a call, and every call that waits
asks for a local name or by its own rules. -/
structure Traced (resolver : Resolver) (past : List (ResolverStep × ResolverOutput))
    (s : ResolverState) : Prop where
  positive : ∀ key entry, s.cache.positive.lookup key = some entry →
    WrittenFor resolver past key entry.records entry.expiresAt
  negative : s.cache.negative = ∅
  waiting : ∀ id w, s.waiting.lookup id = some w →
    w.asking = .reverseZone ∧ AnsweredLocally w.req = true ∨ ByOwnRules resolver w

section
variable {resolver : Resolver} {past : List (ResolverStep × ResolverOutput)}

lemma Traced.new : Traced resolver [] .new where
  positive _ _ h := by cases h
  negative := rfl
  waiting _ _ h := by cases h

lemma Traced.keep {s' : ResolverState} (h : Traced resolver past s)
    (hcache : s'.cache = s.cache) (hwait : s'.waiting = s.waiting)
    (entry : ResolverStep × ResolverOutput) : Traced resolver (past ++ [entry]) s' where
  positive key cached hlook := by
    rw [hcache] at hlook
    exact (h.positive key cached hlook).append entry
  negative := by
    rw [hcache]
    exact h.negative
  waiting id w hlook := by
    rw [hwait] at hlook
    exact h.waiting id w hlook

lemma Traced.insert (h : Traced resolver past s) (id : CallId)
    (hw : w.asking = .reverseZone ∧ AnsweredLocally w.req = true ∨ ByOwnRules resolver w) :
    Traced resolver past { s with waiting := s.waiting.insert id w } where
  positive := h.positive
  negative := h.negative
  waiting id' w' hlook := by
    rw [Table.lookup_insert_if] at hlook
    split at hlook
    · cases hlook
      exact hw
    · exact h.waiting id' w' hlook

lemma Traced.erase (h : Traced resolver past s) (id : CallId) :
    Traced resolver past { s with waiting := s.waiting.erase id } where
  positive := h.positive
  negative := h.negative
  waiting id' w' hlook := by
    by_cases hid : id' = id
    · rw [hid, AList.lookup_erase] at hlook
      cases hlook
    · rw [AList.lookup_erase_ne hid] at hlook
      exact h.waiting id' w' hlook

lemma Traced.step (h : Traced resolver past s) (step : ResolverStep) :
    Traced resolver (past ++ [(step, (resolver.step s step).2)]) (resolver.step s step).1 := by
  cases step with
  | call id req now =>
    by_cases hid : id ∈ s.waiting
    · simp only [Resolver.step, if_pos hid]
      exact h.keep rfl rfl _
    · simp only [Resolver.step, if_neg hid]
      rcases resolve_cases resolver s req now with
        ⟨hit, -, hresolve⟩ | ⟨-, ⟨hlocal, hs, ⟨result, hret⟩ | ⟨w, hw, hreq, hasking⟩⟩ |
          ⟨-, hresolve⟩⟩
      · rw [hresolve]
        exact h.keep rfl rfl _
      · rw [← eta (resolve resolver s req now), hs, hret]
        exact h.keep rfl rfl _
      · rw [← eta (resolve resolver s req now), hs, hw]
        exact (h.insert id (.inl ⟨hasking, hreq ▸ hlocal⟩)).keep rfl rfl _
      · rw [hresolve, ← eta (resolveByRules resolver s req)]
        obtain ⟨hcache, hwait, ⟨sig, hb⟩ | ⟨-, ⟨e, sig, hb⟩ | ⟨w, hb, -, hw⟩⟩⟩ :=
          resolveByRules_cases resolver s req
        · rw [hb]
          exact h.keep hcache hwait _
        · rw [hb]
          exact h.keep hcache hwait _
        · rw [hb]
          refine @Traced.keep resolver past _
            { (resolveByRules resolver s req).1 with
              waiting := (resolveByRules resolver s req).1.waiting.insert id w }
            (h.insert id (.inr hw)) hcache ?_ _
          rw [hwait]
  | reply id net now =>
    simp only [Resolver.step]
    cases hlook : s.waiting.lookup id with
    | none => exact h.keep rfl rfl _
    | some w =>
      obtain ⟨hwait, hcache | ⟨hasking, answer, sig, hres, hcache⟩⟩ := finish_cases
      · exact (h.erase id).keep hcache hwait _
      · have hrules := (h.waiting id w hlook).resolve_left fun hlocal => hasking hlocal.1
        constructor
        case positive =>
          intro key entry hentry
          rw [hcache] at hentry
          simp only [DnsCache.putPositive, Table.lookup_insert_if] at hentry
          split at hentry
          · rename_i hkey
            cases hentry
            exact ⟨id, net, now, w, answer, sig, by simp [hres], hrules, hkey.symm, rfl, rfl⟩
          · exact (h.positive key entry hentry).append _
        case negative =>
          rw [hcache]
          exact h.negative
        case waiting =>
          rw [hwait]
          exact (h.erase id).waiting

end

def ResolverStep.hit (resolver : Resolver) (s : ResolverState) : ResolverStep → Option Lookup
  | .call _ req now => freshHit resolver s req now
  | .reply .. => none

section
variable {step : ResolverStep}

lemma obeysRules_error (hallowed : (projection resolver req).denied = false) :
    ObeysRules resolver past req (.error e, sig) := by
  refine ⟨fun hdenied => ?_, fun answer hansw => (by cases hansw)⟩
  rw [hallowed] at hdenied
  cases hdenied

lemma result_of_hit {id : CallId} (hhit : freshHit resolver s req now = some hit)
    (hres : (resolver.step s (.call id req now)).2.result = some (req, result)) :
    result = answerFromCache req hit := by
  by_cases hid : id ∈ s.waiting
  · simp [step, hid, ResolverOutput.result] at hres
  · simp only [step, if_neg hid] at hres
    rcases resolve_cases resolver s req now with ⟨hit', hsome, hresolve⟩ | ⟨hnone, -⟩
    · rw [hresolve] at hres
      rw [hsome] at hhit
      cases hhit
      cases hres
      rfl
    · rw [hnone] at hhit
      cases hhit

lemma Traced.obeysRules (h : Traced resolver past s) (hhit : step.hit resolver s = none)
    (hres : (resolver.step s step).2.result = some (req, result))
    (hrules : AnsweredLocally req = false) :
    ObeysRules resolver (past ++ [(step, (resolver.step s step).2)]) req result := by
  cases step with
  | call id req' now =>
    by_cases hid : id ∈ s.waiting
    · simp [Resolver.step, hid, ResolverOutput.result] at hres
    · simp only [Resolver.step, if_neg hid] at hres
      rcases resolve_cases resolver s req' now with
        ⟨hit, hsome, -⟩ | ⟨-, ⟨hlocal, hs, ⟨result', hb⟩ | ⟨w, hb, -, -⟩⟩ | ⟨-, hresolve⟩⟩
      · rw [ResolverStep.hit, hsome] at hhit
        cases hhit
      · rw [← eta (resolve resolver s req' now), hb] at hres
        cases hres
        rw [hlocal] at hrules
        cases hrules
      · rw [← eta (resolve resolver s req' now), hb] at hres
        cases hres
      · rw [hresolve, ← eta (resolveByRules resolver s req')] at hres
        obtain ⟨-, -, ⟨sig, hb⟩ | ⟨hallowed, ⟨e, sig, hb⟩ | ⟨w, hb, -, -⟩⟩⟩ :=
          resolveByRules_cases resolver s req'
        · rw [hb] at hres
          cases hres
          exact ⟨fun _ => rfl, fun answer hansw => (by cases hansw)⟩
        · rw [hb] at hres
          cases hres
          exact obeysRules_error hallowed
        · rw [hb] at hres
          cases hres
  | reply id net now =>
    simp only [Resolver.step] at hres ⊢
    cases hlook : s.waiting.lookup id with
    | none =>
      rw [hlook] at hres
      cases hres
    | some w =>
      rw [hlook] at hres
      cases hres
      have hown : ByOwnRules resolver w := by
        refine (h.waiting id w hlook).resolve_left fun hlocal => ?_
        rw [hlocal.2] at hrules
        cases hrules
      obtain ⟨hallowed, pool, hpool, hasks⟩ := hown
      refine ⟨fun hdenied => ?_, fun answer hansw => ?_⟩
      · rw [hallowed] at hdenied
        cases hdenied
      · refine ⟨_, mem_append_right _ (mem_singleton_self _), ?_⟩
        dsimp only at hansw ⊢
        generalize (finish resolver _ w net now).2 = finished at hansw ⊢
        obtain ⟨outcome, sig⟩ := finished
        cases hansw
        exact ⟨rfl, rfl, pool, hpool, hasks⟩

lemma Traced.lookup (h : Traced resolver past s) {key : CacheKey} {hit : Lookup}
    (hhit : s.cache.lookup key = some hit) :
    ∃ records expiresAt, hit = .positive records expiresAt ∧
      WrittenFor resolver past key records expiresAt := by
  unfold DnsCache.lookup at hhit
  split at hhit
  · rename_i entry hentry
    cases hhit
    exact ⟨entry.records, entry.expiresAt, rfl, h.positive _ entry hentry⟩
  · rw [h.negative] at hhit
    cases hhit

lemma Traced.hit (h : Traced resolver past s) {hit : Lookup}
    (hhit : freshHit resolver s req now = some hit) :
    ∃ records expiresAt, hit = .positive records expiresAt ∧ now < expiresAt ∧
      WrittenFor resolver past (cacheKey req) records expiresAt := by
  unfold freshHit at hhit
  split at hhit
  · obtain ⟨hlook, hfresh⟩ := Option.filter_eq_some_iff.mp hhit
    obtain ⟨records, expiresAt, rfl, hwrit⟩ := h.lookup hlook
    exact ⟨records, expiresAt, rfl, of_decide_eq_true hfresh, hwrit⟩
  · cases hhit

end

/-- In every history of calls, for every configuration: a call that finds no fresh
entry in the cache obeys its own rules, and one that finds a fresh entry returns
records that an earlier call for the same name and type, allowed by its own rules,
got from the pool they select. -/
theorem answers_by_own_rules_or_cached (resolver : Resolver) (steps : List ResolverStep)
    (step : ResolverStep) (req : ResolveRequest) (result : Resolved)
    (hresult : (resolver.step (run resolver.step .new steps).1 step).2.result = some (req, result))
    (hrules : AnsweredLocally req = false) :
    (step.hit resolver (run resolver.step .new steps).1 = none →
      ObeysRules resolver (history resolver.step .new (steps ++ [step])) req result) ∧
    ∀ id now hit, step = .call id req now →
      step.hit resolver (run resolver.step .new steps).1 = some hit →
      ∃ records expiresAt, now < expiresAt ∧
        result.1 = .ok ⟨records, .system, false, 0, 0⟩ ∧
        WrittenFor resolver (history resolver.step .new steps) (cacheKey req) records
          expiresAt := by
  have htraced : Traced resolver (history resolver.step .new steps)
      (run resolver.step .new steps).1 :=
    @run_history_invariant _ _ _ resolver.step (Traced resolver)
      (fun _ _ step h => h.step step) .new steps Traced.new
  refine ⟨fun hhit => ?_, fun id now hit hstep hhit => ?_⟩
  · rw [history_append]
    exact htraced.obeysRules hhit hresult hrules
  · subst hstep
    obtain ⟨records, expiresAt, rfl, hfresh, hwrit⟩ := htraced.hit hhit
    refine ⟨records, expiresAt, hfresh, ?_, hwrit⟩
    rw [result_of_hit hhit hresult]
    rfl

def guestsDenied : Resolver where
  pools := AList.insert "host" ⟨.systemMode, []⟩ ∅
  defaultPool := none
  ruleChain := some ⟨[⟨some "guests", .predicate (.consumer "guest"), .deny⟩],
    .setResolverPool "host"⟩
  ruleSets := none
  hasOpener := false
  hasStreamOpener := false
  hasCache := true
  hash _ := 0
  parseIp _ := none

def hostNetwork : Network where
  hostAddrs := .ok [.v4 0xc6336407]
  elapsed := 5
  shot _ := ⟨0, .error .nxDomain, 0⟩

def requestOf (consumer : String) : ResolveRequest := ⟨"Www.Mesh.net", .a, consumer⟩

def hostSignals : ResolutionSignals :=
  { qnameKey := "www.mesh.net.", pool := "host", resolverRttMs := 5, answerCount := 1,
    defaultUsed := true, action := "set_resolver_pool:host" }

theorem staff_by_own_rules :
    ObeysRules guestsDenied
      (history guestsDenied.step .new ([.call 0 (requestOf "staff") 0] ++ [.reply 0 hostNetwork 9]))
      (requestOf "staff") (.ok ⟨[.a 0xc6336407], .system, false, 5, 60⟩, hostSignals) := by
  have hans := answers_by_own_rules_or_cached guestsDenied [.call 0 (requestOf "staff") 0]
    (.reply 0 hostNetwork 9) (requestOf "staff")
    (.ok ⟨[.a 0xc6336407], .system, false, 5, 60⟩, hostSignals) (by decide +kernel)
    (by decide +kernel)
  exact hans.1 rfl

/-- A guest, whose rules deny the name, is given the records that staff asked for. -/
theorem guest_answered_from_cache :
    (projection guestsDenied (requestOf "guest")).denied = true ∧
    AnsweredLocally (requestOf "guest") = false ∧
    (guestsDenied.step (run guestsDenied.step .new
        [.call 0 (requestOf "staff") 0, .reply 0 hostNetwork 9]).1
        (.call 1 (requestOf "guest") 10)).2.result.map (fun result => result.2.1) =
      some (.ok ⟨[.a 0xc6336407], .system, false, 0, 0⟩) := by
  decide +kernel

end MeshBus.Resolver
