import MeshBus.Ingress.Wire

/-!
# One stream session, seen through the ingress

Everything the loop does to one `(peer, session)`: its entries in three tables
and the calls it makes on the session's bus half.  `Handled` lists what a frame
can do to that view; the results about a single stream only use this list.
-/

namespace MeshBus.Ingress

open Lib MeshSec Proto Reorder List Table
variable {Addr : Type} [DecidableEq Addr]

structure View where
  session : Option Nat
  pending : PendingStreamData
  family : Option FamilyReorderState

def viewOf (K : SessionKey Addr) (st : State Addr) : View where
  session := st.streamSessions.lookup K
  pending := (st.pendingStreamData.lookup K).getD .empty
  family := st.familyStates.lookup K

def View.next (v : View) : Nat := (v.family.map FamilyReorderState.nextExpectedSeq).getD 1

lemma next_viewOf (K : SessionKey Addr) (st : State Addr) :
    (viewOf K st).next = (familyOf st K).nextExpectedSeq := by
  unfold viewOf familyOf
  cases st.familyStates.lookup K <;> rfl

/-- A call on a bus half of the session. -/
inductive StreamOp where
  | opened (half : Nat)
  | send (half : Nat) (payload : Bytes)
  | shutdownWrite (half : Nat)
  deriving DecidableEq

def opOf (K : SessionKey Addr) : Effect Addr → Option StreamOp
  | .openStream key half _ _ => if key = K then some (.opened half) else none
  | .send key half payload => if key = K then some (.send half payload) else none
  | .shutdownWrite key half => if key = K then some (.shutdownWrite half) else none
  | _ => none

def opsOf (K : SessionKey Addr) (effects : List (Effect Addr)) : List StreamOp :=
  effects.filterMap (opOf K)

def payloadFor (K : SessionKey Addr) (peer : Addr) : MeshFrame → Option Bytes
  | .streamData sessionId _ payload => if (peer, sessionId) = K then some payload else none
  | _ => none

def shutsFor (K : SessionKey Addr) (peer : Addr) : MeshFrame → Bool
  | .streamShutdownWrite sessionId => (peer, sessionId) = K
  | _ => false

/-- What a frame does to the view of `K`, and the calls it makes.  `opens` says
whether the bus would open a stream now. -/
inductive Handled (ingress : MeshPeerUdpIngress) (K : SessionKey Addr) (peer : Addr) (opens : Bool)
    (v : View) : MeshFrame → View → List StreamOp → Prop where
  | untouched {frame : MeshFrame} (hdata : payloadFor K peer frame = none)
      (hshut : shutsFor K peer frame = false) : Handled ingress K peer opens v frame v []
  /-- Another session took the place. -/
  | evicted {frame : MeshFrame} (hdata : payloadFor K peer frame = none)
      (hshut : shutsFor K peer frame = false) :
      Handled ingress K peer opens v frame { v with session := none } []
  | familyClosed {sessionId : String} {reason : CloseReasonWire} (hkey : (peer, sessionId) = K) :
      Handled ingress K peer opens v (.datagramClose sessionId reason)
        { v with family := none } []
  | closed {sessionId : String} {reason : CloseReasonWire} (hkey : (peer, sessionId) = K) :
      Handled ingress K peer opens v (.streamClose sessionId reason)
        ⟨none, .empty, none⟩ []
  | flushed {request : StreamOpen} (hkey : (peer, request.sessionId) = K)
      (hsession : v.session = none) (hopens : opens = true) (half : Nat) :
      Handled ingress K peer opens v (.streamOpen request)
        { v with session := some half, pending := .empty }
        (.opened half :: v.pending.frames.map (.send half))
  /-- The bus refused payload `i` of what was pending. -/
  | flushFailed {request : StreamOpen} (hkey : (peer, request.sessionId) = K)
      (hsession : v.session = none) (hopens : opens = true) (half : Nat) {i : Nat}
      (hi : i < v.pending.frames.length) :
      Handled ingress K peer opens v (.streamOpen request)
        { v with session := none, pending := .empty }
        (.opened half :: (v.pending.frames.take (i + 1)).map (.send half))
  | sent {sessionId : String} {seq : UInt64} {payload : Bytes} (hkey : (peer, sessionId) = K)
      {half : Nat} (hsession : v.session = some half) :
      Handled ingress K peer opens v (.streamData sessionId seq payload) v [.send half payload]
  | sendFailed {sessionId : String} {seq : UInt64} {payload : Bytes}
      (hkey : (peer, sessionId) = K) {half : Nat} (hsession : v.session = some half) :
      Handled ingress K peer opens v (.streamData sessionId seq payload) { v with session := none }
        [.send half payload]
  | queued {sessionId : String} {seq : UInt64} {payload : Bytes} (hkey : (peer, sessionId) = K)
      (hsession : v.session = none)
      (hfits : v.pending.bytes + payload.length ≤ ingress.pendingStreamDataMaxBytes) :
      Handled ingress K peer opens v (.streamData sessionId seq payload)
        { v with pending := v.pending.push payload } []
  | dropped {sessionId : String} {seq : UInt64} {payload : Bytes} (hkey : (peer, sessionId) = K)
      (hsession : v.session = none)
      (hover : ingress.pendingStreamDataMaxBytes < v.pending.bytes + payload.length) :
      Handled ingress K peer opens v (.streamData sessionId seq payload) v []
  | shut {sessionId : String} (hkey : (peer, sessionId) = K) {half : Nat}
      (hsession : v.session = some half) :
      Handled ingress K peer opens v (.streamShutdownWrite sessionId) v [.shutdownWrite half]
  | shutLost {sessionId : String} (hkey : (peer, sessionId) = K) (hsession : v.session = none) :
      Handled ingress K peer opens v (.streamShutdownWrite sessionId) v []

section
variable {K : SessionKey Addr}

@[simp] lemma opsOf_nil : opsOf K [] = [] := rfl

@[simp] lemma opsOf_append (es fs : List (Effect Addr)) :
    opsOf K (es ++ fs) = opsOf K es ++ opsOf K fs :=
  filterMap_append

lemma opsOf_cons : opsOf K (e :: es) = (opOf K e).toList ++ opsOf K es := by
  cases h : opOf K e <;> simp [opsOf, h]

lemma opsOf_map_eq_nil (xs : List α)
    (hf : ∀ x, opOf K (f x) = none) : opsOf K (xs.map f) = [] := by
  simp [opsOf, filterMap_map, hf]

@[simp] lemma viewOf_asked : viewOf K st.asked = viewOf K st := rfl

lemma viewOf_erasePending (key : SessionKey Addr) :
    viewOf K { st with pendingStreamData := st.pendingStreamData.erase key } =
      if K = key then { viewOf K st with pending := .empty } else viewOf K st := by
  unfold viewOf
  rw [lookup_erase_if]
  split <;> rfl

lemma viewOf_closeStream :
    viewOf K (closeStream st key).1 =
      if K = key then { viewOf K st with session := none } else viewOf K st := by
  unfold viewOf closeStream
  rw [lookup_erase_if]
  split <;> rfl

lemma opsOf_closeStream : opsOf K (closeStream st key).2 = [] := opsOf_map_eq_nil _ fun _ => rfl

end
section
variable {ingress : MeshPeerUdpIngress} {answers : Answers} {K : SessionKey Addr}

lemma sendStream_view (half : Nat) (payload : Bytes) :
    opsOf K (sendStream answers st K half payload).2.1 = [.send half payload] ∧
    viewOf K (sendStream answers st K half payload).1 =
      if (sendStream answers st K half payload).2.2 then viewOf K st
      else { viewOf K st with session := none } := by
  unfold sendStream
  split
  · simp [opsOf_cons, opOf]
  · simp [opsOf_cons, opOf, opsOf_closeStream, viewOf_closeStream]

lemma sendStream_view_ne {key : SessionKey Addr} (hkey : key ≠ K) (half : Nat) (payload : Bytes) :
    opsOf K (sendStream answers st key half payload).2.1 = [] ∧
    viewOf K (sendStream answers st key half payload).1 = viewOf K st := by
  unfold sendStream
  split
  · simp [opsOf_cons, opOf, hkey]
  · simp [opsOf_cons, opOf, hkey, opsOf_closeStream, viewOf_closeStream, Ne.symm hkey]

lemma flushPending_view (half : Nat) (payloads : List Bytes) (st : State Addr) :
    (opsOf K (flushPending answers K half st payloads).2 = payloads.map (.send half) ∧
      viewOf K (flushPending answers K half st payloads).1 = viewOf K st) ∨
    ∃ i < payloads.length,
      opsOf K (flushPending answers K half st payloads).2 =
        (payloads.take (i + 1)).map (.send half) ∧
      viewOf K (flushPending answers K half st payloads).1 =
        { viewOf K st with session := none } := by
  induction payloads generalizing st with
  | nil => exact Or.inl ⟨rfl, rfl⟩
  | cons payload rest ih =>
    have hsent := @sendStream_view Addr _ answers K st half payload
    unfold flushPending
    split
    all_goals
      rename_i st' effects heq
      rw [heq] at hsent
      obtain ⟨hops, hview⟩ := hsent
    · exact Or.inr ⟨0, by simp, by simpa using hops, by simpa using hview⟩
    · simp only [if_true] at hview
      rw [opsOf_append, hops]
      rcases ih st' with ⟨hrest, hview'⟩ | ⟨i, hi, hrest, hview'⟩
      · exact Or.inl ⟨by simp [hrest], by rw [hview', hview]⟩
      · exact Or.inr ⟨i + 1, by simpa using hi, by simp [hrest], by rw [hview', hview]⟩

lemma flushPending_view_ne {key : SessionKey Addr} (hkey : key ≠ K) (half : Nat)
    (payloads : List Bytes) (st : State Addr) :
    opsOf K (flushPending answers key half st payloads).2 = [] ∧
    viewOf K (flushPending answers key half st payloads).1 = viewOf K st := by
  induction payloads generalizing st with
  | nil => exact ⟨rfl, rfl⟩
  | cons payload rest ih =>
    have hsent := @sendStream_view_ne Addr _ answers K st key hkey half payload
    unfold flushPending
    split
    all_goals
      rename_i st' effects heq
      rw [heq] at hsent
      obtain ⟨hops, hview⟩ := hsent
    · exact ⟨hops, hview⟩
    · obtain ⟨hrest, hview'⟩ := ih st'
      exact ⟨by rw [opsOf_append, hops, hrest]; rfl, by rw [hview', hview]⟩

lemma opsOf_enterStream : opsOf K (enterStream ingress st key half choice).2 = [] :=
  opsOf_map_eq_nil _ fun _ => rfl

lemma viewOf_enterStream (half choice : Nat) :
    viewOf K (enterStream ingress st K half choice).1 =
      { viewOf K st with session := some half } := by
  unfold viewOf enterStream
  rw [lookup_insert_if, if_pos rfl]

lemma viewOf_enterStream_ne {key : SessionKey Addr} (hkey : key ≠ K) (half choice : Nat) :
    viewOf K (enterStream ingress st key half choice).1 = viewOf K st ∨
    viewOf K (enterStream ingress st key half choice).1 = { viewOf K st with session := none } := by
  unfold viewOf enterStream
  rw [lookup_insert_if, if_neg (Ne.symm hkey), lookup_makeRoom]
  split
  · exact Or.inr rfl
  · exact Or.inl rfl

lemma openDatagramSession_view (key : SessionKey Addr) (target : Endpoint) :
    opsOf K (openDatagramSession ingress answers st key target).2.1 = [] ∧
    viewOf K (openDatagramSession ingress answers st key target).1 = viewOf K st := by
  unfold openDatagramSession
  dsimp only
  split
  · exact ⟨by rw [opsOf_cons, opsOf_map_eq_nil _ fun _ => rfl]; rfl, rfl⟩
  · exact ⟨rfl, rfl⟩

lemma handleDatagramOpen_view (peer : Addr) (request : DatagramOpen) :
    opsOf K (handleDatagramOpen ingress answers st peer request).2 = [] ∧
    viewOf K (handleDatagramOpen ingress answers st peer request).1 = viewOf K st := by
  unfold handleDatagramOpen
  split
  · exact ⟨rfl, rfl⟩
  · split
    · exact ⟨rfl, rfl⟩
    · exact openDatagramSession_view _ _

lemma handleDatagramSend_view (key : SessionKey Addr) (target : Endpoint) (payload : Bytes) :
    opsOf K (handleDatagramSend ingress answers st key target payload).2 = [] ∧
    viewOf K (handleDatagramSend ingress answers st key target payload).1 = viewOf K st := by
  have hopnd := @openDatagramSession_view Addr _ ingress answers K st key target
  unfold handleDatagramSend
  split
  · exact ⟨rfl, rfl⟩
  · split
    all_goals
      rename_i heq
      rw [heq] at hopnd
      obtain ⟨hops, hview⟩ := hopnd
    · exact ⟨hops, hview⟩
    · exact ⟨by rw [opsOf_append, hops]; rfl, hview⟩

private lemma opsOf_accepted :
    opsOf K (.openStream key half target routeGroup :: .sendFrame reply ::
      (enterStream ingress st key half choice).2) = if key = K then [.opened half] else [] := by
  rw [opsOf_cons, opsOf_cons, opsOf_enterStream]
  simp only [opOf]
  split <;> rfl

lemma handleStreamOpen_handled (hkey : (peer, request.sessionId) = K) :
    Handled ingress K peer (answers st.tick).openStream.isNone (viewOf K st) (.streamOpen request)
      (viewOf K (handleStreamOpen ingress answers st peer replySeal request).1)
      (opsOf K (handleStreamOpen ingress answers st peer replySeal request).2) := by
  unfold handleStreamOpen
  dsimp only
  rw [hkey]
  split
  · exact .untouched rfl rfl
  · rename_i hmem
    have hsess : (viewOf K st).session = none := AList.lookup_eq_none.mpr hmem
    split
    · exact .untouched rfl rfl
    · rename_i hopen
      have hent := @viewOf_enterStream Addr _ ingress K st.asked st.tick
        (answers st.tick).evict
      rw [viewOf_asked] at hent
      rw [hopen]
      split
      · rename_i hpend
        have hempty : (viewOf K st).pending = .empty := by
          unfold viewOf
          rw [hpend]
          rfl
        have hflus : Handled ingress K peer true (viewOf K st) (.streamOpen request) _ _ :=
          .flushed hkey hsess rfl st.tick
        rw [hent, opsOf_accepted, if_pos rfl]
        dsimp only
        rw [hempty] at hflus ⊢
        exact hflus
      · rename_i pending hpend
        have hfrs : pending = (viewOf K st).pending := by
          unfold viewOf
          rw [hpend]
          rfl
        have htaken : viewOf K
            { (enterStream ingress st.asked K st.tick (answers st.tick).evict).1 with
              pendingStreamData := st.pendingStreamData.erase K } =
            { viewOf K st with session := some st.tick, pending := .empty } := by
          have herased := @viewOf_erasePending Addr _ K
            (enterStream ingress st.asked K st.tick (answers st.tick).evict).1 K
          rw [if_pos rfl, hent] at herased
          exact herased
        rw [opsOf_append, opsOf_accepted, if_pos rfl]
        rcases @flushPending_view Addr _ answers K st.tick pending.frames _ with
          ⟨hops, hview⟩ | ⟨i, hi, hops, hview⟩
        · rw [hops, hview, htaken, hfrs]
          exact .flushed hkey hsess rfl st.tick
        · rw [hops, hview, htaken]
          rw [hfrs] at hi ⊢
          exact .flushFailed hkey hsess rfl st.tick hi

lemma handleStreamOpen_view_ne {peer : Addr} {request : StreamOpen}
    (hkey : (peer, request.sessionId) ≠ K) (replySeal : Option MeshSecSealContext) :
    opsOf K (handleStreamOpen ingress answers st peer replySeal request).2 = [] ∧
    (viewOf K (handleStreamOpen ingress answers st peer replySeal request).1 = viewOf K st ∨
      viewOf K (handleStreamOpen ingress answers st peer replySeal request).1 =
        { viewOf K st with session := none }) := by
  unfold handleStreamOpen
  dsimp only
  split
  · exact ⟨rfl, Or.inl rfl⟩
  · split
    · exact ⟨rfl, Or.inl rfl⟩
    · have hent := @viewOf_enterStream_ne Addr _ ingress K st.asked _ hkey st.tick
        (answers st.tick).evict
      split
      · exact ⟨by rw [opsOf_accepted, if_neg hkey], hent⟩
      · rename_i pending _
        have herased := @viewOf_erasePending Addr _ K
          (enterStream ingress st.asked (peer, request.sessionId) st.tick
            (answers st.tick).evict).1 (peer, request.sessionId)
        rw [if_neg (Ne.symm hkey)] at herased
        obtain ⟨hops, hview⟩ := @flushPending_view_ne Addr _ answers K _ hkey st.tick
          pending.frames _
        rw [opsOf_append, opsOf_accepted, if_neg hkey, hops, hview]
        refine ⟨rfl, ?_⟩
        rw [← herased] at hent
        exact hent

section
variable (opens : Bool) (peer : Addr) (sessionId : String)

lemma handleStreamData_handled {payload : Bytes} :
    Handled ingress K peer opens (viewOf K st) (.streamData sessionId seq payload)
      (viewOf K (handleStreamData ingress answers st peer sessionId payload).1)
      (opsOf K (handleStreamData ingress answers st peer sessionId payload).2) := by
  unfold handleStreamData
  dsimp only
  by_cases hkey : (peer, sessionId) = K
  · rw [hkey]
    split
    · rename_i half hsess
      obtain ⟨hops, hview⟩ := @sendStream_view Addr _ answers K st half payload
      rw [hops, hview]
      split
      · exact .sent hkey hsess
      · exact .sendFailed hkey hsess
    · rename_i hsess
      have hpend : ∀ pending, viewOf K
          { st with pendingStreamData := st.pendingStreamData.insert K pending } =
          { viewOf K st with pending } := by
        intro pending
        unfold viewOf
        rw [lookup_insert_if, if_pos rfl]
        rfl
      split
      · rename_i hover
        rw [hpend]
        exact .dropped hkey hsess hover
      · rename_i hfits
        rw [hpend]
        exact .queued hkey hsess (Nat.le_of_not_lt hfits)
  · have hdata : payloadFor K peer (.streamData sessionId seq payload) = none := if_neg hkey
    split
    · rename_i half _
      obtain ⟨hops, hview⟩ := @sendStream_view_ne Addr _ answers K st _ hkey half payload
      rw [hops, hview]
      exact .untouched hdata rfl
    · have hpend : ∀ pending, viewOf K
          { st with pendingStreamData := st.pendingStreamData.insert (peer, sessionId) pending } =
          viewOf K st := by
        intro pending
        unfold viewOf
        rw [lookup_insert_if, if_neg (Ne.symm hkey)]
      split
      · rw [hpend]
        exact .untouched hdata rfl
      · rw [hpend]
        exact .untouched hdata rfl

lemma handleStreamShutdownWrite_handled :
    Handled ingress K peer opens (viewOf K st) (.streamShutdownWrite sessionId)
      (viewOf K (handleStreamShutdownWrite st (peer, sessionId)).1)
      (opsOf K (handleStreamShutdownWrite st (peer, sessionId)).2) := by
  unfold handleStreamShutdownWrite
  by_cases hkey : (peer, sessionId) = K
  · have hops : ∀ half : Option Nat,
        opsOf K (half.toList.map fun half => .shutdownWrite (peer, sessionId) half) =
          half.toList.map .shutdownWrite := by
      intro half
      cases half <;> simp [opsOf, opOf, hkey]
    rw [hops, hkey]
    cases hsess : st.streamSessions.lookup K with
    | none => exact .shutLost hkey hsess
    | some half => exact .shut hkey hsess
  · have hop : ∀ half, opOf K (.shutdownWrite (peer, sessionId) half) = none := by
      intro half
      exact if_neg hkey
    rw [opsOf_map_eq_nil _ hop]
    exact .untouched rfl (decide_eq_false hkey)

lemma handleStreamClose_handled :
    Handled ingress K peer opens (viewOf K st) (.streamClose sessionId reason)
      (viewOf K (handleStreamClose st (peer, sessionId)).1)
      (opsOf K (handleStreamClose st (peer, sessionId)).2) := by
  have hview : viewOf K (handleStreamClose st (peer, sessionId)).1 =
      if K = (peer, sessionId) then ⟨none, .empty, none⟩ else viewOf K st := by
    unfold viewOf handleStreamClose closeStream
    rw [lookup_erase_if, lookup_erase_if, lookup_erase_if]
    split <;> rfl
  have hops : opsOf K (handleStreamClose st (peer, sessionId)).2 = [] := opsOf_closeStream
  rw [hview, hops]
  split
  · rename_i hkey
    exact .closed hkey.symm
  · exact .untouched rfl rfl

lemma handleDatagramClose_handled :
    Handled ingress K peer opens (viewOf K st) (.datagramClose sessionId reason)
      (viewOf K (handleDatagramClose st (peer, sessionId)).1)
      (opsOf K (handleDatagramClose st (peer, sessionId)).2) := by
  have hview : viewOf K (handleDatagramClose st (peer, sessionId)).1 =
      { viewOf K st with
        family := if K = (peer, sessionId) then none else st.familyStates.lookup K } := by
    rw [← lookup_erase_if]
    rfl
  have hops : opsOf K (handleDatagramClose st (peer, sessionId)).2 = [] :=
    opsOf_map_eq_nil _ fun _ => rfl
  rw [hview, hops]
  split
  · rename_i hkey
    exact .familyClosed hkey.symm
  · exact .untouched rfl rfl

end

lemma handleFrame_handled (peer : Addr) (replySeal : Option MeshSecSealContext) (now : UInt64)
    (frame : MeshFrame) :
    Handled ingress K peer (answers st.tick).openStream.isNone (viewOf K st) frame
      (viewOf K (handleFrame ingress answers peer replySeal now st frame).1)
      (opsOf K (handleFrame ingress answers peer replySeal now st frame).2) := by
  cases frame with
  | datagramOpen request =>
    obtain ⟨hops, hview⟩ := @handleDatagramOpen_view Addr _ ingress answers K st peer request
    rw [handleFrame, hops, hview]
    exact .untouched rfl rfl
  | datagramSend sessionId seq target payload =>
    obtain ⟨hops, hview⟩ := @handleDatagramSend_view Addr _ ingress answers K st
      (peer, sessionId) target payload
    rw [handleFrame, hops, hview]
    exact .untouched rfl rfl
  | datagramClose sessionId reason => exact handleDatagramClose_handled _ _ _
  | streamOpen request =>
    by_cases hkey : (peer, request.sessionId) = K
    · exact handleStreamOpen_handled hkey
    · obtain ⟨hops, hview⟩ := @handleStreamOpen_view_ne Addr _ ingress answers K st peer request
        hkey replySeal
      rw [handleFrame, hops]
      rcases hview with hview | hview
      · rw [hview]
        exact .untouched rfl rfl
      · rw [hview]
        exact .evicted rfl rfl
  | streamData sessionId seq payload => exact handleStreamData_handled _ _ _
  | streamShutdownWrite sessionId => exact handleStreamShutdownWrite_handled _ _ _
  | streamClose sessionId reason => exact handleStreamClose_handled _ _ _
  | _ => exact .untouched rfl rfl

end
section
variable {ingress : MeshPeerUdpIngress} {answers : Answers} {K : SessionKey Addr}

lemma Handled.family (h : Handled ingress K peer opens v frame v' ops) :
    v'.family = v.family ∨ v'.family = none := by
  cases h with
  | familyClosed => exact Or.inr rfl
  | closed => exact Or.inr rfl
  | _ => exact Or.inl rfl

lemma opsOf_familyEffects (replySeal : Option MeshSecSealContext) (event : MeshEvent)
    (outcome : FamilyPushOutcome) :
    opsOf K (familyEffects ingress peer replySeal event outcome) = [] := by
  cases outcome with
  | deliver packages =>
    have hop : ∀ package, (undecodable peer package).bind (opOf K) = none := by
      intro package
      unfold undecodable
      split <;> rfl
    simp [familyEffects, opsOf, filterMap_filterMap, hop]
  | windowOverflow ack =>
    unfold familyEffects
    dsimp only
    split <;> rfl
  | _ => rfl

lemma lookup_pushFamily (key : SessionKey Addr) (package : DataPackage) :
    (pushFamily ingress answers st key package).1.familyStates.lookup key =
      some ((familyOf st key).pushPackage package).1 := by
  unfold pushFamily familyOf
  rw [lookup_insert_if, if_pos rfl]
  split
  · rfl
  · rename_i hmem
    have hnone : st.familyStates.lookup key = none := AList.lookup_eq_none.mpr hmem
    rw [lookup_makeRoom, hnone, ite_self]

lemma lookup_pushFamily_ne {key : SessionKey Addr} (package : DataPackage) (hkey : K ≠ key) :
    (pushFamily ingress answers st key package).1.familyStates.lookup K =
      st.familyStates.lookup K ∨
    (pushFamily ingress answers st key package).1.familyStates.lookup K = none := by
  unfold pushFamily
  rw [lookup_insert_if, if_neg hkey]
  split
  · exact Or.inl rfl
  · rw [lookup_makeRoom]
    split
    · exact Or.inr rfl
    · exact Or.inl rfl

/-- Decoding a package moves families only: that of the package is pushed, or
dropped when it overflows; any other stays or makes room. -/
lemma decodeFamilyPackage_view (replySeal : Option MeshSecSealContext) (event : MeshEvent)
    (package : DataPackage) :
    let decoded := decodeFamilyPackage ingress answers st peer replySeal event package
    let pushed := (familyOf st (peer, event.familyId)).pushPackage package
    decoded.2.2 = pushed.2.delivered.filterMap decodePackage ∧
    viewOf K decoded.1 = { viewOf K st with family := decoded.1.familyStates.lookup K } ∧
    (decoded.1.familyStates.lookup (peer, event.familyId) =
      if pushed.2.overflows then none else some pushed.1) ∧
    ∀ k, k ≠ (peer, event.familyId) → decoded.1.familyStates.lookup k = st.familyStates.lookup k ∨
        decoded.1.familyStates.lookup k = none := by
  have hpushed := @lookup_pushFamily Addr _ ingress answers st (peer, event.familyId) package
  have hother := fun k => @lookup_pushFamily_ne Addr _ ingress answers k st
    (peer, event.familyId) package
  have hsnd := @pushFamily_snd Addr _ ingress answers st (peer, event.familyId) package
  intro decoded pushed
  refine ⟨by rw [← hsnd]; rfl, ?_, ?_, ?_⟩
  · simp only [decoded, decodeFamilyPackage]
    split <;> rfl
  · simp only [decoded, decodeFamilyPackage, pushed, hsnd]
    split
    · rw [lookup_erase_if, if_pos rfl]
    · exact hpushed
  · intro k hk
    simp only [decoded, decodeFamilyPackage]
    split
    · rw [lookup_erase_if, if_neg hk]
      exact hother k hk
    · exact hother k hk

end
end MeshBus.Ingress
