import MeshBus.Session.Pending
import MeshBus.Socks5.Codec
import MeshBus.Socks5.Policy

/-!
# UDP associations

The control connection declares the address that the client will send from, and the relay
takes datagrams from there.  Each datagram is forwarded by a task of its own, on a session
that is opened for its target, once the policy has allowed it; a response pump returns what
the session receives.
-/

namespace MeshBus.Socks5

open Kernel (Event Verdict)
open Lib List Decided Bool
open Net
open Proto (Endpoint)
open Rule
open Session (BusSessionRequest datagramKey datagramKey_injective)

def maxUdpTargetSessions : Nat := 256

/-! ## The control connection -/

structure UdpAssociation where
  /-- The declared address. -/
  peer : SocketAddr
  policy : Option RulePolicy
  /-- A pipeline is attached; what a run of it does is up to the run. -/
  hasPipeline : Bool
  authenticatedUser : Option String

namespace UdpAssociation

def new (text : IpText) (declaredPeer : Endpoint) (policy : Option RulePolicy)
    (hasPipeline : Bool) (authenticatedUser : Option String) : Option UdpAssociation := do
  let ip ← text.parse declaredPeer.host
  pure ⟨⟨ip, declaredPeer.port⟩, policy, hasPipeline, authenticatedUser⟩

def ownsPeer (assoc : UdpAssociation) (peer : SocketAddr) : Bool :=
  assoc.peer.port == 0 || isUnspecified assoc.peer.ip || peer == assoc.peer

end UdpAssociation

/-- What the control connection meets. -/
structure ControlIo where
  supportsDatagram : Bool
  /-- The relay socket's address, if it could be bound. -/
  relayAddr : Option Endpoint
  replyWritten : Bool

def associateAllowed (control : SocketAddr) (declaredPeer : Endpoint)
    (policy : Option RulePolicy) (hasPipeline : Bool) (user : Option String) : Bool :=
  match hasPipeline, policy with
  | false, some policy =>
    let ctx := buildUdpAssociateCtx control declaredPeer user
    legacyDecision policy ctx (.datagram declaredPeer) != .deny
  | _, _ => true

/-- `udp_associate`: the replies that are written, and the association that the relay runs
with. -/
def udpAssociate (text : IpText) (io : ControlIo) (control : SocketAddr) (declaredPeer : Endpoint)
    (policy : Option RulePolicy) (hasPipeline : Bool) (user : Option String) :
    List Bytes × Option UdpAssociation :=
  if !associateAllowed control declaredPeer policy hasPipeline user then
    ([encodeReply .connectionNotAllowed], none)
  else if !io.supportsDatagram then ([encodeReply .hostUnreachable], none)
  else
    match io.relayAddr with
    | none => ([encodeReply .generalFailure], none)
    | some relayAddr =>
      let replies := [encodeReplyWithEndpoint text .succeeded relayAddr]
      if !io.replyWritten then (replies, none)
      else
        match UdpAssociation.new text declaredPeer policy hasPipeline user with
        | some assoc => (replies, some assoc)
        | none => (replies ++ [encodeReply .generalFailure], none)

/-! ## Judging a datagram -/

/-- What a session was judged by. -/
inductive Judgement where
  | unasked
  | rules (ctx : RuleCtx)
  | pipeline (event : Event)

def UdpAssociation.judge (text : IpText) (assoc : UdpAssociation)
    (runPipeline : Event → Option (Verdict × Event)) (target : Endpoint) :
    Judgement × Option BusSessionRequest :=
  let base := udpPacket.base text assoc.peer target
  if assoc.hasPipeline then
    let event := buildUdpPacketEvent text assoc.peer target assoc.authenticatedUser
    (.pipeline event,
      match runPipeline event with
      | none => none
      | some (verdict, event) =>
        match applyVerdict verdict event base with
        | .allow request => some request
        | .deny _ | .drop => none)
  else
    match assoc.policy with
    | some policy =>
      let ctx := buildUdpPacketCtx text assoc.peer target assoc.authenticatedUser
      (.rules ctx,
        match legacyDecision policy ctx base with
        | .allow request => some request
        | .deny => none)
    | none => (.unasked, some base)

/-! ## The relay -/

structure UdpTargetSession where
  /-- Sessions are numbered as they are opened. -/
  id : Nat
  target : Endpoint
  /-- The address that the response pump sends to. -/
  opener : SocketAddr
  request : BusSessionRequest
  judgement : Judgement

/-- Where a forwarding task is in `session_for`. -/
inductive Phase where
  | lookup
  | judge
  | opening (request : BusSessionRequest) (judgement : Judgement)
  | send (session : UdpTargetSession)
  | done

def Phase.isDone : Phase → Bool
  | .done => true
  | _ => false

structure ForwardTask where
  source : SocketAddr
  datagram : UdpDatagram
  phase : Phase := .lookup

structure Forwarded where
  source : SocketAddr
  datagram : UdpDatagram
  session : UdpTargetSession

structure UdpReply where
  peer : SocketAddr
  packet : Bytes
  session : UdpTargetSession
  /-- The datagram that the reply is to, if it is one of the session's. -/
  answers : Option Forwarded

structure UdpRelay where
  tasks : List ForwardTask := []
  sessions : Table String UdpTargetSession := ∅
  /-- The sessions whose response pump runs. -/
  pumps : List UdpTargetSession := []
  closed : Bool := false
  /-- Every datagram that was accepted, session that was opened, datagram that was forwarded
  and reply that was sent. -/
  accepted : List (SocketAddr × UdpDatagram) := []
  opened : List UdpTargetSession := []
  forwarded : List Forwarded := []
  replies : List UdpReply := []

open UdpRelay

/-- What the pipeline, the bus and the hash table do when a task goes on. -/
structure TaskWorld where
  runPipeline : Event → Option (Verdict × Event)
  opens : Bool
  evict : Nat

/-- What happens next: a datagram comes; a task passes the point where it waits; a pump
receives, with the forwarded datagram that is answered, or comes to its end; the control
connection closes. -/
inductive UdpStep where
  | receive (source : SocketAddr) (packet : Bytes)
  | forward (task : Nat) (world : TaskWorld)
  | reply (pump : Nat) (answers : Option Nat) (source : Endpoint) (payload : Bytes)
  | pumpEnd (pump : Nat)
  | close

namespace UdpRelay

def setPhase (r : UdpRelay) (i : Nat) (task : ForwardTask) (phase : Phase) : UdpRelay :=
  { r with tasks := r.tasks.set i { task with phase } }

def busy (r : UdpRelay) : Nat := r.tasks.countP fun task => !task.phase.isDone

/-- The session that a task opens, with its response pump; a full table loses one session,
whose pump is aborted. -/
def openSession (r : UdpRelay) (i : Nat) (task : ForwardTask) (request : BusSessionRequest)
    (judgement : Judgement) (evict : Nat) : UdpRelay :=
  let session : UdpTargetSession :=
    ⟨r.opened.length, task.datagram.target, task.source, request, judgement⟩
  let evicted := (r.sessions.evictee maxUdpTargetSessions evict).bind r.sessions.lookup
  { r with
    tasks := r.tasks.set i { task with phase := .send session }
    sessions := (r.sessions.makeRoom maxUdpTargetSessions evict).insert
      (datagramKey task.datagram.target) session
    pumps := r.pumps.filter (fun pump => evicted.map UdpTargetSession.id != some pump.id) ++
      [session]
    opened := r.opened ++ [session] }

section
variable (text : IpText) (assoc : UdpAssociation) (udpForwardConcurrency : Nat)

/-- The loop of `run_udp_relay`: a datagram that cannot be decoded is the end of its task. -/
def receiveStep (r : UdpRelay) (source : SocketAddr) (packet : Bytes) : UdpRelay :=
  if r.closed || !assoc.ownsPeer source || udpForwardConcurrency ≤ r.busy then r
  else
    match (decodeUdpDatagram text).run packet with
    | .error _ => r
    | .ok (datagram, _) =>
      { r with
        tasks := r.tasks ++ [{ source, datagram }]
        accepted := r.accepted ++ [(source, datagram)] }

/-- `forward_udp_packet` and `session_for`, up to the next point where the task waits.  The
table is locked for the whole of the last part, the opening of the session included. -/
def taskStep (r : UdpRelay) (i : Nat) (task : ForwardTask) (world : TaskWorld) : UdpRelay :=
  match task.phase with
  | .lookup =>
    match r.sessions.lookup (datagramKey task.datagram.target) with
    | some session => r.setPhase i task (.send session)
    | none => r.setPhase i task .judge
  | .judge =>
    match assoc.judge text world.runPipeline task.datagram.target with
    | (judgement, some request) => r.setPhase i task (.opening request judgement)
    | (_, none) => r.setPhase i task .done
  | .opening request judgement =>
    match r.sessions.lookup (datagramKey task.datagram.target) with
    | some session => r.setPhase i task (.send session)
    | none =>
      if world.opens then r.openSession i task request judgement world.evict
      else r.setPhase i task .done
  | .send session =>
    { r.setPhase i task .done with
      forwarded := r.forwarded ++ [⟨task.source, task.datagram, session⟩] }
  | .done => r

def forwardStep (r : UdpRelay) (i : Nat) (world : TaskWorld) : UdpRelay :=
  match r.tasks[i]? with
  | some task => r.taskStep text assoc i task world
  | none => r

def effectiveSource (source target : Endpoint) : Endpoint :=
  if source.host = "0.0.0.0" ∨ source.host = "::" then target else source

def answered (r : UdpRelay) (pump : UdpTargetSession) (answers : Option Nat) : Option Forwarded :=
  (answers.bind (r.forwarded[·]?)).filter fun f => f.session.id == pump.id

def replyStep (r : UdpRelay) (id : Nat) (answers : Option Nat) (source : Endpoint)
    (payload : Bytes) : UdpRelay :=
  match r.pumps.find? (·.id == id) with
  | none => r
  | some pump =>
    let packet := encodeUdpDatagram text (effectiveSource source pump.target) payload
    { r with replies := r.replies ++ [⟨pump.opener, packet, pump, r.answered pump answers⟩] }

def pumpEndStep (r : UdpRelay) (id : Nat) : UdpRelay :=
  { r with pumps := r.pumps.filter (·.id != id) }

def closeStep (r : UdpRelay) : UdpRelay :=
  { r with closed := true, tasks := r.tasks.map fun task => { task with phase := .done } }

def step (r : UdpRelay) : UdpStep → UdpRelay × Unit
  | .receive source packet => (r.receiveStep text assoc udpForwardConcurrency source packet, ())
  | .forward i world => (r.forwardStep text assoc i world, ())
  | .reply id answers source payload => (r.replyStep text id answers source payload, ())
  | .pumpEnd id => (r.pumpEndStep id, ())
  | .close => (r.closeStep, ())

def after (steps : List UdpStep) : UdpRelay :=
  (run (step text assoc udpForwardConcurrency) {} steps).1

end

/-! ## Invariants -/

section
variable (text : IpText) (assoc : UdpAssociation)

def Granted (target : Endpoint) (judgement : Judgement) (request : BusSessionRequest) : Prop :=
  ∃ runPipeline, assoc.judge text runPipeline target = (judgement, some request)

def PhaseSound (opened : List UdpTargetSession) (target : Endpoint) : Phase → Prop
  | .opening request judgement => Granted text assoc target judgement request
  | .send session => session ∈ opened ∧ session.target = target
  | .lookup | .judge | .done => True

structure Sound (r : UdpRelay) : Prop where
  accepted : ∀ d ∈ r.accepted, assoc.ownsPeer d.1 = true
  tasks : ∀ task ∈ r.tasks, (task.source, task.datagram) ∈ r.accepted ∧
    PhaseSound text assoc r.opened task.datagram.target task.phase
  sessions : ∀ key session, r.sessions.lookup key = some session →
    session ∈ r.opened ∧ datagramKey session.target = key
  pumps : ∀ session ∈ r.pumps, session ∈ r.opened
  ids : ∀ (i : Nat) (session : UdpTargetSession), r.opened[i]? = some session → session.id = i
  granted : ∀ session ∈ r.opened, Granted text assoc session.target session.judgement
    session.request
  openers : ∀ session ∈ r.opened, ∃ d ∈ r.accepted, d.1 = session.opener ∧
    d.2.target = session.target
  forwarded : ∀ f ∈ r.forwarded, (f.source, f.datagram) ∈ r.accepted ∧ f.session ∈ r.opened ∧
    f.session.target = f.datagram.target
  replies : ∀ reply ∈ r.replies, reply.session ∈ r.opened ∧
    reply.peer = reply.session.opener ∧ ∀ f ∈ reply.answers, f ∈ r.forwarded ∧
      f.session = reply.session

variable {text assoc}

lemma PhaseSound.mono {opened opened' : List UdpTargetSession}
    (h : PhaseSound text assoc opened target phase) (hsub : opened ⊆ opened') :
    PhaseSound text assoc opened' target phase := by
  cases phase with
  | send session => exact ⟨hsub h.1, h.2⟩
  | _ => exact h

lemma sound_start : Sound text assoc {} where
  accepted := forall_mem_nil _
  tasks := forall_mem_nil _
  sessions := by rintro key session ⟨⟩
  pumps := forall_mem_nil _
  ids := by rintro i session ⟨⟩
  granted := forall_mem_nil _
  openers := forall_mem_nil _
  forwarded := forall_mem_nil _
  replies := forall_mem_nil _

section
variable (h : Sound text assoc r)
include h

lemma Sound.eq_of_id (hs : s ∈ r.opened) (hs' : s' ∈ r.opened) (hid : s.id = s'.id) : s = s' := by
  obtain ⟨i, hi⟩ := mem_iff_getElem?.mp hs
  obtain ⟨j, hj⟩ := mem_iff_getElem?.mp hs'
  have hij : i = j := by rw [← h.ids i s hi, ← h.ids j s' hj, hid]
  rw [hij, hj] at hi
  exact (Option.some.inj hi).symm

lemma Sound.receiveStep (concurrency : Nat) (source : SocketAddr)
    (packet : Bytes) : Sound text assoc (r.receiveStep text assoc concurrency source packet) := by
  unfold UdpRelay.receiveStep
  split
  · exact h
  · next hguard =>
      have howns : assoc.ownsPeer source = true := by
        cases hpeer : assoc.ownsPeer source with
        | true => rfl
        | false =>
          rw [hpeer] at hguard
          simp at hguard
      split
      · exact h
      · next datagram rest hdec =>
          have hsub : r.accepted ⊆ r.accepted ++ [(source, datagram)] := subset_append_left _ _
          refine { h with
            accepted := ?_, tasks := ?_
            openers := fun session hs => (h.openers session hs).imp fun d hd => ⟨hsub hd.1, hd.2⟩
            forwarded := fun f hf => ⟨hsub (h.forwarded f hf).1, (h.forwarded f hf).2⟩ }
          · intro d hd
            rcases mem_append.mp hd with hold | hnew
            · exact h.accepted d hold
            · rw [mem_singleton.mp hnew]
              exact howns
          · intro task htask
            rcases mem_append.mp htask with hold | hnew
            · exact ⟨hsub (h.tasks task hold).1, (h.tasks task hold).2⟩
            · rw [mem_singleton.mp hnew]
              exact ⟨mem_append_right _ (mem_singleton.mpr rfl), True.intro⟩

lemma Sound.setPhase {i : Nat} {task : ForwardTask}
    (htask : r.tasks[i]? = some task) {phase : Phase}
    (hphase : PhaseSound text assoc r.opened task.datagram.target phase) :
    Sound text assoc (r.setPhase i task phase) := by
  refine { h with tasks := fun task' htask' => ?_ }
  rcases mem_or_eq_of_mem_set htask' with hold | rfl
  · exact h.tasks task' hold
  · exact ⟨(h.tasks task (mem_of_getElem? htask)).1, hphase⟩

lemma Sound.openSession (htask : r.tasks[i]? = some task)
    (hgran : Granted text assoc task.datagram.target judgement request) (evict : Nat) :
    Sound text assoc (r.openSession i task request judgement evict) := by
  have hacc := (h.tasks task (mem_of_getElem? htask)).1
  unfold UdpRelay.openSession
  extract_lets session evicted
  have hsub : r.opened ⊆ r.opened ++ [session] := subset_append_left _ _
  have hmem : session ∈ r.opened ++ [session] := mem_append_right _ (mem_singleton_self _)
  refine { h with
    tasks := ?_, sessions := ?_, pumps := ?_, ids := ?_, granted := ?_, openers := ?_
    forwarded := ?_, replies := ?_ }
  · intro task' htask'
    rcases mem_or_eq_of_mem_set htask' with hold | rfl
    · exact ⟨(h.tasks task' hold).1, (h.tasks task' hold).2.mono hsub⟩
    · exact ⟨hacc, hmem, rfl⟩
  · intro key session' hlook
    rw [Table.lookup_insert_if] at hlook
    split at hlook
    · next hkey =>
        cases hlook
        exact ⟨hmem, hkey.symm⟩
    · rw [Table.lookup_makeRoom] at hlook
      split at hlook
      · cases hlook
      · exact ⟨hsub (h.sessions key session' hlook).1, (h.sessions key session' hlook).2⟩
  · intro pump hpump
    rcases mem_append.mp hpump with hold | hnew
    · exact hsub (h.pumps pump (mem_filter.mp hold).1)
    · rw [mem_singleton.mp hnew]
      exact hmem
  · intro j session' hj
    rw [getElem?_append] at hj
    split at hj
    · exact h.ids j session' hj
    · next hlen =>
        obtain ⟨hlt, rfl⟩ := List.getElem?_eq_some_iff.mp hj
        rw [getElem_singleton]
        rw [length_singleton] at hlt
        show r.opened.length = j
        omega
  · exact forall_mem_append.mpr ⟨h.granted, forall_mem_singleton.mpr hgran⟩
  · exact forall_mem_append.mpr
      ⟨h.openers, forall_mem_singleton.mpr ⟨_, hacc, rfl, rfl⟩⟩
  · intro f hf
    exact ⟨(h.forwarded f hf).1, hsub (h.forwarded f hf).2.1, (h.forwarded f hf).2.2⟩
  · intro reply hreply
    exact ⟨hsub (h.replies reply hreply).1, (h.replies reply hreply).2⟩

lemma Sound.phase_of_lookup (hlook : r.sessions.lookup (datagramKey target) = some session) :
    PhaseSound text assoc r.opened target (.send session) := by
  obtain ⟨hmem, hkey⟩ := h.sessions _ session hlook
  exact ⟨hmem, datagramKey_injective hkey⟩

lemma Sound.taskStep (htask : r.tasks[i]? = some task) (world : TaskWorld) :
    Sound text assoc (r.taskStep text assoc i task world) := by
  obtain ⟨hacc, hphase⟩ := h.tasks task (mem_of_getElem? htask)
  unfold UdpRelay.taskStep
  cases hcase : task.phase with
  | lookup =>
    dsimp only
    split
    · next session hlook => exact h.setPhase htask (h.phase_of_lookup hlook)
    · exact h.setPhase htask True.intro
  | judge =>
    dsimp only
    split
    · next judgement request hjudge => exact h.setPhase htask ⟨world.runPipeline, hjudge⟩
    · exact h.setPhase htask True.intro
  | opening request judgement =>
    rw [hcase] at hphase
    dsimp only
    split
    · next session hlook => exact h.setPhase htask (h.phase_of_lookup hlook)
    · split
      · exact h.openSession htask hphase world.evict
      · exact h.setPhase htask True.intro
  | send session =>
    rw [hcase] at hphase
    have hdone := h.setPhase htask (show PhaseSound text assoc r.opened _ .done from True.intro)
    refine { hdone with forwarded := ?_, replies := ?_ }
    · exact forall_mem_append.mpr
        ⟨h.forwarded, forall_mem_singleton.mpr ⟨hacc, hphase⟩⟩
    · intro reply hreply
      obtain ⟨hmem, hpeer, hans⟩ := h.replies reply hreply
      exact ⟨hmem, hpeer, fun f hf => ⟨mem_append_left _ (hans f hf).1, (hans f hf).2⟩⟩
  | done => exact h

lemma Sound.forwardStep (i : Nat) (world : TaskWorld) :
    Sound text assoc (r.forwardStep text assoc i world) := by
  unfold UdpRelay.forwardStep
  split
  · next task htask => exact h.taskStep htask world
  · exact h

lemma Sound.of_answered (hpump : pump ∈ r.opened)
    (hf : f ∈ r.answered pump answers) : f ∈ r.forwarded ∧ f.session = pump := by
  obtain ⟨hmem, hid⟩ := Option.mem_filter_iff.mp hf
  obtain ⟨k, -, hk⟩ := Option.bind_eq_some_iff.mp hmem
  have hforw := mem_of_getElem? hk
  exact ⟨hforw, h.eq_of_id (h.forwarded f hforw).2.1 hpump (eq_of_beq hid)⟩

lemma Sound.replyStep (id : Nat) (answers : Option Nat) (source : Endpoint) (payload : Bytes) :
    Sound text assoc (r.replyStep text id answers source payload) := by
  unfold UdpRelay.replyStep
  split
  · exact h
  · next pump hfind =>
      have hpump := h.pumps pump (mem_of_find?_eq_some hfind)
      refine { h with replies := forall_mem_append.mpr ⟨h.replies, ?_⟩ }
      exact forall_mem_singleton.mpr ⟨hpump, rfl, fun f hf => h.of_answered hpump hf⟩

lemma Sound.closeStep : Sound text assoc r.closeStep := by
  refine { h with tasks := fun task htask => ?_ }
  obtain ⟨old, hold, rfl⟩ := mem_map.mp htask
  exact ⟨(h.tasks old hold).1, True.intro⟩

lemma Sound.step (concurrency : Nat) (s : UdpStep) :
    Sound text assoc (r.step text assoc concurrency s).1 := by
  cases s with
  | receive source packet => exact h.receiveStep concurrency source packet
  | forward i world => exact h.forwardStep i world
  | reply id answers source payload => exact h.replyStep id answers source payload
  | pumpEnd id =>
    exact { h with pumps := fun s hs => h.pumps s (mem_filter.mp hs).1 }
  | close => exact h.closeStep

end

lemma sound_after (concurrency : Nat) (steps : List UdpStep) :
    Sound text assoc (after text assoc concurrency steps) :=
  run_state_invariant (fun _ s h => h.step concurrency s) _ steps sound_start

/-- However the tasks interleave: a datagram is only forwarded for an owner of the association,
on a session granted for its own target, and replies of such sessions only go to owners. -/
theorem forwarded_only_if_granted (concurrency : Nat) (steps : List UdpStep) :
    let r := after text assoc concurrency steps
    (∀ f ∈ r.forwarded, assoc.ownsPeer f.source = true ∧ f.session.target = f.datagram.target ∧
      Granted text assoc f.datagram.target f.session.judgement f.session.request) ∧
    ∀ reply ∈ r.replies, assoc.ownsPeer reply.peer = true ∧
      Granted text assoc reply.session.target reply.session.judgement reply.session.request := by
  intro r
  have h : Sound text assoc r := sound_after concurrency steps
  constructor
  · intro f hf
    obtain ⟨hacc, hopened, htarget⟩ := h.forwarded f hf
    exact ⟨h.accepted _ hacc, htarget, htarget ▸ h.granted _ hopened⟩
  · intro reply hreply
    obtain ⟨hopened, hpeer, -⟩ := h.replies reply hreply
    obtain ⟨d, hd, hsource, -⟩ := h.openers _ hopened
    rw [hpeer, ← hsource]
    exact ⟨h.accepted d hd, h.granted _ hopened⟩

end
end UdpRelay

/-! ## The source that the policy sees -/

def Judgement.SourceIs (text : IpText) (ip : IpAddr) : Judgement → Prop
  | .unasked => True
  | .rules ctx => ctx.srcIp = some ip
  | .pipeline event => event.meta_.net.srcIp = some (text.display ip)

/-- A datagram was judged by the address that it came from: it is the address in the context
or the event, and the sender would be granted the session under its own address. -/
structure Forwarded.JudgedBySource (text : IpText) (assoc : UdpAssociation) (f : Forwarded) :
    Prop where
  source : f.session.judgement.SourceIs text f.source.ip
  granted : UdpRelay.Granted text { assoc with peer := f.source } f.datagram.target
    f.session.judgement f.session.request

section
variable {assoc : UdpAssociation}

lemma sourceIs_of_granted (h : UdpRelay.Granted text assoc target judgement request) :
    judgement.SourceIs text assoc.peer.ip := by
  obtain ⟨runPipeline, hjudge⟩ := h
  unfold UdpAssociation.judge at hjudge
  extract_lets base at hjudge
  split at hjudge
  · obtain ⟨rfl, -⟩ := Prod.mk.inj hjudge
    rfl
  · split at hjudge
    · obtain ⟨rfl, -⟩ := Prod.mk.inj hjudge
      rfl
    · obtain ⟨rfl, -⟩ := Prod.mk.inj hjudge
      exact True.intro

lemma judgedBySource_of_bound (hbound : ∀ peer, assoc.ownsPeer peer = true → peer = assoc.peer)
    {concurrency : Nat} {steps : List UdpStep}
    (hf : f ∈ (after text assoc concurrency steps).forwarded) : f.JudgedBySource text assoc := by
  have hsound : UdpRelay.Sound text assoc _ := sound_after concurrency steps
  obtain ⟨hacc, hopnd, htgt⟩ := hsound.forwarded f hf
  have hpeer : f.source = assoc.peer := hbound _ (hsound.accepted _ hacc)
  have hgran := hsound.granted _ hopnd
  rw [htgt] at hgran
  refine ⟨?_, ?_⟩
  · rw [hpeer]
    exact sourceIs_of_granted hgran
  · rw [hpeer]
    exact hgran

lemma bound_of_specified (hport : assoc.peer.port ≠ 0)
    (hip : isUnspecified assoc.peer.ip = false) (peer : SocketAddr)
    (howns : assoc.ownsPeer peer = true) : peer = assoc.peer := by
  rw [UdpAssociation.ownsPeer, hip, Bool.or_false, or_eq_true] at howns
  rcases howns with hzero | hpeer
  · exact absurd (eq_of_beq hzero) hport
  · exact eq_of_beq hpeer

lemma new_eq_some (h : UdpAssociation.new text declared policy hasPipeline user = some assoc) :
    text.parse declared.host = some assoc.peer.ip ∧ assoc.peer.port = declared.port := by
  obtain ⟨ip, hip, hnew⟩ := Option.bind_eq_some_iff.mp h
  cases hnew
  exact ⟨hip, rfl⟩

lemma udpAssociate_eq_some {control : SocketAddr}
    (h : (udpAssociate text io control declared policy hasPipeline user).2 = some assoc) :
    UdpAssociation.new text declared policy hasPipeline user = some assoc := by
  unfold udpAssociate at h
  split at h
  · cases h
  split at h
  · cases h
  split at h
  · cases h
  extract_lets replies at h
  split at h
  · cases h
  split at h
  · next hnew => rw [hnew, ← h]
  · cases h

end

/-! ### A datagram from somewhere else -/

/-- A datagram to port 80 of the host `a`. -/
def strayPacket : Bytes := [0, 0, 0, 0x03, 1, 97, 0, 80, 7]

lemma a_nonempty : "a" ≠ "" := by decide

lemma a_fits : (utf8 "a").length ≤ 255 := by decide +kernel

def strayDatagram : UdpDatagram := ⟨⟨"a", 80, a_nonempty, a_fits, Proto.http_ne_zero⟩, [7]⟩

def calmWorld : TaskWorld := ⟨fun _ => none, true, 0⟩

/-- The datagram comes, and its task goes through to its end. -/
def straySteps (source : SocketAddr) : List UdpStep :=
  .receive source strayPacket :: replicate 4 (.forward 0 calmWorld)

lemma forwarded_straySteps {text : IpText} {assoc : UdpAssociation} {policy : RulePolicy}
    {source : SocketAddr} {request : BusSessionRequest} (hpipe : assoc.hasPipeline = false)
    (hpolicy : assoc.policy = some policy) (howns : assoc.ownsPeer source = true)
    (hallowed : legacyDecision policy
      (buildUdpPacketCtx text assoc.peer strayDatagram.target assoc.authenticatedUser)
      (udpPacket.base text assoc.peer strayDatagram.target) = .allow request) :
    (UdpRelay.after text assoc 1 (straySteps source)).forwarded =
      [⟨source, strayDatagram, ⟨0, strayDatagram.target, source, request,
        .rules (buildUdpPacketCtx text assoc.peer strayDatagram.target
          assoc.authenticatedUser)⟩⟩] := by
  have hrec : ({} : UdpRelay).receiveStep text assoc 1 source strayPacket =
      { tasks := [{ source, datagram := strayDatagram }]
        accepted := [(source, strayDatagram)] } := by
    rw [UdpRelay.receiveStep, howns]
    rfl
  have hjudge : assoc.judge text calmWorld.runPipeline strayDatagram.target =
      (.rules (buildUdpPacketCtx text assoc.peer strayDatagram.target assoc.authenticatedUser),
        some request) := by
    simp only [UdpAssociation.judge, hpipe, hpolicy, hallowed, false_eq_true, if_false]
  rw [UdpRelay.after, straySteps, run_cons]
  simp only [step, hrec]
  rw [replicate, run_cons, replicate, run_cons]
  simp only [step, forwardStep, getElem?_cons_zero, taskStep]
  rw [AList.lookup_empty]
  simp only [setPhase, set_cons_zero, getElem?_cons_zero, hjudge]
  rfl

def permissive : RulePolicy := ⟨⟨[], .allow⟩, ∅⟩

lemma legacyDecision_permissive {ctx : RuleCtx} {base : BusSessionRequest} :
    legacyDecision permissive ctx base = .allow base := rfl

def freeIo (relayAddr : Endpoint) : ControlIo := ⟨true, some relayAddr, true⟩

lemma udpAssociate_permissive (hip : text.parse declared.host = some ip) {control : SocketAddr} :
    (udpAssociate text (freeIo declared) control declared (some permissive) false none).2 =
      some ⟨⟨ip, declared.port⟩, some permissive, false, none⟩ := by
  simp only [udpAssociate, associateAllowed, legacyDecision_permissive, UdpAssociation.new, hip]
  rfl

/-- The policy sees the real sender of every datagram, whatever the association, exactly for
a declared address that is not the unspecified one. -/
theorem datagram_judged_by_source_iff (text : IpText) (declared : Endpoint) :
    (∀ io control policy hasPipeline user assoc,
      (udpAssociate text io control declared policy hasPipeline user).2 = some assoc →
        ∀ concurrency steps, ∀ f ∈ (after text assoc concurrency steps).forwarded,
          f.JudgedBySource text assoc) ↔
      ∀ ip, text.parse declared.host = some ip → isUnspecified ip = false := by
  constructor
  · intro hall ip hip
    by_contra hunsp
    have hwild : isUnspecified ip = true := by simpa using hunsp
    let assoc : UdpAssociation := ⟨⟨ip, declared.port⟩, some permissive, false, none⟩
    have howns : assoc.ownsPeer clientAddr = true := by
      simp only [assoc, UdpAssociation.ownsPeer, hwild, Bool.or_true, Bool.true_or]
    have hforw := @forwarded_straySteps text assoc _ _ _ rfl rfl howns rfl
    have hjudged := hall (freeIo declared) clientAddr _ _ _ assoc
      (udpAssociate_permissive hip) 1 (straySteps clientAddr) _
      (hforw ▸ mem_singleton_self _)
    have hsrc : some ip = some clientAddr.ip := hjudged.source
    rw [Option.some.inj hsrc] at hwild
    exact absurd hwild (by decide)
  · intro hspec io control policy hasPipeline user assoc hassoc concurrency steps f hf
    obtain ⟨hip, hport⟩ := new_eq_some (udpAssociate_eq_some hassoc)
    refine judgedBySource_of_bound ?_ hf
    exact bound_of_specified (hport ▸ declared.port_ne_zero) (hspec _ hip)

def wildcardPeer : Endpoint := ⟨"0.0.0.0", 40000, by decide, by decide +kernel, by decide⟩

def barsClient : RulePolicy where
  chain :=
    ⟨[⟨none, .all [.term (.srcIpEq clientAddr.ip), .term (.dstPortEq 80)], .deny⟩], .allow⟩
  registry := ∅

def wildcardAssociation : UdpAssociation :=
  ⟨⟨ipv4 [0, 0, 0, 0], 40000⟩, some barsClient, false, none⟩

/-- A client that declares the unspecified address sends what the policy bars it from. -/
theorem barred_datagram_forwarded :
    (udpAssociate decimalText (freeIo wildcardPeer) clientAddr wildcardPeer (some barsClient)
        false none).2 = some wildcardAssociation ∧
      ∃ f ∈ (after decimalText wildcardAssociation 1 (straySteps clientAddr)).forwarded,
        f.source = clientAddr ∧ ¬ f.session.judgement.SourceIs decimalText clientAddr.ip ∧
          legacyDecision barsClient (buildUdpPacketCtx decimalText clientAddr f.datagram.target none)
            (udpPacket.base decimalText clientAddr f.datagram.target) = .deny := by
  refine ⟨?_, ?_⟩
  · rfl
  · have hforw := @forwarded_straySteps decimalText wildcardAssociation barsClient clientAddr
      (udpPacket.base decimalText wildcardAssociation.peer strayDatagram.target)
      rfl rfl (by decide +kernel) (by decide +kernel)
    refine ⟨_, hforw ▸ mem_singleton_self _, rfl, ?_, by decide +kernel⟩
    intro hsrc
    have hip : some wildcardAssociation.peer.ip = some clientAddr.ip := hsrc
    exact absurd hip (by decide)

/-! ## Where the replies go -/

/-- A datagram goes out on the session of an address that opened it itself. -/
def UdpRelay.OwnSession (r : UdpRelay) : UdpStep → Prop
  | .forward i _ => ∀ task ∈ r.tasks[i]?, ∀ session, task.phase = .send session →
      session.opener = task.source
  | _ => True

def UdpRelay.RepliesToSenders (r : UdpRelay) : Prop :=
  ∀ reply ∈ r.replies, ∃ d ∈ r.accepted, d.1 = reply.peer ∧ d.2.target = reply.session.target

/-- A reply to a forwarded datagram goes to the address that sent it. -/
def UdpRelay.AnswersSender (r : UdpRelay) : Prop :=
  ∀ reply ∈ r.replies, ∀ f ∈ reply.answers, reply.peer = f.source

section
variable {text : IpText} {assoc : UdpAssociation} {r : UdpRelay}

/-- What was forwarded went out on the sender's own session. -/
def UdpRelay.OwnForwarded (r : UdpRelay) : Prop :=
  ∀ f ∈ r.forwarded, f.session.opener = f.source

lemma forwarded_taskStep (i : Nat) (task : ForwardTask) (world : TaskWorld) :
    (r.taskStep text assoc i task world).forwarded = r.forwarded ∨
      ∃ session, task.phase = .send session ∧ (r.taskStep text assoc i task world).forwarded =
          r.forwarded ++ [⟨task.source, task.datagram, session⟩] := by
  unfold taskStep
  cases hphase : task.phase with
  | send session => exact .inr ⟨session, rfl, rfl⟩
  | opening request judgement =>
    refine .inl ?_
    dsimp only
    split
    · rfl
    · split <;> rfl
  | done => exact .inl rfl
  | _ =>
    refine .inl ?_
    dsimp only
    split <;> rfl

lemma ownForwarded_step (h : r.OwnForwarded) (hown : r.OwnSession s) :
    (r.step text assoc concurrency s).1.OwnForwarded := by
  cases s with
  | receive source packet =>
    show (r.receiveStep text assoc concurrency source packet).OwnForwarded
    unfold receiveStep
    split
    · exact h
    · split <;> exact h
  | forward i world =>
    show (r.forwardStep text assoc i world).OwnForwarded
    unfold forwardStep
    split
    · next task htask =>
        rcases @forwarded_taskStep text assoc r i task world with hsame | ⟨session, hphase, hnew⟩
        · exact fun f hf => h f (hsame ▸ hf)
        · intro f hf
          rw [hnew] at hf
          rcases mem_append.mp hf with hold | hlast
          · exact h f hold
          · rw [mem_singleton.mp hlast]
            exact hown task htask session hphase
    · exact h
  | reply id answers source payload =>
    show (r.replyStep text id answers source payload).OwnForwarded
    unfold replyStep
    split <;> exact h
  | _ => exact h

lemma ownForwarded_after
    (hown : Along (step text assoc concurrency) (fun _ r s => r.OwnSession s) [] {} steps) :
    (after text assoc concurrency steps).OwnForwarded :=
  @run_invariant _ _ _ (step text assoc concurrency) (fun _ r => r.OwnForwarded)
    (fun _ r s => r.OwnSession s) (fun _ _ _ h hok => ownForwarded_step h hok) steps []
    {} (forall_mem_nil _) hown

/-- Replies go to senders of the target in every run, and to the sender they answer as long as
no datagram goes out on a session that another address has opened. -/
theorem replies_go_to_senders (text : IpText) (assoc : UdpAssociation) (concurrency : Nat)
    (steps : List UdpStep) :
    (after text assoc concurrency steps).RepliesToSenders ∧
      (Along (step text assoc concurrency) (fun _ r s => r.OwnSession s) [] {} steps →
        (after text assoc concurrency steps).AnswersSender) := by
  have hsound : UdpRelay.Sound text assoc (after text assoc concurrency steps) :=
    sound_after concurrency steps
  constructor
  · intro reply hreply
    obtain ⟨hopnd, hpeer, -⟩ := hsound.replies reply hreply
    rw [hpeer]
    exact hsound.openers _ hopnd
  · intro hown reply hreply f hf
    obtain ⟨-, hpeer, hans⟩ := hsound.replies reply hreply
    obtain ⟨hforw, hsess⟩ := hans f hf
    rw [hpeer, ← hsess]
    exact ownForwarded_after hown f hforw

end

def secondClient : SocketAddr := ⟨ipv4 [10, 0, 0, 10], 50000⟩

def openAssociation : UdpAssociation := { wildcardAssociation with policy := none }

def sharedSteps : List UdpStep :=
  straySteps clientAddr ++
    [.receive secondClient strayPacket, .forward 1 calmWorld, .forward 1 calmWorld,
      .reply 0 (some 1) strayDatagram.target [8]]

/-- The answer to the second client goes to the first. -/
theorem answer_sent_to_other_client :
    (after decimalText openAssociation 1 sharedSteps).replies.map
        (fun reply => (reply.peer, reply.answers.map Forwarded.source)) =
      [(clientAddr, some secondClient)] ∧
      ¬ (after decimalText openAssociation 1 sharedSteps).AnswersSender := by
  have hrepl : (after decimalText openAssociation 1 sharedSteps).replies.map
      (fun reply => (reply.peer, reply.answers.map Forwarded.source)) =
        [(clientAddr, some secondClient)] := by decide +kernel
  refine ⟨hrepl, fun h => ?_⟩
  obtain ⟨reply, hreply, hpair⟩ := mem_map.mp
    (hrepl ▸ mem_singleton_self (clientAddr, some secondClient))
  obtain ⟨hpeer, hans⟩ := Prod.mk.inj hpair
  obtain ⟨f, hf, hsrc⟩ := Option.map_eq_some_iff.mp hans
  have hsame := h reply hreply f hf
  rw [hpeer, hsrc] at hsame
  exact absurd hsame (by decide)

end MeshBus.Socks5
