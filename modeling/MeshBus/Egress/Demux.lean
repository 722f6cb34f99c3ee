import Mathlib.Data.List.Infix
import MeshBus.Bus
import MeshBus.Lib.Channel
import MeshBus.Lib.Run
import MeshBus.Proto.Frame

/-!
# The stream driver and its reader

The driver of a stream session puts decoded payloads and end-of-stream events on
two bounded channels; `recv` of the session's read half takes them off.  The two
run as separate tasks, so a run interleaves the driver's frames with the steps of
`recv` at every access to what they share.
-/

namespace MeshBus.Egress

open Lib Proto List Channel

def streamControlBound : Nat := 32
def streamDataBound : Nat := 256
def streamEventBound : Nat := 16

inductive StreamControl where
  | openAccepted (openToken : UInt64)
  | openRejected (openToken : UInt64) (closeReason : CloseReasonWire)
  deriving DecidableEq

inductive StreamEvent where
  | shutdownWrite
  | close (reason : CloseReasonWire)
  | queueFull
  deriving DecidableEq

def wireCloseToDisconnect : CloseReasonWire → DisconnectReason
  | .normal => .sessionClosed
  | .unsupported => .other "Unsupported"
  | .protocolError => .other "ProtocolError"
  | .noUsableExit => .noUsableExit

/-- Where a call to `recv` stands. -/
inductive RecvPoint where
  /-- Not called, or about to look at `pending`. -/
  | idle
  /-- About to try the data channel. -/
  | tryData
  /-- About to look at the remembered event and at `closed`. -/
  | tryTerminal
  /-- Waiting in `select!`. -/
  | waiting
  /-- Took an event; moving what is left of the data to `pending`. -/
  | draining (event : StreamEvent)
  deriving DecidableEq

/-- A stream session: its channels, and the read half. -/
structure StreamSession where
  sessionId : String
  /-- The control channel; `none` once `split` has dropped its receiver. -/
  control : Option (Channel StreamControl streamControlBound)
  data : Channel Bytes streamDataBound
  events : Channel StreamEvent streamEventBound
  /-- Whether the driver task still runs. -/
  driving : Bool
  /-- The value of the `closed` watch, and whether its sender is gone. -/
  closed : Bool
  closerGone : Bool
  point : RecvPoint
  pending : List Bytes
  terminal : Option StreamEvent
  lastError : Option DisconnectReason

open StreamSession

def StreamSession.new (sessionId : String) : StreamSession where
  sessionId := sessionId
  control := some .empty
  data := .empty
  events := .empty
  driving := true
  closed := false
  closerGone := false
  point := .idle
  pending := []
  terminal := none
  lastError := none

/-- What a step does that can be seen from outside. -/
inductive StreamOutput where
  | silent
  /-- The driver decoded a payload, and the data channel had room for it or not. -/
  | decoded (payload : Bytes) (taken : Bool)
  /-- `recv` returned. -/
  | returned (payload : Option Bytes)
  deriving DecidableEq

namespace StreamSession

/-! ## The driver -/

/-- Events are dropped when their channel is full. -/
def offerEvent (s : StreamSession) (event : StreamEvent) : StreamSession :=
  { s with events := (s.events.trySend event).getD s.events }

/-- A control message that cannot be delivered ends the driver. -/
def offerControl (s : StreamSession) (control : StreamControl) : StreamSession :=
  match s.control.bind fun c => c.trySend control with
  | some c => { s with control := some c }
  | none => { s with driving := false }

def offerData (s : StreamSession) (payload : Bytes) : StreamSession × StreamOutput :=
  match s.data.trySend payload with
  | some data => ({ s with data }, .decoded payload true)
  | none => (s.offerEvent .queueFull, .decoded payload false)

/-- The driver's `match` on a decoded frame. -/
def driveFrame (s : StreamSession) : MeshFrame → StreamSession × StreamOutput
  | .streamOpenAccepted sessionId openToken =>
    if sessionId = s.sessionId then (s.offerControl (.openAccepted openToken), .silent)
    else (s, .silent)
  | .streamOpenReject sessionId openToken _ closeReason =>
    if sessionId = s.sessionId
    then (s.offerControl (.openRejected openToken closeReason), .silent)
    else (s, .silent)
  | .streamData sessionId _ payload =>
    if sessionId = s.sessionId then s.offerData payload else (s, .silent)
  | .streamShutdownWrite sessionId =>
    if sessionId = s.sessionId then (s.offerEvent .shutdownWrite, .silent) else (s, .silent)
  | .streamClose sessionId closeReason =>
    if sessionId = s.sessionId then (s.offerEvent (.close closeReason), .silent)
    else (s, .silent)
  | _ => (s, .silent)

/-! ## The read half -/

def applyStreamEvent (s : StreamSession) : StreamEvent → StreamSession
  | .shutdownWrite | .close .normal => s
  | .close reason => { s with lastError := some (wireCloseToDisconnect reason) }
  | .queueFull => { s with lastError := some .queueFull }

def answer (s : StreamSession) (payload : Option Bytes) : StreamSession × StreamOutput :=
  ({ s with point := .idle }, .returned payload)

/-- Which branch of `select!` runs, among those that are ready. -/
inductive Branch where
  | closed | data | event
  deriving DecidableEq

/-- A ready branch completes; one that is not ready leaves `recv` waiting.  A
channel whose driver is gone yields what is left, then `None`. -/
def selectBranch (s : StreamSession) : Branch → StreamSession × StreamOutput
  | .closed => if s.closed || s.closerGone then s.answer none else (s, .silent)
  | .data =>
    match s.data.tryRecv with
    | some (payload, data) => { s with data }.answer (some payload)
    | none => if s.driving then (s, .silent) else s.answer none
  | .event =>
    match s.events.tryRecv with
    | some (event, events) => ({ s with events, point := .draining event }, .silent)
    | none => if s.driving then (s, .silent) else s.answer none

/-- The next access of a call to `recv`. -/
def recvStep (s : StreamSession) (branch : Branch) : StreamSession × StreamOutput :=
  match s.point with
  | .idle =>
    match s.pending with
    | payload :: pending => { s with pending }.answer (some payload)
    | [] => ({ s with point := .tryData }, .silent)
  | .tryData =>
    match s.data.tryRecv with
    | some (payload, data) => { s with data }.answer (some payload)
    | none => ({ s with point := .tryTerminal }, .silent)
  | .tryTerminal =>
    match s.terminal with
    | some event => ({ s with terminal := none }.applyStreamEvent event).answer none
    | none => if s.closed then s.answer none else ({ s with point := .waiting }, .silent)
  | .waiting => s.selectBranch branch
  | .draining event =>
    match s.data.tryRecv with
    | some (payload, data) =>
      ({ s with data, pending := s.pending ++ [payload] }, .silent)
    | none =>
      match s.pending with
      | payload :: pending => { s with pending, terminal := some event }.answer (some payload)
      | [] => (s.applyStreamEvent event).answer none

/-! ## Runs -/

inductive Action where
  /-- The driver handles a decoded frame. -/
  | drive (frame : MeshFrame)
  /-- The driver's loop ends. -/
  | driverExit
  /-- `connect` takes a control message. -/
  | takeControl
  | split
  /-- The other half aborts. -/
  | close
  /-- The other half is dropped. -/
  | dropCloser
  | recv (branch : Branch)
  /-- The caller gives up on a `recv` that waits. -/
  | cancel

def step (s : StreamSession) : Action → StreamSession × StreamOutput
  | .drive frame => if s.driving then s.driveFrame frame else (s, .silent)
  | .driverExit => ({ s with driving := false }, .silent)
  | .takeControl =>
    match s.control.bind fun c => c.tryRecv with
    | some (_, c) => ({ s with control := some c }, .silent)
    | none => (s, .silent)
  | .split => ({ s with control := none }, .silent)
  | .close => ({ s with closed := true }, .silent)
  | .dropCloser => ({ s with closerGone := true }, .silent)
  | .recv branch => s.recvStep branch
  | .cancel => if s.point = .waiting then ({ s with point := .idle }, .silent) else (s, .silent)

/-! ## What a step does to the payloads -/

/-- The payloads on their way to the reader, next one first. -/
def queued (s : StreamSession) : List Bytes := s.pending ++ s.data.items

/-- `recv` only goes on to the channels when nothing is pending. -/
def Settled (s : StreamSession) : Prop :=
  s.point = .tryData ∨ s.point = .tryTerminal ∨ s.point = .waiting → s.pending = []

def Moves (before after : List Bytes) : StreamOutput → Prop
  | .silent | .decoded _ false | .returned none => after = before
  | .decoded payload true => after = before ++ [payload]
  | .returned (some payload) => before = payload :: after

@[simp] lemma queued_offerEvent (s : StreamSession) (event : StreamEvent) :
    (s.offerEvent event).queued = s.queued := rfl

@[simp] lemma queued_offerControl {s : StreamSession} (control : StreamControl) :
    (s.offerControl control).queued = s.queued := by
  unfold offerControl
  split <;> rfl

@[simp] lemma queued_applyStreamEvent (s : StreamSession) (event : StreamEvent) :
    (s.applyStreamEvent event).queued = s.queued := by
  unfold applyStreamEvent
  split <;> rfl

lemma settled_answer {s : StreamSession} (payload : Option Bytes) :
    (s.answer payload).1.Settled := by
  simp [Settled, answer]

/-- The driver drops a frame, or makes one offer. -/
inductive Driven (s : StreamSession) : MeshFrame → StreamSession × StreamOutput → Prop where
  | skipped (frame : MeshFrame) : Driven s frame (s, .silent)
  | event (frame : MeshFrame) (event : StreamEvent) : Driven s frame (s.offerEvent event, .silent)
  | control (frame : MeshFrame) (control : StreamControl) :
      Driven s frame (s.offerControl control, .silent)
  | data (seq : UInt64) (payload : Bytes) :
      Driven s (.streamData s.sessionId seq payload) (s.offerData payload)

lemma driveFrame_driven (s : StreamSession) (frame : MeshFrame) :
    Driven s frame (s.driveFrame frame) := by
  unfold driveFrame
  split
  · split
    · exact .control _ _
    · exact .skipped _
  · split
    · exact .control _ _
    · exact .skipped _
  · split
    · rename_i hid
      rw [hid]
      exact .data _ _
    · exact .skipped _
  · split
    · exact .event _ _
    · exact .skipped _
  · split
    · exact .event _ _
    · exact .skipped _
  · exact .skipped _

lemma driveFrame_moves {s : StreamSession} :
    Moves s.queued (s.driveFrame frame).1.queued (s.driveFrame frame).2 := by
  have hdriven := driveFrame_driven s frame
  generalize s.driveFrame frame = driven at hdriven ⊢
  cases hdriven with
  | skipped => rfl
  | event _ event => exact queued_offerEvent s event
  | control _ control => exact queued_offerControl control
  | data seq payload =>
    unfold offerData
    split
    · rename_i data hsend
      simp [Moves, queued, items_of_trySend hsend]
    · exact queued_offerEvent s .queueFull

variable {s : StreamSession}

lemma settled_driveFrame (h : s.Settled) {frame : MeshFrame} :
    (s.driveFrame frame).1.Settled := by
  have hdriven := driveFrame_driven s frame
  generalize s.driveFrame frame = driven at hdriven ⊢
  cases hdriven with
  | control _ control =>
    unfold offerControl
    split <;> exact h
  | data seq payload =>
    unfold offerData
    split <;> exact h
  | _ => exact h

lemma moves_data (hpend : s.pending = [])
    {data : Channel Bytes streamDataBound} (hrecv : s.data.tryRecv = some (payload, data)) :
    Moves s.queued ({ s with data }.answer (some payload)).1.queued (.returned (some payload)) := by
  simp [Moves, queued, answer, hpend, items_of_tryRecv hrecv]

lemma selectBranch_moves (hpoint : s.point = .waiting) (h : s.Settled) (branch : Branch) :
    Moves s.queued (s.selectBranch branch).1.queued (s.selectBranch branch).2 ∧
      (s.selectBranch branch).1.Settled := by
  have hpend : s.pending = [] := h (Or.inr (Or.inr hpoint))
  cases branch with
  | closed =>
    unfold selectBranch
    dsimp only
    split
    · exact ⟨rfl, settled_answer _⟩
    · exact ⟨rfl, h⟩
  | data =>
    unfold selectBranch
    dsimp only
    split
    · rename_i hrecv
      exact ⟨moves_data hpend hrecv, settled_answer _⟩
    · split
      · exact ⟨rfl, h⟩
      · exact ⟨rfl, settled_answer _⟩
  | event =>
    unfold selectBranch
    dsimp only
    split
    · exact ⟨rfl, by simp [Settled]⟩
    · split
      · exact ⟨rfl, h⟩
      · exact ⟨rfl, settled_answer _⟩

lemma recvStep_moves (h : s.Settled) {branch : Branch} :
    Moves s.queued (s.recvStep branch).1.queued (s.recvStep branch).2 ∧
      (s.recvStep branch).1.Settled := by
  unfold recvStep
  split
  · split
    · rename_i hpend
      exact ⟨by simp [Moves, queued, answer, hpend], settled_answer _⟩
    · rename_i hpend
      exact ⟨rfl, fun _ => hpend⟩
  · rename_i hpoint
    have hpend : s.pending = [] := h (Or.inl hpoint)
    split
    · rename_i hrecv
      exact ⟨moves_data hpend hrecv, settled_answer _⟩
    · exact ⟨rfl, fun _ => hpend⟩
  · rename_i hpoint
    have hpend : s.pending = [] := h (Or.inr (Or.inl hpoint))
    split
    · refine ⟨?_, settled_answer _⟩
      exact queued_applyStreamEvent { s with terminal := none } _
    · split
      · exact ⟨rfl, settled_answer _⟩
      · exact ⟨rfl, fun _ => hpend⟩
  · rename_i hpoint
    exact selectBranch_moves hpoint h branch
  · rename_i event hpoint
    split
    · rename_i hrecv
      refine ⟨by simp [Moves, queued, items_of_tryRecv hrecv], ?_⟩
      simp [Settled, hpoint]
    · split
      · rename_i hpend
        exact ⟨by simp [Moves, queued, answer, hpend], settled_answer _⟩
      · exact ⟨queued_applyStreamEvent s _, settled_answer _⟩

lemma step_moves (h : s.Settled) {action : Action} :
    Moves s.queued (s.step action).1.queued (s.step action).2 ∧ (s.step action).1.Settled := by
  cases action with
  | drive frame =>
    unfold step
    dsimp only
    split
    · exact ⟨driveFrame_moves, settled_driveFrame h⟩
    · exact ⟨rfl, h⟩
  | takeControl =>
    unfold step
    dsimp only
    split <;> exact ⟨rfl, h⟩
  | recv branch => exact recvStep_moves h
  | cancel =>
    unfold step
    dsimp only
    split
    · exact ⟨rfl, by simp [Settled]⟩
    · exact ⟨rfl, h⟩
  | _ => exact ⟨rfl, h⟩

/-! ## The reader gets a prefix -/

def decodedPayloads (outputs : List StreamOutput) : List Bytes :=
  outputs.filterMap fun
    | .decoded payload _ => some payload
    | _ => none

/-- Those the data channel had room for. -/
def takenPayloads (outputs : List StreamOutput) : List Bytes :=
  outputs.filterMap fun
    | .decoded payload true => some payload
    | _ => none

def returnedPayloads (outputs : List StreamOutput) : List Bytes :=
  outputs.filterMap fun
    | .returned payload => payload
    | _ => none

/-- What happens before `recv` first returns `None`. -/
def beforeEnd (outputs : List StreamOutput) : List StreamOutput :=
  outputs.takeWhile fun output => output ≠ .returned none

def isRefusal : StreamOutput → Bool
  | .decoded _ taken => !taken
  | _ => false

/-- Stream data finds room after earlier stream data was refused. -/
def takesAfterRefusal (outputs : List StreamOutput) (s : StreamSession) : Action → Bool
  | .drive (.streamData sessionId _ _) =>
    outputs.any isRefusal && s.driving && sessionId = s.sessionId &&
      s.data.items.length < streamDataBound
  | _ => false

/-- A payload is only taken from a frame of the session, by a running driver, with
room in the channel. -/
lemma taken_of_step (h : (s.step action).2 = .decoded payload true) :
    ∃ seq, action = .drive (.streamData s.sessionId seq payload) ∧ s.driving = true ∧
      s.data.items.length < streamDataBound := by
  cases action with
  | drive frame =>
    unfold step at h
    dsimp only at h
    split at h
    · rename_i hdriv
      have hdriven := driveFrame_driven s frame
      generalize s.driveFrame frame = driven at hdriven h
      cases hdriven with
      | data seq payload' =>
        unfold offerData at h
        split at h
        · rename_i data hsend
          cases h
          refine ⟨seq, rfl, hdriv, ?_⟩
          unfold trySend at hsend
          split at hsend
          · assumption
          · cases hsend
        · cases h
      | _ => cases h
    · cases h
  | recv branch =>
    unfold step recvStep selectBranch at h
    dsimp only at h
    repeat' split at h
    all_goals cases h
  | driverExit => cases h
  | split => cases h
  | close => cases h
  | dropCloser => cases h
  | _ =>
    unfold step at h
    dsimp only at h
    split at h <;> cases h

/-- Everything taken is returned or queued, in the order it was decoded; and
everything decoded is taken until the first refusal. -/
structure Accounted (outputs : List StreamOutput) (s : StreamSession) : Prop where
  settled : s.Settled
  queue : returnedPayloads outputs ++ s.queued = takenPayloads outputs
  ordered : takenPayloads outputs <+: decodedPayloads outputs
  complete : outputs.any isRefusal = false →
    takenPayloads outputs = decodedPayloads outputs

lemma Accounted.new (sessionId : String) : Accounted [] (StreamSession.new sessionId) where
  settled := by simp [Settled, StreamSession.new]
  queue := rfl
  ordered := prefix_refl _
  complete := fun _ => rfl

lemma Accounted.step {outputs : List StreamOutput} (h : Accounted outputs s) (action : Action)
    (hok : takesAfterRefusal outputs s action = false) :
    Accounted (outputs ++ [(s.step action).2]) (s.step action).1 := by
  obtain ⟨hmoves, hsett⟩ := step_moves h.settled
  have hqueue := h.queue
  cases hout : (s.step action).2 with
  | silent =>
    rw [hout] at hmoves
    refine ⟨hsett, ?_, ?_, ?_⟩
    · rw [hmoves]
      simpa [returnedPayloads, takenPayloads] using hqueue
    · simpa [takenPayloads, decodedPayloads] using h.ordered
    · intro hall
      simpa [takenPayloads, decodedPayloads] using
        h.complete (by simpa [isRefusal] using hall)
  | returned payload =>
    rw [hout] at hmoves
    refine ⟨hsett, ?_, ?_, ?_⟩
    · cases payload with
      | none =>
        rw [hmoves]
        simpa [returnedPayloads, takenPayloads] using hqueue
      | some payload =>
        rw [hmoves] at hqueue
        simpa [returnedPayloads, takenPayloads] using hqueue
    · simpa [takenPayloads, decodedPayloads] using h.ordered
    · intro hall
      simpa [takenPayloads, decodedPayloads] using
        h.complete (by simpa [isRefusal] using hall)
  | decoded payload taken =>
    rw [hout] at hmoves
    cases taken with
    | false =>
      refine ⟨hsett, ?_, ?_, ?_⟩
      · rw [hmoves]
        simpa [returnedPayloads, takenPayloads] using hqueue
      · have hord := h.ordered.trans
          (prefix_append (decodedPayloads outputs) [payload])
        simpa [takenPayloads, decodedPayloads] using hord
      · intro hall
        simp [isRefusal] at hall
    | true =>
      obtain ⟨seq, rfl, hdriv, hroom⟩ := taken_of_step hout
      -- Nothing was refused before, or the guard would forbid this step.
      have hnone : outputs.any isRefusal = false := by
        simpa [takesAfterRefusal, hdriv, hroom] using hok
      have htaken : takenPayloads (outputs ++ [.decoded payload true]) =
          decodedPayloads (outputs ++ [.decoded payload true]) := by
        simpa [takenPayloads, decodedPayloads] using h.complete hnone
      refine ⟨hsett, ?_, ?_, fun _ => htaken⟩
      · have hlonger := congrArg (fun payloads => payloads ++ [payload]) hqueue
        rw [hmoves]
        simpa [returnedPayloads, takenPayloads] using hlonger
      · rw [htaken]

/-- Unless the channel takes stream data after it refused some, the reader gets a
prefix of what the driver decoded, however the two are interleaved. -/
theorem returned_prefix_decoded (sessionId : String) (actions : List Action)
    (hok : Along step (fun past s action => takesAfterRefusal (past.map Prod.snd) s action = false)
      [] (new sessionId) actions) :
    (returnedPayloads (beforeEnd (run step (new sessionId) actions).2)).flatten <+:
      (decodedPayloads (run step (new sessionId) actions).2).flatten := by
  have hstep : ∀ (past : List (Action × StreamOutput)) s action,
      Accounted (past.map Prod.snd) s → takesAfterRefusal (past.map Prod.snd) s action = false →
      Accounted ((past ++ [(action, (step s action).2)]).map Prod.snd) (step s action).1 := by
    intro past s action h hguard
    simpa using h.step action hguard
  have hrun := run_invariant hstep actions [] _ (Accounted.new sessionId) hok
  rw [nil_append, map_snd_history] at hrun
  generalize (run step (new sessionId) actions).2 = outputs at hrun ⊢
  have hbef : returnedPayloads (beforeEnd outputs) <+: returnedPayloads outputs :=
    ( takeWhile_prefix _).filterMap _
  have hret : returnedPayloads outputs <+: takenPayloads outputs := by
    rw [← hrun.queue]
    exact prefix_append _ _
  exact ((hbef.trans hret).trans hrun.ordered).flatten

/-! ## A full channel -/

def chunk (b : UInt8) : Action := .drive (.streamData "s-1" 1 [b])

/-- Two chunks and the end of the stream, read while they arrive. -/
theorem returned_prefix_decoded_short :
    (returnedPayloads (beforeEnd (run step (new "s-1")
      [chunk 1, .recv .data, .recv .data, chunk 2, .drive (.streamShutdownWrite "s-1"),
        .recv .data, .recv .data]).2)).flatten <+: [1, 2] :=
  returned_prefix_decoded "s-1" _ (by decide)

/-- The driver fills the channel, chunk 2 is refused, the reader takes one payload
off, chunk 3 finds room, and the reader goes on. -/
def overrun : List Action :=
  replicate 256 (chunk 1) ++ [chunk 2, .recv .data, .recv .data, chunk 3] ++
    replicate 512 (.recv .data)

set_option maxRecDepth 4000 in
theorem overrun_skips_chunk :
    ¬ (returnedPayloads (beforeEnd (run step (new "s-1") overrun).2)).flatten <+:
      (decodedPayloads (run step (new "s-1") overrun).2).flatten := by
  decide +kernel

end StreamSession
end MeshBus.Egress
