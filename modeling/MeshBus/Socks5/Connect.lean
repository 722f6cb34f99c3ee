import MeshBus.Lib.Run
import MeshBus.Socks5.Handshake

/-!
# CONNECT

After the handshake a stream is opened for the target, the client gets its reply, and two
tasks relay: one reads from the client and sends to the bus, the other receives from the bus
and writes to the client.  The first of them to finish ends the relay, and the other one is
aborted: it stops at the next point where it waits.
-/

namespace MeshBus.Socks5

open Lib List Option
open Lib.Talk
open Net
open Proto (Endpoint)

/-! ## Opening -/

/-- What comes of the request: the pipeline drops it, it is refused with a reply, or there
is a session, with the local endpoint of its primary path. -/
inductive Opening where
  | dropped
  | refused (reply : Reply)
  | opened (bind : Option Endpoint)
deriving DecidableEq

/-- `pipe_connect`, up to the relay. -/
def openStream (text : IpText) : Opening → Talk Writer Unit
  | .dropped => stop
  | .refused reply => refuse (encodeReply reply)
  | .opened none => writeAll (encodeReply .succeeded)
  | .opened (some bind) => writeAll (encodeReplyWithEndpoint text .succeeded bind)

/-- `handle_conn`, up to the relay, for a CONNECT request. -/
def acceptConnect (text : IpText) (auth : Option AuthConfig) (opening : Opening) :
    Talk Writer Unit := do
  let handshake ← readHandshake text auth
  if handshake.request.command = .connect then openStream text opening else stop

/-! ## The two tasks -/

/-- How a task came to its end. -/
inductive TaskEnd where
  | returned | panicked | cancelled
deriving DecidableEq, Repr

/-- Where the upload task waits: for octets of the client, for the bus to take them, or for
the end of `shutdown_write`. -/
inductive Upload where
  | reading | sending | closing
  | ended (how : TaskEnd)
deriving DecidableEq, Repr

/-- Where the download task waits: for a payload of the bus, or for the client to take it. -/
inductive Download where
  | receiving | writing
  | ended (how : TaskEnd)
deriving DecidableEq, Repr

inductive Side where
  | upload | download
deriving DecidableEq, Repr

inductive CloseReason where
  | returnClosed | returnTaskFailed | clientClosed | sendTaskFailed
deriving DecidableEq, Repr

/-- Where `pipe_connect` waits: for the first task to end, or for the one it has aborted. -/
inductive Main where
  | selecting
  | joining (aborted : Side) (reason : CloseReason)
  | returned (reason : CloseReason)
deriving DecidableEq, Repr

structure Relay where
  /-- What the next reads from the client return; then it has stopped sending. -/
  reads : List Bytes
  /-- The payloads that the receiving half still yields, before `None`. -/
  inbox : List Bytes
  upload : Upload := .reading
  download : Download := .receiving
  main : Main := .selecting
  /-- The payloads that were given to the sending half. -/
  sent : List Bytes := []
  writeShut : Bool := false
  /-- What the client has got. -/
  written : Bytes := []
  /-- The part of the payload in `write_all` that the client has not taken yet. -/
  outgoing : Bytes := []
  bytesUp : UInt64 := 0
  bytesDown : UInt64 := 0
deriving DecidableEq, Repr

open Relay

/-- What happens next: a task passes the point where it waits, or panics; the `select!` sees
that a task has ended; an aborted task stops; the `await` of the aborted task returns. -/
inductive RelayStep where
  | upload (sent : Bool)
  | download (taken : Option Nat)
  | panic (side : Side)
  | select (winner : Side)
  | cancel (side : Side)
  | join
deriving DecidableEq, Repr

namespace Relay

def start (reads payloads : List Bytes) : Relay where
  reads := reads
  inbox := payloads

def endOf (r : Relay) : Side → Option TaskEnd
  | .upload => match r.upload with
      | .ended how => some how
      | _ => none
  | .download => match r.download with
      | .ended how => some how
      | _ => none

def finish (r : Relay) (how : TaskEnd) : Side → Relay
  | .upload => { r with upload := .ended how }
  | .download => { r with download := .ended how }

/-- `send_task`.  The result of a send is only looked at while the task waits for it. -/
def uploadStep (r : Relay) (sent : Bool) : Relay :=
  match r.upload with
  | .reading =>
    match r.reads with
    | (b :: bs) :: reads =>
      { r with
        reads, upload := .sending, sent := r.sent ++ [b :: bs]
        bytesUp := r.bytesUp + UInt64.ofNat (b :: bs).length }
    | _ => { r with upload := .closing, writeShut := true }
  | .sending =>
    if sent then { r with upload := .reading }
    else { r with upload := .closing, writeShut := true }
  | .closing => { r with upload := .ended .returned }
  | .ended _ => r

/-- `returns_task`.  The client takes some octets of a payload at a time, or the write fails. -/
def downloadStep (r : Relay) (taken : Option Nat) : Relay :=
  match r.download with
  | .receiving =>
    match r.inbox with
    | payload :: inbox =>
      { r with
        inbox, download := .writing, outgoing := payload
        bytesDown := r.bytesDown + UInt64.ofNat payload.length }
    | [] => { r with download := .ended .returned }
  | .writing =>
    match taken with
    | some n =>
      { r with
        written := r.written ++ r.outgoing.take n, outgoing := r.outgoing.drop n
        download := if r.outgoing.drop n = [] then .receiving else .writing }
    | none => { r with download := .ended .returned }
  | .ended _ => r

/-- `join_close_reason` of the task that was first. -/
def closeReason : Side → TaskEnd → CloseReason
  | .download, .returned => .returnClosed
  | .download, _ => .returnTaskFailed
  | .upload, .returned => .clientClosed
  | .upload, _ => .sendTaskFailed

def other : Side → Side
  | .upload => .download
  | .download => .upload

lemma eq_other (h : side' ≠ side) : side' = other side := by
  cases side' with
  | upload => cases side with
      | upload => exact absurd rfl h
      | download => rfl
  | download => cases side with
      | upload => rfl
      | download => exact absurd rfl h

@[simp] lemma other_other (side : Side) : other (other side) = side := by
  cases side with
  | _ => rfl

def selectStep (r : Relay) (winner : Side) : Relay :=
  match r.main, r.endOf winner with
  | .selecting, some how => { r with main := .joining (other winner) (closeReason winner how) }
  | _, _ => r

def aborted (r : Relay) : Option Side :=
  match r.main with
  | .joining side _ => some side
  | _ => none

def cancelStep (r : Relay) (side : Side) : Relay :=
  if r.aborted = some side ∧ r.endOf side = none then r.finish .cancelled side else r

def panicStep (r : Relay) (side : Side) : Relay :=
  if r.endOf side = none then r.finish .panicked side else r

def joinStep (r : Relay) : Relay :=
  match r.main with
  | .joining side reason =>
    if r.endOf side = none then r else { r with main := .returned reason }
  | _ => r

def step (r : Relay) : RelayStep → Relay × Unit
  | .upload sent => (r.uploadStep sent, ())
  | .download taken => (r.downloadStep taken, ())
  | .panic side => (r.panicStep side, ())
  | .select winner => (r.selectStep winner, ())
  | .cancel side => (r.cancelStep side, ())
  | .join => (r.joinStep, ())

def after (reads payloads : List Bytes) (steps : List RelayStep) : Relay :=
  (run step (start reads payloads) steps).1

/-! ## Invariants -/

def left (r : Relay) : Bytes := r.outgoing ++ r.inbox.flatten

/-- `pipe_connect` has seen that the task ended. -/
def Seen (side : Side) : Main → Prop
  | .selecting => False
  | .joining aborted _ => aborted ≠ side
  | .returned _ => True

/-- Both directions keep the order of what they relay, and lose nothing on the way. -/
structure Relays (reads payloads : List Bytes) (r : Relay) : Prop where
  up : r.sent.flatten ++ r.reads.flatten = reads.flatten
  down : r.written ++ r.left = payloads.flatten
  seen : ∀ side, Seen side r.main → r.endOf side ≠ none
  idle : r.download = .receiving → r.outgoing = []

lemma relays_start {reads payloads : List Bytes} :
    (start reads payloads).Relays reads payloads where
  up := rfl
  down := rfl
  seen := fun _ h => h.elim
  idle := fun _ => rfl

section
variable {reads payloads : List Bytes} {r : Relay}

section
variable (h : r.Relays reads payloads)
include h

lemma Relays.seen_of_live (hlive : r.endOf side = none) {r' : Relay} (hmain : r'.main = r.main)
    (hother : r'.endOf (other side) = r.endOf (other side)) :
    ∀ side, Seen side r'.main → r'.endOf side ≠ none := by
  intro side' hseen
  rw [hmain] at hseen
  by_cases hside : side' = side
  · exact absurd hlive (h.seen side (hside ▸ hseen))
  · rw [eq_other hside, hother, ← eq_other hside]
    exact h.seen side' hseen

lemma Relays.uploadStep (sent : Bool) : (r.uploadStep sent).Relays reads payloads := by
  have hseen : r.endOf .upload = none → ∀ r' : Relay, r'.main = r.main →
      r'.download = r.download → ∀ side, Seen side r'.main → r'.endOf side ≠ none := by
    intro hlive r' hmain hdown
    exact h.seen_of_live hlive hmain (by rw [other, endOf, endOf, hdown])
  unfold Relay.uploadStep
  split
  · next hphase =>
      have hlive : r.endOf .upload = none := by rw [endOf, hphase]
      split
      · next b bs rest hreads =>
          refine { h with up := ?_, seen := hseen hlive _ rfl rfl }
          rw [← h.up, hreads, flatten_append, flatten_singleton, append_assoc, flatten_cons]
      · exact { h with seen := hseen hlive _ rfl rfl }
  · next hphase =>
      have hlive : r.endOf .upload = none := by rw [endOf, hphase]
      split
      · exact { h with seen := hseen hlive _ rfl rfl }
      · exact { h with seen := hseen hlive _ rfl rfl }
  · next hphase =>
      exact { h with seen := hseen (by rw [endOf, hphase]) _ rfl rfl }
  · exact h

lemma Relays.downloadStep (taken : Option Nat) :
    (r.downloadStep taken).Relays reads payloads := by
  have hseen : r.endOf .download = none → ∀ r' : Relay, r'.main = r.main →
      r'.upload = r.upload → ∀ side, Seen side r'.main → r'.endOf side ≠ none := by
    intro hlive r' hmain hupload
    exact h.seen_of_live hlive hmain (by rw [other, endOf, endOf, hupload])
  unfold Relay.downloadStep
  split
  · next hphase =>
      have hlive : r.endOf .download = none := by rw [endOf, hphase]
      split
      · next payload rest hinbox =>
          refine { h with down := ?_, seen := hseen hlive _ rfl rfl, idle := by rintro ⟨⟩ }
          rw [← h.down, left, left, h.idle hphase, hinbox, flatten_cons, nil_append]
      · exact { h with seen := hseen hlive _ rfl rfl, idle := by rintro ⟨⟩ }
  · next hphase =>
      have hlive : r.endOf .download = none := by rw [endOf, hphase]
      split
      · next n =>
          refine { h with down := ?_, seen := hseen hlive _ rfl rfl, idle := ?_ }
          · rw [← h.down, left, left, append_assoc, ← append_assoc (r.outgoing.take n),
              take_append_drop]
          · split
            · next hdone => exact fun _ => hdone
            · rintro ⟨⟩
      · exact { h with seen := hseen hlive _ rfl rfl, idle := by rintro ⟨⟩ }
  · exact h

lemma Relays.finish (how : TaskEnd) (side : Side) :
    (r.finish how side).Relays reads payloads := by
  cases side with
  | upload =>
    refine { h with seen := fun side hseen => ?_ }
    cases side with
    | upload => exact some_ne_none how
    | download => exact h.seen .download hseen
  | download =>
    refine { h with seen := fun side hseen => ?_, idle := by rintro ⟨⟩ }
    cases side with
    | upload => exact h.seen .upload hseen
    | download => exact some_ne_none how

lemma Relays.selectStep (winner : Side) : (r.selectStep winner).Relays reads payloads := by
  unfold Relay.selectStep
  split
  · next how hmain hend =>
      refine { h with seen := fun side hseen => ?_ }
      obtain rfl : side = winner := by
        rw [eq_other (Ne.symm hseen), other_other]
      show r.endOf side ≠ none
      rw [hend]
      exact some_ne_none how
  · exact h

lemma Relays.joinStep : r.joinStep.Relays reads payloads := by
  unfold Relay.joinStep
  split
  · next aborted reason hmain =>
      split
      · exact h
      · next hended =>
          refine { h with seen := fun side _ => ?_ }
          by_cases hside : side = aborted
          · rw [hside]
            exact hended
          · exact h.seen side (by rw [hmain]; exact fun heq => hside heq.symm)
  · exact h

lemma Relays.step (i : RelayStep) : (r.step i).1.Relays reads payloads := by
  cases i with
  | upload sent => exact h.uploadStep sent
  | download taken => exact h.downloadStep taken
  | panic side =>
    show (r.panicStep side).Relays reads payloads
    unfold panicStep
    split
    · exact h.finish _ _
    · exact h
  | select winner => exact h.selectStep winner
  | cancel side =>
    show (r.cancelStep side).Relays reads payloads
    unfold cancelStep
    split
    · exact h.finish _ _
    · exact h
  | join => exact h.joinStep

end
end

lemma relays_after (reads payloads : List Bytes) (steps : List RelayStep) :
    (after reads payloads steps).Relays reads payloads :=
  run_state_invariant (fun _ i h => h.step i) _ steps relays_start

/-- Whatever fails and wherever it stops, either side has a beginning of what the other gave, with
nothing twice or out of order. -/
theorem relayed_beginnings (reads payloads : List Bytes) (steps : List RelayStep) :
    (after reads payloads steps).sent.flatten <+: reads.flatten ∧
      (after reads payloads steps).written <+: payloads.flatten := by
  have h := relays_after reads payloads steps
  exact ⟨⟨_, h.up⟩, ⟨_, h.down⟩⟩

/-! ## The response -/

/-- The client takes what is written to it, and the download task does not panic. -/
def Undisturbed : RelayStep → Prop
  | .download none => False
  | .panic .download => False
  | _ => True

instance : DecidablePred Undisturbed
  | .download none | .panic .download => .isFalse id
  | .download (some _) | .panic .upload | .upload _ | .select _ | .cancel _ | .join =>
    .isTrue True.intro

/-- The download task is not stopped while it has something left to write. -/
def LetsFinish (r : Relay) (i : RelayStep) : Prop :=
  i = .cancel .download → r.aborted = some .download → r.endOf .download = none → r.left = []

instance (r : Relay) (i : RelayStep) : Decidable (r.LetsFinish i) :=
  inferInstanceAs (Decidable (_ → _ → _ → _))

/-- What a step means for the download task: nothing, or it goes on, comes to its end,
panics, or is stopped. -/
inductive DownloadMove (r : Relay) : RelayStep → Relay → Prop
  | same {i : RelayStep} {r' : Relay} (hi : r.LetsFinish i) (hphase : r'.download = r.download)
      (houtgoing : r'.outgoing = r.outgoing) (hinbox : r'.inbox = r.inbox) : DownloadMove r i r'
  | goes {taken : Option Nat} {r' : Relay} (hlive : r.endOf .download = none)
      (hlive' : r'.endOf .download = none) (hidle : r'.download = .receiving → r'.outgoing = []) :
      DownloadMove r (.download taken) r'
  | returns {taken : Option Nat} (hlive : r.endOf .download = none)
      (hdone : taken ≠ none → r.download = .receiving ∧ r.inbox = []) :
      DownloadMove r (.download taken) (r.finish .returned .download)
  | panics (hlive : r.endOf .download = none) :
      DownloadMove r (.panic .download) (r.finish .panicked .download)
  | cancels (haborted : r.aborted = some .download) (hlive : r.endOf .download = none) :
      DownloadMove r (.cancel .download) (r.finish .cancelled .download)

lemma downloadMove (r : Relay) (i : RelayStep) : r.DownloadMove i (r.step i).1 := by
  cases i with
  | upload sent =>
    have hsame : (r.uploadStep sent).download = r.download ∧
        (r.uploadStep sent).outgoing = r.outgoing ∧ (r.uploadStep sent).inbox = r.inbox := by
      unfold uploadStep
      split <;> (try split) <;> exact ⟨rfl, rfl, rfl⟩
    exact .same (by rintro ⟨⟩) hsame.1 hsame.2.1 hsame.2.2
  | download taken =>
    show r.DownloadMove _ (r.downloadStep taken)
    unfold downloadStep
    split
    · next hphase =>
        have hlive : r.endOf .download = none := by rw [endOf, hphase]
        split
        · exact .goes hlive rfl (by rintro ⟨⟩)
        · next hinbox => exact .returns hlive fun _ => ⟨hphase, hinbox⟩
    · next hphase =>
        have hlive : r.endOf .download = none := by rw [endOf, hphase]
        split
        · next n =>
            by_cases hrest : r.outgoing.drop n = []
            · rw [if_pos hrest]
              exact .goes hlive rfl fun _ => hrest
            · rw [if_neg hrest]
              exact .goes hlive rfl (by rintro ⟨⟩)
        · exact .returns hlive fun h => absurd rfl h
    · exact .same (by rintro ⟨⟩) rfl rfl rfl
  | panic side =>
    show r.DownloadMove _ (r.panicStep side)
    unfold panicStep
    split
    · next hlive => cases side with
        | upload => exact .same (by rintro ⟨⟩) rfl rfl rfl
        | download => exact .panics hlive
    · exact .same (by rintro ⟨⟩) rfl rfl rfl
  | select winner =>
    show r.DownloadMove _ (r.selectStep winner)
    unfold selectStep
    split
    · exact .same (by rintro ⟨⟩) rfl rfl rfl
    · exact .same (by rintro ⟨⟩) rfl rfl rfl
  | cancel side =>
    show r.DownloadMove _ (r.cancelStep side)
    unfold cancelStep
    split
    · next hcancels => cases side with
        | upload => exact .same (by rintro ⟨⟩) rfl rfl rfl
        | download => exact .cancels hcancels.1 hcancels.2
    · next hnot =>
        refine .same ?_ rfl rfl rfl
        intro hi habor hlive
        obtain rfl := RelayStep.cancel.inj hi
        exact absurd ⟨habor, hlive⟩ hnot
  | join =>
    show r.DownloadMove _ r.joinStep
    unfold joinStep
    split
    · split
      · exact .same (by rintro ⟨⟩) rfl rfl rfl
      · exact .same (by rintro ⟨⟩) rfl rfl rfl
    · exact .same (by rintro ⟨⟩) rfl rfl rfl

/-- The download task ended on its own only when everything was written. -/
structure Drains (r : Relay) : Prop where
  done : r.download = .ended .returned → r.left = []
  sound : r.download ≠ .ended .panicked
  idle : r.download = .receiving → r.outgoing = []

lemma download_ne_ended {r : Relay} (hlive : r.endOf .download = none) (how : TaskEnd) :
    r.download ≠ .ended how := by
  intro hended
  rw [endOf, hended] at hlive
  cases hlive

lemma Drains.step {r : Relay} (h : r.Drains) {i : RelayStep} (hi : Undisturbed i) :
    (r.step i).1.Drains := by
  have hmove := r.downloadMove i
  generalize (r.step i).1 = r' at hmove
  cases hmove with
  | same _ hphase houtg hinbox =>
    refine ⟨?_, ?_, ?_⟩
    · rw [hphase, left, houtg, hinbox]
      exact h.done
    · rw [hphase]
      exact h.sound
    · rw [hphase, houtg]
      exact h.idle
  | goes hlive hlive' hidle =>
    exact ⟨fun hended => absurd hended (download_ne_ended hlive' _), download_ne_ended hlive' _,
      hidle⟩
  | @returns taken hlive hdone =>
    have htaken : taken ≠ none := by
      rintro rfl
      exact hi
    refine ⟨fun _ => ?_, by rintro ⟨⟩, by rintro ⟨⟩⟩
    obtain ⟨hphase, hinbox⟩ := hdone htaken
    show r.outgoing ++ r.inbox.flatten = []
    rw [h.idle hphase, hinbox]
    rfl
  | panics hlive => exact hi.elim
  | cancels habor hlive => exact ⟨by rintro ⟨⟩, by rintro ⟨⟩, by rintro ⟨⟩⟩

/-- A step leaves a stopped download task with nothing to write exactly if it was so before
and the step does not stop it too early. -/
lemma stopped_drained_step (r : Relay) (i : RelayStep) :
    ((r.step i).1.download = .ended .cancelled → (r.step i).1.left = []) ↔
      (r.download = .ended .cancelled → r.left = []) ∧ r.LetsFinish i := by
  have hmove := r.downloadMove i
  generalize (r.step i).1 = r' at hmove
  cases hmove with
  | same hi hphase houtg hinbox =>
    rw [hphase, left, houtg, hinbox]
    exact ⟨fun h => ⟨h, hi⟩, And.left⟩
  | goes hlive hlive' hidle =>
    exact iff_of_true (fun hended => absurd hended (download_ne_ended hlive' _))
      ⟨fun hended => absurd hended (download_ne_ended hlive _), by rintro ⟨⟩⟩
  | returns hlive hdone =>
    exact iff_of_true (by rintro ⟨⟩)
      ⟨fun hended => absurd hended (download_ne_ended hlive _), by rintro ⟨⟩⟩
  | panics hlive =>
    exact iff_of_true (by rintro ⟨⟩)
      ⟨fun hended => absurd hended (download_ne_ended hlive _), by rintro ⟨⟩⟩
  | cancels habor hlive =>
    refine ⟨fun h => ⟨fun hended => absurd hended (download_ne_ended hlive _), ?_⟩, fun h _ => ?_⟩
    · intro _ _ _
      exact h rfl
    · exact h.2 rfl habor hlive

lemma drains_after {reads payloads : List Bytes}
    (hsteps : ∀ i ∈ steps, Undisturbed i) : (after reads payloads steps).Drains := by
  have hrun := run_invariant (fun (_ : List (RelayStep × Unit)) r i (h : Drains r)
    (hi : Undisturbed i) => h.step hi) steps [] (start reads payloads)
    ⟨by rintro ⟨⟩, by rintro ⟨⟩, fun _ => rfl⟩ (Along.of_forall_mem steps [] _ hsteps)
  exact hrun

lemma Drains.left_eq_nil {r : Relay} (h : r.Drains) (hended : r.endOf .download ≠ none)
    (hstop : r.download = .ended .cancelled → r.left = []) : r.left = [] := by
  cases hphase : r.download with
  | ended how =>
    cases how with
    | returned => exact h.done hphase
    | panicked => exact absurd hphase h.sound
    | cancelled => exact hstop hphase
  | _ =>
    rw [endOf, hphase] at hended
    exact absurd rfl hended

/-- When `pipe_connect` returns, the client has the whole response exactly if the download
task was never stopped with something left to write. -/
theorem response_written_iff {reads payloads : List Bytes} {steps : List RelayStep}
    {reason : CloseReason} (hsteps : ∀ i ∈ steps, Undisturbed i)
    (hreturned : (after reads payloads steps).main = .returned reason) :
    (after reads payloads steps).written = payloads.flatten ↔
      Along step (fun _ r i => r.LetsFinish i) [] (start reads payloads) steps := by
  have hrelays := relays_after reads payloads steps
  have hdrains : (after reads payloads steps).Drains := drains_after hsteps
  have hended := hrelays.seen .download (by rw [hreturned]; exact True.intro)
  have hstop : ((after reads payloads steps).download = .ended .cancelled →
      (after reads payloads steps).left = []) ↔
        Along step (fun _ r i => r.LetsFinish i) [] (start reads payloads) steps := by
    have hrun := @run_iff_along _ _ _ step (fun r => r.download = .ended .cancelled → r.left = [])
      LetsFinish stopped_drained_step steps [] (start reads payloads)
    exact hrun.trans (and_iff_right (by rintro ⟨⟩))
  rw [← hstop, ← hrelays.down, self_eq_append_right]
  exact ⟨fun hleft _ => hleft, hdrains.left_eq_nil hended⟩

/-- The client stops sending at once; the response is written before the `select!` sees it. -/
def patientSteps : List RelayStep :=
  [.upload true, .upload true, .download (some 0), .download (some 2), .select .upload,
    .cancel .download, .join]

theorem patient_response_written :
    (∀ i ∈ patientSteps, Undisturbed i) ∧
      (after [] [[1, 2]] patientSteps).main = .returned .clientClosed ∧
      (after [] [[1, 2]] patientSteps).written = [1, 2] :=
  ⟨by decide, by decide,
    (response_written_iff (by decide)
      (by decide : (after [] [[1, 2]] patientSteps).main = .returned .clientClosed)).mpr
      (by decide)⟩

/-- The client stops sending at once, and the relay ends. -/
def hastySteps : List RelayStep :=
  [.upload true, .upload true, .select .upload, .cancel .download, .join]

/-- The half-close of the client cost it the response. -/
theorem hasty_response_lost :
    (∀ i ∈ hastySteps, Undisturbed i) ∧
      (after [] [[1, 2]] hastySteps).main = .returned .clientClosed ∧
      (after [] [[1, 2]] hastySteps).writeShut = true ∧
      (after [] [[1, 2]] hastySteps).written ≠ [[1, 2]].flatten := by
  decide

end Relay

/-! ## The octets of the client -/

section
variable (text : IpText) (auth : Option AuthConfig) (opening : Opening)

/-- The payloads that a CONNECT connection gives to the sending half, when the session has
to be relayed by the two tasks. -/
def forwarded (payloads : List Bytes) (steps : List RelayStep) (s : Feed Writer) : List Bytes :=
  match (acceptConnect text auth opening).on s with
  | (some _, s') => (after s'.reads payloads steps).sent
  | (none, _) => []

variable {text auth opening} {s s' : Feed Writer}

lemma reads_openStream (s : Feed Writer) : ((openStream text opening).on s).2.reads = s.reads := by
  cases opening with
  | opened bind =>
    cases bind with
    | _ => rfl
  | _ => rfl

lemma follows_openStream {ε : Type} :
    Follows (openStream text opening) (pure () : Reader ε Unit) := by
  cases opening with
  | dropped => exact stops_stop.follows _
  | refused reply => exact (stops_refuse _).follows _
  | opened bind =>
    cases bind with
    | _ => exact follows_writeAll _

lemma acceptConnect_some (h : (acceptConnect text auth opening).on s = (some (), s')) :
    ∃ handshake middle, (negotiate text auth).on s = (some handshake, middle) ∧
      s'.reads = middle.reads ∧
      ∀ later, (acceptConnect text auth opening).on (s.extend later) =
        (some (), s'.extend later) := by
  obtain ⟨handshake, dropped, hread, hopen⟩ := on_bind_some h
  obtain ⟨handshake', middle, hneg, hdrop⟩ := on_bind_some hread
  obtain ⟨hsame, rfl⟩ := Prod.mk.inj hdrop
  obtain rfl := Option.some.inj hsame
  split at hopen
  · next hcomm =>
      refine ⟨handshake', middle, hneg, ?_, fun later => ?_⟩
      · have hreads := @reads_openStream text opening { middle with buf := [] }
        rw [hopen] at hreads
        exact hreads
      · have hread' := (follows_negotiate text auth s _ _ hneg).2 later
        have hopen' := (@follows_openStream text opening CodecError _ _ _ hopen).2 later
        rw [acceptConnect, on_bind, readHandshake, on_bind, hread']
        show (if handshake'.request.command = .connect then openStream text opening else stop).on _ = _
        rw [if_pos hcomm]
        exact hopen'
  · cases (Prod.mk.inj hopen).1

/-- Once the handshake is over, the relay forwards from the next read on, while what follows
the request starts with the octets that were read together with it. -/
lemma forwarded_extend (h : (acceptConnect text auth opening).on s = (some (), s'))
    (hall : s'.reads = []) :
    ∃ left, afterHandshake text auth s.pending = some left ∧
      ∀ later, afterHandshake text auth (s.extend later).pending = some (left ++ later.flatten) ∧
        ∀ payloads steps, forwarded text auth opening payloads steps (s.extend later) =
          (after later payloads steps).sent := by
  obtain ⟨handshake, middle, hneg, hreads, hlater⟩ := acceptConnect_some h
  have hfoll := follows_negotiate text auth s _ _ hneg
  refine ⟨middle.pending, afterHandshake_of_ok hfoll.1, fun later => ⟨?_, ?_⟩⟩
  · rw [← Feed.pending_extend]
    exact afterHandshake_of_ok (follows_negotiate text auth _ _ _ (hfoll.2 later)).1
  · intro payloads steps
    rw [forwarded, hlater later]
    show (after (s'.reads ++ later) payloads steps).sent = _
    rw [hall, nil_append]

/-- A handshake that is complete with some reads: whatever the client sends after it, the
relay forwards a prefix of what follows the request exactly if the last of those reads ended
with the request. -/
theorem connect_forwards_iff {w : Writer} {reads : List Bytes}
    (h : (acceptConnect text auth opening).on ⟨[], reads, w⟩ = (some (), s'))
    (hall : s'.reads = []) :
    (∀ later payloads steps rest, afterHandshake text auth (reads ++ later).flatten = some rest →
        (forwarded text auth opening payloads steps ⟨[], reads ++ later, w⟩).flatten <+: rest) ↔
      afterHandshake text auth reads.flatten = some [] := by
  obtain ⟨left, hleft, hlater⟩ := forwarded_extend h hall
  constructor
  · intro hforw
    cases left with
    | nil => exact hleft
    | cons b left =>
      -- the client goes on with an octet that is not the first of those left over
      obtain ⟨hafter, hsent⟩ := hlater [[b + 1]]
      have hprefix := hforw [[b + 1]] [] [.upload true] _ hafter
      have hone : forwarded text auth opening [] [.upload true] ⟨[], reads ++ [[b + 1]], w⟩ =
          [[b + 1]] := hsent [] [.upload true]
      rw [hone] at hprefix
      have hhead : b + 1 = b := ( cons_prefix_cons.mp hprefix).1
      simp at hhead
  · intro hempty later payloads steps rest hrest
    obtain ⟨hafter, hsent⟩ := hlater later
    have hnil : left = [] := Option.some.inj (hleft.symm.trans hempty)
    have hfollow : rest = later.flatten := by
      rw [hnil] at hafter
      exact Option.some.inj (hrest.symm.trans hafter)
    have hforwarded : forwarded text auth opening payloads steps ⟨[], reads ++ later, w⟩ =
        (after later payloads steps).sent := hsent payloads steps
    rw [hforwarded, hfollow]
    exact ⟨_, (relays_after later payloads steps).up⟩

end

def replying : Writer := ⟨[true, true], []⟩

def separateReads : List Bytes := [[5, 1, 0], [5, 1, 0, 1, 10, 0, 0, 9, 0, 80]]

lemma separate_reads_accepted :
    (acceptConnect decimalText none (.opened none)).on ⟨[], separateReads, replying⟩ =
      (some (), ⟨[], [], ⟨[], [[5, 0], encodeReply .succeeded]⟩⟩) := by
  decide +kernel

theorem separate_reads_forwarded :
    (forwarded decimalText none (.opened none) [] [.upload true]
      ⟨[], separateReads ++ [[71, 72]], replying⟩).flatten <+: [71, 72] :=
  (connect_forwards_iff separate_reads_accepted rfl).mpr (by decide +kernel)
    [[71, 72]] [] [.upload true] [71, 72] (by decide +kernel)

/-- The same, with the first octet of the data in one read with the request. -/
def jointReads : List Bytes := [[5, 1, 0], [5, 1, 0, 1, 10, 0, 0, 9, 0, 80, 71]]

/-- The octet that came with the request is not forwarded. -/
theorem joint_octet_lost :
    afterHandshake decimalText none (jointReads ++ [[72]]).flatten = some [71, 72] ∧
      ¬(forwarded decimalText none (.opened none) [] [.upload true]
        ⟨[], jointReads ++ [[72]], replying⟩).flatten <+: [71, 72] := by
  decide +kernel

end MeshBus.Socks5
