import Mathlib.Data.List.AList
import MeshBus.Lib.Run
import MeshBus.Lib.RingBitmap
import MeshBus.MeshSec.Envelope

/-!
# Anti-replay windows

Per-peer sliding-window anti-replay for MeshSec counters.  Every
`(peer_id, epoch_number, boot_salt)` owns a window: the highest accepted counter
and a ring bitmap of the last `window_bits` counters.  The size of a cache is
fixed when it is built, so it is an index of the types here.  Counters are
natural numbers; nothing in the code overflows on the 64-bit ones.
-/

namespace MeshBus.MeshSec

open Lib List

def replayWords (windowBits : Nat) : Nat := max (windowBits / 64) 1

structure ReplayKey where
  peerId : String
  epochNumber : UInt64
  bootSalt : Octets 4
  deriving DecidableEq

structure Window (words : Nat) where
  highest : Nat
  seen : Bool
  bits : Ring words

open Window

def Window.new (words : Nat) : Window words :=
  { highest := 0, seen := false, bits := Ring.zero words }

/-- The part of `check_and_insert` that works on the window of the key. -/
def Window.checkAndInsert {words : Nat} (windowBits : Nat) (window : Window words)
    (counter : Nat) : Window words × Except MeshSecError Unit :=
  if !window.seen then
    ({ seen := true, highest := counter, bits := window.bits.set counter }, .ok ())
  else if window.highest < counter then
    let bits :=
      if windowBits ≤ counter - window.highest then
        Ring.zero words
      else
        -- `for skipped in (highest + 1)..counter { clear(skipped) }`
        (range' (window.highest + 1) (counter - (window.highest + 1))).foldl
          Ring.clear window.bits
    ({ window with highest := counter, bits := bits.set counter }, .ok ())
  else if windowBits ≤ window.highest - counter then
    (window, .error .replayTooOld)
  else if window.bits.test counter then
    (window, .error .replay)
  else
    ({ window with bits := window.bits.set counter }, .ok ())

structure MeshSecReplayCache (windowBits : Nat) where
  windows : AList fun _ : ReplayKey => Window (replayWords windowBits)

namespace MeshSecReplayCache
variable {windowBits : Nat}

def new (windowBits : Nat) : MeshSecReplayCache windowBits := ⟨∅⟩

def window (cache : MeshSecReplayCache windowBits) (key : ReplayKey) :
    Window (replayWords windowBits) :=
  (cache.windows.lookup key).getD (Window.new _)

def checkAndInsert (cache : MeshSecReplayCache windowBits) (key : ReplayKey) (counter : Nat) :
    MeshSecReplayCache windowBits × Except MeshSecError Unit :=
  let next := (cache.window key).checkAndInsert windowBits counter
  (⟨cache.windows.insert key next.1⟩, next.2)

def call (cache : MeshSecReplayCache windowBits) (input : ReplayKey × Nat) :
    MeshSecReplayCache windowBits × Except MeshSecError Unit :=
  cache.checkAndInsert input.1 input.2

end MeshSecReplayCache

/-- The counters a sequence of answered calls accepted for `key`. -/
def Accepted (past : List ((ReplayKey × Nat) × Except MeshSecError Unit))
    (key : ReplayKey) : Set Nat :=
  {c | ((key, c), .ok ()) ∈ past}

/-! ## One window -/

/-- A window says exactly which counters `S` were accepted, as far as it reaches. -/
inductive WindowInv {words : Nat} (window : Window words) (S : Set Nat) : Prop
  | fresh (unseen : window.seen = false) (zero : window.bits = Ring.zero words)
      (none : S = ∅)
  | live (seen : window.seen = true) (greatest : IsGreatest S window.highest)
      (tracks : window.bits.Tracks window.highest S)

open WindowInv

/-- The answer a window has to give when the counters `S` were accepted. -/
structure ExactAnswer (width : Nat) (S : Set Nat) (c : Nat)
    (answer : Except MeshSecError Unit) : Prop where
  ok_iff : answer = .ok () ↔ c ∉ S ∧ ∀ h, IsGreatest S h → h < c + width
  tooOld_iff : answer = .error .replayTooOld ↔ ∃ h, IsGreatest S h ∧ width ≤ h - c
  replay_iff : answer = .error .replay ↔ c ∈ S ∧ ∀ h, IsGreatest S h → h < c + width

section
variable {window : Window words}

lemma WindowInv.new : WindowInv (new words) ∅ := .fresh rfl rfl rfl

private lemma WindowInv.first (hwords : 0 < words) (unseen : window.seen = false)
    (zero : window.bits = Ring.zero words) (none : S = ∅) (c : Nat) :
    WindowInv (window.checkAndInsert (words * 64) c).1 (insert c S) ∧
      (window.checkAndInsert (words * 64) c).2 = .ok () := by
  have hnext : window.checkAndInsert (words * 64) c =
      ({ seen := true, highest := c, bits := (Ring.zero words).set c }, .ok ()) := by
    simp [checkAndInsert, unseen, zero]
  subst none
  rw [hnext]
  have hzero : Ring.Tracks (Ring.zero words) c ∅ := fun d _ _ => by simp
  refine ⟨.live rfl ⟨by simp, fun d hd => ?_⟩ (hzero.set_inside hwords le_rfl (by omega)), rfl⟩
  simp at hd
  exact hd.le

private lemma WindowInv.above (hwords : 0 < words) (seen : window.seen = true)
    (greatest : IsGreatest S window.highest) (tracks : window.bits.Tracks window.highest S)
    (hc : window.highest < c) :
    WindowInv (window.checkAndInsert (words * 64) c).1 (insert c S) ∧
      (window.checkAndInsert (words * 64) c).2 = .ok () := by
  have hgreat : IsGreatest (insert c S) c := by
    refine ⟨Set.mem_insert c S, ?_⟩
    rintro d (rfl | hd)
    · exact le_rfl
    · exact (greatest.2 hd).trans hc.le
  by_cases hjump : words * 64 ≤ c - window.highest
  · have hnext : window.checkAndInsert (words * 64) c =
        ({ window with highest := c, bits := (Ring.zero words).set c }, .ok ()) := by
      simp [checkAndInsert, seen, hc, hjump]
    rw [hnext]
    exact ⟨.live seen hgreat (Ring.Tracks.reset hwords (fun d hd => greatest.2 hd) (by omega)), rfl⟩
  · have hnext : window.checkAndInsert (words * 64) c =
        ({ window with
            highest := c
            bits := ((range' (window.highest + 1) (c - (window.highest + 1))).foldl
              Ring.clear window.bits).set c }, .ok ()) := by
      simp [checkAndInsert, seen, hc, hjump]
    rw [hnext]
    exact ⟨.live seen hgreat (tracks.advance hwords (fun d hd => greatest.2 hd) hc (by omega)), rfl⟩

private lemma WindowInv.below (hwords : 0 < words) (seen : window.seen = true)
    (greatest : IsGreatest S window.highest) (tracks : window.bits.Tracks window.highest S)
    (hc : c ≤ window.highest) :
    ((window.checkAndInsert (words * 64) c).2 = .error .replayTooOld ∧
      words * 64 ≤ window.highest - c ∧ (window.checkAndInsert (words * 64) c).1 = window) ∨
    ((window.checkAndInsert (words * 64) c).2 = .error .replay ∧
      window.highest < c + words * 64 ∧ c ∈ S ∧
      (window.checkAndInsert (words * 64) c).1 = window) ∨
    ((window.checkAndInsert (words * 64) c).2 = .ok () ∧
      window.highest < c + words * 64 ∧ c ∉ S ∧
      WindowInv (window.checkAndInsert (words * 64) c).1 (insert c S)) := by
  have hnot : ¬ window.highest < c := by omega
  by_cases hold : words * 64 ≤ window.highest - c
  · left
    simp [checkAndInsert, seen, hnot, hold]
  · have hin : window.highest < c + words * 64 := by omega
    have htest := tracks c hc hin
    by_cases hbit : window.bits.test c = true
    · right; left
      simp [checkAndInsert, seen, hnot, hold, hbit, hin, htest.mp hbit]
    · right; right
      have hnext : window.checkAndInsert (words * 64) c =
          ({ window with bits := window.bits.set c }, .ok ()) := by
        simp [checkAndInsert, seen, hnot, hold, hbit]
      rw [hnext]
      refine ⟨rfl, hin, fun hmem => hbit (htest.mpr hmem), ?_⟩
      refine .live seen ⟨Set.mem_insert_of_mem c greatest.1, ?_⟩
        (tracks.set_inside hwords hc hin)
      rintro d (rfl | hd)
      · exact hc
      · exact greatest.2 hd

/-- One call on a window that records `S`: the answer is exact, and the window
records `S` together with the counter if it was accepted. -/
lemma WindowInv.step (hwords : 0 < words) (hinv : WindowInv window S) (c : Nat) :
    ExactAnswer (words * 64) S c (window.checkAndInsert (words * 64) c).2 ∧
    WindowInv (window.checkAndInsert (words * 64) c).1
      {d | d ∈ S ∨ (d = c ∧ (window.checkAndInsert (words * 64) c).2 = .ok ())} := by
  have hins : {d | d ∈ S ∨ (d = c ∧ True)} = insert c S := by
    ext d
    simp [or_comm]
  cases hinv with
  | fresh unseen zero none =>
    obtain ⟨hnext, hok⟩ := first hwords unseen zero none c
    rw [hok]
    simp only [hins]
    refine ⟨⟨?_, ?_, ?_⟩, hnext⟩ <;> simp [none, IsGreatest]
  | live seen greatest tracks =>
    have huniq : ∀ h, IsGreatest S h ↔ h = window.highest :=
      fun h => ⟨fun hh => hh.unique greatest, fun hh => hh ▸ greatest⟩
    rcases lt_or_ge window.highest c with habove | hbelow
    · obtain ⟨hnext, hok⟩ := above hwords seen greatest tracks habove
      have hfresh : c ∉ S := fun hmem => absurd (greatest.2 hmem) (not_le.mpr habove)
      rw [hok]
      simp only [hins]
      refine ⟨⟨?_, ?_, ?_⟩, hnext⟩ <;> simp [huniq, hfresh] <;> omega
    · rcases below hwords seen greatest tracks hbelow with
        ⟨herr, hold, hsame⟩ | ⟨herr, hin, hmem, hsame⟩ | ⟨hok, hin, hmem, hnext⟩
      · rw [herr, hsame]
        refine ⟨⟨?_, ?_, ?_⟩, ?_⟩
        · simp [huniq]; omega
        · simp [huniq]; omega
        · simp [huniq]; omega
        · simpa using live seen greatest tracks
      · rw [herr, hsame]
        refine ⟨⟨?_, ?_, ?_⟩, ?_⟩
        · simp [hmem]
        · simp [huniq]; omega
        · simp [huniq, hmem, hin]
        · simpa using live seen greatest tracks
      · rw [hok]
        simp only [hins]
        refine ⟨⟨?_, ?_, ?_⟩, hnext⟩ <;> simp [huniq, hmem] <;> omega

end

/-! ## The cache over a whole run -/

namespace MeshSecReplayCache
variable {windowBits : Nat}

@[simp] lemma window_new : (new windowBits).window key = Window.new _ := by
  simp [window, new]

lemma window_checkAndInsert (cache : MeshSecReplayCache windowBits) (key : ReplayKey)
    (counter : Nat) (key' : ReplayKey) :
    (cache.checkAndInsert key counter).1.window key' =
      if key' = key then ((cache.window key).checkAndInsert windowBits counter).1
      else cache.window key' := by
  by_cases h : key' = key
  · subst h
    simp [checkAndInsert, window]
  · simp [checkAndInsert, window, h, AList.lookup_insert_ne h]

lemma replayWords_mul (hw : 0 < w) (hdvd : 64 ∣ w) : replayWords w * 64 = w := by
  obtain ⟨k, rfl⟩ := hdvd
  rw [replayWords]
  omega

lemma replayWords_pos (w : Nat) : 0 < replayWords w := by
  rw [replayWords]
  omega

def Records (past : List ((ReplayKey × Nat) × Except MeshSecError Unit))
    (cache : MeshSecReplayCache windowBits) : Prop :=
  ∀ key, WindowInv (cache.window key) (Accepted past key)

lemma mem_accepted_concat {answer : Except MeshSecError Unit} :
    d ∈ Accepted (past ++ [((key, c), answer)]) key' ↔
      d ∈ Accepted past key' ∨ (key' = key ∧ d = c ∧ answer = .ok ()) := by
  simp [Accepted, eq_comm, and_assoc]

lemma Records.step {w : Nat} (hw : 0 < w) (hdvd : 64 ∣ w)
    (past : List ((ReplayKey × Nat) × Except MeshSecError Unit))
    (cache : MeshSecReplayCache w) (input : ReplayKey × Nat) (hinv : Records past cache) :
    Records (past ++ [(input, (cache.call input).2)]) (cache.call input).1 := by
  obtain ⟨key, c⟩ := input
  intro key'
  have hstep := ((hinv key).step (replayWords_pos w) c).2
  rw [replayWords_mul hw hdvd] at hstep
  rw [call, window_checkAndInsert]
  by_cases hkey : key' = key
  · subst hkey
    rw [if_pos rfl]
    convert hstep using 1
    ext d
    rw [mem_accepted_concat]
    simp [checkAndInsert]
  · rw [if_neg hkey]
    convert hinv key' using 1
    ext d
    rw [mem_accepted_concat]
    simp [hkey]

lemma records_run (hw : 0 < w) (hdvd : 64 ∣ w) (calls : List (ReplayKey × Nat)) :
    Records (history call (new w) calls) (run call (new w) calls).1 := by
  have hnew : Records [] (new w) := fun key => by
    simpa [Accepted] using WindowInv.new
  exact run_history_invariant (Records.step hw hdvd) (new w) calls hnew

lemma window_run_filter {cache : MeshSecReplayCache windowBits} :
    (run call cache calls).1.window key =
      (run call cache (calls.filter fun input => input.1 = key)).1.window key := by
  suffices h : ∀ cache' : MeshSecReplayCache windowBits, cache.window key = cache'.window key →
      (run call cache calls).1.window key =
        (run call cache' (calls.filter fun input => input.1 = key)).1.window key from h cache rfl
  induction calls generalizing cache with
  | nil => exact fun cache' h => h
  | cons input calls ih =>
    intro cache' hsame
    by_cases hkey : input.1 = key
    · rw [filter_cons_of_pos (by simpa using hkey)]
      apply ih
      rw [call, call, window_checkAndInsert, window_checkAndInsert, hkey, hsame]
    · rw [filter_cons_of_neg (by simpa using hkey)]
      apply ih
      rw [call, window_checkAndInsert, if_neg (Ne.symm hkey), hsame]

/-- The last counter the window of `key` accepted is its highest one, `c`. -/
structure Spent (cache : MeshSecReplayCache windowBits) (key : ReplayKey) (c : Nat) : Prop where
  seen : (cache.window key).seen = true
  highest : (cache.window key).highest = c
  bit : (cache.window key).bits.test c = true

lemma checkAndInsert_fresh (cache : MeshSecReplayCache windowBits) (key : ReplayKey) (c : Nat)
    (hfresh : (cache.window key).seen = false) :
    (cache.checkAndInsert key c).2 = .ok () ∧ (cache.checkAndInsert key c).1.Spent key c := by
  have hnext : (cache.window key).checkAndInsert windowBits c =
      ({ seen := true, highest := c, bits := (cache.window key).bits.set c }, .ok ()) := by
    simp [Window.checkAndInsert, hfresh]
  have hwin : (cache.checkAndInsert key c).1.window key =
      { seen := true, highest := c, bits := (cache.window key).bits.set c } := by
    rw [window_checkAndInsert, if_pos rfl, hnext]
  refine ⟨by simp [checkAndInsert, hnext], ?_, ?_, ?_⟩
  · rw [hwin]
  · rw [hwin]
  · rw [hwin, Ring.test_set (replayWords_pos windowBits)]
    simp

lemma checkAndInsert_spent (hw : 0 < windowBits) {cache : MeshSecReplayCache windowBits}
    (hspent : cache.Spent key c) :
    (cache.checkAndInsert key c).2 = .error .replay ∧
      (cache.checkAndInsert key c).1.Spent key c := by
  have hnext : (cache.window key).checkAndInsert windowBits c =
      (cache.window key, .error .replay) := by
    simp [Window.checkAndInsert, hspent.seen, hspent.highest, hspent.bit, hw.ne']
  have hwin : (cache.checkAndInsert key c).1.window key = cache.window key := by
    rw [window_checkAndInsert, if_pos rfl, hnext]
  refine ⟨by simp [checkAndInsert, hnext], ?_, ?_, ?_⟩
  · rw [hwin, hspent.seen]
  · rw [hwin, hspent.highest]
  · rw [hwin, hspent.bit]

/-- Anti-replay is exact.  After any calls on a cache of `w` bits, a call is
answered from the counters accepted under its own key: accepted when it is new
and inside the window of the highest one, too old when it is below that window,
a replay otherwise; calls under other keys make no difference. -/
theorem checkAndInsert_exact (w : Nat) (hw : 0 < w) (hdvd : 64 ∣ w)
    (calls : List (ReplayKey × Nat)) (key : ReplayKey) (c : Nat) :
    ExactAnswer w (Accepted (history call (new w) calls) key) c
      ((run call (new w) calls).1.checkAndInsert key c).2 ∧
    ((run call (new w) calls).1.checkAndInsert key c).2 =
      ((run call (new w) (calls.filter fun input => input.1 = key)).1.checkAndInsert key c).2 := by
  constructor
  · have hexact := (records_run hw hdvd calls key |>.step (replayWords_pos w) c).1
    rwa [replayWords_mul hw hdvd] at hexact
  · simp only [checkAndInsert]
    rw [window_run_filter]

/-- A window of 64 counters that has seen 5 and 70, asked for 6. -/
theorem checkAndInsert_exact_after_jump :
    let key : ReplayKey := ⟨"peer-a", 7, Vector.replicate 4 0⟩
    let other : ReplayKey := ⟨"peer-b", 7, Vector.replicate 4 0⟩
    let calls := [(key, 5), (other, 900), (key, 70)]
    ExactAnswer 64 (Accepted (history call (new 64) calls) key) 6
      ((run call (new 64) calls).1.checkAndInsert key 6).2 ∧
    ((run call (new 64) calls).1.checkAndInsert key 6).2 =
      ((run call (new 64) [(key, 5), (key, 70)]).1.checkAndInsert key 6).2 :=
  checkAndInsert_exact 64 (by decide) (by decide) _ _ 6

end MeshSecReplayCache
end MeshBus.MeshSec
