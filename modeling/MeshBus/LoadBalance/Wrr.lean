import Mathlib.Data.List.Count
import Mathlib.Data.List.Rotate
import MeshBus.Kernel.Frame
import MeshBus.Lib.Run
import MeshBus.Lib.Table

/-!
# Weighted round robin

A cursor stands on a candidate and a counter says how often it was picked in a row.  Both together
are a place in the list in which every candidate stands as often as its weight says, and a pick
moves on by one place.  The scheduler of the bus keeps one such cursor for the candidates of the
last call.
-/

namespace MeshBus.LoadBalance

open Lib List Nat Kernel

structure Candidate where
  id : String
  weight : Nat
deriving DecidableEq, Repr

structure Wrr where
  cands : List Candidate
  cursor : Nat
  counter : Nat
deriving DecidableEq, Repr

open Wrr

def totalWeight (cands : List Candidate) : Nat := (cands.map Candidate.weight).sum

/-! ## The places of a round -/

section
variable {cands : List Candidate} {c : Candidate}

/-- The positions of the candidates from `k` on, each as often as its weight says. -/
def places : Nat → List Candidate → List Nat
  | _, [] => []
  | k, c :: rest => replicate c.weight k ++ places (k + 1) rest

lemma length_places : (places k cands).length = totalWeight cands := by
  induction cands generalizing k with
  | nil => rfl
  | cons c rest ih => simp [places, ih, totalWeight]

lemma le_of_mem_places (h : p ∈ places k cands) : k ≤ p := by
  induction cands generalizing k with
  | nil => cases h
  | cons c rest ih =>
    rcases mem_append.mp h with h | h
    · exact (mem_replicate.mp h).2.ge
    · exact le_of_lt (ih h)

lemma count_places (k : Nat) (h : cands[i]? = some c) :
    (places k cands).count (k + i) = c.weight := by
  induction cands generalizing k i with
  | nil => cases h
  | cons head rest ih =>
    rw [places, count_append]
    cases i with
    | zero =>
      cases h
      have hrest : count k (places (k + 1) rest) = 0 :=
        count_eq_zero.mpr fun hmem => absurd (le_of_mem_places hmem) (by omega)
      simp [hrest]
    | succ i =>
      have hhead : count (k + (i + 1)) (replicate head.weight k) = 0 :=
        count_eq_zero.mpr fun hmem => absurd (mem_replicate.mp hmem).2 (by omega)
      rw [hhead, zero_add, ← add_assoc, add_right_comm]
      exact ih _ h

lemma getElem?_places (k : Nat) (h : cands[i]? = some c) (hr : r < c.weight) :
    (places k cands)[totalWeight (cands.take i) + r]? = some (k + i) := by
  induction cands generalizing k i with
  | nil => cases h
  | cons head rest ih =>
    cases i with
    | zero =>
      cases h
      simp [places, totalWeight, getElem?_append, hr]
    | succ i =>
      have hplace : totalWeight ((head :: rest).take (i + 1)) + r =
          head.weight + (totalWeight (rest.take i) + r) := by
        simp [totalWeight]
        omega
      rw [places, hplace, getElem?_append_right (by simp), length_replicate,
        Nat.add_sub_cancel_left, ih _ h]
      congr 1
      omega

lemma totalWeight_take_succ (h : cands[i]? = some c) :
    totalWeight (cands.take (i + 1)) = totalWeight (cands.take i) + c.weight := by
  simp [totalWeight, take_add_one, h]

lemma totalWeight_take_le : totalWeight (cands.take i) ≤ totalWeight cands := by
  have hsplit := congrArg totalWeight (take_append_drop i cands)
  simp only [totalWeight, map_append, List.sum_append] at hsplit ⊢
  omega

end

/-! ## Picks -/

namespace Wrr

def new (cands : List Candidate) : Wrr := ⟨cands, 0, 0⟩

/-- The loop of `pick`, for so many turns. -/
def turns : Nat → Wrr → Option (String × Wrr)
  | 0, _ => none
  | fuel + 1, w =>
    match w.cands[w.cursor]? with
    | none => none
    | some c =>
      if w.counter < c.weight then some (c.id, { w with counter := w.counter + 1 })
      else turns fuel { w with cursor := (w.cursor + 1) % w.cands.length, counter := 0 }

/-- A pick; `none` if the cursor has gone round twice. -/
def pick (w : Wrr) : Option (Option String × Wrr) :=
  if w.cands.isEmpty then some (none, w)
  else (turns (2 * w.cands.length) w).map fun (id, w') => (some id, w')

/-- So many picks, each with the position it is from. -/
def picks : Nat → Wrr → List (Nat × Option String)
  | 0, _ => []
  | n + 1, w =>
    match w.pick with
    | none => []
    | some (id, w') => (w'.cursor, id) :: picks n w'

def after (n : Nat) (w : Wrr) : Wrr := (fun w => (w.pick.map Prod.snd).getD w)^[n] w

variable {w w' : Wrr}

/-- The place of the next pick. -/
def place (w : Wrr) : Nat := totalWeight (w.cands.take w.cursor) + w.counter

/-- The cursor stands on a candidate, which was not picked too often. -/
def Sound (w : Wrr) : Prop := ∃ c, w.cands[w.cursor]? = some c ∧ w.counter ≤ c.weight

lemma sound_next (h : 0 < w.cands.length) :
    Sound { w with cursor := (w.cursor + 1) % w.cands.length, counter := 0 } :=
  ⟨_, getElem?_eq_getElem (mod_lt _ h), zero_le _⟩

/-- The candidate at the place of `w` is picked, and the place moves on. -/
structure Picked (w : Wrr) (name : String) (w' : Wrr) : Prop where
  sound : w'.Sound
  cands : w'.cands = w.cands
  position : (places 0 w.cands)[w.place % totalWeight w.cands]? = some w'.cursor
  place : w'.place = w.place % totalWeight w.cands + 1
  name : (w.cands[w'.cursor]?).map Candidate.id = some name

lemma turns_eq_some (h : w.Sound) (hturns : turns fuel w = some (name, w')) :
    Picked w name w' := by
  induction fuel generalizing w with
  | zero => cases hturns
  | succ fuel ih =>
    obtain ⟨c, hc, hcoun⟩ := h
    rw [turns, hc] at hturns
    dsimp only at hturns
    split at hturns
    · next hlt =>
        cases hturns
        have hplace : w.place < totalWeight w.cands := by
          have hnext := @totalWeight_take_le w.cands (w.cursor + 1)
          rw [totalWeight_take_succ hc] at hnext
          unfold place
          omega
        have hat := getElem?_places 0 hc hlt
        rw [zero_add] at hat
        refine ⟨⟨c, hc, hlt⟩, rfl, ?_, ?_, by rw [hc]; rfl⟩
        · rwa [mod_eq_of_lt hplace]
        · rw [mod_eq_of_lt hplace]
          rfl
    · next hfull =>
        have hlt := (List.getElem?_eq_some_iff.mp hc).1
        have hend : w.place = totalWeight (w.cands.take (w.cursor + 1)) := by
          rw [totalWeight_take_succ hc]
          unfold place
          omega
        have hmod : totalWeight (w.cands.take ((w.cursor + 1) % w.cands.length)) %
            totalWeight w.cands = w.place % totalWeight w.cands := by
          rw [hend]
          by_cases hlast : w.cursor + 1 = w.cands.length
          · rw [hlast, mod_self, take_length, mod_self]
            rfl
          · have hinner : w.cursor + 1 < w.cands.length := by omega
            rw [mod_eq_of_lt hinner]
        obtain ⟨hs, hcands, hpicked, hnext, hid⟩ := ih (sound_next (by omega)) hturns
        refine ⟨hs, hcands, hmod ▸ hpicked, hnext.trans ?_, hid⟩
        rw [← hmod]
        rfl

/-- The loop ends at the latest at a candidate that may be picked. -/
lemma turns_ne_none (h : w.Sound) (hj : j < fuel)
    (hc : w.cands[(w.cursor + j) % w.cands.length]? = some c)
    (hpick : (if j = 0 then w.counter else 0) < c.weight) : turns fuel w ≠ none := by
  induction fuel generalizing w j with
  | zero => omega
  | succ fuel ih =>
    obtain ⟨head, hhead, -⟩ := h
    have hlt := (List.getElem?_eq_some_iff.mp hhead).1
    rw [turns, hhead]
    dsimp only
    split
    · simp
    · next hfull =>
        cases j with
        | zero =>
          rw [add_zero, mod_eq_of_lt hlt, hhead] at hc
          cases hc
          exact absurd hpick hfull
        | succ j =>
          refine ih (sound_next (by omega)) (lt_of_succ_lt_succ hj) ?_ (by simpa using hpick)
          rw [← hc, mod_add_mod, add_assoc, add_comm 1]

lemma pick_spec (h : w.Sound) (hwt : 0 < totalWeight w.cands) :
    ∃ id w', w.pick = some (some id, w') ∧ Picked w id w' := by
  obtain ⟨c, hc, -⟩ := id h
  have hne : w.cands.isEmpty = false := by
    cases hcands : w.cands with
    | nil => simp [hcands] at hc
    | cons _ _ => rfl
  obtain ⟨_, hmem, hpos⟩ := List.sum_pos_iff_exists_pos_nat.mp hwt
  obtain ⟨best, hbest, rfl⟩ := mem_map.mp hmem
  obtain ⟨i, hi⟩ := mem_iff_getElem?.mp hbest
  have hlt := (List.getElem?_eq_some_iff.mp hi).1
  have hcursor := (List.getElem?_eq_some_iff.mp hc).1
  have hends : turns (2 * w.cands.length) w ≠ none := by
    refine turns_ne_none h (j := w.cands.length + i - w.cursor) (by omega) ?_ (by split <;> omega)
    rw [show w.cursor + (w.cands.length + i - w.cursor) = w.cands.length + i by omega,
      add_mod_left, mod_eq_of_lt hlt, hi]
  obtain ⟨⟨id, w'⟩, hturns⟩ := Option.ne_none_iff_exists'.mp hends
  exact ⟨id, w', by simp [pick, hne, hturns], turns_eq_some h hturns⟩

lemma length_picks_le {n : Nat} (w : Wrr) : (picks n w).length ≤ n := by
  induction n generalizing w with
  | zero => exact le_rfl
  | succ n ih =>
    rw [picks]
    split
    · exact zero_le _
    · exact succ_le_succ (ih _)

lemma getElem?_picks (h : w.Sound) (hwt : 0 < totalWeight w.cands) (hj : j < n) :
    ((picks n w)[j]?).map Prod.fst =
      (places 0 w.cands)[(w.place + j) % totalWeight w.cands]? := by
  induction n generalizing w j with
  | zero => omega
  | succ n ih =>
    obtain ⟨id, w', hpick, hsound, hcands, hpicked, hplace, -⟩ := pick_spec h hwt
    rw [picks, hpick]
    cases j with
    | zero => exact hpicked.symm
    | succ j =>
      rw [getElem?_cons_succ, ih hsound (hcands ▸ hwt) (by omega), hcands, hplace,
        add_assoc, mod_add_mod, add_comm 1]

/-- A round of picks from any place goes through all places. -/
lemma picks_round (h : w.Sound) (hwt : 0 < totalWeight w.cands) :
    (picks (totalWeight w.cands) w).map Prod.fst = (places 0 w.cands).rotate w.place := by
  refine ext_getElem? fun j => ?_
  by_cases hj : j < totalWeight w.cands
  · rw [getElem?_map, getElem?_picks h hwt hj,
      getElem?_rotate (by rw [length_places]; exact hj), length_places, add_comm]
  · rw [getElem?_eq_none, getElem?_eq_none]
    · rw [length_rotate, length_places]
      omega
    · rw [length_map]
      exact le_trans (length_picks_le _) (by omega)

lemma sound_after (h : w.Sound) (hwt : 0 < totalWeight w.cands) (n : Nat) :
    (after n w).Sound ∧ (after n w).cands = w.cands := by
  induction n with
  | zero => exact ⟨h, rfl⟩
  | succ n ih =>
    obtain ⟨id, w', hpick, hsound, hcands, -⟩ := pick_spec ih.1 (ih.2 ▸ hwt)
    rw [after, Function.iterate_succ_apply', ← after, hpick]
    exact ⟨hsound, hcands.trans ih.2⟩

lemma sound_new {cands : List Candidate} (hwt : 0 < totalWeight cands) : (new cands).Sound := by
  cases cands with
  | nil => cases hwt
  | cons c rest => exact ⟨c, rfl, zero_le _⟩

lemma picks_from (h : w.Sound) (hwt : 0 < totalWeight w.cands) :
    ∀ entry ∈ picks n w, ∃ c, w.cands[entry.1]? = some c ∧ entry.2 = some c.id := by
  induction n generalizing w with
  | zero => exact forall_mem_nil _
  | succ n ih =>
    obtain ⟨id, w', hpick, hsound, hcands, -, -, hid⟩ := pick_spec h hwt
    have hrest := ih hsound (hcands ▸ hwt)
    rw [hcands] at hrest
    rw [picks, hpick]
    obtain ⟨c, hc, rfl⟩ := Option.map_eq_some_iff.mp hid
    exact forall_mem_cons.mpr ⟨⟨c, hc, rfl⟩, hrest⟩

end Wrr

/-! ## The scheduler -/

/-- The state of the scheduler in round-robin mode. -/
structure LoadBalanceState where
  ids : List String
  rr : Wrr

open LoadBalanceState

def LoadBalanceState.new : LoadBalanceState := ⟨[], .new []⟩

def toCandidates (weights : Table String Nat) (candidates : List ExitId) : List Candidate :=
  candidates.map fun id => ⟨id, max ((weights.lookup id).getD 1) 1⟩

def orderWithFirst (candidates : List ExitId) (picked : Option String) : List Nat :=
  match picked.bind fun id => candidates.findIdx? (· == id) with
  | some pos => pos :: (range candidates.length).eraseIdx pos
  | none => range candidates.length

namespace LoadBalanceState
variable {s : LoadBalanceState} {candidates : List ExitId}

def refresh (weights : Table String Nat) (s : LoadBalanceState)
    (candidates : List ExitId) : LoadBalanceState :=
  if candidates = s.ids then s else ⟨candidates, .new (toCandidates weights candidates)⟩

/-- A call of `schedule`, with the order that it gives; `none` if the pick does not end. -/
def schedule (weights : Table String Nat) (s : LoadBalanceState)
    (candidates : List ExitId) : LoadBalanceState × Option (List Nat) :=
  match (s.refresh weights candidates).rr.pick with
  | none => (s.refresh weights candidates, none)
  | some (picked, rr) => (⟨(s.refresh weights candidates).ids, rr⟩, orderWithFirst candidates picked)

/-- The cursor is one of the candidates of the last call. -/
structure Ready (weights : Table String Nat) (s : LoadBalanceState) : Prop where
  cands : s.rr.cands = toCandidates weights s.ids
  sound : s.ids ≠ [] → s.rr.Sound

lemma totalWeight_pos (weights : Table String Nat) (h : candidates ≠ []) :
    0 < totalWeight (toCandidates weights candidates) := by
  cases candidates with
  | nil => exact absurd rfl h
  | cons id rest =>
    simp [toCandidates, totalWeight]

lemma Ready.refresh (h : s.Ready weights) (candidates : List ExitId) :
    (s.refresh weights candidates).Ready weights ∧
      (s.refresh weights candidates).ids = candidates := by
  unfold LoadBalanceState.refresh
  split
  · next heq => exact ⟨h, heq.symm⟩
  · exact ⟨⟨rfl, fun hne => sound_new (totalWeight_pos weights hne)⟩, rfl⟩

/-- A call with candidates is a pick of the cursor for them. -/
lemma Ready.pick (h : s.Ready weights) (hne : candidates ≠ []) :
    ∃ id rr, (s.refresh weights candidates).rr.pick = some (some id, rr) ∧
      Ready weights ⟨candidates, rr⟩ ∧ s.schedule weights candidates =
        (⟨candidates, rr⟩, some (orderWithFirst candidates (some id))) := by
  obtain ⟨hready, hids⟩ := h.refresh candidates
  have hcands := hready.cands
  rw [hids] at hcands
  obtain ⟨id, rr, hpick, hsound, hsame, -⟩ := Wrr.pick_spec (hready.sound (by rwa [hids]))
    (hcands ▸ totalWeight_pos weights hne)
  refine ⟨id, rr, hpick, ⟨hsame.trans hcands, fun _ => hsound⟩, ?_⟩
  rw [LoadBalanceState.schedule, hpick, hids]

lemma Ready.schedules (h : s.Ready weights) (hne : candidates ≠ []) :
    (run (schedule weights) s (replicate n candidates)).2 =
      ((s.refresh weights candidates).rr.picks n).map fun entry =>
        some (orderWithFirst candidates entry.2) := by
  induction n generalizing s with
  | zero => rfl
  | succ n ih =>
    obtain ⟨id, rr, hpick, hready, hcall⟩ := h.pick hne
    rw [replicate_succ, run_cons, hcall, Wrr.picks, hpick, ih hready, LoadBalanceState.refresh,
      if_pos rfl]
    rfl

lemma Ready.schedule (h : s.Ready weights) (candidates : List ExitId) :
    (s.schedule weights candidates).1.Ready weights := by
  by_cases hne : candidates = []
  · obtain ⟨hready, hids⟩ := h.refresh candidates
    have hpick : (s.refresh weights candidates).rr.pick =
        some (none, (s.refresh weights candidates).rr) := by
      rw [Wrr.pick, hready.cands, hids, hne]
      rfl
    rw [LoadBalanceState.schedule, hpick]
    exact hready
  · obtain ⟨id, rr, -, hready, hcall⟩ := h.pick hne
    rw [hcall]
    exact hready

end LoadBalanceState

lemma head?_orderWithFirst {candidates : List ExitId} (hdist : candidates.Nodup)
    (h : candidates[i]? = some name) : (orderWithFirst candidates (some name)).head? = some i := by
  obtain ⟨hlt, rfl⟩ := List.getElem?_eq_some_iff.mp h
  have hfind : candidates.findIdx? (· == candidates[i]) = some i := by
    rw [findIdx?_eq_some_iff_getElem]
    refine ⟨hlt, beq_self_eq_true _, fun j hji heq => ?_⟩
    exact absurd (hdist.getElem_inj_iff.mp (beq_iff_eq.mp heq)) hji.ne
  rw [orderWithFirst, Option.bind_some, hfind]
  rfl

/-- As many calls with one list as its weights add up to, with no other call in between, put each
candidate first as often as its weight says. -/
theorem round_robin_fair (weights : Table String Nat) (calls : List (List ExitId))
    (candidates : List ExitId) (hdistinct : candidates.Nodup) (i : Nat) (c : Candidate)
    (hc : (toCandidates weights candidates)[i]? = some c) :
    let s := (run (schedule weights) .new calls).1
    let orders := (run (schedule weights) s
      (replicate (totalWeight (toCandidates weights candidates)) candidates)).2
    (orders.map fun order => order.bind head?).count (some i) = c.weight := by
  intro s orders
  have hready : s.Ready weights :=
    @run_state_invariant _ _ _ (schedule weights) (fun s => s.Ready weights)
      (fun s candidates h => h.schedule candidates) .new calls ⟨rfl, fun hne => absurd rfl hne⟩
  have hne : candidates ≠ [] := by
    rintro rfl
    cases hc
  obtain ⟨hnext, hids⟩ := hready.refresh candidates
  set w := (s.refresh weights candidates).rr with hw
  have hcands : w.cands = toCandidates weights candidates := hnext.cands.trans (by rw [hids])
  have hsound : w.Sound := hnext.sound (hids.symm ▸ hne)
  have hwt : 0 < totalWeight w.cands := hcands ▸ totalWeight_pos weights hne
  have hheads : orders.map (fun order => order.bind head?) =
      ((w.picks (totalWeight w.cands)).map Prod.fst).map some := by
    rw [show orders = _ from hready.schedules hne, ← hcands, map_map, map_map]
    refine map_congr_left fun entry hentry => ?_
    obtain ⟨c, hat, hpicked⟩ := picks_from hsound hwt entry hentry
    rw [hcands, toCandidates, getElem?_map] at hat
    obtain ⟨id, hid, rfl⟩ := Option.map_eq_some_iff.mp hat
    rw [Function.comp_apply, hpicked]
    exact head?_orderWithFirst hdistinct hid
  rw [hheads, count_map_of_injective _ _ (Option.some_injective _), picks_round hsound hwt,
    (rotate_perm _ _).count_eq]
  have hcount := count_places 0 (hcands ▸ hc)
  rwa [zero_add] at hcount

theorem round_robin_of_two :
    ["a", "b"].Nodup ∧
      ((run (schedule (AList.insert "b" 2 ∅))
        (run (schedule (AList.insert "b" 2 ∅)) .new [["a", "b"], ["c"]]).1
        (replicate 3 ["a", "b"])).2.map fun order => order.bind head?).count (some 1) = 2 :=
  ⟨by decide, round_robin_fair _ [["a", "b"], ["c"]] ["a", "b"] (by decide) 1 ⟨"b", 2⟩
    (by decide +kernel)⟩

/-- Two lists that take turns: the first candidate is first every time. -/
theorem round_robin_restarts :
    let orders := (run (schedule ∅) .new
      [["a", "b"], ["a", "c"], ["a", "b"], ["a", "c"]]).2
    toCandidates ∅ ["a", "b"] = [⟨"a", 1⟩, ⟨"b", 1⟩] ∧ orders[0]? = some (some [0, 1]) ∧
      orders[2]? = some (some [0, 1]) := by
  decide +kernel

end MeshBus.LoadBalance
