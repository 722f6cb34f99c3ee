import MeshBus.Kernel.Observation
import MeshBus.Lib.Positions
import MeshBus.Lib.Run

/-!
# When subscribers are unwired

`Subscriptions` says what the bus is for: every subscriber carries its own count
of timeouts and goes when its scope is unwired or the count reaches the limit, and
what happens to one never bears on another.  The bus keeps the counts by position
instead, and does the same as long as subscribers stay in their positions.
-/

namespace MeshBus.Kernel

open Lib List SubscriberStatusTable SubscriberStatus Function EventTypeId

/-! ## Subscribers on their own -/

structure Subscriber where
  tx : Nat
  scope : ScopeId
  /-- Timeouts since the last event it accepted. -/
  timeouts : Nat
  deriving DecidableEq

def Subscriber.sender (s : Subscriber) : ScopedSender := ⟨s.tx, s.scope⟩

/-- The subscriber after a reliable event, unless that was one timeout too many. -/
def Subscriber.after (s : Subscriber) : Outcome → Option Subscriber
  | .accepts => some { s with timeouts := 0 }
  | .closed => some s
  | .timesOut =>
    if s.timeouts + 1 = maxLifecycleTimeoutsBeforeUnwire then none
    else some { s with timeouts := s.timeouts + 1 }

abbrev Subscriptions := EventTypeId → List Subscriber

namespace Subscriptions

def wire (w : Subscriptions) (typeId : EventTypeId) (tx : Nat) (scope : ScopeId) : Subscriptions :=
  update w typeId (w typeId ++ [⟨tx, scope, 0⟩])

def unwireScope (w : Subscriptions) (scope : ScopeId) : Subscriptions :=
  if scope = unscoped then w else fun typeId => (w typeId).filter fun s => s.scope ≠ scope

def publishReliable (w : Subscriptions) (typeId : EventTypeId) (outcomes : Nat → Outcome) :
    Subscriptions :=
  update w typeId ((w typeId).zipIdx.filterMap fun (s, i) => s.after (outcomes i))

def step (w : Subscriptions) : BusStep → Subscriptions × Unit
  | .wire typeId tx scope => (w.wire typeId tx scope, ())
  | .unwireScope scope _ => (w.unwireScope scope, ())
  | .publishReliable typeId outcomes _ => (w.publishReliable typeId outcomes, ())

end Subscriptions

/-! ## Steps that keep subscribers in place -/

def ObservationBus.Expires (b : ObservationBus) (typeId : EventTypeId) (outcomes : Nat → Outcome)
    (idx : Nat) : Prop :=
  outcomes idx = .timesOut ∧
    b.status.get (typeId, idx) = .degraded (maxLifecycleTimeoutsBeforeUnwire - 1)

instance (b : ObservationBus) (typeId : EventTypeId) (outcomes : Nat → Outcome) (idx : Nat) :
    Decidable (b.Expires typeId outcomes idx) := by
  unfold ObservationBus.Expires
  infer_instance

/-- A subscriber is wired to a position without a status left over; what is
removed from a slot stands at its end; and a closed subscriber does not time out. -/
def InPlace (b : ObservationBus) : BusStep → Prop
  | .wire typeId _ _ =>
    typeId.Fits ∧ b.status.get (typeId, (b.slot typeId).length) = .healthy
  | .unwireScope scope _ => scope = unscoped ∨
      ∀ slot ∈ b.routing, slot.Pairwise fun s s' => s.scope = scope → s'.scope = scope
  | .publishReliable typeId outcomes _ =>
    typeId.Fits ∧
      (∀ i < (b.slot typeId).length, outcomes i = .timesOut →
        (b.status.get (typeId, i)).isUnwired = false) ∧
      ∀ j < (b.slot typeId).length, ∀ i < j,
        b.Expires typeId outcomes i → b.Expires typeId outcomes j

instance (b : ObservationBus) (step : BusStep) : Decidable (InPlace b step) := by
  cases step <;> unfold InPlace <;> infer_instance

/-! ## What the bus keeps of a subscriber -/

/-- The status of a subscriber with this many timeouts; a closed one has no count. -/
inductive Agrees : SubscriberStatus → Nat → Prop where
  | healthy : Agrees .healthy 0
  | degraded {n : Nat} (hpos : 0 < n) (hlt : n < maxLifecycleTimeoutsBeforeUnwire) :
      Agrees (.degraded n) n
  | closed {atNs totalTimeouts lastTimeoutAtNs n : Nat} :
      Agrees (.unwired .channelClosed atNs totalTimeouts lastTimeoutAtNs) n

structure Tracks (b : ObservationBus) (w : Subscriptions) : Prop where
  slots : ∀ typeId : EventTypeId, typeId.Fits → b.slot typeId = (w typeId).map Subscriber.sender
  status : ∀ typeId : EventTypeId, typeId.Fits → ∀ i s, (w typeId)[i]? = some s →
    Agrees (b.status.get (typeId, i)) s.timeouts
  /-- Only slots with the number of a type are in use. -/
  numbered : ∀ k slot, b.routing[k]? = some slot → slot ≠ [] → k < 2 ^ 32

/-! ## Wiring -/

section

def slotAt (routing : List (List ScopedSender)) (k : Nat) : List ScopedSender :=
  (routing[k]?).getD []

lemma slotAt_append_replicate : slotAt (routing ++ replicate n []) k = slotAt routing k := by
  unfold slotAt
  rw [getElem?_append]
  split
  · rfl
  · rename_i hout
    rw [getElem?_eq_none (not_lt.mp hout), getElem?_replicate]
    split <;> rfl

lemma slotAt_modify (hk : k < routing.length) :
    slotAt (routing.modify k f) k' =
      if k' = k then f (slotAt routing k) else slotAt routing k' := by
  unfold slotAt
  rw [getElem?_modify]
  by_cases heq : k' = k
  · subst heq
    rw [getElem?_eq_getElem hk]
    simp
  · rw [if_neg heq]
    cases routing[k']? with
    | none => rfl
    | some slot => simp [Ne.symm heq]

lemma lt_of_slotAt_ne_nil
    (h : slotAt routing k ≠ []) : ∃ slot, routing[k]? = some slot ∧ slot ≠ [] := by
  unfold slotAt at h
  cases hk : routing[k]? with
  | none => simp [hk] at h
  | some slot => exact ⟨slot, rfl, by simpa [hk] using h⟩

lemma slotAt_wire (b : ObservationBus) (typeId : EventTypeId) (tx : Nat) (scope : ScopeId)
    (k : Nat) :
    slotAt (b.wireSubscriberScoped typeId tx scope).routing k =
      if k = typeId.asU32.toNat then slotAt b.routing k ++ [⟨tx, scope⟩]
      else slotAt b.routing k := by
  simp only [ObservationBus.wireSubscriberScoped]
  split
  · rename_i hshort
    rw [slotAt_modify (by simp; omega)]
    simp only [slotAt_append_replicate]
    split
    · rename_i heq
      rw [heq]
    · rfl
  · rename_i hlong
    rw [slotAt_modify (not_le.mp hlong)]
    split
    · rename_i heq
      rw [heq]
    · rfl

end

lemma toNat_asU32_inj {typeId typeId' : EventTypeId} (hfits : typeId.Fits)
    (hfits' : typeId'.Fits) (h : typeId.asU32.toNat = typeId'.asU32.toNat) : typeId = typeId' :=
  asU32_injective hfits hfits' (UInt32.toNat_inj.mp h)

/-- A step on the slot of one type. -/
lemma Tracks.update {b' : ObservationBus} (h : Tracks b w) (hfits : typeId.Fits)
    (subs : List Subscriber) (hslot : ∀ k, slotAt b'.routing k =
      if k = typeId.asU32.toNat then subs.map Subscriber.sender else slotAt b.routing k)
    (hown : ∀ i s, subs[i]? = some s → Agrees (b'.status.get (typeId, i)) s.timeouts)
    (hother : ∀ typeId' ≠ typeId, ∀ i, b'.status.get (typeId', i) = b.status.get (typeId', i)) :
    Tracks b' (update w typeId subs) := by
  constructor
  case slots =>
    intro typeId' hfits'
    by_cases heq : typeId' = typeId
    · subst heq
      rw [update_self]
      exact (hslot _).trans (if_pos rfl)
    · rw [update_of_ne heq, ← h.slots _ hfits']
      exact (hslot _).trans (if_neg fun hnum => heq (toNat_asU32_inj hfits' hfits hnum))
  case status =>
    intro typeId' hfits' i s hs
    by_cases heq : typeId' = typeId
    · subst heq
      rw [update_self] at hs
      exact hown i s hs
    · rw [update_of_ne heq] at hs
      rw [hother typeId' heq]
      exact h.status typeId' hfits' i s hs
  case numbered =>
    intro k slot hk hne
    have hthis := hslot k
    rw [slotAt, hk, Option.getD_some] at hthis
    split at hthis
    · rename_i heq
      rw [heq]
      exact typeId.asU32.toNat_lt
    · obtain ⟨slot', hk', hne'⟩ := lt_of_slotAt_ne_nil (hthis ▸ hne)
      exact h.numbered k slot' hk' hne'

lemma Tracks.wire (h : Tracks b w) (hfits : typeId.Fits)
    (hfree : b.status.get (typeId, (b.slot typeId).length) = .healthy) (tx : Nat)
    (scope : ScopeId) :
    Tracks (b.wireSubscriberScoped typeId tx scope) (w.wire typeId tx scope) := by
  refine h.update hfits _ (fun k => ?_) (fun i s hs => ?_) fun _ _ _ => rfl
  · rw [slotAt_wire, map_append, ← h.slots _ hfits]
    split
    · rename_i heq
      rw [heq]
      rfl
    · rfl
  · rw [getElem?_append] at hs
    split at hs
    · exact h.status _ hfits i s hs
    · rename_i hout
      have hlen : (b.slot typeId).length = (w typeId).length := by
        rw [h.slots _ hfits, length_map]
      have hi : i = (b.slot typeId).length := by
        have hlt := (List.getElem?_eq_some_iff.mp hs).1
        simp only [length_singleton] at hlt
        omega
      have hzero : s.timeouts = 0 := by
        rw [hi, hlen, Nat.sub_self] at hs
        cases hs
        rfl
      rw [hzero, hi]
      exact hfree ▸ Agrees.healthy

/-! ## Unwiring a scope -/

namespace SubscriberStatusTable
variable (t : SubscriberStatusTable) (key key' : SubKey)

lemma get_insert (status : SubscriberStatus) (cumulative : Table SubKey Nat) :
    get ⟨t.map.insert key status, cumulative⟩ key' =
      if key' = key then status else t.get key' := by
  simp only [get, Table.lookup_insert_if]
  split <;> rfl

lemma get_recordUnwired_of_ne {reason : UnwireReason} (hne : key' ≠ key) :
    (t.recordUnwired reason key atNs).get key' = t.get key' := by
  rw [recordUnwired, get_insert, if_neg hne]

end SubscriberStatusTable

lemma get_revokeSlot (hkey : ∀ s i, slot[i]? = some s → s.scope = scope →
      key ≠ (decodeType (UInt32.ofNat k), i)) :
    (ObservationBus.revokeSlot scope nowNs status (slot, k)).get key = status.get key := by
  refine foldlRecOn (motive := fun t => get t key = status.get key)
    _ _ rfl fun t ht entry hentry => ?_
  dsimp only
  split
  · rename_i hscope
    have hne := hkey entry.1 entry.2 (mem_zipIdx_iff_getElem?.mp hentry) hscope
    rw [recordScopeRevoked, get_recordUnwired_of_ne _ _ _ hne, ht]
  · exact ht

lemma get_unwireScope (h : Tracks b w)
    (hat : (b.slot typeId)[i]? = some s) (hscope : s.scope ≠ scope) :
    (b.routing.zipIdx.foldl (ObservationBus.revokeSlot scope nowNs) b.status).get (typeId, i) =
      b.status.get (typeId, i) := by
  refine foldlRecOn
    (motive := fun t => get t (typeId, i) = b.status.get (typeId, i))
    _ _ rfl fun t ht entry hentry => ?_
  obtain ⟨slot, k⟩ := entry
  have hk : b.routing[k]? = some slot := mem_zipIdx_iff_getElem?.mp hentry
  rw [get_revokeSlot, ht]
  rintro s' i' hs' hscope' heq
  obtain ⟨htype, rfl⟩ := Prod.mk.inj heq
  have hlt : k < 2 ^ 32 := h.numbered k slot hk (by rintro rfl; cases hs')
  -- A type is read back from the number of its slot.
  have hnum : typeId.asU32.toNat = k := by
    rw [htype, asU32_decodeType]
    exact UInt32.toNat_ofNat_of_lt' hlt
  rw [ObservationBus.slot, hnum, hk, Option.getD_some, hs'] at hat
  cases hat
  exact hscope hscope'

lemma Tracks.unwireScope (h : Tracks b w)
    (hends : ∀ slot ∈ b.routing, slot.Pairwise fun s s' => s.scope = scope → s'.scope = scope)
    (hscoped : scope ≠ unscoped) (nowNs : Nat) :
    Tracks (b.unwireScope scope nowNs) (w.unwireScope scope) := by
  have hslot : ∀ typeId : EventTypeId, (b.unwireScope scope nowNs).slot typeId =
      (b.slot typeId).filter fun s => s.scope ≠ scope := by
    intro typeId
    simp only [ObservationBus.slot, ObservationBus.unwireScope, if_neg hscoped, getElem?_map]
    cases b.routing[typeId.asU32.toNat]? <;> rfl
  rw [Subscriptions.unwireScope, if_neg hscoped]
  constructor
  case slots =>
    intro typeId hfits
    rw [hslot, h.slots typeId hfits, filter_map]
    rfl
  case status =>
    intro typeId hfits i s hs
    have hpairw : (w typeId).Pairwise fun s s' =>
        decide (s.scope = scope) = true → decide (s'.scope = scope) = true := by
      have hslots := h.slots typeId hfits
      have hpair : (b.slot typeId).Pairwise fun s s' => s.scope = scope → s'.scope = scope := by
        unfold ObservationBus.slot
        cases hk : b.routing[typeId.asU32.toNat]? with
        | none => exact List.Pairwise.nil
        | some slot => exact hends slot (mem_of_getElem? hk)
      rw [hslots, pairwise_map] at hpair
      exact hpair.imp fun himp hs => decide_eq_true (himp (of_decide_eq_true hs))
    obtain ⟨m, hm⟩ := filter_eq_take_of_pairwise hpairw
    have hfilter : (w typeId).filter (fun s => decide (s.scope ≠ scope)) = (w typeId).take m := by
      rw [← hm]
      congr
      funext s
      simp
    have hmem := mem_filter.mp (mem_of_getElem? hs)
    rw [hfilter, getElem?_take] at hs
    split at hs
    · have hat : (b.slot typeId)[i]? = some s.sender := by
        rw [h.slots typeId hfits, getElem?_map, hs]
        rfl
      have hne : s.sender.scope ≠ scope := of_decide_eq_true hmem.2
      rw [ObservationBus.unwireScope, if_neg hscoped, get_unwireScope h hat hne]
      exact h.status typeId hfits i s hs
    · cases hs
  case numbered =>
    intro k slot hk hne
    rw [ObservationBus.unwireScope, if_neg hscoped, getElem?_map] at hk
    obtain ⟨slot', hk', rfl⟩ := Option.map_eq_some_iff.mp hk
    exact h.numbered k slot' hk' (by rintro rfl; exact hne rfl)

/-! ## Publishing -/

def SubscriberStatus.expiring : SubscriberStatus → Bool
  | .degraded c => decide (maxLifecycleTimeoutsBeforeUnwire ≤ c + 1)
  | _ => false

def SubscriberStatus.timedOut : SubscriberStatus → SubscriberStatus
  | .healthy => .degraded 1
  | .degraded c => .degraded (c + 1)
  | status => status

namespace SubscriberStatusTable
variable (t : SubscriberStatusTable) (key key' : SubKey) (atNs : Nat)

lemma recordTimeout_snd : (t.recordTimeout key atNs).2 = (t.get key).expiring := by
  simp only [recordTimeout, get]
  cases (t.map.lookup key).getD .healthy with
  | degraded c =>
    simp only [expiring]
    split <;> simp_all
  | _ => rfl

lemma get_recordTimeout_of_ne (hne : key' ≠ key) :
    (t.recordTimeout key atNs).1.get key' = t.get key' := by
  simp only [recordTimeout]
  split
  · rfl
  · rw [get_insert, if_neg hne]
  · split <;> rw [get_insert, if_neg hne]

lemma get_recordTimeout_self (hlives : (t.get key).expiring = false) :
    (t.recordTimeout key atNs).1.get key = (t.get key).timedOut := by
  have hget : ∀ cumulative, get { t with cumulative } key = t.get key :=
    fun _ => rfl
  simp only [recordTimeout, hget]
  cases hstatus : t.get key with
  | healthy =>
    simp only [timedOut]
    rw [get_insert, if_pos rfl]
  | degraded c =>
    rw [hstatus] at hlives
    simp only [expiring, decide_eq_false_iff_not] at hlives
    simp only [if_neg hlives, timedOut]
    rw [get_insert, if_pos rfl]
  | unwired reason atNs totalTimeouts lastTimeoutAtNs => exact hstatus

lemma get_recordSuccess_of_ne (hne : key' ≠ key) :
    (t.recordSuccess key).get key' = t.get key' := by
  unfold recordSuccess
  split
  · rfl
  · rw [get_insert, if_neg hne]

lemma get_recordSuccess_self :
    (t.recordSuccess key).get key = if (t.get key).isUnwired then t.get key else .healthy := by
  unfold recordSuccess
  split
  · rfl
  · rw [get_insert, if_pos rfl]

lemma get_recordClosed_self :
    ∃ total, (t.recordClosed key atNs).get key = .unwired .channelClosed atNs total atNs :=
  ⟨_, by rw [recordClosed, recordUnwired, get_insert, if_pos rfl]⟩

end SubscriberStatusTable
section
variable {typeId : EventTypeId} {outcomes : Nat → Outcome} {atNs : Nat}

open ObservationBus

lemma get_recordAnswer_of_ne (status : SubscriberStatusTable) (idx : Nat) (key : SubKey)
    (hne : key ≠ (typeId, idx)) :
    (recordAnswer typeId outcomes atNs status idx).get key = status.get key := by
  unfold recordAnswer
  split
  · exact get_recordSuccess_of_ne _ _ _ hne
  · exact get_recordUnwired_of_ne _ _ _ hne
  · rfl

def recordLate (typeId : EventTypeId) (outcomes : Nat → Outcome) (atNs : Nat)
    (status : SubscriberStatusTable) (idx : Nat) : SubscriberStatusTable :=
  if outcomes idx = .timesOut then (status.recordTimeout (typeId, idx) atNs).1 else status

lemma get_recordLate_of_ne (status : SubscriberStatusTable) (idx : Nat) (key : SubKey)
    (hne : key ≠ (typeId, idx)) :
    (recordLate typeId outcomes atNs status idx).get key = status.get key := by
  unfold recordLate
  split
  · exact get_recordTimeout_of_ne _ _ _ _ hne
  · rfl

lemma recordTimeouts_fst (l : List Nat) (status : SubscriberStatusTable) :
    (recordTimeouts typeId outcomes atNs l status).1 =
      l.foldl (recordLate typeId outcomes atNs) status := by
  induction l generalizing status with
  | nil => rfl
  | cons idx rest ih =>
    rw [recordTimeouts, foldl_cons, recordLate]
    split
    · exact ih _
    · exact ih _

lemma recordTimeouts_snd (l : List Nat) (hl : l.Nodup) (status : SubscriberStatusTable) :
    (recordTimeouts typeId outcomes atNs l status).2 =
      l.filter fun idx =>
        decide (outcomes idx = .timesOut) && (status.get (typeId, idx)).expiring := by
  induction l generalizing status with
  | nil => rfl
  | cons idx rest ih =>
    obtain ⟨hidx, hrest⟩ := nodup_cons.mp hl
    rw [recordTimeouts, filter_cons]
    split
    · rename_i hlate
      -- The statuses of the other positions are as before.
      have hsame : ∀ i ∈ rest, ((status.recordTimeout (typeId, idx) atNs).1.get
          (typeId, i)).expiring = (status.get (typeId, i)).expiring := by
        intro i hi
        rw [get_recordTimeout_of_ne]
        rintro heq
        exact hidx ((Prod.mk.inj heq).2 ▸ hi)
      simp only [ih hrest, recordTimeout_snd, hlate, decide_true, Bool.true_and]
      rw [filter_congr fun i hi => by rw [hsame i hi]]
    · rename_i hearly
      rw [ih hrest]
      simp [hearly]

def published (b : ObservationBus) (typeId : EventTypeId) (outcomes : Nat → Outcome)
    (atNs : Nat) : SubscriberStatusTable :=
  let indices := range (b.slot typeId).length
  indices.foldl (recordLate typeId outcomes atNs)
    (indices.foldl (recordAnswer typeId outcomes atNs) b.status)

variable {b : ObservationBus}

lemma get_published_of_ne (hne : ∀ i, key ≠ (typeId, i)) :
    (published b typeId outcomes atNs).get key = b.status.get key := by
  rw [published, get_foldl_of_forall_ne get_recordLate_of_ne _ _ fun i _ => hne i,
    get_foldl_of_forall_ne get_recordAnswer_of_ne _ _ fun i _ => hne i]

lemma get_published {i : Nat} (hi : i < (b.slot typeId).length) :
    ∃ t t' : SubscriberStatusTable, t.get (typeId, i) = b.status.get (typeId, i) ∧
      t'.get (typeId, i) = (recordAnswer typeId outcomes atNs t i).get (typeId, i) ∧
      (published b typeId outcomes atNs).get (typeId, i) =
        (recordLate typeId outcomes atNs t' i).get (typeId, i) := by
  obtain ⟨t, ht, hans⟩ := @get_foldl_of_mem _ _ _ _ get
    (recordAnswer typeId outcomes atNs) _ get_recordAnswer_of_ne (Prod.mk_right_injective typeId)
    (range (b.slot typeId).length) b.status nodup_range i (mem_range.mpr hi)
  obtain ⟨t', ht', hlate⟩ := @get_foldl_of_mem _ _ _ _ get
    (recordLate typeId outcomes atNs) _ get_recordLate_of_ne (Prod.mk_right_injective typeId)
    (range (b.slot typeId).length)
    ((range (b.slot typeId).length).foldl (recordAnswer typeId outcomes atNs) b.status)
    nodup_range i (mem_range.mpr hi)
  exact ⟨t, t', ht, ht'.trans hans, hlate⟩

lemma Agrees.expiring_iff {status : SubscriberStatus} (h : Agrees status n) :
    status.expiring = true ↔ status = .degraded (maxLifecycleTimeoutsBeforeUnwire - 1) := by
  cases h with
  | degraded hpos hlt =>
    simp only [expiring, decide_eq_true_eq, degraded.injEq]
    omega
  | _ => simp [expiring]

lemma after_eq_none_iff {s : Subscriber} (hagr : Agrees (b.status.get (typeId, i)) s.timeouts)
    (hopen : outcomes i = .timesOut → (b.status.get (typeId, i)).isUnwired = false) :
    s.after (outcomes i) = none ↔ b.Expires typeId outcomes i := by
  unfold ObservationBus.Expires Subscriber.after
  cases houtc : outcomes i with
  | timesOut =>
    have hopen := hopen houtc
    generalize b.status.get (typeId, i) = status at hagr hopen
    generalize s.timeouts = n at hagr
    cases hagr with
    | closed => cases hopen
    | _ => simp [maxLifecycleTimeoutsBeforeUnwire]
  | _ => simp

lemma agrees_published {s s' : Subscriber} (hi : i < (b.slot typeId).length)
    (hagr : Agrees (b.status.get (typeId, i)) s.timeouts)
    (hopen : outcomes i = .timesOut → (b.status.get (typeId, i)).isUnwired = false)
    (hafter : s.after (outcomes i) = some s') :
    Agrees ((published b typeId outcomes atNs).get (typeId, i)) s'.timeouts := by
  obtain ⟨t, t', ht, ht', hpubl⟩ := @get_published typeId outcomes atNs b i hi
  rw [hpubl]
  unfold recordLate recordAnswer at *
  unfold Subscriber.after at hafter
  cases houtc : outcomes i with
  | accepts =>
    rw [houtc] at ht' hafter
    cases hafter
    rw [if_neg (by simp), ht', get_recordSuccess_self, ht]
    generalize b.status.get (typeId, i) = status at hagr
    generalize s.timeouts = n at hagr
    cases hagr with
    | closed => exact .closed
    | _ => exact .healthy
  | closed =>
    rw [houtc] at ht' hafter
    cases hafter
    obtain ⟨total, hclos⟩ := t.get_recordClosed_self (typeId, i) atNs
    rw [if_neg (by simp), ht', hclos]
    exact .closed
  | timesOut =>
    rw [houtc] at ht' hafter
    have hopen := hopen houtc
    have hstatus : t'.get (typeId, i) = b.status.get (typeId, i) := ht'.trans ht
    dsimp only at hafter
    split at hafter
    · cases hafter
    · rename_i hlives
      cases hafter
      rw [← hstatus] at hagr hopen
      rw [if_pos rfl, get_recordTimeout_self]
      · generalize t'.get (typeId, i) = status at hagr hopen
        generalize s.timeouts = n at hagr hlives
        cases hagr with
        | healthy => exact .degraded (by omega) (by decide)
        | degraded hpos hlt => exact .degraded (by omega) (by omega)
        | closed => cases hopen
      · rw [Bool.eq_false_iff, ne_eq, hagr.expiring_iff]
        intro hlast
        rw [hlast] at hagr
        generalize s.timeouts = n at hagr hlives
        cases hagr
        exact hlives rfl

lemma Subscriber.sender_after {s s' : Subscriber}
    (h : s.after outcome = some s') : s'.sender = s.sender := by
  unfold Subscriber.after at h
  split at h
  · cases h
    rfl
  · cases h
    rfl
  · split at h
    · cases h
    · cases h
      rfl

lemma unwired_eq_filter (h : Tracks b w) (hfits : typeId.Fits) :
    (recordTimeouts typeId outcomes atNs (range (b.slot typeId).length)
      ((range (b.slot typeId).length).foldl (recordAnswer typeId outcomes atNs)
        b.status)).2 =
      (range (b.slot typeId).length).filter fun i => b.Expires typeId outcomes i := by
  rw [recordTimeouts_snd _ nodup_range]
  refine filter_congr fun i hi => ?_
  by_cases hlate : outcomes i = .timesOut
  · -- Timeouts are recorded last, so the answers have not touched this status.
    obtain ⟨t, ht, hfold⟩ := @get_foldl_of_mem _ _ _ _ get
      (recordAnswer typeId outcomes atNs) _ get_recordAnswer_of_ne
      (Prod.mk_right_injective typeId) (range (b.slot typeId).length) b.status
      nodup_range i hi
    rw [recordAnswer, hlate] at hfold
    have hlt : i < (w typeId).length := by
      rw [← length_map Subscriber.sender, ← h.slots typeId hfits]
      exact mem_range.mp hi
    have hagr := h.status typeId hfits i _ (getElem?_eq_getElem hlt)
    rw [hfold, ht, Bool.eq_iff_iff, Bool.and_eq_true, hagr.expiring_iff, decide_eq_true_eq,
      decide_eq_true_eq]
    exact Iff.rfl
  · simp [hlate, ObservationBus.Expires]

lemma publishReliable_status :
    (b.publishReliable typeId outcomes atNs).1.status = published b typeId outcomes atNs := by
  simp only [publishReliable, recordTimeouts_fst, published]
  split <;> rfl

lemma slotAt_publish (h : Tracks b w) (hfits : typeId.Fits) (atNs : Nat)
    (hlen : m + k = (b.slot typeId).length)
    (hfilter : (range (b.slot typeId).length).filter (fun i => b.Expires typeId outcomes i) =
      range' m k) (slotIdx : Nat) :
    slotAt (b.publishReliable typeId outcomes atNs).1.routing slotIdx =
      if slotIdx = typeId.asU32.toNat then (b.slot typeId).take m
      else slotAt b.routing slotIdx := by
  simp only [publishReliable, unwired_eq_filter h hfits, hfilter]
  cases k with
  | zero =>
    rw [if_pos (by simp), take_of_length_le (by omega)]
    split
    · rename_i heq
      rw [heq]
      rfl
    · rfl
  | succ k =>
    have hrange : typeId.asU32.toNat < b.routing.length := by
      have hne : slotAt b.routing typeId.asU32.toNat ≠ [] := by
        intro hnil
        rw [show b.slot typeId = [] from hnil, length_nil] at hlen
        omega
      obtain ⟨slot, hslot, -⟩ := lt_of_slotAt_ne_nil hne
      exact (List.getElem?_eq_some_iff.mp hslot).1
    rw [if_neg (by simp), dropIndices, slotAt_modify hrange]
    split
    · rw [mergeSort_range']
      exact foldl_eraseIdx_reverse_range' _ m (k + 1) hlen.symm
    · rfl

lemma Tracks.publishReliable (h : Tracks b w) (hfits : typeId.Fits)
    (hopen : ∀ i < (b.slot typeId).length, outcomes i = .timesOut →
      (b.status.get (typeId, i)).isUnwired = false) (hends : ∀ j < (b.slot typeId).length, ∀ i < j,
      b.Expires typeId outcomes i → b.Expires typeId outcomes j) :
    Tracks (b.publishReliable typeId outcomes atNs).1 (w.publishReliable typeId outcomes) := by
  obtain ⟨m, k, hlen, hfilter, hexp⟩ := filter_range_eq_range'
    (q := fun i => decide (b.Expires typeId outcomes i)) (n := (b.slot typeId).length)
    fun i j hij hj hi => decide_eq_true (hends j hj i hij (of_decide_eq_true hi))
  simp only [decide_eq_true_eq] at hexp
  have hlen' : (b.slot typeId).length = (w typeId).length := by
    rw [h.slots typeId hfits, length_map]
  have hslot := slotAt_publish h hfits atNs hlen hfilter
  have hnone : ∀ s i, (w typeId)[i]? = some s →
      (s.after (outcomes i) = none ↔ m ≤ i) := by
    intro s i hs
    have hi : i < (b.slot typeId).length := by
      rw [hlen']
      exact (List.getElem?_eq_some_iff.mp hs).1
    rw [after_eq_none_iff (h.status typeId hfits i s hs) (hopen i hi), hexp i hi]
  have hsubs : w.publishReliable typeId outcomes = Function.update w typeId
      (((w typeId).take m).zipIdx.map fun entry =>
        (entry.1.after (outcomes entry.2)).getD entry.1) := by
    refine congrArg (Function.update w typeId) ?_
    refine filterMap_zipIdx_eq_map (fun s i hs hlt => ?_) fun s i hs hle => (hnone s i hs).mpr hle
    obtain ⟨s', hs'⟩ := Option.ne_none_iff_exists'.mp fun hgone =>
      absurd ((hnone s i hs).mp hgone) (not_le.mpr hlt)
    simp only [hs', Option.getD_some]
  have hsend : ∀ entry ∈ ((w typeId).take m).zipIdx,
      ((entry.1.after (outcomes entry.2)).getD entry.1).sender = entry.1.sender := by
    intro entry _
    cases hafter : entry.1.after (outcomes entry.2) with
    | none => rfl
    | some s' => exact Subscriber.sender_after hafter
  have hkept : (((w typeId).take m).zipIdx.map fun entry =>
      (entry.1.after (outcomes entry.2)).getD entry.1).map Subscriber.sender =
        ((w typeId).take m).map Subscriber.sender := by
    rw [map_map]
    refine (map_congr_left hsend).trans ?_
    conv_rhs => rw [← zipIdx_map_fst 0 ((w typeId).take m), map_map]
    rfl
  rw [hsubs]
  refine h.update hfits _ (fun k => ?_) (fun i s' hs' => ?_) fun typeId' hne i => ?_
  · rw [hslot, hkept, map_take, ← h.slots typeId hfits]
  · rw [publishReliable_status]
    rw [getElem?_map, getElem?_zipIdx, getElem?_take] at hs'
    split at hs'
    · rename_i hlt
      obtain ⟨entry, hentry, rfl⟩ := Option.map_eq_some_iff.mp hs'
      obtain ⟨s, hs, rfl⟩ := Option.map_eq_some_iff.mp hentry
      simp only [zero_add]
      have hi : i < (b.slot typeId).length := by
        rw [hlen']
        exact (List.getElem?_eq_some_iff.mp hs).1
      cases hafter : s.after (outcomes i) with
      | none => exact absurd ((hnone s i hs).mp hafter) (not_le.mpr hlt)
      | some s' =>
        exact agrees_published hi (h.status typeId hfits i s hs) (hopen i hi) hafter
    · cases hs'
  · rw [publishReliable_status, get_published_of_ne fun i hkey => hne (Prod.mk.inj hkey).1]

end

/-! ## Runs -/

lemma tracks_new : Tracks .new fun _ => [] := by
  have hempty : ∀ (k : Nat) slot, ObservationBus.new.routing[k]? = some slot → slot = [] := by
    intro k slot hk
    exact eq_of_mem_replicate (mem_of_getElem? hk)
  constructor
  case slots =>
    intro typeId _
    unfold ObservationBus.slot
    cases hk : ObservationBus.new.routing[typeId.asU32.toNat]? with
    | none => rfl
    | some slot => exact hempty _ slot hk
  case status => 
    intro _ _ _ _ hs
    cases hs
  case numbered => exact fun k slot hk hne => absurd (hempty k slot hk) hne

lemma Tracks.step {b : ObservationBus} {w : Subscriptions} (h : Tracks b w) {step : BusStep}
    (hok : InPlace b step) : Tracks (b.step step).1 (w.step step).1 := by
  cases step with
  | wire typeId tx scope => exact h.wire hok.1 hok.2 tx scope
  | unwireScope scope nowNs =>
    by_cases hscoped : scope = unscoped
    · simp only [ObservationBus.step, ObservationBus.unwireScope, Subscriptions.step,
        Subscriptions.unwireScope, if_pos hscoped]
      exact h
    · exact h.unwireScope (hok.resolve_left hscoped) hscoped nowNs
  | publishReliable typeId outcomes atNs =>
    exact h.publishReliable hok.1 hok.2.1 hok.2.2

/-- In a run whose steps all leave subscribers in place, the subscribers of every
event type are those that are left when each of them is unwired with its scope or
at its own eighth timeout in a row, and for no other reason. -/
theorem unwired_each_on_its_own (steps : List BusStep)
    (hsteps : Along ObservationBus.step (fun _ => InPlace) [] .new steps)
    (typeId : EventTypeId) (hfits : typeId.Fits) :
    (run ObservationBus.step .new steps).1.slot typeId =
      ((run Subscriptions.step (fun _ => []) steps).1 typeId).map Subscriber.sender :=
  (run_simulation (fun _ _ _ _ h hok => h.step hok) steps [] _ _ tracks_new hsteps).slots typeId
    hfits

def latePublications (n position : Nat) : List BusStep :=
  replicate n
    (.publishReliable (.core .flowClosed)
      (fun i => if i = position then .timesOut else .accepts) 0)

theorem late_subscriber_unwired :
    (run ObservationBus.step .new
      ([.wire (.core .flowClosed) 0 1, .wire (.core .flowClosed) 1 2] ++
        latePublications 8 1)).1.slot (.core .flowClosed) =
      ((run Subscriptions.step (fun _ => [])
        ([.wire (.core .flowClosed) 0 1, .wire (.core .flowClosed) 1 2] ++
          latePublications 8 1)).1 (.core .flowClosed)).map Subscriber.sender :=
  unwired_each_on_its_own _ (by decide +kernel) (.core .flowClosed) trivial

example :
    (run ObservationBus.step .new
      ([.wire (.core .flowClosed) 0 1, .wire (.core .flowClosed) 1 2] ++
        latePublications 8 1)).1.slot (.core .flowClosed) = [⟨0, 1⟩] := by
  decide +kernel

/-- With the first of three subscribers gone, the second is never unwired, and the
third goes at its first timeout for the seven of the second. -/
theorem subscribers_take_over_status :
    (run ObservationBus.step .new
      ([.wire (.core .flowClosed) 0 1, .wire (.core .flowClosed) 1 2, .unwireScope 1 0] ++
        latePublications 8 0)).1.slot (.core .flowClosed) = [⟨1, 2⟩] ∧
    (run Subscriptions.step (fun _ => [])
      ([.wire (.core .flowClosed) 0 1, .wire (.core .flowClosed) 1 2, .unwireScope 1 0] ++
        latePublications 8 0)).1 (.core .flowClosed) = [] ∧
    (run ObservationBus.step .new
      ([.wire (.core .flowClosed) 0 1, .wire (.core .flowClosed) 1 2,
        .wire (.core .flowClosed) 2 3] ++ latePublications 7 1 ++ [.unwireScope 1 0] ++
        latePublications 1 1)).1.slot (.core .flowClosed) = [⟨1, 2⟩] ∧
    (run Subscriptions.step (fun _ => [])
      ([.wire (.core .flowClosed) 0 1, .wire (.core .flowClosed) 1 2,
        .wire (.core .flowClosed) 2 3] ++ latePublications 7 1 ++ [.unwireScope 1 0] ++
        latePublications 1 1)).1 (.core .flowClosed) = [⟨1, 2, 0⟩, ⟨2, 3, 1⟩] := by
  decide +kernel

end MeshBus.Kernel
