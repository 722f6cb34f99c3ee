import Mathlib.Data.List.Forall2
import MeshBus.Lib.Bytes
import MeshBus.Lib.Checks

/-!
# Scanning a buffer

A scanner reads at a position of a buffer that stays in view as a whole, so that what is read
may refer back to it.  `Scans` says that a value is read wherever some octets stand in a
buffer, `Fails` that nothing is read there; both follow the structure of a scanner.
-/

namespace MeshBus.Lib

open List

/-- Read a value at a position of the buffer, and move on. -/
abbrev Scan (ε α : Type) := ReaderT Bytes (StateT Nat (Except ε)) α

namespace Scan
variable {ε α β : Type}

def runAt (r : Scan ε α) (buf : Bytes) (pos : Nat) : Except ε (α × Nat) := (r.run buf).run pos

def position : Scan ε Nat := fun _ pos => .ok (pos, pos)

def seek (pos : Nat) : Scan ε Unit := fun _ _ => .ok ((), pos)

/-- So many octets, or an error that says where they should have been. -/
def takeAt (short : Nat → ε) (n : Nat) : Scan ε Bytes := fun buf pos =>
  if buf.length < pos + n then .error (short pos) else .ok ((buf.drop pos).take n, pos + n)

def times : Nat → Scan ε α → Scan ε (List α)
  | 0, _ => pure []
  | n + 1, r => do
      let a ← r
      let as ← times n r
      pure (a :: as)

lemma runAt_pure :
    (pure a : Scan ε α).runAt buf pos = .ok (a, pos) := rfl

lemma runAt_bind (r : Scan ε α) (f : α → Scan ε β) (buf : Bytes) (pos : Nat) :
    (r >>= f).runAt buf pos = r.runAt buf pos >>= fun next => (f next.1).runAt buf next.2 := rfl

variable {bs buf : Bytes} {end_ pos : Nat} {r : Scan ε α}

lemma runAt_bind_of_ok (h : r.runAt buf pos = .ok (a, middle)) :
    (r >>= f).runAt buf pos = (f a).runAt buf middle := by
  rw [runAt_bind, h]
  rfl

lemma runAt_position_bind (f : Nat → Scan ε β) (buf : Bytes) (pos : Nat) :
    (position >>= f).runAt buf pos = (f pos).runAt buf pos := rfl

lemma runAt_bind_eq_ok (h : (r >>= f).runAt buf pos = .ok (b, end_)) :
    ∃ a middle, r.runAt buf pos = .ok (a, middle) ∧ (f a).runAt buf middle = .ok (b, end_) := by
  obtain ⟨next, hfirst, hrest⟩ := bind_eq_ok.mp h
  exact ⟨next.1, next.2, hfirst, hrest⟩

lemma runAt_times_succ_eq_ok (h : (times (n + 1) r).runAt buf pos = .ok (as, end_)) :
    ∃ a rest middle, as = a :: rest ∧ r.runAt buf pos = .ok (a, middle) ∧
      (times n r).runAt buf middle = .ok (rest, end_) := by
  obtain ⟨a, middle, hfirst, h⟩ := runAt_bind_eq_ok h
  obtain ⟨rest, last, hrest, h⟩ := runAt_bind_eq_ok h
  cases h
  exact ⟨a, rest, middle, rfl, hfirst, hrest⟩

lemma runAt_takeAt_eq_ok (h : (takeAt short n).runAt buf pos = .ok (bs, end_)) :
    bs = (buf.drop pos).take n ∧ bs.length = n ∧ end_ = pos + n := by
  change takeAt short n buf pos = _ at h
  rw [takeAt] at h
  split_ifs at h with hshort
  cases h
  refine ⟨rfl, ?_, rfl⟩
  rw [length_take, length_drop]
  omega

lemma length_of_runAt_times (h : (times n r).runAt buf pos = .ok (as, end_)) : as.length = n := by
  induction n generalizing as pos with
  | zero =>
    cases h
    rfl
  | succ n ih =>
    obtain ⟨a, rest, middle, rfl, -, hrest⟩ := runAt_times_succ_eq_ok h
    rw [length_cons, ih hrest]

lemma forall₂_of_runAt_times {r' : Scan ε β} (hr : ∀ pos a end_, r.runAt buf pos = .ok (a, end_) →
      ∃ b, r'.runAt buf pos = .ok (b, end_) ∧ R a b)
    (h : (times n r).runAt buf pos = .ok (as, end_)) :
    ∃ bs, (times n r').runAt buf pos = .ok (bs, end_) ∧ List.Forall₂ R as bs := by
  induction n generalizing as pos with
  | zero =>
    cases h
    exact ⟨[], rfl, .nil⟩
  | succ n ih =>
    obtain ⟨a, rest, middle, rfl, hfirst, hrest⟩ := runAt_times_succ_eq_ok h
    obtain ⟨b, hb, hab⟩ := hr _ _ _ hfirst
    obtain ⟨bs, hbs, hall⟩ := ih hrest
    refine ⟨b :: bs, ?_, .cons hab hall⟩
    rw [times, runAt_bind_of_ok hb, runAt_bind_of_ok hbs, runAt_pure]

lemma runAt_times_add {bs : List α} (h : (times n r).runAt buf pos = .ok (as, middle))
    (h' : (times k r).runAt buf middle = .ok (bs, end_)) :
    (times (n + k) r).runAt buf pos = .ok (as ++ bs, end_) := by
  induction n generalizing as pos with
  | zero =>
    obtain ⟨rfl, rfl⟩ := Prod.mk.inj (Except.ok.inj h)
    rw [Nat.zero_add, h', nil_append]
  | succ n ih =>
    obtain ⟨a, rest, next, rfl, hfirst, hrest⟩ := runAt_times_succ_eq_ok h
    rw [Nat.add_right_comm, times, runAt_bind_of_ok hfirst, runAt_bind_of_ok (ih hrest)]
    rfl

lemma forall_mem_of_forall₂ {P : α → Prop} {Q : β → Prop}
    (hR : ∀ a b, R a b → P a → Q b) {bs : List β} (h : List.Forall₂ R as bs) (has : ∀ a ∈ as, P a) :
    ∀ b ∈ bs, Q b := by
  induction h with
  | nil => exact forall_mem_nil _
  | cons hab _ ih =>
    obtain ⟨ha, hrest⟩ := forall_mem_cons.mp has
    exact forall_mem_cons.mpr ⟨hR _ _ hab ha, ih hrest⟩

/-! ## Octets that stand in the buffer -/

def At (buf : Bytes) (pos : Nat) (bs : Bytes) : Prop := bs <+: buf.drop pos

lemma At.append (h : At buf pos (bs ++ bs')) : At buf pos bs ∧ At buf (pos + bs.length) bs' := by
  obtain ⟨tail, htail⟩ := h
  refine ⟨⟨bs' ++ tail, by rw [← htail, append_assoc]⟩, tail, ?_⟩
  rw [← drop_drop, ← htail, append_assoc, drop_left]

lemma At.take (h : At buf pos bs) : (buf.drop pos).take bs.length = bs := by
  obtain ⟨tail, htail⟩ := h
  rw [← htail, take_left]

lemma At.length_le (h : At buf pos bs) (hne : bs ≠ []) : pos + bs.length ≤ buf.length := by
  have hle := List.IsPrefix.length_le h
  rw [length_drop] at hle
  have hpos : 0 < bs.length := length_pos_iff.mpr hne
  omega

lemma At.getElem (h : At buf pos (b :: bs)) (hlt : pos < buf.length) : buf[pos] = b := by
  obtain ⟨tail, htail⟩ := h
  have hsome : buf[pos]? = some b := by
    rw [← add_zero pos, ← getElem?_drop, ← htail]
    rfl
  rw [getElem?_eq_getElem hlt] at hsome
  exact Option.some.inj hsome

lemma at_self (bs : Bytes) : At bs 0 bs := prefix_rfl

/-- The value is read wherever the octets stand, and the position moves behind them. -/
def Scans (r : Scan ε α) (bs : Bytes) (a : α) : Prop :=
  ∀ buf pos, At buf pos bs → r.runAt buf pos = .ok (a, pos + bs.length)

lemma Scans.pure (a : α) : Scans (Pure.pure a : Scan ε α) [] a := fun _ _ _ => rfl

lemma Scans.runAt_bind (h : Scans r bs a) (hat : At buf pos bs) :
    (r >>= f).runAt buf pos = (f a).runAt buf (pos + bs.length) :=
  runAt_bind_of_ok (h buf pos hat)

lemma Scans.bind (h : Scans r bs a) (h' : Scans (f a) bs' b) : Scans (r >>= f) (bs ++ bs') b := by
  intro buf pos hat
  obtain ⟨hfirst, hrest⟩ := hat.append
  rw [h.runAt_bind hfirst, h' buf _ hrest, length_append, add_assoc]

lemma Scans.last (h : Scans r bs a) (h' : Scans (f a) [] b) : Scans (r >>= f) bs b := by
  rw [← append_nil bs]
  exact h.bind h'

lemma scans_takeAt {short : Nat → ε} (hne : bs ≠ []) : Scans (takeAt short bs.length) bs bs := by
  intro buf pos hat
  have hle := hat.length_le hne
  show takeAt short bs.length buf pos = _
  rw [takeAt, if_neg (by omega), hat.take]

lemma scans_times (h : List.Forall₂ (Scans r) bss as) :
    Scans (times as.length r) bss.flatten as := by
  induction h with
  | nil => exact Scans.pure []
  | cons hfirst _ ih =>
    exact hfirst.bind (ih.last (Scans.pure _))

end Scan
end MeshBus.Lib
