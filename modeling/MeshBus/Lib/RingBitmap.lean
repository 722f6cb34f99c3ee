import Mathlib.Order.Bounds.Basic

/-!
# Ring bitmaps

A bitmap of `n` 64-bit words addressed by an unbounded counter: counter `c`
lives at bit `c % (n * 64)`.  Two counters share a bit exactly when they are
congruent, so the bitmap can only speak about a window of `n * 64` consecutive
counters.  `Tracks ring h S` says that it speaks the truth about the window
that ends at `h`: every counter of that window is set exactly when it is in `S`.
-/

namespace MeshBus.Lib

/-- `n` words of 64 bits, addressed modulo `n * 64`. -/
structure Ring (n : Nat) where
  words : Vector (BitVec 64) n

namespace Ring
variable {n : Nat}

def zero (n : Nat) : Ring n := ⟨Vector.replicate n 0⟩

open List Nat

def index (n c : Nat) : Nat := c % (n * 64)

lemma index_div_lt (hn : 0 < n) : index n c / 64 < n :=
  Nat.div_lt_of_lt_mul (by
    rw [Nat.mul_comm]
    exact mod_lt _ (by omega))

def word (ring : Ring n) (c : Nat) : BitVec 64 :=
  ring.words[index n c / 64]?.getD 0

def mask (n c : Nat) : BitVec 64 := 1#64 <<< (index n c % 64)

def test (ring : Ring n) (c : Nat) : Bool := ring.word c &&& mask n c != 0

def set (ring : Ring n) (c : Nat) : Ring n :=
  ⟨ring.words.setIfInBounds (index n c / 64) (ring.word c ||| mask n c)⟩

def clear (ring : Ring n) (c : Nat) : Ring n :=
  ⟨ring.words.setIfInBounds (index n c / 64) (ring.word c &&& ~~~mask n c)⟩

/-! ## Reading a bit back -/

private lemma twoPow_ne_zero (hi : i < 64) : BitVec.twoPow 64 i ≠ 0#64 := by
  rw [← BitVec.toNat_inj.ne, BitVec.toNat_twoPow_of_lt hi]
  exact (Nat.two_pow_pos i).ne'

lemma test_eq_getLsbD (ring : Ring n) (c : Nat) :
    ring.test c = (ring.word c).getLsbD (index n c % 64) := by
  have hlt : index n c % 64 < 64 := mod_lt _ (by decide)
  rw [test, mask, ← BitVec.twoPow_eq, BitVec.and_twoPow, Bool.eq_iff_iff, bne_iff_ne]
  by_cases hbit : (ring.word c).getLsbD (index n c % 64) = true
  · rw [if_pos hbit]
    exact iff_of_true (twoPow_ne_zero hlt) hbit
  · rw [if_neg hbit]
    exact iff_of_false (fun hne => hne rfl) hbit

lemma getLsbD_mask : (mask n c).getLsbD i = (decide (i < 64) && decide (i = index n c % 64)) := by
  unfold mask
  rw [← BitVec.twoPow_eq]
  by_cases hi : i = index n c % 64
  · subst hi
    simp
  · simp [hi, Ne.symm hi]

@[simp] lemma test_zero {c : Nat} : (zero n).test c = false := by
  rw [test_eq_getLsbD, word, Ring.zero]
  by_cases h : index n c / 64 < n
  · simp [h]
  · simp [h]

private lemma word_put (hn : 0 < n) {ring : Ring n} :
    word ⟨ring.words.setIfInBounds (index n c / 64) v⟩ d =
      if index n c / 64 = index n d / 64 then v else ring.word d := by
  unfold word
  by_cases h : index n c / 64 = index n d / 64
  · simp [h, index_div_lt hn]
  · simp [h]

private lemma index_eq_iff :
    index n c = index n d ↔ index n c / 64 = index n d / 64 ∧ index n d % 64 = index n c % 64 := by
  omega

lemma test_set (hn : 0 < n) (ring : Ring n) (c d : Nat) :
    (ring.set c).test d = (ring.test d || decide (index n c = index n d)) := by
  have hlt : index n d % 64 < 64 := mod_lt _ (by decide)
  rw [test_eq_getLsbD, test_eq_getLsbD, set, word_put hn]
  by_cases hw : index n c / 64 = index n d / 64
  · have hword : ring.word c = ring.word d := by simp [word, hw]
    rw [if_pos hw, BitVec.getLsbD_or, getLsbD_mask, hword]
    simp [index_eq_iff, hw, hlt]
  · simp [index_eq_iff, hw]

lemma test_clear (hn : 0 < n) {ring : Ring n} :
    (ring.clear c).test d = (ring.test d && !decide (index n c = index n d)) := by
  have hlt : index n d % 64 < 64 := mod_lt _ (by decide)
  rw [test_eq_getLsbD, test_eq_getLsbD, clear, word_put hn]
  by_cases hw : index n c / 64 = index n d / 64
  · have hword : ring.word c = ring.word d := by simp [word, hw]
    rw [if_pos hw, BitVec.getLsbD_and, BitVec.getLsbD_not, getLsbD_mask, hword]
    simp [index_eq_iff, hw, hlt]
  · simp [index_eq_iff, hw]

lemma test_foldl_clear (hn : 0 < n) (ring : Ring n) (cs : List Nat) (d : Nat) :
    (cs.foldl clear ring).test d = (ring.test d && !decide (∃ c ∈ cs, index n c = index n d)) := by
  induction cs generalizing ring with
  | nil => simp
  | cons c cs ih =>
    rw [foldl_cons, ih, test_clear hn, Bool.and_assoc]
    simp

/-! ## The window a ring speaks about -/

lemma index_inj (h : index n c = index n d) (hcd : c < d + n * 64)
    (hdc : d < c + n * 64) : c = d := by
  rcases le_total c d with hle | hle
  · have hmod := sub_mod_eq_zero_of_mod_eq h.symm
    rw [mod_eq_of_lt (by omega)] at hmod
    omega
  · have hmod := sub_mod_eq_zero_of_mod_eq h
    rw [mod_eq_of_lt (by omega)] at hmod
    omega

/-- Every counter of the window ending at `h` is set exactly when it is in `S`. -/
def Tracks (ring : Ring n) (h : Nat) (S : Set Nat) : Prop :=
  ∀ d, d ≤ h → h < d + n * 64 → (ring.test d = true ↔ d ∈ S)

lemma Tracks.set_inside (hn : 0 < n) {ring : Ring n}
    (ht : Tracks ring h S) (hc : c ≤ h) (hw : h < c + n * 64) :
    Tracks (ring.set c) h (insert c S) := by
  intro d hd hdw
  have hindex : index n c = index n d ↔ d = c :=
    ⟨fun hidx => (index_inj hidx (by omega) (by omega)).symm, fun hdc => by rw [hdc]⟩
  rw [test_set hn, Bool.or_eq_true, decide_eq_true_iff, ht d hd hdw, hindex,
    Set.mem_insert_iff, or_comm]

lemma Tracks.reset (hn : 0 < n) (hS : ∀ d ∈ S, d ≤ h) (hjump : h + n * 64 ≤ c) :
    Tracks ((zero n).set c) c (insert c S) := by
  have hzero : Tracks (zero n) c S := by
    intro d _ hdw
    rw [test_zero]
    constructor
    · intro hfalse
      cases hfalse
    · intro hmem
      have := hS d hmem
      omega
  exact hzero.set_inside hn le_rfl (by omega)

lemma Tracks.advance (hn : 0 < n) {ring : Ring n}
    (ht : Tracks ring h S) (hS : ∀ d ∈ S, d ≤ h) (hlt : h < c) (hjump : c < h + n * 64) :
    Tracks (((range' (h + 1) (c - (h + 1))).foldl clear ring).set c) c (insert c S) := by
  intro d hd hdw
  rw [test_set hn, test_foldl_clear hn]
  rcases lt_or_ge h d with hnew | hold
  · -- A new counter: cleared by the loop unless it is `c` itself.
    have hnot : d ∉ S := fun hmem => by
      have := hS d hmem
      omega
    by_cases hdc : d = c
    · simp [hdc]
    · have hclear : ∃ e ∈ range' (h + 1) (c - (h + 1)), index n e = index n d :=
        ⟨d, by simp only [mem_range'_1]; omega, rfl⟩
      have hindex : index n c ≠ index n d := fun hidx =>
        hdc (index_inj hidx (by omega) (by omega)).symm
      simp [-mem_range'_1, hclear, hindex, hnot, hdc]
  · -- An old counter: none of the touched bits is congruent to it.
    have hkept : ¬ ∃ e ∈ range' (h + 1) (c - (h + 1)), index n e = index n d := by
      rintro ⟨e, he, hidx⟩
      simp only [mem_range'_1] at he
      have := index_inj hidx (by omega) (by omega)
      omega
    have hindex : index n c ≠ index n d := fun hidx => by
      have := index_inj hidx (by omega) (by omega)
      omega
    have hdc : d ≠ c := by omega
    simp [-mem_range'_1, hkept, hindex, hdc, ht d hold (by omega)]

end Ring
end MeshBus.Lib
