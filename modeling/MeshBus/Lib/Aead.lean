import Mathlib.Data.Set.Basic
import MeshBus.Lib.Bytes

/-!
# Ideal primitives

Authenticated encryption and key derivation as parameters.  `Aead.Ideal log`
idealises an AEAD relative to the encryptions `log` that honest parties ask for:
those open again, nothing else opens, and a ciphertext of `log` cannot be bent
into another one by touching a single octet.  Key derivation is ideal when it is
injective; derived keys are byte strings of any length here, since no function
into 32 octets is injective.
-/

namespace MeshBus.Lib

open List Option

structure Aead where
  encrypt : (key nonce aad msg : Bytes) → Option Bytes
  decrypt : (key nonce aad cipher : Bytes) → Option Bytes

namespace Aead

/-- The inputs of one encryption. -/
structure Query where
  key : Bytes
  nonce : Bytes
  aad : Bytes
  msg : Bytes
  deriving DecidableEq

def answer (aead : Aead) (q : Query) : Option Bytes :=
  aead.encrypt q.key q.nonce q.aad q.msg

structure Ideal (aead : Aead) (tagLen : Nat) (log : Set Query) : Prop where
  total : ∀ q ∈ log, ∃ cipher, aead.answer q = some cipher ∧
    cipher.length = q.msg.length + tagLen
  correct : ∀ q ∈ log, ∀ cipher, aead.answer q = some cipher →
    aead.decrypt q.key q.nonce q.aad cipher = some q.msg
  authentic : ∀ key nonce aad cipher msg, aead.decrypt key nonce aad cipher = some msg →
    (⟨key, nonce, aad, msg⟩ : Query) ∈ log ∧
      aead.answer ⟨key, nonce, aad, msg⟩ = some cipher
  isolated : ∀ q ∈ log, ∀ q' ∈ log, ∀ cipher i b,
    aead.answer q = some cipher → aead.answer q' = some (cipher.set i b) → q' = q

lemma Ideal.cipher_injective {aead : Aead}
    (h : aead.Ideal tagLen log) (hq : q ∈ log) (hq' : q' ∈ log)
    (hc : aead.answer q = some cipher) (hc' : aead.answer q' = some cipher) : q' = q := by
  refine h.isolated q hq q' hq' cipher cipher.length 0 hc ?_
  rw [set_eq_of_length_le (le_rfl)]
  exact hc'

def entryTag (tagLen i : Nat) : Bytes := replicate tagLen (UInt8.ofNat i)

/-- The AEAD of a finite list of honest encryptions: the tag names the entry, and
only the ciphertexts of entries open. -/
def codebook (qs : List Query) (tagLen : Nat) : Aead where
  encrypt key nonce aad msg :=
    some (msg ++ entryTag tagLen (qs.idxOf ⟨key, nonce, aad, msg⟩))
  decrypt key nonce aad cipher :=
    (qs.find? fun q => q.key = key ∧ q.nonce = nonce ∧ q.aad = aad ∧
      q.msg ++ entryTag tagLen (qs.idxOf q) = cipher).map Query.msg

@[simp] lemma length_entryTag : (entryTag tagLen i).length = tagLen := by
  simp [entryTag]

lemma entryTag_set_inj (htag : 2 ≤ tagLen) (hi : i < 256) (hj : j < 256)
    (h : entryTag tagLen j = (entryTag tagLen i).set k b) : j = i := by
  -- One of the first two octets is untouched.
  have hkeep : ∃ n < 2, n ≠ k := by
    by_cases hk : k = 0
    · exact ⟨1, by omega, by omega⟩
    · exact ⟨0, by omega, by omega⟩
  obtain ⟨n, hn, hnk⟩ := hkeep
  have hoctet := congrArg (fun bs : Bytes => bs[n]?) h
  simp only [entryTag, getElem?_set, if_neg (Ne.symm hnk)] at hoctet
  rw [getElem?_replicate_of_lt (by omega), getElem?_replicate_of_lt (by omega)] at hoctet
  have hnat := congrArg UInt8.toNat (Option.some.inj hoctet)
  rw [UInt8.toNat_ofNat_of_lt' hj, UInt8.toNat_ofNat_of_lt' hi] at hnat
  exact hnat

lemma codebook_ideal (htag : 2 ≤ tagLen)
    (hlen : qs.length ≤ 256) : (codebook qs tagLen).Ideal tagLen {q | q ∈ qs} where
  total := by
    intro q _
    exact ⟨_, rfl, by simp⟩
  correct := by
    intro q hq cipher hciph
    cases hciph
    have hsome : (qs.find? fun q' => q'.key = q.key ∧ q'.nonce = q.nonce ∧ q'.aad = q.aad ∧
        q'.msg ++ entryTag tagLen (qs.idxOf q') =
          q.msg ++ entryTag tagLen (qs.idxOf q)).isSome = true := by
      rw [find?_isSome]
      exact ⟨q, hq, by simp⟩
    obtain ⟨q', hfound⟩ := isSome_iff_exists.mp hsome
    have hmatch := find?_some hfound
    simp only [decide_eq_true_eq] at hmatch
    have hmsg : q'.msg = q.msg := (append_inj' hmatch.2.2.2 (by simp)).1
    simp only [codebook]
    rw [hfound, map_some, hmsg]
  authentic := by
    intro key nonce aad cipher msg h
    obtain ⟨q, hfound, rfl⟩ := map_eq_some_iff.mp h
    have hmatch := find?_some hfound
    simp only [decide_eq_true_eq] at hmatch
    obtain ⟨rfl, rfl, rfl, rfl⟩ := hmatch
    exact ⟨mem_of_find?_eq_some hfound, rfl⟩
  isolated := by
    intro q hq q' hq' cipher i b hciph hciph'
    cases hciph
    have hindex : qs.idxOf q < 256 := lt_of_lt_of_le (idxOf_lt_length_of_mem hq) hlen
    have hindex' : qs.idxOf q' < 256 := lt_of_lt_of_le (idxOf_lt_length_of_mem hq') hlen
    have hset : q'.msg ++ entryTag tagLen (qs.idxOf q') =
        (q.msg ++ entryTag tagLen (qs.idxOf q)).set i b := Option.some.inj hciph'
    have htags : ∃ k c, entryTag tagLen (qs.idxOf q') = (entryTag tagLen (qs.idxOf q)).set k c := by
      rw [set_append] at hset
      split at hset
      · have htag' := (append_inj' hset (by simp)).2
        exact ⟨tagLen, 0, by rw [set_eq_of_length_le (by simp), htag']⟩
      · exact ⟨_, b, (append_inj' hset (by simp)).2⟩
    obtain ⟨k, c, hk⟩ := htags
    exact (idxOf_inj hq').mp (entryTag_set_inj htag hindex hindex' hk)

end Aead

/-! ## Key derivation -/

/-- An extract-and-expand function `(salt, ikm, info) ↦ okm` without collisions. -/
def KdfInjective (kdf : Option Bytes → Bytes → Bytes → Bytes) : Prop :=
  ∀ ⦃salt ikm info salt' ikm' info'⦄, kdf salt ikm info = kdf salt' ikm' info' →
    salt = salt' ∧ ikm = ikm' ∧ info = info'

/-- A self-delimiting copy of a byte string: every octet is marked, then a stop. -/
def delimit (bs : Bytes) : Bytes := bs.flatMap (fun b => [1, b]) ++ [0]

lemma delimit_append_inj {xs ys rest rest' : Bytes}
    (h : delimit xs ++ rest = delimit ys ++ rest') : xs = ys ∧ rest = rest' := by
  induction xs generalizing ys with
  | nil =>
    cases ys with
    | nil => simpa [delimit] using h
    | cons y ys => simp [delimit] at h
  | cons x xs ih =>
    cases ys with
    | nil => simp [delimit] at h
    | cons y ys =>
      simp only [delimit, flatMap_cons, cons_append, nil_append,
        cons.injEq, true_and, append_assoc] at h
      obtain ⟨rfl, htail⟩ := h
      obtain ⟨rfl, rfl⟩ := ih (by simpa [delimit] using htail)
      exact ⟨rfl, rfl⟩

/-- A collision-free derivation that writes its inputs out. -/
def transcriptKdf (salt : Option Bytes) (ikm info : Bytes) : Bytes :=
  (match salt with
    | none => [0]
    | some s => 1 :: delimit s) ++ (delimit ikm ++ delimit info)

lemma transcriptKdf_injective : KdfInjective transcriptKdf := by
  intro salt ikm info salt' ikm' info' h
  have hrest : ∀ {a b c d : Bytes}, delimit a ++ delimit b = delimit c ++ delimit d →
      a = c ∧ b = d := by
    intro a b c d hab
    obtain ⟨hac, hbd⟩ := delimit_append_inj hab
    exact ⟨hac, (@delimit_append_inj b d [] [] (by simpa using hbd)).1⟩
  cases salt <;> cases salt' <;> simp [transcriptKdf] at h ⊢
  · exact hrest h
  · obtain ⟨hsalt, htail⟩ := delimit_append_inj h
    exact ⟨hsalt, hrest htail⟩

end MeshBus.Lib
