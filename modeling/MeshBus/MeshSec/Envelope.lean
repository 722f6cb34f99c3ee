import MeshBus.Lib.Bytes

/-!
# The MeshSec envelope

The fixed 22-octet outer header and the padded inner plaintext of a MeshSec
packet: `u16 real_len BE || clear bytes || zero padding`, in the smallest bucket
that holds it.
-/

namespace MeshBus.MeshSec

open Lib List

def meshsecVersionV1 : UInt8 := 0x01
def meshsecHeaderLen : Nat := 22
def meshsecTagLen : Nat := 16
def meshsecFixedOverhead : Nat := 38
def meshsecEpochSeconds : UInt64 := 600
def meshsecAcceptedEpochSkewSlots : UInt64 := 1
def meshsecReplayWindowBits : Nat := 1024
def meshsecPaddingBuckets : List Nat := [128, 384, 1024]
def meshsecMaxClearLen : Nat := 1024 - 2

inductive MeshSecError where
  | truncated
  | unsupportedVersion (versionFlags : UInt8)
  | payloadTooLarge
  | auth
  | replay
  | replayTooOld
  /-- The serializer's own message is not modelled. -/
  | serialize
  deriving DecidableEq

/-- Every field of the outer header is additional data of the AEAD. -/
structure MeshSecEnvelopeHeader where
  versionFlags : UInt8
  receiverHint : Octets 8
  epochLow : UInt8
  bootSalt : Octets 4
  counter : UInt64
  deriving DecidableEq

def encodeMeshsecHeader (header : MeshSecEnvelopeHeader) : Bytes :=
  header.versionFlags :: (header.receiverHint.toList ++
    header.epochLow :: (header.bootSalt.toList ++ u64le header.counter))

def decodeMeshsecHeader (packet : Bytes) : Except MeshSecError MeshSecEnvelopeHeader :=
  if packet.length < meshsecFixedOverhead then
    .error .truncated
  else
    let versionFlags := packet.getD 0 0
    if versionFlags ≠ meshsecVersionV1 then
      .error (.unsupportedVersion versionFlags)
    else
      .ok {
        versionFlags
        receiverHint := firstOctets 8 (packet.drop 1)
        epochLow := packet.getD 9 0
        bootSalt := firstOctets 4 (packet.drop 10)
        counter := ofU64le ((packet.drop 14).take 8) }

/-- Smallest padding bucket that holds `2 + clearLen` octets. -/
def meshsecBucketLen (clearLen : Nat) : Except MeshSecError Nat :=
  match meshsecPaddingBuckets.find? (fun b => decide (clearLen + 2 ≤ b)) with
  | some b => .ok b
  | none => .error .payloadTooLarge

def packMeshsecPlaintext (clear : Bytes) : Except MeshSecError Bytes :=
  if meshsecMaxClearLen < clear.length then
    .error .payloadTooLarge
  else do
    let bucket ← meshsecBucketLen clear.length
    pure (beBytes 2 clear.length ++ clear ++ zeroOctets (bucket - (2 + clear.length)))

def unpackMeshsecPlaintext (plain : Bytes) : Except MeshSecError Bytes :=
  if plain.length < 2 then
    .error .truncated
  else
    let real := ofBeBytes (plain.take 2)
    if plain.length < 2 + real then
      .error .truncated
    else
      .ok ((plain.drop 2).take real)

/-! ## Header round trip -/

@[simp] lemma length_encodeMeshsecHeader (header : MeshSecEnvelopeHeader) :
    (encodeMeshsecHeader header).length = meshsecHeaderLen := by
  simp [encodeMeshsecHeader, meshsecHeaderLen]

lemma decodeMeshsecHeader_append (header : MeshSecEnvelopeHeader) (body : Bytes)
    (hver : header.versionFlags = meshsecVersionV1) (hbody : meshsecTagLen ≤ body.length) :
    decodeMeshsecHeader (encodeMeshsecHeader header ++ body) = .ok header := by
  have hlen : ¬ (encodeMeshsecHeader header ++ body).length < meshsecFixedOverhead := by
    rw [length_append, length_encodeMeshsecHeader]
    simp only [meshsecTagLen, meshsecHeaderLen, meshsecFixedOverhead] at *
    omega
  have hdrop10 : (encodeMeshsecHeader header ++ body).drop 10 =
      header.bootSalt.toList ++ (u64le header.counter ++ body) := by
    simp [encodeMeshsecHeader, drop_append]
  have hdrop14 : (encodeMeshsecHeader header ++ body).drop 14 =
      u64le header.counter ++ body := by
    simp [encodeMeshsecHeader, drop_append]
  rw [decodeMeshsecHeader, if_neg hlen, hdrop10, hdrop14]
  simp [encodeMeshsecHeader, ← hver]

/-! ## Padding -/

lemma meshsecBucketLen_ok (h : clearLen ≤ meshsecMaxClearLen) :
    ∃ b, meshsecBucketLen clearLen = .ok b ∧ b ∈ meshsecPaddingBuckets ∧
      clearLen + 2 ≤ b ∧ ∀ b' ∈ meshsecPaddingBuckets, clearLen + 2 ≤ b' → b ≤ b' := by
  simp only [meshsecMaxClearLen] at h
  unfold meshsecBucketLen meshsecPaddingBuckets
  by_cases h128 : clearLen + 2 ≤ 128
  · exact ⟨128, by simp [find?, h128], by simp, h128, by simp⟩
  · by_cases h384 : clearLen + 2 ≤ 384
    · refine ⟨384, by simp [find?, h128, h384], by simp, h384, ?_⟩
      intro b' hb' hle
      simp at hb'
      omega
    · have h1024 : clearLen + 2 ≤ 1024 := by omega
      refine ⟨1024, by simp [find?, h128, h384, h1024], by simp, h1024, ?_⟩
      intro b' hb' hle
      simp at hb'
      omega

lemma packMeshsecPlaintext_ok (hclear : clear.length ≤ meshsecMaxClearLen)
    (hbkt : meshsecBucketLen clear.length = .ok bucket) :
    packMeshsecPlaintext clear =
      .ok (beBytes 2 clear.length ++ clear ++ zeroOctets (bucket - (2 + clear.length))) := by
  rw [packMeshsecPlaintext, if_neg (not_lt.mpr hclear), hbkt]
  rfl

lemma packMeshsecPlaintext_eq_ok (h : packMeshsecPlaintext clear = .ok plain) :
    clear.length ≤ meshsecMaxClearLen ∧ ∃ bucket,
      meshsecBucketLen clear.length = .ok bucket ∧ plain.length = bucket ∧
      plain = beBytes 2 clear.length ++ clear ++ zeroOctets (bucket - (2 + clear.length)) := by
  by_cases hclear : meshsecMaxClearLen < clear.length
  · simp [packMeshsecPlaintext, hclear] at h
  · obtain ⟨bucket, hbkt, -, hfits, -⟩ := meshsecBucketLen_ok (not_lt.mp hclear)
    rw [packMeshsecPlaintext_ok (not_lt.mp hclear) hbkt] at h
    injection h with h
    refine ⟨not_lt.mp hclear, bucket, hbkt, ?_, h.symm⟩
    rw [← h]
    simp
    omega

lemma unpack_of_pack (h : packMeshsecPlaintext clear = .ok plain) :
    unpackMeshsecPlaintext plain = .ok clear := by
  obtain ⟨hclear, bucket, -, -, rfl⟩ := packMeshsecPlaintext_eq_ok h
  simp only [meshsecMaxClearLen] at hclear
  have hreal : ofBeBytes ((beBytes 2 clear.length ++ clear ++
      zeroOctets (bucket - (2 + clear.length))).take 2) = clear.length := by
    rw [append_assoc, take_append_of_le_length (by simp),
      take_of_length_le (by simp), ofBeBytes_beBytes (by omega)]
  have hdrop : (beBytes 2 clear.length ++ clear ++
      zeroOctets (bucket - (2 + clear.length))).drop 2 =
        clear ++ zeroOctets (bucket - (2 + clear.length)) := by
    rw [append_assoc, drop_append_of_le_length (by simp),
      drop_of_length_le (by simp), nil_append]
  have hlen : (beBytes 2 clear.length ++ clear ++ zeroOctets (bucket - (2 + clear.length))).length =
        2 + clear.length + (bucket - (2 + clear.length)) := by
    simp [add_assoc]
  rw [unpackMeshsecPlaintext, hreal, hdrop, if_neg (by omega), if_neg (by omega),
    take_append_of_le_length (le_rfl), take_length]

end MeshBus.MeshSec
