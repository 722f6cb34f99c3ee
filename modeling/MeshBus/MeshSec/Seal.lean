import MeshBus.Lib.Aead
import MeshBus.MeshSec.Replay

/-!
# Sealing and opening MeshSec packets

Key derivation, `seal_bytes` and `open_bytes`.  HKDF, HMAC and the AEAD are the
parameter `Primitives`; everything else is the code's own.
-/

namespace MeshBus.MeshSec

open Lib

structure Primitives where
  hkdf : (salt : Option Bytes) → (ikm info : Bytes) → Bytes
  hmac : (key msg : Bytes) → Octets 32
  aead : Aead

/-- Sender-side sealing material for one adjacent peer. -/
structure MeshSecSealContext where
  localNodeId : String
  remoteNodeId : String
  staticKey : Octets 32
  bootSalt : Octets 4
  deriving DecidableEq

/-- Receiver-side opening material for one configured peer key. -/
structure MeshSecOpenKey where
  peerId : String
  remoteNodeId : String
  staticKey : Octets 32
  deriving DecidableEq

/-- Direction tag both peers compute from the ordered pair of node ids. -/
def meshsecDirection (senderId receiverId : String) : String :=
  if senderId ≤ receiverId then "ab" else "ba"

def meshsecNonce (counter : UInt64) : Bytes := u64le counter ++ zeroOctets 16

def meshsecEpochNumber (nowUnixSecs : UInt64) : UInt64 := nowUnixSecs / meshsecEpochSeconds

def epochLow (epoch : UInt64) : UInt8 := epoch.toUInt8

section
variable (P : Primitives)

def deriveReceiverHint (staticKey : Octets 32) (epoch : UInt64) : Octets 8 :=
  let kHint := P.hkdf none staticKey.toList (utf8 "meshsec/v1/hint")
  firstOctets 8 (P.hmac kHint (u64le epoch)).toList

def deriveEpochKey (staticKey : Octets 32) (epoch : UInt64) : Bytes :=
  P.hkdf (some (u64le epoch)) staticKey.toList (utf8 "meshsec/v1/epoch")

def deriveSenderKey (epochKey : Bytes) (senderId direction : String) (bootSalt : Octets 4) :
    Bytes :=
  P.hkdf (some (utf8 senderId)) epochKey
    (utf8 "meshsec/v1/dir/" ++ utf8 direction ++ bootSalt.toList)

/-- `K_tx`, as both sides derive it. -/
def deriveTxKey (staticKey : Octets 32) (epoch : UInt64) (senderId receiverId : String)
    (bootSalt : Octets 4) : Bytes :=
  deriveSenderKey P (deriveEpochKey P staticKey epoch) senderId
    (meshsecDirection senderId receiverId) bootSalt

end
section
variable (P : Primitives)

def sealHeader (ctx : MeshSecSealContext) (epoch counter : UInt64) : MeshSecEnvelopeHeader where
  versionFlags := meshsecVersionV1
  receiverHint := deriveReceiverHint P ctx.staticKey epoch
  epochLow := epochLow epoch
  bootSalt := ctx.bootSalt
  counter := counter

def sealBytes (clear : Bytes) (ctx : MeshSecSealContext) (epoch counter : UInt64) :
    Except MeshSecError Bytes := do
  let plain ← packMeshsecPlaintext clear
  let out := encodeMeshsecHeader (sealHeader P ctx epoch counter)
  let kTx := deriveTxKey P ctx.staticKey epoch ctx.localNodeId ctx.remoteNodeId ctx.bootSalt
  match P.aead.encrypt kTx (meshsecNonce counter) out plain with
  | none => .error .auth
  | some cipher => .ok (out ++ cipher)

def meshsecTryDecrypt (key : MeshSecOpenKey) (localNodeId : String) (epoch : UInt64)
    (header : MeshSecEnvelopeHeader) (aad ciphertext : Bytes) : Option Bytes :=
  if deriveReceiverHint P key.staticKey epoch ≠ header.receiverHint then
    none
  else
    let kTx := deriveTxKey P key.staticKey epoch key.remoteNodeId localNodeId header.bootSalt
    P.aead.decrypt kTx (meshsecNonce header.counter) aad ciphertext

def epochRange (lo hi : UInt64) : List UInt64 :=
  (List.range' lo.toNat (hi.toNat + 1 - lo.toNat)).map UInt64.ofNat

/-- The two nested loops of `open_bytes`: the first epoch and key that decrypt. -/
def firstOpening (keys : List MeshSecOpenKey) (localNodeId : String) (epochs : List UInt64)
    (header : MeshSecEnvelopeHeader) (aad ciphertext : Bytes) :
    Option (UInt64 × MeshSecOpenKey × Bytes) :=
  epochs.findSome? fun epoch =>
    if epochLow epoch ≠ header.epochLow then
      none
    else
      keys.findSome? fun key =>
        (meshsecTryDecrypt P key localNodeId epoch header aad ciphertext).map
          fun plain => (epoch, key, plain)

/-- Open a packet to its clear bytes.  The replay cache is only reached after a
successful decryption. -/
def openBytes {windowBits : Nat} (packet : Bytes) (keys : List MeshSecOpenKey)
    (localNodeId : String) (acceptedEpoch : UInt64 × UInt64)
    (replay : MeshSecReplayCache windowBits) :
    MeshSecReplayCache windowBits × Except MeshSecError (String × Bytes) :=
  match decodeMeshsecHeader packet with
  | .error e => (replay, .error e)
  | .ok header =>
    match firstOpening P keys localNodeId (epochRange acceptedEpoch.1 acceptedEpoch.2) header
        (packet.take meshsecHeaderLen) (packet.drop meshsecHeaderLen) with
    | none => (replay, .error .auth)
    | some (epoch, key, plain) =>
      let checked := replay.checkAndInsert ⟨key.peerId, epoch, header.bootSalt⟩
        header.counter.toNat
      (checked.1, do
        checked.2
        let clear ← unpackMeshsecPlaintext plain
        pure (key.peerId, clear))

end

/-! ## Derived keys -/

lemma utf8_meshsecDirection_length : (utf8 (meshsecDirection a b)).length = 2 := by
  unfold meshsecDirection
  split <;> decide

lemma deriveTxKey_inj (hkdf : KdfInjective P.hkdf)
    (h : deriveTxKey P key epoch sender receiver salt =
      deriveTxKey P key' epoch' sender' receiver' salt') :
    key = key' ∧ epoch = epoch' ∧ sender = sender' ∧
      meshsecDirection sender receiver = meshsecDirection sender' receiver' ∧ salt = salt' := by
  obtain ⟨hsnd, hepoc, hinfo⟩ := hkdf h
  obtain ⟨hepoch, hkey, -⟩ := hkdf hepoc
  rw [List.append_assoc] at hinfo
  have htail := List.append_cancel_left hinfo
  have hlen : (utf8 (meshsecDirection sender receiver)).length =
      (utf8 (meshsecDirection sender' receiver')).length := by
    rw [utf8_meshsecDirection_length, utf8_meshsecDirection_length]
  obtain ⟨hdir, hsalt⟩ := List.append_inj htail hlen
  exact ⟨Vector.toList_inj.mp hkey, u64le_injective (Option.some.inj hepoch),
    utf8_injective (Option.some.inj hsnd), utf8_injective hdir,
    Vector.toList_inj.mp hsalt⟩

lemma mem_epochRange : epoch ∈ epochRange lo hi ↔ lo ≤ epoch ∧ epoch ≤ hi := by
  have hhi : hi.toNat < 2 ^ 64 := hi.toNat_lt
  simp only [epochRange, List.mem_map, List.mem_range'_1, UInt64.le_iff_toNat_le]
  constructor
  · rintro ⟨n, hn, rfl⟩
    have hn64 : n < 2 ^ 64 := by omega
    rw [UInt64.toNat_ofNat_of_lt' hn64]
    omega
  · intro h
    exact ⟨epoch.toNat, by omega, by simp⟩

/-! ## The search for an opening key -/

section

lemma firstOpening_sound
    (h : firstOpening P keys localNodeId epochs header aad cipher = some (epoch, key, plain)) :
    epoch ∈ epochs ∧ key ∈ keys ∧
      meshsecTryDecrypt P key localNodeId epoch header aad cipher = some plain := by
  obtain ⟨epoch', hepoch, hinner⟩ := List.exists_of_findSome?_eq_some h
  split at hinner
  · cases hinner
  · obtain ⟨key', hkey, hhit⟩ := List.exists_of_findSome?_eq_some hinner
    rw [Option.map_eq_some_iff] at hhit
    obtain ⟨plain', hplain, heq⟩ := hhit
    cases heq
    exact ⟨hepoch, hkey, hplain⟩

lemma firstOpening_ne_none
    (hepoch : epoch ∈ epochs) (hlow : epochLow epoch = header.epochLow) (hkey : key ∈ keys)
    (hplain : meshsecTryDecrypt P key localNodeId epoch header aad cipher = some plain) :
    firstOpening P keys localNodeId epochs header aad cipher ≠ none := by
  intro hnone
  rw [firstOpening, List.findSome?_eq_none_iff] at hnone
  have hinner := hnone epoch hepoch
  rw [if_neg (not_not.mpr hlow), List.findSome?_eq_none_iff] at hinner
  have hhit := hinner key hkey
  rw [hplain] at hhit
  cases hhit

end
end MeshBus.MeshSec
