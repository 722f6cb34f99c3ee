import MeshBus.MeshSec.Seal

/-!
# MeshSec opens exactly what was sealed for it

The theorems are relative to a set `calls` of `seal_bytes` calls, the only ones
anybody makes, and to primitives that are ideal for them.  A sealed packet opens
once at its receiver and is a replay from then on; a packet nobody sealed for the
receiver is refused before the replay cache is touched, and so is every sealed
packet with one octet changed.
-/

namespace MeshBus.MeshSec

open Lib List Except

/-- The arguments of one `seal_bytes` call. -/
structure SealCall where
  clear : Bytes
  ctx : MeshSecSealContext
  epoch : UInt64
  counter : UInt64

namespace SealCall
variable (P : Primitives) (call : SealCall)

def packet : Except MeshSecError Bytes :=
  sealBytes P call.clear call.ctx call.epoch call.counter

/-- The `K_tx` the call encrypts under. -/
def txKey : Bytes :=
  deriveTxKey P call.ctx.staticKey call.epoch call.ctx.localNodeId call.ctx.remoteNodeId
    call.ctx.bootSalt

def header : Bytes := encodeMeshsecHeader (sealHeader P call.ctx call.epoch call.counter)

def query (plain : Bytes) : Aead.Query where
  key := call.txKey P
  nonce := meshsecNonce call.counter
  aad := call.header P
  msg := plain

end SealCall

def sealLog (P : Primitives) (calls : Set SealCall) : Set Aead.Query :=
  {q | ∃ call ∈ calls, ∃ plain,
    packMeshsecPlaintext call.clear = .ok plain ∧ q = call.query P plain}

/-- HKDF has no collisions and the AEAD is ideal for the sealed packets. -/
structure IdealFor (P : Primitives) (calls : Set SealCall) : Prop where
  kdf : KdfInjective P.hkdf
  aead : P.aead.Ideal meshsecTagLen (sealLog P calls)

/-- The packet comes from a call under one of the receiver's keys, from the node
that key belongs to, in the receiver's direction and in an accepted epoch. -/
def ProducedFor (P : Primitives) (calls : Set SealCall) (keys : List MeshSecOpenKey)
    (localNodeId : String) (acceptedEpoch : UInt64 × UInt64) (packet : Bytes) : Prop :=
  ∃ call ∈ calls, call.packet P = .ok packet ∧
    acceptedEpoch.1 ≤ call.epoch ∧ call.epoch ≤ acceptedEpoch.2 ∧
    ∃ key ∈ keys, call.ctx.staticKey = key.staticKey ∧
      call.ctx.localNodeId = key.remoteNodeId ∧
      meshsecDirection call.ctx.localNodeId call.ctx.remoteNodeId =
        meshsecDirection key.remoteNodeId localNodeId

def openStep (P : Primitives) {windowBits : Nat} (keys : List MeshSecOpenKey)
    (localNodeId : String) (acceptedEpoch : UInt64 × UInt64)
    (replay : MeshSecReplayCache windowBits) (packet : Bytes) :
    MeshSecReplayCache windowBits × Except MeshSecError (String × Bytes) :=
  openBytes P packet keys localNodeId acceptedEpoch replay

section
variable {P : Primitives} {calls : Set SealCall}

lemma packet_eq_ok (ideal : IdealFor P calls) (hcall : call ∈ calls)
    (hpack : packMeshsecPlaintext call.clear = .ok plain) :
    ∃ cipher, P.aead.answer (call.query P plain) = some cipher ∧
      cipher.length = plain.length + meshsecTagLen ∧
      call.packet P = .ok (call.header P ++ cipher) := by
  obtain ⟨cipher, hciph, hlen⟩ := ideal.aead.total _ ⟨call, hcall, plain, hpack, rfl⟩
  refine ⟨cipher, hciph, hlen, ?_⟩
  have hencr : P.aead.encrypt (call.txKey P) (meshsecNonce call.counter) (call.header P) plain =
      some cipher := hciph
  simp only [SealCall.packet, sealBytes, hpack]
  simp only [SealCall.txKey, SealCall.header] at hencr
  simp [bind, Except.bind, hencr, SealCall.header]

variable {packet : Bytes} {keys : List MeshSecOpenKey} {key : MeshSecOpenKey} {windowBits : Nat}
  {localNodeId : String} {acceptedEpoch : UInt64 × UInt64}

lemma pack_of_packet {call : SealCall} (h : call.packet P = .ok packet) :
    ∃ plain, packMeshsecPlaintext call.clear = .ok plain := by
  cases hpack : packMeshsecPlaintext call.clear with
  | ok plain => exact ⟨plain, rfl⟩
  | error e => simp [SealCall.packet, sealBytes, hpack, bind, Except.bind] at h

lemma length_header {call : SealCall} : (call.header P).length = meshsecHeaderLen :=
  length_encodeMeshsecHeader _

section
variable (ideal : IdealFor P calls)
include ideal

lemma tryDecrypt_eq_some
    (h : meshsecTryDecrypt P key localNodeId epoch header aad cipher = some plain) :
    ∃ call ∈ calls, packMeshsecPlaintext call.clear = .ok plain ∧
      P.aead.answer (call.query P plain) = some cipher ∧ aad = call.header P ∧
      key.staticKey = call.ctx.staticKey ∧ epoch = call.epoch ∧
      key.remoteNodeId = call.ctx.localNodeId ∧
      meshsecDirection key.remoteNodeId localNodeId =
        meshsecDirection call.ctx.localNodeId call.ctx.remoteNodeId := by
  unfold meshsecTryDecrypt at h
  split at h
  · cases h
  · obtain ⟨⟨call, hcall, plain', hpack, hquery⟩, hansw⟩ := ideal.aead.authentic _ _ _ _ _ h
    rw [hquery] at hansw
    injection hquery with hkey hnonce haad hmsg
    obtain ⟨hstat, hepoch, hsnd, hdir, -⟩ := deriveTxKey_inj ideal.kdf hkey
    subst hmsg
    exact ⟨call, hcall, hpack, hansw, haad, hstat, hepoch, hsnd, hdir⟩

lemma producedFor_of_firstOpening
    (h : firstOpening P keys localNodeId (epochRange acceptedEpoch.1 acceptedEpoch.2) header
      (packet.take meshsecHeaderLen) (packet.drop meshsecHeaderLen) = some hit) :
    ProducedFor P calls keys localNodeId acceptedEpoch packet := by
  obtain ⟨epoch, key, plain⟩ := hit
  obtain ⟨hepoch, hkey, hplain⟩ := firstOpening_sound h
  obtain ⟨call, hcall, hpack, hansw, haad, hstat, rfl, hsnd, hdir⟩ :=
    tryDecrypt_eq_some ideal hplain
  obtain ⟨cipher, hciph, -, hpacket⟩ := packet_eq_ok ideal hcall hpack
  have hsame : cipher = packet.drop meshsecHeaderLen := Option.some.inj (hciph.symm.trans hansw)
  rw [hsame, ← haad, take_append_drop] at hpacket
  obtain ⟨hlo, hhi⟩ := mem_epochRange.mp hepoch
  exact ⟨call, hcall, hpacket, hlo, hhi, key, hkey, hstat.symm, hsnd.symm, hdir.symm⟩

lemma openBytes_refused (h : ¬ ProducedFor P calls keys localNodeId acceptedEpoch packet)
    (replay : MeshSecReplayCache windowBits) :
    ∃ e, openBytes P packet keys localNodeId acceptedEpoch replay = (replay, .error e) := by
  unfold openBytes
  split
  · exact ⟨_, rfl⟩
  · split
    · exact ⟨_, rfl⟩
    · rename_i hit
      exact absurd (producedFor_of_firstOpening ideal hit) h

lemma producedFor_of_openBytes
    (h : (openBytes P packet keys localNodeId acceptedEpoch replay).2 = .ok opened) :
    ProducedFor P calls keys localNodeId acceptedEpoch packet := by
  by_contra hnot
  obtain ⟨e, he⟩ := openBytes_refused ideal hnot replay
  rw [he] at h
  cases h

lemma clear_of_openBytes (hcall : call ∈ calls) (hpacket : call.packet P = .ok packet)
    (h : (openBytes P packet keys localNodeId acceptedEpoch replay).2 = .ok (peerId, clear)) :
    clear = call.clear := by
  obtain ⟨plain, hpack⟩ := pack_of_packet hpacket
  obtain ⟨cipher, hciph, -, hok⟩ := packet_eq_ok ideal hcall hpack
  obtain rfl : call.header P ++ cipher = packet := by
    rw [hpacket] at hok
    exact (ok.inj hok).symm
  unfold openBytes at h
  split at h
  · cases h
  · split at h
    · cases h
    · rename_i epoch key plain' hit
      obtain ⟨-, -, hplain'⟩ := firstOpening_sound hit
      rw [drop_left' length_header] at hplain'
      obtain ⟨call', hcall', hpack', hciph', -⟩ := tryDecrypt_eq_some ideal hplain'
      have hsame : call'.query P plain' = call.query P plain :=
        ideal.aead.cipher_injective ⟨call, hcall, plain, hpack, rfl⟩
          ⟨call', hcall', plain', hpack', rfl⟩ hciph hciph'
      injection hsame with _ _ _ hmsg
      rw [hmsg, unpack_of_pack hpack] at h
      dsimp only at h
      generalize (replay.checkAndInsert _ _).2 = checked at h
      cases checked with
      | error e => cases h
      | ok _ =>
        cases h
        rfl

lemma txMaterial_of_packet_eq
    (hcall : call ∈ calls) (hcall' : call' ∈ calls) (hpacket : call.packet P = .ok packet)
    (hpkt' : call'.packet P = .ok packet) :
    call'.ctx.staticKey = call.ctx.staticKey ∧ call'.epoch = call.epoch ∧
      call'.ctx.localNodeId = call.ctx.localNodeId := by
  obtain ⟨plain, hpack⟩ := pack_of_packet hpacket
  obtain ⟨plain', hpack'⟩ := pack_of_packet hpkt'
  obtain ⟨cipher, hciph, -, hok⟩ := packet_eq_ok ideal hcall hpack
  obtain ⟨cipher', hciph', -, hok'⟩ := packet_eq_ok ideal hcall' hpack'
  have hbytes : call.header P ++ cipher = call'.header P ++ cipher' := by
    rw [hpacket] at hok
    rw [hpkt'] at hok'
    exact (ok.inj hok).symm.trans (ok.inj hok')
  obtain ⟨-, rfl⟩ := append_inj hbytes (by rw [length_header, length_header])
  have hsame : call'.query P plain' = call.query P plain :=
    ideal.aead.cipher_injective ⟨call, hcall, plain, hpack, rfl⟩
      ⟨call', hcall', plain', hpack', rfl⟩ hciph hciph'
  obtain ⟨hstat, hepoch, hsnd, -, -⟩ := deriveTxKey_inj ideal.kdf (congrArg Aead.Query.key hsame)
  exact ⟨hstat, hepoch, hsnd⟩

end

def OpensCall (call : SealCall) (key : MeshSecOpenKey) : Prop :=
  key.staticKey = call.ctx.staticKey ∧ key.remoteNodeId = call.ctx.localNodeId

section
variable (ideal : IdealFor P calls) (hcall : call ∈ calls)
include ideal hcall

/-- At its receiver, the first epoch and key that open a sealed packet are the
epoch and a key it was sealed under. -/
lemma firstOpening_sealed (hpack : packMeshsecPlaintext call.clear = .ok plain)
    (hciph : P.aead.answer (call.query P plain) = some cipher) (hkey : key ∈ keys)
    (hopens : OpensCall call key) (hepoch : call.epoch ∈ epochs) :
    ∃ key' ∈ keys, OpensCall call key' ∧
      firstOpening P keys call.ctx.remoteNodeId epochs
        (sealHeader P call.ctx call.epoch call.counter) (call.header P) cipher =
          some (call.epoch, key', plain) := by
  have hquery : call.query P plain ∈ sealLog P calls := ⟨call, hcall, plain, hpack, rfl⟩
  have hdecr : meshsecTryDecrypt P key call.ctx.remoteNodeId call.epoch
      (sealHeader P call.ctx call.epoch call.counter) (call.header P) cipher = some plain := by
    have hopen := ideal.aead.correct _ hquery cipher hciph
    simp only [SealCall.query, SealCall.txKey] at hopen
    simp [meshsecTryDecrypt, sealHeader, hopens.1, hopens.2, hopen]
  obtain ⟨⟨epoch', key', plain'⟩, hhit⟩ := Option.ne_none_iff_exists'.mp
    (firstOpening_ne_none hepoch rfl hkey hdecr)
  obtain ⟨-, hkey', hplain'⟩ := firstOpening_sound hhit
  obtain ⟨call', hcall', hpack', hciph', -, hstat', rfl, hsnd', -⟩ :=
    tryDecrypt_eq_some ideal hplain'
  -- Both openings are of one ciphertext, so they are of one query.
  have hsame : call'.query P plain' = call.query P plain :=
    ideal.aead.cipher_injective hquery ⟨call', hcall', plain', hpack', rfl⟩ hciph hciph'
  injection hsame with htx _ _ hmsg
  obtain ⟨hstat, hepoc, hsend, -, -⟩ := deriveTxKey_inj ideal.kdf htx
  refine ⟨key', hkey', ⟨hstat'.trans hstat, hsnd'.trans hsend⟩, ?_⟩
  rw [hhit, hepoc, hmsg]

section
variable (hpacket : call.packet P = .ok packet) (hkey : key ∈ keys) (hopens : OpensCall call key)
include hpacket hkey hopens

/-- Opening a sealed packet at its receiver is a call to the replay cache, under
the peer id of a key that opens it. -/
lemma openBytes_sealed_of_some (hlo : acceptedEpoch.1 ≤ call.epoch)
    (hhi : call.epoch ≤ acceptedEpoch.2) (replay : MeshSecReplayCache windowBits) :
    ∃ key' ∈ keys, OpensCall call key' ∧
      let checked := replay.checkAndInsert ⟨key'.peerId, call.epoch, call.ctx.bootSalt⟩
        call.counter.toNat
      openBytes P packet keys call.ctx.remoteNodeId acceptedEpoch replay =
        (checked.1, checked.2.map fun _ => (key'.peerId, call.clear)) := by
  obtain ⟨plain, hpack⟩ := pack_of_packet hpacket
  obtain ⟨cipher, hciph, hlen, hok⟩ := packet_eq_ok ideal hcall hpack
  obtain rfl : call.header P ++ cipher = packet := by
    rw [hpacket] at hok
    exact (ok.inj hok).symm
  have hhdr : decodeMeshsecHeader (call.header P ++ cipher) =
      .ok (sealHeader P call.ctx call.epoch call.counter) :=
    decodeMeshsecHeader_append _ _ rfl (by omega)
  have htake : (call.header P ++ cipher).take meshsecHeaderLen = call.header P :=
    take_left' length_header
  have hdrop : (call.header P ++ cipher).drop meshsecHeaderLen = cipher := drop_left' length_header
  obtain ⟨key', hkey', hopen', hfirst⟩ := firstOpening_sealed ideal hcall hpack hciph hkey
    hopens (mem_epochRange.mpr ⟨hlo, hhi⟩)
  refine ⟨key', hkey', hopen', ?_⟩
  intro checked
  unfold openBytes
  rw [hhdr]
  simp only [htake, hdrop, hfirst, unpack_of_pack hpack]
  change (checked.1, do checked.2; pure (key'.peerId, call.clear)) = _
  cases checked.2 <;> rfl

section
variable (hpeer : ∀ key' ∈ keys, OpensCall call key' → key'.peerId = key.peerId)
  (hlo : acceptedEpoch.1 ≤ call.epoch) (hhi : call.epoch ≤ acceptedEpoch.2)
include hpeer hlo hhi

lemma openBytes_sealed (replay : MeshSecReplayCache windowBits) :
    let checked := replay.checkAndInsert ⟨key.peerId, call.epoch, call.ctx.bootSalt⟩
      call.counter.toNat
    openBytes P packet keys call.ctx.remoteNodeId acceptedEpoch replay =
      (checked.1, checked.2.map fun _ => (key.peerId, call.clear)) := by
  obtain ⟨key', hkey', hopen', hopen⟩ :=
    openBytes_sealed_of_some ideal hcall hpacket hkey hopens hlo hhi replay
  rw [hpeer key' hkey' hopen'] at hopen
  exact hopen

lemma run_openStep_replicate (hw : 0 < windowBits) (n : Nat) :
    (run (openStep P keys call.ctx.remoteNodeId acceptedEpoch)
      (MeshSecReplayCache.new windowBits) (replicate (n + 1) packet)).2 =
        .ok (key.peerId, call.clear) :: replicate n (.error .replay) := by
  let window : ReplayKey := ⟨key.peerId, call.epoch, call.ctx.bootSalt⟩
  have hopen := fun replay : MeshSecReplayCache windowBits => openBytes_sealed ideal hcall hpacket
    hkey hopens hpeer hlo hhi replay
  have hlater : ∀ (n : Nat) (replay : MeshSecReplayCache windowBits),
      replay.Spent window call.counter.toNat →
      (run (openStep P keys call.ctx.remoteNodeId acceptedEpoch) replay
        (replicate n packet)).2 = replicate n (.error .replay) := by
    intro n
    induction n with
    | zero => intro replay _; rfl
    | succ n ih =>
      intro replay hspent
      obtain ⟨hansw, hnext⟩ := MeshSecReplayCache.checkAndInsert_spent hw hspent
      rw [replicate_succ, run_cons, openStep, hopen, replicate_succ, hansw]
      simp only [cons.injEq]
      exact ⟨rfl, ih _ hnext⟩
  obtain ⟨hansw, hspent⟩ := MeshSecReplayCache.checkAndInsert_fresh
    (MeshSecReplayCache.new windowBits) window call.counter.toNat (by simp [Window.new])
  rw [replicate_succ, run_cons, openStep, hopen]
  simp only [cons.injEq]
  exact ⟨rfl, hlater n _ hspent⟩

end
end

lemma packet_set_ne
    (hcall' : call' ∈ calls) (hpacket : call.packet P = .ok packet) (i : Nat) (b : UInt8)
    (hchange : packet.set i b ≠ packet) : call'.packet P ≠ .ok (packet.set i b) := by
  intro hpkt'
  obtain ⟨plain, hpack⟩ := pack_of_packet hpacket
  obtain ⟨plain', hpack'⟩ := pack_of_packet hpkt'
  obtain ⟨cipher, hciph, -, hok⟩ := packet_eq_ok ideal hcall hpack
  obtain ⟨cipher', hciph', -, hok'⟩ := packet_eq_ok ideal hcall' hpack'
  have hq : call.query P plain ∈ sealLog P calls := ⟨call, hcall, plain, hpack, rfl⟩
  have hq' : call'.query P plain' ∈ sealLog P calls := ⟨call', hcall', plain', hpack', rfl⟩
  have hbytes : packet = call.header P ++ cipher := ok.inj (hpacket.symm.trans hok)
  have hbyt' : packet.set i b = call'.header P ++ cipher' := ok.inj (hpkt'.symm.trans hok')
  -- In both halves the changed packet has a ciphertext within one octet of the old one.
  have hnear : ∃ j, cipher' = cipher.set j b := by
    rw [hbytes, set_append] at hbyt'
    split at hbyt'
    · obtain ⟨-, hcip⟩ := append_inj hbyt' (by simp [length_header])
      exact ⟨cipher.length, by rw [set_eq_of_length_le (le_rfl), hcip]⟩
    · obtain ⟨-, hcip⟩ := append_inj hbyt' (by simp [length_header])
      exact ⟨_, hcip.symm⟩
  obtain ⟨j, rfl⟩ := hnear
  have hsame : call'.query P plain' = call.query P plain :=
    ideal.aead.isolated _ hq _ hq' cipher j b hciph hciph'
  have hhdr : call'.header P = call.header P := congrArg Aead.Query.aad hsame
  rw [hsame, hciph] at hciph'
  rw [← Option.some.inj hciph', hhdr, ← hbytes] at hbyt'
  exact hchange hbyt'

end

/-- MeshSec opens exactly what was sealed for it. -/
theorem openBytes_exact (ideal : IdealFor P calls) :
    -- A clear text that fits is sealed into the smallest bucket, opens once, then is a replay.
    (∀ call ∈ calls, call.clear.length ≤ meshsecMaxClearLen →
      ∃ b packet, b ∈ meshsecPaddingBuckets ∧ call.clear.length + 2 ≤ b ∧
        (∀ b' ∈ meshsecPaddingBuckets, call.clear.length + 2 ≤ b' → b ≤ b') ∧
        call.packet P = .ok packet ∧ packet.length = meshsecFixedOverhead + b ∧
        ∀ (keys : List MeshSecOpenKey) (key : MeshSecOpenKey) (acceptedEpoch : UInt64 × UInt64)
          (windowBits n : Nat),
          (keys.map fun k => (k.staticKey, k.remoteNodeId)).Nodup → key ∈ keys →
          key.staticKey = call.ctx.staticKey → key.remoteNodeId = call.ctx.localNodeId →
          acceptedEpoch.1 ≤ call.epoch → call.epoch ≤ acceptedEpoch.2 → 0 < windowBits →
          (run (openStep P keys call.ctx.remoteNodeId acceptedEpoch)
            (MeshSecReplayCache.new windowBits) (replicate (n + 1) packet)).2 =
              .ok (key.peerId, call.clear) :: replicate n (.error .replay)) ∧
    -- Nothing else opens, and the replay cache is not touched.
    (∀ (packet : Bytes) (keys : List MeshSecOpenKey) (localNodeId : String)
      (acceptedEpoch : UInt64 × UInt64) (windowBits : Nat)
      (replay : MeshSecReplayCache windowBits),
      ¬ ProducedFor P calls keys localNodeId acceptedEpoch packet →
      ∃ e, openBytes P packet keys localNodeId acceptedEpoch replay = (replay, .error e)) ∧
    -- In particular no sealed packet with one octet changed.
    (∀ call ∈ calls, ∀ (packet : Bytes) (i : Nat) (b : UInt8) (keys : List MeshSecOpenKey)
      (localNodeId : String) (acceptedEpoch : UInt64 × UInt64) (windowBits : Nat)
      (replay : MeshSecReplayCache windowBits),
      call.packet P = .ok packet → packet.set i b ≠ packet →
      ∃ e, openBytes P (packet.set i b) keys localNodeId acceptedEpoch replay =
        (replay, .error e)) := by
  refine ⟨?_, ?_, ?_⟩
  · intro call hcall hclear
    obtain ⟨b, hbkt, hmem, hfits, hleast⟩ := meshsecBucketLen_ok hclear
    have hpack := packMeshsecPlaintext_ok hclear hbkt
    obtain ⟨-, b', hbkt', hlen, -⟩ := packMeshsecPlaintext_eq_ok hpack
    obtain rfl : b = b' := ok.inj (hbkt.symm.trans hbkt')
    obtain ⟨cipher, -, hciph, hpacket⟩ := packet_eq_ok ideal hcall hpack
    refine ⟨b, _, hmem, hfits, hleast, hpacket, ?_, ?_⟩
    · rw [length_append, length_header, hciph]
      simp only [meshsecHeaderLen, meshsecTagLen, meshsecFixedOverhead]
      omega
    · intro keys key acceptedEpoch windowBits n hkeys hkey hstat hsnd hlo hhi hw
      have hpeer : ∀ key' ∈ keys, OpensCall call key' → key'.peerId = key.peerId := by
        intro key' hkey' hopen'
        have hsame : key' = key := by
          apply inj_on_of_nodup_map hkeys hkey' hkey
          rw [hopen'.1, hopen'.2, hstat, hsnd]
        rw [hsame]
      exact run_openStep_replicate ideal hcall hpacket hkey ⟨hstat, hsnd⟩ hpeer hlo hhi hw n
  · intro packet keys localNodeId acceptedEpoch windowBits replay h
    exact openBytes_refused ideal h replay
  · intro call hcall packet i b keys localNodeId acceptedEpoch windowBits replay hpacket hchange
    refine openBytes_refused ideal ?_ replay
    rintro ⟨call', hcall', hpkt', -⟩
    exact packet_set_ne ideal hcall hcall' hpacket i b hchange hpkt'

end

/-! ## Ideal primitives exist -/

/-- Primitives that are ideal for a list of calls: HKDF writes its inputs out, and
the AEAD is a codebook of their queries. -/
def codebookPrimitives (calls : List SealCall) : Primitives :=
  let P : Primitives :=
    { hkdf := transcriptKdf
      hmac := fun _ _ => Vector.replicate 32 0
      aead := Aead.codebook [] meshsecTagLen }
  let query (call : SealCall) : Option Aead.Query :=
    (packMeshsecPlaintext call.clear).toOption.map (call.query P)
  { P with aead := Aead.codebook (calls.filterMap query) meshsecTagLen }

lemma codebookPrimitives_ideal {calls : List SealCall} (hlen : calls.length ≤ 256) :
    IdealFor (codebookPrimitives calls) {call | call ∈ calls} := by
  refine ⟨transcriptKdf_injective, ?_⟩
  have hlog : sealLog (codebookPrimitives calls) {call | call ∈ calls} =
      {q | q ∈ calls.filterMap fun call =>
        (packMeshsecPlaintext call.clear).toOption.map (call.query (codebookPrimitives calls))} := by
    ext q
    simp only [sealLog, Set.mem_ofPred_eq, mem_filterMap, Option.map_eq_some_iff]
    constructor
    · rintro ⟨call, hcall, plain, hpack, rfl⟩
      exact ⟨call, hcall, plain, by rw [hpack]; rfl, rfl⟩
    · rintro ⟨call, hcall, plain, hplain, rfl⟩
      refine ⟨call, hcall, plain, ?_, rfl⟩
      cases hpack : packMeshsecPlaintext call.clear with
      | error e => simp [hpack, Except.toOption] at hplain
      | ok plain' => simpa [hpack, Except.toOption] using hplain
  rw [hlog]
  apply Aead.codebook_ideal (by decide)
  exact le_trans (length_filterMap_le _ _) hlen

def sampleCall : SealCall where
  clear := [1, 2, 3]
  ctx :=
    { localNodeId := "node-a", remoteNodeId := "node-b", staticKey := Vector.replicate 32 5
      bootSalt := Vector.replicate 4 9 }
  epoch := 700
  counter := 1

/-- A call, its receiver and three deliveries of the packet. -/
theorem openBytes_exact_sample :
    ∃ (P : Primitives) (packet : Bytes), IdealFor P {sampleCall} ∧
      sampleCall.packet P = .ok packet ∧
      (run (openStep P [⟨"a", "node-a", Vector.replicate 32 5⟩] "node-b" (699, 701))
        (MeshSecReplayCache.new 1024) (replicate 3 packet)).2 =
          [.ok ("a", [1, 2, 3]), .error .replay, .error .replay] := by
  have ideal : IdealFor (codebookPrimitives [sampleCall]) {sampleCall} := by
    simpa using @codebookPrimitives_ideal [sampleCall] (by decide)
  obtain ⟨_, packet, -, -, -, hpacket, -, hopen⟩ :=
    (openBytes_exact ideal).1 sampleCall rfl (by decide)
  refine ⟨_, packet, ideal, hpacket, ?_⟩
  exact hopen [⟨"a", "node-a", Vector.replicate 32 5⟩] _ (699, 701) 1024 2 (by decide)
    (mem_singleton_self _) rfl rfl (by decide) (by decide) (by decide)

end MeshBus.MeshSec
