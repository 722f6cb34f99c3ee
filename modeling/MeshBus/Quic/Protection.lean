import MeshBus.Quic.Step
import MeshBus.Quic.Wire

/-!
# Packet protection

`protect` seals the body of a packet and masks its header, `recv_one` takes a packet of
octets apart again.  The AEAD and the mask of the header protection are parameters.
-/

namespace MeshBus.Quic

open Lib Lib.Reader List Option UInt8 LongHeader Nat

/-- The keys of one direction as functions: the AEAD has a tag of 16 octets, opens what was
sealed and nothing else. -/
structure Protection (κ : Type) where
  sealWith : κ → Nat → Bytes → Bytes → Bytes
  openWith : κ → Nat → Bytes → Bytes → Option Bytes
  headerMask : κ → Bytes → Octets 5
  length_sealWith : ∀ key pn header body, (sealWith key pn header body).length = body.length + 16
  openWith_sealWith : ∀ key pn header body, openWith key pn header (sealWith key pn header body) = some body
  authentic : ∀ key pn header cipher body, openWith key pn header cipher = some body →
    cipher = sealWith key pn header body

/-! ## Octets of a header -/

def Header.octets (header : Header) (bodyLen : Nat) : Bytes :=
  match header with
  | .long ty version dcid scid pn =>
    writeLongHeader ⟨ty.kind, version, dcid, scid, []⟩ (ofNat (pn.len - 1)) ++
      encodeVarint (pn.len + bodyLen + 16)
  | .short dcid pn => (0x40 ||| ofNat (pn.len - 1)) :: dcid.bytes

/-! ## Masks -/

/-- The low bits of the first octet, four in a long header and five in a short one. -/
def maskedBits (first : UInt8) : UInt8 := if first &&& 0x80 ≠ 0 then 0x0f else 0x1f

def maskFirst (mask : Octets 5) : Bytes → Bytes
  | [] => []
  | first :: rest => (first ^^^ (mask.toList.headD 0 &&& maskedBits first)) :: rest

def maskNumber (mask : Octets 5) (number : Bytes) : Bytes :=
  zipWith (· ^^^ ·) number (mask.toList.drop 1)

lemma xor_and_distrib (a b c : UInt8) : (a ^^^ b) &&& c = (a &&& c) ^^^ (b &&& c) := by
  apply UInt8.toBitVec_inj.mp
  ext i
  simp [Bool.and_xor_distrib_right]

lemma xor_mask_and {bits} (h : bits &&& other = 0) (first mask : UInt8) :
    (first ^^^ (mask &&& bits)) &&& other = first &&& other := by
  rw [xor_and_distrib, UInt8.and_assoc, h, UInt8.and_zero, UInt8.xor_zero]

lemma maskedBits_and (first : UInt8) :
    maskedBits first &&& 0x80 = 0 ∧ maskedBits first &&& 0x40 = 0 := by
  unfold maskedBits
  split <;> decide

lemma maskFirst_maskFirst (mask : Octets 5) (head : Bytes) :
    maskFirst mask (maskFirst mask head) = head := by
  cases head with
  | nil => rfl
  | cons first rest =>
    have hbits : maskedBits (first ^^^ (mask.toList.headD 0 &&& maskedBits first)) =
        maskedBits first := by
      rw [maskedBits, xor_mask_and (maskedBits_and first).1]
      rfl
    unfold maskFirst
    dsimp only
    rw [hbits, UInt8.xor_assoc, UInt8.xor_self, UInt8.xor_zero]

lemma length_maskNumber (mask : Octets 5) (h : number.length ≤ 4) :
    (maskNumber mask number).length = number.length := by
  unfold maskNumber
  rw [length_zipWith, length_drop, Vector.length_toList]
  omega

lemma maskNumber_maskNumber (mask : Octets 5) (h : number.length ≤ 4) :
    maskNumber mask (maskNumber mask number) = number := by
  have hlen : number.length ≤ (mask.toList.drop 1).length := by
    rw [length_drop, Vector.length_toList]
    omega
  unfold maskNumber
  generalize mask.toList.drop 1 = octets at hlen
  clear h
  induction number generalizing octets with
  | nil => rfl
  | cons b number ih =>
    cases octets with
    | nil => cases hlen
    | cons m octets =>
      rw [zipWith_cons_cons, zipWith_cons_cons, ih octets (le_of_succ_le_succ hlen),
        UInt8.xor_assoc, UInt8.xor_self, UInt8.xor_zero]

/-! ## Sending and taking apart -/

def decodeNumber (largestPn truncated len : Nat) : Nat :=
  let window := 2 ^ (8 * len)
  let expected := largestPn + 1
  let candidate := expected / window * window + truncated
  if candidate + window / 2 ≤ expected ∧ candidate + window < 2 ^ 62 then candidate + window
  else if expected + window / 2 < candidate ∧ window ≤ candidate then candidate - window
  else candidate

lemma decodePacketNumber_eq (largestPn : Nat) (pn : TruncatedPn) :
    decodePacketNumber largestPn pn = decodeNumber largestPn pn.value pn.len :=
  rfl

namespace Protection
variable {κ : Type}

/-- `protect`: the packet, or nothing when the sample of the header protection ends after
the packet does, where the source panics. -/
def protect (P : Protection κ) (key : κ) (header : Header) (pn : Nat) (body : Bytes) :
    Option Bytes :=
  let head := header.octets body.length
  let number := beBytes header.pn.len pn
  let cipher := P.sealWith key pn (head ++ number) body
  if (number ++ cipher).length < 4 + 16 then none
  else
    let mask := P.headerMask key (((number ++ cipher).drop 4).take 16)
    some (maskFirst mask head ++ (maskNumber mask number ++ cipher))

/-- `decrypt_and_handle` up to its frames: the octets of the header before the packet
number, and those from there on. -/
def unprotect (P : Protection κ) (key : κ) (level : Level) (largest : Nat) (head rest : Bytes) :
    Except Error (Nat × Bytes) :=
  if rest.length < 4 + 16 then .error .shortBuffer
  else
    let mask := P.headerMask key ((rest.drop 4).take 16)
    let head := maskFirst mask head
    let pnLen := (head.headD 0 &&& 0x03).toNat + 1
    let number := maskNumber mask (rest.take pnLen)
    let pn := decodeNumber largest (ofBeBytes number) pnLen
    match P.openWith key pn (head ++ number) (rest.drop pnLen) with
    | none => .error (Conn.openError level)
    | some body => .ok (pn, body)

/-- A protection that hides nothing: the tag is the same for every body. -/
def clear : Protection κ where
  sealWith _ _ _ body := body ++ replicate 16 0xff
  openWith _ _ _ cipher :=
    if cipher.drop (cipher.length - 16) = replicate 16 0xff then
      some (cipher.take (cipher.length - 16))
    else none
  headerMask _ sample := firstOctets 5 sample
  length_sealWith _ _ _ body := by rw [length_append, length_replicate]
  openWith_sealWith _ _ _ body := by
    rw [length_append, length_replicate, Nat.add_sub_cancel, drop_left' rfl,
      if_pos rfl, take_left' rfl]
  authentic _ _ _ cipher body h := by
    split at h
    · next htag =>
        rw [← Option.some.inj h, ← htag, take_append_drop]
    · cases h

lemma unprotect_protect (P : Protection κ) (key : κ) (level : Level) (largest pn : Nat)
    (hfirst : (((header.octets body.length).headD 0) &&& 0x03).toNat + 1 = header.pn.len)
    (hnumber : decodeNumber largest (ofBeBytes (beBytes header.pn.len pn)) header.pn.len = pn)
    (hlen : 4 ≤ header.pn.len + body.length) :
    ∃ mask rest, P.protect key header pn body =
        some (maskFirst mask (header.octets body.length) ++ rest) ∧
      rest.length = header.pn.len + body.length + 16 ∧
      P.unprotect key level largest (maskFirst mask (header.octets body.length)) rest =
        .ok (pn, body) := by
  have hle : (beBytes header.pn.len pn).length ≤ 4 := by
    rw [length_beBytes]
    exact header.pn.len_le
  generalize hhead : header.octets body.length = head at hfirst
  generalize hnum : beBytes header.pn.len pn = number at hle hnumber
  generalize hciph : P.sealWith key pn (head ++ number) body = cipher
  have hcip : cipher.length = body.length + 16 := by rw [← hciph, P.length_sealWith]
  have hnumb : number.length = header.pn.len := by rw [← hnum, length_beBytes]
  generalize hmask : P.headerMask key (((number ++ cipher).drop 4).take 16) = mask
  refine ⟨mask, maskNumber mask number ++ cipher, ?_, ?_, ?_⟩
  · unfold protect
    dsimp only
    rw [hhead, hnum, hciph, hmask, if_neg (by rw [length_append]; omega)]
  · rw [length_append, length_maskNumber mask hle]
    omega
  · have hsample : (maskNumber mask number ++ cipher).drop 4 = (number ++ cipher).drop 4 := by
      rw [drop_append, drop_append, length_maskNumber mask hle,
        drop_eq_nil_of_le (by rw [length_maskNumber mask hle]; exact hle),
        drop_eq_nil_of_le hle]
    have htake : (maskNumber mask number ++ cipher).take header.pn.len = maskNumber mask number :=
      take_left' (by rw [length_maskNumber mask hle, hnumb])
    have hdrop : (maskNumber mask number ++ cipher).drop header.pn.len = cipher :=
      drop_left' (by rw [length_maskNumber mask hle, hnumb])
    unfold unprotect
    dsimp only
    rw [if_neg (by rw [length_append, length_maskNumber mask hle]; omega), hsample, hmask,
      maskFirst_maskFirst, hfirst, htake, hdrop, maskNumber_maskNumber mask hle, hnumber, ← hciph,
      P.openWith_sealWith]

end Protection

lemma decodeNumber_near (hlen : 2 ≤ len ∧ len ≤ 4) (hpn : pn < 2 ^ 32)
    (hbelow : pn < largest + 1 + 2 ^ (8 * len - 1)) (habove : largest + 1 < pn + 2 ^ (8 * len - 1)) :
    decodeNumber largest (ofBeBytes (beBytes len pn)) len = pn := by
  have hcases : len = 2 ∨ len = 3 ∨ len = 4 := by omega
  rw [ofBeBytes_beBytes_mod]
  unfold decodeNumber
  rcases hcases with rfl | rfl | rfl
  · dsimp only at *
    split
    · omega
    · split <;> omega
  · dsimp only at *
    split
    · omega
    · split <;> omega
  · dsimp only at *
    split
    · omega
    · split <;> omega

/-! ## What the first octet says -/

lemma TruncatedPn.len_cases (pn : TruncatedPn) :
    pn.len = 1 ∨ pn.len = 2 ∨ pn.len = 3 ∨ pn.len = 4 := by
  have hpos := pn.len_pos
  have hle := pn.len_le
  omega

lemma firstOctet_long (ty : LongType) (pn : TruncatedPn) :
    let first := (0b11000000 : UInt8) ||| (ty.kind.typeBits <<< 4) |||
      (ofNat (pn.len - 1) &&& 0x0f)
    (first &&& 0x03).toNat + 1 = pn.len ∧ first &&& 0x80 ≠ 0 ∧ first &&& 0x40 ≠ 0 ∧
      LongKind.fromBits (first >>> 4) = ty.kind := by
  rcases pn.len_cases with h | h | h | h <;> rw [h] <;> cases ty <;> decide

lemma firstOctet_short (pn : TruncatedPn) :
    let first := (0x40 : UInt8) ||| ofNat (pn.len - 1)
    (first &&& 0x03).toNat + 1 = pn.len ∧ first &&& 0x80 = 0 ∧ first &&& 0x40 ≠ 0 := by
  rcases pn.len_cases with h | h | h | h <;> rw [h] <;> decide

lemma octets_pnLen (header : Header) (bodyLen : Nat) :
    ((header.octets bodyLen).headD 0 &&& 0x03).toNat + 1 = header.pn.len := by
  cases header with
  | long ty version dcid scid pn => exact (firstOctet_long ty pn).1
  | short dcid pn => exact (firstOctet_short pn).1

lemma masked_bits (first mask : UInt8) :
    (first ^^^ (mask &&& maskedBits first)) &&& 0x80 = first &&& 0x80 ∧
      (first ^^^ (mask &&& maskedBits first)) &&& 0x40 = first &&& 0x40 ∧
      (first &&& 0x80 ≠ 0 → (first ^^^ (mask &&& maskedBits first)) >>> 4 = first >>> 4) := by
  refine ⟨xor_mask_and (maskedBits_and first).1 _ _, xor_mask_and (maskedBits_and first).2 _ _,
    fun hlong => ?_⟩
  have hgone : (0x0f : UInt8) >>> 4 = 0 := by decide
  rw [maskedBits, if_pos hlong, UInt8.shiftRight_xor, UInt8.shiftRight_and, hgone, UInt8.and_zero,
    UInt8.xor_zero]

lemma masked_long (ty : LongType) (version : Nat) (dcid scid : ConnectionId) (pn : TruncatedPn)
    (bodyLen : Nat) (mask : Octets 5) :
    ∃ first : UInt8, maskFirst mask ((Header.long ty version dcid scid pn).octets bodyLen) =
        first :: (fields ⟨ty.kind, version, dcid, scid, []⟩ ++
          encodeVarint (pn.len + bodyLen + 16)) ∧
      first &&& 0x80 ≠ 0 ∧ first &&& 0x40 ≠ 0 ∧
      LongKind.fromBits (first >>> 4) = ty.kind := by
  obtain ⟨-, hlong, hfixed, hkind⟩ := firstOctet_long ty pn
  obtain ⟨hlong', hfix', hkind'⟩ := masked_bits _ (mask.toList.headD 0)
  refine ⟨_, rfl, ?_, ?_, ?_⟩
  · rw [hlong']
    exact hlong
  · rw [hfix']
    exact hfixed
  · rw [hkind' hlong]
    exact hkind

lemma masked_short (dcid : ConnectionId) (pn : TruncatedPn) (bodyLen : Nat) (mask : Octets 5) :
    ∃ first : UInt8, maskFirst mask ((Header.short dcid pn).octets bodyLen) =
        first :: dcid.bytes ∧ first &&& 0x80 = 0 ∧ first &&& 0x40 ≠ 0 := by
  obtain ⟨-, hshort, hfixed⟩ := firstOctet_short pn
  obtain ⟨hshor', hfix', -⟩ := masked_bits _ (mask.toList.headD 0)
  refine ⟨_, rfl, ?_, ?_⟩
  · rw [hshor']
    exact hshort
  · rw [hfix']
    exact hfixed

lemma reads_long {ty : LongType} {version : Nat} {dcid scid : ConnectionId} {len : Nat}
    {first : UInt8} (hlong : first &&& 0x80 ≠ 0) (hkind : LongKind.fromBits (first >>> 4) = ty.kind)
    (hver : version < 2 ^ 32) (hlen : len ≤ varintMax) (tail : Bytes) :
    ∃ after, parseLongHeader.run (first :: (fields ⟨ty.kind, version, dcid, scid, []⟩ ++
          encodeVarint len) ++ tail) =
          .ok ((⟨ty.kind, version, dcid, scid, []⟩, first &&& 0x0f), after) ∧
      decodeVarint.run after = .ok (len, tail) := by
  rw [← cons_append, append_assoc]
  exact ⟨_, parses_longHeader hlong hkind hver (zero_le _) (fun _ => rfl) _,
    parses_varint hlen tail⟩

/-! ## Connections -/

namespace Conn
variable {τ κ : Type}

def protect (P : Protection κ) (c : Conn τ κ) (level : Level) (key : κ) (body : Bytes) :
    Option Bytes :=
  P.protect key (c.headerFor level (c.spaces.get level).nextPn) (c.spaces.get level).nextPn body

/-- The number and the body of a packet that was opened. -/
def handlePayload (c : Conn τ κ) (level : Level) (pn : Nat) (payload : Bytes) :
    Conn τ κ × Except Error Unit :=
  match decodeAll payload with
  | .error err => (c.markReceived level pn, .error err)
  | .ok frames => (c.markReceived level pn).handleFrames level frames

/-- `decrypt_and_handle` of a packet whose number starts where `rest` does. -/
def decryptOctets (P : Protection κ) (c : Conn τ κ) (level : Level) (head rest : Bytes) :
    Conn τ κ × Except Error Unit :=
  match c.rxKeys.get level with
  | none => (c, .error noKeys)
  | some key =>
    match P.unprotect key level ((c.spaces.get level).largestRecv.getD 0) head rest with
    | .error err => (c, .error err)
    | .ok (pn, payload) => c.handlePayload level pn payload

def recvLong (P : Protection κ) (e : Engine τ κ) (c : Conn τ κ) (buf : Bytes) :
    Conn τ κ × Except Error Unit :=
  match parseLongHeader.run buf with
  | .error err => (c, .error err)
  | .ok ((header, _), after) =>
    if header.version ≠ version1 then (c, .error (.unsupportedVersion header.version))
    else match header.kind.type? with
      | none => (c, .error (.transport "unsupported long packet"))
      | some ty =>
        match c.adoptInitial e ty header.dcid header.scid with
        | (c, .error err) => (c, .error err)
        | (c, .ok _) =>
          match decodeVarint.run after with
          | .error err => (c, .error err)
          | .ok (len, rest) =>
            if rest.length < len then (c, .error .shortBuffer)
            else c.decryptOctets P ty.level (buf.take (buf.length - rest.length))
              (rest.take len)

def recvShort (P : Protection κ) (c : Conn τ κ) (buf : Bytes) : Conn τ κ × Except Error Unit :=
  if buf.headD 0 &&& 0x80 ≠ 0 then (c, .error (.malformed "not a short header"))
  else if buf.length < 1 + c.scid.bytes.length then (c, .error .shortBuffer)
  else c.decryptOctets P .data (buf.take (1 + c.scid.bytes.length))
    (buf.drop (1 + c.scid.bytes.length))

def recvOctets (P : Protection κ) (e : Engine τ κ) (c : Conn τ κ) (buf : Bytes) :
    Conn τ κ × Except Error Unit :=
  if buf.isEmpty then (c, .error .shortBuffer)
  else if buf.headD 0 &&& 0x80 ≠ 0 then c.recvLong P e buf
  else c.recvShort P buf

lemma recvOctets_long (P : Protection κ) (e : Engine τ κ) (c : Conn τ κ)
    (h : first &&& 0x80 ≠ 0) (rest : Bytes) :
    c.recvOctets P e (first :: rest) = c.recvLong P e (first :: rest) :=
  (if_neg Bool.false_ne_true).trans (if_pos h)

lemma recvOctets_short (P : Protection κ) (e : Engine τ κ) (c : Conn τ κ)
    (h : first &&& 0x80 = 0) (rest : Bytes) :
    c.recvOctets P e (first :: rest) =
      if (first :: rest).length < 1 + c.scid.bytes.length then (c, .error .shortBuffer)
      else c.decryptOctets P .data ((first :: rest).take (1 + c.scid.bytes.length))
        ((first :: rest).drop (1 + c.scid.bytes.length)) :=
  (if_neg Bool.false_ne_true).trans ((if_neg (not_not.mpr h)).trans (if_neg (not_not.mpr h)))

lemma adoptInitial_of_keys (e : Engine τ κ) {c : Conn τ κ}
    (h : c.rxKeys.get ty.level ≠ none) {dcid scid : ConnectionId} :
    c.adoptInitial e ty dcid scid = (c, .ok ()) := by
  unfold adoptInitial
  rw [if_neg]
  rintro ⟨-, rfl, hnone⟩
  exact h (isNone_iff_eq_none.mp hnone)

lemma recvLong_eq (P : Protection κ) (e : Engine τ κ) {c : Conn τ κ} {dcid scid : ConnectionId}
    (hlen : pn.len + bodyLen + 16 ≤ varintMax) (hkey : c.rxKeys.get ty.level ≠ none)
    (mask : Octets 5) (hrest : rest.length = pn.len + bodyLen + 16) :
    c.recvOctets P e
        (maskFirst mask ((Header.long ty version1 dcid scid pn).octets bodyLen) ++ rest) =
      c.decryptOctets P ty.level
        (maskFirst mask ((Header.long ty version1 dcid scid pn).octets bodyLen)) rest := by
  obtain ⟨first, hhead, hlong, -, hkind⟩ := masked_long ty version1 dcid scid pn bodyLen mask
  obtain ⟨after, hparse, hvarint⟩ := @reads_long ty version1 dcid scid _ first hlong hkind
    (by decide) hlen rest
  rw [hhead]
  generalize fields ⟨ty.kind, version1, dcid, scid, []⟩ ++ encodeVarint _ = fields
    at hparse
  have htype : ty.kind.type? = some ty := by cases ty <;> rfl
  have hcut : (first :: fields ++ rest).take ((first :: fields ++ rest).length - rest.length) =
      first :: fields :=
    take_left' (by rw [length_append, Nat.add_sub_cancel])
  rw [cons_append, recvOctets_long P e c hlong, ← cons_append]
  unfold recvLong
  rw [hparse]
  dsimp only
  rw [if_neg (not_not.mpr rfl), htype]
  dsimp only
  rw [adoptInitial_of_keys e hkey]
  rw [hvarint]
  dsimp only
  rw [if_neg (by omega), hcut, take_of_length_le (by omega)]

lemma recvShort_eq (P : Protection κ) (e : Engine τ κ) {c : Conn τ κ} {dcid : ConnectionId}
    (bodyLen : Nat) (hcid : c.scid.bytes.length = dcid.bytes.length)
    (mask : Octets 5) (rest : Bytes) :
    c.recvOctets P e (maskFirst mask ((Header.short dcid pn).octets bodyLen) ++ rest) =
      c.decryptOctets P .data (maskFirst mask ((Header.short dcid pn).octets bodyLen)) rest := by
  obtain ⟨first, hhead, hshort, -⟩ := masked_short dcid pn bodyLen mask
  have hlen : (first :: dcid.bytes).length = 1 + c.scid.bytes.length := by
    rw [length_cons, hcid, add_comm]
  rw [hhead]
  rw [cons_append, recvOctets_short P e c hshort, ← cons_append,
    if_neg (by rw [length_append]; omega), take_left' hlen, drop_left' hlen]

lemma split_long {dcid scid : ConnectionId}
    (hlen : pn.len + bodyLen + 16 ≤ varintMax) (mask : Octets 5) {rest tail : Bytes}
    (hrest : rest.length = pn.len + bodyLen + 16)
    (htail : splitPackets tail = .ok packets) (hcount : packets.length < maxPacketsPerDatagram) :
    let packet := maskFirst mask ((Header.long ty version1 dcid scid pn).octets bodyLen) ++ rest
    splitPackets (packet ++ tail) = .ok (packet :: packets) := by
  intro packet
  obtain ⟨first, hhead, hlong, hfixed, hkind⟩ := masked_long ty version1 dcid scid pn bodyLen mask
  obtain ⟨after, hparse, hvarint⟩ := @reads_long ty version1 dcid scid _ first hlong hkind
    (by decide) hlen (rest ++ tail)
  have hpkt : packet = _ := congrArg (· ++ rest) hhead
  generalize fields ⟨ty.kind, version1, dcid, scid, []⟩ ++ encodeVarint _ = fields
    at hparse hpkt
  have hretry : ty.kind ≠ .retry := by cases ty <;> decide
  have hlength : (fields ++ (rest ++ tail)).length + 1 - (rest ++ tail).length +
      (pn.len + bodyLen + 16) = (first :: fields ++ rest).length := by
    simp only [length_append, length_cons]
    omega
  refine splitPackets_append ?_ ?_ htail hcount
  · rw [hpkt]
    exact hfixed
  · rw [hpkt, append_assoc, cons_append, packetLen, if_neg hlong, ← cons_append, hparse]
    dsimp only [bind, Except.bind]
    rw [if_neg hretry, hvarint]
    exact congrArg Except.ok hlength

lemma split_short (dcid : ConnectionId) (pn : TruncatedPn) (bodyLen : Nat) (mask : Octets 5)
    (rest : Bytes) :
    let packet := maskFirst mask ((Header.short dcid pn).octets bodyLen) ++ rest
    splitPackets packet = .ok [packet] := by
  intro packet
  obtain ⟨first, hhead, hshort, hfixed⟩ := masked_short dcid pn bodyLen mask
  have hpkt : packet = first :: (dcid.bytes ++ rest) := congrArg (· ++ rest) hhead
  have hlen : packetLen (packet ++ []) = .ok packet.length := by
    rw [hpkt, append_nil, packetLen, if_pos hshort]
    rfl
  have hsplit := @splitPackets_append packet [] [] (by rw [hpkt]; exact hfixed) hlen rfl
    (by decide)
  rwa [append_nil] at hsplit

/-- What one connection has to know of another to take its next packet of a level: the key,
how long the id in a short header is, and nearly the number. -/
structure Matches (c s : Conn τ κ) (level : Level) (key : κ) : Prop where
  key_eq : c.rxKeys.get level = some key
  cid : level = .data → c.scid.bytes.length = s.dcid.bytes.length
  bound : (s.spaces.get level).nextPn < 2 ^ 32
  below : (s.spaces.get level).nextPn < (c.spaces.get level).largestRecv.getD 0 + 1 +
    2 ^ (8 * (encodePacketNumber (s.spaces.get level).nextPn).len - 1)
  above : (c.spaces.get level).largestRecv.getD 0 + 1 < (s.spaces.get level).nextPn +
    2 ^ (8 * (encodePacketNumber (s.spaces.get level).nextPn).len - 1)

namespace Matches
variable {c s : Conn τ κ}

lemma number (h : c.Matches s level key) :
    decodeNumber ((c.spaces.get level).largestRecv.getD 0)
      (ofBeBytes (beBytes (encodePacketNumber (s.spaces.get level).nextPn).len
        (s.spaces.get level).nextPn))
      (encodePacketNumber (s.spaces.get level).nextPn).len = (s.spaces.get level).nextPn :=
  decodeNumber_near ⟨le_max_right _ _, (encodePacketNumber _).len_le⟩ h.bound h.below h.above

lemma some_key (h : c.Matches s level key) : c.rxKeys.get level ≠ none := by
  rw [h.key_eq]
  exact some_ne_none key

lemma protect_recovered (h : c.Matches s level key) (P : Protection κ) (e : Engine τ κ)
    (hbody : 4 ≤ (encodePacketNumber (s.spaces.get level).nextPn).len + body.length)
    (hfield : level ≠ .data →
      (encodePacketNumber (s.spaces.get level).nextPn).len + body.length + 16 ≤ varintMax) :
    ∃ mask rest, s.protect P level key body =
        some (maskFirst mask ((s.headerFor level (s.spaces.get level).nextPn).octets body.length) ++
          rest) ∧
      rest.length = (encodePacketNumber (s.spaces.get level).nextPn).len + body.length + 16 ∧
      c.recvOctets P e
          (maskFirst mask ((s.headerFor level (s.spaces.get level).nextPn).octets body.length) ++
            rest) =
        c.handlePayload level (s.spaces.get level).nextPn body := by
  have hnum := h.number
  have hsome := h.some_key
  unfold protect
  generalize (s.spaces.get level).nextPn = pn at *
  have hlevel : (s.headerFor level pn).pn = encodePacketNumber pn := by cases level <;> rfl
  rw [← hlevel] at hnum hbody hfield ⊢
  obtain ⟨mask, rest, hprot, hrest, hopen⟩ := P.unprotect_protect key level _ pn
    (octets_pnLen _ _) hnum hbody
  have hpay : c.decryptOctets P level
      (maskFirst mask ((s.headerFor level pn).octets body.length)) rest =
        c.handlePayload level pn body := by
    unfold decryptOctets
    rw [h.key_eq]
    dsimp only
    rw [hopen]
  refine ⟨mask, rest, hprot, hrest, ?_⟩
  rw [← hpay]
  cases level with
  | data => exact recvShort_eq P e body.length (h.cid rfl) mask rest
  | _ => exact recvLong_eq P e (hfield (by decide)) hsome mask hrest

end Matches

/-- A packet of a level is recovered by a connection that has its key and expects a number
near to its own; a long one also before padding and other packets. -/
theorem protected_packet_recovered (P : Protection κ) (e : Engine τ κ) (s c : Conn τ κ)
    (level : Level) (key : κ) (body : Bytes) (hmatches : c.Matches s level key)
    (hbody : 4 ≤ (encodePacketNumber (s.spaces.get level).nextPn).len + body.length)
    (hfield : level ≠ .data →
      (encodePacketNumber (s.spaces.get level).nextPn).len + body.length + 16 ≤ varintMax) :
    ∃ packet, s.protect P level key body = some packet ∧
      (∀ tail packets, (level = .data → tail = []) → splitPackets tail = .ok packets →
        packets.length < maxPacketsPerDatagram →
          splitPackets (packet ++ tail) = .ok (packet :: packets)) ∧
      c.recvOctets P e packet = c.handlePayload level (s.spaces.get level).nextPn body := by
  obtain ⟨mask, rest, hprot, hrest, hrecv⟩ := hmatches.protect_recovered P e hbody hfield
  refine ⟨_, hprot, ?_, hrecv⟩
  intro tail packets htail hsplit hcount
  cases level with
  | data =>
    obtain rfl := htail rfl
    cases hsplit
    rw [append_nil]
    exact split_short s.dcid _ body.length mask rest
  | _ => exact split_long (hfield (by decide)) mask hrest hsplit hcount

/-- An Initial packet before three octets of padding. -/
theorem initial_recovered_before_padding :
    let e : Engine Bool Nat := .instant [] 1 2
    let s : Conn Bool Nat := .new .client ⟨[5], by decide⟩ ⟨[6], by decide⟩ false
    let c : Conn Bool Nat :=
      { new .server ⟨[6], by decide⟩ ⟨[5], by decide⟩ false with rxKeys := .same (some 9) }
    ∃ packet, s.protect .clear .initial 9 [0x02, 0, 0, 0, 0] = some packet ∧
      splitPackets (packet ++ zeroOctets 3) = .ok [packet] ∧
      c.recvOctets .clear e packet = c.handlePayload .initial 0 [0x02, 0, 0, 0, 0] := by
  intro e s c
  have hmatc : c.Matches s .initial 9 := ⟨rfl, (by rintro ⟨⟩), by decide, by decide, by decide⟩
  obtain ⟨packet, hprot, hsplit, hrecv⟩ := protected_packet_recovered .clear e s c .initial 9
    [0x02, 0, 0, 0, 0] hmatc (by decide) (fun _ => by decide)
  exact ⟨packet, hprot,
    hsplit (zeroOctets 3) [] (by rintro ⟨⟩) (splitPackets_zeros 3) (by decide), hrecv⟩

/-- The same body in a packet of the data level: with an octet of padding after it, the packet
takes the padding for its own and does not open. -/
theorem short_packet_lost_before_padding :
    let e : Engine Bool Nat := .instant [] 1 2
    let s : Conn Bool Nat := .new .client ⟨[5], by decide⟩ ⟨[6], by decide⟩ false
    let c : Conn Bool Nat :=
      { Conn.new .server ⟨[6], by decide⟩ ⟨[5], by decide⟩ false with rxKeys := .same (some 9) }
    c.Matches s .data 9 ∧ ∃ packet, s.protect .clear .data 9 [0x02, 0, 0, 0, 0] = some packet ∧
      splitPackets (packet ++ zeroOctets 1) = .ok [packet ++ zeroOctets 1] ∧
      (c.recvOctets .clear e (packet ++ zeroOctets 1)).2 = .error (openError .data) := by
  intro e s c
  refine ⟨⟨rfl, fun _ => rfl, by decide, by decide, by decide⟩, _, rfl, ?_, ?_⟩
  · decide +kernel
  · decide +kernel

/-! ## Packets with and without octets -/

/-- A packet without octets is taken as one with octets is: a connection goes on with the
number and the frames. -/
lemma Matches.recvOne_sealed [DecidableEq κ] {c s : Conn τ κ}
    (h : c.Matches s level key) (e : Engine τ κ) (frames : List Frame) :
    c.recvOne e (.whole (s.headerFor level (s.spaces.get level).nextPn) false
        ⟨key, (s.spaces.get level).nextPn, s.headerFor level (s.spaces.get level).nextPn,
          .ok frames⟩) =
      (c.markReceived level (s.spaces.get level).nextPn).handleFrames level frames := by
  have hnum := h.number
  have hsome := h.some_key
  have hkey := h.key_eq
  generalize (s.spaces.get level).nextPn = pn at *
  have hvalue : ofBeBytes (beBytes (encodePacketNumber pn).len pn) =
      (encodePacketNumber pn).value := by
    rw [ofBeBytes_beBytes_mod, show (256 : Nat) = 2 ^ 8 from rfl, ← pow_mul]
    rfl
  rw [hvalue, ← decodePacketNumber_eq] at hnum
  have hopen : ∀ header : Header, header.level = level → header.pn = encodePacketNumber pn →
      c.decryptAndHandle header false ⟨key, pn, header, .ok frames⟩ =
        (c.markReceived level pn).handleFrames level frames := by
    rintro header rfl hpn
    unfold decryptAndHandle Sealed.openWith
    dsimp only
    rw [hkey, hpn]
    dsimp only
    rw [if_neg Bool.false_ne_true, hnum, if_pos ⟨rfl, rfl, rfl⟩]
  cases level with
  | data => exact hopen _ rfl rfl
  | _ =>
    unfold recvOne headerFor
    dsimp only
    rw [adoptInitial_of_keys e hsome]
    exact hopen _ rfl rfl

/-- A packet that is built, sealed in octets and opened again does what it does without octets. -/
theorem recvOctets_eq_recvOne [DecidableEq κ] (P : Protection κ) (e : Engine τ κ)
    {c s s' : Conn τ κ} (hmatc : c.Matches s level key)
    (hsent : s.sendPacket level key frames closing = some (s', packet))
    (hfrs : decodeAll (encodeAll frames) = .ok frames)
    (hfield : level ≠ .data → (encodePacketNumber (s.spaces.get level).nextPn).len +
      (encodeAll frames).length + 16 ≤ varintMax) :
    ∃ octets, s.protect P level key (encodeAll frames) = some octets ∧
      c.recvOctets P e octets = c.recvOne e packet := by
  have hlevel : ∀ pn, (s.headerFor level pn).pn = encodePacketNumber pn := by
    intro pn
    cases level <;> rfl
  unfold sendPacket at hsent
  dsimp only at hsent
  split at hsent
  · cases hsent
  · next hlen =>
      cases hsent
      rw [hlevel] at hlen
      obtain ⟨mask, rest, hprot, -, hrecv⟩ :=
        hmatc.protect_recovered P e (Nat.le_of_not_lt hlen) hfield
      refine ⟨_, hprot, hrecv.trans ?_⟩
      rw [hmatc.recvOne_sealed]
      unfold encodeAll at hfrs
      unfold handlePayload
      rw [hfrs]

theorem pings_taken_alike :
    let e : Engine Bool Nat := .instant [] 1 2
    let s : Conn Bool Nat := .new .client ⟨[5], by decide⟩ ⟨[6], by decide⟩ false
    let c : Conn Bool Nat :=
      { new .server ⟨[6], by decide⟩ ⟨[5], by decide⟩ false with rxKeys := .same (some 9) }
    ∃ s' packet octets, s.sendPacket .initial 9 [.ping, .ping, .ping] false = some (s', packet) ∧
      s.protect .clear .initial 9 [1, 1, 1] = some octets ∧
      c.recvOctets .clear e octets = c.recvOne e packet := by
  intro e s c
  have hmatc : c.Matches s .initial 9 := ⟨rfl, (by rintro ⟨⟩), by decide, by decide, by decide⟩
  have hsent : s.sendPacket .initial 9 [.ping, .ping, .ping] false = some (_, _) := rfl
  obtain ⟨octets, h⟩ := recvOctets_eq_recvOne .clear e hmatc hsent (by decide) fun _ => by decide
  exact ⟨_, _, octets, hsent, h⟩

end Conn
end MeshBus.Quic
