import MeshBus.Lib.Reader
import MeshBus.Quic.Frame

/-!
# Reading frames

`Frame::decode` reads the next frame of a payload and `decode_all` all of them.  Where the
source counts the octets that a frame takes, the readers here leave the octets after it.
-/

namespace MeshBus.Quic

open Lib Lib.Reader List Frame Except UInt8

/-! ## Varints -/

/-- The two high bits of the first octet say how many octets there are. -/
def decodeVarint : Reader Error Nat
  | [] => .error .shortBuffer
  | first :: rest =>
    let len := 2 ^ (first >>> 6).toNat
    if rest.length + 1 < len then .error .shortBuffer
    else .ok ((rest.take (len - 1)).foldl (fun value b => value * 256 + b.toNat)
      (first &&& 0x3f).toNat, rest.drop (len - 1))

lemma parses_tagged {tag k value : Nat} (htag : tag < 4) (hk : k + 1 = 2 ^ tag)
    (hvalue : value < 64 * 256 ^ k) :
    Parses decodeVarint (beBytes (k + 1) (value + tag * (64 * 256 ^ k))) value := by
  have hpos : 0 < 256 ^ k := Nat.pow_pos (by decide)
  have hhigh : value / 256 ^ k < 64 := Nat.div_lt_of_lt_mul (by rwa [mul_comm])
  have hfirst : (value + tag * (64 * 256 ^ k)) / 256 ^ k = value / 256 ^ k + tag * 64 := by
    rw [← mul_assoc, Nat.add_mul_div_right _ _ hpos]
  have hlow : (value + tag * (64 * 256 ^ k)) % 256 ^ k = value % 256 ^ k := by
    rw [← mul_assoc, Nat.add_mul_mod_self_right]
  have hoct : ∀ high < 64, high + tag * 64 < 256 ∧ (high + tag * 64) / 64 = tag ∧
      (high + tag * 64) % 64 = high := by
    intro high hhigh
    omega
  obtain ⟨hbyte, hdiv, hmod⟩ := hoct _ hhigh
  intro tail
  rw [beBytes_succ, hfirst, cons_append, Nat.mod_eq_of_lt hbyte]
  generalize hoctet : ofNat (value / 256 ^ k + tag * 64) = first
  have hnat : first.toNat = value / 256 ^ k + tag * 64 := by
    rw [← hoctet, toNat_ofNat_of_lt' hbyte]
  have hshift : (first >>> 6).toNat = tag := by
    rw [UInt8.toNat_shiftRight, hnat, Nat.shiftRight_eq_div_pow]
    exact hdiv
  have hmask : (first &&& 0x3f).toNat = value / 256 ^ k := by
    rw [UInt8.toNat_and, hnat]
    show (value / 256 ^ k + tag * 64) &&& (2 ^ 6 - 1) = value / 256 ^ k
    rw [Nat.and_two_pow_sub_one_eq_mod]
    exact hmod
  have hlen := length_beBytes k (value + tag * (64 * 256 ^ k))
  show decodeVarint (first :: _) = _
  unfold decodeVarint
  dsimp only
  rw [hshift, ← hk, if_neg (by rw [length_append, hlen]; omega), hmask,
    Nat.add_sub_cancel, take_left' hlen, drop_left' hlen, foldl_octets, hlen,
    ofBeBytes_beBytes_mod, hlow, Nat.div_add_mod']

lemma parses_varint (h : value ≤ varintMax) : Parses decodeVarint (encodeVarint value) value := by
  unfold varintMax at h
  unfold encodeVarint
  split
  · next hsmall => exact @parses_tagged 0 0 value (by decide) rfl hsmall
  · split
    · next hsmall => exact @parses_tagged 1 1 value (by decide) rfl hsmall
    · split
      · next hsmall => exact @parses_tagged 2 3 value (by decide) rfl hsmall
      · have hor : value ||| 3 * 2 ^ 62 = value + 3 * (64 * 256 ^ 7) := by
          rw [Nat.or_comm, mul_comm, ← Nat.two_pow_add_eq_or_of_lt (by omega)]
          omega
        rw [hor]
        exact @parses_tagged 3 7 value (by decide) rfl (by omega)

lemma ensures_varint : Ensures decodeVarint (· ≤ varintMax) := by
  intro bs value rest h
  cases bs with
  | nil => cases h
  | cons first bs =>
    have htag : (first >>> 6).toNat < 4 := by
      have hfirst := first.toNat_lt
      rw [UInt8.toNat_shiftRight, Nat.shiftRight_eq_div_pow]
      show first.toNat / 64 < 4
      omega
    have hmask : (first &&& 0x3f).toNat < 64 := by
      exact lt_of_le_of_lt Nat.and_le_right (by decide)
    unfold decodeVarint at h
    dsimp only [StateT.run] at h
    split at h
    · cases h
    · cases h
      refine ⟨?_, (drop_suffix _ _).trans (suffix_cons _ _)⟩
      generalize (first >>> 6).toNat = tag at htag
      generalize hbs : bs.take (2 ^ tag - 1) = octets
      have hlen : octets.length ≤ 7 := by
        have htwo : 2 ^ tag ≤ 2 ^ 3 := Nat.pow_le_pow_right (by decide) (by omega)
        have htake := length_take_le (2 ^ tag - 1) bs
        rw [hbs] at htake
        omega
      have hpow : 256 ^ octets.length ≤ 256 ^ 7 := Nat.pow_le_pow_right (by decide) hlen
      have hmul := Nat.mul_le_mul_right (256 ^ octets.length) (Nat.le_of_lt_succ hmask)
      have hlow := ofBeBytes_lt octets
      rw [foldl_octets]
      unfold varintMax
      omega

/-! ## Frames -/

def maxFramePayload : Nat := 2 ^ 20

def takePayload (len : Nat) : Reader Error Bytes := fun bs =>
  if maxFramePayload < len then .error (.malformed "frame payload exceeds MAX_FRAME_PAYLOAD")
  else if bs.length < len then .error .shortBuffer
  else .ok (bs.take len, bs.drop len)

def decodeRanges : Nat → Reader Error (List AckRange)
  | 0 => pure []
  | count + 1 => do
      let gap ← decodeVarint
      let range ← decodeVarint
      let ranges ← decodeRanges count
      pure (⟨gap, range⟩ :: ranges)

/-- The ECN counts of an ACK frame: ect0, ect1, ce. -/
def decodeEcn : Reader Error Unit := do
  let _ ← decodeVarint
  let _ ← decodeVarint
  let _ ← decodeVarint
  pure ()

/-- A run of padding takes every zero that follows its first. -/
def decodePadding : Reader Error Frame := fun bs =>
  .ok (.padding ((bs.takeWhile (· == 0)).length + 1), bs.dropWhile (· == 0))

namespace Frame

def decodeAs (ty : UInt8) : Reader Error Frame :=
  if ty = 0x00 then decodePadding
  else if ty = 0x01 then pure .ping
  else if ty = 0x02 ∨ ty = 0x03 then do
    let largest ← decodeVarint
    let delay ← decodeVarint
    let count ← decodeVarint
    let firstRange ← decodeVarint
    let ranges ← decodeRanges count
    let _ ← (if ty = 0x03 then decodeEcn else pure ())
    pure (.ack largest delay firstRange ranges)
  else if ty = 0x04 then do
    let streamId ← decodeVarint
    let errorCode ← decodeVarint
    let finalSize ← decodeVarint
    pure (.resetStream streamId errorCode finalSize)
  else if ty = 0x05 then do
    let streamId ← decodeVarint
    let errorCode ← decodeVarint
    pure (.stopSending streamId errorCode)
  else if ty = 0x06 then do
    let offset ← decodeVarint
    let len ← decodeVarint
    let data ← takePayload len
    pure (.crypto offset data)
  else if 0x08 ≤ ty ∧ ty ≤ 0x0f then do
    let id ← decodeVarint
    let offset ← (if ty &&& 0x04 ≠ 0 then decodeVarint else pure 0)
    let len ← (if ty &&& 0x02 ≠ 0 then decodeVarint else remaining)
    let data ← takePayload len
    pure (.stream id offset (decide (ty &&& 0x01 ≠ 0)) data)
  else if ty = 0x10 then do
    let max ← decodeVarint
    pure (.maxData max)
  else if ty = 0x11 then do
    let streamId ← decodeVarint
    let max ← decodeVarint
    pure (.maxStreamData streamId max)
  else if ty = 0x12 ∨ ty = 0x13 then do
    let max ← decodeVarint
    pure (.maxStreams (decide (ty = 0x12)) max)
  else if ty = 0x14 then do
    let limit ← decodeVarint
    pure (.dataBlocked limit)
  else if ty = 0x15 then do
    let streamId ← decodeVarint
    let limit ← decodeVarint
    pure (.streamDataBlocked streamId limit)
  else if ty = 0x16 ∨ ty = 0x17 then do
    let limit ← decodeVarint
    pure (.streamsBlocked (decide (ty = 0x16)) limit)
  else if ty = 0x1c ∨ ty = 0x1d then do
    let errorCode ← decodeVarint
    -- a transport error has the type of the frame that led to it
    let _ ← (if ty = 0x1d then pure 0 else decodeVarint)
    let len ← decodeVarint
    let reason ← takePayload len
    pure (.connectionClose (decide (ty = 0x1d)) errorCode reason)
  else if ty = 0x1e then pure .handshakeDone
  else if ty = 0x30 then do
    -- no length: the payload is all that is left, however long
    let data ← toEnd
    pure (.datagram data)
  else if ty = 0x31 then do
    let len ← decodeVarint
    let data ← takePayload len
    pure (.datagram data)
  else throw (.malformed "unsupported frame type")

def decode : Reader Error Frame := do
  let ty ← octet .shortBuffer
  decodeAs ty

end Frame

def decodeLoop : Nat → Bytes → Except Error (List Frame)
  | 0, _ => .ok []
  | fuel + 1, bs =>
    if bs.isEmpty then .ok []
    else do
      let (frame, rest) ← decode.run bs
      -- a frame without an octet would end the loop
      if rest.length = bs.length then pure []
      else
        let frames ← decodeLoop fuel rest
        pure (frame :: frames)

def decodeAll (bs : Bytes) : Except Error (List Frame) := decodeLoop bs.length bs

/-! ## A frame that was written -/

namespace Frame

/-- The numbers of a frame fit in varints, and its payload is within the limit. -/
def Valid : Frame → Prop
  | .padding _ => True
  | .ping => True
  | .ack largest delay firstRange ranges =>
    largest ≤ varintMax ∧ delay ≤ varintMax ∧ ranges.length ≤ varintMax ∧
      firstRange ≤ varintMax ∧ ∀ r ∈ ranges, r.gap ≤ varintMax ∧ r.range ≤ varintMax
  | .resetStream streamId errorCode finalSize =>
    streamId ≤ varintMax ∧ errorCode ≤ varintMax ∧ finalSize ≤ varintMax
  | .stopSending streamId errorCode => streamId ≤ varintMax ∧ errorCode ≤ varintMax
  | .crypto offset data => offset ≤ varintMax ∧ data.length ≤ maxFramePayload
  | .stream id offset _ data =>
    id ≤ varintMax ∧ offset ≤ varintMax ∧ data.length ≤ maxFramePayload
  | .maxData max => max ≤ varintMax
  | .maxStreamData streamId max => streamId ≤ varintMax ∧ max ≤ varintMax
  | .maxStreams _ max => max ≤ varintMax
  | .dataBlocked limit => limit ≤ varintMax
  | .streamDataBlocked streamId limit => streamId ≤ varintMax ∧ limit ≤ varintMax
  | .streamsBlocked _ limit => limit ≤ varintMax
  | .connectionClose _ errorCode reason =>
    errorCode ≤ varintMax ∧ reason.length ≤ maxFramePayload
  | .handshakeDone => True
  | .datagram data => data.length ≤ maxFramePayload

def isPadding : Frame → Bool
  | .padding _ => true
  | _ => false

end Frame

lemma parses_payload (h : data.length ≤ maxFramePayload) :
    Parses (takePayload data.length) data data := by
  intro tail
  show takePayload data.length (data ++ tail) = _
  unfold takePayload
  rw [if_neg (not_lt.mpr h), if_neg (by rw [length_append]; omega), take_left',
    drop_left']
  all_goals rfl

lemma parses_lengthPayload (h : data.length ≤ maxFramePayload) (f : Bytes → Frame) :
    Parses (do
      let len ← decodeVarint
      let data ← takePayload len
      pure (f data)) (encodeVarint data.length ++ data) (f data) :=
  (parses_varint (le_trans h (by decide))).bind ((parses_payload h).last (.pure _))

lemma parses_ranges {ranges : List AckRange}
    (h : ∀ r ∈ ranges, r.gap ≤ varintMax ∧ r.range ≤ varintMax) :
    Parses (decodeRanges ranges.length)
      (ranges.flatMap fun r => encodeVarint r.gap ++ encodeVarint r.range) ranges := by
  induction ranges with
  | nil => exact .pure []
  | cons r ranges ih =>
    obtain ⟨⟨hgap, hrange⟩, hrest⟩ := forall_mem_cons.mp h
    rw [flatMap_cons, append_assoc]
    exact (parses_varint hgap).bind ((parses_varint hrange).bind ((ih hrest).last (.pure _)))

namespace Frame

lemma parses_decode (h : Parses (decodeAs ty) bs frame) : Parses decode (ty :: bs) frame :=
  (parses_octet .shortBuffer ty).bind h

lemma parses_encode (hvalid : frame.Valid) (hpad : frame.isPadding = false) :
    Parses decode frame.encode frame := by
  cases frame with
  | padding run => cases hpad
  | ping => exact parses_decode (.pure _)
  | ack largest delay firstRange ranges =>
    obtain ⟨hlarg, hdelay, hcount, hfirst, hrgs⟩ := hvalid
    simp only [encode, cons_append, append_assoc]
    exact parses_decode ((parses_varint hlarg).bind ((parses_varint hdelay).bind
      ((parses_varint hcount).bind ((parses_varint hfirst).bind
        ((parses_ranges hrgs).last ((Parses.pure ()).last (.pure _)))))))
  | resetStream streamId errorCode finalSize =>
    obtain ⟨hid, hcode, hsize⟩ := hvalid
    simp only [encode, cons_append, append_assoc]
    exact parses_decode ((parses_varint hid).bind ((parses_varint hcode).bind
      ((parses_varint hsize).last (.pure _))))
  | crypto offset data =>
    simp only [encode, cons_append, append_assoc]
    exact parses_decode ((parses_varint hvalid.1).bind (parses_lengthPayload hvalid.2 _))
  | stream id offset fin data =>
    obtain ⟨hid, hoff, hdata⟩ := hvalid
    have hrest := parses_lengthPayload hdata (.stream id offset fin)
    simp only [encode, cons_append, append_assoc]
    by_cases hzero : offset = 0
    · subst hzero
      cases fin
      · exact parses_decode ((parses_varint hid).bind ((Parses.pure 0).bind hrest))
      · exact parses_decode ((parses_varint hid).bind ((Parses.pure 0).bind hrest))
    · rw [if_neg hzero, if_neg hzero]
      cases fin
      · exact parses_decode ((parses_varint hid).bind ((parses_varint hoff).bind hrest))
      · exact parses_decode ((parses_varint hid).bind ((parses_varint hoff).bind hrest))
  | maxData max => exact parses_decode ((parses_varint hvalid).last (.pure _))
  | maxStreams bidi max =>
    cases bidi
    · exact parses_decode ((parses_varint hvalid).last (.pure _))
    · exact parses_decode ((parses_varint hvalid).last (.pure _))
  | dataBlocked limit => exact parses_decode ((parses_varint hvalid).last (.pure _))
  | streamsBlocked bidi limit =>
    cases bidi
    · exact parses_decode ((parses_varint hvalid).last (.pure _))
    · exact parses_decode ((parses_varint hvalid).last (.pure _))
  | connectionClose application errorCode reason =>
    have hrest := parses_lengthPayload hvalid.2 (.connectionClose application errorCode)
    simp only [encode, cons_append, append_assoc]
    cases application
    · exact parses_decode ((parses_varint hvalid.1).bind
        ((parses_varint (Nat.zero_le varintMax)).bind hrest))
    · exact parses_decode ((parses_varint hvalid.1).bind ((Parses.pure 0).bind hrest))
  | handshakeDone => exact parses_decode (.pure _)
  | datagram data => exact parses_decode (parses_lengthPayload hvalid _)
  | _ =>
    exact parses_decode ((parses_varint hvalid.1).bind ((parses_varint hvalid.2).last (.pure _)))

end Frame

/-! ## A frame that was read -/

lemma ensures_payload :
    Ensures (takePayload len) (fun data => data.length ≤ maxFramePayload) := by
  intro bs data rest h
  dsimp only [takePayload, StateT.run] at h
  split at h
  · cases h
  · split at h
    · cases h
    · cases h
      refine ⟨?_, drop_suffix _ _⟩
      dsimp only
      rw [length_take]
      omega

lemma ensures_lengthPayload {f : Bytes → Frame}
    (h : ∀ data, data.length ≤ maxFramePayload → P (f data)) :
    Ensures (do
      let len ← decodeVarint
      let data ← takePayload len
      pure (f data)) P :=
  ensures_varint.bind fun len _ => ensures_payload.bind fun data hdata => .pure (h data hdata)

lemma ensures_ranges (count : Nat) :
    Ensures (decodeRanges count) (fun ranges =>
      ranges.length = count ∧ ∀ r ∈ ranges, r.gap ≤ varintMax ∧ r.range ≤ varintMax) := by
  induction count with
  | zero => exact .pure ⟨rfl, forall_mem_nil _⟩
  | succ count ih =>
    exact ensures_varint.bind fun gap hgap => ensures_varint.bind fun range hrange =>
      ih.bind fun ranges hrgs => .pure ⟨congrArg (· + 1) hrgs.1,
        forall_mem_cons.mpr ⟨⟨hgap, hrange⟩, hrgs.2⟩⟩

lemma ensures_ecn : Ensures decodeEcn (fun _ => True) :=
  ensures_varint.bind fun _ _ => ensures_varint.bind fun _ _ => ensures_varint.bind fun _ _ =>
    .pure True.intro

namespace Frame

lemma ensures_decodeAs {ty : UInt8} (hpad : ty ≠ 0x00) (hdgram : ty ≠ 0x30) :
    Ensures (decodeAs ty) (fun frame => frame.Valid ∧ frame.isPadding = false) := by
  refine .ite (fun h => absurd h hpad) fun _ => ?_
  refine .ite (fun _ => .pure ⟨True.intro, rfl⟩) fun _ => ?_
  refine .ite (fun _ => ?_) fun _ => ?_
  · refine ensures_varint.bind fun largest hlarg => ensures_varint.bind fun delay hdelay =>
      ensures_varint.bind fun count hcount => ensures_varint.bind fun first hfirst =>
        (ensures_ranges count).bind fun ranges hrgs => ?_
    refine Ensures.bind (P := fun _ => True) ?_ fun _ _ => ?_
    · exact .ite (fun _ => ensures_ecn) fun _ => .pure True.intro
    · obtain ⟨rfl, hrgs⟩ := hrgs
      exact .pure ⟨⟨hlarg, hdelay, hcount, hfirst, hrgs⟩, rfl⟩
  refine .ite (fun _ => ?_) fun _ => ?_
  · exact ensures_varint.bind fun _ hid => ensures_varint.bind fun _ hcode =>
      ensures_varint.bind fun _ hsize => .pure ⟨⟨hid, hcode, hsize⟩, rfl⟩
  refine .ite (fun _ => ?_) fun _ => ?_
  · exact ensures_varint.bind fun _ hid => ensures_varint.bind fun _ hcode =>
      .pure ⟨⟨hid, hcode⟩, rfl⟩
  refine .ite (fun _ => ?_) fun _ => ?_
  · exact ensures_varint.bind fun _ hoff =>
      ensures_lengthPayload fun _ hdata => ⟨⟨hoff, hdata⟩, rfl⟩
  refine .ite (fun _ => ?_) fun _ => ?_
  · refine ensures_varint.bind fun id hid => Ensures.bind (P := (· ≤ varintMax)) ?_ fun offset
      hoff => Ensures.bind (P := fun _ => True) ?_ fun len _ =>
        ensures_payload.bind fun _ hdata => .pure ⟨⟨hid, hoff, hdata⟩, rfl⟩
    · exact .ite (fun _ => ensures_varint) fun _ => .pure (Nat.zero_le _)
    · refine .ite (fun _ => ?_) fun _ => ensures_remaining
      exact fun bs a rest h => ⟨True.intro, (ensures_varint bs a rest h).2⟩
  refine .ite (fun _ => ensures_varint.bind fun _ hmax => .pure ⟨hmax, rfl⟩) fun _ => ?_
  refine .ite (fun _ => ?_) fun _ => ?_
  · exact ensures_varint.bind fun _ hid => ensures_varint.bind fun _ hmax =>
      .pure ⟨⟨hid, hmax⟩, rfl⟩
  refine .ite (fun _ => ensures_varint.bind fun _ hmax => .pure ⟨hmax, rfl⟩) fun _ => ?_
  refine .ite (fun _ => ensures_varint.bind fun _ hlimit => .pure ⟨hlimit, rfl⟩) fun _ => ?_
  refine .ite (fun _ => ?_) fun _ => ?_
  · exact ensures_varint.bind fun _ hid => ensures_varint.bind fun _ hlimit =>
      .pure ⟨⟨hid, hlimit⟩, rfl⟩
  refine .ite (fun _ => ensures_varint.bind fun _ hlimit => .pure ⟨hlimit, rfl⟩) fun _ => ?_
  refine .ite (fun _ => ?_) fun _ => ?_
  · refine ensures_varint.bind fun code hcode => Ensures.bind (P := (· ≤ varintMax)) ?_ fun _ _ =>
      ensures_lengthPayload fun _ hreason => ⟨⟨hcode, hreason⟩, rfl⟩
    exact .ite (fun _ => .pure (Nat.zero_le _)) fun _ => ensures_varint
  refine .ite (fun _ => .pure ⟨True.intro, rfl⟩) fun _ => ?_
  refine .ite (fun h => absurd h hdgram) fun _ => ?_
  refine .ite (fun _ => ensures_lengthPayload fun _ hdata => ⟨hdata, rfl⟩) fun _ => ?_
  exact .throw _

/-- What `decode` takes off a payload. -/
inductive Decodes : Bytes → Frame → Bytes → Prop
  | padding (tail : Bytes) :
      Decodes (0x00 :: tail) (.padding ((tail.takeWhile (· == 0)).length + 1))
        (tail.dropWhile (· == 0))
  | unbounded (data : Bytes) : Decodes (0x30 :: data) (.datagram data) []
  | checked {ty : UInt8} {tail rest : Bytes} {frame : Frame} (padding : ty ≠ 0x00)
      (unbounded : ty ≠ 0x30) (valid : frame.Valid) (other : frame.isPadding = false)
      (suffix : rest <:+ tail) : Decodes (ty :: tail) frame rest

lemma decode_cases (h : decode.run bs = .ok (frame, rest)) : Decodes bs frame rest := by
  cases bs with
  | nil => cases h
  | cons ty tail =>
    by_cases hpad : ty = 0x00
    · subst hpad
      cases h
      exact .padding tail
    · by_cases hdgram : ty = 0x30
      · subst hdgram
        cases h
        exact .unbounded tail
      · obtain ⟨⟨hvalid, hother⟩, hrest⟩ := ensures_decodeAs hpad hdgram tail frame rest h
        exact .checked hpad hdgram hvalid hother hrest

lemma Decodes.length_lt (h : Decodes bs frame rest) : rest.length < bs.length := by
  cases h with
  | padding tail => exact Nat.lt_succ_of_le (dropWhile_suffix _).length_le
  | unbounded data => exact Nat.succ_pos _
  | checked _ _ _ _ hrest => exact Nat.lt_succ_of_le hrest.length_le

end Frame

/-! ## All frames -/

variable {bs : Bytes} {frames : List Frame}

lemma decodeLoop_fuel (h : bs.length ≤ fuel) (h' : bs.length ≤ fuel') :
    decodeLoop fuel bs = decodeLoop fuel' bs := by
  induction fuel generalizing fuel' bs with
  | zero =>
    obtain rfl := length_eq_zero_iff.mp (Nat.eq_zero_of_le_zero h)
    cases fuel' <;> rfl
  | succ fuel ih =>
    cases fuel' with
    | zero =>
      obtain rfl := length_eq_zero_iff.mp (Nat.eq_zero_of_le_zero h')
      rfl
    | succ fuel' =>
      unfold decodeLoop
      cases hdec : decode.run bs with
      | error e => rfl
      | ok first =>
        obtain ⟨frame, rest⟩ := first
        have hlt := (decode_cases hdec).length_lt
        dsimp only [bind, Except.bind]
        rw [show decodeLoop fuel rest = decodeLoop fuel' rest from ih (by omega) (by omega)]

lemma decodeAll_of_ok (h : decode.run bs = .ok (frame, rest)) :
    decodeAll bs = (decodeAll rest).map (frame :: ·) := by
  have hlt := (decode_cases h).length_lt
  obtain ⟨fuel, hfuel⟩ : ∃ fuel, bs.length = fuel + 1 := ⟨bs.length - 1, by omega⟩
  have hsome : bs.isEmpty = false := by
    cases bs with
    | nil => cases h
    | cons _ _ => rfl
  unfold decodeAll
  rw [hfuel, decodeLoop, hsome, h]
  dsimp only [bind, Except.bind]
  rw [if_neg Bool.false_ne_true, if_neg (ne_of_lt hlt),
    decodeLoop_fuel (show rest.length ≤ fuel by omega) (le_rfl)]
  cases decodeLoop rest.length rest <;> rfl

lemma decodeAll_of_error {tail : Bytes}
    (h : decode.run (ty :: tail) = .error e) : decodeAll (ty :: tail) = .error e := by
  unfold decodeAll
  rw [length_cons, decodeLoop, h]
  rfl

lemma decodeAll_induction {P : Bytes → List Frame → Prop} (hnil : P [] [])
    (hcons : ∀ bs frame rest frames, decode.run bs = .ok (frame, rest) →
      decodeAll rest = .ok frames → P rest frames → P bs (frame :: frames))
    (h : decodeAll bs = .ok frames) : P bs frames := by
  induction hlen : bs.length using Nat.strongRecOn generalizing bs frames with
  | ind n ih =>
    cases bs with
    | nil =>
      cases h
      exact hnil
    | cons ty tail =>
      cases hdec : decode.run (ty :: tail) with
      | error e =>
        rw [decodeAll_of_error hdec] at h
        cases h
      | ok first =>
        obtain ⟨frame, rest⟩ := first
        have hlt := (decode_cases hdec).length_lt
        rw [decodeAll_of_ok hdec] at h
        cases hrest : decodeAll rest with
        | error e =>
          rw [hrest] at h
          cases h
        | ok frames' =>
          rw [hrest] at h
          cases h
          exact hcons _ _ _ _ hdec hrest (ih rest.length (hlen ▸ hlt) hrest rfl)

/-- Put a frame before others; a run of padding grows and an empty one is gone. -/
def Frame.push : Frame → List Frame → List Frame
  | .padding run, .padding more :: frames => .padding (run + more) :: frames
  | .padding run, frames => if run = 0 then frames else .padding run :: frames
  | frame, frames => frame :: frames

def mergePadding (frames : List Frame) : List Frame := frames.foldr push []

def encodeAll (frames : List Frame) : Bytes := frames.flatMap encode

namespace Frame

lemma push_of_not_padding (h : frame.isPadding = false) {frames : List Frame} :
    frame.push frames = frame :: frames := by
  cases frame with
  | padding run => cases h
  | _ => rfl

lemma push_padding_zero (frames : List Frame) : (padding 0).push frames = frames := by
  cases frames with
  | nil => rfl
  | cons frame frames =>
    cases frame with
    | padding more => exact congrArg (fun run => padding run :: frames) (zero_add more)
    | _ => rfl

lemma push_padding_succ (h : ∀ run rest, frames ≠ .padding run :: rest)
    (run : Nat) : (padding (run + 1)).push frames = .padding (run + 1) :: frames := by
  cases frames with
  | nil => rfl
  | cons frame frames =>
    cases frame with
    | padding more => exact absurd rfl (h more frames)
    | _ => rfl

end Frame

lemma decodeAll_ne_padding (hhead : bs.head? ≠ some 0) (h : decodeAll bs = .ok frames)
    (run : Nat) (rest : List Frame) : frames ≠ .padding run :: rest := by
  revert hhead
  refine decodeAll_induction (P := fun bs frames =>
    bs.head? ≠ some 0 → frames ≠ .padding run :: rest) (fun _ => (by rintro ⟨⟩)) ?_ h
  rintro bs frame bs' frames hdec - - hhead heq
  obtain ⟨rfl, rfl⟩ := cons.inj heq
  generalize hframe : padding run = frame at hdec
  cases decode_cases hdec with
  | padding tail => exact hhead rfl
  | unbounded data => cases hframe
  | checked _ _ _ hother _ =>
    rw [← hframe] at hother
    cases hother

lemma head?_dropWhile_zero {tail : Bytes} : (tail.dropWhile (· == 0)).head? ≠ some 0 := by
  intro h
  have hhead := head?_dropWhile_not (fun b : UInt8 => b == 0) tail
  rw [h] at hhead
  cases hhead

lemma decodeAll_zeros_append {run : Nat} {tail : Bytes} :
    decodeAll (zeroOctets (run + 1) ++ tail) =
      (decodeAll tail).map (padding (run + 1)).push := by
  have hzeros : ∀ b ∈ zeroOctets run, (b == 0) = true := fun b hb => by
    rw [eq_of_mem_replicate hb]
    rfl
  have hdec : decode.run (zeroOctets (run + 1) ++ tail) =
      .ok (.padding (run + (tail.takeWhile (· == 0)).length + 1), tail.dropWhile (· == 0)) := by
    have hrun : decode.run (0x00 :: (zeroOctets run ++ tail)) =
        .ok (.padding (((zeroOctets run ++ tail).takeWhile (· == 0)).length + 1),
          (zeroOctets run ++ tail).dropWhile (· == 0)) := rfl
    rw [takeWhile_append_of_pos hzeros, dropWhile_append_of_pos hzeros,
      length_append, length_zeroOctets] at hrun
    exact hrun
  rw [decodeAll_of_ok hdec]
  by_cases hhead : tail.head? = some 0
  · obtain ⟨rest, rfl⟩ := head?_eq_some_iff.mp hhead
    have hrest : decode.run (0x00 :: rest) =
        .ok (.padding ((rest.takeWhile (· == 0)).length + 1), rest.dropWhile (· == 0)) := rfl
    rw [decodeAll_of_ok hrest]
    show (decodeAll (rest.dropWhile (· == 0))).map _ = _
    cases decodeAll (rest.dropWhile (· == 0)) with
    | error e => rfl
    | ok frames =>
      refine congrArg (fun n => ok (padding n :: frames)) ?_
      show run + ((rest.takeWhile (· == 0)).length + 1) + 1 = _
      omega
  · have hsame : tail.takeWhile (· == 0) = [] ∧ tail.dropWhile (· == 0) = tail := by
      cases tail with
      | nil => exact ⟨rfl, rfl⟩
      | cons b rest =>
        have hb : (b == 0) = false := beq_eq_false_iff_ne.mpr fun h => hhead (congrArg some h)
        exact ⟨takeWhile_cons_of_neg (by simp [hb]),
          dropWhile_cons_of_neg (by simp [hb])⟩
    rw [hsame.1, hsame.2]
    cases htail : decodeAll tail with
    | error e => rfl
    | ok frames =>
      exact congrArg ok
        (push_padding_succ (decodeAll_ne_padding hhead htail) run).symm

lemma decodeAll_encode_append {frame : Frame} (hvalid : frame.Valid) {tail : Bytes} :
    decodeAll (frame.encode ++ tail) = (decodeAll tail).map frame.push := by
  cases hpad : frame.isPadding with
  | false =>
    rw [decodeAll_of_ok (parses_encode hvalid hpad tail)]
    exact congrArg (fun f => (decodeAll tail).map f)
      (funext fun frames => (push_of_not_padding hpad).symm)
  | true =>
    cases frame with
    | padding run =>
      cases run with
      | zero =>
        show decodeAll tail = _
        rw [funext push_padding_zero]
        cases decodeAll tail <;> rfl
      | succ run => exact decodeAll_zeros_append
    | _ => cases hpad

lemma decodeAll_encodeAll_append (hvalid : ∀ frame ∈ frames, frame.Valid) (tail : Bytes) :
    decodeAll (encodeAll frames ++ tail) =
      (decodeAll tail).map fun more => frames.foldr push more := by
  induction frames with
  | nil =>
    show decodeAll tail = (decodeAll tail).map id
    cases decodeAll tail <;> rfl
  | cons frame frames ih =>
    obtain ⟨hframe, hrest⟩ := forall_mem_cons.mp hvalid
    unfold encodeAll at ih ⊢
    rw [flatMap_cons, append_assoc, decodeAll_encode_append hframe, ih hrest]
    cases decodeAll tail <;> rfl

lemma mergePadding_decodeAll (h : decodeAll bs = .ok frames) : mergePadding frames = frames := by
  refine decodeAll_induction (P := fun _ frames => mergePadding frames = frames) rfl ?_ h
  intro bs frame rest frames hdec hrest ih
  show frame.push (mergePadding frames) = frame :: frames
  rw [ih]
  cases decode_cases hdec with
  | padding tail =>
    exact push_padding_succ (decodeAll_ne_padding head?_dropWhile_zero hrest) _
  | unbounded data => rfl
  | checked _ _ _ hother _ => exact push_of_not_padding hother

/-! ## The round trip -/

/-- The second string is what is left of the first where one of its frames starts. -/
inductive StartsFrame : Bytes → Bytes → Prop
  | here (bs : Bytes) : StartsFrame bs bs
  | later {bs rest start : Bytes} {frame : Frame} (first : decode.run bs = .ok (frame, rest))
      (starts : StartsFrame rest start) : StartsFrame bs start

lemma StartsFrame.length_le (h : StartsFrame bs start) : start.length ≤ bs.length := by
  induction h with
  | here bs => exact le_rfl
  | later first _ ih => exact le_trans ih (le_of_lt (decode_cases first).length_lt)

def DatagramsBounded (bs : Bytes) : Prop :=
  ∀ data, StartsFrame bs (0x30 :: data) → data.length ≤ maxFramePayload

lemma datagramsBounded_of_length (h : bs.length ≤ maxFramePayload + 1) : DatagramsBounded bs :=
  fun _ hstar => Nat.le_of_succ_le_succ (le_trans hstar.length_le h)

lemma valid_of_bounded (h : decodeAll bs = .ok frames) (hboun : DatagramsBounded bs) :
    ∀ frame ∈ frames, frame.Valid := by
  revert hboun
  refine decodeAll_induction (P := fun bs frames => DatagramsBounded bs → ∀ frame ∈ frames, frame.Valid)
    (fun _ => forall_mem_nil _) ?_ h
  intro bs frame rest frames hdec _ ih hboun
  refine forall_mem_cons.mpr
    ⟨?_, ih fun data hstar => hboun data (.later hdec hstar)⟩
  cases decode_cases hdec with
  | padding tail => exact True.intro
  | unbounded data => exact hboun data (.here _)
  | checked _ _ hvalid _ _ => exact hvalid

lemma last_of_startsFrame (h : StartsFrame bs start)
    (hstart : start = 0x30 :: data) (hdec : decodeAll bs = .ok frames) :
    ∃ before, frames = before ++ [.datagram data] ∧ ∀ frame ∈ before, frame.Valid := by
  induction h generalizing frames with
  | here bs =>
    subst hstart
    have hfirst : decode.run (0x30 :: data) = .ok (.datagram data, []) := rfl
    rw [decodeAll_of_ok hfirst] at hdec
    cases hdec
    exact ⟨[], rfl, forall_mem_nil _⟩
  | @later bs rest start frame first starts ih =>
    have hsome : rest ≠ [] := by
      rintro rfl
      have hlen := starts.length_le
      rw [hstart] at hlen
      cases hlen
    rw [decodeAll_of_ok first] at hdec
    cases hrest : decodeAll rest with
    | error e =>
      rw [hrest] at hdec
      cases hdec
    | ok frames' =>
      rw [hrest] at hdec
      cases hdec
      obtain ⟨before, rfl, hbef⟩ := ih hstart hrest
      refine ⟨frame :: before, rfl, forall_mem_cons.mpr ⟨?_, hbef⟩⟩
      cases decode_cases first with
      | padding tail => exact True.intro
      | unbounded data => exact absurd rfl hsome
      | checked _ _ hvalid _ _ => exact hvalid

lemma foldr_push_append (frames : List Frame) {more : List Frame}
    (h : ∀ run rest, more ≠ .padding run :: rest) :
    frames.foldr push more = mergePadding frames ++ more := by
  induction frames with
  | nil => rfl
  | cons frame frames ih =>
    show frame.push (frames.foldr push more) = frame.push (mergePadding frames) ++ more
    rw [ih]
    cases hpad : frame.isPadding with
    | false =>
      rw [push_of_not_padding hpad, push_of_not_padding hpad]
      rfl
    | true =>
      cases frame with
      | padding run =>
        cases run with
        | zero => rw [push_padding_zero, push_padding_zero]
        | succ run =>
          cases mergePadding frames with
          | nil => exact push_padding_succ h run
          | cons frame merged => cases frame <;> rfl
      | _ => cases hpad

lemma decodeAll_ne_long {tail data : Bytes} (hlong : maxFramePayload < data.length) :
    decodeAll (0x31 :: tail) ≠ .ok (.datagram data :: rest) := by
  intro h
  cases hdec : decode.run (0x31 :: tail) with
  | error e =>
    rw [decodeAll_of_error hdec] at h
    cases h
  | ok first =>
    obtain ⟨frame, rest'⟩ := first
    rw [decodeAll_of_ok hdec] at h
    cases hrest : decodeAll rest' with
    | error e =>
      rw [hrest] at h
      cases h
    | ok frames =>
      rw [hrest] at h
      obtain ⟨rfl, -⟩ := cons.inj (ok.inj h)
      obtain ⟨⟨hvalid, -⟩, -⟩ := @ensures_decodeAs 0x31 (by decide) (by decide) tail _ rest' hdec
      exact not_le.mpr hlong hvalid

lemma decodeAll_ne_of_long {before : List Frame} (hbef : ∀ frame ∈ before, frame.Valid)
    {data : Bytes} (hlong : maxFramePayload < data.length)
    (hmerged : mergePadding (before ++ [.datagram data]) = before ++ [.datagram data]) :
    decodeAll (encodeAll (before ++ [.datagram data])) ≠ .ok (before ++ [.datagram data]) := by
  intro h
  have hsplit : encodeAll (before ++ [.datagram data]) =
      encodeAll before ++ (0x31 :: (encodeVarint data.length ++ data)) := by
    unfold encodeAll
    rw [flatMap_append, flatMap_singleton]
    rfl
  rw [hsplit, decodeAll_encodeAll_append hbef] at h
  have hsame : mergePadding before = before := by
    have hlast := @foldr_push_append before [.datagram data] (by rintro _ _ ⟨⟩)
    unfold mergePadding at hmerged
    rw [foldr_append] at hmerged
    exact append_cancel_right (hlast.symm.trans hmerged)
  cases hmore : decodeAll (0x31 :: (encodeVarint data.length ++ data)) with
  | error e =>
    rw [hmore] at h
    cases h
  | ok more =>
    rw [hmore] at h
    have hfold : before.foldr push more = before ++ [.datagram data] := ok.inj h
    have hhead : (0x31 :: (encodeVarint data.length ++ data)).head? ≠ some 0 :=
      fun h => absurd (Option.some.inj h) (by decide)
    rw [foldr_push_append before (decodeAll_ne_padding hhead hmore), hsame] at hfold
    rw [append_cancel_left hfold] at hmore
    exact decodeAll_ne_long hlong hmore

/-- Frames come back from their payload with their padding merged, and the frames of a
payload come back as they are exactly if no datagram without a length is too long. -/
theorem frames_round_trip (frames : List Frame) (bs : Bytes) :
    ((∀ frame ∈ frames, frame.Valid) →
      decodeAll (encodeAll frames) = .ok (mergePadding frames)) ∧
    (decodeAll bs = .ok frames →
      (decodeAll (encodeAll frames) = .ok frames ↔ DatagramsBounded bs)) := by
  have hforth : (∀ frame ∈ frames, frame.Valid) →
      decodeAll (encodeAll frames) = .ok (mergePadding frames) := by
    intro hvalid
    have hdec := decodeAll_encodeAll_append hvalid []
    rwa [append_nil] at hdec
  refine ⟨hforth, fun hdec => ⟨fun hback data hstar => ?_, fun hboun => ?_⟩⟩
  · by_contra hlong
    obtain ⟨before, rfl, hbef⟩ := last_of_startsFrame hstar rfl hdec
    exact decodeAll_ne_of_long hbef (not_le.mp hlong) (mergePadding_decodeAll hdec) hback
  · rw [hforth (valid_of_bounded hdec hboun), mergePadding_decodeAll hdec]

/-- Padding is merged, an ACK with ECN counts comes back without them and a datagram gets its
length. -/
theorem frames_round_trip_mixed :
    decodeAll (encodeAll [.padding 2, .padding 0, .padding 1, .stream 4 0 true [7], .ping]) =
        .ok [.padding 3, .stream 4 0 true [7], .ping] ∧
      decodeAll [0x03, 5, 0, 0, 2, 1, 1, 1, 0x30, 9] = .ok [.ack 5 0 2 [], .datagram [9]] ∧
      decodeAll (encodeAll [.ack 5 0 2 [], .datagram [9]]) = .ok [.ack 5 0 2 [], .datagram [9]] := by
  have hread : decodeAll [0x03, 5, 0, 0, 2, 1, 1, 1, 0x30, 9] =
      .ok [.ack 5 0 2 [], .datagram [9]] := rfl
  refine ⟨?_, hread, ?_⟩
  · refine (frames_round_trip _ []).1 ?_
    simp [Frame.Valid, varintMax, maxFramePayload]
  · exact ((frames_round_trip _ _).2 hread).mpr (datagramsBounded_of_length (by decide))

/-- A datagram of 1 MiB and an octet, without a length, is read and cannot be read again. -/
theorem long_datagram_lost :
    let data := replicate (2 ^ 20 + 1) (0 : UInt8)
    decodeAll (0x30 :: data) = .ok [.datagram data] ∧
      decodeAll (encodeAll [.datagram data]) ≠ .ok [.datagram data] := by
  intro data
  have hlong : maxFramePayload < data.length := by
    rw [length_replicate]
    decide
  generalize data = data at hlong
  have hfirst : decode.run (0x30 :: data) = .ok (.datagram data, []) := rfl
  refine ⟨?_, @decodeAll_ne_of_long [] (forall_mem_nil _) data hlong rfl⟩
  rw [decodeAll_of_ok hfirst]
  rfl

end MeshBus.Quic
