import MeshBus.Dns.RoundTrip

/-!
# Encoding what was decoded

A message that was decoded is encoded again and decoded once more.  What stands on the wire
decides whether this gives the same message: the decoder puts A in the place of a type it does
not know, the encoder writes the root for the owner of a pseudo-record and leaves out empty
labels, and a name that pointers made short may be too long when it is written in full.
-/

namespace MeshBus.Dns

open Lib List QType Text
open Lib.Scan

/-! ## What stands on the wire -/

def wireName : Scan DecodeError (List Bytes) := fun buf pos => nameLoop .ok buf pos 0 none

def Named (qtypeRaw : UInt16) : Prop := qtypeRaw = 12 ∨ qtypeRaw = 5

instance (qtypeRaw : UInt16) : Decidable (Named qtypeRaw) := inferInstanceAs (Decidable (_ ∨ _))

/-- The names and the type of a record. -/
structure WireRecord where
  owner : List Bytes
  qtype : UInt16
  /-- The name in the data, if they are one. -/
  target : List Bytes
deriving DecidableEq, Repr

def wireTarget (qtypeRaw : UInt16) : Scan DecodeError (List Bytes) :=
  if Named qtypeRaw then wireName else pure []

def wireRecord : Scan DecodeError WireRecord := do
  let owner ← wireName
  let qtype ← u16
  let _ ← u16
  let _ ← u32
  let rdlen ← u16
  let start ← position
  let target ← wireTarget qtype
  seek (start + rdlen.toNat)
  pure ⟨owner, qtype, target⟩

def wireQuestion : Scan DecodeError (List Bytes × UInt16) := do
  let name ← wireName
  let qtype ← u16
  let _ ← u16
  pure (name, qtype)

structure WireMessage where
  questions : List (List Bytes × UInt16)
  records : List WireRecord
deriving DecidableEq, Repr

def wireMessage (buf : Bytes) : Except DecodeError WireMessage :=
  (Scan.runAt (do
    let header ← decodeHeader
    let questions ← times header.qdcount.toNat wireQuestion
    let answers ← times header.ancount.toNat wireRecord
    let authorities ← times header.nscount.toNat wireRecord
    let additionals ← times header.arcount.toNat wireRecord
    pure (WireMessage.mk questions (answers ++ authorities ++ additionals))) buf 0).map Prod.fst

/-! ## Names -/

def WireLabels (labels : List Bytes) : Prop :=
  ∀ label ∈ labels, label ≠ [] ∧ label.length ≤ 63 ∧ ∀ b ∈ label, b < 128

def lowerChar (b : UInt8) : Char := (Char.ofNat b.toNat).toLower

def nameOf (labels : List Bytes) : Name := textName (labels.map (·.map lowerChar))

lemma lowerLabel_eq_ok (h : lowerLabel bs = .ok label) :
    label = bs.map lowerChar ∧ ∀ b ∈ bs, b < 128 := by
  induction bs generalizing label with
  | nil => exact ⟨(Except.ok.inj h).symm, forall_mem_nil _⟩
  | cons b bs ih =>
    rw [lowerLabel, mapM_cons] at h
    obtain ⟨c, hc, hrest⟩ := bind_eq_ok.mp h
    obtain ⟨cs, hcs, heq⟩ := bind_eq_ok.mp hrest
    obtain ⟨rfl, hascii⟩ := ih hcs
    split_ifs at hc with hlt
    rw [← Except.ok.inj heq, ← Except.ok.inj hc]
    exact ⟨rfl, forall_mem_cons.mpr ⟨hlt, hascii⟩⟩

lemma toNat_le_of_clear {len : UInt8} (h : len &&& 0xc0 = 0) : len.toNat ≤ 63 := by
  have htable : ∀ n < 256, UInt8.ofNat n &&& 0xc0 = 0 → n ≤ 63 := by decide +kernel
  exact htable len.toNat len.toNat_lt (by rwa [UInt8.ofNat_toNat])

variable {buf rdata : Bytes} {wire : List Bytes} {data : RData} {raw : RawMessage}
  {rr : ResourceRecord} {ttl : UInt32} {r : WireRecord}

lemma nameLoop_wire {jumps : Nat} {next : Option Nat} {labels : List (List Char)}
    (h : nameLoop lowerLabel buf pos jumps next = .ok (labels, end_)) :
    ∃ wire, nameLoop .ok buf pos jumps next = .ok (wire, end_) ∧ WireLabels wire ∧
      labels = wire.map (·.map lowerChar) := by
  fun_induction nameLoop lowerLabel buf pos jumps next generalizing labels end_ with
  | case1 pos jumps next hlt len =>
    rename_i hzero
    cases h
    refine ⟨[], ?_, forall_mem_nil _, rfl⟩
    rw [nameLoop, dif_pos hlt, if_pos hzero]
  | case5 pos jumps next hlt len hne hpoin low hlow ptr hhops =>
    rename_i hback ih
    obtain ⟨wire, hwire, hlabs⟩ := ih h
    refine ⟨wire, ?_, hlabs⟩
    rw [nameLoop, dif_pos hlt]
    simp only [hlow]
    rw [if_neg hne, if_pos hpoin, if_neg hhops, if_neg hback, hwire]
  | case8 pos jumps next hlt len hne hpoin hclear hfits =>
    rename_i ih
    obtain ⟨first, hfirst, hloop⟩ := bind_eq_ok.mp h
    obtain ⟨rest, hrest, heq⟩ := bind_eq_ok.mp hloop
    cases heq
    obtain ⟨wire, hwire, hlabs, hmap⟩ := ih hrest
    obtain ⟨rfl, hascii⟩ := lowerLabel_eq_ok hfirst
    have hlen : ((buf.drop (pos + 1)).take len.toNat).length = len.toNat := by
      rw [length_take, length_drop]
      omega
    have hpos : len.toNat ≠ 0 := fun hz => hne (UInt8.toNat_inj.mp hz)
    refine ⟨(buf.drop (pos + 1)).take len.toNat :: wire, ?_, ?_, ?_⟩
    · rw [nameLoop, dif_pos hlt, if_neg hne, if_neg hpoin, if_neg hclear, if_neg hfits, hwire]
      rfl
    · refine forall_mem_cons.mpr ⟨⟨?_, ?_, hascii⟩, hlabs⟩
      · exact ne_nil_of_length_pos (by omega)
      · rw [hlen]
        exact toNat_le_of_clear (not_not.mp hclear)
    · rw [map_cons, ← hmap]
  | _ => cases h

lemma lowerAscii_lowerChar (h : b < 128) : LowerAscii (lowerChar b) := by
  have htable : ∀ n < 128, LowerAscii (lowerChar (UInt8.ofNat n)) := by decide +kernel
  have hb := htable b.toNat (UInt8.lt_iff_toNat_lt.mp h)
  rwa [UInt8.ofNat_toNat] at hb

lemma lowerChar_eq_dot (h : b < 128) : lowerChar b = '.' ↔ b = 46 := by
  have htable : ∀ n < 128, lowerChar (UInt8.ofNat n) = '.' ↔ n = 46 := by decide +kernel
  have hb := htable b.toNat (UInt8.lt_iff_toNat_lt.mp h)
  rw [UInt8.ofNat_toNat] at hb
  exact hb.trans (@UInt8.toNat_inj b 46)

lemma WireLabels.lower (h : WireLabels wire) : LowerLabels (wire.map (·.map lowerChar)) := by
  intro label hlabel
  obtain ⟨bs, hbs, rfl⟩ := mem_map.mp hlabel
  obtain ⟨hne, -, hascii⟩ := h bs hbs
  refine ⟨fun hnil => hne (map_eq_nil_iff.mp hnil), fun c hc => ?_⟩
  obtain ⟨b, hb, rfl⟩ := mem_map.mp hc
  exact lowerAscii_lowerChar (hascii b hb)

lemma WireLabels.lower_nameOf (h : WireLabels wire) : (nameOf wire).Lower :=
  lower_textName fun label hlabel => (h.lower label hlabel).2

lemma decodeName_wire (h : decodeName.runAt buf pos = .ok (name, end_)) :
    ∃ wire, wireName.runAt buf pos = .ok (wire, end_) ∧ WireLabels wire ∧
      name = nameOf wire := by
  obtain ⟨labels, hloop, hrest⟩ := bind_eq_ok.mp h
  obtain ⟨wire, hwire, hlabs, hmap⟩ := nameLoop_wire hloop
  have hlower : ∀ label ∈ labels.1, ∀ c ∈ label, LowerAscii c := by
    rw [hmap]
    exact fun label hlabel => (hlabs.lower label hlabel).2
  obtain ⟨name', hname, heq⟩ := bind_eq_ok.mp hrest
  have htext := (fromAscii_dotted hlower).symm.trans hname
  cases heq
  refine ⟨wire, hwire, hlabs, ?_⟩
  rw [nameOf, ← hmap]
  exact (Except.ok.inj htext).symm

lemma encodeName_nameOf (h : WireLabels wire) : ∃ bs, encodeName (nameOf wire) = .ok bs := by
  refine encodeLabels_eq_ok h.lower_nameOf.labels fun piece hpiece => ?_
  rw [nameOf, labels_textName] at hpiece
  obtain ⟨label, hlabel, hsplit⟩ := mem_flatMap.mp (mem_of_mem_filter hpiece)
  obtain ⟨bs, hbs, rfl⟩ := mem_map.mp hlabel
  have hle := (infix_of_mem_splitOn hsplit).length_le
  rw [length_map] at hle
  exact le_trans hle (h bs hbs).2.1

/-- No label begins or ends with a dot, or has two in a row. -/
def Tidy (wire : List Bytes) : Prop := ∀ label ∈ wire, [] ∉ label.splitOn 46

instance (wire : List Bytes) : Decidable (Tidy wire) :=
  inferInstanceAs (Decidable (∀ label ∈ wire, _))

lemma nil_mem_splitOn_lower {label : Bytes} (h : ∀ b ∈ label, b < 128) :
    [] ∈ (label.map lowerChar).splitOn '.' ↔ [] ∈ label.splitOn 46 := by
  rw [splitOn_map fun b hb => lowerChar_eq_dot (h b hb), mem_map]
  simp only [map_eq_nil_iff, exists_eq_right]

lemma nameOf_labels_eq_iff (h : WireLabels wire) :
    textName (nameOf wire).labels = nameOf wire ↔ Tidy wire := by
  rw [nameOf, textName_labels_eq_iff fun label hlabel => (h.lower label hlabel).1]
  simp only [forall_mem_map, Tidy]
  exact forall₂_congr fun label hlabel => not_congr (nil_mem_splitOn_lower (h label hlabel).2.2)

/-! ## Records -/

lemma toU16_of_fromU16 (h : fromU16 v = some t) : t.toU16 = v := by
  unfold fromU16 at h
  split_ifs at h with h1 h2 h3 h4 h5 h6 h7 <;> cases h <;> exact Eq.symm ‹v = _›

lemma encodeTxt_txtParts (h : txtParts bs = .ok parts) : encodeTxt parts = .ok bs := by
  fun_induction txtParts bs generalizing parts with
  | case1 =>
    rw [← Except.ok.inj h]
    rfl
  | case4 len rest hle part hpart ih =>
    obtain ⟨more, hmore, heq⟩ := bind_eq_ok.mp h
    have htail := ih hmore
    have hutf8 := utf8_of_ofUtf8 hpart
    have hlen : (utf8 part).length = len.toNat := by
      rw [hutf8, length_take]
      omega
    have hlt := len.toNat_lt
    rw [← Except.ok.inj heq]
    refine encodeTxt_cons_eq_ok.mpr ⟨by omega, _, htail, ?_⟩
    rw [hlen, UInt8.ofNat_toNat, hutf8, cons_append, take_append_drop]
  | _ => cases h

/-- What the data of the record may be decoded to. -/
inductive DataOf (r : WireRecord) (ttl : UInt32) : RData → Prop where
  | a (h : fromU16 r.qtype = some .a) (ip : BitVec 32) : DataOf r ttl (.a ip)
  | aaaa (h : fromU16 r.qtype = some .aaaa) (ip : BitVec 128) : DataOf r ttl (.aaaa ip)
  | ptr (h : fromU16 r.qtype = some .ptr) (hlabels : WireLabels r.target) :
      DataOf r ttl (.ptr (nameOf r.target))
  | cname (h : fromU16 r.qtype = some .cname) (hlabels : WireLabels r.target) :
      DataOf r ttl (.cname (nameOf r.target))
  | txt (h : fromU16 r.qtype = some .txt) {parts : List String} {rdata : Bytes}
      (hparts : encodeTxt parts = .ok rdata) (hlen : rdata.length ≤ 65535) :
      DataOf r ttl (.txt parts)
  | opt (h : fromU16 r.qtype = some .opt) (size : UInt16) {options : Bytes}
      (hlen : options.length ≤ 65535) :
      DataOf r ttl (.opt size (ttl >>> 24).toUInt8 (ttl >>> 16).toUInt8
        (ttl &&& 0xffff).toUInt16 options)
  | any (h : fromU16 r.qtype = some .any) {raw : Bytes} (hlen : raw.length ≤ 65535) :
      DataOf r ttl (.opaqueData r.qtype raw)
  | unknown (h : fromU16 r.qtype = none) {raw : Bytes} (hlen : raw.length ≤ 65535) :
      DataOf r ttl (.opaqueData r.qtype raw)

structure Decoded (rr : ResourceRecord) (r : WireRecord) : Prop where
  owner : WireLabels r.owner
  name : rr.name = nameOf r.owner
  qtype : rr.qtype = (fromU16 r.qtype).getD .a
  data : DataOf r rr.ttl rr.data

lemma named_iff :
    Named qtypeRaw ↔ fromU16 qtypeRaw = some .ptr ∨ fromU16 qtypeRaw = some .cname := by
  constructor
  · rintro (rfl | rfl)
    · exact .inl rfl
    · exact .inr rfl
  · rintro (h | h)
    · exact .inl (toU16_of_fromU16 h).symm
    · exact .inr (toU16_of_fromU16 h).symm

lemma runAt_wireTarget_plain (h : ¬ Named qtypeRaw) :
    (wireTarget qtypeRaw).runAt buf pos = .ok ([], pos) := by
  rw [wireTarget, if_neg h]
  rfl

lemma runAt_named_eq_ok {f : Name → RData}
    (h : (do seek start; let name ← decodeName; pure (f name) : Scan DecodeError RData).runAt
      buf pos = .ok (data, end_)) :
    ∃ wire after, wireName.runAt buf start = .ok (wire, after) ∧ WireLabels wire ∧
      data = f (nameOf wire) := by
  change (decodeName >>= fun name => pure (f name) : Scan DecodeError RData).runAt buf start = _
    at h
  obtain ⟨name, after, hname, h⟩ := runAt_bind_eq_ok h
  obtain ⟨wire, hwire, hlabs, rfl⟩ := decodeName_wire hname
  exact ⟨wire, after, hwire, hlabs, (Prod.mk.inj (Except.ok.inj h)).1.symm⟩

lemma decodeRData_wire (hlen : rdata.length ≤ 65535)
    (h : (decodeRData qtypeRaw qclassRaw ttl start rdata).runAt buf pos = .ok (data, end_)) :
    ∃ target after, (wireTarget qtypeRaw).runAt buf start = .ok (target, after) ∧
      ∀ owner, DataOf ⟨owner, qtypeRaw, target⟩ ttl data := by
  have hplain : ∀ t, fromU16 qtypeRaw = t → t ≠ some .ptr → t ≠ some .cname →
      (wireTarget qtypeRaw).runAt buf start = .ok ([], start) := by
    rintro t rfl hptr hcname
    exact runAt_wireTarget_plain (fun hn => (named_iff.mp hn).elim hptr hcname)
  cases hq : fromU16 qtypeRaw with
  | none =>
    simp only [decodeRData, hq] at h
    cases h
    exact ⟨[], start, hplain _ hq (by decide) (by decide), fun owner => .unknown hq hlen⟩
  | some t =>
    cases t with
    | a =>
      simp only [decodeRData, hq] at h
      split_ifs at h with h4
      · cases h
        exact ⟨[], start, hplain _ hq (by decide) (by decide), fun owner => .a hq _⟩
      · cases h
    | aaaa =>
      simp only [decodeRData, hq] at h
      split_ifs at h with h16
      · cases h
        exact ⟨[], start, hplain _ hq (by decide) (by decide), fun owner => .aaaa hq _⟩
      · cases h
    | txt =>
      simp only [decodeRData, hq] at h
      cases hparts : txtParts rdata with
      | error e =>
        rw [hparts] at h
        cases h
      | ok parts =>
        rw [hparts] at h
        cases h
        exact ⟨[], start, hplain _ hq (by decide) (by decide),
          fun owner => .txt hq (encodeTxt_txtParts hparts) hlen⟩
    | opt =>
      simp only [decodeRData, hq] at h
      cases h
      exact ⟨[], start, hplain _ hq (by decide) (by decide), fun owner => .opt hq _ hlen⟩
    | any =>
      simp only [decodeRData, hq] at h
      cases h
      exact ⟨[], start, hplain _ hq (by decide) (by decide), fun owner => .any hq hlen⟩
    | ptr =>
      simp only [decodeRData, hq] at h
      obtain ⟨wire, after, hwire, hlabs, rfl⟩ := runAt_named_eq_ok h
      refine ⟨wire, after, ?_, fun owner => .ptr hq hlabs⟩
      rwa [wireTarget, if_pos (named_iff.mpr (.inl hq))]
    | cname =>
      simp only [decodeRData, hq] at h
      obtain ⟨wire, after, hwire, hlabs, rfl⟩ := runAt_named_eq_ok h
      refine ⟨wire, after, ?_, fun owner => .cname hq hlabs⟩
      rwa [wireTarget, if_pos (named_iff.mpr (.inr hq))]

lemma decodeRr_wire (h : decodeRr.runAt buf pos = .ok (rr, end_)) :
    ∃ r, wireRecord.runAt buf pos = .ok (r, end_) ∧ Decoded rr r := by
  obtain ⟨name, p1, hname, h⟩ := runAt_bind_eq_ok h
  obtain ⟨qtypeRaw, p2, hqtype, h⟩ := runAt_bind_eq_ok h
  obtain ⟨qclassRaw, p3, hqclass, h⟩ := runAt_bind_eq_ok h
  obtain ⟨ttl, p4, httl, h⟩ := runAt_bind_eq_ok h
  obtain ⟨rdlen, start, hrdlen, h⟩ := runAt_bind_eq_ok h
  rw [runAt_position_bind] at h
  obtain ⟨rdata, p5, hrdata, h⟩ := runAt_bind_eq_ok h
  obtain ⟨data, p6, hdata, h⟩ := runAt_bind_eq_ok h
  obtain ⟨_, p7, hseek, h⟩ := runAt_bind_eq_ok h
  cases hseek
  cases h
  obtain ⟨wire, hwire, hlabs, rfl⟩ := decodeName_wire hname
  obtain ⟨-, hlen, -⟩ := runAt_takeAt_eq_ok hrdata
  have hlt := rdlen.toNat_lt
  obtain ⟨target, after, htgt, hof⟩ := decodeRData_wire (by omega) hdata
  refine ⟨⟨wire, qtypeRaw, target⟩, ?_, hlabs, rfl, rfl, hof wire⟩
  rw [wireRecord, runAt_bind_of_ok hwire, runAt_bind_of_ok hqtype, runAt_bind_of_ok hqclass,
    runAt_bind_of_ok httl, runAt_bind_of_ok hrdlen, runAt_position_bind,
    runAt_bind_of_ok htgt]
  rfl

/-! ## Records that are kept -/

def wireOctets (wire : List Bytes) : Nat := (wire.map (·.length + 1)).sum + 1

/-- A record that survives: its type is known, its owner is tidy, and the root for a
pseudo-record, and a name in its data is tidy and fits when it is written in full. -/
structure WireRecord.Kept (r : WireRecord) : Prop where
  known : (fromU16 r.qtype).isSome
  owner : Tidy r.owner
  root : r.qtype = opt.toU16 → r.owner = []
  target : Named r.qtype → Tidy r.target ∧ wireOctets r.target ≤ 65535

lemma length_encodeName_nameOf (h : WireLabels wire) (htidy : Tidy wire)
    (hbs : encodeName (nameOf wire) = .ok bs) : bs.length = wireOctets wire := by
  have hnot : [] ∉ (wire.map (·.map lowerChar)).flatMap (·.splitOn '.') := by
    intro hmem
    obtain ⟨label, hlabel, hnil⟩ := mem_flatMap.mp hmem
    obtain ⟨w, hw, rfl⟩ := mem_map.mp hlabel
    exact htidy w hw ((nil_mem_splitOn_lower (h w hw).2.2).mp hnil)
  have hlabs : dotted (nameOf wire).labels = dotted (wire.map (·.map lowerChar)) := by
    rw [nameOf, labels_textName, dotted, terminated_filter_eq_iff _ |>.mpr hnot,
      terminated_flatMap_splitOn]
    rfl
  rw [length_encodeLabels h.lower_nameOf.labels hbs, hlabs, length_dotted, map_map, wireOctets]
  simp only [Function.comp_def, length_map]

lemma scans_nameOf (h : WireLabels wire) (htidy : Tidy wire) :
    ∃ bs, encodeName (nameOf wire) = .ok bs ∧ Scans decodeName bs (nameOf wire) := by
  obtain ⟨bs, hbs⟩ := encodeName_nameOf h
  have hscan := scans_encodeName h.lower_nameOf hbs
  rw [(nameOf_labels_eq_iff h).mpr htidy] at hscan
  exact ⟨bs, hbs, hscan⟩

lemma fields_of_decodeRr (hname : Scans decodeName owner name) (hlen : rdata.length ≤ 65535)
    (hat : At buf pos (recordOctets owner qtypeRaw qclassRaw ttl rdata))
    (h : decodeRr.runAt buf pos = .ok (rr, end_)) :
    rr.name = name ∧ ∃ start after, At buf start rdata ∧
      (decodeRData qtypeRaw qclassRaw ttl start rdata).runAt buf (start + rdata.length) =
        .ok (rr.data, after) := by
  obtain ⟨start, hstart, hrun⟩ := runAt_decodeRr hname hlen hat
  rw [hrun] at h
  obtain ⟨data, hdata, heq⟩ := bind_eq_ok.mp h
  cases heq
  exact ⟨rfl, start, data.2, hstart, hdata⟩

lemma nameOf_eq_root (h : WireLabels wire) (hroot : nameOf wire = .defaultRoot) : wire = [] := by
  cases wire with
  | nil => rfl
  | cons label wire =>
    have hpos := length_pos_iff.mpr (h label mem_cons_self).1
    have hchars := String.ofList_injective
      ((congrArg Name.canonical hroot).trans (rfl : _ = String.ofList ['.']))
    rw [map_cons, if_neg (cons_ne_nil _ _), dotted, terminated_cons] at hchars
    have hlen := congrArg length hchars
    rw [length_append, length_cons, length_map, length_singleton] at hlen
    omega

lemma DataOf.reads (h : DataOf r ttl data) (hkept : r.Kept)
    (hne : fromU16 r.qtype ≠ some .opt) (qclassRaw : UInt16) :
    ∃ t rdata, fromU16 r.qtype = some t ∧ encodeRData data = .ok rdata ∧
      rdata.length ≤ 65535 ∧ ReadsData t.toU16 qclassRaw ttl rdata data := by
  cases h with
  | a h ip =>
    exact ⟨.a, _, h, rfl, by rw [length_beBytes]; decide, readsData_a ip⟩
  | aaaa h ip =>
    exact ⟨.aaaa, _, h, rfl, by rw [length_beBytes]; decide, readsData_aaaa ip⟩
  | ptr h hlabs =>
    obtain ⟨htidy, hlen⟩ := hkept.target (named_iff.mpr (.inl h))
    obtain ⟨bs, hbs, hscan⟩ := scans_nameOf hlabs htidy
    rw [← length_encodeName_nameOf hlabs htidy hbs] at hlen
    exact ⟨.ptr, bs, h, hbs, hlen, readsData_ptr hscan⟩
  | cname h hlabs =>
    obtain ⟨htidy, hlen⟩ := hkept.target (named_iff.mpr (.inr h))
    obtain ⟨bs, hbs, hscan⟩ := scans_nameOf hlabs htidy
    rw [← length_encodeName_nameOf hlabs htidy hbs] at hlen
    exact ⟨.cname, bs, h, hbs, hlen, readsData_cname hscan⟩
  | txt h hparts hlen => exact ⟨.txt, _, h, hparts, hlen, readsData_txt hparts⟩
  | opt h => exact absurd h hne
  | any h hlen =>
    rw [← toU16_of_fromU16 h]
    exact ⟨.any, _, by rw [fromU16_toU16], rfl, hlen, readsData_any _⟩
  | unknown h => exact absurd hkept.known (by rw [h]; decide)

lemma Decoded.scans (h : Decoded rr r) (hkept : r.Kept) :
    ∃ bs, encodeRr rr = .ok bs ∧ Scans decodeRr bs rr := by
  obtain ⟨name, qtype, qclass, ttl, data⟩ := rr
  obtain ⟨howner, rfl, rfl, hdata⟩ := h
  change DataOf r ttl data at hdata
  cases qclass
  by_cases hopt : fromU16 r.qtype = some .opt
  · cases hdata with
    | opt _ size hlen =>
      have hroot := hkept.root (toU16_of_fromU16 hopt).symm
      have hrec := scans_record scans_root hlen (readsData_opt size
        (ttl &&& 0xffff).toUInt16 (ttl >>> 24).toUInt8 (ttl >>> 16).toUInt8 _)
      rw [packTtl_unpack] at hrec
      rw [hopt, hroot]
      have hencode := @encodeOpt_eq size (ttl &&& 0xffff).toUInt16 (ttl >>> 24).toUInt8
        (ttl >>> 16).toUInt8 _ hlen
      rw [packTtl_unpack] at hencode
      exact ⟨_, hencode, hrec⟩
    | a h | aaaa h | ptr h | cname h | txt h | any h | unknown h =>
      exact absurd (h.symm.trans hopt) (by decide)
  · obtain ⟨owner, hname, hscan⟩ := scans_nameOf howner hkept.owner
    obtain ⟨t, rdata, ht, hrdata, hlen, hreads⟩ := hdata.reads hkept hopt RClass.in_.toU16
    have hne : (fromU16 r.qtype).getD .a ≠ .opt := by
      rw [ht]
      rintro rfl
      exact hopt ht
    refine ⟨_, (encodeRr_eq_ok hne).mpr ⟨owner, rdata, hname, hrdata, hlen, rfl⟩, ?_⟩
    have hrec := scans_record hscan hlen hreads
    rw [fromU16_toU16] at hrec
    simp only [ht]
    exact hrec

lemma kept_target (hf : Function.Injective f) (hlabs : WireLabels wire)
    {after : Nat} (hrdata : encodeName (nameOf wire) = .ok rdata) (hlen : rdata.length ≤ 65535)
    (hat : At buf start rdata)
    (h : (do seek start; let name ← decodeName; pure (f name) : Scan DecodeError RData).runAt
      buf pos = .ok (f (nameOf wire), after)) : Tidy wire ∧ wireOctets wire ≤ 65535 := by
  rw [runAt_seek_decodeName (scans_encodeName hlabs.lower_nameOf hrdata) hat] at h
  have hsame := hf (Prod.mk.inj (Except.ok.inj h)).1
  have htidy := (nameOf_labels_eq_iff hlabs).mp hsame
  rw [← length_encodeName_nameOf hlabs htidy hrdata]
  exact ⟨htidy, hlen⟩

lemma DataOf.kept_of_reads (h : DataOf r ttl data) (hne : fromU16 r.qtype ≠ some .opt)
    {after : Nat} (hrdata : encodeRData data = .ok rdata) (hlen : rdata.length ≤ 65535)
    (hat : At buf start rdata)
    (hread : (decodeRData ((fromU16 r.qtype).getD .a).toU16 qclassRaw ttl start rdata).runAt
      buf (start + rdata.length) = .ok (data, after)) :
    (fromU16 r.qtype).isSome ∧
      (Named r.qtype → Tidy r.target ∧ wireOctets r.target ≤ 65535) := by
  have hplain : ∀ t, fromU16 r.qtype = some t → t ≠ .ptr → t ≠ .cname → (fromU16 r.qtype).isSome ∧
        (Named r.qtype → Tidy r.target ∧ wireOctets r.target ≤ 65535) := by
    intro t ht hptr hcname
    refine ⟨by rw [ht]; rfl, fun hnamed => ?_⟩
    rcases named_iff.mp hnamed with hn | hn
    · exact absurd (Option.some.inj (ht.symm.trans hn)) hptr
    · exact absurd (Option.some.inj (ht.symm.trans hn)) hcname
  cases h with
  | a h => exact hplain _ h (by decide) (by decide)
  | aaaa h => exact hplain _ h (by decide) (by decide)
  | txt h => exact hplain _ h (by decide) (by decide)
  | any h => exact hplain _ h (by decide) (by decide)
  | opt h => exact absurd h hne
  | ptr h hlabs =>
    simp only [h, Option.getD_some, decodeRData, fromU16_toU16] at hread
    exact ⟨by rw [h]; rfl, fun _ => kept_target (fun _ _ => RData.ptr.inj) hlabs hrdata hlen
      hat hread⟩
  | cname h hlabs =>
    simp only [h, Option.getD_some, decodeRData, fromU16_toU16] at hread
    exact ⟨by rw [h]; rfl, fun _ => kept_target (fun _ _ => RData.cname.inj) hlabs hrdata hlen
      hat hread⟩
  | unknown h =>
    -- it was written as an A record, which has other data
    simp only [h, Option.getD_none, decodeRData, fromU16_toU16] at hread
    split_ifs at hread
    · cases (Prod.mk.inj (Except.ok.inj hread)).1
    · cases hread

lemma Decoded.kept_of_reads (h : Decoded rr r) (hbs : encodeRr rr = .ok bs)
    (hat : At buf pos bs) (hread : decodeRr.runAt buf pos = .ok (rr, end_)) : r.Kept := by
  obtain ⟨name, qtype, qclass, ttl, data⟩ := rr
  obtain ⟨howner, rfl, rfl, hdata⟩ := h
  change DataOf r ttl data at hdata
  by_cases hopt : fromU16 r.qtype = some .opt
  · cases hdata with
    | opt _ size hlen =>
      rw [encodeRr_opt (by rw [hopt]; rfl), encodeOpt_eq hlen] at hbs
      rw [← Except.ok.inj hbs] at hat
      obtain ⟨hname, -⟩ := fields_of_decodeRr scans_root hlen hat hread
      have hroot := nameOf_eq_root howner hname
      refine ⟨by rw [hopt]; rfl, by rw [hroot]; exact forall_mem_nil _, fun _ => hroot,
        fun hnamed => ?_⟩
      rcases named_iff.mp hnamed with hn | hn <;> exact absurd (hn.symm.trans hopt) (by decide)
    | a h | aaaa h | ptr h | cname h | txt h | any h | unknown h =>
      exact absurd (h.symm.trans hopt) (by decide)
  · have hne : (fromU16 r.qtype).getD .a ≠ .opt := by
      intro heq
      cases hq : fromU16 r.qtype with
      | none => exact absurd (hq ▸ heq) (by decide)
      | some t =>
        rw [hq] at heq
        exact hopt (hq.trans (congrArg some heq))
    obtain ⟨owner, rdata, hname, hrdata, hlen, rfl⟩ := (encodeRr_eq_ok hne).mp hbs
    have hscan := scans_encodeName howner.lower_nameOf hname
    obtain ⟨hsame, start, after, hstart, hrun⟩ := fields_of_decodeRr hscan hlen hat hread
    obtain ⟨hknown, htgt⟩ := hdata.kept_of_reads hopt hrdata hlen hstart hrun
    refine ⟨hknown, (nameOf_labels_eq_iff howner).mp hsame.symm, fun htype => ?_, htgt⟩
    exact absurd (by rw [htype, fromU16_toU16]) hopt

/-! ## Messages -/

/-- Nothing on the wire is lost: every question is of a known type and tidy, and every record is
kept. -/
structure WireMessage.Kept (w : WireMessage) : Prop where
  questions : ∀ q ∈ w.questions, (fromU16 q.2).isSome ∧ Tidy q.1
  records : ∀ r ∈ w.records, r.Kept

def questionTypes (buf : Bytes) : Except DecodeError (List UInt16) :=
  (rawMessage buf).map (·.questions.map Prod.snd)

/-- The message, decoded from the octets, is encoded and decoded to itself, and its questions
keep their types. -/
def Survives (buf : Bytes) (msg : Message) : Prop :=
  ∃ out, encodeMessage msg = .ok out ∧ decodeMessage out = .ok msg ∧
    questionTypes out = questionTypes buf

/-- A question that was decoded. -/
structure Asked (raw : Name × UInt16) (q : List Bytes × UInt16) : Prop where
  labels : WireLabels q.1
  name : raw.1 = nameOf q.1
  qtype : raw.2 = q.2

lemma decodeQuestion_wire {raw : Name × UInt16}
    (h : decodeQuestion.runAt buf pos = .ok (raw, end_)) :
    ∃ q, wireQuestion.runAt buf pos = .ok (q, end_) ∧ Asked raw q := by
  obtain ⟨name, p1, hname, h⟩ := runAt_bind_eq_ok h
  obtain ⟨qtype, p2, hqtype, h⟩ := runAt_bind_eq_ok h
  obtain ⟨qclass, p3, hqclass, h⟩ := runAt_bind_eq_ok h
  cases h
  obtain ⟨wire, hwire, hlabs, rfl⟩ := decodeName_wire hname
  refine ⟨(wire, qtype), ?_, hlabs, rfl, rfl⟩
  rw [wireQuestion, runAt_bind_of_ok hwire, runAt_bind_of_ok hqtype, runAt_bind_of_ok hqclass]
  rfl

/-- A message that was read: its counts are those of its sections, and its questions and
records stand on the wire. -/
structure ReadFrom (raw : RawMessage) (w : WireMessage) : Prop where
  counted : raw.toMessage.counted = raw.toMessage
  sections : raw.toMessage.Counted
  questions : List.Forall₂ Asked raw.questions w.questions
  records : List.Forall₂ Decoded raw.toMessage.records w.records

lemma length_of_count {r : Scan DecodeError α} {count : UInt16} {as : List α}
    (h : (times count.toNat r).runAt buf pos = .ok (as, end_)) :
    as.length ≤ 65535 ∧ UInt16.ofNat as.length = count := by
  have hlt := count.toNat_lt
  rw [length_of_runAt_times h]
  exact ⟨by omega, UInt16.ofNat_toNat⟩

lemma rawMessage_wire (h : rawMessage buf = .ok raw) :
    ∃ w, wireMessage buf = .ok w ∧ ReadFrom raw w := by
  obtain ⟨⟨raw', end_⟩, hrun, rfl⟩ := map_eq_ok.mp h
  obtain ⟨header, p1, hhdr, h⟩ := runAt_bind_eq_ok hrun
  obtain ⟨questions, p2, hquestions, h⟩ := runAt_bind_eq_ok h
  obtain ⟨answers, p3, hans, h⟩ := runAt_bind_eq_ok h
  obtain ⟨authorities, p4, hauths, h⟩ := runAt_bind_eq_ok h
  obtain ⟨additionals, p5, hadds, h⟩ := runAt_bind_eq_ok h
  cases h
  obtain ⟨qs, hqs, hasked⟩ := forall₂_of_runAt_times (fun _ _ _ => decodeQuestion_wire) hquestions
  obtain ⟨as, has, hdec⟩ := forall₂_of_runAt_times (fun _ _ _ => decodeRr_wire) hans
  obtain ⟨ns, hns, hdec'⟩ := forall₂_of_runAt_times (fun _ _ _ => decodeRr_wire) hauths
  obtain ⟨ar, har, hdec''⟩ := forall₂_of_runAt_times (fun _ _ _ => decodeRr_wire) hadds
  obtain ⟨hqlen, hqcount⟩ := length_of_count hquestions
  obtain ⟨halen, hacount⟩ := length_of_count hans
  obtain ⟨hnlen, hncount⟩ := length_of_count hauths
  obtain ⟨hrlen, hrcount⟩ := length_of_count hadds
  refine ⟨⟨qs, as ++ ns ++ ar⟩, ?_, ?_, ?_, hasked, ?_⟩
  · rw [wireMessage, runAt_bind_of_ok hhdr, runAt_bind_of_ok hqs, runAt_bind_of_ok has,
      runAt_bind_of_ok hns, runAt_bind_of_ok har]
    rfl
  · simp only [Message.counted, RawMessage.toMessage, length_map, hqcount, hacount, hncount,
      hrcount]
  · exact ⟨by simpa only [RawMessage.toMessage, length_map] using hqlen, halen, hnlen, hrlen⟩
  · exact rel_append (rel_append hdec hdec') hdec''

def reread (raw : Name × UInt16) : Name × UInt16 :=
  (textName raw.1.labels, ((fromU16 raw.2).getD .a).toU16)

lemma Asked.scans {raw : Name × UInt16} (h : Asked raw q) :
    ∃ bs, encodeQuestion (toQuestion raw) = .ok bs ∧ Scans decodeQuestion bs (reread raw) := by
  obtain ⟨name, qtype⟩ := raw
  obtain ⟨hlabs, rfl, -⟩ := h
  obtain ⟨bs, hbs⟩ := encodeName_nameOf hlabs
  have hscan := scans_encodeName hlabs.lower_nameOf hbs
  refine ⟨bs ++ (u16be _ ++ u16be _), ?_, hscan.bind ((scans_u16 _).bind
    ((scans_u16 RClass.in_.toU16).last (Scans.pure _)))⟩
  show (encodeName (nameOf q.1) >>= _) = _
  rw [hbs, ← append_assoc]
  rfl

lemma toU16_getD_eq_iff : ((fromU16 v).getD .a).toU16 = v ↔ (fromU16 v).isSome := by
  cases h : fromU16 v with
  | none =>
    refine ⟨fun heq => ?_, by rintro ⟨⟩⟩
    rw [← heq] at h
    cases h
  | some t => exact ⟨fun _ => rfl, fun _ => toU16_of_fromU16 h⟩

lemma Asked.kept_iff {raw : Name × UInt16} (h : Asked raw q) :
    reread raw = raw ↔ (fromU16 q.2).isSome ∧ Tidy q.1 := by
  obtain ⟨name, qtype⟩ := raw
  obtain ⟨hlabs, rfl, rfl⟩ := h
  rw [reread, Prod.mk.injEq, nameOf_labels_eq_iff hlabs, toU16_getD_eq_iff]
  exact and_comm

lemma kept_of_reads_times (h : List.Forall₂ Decoded rrs rs) (hbss : rrs.mapM encodeRr = .ok bss)
    (hat : At buf pos bss.flatten)
    (hread : (times rrs.length decodeRr).runAt buf pos = .ok (rrs, end_)) : ∀ r ∈ rs, r.Kept := by
  induction h generalizing bss pos with
  | nil => exact forall_mem_nil _
  | @cons rr r rrs rs hfirst _ ih =>
    rw [mapM_cons] at hbss
    obtain ⟨bs, hbs, hrest⟩ := bind_eq_ok.mp hbss
    obtain ⟨tail, htail, heq⟩ := bind_eq_ok.mp hrest
    rw [← Except.ok.inj heq] at hat
    obtain ⟨hat, hafter⟩ := hat.append
    obtain ⟨a, rest, middle, hcons, hhead, hmore⟩ := runAt_times_succ_eq_ok hread
    obtain ⟨rfl, rfl⟩ := cons.inj hcons
    have hkept := hfirst.kept_of_reads hbs hat hhead
    -- the record is read where it stands, so the next one is read where it stands
    obtain ⟨bs', hbs', hscan⟩ := hfirst.scans hkept
    cases Except.ok.inj (hbs.symm.trans hbs')
    obtain ⟨-, rfl⟩ := Prod.mk.inj (Except.ok.inj ((hscan _ _ hat).symm.trans hhead))
    exact forall_mem_cons.mpr ⟨hkept, ih htail hafter hmore⟩

/-- All that was decoded stands on the wire in a form that is kept. -/
def KeptOnWire (buf : Bytes) : Prop := ∃ w, wireMessage buf = .ok w ∧ w.Kept

lemma ReadFrom.encodeQuestions (h : ReadFrom raw w) :
    ∃ qs, raw.toMessage.questions.mapM encodeQuestion = .ok qs ∧
      List.Forall₂ (Scans decodeQuestion) qs (raw.questions.map reread) := by
  have hasked : ∀ q ∈ raw.questions, ∃ bs, encodeQuestion (toQuestion q) = .ok bs ∧
      Scans decodeQuestion bs (reread q) :=
    forall_mem_of_forall₂ (P := fun _ => True) (fun _ _ h _ => h.scans) h.questions.flip
      fun _ _ => trivial
  obtain ⟨qs, hqs, hscans⟩ := mapM_scans hasked
  exact ⟨qs, by rw [RawMessage.toMessage, mapM_map]; exact hqs, hscans⟩

lemma survives_of_kept (hraw : rawMessage buf = .ok raw) (h : ReadFrom raw w)
    (hkept : w.Kept) : Survives buf raw.toMessage := by
  have hsame : ∀ q ∈ raw.questions, reread q = q :=
    forall_mem_of_forall₂ (fun _ _ h => h.kept_iff.mpr) h.questions.flip hkept.questions
  have hrecs : ∀ rr ∈ raw.toMessage.records, ∃ bs, encodeRr rr = .ok bs ∧
      Scans decodeRr bs (id rr) :=
    forall_mem_of_forall₂ (fun _ _ h => h.scans) h.records.flip hkept.records
  simp only [Message.records, forall_mem_append] at hrecs
  obtain ⟨qs, hqs, hquestions⟩ := h.encodeQuestions
  obtain ⟨as, has, hans⟩ := mapM_scans hrecs.1.1
  obtain ⟨ns, hns, hauths⟩ := mapM_scans hrecs.1.2
  obtain ⟨ar, har, hadds⟩ := mapM_scans hrecs.2
  rw [map_id] at hans hauths hadds
  rw [map_congr_left hsame, map_id'] at hquestions
  have hout := rawMessage_of_scans (scans_message h.sections (length_map _).symm hquestions
    hans hauths hadds)
  rw [h.counted] at hout
  refine ⟨_, encodeMessage_eq_ok.mpr ⟨h.sections, qs, as, ns, ar, hqs, has, hns, har, rfl⟩, ?_, ?_⟩
  · rw [decodeMessage, hout]
    rfl
  · rw [questionTypes, questionTypes, hout, hraw]
    rfl

lemma read_messageOctets (hcnt : msg.Counted) (hlen : questions.length = msg.questions.length)
    (hqs : List.Forall₂ (Scans decodeQuestion) qs questions)
    (h : rawMessage (messageOctets msg qs as ns ar) = .ok raw) :
    raw.questions = questions ∧ ∃ pos end_,
      At (messageOctets msg qs as ns ar) pos (as ++ ns ++ ar).flatten ∧
      (times raw.toMessage.records.length decodeRr).runAt (messageOctets msg qs as ns ar) pos =
        .ok (raw.toMessage.records, end_) := by
  obtain ⟨⟨raw, end_⟩, hrun, rfl⟩ := map_eq_ok.mp h
  obtain ⟨hhdr, hrest⟩ := (at_self (messageOctets msg qs as ns ar)).append
  obtain ⟨hquestions, hrecs⟩ := hrest.append
  have hscan := scans_times_of_count hqs (hlen ▸ hcnt.questions)
  rw [hlen] at hscan
  rw [decodeRaw, (scans_header msg).runAt_bind hhdr] at hrun
  obtain ⟨questions', p2, hread, hrun⟩ := runAt_bind_eq_ok hrun
  obtain ⟨rfl, rfl⟩ := Prod.mk.inj (Except.ok.inj ((hscan _ _ hquestions).symm.trans hread))
  obtain ⟨answers, p3, hans, hrun⟩ := runAt_bind_eq_ok hrun
  obtain ⟨authorities, p4, hauths, hrun⟩ := runAt_bind_eq_ok hrun
  obtain ⟨additionals, p5, hadds, hrun⟩ := runAt_bind_eq_ok hrun
  obtain ⟨rfl, -⟩ := Prod.mk.inj (Except.ok.inj hrun)
  have hall := runAt_times_add (runAt_times_add hans hauths) hadds
  rw [← length_of_runAt_times hall] at hall
  rw [← append_assoc, ← flatten_append, ← flatten_append] at hrecs
  exact ⟨rfl, _, p5, hrecs, hall⟩

lemma kept_of_survives (hraw : rawMessage buf = .ok raw) (h : ReadFrom raw w)
    (hsurv : Survives buf raw.toMessage) : w.Kept := by
  obtain ⟨out, hencode, hdec, htypes⟩ := hsurv
  obtain ⟨hcnt, qs, as, ns, ar, hqs, has, hns, har, rfl⟩ := encodeMessage_eq_ok.mp hencode
  obtain ⟨raw', hraw', hmsg⟩ := map_eq_ok.mp hdec
  obtain ⟨qs', hqs', hscans⟩ := h.encodeQuestions
  cases Except.ok.inj (hqs.symm.trans hqs')
  obtain ⟨hquestions, pos, end_, hat, hread⟩ := read_messageOctets hcnt
    (by rw [length_map, RawMessage.toMessage, length_map]) hscans hraw'
  have hrecs : raw.toMessage.records.mapM encodeRr = .ok (as ++ ns ++ ar) :=
    mapM_append_eq_ok.mpr ⟨_, _, mapM_append_eq_ok.mpr ⟨as, ns, has, hns, rfl⟩, har, rfl⟩
  have hsame : ∀ q ∈ raw.questions, reread q = q := by
    have hnames := congrArg Message.questions hmsg
    simp only [RawMessage.toMessage, hquestions, map_map] at hnames
    rw [questionTypes, questionTypes, hraw, hraw'] at htypes
    have htypes : raw'.questions.map Prod.snd = raw.questions.map Prod.snd := Except.ok.inj htypes
    rw [hquestions, map_map] at htypes
    intro q hq
    have hname := congrArg Question.name (map_inj_left.mp hnames q hq)
    exact Prod.ext hname (map_inj_left.mp htypes q hq)
  rw [hmsg] at hread
  exact ⟨forall_mem_of_forall₂ (fun _ _ h => h.kept_iff.mp) h.questions hsame,
    kept_of_reads_times h.records hrecs hat hread⟩

/-- A message that was decoded is encoded and decoded to itself, with the types of its questions,
exactly if all that stands on the wire is kept. -/
theorem reencoded_iff (buf : Bytes) (msg : Message) (h : decodeMessage buf = .ok msg) :
    Survives buf msg ↔ KeptOnWire buf := by
  obtain ⟨raw, hraw, rfl⟩ := map_eq_ok.mp h
  obtain ⟨w, hw, hfrom⟩ := rawMessage_wire hraw
  constructor
  · intro hsurv
    exact ⟨w, hw, kept_of_survives hraw hfrom hsurv⟩
  · rintro ⟨w', hw', hkept⟩
    cases Except.ok.inj (hw.symm.trans hw')
    exact survives_of_kept hraw hfrom hkept

/-- An answer whose owner points to the name of the question. -/
def compressedReply : Bytes :=
  [0, 7, 0x81, 0, 0, 1, 0, 1, 0, 0, 0, 0, 1, 65, 0, 0, 1, 0, 1, 0xc0, 12, 0, 1, 0, 1, 0, 0, 0, 60,
    0, 4, 10, 0, 0, 9]

def compressedMessage : Message :=
  ⟨⟨7, 0x8100, 1, 1, 0, 0⟩, [⟨⟨"a."⟩, .a, .in_⟩], [⟨⟨"a."⟩, .a, .in_, 60, .a 0x0a000009⟩], [], []⟩

theorem compressedReply_survives :
    decodeMessage compressedReply = .ok compressedMessage ∧
      Survives compressedReply compressedMessage := by
  have hdec : decodeMessage compressedReply = .ok compressedMessage := by decide +kernel
  refine ⟨hdec, (reencoded_iff _ _ hdec).mpr
    ⟨⟨[([[65]], 1)], [⟨[[65]], 1, []⟩]⟩, by decide +kernel, by decide +kernel, ?_⟩⟩
  exact forall_mem_singleton.mpr
    ⟨by decide, by decide +kernel, by decide, by rintro (h | h) <;> exact absurd h (by decide)⟩

/-- A reply with an SRV record (type 33), which the codec does not know, without data. -/
def serviceReply : Bytes :=
  [0, 7, 0x81, 0, 0, 0, 0, 1, 0, 0, 0, 0, 0, 0, 33, 0, 1, 0, 0, 0, 60, 0, 0]

def serviceMessage : Message :=
  ⟨⟨7, 0x8100, 0, 1, 0, 0⟩, [], [⟨.defaultRoot, .a, .in_, 60, .opaqueData 33 []⟩], [], []⟩

def serviceQuery : Bytes := [0, 7, 1, 0, 0, 1, 0, 0, 0, 0, 0, 0, 0, 0, 33, 0, 1]

def serviceQueryMessage : Message :=
  ⟨⟨7, 0x0100, 1, 0, 0, 0⟩, [⟨.defaultRoot, .a, .in_⟩], [], [], []⟩

/-- The record is encoded as an A record, which then cannot be decoded; the question is encoded
as one for A records. -/
theorem service_lost :
    (decodeMessage serviceReply = .ok serviceMessage ∧ ¬ Survives serviceReply serviceMessage) ∧
      decodeMessage serviceQuery = .ok serviceQueryMessage ∧
      ¬ Survives serviceQuery serviceQueryMessage := by
  refine ⟨⟨by decide +kernel, ?_⟩, by decide +kernel, ?_⟩
  · rintro ⟨out, hencode, hdec, -⟩
    have hout : encodeMessage serviceMessage = .ok
        [0, 7, 0x81, 0, 0, 0, 0, 1, 0, 0, 0, 0, 0, 0, 1, 0, 1, 0, 0, 0, 60, 0, 0] := by
      decide +kernel
    cases Except.ok.inj (hout.symm.trans hencode)
    exact absurd hdec (by decide +kernel)
  · rintro ⟨out, hencode, -, htypes⟩
    have hout : encodeMessage serviceQueryMessage = .ok
        [0, 7, 1, 0, 0, 1, 0, 0, 0, 0, 0, 0, 0, 0, 1, 0, 1] := by
      decide +kernel
    cases Except.ok.inj (hout.symm.trans hencode)
    exact absurd htypes (by decide +kernel)

end MeshBus.Dns
