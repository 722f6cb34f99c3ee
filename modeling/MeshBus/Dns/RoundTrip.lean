import MeshBus.Dns.Names

/-!
# Messages come back

What is encoded is decoded to the same message: a record is read where its octets stand, and a
message is its header followed by its questions and records.
-/

namespace MeshBus.Dns

open Lib List UInt16 Nat DecodeError
open Lib.Scan

/-! ## Records -/

lemma toNat_packTtl (e v : UInt8) (f : UInt16) :
    (packTtl e v f).toNat = e.toNat * 2 ^ 24 + v.toNat * 2 ^ 16 + f.toNat := by
  have he := e.toNat_lt
  have hv := v.toNat_lt
  have hf := f.toNat_lt
  have hhigh : e.toNat <<< 24 ||| v.toNat <<< 16 = (e.toNat * 2 ^ 8 + v.toNat) * 2 ^ 16 := by
    rw [← shiftLeft_add_eq_or_of_lt (by rw [shiftLeft_eq]; omega), shiftLeft_eq,
      shiftLeft_eq]
    omega
  rw [packTtl]
  simp only [UInt32.toNat_or, UInt32.toNat_shiftLeft, UInt8.toNat_toUInt32, toNat_toUInt32]
  have h24 : e.toNat <<< ((24 : UInt32).toNat % 32) % 2 ^ 32 = e.toNat <<< 24 := by
    show e.toNat <<< 24 % 2 ^ 32 = _
    omega
  have h16 : v.toNat <<< ((16 : UInt32).toNat % 32) % 2 ^ 32 = v.toNat <<< 16 := by
    show v.toNat <<< 16 % 2 ^ 32 = _
    omega
  rw [h24, h16, hhigh, ← shiftLeft_eq, ← shiftLeft_add_eq_or_of_lt hf]
  omega

lemma unpack_packTtl (e v : UInt8) (f : UInt16) :
    (packTtl e v f >>> 24).toUInt8 = e ∧ (packTtl e v f >>> 16).toUInt8 = v ∧
      (packTtl e v f &&& 0xffff).toUInt16 = f := by
  have he := e.toNat_lt
  have hv := v.toNat_lt
  have hf := f.toNat_lt
  have hpack := toNat_packTtl e v f
  refine ⟨UInt8.toNat_inj.mp ?_, UInt8.toNat_inj.mp ?_, UInt16.toNat_inj.mp ?_⟩
  · rw [UInt32.toNat_toUInt8, UInt32.toNat_shiftRight]
    show (_ >>> 24) % 2 ^ 8 = _
    omega
  · rw [UInt32.toNat_toUInt8, UInt32.toNat_shiftRight]
    show (_ >>> 16) % 2 ^ 8 = _
    omega
  · rw [UInt32.toNat_toUInt16, UInt32.toNat_and]
    show (_ &&& (2 ^ 16 - 1)) % 2 ^ 16 = _
    rw [and_two_pow_sub_one_eq_mod]
    omega

lemma packTtl_unpack (ttl : UInt32) :
    packTtl (ttl >>> 24).toUInt8 (ttl >>> 16).toUInt8 (ttl &&& 0xffff).toUInt16 = ttl := by
  have hlt := ttl.toNat_lt
  apply UInt32.toNat_inj.mp
  rw [toNat_packTtl, UInt32.toNat_toUInt8, UInt32.toNat_shiftRight, UInt32.toNat_toUInt8,
    UInt32.toNat_shiftRight, UInt32.toNat_toUInt16, UInt32.toNat_and]
  show (ttl.toNat >>> 24) % 2 ^ 8 * 2 ^ 24 + (ttl.toNat >>> 16) % 2 ^ 8 * 2 ^ 16 +
    (ttl.toNat &&& (2 ^ 16 - 1)) % 2 ^ 16 = _
  rw [and_two_pow_sub_one_eq_mod]
  omega

lemma length_u16be (v : UInt16) : (u16be v).length = 2 := length_beBytes 2 _

lemma length_u32be : (u32be v).length = 4 := length_beBytes 4 _

lemma scans_u16 (v : UInt16) : Scans u16 (u16be v) v := by
  have hne : u16be v ≠ [] := ne_nil_of_length_pos (by rw [length_u16be]; omega)
  have htake := @scans_takeAt _ _ truncated hne
  have hvalue : UInt16.ofNat (ofBeBytes (u16be v)) = v := by
    rw [u16be, ofBeBytes_beBytes v.toNat_lt, UInt16.ofNat_toNat]
  refine htake.last ?_
  rw [hvalue]
  exact Scans.pure v

lemma scans_u32 : Scans u32 (u32be v) v := by
  have hne : u32be v ≠ [] := ne_nil_of_length_pos (by rw [length_u32be]; omega)
  have htake := @scans_takeAt _ _ truncated hne
  have hvalue : UInt32.ofNat (ofBeBytes (u32be v)) = v := by
    rw [u32be, ofBeBytes_beBytes v.toNat_lt, UInt32.ofNat_toNat]
  refine htake.last ?_
  rw [hvalue]
  exact Scans.pure v

@[simp] lemma fromU16_toU16 (t : QType) : QType.fromU16 t.toU16 = some t := by
  cases t <;> rfl

def recordOctets (owner : Bytes) (qtypeRaw qclassRaw : UInt16) (ttl : UInt32) (rdata : Bytes) :
    Bytes :=
  owner ++ (u16be qtypeRaw ++ (u16be qclassRaw ++ (u32be ttl ++
    (u16be (ofNat rdata.length) ++ rdata))))

section
variable {owner rdata : Bytes} {qtypeRaw qclassRaw : UInt16} {ttl : UInt32}

lemma runAt_decodeRr (hname : Scans decodeName owner name) (hlen : rdata.length ≤ 65535)
    (hat : At buf pos (recordOctets owner qtypeRaw qclassRaw ttl rdata)) :
    ∃ start, At buf start rdata ∧ decodeRr.runAt buf pos =
      (decodeRData qtypeRaw qclassRaw ttl start rdata).runAt buf (start + rdata.length) >>=
        fun data => .ok (⟨name, (QType.fromU16 qtypeRaw).getD .a, .in_, ttl, data.1⟩,
          pos + (recordOctets owner qtypeRaw qclassRaw ttl rdata).length) := by
  obtain ⟨howner, hat⟩ := hat.append
  obtain ⟨htype, hat⟩ := hat.append
  obtain ⟨hclass, hat⟩ := hat.append
  obtain ⟨httl, hat⟩ := hat.append
  have hend := hat.length_le (ne_nil_of_length_pos (by
    rw [length_append, length_u16be]; omega))
  obtain ⟨hcount, hdata⟩ := hat.append
  refine ⟨_, hdata, ?_⟩
  have hnat : (ofNat rdata.length).toNat = rdata.length := by
    rw [toNat_ofNat']
    omega
  rw [length_append, length_u16be] at hend
  have htake : ∀ start, start + rdata.length ≤ buf.length → At buf start rdata →
      (takeAt truncated rdata.length).runAt buf start =
        .ok (rdata, start + rdata.length) := by
    intro start hle hrdata
    show takeAt _ _ buf start = _
    rw [takeAt, if_neg (by omega), hrdata.take]
  rw [decodeRr, hname.runAt_bind howner, (scans_u16 _).runAt_bind htype,
    (scans_u16 _).runAt_bind hclass, scans_u32.runAt_bind httl,
    (scans_u16 _).runAt_bind hcount, hnat, runAt_position_bind,
    runAt_bind_of_ok (htake _ (by rw [length_u16be]; omega) hdata), runAt_bind]
  congr 1
  funext data
  show Except.ok (_, _) = _
  congr 2
  simp only [recordOctets, length_append]
  omega

def ReadsData (qtypeRaw qclassRaw : UInt16) (ttl : UInt32) (rdata : Bytes) (data : RData) : Prop :=
  ∀ buf start, At buf start rdata → ∃ end_,
    (decodeRData qtypeRaw qclassRaw ttl start rdata).runAt buf (start + rdata.length) =
      .ok (data, end_)

lemma scans_record (hname : Scans decodeName owner name)
    (hlen : rdata.length ≤ 65535) (hdata : ReadsData qtypeRaw qclassRaw ttl rdata data) :
    Scans decodeRr (recordOctets owner qtypeRaw qclassRaw ttl rdata)
      ⟨name, (QType.fromU16 qtypeRaw).getD .a, .in_, ttl, data⟩ := by
  intro buf pos hat
  obtain ⟨start, hstart, hrun⟩ := runAt_decodeRr hname hlen hat
  obtain ⟨end_, hread⟩ := hdata buf start hstart
  rw [hrun, hread]
  rfl

lemma readsData_a (ip : BitVec 32) :
    ReadsData QType.a.toU16 qclassRaw ttl (beBytes 4 ip.toNat) (.a ip) := by
  intro buf start _
  have hip : BitVec.ofNat 32 (ofBeBytes (beBytes 4 ip.toNat)) = ip := by
    rw [ofBeBytes_beBytes ip.isLt, BitVec.ofNat_toNat, BitVec.setWidth_eq]
  simp only [decodeRData, fromU16_toU16]
  rw [hip]
  exact ⟨_, rfl⟩

lemma readsData_aaaa (ip : BitVec 128) :
    ReadsData QType.aaaa.toU16 qclassRaw ttl (beBytes 16 ip.toNat) (.aaaa ip) := by
  intro buf start _
  have hip : BitVec.ofNat 128 (ofBeBytes (beBytes 16 ip.toNat)) = ip := by
    rw [ofBeBytes_beBytes ip.isLt, BitVec.ofNat_toNat, BitVec.setWidth_eq]
  simp only [decodeRData, fromU16_toU16]
  rw [hip]
  exact ⟨_, rfl⟩

lemma runAt_seek_decodeName (h : Scans decodeName rdata target)
    (hat : At buf start rdata) (f : Name → RData) (pos : Nat) :
    (do seek start; let name ← decodeName; pure (f name) : Scan DecodeError RData).runAt buf pos =
      .ok (f target, start + rdata.length) := by
  show (decodeName >>= fun name => pure (f name) : Scan DecodeError RData).runAt buf start = _
  rw [h.runAt_bind hat]
  rfl

lemma readsData_ptr (h : Scans decodeName rdata target) :
    ReadsData QType.ptr.toU16 qclassRaw ttl rdata (.ptr target) := by
  intro buf start hat
  exact ⟨_, runAt_seek_decodeName h hat .ptr _⟩

lemma readsData_cname (h : Scans decodeName rdata target) :
    ReadsData QType.cname.toU16 qclassRaw ttl rdata (.cname target) := by
  intro buf start hat
  exact ⟨_, runAt_seek_decodeName h hat .cname _⟩

lemma encodeTxt_cons_eq_ok :
    encodeTxt (part :: parts) = .ok bs ↔
      (utf8 part).length ≤ 255 ∧ ∃ tail, encodeTxt parts = .ok tail ∧
        bs = UInt8.ofNat (utf8 part).length :: utf8 part ++ tail := by
  rw [encodeTxt]
  by_cases hlong : 255 < (utf8 part).length
  · rw [if_pos hlong]
    exact ⟨by rintro ⟨⟩, fun h => absurd h.1 (by omega)⟩
  · rw [if_neg hlong, bind_eq_ok]
    constructor
    · rintro ⟨tail, htail, heq⟩
      exact ⟨by omega, tail, htail, (Except.ok.inj heq).symm⟩
    · rintro ⟨-, tail, htail, rfl⟩
      exact ⟨tail, htail, rfl⟩

lemma txtParts_encodeTxt (h : encodeTxt parts = .ok bs) : txtParts bs = .ok parts := by
  induction parts generalizing bs with
  | nil =>
    rw [← Except.ok.inj h, txtParts]
  | cons part parts ih =>
    obtain ⟨hlen, tail, htail, rfl⟩ := encodeTxt_cons_eq_ok.mp h
    have hnat : (UInt8.ofNat (utf8 part).length).toNat = (utf8 part).length := by
      rw [UInt8.toNat_ofNat']
      omega
    rw [cons_append, txtParts, hnat, if_neg (by rw [length_append]; omega),
      take_left, drop_left, ofUtf8_utf8, ih htail]
    rfl

lemma readsData_txt (h : encodeTxt parts = .ok rdata) :
    ReadsData QType.txt.toU16 qclassRaw ttl rdata (.txt parts) := by
  intro buf start _
  simp only [decodeRData, fromU16_toU16, txtParts_encodeTxt h]
  exact ⟨_, rfl⟩

lemma readsData_any (raw : Bytes) :
    ReadsData QType.any.toU16 qclassRaw ttl raw (.opaqueData 255 raw) := by
  intro buf start _
  exact ⟨_, rfl⟩

lemma readsData_opt (size flags : UInt16) (extRcode version : UInt8) (options : Bytes) :
    ReadsData QType.opt.toU16 size (packTtl extRcode version flags) options
      (.opt size extRcode version flags options) := by
  intro buf start _
  obtain ⟨hext, hver, hflags⟩ := unpack_packTtl extRcode version flags
  simp only [decodeRData, fromU16_toU16, hext, hver, hflags]
  exact ⟨_, rfl⟩

end

variable {bs : Bytes} {msg : Message}

lemma encodeRr_eq_ok (h : rr.qtype ≠ .opt) :
    encodeRr rr = .ok bs ↔ ∃ owner rdata, encodeName rr.name = .ok owner ∧
      encodeRData rr.data = .ok rdata ∧ rdata.length ≤ 65535 ∧
      bs = recordOctets owner rr.qtype.toU16 rr.qclass.toU16 rr.ttl rdata := by
  rw [encodeRr, if_neg h, bind_eq_ok]
  constructor
  · rintro ⟨owner, howner, hrest⟩
    obtain ⟨rdata, hrdata, hrest⟩ := bind_eq_ok.mp hrest
    by_cases hlong : 65535 < rdata.length
    · rw [if_pos hlong] at hrest
      cases hrest
    · rw [if_neg hlong] at hrest
      refine ⟨owner, rdata, howner, hrdata, by omega, ?_⟩
      rw [← Except.ok.inj hrest]
      simp only [recordOctets, append_assoc]
  · rintro ⟨owner, rdata, howner, hrdata, hlen, rfl⟩
    refine ⟨owner, howner, bind_eq_ok.mpr ⟨rdata, hrdata, ?_⟩⟩
    rw [if_neg (by omega)]
    simp only [recordOctets, ← append_assoc]
    rfl

lemma encodeRr_opt (h : rr.qtype = .opt) : encodeRr rr = encodeOpt rr.data := if_pos h

lemma encodeOpt_eq {size flags : UInt16} {extRcode version : UInt8} {options : Bytes}
    (h : options.length ≤ 65535) :
    encodeOpt (.opt size extRcode version flags options) =
      .ok (recordOctets [0] QType.opt.toU16 size (packTtl extRcode version flags) options) := by
  rw [encodeOpt, if_neg (by omega)]
  simp only [recordOctets, append_assoc]

lemma scans_root : Scans decodeName [0] Name.defaultRoot :=
  @scans_encodeLabels _ [] (forall_mem_nil _) rfl

/-! ### Well-formed records -/

def Name.octets (name : Name) : Nat := (name.labels.map (·.length + 1)).sum + 1

def RData.octets : RData → Nat
  | .a _ => 4
  | .aaaa _ => 16
  | .ptr name => name.octets
  | .cname name => name.octets
  | .txt parts => (parts.map fun part => (utf8 part).length + 1).sum
  | .opt _ _ _ _ options => options.length
  | .opaqueData _ raw => raw.length

/-- The data are of the type. -/
inductive RData.Typed : QType → RData → Prop where
  | a (ip : BitVec 32) : Typed .a (.a ip)
  | aaaa (ip : BitVec 128) : Typed .aaaa (.aaaa ip)
  | ptr {name : Name} (h : name.WellMade) : Typed .ptr (.ptr name)
  | cname {name : Name} (h : name.WellMade) : Typed .cname (.cname name)
  | txt {parts : List String} (h : ∀ part ∈ parts, (utf8 part).length ≤ 255) :
      Typed .txt (.txt parts)
  | any (raw : Bytes) : Typed .any (.opaqueData 255 raw)

inductive ResourceRecord.WellFormed : ResourceRecord → Prop where
  | plain {rr : ResourceRecord} (hname : rr.name.WellMade) (htyped : rr.data.Typed rr.qtype)
      (hlen : rr.data.octets ≤ 65535) : WellFormed rr
  /-- A pseudo-record has the root name, and its lifetime is made of its other fields. -/
  | opt (size flags : UInt16) (extRcode version : UInt8) {options : Bytes}
      (hlen : options.length ≤ 65535) :
      WellFormed ⟨.defaultRoot, .opt, .in_, packTtl extRcode version flags,
        .opt size extRcode version flags options⟩

lemma length_dotted (labels : List (List Char)) :
    (dotted labels).length = (labels.map (·.length + 1)).sum := by
  simp [dotted, Text.terminated, length_flatMap]

lemma encodeTxt_eq_ok (h : ∀ part ∈ parts, (utf8 part).length ≤ 255) :
    ∃ bs, encodeTxt parts = .ok bs ∧ bs.length = (parts.map fun part => (utf8 part).length + 1).sum := by
  induction parts with
  | nil => exact ⟨[], rfl, rfl⟩
  | cons part parts ih =>
    obtain ⟨hpart, hrest⟩ := forall_mem_cons.mp h
    obtain ⟨tail, htail, hlen⟩ := ih hrest
    refine ⟨_, encodeTxt_cons_eq_ok.mpr ⟨hpart, tail, htail, rfl⟩, ?_⟩
    simp only [cons_append, length_cons, length_append, hlen, map_cons, sum_cons]
    omega

lemma Name.WellMade.lower {name : Name} (h : name.WellMade) : name.Lower := by
  obtain ⟨labels, rfl, hlabs⟩ := h
  exact lower_textName fun label hlabel => (hlabs label hlabel).2.2.2

lemma length_encodeName (h : name.Lower) (hbs : encodeName name = .ok bs) :
    bs.length = name.octets := by
  rw [length_encodeLabels h.labels hbs, length_dotted, Name.octets]

lemma RData.Typed.reads (h : data.Typed qtype) (qclassRaw : UInt16) (ttl : UInt32) :
    ∃ rdata, encodeRData data = .ok rdata ∧ rdata.length = data.octets ∧
      ReadsData qtype.toU16 qclassRaw ttl rdata data := by
  cases h with
  | a ip => exact ⟨_, rfl, length_beBytes 4 _, readsData_a ip⟩
  | aaaa ip => exact ⟨_, rfl, length_beBytes 16 _, readsData_aaaa ip⟩
  | ptr h =>
    obtain ⟨bs, hbs, hscan⟩ := h.scans
    exact ⟨bs, hbs, length_encodeName h.lower hbs, readsData_ptr hscan⟩
  | cname h =>
    obtain ⟨bs, hbs, hscan⟩ := h.scans
    exact ⟨bs, hbs, length_encodeName h.lower hbs, readsData_cname hscan⟩
  | txt h =>
    obtain ⟨bs, hbs, hlen⟩ := encodeTxt_eq_ok h
    exact ⟨bs, hbs, hlen, readsData_txt hbs⟩
  | any raw => exact ⟨raw, rfl, rfl, readsData_any raw⟩

lemma RData.Typed.ne_opt {data : RData} (h : data.Typed qtype) : qtype ≠ .opt := by
  cases h <;> decide

lemma ResourceRecord.WellFormed.scans (h : rr.WellFormed) :
    ∃ bs, encodeRr rr = .ok bs ∧ Scans decodeRr bs rr := by
  cases h with
  | plain hname htyped hlen =>
    obtain ⟨owner, howner, hscan⟩ := hname.scans
    obtain ⟨rdata, hrdata, hoct, hreads⟩ := htyped.reads rr.qclass.toU16 rr.ttl
    rw [← hoct] at hlen
    refine ⟨_, (encodeRr_eq_ok htyped.ne_opt).mpr ⟨owner, rdata, howner, hrdata, hlen, rfl⟩, ?_⟩
    have hrec := scans_record hscan hlen hreads
    rwa [fromU16_toU16] at hrec
  | opt size flags extRcode version hlen =>
    exact ⟨_, encodeOpt_eq hlen,
      scans_record scans_root hlen (readsData_opt size flags extRcode version _)⟩

/-! ## Messages -/

lemma scans_question (h : q.name.WellMade) :
    ∃ bs, encodeQuestion q = .ok bs ∧ Scans decodeQuestion bs (q.name, q.qtype.toU16) := by
  obtain ⟨bs, hbs, hscan⟩ := h.scans
  refine ⟨bs ++ (u16be q.qtype.toU16 ++ u16be q.qclass.toU16), ?_, ?_⟩
  · rw [encodeQuestion, hbs, ← append_assoc]
    rfl
  · exact hscan.bind ((scans_u16 _).bind ((scans_u16 _).last (Scans.pure _)))

lemma toQuestion_toU16 : toQuestion (q.name, q.qtype.toU16) = q := by
  rw [toQuestion, fromU16_toU16]
  rfl

lemma mapM_scans {encode : α → Except EncodeStop Bytes} {r : Scan DecodeError β}
    {read : α → β} {as : List α} (h : ∀ a ∈ as, ∃ bs, encode a = .ok bs ∧ Scans r bs (read a)) :
    ∃ bss, as.mapM encode = .ok bss ∧ List.Forall₂ (Scans r) bss (as.map read) := by
  induction as with
  | nil => exact ⟨[], rfl, .nil⟩
  | cons a as ih =>
    obtain ⟨⟨bs, hbs, hscan⟩, hrest⟩ := forall_mem_cons.mp h
    obtain ⟨bss, hbss, hscans⟩ := ih hrest
    exact ⟨bs :: bss, by rw [mapM_cons, hbs, hbss]; rfl, .cons hscan hscans⟩

def Message.counted (msg : Message) : Message :=
  { msg with
    header := { msg.header with
      qdcount := ofNat msg.questions.length
      ancount := ofNat msg.answers.length
      nscount := ofNat msg.authorities.length
      arcount := ofNat msg.additionals.length } }

lemma scans_header (msg : Message) :
    Scans decodeHeader (encodeHeader msg) msg.counted.header := by
  exact (scans_u16 _).bind ((scans_u16 _).bind ((scans_u16 _).bind ((scans_u16 _).bind
    ((scans_u16 _).bind ((scans_u16 _).last (Scans.pure _))))))

/-- At most 65535 entries in each section. -/
structure Message.Counted (msg : Message) : Prop where
  questions : msg.questions.length ≤ 65535
  answers : msg.answers.length ≤ 65535
  authorities : msg.authorities.length ≤ 65535
  additionals : msg.additionals.length ≤ 65535

structure Message.WellFormed (msg : Message) : Prop where
  sections : msg.Counted
  questions : ∀ q ∈ msg.questions, q.name.WellMade
  records : ∀ rr ∈ msg.records, rr.WellFormed

lemma scans_times_of_count (h : List.Forall₂ (Scans r) bss as) (hle : as.length ≤ 65535) :
    Scans (times (ofNat as.length).toNat r) bss.flatten as := by
  have hnat : (ofNat as.length).toNat = as.length := by
    rw [toNat_ofNat']
    omega
  rw [hnat]
  exact scans_times h

lemma mapM_append_eq_ok {encode : α → Except EncodeStop Bytes} {as as' : List α}
    :
    (as ++ as').mapM encode = .ok bss ↔ ∃ front back, as.mapM encode = .ok front ∧
      as'.mapM encode = .ok back ∧ bss = front ++ back := by
  rw [mapM_append, bind_eq_ok]
  constructor
  · rintro ⟨front, hfront, hrest⟩
    obtain ⟨back, hback, heq⟩ := bind_eq_ok.mp hrest
    exact ⟨front, back, hfront, hback, (Except.ok.inj heq).symm⟩
  · rintro ⟨front, back, hfront, hback, rfl⟩
    exact ⟨front, hfront, bind_eq_ok.mpr ⟨back, hback, rfl⟩⟩

def messageOctets (msg : Message) (qs as ns ar : List Bytes) : Bytes :=
  encodeHeader msg ++ (qs.flatten ++ (as.flatten ++ (ns.flatten ++ ar.flatten)))

lemma encodeMessage_eq_ok :
    encodeMessage msg = .ok bs ↔ msg.Counted ∧ ∃ qs as ns ar,
      msg.questions.mapM encodeQuestion = .ok qs ∧ msg.answers.mapM encodeRr = .ok as ∧
      msg.authorities.mapM encodeRr = .ok ns ∧ msg.additionals.mapM encodeRr = .ok ar ∧
      bs = messageOctets msg qs as ns ar := by
  have hcnt : msg.Counted ↔ ¬ (65535 < msg.questions.length ∨ 65535 < msg.answers.length ∨
      65535 < msg.authorities.length ∨ 65535 < msg.additionals.length) := by
    constructor
    · rintro ⟨hq, ha, hn, hr⟩
      omega
    · intro h
      exact ⟨by omega, by omega, by omega, by omega⟩
  rw [encodeMessage, hcnt]
  split_ifs with hlong
  · exact ⟨by rintro ⟨⟩, fun h => absurd hlong h.1⟩
  · rw [bind_eq_ok]
    constructor
    · rintro ⟨qs, hqs, hrest⟩
      obtain ⟨records, hrecs, heq⟩ := bind_eq_ok.mp hrest
      obtain ⟨front, ar, hfront, har, rfl⟩ := mapM_append_eq_ok.mp hrecs
      obtain ⟨as, ns, has, hns, rfl⟩ := mapM_append_eq_ok.mp hfront
      refine ⟨hlong, qs, as, ns, ar, hqs, has, hns, har, ?_⟩
      rw [← Except.ok.inj heq]
      simp only [messageOctets, flatten_append, append_assoc]
    · rintro ⟨-, qs, as, ns, ar, hqs, has, hns, har, rfl⟩
      have hrecs : msg.records.mapM encodeRr = .ok (as ++ ns ++ ar) := mapM_append_eq_ok.mpr
          ⟨_, _, mapM_append_eq_ok.mpr ⟨as, ns, has, hns, rfl⟩, har, rfl⟩
      refine ⟨qs, hqs, bind_eq_ok.mpr ⟨_, hrecs, ?_⟩⟩
      simp only [messageOctets, flatten_append, append_assoc]
      rfl

lemma scans_message (hcnt : msg.Counted) (hlen : questions.length = msg.questions.length)
    (hqs : List.Forall₂ (Scans decodeQuestion) qs questions)
    (has : List.Forall₂ (Scans decodeRr) as msg.answers)
    (hns : List.Forall₂ (Scans decodeRr) ns msg.authorities)
    (har : List.Forall₂ (Scans decodeRr) ar msg.additionals) :
    Scans decodeRaw (messageOctets msg qs as ns ar)
      ⟨msg.counted.header, questions, msg.answers, msg.authorities, msg.additionals⟩ := by
  have hquestions := scans_times_of_count hqs (hlen ▸ hcnt.questions)
  rw [hlen] at hquestions
  exact (scans_header msg).bind (hquestions.bind ((scans_times_of_count has hcnt.answers).bind
      ((scans_times_of_count hns hcnt.authorities).bind
        ((scans_times_of_count har hcnt.additionals).last (Scans.pure _)))))

lemma rawMessage_of_scans (h : Scans decodeRaw bs raw) : rawMessage bs = .ok raw := by
  rw [rawMessage, h bs 0 (at_self bs)]
  rfl

lemma Message.WellFormed.scans (h : msg.WellFormed) :
    ∃ bs, encodeMessage msg = .ok bs ∧ Scans decodeRaw bs
      ⟨msg.counted.header, msg.questions.map fun q => (q.name, q.qtype.toU16), msg.answers,
        msg.authorities, msg.additionals⟩ := by
  have hrecs : ∀ rr ∈ msg.records, ∃ bs, encodeRr rr = .ok bs ∧ Scans decodeRr bs (id rr) :=
    fun rr hrr => (h.records rr hrr).scans
  simp only [Message.records, forall_mem_append] at hrecs
  obtain ⟨qs, hqs, hquestions⟩ := mapM_scans fun q hq => scans_question (h.questions q hq)
  obtain ⟨as, has, hans⟩ := mapM_scans hrecs.1.1
  obtain ⟨ns, hns, hauths⟩ := mapM_scans hrecs.1.2
  obtain ⟨ar, har, hadds⟩ := mapM_scans hrecs.2
  rw [map_id] at hans hauths hadds
  exact ⟨_, encodeMessage_eq_ok.mpr ⟨h.sections, qs, as, ns, ar, hqs, has, hns, har, rfl⟩,
    scans_message h.sections (length_map _) hquestions hans hauths hadds⟩

lemma Message.WellFormed.decodes (h : msg.WellFormed) (hbs : encodeMessage msg = .ok bs) :
    decodeMessage bs = .ok msg.counted := by
  obtain ⟨bs', hbs', hscans⟩ := h.scans
  cases Except.ok.inj (hbs.symm.trans hbs')
  have hback : (msg.questions.map fun q => (q.name, q.qtype.toU16)).map toQuestion =
      msg.questions := by
    rw [map_map]
    exact (map_congr_left fun q _ => toQuestion_toU16).trans (map_id _)
  rw [decodeMessage, rawMessage_of_scans hscans]
  show Except.ok (Message.mk _ _ _ _ _) = _
  rw [hback]
  rfl

/-- A well-formed message is encoded, and decoding gives it back with the counts of its
sections in the header. -/
theorem message_round_trip (msg : Message) (h : msg.WellFormed) :
    ∃ bs, encodeMessage msg = .ok bs ∧ decodeMessage bs = .ok msg.counted := by
  obtain ⟨bs, hbs, -⟩ := h.scans
  exact ⟨bs, hbs, h.decodes hbs⟩

/-- A question for `a.`, an alias, an address and a pseudo-record. -/
def aliasedMessage : Message :=
  ⟨⟨7, 0x8180, 0, 0, 0, 0⟩, [⟨⟨"a."⟩, .a, .in_⟩],
    [⟨⟨"a."⟩, .cname, .in_, 60, .cname ⟨"b.c."⟩⟩, ⟨⟨"b.c."⟩, .a, .in_, 60, .a 0x0a000009⟩], [],
    [⟨.defaultRoot, .opt, .in_, packTtl 0 0 0x8000, .opt 1232 0 0 0x8000 []⟩]⟩

lemma aliasedMessage_wellFormed : aliasedMessage.WellFormed := by
  have ha : Name.WellMade ⟨"a."⟩ := ⟨[['a']], by decide, by simp [LowerAscii]⟩
  have hb : Name.WellMade ⟨"b.c."⟩ := ⟨[['b'], ['c']], by decide, by simp [LowerAscii]⟩
  refine ⟨⟨by decide, by decide, by decide, by decide⟩, ?_, ?_⟩
  · exact forall_mem_singleton.mpr ha
  · refine forall_mem_cons.mpr ⟨.plain ha (.cname hb) (by decide +kernel), ?_⟩
    refine forall_mem_cons.mpr ⟨.plain hb (.a _) (by decide), ?_⟩
    exact forall_mem_singleton.mpr (.opt 1232 0x8000 0 0 (by decide))

theorem aliasedMessage_round_trip : aliasedMessage.WellFormed ∧
    ∃ bs, encodeMessage aliasedMessage = .ok bs ∧
      decodeMessage bs = .ok aliasedMessage.counted :=
  ⟨aliasedMessage_wellFormed, message_round_trip aliasedMessage aliasedMessage_wellFormed⟩

end MeshBus.Dns
