import MeshBus.Dns.Wire

/-!
# Names on the wire

A name is cut into its labels and put together again.  The labels are read back as they were
written; the name they make is the one they were taken from unless it had empty labels, which
the encoder leaves out.
-/

namespace MeshBus.Dns

open Lib List Text UInt8 Except
open Lib.Scan

def LowerAscii (c : Char) : Prop := c.toNat < 128 ∧ c.toLower = c

instance (c : Char) : Decidable (LowerAscii c) := inferInstanceAs (Decidable (_ ∧ _))

def textName (labels : List (List Char)) : Name :=
  ⟨String.ofList (if labels = [] then ['.'] else dotted labels)⟩

def octet (c : Char) : UInt8 := ofNat c.toNat

lemma lowerAscii_toLower {c : Char} (h : c.toNat < 128) : LowerAscii c.toLower := by
  have htable : ∀ n < 128, LowerAscii (Char.ofNat n).toLower := by decide +kernel
  rw [← Char.ofNat_toNat c]
  exact htable c.toNat h

lemma toNat_octet (h : LowerAscii c) : (octet c).toNat = c.toNat := by
  have hlt := h.1
  simp only [octet, toNat_ofNat']
  omega

lemma utf8EncodeChar_of_lowerAscii (h : LowerAscii c) : String.utf8EncodeChar c = [octet c] := by
  have hsize : c.utf8Size = 1 := by
    rw [Char.utf8Size_eq_one_iff]
    exact Nat.le_of_lt_succ h.1
  rw [String.utf8EncodeChar_eq_singleton hsize]
  rfl

lemma utf8_of_lowerAscii (h : ∀ c ∈ label, LowerAscii c) :
    utf8 (String.ofList label) = label.map octet := by
  rw [utf8_ofList]
  induction label with
  | nil => rfl
  | cons c label ih =>
    obtain ⟨hc, hrest⟩ := forall_mem_cons.mp h
    rw [flatMap_cons, ih hrest, utf8EncodeChar_of_lowerAscii hc]
    rfl

lemma lowerLabel_octets (h : ∀ c ∈ label, LowerAscii c) :
    lowerLabel (label.map octet) = .ok label := by
  induction label with
  | nil => rfl
  | cons c label ih =>
    obtain ⟨hc, hrest⟩ := forall_mem_cons.mp h
    have hlt : octet c < 128 := by
      rw [lt_iff_toNat_lt, toNat_octet hc]
      exact hc.1
    have hlower : (Char.ofNat (octet c).toNat).toLower = c := by
      rw [toNat_octet hc, Char.ofNat_toNat, hc.2]
    have htail := ih hrest
    rw [lowerLabel] at htail ⊢
    rw [map_cons, mapM_cons, htail, if_pos hlt, hlower]
    rfl

/-! ## The loop over labels -/

section

lemma nameLoop_zero {next} (h : At buf pos [0]) :
    nameLoop label buf pos jumps next = .ok ([], next.getD (pos + 1)) := by
  have hle : pos + 1 ≤ buf.length := h.length_le (cons_ne_nil _ _)
  have hlt : pos < buf.length := hle
  rw [nameLoop, dif_pos hlt, if_pos (h.getElem hlt)]

lemma nameLoop_label {next} (hpos : 0 < bs.length) (hlen : bs.length ≤ 63)
    (h : At buf pos (ofNat bs.length :: bs)) :
    nameLoop label buf pos jumps next = (do
      let first ← label bs
      let rest ← nameLoop label buf (pos + 1 + bs.length) jumps next
      pure (first :: rest.1, rest.2)) := by
  have hle : pos + (bs.length + 1) ≤ buf.length := h.length_le (cons_ne_nil _ _)
  have hlt : pos < buf.length := by omega
  have hnat : (ofNat bs.length).toNat = bs.length := by
    rw [toNat_ofNat']
    omega
  have hbits : ∀ n < 64, ofNat n &&& 0xc0 = 0 := by decide
  have hclear := hbits bs.length (by omega)
  have hne : ofNat bs.length ≠ 0 := by
    intro hzero
    rw [hzero] at hnat
    exact absurd hnat (by simp; omega)
  have hrest : At buf (pos + 1) bs := (show At buf pos ([_] ++ bs) from h).append.2
  rw [nameLoop, dif_pos hlt]
  simp only [h.getElem hlt]
  rw [if_neg hne, if_neg (by rw [hclear]; decide), if_neg (by rw [hclear]; decide), hnat,
    if_neg (by omega), hrest.take]

end

variable {name : Name}

lemma encodeLabels_cons_eq_ok :
    encodeLabels (label :: labels) = .ok bs ↔
      (utf8 (String.ofList label)).length ≤ 63 ∧ ∃ tail, encodeLabels labels = .ok tail ∧
        bs = ofNat (utf8 (String.ofList label)).length ::
          utf8 (String.ofList label) ++ tail := by
  rw [encodeLabels]
  by_cases hlong : 63 < (utf8 (String.ofList label)).length
  · rw [if_pos hlong]
    exact ⟨by rintro ⟨⟩, fun h => absurd h.1 (by omega)⟩
  · rw [if_neg hlong, bind_eq_ok]
    constructor
    · rintro ⟨tail, htail, heq⟩
      exact ⟨by omega, tail, htail, (ok.inj heq).symm⟩
    · rintro ⟨-, tail, htail, rfl⟩
      exact ⟨tail, htail, rfl⟩

def LowerLabels (labels : List (List Char)) : Prop :=
  ∀ label ∈ labels, label ≠ [] ∧ ∀ c ∈ label, LowerAscii c

lemma length_encodeLabels (h : LowerLabels labels)
    (hbs : encodeLabels labels = .ok bs) : bs.length = (dotted labels).length + 1 := by
  induction labels generalizing bs with
  | nil =>
    rw [← ok.inj hbs]
    rfl
  | cons label labels ih =>
    obtain ⟨hlabel, hrest⟩ := forall_mem_cons.mp h
    obtain ⟨-, tail, htail, rfl⟩ := encodeLabels_cons_eq_ok.mp hbs
    rw [dotted, terminated_cons, utf8_of_lowerAscii hlabel.2]
    simp only [cons_append, length_cons, length_append, length_map, ih hrest htail, dotted]

lemma nameLoop_encodeLabels (h : LowerLabels labels) (hbs : encodeLabels labels = .ok bs)
    (hat : At buf pos bs) :
    nameLoop lowerLabel buf pos jumps none = .ok (labels, pos + bs.length) := by
  induction labels generalizing bs pos with
  | nil =>
    rw [← ok.inj hbs] at hat ⊢
    exact nameLoop_zero hat
  | cons label labels ih =>
    obtain ⟨⟨hne, hlower⟩, hrest⟩ := forall_mem_cons.mp h
    obtain ⟨hlen, tail, htail, rfl⟩ := encodeLabels_cons_eq_ok.mp hbs
    rw [utf8_of_lowerAscii hlower] at hat hlen ⊢
    obtain ⟨hfirst, hafter⟩ := hat.append
    have hpos : 0 < (label.map octet).length := by
      rw [length_map]
      exact length_pos_iff.mpr hne
    rw [nameLoop_label hpos hlen hfirst, lowerLabel_octets hlower]
    rw [length_cons, add_comm _ 1, ← add_assoc] at hafter
    show (do
      let rest ← nameLoop lowerLabel buf (pos + 1 + (label.map octet).length) jumps none
      pure (label :: rest.1, rest.2)) = _
    rw [ih hrest htail hafter]
    simp only [cons_append, length_cons, length_append]
    show ok (label :: labels, _) = _
    congr 2
    omega

/-! ## Text -/

lemma dotted_eq_nil : dotted labels = [] ↔ labels = [] := by
  cases labels with
  | nil => exact ⟨fun _ => rfl, fun _ => rfl⟩
  | cons label labels => simp [dotted, terminated_cons]

lemma getLast?_dotted (h : labels ≠ []) : (dotted labels).getLast? = some '.' := by
  obtain ⟨front, last, rfl⟩ := eq_nil_or_concat labels |>.resolve_left h
  rw [dotted]
  simp [terminated]

lemma mem_dotted (h : c ∈ dotted labels) : c = '.' ∨ ∃ label ∈ labels, c ∈ label := by
  obtain ⟨label, hlabel, hc⟩ := mem_flatMap.mp h
  rcases mem_append.mp hc with hc | hc
  · exact .inr ⟨label, hlabel, hc⟩
  · exact .inl (mem_singleton.mp hc)

lemma toLower_lower {cs : List Char} (h : ∀ c ∈ cs, LowerAscii c) : cs.map Char.toLower = cs :=
  (map_congr_left fun c hc => (h c hc).2).trans (map_id cs)

lemma fromAscii_dotted (h : ∀ label ∈ labels, ∀ c ∈ label, LowerAscii c) :
    Name.fromAscii (if dotted labels = [] then ['.'] else dotted labels) =
      .ok (textName labels) := by
  by_cases hnil : labels = []
  · rw [hnil]
    rfl
  · have hchars : ∀ c ∈ dotted labels, LowerAscii c := by
      intro c hc
      rcases mem_dotted hc with rfl | ⟨label, hlabel, hc⟩
      · exact ⟨by decide, by decide⟩
      · exact h label hlabel c hc
    have hall : (dotted labels).all Name.isAscii = true :=
      all_eq_true.mpr fun c hc => decide_eq_true (hchars c hc).1
    have hne : dotted labels ≠ [] := fun hd => hnil (dotted_eq_nil.mp hd)
    rw [if_neg hne, Name.fromAscii, if_neg hne, if_pos hall, toLower_lower hchars, Name.withDot,
      if_pos (getLast?_dotted hnil), textName, if_neg hnil]

lemma scans_encodeLabels {labels : List (List Char)} (h : LowerLabels labels)
    (hbs : encodeLabels labels = .ok bs) : Scans decodeName bs (textName labels) := by
  intro buf pos hat
  show decodeName buf pos = _
  simp only [decodeName, nameLoop_encodeLabels h hbs hat]
  show (do
    let name ← Name.fromAscii (if dotted labels = [] then ['.'] else dotted labels)
    pure (name, pos + bs.length)) = _
  rw [fromAscii_dotted fun label hlabel => (h label hlabel).2]
  rfl

/-! ## Labels of a name -/

def Name.Lower (name : Name) : Prop := ∀ c ∈ name.canonical.toList, LowerAscii c

lemma Name.Lower.labels (h : name.Lower) : LowerLabels name.labels := by
  intro label hlabel
  obtain ⟨hsplit, hne⟩ := mem_filter.mp hlabel
  refine ⟨by rintro rfl; exact absurd hne (by decide), fun c hc => h c ?_⟩
  exact (infix_of_mem_splitOn hsplit).subset hc

lemma scans_encodeName (h : name.Lower) (hbs : encodeName name = .ok bs) :
    Scans decodeName bs (textName name.labels) :=
  scans_encodeLabels h.labels hbs

lemma labels_textName (labels : List (List Char)) :
    (textName labels).labels = (labels.flatMap (·.splitOn '.')).filter (!·.isEmpty) := by
  rw [Name.labels, textName, String.toList_ofList]
  by_cases hnil : labels = []
  · rw [hnil]
    rfl
  · rw [if_neg hnil, dotted, splitOn_terminated, filter_append]
    exact append_nil _

/-- A name is put together as it was, unless one of its labels begins or ends with a dot or has
two in a row. -/
lemma textName_labels_eq_iff (h : ∀ label ∈ labels, label ≠ []) :
    textName (textName labels).labels = textName labels ↔
      ∀ label ∈ labels, [] ∉ label.splitOn '.' := by
  have hparts : (∀ label ∈ labels, [] ∉ label.splitOn '.') ↔
      [] ∉ labels.flatMap (·.splitOn '.') := by
    simp only [mem_flatMap, not_exists, not_and]
  rw [hparts, labels_textName]
  cases labels with
  | nil => exact ⟨fun _ => not_mem_nil, fun _ => rfl⟩
  | cons label labels =>
    rw [← @terminated_filter_eq_iff _ '.', terminated_flatMap_splitOn]
    by_cases hempty : ((label :: labels).flatMap (·.splitOn '.')).filter (!·.isEmpty) = []
    · -- nothing is left but dots, of which there are too many
      rw [hempty]
      have hlong : 1 < (terminated '.' (label :: labels)).length := by
        have hpos := length_pos_iff.mpr (h label mem_cons_self)
        rw [terminated_cons, length_append, length_cons]
        omega
      constructor
      · intro heq
        have hchars := String.ofList_injective (congrArg Name.canonical heq)
        rw [if_pos rfl, if_neg (cons_ne_nil _ _), dotted] at hchars
        rw [← hchars] at hlong
        exact absurd hlong (by decide)
      · intro heq
        rw [← heq] at hlong
        exact absurd hlong (by decide)
    · rw [textName, textName, if_neg hempty, if_neg (cons_ne_nil _ _), Name.mk.injEq,
        String.ofList_inj]
      rfl

lemma lower_textName
    (h : ∀ label ∈ labels, ∀ c ∈ label, LowerAscii c) : (textName labels).Lower := by
  intro c hc
  rw [textName, String.toList_ofList] at hc
  split_ifs at hc
  · rw [mem_singleton.mp hc]
    exact ⟨by decide, by decide⟩
  · rcases mem_dotted hc with rfl | ⟨label, hlabel, hc⟩
    · exact ⟨by decide, by decide⟩
    · exact h label hlabel c hc

def Name.WellMade (name : Name) : Prop :=
  ∃ labels, name = textName labels ∧ ∀ label ∈ labels,
    label ≠ [] ∧ label.length ≤ 63 ∧ '.' ∉ label ∧ ∀ c ∈ label, LowerAscii c

lemma encodeLabels_eq_ok (h : LowerLabels labels)
    (hlen : ∀ label ∈ labels, label.length ≤ 63) : ∃ bs, encodeLabels labels = .ok bs := by
  induction labels with
  | nil => exact ⟨[0], rfl⟩
  | cons label labels ih =>
    obtain ⟨hlabel, hrest⟩ := forall_mem_cons.mp h
    obtain ⟨hfirst, hlens⟩ := forall_mem_cons.mp hlen
    obtain ⟨tail, htail⟩ := ih hrest hlens
    refine ⟨_, encodeLabels_cons_eq_ok.mpr ⟨?_, tail, htail, rfl⟩⟩
    rwa [utf8_of_lowerAscii hlabel.2, length_map]

lemma labels_textName_of_no_dot
    (h : ∀ label ∈ labels, label ≠ [] ∧ '.' ∉ label) : (textName labels).labels = labels := by
  rw [labels_textName]
  induction labels with
  | nil => rfl
  | cons label labels ih =>
    obtain ⟨⟨hne, hdot⟩, hrest⟩ := forall_mem_cons.mp h
    rw [flatMap_cons, splitOn_eq_singleton hdot, filter_append, ih hrest]
    cases label with
    | nil => exact absurd rfl hne
    | cons c cs => rfl

lemma Name.WellMade.scans (h : name.WellMade) :
    ∃ bs, encodeName name = .ok bs ∧ Scans decodeName bs name := by
  obtain ⟨labels, rfl, hlabs⟩ := h
  have hown : (textName labels).labels = labels :=
    labels_textName_of_no_dot fun label hl => ⟨(hlabs label hl).1, (hlabs label hl).2.2.1⟩
  have hlower : LowerLabels labels := fun label hl => ⟨(hlabs label hl).1, (hlabs label hl).2.2.2⟩
  obtain ⟨bs, hbs⟩ := encodeLabels_eq_ok hlower fun label hl => (hlabs label hl).2.1
  exact ⟨bs, by rw [encodeName, hown, hbs], scans_encodeLabels hlower hbs⟩

lemma Name.Lower.wellMade (h : name.Lower) (hown : textName name.labels = name)
    (hbs : encodeName name = .ok bs) : name.WellMade := by
  have hshort : ∀ {labels : List (List Char)} {bs : Bytes}, LowerLabels labels →
      encodeLabels labels = .ok bs → ∀ label ∈ labels, label.length ≤ 63 := by
    intro labels
    induction labels with
    | nil => exact fun _ _ => forall_mem_nil _
    | cons label labels ih =>
      intro bs hlower hbs
      obtain ⟨hlabel, hrest⟩ := forall_mem_cons.mp hlower
      obtain ⟨hlen, tail, htail, -⟩ := encodeLabels_cons_eq_ok.mp hbs
      rw [utf8_of_lowerAscii hlabel.2, length_map] at hlen
      exact forall_mem_cons.mpr ⟨hlen, ih hrest htail⟩
  refine ⟨name.labels, hown.symm, fun label hlabel => ?_⟩
  exact ⟨(h.labels label hlabel).1, hshort h.labels hbs label hlabel,
    not_mem_of_mem_splitOn (mem_filter.mp hlabel).1, (h.labels label hlabel).2⟩

lemma withDot_map_toLower (s : List Char) :
    Name.withDot (s.map Char.toLower) = (Name.withDot s).map Char.toLower := by
  have hlast : (s.map Char.toLower).getLast? = some '.' ↔ s.getLast? = some '.' := by
    rw [getLast?_map, Option.map_eq_some_iff]
    constructor
    · rintro ⟨c, hc, hdot⟩
      rw [hc, (toLower_eq_dot c).mp hdot]
    · intro h
      exact ⟨'.', h, by decide⟩
  rw [Name.withDot, Name.withDot]
  by_cases h : s.getLast? = some '.'
  · rw [if_pos h, if_pos (hlast.mpr h)]
  · rw [if_neg h, if_neg fun hl => h (hlast.mp hl), map_append]
    rfl

lemma fromAscii_eq_ok (h : Name.fromAscii s = .ok name) :
    name.Lower ∧ name.canonical.toList = (Name.withDot s).map Char.toLower := by
  rw [Name.fromAscii] at h
  split_ifs at h with hnil hall
  cases ok.inj h
  rw [Name.Lower, String.toList_ofList, withDot_map_toLower]
  refine ⟨fun c hc => ?_, rfl⟩
  obtain ⟨d, hd, rfl⟩ := mem_map.mp hc
  refine lowerAscii_toLower ?_
  have hascii : ∀ c ∈ s, c.toNat < 128 := fun c hc =>
    of_decide_eq_true (all_eq_true.mp hall c hc)
  rw [Name.withDot] at hd
  split_ifs at hd
  · exact hascii d hd
  · rcases mem_append.mp hd with hd | hd
    · exact hascii d hd
    · rw [mem_singleton.mp hd]
      decide

end MeshBus.Dns
