import MeshBus.Http.Head

/-!
# Heads for the origin server

What a rewritten head has to look like so that the origin server and the proxy see the same
message, and which requests it looks like that for.
-/

namespace MeshBus.Http

open Lib List Bool
open Lib.Text
open Proto (Endpoint)

/-! ## Safe heads -/

def named (name : String) (line : List Char) : Bool :=
  ((splitOnce ':' line).map Prod.fst).any (eqIgnoreAsciiCase · name.toList)

def isBreak (c : Char) : Bool := c == '\r' || c == '\n'

/-- The lines for a reader that ends one at every carriage return or line feed. -/
def bareLines (head : List Char) : List (List Char) := head.splitOnP isBreak

def Denotes (authority : List Char) (target : Endpoint) : Prop :=
  Endpoint.parse authority = .ok target ∨
    (Endpoint.parse authority = .error .missingColon ∧
      Endpoint.parse (authority ++ ":80".toList) = .ok target)

/-- A request line and fields, each ended by a line end, then an empty line; carriage returns
and line feeds nowhere else; one host, which is the target; and nothing for the proxy, however
the lines are read. -/
def SafeHead (head : List Char) (target : Endpoint) : Prop :=
  ∃ requestLine fields,
    head = (requestLine :: fields).flatMap (· ++ crlf) ++ crlf ∧
      (∀ line ∈ requestLine :: fields, line ≠ [] ∧ Clean line) ∧
      (∃ authority, fields.filter (named "host") = [headerLine ("Host".toList, authority)] ∧
        Denotes authority target) ∧
      ∀ line ∈ bareLines head,
        named "proxy-authorization" line = false ∧ named "proxy-connection" line = false

/-- The request has no carriage return or line feed in its target, or in the value of a header
that is passed on. -/
def Unbroken (input : Bytes) : Prop :=
  ∀ consumed parts, findHeaderEnd input = some consumed →
    parseParts (input.take consumed) = .ok parts →
      Clean parts.target ∧ ∀ header ∈ keptHeaders parts.headers, Clean header.2

/-! ## What was parsed -/

section

/-- A name that was accepted. -/
structure GoodName (name : List Char) : Prop where
  nonempty : name ≠ []
  clean : Clean name
  colon : ':' ∉ name

lemma parseHeader_eq_ok
    (h : parseHeader line = .ok header) : GoodName header.1 ∧ header.2 <:+: line := by
  unfold parseHeader at h
  split at h
  · cases h
  · next name value hsplit =>
      split at h
      · cases h
      · next hname =>
          cases h
          obtain ⟨hline, hcolon⟩ := splitOnce_eq_some hsplit
          obtain ⟨hempty, hany⟩ := not_or.mp (mt or_eq_true_iff.mpr hname)
          have hchar : ∀ c ∈ name, ¬ c ≤ ' ' := fun c hc hle =>
            hany (any_eq_true.mpr ⟨c, hc, by simp [hle]⟩)
          refine ⟨⟨fun hnil => hempty (isEmpty_iff.mpr hnil), ⟨?_, ?_⟩, hcolon⟩, ?_⟩
          · exact fun hr => hchar _ hr (by decide)
          · exact fun hn => hchar _ hn (by decide)
          · refine ( trim_infix value).trans ⟨name ++ [':'], [], ?_⟩
            rw [hline, append_nil, append_assoc]
            rfl

lemma parseHeaders_eq_ok {lines : List (List Char)}
    (h : parseHeaders lines = .ok headers) (hlines : ∀ line ∈ lines, ¬ crlf <:+: line) :
    ∀ header ∈ headers, GoodName header.1 ∧ ¬ crlf <:+: header.2 := by
  induction lines generalizing headers with
  | nil =>
    cases h
    exact forall_mem_nil _
  | cons line lines ih =>
    obtain ⟨hline, hrest⟩ := forall_mem_cons.mp hlines
    rw [parseHeaders] at h
    split at h
    · exact ih h hrest
    · obtain ⟨header, hhdr, h⟩ := bind_eq_ok.mp h
      obtain ⟨head', hhead, h⟩ := bind_eq_ok.mp h
      cases h
      obtain ⟨hname, hvalue⟩ := parseHeader_eq_ok hhdr
      exact forall_mem_cons.mpr
        ⟨⟨hname, fun hin => hline (hin.trans hvalue)⟩, ih hhead hrest⟩

lemma parseRequestLine_eq_ok
    (h : parseRequestLine line = .ok (method, target, version)) : target <:+: line := by
  unfold parseRequestLine at h
  split at h
  · next method' target' version' hsplit =>
      split at h
      · cases h
      · obtain ⟨rfl, hrest⟩ := Prod.mk.inj (Except.ok.inj h)
        cases hrest
        exact infix_of_mem_splitOn (by rw [hsplit]; simp)
  · cases h

/-- No part of a head has a line end in it. -/
structure PartsSpec (parts : RequestParts) : Prop where
  version : parts.version = "HTTP/1.1".toList
  target : ¬ crlf <:+: parts.target
  headers : ∀ header ∈ parts.headers, GoodName header.1 ∧ ¬ crlf <:+: header.2

lemma parseParts_eq_ok {head : Bytes} (h : parseParts head = .ok parts) : PartsSpec parts := by
  unfold parseParts at h
  split at h
  · cases h
  · split at h
    · cases h
    · next requestLine lines hsplit =>
        have hpieces : ∀ line ∈ requestLine :: lines, ¬ crlf <:+: line :=
          fun line hline => not_crlf_of_mem_splitCrlf (hsplit ▸ hline)
        obtain ⟨hfirst, hrest⟩ := forall_mem_cons.mp hpieces
        obtain ⟨⟨method, target, version⟩, hline, h⟩ := bind_eq_ok.mp h
        dsimp only at h
        split at h
        · cases h
        · next hver =>
            obtain ⟨headers, hhead, h⟩ := bind_eq_ok.mp h
            cases h
            exact ⟨not_not.mp hver, fun hin => hfirst (hin.trans (parseRequestLine_eq_ok hline)),
              parseHeaders_eq_ok hhead hrest⟩

end

/-! ## Targets -/

section

lemma ne_bracket_of_rsplit (h : ∀ rest, authority ≠ '[' :: rest)
    (tail : List Char) (hne : authority ≠ []) : ∀ rest, authority ++ tail ≠ '[' :: rest := by
  obtain ⟨c, cs, rfl⟩ := exists_cons_of_ne_nil hne
  intro rest heq
  obtain ⟨rfl, -⟩ := cons.inj heq
  exact h cs rfl

lemma denotes_of_plain (hbrac : ∀ rest, authority ≠ '[' :: rest)
    (hcolon : ':' ∉ authority) {target : Endpoint}
    (hnew : Endpoint.new (String.ofList authority) 80 = .ok target) : Denotes authority target := by
  have hne : authority ≠ [] := by
    rintro rfl
    cases hnew
  refine .inr ⟨?_, ?_⟩
  · rw [Endpoint.parse, Endpoint.splitText_plain hbrac, rsplitOnce_eq_none.mpr hcolon]
    rfl
  · have hsplit : rsplitOnce ':' (authority ++ ":80".toList) = some (authority, "80".toList) :=
      rsplitOnce_append (by decide) authority
    rw [Endpoint.parse, Endpoint.splitText_plain (ne_bracket_of_rsplit hbrac _ hne), hsplit, ← hnew]
    rfl

lemma denotes_of_bracketed (hhost : ']' ∉ host) {target : Endpoint}
    (hnew : Endpoint.new (String.ofList host) 80 = .ok target) :
    Denotes ('[' :: host ++ [']']) target := by
  refine .inr ⟨?_, ?_⟩
  · rw [Endpoint.parse, cons_append, Endpoint.splitText, splitOnce_append hhost]
    rfl
  · have hparse := @Endpoint.parse_bracketed host "80".toList hhost 80 (by decide)
    rw [hnew] at hparse
    rw [← hparse, append_assoc]
    rfl

lemma authorityToEndpoint_eq_ok
    (h : authorityToEndpoint authority 80 = .ok (target, authority')) :
    authority' = authority ∧ Denotes authority target := by
  unfold authorityToEndpoint at h
  split at h
  · next rest =>
      split at h
      · cases h
      · next host hsplit =>
          obtain ⟨endpoint, hnew, h⟩ := bind_eq_ok.mp h
          cases h
          obtain ⟨hrest, hhost⟩ := splitOnce_eq_some hsplit
          rw [hrest]
          exact ⟨rfl, denotes_of_bracketed hhost (mapError_eq_ok.mp hnew)⟩
      · obtain ⟨endpoint, hparse, h⟩ := bind_eq_ok.mp h
        cases h
        exact ⟨rfl, .inl (mapError_eq_ok.mp hparse)⟩
      · cases h
  · next hbrac =>
      split at h
      · split at h
        · cases h
        · obtain ⟨endpoint, hparse, h⟩ := bind_eq_ok.mp h
          cases h
          exact ⟨rfl, .inl (mapError_eq_ok.mp hparse)⟩
      · next hsplit =>
          obtain ⟨endpoint, hnew, h⟩ := bind_eq_ok.mp h
          cases h
          exact ⟨rfl, denotes_of_plain (fun rest heq => hbrac rest heq)
            (rsplitOnce_eq_none.mp hsplit) (mapError_eq_ok.mp hnew)⟩

lemma parseHttpAbsoluteForm_eq_ok (h : parseHttpAbsoluteForm input = .ok absolute) :
    ∃ suffix, input = "http://".toList ++ (absolute.authority ++ suffix) ∧
      absolute.originForm = originForm suffix ∧
      ∃ target, Endpoint.new absolute.host absolute.port = .ok target ∧
        Denotes absolute.authority target := by
  unfold parseHttpAbsoluteForm at h
  split at h
  · cases h
  · next rest hstrip =>
      split at h
      · cases h
      · obtain ⟨⟨endpoint, authority⟩, hauth, h⟩ := bind_eq_ok.mp h
        cases h
        obtain ⟨rfl, hden⟩ := authorityToEndpoint_eq_ok hauth
        refine ⟨rest.dropWhile inAuthority, ?_, rfl, endpoint, endpoint.new_host_port, hden⟩
        rw [takeWhile_append_dropWhile]
        exact stripStart_eq_some hstrip

lemma clean_originForm : Clean (originForm suffix) ↔ Clean suffix := by
  unfold originForm
  split
  · decide
  · exact clean_cons.trans (and_iff_right (by decide))
  · rfl

lemma crlfOnly_of_originForm (h : crlfOnly (originForm suffix) = true) :
    crlfOnly suffix = true := by
  unfold originForm at h
  split at h
  · rfl
  · rw [crlfOnly, crlfFrom, if_neg (by decide)] at h
    exact (and_eq_true_iff.mp h).2
  · exact h

end

/-! ## Lines -/

section

lemma crlfOnly_lines {lines : List (List Char)} (h : ∀ line ∈ lines, Clean line) :
    crlfOnly (lines.flatMap (· ++ crlf) ++ crlf) = true := by
  induction lines with
  | nil => decide
  | cons line lines ih =>
    obtain ⟨hline, hlines⟩ := forall_mem_cons.mp h
    rw [flatMap_cons, append_assoc, append_assoc, crlfOnly, crlfFrom_append_crlf]
    exact and_eq_true_iff.mpr ⟨crlfOnly_of_clean hline, ih hlines⟩

lemma bareLines_lines {lines : List (List Char)} (h : ∀ line ∈ lines, Clean line) :
    ∀ line ∈ bareLines (lines.flatMap (· ++ crlf) ++ crlf), line = [] ∨ line ∈ lines := by
  induction lines with
  | nil => decide
  | cons first lines ih =>
    obtain ⟨hfirst, hlines⟩ := forall_mem_cons.mp h
    have hbreak : ∀ c ∈ first, isBreak c = false := by
      intro c hc
      refine or_eq_false_iff.mpr ⟨beq_eq_false_iff_ne.mpr ?_, beq_eq_false_iff_ne.mpr ?_⟩
      · rintro rfl
        exact hfirst.1 hc
      · rintro rfl
        exact hfirst.2 hc
    have hsplit : bareLines ((first :: lines).flatMap (· ++ crlf) ++ crlf) =
        first :: [] :: bareLines (lines.flatMap (· ++ crlf) ++ crlf) := by
      rw [flatMap_cons, append_assoc, append_assoc]
      show (first ++ '\r' :: ('\n' :: _)).splitOnP isBreak = _
      rw [splitOnP_append_cons_of_forall_mem hbreak '\r' rfl]
      exact congrArg _ (splitOnP_append_cons_of_forall_mem (forall_mem_nil _) '\n' rfl _)
    intro line hline
    rw [hsplit] at hline
    rcases mem_cons.mp hline with rfl | hline
    · exact .inr mem_cons_self
    · rcases mem_cons.mp hline with rfl | hline
      · exact .inl rfl
      · exact (ih hlines line hline).imp_right (mem_cons_of_mem _)

lemma named_headerLine (h : ':' ∉ header.1) :
    named name (headerLine header) = eqIgnoreAsciiCase header.1 name.toList := by
  rw [named, headerLine, splitOnce_append h]
  rfl

lemma eqIgnoreAsciiCase_of_blank (hblank : ' ' ∈ name)
    (hother : ' ' ∉ other.map Char.toLower) : eqIgnoreAsciiCase name other = false := by
  refine beq_eq_false_iff_ne.mpr fun heq => hother ?_
  rw [← heq]
  exact mem_map.mpr ⟨' ', hblank, by decide⟩

lemma named_requestLine (hmethod : ':' ∉ method) (hname : ' ' ∉ name.toList.map Char.toLower) :
    named name (method ++ ' ' :: rest) = false := by
  rw [named]
  cases hsplit : splitOnce ':' (method ++ ' ' :: rest) with
  | none => rfl
  | some parts =>
    obtain ⟨before, after⟩ := parts
    obtain ⟨heq, hcolon⟩ := splitOnce_eq_some hsplit
    have hblank : ' ' ∈ before := by
      rcases append_eq_append_iff.mp heq with ⟨as, rfl, has⟩ | ⟨as, rfl, has⟩
      · cases as with
        | nil => cases (cons.inj has).1
        | cons a as =>
          obtain ⟨rfl, -⟩ := cons.inj has
          exact mem_append_right _ mem_cons_self
      · cases as with
        | nil => cases (cons.inj has).1
        | cons a as =>
          obtain ⟨rfl, -⟩ := cons.inj has
          exact absurd (mem_append_right _ mem_cons_self) hmethod
    exact eqIgnoreAsciiCase_of_blank hblank hname

end

/-! ## The rewritten head -/

section
variable {parts : RequestParts} {absolute : AbsoluteTarget}

def requestLine (parts : RequestParts) (absolute : AbsoluteTarget) : List Char :=
  parts.method ++ ' ' :: absolute.originForm ++ ' ' :: parts.version

def fieldLines (parts : RequestParts) (absolute : AbsoluteTarget) : List (List Char) :=
  (("Host".toList, absolute.authority) :: keptHeaders parts.headers).map headerLine

lemma rewriteForwardHead_eq :
    rewriteForwardHead parts absolute =
      (requestLine parts absolute :: fieldLines parts absolute).flatMap (· ++ crlf) ++ crlf := by
  simp only [rewriteForwardHead, requestLine, fieldLines, map_cons, flatMap_cons,
    flatMap_map, append_assoc]

lemma crlfOnly_of_mem_lines {lines : List (List Char)}
    (h : crlfOnly (lines.flatMap (· ++ crlf) ++ crlf) = true) :
    ∀ line ∈ lines, crlfOnly line = true := by
  induction lines with
  | nil => exact forall_mem_nil _
  | cons line lines ih =>
    rw [flatMap_cons, append_assoc, append_assoc, crlfOnly, crlfFrom_append_crlf] at h
    obtain ⟨hline, hlines⟩ := and_eq_true_iff.mp h
    exact forall_mem_cons.mpr ⟨hline, ih hlines⟩

lemma crlfOnly_headerLine (h : crlfOnly (headerLine header) = true) :
    crlfOnly header.2 = true := by
  rw [headerLine, crlfOnly, crlfFrom_append_cons (by decide) (by decide)] at h
  exact (and_eq_true_iff.mp h).2

lemma crlfOnly_requestLine (h : crlfOnly (requestLine parts absolute) = true) :
    crlfOnly absolute.originForm = true := by
  rw [requestLine, crlfOnly, crlfFrom_append_cons (by decide) (by decide),
    crlfFrom_append_cons (by decide) (by decide)] at h
  exact (and_eq_true_iff.mp (and_eq_true_iff.mp h).1).2

lemma kept_eq_false (h : header ∈ keptHeaders parts.headers) :
    header ∈ parts.headers ∧ isDropped header.1 = false := by
  obtain ⟨hmem, hkept⟩ := mem_filter.mp h
  exact ⟨hmem, by simpa using hkept⟩

lemma mem_fieldLines (h : line ∈ fieldLines parts absolute) :
    line = headerLine ("Host".toList, absolute.authority) ∨
      ∃ header ∈ keptHeaders parts.headers, line = headerLine header := by
  obtain ⟨header, hmem, rfl⟩ := mem_map.mp h
  rcases mem_cons.mp hmem with rfl | hkept
  · exact .inl rfl
  · exact .inr ⟨header, hkept, rfl⟩

lemma named_kept (hparts : PartsSpec parts) (h : header ∈ keptHeaders parts.headers)
    (hname : ∀ other, isDropped other = false → eqIgnoreAsciiCase other name.toList = false) :
    named name (headerLine header) = false := by
  obtain ⟨hmem, hdrop⟩ := kept_eq_false h
  rw [named_headerLine (hparts.headers header hmem).1.colon]
  exact hname header.1 hdrop

lemma not_dropped (h : isDropped name = false) :
    eqIgnoreAsciiCase name "host".toList = false ∧
      eqIgnoreAsciiCase name "proxy-authorization".toList = false ∧
      eqIgnoreAsciiCase name "proxy-connection".toList = false := by
  obtain ⟨hfirst, hconn⟩ := or_eq_false_iff.mp h
  obtain ⟨hhost, hauth⟩ := or_eq_false_iff.mp hfirst
  exact ⟨hhost, hauth, hconn⟩

lemma clean_headerLine (hname : Clean header.1) (hvalue : Clean header.2) :
    headerLine header ≠ [] ∧ Clean (headerLine header) := by
  refine ⟨fun hnil => ?_, clean_append.mpr ⟨hname, ?_⟩⟩
  · cases (append_eq_nil_iff.mp hnil).2
  · exact clean_cons.mpr ⟨by decide, clean_cons.mpr ⟨by decide, hvalue⟩⟩

lemma forwardMethods_spec (h : method ∈ forwardMethods) : ':' ∉ method ∧ Clean method := by
  revert method
  decide

lemma named_hostLine :
    named name (headerLine ("Host".toList, authority)) =
      eqIgnoreAsciiCase "Host".toList name.toList :=
  named_headerLine (show ':' ∉ "Host".toList by decide)

lemma filter_host (hparts : PartsSpec parts) :
    (fieldLines parts absolute).filter (named "host") =
      [headerLine ("Host".toList, absolute.authority)] := by
  have hhost : named "host" (headerLine ("Host".toList, absolute.authority)) = true := by
    rw [named_hostLine]
    decide
  rw [fieldLines, map_cons, filter_cons_of_pos hhost, cons.injEq]
  refine ⟨rfl, filter_eq_nil_iff.mpr ?_⟩
  intro line hline
  obtain ⟨header, hkept, rfl⟩ := mem_map.mp hline
  rw [named_kept hparts hkept fun _ h => (not_dropped h).1]
  exact false_ne_true

lemma safeHead_of_clean (hparts : PartsSpec parts)
    (hmethod : parts.method ∈ forwardMethods) (hform : Clean absolute.originForm)
    (hauth : Clean absolute.authority)
    (hvalues : ∀ header ∈ keptHeaders parts.headers, Clean header.2)
    (hden : Denotes absolute.authority target) :
    SafeHead (rewriteForwardHead parts absolute) target := by
  obtain ⟨hcolon, hclean⟩ := forwardMethods_spec hmethod
  have hline : requestLine parts absolute ≠ [] ∧ Clean (requestLine parts absolute) := by
    refine ⟨fun hnil => ?_, clean_append.mpr ⟨clean_append.mpr ⟨hclean, ?_⟩, ?_⟩⟩
    · cases (append_eq_nil_iff.mp hnil).2
    · exact clean_cons.mpr ⟨by decide, hform⟩
    · rw [hparts.version]
      decide
  have hlines : ∀ line ∈ requestLine parts absolute :: fieldLines parts absolute,
      line ≠ [] ∧ Clean line := by
    refine forall_mem_cons.mpr ⟨hline, fun line hmem => ?_⟩
    rcases mem_fieldLines hmem with rfl | ⟨header, hkept, rfl⟩
    · exact clean_headerLine (show Clean "Host".toList by decide) hauth
    · exact clean_headerLine (hparts.headers header (kept_eq_false hkept).1).1.clean
        (hvalues header hkept)
  refine ⟨_, _, rewriteForwardHead_eq, hlines, ⟨absolute.authority, filter_host hparts, hden⟩, ?_⟩
  rw [rewriteForwardHead_eq]
  intro line hmem
  rcases bareLines_lines (fun line h => (hlines line h).2) line hmem with rfl | hmem
  · exact ⟨rfl, rfl⟩
  rcases mem_cons.mp hmem with rfl | hmem
  · rw [requestLine, append_assoc]
    exact ⟨named_requestLine hcolon (by decide), named_requestLine hcolon (by decide)⟩
  rcases mem_fieldLines hmem with rfl | ⟨header, hkept, rfl⟩
  · rw [named_hostLine, named_hostLine]
    decide
  · exact ⟨named_kept hparts hkept fun _ h => (not_dropped h).2.1,
      named_kept hparts hkept fun _ h => (not_dropped h).2.2⟩

lemma clean_of_safeHead (h : SafeHead (rewriteForwardHead parts absolute) target) :
    crlfOnly absolute.originForm = true ∧ crlfOnly absolute.authority = true ∧
      ∀ header ∈ keptHeaders parts.headers, crlfOnly header.2 = true := by
  obtain ⟨first, fields, heq, hlines, -, -⟩ := h
  have honly := crlfOnly_lines fun line hmem => (hlines line hmem).2
  rw [← heq, rewriteForwardHead_eq] at honly
  have hall := crlfOnly_of_mem_lines honly
  obtain ⟨hline, hfields⟩ := forall_mem_cons.mp hall
  have hhdr : ∀ header ∈ ("Host".toList, absolute.authority) :: keptHeaders parts.headers,
      crlfOnly header.2 = true :=
    fun header hmem => crlfOnly_headerLine (hfields _ (mem_map_of_mem hmem))
  obtain ⟨hauth, hvalues⟩ := forall_mem_cons.mp hhdr
  exact ⟨crlfOnly_requestLine hline, hauth, hvalues⟩

end

/-! ## Requests that are forwarded -/

lemma readParts_forward {head : RequestHead} (h : readParts parts consumed = .ok head)
    (hkind : head.kind = .forwardHttp method form) :
    parts.method ∈ forwardMethods ∧
      ∃ absolute, parseHttpAbsoluteForm parts.target = .ok absolute ∧
        Endpoint.new absolute.host absolute.port = .ok head.target ∧
        head.forwardedHead = utf8 (String.ofList (rewriteForwardHead parts absolute)) := by
  unfold readParts at h
  extract_lets proxyAuthorization at h
  split at h
  · split at h
    · cases h
    · obtain ⟨target, -, h⟩ := bind_eq_ok.mp h
      cases h
      cases hkind
  · split at h
    · cases h
    · next hmethod =>
        obtain ⟨absolute, habs, h⟩ := bind_eq_ok.mp h
        obtain ⟨target, htgt, h⟩ := bind_eq_ok.mp h
        cases h
        exact ⟨not_not.mp hmethod, absolute, habs, mapError_eq_ok.mp htgt, rfl⟩

/-- What is forwarded is safe exactly if the request has no break where one would be passed on. -/
theorem forwarded_head_safe_iff {input : Bytes} {max : Nat} {head : RequestHead}
    (h : parseRequestHead input max = .ok (some head)) {method form : String}
    (hkind : head.kind = .forwardHttp method form) :
    (∃ text, ofUtf8 head.forwardedHead = some text ∧ SafeHead text.toList head.target) ↔
      Unbroken input := by
  obtain ⟨hend, parts, hparts, hread⟩ := parseRequestHead_eq_some h
  obtain ⟨hmethod, absolute, habs, htgt, hforw⟩ := readParts_forward hread hkind
  obtain ⟨suffix, hinput, hform, target, hnew, hden⟩ := parseHttpAbsoluteForm_eq_ok habs
  obtain rfl : target = head.target := Except.ok.inj (hnew.symm.trans htgt)
  have hspec := parseParts_eq_ok hparts
  have htext : (∃ text, ofUtf8 head.forwardedHead = some text ∧ SafeHead text.toList head.target) ↔
        SafeHead (rewriteForwardHead parts absolute) head.target := by
    rw [hforw, ofUtf8_utf8]
    simp only [Option.some.injEq, exists_eq_left', String.toList_ofList]
  have hunbr : Unbroken input ↔
      Clean parts.target ∧ ∀ header ∈ keptHeaders parts.headers, Clean header.2 := by
    refine ⟨fun hall => hall _ _ hend hparts, ?_⟩
    intro hclean consumed parts' hend' hpart'
    obtain rfl := Option.some.inj (hend.symm.trans hend')
    obtain rfl := Except.ok.inj (hparts.symm.trans hpart')
    exact hclean
  have hclean : Clean parts.target ↔ Clean absolute.authority ∧ Clean absolute.originForm := by
    rw [hinput, clean_append, clean_append, hform, clean_originForm]
    exact and_iff_right (by decide)
  rw [htext, hunbr, hclean]
  constructor
  · intro hsafe
    obtain ⟨hfor, hauth, hval⟩ := clean_of_safeHead hsafe
    have haut : absolute.authority <:+: parts.target :=
      ⟨"http://".toList, suffix, by rw [hinput, append_assoc]⟩
    have hsuffix : suffix <:+: parts.target :=
      ⟨"http://".toList ++ absolute.authority, [], by
        rw [hinput, append_nil, append_assoc]⟩
    refine ⟨⟨?_, ?_⟩, fun header hkept => ?_⟩
    · exact clean_of_crlfOnly (fun hin => hspec.target (hin.trans haut)) hauth
    · rw [hform] at hfor ⊢
      exact clean_originForm.mpr (clean_of_crlfOnly (fun hin => hspec.target (hin.trans hsuffix))
        (crlfOnly_of_originForm hfor))
    · exact clean_of_crlfOnly (hspec.headers header (kept_eq_false hkept).1).2
        (hval header hkept)
  · rintro ⟨⟨haut, hformC⟩, hvalues⟩
    exact safeHead_of_clean hspec hmethod hformC haut hvalues hden

def plainRequest : Bytes := utf8 "GET http://a/ HTTP/1.1\r\nX: b\r\n\r\n"

def plainHead : RequestHead where
  kind := .forwardHttp "GET" "/"
  target := ⟨"a", 80, by decide, by decide +kernel, by decide⟩
  consumed := 32
  forwardedHead := utf8 "GET / HTTP/1.1\r\nHost: a\r\nX: b\r\n\r\n"
  proxyAuthorization := none

theorem plainRequest_safe_iff :
    parseRequestHead plainRequest 64 = .ok (some plainHead) ∧
      ((∃ text, ofUtf8 plainHead.forwardedHead = some text ∧
        SafeHead text.toList plainHead.target) ↔ Unbroken plainRequest) := by
  have hparse : parseRequestHead plainRequest 64 = .ok (some plainHead) := by decide +kernel
  exact ⟨hparse, forwarded_head_safe_iff hparse rfl⟩

def brokenRequest : Bytes :=
  utf8 "GET http://a/ HTTP/1.1\r\nX: b\nProxy-Authorization: c\r\n\r\n"

def smuggledHead : String :=
  "GET / HTTP/1.1\r\nHost: a\r\nX: b\nProxy-Authorization: c\r\n\r\n"

/-- For an origin server that takes a line feed for the end of a line, a header for the proxy is
passed on. -/
theorem header_smuggled :
    (parseRequestHead brokenRequest 64).map
        (Option.map fun head => (head.kind, head.forwardedHead)) =
      .ok (some (.forwardHttp "GET" "/", utf8 smuggledHead)) ∧
      ∀ target, ¬ SafeHead smuggledHead.toList target := by
  refine ⟨by decide +kernel, ?_⟩
  rintro target ⟨first, fields, -, -, -, hproxy⟩
  have hline : "Proxy-Authorization: c".toList ∈ bareLines smuggledHead.toList := by decide +kernel
  have hnamed := (hproxy _ hline).1
  exact absurd hnamed (by decide +kernel)

end MeshBus.Http
