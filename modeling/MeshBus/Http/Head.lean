import MeshBus.Lib.Checks
import MeshBus.Net.Endpoint

/-!
# Request heads of the HTTP proxy

The head of a request ends at the first empty line.  A `CONNECT` request names its target; any
other request comes in absolute form and is rewritten for the origin server.  The ingress reads
until the head is whole.
-/

namespace MeshBus.Http

open Lib List Except
open Lib.Text
open Proto (Endpoint ParseError)

inductive RequestKind where
  | connect
  | forwardHttp (method originForm : String)
deriving DecidableEq, Repr

structure RequestHead where
  kind : RequestKind
  target : Endpoint
  consumed : Nat
  forwardedHead : Bytes
  proxyAuthorization : Option String
deriving DecidableEq

inductive HttpProxyError where
  | incomplete
  | headerTooLarge
  | invalidUtf8
  | malformedRequestLine
  | unsupportedVersion (version : String)
  | invalidConnectTarget (target : String)
  | unsupportedMethod (method : String)
  | unsupportedScheme (scheme : String)
  | malformedAbsoluteForm
  | malformedHeader
  | endpoint (text : String)
deriving DecidableEq, Repr

def endpointError (e : ParseError) : HttpProxyError := .endpoint e.text

/-! ## Parts of a head -/

abbrev Header := List Char × List Char

structure RequestParts where
  method : List Char
  target : List Char
  version : List Char
  headers : List Header

/-- The octets of the empty line, with the end of the line before it. -/
def headEnd : Bytes := [13, 10, 13, 10]

def findHeaderEnd : Bytes → Option Nat
  | [] => none
  | b :: bs => if headEnd.isPrefixOf (b :: bs) then some 4 else (findHeaderEnd bs).map (· + 1)

def parseRequestLine (line : List Char) :
    Except HttpProxyError (List Char × List Char × List Char) :=
  match line.splitOn ' ' with
  | [method, target, version] =>
    if method = [] ∨ target = [] ∨ version = [] then .error .malformedRequestLine
    else .ok (method, target, version)
  | _ => .error .malformedRequestLine

def parseHeader (line : List Char) : Except HttpProxyError Header :=
  match splitOnce ':' line with
  | none => .error .malformedHeader
  | some (name, value) =>
    if name.isEmpty || name.any fun c => c ≤ ' ' || c = ':' then .error .malformedHeader
    else .ok (name, trim value)

def parseHeaders : List (List Char) → Except HttpProxyError (List Header)
  | [] => .ok []
  | line :: lines =>
    if line = [] then parseHeaders lines
    else do
      let header ← parseHeader line
      let headers ← parseHeaders lines
      pure (header :: headers)

def headerValue (headers : List Header) (name : String) : Option (List Char) :=
  (headers.find? fun header => eqIgnoreAsciiCase header.1 name.toList).map Prod.snd

def parseParts (head : Bytes) : Except HttpProxyError RequestParts :=
  match ofUtf8 head with
  | none => .error .invalidUtf8
  | some text =>
    match splitCrlf text.toList with
    | [] => .error .malformedRequestLine
    | requestLine :: lines => do
        let (method, target, version) ← parseRequestLine requestLine
        if version ≠ "HTTP/1.1".toList then
          throw (.unsupportedVersion (String.ofList version))
        let headers ← parseHeaders lines
        pure ⟨method, target, version, headers⟩

/-! ## Targets -/

structure AbsoluteTarget where
  host : String
  port : UInt16
  authority : List Char
  originForm : List Char

def authorityToEndpoint (authority : List Char) (defaultPort : UInt16) :
    Except HttpProxyError (Endpoint × List Char) :=
  match authority with
  | '[' :: rest =>
    match splitOnce ']' rest with
    | none => .error .malformedAbsoluteForm
    | some (host, []) => do
        let endpoint ← (Endpoint.new (String.ofList host) defaultPort).mapError endpointError
        pure (endpoint, '[' :: host ++ [']'])
    | some (_, ':' :: _) => do
        let endpoint ← (Endpoint.parse authority).mapError endpointError
        pure (endpoint, authority)
    | some _ => .error .malformedAbsoluteForm
  | _ =>
    match rsplitOnce ':' authority with
    | some (host, port) =>
      if host = [] ∨ port = [] then .error .malformedAbsoluteForm
      else do
        let endpoint ← (Endpoint.parse authority).mapError endpointError
        pure (endpoint, authority)
    | none => do
        let endpoint ← (Endpoint.new (String.ofList authority) defaultPort).mapError endpointError
        pure (endpoint, authority)

def inAuthority (c : Char) : Bool := c != '/' && c != '?'

def originForm : List Char → List Char
  | [] => ['/']
  | '?' :: query => '/' :: '?' :: query
  | suffix => suffix

def parseHttpAbsoluteForm (input : List Char) : Except HttpProxyError AbsoluteTarget :=
  match stripStart "http://".toList input with
  | none =>
    let scheme := ((splitOnce ':' input).map Prod.fst).getD []
    .error (.unsupportedScheme (String.ofList scheme))
  | some rest =>
    if rest.takeWhile inAuthority = [] then .error .malformedAbsoluteForm
    else do
      let (endpoint, authority) ← authorityToEndpoint (rest.takeWhile inAuthority) 80
      pure ⟨endpoint.host, endpoint.port, authority, originForm (rest.dropWhile inAuthority)⟩

/-- Headers that are not passed on: the first one is written anew. -/
def isDropped (name : List Char) : Bool :=
  eqIgnoreAsciiCase name "host".toList || eqIgnoreAsciiCase name "proxy-authorization".toList ||
    eqIgnoreAsciiCase name "proxy-connection".toList

def headerLine (header : Header) : List Char := header.1 ++ ':' :: ' ' :: header.2

def keptHeaders (headers : List Header) : List Header := headers.filter fun h => !isDropped h.1

def rewriteForwardHead (parts : RequestParts) (target : AbsoluteTarget) : List Char :=
  parts.method ++ ' ' :: target.originForm ++ ' ' :: parts.version ++ crlf ++
    headerLine ("Host".toList, target.authority) ++ crlf ++
    (keptHeaders parts.headers).flatMap (fun header => headerLine header ++ crlf) ++ crlf

/-! ## Heads -/

def containsSeparator (target : List Char) : Bool :=
  target.tails.any fun tail => "://".toList.isPrefixOf tail

def forwardMethods : List (List Char) :=
  ["GET".toList, "HEAD".toList, "POST".toList, "PUT".toList]

def readParts (parts : RequestParts) (consumed : Nat) : Except HttpProxyError RequestHead :=
  let proxyAuthorization := (headerValue parts.headers "proxy-authorization").map String.ofList
  if parts.method = "CONNECT".toList then
    if ['/'].isPrefixOf parts.target || containsSeparator parts.target then
      .error (.invalidConnectTarget (String.ofList parts.target))
    else do
      let target ← (Endpoint.parse parts.target).mapError endpointError
      pure ⟨.connect, target, consumed, [], proxyAuthorization⟩
  else if parts.method ∉ forwardMethods then
    .error (.unsupportedMethod (String.ofList parts.method))
  else do
    let absolute ← parseHttpAbsoluteForm parts.target
    let target ← (Endpoint.new absolute.host absolute.port).mapError endpointError
    let forwardedHead := utf8 (String.ofList (rewriteForwardHead parts absolute))
    let kind := .forwardHttp (String.ofList parts.method) (String.ofList absolute.originForm)
    pure ⟨kind, target, consumed, forwardedHead, proxyAuthorization⟩

/-- `none` asks for more octets. -/
def parseRequestHead (input : Bytes) (maxHeaderBytes : Nat) :
    Except HttpProxyError (Option RequestHead) :=
  match findHeaderEnd input with
  | none => if maxHeaderBytes < input.length then .error .headerTooLarge else .ok none
  | some consumed =>
    if maxHeaderBytes < consumed then .error .headerTooLarge
    else do
      let parts ← parseParts (input.take consumed)
      let head ← readParts parts consumed
      pure (some head)

/-! ## Reading a head -/

structure ParsedConn where
  head : RequestHead
  buffered : Bytes
deriving DecidableEq

/-- `read_request_head` from some octets on, with what the next reads return: the outcome,
where `none` waits for one more read, and the reads that are not made.  A read of nothing is
the end of the stream. -/
def readRequestHead (maxHeaderBytes : Nat) (buf : Bytes) (reads : List Bytes) :
    Except HttpProxyError (Option ParsedConn) × List Bytes :=
  match parseRequestHead buf maxHeaderBytes with
  | .error e => (.error e, reads)
  | .ok (some head) => (.ok (some ⟨head, buf.drop head.consumed⟩), reads)
  | .ok none =>
    match reads with
    | [] => (.ok none, [])
    | [] :: rest => (.error .incomplete, rest)
    | chunk :: rest => readRequestHead maxHeaderBytes (buf ++ chunk) rest
termination_by structural reads

/-! ## How the octets arrive -/

section
variable {n max : Nat}

lemma findHeaderEnd_cons_eq_some (h : findHeaderEnd (b :: bs) = some n) :
    (headEnd <+: b :: bs ∧ n = 4) ∨
      (¬ headEnd <+: b :: bs) ∧ ∃ k, findHeaderEnd bs = some k ∧ n = k + 1 := by
  rw [findHeaderEnd] at h
  split at h
  · next hend => exact .inl ⟨ isPrefixOf_iff_prefix.mp hend, (Option.some.inj h).symm⟩
  · next hend =>
      obtain ⟨k, hk, hn⟩ := Option.map_eq_some_iff.mp h
      exact .inr ⟨fun hp => hend ( isPrefixOf_iff_prefix.mpr hp), k, hk, hn.symm⟩

lemma findHeaderEnd_bounds (h : findHeaderEnd bs = some n) : 4 ≤ n ∧ n ≤ bs.length := by
  induction bs generalizing n with
  | nil => cases h
  | cons b bs ih =>
    rcases findHeaderEnd_cons_eq_some h with ⟨hend, rfl⟩ | ⟨-, k, hk, rfl⟩
    · exact ⟨Nat.le_refl 4, hend.length_le⟩
    · have hk := ih hk
      rw [length_cons]
      omega

lemma headEnd_prefix_append (hlen : 4 ≤ bs.length) : headEnd <+: bs ++ more ↔ headEnd <+: bs :=
  ⟨fun h => prefix_of_prefix_length_le h (prefix_append bs more) hlen,
    fun h => h.trans (prefix_append bs more)⟩

lemma findHeaderEnd_append (h : findHeaderEnd bs = some n) :
    findHeaderEnd (bs ++ more) = some n := by
  induction bs generalizing n with
  | nil => cases h
  | cons b bs ih =>
    have hlen : 4 ≤ (b :: bs).length := by
      obtain ⟨hfour, hle⟩ := findHeaderEnd_bounds h
      omega
    have hiff : headEnd.isPrefixOf (b :: (bs ++ more)) = true ↔ headEnd <+: b :: bs := by
      rw [ isPrefixOf_iff_prefix, ← cons_append, headEnd_prefix_append hlen]
    rw [cons_append, findHeaderEnd]
    rcases findHeaderEnd_cons_eq_some h with ⟨hend, rfl⟩ | ⟨hend, k, hk, rfl⟩
    · rw [if_pos (hiff.mpr hend)]
    · rw [if_neg (mt hiff.mp hend), ih hk]
      rfl

lemma lt_of_findHeaderEnd_append (hnone : findHeaderEnd bs = none)
    (h : findHeaderEnd (bs ++ more) = some n) : bs.length < n := by
  induction bs generalizing n with
  | nil =>
    have hbds := findHeaderEnd_bounds h
    exact lt_of_lt_of_le (Nat.succ_pos 3) hbds.1
  | cons b bs ih =>
    rw [findHeaderEnd] at hnone
    split at hnone
    · cases hnone
    · next hend =>
        rcases findHeaderEnd_cons_eq_some h with ⟨hlate, rfl⟩ | ⟨-, k, hk, rfl⟩
        · refine Nat.lt_of_not_le fun hlen => hend ?_
          exact isPrefixOf_iff_prefix.mpr ((headEnd_prefix_append hlen).mp hlate)
        · exact Nat.succ_lt_succ (ih (Option.map_eq_none_iff.mp hnone) hk)

lemma parseRequestHead_append (h : parseRequestHead bs max ≠ .ok none) (more : Bytes) :
    parseRequestHead (bs ++ more) max = parseRequestHead bs max := by
  cases hend : findHeaderEnd bs with
  | some n =>
    have hle := (findHeaderEnd_bounds hend).2
    rw [parseRequestHead, parseRequestHead, findHeaderEnd_append hend, hend]
    simp only [take_append_of_le_length hle]
  | none =>
    have hlong : max < bs.length := by
      by_contra hshort
      rw [parseRequestHead, hend] at h
      exact h (if_neg hshort)
    have htooL : parseRequestHead bs max = .error .headerTooLarge := by
      rw [parseRequestHead, hend]
      exact if_pos hlong
    rw [htooL, parseRequestHead]
    cases hmore : findHeaderEnd (bs ++ more) with
    | none => exact if_pos (by rw [length_append]; omega)
    | some n => exact if_pos (lt_trans hlong (lt_of_findHeaderEnd_append hend hmore))

lemma consumed_readParts {head : RequestHead}
    (h : readParts parts n = .ok head) : head.consumed = n := by
  unfold readParts at h
  extract_lets proxyAuthorization at h
  split at h
  · split at h
    · cases h
    · obtain ⟨target, -, hhead⟩ := bind_eq_ok.mp h
      rw [← ok.inj hhead]
  · split at h
    · cases h
    · obtain ⟨absolute, -, h⟩ := bind_eq_ok.mp h
      obtain ⟨target, -, hhead⟩ := bind_eq_ok.mp h
      rw [← ok.inj hhead]

lemma parseRequestHead_eq_some {head : RequestHead}
    (h : parseRequestHead bs max = .ok (some head)) :
    findHeaderEnd bs = some head.consumed ∧
      ∃ parts, parseParts (bs.take head.consumed) = .ok parts ∧
        readParts parts head.consumed = .ok head := by
  unfold parseRequestHead at h
  split at h
  · split at h
    · cases h
    · cases h
  · next consumed hend =>
      split at h
      · cases h
      · obtain ⟨parts, hparts, h⟩ := bind_eq_ok.mp h
        obtain ⟨head', hread, hsome⟩ := bind_eq_ok.mp h
        obtain rfl := Option.some.inj (ok.inj hsome)
        have hcons := consumed_readParts hread
        rw [hcons]
        exact ⟨hend, parts, hparts, hread⟩

/-- What a run of reads gives: the outcome of all the octets at once, and where it is a head,
what was read and not consumed is in the buffer. -/
def SameAsWhole (max : Nat) (buf : Bytes) (reads : List Bytes)
    (result : Except HttpProxyError (Option ParsedConn) × List Bytes) : Prop :=
  result.1.map (Option.map ParsedConn.head) = parseRequestHead (buf ++ reads.flatten) max ∧
    ∀ conn, result.1 = .ok (some conn) →
      (buf ++ reads.flatten).take conn.head.consumed ++ conn.buffered ++ result.2.flatten =
        buf ++ reads.flatten

lemma sameAsWhole_of_decided (h : parseRequestHead buf max ≠ .ok none)
    (reads : List Bytes) : SameAsWhole max buf reads (readRequestHead max buf reads) := by
  have hwhole := parseRequestHead_append h reads.flatten
  rw [SameAsWhole, hwhole, readRequestHead.eq_def]
  cases hparse : parseRequestHead buf max with
  | error e => exact ⟨rfl, by rintro conn ⟨⟩⟩
  | ok decided =>
    cases decided with
    | none => exact absurd hparse h
    | some head =>
      refine ⟨rfl, ?_⟩
      intro conn hconn
      obtain rfl := Option.some.inj (ok.inj hconn)
      have hle := (findHeaderEnd_bounds (parseRequestHead_eq_some hparse).1).2
      rw [take_append_of_le_length hle, take_append_drop]

lemma sameAsWhole_readRequestHead {reads : List Bytes} (buf : Bytes)
    (hreads : ∀ chunk ∈ reads, chunk ≠ []) :
    SameAsWhole max buf reads (readRequestHead max buf reads) := by
  induction reads generalizing buf with
  | nil =>
    by_cases hparse : parseRequestHead buf max = .ok none
    · rw [SameAsWhole, readRequestHead, flatten_nil, append_nil, hparse]
      exact ⟨rfl, by rintro conn ⟨⟩⟩
    · exact sameAsWhole_of_decided hparse []
  | cons chunk rest ih =>
    obtain ⟨hchunk, hrest⟩ := forall_mem_cons.mp hreads
    by_cases hparse : parseRequestHead buf max = .ok none
    · have hstep : readRequestHead max buf (chunk :: rest) =
          readRequestHead max (buf ++ chunk) rest := by
        obtain ⟨b, bs, rfl⟩ := exists_cons_of_ne_nil hchunk
        rw [readRequestHead.eq_def, hparse]
      have hnext := ih (buf ++ chunk) hrest
      rw [SameAsWhole] at hnext ⊢
      rw [hstep, flatten_cons, ← append_assoc]
      exact hnext
    · exact sameAsWhole_of_decided hparse (chunk :: rest)

end

/-- However the octets arrive, the head that is read, the error or the wait for more is that of
the octets as a whole, and nothing that was read is lost. -/
theorem read_independent_of_arrival (max : Nat) (reads : List Bytes)
    (hreads : ∀ chunk ∈ reads, chunk ≠ []) :
    (readRequestHead max [] reads).1.map (Option.map ParsedConn.head) =
        parseRequestHead reads.flatten max ∧
      ∀ conn, (readRequestHead max [] reads).1 = .ok (some conn) →
        reads.flatten.take conn.head.consumed ++ conn.buffered ++
          (readRequestHead max [] reads).2.flatten = reads.flatten :=
  sameAsWhole_readRequestHead [] hreads

/-- `GET http://a/ HTTP/1.1`, cut inside the empty line, with an octet of the body. -/
def cutRequest : List Bytes :=
  [utf8 "GET http://a/ HTTP/1.1\r\n\r", [10, 7]]

theorem cutRequest_independent :
    (readRequestHead 64 [] cutRequest).1.map (Option.map ParsedConn.head) =
      parseRequestHead cutRequest.flatten 64 :=
  (read_independent_of_arrival 64 cutRequest (by decide +kernel)).1

end MeshBus.Http
