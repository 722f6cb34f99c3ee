import MeshBus.Resolver.Exchange

/-!
# Pooled connections

Calls of `single_shot_tcp` share connections to a server through `ConnCache`: a table of
connections, each behind a lock of its own.  A call is cut at its awaits, and the steps of all
calls, of the servers and of the clock interleave freely.
-/

namespace MeshBus.Resolver

open Lib List Option Dns Dns.Question Except

def tryReadTcpFrame (buf : Bytes) : Option (Bytes × Bytes) :=
  if buf.length < 2 then none
  else
    let len := ofBeBytes (buf.take 2)
    if buf.length < 2 + len then none
    else some ((buf.drop 2).take len, buf.drop (2 + len))

/-- The key of a connection in the table. -/
structure ConnKey where
  server : SocketAddr
  routeGroup : Option String
deriving DecidableEq, Repr

abbrev ConnId : Type := Nat

/-- A connection: its lock and buffer, the octets on their way to the server and back, and a
record of the calls whose queries were sent and of the answers they got. -/
structure PooledConn where
  holder : Option CallId := none
  rxBuf : Bytes := []
  outbound : Bytes := []
  inbound : Bytes := []
  closed : Bool := false
  asked : List CallId := []
  answers : List Bytes := []
deriving DecidableEq, Repr

open PooledConn

def PooledConn.new : PooledConn := {}

/-- How the exchange of a call ends. -/
inductive Outcome where
  | openFailed (e : ResolveError)
  | badQuery (e : ResolveError)
  | timedOut
  /-- With the `Debug` text of the reason. -/
  | sendFailed (reason : String)
  | streamClosed
  | replied (data : Bytes)
deriving DecidableEq, Repr

open Outcome

inductive TcpPhase where
  /-- Before the first look at the table. -/
  | looking
  | opening
  | waiting (conn : ConnId) (payload : Bytes)
  | locked (conn : ConnId) (payload : Bytes)
  | receiving (conn : ConnId) (payload : Bytes)
  /-- The lock is free again; the key is removed from the table. -/
  | evicting (outcome : Outcome)
  | returned (outcome : Outcome)
deriving DecidableEq, Repr

structure TcpCall where
  key : ConnKey
  query : Query
  budget : Nat
  phase : TcpPhase
deriving DecidableEq, Repr

structure ConnPool where
  entries : Table ConnKey ConnId
  /-- Every connection that was ever opened. -/
  conns : List PooledConn
  calls : Table CallId TcpCall

open ConnPool

def ConnPool.new : ConnPool := ⟨∅, [], ∅⟩

def Outcome.result (query : Query) (budget : Nat) : Outcome → Except ResolveError Dns.Message
  | .openFailed e => .error e
  | .badQuery e => .error e
  | .timedOut => .error (.timeout budget)
  | .sendFailed reason => .error (.io ("stream send: " ++ reason))
  | .streamClosed => .error (.io "stream closed before full frame")
  | .replied data => (acceptReply query.txid (normalizeQname query.qname) data 0).map Prod.fst

/-- What `single_shot_tcp` sees of the stream of a call that ends so. -/
def Outcome.port (outcome : Outcome) : StreamPort where
  opened :=
    match outcome with
    | .openFailed e => .error e
    | _ => .ok ()
  frame _ :=
    match outcome with
    | .sendFailed reason => some (.error (.io ("stream send: " ++ reason)))
    | .streamClosed => some (.error (.io "stream closed before full frame"))
    | .replied data => some (.ok data)
    | _ => none
  elapsed := 0

variable {conns conns' : List PooledConn} {query : Query}

lemma Outcome.result_eq_shoot
    (hquery : buildQuery query.txid query.qname query.qtype = .ok payload) (budget : Nat)
    {outcome : Outcome} (hbuilt : ∀ e, outcome ≠ .badQuery e) :
    outcome.result query budget =
      ((Exchange.stream outcome.port).shoot query budget).map Prod.fst := by
  rw [Exchange.shoot, Exchange.receive, receiveTcp, hquery]
  cases outcome with
  | badQuery e => exact absurd rfl (hbuilt e)
  | _ => rfl

/-- What a call does when it is its turn. -/
inductive CallAct where
  /-- `get_or_open` looks for a connection. -/
  | lookup
  /-- `get_or_open` has opened a connection and looks again. -/
  | opened
  | openFailed (e : ResolveError)
  | lock
  | send
  | sendFailed (reason : String)
  /-- A chunk of up to so many octets. -/
  | recv (count : Nat)
  | recvClosed
  | timeout
  | evict
deriving DecidableEq, Repr

inductive PoolStep where
  | start (id : CallId) (key : ConnKey) (query : Query) (budget : Nat)
  | act (id : CallId) (a : CallAct)
  /-- The server answers the next query that it has read. -/
  | serve (c : ConnId) (reply : Bytes)
  | close (c : ConnId)
deriving DecidableEq, Repr

def PooledConn.serve (conn : PooledConn) (reply : Bytes) : PooledConn :=
  match tryReadTcpFrame conn.outbound with
  | none => conn
  | some (_, rest) =>
    if conn.closed then conn
    else
      { conn with
        outbound := rest
        inbound := conn.inbound ++ writeTcpFrame reply
        answers := conn.answers ++ [reply] }

namespace ConnPool

def setPhase (s : ConnPool) (id : CallId) (call : TcpCall) (phase : TcpPhase) : ConnPool :=
  { s with calls := s.calls.insert id { call with phase := phase } }

def setConn (s : ConnPool) (c : ConnId) (conn : PooledConn) : ConnPool :=
  { s with conns := s.conns.set c conn }

def beginQuery (s : ConnPool) (id : CallId) (call : TcpCall) (c : ConnId) : ConnPool :=
  match buildQuery call.query.txid call.query.qname call.query.qtype with
  | .error e => s.setPhase id call (.returned (.badQuery e))
  | .ok payload => s.setPhase id call (.waiting c payload)

/-- A new connection goes into the table, unless another call was faster. -/
def getOrOpen (s : ConnPool) (id : CallId) (call : TcpCall) : ConnPool :=
  match s.entries.lookup call.key with
  | some c => { s with conns := s.conns ++ [PooledConn.new] }.beginQuery id call c
  | none =>
    { s with
      conns := s.conns ++ [PooledConn.new]
      entries := s.entries.insert call.key s.conns.length }.beginQuery id call s.conns.length

/-- What becomes of a call that has a frame: a reply that does not match removes the key from the
table, one that does not decode does not. -/
def conclude (query : Query) (data : Bytes) : TcpPhase :=
  match decodeMessage data with
  | .error _ => .returned (.replied data)
  | .ok msg =>
    if validateReply msg query.txid (normalizeQname query.qname) then .returned (.replied data)
    else .evicting (.replied data)

def readOneFrame (s : ConnPool) (id : CallId) (call : TcpCall) (c : ConnId) (payload : Bytes)
    (conn : PooledConn) : ConnPool :=
  match tryReadTcpFrame conn.rxBuf with
  | none => (s.setConn c conn).setPhase id call (.receiving c payload)
  | some (data, rest) =>
    (s.setConn c { conn with rxBuf := rest, holder := none }).setPhase id call
      (conclude call.query data)

/-- The lock is given back without a reply. -/
def giveUp (s : ConnPool) (id : CallId) (call : TcpCall) (c : ConnId) (conn : PooledConn)
    (outcome : Outcome) : ConnPool :=
  (s.setConn c { conn with holder := none }).setPhase id call (.evicting outcome)

/-- What a call does while it holds the lock of `conn`. -/
def actLocked (s : ConnPool) (id : CallId) (call : TcpCall) (c : ConnId) (payload : Bytes)
    (conn : PooledConn) : CallAct → ConnPool
  | .send =>
    s.readOneFrame id call c payload
      { conn with
        outbound := conn.outbound ++ writeTcpFrame payload
        asked := conn.asked ++ [id] }
  | .sendFailed reason => s.giveUp id call c conn (.sendFailed reason)
  | .timeout => s.giveUp id call c conn .timedOut
  | _ => s

def actReceiving (s : ConnPool) (id : CallId) (call : TcpCall) (c : ConnId) (payload : Bytes)
    (conn : PooledConn) : CallAct → ConnPool
  | .recv count =>
    s.readOneFrame id call c payload
      { conn with
        rxBuf := conn.rxBuf ++ conn.inbound.take count
        inbound := conn.inbound.drop count }
  | .recvClosed =>
    if conn.closed && conn.inbound.isEmpty then s.giveUp id call c conn .streamClosed else s
  | .timeout => s.giveUp id call c conn .timedOut
  | _ => s

/-- A call takes its turn; what is not possible in its phase does nothing. -/
def act (s : ConnPool) (id : CallId) (call : TcpCall) (a : CallAct) : ConnPool :=
  match call.phase, a with
  | .looking, .lookup =>
    match s.entries.lookup call.key with
    | some c => s.beginQuery id call c
    | none => s.setPhase id call .opening
  | .opening, .opened => s.getOrOpen id call
  | .opening, .openFailed e => s.setPhase id call (.returned (.openFailed e))
  | .waiting c payload, .lock =>
    match s.conns[c]? with
    | none => s
    | some conn =>
      if conn.holder = none then
        (s.setConn c { conn with holder := some id }).setPhase id call (.locked c payload)
      else s
  | .waiting _ _, .timeout => s.setPhase id call (.evicting .timedOut)
  | .locked c payload, a =>
    match s.conns[c]? with
    | none => s
    | some conn => s.actLocked id call c payload conn a
  | .receiving c payload, a =>
    match s.conns[c]? with
    | none => s
    | some conn => s.actReceiving id call c payload conn a
  | .evicting outcome, .evict =>
    { s with entries := s.entries.erase call.key }.setPhase id call (.returned outcome)
  | _, _ => s

def next (s : ConnPool) : PoolStep → ConnPool
  | .start id key query budget =>
    match s.calls.lookup id with
    | some _ => s
    | none => { s with calls := s.calls.insert id ⟨key, query, budget, .looking⟩ }
  | .act id a =>
    match s.calls.lookup id with
    | some call => s.act id call a
    | none => s
  | .serve c reply => { s with conns := s.conns.modify c (·.serve reply) }
  | .close c => { s with conns := s.conns.modify c fun conn => { conn with closed := true } }

def step (s : ConnPool) (i : PoolStep) : ConnPool × Unit := (s.next i, ())

end ConnPool

/-! ## Frames -/

lemma take_two_writeTcpFrame (h : msg.length ≤ 65535) :
    ofBeBytes ((writeTcpFrame msg).take 2) = msg.length := by
  have hlen : (UInt16.ofNat msg.length).toNat = msg.length := by
    rw [UInt16.toNat_ofNat']
    omega
  rw [writeTcpFrame, take_left' (length_u16be _), u16be, hlen, ofBeBytes_beBytes (by omega)]

lemma length_writeTcpFrame (msg : Bytes) : (writeTcpFrame msg).length = 2 + msg.length := by
  rw [writeTcpFrame, length_append, length_u16be]

lemma drop_two_writeTcpFrame (msg : Bytes) : (writeTcpFrame msg).drop 2 = msg :=
  drop_left' (length_u16be _)

lemma tryReadTcpFrame_writeTcpFrame (h : msg.length ≤ 65535) :
    tryReadTcpFrame (writeTcpFrame msg) = some (msg, []) := by
  have hlen := length_writeTcpFrame msg
  simp only [tryReadTcpFrame, take_two_writeTcpFrame h]
  rw [if_neg (by omega), if_neg (by omega), drop_two_writeTcpFrame, take_length,
    drop_eq_nil_of_le (by omega)]

lemma tryReadTcpFrame_of_append (h : msg.length ≤ 65535)
    (hsplit : front ++ back = writeTcpFrame msg) (hback : back ≠ []) :
    tryReadTcpFrame front = none := by
  have hlen : front.length + back.length = 2 + msg.length := by
    rw [← length_append, hsplit, length_writeTcpFrame]
  have hpos := length_pos_iff.mpr hback
  rw [tryReadTcpFrame]
  split_ifs with hshort
  · rfl
  · have htake : front.take 2 = (writeTcpFrame msg).take 2 := by
      rw [← hsplit, take_append_of_le_length (by omega)]
    simp only [htake, take_two_writeTcpFrame h]
    rw [if_pos (by omega)]

/-! ## The reply to a query -/

def Query.framed (query : Query) : Bool :=
  match Dns.Name.fromAscii query.qname.toList,
    buildQuery query.txid query.qname query.qtype with
  | .ok name, .ok payload =>
    decide (textName name.labels = name) && decide (payload.length ≤ 65535)
  | _, _ => false

def answersFrame (frame reply : Bytes) : Bool :=
  match decodeMessage frame, decodeMessage reply with
  | .ok query, .ok msg =>
    decide (msg.header.id = query.header.id ∧
      msg.questions.map name = query.questions.map name ∧
      reply.length ≤ 65535)
  | _, _ => false

lemma Query.framed_spec (h : query.framed = true) :
    ∃ payload msg, buildQuery query.txid query.qname query.qtype = .ok payload ∧
      payload.length ≤ 65535 ∧ decodeMessage payload = .ok msg ∧
      msg.header.id = query.txid ∧
      ∃ name, name.canonical = normalizeQname query.qname ∧
        msg.questions.map Dns.Question.name = [name] := by
  rw [framed] at h
  split at h
  case h_2 => cases h
  case h_1 name payload hname hpay =>
    rw [Bool.and_eq_true, decide_eq_true_iff, decide_eq_true_iff] at h
    obtain ⟨hlower, hcan⟩ := fromAscii_eq_ok hname
    have hencode : encodeMessage (queryMessage query.txid name query.qtype) = .ok payload := by
      obtain ⟨name', hname', hencode⟩ := bind_eq_ok.mp hpay
      rw [hname] at hname'
      cases ok.inj hname'
      exact mapError_eq_ok.mp hencode
    have hwell : (queryMessage query.txid name query.qtype).WellFormed := by
      obtain ⟨hcnt, qs, -, -, -, hqs, -⟩ := encodeMessage_eq_ok.mp hencode
      obtain ⟨bs, hques, -⟩ := bind_eq_ok.mp hqs
      obtain ⟨out, hout, -⟩ := bind_eq_ok.mp hques
      refine ⟨hcnt, ?_, ?_⟩
      · exact forall_mem_singleton.mpr (hlower.wellMade h.1 hout)
      · exact forall_mem_singleton.mpr (.opt ednsUdpPayloadSize 0 0 0 (Nat.zero_le _))
    refine ⟨payload, _, hpay, h.2, hwell.decodes hencode, rfl, name, ?_, rfl⟩
    rw [← String.toList_inj, hcan, toList_normalizeQname]

lemma accepted_of_answersFrame (h : query.framed = true)
    (hpay : buildQuery query.txid query.qname query.qtype = .ok payload)
    (hans : answersFrame payload reply = true) :
    reply.length ≤ 65535 ∧ ∃ msg, decodeMessage reply = .ok msg ∧
      validateReply msg query.txid (normalizeQname query.qname) = true := by
  obtain ⟨payload', asked, hpay', -, hdec, hid, name, hname, hqs⟩ := query.framed_spec h
  cases ok.inj (hpay.symm.trans hpay')
  rw [answersFrame, hdec] at hans
  cases hreply : decodeMessage reply with
  | error e =>
    rw [hreply] at hans
    cases hans
  | ok msg =>
    rw [hreply] at hans
    obtain ⟨hsame, hnames, hlen⟩ := of_decide_eq_true hans
    refine ⟨hlen, msg, rfl, ?_⟩
    rw [hqs] at hnames
    obtain ⟨q, hq, rfl⟩ := map_eq_singleton_iff.mp hnames
    rw [validateReply, if_neg (not_not.mpr (hsame.trans hid)), hq]
    exact beq_iff_eq.mpr hname

/-! ## Careful runs -/

/-- Nothing is on its way and nothing is left over from an earlier call. -/
def PooledConn.clean (conn : PooledConn) : Bool :=
  conn.outbound.isEmpty && conn.inbound.isEmpty && conn.rxBuf.isEmpty

namespace ConnPool

def awaited (s : ConnPool) (id : CallId) : Option PooledConn := do
  let call ← s.calls.lookup id
  match call.phase with
  | .waiting c _ => s.conns[c]?
  | _ => none

/-- Queries are framed, and a lock is taken only where nothing is owed to a call that gave up. -/
def careful (s : ConnPool) : PoolStep → Bool
  | .start _ _ query _ => query.framed
  | .act id .lock => (s.awaited id).all (·.clean)
  | _ => true

def serving (s : ConnPool) : PoolStep → Bool
  | .serve c reply =>
    (s.conns[c]?.bind fun conn => tryReadTcpFrame conn.outbound).all fun frame =>
      answersFrame frame.1 reply
  | _ => true

end ConnPool

def Outcome.lost : Outcome → Bool
  | .openFailed _ => true
  | .timedOut => true
  | .sendFailed _ => true
  | .streamClosed => true
  | .badQuery _ => false
  | .replied _ => false

/-- The reply is what the server answered to the query of the call, on the connection on which
it was sent. -/
def OwnReply (conns : List PooledConn) (id : CallId) (data : Bytes) : Prop :=
  ∃ (c : ConnId) (conn : PooledConn) (n : Nat), conns[c]? = some conn ∧
    conn.asked[n]? = some id ∧ conn.answers[n]? = some data

/-! ## The invariant -/

/-- Every query was answered, or the last one is on its way. -/
inductive PooledConn.Settled (conn : PooledConn) : Prop where
  | idle (hout : conn.outbound = []) (hlen : conn.answers.length = conn.asked.length)
  | busy {payload : Bytes} (hframe : payload.length ≤ 65535)
      (hout : conn.outbound = writeTcpFrame payload)
      (hlen : conn.answers.length + 1 = conn.asked.length)

lemma PooledConn.clean_iff {conn : PooledConn} :
    conn.clean = true ↔ conn.outbound = [] ∧ conn.inbound = [] ∧ conn.rxBuf = [] := by
  rw [clean, Bool.and_eq_true, Bool.and_eq_true, List.isEmpty_iff, List.isEmpty_iff,
    List.isEmpty_iff, and_assoc]

lemma writeTcpFrame_ne_nil : writeTcpFrame msg ≠ [] :=
  ne_nil_of_length_pos (by rw [length_writeTcpFrame]; omega)

lemma PooledConn.Settled.of_eq {conn conn' : PooledConn} (h : conn.Settled)
    (hout : conn'.outbound = conn.outbound) (hasked : conn'.asked = conn.asked)
    (hans : conn'.answers = conn.answers) : conn'.Settled := by
  cases h with
  | idle hidle hlen => exact .idle (hout.trans hidle) (by rw [hans, hasked, hlen])
  | busy hframe hbusy hlen => exact .busy hframe (hout.trans hbusy) (by rw [hans, hasked, hlen])

lemma PooledConn.Settled.length_of_idle {conn : PooledConn} (h : conn.Settled)
    (hout : conn.outbound = []) : conn.answers.length = conn.asked.length := by
  cases h with
  | idle _ hlen => exact hlen
  | busy _ hframe _ => exact absurd (hframe.symm.trans hout) writeTcpFrame_ne_nil

/-- The query of a call is on its way, or the answer to it. -/
inductive PooledConn.Exchanging (conn : PooledConn) (id : CallId) (payload : Bytes) : Prop where
  | asking {past : List CallId} (hasked : conn.asked = past ++ [id])
      (hanswers : conn.answers.length = past.length)
      (hout : conn.outbound = writeTcpFrame payload) (hin : conn.inbound = [])
      (hrx : conn.rxBuf = [])
  | answered {past : List CallId} {before : List Bytes} {reply : Bytes}
      (hasked : conn.asked = past ++ [id]) (hanswers : conn.answers = before ++ [reply])
      (hlen : before.length = past.length) (hout : conn.outbound = [])
      (hreply : answersFrame payload reply = true)
      (hrx : conn.rxBuf ++ conn.inbound = writeTcpFrame reply)

/-- What holds of a call in each phase. -/
inductive PhaseOk (conns : List PooledConn) (id : CallId) (query : Query) : TcpPhase → Prop where
  | looking : PhaseOk conns id query .looking
  | opening : PhaseOk conns id query .opening
  | waiting {c : ConnId} {payload : Bytes}
      (hquery : buildQuery query.txid query.qname query.qtype = .ok payload) :
      PhaseOk conns id query (.waiting c payload)
  | locked {c : ConnId} {payload : Bytes} {conn : PooledConn}
      (hquery : buildQuery query.txid query.qname query.qtype = .ok payload)
      (hconn : conns[c]? = some conn) (hholder : conn.holder = some id)
      (hclean : conn.clean = true) : PhaseOk conns id query (.locked c payload)
  | receiving {c : ConnId} {payload : Bytes} {conn : PooledConn}
      (hquery : buildQuery query.txid query.qname query.qtype = .ok payload)
      (hconn : conns[c]? = some conn) (hholder : conn.holder = some id)
      (hexchange : conn.Exchanging id payload) : PhaseOk conns id query (.receiving c payload)
  | evicting {outcome : Outcome} (hlost : outcome.lost = true) :
      PhaseOk conns id query (.evicting outcome)
  | gone {outcome : Outcome} (hlost : outcome.lost = true) :
      PhaseOk conns id query (.returned outcome)
  | replied {data : Bytes} {msg : Dns.Message} (hown : OwnReply conns id data)
      (hdecode : decodeMessage data = .ok msg)
      (hvalid : validateReply msg query.txid (normalizeQname query.qname) = true) :
      PhaseOk conns id query (.returned (.replied data))

structure ConnPool.Sound (s : ConnPool) : Prop where
  conns : ∀ conn ∈ s.conns, conn.Settled
  calls : ∀ id call, s.calls.lookup id = some call →
    call.query.framed = true ∧ PhaseOk s.conns id call.query call.phase

/-! ## Turns of a call -/

/-- What a turn of the call `id` leaves of the connections: what was asked and answered, and those
that others hold. -/
def TurnOf (id : CallId) (conns conns' : List PooledConn) : Prop :=
  ∀ (c : ConnId) (conn : PooledConn), conns[c]? = some conn →
    ∃ conn' : PooledConn, conns'[c]? = some conn' ∧ conn.asked <+: conn'.asked ∧
      conn.answers <+: conn'.answers ∧ ∀ id' ≠ id, conn.holder = some id' → conn' = conn

lemma getElem?_of_isPrefix {l l' : List α} {n : Nat} {a : α} (h : l <+: l')
    (ha : l[n]? = some a) : l'[n]? = some a := by
  obtain ⟨rest, rfl⟩ := h
  rw [List.getElem?_append_left (List.getElem?_eq_some_iff.mp ha).1, ha]

lemma OwnReply.mono {id : CallId} (h : OwnReply conns id data)
    (hconns : ∀ (c : ConnId) (conn : PooledConn), conns[c]? = some conn →
      ∃ conn' : PooledConn, conns'[c]? = some conn' ∧ conn.asked <+: conn'.asked ∧
        conn.answers <+: conn'.answers) : OwnReply conns' id data := by
  obtain ⟨c, conn, n, hconn, hasked, hansw⟩ := h
  obtain ⟨conn', hconn', hmore, hmore'⟩ := hconns c conn hconn
  exact ⟨c, conn', n, hconn', getElem?_of_isPrefix hmore hasked, getElem?_of_isPrefix hmore' hansw⟩

/-- What a step of the server leaves of a connection. -/
structure PooledConn.Keeps (conn conn' : PooledConn) : Prop where
  holder : conn'.holder = conn.holder
  asked : conn.asked <+: conn'.asked
  answers : conn.answers <+: conn'.answers
  settled : conn.Settled → conn'.Settled
  clean : conn.clean = true → conn'.clean = true
  exchanging : ∀ id payload, conn.Exchanging id payload → conn'.Exchanging id payload

lemma PooledConn.Keeps.refl (conn : PooledConn) : conn.Keeps conn :=
  ⟨rfl, prefix_rfl, prefix_rfl, id, id, fun _ _ => id⟩

/-- A call needs the record of every connection, and the state of the one that it holds. -/
lemma PhaseOk.mono {id : CallId} (h : PhaseOk conns id query phase)
    (hheld : ∀ (c : ConnId) (conn : PooledConn), conns[c]? = some conn → conn.holder = some id →
      ∃ conn', conns'[c]? = some conn' ∧ conn.Keeps conn')
    (hconns : ∀ (c : ConnId) (conn : PooledConn), conns[c]? = some conn →
      ∃ conn' : PooledConn, conns'[c]? = some conn' ∧ conn.asked <+: conn'.asked ∧
        conn.answers <+: conn'.answers) : PhaseOk conns' id query phase := by
  cases h with
  | looking => exact .looking
  | opening => exact .opening
  | waiting hquery => exact .waiting hquery
  | locked hquery hconn hhold hclean =>
    obtain ⟨conn', hconn', hkeep⟩ := hheld _ _ hconn hhold
    exact .locked hquery hconn' (hkeep.holder.trans hhold) (hkeep.clean hclean)
  | receiving hquery hconn hhold hexch =>
    obtain ⟨conn', hconn', hkeep⟩ := hheld _ _ hconn hhold
    exact .receiving hquery hconn' (hkeep.holder.trans hhold)
      (hkeep.exchanging _ _ hexch)
  | evicting hlost => exact .evicting hlost
  | gone hlost => exact .gone hlost
  | replied hown hdec hvalid => exact .replied (hown.mono hconns) hdec hvalid

lemma PhaseOk.of_turn {id id' : CallId} (h : PhaseOk conns id' query phase)
    (hturn : TurnOf id conns conns') (hne : id' ≠ id) : PhaseOk conns' id' query phase := by
  refine h.mono (fun c conn hconn hhold => ?_) fun c conn hconn => ?_
  all_goals obtain ⟨conn', hconn', hasked, hans, hsame⟩ := hturn c conn hconn
  · cases hsame id' hne hhold
    exact ⟨conn, hconn', .refl conn⟩
  · exact ⟨conn', hconn', hasked, hans⟩

lemma TurnOf.refl (id : CallId) (conns : List PooledConn) : TurnOf id conns conns :=
  fun _ conn hconn => ⟨conn, hconn, prefix_rfl, prefix_rfl, fun _ _ _ => rfl⟩

lemma TurnOf.opened (id : CallId) (conns : List PooledConn) :
    TurnOf id conns (conns ++ [PooledConn.new]) := by
  intro c conn hconn
  refine ⟨conn, ?_, prefix_rfl, prefix_rfl, fun _ _ _ => rfl⟩
  rw [List.getElem?_append_left (List.getElem?_eq_some_iff.mp hconn).1, hconn]

lemma TurnOf.set {id : CallId}
    (hconn : conns[c]? = some conn) (hfree : ∀ id' ≠ id, conn.holder ≠ some id')
    (hasked : conn.asked <+: conn'.asked) (hans : conn.answers <+: conn'.answers) :
    TurnOf id conns (conns.set c conn') := by
  intro d other hother
  by_cases hd : c = d
  · subst hd
    cases Option.some.inj (hconn.symm.trans hother)
    refine ⟨conn', ?_, hasked, hans, fun id' hne hheld => absurd hheld (hfree id' hne)⟩
    rw [List.getElem?_set_self (List.getElem?_eq_some_iff.mp hconn).1]
  · refine ⟨other, ?_, prefix_rfl, prefix_rfl, fun _ _ _ => rfl⟩
    rw [getElem?_set_ne hd, hother]

namespace ConnPool
variable {s : ConnPool}

lemma Sound.setPhase {s' : ConnPool} (h : s.Sound) {id : CallId} {call : TcpCall}
    (hlook : s.calls.lookup id = some call) (hcalls : s'.calls = s.calls)
    (hturn : TurnOf id s.conns s'.conns) (hconns : ∀ conn ∈ s'.conns, conn.Settled)
    {phase : TcpPhase} (hphase : PhaseOk s'.conns id call.query phase) :
    (s'.setPhase id call phase).Sound := by
  refine ⟨hconns, fun id' call' hlook' => ?_⟩
  rw [ConnPool.setPhase, Table.lookup_insert_if, hcalls] at hlook'
  split_ifs at hlook' with hid
  · subst hid
    cases Option.some.inj hlook'
    exact ⟨(h.calls id' call hlook).1, hphase⟩
  · obtain ⟨hframed, hother⟩ := h.calls id' call' hlook'
    exact ⟨hframed, hother.of_turn hturn hid⟩

open Sound

lemma Sound.setPhase_self (h : s.Sound) {id : CallId} (hlook : s.calls.lookup id = some call)
    (hphase : PhaseOk s.conns id call.query phase) : (s.setPhase id call phase).Sound :=
  h.setPhase hlook rfl (TurnOf.refl _ _) h.conns hphase

lemma Sound.setConn (h : s.Sound) {id : CallId} {call : TcpCall}
    (hlook : s.calls.lookup id = some call) {c : ConnId} {conn conn' : PooledConn}
    (hconn : s.conns[c]? = some conn) (hfree : ∀ id' ≠ id, conn.holder ≠ some id')
    (hasked : conn.asked <+: conn'.asked) (hans : conn.answers <+: conn'.answers)
    (hsett : conn'.Settled) {phase : TcpPhase} (hphase : (s.conns.set c conn')[c]? = some conn' →
      PhaseOk (s.conns.set c conn') id call.query phase) :
    ((s.setConn c conn').setPhase id call phase).Sound := by
  refine @setPhase s (s.setConn c conn') h id call hlook rfl
    (TurnOf.set hconn hfree hasked hans) ?_ phase (hphase ?_)
  · intro other hother
    rcases mem_or_eq_of_mem_set hother with hold | rfl
    · exact h.conns other hold
    · exact hsett
  · rw [List.getElem?_set_self (List.getElem?_eq_some_iff.mp hconn).1]

lemma Sound.beginQuery {s' : ConnPool} (h : s.Sound) {id : CallId} {call : TcpCall}
    (hlook : s.calls.lookup id = some call) (hcalls : s'.calls = s.calls)
    (hturn : TurnOf id s.conns s'.conns) (hconns : ∀ conn ∈ s'.conns, conn.Settled) (c : ConnId) :
    (s'.beginQuery id call c).Sound := by
  obtain ⟨payload, -, hpay, -⟩ := call.query.framed_spec (h.calls id call hlook).1
  rw [ConnPool.beginQuery, hpay]
  exact h.setPhase hlook hcalls hturn hconns (.waiting hpay)

lemma settled_new : PooledConn.new.Settled := .idle rfl rfl

lemma Sound.getOrOpen (h : s.Sound) {id : CallId}
    (hlook : s.calls.lookup id = some call) : (s.getOrOpen id call).Sound := by
  have hconns : ∀ conn ∈ s.conns ++ [PooledConn.new], conn.Settled :=
    forall_mem_append.mpr ⟨h.conns, forall_mem_singleton.mpr settled_new⟩
  rw [ConnPool.getOrOpen]
  cases s.entries.lookup call.key with
  | some c =>
    exact @beginQuery s { s with conns := s.conns ++ [PooledConn.new] } h id call hlook
      rfl (TurnOf.opened id s.conns) hconns c
  | none =>
    exact @beginQuery s ⟨s.entries.insert call.key s.conns.length,
      s.conns ++ [PooledConn.new], s.calls⟩ h id call hlook rfl (TurnOf.opened id s.conns)
      hconns s.conns.length

lemma Sound.giveUp (h : s.Sound) {id : CallId} (hlook : s.calls.lookup id = some call)
    (hconn : s.conns[c]? = some conn) (hhold : conn.holder = some id)
    (hlost : outcome.lost = true) : (s.giveUp id call c conn outcome).Sound := by
  have hsett := h.conns conn (mem_of_getElem? hconn)
  refine @setConn s h id call hlook c conn { conn with holder := none } hconn ?_
    prefix_rfl prefix_rfl (hsett.of_eq rfl rfl rfl) _ fun _ => .evicting hlost
  intro id' hne hheld
  exact hne (Option.some.inj (hheld.symm.trans hhold))

lemma conclude_eq (hdec : decodeMessage data = .ok msg)
    (hvalid : validateReply msg query.txid (normalizeQname query.qname) = true) :
    conclude query data = .returned (.replied data) := by
  rw [conclude, hdec]
  exact if_pos hvalid

lemma Sound.readOneFrame (h : s.Sound) {id : CallId} {call : TcpCall}
    (hlook : s.calls.lookup id = some call) {c : ConnId} {payload : Bytes}
    (hquery : buildQuery call.query.txid call.query.qname call.query.qtype = .ok payload)
    {conn conn' : PooledConn} (hconn : s.conns[c]? = some conn) (hhold : conn.holder = some id)
    (hasked : conn.asked <+: conn'.asked) (hanswers : conn.answers <+: conn'.answers)
    (hhold' : conn'.holder = some id) (hsett : conn'.Settled)
    (hexch : conn'.Exchanging id payload) : (s.readOneFrame id call c payload conn').Sound := by
  have hfree : ∀ id' ≠ id, conn.holder ≠ some id' := fun id' hne hheld =>
    hne (Option.some.inj (hheld.symm.trans hhold))
  have hmore : tryReadTcpFrame conn'.rxBuf = none →
      (s.readOneFrame id call c payload conn').Sound := by
    intro hnone
    rw [ConnPool.readOneFrame, hnone]
    exact h.setConn hlook hconn hfree hasked hanswers hsett fun hself =>
      .receiving hquery hself hhold' hexch
  cases hexch with
  | asking hask hlen hout hin hrx =>
    refine hmore ?_
    rw [hrx]
    rfl
  | @answered past before reply hask hans hlen hout hreply hrx =>
    obtain ⟨hfits, msg, hdec, hvalid⟩ :=
      accepted_of_answersFrame (h.calls id call hlook).1 hquery hreply
    by_cases hin : conn'.inbound = []
    · rw [hin, append_nil] at hrx
      rw [ConnPool.readOneFrame, hrx, tryReadTcpFrame_writeTcpFrame hfits]
      refine @setConn s h id call hlook c conn
        { conn' with rxBuf := [], holder := none } hconn hfree hasked hanswers ?_ _ fun hself => ?_
      · refine .idle hout ?_
        rw [hask, hans, length_append, length_append, hlen]
        rfl
      · rw [conclude_eq hdec hvalid]
        refine .replied ⟨c, _, past.length, hself, ?_, ?_⟩ hdec hvalid
        · rw [hask, getElem?_concat_length]
        · rw [hans, ← hlen, getElem?_concat_length]
    · exact hmore (tryReadTcpFrame_of_append hfits hrx hin)

lemma Sound.actLocked (h : s.Sound) {id : CallId} (hlook : s.calls.lookup id = some call)
    (hquery : buildQuery call.query.txid call.query.qname call.query.qtype = .ok payload)
    (hconn : s.conns[c]? = some conn) (hhold : conn.holder = some id)
    (hclean : conn.clean = true) (a : CallAct) : (s.actLocked id call c payload conn a).Sound := by
  cases a with
  | send =>
    obtain ⟨hout, hin, hrx⟩ := clean_iff.mp hclean
    obtain ⟨payload', -, hpay', hfits, -⟩ := call.query.framed_spec (h.calls id call hlook).1
    cases ok.inj (hquery.symm.trans hpay')
    have hlen := (h.conns conn (mem_of_getElem? hconn)).length_of_idle hout
    refine @readOneFrame s h id call hlook c payload hquery conn
      { conn with
        outbound := conn.outbound ++ writeTcpFrame payload
        asked := conn.asked ++ [id] }
      hconn hhold (prefix_append _ _) prefix_rfl hhold ?_ ?_
    · refine .busy hfits (by rw [hout, nil_append]) ?_
      rw [length_append, hlen]
      rfl
    · exact .asking rfl hlen (by rw [hout, nil_append]) hin hrx
  | sendFailed reason => exact h.giveUp hlook hconn hhold rfl
  | timeout => exact h.giveUp hlook hconn hhold rfl
  | _ => exact h

lemma Sound.actReceiving (h : s.Sound) {id : CallId} (hlook : s.calls.lookup id = some call)
    (hquery : buildQuery call.query.txid call.query.qname call.query.qtype = .ok payload)
    (hconn : s.conns[c]? = some conn) (hhold : conn.holder = some id)
    (hexch : conn.Exchanging id payload) (a : CallAct) :
    (s.actReceiving id call c payload conn a).Sound := by
  cases a with
  | recv count =>
    refine @readOneFrame s h id call hlook c payload hquery conn
      { conn with
        rxBuf := conn.rxBuf ++ conn.inbound.take count
        inbound := conn.inbound.drop count }
      hconn hhold prefix_rfl prefix_rfl hhold ?_ ?_
    · exact (h.conns conn (mem_of_getElem? hconn)).of_eq rfl rfl rfl
    · cases hexch with
      | asking hask hlen hout hin hrx =>
        exact .asking hask hlen hout (by rw [hin, drop_nil])
          (by rw [hin, hrx, take_nil]; rfl)
      | answered hask hans hlen hout hreply hrx =>
        refine .answered hask hans hlen hout hreply ?_
        rw [append_assoc, take_append_drop, hrx]
  | recvClosed =>
    rw [ConnPool.actReceiving]
    split_ifs
    · exact h.giveUp hlook hconn hhold rfl
    · exact h
  | timeout => exact h.giveUp hlook hconn hhold rfl
  | _ => exact h

lemma Sound.lock (h : s.Sound) {id : CallId} (hlook : s.calls.lookup id = some call)
    (hquery : buildQuery call.query.txid call.query.qname call.query.qtype = .ok payload)
    (hconn : s.conns[c]? = some conn) (hhold : conn.holder = none) (hclean : conn.clean = true) :
    ((s.setConn c { conn with holder := some id }).setPhase id call (.locked c payload)).Sound := by
  refine @setConn s h id call hlook c conn { conn with holder := some id } hconn ?_
    prefix_rfl prefix_rfl ?_ _ fun hself => .locked hquery hself rfl hclean
  · intro id' _ hheld
    cases hheld.symm.trans hhold
  · obtain ⟨hout, -, -⟩ := clean_iff.mp hclean
    exact .idle hout ((h.conns conn (mem_of_getElem? hconn)).length_of_idle hout)

lemma Sound.act (h : s.Sound) {id : CallId} (hlook : s.calls.lookup id = some call)
    (hcar : s.careful (.act id a) = true) : (s.act id call a).Sound := by
  obtain ⟨-, hok⟩ := h.calls id call hlook
  fun_cases ConnPool.act s id call a with
  | case1 _ c _ => exact h.beginQuery hlook rfl (TurnOf.refl _ _) h.conns c
  | case2 => exact h.setPhase_self hlook .opening
  | case3 => exact h.getOrOpen hlook
  | case4 => exact h.setPhase_self hlook (.gone rfl)
  | case6 c payload hphase conn hconn hhold =>
    have hawait : s.awaited id = some conn := by
      rw [awaited, hlook]
      simp only [bind_eq_bind, bind_some, hphase, hconn]
    rw [careful, hawait] at hcar
    rw [hphase] at hok
    cases hok with
    | waiting hquery => exact h.lock hlook hquery hconn hhold hcar
  | case8 => exact h.setPhase_self hlook (.evicting rfl)
  | case10 c payload _ hphase conn hconn =>
    rw [hphase] at hok
    cases hok with
    | locked hquery hconn' hhold hclean =>
      cases Option.some.inj (hconn.symm.trans hconn')
      exact h.actLocked hlook hquery hconn hhold hclean a
  | case12 c payload _ hphase conn hconn =>
    rw [hphase] at hok
    cases hok with
    | receiving hquery hconn' hhold hexch =>
      cases Option.some.inj (hconn.symm.trans hconn')
      exact h.actReceiving hlook hquery hconn hhold hexch a
  | case13 outcome hphase =>
    rw [hphase] at hok
    cases hok with
    | evicting hlost =>
      exact @setPhase s { s with entries := s.entries.erase call.key } h id call hlook
        rfl (TurnOf.refl _ _) h.conns _ (.gone hlost)
  -- the connection is missing or held, or the call is in another phase
  | case5 | case7 | case9 | case11 | case14 => exact h

end ConnPool

/-! ## Steps of the server -/

lemma PooledConn.keeps_close (conn : PooledConn) : conn.Keeps { conn with closed := true } := by
  refine ⟨rfl, prefix_rfl, prefix_rfl, fun h => h.of_eq rfl rfl rfl, id, fun id payload h => ?_⟩
  cases h with
  | asking hask hlen hout hin hrx => exact .asking hask hlen hout hin hrx
  | answered hask hans hlen hout hreply hrx => exact .answered hask hans hlen hout hreply hrx

lemma PooledConn.keeps_serve {conn : PooledConn} (hsett : conn.Settled)
    (hserving : ∀ frame ∈ tryReadTcpFrame conn.outbound, answersFrame frame.1 reply = true) :
    conn.Keeps (conn.serve reply) := by
  cases hsett with
  | idle hout _ =>
    have hserve : conn.serve reply = conn := by
      rw [serve, hout]
      rfl
    rw [hserve]
    exact .refl conn
  | @busy payload hframe hout hlen =>
    have hread := tryReadTcpFrame_writeTcpFrame hframe
    have hne : conn.outbound ≠ [] := fun hnil => writeTcpFrame_ne_nil (hout.symm.trans hnil)
    rw [hout] at hserving
    rw [serve, hout, hread]
    split_ifs with hclos
    · exact .refl conn
    · refine ⟨rfl, prefix_rfl, prefix_append _ _, fun _ => ?_, fun hclean => ?_, fun id own h => ?_⟩
      · refine .idle rfl ?_
        rw [length_append, ← hlen]
        rfl
      · exact absurd (clean_iff.mp hclean).1 hne
      · cases h with
        | asking hask hlen' hout' hin hrx =>
          have hown : own = payload := by
            rw [← drop_two_writeTcpFrame own, ← hout', hout, drop_two_writeTcpFrame]
          have hreply : answersFrame payload reply = true :=
            hserving (payload, []) (mem_def.mpr hread)
          rw [hown]
          refine .answered hask rfl hlen' rfl hreply ?_
          show conn.rxBuf ++ (conn.inbound ++ writeTcpFrame reply) = _
          rw [hrx, hin, nil_append, nil_append]
        | answered _ _ _ hout' => exact absurd hout' hne

namespace ConnPool

lemma Sound.modify {s : ConnPool} (h : s.Sound)
    (hf : ∀ conn, s.conns[c]? = some conn → conn.Keeps (f conn)) :
    Sound { s with conns := s.conns.modify c f } := by
  have hkeeps : ∀ (d : ConnId) (conn : PooledConn), s.conns[d]? = some conn →
      ∃ conn', (s.conns.modify c f)[d]? = some conn' ∧ conn.Keeps conn' := by
    intro d conn hconn
    rw [getElem?_modify, hconn]
    by_cases hd : c = d
    · subst hd
      exact ⟨f conn, by simp, hf conn hconn⟩
    · exact ⟨conn, by simp [hd], .refl conn⟩
  refine ⟨fun conn hmem => ?_, fun id call hlook => ?_⟩
  · obtain ⟨d, hd⟩ := mem_iff_getElem?.mp hmem
    obtain ⟨old, hold⟩ : ∃ old, s.conns[d]? = some old := by
      have hlt := (List.getElem?_eq_some_iff.mp hd).1
      rw [length_modify] at hlt
      exact ⟨_, getElem?_eq_getElem hlt⟩
    obtain ⟨conn', hconn', hkeep⟩ := hkeeps d old hold
    cases Option.some.inj (hd.symm.trans hconn')
    exact hkeep.settled (h.conns old (mem_of_getElem? hold))
  · obtain ⟨hframed, hphase⟩ := h.calls id call hlook
    refine ⟨hframed, hphase.mono (fun d conn hconn _ => hkeeps d conn hconn) fun d conn hconn => ?_⟩
    obtain ⟨conn', hconn', hkeep⟩ := hkeeps d conn hconn
    exact ⟨conn', hconn', hkeep.asked, hkeep.answers⟩

lemma Sound.next {s : ConnPool} (h : s.Sound) {i : PoolStep} (hserving : s.serving i = true)
    (hcar : s.careful i = true) : (s.next i).Sound := by
  cases i with
  | start id key query budget =>
    rw [ConnPool.next]
    cases hlook : s.calls.lookup id with
    | some call => exact h
    | none =>
      refine ⟨h.conns, fun id' call hcall => ?_⟩
      rw [Table.lookup_insert_if] at hcall
      split_ifs at hcall with hid
      · cases Option.some.inj hcall
        exact ⟨hcar, .looking⟩
      · exact h.calls id' call hcall
  | act id a =>
    rw [ConnPool.next]
    cases hlook : s.calls.lookup id with
    | none => exact h
    | some call => exact h.act hlook hcar
  | serve c reply =>
    refine h.modify fun conn hconn => ?_
    refine keeps_serve (h.conns conn (mem_of_getElem? hconn)) fun frame hframe => ?_
    rw [serving, hconn, bind_some, mem_def.mp hframe] at hserving
    exact hserving
  | close c => exact h.modify fun conn _ => conn.keeps_close

end ConnPool

/-- In a careful run every call that did not time out and whose stream was open returns the
server's reply to its own query. -/
theorem pooled_call_answered (steps : List PoolStep)
    (hserving : Along step (fun _ s i => s.serving i = true) [] new steps)
    (hcareful : Along step (fun _ s i => s.careful i = true) [] new steps)
    (id : CallId) (call : TcpCall) (outcome : Outcome)
    (hcall : (run step new steps).1.calls.lookup id = some call)
    (hreturned : call.phase = .returned outcome) (hkept : outcome.lost = false) :
    ∃ data msg, outcome = .replied data ∧
      OwnReply (run step new steps).1.conns id data ∧
      decodeMessage data = .ok msg ∧
      outcome.result call.query call.budget = .ok msg := by
  have hnew : new.Sound := ⟨forall_mem_nil _, by rintro id call ⟨⟩⟩
  have hsound : (run step new steps).1.Sound := @run_invariant _ _ _ step (fun _ s => s.Sound) _
      (fun past s i hs hok => hs.next hok.1 hok.2) steps [] new hnew
      (hserving.and hcareful)
  obtain ⟨-, hphase⟩ := hsound.calls id call hcall
  rw [hreturned] at hphase
  cases hphase with
  | gone hlost => exact absurd (hlost.symm.trans hkept) (by decide)
  | @replied data msg hown hdec hvalid =>
    refine ⟨data, msg, rfl, hown, hdec, ?_⟩
    rw [result, acceptReply, hdec]
    show Except.map Prod.fst (if _ then _ else _) = _
    rw [if_pos hvalid]
    rfl

/-- The responses, without answers, to the questions for `a.` and `b.`. -/
def emptyAnswerA : Bytes :=
  [0, 7, 0x81, 0x80, 0, 1, 0, 0, 0, 0, 0, 0, 1, 97, 0, 0, 1, 0, 1]

def emptyAnswerB : Bytes :=
  [0, 8, 0x81, 0x80, 0, 1, 0, 0, 0, 0, 0, 0, 1, 98, 0, 0, 1, 0, 1]

def queryB : Query := ⟨8, "b", .a⟩

def poolKey : ConnKey := ⟨⟨.v4 0x0a000009, 53⟩, none⟩

/-- The first call opens a connection and sends its query; the second waits for the lock. -/
def sharedConn : List PoolStep :=
  [.start 0 poolKey queryA 1000, .act 0 .lookup, .act 0 .opened, .act 0 .lock, .act 0 .send,
    .start 1 poolKey queryB 1000, .act 1 .lookup]

/-- The first call gets its reply in two chunks, then the second gets its own. -/
def takenInTurns : List PoolStep :=
  sharedConn ++ [.serve 0 emptyAnswerA, .act 0 (.recv 5), .act 0 (.recv 100), .act 1 .lock,
    .act 1 .send, .serve 0 emptyAnswerB, .act 1 (.recv 100)]

theorem takenInTurns_answered :
    Along step (fun _ s i => s.serving i = true) [] new takenInTurns ∧
      Along step (fun _ s i => s.careful i = true) [] new takenInTurns ∧
      ∃ data msg, replied emptyAnswerB = .replied data ∧
        OwnReply (run step new takenInTurns).1.conns 1 data ∧
        decodeMessage data = .ok msg ∧
        (replied emptyAnswerB).result queryB 1000 = .ok msg := by
  have hserving : Along step (fun _ s i => s.serving i = true) [] new
      takenInTurns := by decide +kernel
  have hcar : Along step (fun _ s i => s.careful i = true) [] new
      takenInTurns := by decide +kernel
  have hcall : (run step new takenInTurns).1.calls.lookup 1 =
      some ⟨poolKey, queryB, 1000, .returned (.replied emptyAnswerB)⟩ := by decide +kernel
  exact ⟨hserving, hcar, pooled_call_answered takenInTurns hserving hcar 1 _ _ hcall rfl rfl⟩

/-- The first call times out after its query was sent; the second, which waited for the lock of
the same connection, gets the late reply. -/
def takenOver : List PoolStep :=
  sharedConn ++ [.act 0 .timeout, .act 0 .evict, .act 1 .lock, .act 1 .send,
    .serve 0 emptyAnswerA, .serve 0 emptyAnswerB, .act 1 (.recv 100), .act 1 .evict]

/-- The second call neither timed out nor was its stream closed, and it fails. -/
theorem late_reply_taken_over :
    Along step (fun _ s i => s.serving i = true) [] new takenOver ∧
      (run step new takenOver).1.conns.all (fun conn => !conn.closed) = true ∧
      (run step new takenOver).1.calls.lookup 1 =
        some ⟨poolKey, queryB, 1000, .returned (.replied emptyAnswerA)⟩ ∧
      (replied emptyAnswerA).lost = false ∧
      (replied emptyAnswerA).result queryB 1000 =
        .error (.io "TXID or QNAME mismatch (RFC 5452)") ∧
      ¬ OwnReply (run step new takenOver).1.conns 1 emptyAnswerA := by
  refine ⟨by decide +kernel, by decide +kernel, by decide +kernel, rfl, by decide +kernel, ?_⟩
  have hconns : ((run step new takenOver).1.conns.map
      fun conn => (conn.asked, conn.answers)) = [([0, 1], [emptyAnswerA, emptyAnswerB])] := by
    decide +kernel
  rintro ⟨c, conn, n, hconn, hasked, hansw⟩
  have hpair : some (conn.asked, conn.answers) =
      [([0, 1], [emptyAnswerA, emptyAnswerB])][c]? := by
    rw [← hconns, getElem?_map, hconn]
    rfl
  obtain ⟨hc, hget⟩ := List.getElem?_eq_some_iff.mp hpair.symm
  cases Nat.lt_one_iff.mp hc
  obtain ⟨hasks, hans⟩ := Prod.mk.inj hget
  rw [← hasks] at hasked
  rw [← hans] at hansw
  -- its query was the second one
  rcases n with _ | _ | n
  · cases hasked
  · exact absurd (Option.some.inj hansw) (by decide)
  · cases hasked

end MeshBus.Resolver
