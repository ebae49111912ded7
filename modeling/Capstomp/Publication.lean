import Capstomp.Delivery
import Capstomp.General.Broker
import Capstomp.TransactionNames

/-!
# What is published

A broker that reads the frames of a socket publishes the rows of a statement
with a transaction all together or not at all, and together only if every one
was sent; those of a statement without one it publishes as they come.  The
sockets are shared by statements of both kinds, one after the other, and a
transaction whose COMMIT was lost may still be open when the next one begins.
-/

namespace Capstomp

open General

def bytesOf (text : String) : List UInt8 :=
  text.toByteArray.data.toList

theorem bytesOf_inj {first second : String} :
    bytesOf first = bytesOf second ↔ first = second := by
  constructor
  · intro same
    refine String.toByteArray_inj.mp (ByteArray.ext ?_)
    exact Array.toList_inj.mp same
  · rintro rfl
    rfl

/-- The transaction a header names; a row may bring a header of its own. -/
def Header.within : Header → Option (List UInt8)
  | .transaction id => some (bytesOf id)
  | .pair key value =>
      if key = bytesOf "transaction" then some value else none
  | .timeSinceEpoch _ | .persistentOn | .contentTypeJson => none

/-- The first of repeated headers counts. -/
def withinOf (headers : List Header) : Option (List UInt8) :=
  headers.findSome? Header.within

/-- What a frame asks of the broker. -/
def Written.request (w : Written) : Request (List UInt8) Written :=
  match w.frame.body with
  | .logon _ _ _ => .logon
  | .begin id => .begin (bytesOf id)
  | .send _ headers _ => .message (withinOf headers) w
  | .commit id => .commit (bytesOf id)

/-- What is published by a broker that has read the frames that were written
to a socket completely. -/
def Connection.publishedOn (number : Nat) (c : Connection) : List Written :=
  publish ((c.framesOn number).map Written.request)

/-- No row brings a header that names a transaction. -/
def plainRows (_ : System) : Action → Prop
  | .content _ row _ _ _ => ∀ header ∈ row.headers, header.within = none
  | _ => True

section Headers

/-- The transaction of a SEND is the one of its connection. -/
theorem withinOf_contentHeaders {c : Connection} {now : Nat} {row : Row}
    (plain : ∀ header ∈ row.headers, header.within = none) :
    withinOf (contentHeaders c now (rowHeaders row)) =
      if c.withTransaction then some (bytesOf c.transactionId) else none := by
  have own : withinOf (rowHeaders row) = none := by
    refine List.findSome?_eq_none_iff.mpr ?_
    unfold rowHeaders
    split
    · exact plain
    · split
      · intro header member
        rcases List.mem_append.mp member with given | json
        · exact plain header given
        · rw [List.mem_singleton.mp json]
          rfl
      · exact plain
  rw [withinOf] at own
  simp only [withinOf, contentHeaders, List.findSome?_append, own,
    Option.none_or]
  cases c.conf.timestamp <;> cases c.conf.persistent <;>
    cases c.withTransaction <;> simp [Header.within]

end Headers

/-- The SENDs on the wire, with the transaction that they are in. -/
def Headed (s : System) : Prop :=
  ∀ c, ∀ w ∈ (s.connections c).written, ∀ destination headers payload,
    w.frame.body = .send destination headers payload →
      (∀ transaction, .transaction transaction ∈ headers →
        withinOf headers = some (bytesOf transaction)) ∧
      ∀ id, withinOf headers = some id →
        ∃ node, s.Created w.session node ∧
          id = bytesOf (transactionText node s.pool.name)

section Steps

variable {s after : System} {action : Action} {sid : SessionId}

/-- A SEND of a step is in the transaction of its session, if it has one. -/
theorem Headed.content (titles : Titles s) (ledger : Ledger s)
    (custody : Custody s) {row : Row} {now : Nat}
    (plain : ∀ header ∈ row.headers, header.within = none)
    (phase : (s.sessions sid).phase = .rows) :
    let headers := contentHeaders (s.own sid) now (rowHeaders row)
    (∀ transaction, .transaction transaction ∈ headers →
      withinOf headers = some (bytesOf transaction)) ∧
    ∀ id, withinOf headers = some id →
      ∃ node, s.Created (s.own sid).owner node ∧
        id = bytesOf (transactionText node s.pool.name) := by
  intro headers
  have within : withinOf headers = _ := withinOf_contentHeaders plain
  constructor
  · intro transaction member
    have isOwn : (s.own sid).withTransaction ∧
        transaction = (s.own sid).transactionId := by
      simp only [headers, contentHeaders, List.mem_append] at member
      rcases member with ((given | timestamp) | persistent) | own
      · have impossible : Header.within (.transaction transaction) = none := by
          unfold rowHeaders at given
          split at given
          · exact plain _ given
          · split at given
            · rcases List.mem_append.mp given with given | json
              · exact plain _ given
              · simp at json
            · exact plain _ given
        cases impossible
      · split at timestamp <;> simp at timestamp
      · split at persistent <;> simp at persistent
      · split at own
        · next begun => exact ⟨begun, by simpa using own⟩
        · simp at own
    rw [within, if_pos isOwn.1, isOwn.2]
  · intro id isId
    rw [within] at isId
    split at isId
    · next begun =>
        cases isId
        obtain ⟨transaction, member, _, isOwn⟩ :=
          custody.begun sid (by simp [phase, Phase.unfinished]) begun
        obtain ⟨node, created, text⟩ :=
          titles.named ledger custody (.inl member)
        have linked := custody.linked_store transaction member
        rw [isOwn] at created linked
        exact ⟨node, created,
          congrArg bytesOf (linked.id.trans text)⟩
    · cases isId

variable [QueryDecoding] [PassHash] [FrameBytes]

theorem Headed.step (headed : Headed s) (titles : Titles s)
    (custody : Custody s) (queue : Queue s) (ledger : Ledger s)
    (told : Told s) (plain : plainRows s action)
    (stepped : s.step action = some after) : Headed after := by
  have older : ∀ other node, s.Created other node →
      after.Created other node := by
    intro other node was
    rcases System.created_cases stepped with same | ⟨_, _, _, more⟩
    · exact (same other node).mpr was
    · exact (more other node).mpr (.inl was)
  intro c w member destination headers payload isSend
  have inTransaction : (∀ transaction, .transaction transaction ∈ headers →
        withinOf headers = some (bytesOf transaction)) ∧
      ∀ id, withinOf headers = some id →
        ∃ node, s.Created w.session node ∧
          id = bytesOf (transactionText node s.pool.name) := by
    rcases System.written_cases custody queue told stepped with
      same | ⟨x, new, writes, written, same⟩
    · exact headed c w (same c ▸ member) destination headers payload isSend
    · by_cases isHere : c = x
      · subst isHere
        rw [written, List.mem_append, List.mem_singleton] at member
        rcases member with old | rfl
        · exact headed c w old destination headers payload isSend
        · cases writes with
          | content phase isOpen =>
              cases isSend
              exact Headed.content titles ledger custody plain phase
          | _ => cases isSend
      · exact headed c w (same c isHere ▸ member) destination headers payload
          isSend
  refine ⟨inTransaction.1, fun id isId => ?_⟩
  obtain ⟨node, created, text⟩ := inTransaction.2 id isId
  exact ⟨node, older _ _ created, by rw [System.step_name stepped, text]⟩

theorem Runs.headed {name : String} (run : Runs plainRows name s) :
    Headed s := by
  refine Reaches.invariant run ?_ ?_
  · intro c w member
    simp [System.init] at member
  · intro before action after reached headed plain stepped
    exact headed.step (Runs.titles reached) (Runs.custody reached)
      (Runs.queue reached) (Runs.ledger reached) (Runs.told reached) plain
      stepped

end Steps

/-! ## One transaction among the frames of its socket -/

section Sequence

variable {frames : List Written} {transaction : String} {sends : List Body}
variable {w : Written}

theorem Written.carries_request (w : Written) :
    w.request.carries = if w.isSend then some w else none := by
  cases body : w.frame.body <;> simp [request, isSend, body, Request.carries]

/-- The messages of the requests are the SENDs. -/
theorem carries_requests (frames : List Written) :
    (frames.map Written.request).filterMap Request.carries =
      frames.filter Written.isSend := by
  rw [List.filterMap_map, ← List.filterMap_eq_filter]
  refine List.filterMap_congr fun w _ => ?_
  simp [Written.carries_request, Option.guard]

/-- A request that carries a message is the one of a SEND. -/
theorem send_of_carries {request : Request (List UInt8) Written}
    (member : request ∈ frames.map Written.request)
    (carried : request.carries = some w) :
    w ∈ frames ∧ w.isSend ∧ request = w.request := by
  obtain ⟨v, isFrame, rfl⟩ := List.mem_map.mp member
  rw [Written.carries_request] at carried
  split at carried
  · next isSend =>
      cases carried
      exact ⟨isFrame, isSend, rfl⟩
  · cases carried

theorem filter_unlogged (frames : List Written) :
    (frames.filter fun w => !w.frame.body.isLogon).filter Written.isSend =
      frames.filter Written.isSend := by
  rw [List.filter_filter]
  refine List.filter_congr fun w _ => ?_
  cases body : w.frame.body <;> simp [Written.isSend, body, Body.isLogon]

theorem transactionBodies_eq (frames : List Written) :
    transactionBodies frames =
      (frames.filter fun w => !w.frame.body.isLogon).map
        fun w => w.frame.body := by
  simp [transactionBodies, List.filter_map, Function.comp_def]

/-- A sequence in which there is a SEND begins with its BEGIN. -/
theorem begin_of_send
    (shape : transactionBodies frames <+:
      .begin transaction :: sends ++ [.commit transaction])
    (member : w ∈ frames) (isSend : w.isSend) :
    ∃ v ∈ frames, v.frame.body = .begin transaction := by
  have unlogged : w ∈ frames.filter fun w => !w.frame.body.isLogon := by
    refine List.mem_filter.mpr ⟨member, ?_⟩
    cases body : w.frame.body <;> simp_all [Written.isSend, Body.isLogon]
  rw [transactionBodies_eq] at shape
  cases first : frames.filter fun w => !w.frame.body.isLogon with
  | nil => simp [first] at unlogged
  | cons v rest =>
      rw [first, List.map_cons, List.cons_append, List.cons_prefix_cons]
        at shape
      have isFirst : v ∈ frames.filter fun w => !w.frame.body.isLogon :=
        first ▸ List.mem_cons_self
      exact ⟨v, (List.mem_filter.mp isFirst).1, shape.1⟩

/-- What there is in such a sequence. -/
theorem body_of_shape
    (shape : frames.map (fun w => w.frame.body) <+:
      .begin transaction :: sends ++ [.commit transaction])
    (member : w ∈ frames) :
    w.frame.body = .begin transaction ∨ w.frame.body ∈ sends ∨
      w.frame.body = .commit transaction := by
  simpa using shape.subset (List.mem_map_of_mem member)

/-- The frames of a sequence as requests. -/
theorem requests_prefix
    (shape : frames.map (fun w => w.frame.body) <+:
      .begin transaction :: sends ++ [.commit transaction])
    (isSend : ∀ w ∈ frames, w.frame.body ∈ sends → w.isSend)
    (within : ∀ w ∈ frames, w.isSend →
      w.request = .message (some (bytesOf transaction)) w) :
    frames.map Written.request <+:
      .begin (bytesOf transaction) ::
        (frames.filter Written.isSend).map
          (.message (some (bytesOf transaction))) ++
        [.commit (bytesOf transaction)] := by
  cases frames with
  | nil => exact List.nil_prefix
  | cons first frames =>
      rw [List.map_cons, List.cons_append, List.cons_prefix_cons] at shape
      obtain ⟨isBegin, shape⟩ := shape
      have begins : first.request = .begin (bytesOf transaction) := by
        simp [Written.request, isBegin]
      have notSend : first.isSend = false := by
        simp [Written.isSend, isBegin]
      rw [List.map_cons, begins, List.filter_cons_of_neg (by simp [notSend]),
        List.cons_append, List.cons_prefix_cons]
      refine ⟨rfl, ?_⟩
      have messages : ∀ some' ⊆ frames,
          (∀ w ∈ some', w.frame.body ∈ sends) →
          some'.filter Written.isSend = some' ∧
            some'.map Written.request =
              some'.map (.message (some (bytesOf transaction))) := by
        intro some' among areSends
        have send : ∀ w ∈ some', w.isSend := fun w member =>
          isSend w (List.mem_cons_of_mem _ (among member)) (areSends w member)
        exact ⟨List.filter_eq_self.mpr send, List.map_congr_left
          fun w member => within w (List.mem_cons_of_mem _ (among member))
            (send w member)⟩
      obtain ⟨rest, shape⟩ := shape
      rcases List.append_eq_append_iff.mp shape with
        ⟨left, areSends, _⟩ | ⟨left, bodies, committed⟩
      · obtain ⟨filtered, requests⟩ := messages frames (fun _ => id)
          fun w member => by
            rw [areSends]
            exact List.mem_append_left _ (List.mem_map_of_mem member)
        rw [filtered, requests]
        exact List.prefix_append _ _
      · cases left with
        | nil =>
            obtain ⟨filtered, requests⟩ := messages frames (fun _ => id)
              fun w member => by
                rw [← List.append_nil sends, ← bodies]
                exact List.mem_map_of_mem member
            rw [filtered, requests]
            exact List.prefix_append _ _
        | cons last left =>
            obtain ⟨rfl, rfl⟩ : last = .commit transaction ∧ left = [] := by
              cases left <;> simp_all
            obtain ⟨sent, end', rfl, isSent, isEnd⟩ :=
              List.map_eq_append_iff.mp bodies
            obtain ⟨commit, none, rfl, isCommit, isNone⟩ :=
              List.map_eq_cons_iff.mp isEnd
            rw [List.map_eq_nil_iff] at isNone
            subst isNone
            obtain ⟨filtered, requests⟩ := messages sent
              (List.subset_append_left _ _) fun w member => by
                rw [← isSent]
                exact List.mem_map_of_mem member
            have commits : commit.request =
                .commit (bytesOf transaction) := by
              simp [Written.request, isCommit]
            have notSend : commit.isSend = false := by
              simp [Written.isSend, isCommit]
            rw [List.filter_append, filtered,
              List.filter_cons_of_neg (by simp [notSend]), List.filter_nil,
              List.append_nil, List.map_append, requests, List.map_singleton,
              commits]

end Sequence

section Socket

variable {s : System} {sid : SessionId} {c : ConnId} {number : Nat}
variable {w : Written}

theorem mem_framesOn {c : Connection} :
    w ∈ c.framesOn number ↔ w ∈ c.written ∧ w.socket = number := by
  simp [Connection.framesOn]

theorem mem_framesOf {c : Connection} :
    w ∈ c.framesOf sid ↔ w ∈ c.written ∧ w.session = sid := by
  simp [Connection.framesOf]

/-- A session that has sent nothing on a socket has nothing published. -/
theorem published_nothing
    (none : ∀ w ∈ (s.connections c).framesOn number,
      w.session = sid → w.isSend = false) :
    ((s.connections c).publishedOn number).filter (·.session = sid) = [] := by
  rw [Connection.publishedOn, publish_plain, carries_requests,
    List.filter_filter, List.filter_eq_nil_iff]
  · intro w member isSend
    simp only [Bool.and_eq_true, decide_eq_true_eq] at isSend
    simp [none w member isSend.1] at isSend
  · intro request member message carried isMine
    obtain ⟨isFrame, isSend, _⟩ := send_of_carries member carried
    rw [none message isFrame (by simpa using isMine)] at isSend
    cases isSend

/-- A transaction that a frame names was created for its session. -/
theorem names_created (titles : Titles s) (headed : Headed s)
    (written : w ∈ (s.connections c).written) {id : List UInt8}
    (names : w.request.names = some id) :
    ∃ node, s.Created w.session node ∧
      id = bytesOf (transactionText node s.pool.name) := by
  cases body : w.frame.body with
  | logon => simp [Written.request, body, Request.names] at names
  | send destination headers payload =>
      refine (headed c w written _ _ _ body).2 id ?_
      simpa [Written.request, body, Request.names] using names
  | begin text =>
      obtain ⟨node, created, isText⟩ :=
        titles.wire c w written text (.inl (by rw [body]; rfl))
      refine ⟨node, created, ?_⟩
      rw [← isText]
      simpa [Written.request, body, Request.names] using names.symm
  | commit text =>
      obtain ⟨node, created, isText⟩ :=
        titles.wire c w written text (.inr (by rw [body]; rfl))
      refine ⟨node, created, ?_⟩
      rw [← isText]
      simpa [Written.request, body, Request.names] using names.symm

/-- A frame in the transaction of its session. -/
theorem request_within (headed : Headed s) {transaction : String}
    (written : w ∈ (s.connections c).written)
    (inTransaction : w.frame.body.SendsIn transaction) :
    w.request = .message (some (bytesOf transaction)) w := by
  cases body : w.frame.body with
  | send destination headers payload =>
      rw [body] at inTransaction
      have within :=
        (headed c w written _ _ _ body).1 transaction inTransaction
      simp [Written.request, body, within]
  | _ => simp [body, Body.SendsIn] at inTransaction

section Transaction

variable {frames : List Written} {transaction : String} {sends : List Body}

/-- The frames of a transaction on the wire, as requests. -/
theorem requests_within (headed : Headed s)
    (written : ∀ w ∈ frames, w ∈ (s.connections c).written)
    (inTransaction : ∀ body ∈ sends, body.SendsIn transaction)
    (shape : frames.map (fun w => w.frame.body) <+:
      .begin transaction :: sends ++ [.commit transaction]) :
    frames.map Written.request <+:
      .begin (bytesOf transaction) ::
        (frames.filter Written.isSend).map
          (.message (some (bytesOf transaction))) ++
        [.commit (bytesOf transaction)] := by
  refine requests_prefix shape ?_ ?_
  · intro w _ sent
    have sendsIn := inTransaction _ sent
    cases body : w.frame.body <;> simp_all [Body.SendsIn, Written.isSend]
  · intro w member isSend
    refine request_within headed (written w member) ?_
    rcases body_of_shape shape member with body | sent | body
    · simp [Written.isSend, body] at isSend
    · exact inTransaction _ sent
    · simp [Written.isSend, body] at isSend

/-- Alone they are published if the COMMIT is among them. -/
theorem publish_within (headed : Headed s)
    (written : ∀ w ∈ frames, w ∈ (s.connections c).written)
    (inTransaction : ∀ body ∈ sends, body.SendsIn transaction)
    (shape : frames.map (fun w => w.frame.body) <+:
      .begin transaction :: sends ++ [.commit transaction]) :
    publish (frames.map Written.request) =
      if frames.any fun w => w.frame.body.commits.isSome then
        frames.filter Written.isSend
      else [] := by
  obtain ⟨uncommitted, whole⟩ :=
    publish_sequence (requests_within headed written inTransaction shape)
  split
  · next committed =>
      obtain ⟨w, member, commits⟩ := List.any_eq_true.mp committed
      rw [whole (List.mem_map.mpr ⟨w, member, ?_⟩), carries_requests]
      rcases body_of_shape shape member with body | sent | body
      · simp [body, Body.commits] at commits
      · have sendsIn := inTransaction _ sent
        cases body : w.frame.body <;> simp_all [Body.SendsIn, Body.commits]
      · simp [Written.request, body]
  · next none =>
      refine uncommitted fun committed => none ?_
      obtain ⟨w, member, isCommit⟩ := List.mem_map.mp committed
      refine List.any_eq_true.mpr ⟨w, member, ?_⟩
      cases body : w.frame.body <;> simp_all [Written.request, Body.commits]

/-- The requests that name the transaction of a session are its frames. -/
theorem names_iff (titles : Titles s) (ledger : Ledger s) (headed : Headed s)
    (bounded : s.pool.transactionSeq < UInt64.size) {v : Written}
    (inTransaction : ∀ body ∈ sends, body.SendsIn transaction)
    (shape : transactionBodies ((s.connections c).framesOf sid) <+:
      .begin transaction :: sends ++ [.commit transaction])
    (begun : v ∈ (s.connections c).framesOf sid)
    (isBegin : v.frame.body = .begin transaction)
    (member : w ∈ (s.connections c).written) :
    w.request.names = some (bytesOf transaction) ↔
      w.session = sid ∧ w.frame.body.isLogon = false := by
  constructor
  · intro named
    obtain ⟨written, isSid⟩ := mem_framesOf.mp begun
    have alsoNamed : v.request.names = some (bytesOf transaction) := by
      simp [Written.request, isBegin, Request.names]
    obtain ⟨node, created, text⟩ := names_created titles headed member named
    obtain ⟨node', created', text'⟩ :=
      names_created titles headed written alsoNamed
    refine ⟨(ledger.same_creator bounded created created'
      (bytesOf_inj.mp (text.symm.trans text'))).trans isSid, ?_⟩
    cases body : w.frame.body with
    | logon => simp [Written.request, body, Request.names] at named
    | _ => rfl
  · rintro ⟨session, notLogon⟩
    have unlogged : w ∈ ((s.connections c).framesOf sid).filter
        fun w => !w.frame.body.isLogon :=
      List.mem_filter.mpr
        ⟨mem_framesOf.mpr ⟨member, session⟩, by simp [notLogon]⟩
    rw [transactionBodies_eq] at shape
    rcases body_of_shape shape unlogged with begins | sent | commits
    · simp [Written.request, begins, Request.names]
    · rw [request_within headed member (inTransaction _ sent), Request.names]
    · simp [Written.request, commits, Request.names]

/-- Those that name it on the socket of the session. -/
theorem requests_named
    (named : ∀ w ∈ (s.connections c).written,
      w.request.names = some (bytesOf transaction) ↔
        w.session = sid ∧ w.frame.body.isLogon = false)
    (oneSocket : ∀ w ∈ (s.connections c).framesOf sid, w.socket = number) :
    (((s.connections c).framesOn number).map Written.request).filter
        (fun request => request.names = some (bytesOf transaction)) =
      (((s.connections c).framesOf sid).filter
        fun w => !w.frame.body.isLogon).map Written.request := by
  rw [List.filter_map]
  refine congrArg _ ?_
  simp only [Connection.framesOn, Connection.framesOf, List.filter_filter]
  refine List.filter_congr fun w member => ?_
  rw [Bool.eq_iff_iff]
  simp only [Function.comp_apply, Bool.and_eq_true, decide_eq_true_eq,
    Bool.not_eq_true', named w member]
  constructor
  · rintro ⟨⟨session, notLogon⟩, _⟩
    exact ⟨notLogon, session⟩
  · rintro ⟨notLogon, session⟩
    exact ⟨⟨session, notLogon⟩,
      oneSocket w (mem_framesOf.mpr ⟨member, session⟩)⟩

end Transaction

/-- Of a session with a transaction on this socket, the broker publishes what
it would publish of the session's frames alone. -/
theorem published_sequence (titles : Titles s) (ledger : Ledger s)
    (headed : Headed s) (bounded : s.pool.transactionSeq < UInt64.size)
    {rows : List RowResult}
    (integrity : Integrity rows ((s.connections c).framesOf sid))
    (oneSocket : ∀ w ∈ (s.connections c).framesOf sid, w.socket = number)
    (spoke : ∃ w ∈ (s.connections c).framesOf sid, w.isSend) :
    ((s.connections c).publishedOn number).filter (·.session = sid) = [] ∨
      (∃ w ∈ (s.connections c).framesOf sid,
        ∃ id, w.frame.body = .commit id) ∧
      ((s.connections c).publishedOn number).filter (·.session = sid) =
        ((s.connections c).framesOf sid).filter Written.isSend := by
  obtain ⟨transaction, sends, inTransaction, shape⟩ := integrity.shape
  obtain ⟨w, member, isSend⟩ := spoke
  obtain ⟨v, begun, isBegin⟩ := begin_of_send shape member isSend
  have named : ∀ w ∈ (s.connections c).written,
      w.request.names = some (bytesOf transaction) ↔
        w.session = sid ∧ w.frame.body.isLogon = false :=
    fun w written => names_iff titles ledger headed bounded inTransaction shape
      begun isBegin written
  have ours : ∀ request ∈ ((s.connections c).framesOn number).map
      Written.request, OursWithin (fun w : Written => w.session = sid)
        (bytesOf transaction) request := by
    intro request isRequest message carried
    obtain ⟨isFrame, isSend, rfl⟩ := send_of_carries isRequest carried
    rw [named message (mem_framesOn.mp isFrame).1]
    cases body : message.frame.body <;>
      simp_all [Written.isSend, Body.isLogon]
  rw [transactionBodies_eq] at shape
  rw [Connection.publishedOn, publish_under ours,
    requests_named named oneSocket, publish_within headed (fun w member =>
      (mem_framesOf.mp (List.mem_filter.mp member).1).1) inTransaction shape,
    filter_unlogged]
  split
  · next committed =>
      obtain ⟨w, member, commits⟩ := List.any_eq_true.mp committed
      refine .inr ⟨⟨w, (List.mem_filter.mp member).1, ?_⟩, rfl⟩
      cases body : w.frame.body <;> simp_all [Body.commits]
  · exact .inl rfl

end Socket

section Runs

variable [QueryDecoding] [PassHash] [FrameBytes]
variable {name : String} {actions : List Action} {s : System}

/-- The frames of a session with a transaction are on one socket. -/
theorem Runs.one_socket {allowed : System → Action → Prop}
    (run : Runs allowed name s) {sid : SessionId}
    (on : (s.sessions sid).conf.transaction) {w v : Written}
    {c other : ConnId} (written : w ∈ (s.connections c).written)
    (isSid : w.session = sid) (alsoWritten : v ∈ (s.connections other).written)
    (alsoSid : v.session = sid) : other = c ∧ v.socket = w.socket := by
  have home : (s.sessions sid).connection = c :=
    isSid ▸ (run.told.home c w written).2
  have alsoHome : (s.sessions sid).connection = other :=
    alsoSid ▸ (run.told.home other v alsoWritten).2
  subst home alsoHome
  obtain ⟨number, oneSocket⟩ :=
    ((run.told.story sid).integrity on).oneSocket
  refine ⟨rfl, (oneSocket v ?_).trans (oneSocket w ?_).symm⟩
  · exact mem_framesOf.mpr ⟨alsoWritten, alsoSid⟩
  · exact mem_framesOf.mpr ⟨written, isSid⟩

/-- A statement with a transaction is published as a whole, with every row it
was called for and on one socket only, or not at all. -/
theorem all_or_nothing
    (played : Plays System.step plainRows (System.init name) actions s)
    (bounded : s.pool.transactionSeq < UInt64.size) (sid : SessionId)
    (on : (s.sessions sid).conf.transaction) (c : ConnId) (number : Nat) :
    let published := fun c number =>
      ((s.connections c).publishedOn number).filter (·.session = sid)
    published c number = [] ∨
      (∃ destination transaction,
        Whole (s.sessions sid).conf destination transaction
          (callsOf sid actions) (s.sessions sid).rows
          ((published c number).map Written.frame)) ∧
      ∀ c' number', c' ≠ c ∨ number' ≠ number → published c' number' = [] := by
  intro published
  have run : Runs plainRows name s := played.reaches
  by_cases spoke : ∃ w ∈ (s.connections c).framesOn number,
      w.session = sid ∧ w.isSend
  · obtain ⟨w, member, isSid, isSend⟩ := spoke
    obtain ⟨written, socket⟩ := mem_framesOn.mp member
    have onlyHere : ∀ c' number', c' ≠ c ∨ number' ≠ number →
        published c' number' = [] := by
      intro c' number' elsewhere
      refine published_nothing fun v isFrame alsoSid => ?_
      obtain ⟨alsoWritten, other⟩ := mem_framesOn.mp isFrame
      obtain ⟨here, same⟩ :=
        run.one_socket on written isSid alsoWritten alsoSid
      rw [other, socket] at same
      exact absurd same (elsewhere.resolve_left (not_not.mpr here))
    have isHere : (s.sessions sid).connection = c :=
      isSid ▸ (run.told.home c w written).2
    subst isHere
    have inFrames := mem_framesOf.mpr ⟨written, isSid⟩
    have oneSocket : ∀ v ∈ (s.own sid).framesOf sid, v.socket = number := by
      intro v isFrame
      obtain ⟨alsoWritten, alsoSid⟩ := mem_framesOf.mp isFrame
      exact (run.one_socket on written isSid alsoWritten alsoSid).2.trans
        socket
    refine (published_sequence run.titles run.ledger run.headed bounded
      ((run.told.story sid).integrity on) oneSocket
      ⟨w, inFrames, isSend⟩).imp id ?_
    rintro ⟨⟨v, isFrame, isCommit⟩, same⟩
    have delivery := delivery_of_plays played.begun sid
    obtain ⟨_, destination, transaction, whole⟩ :=
      delivery.committed v isFrame isCommit
    refine ⟨⟨destination, transaction, ?_⟩, onlyHere⟩
    rw [show published _ _ = _ from same]
    exact whole
  · left
    refine published_nothing fun w member isSid => ?_
    by_contra isSend
    exact spoke ⟨w, member, isSid, by simpa using isSend⟩

end Runs

section Executed

open scoped Sample

instance (s : System) (action : Action) : Decidable (plainRows s action) :=
  match action with
  | .content _ row _ _ _ => inferInstanceAs
      (Decidable (∀ header ∈ row.headers, header.within = none))
  | .get _ _ _ | .connect _ _ | .createTransaction _ | .begin _ _ _
  | .deinit _ | .commit _ _ _ | .commitTransaction _ _ | .releaseDeferred _ _
  | .release _ _ _ | .forceLock | .forceNext _ _ | .forceUnlock =>
      .isTrue trivial

/-- Three statements on one socket: a transaction of two rows, a row without
one, and a transaction that is not committed. -/
def sharing : List Action :=
  Sample.begins 1 ++
    [.content 1 (sampleRow "a") 0 100 { write := [Sample.writable] },
      .content 1 (sampleRow "b") 0 100 { write := [Sample.writable] },
      .deinit 1, .commit 1 false 100,
      .commitTransaction 1 (Sample.confirmed 0), .release 1 100 8,
      .get 2 (Sample.uri "") 8, .connect 2 Sample.connects,
      .content 2 (sampleRow "c") 0 100 { write := [Sample.writable] },
      .deinit 2, .commit 2 false 100, .release 2 100 8] ++
    Sample.begins 3 ++
    [.content 3 (sampleRow "d") 0 100 { write := [Sample.writable] }]

theorem all_or_nothing_sharing :
    let s := final plainRows "pool" sharing
    let published := fun c number =>
      ((s.connections c).publishedOn number).filter (·.session = 1)
    ((s.connections 0).publishedOn 0).map Written.session = [1, 1, 2] ∧
      ((s.connections 0).framesOn 0).length = 8 ∧
      (published 0 0 = [] ∨
        (∃ destination transaction,
          Whole (s.sessions 1).conf destination transaction
            (callsOf 1 sharing) (s.sessions 1).rows
            ((published 0 0).map Written.frame)) ∧
        ∀ c' number', c' ≠ 0 ∨ number' ≠ 0 → published c' number' = []) :=
  ⟨by decide +kernel, by decide +kernel,
    all_or_nothing (plays_final (by decide +kernel)) (by decide +kernel) 1
      (by decide +kernel) 0 0⟩

end Executed

end Capstomp
