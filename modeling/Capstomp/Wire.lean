import Capstomp.Ledger
import Capstomp.Writing

/-!
# The frames of one session

What a session with transactions may have put on the wire (`Integrity`), how
far a transaction is whose COMMIT was not attempted (`Uncommitted`), and what
is known of a session in each of its phases (`Story`).  The lemmas follow these
through the calls that write.
-/

namespace Capstomp

open General

namespace Connection

/-- The frames written for a session. -/
def framesOf (sid : SessionId) (c : Connection) : List Written :=
  c.written.filter (·.session = sid)

end Connection

def Body.isLogon : Body → Bool
  | .logon _ _ _ => true
  | _ => false

/-- A SEND with the header that `send_content` adds for the transaction. -/
def Body.SendsIn (transaction : String) : Body → Prop
  | .send _ headers _ => .transaction transaction ∈ headers
  | _ => False

/-- The BEGIN, SEND and COMMIT frames, in the order they were written. -/
def transactionBodies (frames : List Written) : List Body :=
  (frames.map fun written => written.frame.body).filter (!·.isLogon)

/-- The frames of a session are on one socket, they begin a sequence of BEGIN,
SENDs and COMMIT of one transaction, and the COMMIT is only there if every row
was sent. -/
structure Integrity (rows : List RowResult) (frames : List Written) :
    Prop where
  oneSocket : ∃ number, ∀ written ∈ frames, written.socket = number
  shape : ∃ transaction sends, (∀ body ∈ sends, body.SendsIn transaction) ∧
    transactionBodies frames <+:
      .begin transaction :: sends ++ [.commit transaction]
  committed : ∀ transaction, .commit transaction ∈ transactionBodies frames →
    .begin transaction ∈ transactionBodies frames ∧ .failed ∉ rows

theorem Integrity.ofNothing {rows : List RowResult} {frames : List Written}
    (oneSocket : ∃ number, ∀ written ∈ frames, written.socket = number)
    (nothing : transactionBodies frames = []) : Integrity rows frames :=
  ⟨oneSocket, ⟨"", [], by simp, by simp [nothing]⟩, by simp [nothing]⟩

/-- The frames of the session are on one socket, the present one if there
is one. -/
def OnOneSocket (sid : SessionId) (c : Connection) : Prop :=
  ∃ number, (∀ written ∈ c.framesOf sid, written.socket = number) ∧
    ∀ open', c.socket = some open' → open'.number = number

/-- A session has its connection, and is past the point where `begin` creates
the transaction. -/
def Phase.started (phase : Phase) : Prop :=
  phase ≠ .idle ∧ phase.early = false

/-- The frames of a transaction before its COMMIT is attempted.  If the socket
is open, nothing has failed so far. -/
structure Uncommitted (sid : SessionId) (session : Session)
    (c : Connection) : Prop where
  started : session.phase.started
  oneSocket : OnOneSocket sid c
  shape : transactionBodies (c.framesOf sid) = [] ∨
    ∃ sends, transactionBodies (c.framesOf sid) =
        .begin c.transactionId :: sends ∧
      ∀ body ∈ sends, body.SendsIn c.transactionId
  unbegun : session.phase = .beginning →
    transactionBodies (c.framesOf sid) = [] ∧ session.rows = []
  intact : session.phase ≠ .beginning → c.good →
    transactionBodies (c.framesOf sid) ≠ [] ∧ .failed ∉ session.rows

/-- What is known of the session by its phase. -/
structure Story (sid : SessionId) (session : Session)
    (c : Connection) : Prop where
  fresh : ∀ uri, session.phase = .got uri →
    c.framesOf sid = [] ∧ c.conf = session.conf
  creating : session.phase = .creating →
    OnOneSocket sid c ∧ transactionBodies (c.framesOf sid) = []
  beginning : session.phase = .beginning → c.withTransaction
  noRows : session.phase.early ∨ session.phase = .beginning →
    session.rows = []
  /-- The session goes on without errors and without a transaction. -/
  without : session.phase.unfinished → session.conf.transaction →
    c.withTransaction = false →
      c.good = false ∧ transactionBodies (c.framesOf sid) = []
  integrity : session.conf.transaction →
    Integrity session.rows (c.framesOf sid)

/-! ## Frames -/

section Writing

variable {sid : SessionId} {before after c : Connection} {body : Body}

theorem framesOf_of_written (same : after.written = before.written) :
    after.framesOf sid = before.framesOf sid := by
  simp [Connection.framesOf, same]

theorem framesOf_wrote (wrote : Wrote body before after)
    (owner : before.owner = sid) :
    ∃ open₀ receipt, before.socket = some open₀ ∧
      after.framesOf sid = before.framesOf sid ++
        [{ session := sid, socket := open₀.number,
           frame := { body := body, receipt := receipt } }] := by
  obtain ⟨open₀, receipt, isOpen, written⟩ := wrote
  exact ⟨open₀, receipt, isOpen, by simp [Connection.framesOf, written, owner]⟩

/-- What was written for another session is not among the frames. -/
theorem framesOf_of_tagged {more : List Written}
    (written : after.written = before.written ++ more)
    (tagged : ∀ w ∈ more, w.session ≠ sid) :
    after.framesOf sid = before.framesOf sid := by
  have none : more.filter (·.session = sid) = [] :=
    List.filter_eq_nil_iff.mpr (by simpa using tagged)
  simp [Connection.framesOf, written, none]

/-- The frames a call added are tagged with the owner of the connection. -/
theorem MayWrite.tagged (may : MayWrite body before after) :
    ∃ more, after.written = before.written ++ more ∧
      ∀ w ∈ more, w.session = before.owner := by
  rcases may.wrote with none | ⟨open₀, receipt, _, written⟩
  · exact ⟨[], by simp [none], by simp⟩
  · exact ⟨_, written, by simp⟩

theorem transactionBodies_append (frames more : List Written) :
    transactionBodies (frames ++ more) =
      transactionBodies frames ++ transactionBodies more := by
  simp [transactionBodies]

/-- What the frames are after a call that may have written one. -/
theorem MayWrite.bodies (may : MayWrite body before after)
    (owner : before.owner = sid) (notLogon : body.isLogon = false) :
    transactionBodies (after.framesOf sid) =
        transactionBodies (before.framesOf sid) ∨
      before.good ∧ transactionBodies (after.framesOf sid) =
        transactionBodies (before.framesOf sid) ++ [body] := by
  rcases may.wrote with none | wrote
  · exact .inl (by rw [framesOf_of_written none])
  · obtain ⟨open₀, receipt, _, frames⟩ := framesOf_wrote wrote owner
    refine .inr ⟨wrote.good, ?_⟩
    rw [frames, transactionBodies_append]
    simp [transactionBodies, notLogon]

theorem Wrote.bodies (wrote : Wrote body before after)
    (owner : before.owner = sid) (notLogon : body.isLogon = false) :
    transactionBodies (after.framesOf sid) =
      transactionBodies (before.framesOf sid) ++ [body] := by
  obtain ⟨open₀, receipt, _, frames⟩ := framesOf_wrote wrote owner
  rw [frames, transactionBodies_append]
  simp [transactionBodies, notLogon]

theorem OnOneSocket.keep (one : OnOneSocket sid before)
    (continues : Continues before after)
    (frames : after.framesOf sid = before.framesOf sid) :
    OnOneSocket sid after := by
  obtain ⟨number, all, present⟩ := one
  refine ⟨number, by rwa [frames], ?_⟩
  intro open' isOpen
  obtain ⟨open₀, wasOpen, same⟩ := continues.socket open' isOpen
  exact same.number.trans (present open₀ wasOpen)

theorem OnOneSocket.mayWrite (one : OnOneSocket sid before)
    (may : MayWrite body before after) (owner : before.owner = sid) :
    OnOneSocket sid after := by
  rcases may.wrote with none | wrote
  · exact one.keep may.toContinues (framesOf_of_written none)
  · obtain ⟨number, all, present⟩ := one
    obtain ⟨open₀, receipt, isOpen, frames⟩ := framesOf_wrote wrote owner
    refine ⟨number, ?_, ?_⟩
    · intro w member
      rw [frames, List.mem_append, List.mem_singleton] at member
      rcases member with old | rfl
      · exact all w old
      · exact present open₀ isOpen
    · intro open' nowOpen
      obtain ⟨open₁, wasOpen, same⟩ := may.socket open' nowOpen
      exact same.number.trans (present open₁ wasOpen)

/-- The frames after the logon of a session that had none. -/
theorem Connects.frames {u : Uri} (connects : Connects u before after)
    (owner : before.owner = sid) (unwritten : before.framesOf sid = []) :
    OnOneSocket sid after ∧ transactionBodies (after.framesOf sid) = [] := by
  rcases connects.wrote with same | ⟨receipt, written, present⟩
  · have none : after.framesOf sid = [] :=
      (framesOf_of_written same).trans unwritten
    refine ⟨?_, by simp [none, transactionBodies]⟩
    cases isOpen : after.socket with
    | none => exact ⟨0, by simp [none], by simp [isOpen]⟩
    | some open' =>
        refine ⟨open'.number, by simp [none], ?_⟩
        intro other isOther
        rw [← Option.some.inj (isOpen.symm.trans isOther)]
  · have one : after.framesOf sid = before.framesOf sid ++
        [{ session := sid, socket := before.sockets,
           frame := { body := u.logonBody, receipt := receipt } }] := by
      simp [Connection.framesOf, written, owner]
    rw [unwritten, List.nil_append] at one
    exact ⟨⟨before.sockets, by simp [one], present⟩,
      by simp [one, transactionBodies, Uri.logonBody, Body.isLogon]⟩

theorem Connects.tagged {u : Uri} (connects : Connects u before after) :
    ∃ more, after.written = before.written ++ more ∧
      ∀ w ∈ more, w.session = before.owner := by
  rcases connects.wrote with same | ⟨receipt, written, _⟩
  · exact ⟨[], by simp [same], by simp⟩
  · exact ⟨_, written, by simp⟩

end Writing

namespace Uncommitted

variable {sid : SessionId} {session new : Session}
variable {before after c : Connection}

/-- What is on the wire before the COMMIT is in order. -/
theorem integrity (uncommitted : Uncommitted sid session c) :
    Integrity session.rows (c.framesOf sid) := by
  obtain ⟨number, oneSocket, _⟩ := uncommitted.oneSocket
  refine ⟨⟨number, oneSocket⟩, ?_, ?_⟩
  · rcases uncommitted.shape with none | ⟨sends, begun, inTransaction⟩
    · exact ⟨"", [], by simp, by simp [none]⟩
    · refine ⟨c.transactionId, sends, inTransaction, ?_⟩
      rw [begun]
      exact List.prefix_append _ _
  · intro transaction member
    rcases uncommitted.shape with none | ⟨sends, begun, inTransaction⟩
    · simp [none] at member
    · rw [begun, List.mem_cons] at member
      rcases member with impossible | sent
      · cases impossible
      · exact (inTransaction _ sent).elim

/-- BEGIN is written, or the socket is closed. -/
theorem begin (uncommitted : Uncommitted sid session before)
    (owner : before.owner = sid) (beginning : session.phase = .beginning)
    (may : MayWrite (.begin before.transactionId) before after)
    (wrote : after.good → Wrote (.begin before.transactionId) before after)
    (started : new.phase.started) (begun : new.phase ≠ .beginning)
    (rows : new.rows = session.rows) : Uncommitted sid new after := by
  obtain ⟨nothing, noRows⟩ := uncommitted.unbegun beginning
  refine ⟨started, uncommitted.oneSocket.mayWrite may owner, ?_,
    fun impossible => absurd impossible begun, ?_⟩
  · rw [may.transactionId]
    rcases may.bodies owner rfl with same | ⟨_, more⟩
    · exact .inl (same.trans nothing)
    · exact .inr ⟨[], by simp [more, nothing], by simp⟩
  · intro _ isOpen
    rw [(wrote isOpen).bodies owner rfl, rows, noRows]
    simp

/-- An open socket has the BEGIN. -/
theorem begun (uncommitted : Uncommitted sid session c)
    (notBeginning : session.phase ≠ .beginning) (isOpen : c.good) :
    ∃ sends, transactionBodies (c.framesOf sid) =
        .begin c.transactionId :: sends ∧
      ∀ body ∈ sends, body.SendsIn c.transactionId :=
  uncommitted.shape.resolve_left
    (uncommitted.intact notBeginning isOpen).1

/-- A row adds one SEND, or none, and a failed one leaves a closed socket. -/
theorem row (uncommitted : Uncommitted sid session before)
    (owner : before.owner = sid) (notBeginning : session.phase ≠ .beginning)
    {body : Body} (notLogon : body.isLogon = false)
    (inTransaction : body.SendsIn before.transactionId)
    (may : MayWrite body before after) {result : RowResult}
    (clean : after.good → result ≠ .failed) (phase : new.phase = session.phase)
    (rows : new.rows = session.rows ++ [result]) :
    Uncommitted sid new after := by
  have wasOpen : after.good → before.good := by
    intro isOpen
    rw [Connection.good, Option.isSome_iff_ne_none] at isOpen ⊢
    exact fun isClosed => isOpen (may.closed isClosed)
  refine ⟨phase ▸ uncommitted.started,
    uncommitted.oneSocket.mayWrite may owner, ?_,
    fun impossible => absurd (phase ▸ impossible) notBeginning, ?_⟩
  · rw [may.transactionId]
    rcases may.bodies owner notLogon with same | ⟨good, more⟩
    · rw [same]
      exact uncommitted.shape
    · obtain ⟨sends, begun, inTransactions⟩ :=
        uncommitted.begun notBeginning good
      refine .inr ⟨sends ++ [body], by rw [more, begun]; rfl, ?_⟩
      intro other member
      rcases List.mem_append.mp member with old | new
      · exact inTransactions other old
      · rwa [List.mem_singleton.mp new]
  · intro _ isOpen
    obtain ⟨notEmpty, noFailure⟩ :=
      uncommitted.intact notBeginning (wasOpen isOpen)
    constructor
    · rcases may.bodies owner notLogon with same | ⟨_, more⟩
      · rwa [same]
      · simp [more]
    · simpa [rows, noFailure] using (clean isOpen).symm

/-- The COMMIT completes the frames of the transaction, or is not written. -/
theorem commit (uncommitted : Uncommitted sid session before)
    (owner : before.owner = sid) (notBeginning : session.phase ≠ .beginning)
    (may : MayWrite (.commit before.transactionId) before after) :
    Integrity session.rows (after.framesOf sid) := by
  obtain ⟨number, oneSocket, _⟩ := uncommitted.oneSocket.mayWrite may owner
  rcases may.bodies owner rfl with same | ⟨isOpen, more⟩
  · obtain ⟨_, shape, committed⟩ := uncommitted.integrity
    rw [← same] at shape committed
    exact ⟨⟨number, oneSocket⟩, shape, committed⟩
  · obtain ⟨sends, begun, inTransaction⟩ :=
      uncommitted.begun notBeginning isOpen
    rw [begun] at more
    refine ⟨⟨number, oneSocket⟩, ⟨before.transactionId, sends, inTransaction,
      more ▸ List.prefix_rfl⟩, ?_⟩
    intro transaction member
    have same : transaction = before.transactionId := by
      rw [more] at member
      simp only [List.cons_append, List.mem_cons, List.mem_append,
        reduceCtorEq, false_or, List.not_mem_nil, or_false,
        Body.commit.injEq] at member
      rcases member with sent | same
      · exact (inTransaction _ sent).elim
      · exact same
    exact ⟨by simp [more, same],
      (uncommitted.intact notBeginning isOpen).2⟩

/-- Nothing is written, and the connection is at most closed. -/
theorem keep (uncommitted : Uncommitted sid session before)
    (continues : Continues before after)
    (frames : after.framesOf sid = before.framesOf sid) :
    Uncommitted sid session after := by
  refine ⟨uncommitted.started, uncommitted.oneSocket.keep continues frames,
    ?_, ?_, ?_⟩
  · rw [frames, continues.transactionId]
    exact uncommitted.shape
  · rw [frames]
    exact uncommitted.unbegun
  · intro notBeginning isOpen
    rw [frames]
    refine uncommitted.intact notBeginning ?_
    rw [Connection.good, Option.isSome_iff_ne_none] at isOpen ⊢
    exact fun isClosed => isOpen (continues.closed isClosed)

/-- The session goes on to its end. -/
theorem advance (uncommitted : Uncommitted sid session c)
    (started : new.phase.started)
    (beginning : new.phase = .beginning ↔ session.phase = .beginning)
    (rows : new.rows = session.rows) : Uncommitted sid new c := by
  refine ⟨started, uncommitted.oneSocket, uncommitted.shape, ?_, ?_⟩
  · rw [beginning, rows]
    exact uncommitted.unbegun
  · rw [Ne, beginning, rows]
    exact uncommitted.intact

end Uncommitted

/-- A session that has become another one by going on, without a row. -/
structure Advances (before after : Session) : Prop where
  connection : after.connection = before.connection
  conf : after.conf = before.conf
  rows : after.rows = before.rows
  started : before.phase.started → after.phase.started
  idle : after.phase = .idle ↔ before.phase = .idle
  early : after.phase.early → after.phase = before.phase
  beginning : after.phase = .beginning ↔ before.phase = .beginning
  unfinished : after.phase.unfinished → before.phase.unfinished

theorem Advances.refl (session : Session) : Advances session session :=
  ⟨rfl, rfl, rfl, id, .rfl, fun _ => rfl, .rfl, id⟩

/-- From `deinit` on a session only goes through its phases. -/
theorem Advances.ofPhase {session : Session} {phase : Phase}
    (began : session.phase.started) (notBeginning : session.phase ≠ .beginning)
    (started : phase.started) (begun : phase ≠ .beginning)
    (unfinished : phase.unfinished → session.phase.unfinished) :
    Advances session { session with phase := phase } where
  connection := rfl
  conf := rfl
  rows := rfl
  started _ := started
  idle := by simp [began.1, started.1]
  early impossible := by simp [started.2] at impossible
  beginning := by simp [notBeginning, begun]
  unfinished := unfinished

/-- The session is in the part of `commit` that follows `get_uncommited`. -/
def Phase.finishing (phase : Phase) : Prop :=
  phase.started ∧ phase.unfinished = false

theorem finishing_afterBatch (batch : List Transaction) (receipt : Bool) :
    (System.afterBatch batch receipt).finishing := by
  cases batch <;>
    simp [System.afterBatch, Phase.finishing, Phase.started, Phase.early,
      Phase.unfinished]

theorem Advances.ofFinishing {session : Session} {phase : Phase}
    (began : session.phase.started) (notBeginning : session.phase ≠ .beginning)
    (finishing : phase.finishing) :
    Advances session { session with phase := phase } := by
  refine .ofPhase began notBeginning finishing.1 ?_ ?_
  · rintro rfl
    simp [Phase.finishing, Phase.unfinished] at finishing
  · simp [finishing.2]

namespace Story

variable {sid : SessionId} {session new : Session} {before after c : Connection}

/-- Nothing is known yet of a session that has not begun. -/
theorem idle (phase : session.phase = .idle)
    (off : session.conf.transaction = false) : Story sid session c := by
  constructor <;> simp [phase, off, Phase.early, Phase.unfinished]

theorem advance (story : Story sid session c) (advances : Advances session new) :
    Story sid new c where
  fresh uri phase := by
    rw [advances.conf]
    refine story.fresh uri ?_
    rw [← advances.early (by simp [phase, Phase.early]), phase]
  creating phase := by
    refine story.creating ?_
    rw [← advances.early (by simp [phase, Phase.early]), phase]
  beginning phase := story.beginning (advances.beginning.mp phase)
  noRows reason := by
    rw [advances.rows]
    refine story.noRows (reason.imp ?_ advances.beginning.mp)
    intro early
    rwa [← advances.early early]
  without unfinished := by
    rw [advances.conf]
    exact story.without (advances.unfinished unfinished)
  integrity := by
    rw [advances.conf, advances.rows]
    exact story.integrity

/-- Nothing was written for the session; if it is under way, its connection
was at most closed. -/
theorem keep (story : Story sid session before)
    (frames : after.framesOf sid = before.framesOf sid)
    (live : session.phase.early ∨ session.phase.unfinished →
      Continues before after) : Story sid session after where
  fresh uri phase := by
    have continues := live (.inl (by simp [phase, Phase.early]))
    rw [frames, continues.conf]
    exact story.fresh uri phase
  creating phase := by
    have continues := live (.inl (by simp [phase, Phase.early]))
    rw [frames]
    exact ⟨(story.creating phase).1.keep continues frames,
      (story.creating phase).2⟩
  beginning phase := by
    have continues := live (.inr (by simp [phase, Phase.unfinished]))
    rw [continues.toSameHandle.withTransaction]
    exact story.beginning phase
  noRows := story.noRows
  without unfinished on unbegun := by
    have continues := live (.inr unfinished)
    rw [continues.toSameHandle.withTransaction] at unbegun
    obtain ⟨isClosed, nothing⟩ := story.without unfinished on unbegun
    rw [frames]
    refine ⟨?_, nothing⟩
    have socket : before.socket = none := by
      simpa [Connection.good] using isClosed
    simp [Connection.good, continues.closed socket]
  integrity on := frames ▸ story.integrity on

/-- A session that has begun its transaction is told by its frames. -/
theorem ofIntegrity (started : session.phase.started)
    (transaction : session.phase.unfinished → c.withTransaction)
    (noRows : session.phase = .beginning → session.rows = [])
    (integrity : Integrity session.rows (c.framesOf sid)) :
    Story sid session c where
  fresh uri phase := by simp [phase, Phase.started, Phase.early] at started
  creating phase := by simp [phase, Phase.started, Phase.early] at started
  beginning phase := transaction (by simp [phase, Phase.unfinished])
  noRows reason := by
    rcases reason with early | beginning
    · simp [started.2] at early
    · exact noRows beginning
  without unfinished _ unbegun := by
    simp [transaction unfinished] at unbegun
  integrity _ := integrity

/-- A session after `commit` is told by its frames. -/
theorem ofFinished (notEarly : session.phase.early = false)
    (finished : session.phase.unfinished = false)
    (integrity : session.conf.transaction →
      Integrity session.rows (c.framesOf sid)) : Story sid session c := by
  constructor
  case integrity => exact integrity
  all_goals grind [Phase.early, Phase.unfinished]

/-- A session that is connected, with or without transactions. -/
theorem ofConnect (oneSocket : OnOneSocket sid c)
    (nothing : transactionBodies (c.framesOf sid) = [])
    (noRows : session.rows = [])
    (phase : session.phase =
      if session.conf.transaction then .creating else .rows) :
    Story sid session c := by
  have integrity : Integrity session.rows (c.framesOf sid) :=
    .ofNothing ⟨_, oneSocket.choose_spec.1⟩ nothing
  cases on : session.conf.transaction with
  | true =>
      rw [on, if_pos rfl] at phase
      constructor
      case integrity => exact fun _ => integrity
      all_goals simp [phase, oneSocket, nothing, noRows, Phase.unfinished]
  | false =>
      rw [on, if_neg (by simp)] at phase
      constructor <;> simp [phase, on, noRows]

/-- A session that goes on without a socket, having written no transaction. -/
theorem ofClosed (oneSocket : OnOneSocket sid c)
    (nothing : transactionBodies (c.framesOf sid) = [])
    (isClosed : c.good = false)
    (phase : session.phase = .rows ∨ session.phase = .ending) :
    Story sid session c := by
  have integrity : Integrity session.rows (c.framesOf sid) :=
    .ofNothing ⟨_, oneSocket.choose_spec.1⟩ nothing
  constructor
  case integrity => exact fun _ => integrity
  all_goals rcases phase with phase | phase <;>
    simp [phase, nothing, isClosed, Phase.early]

end Story

end Capstomp
