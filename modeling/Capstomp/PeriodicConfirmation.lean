import Capstomp.Counted
import Capstomp.EveryConnection
import Capstomp.TransactionIntegrity

/-!
# A confirmation in every `request_limit` sessions

`connection::release` lets the count start again from `request_limit` on.  A
session that sent a message, or its BEGIN, has asked for a receipt by then.  A
session without a transaction that sent nothing has not, and the sessions
after it are counted as if it had.
-/

namespace Capstomp

open General

/-- Every call reads this `request_limit`. -/
def limitHeld (limit : Nat) : Action → Prop
  | .begin _ requestLimit _ | .content _ _ _ requestLimit _
  | .commit _ _ requestLimit | .release _ requestLimit _ =>
      requestLimit = limit
  | _ => True

instance (limit : Nat) (action : Action) :
    Decidable (limitHeld limit action) :=
  match action with
  | .begin _ requestLimit _ | .content _ _ _ requestLimit _
  | .commit _ _ requestLimit | .release _ requestLimit _ =>
      inferInstanceAs (Decidable (requestLimit = limit))
  | .get _ _ _ | .connect _ _ | .createTransaction _ | .deinit _
  | .commitTransaction _ _ | .releaseDeferred _ _ | .forceLock
  | .forceNext _ _ | .forceUnlock => .isTrue trivial

/-- No session without a transaction that sent no message is released at the
limit on an open socket. -/
def resetsConfirmed (limit : Nat) (s : System) : Action → Prop
  | .release sid _ _ => (s.own sid).good → limit ≤ (s.own sid).requestCount →
      (s.own sid).withTransaction ∨
        (s.sessions sid).rows.any RowResult.isSent
  | _ => True

instance (limit : Nat) (s : System) (action : Action) :
    Decidable (resetsConfirmed limit s action) :=
  match action with
  | .release sid _ _ => inferInstanceAs (Decidable ((s.own sid).good →
      limit ≤ (s.own sid).requestCount → (s.own sid).withTransaction ∨
        (s.sessions sid).rows.any RowResult.isSent))
  | .get _ _ _ | .connect _ _ | .createTransaction _ | .begin _ _ _
  | .content _ _ _ _ _ | .deinit _ | .commit _ _ _ | .commitTransaction _ _
  | .releaseDeferred _ _ | .forceLock | .forceNext _ _ | .forceUnlock =>
      .isTrue trivial

/-- The receipt setting of every statement is off. -/
def receiptsOff [QueryDecoding] : Action → Prop
  | .get _ uri _ => (Settings.create uri.query).receipt = false
  | _ => True

instance [QueryDecoding] (action : Action) :
    Decidable (receiptsOff action) :=
  match action with
  | .get _ uri _ => inferInstanceAs
      (Decidable ((Settings.create uri.query).receipt = false))
  | .connect _ _ | .createTransaction _ | .begin _ _ _ | .content _ _ _ _ _
  | .deinit _ | .commit _ _ _ | .commitTransaction _ _ | .releaseDeferred _ _
  | .release _ _ _ | .forceLock | .forceNext _ _ | .forceUnlock =>
      .isTrue trivial

/-- From the end of `connect` to `release`. -/
def Phase.serving : Phase → Bool
  | .idle | .got _ | .ended => false
  | _ => true

structure Periodic (limit : Nat) (s : System) : Prop where
  counted : ∀ y, Counted limit (s.connections y)
  serving : ∀ sid, (s.sessions sid).phase.serving →
    Serving limit sid (s.sessions sid) (s.own sid)

variable {limit : Nat} {s after : System} {sid : SessionId}

theorem Session.own_mem_held_of_serving {session : Session}
    (serving : session.phase.serving) :
    session.connection ∈ session.held := by
  refine Session.own_mem_held ?_ ?_ <;>
    · intro phase
      simp [phase, Phase.serving] at serving

/-- Only `begin` and a row change whether a session has spoken. -/
theorem Spoke.ofPhase {session : Session} {c : Connection} {phase : Phase}
    (notBeginning : session.phase ≠ .beginning)
    (spoke : Spoke { session with phase := phase } c) : Spoke session c :=
  spoke.imp_left fun begun => ⟨begun.1, notBeginning⟩

namespace Periodic

theorem init (name : String) : Periodic limit (System.init name) where
  counted y := .unused limit
  serving sid serving := by cases serving

/-- One connection changes.  The sessions that go on are on other ones, or
their connection is right for them. -/
theorem update (periodic : Periodic limit s) {x : ConnId} {c : Connection}
    (connections : after.connections = Function.update s.connections x c)
    (counted : Counted limit c)
    (sessions : ∀ sid, (after.sessions sid).phase.serving →
      (after.sessions sid = s.sessions sid ∧
        (s.sessions sid).connection ≠ x) ∨
      Serving limit sid (after.sessions sid) (after.own sid)) :
    Periodic limit after where
  counted := by
    rw [connections, Function.forall_update_iff s.connections
      fun _ c => Counted limit c]
    exact ⟨counted, fun y _ => periodic.counted y⟩
  serving sid serving := by
    rcases sessions sid serving with ⟨same, elsewhere⟩ | right
    · rw [System.own, connections, same, Function.update_of_ne elsewhere]
      exact periodic.serving sid (same ▸ serving)
    · exact right

/-- A session goes on, and a connection it holds changes. -/
theorem ofSession (periodic : Periodic limit s) (custody : Custody s)
    {x : ConnId} {c : Connection} {session : Session}
    (connections : after.connections = Function.update s.connections x c)
    (sessions : after.sessions = Function.update s.sessions sid session)
    (held : x ∈ s.places (.session sid)) (counted : Counted limit c)
    (serving : session.phase.serving →
      Serving limit sid session (after.own sid)) : Periodic limit after := by
  refine periodic.update connections counted ?_
  intro other goesOn
  by_cases same : other = sid
  · subst same
    right
    rw [sessions, Function.update_self] at goesOn ⊢
    exact serving goesOn
  · left
    rw [sessions, Function.update_of_ne same] at goesOn ⊢
    refine ⟨rfl, ?_⟩
    rintro rfl
    exact same (custody.only_session held
      (Session.own_mem_held_of_serving goesOn))

/-- The connection is the session's own. -/
theorem ofOwn (periodic : Periodic limit s) (custody : Custody s)
    {c : Connection} {session : Session}
    (connections : after.connections =
      Function.update s.connections (s.sessions sid).connection c)
    (sessions : after.sessions = Function.update s.sessions sid session)
    (connection : session.connection = (s.sessions sid).connection)
    (begun : (s.sessions sid).phase ≠ .idle)
    (unended : (s.sessions sid).phase ≠ .ended) (counted : Counted limit c)
    (serving : session.phase.serving → Serving limit sid session c) :
    Periodic limit after := by
  refine periodic.ofSession custody connections sessions
    (Session.own_mem_held begun unended) counted ?_
  rw [System.own, connections, sessions, Function.update_self, connection,
    Function.update_self]
  exact serving

/-- A session goes on, and its connection stays as it is. -/
theorem advance (periodic : Periodic limit s) {phase : Phase}
    (connections : after.connections = s.connections)
    (sessions : after.sessions = Function.update s.sessions sid
      { s.sessions sid with phase := phase })
    (wasServing : (s.sessions sid).phase.serving)
    (notBeginning : (s.sessions sid).phase ≠ .beginning) :
    Periodic limit after where
  counted y := connections ▸ periodic.counted y
  serving other serving := by
    by_cases same : other = sid
    · subst same
      rw [System.own, connections, sessions, Function.update_self]
      exact (periodic.serving other wasServing).keep rfl (.ofSame rfl rfl)
        (.ofPhase notBeginning)
    · rw [sessions, Function.update_of_ne same] at serving
      rw [System.own, connections, sessions, Function.update_of_ne same]
      exact periodic.serving other serving

/-- What the pool does with a connection it is given back. -/
theorem released {c : Connection} (counted : Counted limit c) (parked : Bool)
    (self : ConnId) :
    Counted limit (if parked then c.setSelf self else c.close) := by
  cases parked with
  | true => exact counted.keep rfl rfl (.ofSame rfl rfl)
  | false => exact counted.keep rfl rfl (.ofClosed rfl)

section Calls

variable [FrameBytes]

theorem connect [PassHash] (periodic : Periodic limit s) (custody : Custody s)
    (told : Told s) {turns : ConnectTurns}
    (stepped : s.connect sid turns = some after) : Periodic limit after := by
  obtain ⟨u, phase, outcome⟩ := System.connect_cases stepped
  have counted := periodic.counted (s.sessions sid).connection
  have kept : Respects (KeepsCounted limit) (Capstomp.connect u turns) :=
    connect_counted u turns
  rcases outcome with ⟨c, returned, rfl⟩ | ⟨_, c, thrown, rfl⟩
  · refine periodic.ofOwn custody rfl rfl rfl (by simp [phase])
      (by simp [phase]) (kept.returned returned counted) fun _ => ?_
    refine counted.connect returned ?_
    have early : (s.sessions sid).phase.early := by simp [phase, Phase.early]
    have handle := (connect_sameHandle u turns).returned returned
    have without : c.withTransaction = false :=
      handle.withTransaction.trans (custody.unbegun sid early)
    simp [Spoke, without, (told.story sid).noRows (.inl early)]
  · exact periodic.ofOwn custody rfl rfl rfl (by simp [phase])
      (by simp [phase])
      ((kept.thrown thrown counted).keep rfl rfl (.ofClosed rfl))
      fun _ => .ofClosed rfl

theorem begin (periodic : Periodic limit s) (custody : Custody s)
    (ledger : Ledger s) {turns : Exchange}
    (stepped : s.begin sid limit turns = some after) :
    Periodic limit after := by
  obtain ⟨phase, outcome⟩ := System.begin_cases stepped
  have owner : (s.own sid).owner = sid :=
    ledger.owner sid (by simp [phase]) (by simp [phase])
  have begins := (periodic.serving sid (by simp [phase, Phase.serving])).begin
    (periodic.counted (s.sessions sid).connection) owner turns
  rcases outcome with ⟨c, returned, rfl⟩ | ⟨_, c, thrown, rfl⟩
  · rw [returned] at begins
    exact periodic.ofOwn custody rfl rfl rfl (by simp [phase])
      (by simp [phase]) begins.1 fun _ => begins.2 c rfl _
  · rw [thrown] at begins
    exact periodic.ofOwn custody rfl rfl rfl (by simp [phase])
      (by simp [phase]) (begins.1.keep rfl rfl (.ofClosed rfl))
      fun _ => .ofClosed rfl

/-- The COMMIT of a transaction, by the session that holds its connection. -/
theorem commitTransaction (periodic : Periodic limit s) (custody : Custody s)
    (ledger : Ledger s) {turns : CommitTurns}
    (stepped : s.commitTransaction sid turns = some after) :
    Periodic limit after := by
  obtain ⟨transaction, batch, receipt, phase, rfl⟩ :=
    System.commitTransaction_cases stepped
  have held : transaction.connection ∈ s.places (.session sid) :=
    Custody.place_of_batch (by simp [phase, Phase.batch])
  have may := commitTransaction_mayWrite transaction.id receipt turns
    (s.connections transaction.connection)
  have count := keepsCount_written.tryCommit transaction.id receipt turns
    (s.connections transaction.connection)
  have serving := periodic.serving sid (by simp [phase, Phase.serving])
  have notBeginning : (s.sessions sid).phase ≠ .beginning := by
    simp [phase]
  refine periodic.ofSession custody rfl rfl held
    ((periodic.counted _).mayWrite may count (by simp)) fun _ => ?_
  by_cases isOwn : (s.sessions sid).connection = transaction.connection
  · have owner : (s.own sid).owner = sid :=
      ledger.owner sid (by simp [phase]) (by simp [phase])
    rw [← isOwn] at may count
    have goesOn (next : Phase) :
        Serving limit sid { s.sessions sid with phase := next }
          ((s.own sid).commitTransaction transaction.id receipt turns) := by
      refine serving.mayWrite owner may count ?_
      rintro (⟨begun, _⟩ | sent)
      · exact .inl ⟨may.withTransaction ▸ begun, notBeginning⟩
      · exact .inr sent
    simpa [System.own, isOwn] using goesOn _
  · simpa [System.own, Function.update_of_ne isOwn] using
      serving.keep rfl (.ofSame rfl rfl) (.ofPhase notBeginning)

end Calls

theorem releaseDeferred (periodic : Periodic limit s) (custody : Custody s)
    {poolSockets : Nat}
    (stepped : s.releaseDeferred sid poolSockets = some after) :
    Periodic limit after := by
  obtain ⟨x, batch, receipt, phase, _, rfl⟩ :=
    System.releaseDeferred_cases stepped
  have held : x ∈ s.places (.session sid) := by
    simp [System.places, Session.held, phase]
  have different : (s.sessions sid).connection ≠ x := by
    have nodup := custody.exclusive.nodup (.session sid)
    simp only [System.places, Session.held, phase, List.nodup_cons,
      List.mem_cons, not_or] at nodup
    exact nodup.1.1
  have serving := periodic.serving sid (by simp [phase, Phase.serving])
  refine periodic.ofSession custody rfl rfl held
    (released (periodic.counted x) _ x) fun _ => ?_
  simpa [System.own, Function.update_of_ne different] using
    serving.keep rfl (.ofSame rfl rfl) (.ofPhase (by simp [phase]))

theorem release (periodic : Periodic limit s) (custody : Custody s)
    {poolSockets : Nat}
    (confirmed : resetsConfirmed limit s (.release sid limit poolSockets))
    (stepped : s.release sid limit poolSockets = some after) :
    Periodic limit after := by
  obtain ⟨self, phase, isSelf, _, rfl⟩ := System.release_cases stepped
  have isOwn := custody.self_eq (by simp [phase]) (by simp [phase]) isSelf
  subst isOwn
  have serving := periodic.serving sid (by simp [phase, Phase.serving])
  have counted := serving.release
    (periodic.counted (s.sessions sid).connection) fun isOpen atLimit =>
      (confirmed isOpen atLimit).imp_left fun begun =>
        ⟨begun, by simp [phase]⟩
  refine periodic.ofOwn custody (by simp; rfl) rfl rfl (by simp [phase])
    (by simp [phase]) (released counted _ _) ?_
  intro impossible
  cases impossible

theorem forceNext [FrameBytes] (periodic : Periodic limit s)
    (custody : Custody s) (queue : Queue s) {poolSockets : Nat}
    {turns : CommitTurns}
    (stepped : s.forceNext poolSockets turns = some after) :
    Periodic limit after := by
  obtain ⟨forcing, transaction, forced, located,
    ⟨_, rfl⟩ | ⟨pointed, ready, found, _, rfl⟩⟩ :=
    System.forceNext_cases stepped
  · exact ⟨periodic.counted, periodic.serving⟩
  · have member := List.mem_of_getElem? located
    have same := custody.pointed_eq queue.distinct member found
    subst same
    have held : pointed.connection ∈ s.places .deferred :=
      Custody.place_of_ready member ready
    have counted := (periodic.counted pointed.connection).mayWrite
      (commitTransaction_mayWrite pointed.id true turns
        (s.connections pointed.connection))
      (keepsCount_written.tryCommit pointed.id true turns
        (s.connections pointed.connection)) (by simp)
    refine periodic.update (System.forceCommit_connection ..)
      (released counted _ _) ?_
    intro other serving
    left
    refine ⟨by simp, ?_⟩
    intro same
    have there : pointed.connection ∈ s.places (.session other) :=
      same ▸ Session.own_mem_held_of_serving serving
    cases custody.only held there

theorem handOver [QueryDecoding] (periodic : Periodic limit s) (custody : Custody s)
    {uri : Uri} {maxPoolSockets : Nat} {obtained : Obtained}
    (got : s.pool.get maxPoolSockets s.nextConnection = .ok obtained) :
    Periodic limit (s.handOver sid uri obtained) := by
  refine periodic.update (System.handOver_connections ..) ?_ ?_
  · split
    · exact (Counted.unused limit).keep rfl rfl (.ofSame rfl rfl)
    · exact (periodic.counted obtained.connection).keep rfl rfl
        (.ofSame rfl rfl)
  · intro other serving
    left
    by_cases same : other = sid
    · subst same
      simp [Phase.serving] at serving
    · rw [System.handOver_sessions, Function.update_of_ne same] at serving ⊢
      refine ⟨rfl, custody.obtained_not_own got ?_ ?_⟩ <;>
        · intro phase
          simp [phase, Phase.serving] at serving

section Steps

variable [QueryDecoding] [PassHash] [FrameBytes]

theorem step (periodic : Periodic limit s) (custody : Custody s)
    (queue : Queue s) (ledger : Ledger s) (told : Told s) {action : Action}
    (held : limitHeld limit action) (confirmed : resetsConfirmed limit s action)
    (stepped : s.step action = some after) : Periodic limit after := by
  cases action with
  | get sid uri maxPoolSockets =>
      obtain ⟨_, _, rfl | ⟨obtained, got, rfl⟩⟩ := System.get_cases stepped
      · exact periodic
      · exact periodic.handOver custody got
  | connect sid turns => exact periodic.connect custody told stepped
  | createTransaction sid =>
      obtain ⟨self, phase, _, _, rfl⟩ := System.createTransaction_cases stepped
      have serving := periodic.serving sid (by simp [phase, Phase.serving])
      refine periodic.ofOwn custody rfl rfl rfl (by simp [phase])
        (by simp [phase])
        ((periodic.counted (s.sessions sid).connection).keep rfl rfl
          (.ofSame rfl rfl)) fun _ => ?_
      refine serving.keep rfl (.ofSame rfl rfl) ?_
      rintro (⟨_, begun⟩ | sent)
      · exact absurd rfl begun
      · exact .inr sent
  | begin sid requestLimit turns =>
      cases held
      exact periodic.begin custody ledger stepped
  | content sid row now requestLimit turns =>
      cases held
      obtain ⟨phase, rfl⟩ := System.content_cases stepped
      have serving := periodic.serving sid (by simp [phase, Phase.serving])
      have owner : (s.own sid).owner = sid :=
        ledger.owner sid (by simp [phase]) (by simp [phase])
      have content := serving.content
        (periodic.counted (s.sessions sid).connection) owner phase row now
        turns
      exact periodic.ofOwn custody rfl rfl rfl (by simp [phase])
        (by simp [phase]) content.1 fun _ => content.2 _
  | deinit sid =>
      obtain ⟨phase, rfl⟩ := System.deinit_cases stepped
      exact periodic.advance rfl rfl (by simp [phase, Phase.serving])
        (by simp [phase])
  | commit sid endReady requestLimit =>
      obtain ⟨phase, ⟨_, rfl⟩ | ⟨_, _, _, _, _, _, _, rfl⟩⟩ :=
        System.commit_cases stepped <;>
        exact periodic.advance rfl rfl (by simp [phase, Phase.serving])
          (by simp [phase])
  | commitTransaction sid turns =>
      exact periodic.commitTransaction custody ledger stepped
  | releaseDeferred sid poolSockets =>
      exact periodic.releaseDeferred custody stepped
  | release sid requestLimit poolSockets =>
      cases held
      exact periodic.release custody confirmed stepped
  | forceLock =>
      obtain ⟨_, rfl⟩ := System.forceLock_cases stepped
      exact ⟨periodic.counted, periodic.serving⟩
  | forceNext poolSockets turns =>
      exact periodic.forceNext custody queue stepped
  | forceUnlock =>
      obtain ⟨_, _, _, rfl⟩ := System.forceUnlock_cases stepped
      exact ⟨periodic.counted, periodic.serving⟩

end Steps

end Periodic

/-! ## The receipts waited for -/

section Steps

variable [QueryDecoding] [PassHash] [FrameBytes]

/-- Every step that adds a BEGIN or a SEND with a receipt to a socket, and
leaves it open, has waited for the receipt. -/
theorem step_waits (custody : Custody s) (queue : Queue s) {action : Action}
    (stepped : s.step action = some after) :
    ∀ y, Waits (s.connections y) (after.connections y) := by
  obtain ⟨x, c, connections, touches⟩ :=
    System.connection_cases custody queue stepped
  rw [connections, Function.forall_update_iff s.connections
    fun y c => Waits (s.connections y) c]
  refine ⟨?_, fun _ _ => .ofUnwritten rfl⟩
  cases touches with
  | closed _ isClosed => exact .ofClosed isClosed
  | kept _ same => exact .ofUnwritten same.written
  | @connect sid turns u _ _ _ returned =>
      have connects := (connect_connects u turns (s.own sid)).wrote
      rw [returned] at connects
      rcases connects with same | ⟨receipt, added, _⟩
      · exact .ofUnwritten same
      · exact .ofSilent added rfl
  | begin _ returned => exact sendBegin_waits returned
  | @content sid row now requestLimit turns _ =>
      exact (capstompContent_sends row now requestLimit turns (s.own sid)).2.1
  | @commit _ turns transaction _ receipt _ _ =>
      exact .ofCommit (commitTransaction_mayWrite transaction.id receipt turns
        (s.connections transaction.connection)).wrote
  | @force _ turns transaction _ _ _ _ same =>
      have wrote := (commitTransaction_mayWrite transaction.id true turns
        (s.connections transaction.connection)).wrote
      rw [← same.written, Wrote, ← same.written] at wrote
      exact .ofCommit wrote

end Steps

section Runs

variable [QueryDecoding] [PassHash] [FrameBytes] {name : String}

theorem Runs.periodic
    (run : Runs (fun s action => limitHeld limit action ∧
      resetsConfirmed limit s action) name s) : Periodic limit s :=
  Reaches.invariant run (Periodic.init name)
    fun _ _ _ reached periodic allowed stepped =>
      periodic.step (Runs.custody reached) (Runs.queue reached)
        (Runs.ledger reached) (Runs.told reached) allowed.1 allowed.2 stepped

/-- While no session without a transaction and without a message starts the
count again, no `request_limit` sessions with messages follow each other on a
socket without a receipt that one of them, or an empty session in between, has
asked for and waited for. -/
theorem periodic_confirmation
    (run : Runs (fun s action => limitHeld limit action ∧
      resetsConfirmed limit s action) name s) :
    (∀ y number, ConfirmedEvery Written.awaited limit
      ((s.connections y).framesOn number)) ∧
    ∀ action after, s.step action = some after →
      ∀ y, Waits (s.connections y) (after.connections y) :=
  ⟨fun y => (run.periodic.counted y).every,
    fun _ _ stepped => step_waits (Runs.custody run) (Runs.queue run) stepped⟩

end Runs

section Executed

open scoped Sample

/-- A statement without a transaction, with one exchange for each row. -/
def statement (sid : SessionId) (rows : List Exchange) : List Action :=
  [.get sid (Sample.uri "") 8, .connect sid Sample.connects] ++
    rows.map (fun turns => .content sid {} 0 4 turns) ++
    [.deinit sid, .commit sid false 4, .release sid 4 8]

/-- Three statements with a message each, and a fourth that asks for a
receipt. -/
def fourStatements : List Action :=
  let unanswered : Exchange := { write := [Sample.writable] }
  [1, 2, 3].flatMap (statement · [unanswered]) ++
    statement 4 [{ write := [Sample.writable],
                   wait := [Sample.heard [.receipt 0]] }]

/-- The fourth of them starts the count again. -/
theorem periodic_confirmation_fourth :
    let s := final (fun s action => limitHeld 4 action ∧
      resetsConfirmed 4 s action) "pool" fourStatements
    (s.connections 0).requestCount = 0 ∧
      ConfirmedEvery Written.awaited 4 ((s.connections 0).framesOn 0) := by
  intro s
  have run : Runs (fun s action => limitHeld 4 action ∧
      resetsConfirmed 4 s action) "pool" s := runs_final (by decide +kernel)
  have startsAgain : (s.connections 0).requestCount = 0 := by decide +kernel
  clear_value s
  exact ⟨startsAgain, (periodic_confirmation run).1 0 0⟩

/-- Three statements with a message each, one without, and one with a message
again. -/
def emptyFourth : List Action :=
  let unanswered : Exchange := { write := [Sample.writable] }
  [1, 2, 3].flatMap (statement · [unanswered]) ++ statement 4 [] ++
    statement 5 [unanswered]

/-- The fourth starts the count again, and four statements in a row have sent
messages without any receipt. -/
theorem empty_session_resets :
    ¬ ∀ s, Runs (fun _ action => limitHeld 4 action ∧ receiptsOff action)
        "pool" s →
      ∀ y number, (s.connections y).socket.map Socket.number = some number →
        ConfirmedEvery (fun w => w.frame.receipt.isSome) 4
          ((s.connections y).framesOn number) := by
  intro alwaysConfirmed
  let s := final (fun _ action => limitHeld 4 action ∧ receiptsOff action)
    "pool" emptyFourth
  have run : Runs (fun _ action => limitHeld 4 action ∧ receiptsOff action)
      "pool" s := runs_final (by decide +kernel)
  let asked := confirming fun w => w.frame.receipt.isSome
  obtain ⟨isOpen, unsettled, four⟩ :
      (s.connections 0).socket.map Socket.number = some 0 ∧
        asked.Unsettled ((s.connections 0).framesOn 0)
          ((s.connections 0).framesOn 0) ∧
        (asked.counted ((s.connections 0).framesOn 0)).card = 4 := by
    decide +kernel
  clear_value s
  have fewer := alwaysConfirmed s run 0 0 isOpen _ (List.infix_refl _)
    unsettled
  rw [four] at fewer
  omega

end Executed

end Capstomp
