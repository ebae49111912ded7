import Capstomp.PeriodicConfirmation
import Capstomp.ParkedClean

/-!
# The ways back into `ready_`

`connection::release` clears the transaction id and lets the request count
start again from `request_limit` on.  A connection whose transaction another
session has committed, and one that `force_commit` has committed, go back to
the pool without it.
-/

namespace Capstomp

open General Connection

/-- As `connection::release` leaves it. -/
structure Connection.Released (limit : Nat) (c : Connection) : Prop where
  transactionId : c.transactionId = ""
  requestCount : c.requestCount < limit

/-- The members that `connection::release` takes care of are the same. -/
structure SameRelease (c d : Connection) : Prop where
  transactionId : c.transactionId = d.transactionId
  requestCount : c.requestCount = d.requestCount

variable {limit : Nat} {s after : System}

theorem release_released (positive : 0 < limit) (c : Connection) :
    (c.release limit).Released limit := by
  refine ⟨rfl, ?_⟩
  simp only [Connection.release]
  split <;> omega

/-- Releasing changes nothing exactly when there is nothing to do. -/
theorem sameRelease_iff (positive : 0 < limit) (c : Connection) (id : ConnId) :
    SameRelease (c.setSelf id) ((c.release limit).setSelf id) ↔
      c.Released limit := by
  constructor
  · intro same
    have released := release_released positive c
    have count : c.requestCount = (c.release limit).requestCount :=
      same.requestCount
    exact ⟨same.transactionId, count ▸ released.requestCount⟩
  · intro released
    have below : ¬ limit ≤ c.requestCount :=
      Nat.not_le.mpr released.requestCount
    exact ⟨released.transactionId, (if_neg below).symm⟩

/-! ## A COMMIT that leaves its socket open -/

/-- The wait meets the end of the stream before anything else ends it. -/
def waitHangsUp (c : Connection) : List Turn → Bool
  | [] => false
  | turn :: turns =>
      turn.readable &&
        match turn.recv with
        | .failed => false
        | .closed => true
        | .data packets parsed =>
            parsed && !packets.any c.hasCallback && waitHangsUp c turns

theorem waitHangsUp_congr {c d : Connection} (holds : c.stomplay = d.stomplay)
    (turns : List Turn) : waitHangsUp c turns = waitHangsUp d turns := by
  have callbacks : c.hasCallback = d.hasCallback := by
    funext packet
    cases packet <;> simp [hasCallback, holds]
  induction turns with
  | nil => rfl
  | cons turn turns induction => simp only [waitHangsUp, callbacks, induction]

/-- A wait closes the socket exactly when it meets the end of the stream. -/
theorem awaitReply_good (marker : String) (turns : List Turn) {c : Connection}
    (isOpen : c.good) (waiting : c.receiptReceived = false) :
    (leftBehind (awaitReply marker turns c)).good = !waitHangsUp c turns := by
  induction turns generalizing c with
  | nil => simp [awaitReply, bind, EStateM.bind, waiting, waitHangsUp, isOpen]
  | cons turn turns induction =>
      by_cases readable : turn.readable
      · rw [awaitReply_readable marker turns isOpen waiting readable]
        simp only [waitHangsUp, readable, Bool.true_and]
        cases turn.recv with
        | failed => simpa using isOpen
        | closed => simp [good]
        | data packets parsed =>
            have still : (c.dispatchAll packets).good := by
              rwa [good, dispatchAll_socket]
            cases parsed with
            | false => simpa using still
            | true =>
                simp only [if_true, Bool.true_and]
                cases called : packets.any c.hasCallback with
                | true =>
                    have ended : (c.dispatchAll packets).receiptReceived := by
                      rw [dispatchAll_receiptReceived, called, Bool.or_true]
                    rw [awaitReply_received marker turns ended]
                    simpa using still
                | false =>
                    have same := dispatchAll_of_silent called
                    have goesOn := induction still (by rw [same]; exact waiting)
                    rw [waitHangsUp_congr (d := c) (by rw [same])] at goesOn
                    simpa using goesOn
      · have quiet : turn.readable = false := by simpa using readable
        obtain ⟨error, thrown⟩ :=
          awaitReply_unreadable marker turns isOpen waiting quiet
        simpa [thrown, waitHangsUp, quiet] using isOpen

section Frames

variable [FrameBytes]

/-- The outcomes after which a forced COMMIT leaves an open socket. -/
def commitKeepsOpen (c : Connection) (id : String) (turns : Exchange) : Bool :=
  let size := (FrameBytes.data (framed (.commit id) true c)).length
  c.good && !(if goesOut size turns.write
    then waitHangsUp (requesting true c) turns.wait
    else hangsUp size turns.write)

theorem commitTransaction_good (c : Connection) (id : String)
    (turns : CommitTurns) :
    (c.commitTransaction id true turns).good =
      commitKeepsOpen c id turns.toExchange := by
  cases isOpen : c.good with
  | false =>
      have none : c.socket = none := by simpa [good] using isOpen
      have closed := (commitTransaction_continues id true turns c).closed none
      simp [good, closed, commitKeepsOpen, none]
  | true =>
      have exchanged : c.commitTransaction id true turns = leftBehind
          (exchange "commit_transaction" (.commit id) true turns.toExchange
            c) := rfl
      rw [exchanged]
      simp only [commitKeepsOpen, isOpen, Bool.true_and]
      rcases exchange_outcome isOpen "commit_transaction" (.commit id) true
        turns.toExchange with
        ⟨out, count, sent, result, rested⟩ | ⟨stops, abandoned⟩
      · obtain ⟨stillOpen, waiting, _, _, same⟩ := sent_awaits result
        simp only [rested, out, if_true]
        rw [leftBehind_read, awaitReply_good _ _ stillOpen waiting,
          waitHangsUp_congr same]
      · simp only [stops, Bool.false_eq_true, if_false]
        unfold Abandoned at abandoned
        dsimp only at abandoned
        split at abandoned
        · next hung => simp [abandoned, hung, good]
        · next stays =>
            obtain ⟨packets, final⟩ := abandoned
            rw [final, good, dispatchAll_socket, ← good, accept_good,
              requesting_good, isOpen]
            simpa using stays

/-- The step parks a connection, and not through `connection::release`. -/
def parksUnreleased (s : System) : Action → Bool
  | .releaseDeferred sid poolSockets =>
      match (s.sessions sid).phase with
      | .returning connection _ _ =>
          s.pool.parks poolSockets (s.connections connection).good
      | _ => false
  | .forceNext poolSockets turns =>
      match s.pointed with
      | some transaction => transaction.ready &&
          s.pool.parks poolSockets (commitKeepsOpen
            (s.connections transaction.connection) transaction.id
            turns.toExchange)
      | none => false
  | _ => false

theorem Parks.unreleased {action : Action} {c : ConnId}
    (parks : Parks s after action c) :
    (∃ sid requestLimit poolSockets,
        action = .release sid requestLimit poolSockets ∧
        after.connections c = ((s.own sid).release requestLimit).setSelf c) ∨
      parksUnreleased s action := by
  cases parks with
  | own isOpen parked => exact .inl ⟨_, _, _, rfl, parked⟩
  | deferred returning parks parked =>
      right
      simpa [parksUnreleased, returning] using parks
  | forced pointed ready committed parks parked =>
      right
      rw [committed, commitTransaction_good] at parks
      simp [parksUnreleased, pointed, ready, parks]

end Frames

/-! ## A connection that is returned has a transaction -/

/-- The connection that a session is to give back for another one. -/
def Deferring (s : System) : Prop :=
  ∀ sid c batch receipt,
    (s.sessions sid).phase = .returning c batch receipt →
      (s.connections c).withTransaction

section Steps

variable [QueryDecoding] [PassHash] [FrameBytes]

/-- A session has been returning a connection, or it has just committed for
it. -/
theorem System.returning_cases {action : Action} {sid : SessionId}
    {c : ConnId} {batch : List Transaction} {receipt : Bool}
    (stepped : s.step action = some after)
    (returning : (after.sessions sid).phase = .returning c batch receipt) :
    ((s.sessions sid).phase = .returning c batch receipt ∧
        action.thread ≠ .session sid) ∨
      ∃ turns transaction, action = .commitTransaction sid turns ∧
        (s.sessions sid).phase = .committing transaction batch receipt ∧
        transaction.connection = c ∧
        after.connections c = (s.connections c).commitTransaction
          transaction.id receipt turns := by
  have unchanged (same : after.sessions = s.sessions)
      (notSession : action.thread ≠ .session sid) :
      (s.sessions sid).phase = .returning c batch receipt ∧
        action.thread ≠ .session sid :=
    ⟨by rw [← same]; exact returning, notSession⟩
  have others {actor : SessionId} {session : Session}
      (thread : action.thread = .session actor)
      (sessions : after.sessions = Function.update s.sessions actor session)
      (elsewhere : ∀ c batch receipt,
        session.phase ≠ .returning c batch receipt) :
      (s.sessions sid).phase = .returning c batch receipt ∧
        action.thread ≠ .session sid := by
    by_cases same : sid = actor
    · subst same
      rw [sessions, Function.update_self] at returning
      exact absurd returning (elsewhere c batch receipt)
    · rw [sessions, Function.update_of_ne same] at returning
      refine ⟨returning, ?_⟩
      rw [thread]
      rintro ⟨rfl⟩
      exact same rfl
  have afterBatch (batch : List Transaction) (receipt : Bool) (c : ConnId)
      (batch' : List Transaction) (receipt' : Bool) :
      System.afterBatch batch receipt ≠ .returning c batch' receipt' := by
    cases batch <;> simp [System.afterBatch]
  cases action with
  | get actor uri maxPoolSockets =>
      left
      obtain ⟨idle, _, rfl | ⟨obtained, _, rfl⟩⟩ := System.get_cases stepped
      · refine ⟨returning, ?_⟩
        rintro ⟨rfl⟩
        simp [idle] at returning
      · exact others rfl (System.handOver_sessions ..) (by simp)
  | connect actor turns =>
      left
      obtain ⟨_, _, ⟨connected, _, rfl⟩ | ⟨_, failed, _, rfl⟩⟩ :=
        System.connect_cases stepped
      · refine others rfl rfl ?_
        dsimp only
        split <;> simp
      · refine others rfl rfl ?_
        dsimp only
        split <;> simp
  | createTransaction actor =>
      obtain ⟨self, _, _, _, rfl⟩ := System.createTransaction_cases stepped
      exact .inl (others rfl rfl (by simp))
  | begin actor requestLimit turns =>
      left
      obtain ⟨_, ⟨begun, _, rfl⟩ | ⟨_, failed, _, rfl⟩⟩ :=
        System.begin_cases stepped
      · exact others rfl rfl (by simp)
      · refine others rfl rfl ?_
        dsimp only
        split <;> simp
  | content actor row now requestLimit turns =>
      obtain ⟨rows, rfl⟩ := System.content_cases stepped
      exact .inl (others rfl rfl (by simp [rows]))
  | deinit actor =>
      obtain ⟨_, rfl⟩ := System.deinit_cases stepped
      exact .inl (others rfl rfl (by simp))
  | commit actor endReady requestLimit =>
      left
      obtain ⟨_, ⟨_, rfl⟩ | ⟨_, taken, _, _, _, _, _, rfl⟩⟩ :=
        System.commit_cases stepped
      · exact others rfl rfl (by simp)
      · refine others rfl rfl ?_
        dsimp only
        split
        · simp
        · exact afterBatch taken _
  | commitTransaction actor turns =>
      obtain ⟨transaction, rest, asked, committing, rfl⟩ :=
        System.commitTransaction_cases stepped
      by_cases same : sid = actor
      · subst same
        right
        simp only [System.setPhase_sessions, System.attempt_sessions,
          Function.update_self] at returning
        split at returning
        · exact absurd returning (afterBatch _ _ _ _ _)
        · cases returning
          exact ⟨turns, transaction, rfl, committing, rfl, by simp⟩
      · left
        simp only [System.setPhase_sessions, System.attempt_sessions,
          Function.update_of_ne same] at returning
        refine ⟨returning, ?_⟩
        rintro ⟨rfl⟩
        exact same rfl
  | releaseDeferred actor poolSockets =>
      obtain ⟨x, rest, asked, _, _, rfl⟩ :=
        System.releaseDeferred_cases stepped
      exact .inl (others rfl rfl (afterBatch rest asked))
  | release actor requestLimit poolSockets =>
      obtain ⟨self, _, _, _, rfl⟩ := System.release_cases stepped
      exact .inl (others rfl rfl (by simp))
  | forceLock =>
      obtain ⟨_, rfl⟩ := System.forceLock_cases stepped
      exact .inl (unchanged rfl (by simp [Action.thread]))
  | forceNext poolSockets turns =>
      obtain ⟨forcing, transaction, _, _, ⟨_, rfl⟩ | ⟨pointed, _, _, _, rfl⟩⟩ :=
        System.forceNext_cases stepped
      · exact .inl (unchanged rfl (by simp [Action.thread]))
      · exact .inl (unchanged (by simp) (by simp [Action.thread]))
  | forceUnlock =>
      obtain ⟨_, _, _, rfl⟩ := System.forceUnlock_cases stepped
      exact .inl (unchanged rfl (by simp [Action.thread]))

theorem Deferring.step {action : Action} (deferring : Deferring s)
    (custody : Custody s) (queue : Queue s) (next : Custody after)
    (stepped : s.step action = some after) : Deferring after := by
  intro sid c batch receipt returning
  have held {state : System}
      (phase : (state.sessions sid).phase = .returning c batch receipt) :
      state.Uses (.session sid) c := by
    simp [System.Uses, Session.held, phase]
  rcases System.returning_cases stepped returning with
    ⟨was, notSession⟩ | ⟨turns, transaction, _, committing, rfl, committed⟩
  · by_cases same : after.connections c = s.connections c
    · rw [same]
      exact deferring sid c batch receipt was
    · rcases System.step_local custody queue stepped same with uses | uses
      · exact absurd (custody.uses_unique uses (held was)) notSession
      · exact absurd (next.uses_unique uses (held returning)) notSession
  · have linked := custody.linked_batch sid transaction
      (by simp [committing, Phase.batch])
    have continues := commitTransaction_continues transaction.id receipt turns
      (s.connections transaction.connection)
    rw [committed, continues.toSameHandle.withTransaction]
    exact linked.withTransaction

/-- What is parked so has its transaction still. -/
theorem parked_unreleased {action : Action} (deferring : Deferring s)
    (custody : Custody s) (queue : Queue s)
    (stepped : s.step action = some after)
    (unreleased : parksUnreleased s action) :
    ∃ c ∈ after.pool.ready, (after.connections c).withTransaction := by
  cases action with
  | releaseDeferred sid poolSockets =>
      obtain ⟨c, batch, receipt, returning, _, rfl⟩ :=
        System.releaseDeferred_cases stepped
      simp only [parksUnreleased, returning] at unreleased
      refine ⟨c, ?_, ?_⟩
      · simp [Pool.releaseConnection, unreleased]
      · have begun := deferring sid c batch receipt returning
        simp only [System.setPhase_connections,
          System.releaseConnection_connections, Function.update_self,
          unreleased, if_true]
        exact begun
  | forceNext poolSockets turns =>
      obtain ⟨forcing, transaction, forced, located, cases⟩ :=
        System.forceNext_cases stepped
      have isPointed : s.pointed = some transaction := by
        simp [System.pointed, forced, located]
      simp only [parksUnreleased, isPointed, Bool.and_eq_true] at unreleased
      obtain ⟨ready, parks⟩ := unreleased
      rcases cases with ⟨unready, _⟩ | ⟨pointed, _, found, _, rfl⟩
      · simp [ready] at unready
      · have same := custody.pointed_eq queue.distinct
          (List.mem_of_getElem? located) found
        subst same
        have linked := custody.linked_store pointed
          (List.mem_of_getElem? located)
        have continues := commitTransaction_continues pointed.id true turns
          (s.connections pointed.connection)
        rw [← commitTransaction_good] at parks
        refine ⟨pointed.connection, ?_, ?_⟩
        · simp [Pool.eraseTransaction, Pool.releaseConnection, parks]
        · have begun := continues.toSameHandle.withTransaction.trans
            linked.withTransaction
          rw [System.forceCommit_connection, Function.update_self, if_pos parks]
          exact begun
  | _ => simp [parksUnreleased] at unreleased

end Steps

section Runs

variable [QueryDecoding] [PassHash] [FrameBytes]
variable {allowed : System → Action → Prop} {name : String}

theorem Runs.deferring (run : Runs allowed name s) : Deferring s :=
  Reaches.invariant run (by simp [Deferring, System.init])
    fun _ _ _ reached deferring permitted stepped =>
      deferring.step (Runs.custody reached) (Runs.queue reached)
        (Runs.custody (reached.next permitted stepped)) stepped

theorem released_step {action : Action} (positive : 0 < limit)
    (custody : Custody s) (queue : Queue s) (next : Custody after)
    (released : ∀ c ∈ s.pool.ready, (s.connections c).Released limit)
    (held : limitHeld limit action)
    (throughRelease : parksUnreleased s action = false)
    (stepped : s.step action = some after) :
    ∀ c ∈ after.pool.ready, (after.connections c).Released limit := by
  intro c parked
  rcases System.ready_cases custody queue stepped parked with old | parks
  · rw [ready_unchanged custody queue next stepped old parked]
    exact released c old
  · rcases parks.unreleased with
      ⟨sid, requestLimit, poolSockets, rfl, same⟩ | unreleased
    · cases held
      have clean := release_released positive (s.own sid)
      rw [same]
      exact ⟨clean.transactionId, clean.requestCount⟩
    · simp [throughRelease] at unreleased

theorem Runs.parked_released (run : Runs allowed name s) (positive : 0 < limit)
    (held : ∀ s action, allowed s action → limitHeld limit action)
    (throughRelease : ∀ s action after, Runs allowed name s →
      allowed s action → s.step action = some after →
        parksUnreleased s action = false) :
    ∀ c ∈ s.pool.ready, (s.connections c).Released limit :=
  Reaches.invariant run (by simp [System.init])
    fun before action after reached released permitted stepped =>
      released_step positive (Runs.custody reached) (Runs.queue reached)
        (Runs.custody (reached.next permitted stepped)) released
        (held before action permitted)
        (throughRelease before action after reached permitted stepped) stepped

/-- Given back as it is, a connection is parked like one that was released
exactly when there was nothing to do.  Over the runs of any sessions: every
parked connection is as `connection::release` leaves it, exactly when none is
parked without it. -/
theorem release_paths_iff (positive : 0 < limit) :
    (∀ (s : System) (poolSockets : Nat) (id : ConnId),
      s.pool.parks poolSockets (s.connections id).good →
        (SameRelease
            ((s.releaseConnection poolSockets id).connections id)
            ((s.setConnection id ((s.connections id).release limit)
              |>.releaseConnection poolSockets id).connections id) ↔
          (s.connections id).Released limit)) ∧
    ∀ (allowed : System → Action → Prop) (name : String),
      (∀ s action, allowed s action → limitHeld limit action) →
        ((∀ s, Runs allowed name s →
            ∀ c ∈ s.pool.ready, (s.connections c).Released limit) ↔
          ∀ s action after, Runs allowed name s → allowed s action →
            s.step action = some after → parksUnreleased s action = false) := by
  refine ⟨?paths, ?runs⟩
  case paths =>
      intro s poolSockets id parks
      have released : ((s.connections id).release limit).good =
          (s.connections id).good := rfl
      simp only [System.releaseConnection_connections,
        System.setConnection_connections, System.setConnection_pool,
        Function.update_self, released, parks, if_true]
      exact sameRelease_iff positive (s.connections id) id
  case runs =>
      intro allowed name held
      constructor
      · intro released s action after run permitted stepped
        apply Bool.eq_false_iff.mpr
        intro unreleased
        obtain ⟨c, parked, begun⟩ := parked_unreleased run.deferring
          run.custody run.queue stepped unreleased
        have clean := released after (run.next permitted stepped) c parked
        simp [Connection.withTransaction, clean.transactionId] at begun
      · intro throughRelease s run
        exact run.parked_released positive held throughRelease

end Runs

section Executed

open scoped Sample

/-- The rest of `capstomp_init`, with the given wait for its BEGIN. -/
def starts (sid : SessionId) (wait : List Turn) : List Action :=
  [.connect sid Sample.connects, .createTransaction sid,
    .begin sid 4 { write := [Sample.writable], wait := wait }]

/-- A statement without rows that commits for itself. -/
def commitsItself (sid : SessionId) : List Action :=
  .get sid (Sample.uri "transaction=true") 8 :: starts sid [] ++
    [.deinit sid, .commit sid false 4,
      .commitTransaction sid { write := [Sample.writable] },
      .release sid 4 8]

theorem release_paths_itself :
    let allowed : System → Action → Prop := fun s action =>
      limitHeld 4 action ∧ parksUnreleased s action = false
    let s := final allowed "pool" (commitsItself 1)
    s.pool.ready = [0] ∧
      ∀ c ∈ s.pool.ready, (s.connections c).Released 4 := by
  intro allowed s
  have run : Runs allowed "pool" s := runs_final (by decide +kernel)
  have parked : s.pool.ready = [0] := by decide +kernel
  clear_value s
  have positive : 0 < 4 := by decide
  have paths := (release_paths_iff positive).2 allowed "pool"
    fun _ _ permitted => permitted.1
  exact ⟨parked, paths.mpr (fun _ _ _ _ permitted _ => permitted.2) s run⟩

/-- Three statements use one socket.  A fourth uses it too and ends before a
fifth, which has begun its transaction earlier on another socket and commits
for both. -/
def overtaken : List Action :=
  commitsItself 1 ++ commitsItself 2 ++ commitsItself 3 ++
    [.get 4 (Sample.uri "transaction=true") 8,
      .get 5 (Sample.uri "transaction=true") 8] ++
    starts 5 [] ++ starts 4 [Sample.heard [.receipt 0]] ++
    [.deinit 4, .commit 4 false 4, .deinit 5, .commit 5 false 4,
      .commitTransaction 5 (Sample.confirmed 0),
      .commitTransaction 5 (Sample.confirmed 1), .releaseDeferred 5 8]

/-- The first socket is parked with a transaction that is over, and with a
count that has reached the limit. -/
theorem overtaken_unreleased :
    (¬ ∀ s, Runs (fun _ action => limitHeld 4 action) "pool" s →
      ∀ c ∈ s.pool.ready, (s.connections c).transactionId = "") ∧
    ¬ ∀ s, Runs (fun _ action => limitHeld 4 action) "pool" s →
      ∀ c ∈ s.pool.ready, (s.connections c).requestCount < 4 := by
  let s := final (fun _ action => limitHeld 4 action) "pool" overtaken
  have run : Runs (fun _ action => limitHeld 4 action) "pool" s :=
    runs_final (by decide +kernel)
  obtain ⟨parked, named, atLimit⟩ : 0 ∈ s.pool.ready ∧
      (s.connections 0).transactionId = "5@pool" ∧
        (s.connections 0).requestCount = 4 := by
    decide +kernel
  clear_value s
  constructor
  · intro alwaysUnnamed
    have unnamed := alwaysUnnamed s run 0 parked
    simp [named] at unnamed
  · intro alwaysBelow
    have below := alwaysBelow s run 0 parked
    omega

end Executed

end Capstomp
