import Capstomp.CommitOrder
import Capstomp.EveryConnection
import Capstomp.ExactlyOnce

/-!
# One call of `pool::force_commit`

`force_commit` walks over the store under the mutex, follows the pointers from
a transaction to its connection and back, erases from the list it walks on and
frees the connections it uses.  The pointers it follows agree in every state
of a pool, so that no turn of its loop gets stuck, and the whole call, with
the steps other threads take meanwhile, does with every transaction what its
flag says.
-/

namespace Capstomp

open General

/-- The transactions of the store and their connections point to each
other. -/
structure BackPointers (s : System) : Prop where
  distinct : (s.pool.transactionStore.map Transaction.connection).Nodup
  active : ∀ transaction ∈ s.pool.transactionStore,
    transaction.connection ∈ s.pool.active
  self : ∀ transaction ∈ s.pool.transactionStore,
    (s.connections transaction.connection).self = some transaction.connection
  linked : ∀ transaction ∈ s.pool.transactionStore,
    Linked (s.connections transaction.connection) transaction

theorem Custody.backPointers {s : System} (custody : Custody s) :
    BackPointers s := by
  constructor
  · exact custody.store_nodup
  · intro transaction member
    obtain ⟨place, away, held⟩ := custody.place_of_store member
    exact custody.mem_active_of_place away held
  · intro transaction member
    obtain ⟨place, _, held⟩ := custody.place_of_store member
    exact custody.self place _ held
  · exact custody.linked_store

/-- What a turn of the loop does with the transaction it stands at: a ready
one is committed with a receipt, on its own connection, which is released. -/
def System.forceTurn [FrameBytes] (poolSockets : Nat) (turns : CommitTurns)
    (forcing : Forcing) (transaction : Transaction) (s : System) : System :=
  if transaction.ready then
    s.forceCommit poolSockets turns forcing transaction transaction
  else { s with forcing := some forcing.skip }

variable {s after : System}

/-- No turn of the loop is stuck, whatever its commit meets. -/
theorem forceNext_turn [FrameBytes] (custody : Custody s) (queue : Queue s)
    {forcing : Forcing} {transaction : Transaction}
    (forced : s.forcing = some forcing)
    (located : s.pool.transactionStore[forcing.position]? = some transaction)
    (poolSockets : Nat) (turns : CommitTurns) :
    s.forceNext poolSockets turns =
      some (s.forceTurn poolSockets turns forcing transaction) := by
  have member := List.mem_of_getElem? located
  have pointers := custody.backPointers
  cases ready : transaction.ready with
  | false => simp [System.forceNext, System.forceTurn, forced, located, ready]
  | true =>
      -- The connection points back to the transaction it was reached from.
      have points := (pointers.linked transaction member).node
      obtain ⟨pointed, found⟩ := Option.isSome_iff_exists.mp
        (List.find?_isSome (p := fun other =>
          (s.connections transaction.connection).transaction =
            some other.node).mpr ⟨transaction, member, by simp [points]⟩)
      have same := custody.pointed_eq queue.distinct member found
      subst same
      simp [System.forceNext, System.forceTurn, forced, located, ready, found,
        pointers.self pointed member]

/-- At the end of the store the call returns. -/
theorem forceUnlock_past {forcing : Forcing}
    (forced : s.forcing = some forcing)
    (past : s.pool.transactionStore.length ≤ forcing.position) :
    s.forceUnlock = some { s with forcing := none } := by
  simp [System.forceUnlock, forced, Nat.not_lt.mpr past]

section Call

variable [QueryDecoding] [PassHash] [FrameBytes]

/-- A call of `force_commit` from `start` on, before it returns: the
transactions its loop has passed, and the state that these turns and the steps
of other threads have led to. -/
inductive Forces (start : System) : List Transaction → System → Prop
  | lock {s : System} (stepped : start.step .forceLock = some s) :
      Forces start [] s
  | turn {visited : List Transaction} {s after : System}
      {transaction : Transaction} {poolSockets : Nat} {turns : CommitTurns}
      (forces : Forces start visited s)
      (pointed : s.pointed = some transaction)
      (stepped : s.step (.forceNext poolSockets turns) = some after) :
      Forces start (visited ++ [transaction]) after
  | other {visited : List Transaction} {s after : System} {action : Action}
      (forces : Forces start visited s)
      (another : action.thread ≠ .administrator)
      (stepped : s.step action = some after) : Forces start visited after

theorem Forces.runs {start : System} {name : String}
    {visited : List Transaction} (forces : Forces start visited s)
    (run : Runs anything name start) : Runs anything name s := by
  induction forces with
  | lock stepped => exact run.next trivial stepped
  | turn _ _ stepped induction => exact induction.next trivial stepped
  | other _ _ stepped induction => exact induction.next trivial stepped

end Call

/-- While `force_commit` holds the mutex, the steps of other threads leave the
pool alone; they record at most the COMMIT of a transaction taken before. -/
structure LeavesPool (s after : System) : Prop where
  pool : after.pool = s.pool
  forcing : after.forcing = s.forcing
  trace : ∃ more, after.trace = s.trace ++ more ∧
    ∀ event ∈ more, ∃ sid, ∃ transaction ∈ (s.sessions sid).phase.batch,
      ∃ sent, event =
        .attempted transaction.node transaction.connection sent
  batches : ∀ sid, ∀ transaction ∈ (after.sessions sid).phase.batch,
    transaction ∈ (s.sessions sid).phase.batch

theorem batches_shrink {sid : SessionId} {session : Session}
    (sessions : after.sessions = Function.update s.sessions sid session)
    (batch : ∀ transaction ∈ session.phase.batch,
      transaction ∈ (s.sessions sid).phase.batch) :
    ∀ other, ∀ transaction ∈ (after.sessions other).phase.batch,
      transaction ∈ (s.sessions other).phase.batch := by
  intro other transaction member
  rw [sessions] at member
  by_cases same : other = sid
  · subst same
    rw [Function.update_self] at member
    exact batch transaction member
  · rwa [Function.update_of_ne same] at member

/-- One session goes on, and nothing is recorded. -/
theorem LeavesPool.ofSession {sid : SessionId} {session : Session}
    (pool : after.pool = s.pool) (forcing : after.forcing = s.forcing)
    (trace : after.trace = s.trace)
    (sessions : after.sessions = Function.update s.sessions sid session)
    (batch : ∀ transaction ∈ session.phase.batch,
      transaction ∈ (s.sessions sid).phase.batch) : LeavesPool s after := by
  constructor
  · exact pool
  · exact forcing
  · exact ⟨[], by simp [trace], by simp⟩
  · exact batches_shrink sessions batch

theorem leavesPool_step [QueryDecoding] [PassHash] [FrameBytes]
    {action : Action} {forcing : Forcing} (forced : s.forcing = some forcing)
    (another : action.thread ≠ .administrator)
    (stepped : s.step action = some after) : LeavesPool s after := by
  have held : s.forcing ≠ none := by simp [forced]
  cases action with
  | get sid uri maxPoolSockets =>
      obtain ⟨_, unlocked, _⟩ := System.get_cases stepped
      exact absurd unlocked held
  | connect sid turns =>
      obtain ⟨_, _, ⟨c, _, rfl⟩ | ⟨_, c, _, rfl⟩⟩ :=
        System.connect_cases stepped
      all_goals
        refine LeavesPool.ofSession rfl rfl rfl rfl ?_
        dsimp only
        split <;> simp [Phase.batch]
  | createTransaction sid =>
      obtain ⟨_, _, _, unlocked, _⟩ := System.createTransaction_cases stepped
      exact absurd unlocked held
  | begin sid requestLimit turns =>
      obtain ⟨_, ⟨c, _, rfl⟩ | ⟨_, c, _, rfl⟩⟩ := System.begin_cases stepped
      · exact .ofSession rfl rfl rfl rfl (by simp [Phase.batch])
      · refine LeavesPool.ofSession rfl rfl rfl rfl ?_
        dsimp only
        split <;> simp [Phase.batch]
  | content sid row now requestLimit turns =>
      obtain ⟨_, rfl⟩ := System.content_cases stepped
      exact .ofSession rfl rfl rfl rfl fun _ member => member
  | deinit sid =>
      obtain ⟨_, rfl⟩ := System.deinit_cases stepped
      exact .ofSession rfl rfl rfl rfl (by simp [Phase.batch])
  | commit sid endReady requestLimit =>
      obtain ⟨_, ⟨_, rfl⟩ | ⟨_, _, _, _, _, unlocked, _⟩⟩ :=
        System.commit_cases stepped
      · exact .ofSession rfl rfl rfl rfl (by simp [Phase.batch])
      · exact absurd unlocked held
  | commitTransaction sid turns =>
      obtain ⟨transaction, batch, receipt, committing, rfl⟩ :=
        System.commitTransaction_cases stepped
      constructor
      · rfl
      · rfl
      · refine ⟨_, rfl, ?_⟩
        intro event member
        rw [List.mem_singleton] at member
        exact ⟨sid, transaction, by simp [committing, Phase.batch], _, member⟩
      · refine batches_shrink rfl ?_
        intro other member
        rw [committing, Phase.batch]
        dsimp only at member
        split at member
        · exact List.mem_cons_of_mem _ (by simpa using member)
        · exact List.mem_cons_of_mem _ member
  | releaseDeferred sid poolSockets =>
      obtain ⟨_, _, _, _, unlocked, _⟩ := System.releaseDeferred_cases stepped
      exact absurd unlocked held
  | release sid requestLimit poolSockets =>
      obtain ⟨_, _, _, unlocked, _⟩ := System.release_cases stepped
      exact absurd unlocked held
  | forceLock => exact absurd rfl another
  | forceNext poolSockets turns => exact absurd rfl another
  | forceUnlock => exact absurd rfl another

/-! ## A commit in the loop -/

/-- The connection of the transaction is parked or destroyed. -/
theorem forceCommit_ready [FrameBytes] (poolSockets : Nat)
    (turns : CommitTurns) (forcing : Forcing) (transaction : Transaction)
    (s : System) :
    let after := s.forceCommit poolSockets turns forcing transaction transaction
    after.pool.ready = s.pool.ready ∨
      after.pool.ready = transaction.connection :: s.pool.ready := by
  simp only [System.forceCommit_pool, Pool.eraseTransaction,
    System.releaseConnection_pool, Pool.releaseConnection]
  split
  · exact .inr rfl
  · exact .inl rfl

/-- What is recorded of a transaction whose connection is active. -/
theorem forceCommit_record [FrameBytes] (poolSockets : Nat)
    (turns : CommitTurns) (forcing : Forcing) {transaction : Transaction}
    (active : transaction.connection ∈ s.pool.active) :
    ∃ sent, (s.forceCommit poolSockets turns forcing transaction
        transaction).trace =
      s.trace ++ [.attempted transaction.node transaction.connection sent,
        .released transaction.connection true, .taken transaction.node] := by
  let c := s.connections transaction.connection
  refine ⟨decide (c.written.length <
    (c.commitTransaction transaction.id true turns).written.length), ?_⟩
  simp [c, active]

/-! ## The course of a call -/

def Event.attempt : Event → Option (Nat × ConnId)
  | .attempted node c _ => some (node, c)
  | _ => none

def Event.release : Event → Option (ConnId × Bool)
  | .released c inActive => some (c, inActive)
  | _ => none

/-- The ready transactions of a list, in its order. -/
def readyOnes (transactions : List Transaction) : List Transaction :=
  transactions.filter Transaction.ready

/-- Those that are not, in its order. -/
def unreadyOnes (transactions : List Transaction) : List Transaction :=
  transactions.filter fun transaction => !transaction.ready

/-- What was recorded while these transactions were removed: each was
committed once on its own connection and taken out once, and its connection
released once, while it was in `active_`.  Of the attempts only those on
connections of the store are counted. -/
structure Records (store removed : List Transaction) (trace : List Event) :
    Prop where
  attempts : (trace.filterMap Event.attempt).filter
      (fun attempt => attempt.2 ∈ store.map Transaction.connection) =
    removed.map fun transaction => (transaction.node, transaction.connection)
  releases : trace.filterMap Event.release =
    removed.map fun transaction => (transaction.connection, true)
  taken : takenNodes trace = removed.map Transaction.node

namespace Records

variable {store removed more : List Transaction} {trace later : List Event}

theorem append (records : Records store removed trace)
    (continued : Records store more later) :
    Records store (removed ++ more) (trace ++ later) := by
  constructor
  · rw [List.filterMap_append, List.filter_append, records.attempts,
      continued.attempts, List.map_append]
  · rw [List.filterMap_append, records.releases, continued.releases,
      List.map_append]
  · rw [takenNodes, List.filterMap_append, List.map_append, ← records.taken,
      ← continued.taken]
    rfl

/-- Attempts on other connections do not count. -/
theorem ofOthers
    (others : ∀ event ∈ later, ∃ node c sent,
      event = .attempted node c sent ∧
        c ∉ store.map Transaction.connection) : Records store [] later := by
  constructor
  · simp only [List.map_nil, List.filter_eq_nil_iff, List.mem_filterMap]
    rintro attempt ⟨event, member, isAttempt⟩
    obtain ⟨node, c, sent, rfl, away⟩ := others event member
    cases isAttempt
    simpa using away
  · rw [List.map_nil, List.filterMap_eq_nil_iff]
    intro event member
    obtain ⟨node, c, sent, rfl, _⟩ := others event member
    rfl
  · rw [List.map_nil, takenNodes, List.filterMap_eq_nil_iff]
    intro event member
    obtain ⟨node, c, sent, rfl, _⟩ := others event member
    rfl

end Records

/-- The state of a call that has passed these transactions. -/
structure Progress (start : System) (visited : List Transaction)
    (s : System) : Prop where
  forcing : s.forcing = some
    { position := (unreadyOnes visited).length
      count := (readyOnes visited).length }
  store : ∃ rest, start.pool.transactionStore = visited ++ rest ∧
    s.pool.transactionStore = unreadyOnes visited ++ rest
  active : ∀ c, c ∈ s.pool.active ↔ c ∈ start.pool.active ∧
    c ∉ (readyOnes visited).map Transaction.connection
  parked : ∃ parked : List ConnId,
    parked.Sublist ((readyOnes visited).map Transaction.connection) ∧
      s.pool.ready = parked.reverse ++ start.pool.ready
  record : ∃ more, s.trace = start.trace ++ more ∧
    Records start.pool.transactionStore (readyOnes visited) more
  batches : ∀ sid, ∀ transaction ∈ (s.sessions sid).phase.batch,
    transaction.connection ∉
      start.pool.transactionStore.map Transaction.connection

namespace Progress

variable {start : System} {visited : List Transaction}
  {transaction : Transaction}

/-- No transaction of a batch is on a connection of the store. -/
theorem batches_apart (custody : Custody s) :
    ∀ sid, ∀ transaction ∈ (s.sessions sid).phase.batch,
      transaction.connection ∉
        s.pool.transactionStore.map Transaction.connection := by
  intro sid transaction batched member
  obtain ⟨other, stored, same⟩ := List.mem_map.mp member
  have finished : (s.sessions sid).phase.unfinished = false := by
    cases phase : (s.sessions sid).phase <;>
      simp_all [Phase.batch, Phase.unfinished]
  exact custody.not_stored (Custody.place_of_batch batched) finished other
    stored same

theorem lock (custody : Custody start) :
    Progress start [] { start with forcing := some {} } := by
  constructor
  · rfl
  · exact ⟨start.pool.transactionStore, rfl, rfl⟩
  · simp [readyOnes]
  · exact ⟨[], by simp [readyOnes], rfl⟩
  · exact ⟨[], by simp, ⟨rfl, rfl, rfl⟩⟩
  · exact batches_apart (s := start) custody

/-- The next transaction of the store. -/
theorem pointed (progress : Progress start visited s)
    (pointed : s.pointed = some transaction) :
    ∃ rest, start.pool.transactionStore = visited ++ transaction :: rest ∧
      s.pool.transactionStore = unreadyOnes visited ++ transaction :: rest := by
  obtain ⟨rest, before, now⟩ := progress.store
  simp only [System.pointed, progress.forcing, Option.bind_some, now,
    List.getElem?_append_right (Nat.le_refl _), Nat.sub_self] at pointed
  cases rest with
  | nil => cases pointed
  | cons head rest =>
      cases pointed
      exact ⟨rest, before, now⟩

theorem other (progress : Progress start visited s)
    (leaves : LeavesPool s after) : Progress start visited after := by
  obtain ⟨more, record, records⟩ := progress.record
  constructor
  · exact leaves.forcing.trans progress.forcing
  · exact leaves.pool ▸ progress.store
  · exact leaves.pool ▸ progress.active
  · exact leaves.pool ▸ progress.parked
  · obtain ⟨later, longer, batched⟩ := leaves.trace
    refine ⟨more ++ later, ?_, ?_⟩
    · rw [longer, record, List.append_assoc]
    · rw [← List.append_nil (readyOnes visited)]
      apply records.append
      apply Records.ofOthers
      intro event member
      obtain ⟨sid, transaction, inBatch, sent, isAttempt⟩ :=
        batched event member
      exact ⟨_, _, sent, isAttempt, progress.batches sid transaction inBatch⟩
  · intro sid transaction member
    exact progress.batches sid transaction
      (leaves.batches sid transaction member)

theorem skip (progress : Progress start visited s)
    (pointed : s.pointed = some transaction)
    (unready : transaction.ready = false) {forcing : Forcing}
    (forced : s.forcing = some forcing) :
    Progress start (visited ++ [transaction])
      { s with forcing := some forcing.skip } := by
  have isForcing := progress.forcing
  rw [forced, Option.some.injEq] at isForcing
  subst isForcing
  have readies : readyOnes (visited ++ [transaction]) = readyOnes visited := by
    simp [readyOnes, unready]
  have unreadies : unreadyOnes (visited ++ [transaction]) =
      unreadyOnes visited ++ [transaction] := by
    simp [unreadyOnes, unready]
  obtain ⟨rest, before, now⟩ := progress.pointed pointed
  constructor
  · simp [Forcing.skip, readies, unreadies]
  · refine ⟨rest, by simp [before], ?_⟩
    simp [now, unreadies]
  · rw [readies]
    exact progress.active
  · rw [readies]
    exact progress.parked
  · rw [readies]
    exact progress.record
  · exact progress.batches

theorem commit [FrameBytes] (progress : Progress start visited s)
    (custody : Custody s) (pointed : s.pointed = some transaction)
    (ready : transaction.ready) {forcing : Forcing}
    (forced : s.forcing = some forcing) (poolSockets : Nat)
    (turns : CommitTurns) :
    Progress start (visited ++ [transaction])
      (s.forceCommit poolSockets turns forcing transaction transaction) := by
  have isForcing := progress.forcing
  rw [forced, Option.some.injEq] at isForcing
  subst isForcing
  have readies : readyOnes (visited ++ [transaction]) =
      readyOnes visited ++ [transaction] := by
    simp [readyOnes, ready]
  have unreadies : unreadyOnes (visited ++ [transaction]) =
      unreadyOnes visited := by
    simp [unreadyOnes, ready]
  obtain ⟨rest, before, now⟩ := progress.pointed pointed
  have member : transaction ∈ s.pool.transactionStore := by simp [now]
  have wasActive := custody.backPointers.active transaction member
  constructor
  · simp [Forcing.committed, readies, unreadies]
  · refine ⟨rest, by simp [before], ?_⟩
    rw [unreadies]
    simp [Pool.eraseTransaction, now, List.eraseIdx_append_of_length_le]
  · intro c
    rw [readies]
    simp [Pool.eraseTransaction, custody.active_nodup.mem_erase_iff,
      progress.active c]
    tauto
  · obtain ⟨parked, sublist, isReady⟩ := progress.parked
    rw [readies, List.map_append]
    rcases forceCommit_ready poolSockets turns _ transaction s with
      destroyed | isParked
    · exact ⟨parked, sublist.trans (List.sublist_append_left _ _),
        destroyed.trans isReady⟩
    · refine ⟨parked ++ [transaction.connection],
        sublist.append (List.Sublist.refl _), ?_⟩
      rw [isParked, isReady, List.reverse_append]
      rfl
  · obtain ⟨more, record, records⟩ := progress.record
    obtain ⟨sent, recorded⟩ := forceCommit_record poolSockets turns
      { position := (unreadyOnes visited).length
        count := (readyOnes visited).length } wasActive
    refine ⟨more ++ [.attempted transaction.node transaction.connection sent,
      .released transaction.connection true, .taken transaction.node], ?_, ?_⟩
    · rw [recorded, record, List.append_assoc]
    · rw [readies]
      apply records.append
      constructor
      · simp [Event.attempt, before]
      · rfl
      · rfl
  · exact progress.batches

end Progress

section Runs

variable [QueryDecoding] [PassHash] [FrameBytes]

theorem Forces.progress {start : System} {name : String}
    (run : Runs anything name start) {visited : List Transaction}
    (forces : Forces start visited s) : Progress start visited s := by
  induction forces with
  | lock stepped =>
      obtain ⟨_, rfl⟩ := System.forceLock_cases stepped
      exact .lock run.custody
  | turn forces pointed stepped progress =>
      next visited before after transaction poolSockets turns =>
      have reached := forces.runs run
      have forced := progress.forcing
      have located := pointed
      rw [System.pointed, forced, Option.bind_some] at located
      have turned := forceNext_turn reached.custody reached.queue forced
        located poolSockets turns
      rw [System.step, turned, Option.some.injEq] at stepped
      subst stepped
      cases ready : transaction.ready with
      | true =>
          rw [System.forceTurn, if_pos ready]
          exact progress.commit reached.custody pointed ready forced _ _
      | false =>
          rw [System.forceTurn, if_neg (by simp [ready])]
          exact progress.skip pointed ready forced
  | other forces another stepped progress =>
      exact progress.other (leavesPool_step progress.forcing another stepped)

/-- What a call of `force_commit` has done when it returns `count`. -/
structure ForceCommitted (start after : System) (count : Nat) : Prop where
  count : count = (readyOnes start.pool.transactionStore).length
  store : after.pool.transactionStore =
    unreadyOnes start.pool.transactionStore
  stillActive : ∀ transaction ∈ after.pool.transactionStore,
    transaction.connection ∈ after.pool.active
  left : ∀ transaction ∈ readyOnes start.pool.transactionStore,
    transaction.connection ∉ after.pool.active
  parked : ∃ parked : List ConnId,
    parked.Sublist ((readyOnes start.pool.transactionStore).map
      Transaction.connection) ∧
      after.pool.ready = parked.reverse ++ start.pool.ready
  record : ∃ more, after.trace = start.trace ++ more ∧
    Records start.pool.transactionStore
      (readyOnes start.pool.transactionStore) more

theorem Forces.returned {start : System} {name : String}
    (run : Runs anything name start) {visited : List Transaction}
    (forces : Forces start visited s)
    (stepped : s.step .forceUnlock = some after) :
    ∃ forcing, s.forcing = some forcing ∧
      visited = start.pool.transactionStore ∧
      ForceCommitted start after forcing.count := by
  have progress := forces.progress run
  obtain ⟨forcing, forced, past, rfl⟩ := System.forceUnlock_cases stepped
  obtain ⟨rest, before, now⟩ := progress.store
  have isForcing := progress.forcing
  rw [forced, Option.some.injEq] at isForcing
  have done : rest = [] := by
    rw [isForcing, now, List.length_append] at past
    dsimp only at past
    exact List.length_eq_zero_iff.mp (by omega)
  rw [done, List.append_nil] at before now
  subst before
  refine ⟨forcing, forced, rfl, ?_⟩
  constructor
  · rw [isForcing]
  · exact now
  · exact (forces.runs run).custody.backPointers.active
  · intro transaction member active
    exact ((progress.active _).mp active).2 (List.mem_map_of_mem member)
  · exact progress.parked
  · exact progress.record

/-- In every state of a pool the store and the connections point to each
other; so no turn of `force_commit` is stuck or releases a connection by
itself, whatever the commits meet; and a call, with any steps of other threads
in between, passes every transaction once, commits exactly the ready ones, and
leaves the others where they are. -/
theorem force_commit_exact {name : String} (run : Runs anything name s) :
    BackPointers s ∧
    (∀ forcing, s.forcing = some forcing →
      (∀ transaction,
        s.pool.transactionStore[forcing.position]? = some transaction →
        ∀ poolSockets turns, s.step (.forceNext poolSockets turns) =
          some (s.forceTurn poolSockets turns forcing transaction)) ∧
      (s.pool.transactionStore.length ≤ forcing.position →
        s.step .forceUnlock = some { s with forcing := none })) ∧
    ∀ visited last, Forces s visited last →
      visited <+: s.pool.transactionStore ∧
      ∀ after, last.step .forceUnlock = some after →
        ∃ forcing, last.forcing = some forcing ∧
          visited = s.pool.transactionStore ∧
          ForceCommitted s after forcing.count := by
  refine ⟨run.custody.backPointers, ?_, ?_⟩
  · intro forcing forced
    constructor
    · intro transaction located poolSockets turns
      exact forceNext_turn run.custody run.queue forced located poolSockets
        turns
    · exact forceUnlock_past forced
  · intro visited last forces
    obtain ⟨rest, before, _⟩ := (forces.progress run).store
    refine ⟨⟨rest, before.symm⟩, ?_⟩
    intro after stepped
    exact forces.returned run stepped

end Runs

section Executed

open scoped Sample

/-- The second of two sessions has ended and left its transaction ready. -/
def secondDeferred : List Action :=
  Sample.begins 1 ++ Sample.begins 2 ++ [.deinit 2, .commit 2 false 100]

/-- The first transaction is passed, and the COMMIT of the second one cannot
be sent. -/
theorem force_commit_exact_deferred :
    let s := final anything "pool" secondDeferred
    ∃ last after, Forces s s.pool.transactionStore last ∧
      last.step .forceUnlock = some after ∧ ForceCommitted s after 1 := by
  intro s
  let first : Transaction := ⟨1, "1@pool", false, 0⟩
  let second : Transaction := ⟨2, "2@pool", true, 1⟩
  let locked : System := { s with forcing := some {} }
  let skipped := locked.forceTurn 8 {} {} first
  let last := skipped.forceTurn 8 {} ⟨1, 0⟩ second
  have run : Runs anything "pool" s := runs_final (by decide +kernel)
  have unlocked : s.forcing = none := by decide +kernel
  have store : s.pool.transactionStore = [first, second] := by decide +kernel
  clear_value s
  have isLocked : s.step .forceLock = some locked := by
    simp [System.step, System.forceLock, System.locked, unlocked, locked]
  have begun := Forces.lock isLocked
  have skips := ((force_commit_exact (begun.runs run)).2.1 {} rfl).1 first
    (by simp [locked, store]) 8 {}
  have passed : Forces s ([] ++ [first]) skipped :=
    begun.turn (by simp [System.pointed, locked, store]) skips
  have forced : skipped.forcing = some ⟨1, 0⟩ := by
    simp [skipped, System.forceTurn, first, Forcing.skip]
  have still : skipped.pool.transactionStore = [first, second] := by
    simp [skipped, System.forceTurn, first, locked, store]
  have commits := ((force_commit_exact (passed.runs run)).2.1 _ forced).1 second
    (by simp [still]) 8 {}
  have walked : Forces s ([] ++ [first] ++ [second]) last :=
    passed.turn (by simp [System.pointed, forced, still]) commits
  have counted : last.forcing = some ⟨1, 1⟩ := by
    simp [last, System.forceTurn, second, Forcing.committed]
  have left : last.pool.transactionStore = [first] := by
    simp [last, System.forceTurn, second, Pool.eraseTransaction, still]
  have ends := ((force_commit_exact (walked.runs run)).2.1 _ counted).2
    (by simp [left])
  obtain ⟨forcing, isForcing, _, committed⟩ :=
    ((force_commit_exact run).2.2 _ _ walked).2 _ ends
  rw [counted, Option.some.injEq] at isForcing
  subst isForcing
  exact ⟨last, _, store ▸ walked, ends, committed⟩

end Executed

end Capstomp
