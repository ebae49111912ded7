import Mathlib.Data.List.TakeWhile
import Capstomp.General.Custody
import Capstomp.Steps

/-!
# Who holds a connection

Every connection of a pool is in one place at a time: parked in `ready_`, left
behind by a session whose transaction waits in the store, or held by the one
session that uses it, so that no two sessions use one connection.  The
invariant is kept together with the pointers between connections and
transactions, which the commits and the releases follow.
-/

namespace Capstomp

open General

/-- The transactions a session has taken out of the store and not yet
attempted to commit. -/
def Phase.batch : Phase → List Transaction
  | .committing transaction batch _ => transaction :: batch
  | .returning _ batch _ => batch
  | _ => []

/-- From `create_transaction` to `commit`, and for a statement without a
transaction from `connect`: what the session began is not ready. -/
def Phase.unfinished : Phase → Bool
  | .beginning | .rows | .ending => true
  | _ => false

/-- Before `create_transaction`. -/
def Phase.early : Phase → Bool
  | .got _ | .creating => true
  | _ => false

/-- The connections a session uses: its own, and those it has taken over with
a batch. -/
def Session.held (session : Session) : List ConnId :=
  match session.phase with
  | .idle | .ended => []
  | .committing transaction batch _ =>
      if transaction.connection = session.connection then
        session.connection :: batch.map Transaction.connection
      else session.connection :: transaction.connection ::
        batch.map Transaction.connection
  | .returning connection batch _ =>
      session.connection :: connection :: batch.map Transaction.connection
  | _ => [session.connection]

/-- Where a connection can be. -/
inductive Place where
  | parked
  | deferred
  | session (sid : SessionId)
  deriving DecidableEq

/-- The connections in each place. -/
def System.places (s : System) : Place → List ConnId
  | .parked => s.pool.ready
  | .deferred =>
      (s.pool.transactionStore.filter Transaction.ready).map
        Transaction.connection
  | .session sid => (s.sessions sid).held

/-- The connection points to the transaction it has begun. -/
structure Linked (c : Connection) (transaction : Transaction) : Prop where
  node : c.transaction = some transaction.node
  id : c.transactionId = transaction.id
  nonempty : transaction.id ≠ ""

structure Custody (s : System) : Prop where
  exclusive : Exclusive s.places
  active_nodup : s.pool.active.Nodup
  active_iff : ∀ c, c ∈ s.pool.active ↔
    c ∈ s.places .deferred ∨ ∃ sid, c ∈ s.places (.session sid)
  known : ∀ place, ∀ c ∈ s.places place, c < s.nextConnection
  self : ∀ place, ∀ c ∈ s.places place, (s.connections c).self = some c
  store_nodup : (s.pool.transactionStore.map Transaction.connection).Nodup
  linked_store : ∀ transaction ∈ s.pool.transactionStore,
    Linked (s.connections transaction.connection) transaction
  linked_batch : ∀ sid, ∀ transaction ∈ (s.sessions sid).phase.batch,
    Linked (s.connections transaction.connection) transaction
  /-- A transaction that is not ready belongs to a session under way. -/
  unready : ∀ transaction ∈ s.pool.transactionStore,
    transaction.ready = false → ∃ sid, (s.sessions sid).phase.unfinished ∧
      (s.sessions sid).connection = transaction.connection
  /-- A session under way finds its transaction in the store. -/
  begun : ∀ sid, (s.sessions sid).phase.unfinished →
    (s.own sid).withTransaction →
      ∃ transaction ∈ s.pool.transactionStore, transaction.ready = false ∧
        transaction.connection = (s.sessions sid).connection
  unbegun : ∀ sid, (s.sessions sid).phase.early →
    (s.own sid).withTransaction = false

theorem SameHandle.withTransaction {before after : Connection}
    (same : SameHandle before after) :
    after.withTransaction = before.withTransaction := by
  simp [Connection.withTransaction, same.transactionId]

theorem Linked.keep {before after : Connection} {transaction : Transaction}
    (linked : Linked before transaction) (same : SameHandle before after) :
    Linked after transaction :=
  ⟨same.transaction.trans linked.node, same.transactionId.trans linked.id,
    linked.nonempty⟩

theorem Linked.withTransaction {c : Connection} {transaction : Transaction}
    (linked : Linked c transaction) : c.withTransaction := by
  simpa [Connection.withTransaction, linked.id] using linked.nonempty

/-- A session that is under way, or about to be, holds its connection. -/
theorem Session.own_mem_held {session : Session}
    (notIdle : session.phase ≠ .idle) (notEnded : session.phase ≠ .ended) :
    session.connection ∈ session.held := by
  unfold held
  split <;> simp_all
  split <;> simp

theorem Session.held_of_unfinished {session : Session}
    (unfinished : session.phase.unfinished) :
    session.held = [session.connection] := by
  unfold held
  split <;> simp_all [Phase.unfinished]

theorem Session.held_of_early {session : Session}
    (early : session.phase.early) :
    session.held = [session.connection] := by
  unfold held
  split <;> simp_all [Phase.early]

theorem Session.held_afterBatch {c : ConnId} {batch : List Transaction}
    {receipt : Bool} {conf : Settings} {rows : List RowResult}
    (absent : c ∉ batch.map Transaction.connection) :
    ({ phase := System.afterBatch batch receipt, connection := c,
       conf := conf, rows := rows } : Session).held =
      c :: batch.map Transaction.connection := by
  cases batch with
  | nil => rfl
  | cons transaction batch =>
      simp only [List.map_cons, List.mem_cons, not_or] at absent
      have other : transaction.connection ≠ c := fun same => absent.1 same.symm
      simp [System.afterBatch, held, other]

@[simp] theorem batch_afterBatch (batch : List Transaction) (receipt : Bool) :
    (System.afterBatch batch receipt).batch = batch := by
  cases batch <;> rfl

@[simp] theorem unfinished_afterBatch (batch : List Transaction)
    (receipt : Bool) :
    (System.afterBatch batch receipt).unfinished = false := by
  cases batch <;> rfl

@[simp] theorem early_afterBatch (batch : List Transaction) (receipt : Bool) :
    (System.afterBatch batch receipt).early = false := by
  cases batch <;> rfl

namespace Custody

variable {s after : System} {sid : SessionId}

/-- A step that leaves the pool, the places and the links alone. -/
theorem quiet (custody : Custody s) (pool : after.pool = s.pool)
    (next : after.nextConnection = s.nextConnection)
    (handles : ∀ c, SameHandle (s.connections c) (after.connections c))
    (connection : ∀ sid,
      (after.sessions sid).connection = (s.sessions sid).connection)
    (held : ∀ sid, (after.sessions sid).held = (s.sessions sid).held)
    (batch : ∀ sid, ∀ transaction ∈ (after.sessions sid).phase.batch,
      transaction ∈ (s.sessions sid).phase.batch)
    (stays : ∀ sid, (s.sessions sid).phase.unfinished →
      (s.own sid).withTransaction → (after.sessions sid).phase.unfinished)
    (began : ∀ sid, (after.sessions sid).phase.unfinished →
      (s.own sid).withTransaction → (s.sessions sid).phase.unfinished)
    (early : ∀ sid, (after.sessions sid).phase.early →
      (s.sessions sid).phase.early) :
    Custody after := by
  have places : after.places = s.places := by
    funext place
    cases place <;> simp [System.places, pool, held]
  have own : ∀ sid, SameHandle (s.own sid) (after.own sid) := by
    intro sid
    simpa [System.own, connection sid] using handles _
  constructor
  case exclusive => exact places ▸ custody.exclusive
  case active_nodup => exact pool ▸ custody.active_nodup
  case active_iff =>
      rw [pool, places]
      exact custody.active_iff
  case known =>
      rw [places, next]
      exact custody.known
  case self =>
      intro place c member
      rw [(handles c).self]
      exact custody.self place c (places ▸ member)
  case store_nodup => exact pool ▸ custody.store_nodup
  case linked_store =>
      intro transaction member
      exact (custody.linked_store transaction (pool ▸ member)).keep (handles _)
  case linked_batch =>
      intro sid transaction member
      exact (custody.linked_batch sid transaction
        (batch sid transaction member)).keep (handles _)
  case unready =>
      intro transaction member unready
      rw [pool] at member
      obtain ⟨sid, unfinished, isOwn⟩ :=
        custody.unready transaction member unready
      have begun : (s.own sid).withTransaction := by
        rw [System.own, isOwn]
        exact (custody.linked_store transaction member).withTransaction
      exact ⟨sid, stays sid unfinished begun, (connection sid).trans isOwn⟩
  case begun =>
      intro sid unfinished begun
      rw [(own sid).withTransaction] at begun
      rw [pool, connection sid]
      exact custody.begun sid (began sid unfinished begun) begun
  case unbegun =>
      intro sid isEarly
      rw [(own sid).withTransaction]
      exact custody.unbegun sid (early sid isEarly)

/-- The same, when one connection and one session change. -/
theorem quietSession (custody : Custody s) {x : ConnId} {c : Connection}
    {session : Session} (pool : after.pool = s.pool)
    (next : after.nextConnection = s.nextConnection)
    (connections : after.connections = Function.update s.connections x c)
    (handle : SameHandle (s.connections x) c)
    (sessions : after.sessions = Function.update s.sessions sid session)
    (connection : session.connection = (s.sessions sid).connection)
    (held : session.held = (s.sessions sid).held)
    (batch : ∀ transaction ∈ session.phase.batch,
      transaction ∈ (s.sessions sid).phase.batch)
    (stays : (s.sessions sid).phase.unfinished →
      (s.own sid).withTransaction → session.phase.unfinished)
    (began : session.phase.unfinished → (s.own sid).withTransaction →
      (s.sessions sid).phase.unfinished)
    (early : session.phase.early → (s.sessions sid).phase.early) :
    Custody after := by
  have handles : ∀ y, SameHandle (s.connections y) (after.connections y) := by
    intro y
    by_cases same : y = x
    · subst same
      rw [connections, Function.update_self]
      exact handle
    · rw [connections, Function.update_of_ne same]
  refine custody.quiet pool next handles ?_ ?_ ?_ ?_ ?_ ?_
  all_goals
    intro other
    by_cases same : other = sid
    · subst same
      rw [sessions, Function.update_self]
      assumption
    · rw [sessions, Function.update_of_ne same]
      first
        | done
        | exact fun _ member => member
        | exact fun unfinished _ => unfinished
        | exact id

/-- A connection left behind with its transaction. -/
theorem place_of_ready {transaction : Transaction}
    (member : transaction ∈ s.pool.transactionStore)
    (ready : transaction.ready) :
    transaction.connection ∈ s.places .deferred :=
  List.mem_map_of_mem (List.mem_filter.mpr ⟨member, ready⟩)

/-- A transaction of the store is on a connection that is not parked. -/
theorem place_of_store (custody : Custody s) {transaction : Transaction}
    (member : transaction ∈ s.pool.transactionStore) :
    ∃ place, place ≠ .parked ∧ transaction.connection ∈ s.places place := by
  cases ready : transaction.ready with
  | true => exact ⟨.deferred, by simp, place_of_ready member ready⟩
  | false =>
      obtain ⟨sid, unfinished, isOwn⟩ :=
        custody.unready transaction member ready
      refine ⟨.session sid, by simp, ?_⟩
      simp [System.places, Session.held_of_unfinished unfinished, isOwn]

/-- A transaction of a batch is on a connection its session holds. -/
theorem place_of_batch {transaction : Transaction}
    (member : transaction ∈ (s.sessions sid).phase.batch) :
    transaction.connection ∈ s.places (.session sid) := by
  unfold System.places Session.held
  cases phase : (s.sessions sid).phase with
  | committing next batch receipt =>
      simp only [Phase.batch, phase] at member ⊢
      rcases List.mem_cons.mp member with rfl | member
      · split <;> simp_all
      · have := List.mem_map_of_mem (f := Transaction.connection) member
        split <;> simp only [List.mem_cons, this, or_true]
  | returning connection batch receipt =>
      simp only [Phase.batch, phase] at member ⊢
      have := List.mem_map_of_mem (f := Transaction.connection) member
      simp only [List.mem_cons, this, or_true]
  | _ => simp [Phase.batch, phase] at member

theorem mem_active_of_place (custody : Custody s) {place : Place} {c : ConnId}
    (away : place ≠ .parked) (member : c ∈ s.places place) :
    c ∈ s.pool.active := by
  rw [custody.active_iff]
  cases place with
  | parked => exact absurd rfl away
  | deferred => exact .inl member
  | session sid => exact .inr ⟨sid, member⟩

/-- What is somewhere is nowhere else. -/
theorem only (custody : Custody s) {place other : Place} {c : ConnId}
    (held : c ∈ s.places place) (there : c ∈ s.places other) :
    other = place :=
  custody.exclusive.apart other place c there held

theorem only_session (custody : Custody s) {other : SessionId} {c : ConnId}
    (held : c ∈ s.places (.session sid))
    (there : c ∈ s.places (.session other)) : other = sid := by
  cases custody.only held there
  rfl

/-- A transaction of the store has its connection for itself. -/
theorem store_alone (custody : Custody s) {transaction : Transaction}
    {front back : List Transaction}
    (store : s.pool.transactionStore = front ++ transaction :: back) :
    ∀ other ∈ front ++ back,
      other.connection ≠ transaction.connection := by
  intro other member same
  have nodup := custody.store_nodup
  rw [store, List.map_append, List.map_cons, List.perm_middle.nodup_iff,
    List.nodup_cons, ← List.map_append] at nodup
  exact nodup.1 (same ▸ List.mem_map_of_mem member)

/-- A step of one session leaves the others what they hold. -/
theorem places_session {session : Session}
    (sessions : after.sessions = Function.update s.sessions sid session)
    {place : Place} (notSid : place ≠ .session sid)
    (ready : place = .parked → after.pool.ready = s.pool.ready)
    (deferred : place = .deferred →
      after.places .deferred = s.places .deferred) :
    after.places place = s.places place := by
  cases place with
  | parked => exact ready rfl
  | deferred => exact deferred rfl
  | session other =>
      have different : other ≠ sid := by
        rintro rfl
        exact notSid rfl
      simp [System.places, sessions, Function.update_of_ne different]

/-- In a pool without an active connection no transaction waits, and no
session holds a connection. -/
theorem idle_iff (custody : Custody s) :
    s.pool.active = [] ↔
      s.pool.transactionStore = [] ∧ ∀ sid, (s.sessions sid).held = [] := by
  simp only [List.eq_nil_iff_forall_not_mem]
  constructor
  · intro idle
    constructor
    · intro transaction member
      obtain ⟨place, away, isThere⟩ := custody.place_of_store member
      exact idle _ (custody.mem_active_of_place away isThere)
    · intro sid c held
      exact idle c (custody.mem_active_of_place (by simp)
        (show c ∈ s.places (.session sid) from held))
  · rintro ⟨empty, free⟩ c active
    rcases (custody.active_iff c).mp active with deferred | ⟨sid, held⟩
    · obtain ⟨transaction, member, _⟩ := List.mem_map.mp deferred
      exact empty transaction (List.mem_filter.mp member).1
    · exact free sid c held

/-- The step concerns the connection `c` alone. -/
structure Elsewhere (c : ConnId) (s after : System) : Prop where
  next : s.nextConnection ≤ after.nextConnection
  places : ∀ place x, x ≠ c → (x ∈ after.places place ↔ x ∈ s.places place)
  active : ∀ x, x ≠ c → (x ∈ after.pool.active ↔ x ∈ s.pool.active)
  connections : ∀ x, x ≠ c → after.connections x = s.connections x
  store : ∀ transaction : Transaction, transaction.connection ≠ c →
    (transaction ∈ after.pool.transactionStore ↔
      transaction ∈ s.pool.transactionStore)
  batch : ∀ sid, ∀ transaction ∈ (after.sessions sid).phase.batch,
    transaction.connection ≠ c →
      transaction ∈ (s.sessions sid).phase.batch
  stays : ∀ sid, (s.sessions sid).connection ≠ c →
    (s.sessions sid).phase.unfinished →
      (after.sessions sid).phase.unfinished ∧
        (after.sessions sid).connection = (s.sessions sid).connection
  began : ∀ sid, (after.sessions sid).connection ≠ c →
    (after.sessions sid).phase.unfinished →
      (s.sessions sid).phase.unfinished ∧
        (s.sessions sid).connection = (after.sessions sid).connection
  early : ∀ sid, (after.sessions sid).connection ≠ c →
    (after.sessions sid).phase.early →
      (s.sessions sid).phase.early ∧
        (s.sessions sid).connection = (after.sessions sid).connection

/-- What custody says of the connection `c`. -/
structure Here (c : ConnId) (s : System) : Prop where
  exclusive : Exclusive s.places
  active_nodup : s.pool.active.Nodup
  active_iff : c ∈ s.pool.active ↔
    c ∈ s.places .deferred ∨ ∃ sid, c ∈ s.places (.session sid)
  known : ∀ place, c ∈ s.places place → c < s.nextConnection
  self : ∀ place, c ∈ s.places place → (s.connections c).self = some c
  store_nodup : (s.pool.transactionStore.map Transaction.connection).Nodup
  linked_store : ∀ transaction ∈ s.pool.transactionStore,
    transaction.connection = c → Linked (s.connections c) transaction
  linked_batch : ∀ sid, ∀ transaction ∈ (s.sessions sid).phase.batch,
    transaction.connection = c → Linked (s.connections c) transaction
  unready : ∀ transaction ∈ s.pool.transactionStore,
    transaction.connection = c → transaction.ready = false →
      ∃ sid, (s.sessions sid).phase.unfinished ∧
        (s.sessions sid).connection = c
  begun : ∀ sid, (s.sessions sid).connection = c →
    (s.sessions sid).phase.unfinished → (s.connections c).withTransaction →
      ∃ transaction ∈ s.pool.transactionStore, transaction.ready = false ∧
        transaction.connection = c
  unbegun : ∀ sid, (s.sessions sid).connection = c →
    (s.sessions sid).phase.early → (s.connections c).withTransaction = false

/-- A step that concerns one connection keeps custody if it does so for that
connection. -/
theorem frame (custody : Custody s) {c : ConnId}
    (elsewhere : Elsewhere c s after) (here : Here c after) :
    Custody after := by
  constructor
  case exclusive => exact here.exclusive
  case active_nodup => exact here.active_nodup
  case active_iff =>
      intro x
      by_cases same : x = c
      · subst same
        exact here.active_iff
      · simp only [elsewhere.active x same, elsewhere.places _ x same]
        exact custody.active_iff x
  case known =>
      intro place x member
      by_cases same : x = c
      · subst same
        exact here.known place member
      · rw [elsewhere.places place x same] at member
        exact Nat.lt_of_lt_of_le (custody.known place x member) elsewhere.next
  case self =>
      intro place x member
      by_cases same : x = c
      · subst same
        exact here.self place member
      · rw [elsewhere.places place x same] at member
        rw [elsewhere.connections x same]
        exact custody.self place x member
  case store_nodup => exact here.store_nodup
  case linked_store =>
      intro transaction member
      by_cases same : transaction.connection = c
      · exact same ▸ here.linked_store transaction member same
      · rw [elsewhere.store transaction same] at member
        rw [elsewhere.connections _ same]
        exact custody.linked_store transaction member
  case linked_batch =>
      intro sid transaction member
      by_cases same : transaction.connection = c
      · exact same ▸ here.linked_batch sid transaction member same
      · rw [elsewhere.connections _ same]
        exact custody.linked_batch sid transaction
          (elsewhere.batch sid transaction member same)
  case unready =>
      intro transaction member unready
      by_cases same : transaction.connection = c
      · exact same ▸ here.unready transaction member same unready
      · rw [elsewhere.store transaction same] at member
        obtain ⟨sid, unfinished, isOwn⟩ :=
          custody.unready transaction member unready
        obtain ⟨unfinished, kept⟩ :=
          elsewhere.stays sid (by rwa [isOwn]) unfinished
        exact ⟨sid, unfinished, kept.trans isOwn⟩
  case begun =>
      intro sid unfinished begun
      by_cases same : (after.sessions sid).connection = c
      · rw [System.own, same] at begun
        exact same ▸ here.begun sid same unfinished begun
      · obtain ⟨unfinished, kept⟩ := elsewhere.began sid same unfinished
        rw [System.own, elsewhere.connections _ same, ← kept] at begun
        obtain ⟨transaction, member, unready, isOwn⟩ :=
          custody.begun sid unfinished begun
        rw [kept] at isOwn
        exact ⟨transaction,
          (elsewhere.store transaction (isOwn ▸ same)).mpr member, unready,
          isOwn⟩
  case unbegun =>
      intro sid early
      by_cases same : (after.sessions sid).connection = c
      · rw [System.own, same]
        exact here.unbegun sid same early
      · obtain ⟨early, kept⟩ := elsewhere.early sid same early
        rw [System.own, elsewhere.connections _ same, ← kept]
        exact custody.unbegun sid early

/-- A connection that is nowhere but in `ready_` is not the one of a session
under way, nor that of a transaction. -/
theorem unused (custody : Custody s) {c : ConnId}
    (away : ∀ place, place ≠ .parked → c ∉ s.places place) :
    (∀ transaction ∈ s.pool.transactionStore,
        transaction.connection ≠ c) ∧
      (∀ sid, ∀ transaction ∈ (s.sessions sid).phase.batch,
        transaction.connection ≠ c) ∧
      ∀ sid, (s.sessions sid).connection = c →
        (s.sessions sid).phase.unfinished = false ∧
          (s.sessions sid).phase.early = false := by
  refine ⟨?_, ?_, ?_⟩
  · rintro transaction member rfl
    obtain ⟨place, notParked, held⟩ := custody.place_of_store member
    exact away place notParked held
  · rintro sid transaction member rfl
    exact away (.session sid) (by simp) (place_of_batch member)
  · rintro sid rfl
    have notHeld := away (.session sid) (by simp)
    constructor
    · cases unfinished : (s.sessions sid).phase.unfinished with
      | false => rfl
      | true =>
          simp [System.places, Session.held_of_unfinished unfinished]
            at notHeld
    · cases early : (s.sessions sid).phase.early with
      | false => rfl
      | true => simp [System.places, Session.held_of_early early] at notHeld

/-- What a session holds beside the connection of an unfinished transaction
is not in the store. -/
theorem not_stored (custody : Custody s) {c : ConnId}
    (held : c ∈ s.places (.session sid))
    (finished : (s.sessions sid).phase.unfinished = false) :
    ∀ transaction ∈ s.pool.transactionStore,
      transaction.connection ≠ c := by
  rintro transaction member rfl
  cases ready : transaction.ready with
  | true =>
      cases custody.only held (place_of_ready member ready)
  | false =>
      obtain ⟨other, unfinished, isOwn⟩ :=
        custody.unready transaction member ready
      have heldThere : transaction.connection ∈ s.places (.session other) := by
        simp [System.places, Session.held_of_unfinished unfinished, isOwn]
      cases custody.only_session held heldThere
      rw [finished] at unfinished
      cases unfinished

/-- `self_` of the connection of a session is its own position. -/
theorem self_eq (custody : Custody s) {self : ConnId}
    (notIdle : (s.sessions sid).phase ≠ .idle)
    (notEnded : (s.sessions sid).phase ≠ .ended)
    (isSelf : (s.own sid).self = some self) :
    self = (s.sessions sid).connection := by
  have pointsHere := custody.self (.session sid) _
    (Session.own_mem_held notIdle notEnded)
  exact Option.some.inj (isSelf.symm.trans pointsHere)

/-- What a session holds is not the connection of another one under way. -/
theorem not_own (custody : Custody s) {place : Place} {c : ConnId}
    (held : c ∈ s.places place)
    (finished : ∀ sid, place = .session sid →
      (s.sessions sid).phase.unfinished = false ∧
        (s.sessions sid).phase.early = false) :
    ∀ sid, (s.sessions sid).connection = c →
      (s.sessions sid).phase.unfinished = false ∧
        (s.sessions sid).phase.early = false := by
  rintro sid rfl
  have elsewhere : (s.sessions sid).held = [(s.sessions sid).connection] →
      place = .session sid := by
    intro only
    exact custody.only (by simp [System.places, only]) held
  constructor
  · cases unfinished : (s.sessions sid).phase.unfinished with
    | false => rfl
    | true =>
        have isHere := elsewhere (Session.held_of_unfinished unfinished)
        rw [← unfinished, (finished sid isHere).1]
  · cases early : (s.sessions sid).phase.early with
    | false => rfl
    | true =>
        have isHere := elsewhere (Session.held_of_early early)
        rw [← early, (finished sid isHere).2]

/-- What a session in `commit` finds: its transaction in the store, not yet
ready. -/
theorem finds (custody : Custody s) {node : Nat}
    (unfinished : (s.sessions sid).phase.unfinished)
    (begun : (s.own sid).withTransaction)
    (isNode : (s.own sid).transaction = some node) :
    ∃ front transaction back,
      s.pool.transactionStore = front ++ transaction :: back ∧
      transaction.node = node ∧ transaction.ready = false ∧
      transaction.connection = (s.sessions sid).connection := by
  obtain ⟨transaction, member, unready, isOwn⟩ :=
    custody.begun sid unfinished begun
  obtain ⟨front, back, split⟩ := List.append_of_mem member
  have linked := (custody.linked_store transaction member).node
  rw [isOwn] at linked
  exact ⟨front, transaction, back, split,
    Option.some.inj (linked.symm.trans isNode), unready, isOwn⟩

/-- The transaction a connection points to is the one it began. -/
theorem pointed_eq (custody : Custody s)
    (distinct : (s.pool.transactionStore.map Transaction.node).Nodup)
    {transaction pointed : Transaction}
    (member : transaction ∈ s.pool.transactionStore)
    (found : (s.pool.transactionStore.find? fun other =>
      (s.connections transaction.connection).transaction =
        some other.node) = some pointed) : pointed = transaction := by
  have pointedThere := List.mem_of_find?_eq_some found
  have points := List.find?_some found
  simp only [decide_eq_true_eq,
    (custody.linked_store transaction member).node, Option.some.injEq]
    at points
  exact (List.inj_on_of_nodup_map distinct member pointedThere points).symm

/-- The transaction of a deferred connection is the only one on it. -/
theorem deferred_alone (custody : Custody s) {transaction : Transaction}
    {front back : List Transaction}
    (store : s.pool.transactionStore = front ++ transaction :: back)
    (ready : transaction.ready) :
    (∀ other ∈ front ++ back,
        other.connection ≠ transaction.connection) ∧
      ∀ sid, ∀ other ∈ (s.sessions sid).phase.batch,
        other.connection ≠ transaction.connection := by
  refine ⟨custody.store_alone store, ?_⟩
  intro sid other batched same
  have held : transaction.connection ∈ s.places .deferred :=
    place_of_ready (by simp [store]) ready
  have there := place_of_batch batched
  rw [same] at there
  cases custody.only held there

/-- A transaction next to be committed is the only pending one on its
connection. -/
theorem committing_alone (custody : Custody s) {transaction : Transaction}
    {batch : List Transaction} {receipt : Bool}
    (committing : (s.sessions sid).phase =
      .committing transaction batch receipt) :
    (∀ other ∈ s.pool.transactionStore,
        other.connection ≠ transaction.connection) ∧
      (∀ other ∈ batch, other.connection ≠ transaction.connection) ∧
      ∀ owner, owner ≠ sid → ∀ other ∈ (s.sessions owner).phase.batch,
        other.connection ≠ transaction.connection := by
  have held : transaction.connection ∈ s.places (.session sid) :=
    place_of_batch (by simp [committing, Phase.batch])
  refine ⟨custody.not_stored held (by simp [committing, Phase.unfinished]),
    ?_, ?_⟩
  · intro other member same
    have nodup : (s.sessions sid).held.Nodup :=
      custody.exclusive.nodup (.session sid)
    have inBatch : transaction.connection ∈
        batch.map Transaction.connection := same ▸ List.mem_map_of_mem member
    simp only [Session.held, committing] at nodup
    split at nodup
    · next own =>
        rw [own] at inBatch
        exact (List.nodup_cons.mp nodup).1 inBatch
    · exact (List.nodup_cons.mp (List.nodup_cons.mp nodup).2).1 inBatch
  · intro owner different other member same
    have there := place_of_batch member
    rw [same] at there
    exact different (custody.only_session held there)

end Custody

end Capstomp
