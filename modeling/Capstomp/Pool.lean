import Capstomp.Connection

/-!
# The pool

`pool.cpp`: the lists of connections in use and ready for use, and the list
of the transactions begun and not yet committed.  A list node is known by a
number, so that an iterator of the source is the number of its node, and
stays valid when the node is spliced into another list.
-/

namespace Capstomp

/-- A node of `transaction_store_`; `node` counts the transactions of the
pool. -/
structure Transaction where
  node : Nat
  id : String
  ready : Bool
  connection : ConnId
  deriving DecidableEq, Repr

/-- `transactionSeq` counts the transactions created; `transaction_seq_` is
its remainder as a 64-bit word. -/
structure Pool where
  name : String := ""
  transactionSeq : Nat := 0
  active : List ConnId := []
  ready : List ConnId := []
  transactionStore : List Transaction := []

/-- The text of a transaction's id. -/
def transactionText (seq : Nat) (name : String) : String :=
  toString (seq % UInt64.size) ++ "@" ++ name

theorem transactionText_ne_empty (seq : Nat) (name : String) :
    transactionText seq name ≠ "" := by
  intro empty
  have length := congrArg String.length empty
  simp [transactionText] at length

/-- A connection obtained from the pool; `created` tells a new one from one
that was ready. -/
structure Obtained where
  connection : ConnId
  created : Bool
  pool : Pool

/-- One scan of `get_uncommited`: the transactions passed, those left, and the
iterators whose flag was read, `none` standing for the end position. -/
structure Scan where
  passed : List Transaction := []
  rest : List Transaction := []
  reads : List (Option Nat) := []

/-- `while (i->ready() && (i != e))`: the flag is read before the position is
tested, so that at the end the read yields whatever is there. -/
def scan (endReady : Bool) : List Transaction → Scan
  | [] =>
      if endReady && false then {} else { reads := [none] }
  | transaction :: rest =>
      if transaction.ready && true then
        let later := scan endReady rest
        { passed := transaction :: later.passed
          rest := later.rest
          reads := some transaction.node :: later.reads }
      else { rest := transaction :: rest, reads := [some transaction.node] }

theorem scan_passed (endReady : Bool) (store : List Transaction) :
    (scan endReady store).passed = store.takeWhile Transaction.ready := by
  induction store with
  | nil => cases endReady <;> rfl
  | cons transaction rest induction =>
      cases ready : transaction.ready <;> simp [scan, ready, induction]

theorem scan_rest (endReady : Bool) (store : List Transaction) :
    (scan endReady store).rest = store.dropWhile Transaction.ready := by
  induction store with
  | nil => cases endReady <;> rfl
  | cons transaction rest induction =>
      cases ready : transaction.ready <;> simp [scan, ready, induction]

namespace Pool

/-- `pool::get`, the connection a new one would be given. -/
def get (maxPoolSockets : Nat) (fresh : ConnId) (pool : Pool) :
    Except Error Obtained :=
  match pool.ready with
  | connection :: ready =>
      .ok ⟨connection, false,
        { pool with active := connection :: pool.active, ready := ready }⟩
  | [] =>
      if maxPoolSockets ≤ pool.active.length then
        .error (.maxPoolSockets maxPoolSockets)
      else
        .ok ⟨fresh, true, { pool with active := fresh :: pool.active }⟩

/-- A connection that was ready, or a new one. -/
theorem get_cases {pool : Pool} {maxPoolSockets : Nat} {fresh : ConnId}
    {obtained : Obtained} (got : pool.get maxPoolSockets fresh = .ok obtained) :
    (∃ rest, pool.ready = obtained.connection :: rest ∧
      obtained.created = false ∧
      obtained.pool = { pool with
        active := obtained.connection :: pool.active, ready := rest }) ∨
    (pool.ready = [] ∧ obtained.connection = fresh ∧
      obtained.created = true ∧ pool.active.length < maxPoolSockets ∧
      obtained.pool = { pool with active := fresh :: pool.active }) := by
  unfold get at got
  split at got
  · next connection rest ready =>
      cases got
      exact .inl ⟨rest, ready, rfl, rfl⟩
  · next none =>
      split at got
      · cases got
      · next room =>
          cases got
          exact .inr ⟨none, rfl, rfl, by omega, rfl⟩

/-- What both branches of `get` have in common. -/
structure Get (pool : Pool) (obtained : Obtained) : Prop where
  store : obtained.pool.transactionStore = pool.transactionStore
  seq : obtained.pool.transactionSeq = pool.transactionSeq
  name : obtained.pool.name = pool.name
  active : obtained.pool.active = obtained.connection :: pool.active

theorem get_spec {pool : Pool} {maxPoolSockets : Nat} {fresh : ConnId}
    {obtained : Obtained}
    (got : pool.get maxPoolSockets fresh = .ok obtained) :
    Get pool obtained := by
  rcases get_cases got with ⟨_, _, _, same⟩ | ⟨_, isNew, _, _, same⟩
  · exact ⟨by rw [same], by rw [same], by rw [same], by rw [same]⟩
  · exact ⟨by rw [same], by rw [same], by rw [same], by rw [same, isNew]⟩

/-- The test of `release_connection`: an open connection is parked while there
is room for it. -/
def parks (poolSockets : Nat) (good : Bool) (pool : Pool) : Bool :=
  good && decide (pool.ready.length < poolSockets)

/-- `pool::release_connection`. -/
def releaseConnection (poolSockets : Nat) (good : Bool) (connection : ConnId)
    (pool : Pool) : Pool :=
  if pool.parks poolSockets good then
    { pool with
      active := pool.active.erase connection
      ready := connection :: pool.ready }
  else { pool with active := pool.active.erase connection }

@[simp] theorem releaseConnection_active (poolSockets : Nat) (good : Bool)
    (connection : ConnId) (pool : Pool) :
    (pool.releaseConnection poolSockets good connection).active =
      pool.active.erase connection := by
  unfold releaseConnection
  split <;> rfl

@[simp] theorem releaseConnection_transactionStore (poolSockets : Nat)
    (good : Bool) (connection : ConnId) (pool : Pool) :
    (pool.releaseConnection poolSockets good connection).transactionStore =
      pool.transactionStore := by
  unfold releaseConnection
  split <;> rfl

@[simp] theorem releaseConnection_transactionSeq (poolSockets : Nat)
    (good : Bool) (connection : ConnId) (pool : Pool) :
    (pool.releaseConnection poolSockets good connection).transactionSeq =
      pool.transactionSeq := by
  unfold releaseConnection
  split <;> rfl

@[simp] theorem releaseConnection_name (poolSockets : Nat) (good : Bool)
    (connection : ConnId) (pool : Pool) :
    (pool.releaseConnection poolSockets good connection).name = pool.name := by
  unfold releaseConnection
  split <;> rfl

/-- The node `create_transaction` appends. -/
def newTransaction (connection : ConnId) (pool : Pool) : Transaction :=
  { node := pool.transactionSeq + 1
    id := transactionText (pool.transactionSeq + 1) pool.name
    ready := false
    connection := connection }

/-- `pool::create_transaction`. -/
def createTransaction (connection : ConnId) (pool : Pool) : Pool :=
  { pool with
    transactionSeq := pool.transactionSeq + 1
    transactionStore :=
      pool.transactionStore ++ [pool.newTransaction connection] }

/-- `i->set(true)`. -/
def setReady (node : Nat) (store : List Transaction) : List Transaction :=
  store.map fun transaction =>
    if transaction.node = node then { transaction with ready := true }
    else transaction

/-- `pool::get_uncommited`: the batch handed out and the pool left. -/
def getUncommited (endReady : Bool) (node : Nat) (pool : Pool) :
    List Transaction × Pool :=
  let store := setReady node pool.transactionStore
  if (store.head?.map Transaction.node) = some node then
    ((scan endReady store).passed,
      { pool with transactionStore := (scan endReady store).rest })
  else ([], { pool with transactionStore := store })

theorem getUncommited_name (endReady : Bool) (node : Nat) (pool : Pool) :
    (pool.getUncommited endReady node).2.name = pool.name := by
  unfold getUncommited
  dsimp only
  split <;> rfl

theorem connection_of_setReady (node : Nat) {store : List Transaction}
    {transaction : Transaction}
    (member : transaction ∈ setReady node store) :
    ∃ original ∈ store, original.connection = transaction.connection := by
  obtain ⟨original, wasThere, rfl⟩ := List.mem_map.mp member
  refine ⟨original, wasThere, ?_⟩
  split <;> rfl

/-- What is taken or left is from the store, with its connection. -/
theorem connection_of_getUncommited (endReady : Bool) (node : Nat)
    (pool : Pool) {transaction : Transaction}
    (member : transaction ∈ (pool.getUncommited endReady node).1 ∨
      transaction ∈ (pool.getUncommited endReady node).2.transactionStore) :
    ∃ original ∈ pool.transactionStore,
      original.connection = transaction.connection := by
  unfold getUncommited at member
  dsimp only at member
  split at member
  · rw [scan_passed, scan_rest] at member
    refine connection_of_setReady node ?_
    rcases member with taken | left
    · exact (List.takeWhile_sublist _).subset taken
    · exact (List.dropWhile_sublist _).subset left
  · exact connection_of_setReady node (member.resolve_left List.not_mem_nil)

/-- A transaction whose number is its own is the only one marked. -/
theorem setReady_split (front : List Transaction) {back : List Transaction}
    {transaction : Transaction}
    (distinct : ((front ++ transaction :: back).map Transaction.node).Nodup) :
    setReady transaction.node (front ++ transaction :: back) =
      front ++ { transaction with ready := true } :: back := by
  have unmarked : ∀ others : List Transaction,
      transaction.node ∉ others.map Transaction.node →
        setReady transaction.node others = others := by
    intro others absent
    have same : setReady transaction.node others = others.map id := by
      refine List.map_congr_left fun other member => if_neg ?_
      intro same
      exact absent (same ▸ List.mem_map_of_mem member)
    rw [same, List.map_id]
  simp only [List.map_append, List.map_cons, List.nodup_append,
    List.nodup_cons] at distinct
  have inFront := unmarked front fun member =>
    distinct.2.2 _ member _ List.mem_cons_self rfl
  have inBack := unmarked back distinct.2.1.1
  simp only [setReady] at inFront inBack ⊢
  simp [inFront, inBack]

/-- A session that is first takes itself and the ready transactions next to
it. -/
theorem getUncommited_first {pool : Pool} {transaction : Transaction}
    {back : List Transaction} (endReady : Bool)
    (store : pool.transactionStore = transaction :: back)
    (distinct : (pool.transactionStore.map Transaction.node).Nodup) :
    pool.getUncommited endReady transaction.node =
      ({ transaction with ready := true } ::
          back.takeWhile Transaction.ready,
        { pool with
          transactionStore := back.dropWhile Transaction.ready }) := by
  have marked := setReady_split [] (store ▸ distinct)
  simp only [List.nil_append] at marked
  simp [getUncommited, store, marked, scan_passed, scan_rest]

/-- A session that is not first leaves its transaction where it is. -/
theorem getUncommited_later {pool : Pool} {transaction : Transaction}
    {front back : List Transaction} (endReady : Bool)
    (store : pool.transactionStore = front ++ transaction :: back)
    (notFirst : front ≠ [])
    (distinct : (pool.transactionStore.map Transaction.node).Nodup) :
    pool.getUncommited endReady transaction.node =
      ([], { pool with
        transactionStore :=
          front ++ { transaction with ready := true } :: back }) := by
  have marked := setReady_split front (store ▸ distinct)
  rw [← store] at marked
  obtain ⟨head, front, rfl⟩ := List.exists_cons_of_ne_nil notFirst
  have different : head.node ≠ transaction.node := by
    rw [store] at distinct
    simp only [List.cons_append, List.map_cons, List.nodup_cons] at distinct
    rintro same
    exact distinct.1 (by simp [same])
  simp [getUncommited, marked, different]

/-- `transaction_store_.erase(i)`. -/
def eraseTransaction (position : Nat) (pool : Pool) : Pool :=
  { pool with transactionStore := pool.transactionStore.eraseIdx position }

/-- The store around the transaction that is erased. -/
theorem erase_split {store : List Transaction} {position : Nat}
    {transaction : Transaction}
    (located : store[position]? = some transaction) :
    ∃ front back, store = front ++ transaction :: back ∧
      store.eraseIdx position = front ++ back := by
  refine ⟨store.take position, store.drop (position + 1), ?_,
    List.eraseIdx_eq_take_drop_succ _ _⟩
  obtain ⟨inside, rfl⟩ := List.getElem?_eq_some_iff.mp located
  rw [← List.drop_eq_getElem_cons inside, List.take_append_drop]

/-- `pool::clear`. -/
def clear (pool : Pool) : Pool :=
  { pool with ready := [] }

end Pool

end Capstomp
