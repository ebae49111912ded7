import Mathlib.Data.List.InsertIdx
import Mathlib.Data.List.Pairwise
import Mathlib.Data.List.TakeWhile
import Capstomp.Steps

/-!
# The order of the transactions of a pool

The store keeps the transactions in the order of their creation, and while
the mutex is free the first of them is not ready: a commit that leaves a ready
one in front would leave it to nobody.
-/

namespace Capstomp

open General

structure Queue (s : System) : Prop where
  ordered : (s.pool.transactionStore.map Transaction.node).Pairwise (· < ·)
  bounded : ∀ transaction ∈ s.pool.transactionStore,
    transaction.node ≤ s.pool.transactionSeq
  waiting : s.forcing = none → ∀ transaction,
    s.pool.transactionStore.head? = some transaction →
      transaction.ready = false
  /-- What `force_commit` has passed is not ready. -/
  scanned : ∀ forcing, s.forcing = some forcing →
    ∀ transaction ∈ s.pool.transactionStore.take forcing.position,
      transaction.ready = false

namespace Pool

@[simp] theorem map_node_setReady (node : Nat) (store : List Transaction) :
    (setReady node store).map Transaction.node =
      store.map Transaction.node := by
  rw [setReady, List.map_map]
  refine List.map_congr_left fun transaction _ => ?_
  simp only [Function.comp_apply]
  split <;> rfl

/-- The numbers left by `get_uncommited` are among those before, in order. -/
theorem getUncommited_nodes (endReady : Bool) (node : Nat) (pool : Pool) :
    (((pool.getUncommited endReady node).2.transactionStore).map
      Transaction.node).Sublist
        (pool.transactionStore.map Transaction.node) := by
  unfold getUncommited
  dsimp only
  split
  · rw [scan_rest, ← map_node_setReady node pool.transactionStore]
    exact (List.dropWhile_sublist _).map _
  · simp

@[simp] theorem getUncommited_transactionSeq (endReady : Bool) (node : Nat)
    (pool : Pool) :
    (pool.getUncommited endReady node).2.transactionSeq =
      pool.transactionSeq := by
  unfold getUncommited
  dsimp only
  split <;> rfl

/-- `get_uncommited` leaves no ready transaction in front. -/
theorem getUncommited_head {endReady : Bool} {node : Nat} {pool : Pool}
    (waiting : ∀ transaction,
      pool.transactionStore.head? = some transaction →
        transaction.ready = false) :
    ∀ transaction,
      (pool.getUncommited endReady node).2.transactionStore.head? =
        some transaction → transaction.ready = false := by
  intro transaction isHead
  unfold getUncommited at isHead
  dsimp only at isHead
  split at isHead
  · rw [scan_rest] at isHead
    have unready := List.head?_dropWhile_not Transaction.ready
      (setReady node pool.transactionStore)
    simpa [isHead] using unready
  · next notFirst =>
      cases store : pool.transactionStore with
      | nil => simp [store, setReady] at isHead
      | cons head rest =>
          simp only [store, setReady, List.map_cons, List.head?_cons,
            Option.some.injEq, Option.map_some] at isHead notFirst
          split at isHead
          · next isNode => simp [isNode] at notFirst
          · exact isHead ▸ waiting head (by simp [store])

end Pool

namespace Queue

variable {s after : System}

theorem distinct (queue : Queue s) :
    (s.pool.transactionStore.map Transaction.node).Nodup :=
  queue.ordered.imp fun before => Nat.ne_of_lt before

/-- A step that leaves the store and the lock alone. -/
theorem quiet (queue : Queue s)
    (store : after.pool.transactionStore = s.pool.transactionStore)
    (seq : after.pool.transactionSeq = s.pool.transactionSeq)
    (forcing : after.forcing = s.forcing) : Queue after := by
  constructor
  · exact store ▸ queue.ordered
  · rw [store, seq]
    exact queue.bounded
  · rw [store, forcing]
    exact queue.waiting
  · rw [store, forcing]
    exact queue.scanned

theorem createTransaction (queue : Queue s) (self : ConnId)
    (unlocked : s.forcing = none)
    (pool : after.pool = s.pool.createTransaction self)
    (forcing : after.forcing = s.forcing) : Queue after := by
  have store : after.pool.transactionStore = s.pool.transactionStore ++
      [s.pool.newTransaction self] := by
    rw [pool]
    rfl
  have seq : after.pool.transactionSeq = s.pool.transactionSeq + 1 := by
    rw [pool]
    rfl
  constructor
  · rw [store, List.map_append, List.pairwise_append]
    refine ⟨queue.ordered, by simp, ?_⟩
    intro earlier there later here
    obtain ⟨transaction, member, rfl⟩ := List.mem_map.mp there
    simp only [List.map_cons, List.map_nil, List.mem_singleton] at here
    rw [here]
    exact Nat.lt_succ_of_le (queue.bounded transaction member)
  · intro transaction member
    rw [store, List.mem_append, List.mem_singleton] at member
    rw [seq]
    rcases member with old | rfl
    · exact Nat.le_succ_of_le (queue.bounded transaction old)
    · exact Nat.le_refl _
  · intro _ transaction isHead
    rw [store, List.head?_append] at isHead
    cases head : s.pool.transactionStore.head? with
    | none =>
        rw [head] at isHead
        cases isHead
        rfl
    | some oldest =>
        rw [head, Option.some_or, Option.some.injEq] at isHead
        exact isHead ▸ queue.waiting unlocked oldest head
  · intro held isHeld
    rw [forcing, unlocked] at isHeld
    cases isHeld

theorem getUncommited (queue : Queue s) (endReady : Bool) (node : Nat)
    (unlocked : s.forcing = none)
    (pool : after.pool = (s.pool.getUncommited endReady node).2)
    (forcing : after.forcing = s.forcing) : Queue after := by
  have nodes := Pool.getUncommited_nodes endReady node s.pool
  constructor
  · rw [pool]
    exact queue.ordered.sublist nodes
  · intro transaction member
    rw [pool] at member
    obtain ⟨original, wasThere, same⟩ :=
      List.mem_map.mp (nodes.subset (List.mem_map_of_mem member))
    rw [pool, Pool.getUncommited_transactionSeq, ← same]
    exact queue.bounded original wasThere
  · intro _
    rw [pool]
    exact Pool.getUncommited_head (queue.waiting unlocked)
  · intro held isHeld
    rw [forcing, unlocked] at isHeld
    cases isHeld

theorem forceLock (queue : Queue s) :
    Queue { s with forcing := some {} } := by
  refine ⟨queue.ordered, queue.bounded, by simp, ?_⟩
  rintro _ ⟨⟩
  simp

theorem forceSkip (queue : Queue s) {forcing : Forcing}
    {transaction : Transaction} (forced : s.forcing = some forcing)
    (located : s.pool.transactionStore[forcing.position]? = some transaction)
    (unready : transaction.ready = false) :
    Queue { s with forcing := some forcing.skip } := by
  refine ⟨queue.ordered, queue.bounded, by simp, ?_⟩
  rintro _ ⟨⟩ other member
  simp only [Forcing.skip, List.take_add_one, located, Option.toList_some,
    List.mem_append, List.mem_singleton] at member
  rcases member with earlier | rfl
  · exact queue.scanned forcing forced other earlier
  · exact unready

theorem forceCommit (queue : Queue s) {forcing : Forcing}
    (forced : s.forcing = some forcing)
    (store : after.pool.transactionStore =
      s.pool.transactionStore.eraseIdx forcing.position)
    (seq : after.pool.transactionSeq = s.pool.transactionSeq)
    (still : after.forcing = some forcing.committed) : Queue after := by
  have sublist : after.pool.transactionStore.Sublist
      s.pool.transactionStore := store ▸ List.eraseIdx_sublist _ _
  constructor
  · exact queue.ordered.sublist (sublist.map _)
  · intro transaction member
    rw [seq]
    exact queue.bounded transaction (sublist.subset member)
  · rw [still]
    intro impossible
    cases impossible
  · intro held isHeld transaction member
    rw [still] at isHeld
    cases isHeld
    rw [store, Forcing.committed, List.take_eraseIdx_eq_take_of_le _ _ _
      (Nat.le_refl _)] at member
    exact queue.scanned forcing forced transaction member

theorem forceUnlock (queue : Queue s) {forcing : Forcing}
    (forced : s.forcing = some forcing)
    (past : s.pool.transactionStore.length ≤ forcing.position) :
    Queue { s with forcing := none } := by
  refine ⟨queue.ordered, queue.bounded, ?_, by simp⟩
  intro _ transaction isHead
  refine queue.scanned forcing forced transaction ?_
  rw [List.take_of_length_le past]
  exact List.mem_of_head? isHead

theorem init (name : String) : Queue (System.init name) := by
  constructor <;> simp [System.init]

theorem step [QueryDecoding] [PassHash] [FrameBytes] {action : Action}
    (queue : Queue s) (stepped : s.step action = some after) : Queue after := by
  cases action with
  | get sid uri maxPoolSockets =>
      obtain ⟨_, _, rfl | ⟨obtained, got, rfl⟩⟩ := System.get_cases stepped
      · exact queue
      · rcases Pool.get_cases got with ⟨_, _, _, pool⟩ | ⟨_, _, _, _, pool⟩ <;>
          exact queue.quiet (by simp [pool]) (by simp [pool]) (by simp)
  | connect sid turns =>
      obtain ⟨_, _, ⟨c, _, rfl⟩ | ⟨_, c, _, rfl⟩⟩ :=
        System.connect_cases stepped <;>
        exact queue.quiet rfl rfl rfl
  | createTransaction sid =>
      obtain ⟨self, _, _, unlocked, rfl⟩ :=
        System.createTransaction_cases stepped
      exact queue.createTransaction self unlocked rfl rfl
  | begin sid requestLimit turns =>
      obtain ⟨_, ⟨c, _, rfl⟩ | ⟨_, c, _, rfl⟩⟩ :=
        System.begin_cases stepped <;>
        exact queue.quiet rfl rfl rfl
  | content sid row now requestLimit turns =>
      obtain ⟨_, rfl⟩ := System.content_cases stepped
      exact queue.quiet rfl rfl rfl
  | deinit sid =>
      obtain ⟨_, rfl⟩ := System.deinit_cases stepped
      exact queue.quiet rfl rfl rfl
  | commit sid endReady requestLimit =>
      obtain ⟨_, ⟨_, rfl⟩ | ⟨node, batch, pool, _, _, unlocked, taken, rfl⟩⟩ :=
        System.commit_cases stepped
      · exact queue.quiet rfl rfl rfl
      · exact queue.getUncommited endReady node
          unlocked (by rw [taken]; rfl) rfl
  | commitTransaction sid turns =>
      obtain ⟨transaction, batch, receipt, _, rfl⟩ :=
        System.commitTransaction_cases stepped
      exact queue.quiet rfl rfl rfl
  | releaseDeferred sid poolSockets =>
      obtain ⟨c, batch, receipt, _, _, rfl⟩ :=
        System.releaseDeferred_cases stepped
      exact queue.quiet (by simp) (by simp) rfl
  | release sid requestLimit poolSockets =>
      obtain ⟨self, _, _, _, rfl⟩ := System.release_cases stepped
      exact queue.quiet (by simp) (by simp) rfl
  | forceLock =>
      obtain ⟨_, rfl⟩ := System.forceLock_cases stepped
      exact queue.forceLock
  | forceNext poolSockets turns =>
      obtain ⟨forcing, transaction, forced, located,
        ⟨unready, rfl⟩ | ⟨pointed, _, _, _, rfl⟩⟩ :=
        System.forceNext_cases stepped
      · exact queue.forceSkip forced located unready
      · exact queue.forceCommit forced (by simp [Pool.eraseTransaction])
          (by simp [Pool.eraseTransaction]) rfl
  | forceUnlock =>
      obtain ⟨forcing, forced, past, rfl⟩ := System.forceUnlock_cases stepped
      exact queue.forceUnlock forced past

end Queue

end Capstomp
