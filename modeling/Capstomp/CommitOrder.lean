import Capstomp.Ledger

/-!
# The order of the commits

`get_uncommited` hands out the ready transactions in the order of their
creation, but the COMMITs are written after the mutex is dropped.  Two batches
taken by two sessions may therefore be written in either order.  This file
shows that nothing else can go wrong: without `force_commit`, and when a batch
is only taken after the COMMITs of all earlier ones were attempted, the
COMMITs follow the order of creation.
-/

namespace Capstomp

open General

/-- The first transaction was created before the second. -/
def CreatedBefore (trace : List Event) (first second : Nat) : Prop :=
  ∃ sid other c x,
    [Event.created sid first c, .created other second x].Sublist trace

/-- No COMMIT goes out before the attempt for a transaction created
earlier. -/
def CommitOrder (s : System) : Prop :=
  ∀ first second, CreatedBefore s.trace first second →
    EachTime (fun earlier event => ∀ c, event = .attempted second c true →
      ∃ x sent, .attempted first x sent ∈ earlier) s.trace

def Event.takenNode : Event → Option Nat
  | .taken node => some node
  | _ => none

def Event.attemptedNode : Event → Option Nat
  | .attempted node _ _ => some node
  | _ => none

def Event.createdNode : Event → Option Nat
  | .created _ node _ => some node
  | _ => none

/-- The numbers of the transactions taken out of the store. -/
def takenNodes (trace : List Event) : List Nat :=
  trace.filterMap Event.takenNode

/-- The numbers of the transactions whose COMMIT was attempted. -/
def attemptedNodes (trace : List Event) : List Nat :=
  trace.filterMap Event.attemptedNode

/-- The numbers of the transactions created. -/
def createdNodes (trace : List Event) : List Nat :=
  trace.filterMap Event.createdNode

/-- The transaction of the session is the first in the store: the test
`i == transaction_store_.begin()` of `get_uncommited`. -/
def System.isFirst (s : System) (sid : SessionId) : Bool :=
  match s.pool.transactionStore with
  | [] => false
  | head :: _ =>
      (s.own sid).withTransaction &&
        decide ((s.own sid).transaction = some head.node)

/-- No `force_commit`. -/
def unforced (_ : System) : Action → Prop
  | .forceLock => False
  | _ => True

/-- No `force_commit`, and no batch taken while a transaction that was taken
before still awaits its COMMIT. -/
def batchesApart (s : System) : Action → Prop
  | .forceLock => False
  | .commit sid _ _ => s.isFirst sid →
      ∀ node ∈ takenNodes s.trace, node ∈ attemptedNodes s.trace
  | _ => True

instance (s : System) (action : Action) : Decidable (unforced s action) := by
  cases action <;> unfold unforced <;> infer_instance

instance (s : System) (action : Action) :
    Decidable (batchesApart s action) := by
  cases action <;> unfold batchesApart <;> infer_instance

theorem mem_takenNodes {trace : List Event} {node : Nat} :
    node ∈ takenNodes trace ↔ .taken node ∈ trace := by
  simp only [takenNodes, List.mem_filterMap]
  constructor
  · rintro ⟨event, member, isTaken⟩
    cases event <;> cases isTaken
    exact member
  · intro member
    exact ⟨_, member, rfl⟩

theorem mem_attemptedNodes {trace : List Event} {node : Nat} :
    node ∈ attemptedNodes trace ↔
      ∃ c sent, .attempted node c sent ∈ trace := by
  simp only [attemptedNodes, List.mem_filterMap]
  constructor
  · rintro ⟨event, member, isAttempted⟩
    cases event <;> cases isAttempted
    exact ⟨_, _, member⟩
  · rintro ⟨c, sent, member⟩
    exact ⟨_, member, rfl⟩

theorem mem_createdNodes {trace : List Event} {node : Nat} :
    node ∈ createdNodes trace ↔ ∃ sid c, .created sid node c ∈ trace := by
  simp only [createdNodes, List.mem_filterMap]
  constructor
  · rintro ⟨event, member, isCreated⟩
    cases event <;> cases isCreated
    exact ⟨_, _, member⟩
  · rintro ⟨sid, c, member⟩
    exact ⟨_, member, rfl⟩

/-- The invariant of the runs that keep batches apart. -/
structure InOrder (s : System) : Prop where
  unlocked : s.forcing = none
  numbered : (createdNodes s.trace).Pairwise (· < ·)
  accounted : ∀ node ∈ createdNodes s.trace,
    node ∈ s.pool.transactionStore.map Transaction.node ∨
      node ∈ takenNodes s.trace
  ascending : ∀ sid, ((s.sessions sid).phase.batch.map
    Transaction.node).Pairwise (· < ·)
  /-- What a batch transaction follows is attempted or in the batch. -/
  follows : ∀ sid, ∀ transaction ∈ (s.sessions sid).phase.batch,
    ∀ node ∈ createdNodes s.trace, node < transaction.node →
      node ∈ attemptedNodes s.trace ∨
        node ∈ (s.sessions sid).phase.batch.map Transaction.node
  order : ∀ first ∈ createdNodes s.trace, ∀ second, first < second →
    EachTime (fun earlier event => ∀ c, event = .attempted second c true →
      first ∈ attemptedNodes earlier) s.trace

namespace InOrder

variable {s after : System} {sid : SessionId}

theorem commitOrder (inOrder : InOrder s) : CommitOrder s := by
  rintro first second ⟨sid, other, c, x, before⟩
  have nodes : [first, second].Sublist (createdNodes s.trace) :=
    before.filterMap Event.createdNode
  have smaller : first < second := by
    simpa using inOrder.numbered.sublist nodes
  intro earlier event later split y isAttempt
  exact mem_attemptedNodes.mp
    (inOrder.order first (nodes.subset (by simp)) second smaller earlier event
      later split y isAttempt)

/-- A step that neither creates nor attempts. -/
theorem extend (inOrder : InOrder s) {more : List Event}
    (trace : after.trace = s.trace ++ more)
    (unlocked : after.forcing = none)
    (noCreated : createdNodes more = []) (noAttempted : attemptedNodes more = [])
    (accounted : ∀ node ∈ s.pool.transactionStore.map Transaction.node,
      node ∈ after.pool.transactionStore.map Transaction.node ∨
        node ∈ takenNodes more)
    (batches : ∀ sid,
      (after.sessions sid).phase.batch = (s.sessions sid).phase.batch ∨
      (((after.sessions sid).phase.batch.map
          Transaction.node).Pairwise (· < ·) ∧
        ∀ transaction ∈ (after.sessions sid).phase.batch,
          ∀ node ∈ createdNodes s.trace, node < transaction.node →
            node ∈ attemptedNodes s.trace ∨
              node ∈ (after.sessions sid).phase.batch.map
                Transaction.node)) : InOrder after := by
  have created : createdNodes after.trace = createdNodes s.trace := by
    simpa [createdNodes, trace] using noCreated
  have attempted : attemptedNodes after.trace = attemptedNodes s.trace := by
    simpa [attemptedNodes, trace] using noAttempted
  have taken : takenNodes after.trace =
      takenNodes s.trace ++ takenNodes more := by
    simp [takenNodes, trace, Event.takenNode]
  constructor
  case unlocked => exact unlocked
  case numbered => exact created ▸ inOrder.numbered
  case accounted =>
      intro node member
      rw [created] at member
      rw [taken, List.mem_append]
      rcases inOrder.accounted node member with stored | wasTaken
      · exact (accounted node stored).imp_right .inr
      · exact .inr (.inl wasTaken)
  case ascending =>
      intro sid
      rcases batches sid with same | ⟨ascending, _⟩
      · exact same ▸ inOrder.ascending sid
      · exact ascending
  case follows =>
      intro sid transaction member
      rw [created, attempted]
      rcases batches sid with same | ⟨_, follows⟩
      · rw [same] at member ⊢
        exact inOrder.follows sid transaction member
      · exact follows transaction member
  case order =>
      intro first' member second smaller
      rw [created] at member
      rw [trace, eachTime_append_iff]
      refine ⟨inOrder.order first' member second smaller, ?_⟩
      rintro earlier event later split c rfl
      have isAttempted : second ∈ attemptedNodes more :=
        mem_attemptedNodes.mpr ⟨c, true, by simp [split]⟩
      rw [noAttempted] at isAttempted
      cases isAttempted

/-- A step that records nothing of transactions and moves none. -/
theorem quiet (inOrder : InOrder s) {more : List Event}
    (trace : after.trace = s.trace ++ more)
    (forcing : after.forcing = s.forcing)
    (noCreated : createdNodes more = []) (noAttempted : attemptedNodes more = [])
    (store : after.pool.transactionStore.map Transaction.node =
      s.pool.transactionStore.map Transaction.node)
    (batches : ∀ sid, (after.sessions sid).phase.batch =
      (s.sessions sid).phase.batch) : InOrder after :=
  inOrder.extend trace (forcing.trans inOrder.unlocked) noCreated noAttempted
    (fun _ member => .inl (store ▸ member)) (fun sid => .inl (batches sid))

theorem createTransaction (inOrder : InOrder s) (ledger : Ledger s)
    {c : ConnId}
    (trace : after.trace = s.trace ++
      [.created sid (s.pool.transactionSeq + 1) c])
    (store : after.pool.transactionStore = s.pool.transactionStore ++
      [s.pool.newTransaction c])
    (forcing : after.forcing = s.forcing)
    (batches : ∀ sid, (after.sessions sid).phase.batch =
      (s.sessions sid).phase.batch) : InOrder after := by
  have created : createdNodes after.trace =
      createdNodes s.trace ++ [s.pool.transactionSeq + 1] := by
    simp [createdNodes, trace, Event.createdNode]
  have attempted : attemptedNodes after.trace = attemptedNodes s.trace := by
    simp [attemptedNodes, trace, Event.attemptedNode]
  have taken : takenNodes after.trace = takenNodes s.trace := by
    simp [takenNodes, trace, Event.takenNode]
  have bound : ∀ node ∈ createdNodes s.trace,
      node < s.pool.transactionSeq + 1 := by
    intro node member
    obtain ⟨other, x, isCreated⟩ := mem_createdNodes.mp member
    exact Nat.lt_succ_of_le (ledger.created_bound _ _ _ isCreated)
  have attemptedBound : ∀ node ∈ attemptedNodes s.trace,
      node ∈ createdNodes s.trace := by
    intro node member
    obtain ⟨x, sent, isAttempted⟩ := mem_attemptedNodes.mp member
    obtain ⟨other, isCreated⟩ := ledger.attempted_created _ _ _ isAttempted
    exact mem_createdNodes.mpr ⟨other, x, isCreated⟩
  constructor
  case unlocked => exact forcing.trans inOrder.unlocked
  case numbered =>
      rw [created, List.pairwise_append]
      refine ⟨inOrder.numbered, by simp, ?_⟩
      intro node member new isNew
      rw [List.mem_singleton.mp isNew]
      exact bound node member
  case accounted =>
      intro node member
      rw [created, List.mem_append, List.mem_singleton] at member
      rw [store, taken, List.map_append, List.mem_append]
      rcases member with old | rfl
      · exact (inOrder.accounted node old).imp_left .inl
      · exact .inl (.inr (by simp [Pool.newTransaction]))
  case ascending =>
      intro sid
      exact batches sid ▸ inOrder.ascending sid
  case follows =>
      intro other transaction member node isCreated smaller
      rw [batches] at member ⊢
      rw [created, List.mem_append, List.mem_singleton] at isCreated
      rw [attempted]
      rcases isCreated with old | rfl
      · exact inOrder.follows other transaction member node old smaller
      · have known := (ledger.batched other transaction member).1
        have least := ledger.created_bound _ _ _ known
        exact absurd smaller (by omega)
  case order =>
      intro first' member second smaller
      rw [created, List.mem_append, List.mem_singleton] at member
      rw [trace, eachTime_append_iff]
      refine ⟨?_, by simp⟩
      rcases member with old | rfl
      · exact inOrder.order first' old second smaller
      · -- The new transaction precedes no attempt.
        rintro earlier event later split x rfl
        have isAttempted : second ∈ attemptedNodes s.trace :=
          mem_attemptedNodes.mpr ⟨x, true, by simp [split]⟩
        have known := bound second (attemptedBound second isAttempted)
        omega

/-- The batch of a session whose transaction is the first, taken when all
earlier batches are through. -/
theorem takeOver (inOrder : InOrder s) (queue : Queue s)
    {transaction : Transaction} {back : List Transaction} {receipt : Bool}
    (apart : ∀ node ∈ takenNodes s.trace, node ∈ attemptedNodes s.trace)
    (store : s.pool.transactionStore = transaction :: back)
    (pool : after.pool.transactionStore =
      back.dropWhile Transaction.ready)
    (trace : after.trace = s.trace ++
      ({ transaction with ready := true } ::
        back.takeWhile Transaction.ready).map fun other =>
          .taken other.node)
    (forcing : after.forcing = s.forcing)
    (sessions : after.sessions = Function.update s.sessions sid
      { s.sessions sid with
        phase := .committing { transaction with ready := true }
          (back.takeWhile Transaction.ready) receipt }) :
    InOrder after := by
  have split : back.takeWhile Transaction.ready ++
      back.dropWhile Transaction.ready = back :=
    List.takeWhile_append_dropWhile
  have nodes : s.pool.transactionStore.map Transaction.node =
      ({ transaction with ready := true } ::
        back.takeWhile Transaction.ready).map Transaction.node ++
        (back.dropWhile Transaction.ready).map Transaction.node := by
    rw [← List.map_append, List.cons_append, split, store]
    rfl
  refine inOrder.extend trace (forcing.trans inOrder.unlocked)
    (by simp [createdNodes, Event.createdNode])
    (by simp [attemptedNodes, Event.attemptedNode]) ?_ ?_
  · intro node member
    rw [nodes, List.mem_append] at member
    rw [pool]
    rcases member with taken | stays
    · obtain ⟨other, inBatch, rfl⟩ := List.mem_map.mp taken
      exact .inr (mem_takenNodes.mpr
        (List.mem_map_of_mem (f := fun other : Transaction =>
          Event.taken other.node) inBatch))
    · exact .inl stays
  · intro other
    by_cases same : other = sid
    · subst same
      right
      have ordered := queue.ordered
      rw [nodes, List.pairwise_append] at ordered
      simp only [sessions, Function.update_self, Phase.batch]
      refine ⟨ordered.1, ?_⟩
      intro next member node isCreated smaller
      rcases inOrder.accounted node isCreated with stored | wasTaken
      · rw [nodes, List.mem_append] at stored
        refine .inr (stored.resolve_right fun stays => ?_)
        have later := ordered.2.2 next.node (List.mem_map_of_mem member) node
          stays
        omega
      · exact .inl (apart node wasTaken)
    · left
      rw [sessions, Function.update_of_ne same]

theorem commitTransaction (inOrder : InOrder s) {transaction : Transaction}
    {batch : List Transaction} {receipt : Bool} {c : ConnId} {sent : Bool}
    (committing : (s.sessions sid).phase =
      .committing transaction batch receipt)
    (trace : after.trace = s.trace ++ [.attempted transaction.node c sent])
    (store : after.pool.transactionStore = s.pool.transactionStore)
    (forcing : after.forcing = s.forcing)
    (mine : (after.sessions sid).phase.batch = batch)
    (others : ∀ other, other ≠ sid →
      after.sessions other = s.sessions other) : InOrder after := by
  have created : createdNodes after.trace = createdNodes s.trace := by
    simp [createdNodes, trace, Event.createdNode]
  have attempted : attemptedNodes after.trace =
      attemptedNodes s.trace ++ [transaction.node] := by
    simp [attemptedNodes, trace, Event.attemptedNode]
  have taken : takenNodes after.trace = takenNodes s.trace := by
    simp [takenNodes, trace, Event.takenNode]
  have before : (s.sessions sid).phase.batch = transaction :: batch := by
    simp [committing, Phase.batch]
  have ascending := inOrder.ascending sid
  rw [before, List.map_cons, List.pairwise_cons] at ascending
  constructor
  case unlocked => exact forcing.trans inOrder.unlocked
  case numbered => exact created ▸ inOrder.numbered
  case accounted =>
      rw [created, taken, store]
      exact inOrder.accounted
  case ascending =>
      intro other
      by_cases same : other = sid
      · subst same
        rw [mine]
        exact ascending.2
      · rw [others other same]
        exact inOrder.ascending other
  case follows =>
      intro other next member node isCreated smaller
      rw [created] at isCreated
      rw [attempted, List.mem_append]
      by_cases same : other = sid
      · subst same
        rw [mine] at member ⊢
        have follows := inOrder.follows other next
          (by simp [before, member]) node isCreated smaller
        rw [before, List.map_cons, List.mem_cons] at follows
        rcases follows with old | rfl | inBatch
        · exact .inl (.inl old)
        · exact .inl (.inr (List.mem_singleton_self _))
        · exact .inr inBatch
      · rw [others other same] at member ⊢
        exact (inOrder.follows other next member node isCreated
          smaller).imp_left .inl
  case order =>
      intro first' member second smaller
      rw [created] at member
      rw [trace, eachTime_append_iff]
      refine ⟨inOrder.order first' member second smaller, ?_⟩
      simp only [eachTime_cons_iff, List.append_nil, eachTime_nil, and_true]
      intro x isAttempt
      cases isAttempt
      have follows := inOrder.follows sid transaction (by simp [before])
        first' member smaller
      rw [before, List.map_cons, List.mem_cons] at follows
      rcases follows with old | same | inBatch
      · exact old
      · omega
      · have later := ascending.1 first' inBatch
        omega

theorem init (name : String) : InOrder (System.init name) := by
  constructor <;> simp [System.init, createdNodes, Phase.batch]

theorem isFirst_of_head {transaction : Transaction} {back : List Transaction}
    (store : s.pool.transactionStore = transaction :: back)
    (begun : (s.own sid).withTransaction)
    (isNode : (s.own sid).transaction = some transaction.node) :
    s.isFirst sid := by
  simp [System.isFirst, store, begun, isNode]

theorem step [QueryDecoding] [PassHash] [FrameBytes] {action : Action}
    (inOrder : InOrder s) (custody : Custody s) (queue : Queue s)
    (ledger : Ledger s) (apart : batchesApart s action)
    (stepped : s.step action = some after) : InOrder after := by
  cases action with
  | get sid uri maxPoolSockets =>
      obtain ⟨idle, _, rfl | ⟨obtained, got, rfl⟩⟩ := System.get_cases stepped
      · exact inOrder
      · exact inOrder.quiet (System.handOver_trace _ _ _ _) rfl rfl rfl
          (by rw [System.handOver_pool, (Pool.get_spec got).store])
          (System.batches_update (System.handOver_sessions _ _ _ _)
            (by rw [idle]; rfl))
  | connect sid turns =>
      obtain ⟨uri, phase, ⟨c, _, rfl⟩ | ⟨error, c, _, rfl⟩⟩ :=
        System.connect_cases stepped
      all_goals
        refine inOrder.quiet (List.append_nil _).symm rfl rfl rfl rfl
          (System.batches_update rfl ?_)
        rw [phase]
        dsimp only
        split <;> rfl
  | createTransaction sid =>
      obtain ⟨self, phase, _, _, rfl⟩ := System.createTransaction_cases stepped
      exact inOrder.createTransaction ledger rfl rfl rfl
        (System.batches_update rfl (by rw [phase]; rfl))
  | begin sid requestLimit turns =>
      obtain ⟨phase, ⟨c, _, rfl⟩ | ⟨error, c, _, rfl⟩⟩ :=
        System.begin_cases stepped
      · exact inOrder.quiet (List.append_nil _).symm rfl rfl rfl rfl
          (System.batches_update rfl (by rw [phase]; rfl))
      · refine inOrder.quiet (List.append_nil _).symm rfl rfl rfl rfl
          (System.batches_update rfl ?_)
        rw [phase]
        dsimp only
        split <;> rfl
  | content sid row now requestLimit turns =>
      obtain ⟨_, rfl⟩ := System.content_cases stepped
      exact inOrder.quiet (List.append_nil _).symm rfl rfl rfl rfl
        (System.batches_update rfl rfl)
  | deinit sid =>
      obtain ⟨phase, rfl⟩ := System.deinit_cases stepped
      exact inOrder.quiet (List.append_nil _).symm rfl rfl rfl rfl
        (System.batches_update rfl (by rw [phase]; rfl))
  | commit sid endReady requestLimit =>
      obtain ⟨phase, ⟨_, rfl⟩ |
        ⟨node, batch, pool, begun, isNode, _, taken, rfl⟩⟩ :=
        System.commit_cases stepped
      · exact inOrder.quiet (List.append_nil _).symm rfl rfl rfl rfl
          (System.batches_update rfl (by rw [phase]; rfl))
      · obtain ⟨front, transaction, back, store, rfl, _, _⟩ :=
          custody.finds (by simp [phase, Phase.unfinished]) begun isNode
        cases front with
        | nil =>
            rw [List.nil_append] at store
            rw [Pool.getUncommited_first endReady store queue.distinct]
              at taken
            cases taken
            exact inOrder.takeOver queue
              (apart (isFirst_of_head store begun isNode)) store rfl rfl rfl
              rfl
        | cons head front =>
            rw [Pool.getUncommited_later endReady store (by simp)
              queue.distinct] at taken
            cases taken
            exact inOrder.quiet rfl rfl rfl rfl (by simp [store])
              (System.batches_update rfl (by rw [phase]; rfl))
  | commitTransaction sid turns =>
      obtain ⟨transaction, batch, receipt, committing, rfl⟩ :=
        System.commitTransaction_cases stepped
      refine inOrder.commitTransaction committing rfl rfl rfl ?_ ?_
      · simp only [System.setPhase_sessions, Function.update_self]
        split
        · exact batch_afterBatch _ _
        · rfl
      · intro other different
        simp [Function.update_of_ne different]
  | releaseDeferred sid poolSockets =>
      obtain ⟨c, batch, receipt, returning, _, rfl⟩ :=
        System.releaseDeferred_cases stepped
      exact inOrder.quiet (System.releaseConnection_trace _ _ _) rfl rfl rfl
        (by simp)
        (System.batches_update rfl (by rw [batch_afterBatch, returning]; rfl))
  | release sid requestLimit poolSockets =>
      obtain ⟨self, releasing, _, _, rfl⟩ := System.release_cases stepped
      exact inOrder.quiet (System.releaseConnection_trace _ _ _) rfl rfl rfl
        (by simp) (System.batches_update rfl (by rw [releasing]; rfl))
  | forceLock => exact apart.elim
  | forceNext poolSockets turns =>
      obtain ⟨forcing, _, forced, _⟩ := System.forceNext_cases stepped
      rw [inOrder.unlocked] at forced
      cases forced
  | forceUnlock =>
      obtain ⟨forcing, forced, _⟩ := System.forceUnlock_cases stepped
      rw [inOrder.unlocked] at forced
      cases forced

end InOrder

/-- When batches are kept apart, the COMMITs follow the order of creation. -/
theorem commits_in_order [QueryDecoding] [PassHash] [FrameBytes]
    {name : String} {s : System} (run : Runs batchesApart name s) :
    CommitOrder s := by
  refine InOrder.commitOrder (Reaches.invariant run (InOrder.init name) ?_)
  intro before action after reached inOrder apart stepped
  exact inOrder.step (Runs.custody reached) (Runs.queue reached)
    (Runs.ledger reached) apart stepped

section Executed

open scoped Sample

/-- The first session commits both transactions, one after the other. -/
def oneBatch : List Action :=
  Sample.begins 1 ++ Sample.begins 2 ++
    [.deinit 2, .commit 2 false 100, .deinit 1, .commit 1 false 100,
      .commitTransaction 1 (Sample.confirmed 0),
      .commitTransaction 1 (Sample.confirmed 0)]

theorem commits_in_order_oneBatch :
    (final batchesApart "pool" oneBatch).trace.drop 6 =
        [.attempted 1 0 true, .attempted 2 1 true] ∧
      CommitOrder (final batchesApart "pool" oneBatch) :=
  ⟨by decide +kernel, commits_in_order (runs_final (by decide +kernel))⟩

/-- Both sessions take a batch of one, and the second one writes first. -/
def overtaking : List Action :=
  Sample.begins 1 ++ Sample.begins 2 ++
    [.deinit 1, .commit 1 false 100, .deinit 2, .commit 2 false 100,
      .commitTransaction 2 { write := [Sample.writable] }]

/-- The COMMIT of the second transaction goes out before any attempt for the
first. -/
theorem commit_overtakes :
    ¬ ∀ name s, Runs unforced name s → CommitOrder s := by
  intro ordered
  have run : Runs unforced "pool" (final unforced "pool" overtaking) :=
    runs_final (by decide +kernel)
  have order := ordered "pool" _ run 1 2
  have trace : (final unforced "pool" overtaking).trace =
      [.got 1 0, .created 1 1 0, .got 2 1, .created 2 2 1, .taken 1, .taken 2,
        .attempted 2 1 true] := by decide +kernel
  rw [trace] at order
  obtain ⟨x, sent, impossible⟩ := order ⟨1, 2, 0, 1, by decide⟩
    [.got 1 0, .created 1 1 0, .got 2 1, .created 2 2 1, .taken 1, .taken 2]
    (.attempted 2 1 true) [] rfl 1 rfl
  simp at impossible

end Executed

end Capstomp
