import Capstomp.General.History
import Capstomp.Reachable

/-!
# The history of a pool

What may be recorded next, given what was recorded before (`Proper`), and the
invariant that ties the recorded events to the transactions that still wait
and to the connections in use.
-/

namespace Capstomp

open General

/-- The event hands out the connection. -/
def Event.gets (c : ConnId) : Event → Prop
  | .got _ connection => connection = c
  | _ => False

/-- The event releases the connection. -/
def Event.releases (c : ConnId) : Event → Prop
  | .released connection _ => connection = c
  | _ => False

/-- The connection was handed out and not released since, and every
transaction begun on it since was attempted. -/
def Settled (earlier : List Event) (c : ConnId) : Prop :=
  ∃ sid between, Since (.got sid c) (Event.releases c) earlier between ∧
    ∀ other node, .created other node c ∈ between →
      ∃ sent, .attempted node c sent ∈ between

/-- What each event presupposes of those before it. -/
def Proper (earlier : List Event) : Event → Prop
  | .got _ c => Closed (Event.gets c) (Event.releases c) earlier
  | .created sid node c =>
      (∀ other x, .created other node x ∉ earlier) ∧
        ∃ between, Since (.got sid c) (Event.releases c) earlier between
  | .taken node =>
      (∃ sid c, .created sid node c ∈ earlier) ∧ .taken node ∉ earlier
  | .attempted node c _ =>
      (∃ sid, .created sid node c ∈ earlier) ∧
        ∀ x sent, .attempted node x sent ∉ earlier
  | .released c inActive => inActive = true ∧ Settled earlier c

/-- A transaction that was created and not yet attempted. -/
def System.Pending (s : System) (transaction : Transaction) : Prop :=
  transaction ∈ s.pool.transactionStore ∨
    ∃ sid, transaction ∈ (s.sessions sid).phase.batch

namespace System

variable {s after : System} {sid : SessionId} {session : Session}

theorem batches_update
    (sessions : after.sessions = Function.update s.sessions sid session)
    (batch : session.phase.batch = (s.sessions sid).phase.batch) :
    ∀ other, (after.sessions other).phase.batch =
      (s.sessions other).phase.batch := by
  intro other
  by_cases same : other = sid
  · subst same
    rw [sessions, Function.update_self, batch]
  · rw [sessions, Function.update_of_ne same]

/-- What is pending depends on the store and on the batches. -/
theorem pending_congr
    (store : after.pool.transactionStore = s.pool.transactionStore)
    (batches : ∀ sid, (after.sessions sid).phase.batch =
      (s.sessions sid).phase.batch) (transaction : Transaction) :
    after.Pending transaction ↔ s.Pending transaction := by
  simp only [Pending, store, batches]

end System

namespace Custody

variable {s : System} {sid : SessionId}

/-- A pending transaction is the one its connection points to. -/
theorem linked_of_pending (custody : Custody s) {transaction : Transaction}
    (pending : s.Pending transaction) :
    Linked (s.connections transaction.connection) transaction := by
  rcases pending with stored | ⟨sid, batched⟩
  · exact custody.linked_store transaction stored
  · exact custody.linked_batch sid transaction batched

/-- What a session holds, beside the connection of an unfinished transaction
and those of its batch, has no transaction pending. -/
theorem none_pending (custody : Custody s) {c : ConnId}
    (held : c ∈ s.places (.session sid))
    (finished : (s.sessions sid).phase.unfinished = false)
    (alone : ∀ transaction ∈ (s.sessions sid).phase.batch,
      transaction.connection ≠ c) :
    ∀ transaction, s.Pending transaction → transaction.connection ≠ c := by
  rintro transaction (stored | ⟨owner, batched⟩)
  · exact custody.not_stored held finished transaction stored
  · by_cases isSid : owner = sid
    · subst isSid
      exact alone transaction batched
    · rintro rfl
      exact isSid (custody.only_session held (place_of_batch batched))

end Custody

/-- The connection is out since it was given to its owner, and what the owner
began on it was attempted or is pending. -/
def System.Holding (s : System) (c : ConnId) : Prop :=
  ∃ between, Since (.got (s.connections c).owner c) (Event.releases c)
      s.trace between ∧
    ∀ sid node, .created sid node c ∈ between →
      (∃ sent, .attempted node c sent ∈ between) ∨
        ∃ transaction, s.Pending transaction ∧
          transaction.node = node ∧ transaction.connection = c

/-- No COMMIT was attempted for the transaction with this number. -/
def Unattempted (trace : List Event) (node : Nat) : Prop :=
  ∀ c sent, .attempted node c sent ∉ trace

structure Ledger (s : System) : Prop where
  proper : EachTime Proper s.trace
  created_bound : ∀ sid node c, .created sid node c ∈ s.trace →
    node ≤ s.pool.transactionSeq
  created_unique : ∀ sid other node c x, .created sid node c ∈ s.trace →
    .created other node x ∈ s.trace → sid = other ∧ c = x
  taken_created : ∀ node, .taken node ∈ s.trace →
    ∃ sid c, .created sid node c ∈ s.trace
  attempted_created : ∀ node c sent, .attempted node c sent ∈ s.trace →
    ∃ sid, .created sid node c ∈ s.trace
  stored : ∀ transaction ∈ s.pool.transactionStore,
    .created (s.connections transaction.connection).owner transaction.node
        transaction.connection ∈ s.trace ∧
      .taken transaction.node ∉ s.trace ∧
      Unattempted s.trace transaction.node
  batched : ∀ sid, ∀ transaction ∈ (s.sessions sid).phase.batch,
    .created (s.connections transaction.connection).owner transaction.node
        transaction.connection ∈ s.trace ∧
      .taken transaction.node ∈ s.trace ∧
      Unattempted s.trace transaction.node
  holding : ∀ c ∈ s.pool.active, s.Holding c
  free : ∀ c, c ∉ s.pool.active →
    Closed (Event.gets c) (Event.releases c) s.trace
  owner : ∀ sid, (s.sessions sid).phase ≠ .idle →
    (s.sessions sid).phase ≠ .ended → (s.own sid).owner = sid

namespace Ledger

variable {s after : System} {sid : SessionId}

/-- A step that creates no transaction and hands out no connection, but may
commit and release. -/
theorem extend (ledger : Ledger s) (more : List Event)
    (trace : after.trace = s.trace ++ more)
    (seq : after.pool.transactionSeq = s.pool.transactionSeq)
    (proper : EachTime
      (fun earlier event => Proper (s.trace ++ earlier) event) more)
    (noCreated : ∀ sid node c, .created sid node c ∉ more)
    (noGot : ∀ sid c, .got sid c ∉ more)
    (stored : ∀ transaction ∈ after.pool.transactionStore,
      .taken transaction.node ∉ more ∧ Unattempted more transaction.node ∧
        ∃ original ∈ s.pool.transactionStore,
          original.node = transaction.node ∧
          original.connection = transaction.connection)
    (batched : ∀ sid, ∀ transaction ∈ (after.sessions sid).phase.batch,
      Unattempted more transaction.node ∧
        ((∃ other, transaction ∈ (s.sessions other).phase.batch) ∨
          .taken transaction.node ∈ more ∧
            ∃ original ∈ s.pool.transactionStore,
              original.node = transaction.node ∧
              original.connection = transaction.connection))
    (owners : ∀ c, (after.connections c).owner = (s.connections c).owner)
    (holding : ∀ c ∈ after.pool.active, c ∈ s.pool.active ∧
      (∀ event ∈ more, ¬ Event.releases c event) ∧
      ∀ transaction, s.Pending transaction → transaction.connection = c →
        (∃ sent, .attempted transaction.node c sent ∈ more) ∨
          ∃ kept, after.Pending kept ∧ kept.node = transaction.node ∧
            kept.connection = c)
    (free : ∀ c, c ∉ after.pool.active → c ∉ s.pool.active ∨
      ∃ event ∈ more, Event.releases c event)
    (sessions : ∀ sid, (after.sessions sid).phase ≠ .idle →
      (after.sessions sid).phase ≠ .ended →
        (s.sessions sid).phase ≠ .idle ∧ (s.sessions sid).phase ≠ .ended ∧
          (after.sessions sid).connection = (s.sessions sid).connection) :
    Ledger after := by
  have created_iff : ∀ sid node c, .created sid node c ∈ after.trace ↔
      .created sid node c ∈ s.trace := by
    intro sid node c
    rw [trace, List.mem_append]
    exact or_iff_left (noCreated sid node c)
  have new : EachTime Proper after.trace := by
    rw [trace, eachTime_append_iff]
    exact ⟨ledger.proper, proper⟩
  have unattempted : ∀ node, Unattempted s.trace node →
      Unattempted more node → Unattempted after.trace node := by
    intro node old recent c sent member
    rw [trace, List.mem_append] at member
    exact member.elim (old c sent) (recent c sent)
  constructor
  case proper => exact new
  case created_bound =>
      intro sid node c member
      rw [seq]
      exact ledger.created_bound sid node c ((created_iff _ _ _).mp member)
  case created_unique =>
      intro sid other node c x one two
      exact ledger.created_unique sid other node c x
        ((created_iff _ _ _).mp one) ((created_iff _ _ _).mp two)
  case taken_created =>
      intro node member
      simp only [created_iff]
      rw [trace, List.mem_append] at member
      rcases member with old | recent
      · exact ledger.taken_created node old
      · obtain ⟨earlier, later, rfl⟩ := List.append_of_mem recent
        obtain ⟨⟨sid, c, member⟩, _⟩ := proper earlier _ later rfl
        refine ⟨sid, c, (List.mem_append.mp member).resolve_right ?_⟩
        intro inMore
        exact noCreated sid node c (List.mem_append_left _ inMore)
  case attempted_created =>
      intro node c sent member
      simp only [created_iff]
      rw [trace, List.mem_append] at member
      rcases member with old | recent
      · exact ledger.attempted_created node c sent old
      · obtain ⟨earlier, later, rfl⟩ := List.append_of_mem recent
        obtain ⟨⟨sid, member⟩, _⟩ := proper earlier _ later rfl
        refine ⟨sid, (List.mem_append.mp member).resolve_right ?_⟩
        intro inMore
        exact noCreated sid node c (List.mem_append_left _ inMore)
  case stored =>
      intro transaction member
      obtain ⟨notTaken, notAttempted, original, wasThere, node, connection⟩ :=
        stored transaction member
      obtain ⟨created, old, never⟩ := ledger.stored original wasThere
      rw [node] at created old never
      rw [connection] at created
      rw [owners, created_iff, trace, List.mem_append]
      exact ⟨created, not_or.mpr ⟨old, notTaken⟩,
        trace ▸ unattempted _ never notAttempted⟩
  case batched =>
      intro sid transaction member
      obtain ⟨notAttempted, origin⟩ := batched sid transaction member
      rw [owners, created_iff]
      rcases origin with ⟨other, wasThere⟩ |
        ⟨taken, original, wasThere, node, connection⟩
      · obtain ⟨created, taken, never⟩ :=
          ledger.batched other transaction wasThere
        exact ⟨created, trace ▸ List.mem_append_left _ taken,
          unattempted _ never notAttempted⟩
      · obtain ⟨created, _, never⟩ := ledger.stored original wasThere
        rw [node] at created never
        rw [connection] at created
        exact ⟨created, trace ▸ List.mem_append_right _ taken,
          unattempted _ never notAttempted⟩
  case holding =>
      intro c member
      obtain ⟨wasActive, unreleased, kept⟩ := holding c member
      obtain ⟨between, since, accounted⟩ := ledger.holding c wasActive
      refine ⟨between ++ more, ?_, ?_⟩
      · rw [owners, trace]
        exact since.append unreleased
      · intro sid node isCreated
        have old : Event.created sid node c ∈ between :=
          (List.mem_append.mp isCreated).resolve_right (noCreated sid node c)
        rcases accounted sid node old with
          ⟨sent, attempted⟩ | ⟨transaction, pending, rfl, isHere⟩
        · exact .inl ⟨sent, List.mem_append_left _ attempted⟩
        · rcases kept transaction pending isHere with
            ⟨sent, attempted⟩ | stillPending
          · exact .inl ⟨sent, List.mem_append_right _ attempted⟩
          · exact .inr stillPending
  case free =>
      intro c notActive
      have quiet : ∀ event ∈ more, ¬ Event.gets c event := by
        intro event member gets
        cases event with
        | got sid x => exact noGot sid x member
        | _ => exact gets
      rw [trace]
      rcases free c notActive with wasFree | ⟨event, member, releases⟩
      · exact (ledger.free c wasFree).append quiet
      · exact closed_of_end releases member quiet
  case owner =>
      intro sid notIdle notEnded
      obtain ⟨wasBusy, wasNotEnded, connection⟩ :=
        sessions sid notIdle notEnded
      rw [System.own, connection, owners]
      exact ledger.owner sid wasBusy wasNotEnded

/-- A step that records nothing, on one connection and in one session. -/
theorem quietSession (ledger : Ledger s) {x : ConnId} {c : Connection}
    {session : Session} (trace : after.trace = s.trace)
    (pool : after.pool = s.pool)
    (connections : after.connections = Function.update s.connections x c)
    (owner : c.owner = (s.connections x).owner)
    (sessions : after.sessions = Function.update s.sessions sid session)
    (connection : session.connection = (s.sessions sid).connection)
    (batch : session.phase.batch = (s.sessions sid).phase.batch)
    (busy : (s.sessions sid).phase ≠ .idle ∧
      (s.sessions sid).phase ≠ .ended) : Ledger after := by
  have batches := System.batches_update sessions batch
  refine ledger.extend [] (by simp [trace]) (by rw [pool]) (by simp)
    (by simp) (by simp) ?stored ?batched ?owners ?holding ?free ?sessions
  case stored =>
      intro transaction member
      rw [pool] at member
      exact ⟨by simp, by simp [Unattempted], transaction, member, rfl, rfl⟩
  case batched =>
      intro other transaction member
      rw [batches] at member
      exact ⟨by simp [Unattempted], .inl ⟨other, member⟩⟩
  case owners =>
      intro y
      by_cases same : y = x
      · subst same
        simp [connections, owner]
      · simp [connections, Function.update_of_ne same]
  case holding =>
      intro y member
      rw [pool] at member
      refine ⟨member, by simp, ?_⟩
      intro transaction pending isHere
      refine .inr ⟨transaction, ?_, rfl, isHere⟩
      simpa [System.Pending, pool, batches] using pending
  case free =>
      intro y notActive
      exact .inl (pool ▸ notActive)
  case sessions =>
      intro other notIdle notEnded
      by_cases same : other = sid
      · subst same
        exact ⟨busy.1, busy.2, by simp [sessions, connection]⟩
      · rw [sessions, Function.update_of_ne same] at notIdle notEnded ⊢
        exact ⟨notIdle, notEnded, rfl⟩

/-- Locking and unlocking are not recorded. -/
theorem setForcing (ledger : Ledger s) (forcing : Option Forcing) :
    Ledger { s with forcing := forcing } := by
  refine ledger.extend [] (by simp) rfl (by simp) (by simp)
    (by simp) ?_ ?_ (fun _ => rfl) ?_ (fun _ => .inl)
    (fun _ notIdle notEnded => ⟨notIdle, notEnded, rfl⟩)
  · intro transaction member
    exact ⟨by simp, by simp [Unattempted], transaction, member, rfl, rfl⟩
  · intro other transaction member
    exact ⟨by simp [Unattempted], .inl ⟨other, member⟩⟩
  · intro y member
    exact ⟨member, by simp,
      fun transaction pending isHere => .inr ⟨transaction, pending, rfl, isHere⟩⟩

theorem handOver [QueryDecoding] (ledger : Ledger s) (custody : Custody s)
    {uri : Uri} {maxPoolSockets : Nat} {obtained : Obtained}
    (idle : (s.sessions sid).phase = .idle)
    (got : s.pool.get maxPoolSockets s.nextConnection = .ok obtained) :
    Ledger (s.handOver sid uri obtained) := by
  have away : ∀ place, place ≠ .parked →
      obtained.connection ∉ s.places place :=
    custody.obtained_away got
  obtain ⟨notStored, notBatched, _⟩ := custody.unused away
  have notActive : obtained.connection ∉ s.pool.active := by
    rw [custody.active_iff]
    rintro (deferred | ⟨other, held⟩)
    · exact away .deferred (by simp) deferred
    · exact away (.session other) (by simp) held
  have pool := Pool.get_spec got
  have owners : ∀ c, c ≠ obtained.connection →
      ((s.handOver sid uri obtained).connections c).owner =
        (s.connections c).owner := by
    intro c different
    simp [Function.update_of_ne different]
  have batches : ∀ other, ((s.handOver sid uri obtained).sessions
      other).phase.batch = (s.sessions other).phase.batch := by
    intro other
    by_cases same : other = sid
    · subst same
      simp [Phase.batch, idle]
    · simp [Function.update_of_ne same]
  have pendings : ∀ transaction,
      (s.handOver sid uri obtained).Pending transaction ↔
        s.Pending transaction := by
    intro transaction
    simp only [System.Pending, batches, System.handOver_pool, pool.store]
  have created_iff : ∀ other node c,
      .created other node c ∈ (s.handOver sid uri obtained).trace ↔
        .created other node c ∈ s.trace := by simp
  constructor
  case proper =>
      rw [System.handOver_trace, eachTime_append_iff]
      refine ⟨ledger.proper, ?_⟩
      simpa [Proper] using ledger.free _ notActive
  case created_bound =>
      intro other node c
      rw [created_iff, System.handOver_pool, pool.seq]
      exact ledger.created_bound other node c
  case created_unique =>
      intro one other node c x
      rw [created_iff, created_iff]
      exact ledger.created_unique one other node c x
  case taken_created => simpa using ledger.taken_created
  case attempted_created => simpa using ledger.attempted_created
  case stored =>
      intro transaction member
      rw [System.handOver_pool, pool.store] at member
      rw [owners _ (notStored transaction member)]
      simpa [Unattempted] using ledger.stored transaction member
  case batched =>
      intro other transaction member
      rw [batches] at member
      rw [owners _ (notBatched other transaction member)]
      simpa [Unattempted] using ledger.batched other transaction member
  case holding =>
      intro c member
      rw [System.handOver_pool, pool.active, List.mem_cons] at member
      by_cases same : c = obtained.connection
      · subst same
        refine ⟨[], ?_, by simp⟩
        simpa [Connection.handedOver] using since_snoc s.trace
      · obtain ⟨between, since, accounted⟩ :=
          ledger.holding c (member.resolve_left same)
        refine ⟨between ++ [.got sid obtained.connection], ?_, ?_⟩
        · rw [owners c same, System.handOver_trace]
          exact since.append (by simp [Event.releases])
        · intro other node isCreated
          have old : .created other node c ∈ between := by
            simpa using isCreated
          simpa only [pendings, List.mem_append, List.mem_singleton,
            reduceCtorEq, or_false] using accounted other node old
  case free =>
      intro c notActive
      rw [System.handOver_pool, pool.active, List.mem_cons, not_or]
        at notActive
      rw [System.handOver_trace]
      refine (ledger.free c notActive.2).append ?_
      simpa [Event.gets] using Ne.symm notActive.1
  case owner =>
      intro other notIdle notEnded
      by_cases same : other = sid
      · subst same
        simp [System.own, Connection.handedOver]
      · simp only [System.handOver_sessions, Function.update_of_ne same]
          at notIdle notEnded
        have different := custody.obtained_not_own got notIdle notEnded
        simpa [System.own, Function.update_of_ne same,
          Function.update_of_ne different] using
            ledger.owner other notIdle notEnded

theorem createTransaction (ledger : Ledger s) (custody : Custody s)
    {self : ConnId} (creating : (s.sessions sid).phase = .creating)
    (isSelf : (s.own sid).self = some self)
    (stepped : after = ({ s with pool := s.pool.createTransaction self }
        |>.setConnection (s.sessions sid).connection
            ((s.own sid).setTransaction (s.pool.newTransaction self).node
              (s.pool.newTransaction self).id)
        |>.setPhase sid .beginning
        |>.record [.created sid (s.pool.newTransaction self).node self])) :
    Ledger after := by
  have isOwn := custody.self_eq (by simp [creating]) (by simp [creating]) isSelf
  subst isOwn
  have held : (s.sessions sid).connection ∈ s.places (.session sid) := by
    simp [System.places, Session.held, creating]
  have ownerHere : (s.connections (s.sessions sid).connection).owner = sid :=
    ledger.owner sid (by simp [creating]) (by simp [creating])
  have trace : after.trace = s.trace ++
      [.created sid (s.pool.transactionSeq + 1)
        (s.sessions sid).connection] := by
    simp [stepped, Pool.newTransaction]
  have store : after.pool.transactionStore = s.pool.transactionStore ++
      [s.pool.newTransaction (s.sessions sid).connection] := by
    subst stepped
    rfl
  have active : after.pool.active = s.pool.active := by
    subst stepped
    rfl
  have seq : after.pool.transactionSeq = s.pool.transactionSeq + 1 := by
    subst stepped
    rfl
  have owners : ∀ c, (after.connections c).owner =
      (s.connections c).owner := by
    intro c
    by_cases same : c = (s.sessions sid).connection
    · subst same
      simp [stepped, System.own, Connection.setTransaction]
    · simp [stepped, Function.update_of_ne same]
  have batches : ∀ other, (after.sessions other).phase.batch =
      (s.sessions other).phase.batch := by
    intro other
    by_cases same : other = sid
    · subst same
      simp [stepped, Phase.batch, creating]
    · simp [stepped, Function.update_of_ne same]
  have unseen : ∀ other x,
      .created other (s.pool.transactionSeq + 1) x ∉ s.trace := by
    intro other x member
    exact absurd (ledger.created_bound _ _ _ member) (by simp)
  obtain ⟨between, since, accounted⟩ := ledger.holding _
    (custody.mem_active_of_place (by simp) held)
  constructor
  case proper =>
      rw [trace, eachTime_append_iff]
      refine ⟨ledger.proper, ?_⟩
      simp only [eachTime_cons_iff, List.append_nil, eachTime_nil, and_true]
      rw [ownerHere] at since
      exact ⟨unseen, between, since⟩
  case created_bound =>
      intro other node c member
      rw [trace, List.mem_append, List.mem_singleton] at member
      rw [seq]
      rcases member with old | new
      · exact Nat.le_succ_of_le (ledger.created_bound _ _ _ old)
      · cases new
        exact Nat.le_refl _
  case created_unique =>
      intro one other node c x first' second
      rw [trace, List.mem_append, List.mem_singleton] at first' second
      rcases first' with old | new
      · rcases second with older | newer
        · exact ledger.created_unique _ _ _ _ _ old older
        · cases newer
          exact absurd old (unseen _ _)
      · cases new
        rcases second with older | newer
        · exact absurd older (unseen _ _)
        · cases newer
          exact ⟨rfl, rfl⟩
  case taken_created =>
      intro node member
      have old : .taken node ∈ s.trace := by simpa [trace] using member
      obtain ⟨other, c, created⟩ := ledger.taken_created node old
      exact ⟨other, c, trace ▸ List.mem_append_left _ created⟩
  case attempted_created =>
      intro node c sent member
      have old : .attempted node c sent ∈ s.trace := by
        simpa [trace] using member
      obtain ⟨other, created⟩ := ledger.attempted_created node c sent old
      exact ⟨other, trace ▸ List.mem_append_left _ created⟩
  case stored =>
      intro transaction member
      rw [store, List.mem_append, List.mem_singleton] at member
      rw [owners, trace]
      rcases member with old | rfl
      · obtain ⟨created, notTaken, never⟩ := ledger.stored transaction old
        exact ⟨List.mem_append_left _ created, by simpa using notTaken,
          by simpa [Unattempted] using never⟩
      · refine ⟨by simp [Pool.newTransaction, ownerHere], ?_, ?_⟩
        · intro taken
          obtain ⟨other, c, created⟩ := ledger.taken_created _
            (by simpa [Pool.newTransaction] using taken)
          exact unseen other c created
        · intro c sent attempted
          obtain ⟨other, created⟩ := ledger.attempted_created _ c sent
            (by simpa [Pool.newTransaction] using attempted)
          exact unseen other c created
  case batched =>
      intro other transaction member
      rw [batches] at member
      rw [owners, trace]
      obtain ⟨created, taken, never⟩ :=
        ledger.batched other transaction member
      exact ⟨List.mem_append_left _ created, List.mem_append_left _ taken,
        by simpa [Unattempted] using never⟩
  case holding =>
      intro c member
      rw [active] at member
      obtain ⟨between, since, accounted⟩ := ledger.holding c member
      refine ⟨between ++ [.created sid (s.pool.transactionSeq + 1)
        (s.sessions sid).connection], ?_, ?_⟩
      · rw [owners, trace]
        exact since.append (by simp [Event.releases])
      · intro other node isCreated
        rw [List.mem_append, List.mem_singleton] at isCreated
        rcases isCreated with old | new
        · rcases accounted other node old with
            ⟨sent, attempted⟩ | ⟨transaction, pending, isNode, isHere⟩
          · exact .inl ⟨sent, List.mem_append_left _ attempted⟩
          · refine .inr ⟨transaction, ?_, isNode, isHere⟩
            rcases pending with stored | ⟨owner, batched⟩
            · exact .inl (store ▸ List.mem_append_left _ stored)
            · exact .inr ⟨owner, by rwa [batches]⟩
        · cases new
          exact .inr ⟨s.pool.newTransaction _, .inl (by simp [store]), rfl, rfl⟩
  case free =>
      intro c notActive
      rw [active] at notActive
      rw [trace]
      exact (ledger.free c notActive).append (by simp [Event.gets])
  case owner =>
      intro other notIdle notEnded
      rw [System.own, owners]
      by_cases same : other = sid
      · subst same
        simpa [stepped] using ownerHere
      · have kept : after.sessions other = s.sessions other := by
          simp [stepped, Function.update_of_ne same]
        rw [kept] at notIdle notEnded ⊢
        exact ledger.owner other notIdle notEnded

/-- Once its transactions are attempted, a connection that is out is
settled. -/
theorem settled (ledger : Ledger s) {c : ConnId} {more : List Event}
    (active : c ∈ s.pool.active)
    (unreleased : ∀ event ∈ more, ¬ Event.releases c event)
    (noCreated : ∀ sid node c, .created sid node c ∉ more)
    (attempted : ∀ transaction, s.Pending transaction →
      transaction.connection = c →
        ∃ sent, .attempted transaction.node c sent ∈ more) :
    Settled (s.trace ++ more) c := by
  obtain ⟨between, since, accounted⟩ := ledger.holding c active
  refine ⟨_, between ++ more, since.append unreleased, ?_⟩
  intro other node isCreated
  have old : .created other node c ∈ between :=
    (List.mem_append.mp isCreated).resolve_right (noCreated other node c)
  rcases accounted other node old with
    ⟨sent, before⟩ | ⟨transaction, pending, rfl, isHere⟩
  · exact ⟨sent, List.mem_append_left _ before⟩
  · obtain ⟨sent, now⟩ := attempted transaction pending isHere
    exact ⟨sent, List.mem_append_right _ now⟩

/-- A deferred commit is not recorded. -/
theorem defer (ledger : Ledger s) {transaction : Transaction}
    {front back : List Transaction}
    (ending : (s.sessions sid).phase = .ending)
    (store : s.pool.transactionStore = front ++ transaction :: back)
    (pool : after.pool = { s.pool with
      transactionStore :=
        front ++ { transaction with ready := true } :: back })
    (trace : after.trace = s.trace)
    (connections : after.connections = s.connections)
    (sessions : after.sessions = Function.update s.sessions sid
      { s.sessions sid with phase := .ended }) : Ledger after := by
  have batches : ∀ other, (after.sessions other).phase.batch =
      (s.sessions other).phase.batch := by
    intro other
    by_cases same : other = sid
    · subst same
      simp [sessions, Phase.batch, ending]
    · simp [sessions, Function.update_of_ne same]
  refine ledger.extend [] (by simp [trace]) (by rw [pool]) (by simp)
    (by simp) (by simp) ?stored ?batched (by simp [connections]) ?holding
    ?free ?sessions
  case stored =>
      intro other member
      refine ⟨by simp, by simp [Unattempted], ?_⟩
      simp only [pool, List.mem_append, List.mem_cons] at member
      rw [store]
      rcases member with before | rfl | behind
      · exact ⟨other, List.mem_append_left _ before, rfl, rfl⟩
      · exact ⟨transaction, by simp, rfl, rfl⟩
      · exact ⟨other, by simp [behind], rfl, rfl⟩
  case batched =>
      intro other waiting member
      rw [batches] at member
      exact ⟨by simp [Unattempted], .inl ⟨other, member⟩⟩
  case holding =>
      intro c member
      rw [pool] at member
      refine ⟨member, by simp, ?_⟩
      rintro other (stored | ⟨owner, batched⟩) isHere
      · rw [store, List.mem_append, List.mem_cons] at stored
        rcases stored with before | rfl | behind
        · exact .inr ⟨other, .inl (by simp [pool, before]), rfl, isHere⟩
        · exact .inr ⟨{ other with ready := true }, .inl (by simp [pool]), rfl,
            isHere⟩
        · exact .inr ⟨other, .inl (by simp [pool, behind]), rfl, isHere⟩
      · exact .inr ⟨other, .inr ⟨owner, by rwa [batches]⟩, rfl, isHere⟩
  case free =>
      intro c notActive
      exact .inl (by simpa [pool] using notActive)
  case sessions =>
      intro other notIdle notEnded
      by_cases same : other = sid
      · subst same
        simp [sessions] at notEnded
      · rw [sessions, Function.update_of_ne same] at notIdle notEnded ⊢
        exact ⟨notIdle, notEnded, rfl⟩

/-- A batch is taken out of the store. -/
theorem takeOver (ledger : Ledger s) (queue : Queue s)
    {transaction : Transaction} {back : List Transaction} {receipt : Bool}
    (ending : (s.sessions sid).phase = .ending)
    (store : s.pool.transactionStore = transaction :: back)
    (pool : after.pool = { s.pool with
      transactionStore := back.dropWhile Transaction.ready })
    (trace : after.trace = s.trace ++
      ({ transaction with ready := true } ::
        back.takeWhile Transaction.ready).map fun other =>
          .taken other.node)
    (connections : after.connections = s.connections)
    (sessions : after.sessions = Function.update s.sessions sid
      { s.sessions sid with
        phase := .committing { transaction with ready := true }
          (back.takeWhile Transaction.ready) receipt }) :
    Ledger after := by
  let batch := { transaction with ready := true } ::
    back.takeWhile Transaction.ready
  have split : back.takeWhile Transaction.ready ++
      back.dropWhile Transaction.ready = back :=
    List.takeWhile_append_dropWhile
  have nodes : (batch.map Transaction.node ++
      (back.dropWhile Transaction.ready).map Transaction.node).Nodup := by
    have distinct := queue.distinct
    rw [store] at distinct
    rw [← List.map_append]
    simp only [batch, List.cons_append, split]
    exact distinct
  obtain ⟨batchNodes, _, apart⟩ := List.nodup_append.mp nodes
  have origin : ∀ other ∈ batch, ∃ original ∈ s.pool.transactionStore,
      original.node = other.node ∧
        original.connection = other.connection := by
    intro other member
    rcases List.mem_cons.mp member with rfl | member
    · exact ⟨transaction, by simp [store], rfl, rfl⟩
    · refine ⟨other, ?_, rfl, rfl⟩
      rw [store, ← split]
      exact List.mem_cons_of_mem _ (List.mem_append_left _ member)
  have others : ∀ other, other ≠ sid →
      after.sessions other = s.sessions other := by
    intro other different
    simp [sessions, Function.update_of_ne different]
  have mine : (after.sessions sid).phase.batch = batch := by
    simp [sessions, Phase.batch, batch]
  refine ledger.extend
    (batch.map fun other => Event.taken other.node) trace
    (by rw [pool]) ?proper (by simp) (by simp) ?stored ?batched
    (by simp [connections]) ?holding ?free ?sessions
  case proper =>
      intro earlier event later isSplit
      obtain ⟨front, rest, batched, rfl, isRest⟩ :=
        List.map_eq_append_iff.mp isSplit
      obtain ⟨other, rest, rfl, rfl, rfl⟩ := List.map_eq_cons_iff.mp isRest
      obtain ⟨original, wasThere, node, connection⟩ :=
        origin other (by simp [batched])
      obtain ⟨created, notTaken, _⟩ := ledger.stored original wasThere
      rw [node] at created notTaken
      refine ⟨⟨_, _, List.mem_append_left _ created⟩, ?_⟩
      rw [List.mem_append, not_or]
      refine ⟨notTaken, ?_⟩
      rw [batched, List.map_append, List.map_cons] at batchNodes
      have absent := (List.nodup_append.mp batchNodes).2.2
      intro member
      obtain ⟨twin, inFront, same⟩ := List.mem_map.mp member
      exact absent twin.node (List.mem_map_of_mem inFront) other.node
        List.mem_cons_self (Event.taken.inj same)
  case stored =>
      intro other member
      rw [pool] at member
      refine ⟨?_, by simp [Unattempted], other, ?_, rfl, rfl⟩
      · intro taken
        obtain ⟨twin, inBatch, same⟩ := List.mem_map.mp taken
        exact apart twin.node (List.mem_map_of_mem inBatch) other.node
          (List.mem_map_of_mem member) (Event.taken.inj same)
      · rw [store, ← split]
        exact List.mem_cons_of_mem _ (List.mem_append_right _ member)
  case batched =>
      intro other waiting member
      refine ⟨by simp [Unattempted], ?_⟩
      by_cases same : other = sid
      · subst same
        rw [mine] at member
        exact .inr ⟨List.mem_map_of_mem (f := fun other : Transaction =>
          Event.taken other.node) member, origin waiting member⟩
      · rw [others other same] at member
        exact .inl ⟨other, member⟩
  case holding =>
      intro c member
      rw [pool] at member
      refine ⟨member, by simp [Event.releases], ?_⟩
      rintro other (stored | ⟨owner, batched⟩) isHere
      · rw [store, ← split, List.mem_cons, List.mem_append] at stored
        rcases stored with rfl | taken | stays
        · exact .inr ⟨{ other with ready := true },
            .inr ⟨sid, by simp [mine, batch]⟩, rfl, isHere⟩
        · exact .inr ⟨other, .inr ⟨sid, by simp [mine, batch, taken]⟩, rfl,
            isHere⟩
        · exact .inr ⟨other, .inl (by simpa [pool] using stays), rfl, isHere⟩
      · have different : owner ≠ sid := by
          rintro rfl
          simp [ending, Phase.batch] at batched
        exact .inr ⟨other, .inr ⟨owner, by rwa [others owner different]⟩, rfl,
          isHere⟩
  case free =>
      intro c notActive
      exact .inl (by simpa [pool] using notActive)
  case sessions =>
      intro other notIdle notEnded
      by_cases same : other = sid
      · subst same
        simp [ending, sessions]
      · rw [others other same] at notIdle notEnded ⊢
        exact ⟨notIdle, notEnded, rfl⟩

/-- The COMMIT of the next transaction of a batch is attempted. -/
theorem commitTransaction [FrameBytes] (ledger : Ledger s)
    (custody : Custody s) {turns : CommitTurns} {transaction : Transaction}
    {batch : List Transaction} {receipt : Bool} {phase : Phase}
    (committing : (s.sessions sid).phase =
      .committing transaction batch receipt)
    (next : phase.batch = batch)
    (stepped : after = (s.attempt transaction receipt turns
      |>.setPhase sid phase)) : Ledger after := by
  have waiting : transaction ∈ (s.sessions sid).phase.batch := by
    simp [committing, Phase.batch]
  have held : transaction.connection ∈ s.places (.session sid) :=
    Custody.place_of_batch waiting
  obtain ⟨created, _, never⟩ := ledger.batched sid transaction waiting
  have others : ∀ other, other ≠ sid →
      after.sessions other = s.sessions other := by
    intro other different
    simp [stepped, Function.update_of_ne different]
  have mine : (after.sessions sid).phase.batch = batch := by
    simp [stepped, next]
  have alone := custody.committing_alone committing
  have apart : ∀ other, after.Pending other →
      other.node ≠ transaction.node := by
    intro other pending same
    have pendingBefore : s.Pending other := by
      rcases pending with stored | ⟨owner, batched⟩
      · exact .inl (by simpa [stepped] using stored)
      · by_cases isSid : owner = sid
        · subst isSid
          rw [mine] at batched
          exact .inr ⟨owner, by simp [committing, Phase.batch, batched]⟩
        · rw [others owner isSid] at batched
          exact .inr ⟨owner, batched⟩
    have sameConnection : other.connection = transaction.connection := by
      rcases pendingBefore with stored | ⟨owner, batched⟩
      · have createdOther := (ledger.stored other stored).1
        rw [same] at createdOther
        exact (ledger.created_unique _ _ _ _ _ createdOther created).2
      · have createdOther := (ledger.batched owner other batched).1
        rw [same] at createdOther
        exact (ledger.created_unique _ _ _ _ _ createdOther created).2
    rcases pending with stored | ⟨owner, batched⟩
    · exact alone.1 other (by simpa [stepped] using stored) sameConnection
    · by_cases isSid : owner = sid
      · subst isSid
        rw [mine] at batched
        exact alone.2.1 other batched sameConnection
      · rw [others owner isSid] at batched
        exact alone.2.2 owner isSid other batched sameConnection
  refine ledger.extend
    ([.attempted transaction.node transaction.connection
      (decide ((s.connections transaction.connection).written.length <
        ((s.connections transaction.connection).commitTransaction
          transaction.id receipt turns).written.length))])
    (by simp [stepped]) (by simp [stepped]) ?proper (by simp) (by simp)
    ?stored ?batched ?owners ?holding ?free ?sessions
  case proper =>
      simp only [eachTime_cons_iff, List.append_nil, eachTime_nil, and_true]
      exact ⟨⟨_, created⟩, never⟩
  case stored =>
      intro other member
      have different := apart other (.inl member)
      refine ⟨by simp, ?_, other, by simpa [stepped] using member, rfl, rfl⟩
      intro c sent attempted
      simp only [List.mem_singleton, Event.attempted.injEq] at attempted
      exact different attempted.1
  case batched =>
      intro owner other member
      have different := apart other (.inr ⟨owner, member⟩)
      refine ⟨?_, .inl ?_⟩
      · intro c sent attempted
        simp only [List.mem_singleton, Event.attempted.injEq] at attempted
        exact different attempted.1
      · by_cases isSid : owner = sid
        · subst isSid
          rw [mine] at member
          exact ⟨owner, by simp [committing, Phase.batch, member]⟩
        · rw [others owner isSid] at member
          exact ⟨owner, member⟩
  case owners =>
      intro c
      by_cases same : c = transaction.connection
      · subst same
        simpa [stepped] using (commitTransaction_continues transaction.id
          receipt turns (s.connections transaction.connection)).owner
      · simp [stepped, Function.update_of_ne same]
  case holding =>
      intro c member
      refine ⟨by simpa [stepped] using member, by simp [Event.releases], ?_⟩
      rintro other (stored | ⟨owner, batched⟩) isHere
      · exact .inr ⟨other, .inl (by simpa [stepped] using stored), rfl, isHere⟩
      · by_cases isSid : owner = sid
        · subst isSid
          simp only [committing, Phase.batch, List.mem_cons] at batched
          rcases batched with rfl | later
          · exact .inl ⟨_, by rw [isHere]; exact List.mem_singleton_self _⟩
          · exact .inr ⟨other, .inr ⟨owner, by rwa [mine]⟩, rfl, isHere⟩
        · exact .inr ⟨other, .inr ⟨owner, by rwa [others owner isSid]⟩, rfl,
            isHere⟩
  case free =>
      intro c notActive
      exact .inl (by simpa [stepped] using notActive)
  case sessions =>
      intro other notIdle notEnded
      by_cases same : other = sid
      · subst same
        simp [committing, stepped]
      · rw [others other same] at notIdle notEnded ⊢
        exact ⟨notIdle, notEnded, rfl⟩

/-- A session that is done with its rows gives up a connection it holds. -/
theorem giveUp (ledger : Ledger s) (custody : Custody s) (between : System)
    {poolSockets : Nat} {c : ConnId} {phase : Phase}
    (pool : between.pool = s.pool) (sessions : between.sessions = s.sessions)
    (trace : between.trace = s.trace)
    (owners : ∀ x, (between.connections x).owner = (s.connections x).owner)
    (held : c ∈ s.places (.session sid))
    (finished : (s.sessions sid).phase.unfinished = false)
    (batch : phase.batch = (s.sessions sid).phase.batch)
    (alone : ∀ transaction ∈ phase.batch, transaction.connection ≠ c)
    (stepped : after = (between.releaseConnection poolSockets c
      |>.setPhase sid phase)) : Ledger after := by
  have active := custody.mem_active_of_place (by simp) held
  have others : ∀ other, other ≠ sid →
      after.sessions other = s.sessions other := by
    intro other different
    simp [stepped, sessions, Function.update_of_ne different]
  have batches : ∀ other, (after.sessions other).phase.batch =
      (s.sessions other).phase.batch := by
    intro other
    by_cases same : other = sid
    · subst same
      simp [stepped, batch]
    · rw [others other same]
  have nonePending := custody.none_pending held finished (batch ▸ alone)
  refine ledger.extend [.released c true] ?trace
    (by simp [stepped, pool]) ?proper (by simp) (by simp) ?stored ?batched
    ?owners ?holding ?free ?sessions
  case trace => simp [stepped, pool, trace, active]
  case proper =>
      simp only [eachTime_cons_iff, eachTime_nil, and_true]
      refine ⟨rfl, ledger.settled active (by simp) (by simp) ?_⟩
      intro transaction pending isHere
      exact absurd isHere (nonePending transaction pending)
  case stored =>
      intro transaction member
      exact ⟨by simp, by simp [Unattempted], transaction,
        by simpa [stepped, pool] using member, rfl, rfl⟩
  case batched =>
      intro owner transaction member
      rw [batches] at member
      exact ⟨by simp [Unattempted], .inl ⟨owner, member⟩⟩
  case owners =>
      intro x
      by_cases same : x = c
      · subst same
        simp only [stepped, System.setPhase_connections,
          System.releaseConnection_connections, Function.update_self]
        split <;> exact owners x
      · simp [stepped, Function.update_of_ne same, owners]
  case holding =>
      intro x member
      have isActive : x ∈ s.pool.active.erase c := by
        simpa [stepped, pool] using member
      have different : c ≠ x := by
        rintro rfl
        exact custody.active_nodup.not_mem_erase isActive
      refine ⟨List.mem_of_mem_erase isActive,
        by simpa [Event.releases] using different, ?_⟩
      rintro other (stored | ⟨owner, batched⟩) isHere
      · exact .inr ⟨other, .inl (by simpa [stepped, pool] using stored), rfl,
          isHere⟩
      · exact .inr ⟨other, .inr ⟨owner, by rwa [batches]⟩, rfl, isHere⟩
  case free =>
      intro x notActive
      by_cases same : x = c
      · exact .inr ⟨_, List.mem_singleton_self _, same.symm⟩
      · refine .inl fun isActive => notActive ?_
        simpa [stepped, pool] using (List.mem_erase_of_ne same).mpr isActive
  case sessions =>
      intro other notIdle notEnded
      by_cases same : other = sid
      · subst same
        have isHeld : c ∈ (s.sessions other).held := held
        refine ⟨?_, ?_, by simp [stepped, sessions]⟩ <;>
          · intro phase
            simp [Session.held, phase] at isHeld
      · rw [others other same] at notIdle notEnded ⊢
        exact ⟨notIdle, notEnded, rfl⟩

/-- `force_commit` attempts, releases and takes out in one turn. -/
theorem forceCommit [FrameBytes] (ledger : Ledger s) (custody : Custody s)
    (queue : Queue s) {poolSockets : Nat} {turns : CommitTurns}
    {forcing : Forcing} {transaction : Transaction}
    (located : s.pool.transactionStore[forcing.position]? = some transaction)
    (ready : transaction.ready)
    (stepped : after = s.forceCommit poolSockets turns forcing transaction
      transaction) : Ledger after := by
  obtain ⟨front, back, store, storeNow⟩ := Pool.erase_split located
  have member : transaction ∈ s.pool.transactionStore := by simp [store]
  obtain ⟨created, notTaken, never⟩ := ledger.stored transaction member
  have held : transaction.connection ∈ s.places .deferred :=
    Custody.place_of_ready member ready
  have active := custody.mem_active_of_place (by simp) held
  have storeAfter : after.pool.transactionStore = front ++ back := by
    simp [stepped, Pool.eraseTransaction, storeNow]
  have sessions : after.sessions = s.sessions := by simp [stepped]
  have apart : ∀ other ∈ front ++ back, other.node ≠ transaction.node := by
    intro other isThere same
    have distinct := queue.distinct
    rw [store, List.map_append, List.map_cons, List.perm_middle.nodup_iff,
      List.nodup_cons, ← List.map_append] at distinct
    exact distinct.1 (same ▸ List.mem_map_of_mem isThere)
  obtain ⟨alone, notBatched⟩ := custody.deferred_alone store ready
  have onlyPending : ∀ other, s.Pending other →
      other.connection = transaction.connection → other = transaction := by
    rintro other (stored | ⟨owner, batched⟩) same
    · exact List.inj_on_of_nodup_map custody.store_nodup stored member same
    · exact absurd same (notBatched owner other batched)
  refine ledger.extend
    ([.attempted transaction.node transaction.connection
        (decide ((s.connections transaction.connection).written.length <
          ((s.connections transaction.connection).commitTransaction
            transaction.id true turns).written.length)),
      .released transaction.connection true, .taken transaction.node])
    (by simp [stepped, active])
    (by simp [stepped, Pool.eraseTransaction]) ?proper (by simp) (by simp)
    ?stored ?batched ?owners ?holding ?free ?sessions
  case proper =>
      simp only [eachTime_cons_iff, List.append_nil, eachTime_nil, and_true]
      refine ⟨⟨⟨_, created⟩, never⟩, ⟨rfl, ?_⟩, ⟨_, _,
        List.mem_append_left _ created⟩, by simpa using notTaken⟩
      refine ledger.settled active (by simp [Event.releases]) (by simp) ?_
      intro other pending isHere
      cases onlyPending other pending isHere
      exact ⟨_, List.mem_singleton_self _⟩
  case stored =>
      intro other isThere
      rw [storeAfter] at isThere
      have different := apart other isThere
      refine ⟨by simpa using different, ?_, other, ?_, rfl, rfl⟩
      · intro c sent attempted
        simp only [List.mem_cons, Event.attempted.injEq, reduceCtorEq,
          List.not_mem_nil, or_false] at attempted
        exact different attempted.1
      · rw [store]
        simp only [List.mem_append, List.mem_cons] at isThere ⊢
        tauto
  case batched =>
      intro owner other isThere
      rw [sessions] at isThere
      refine ⟨?_, .inl ⟨owner, isThere⟩⟩
      intro c sent attempted
      simp only [List.mem_cons, Event.attempted.injEq, reduceCtorEq,
        List.not_mem_nil, or_false] at attempted
      have createdOther := (ledger.batched owner other isThere).1
      rw [attempted.1] at createdOther
      exact notBatched owner other isThere
        (ledger.created_unique _ _ _ _ _ createdOther created).2
  case owners =>
      intro c
      by_cases same : c = transaction.connection
      · subst same
        have kept := (commitTransaction_continues transaction.id true turns
          (s.connections transaction.connection)).owner
        simp only [stepped, System.forceCommit_connections,
          Function.update_self]
        split <;> exact kept
      · simp [stepped, Function.update_of_ne same]
  case holding =>
      intro c isThere
      have isActive : c ∈ s.pool.active.erase transaction.connection := by
        simpa [stepped, Pool.eraseTransaction] using isThere
      have different : transaction.connection ≠ c := by
        rintro rfl
        exact custody.active_nodup.not_mem_erase isActive
      refine ⟨List.mem_of_mem_erase isActive,
        by simpa [Event.releases] using different, ?_⟩
      rintro other (stored | ⟨owner, batched⟩) isHere
      · refine .inr ⟨other, .inl ?_, rfl, isHere⟩
        rw [store] at stored
        rw [storeAfter]
        simp only [List.mem_append, List.mem_cons] at stored ⊢
        rcases stored with before | rfl | behind
        · exact .inl before
        · exact absurd isHere different
        · exact .inr behind
      · exact .inr ⟨other, .inr ⟨owner, by rwa [sessions]⟩, rfl, isHere⟩
  case free =>
      intro c notActive
      by_cases same : c = transaction.connection
      · exact .inr ⟨_, List.mem_cons_of_mem _ List.mem_cons_self, same.symm⟩
      · refine .inl fun isActive => notActive ?_
        simpa [stepped, Pool.eraseTransaction] using
          (List.mem_erase_of_ne same).mpr isActive
  case sessions =>
      rw [sessions]
      exact fun _ notIdle notEnded => ⟨notIdle, notEnded, rfl⟩

theorem init (name : String) : Ledger (System.init name) := by
  constructor <;> simp [System.init, Phase.batch]

theorem step [QueryDecoding] [PassHash] [FrameBytes] {action : Action}
    (ledger : Ledger s) (custody : Custody s) (queue : Queue s)
    (stepped : s.step action = some after) : Ledger after := by
  cases action with
  | get sid uri maxPoolSockets =>
      obtain ⟨idle, _, rfl | ⟨obtained, got, rfl⟩⟩ := System.get_cases stepped
      · exact ledger
      · exact ledger.handOver custody idle got
  | connect sid turns =>
      obtain ⟨uri, phase, result⟩ := System.connect_cases stepped
      have handle := connect_sameHandle uri turns
      rcases result with ⟨c, returned, rfl⟩ | ⟨error, c, thrown, rfl⟩
      · refine ledger.quietSession rfl rfl rfl (handle.returned returned).owner
          rfl rfl ?_ (by simp [phase])
        rw [phase]
        dsimp only
        split <;> rfl
      · refine ledger.quietSession rfl rfl rfl
          (initFailed_sameHandle (handle.thrown thrown)).owner rfl rfl ?_
          (by simp [phase])
        rw [phase]
        dsimp only
        split <;> rfl
  | createTransaction sid =>
      obtain ⟨self, creating, isSelf, _, stepped⟩ :=
        System.createTransaction_cases stepped
      exact ledger.createTransaction custody creating isSelf stepped
  | begin sid requestLimit turns =>
      obtain ⟨phase, result⟩ := System.begin_cases stepped
      have handle := sendBegin_harmless requestLimit turns
      rcases result with ⟨c, returned, rfl⟩ | ⟨error, c, thrown, rfl⟩
      · exact ledger.quietSession rfl rfl rfl (handle.returned returned).owner
          rfl rfl (by simp [phase, Phase.batch]) (by simp [phase])
      · refine ledger.quietSession rfl rfl rfl
          (initFailed_sameHandle (handle.thrown thrown).toSameHandle).owner
          rfl rfl ?_ (by simp [phase])
        rw [phase]
        dsimp only
        split <;> rfl
  | content sid row now requestLimit turns =>
      obtain ⟨phase, rfl⟩ := System.content_cases stepped
      exact ledger.quietSession rfl rfl rfl
        (capstompContent_continues row now requestLimit turns _).owner
        rfl rfl rfl (by simp [phase])
  | deinit sid =>
      obtain ⟨phase, rfl⟩ := System.deinit_cases stepped
      exact ledger.quietSession (x := 0) rfl rfl
        (Function.update_eq_self _ _).symm rfl rfl rfl
        (by simp [phase, Phase.batch]) (by simp [phase])
  | commit sid endReady requestLimit =>
      obtain ⟨phase, ⟨_, rfl⟩ |
        ⟨node, batch, pool, begun, isNode, _, taken, rfl⟩⟩ :=
        System.commit_cases stepped
      · exact ledger.quietSession (x := 0) rfl rfl
          (Function.update_eq_self _ _).symm rfl rfl rfl
          (by simp [phase, Phase.batch]) (by simp [phase])
      · obtain ⟨front, transaction, back, store, rfl, _, _⟩ :=
          custody.finds (by simp [phase, Phase.unfinished]) begun isNode
        cases front with
        | nil =>
            rw [List.nil_append] at store
            rw [Pool.getUncommited_first endReady store queue.distinct]
              at taken
            cases taken
            exact ledger.takeOver queue phase store rfl rfl rfl rfl
        | cons head front =>
            rw [Pool.getUncommited_later endReady store (by simp)
              queue.distinct] at taken
            cases taken
            exact ledger.defer phase store rfl (by simp) rfl rfl
  | commitTransaction sid turns =>
      obtain ⟨transaction, batch, receipt, committing, stepped⟩ :=
        System.commitTransaction_cases stepped
      refine ledger.commitTransaction custody committing ?_ stepped
      split
      · exact batch_afterBatch _ _
      · rfl
  | releaseDeferred sid poolSockets =>
      obtain ⟨c, batch, receipt, returning, _, stepped⟩ :=
        System.releaseDeferred_cases stepped
      have holds : (s.sessions sid).held = (s.sessions sid).connection :: c ::
          batch.map Transaction.connection := by
        simp [Session.held, returning]
      have nodup : (s.sessions sid).held.Nodup :=
        custody.exclusive.nodup (.session sid)
      simp only [holds, List.nodup_cons, List.mem_cons, not_or] at nodup
      refine ledger.giveUp custody s (c := c) rfl rfl rfl
        (fun _ => rfl) (by simp [System.places, holds])
        (by simp [returning, Phase.unfinished])
        (by rw [batch_afterBatch, returning]; rfl) ?_ stepped
      intro transaction member same
      rw [batch_afterBatch] at member
      exact nodup.2.1 (same ▸ List.mem_map_of_mem member)
  | release sid requestLimit poolSockets =>
      obtain ⟨self, releasing, isSelf, _, stepped⟩ :=
        System.release_cases stepped
      have isOwn :=
        custody.self_eq (by simp [releasing]) (by simp [releasing]) isSelf
      subst isOwn
      refine ledger.giveUp custody (s.setConnection
          (s.sessions sid).connection ((s.own sid).release requestLimit))
        rfl rfl rfl ?_ (by simp [System.places, Session.held, releasing])
        (by simp [releasing, Phase.unfinished])
        (by simp [releasing, Phase.batch]) (by simp [Phase.batch]) stepped
      intro x
      by_cases same : x = (s.sessions sid).connection
      · subst same
        simp [System.own, Connection.release]
      · simp [Function.update_of_ne same]
  | forceLock =>
      obtain ⟨_, rfl⟩ := System.forceLock_cases stepped
      exact ledger.setForcing _
  | forceNext poolSockets turns =>
      obtain ⟨forcing, transaction, forced, located,
        ⟨_, rfl⟩ | ⟨pointed, ready, found, _, stepped⟩⟩ :=
        System.forceNext_cases stepped
      · exact ledger.setForcing _
      · have same := custody.pointed_eq queue.distinct
          (List.mem_of_getElem? located) found
        rw [same] at stepped
        exact ledger.forceCommit custody queue located ready stepped
  | forceUnlock =>
      obtain ⟨_, _, _, rfl⟩ := System.forceUnlock_cases stepped
      exact ledger.setForcing _

end Ledger

theorem Runs.ledger [QueryDecoding] [PassHash] [FrameBytes]
    {allowed : System → Action → Prop} {name : String} {s : System}
    (run : Runs allowed name s) : Ledger s :=
  Reaches.invariant run (Ledger.init name)
    fun _ _ _ reached ledger _ stepped =>
      ledger.step (Runs.custody reached) (Runs.queue reached) stepped

end Capstomp
