import Capstomp.ConnectionPreservation
import Capstomp.System

/-!
# What each action can do

One lemma for each action of `System.step`: the phase and the lock it needs,
and the state it leads to.  The invariants are derived from these alone.
-/

namespace Capstomp

open General

namespace System

variable {s after : System} {sid : SessionId}

@[simp] theorem own_setPhase (other : SessionId) (phase : Phase) :
    (s.setPhase other phase).own sid = s.own sid := by
  by_cases same : sid = other
  · subst same
    simp [own]
  · simp [own, Function.update_of_ne same]

theorem locked_eq_some_iff {section' : System → Option System} :
    s.locked section' = some after ↔
      s.forcing = none ∧ section' s = some after := by
  unfold locked
  split <;> simp_all

theorem get_cases [QueryDecoding] {uri : Uri} {maxPoolSockets : Nat}
    (stepped : s.get sid uri maxPoolSockets = some after) :
    (s.sessions sid).phase = .idle ∧ s.forcing = none ∧
      (after = s ∨ ∃ obtained,
        s.pool.get maxPoolSockets s.nextConnection = .ok obtained ∧
          after = s.handOver sid uri obtained) := by
  unfold get at stepped
  split at stepped
  · next phase =>
      rw [locked_eq_some_iff] at stepped
      obtain ⟨unlocked, stepped⟩ := stepped
      refine ⟨phase, unlocked, ?_⟩
      split at stepped
      · cases stepped
        exact .inl rfl
      · next obtained result =>
          cases stepped
          exact .inr ⟨obtained, result, rfl⟩
  · cases stepped

theorem connect_cases [PassHash] [FrameBytes] {turns : ConnectTurns}
    (stepped : s.connect sid turns = some after) :
    ∃ uri, (s.sessions sid).phase = .got uri ∧
      ((∃ c, Capstomp.connect uri turns (s.own sid) = .ok () c ∧
        after = (s.setConnection (s.sessions sid).connection c).setPhase sid
          (if c.conf.transaction then .creating else .rows)) ∨
      ∃ error c, Capstomp.connect uri turns (s.own sid) = .error error c ∧
        after = s.initFailed sid c) := by
  unfold connect at stepped
  split at stepped
  · next uri phase =>
      refine ⟨uri, phase, ?_⟩
      split at stepped
      · next c result =>
          cases stepped
          exact .inl ⟨c, result, rfl⟩
      · next error c result =>
          cases stepped
          exact .inr ⟨error, c, result, rfl⟩
  · cases stepped

theorem createTransaction_cases
    (stepped : s.createTransaction sid = some after) :
    ∃ self, (s.sessions sid).phase = .creating ∧
      (s.own sid).self = some self ∧ s.forcing = none ∧
      after = ({ s with pool := s.pool.createTransaction self }
        |>.setConnection (s.sessions sid).connection
            ((s.own sid).setTransaction (s.pool.newTransaction self).node
              (s.pool.newTransaction self).id)
        |>.setPhase sid .beginning
        |>.record [.created sid (s.pool.newTransaction self).node self]) := by
  unfold createTransaction at stepped
  split at stepped
  · next self phase isSelf =>
      rw [locked_eq_some_iff] at stepped
      obtain ⟨unlocked, stepped⟩ := stepped
      cases stepped
      exact ⟨self, phase, isSelf, unlocked, rfl⟩
  · cases stepped

theorem begin_cases [FrameBytes] {requestLimit : Nat} {turns : Exchange}
    (stepped : s.begin sid requestLimit turns = some after) :
    (s.sessions sid).phase = .beginning ∧
      ((∃ c, sendBegin requestLimit turns (s.own sid) = .ok () c ∧
        after = (s.setConnection (s.sessions sid).connection c).setPhase sid
          .rows) ∨
      ∃ error c, sendBegin requestLimit turns (s.own sid) = .error error c ∧
        after = s.initFailed sid c) := by
  unfold begin at stepped
  split at stepped
  · next phase =>
      refine ⟨phase, ?_⟩
      split at stepped
      · next c result =>
          cases stepped
          exact .inl ⟨c, result, rfl⟩
      · next error c result =>
          cases stepped
          exact .inr ⟨error, c, result, rfl⟩
  · cases stepped

theorem content_cases [FrameBytes] {row : Row} {now requestLimit : Nat}
    {turns : Exchange}
    (stepped : s.content sid row now requestLimit turns = some after) :
    (s.sessions sid).phase = .rows ∧
      after = (s.setConnection (s.sessions sid).connection
          (capstompContent row now requestLimit turns (s.own sid)).2
        |>.setSession sid { s.sessions sid with
            rows := (s.sessions sid).rows ++
              [(capstompContent row now requestLimit turns
                (s.own sid)).1] }) := by
  unfold content at stepped
  split at stepped
  · next phase =>
      cases stepped
      exact ⟨phase, rfl⟩
  · cases stepped

theorem deinit_cases (stepped : s.deinit sid = some after) :
    (s.sessions sid).phase = .rows ∧ after = s.setPhase sid .ending := by
  unfold deinit at stepped
  split at stepped
  · next phase =>
      cases stepped
      exact ⟨phase, rfl⟩
  · cases stepped

theorem commit_cases {endReady : Bool} {requestLimit : Nat}
    (stepped : s.commit sid endReady requestLimit = some after) :
    (s.sessions sid).phase = .ending ∧
      (((s.own sid).withTransaction = false ∧
        after = s.setPhase sid .releasing) ∨
      ∃ node batch pool, (s.own sid).withTransaction ∧
        (s.own sid).transaction = some node ∧ s.forcing = none ∧
        s.pool.getUncommited endReady node = (batch, pool) ∧
        after = ({ s with pool := pool }
          |>.setPhase sid (if batch = [] then .ended
            else afterBatch batch (if batch.length = 1
              then (s.own sid).isReceipt requestLimit else true))
          |>.record (batch.map fun (transaction : Transaction) =>
              .taken transaction.node))) := by
  unfold commit at stepped
  split at stepped
  · next phase =>
      refine ⟨phase, ?_⟩
      split at stepped
      · next begun =>
          split at stepped
          · cases stepped
          · next node isNode =>
              rw [locked_eq_some_iff] at stepped
              obtain ⟨unlocked, stepped⟩ := stepped
              cases stepped
              exact .inr ⟨node, _, _, begun, isNode, unlocked, rfl, rfl⟩
      · next without =>
          cases stepped
          exact .inl ⟨by simpa using without, rfl⟩
  · cases stepped

theorem commitTransaction_cases [FrameBytes] {turns : CommitTurns}
    (stepped : s.commitTransaction sid turns = some after) :
    ∃ transaction batch receipt,
      (s.sessions sid).phase = .committing transaction batch receipt ∧
      after = (s.attempt transaction receipt turns
        |>.setPhase sid
            (if (s.own sid).self = some transaction.connection
              then afterBatch batch receipt
              else .returning transaction.connection batch receipt)) := by
  unfold commitTransaction at stepped
  split at stepped
  · next transaction batch receipt phase =>
      cases stepped
      exact ⟨transaction, batch, receipt, phase, rfl⟩
  · cases stepped

theorem releaseDeferred_cases {poolSockets : Nat}
    (stepped : s.releaseDeferred sid poolSockets = some after) :
    ∃ connection batch receipt,
      (s.sessions sid).phase = .returning connection batch receipt ∧
      s.forcing = none ∧
      after = (s.releaseConnection poolSockets connection
        |>.setPhase sid (afterBatch batch receipt)) := by
  unfold releaseDeferred at stepped
  split at stepped
  · next connection batch receipt phase =>
      rw [locked_eq_some_iff] at stepped
      obtain ⟨unlocked, stepped⟩ := stepped
      cases stepped
      exact ⟨connection, batch, receipt, phase, unlocked, rfl⟩
  · cases stepped

theorem release_cases {requestLimit poolSockets : Nat}
    (stepped : s.release sid requestLimit poolSockets = some after) :
    ∃ self, (s.sessions sid).phase = .releasing ∧
      (s.own sid).self = some self ∧ s.forcing = none ∧
      after = (s.setConnection (s.sessions sid).connection
          ((s.own sid).release requestLimit)
        |>.releaseConnection poolSockets self
        |>.setPhase sid .ended) := by
  unfold release at stepped
  split at stepped
  · next self phase isSelf =>
      rw [locked_eq_some_iff] at stepped
      obtain ⟨unlocked, stepped⟩ := stepped
      cases stepped
      exact ⟨self, phase, isSelf, unlocked, rfl⟩
  · cases stepped

theorem forceLock_cases (stepped : s.forceLock = some after) :
    s.forcing = none ∧ after = { s with forcing := some {} } := by
  unfold forceLock at stepped
  rw [locked_eq_some_iff] at stepped
  obtain ⟨unlocked, stepped⟩ := stepped
  cases stepped
  exact ⟨unlocked, rfl⟩

theorem forceNext_cases [FrameBytes] {poolSockets : Nat} {turns : CommitTurns}
    (stepped : s.forceNext poolSockets turns = some after) :
    ∃ forcing transaction, s.forcing = some forcing ∧
      s.pool.transactionStore[forcing.position]? = some transaction ∧
      ((transaction.ready = false ∧
        after = { s with forcing := some forcing.skip }) ∨
      ∃ pointed, transaction.ready ∧
        (s.pool.transactionStore.find? fun other =>
          (s.connections transaction.connection).transaction =
            some other.node) = some pointed ∧
        (s.connections transaction.connection).self =
          some pointed.connection ∧
        after = s.forceCommit poolSockets turns forcing transaction
          pointed) := by
  unfold forceNext at stepped
  split at stepped
  · cases stepped
  · next forcing forced =>
      split at stepped
      · cases stepped
      · next transaction located =>
          refine ⟨forcing, transaction, forced, located, ?_⟩
          split at stepped
          · next ready =>
              split at stepped
              · cases stepped
              · next pointed found =>
                  split at stepped
                  · next same =>
                      cases stepped
                      exact .inr ⟨pointed, ready, found, same, rfl⟩
                  · cases stepped
          · next unready =>
              cases stepped
              exact .inl ⟨by simpa using unready, rfl⟩

/-- The connection of the transaction that `force_commit` commits. -/
theorem forceCommit_connection [FrameBytes] (poolSockets : Nat)
    (turns : CommitTurns) (forcing : Forcing) (transaction : Transaction)
    (s : System) :
    let c := (s.connections transaction.connection).commitTransaction
      transaction.id true turns
    (s.forceCommit poolSockets turns forcing transaction
        transaction).connections =
      Function.update s.connections transaction.connection
        (if s.pool.parks poolSockets c.good
          then c.setSelf transaction.connection else c.close) := by
  intro c
  simp [c]

theorem forceUnlock_cases (stepped : s.forceUnlock = some after) :
    ∃ forcing, s.forcing = some forcing ∧
      s.pool.transactionStore.length ≤ forcing.position ∧
      after = { s with forcing := none } := by
  unfold forceUnlock at stepped
  split at stepped
  · cases stepped
  · next forcing forced =>
      split at stepped
      · cases stepped
      · next past =>
          cases stepped
          exact ⟨forcing, forced, by omega, rfl⟩

section Steps

variable [QueryDecoding] [PassHash] [FrameBytes]

/-- A pool keeps its name. -/
theorem step_name {action : Action}
    (stepped : s.step action = some after) :
    after.pool.name = s.pool.name := by
  cases action with
  | get sid uri maxPoolSockets =>
      obtain ⟨_, _, rfl | ⟨obtained, got, rfl⟩⟩ := get_cases stepped
      · rfl
      · exact (Pool.get_spec got).name
  | connect sid turns =>
      obtain ⟨_, _, ⟨_, _, rfl⟩ | ⟨_, _, _, rfl⟩⟩ :=
        connect_cases stepped <;> rfl
  | createTransaction sid =>
      obtain ⟨_, _, _, _, rfl⟩ := createTransaction_cases stepped
      rfl
  | begin sid requestLimit turns =>
      obtain ⟨_, ⟨_, _, rfl⟩ | ⟨_, _, _, rfl⟩⟩ :=
        begin_cases stepped <;> rfl
  | content sid row now requestLimit turns =>
      obtain ⟨_, rfl⟩ := content_cases stepped
      rfl
  | deinit sid =>
      obtain ⟨_, rfl⟩ := deinit_cases stepped
      rfl
  | commit sid endReady requestLimit =>
      obtain ⟨_, ⟨_, rfl⟩ | ⟨node, batch, pool, _, _, _, taken, rfl⟩⟩ :=
        commit_cases stepped
      · rfl
      · exact congrArg (fun result => result.2.name) taken.symm |>.trans
          (Pool.getUncommited_name endReady node s.pool)
  | commitTransaction sid turns =>
      obtain ⟨_, _, _, _, rfl⟩ := commitTransaction_cases stepped
      rfl
  | releaseDeferred sid poolSockets =>
      obtain ⟨_, _, _, _, _, rfl⟩ := releaseDeferred_cases stepped
      simp
  | release sid requestLimit poolSockets =>
      obtain ⟨_, _, _, _, rfl⟩ := release_cases stepped
      simp
  | forceLock =>
      obtain ⟨_, rfl⟩ := forceLock_cases stepped
      rfl
  | forceNext poolSockets turns =>
      obtain ⟨_, _, _, _, ⟨_, rfl⟩ | ⟨_, _, _, _, rfl⟩⟩ :=
        forceNext_cases stepped
      · rfl
      · simp [Pool.eraseTransaction]
  | forceUnlock =>
      obtain ⟨_, _, _, rfl⟩ := forceUnlock_cases stepped
      rfl

end Steps

end System

end Capstomp
