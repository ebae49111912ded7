import Capstomp.TransactionIntegrity

/-!
# What a step writes

A step adds one frame to the record of one connection, or none (`Writes`).  A
closed connection stays closed, and a connection keeps its owner, unless a
session that has not yet sent anything is given it or connects it
(`System.owner_cases`).  What is on the wire is followed through a run by these
two facts.
-/

namespace Capstomp

open General

/-- The frame a step may add to the record of a connection. -/
inductive Writes (s : System) : Action → ConnId → Written → Prop
  | logon {sid : SessionId} {turns : ConnectTurns} {u : Uri}
      {receipt : Option ReceiptId}
      (phase : (s.sessions sid).phase = .got u) :
      Writes s (.connect sid turns) (s.sessions sid).connection
        ((s.own sid).tagged (s.own sid).sockets
          { body := u.logonBody, receipt := receipt })
  | begin {sid : SessionId} {requestLimit : Nat} {turns : Exchange}
      {open₀ : Socket} {receipt : Option ReceiptId}
      (phase : (s.sessions sid).phase = .beginning)
      (isOpen : (s.own sid).socket = some open₀) :
      Writes s (.begin sid requestLimit turns) (s.sessions sid).connection
        ((s.own sid).tagged open₀.number
          { body := .begin (s.own sid).transactionId, receipt := receipt })
  | content {sid : SessionId} {row : Row} {now requestLimit : Nat}
      {turns : Exchange} {open₀ : Socket} {receipt : Option ReceiptId}
      (phase : (s.sessions sid).phase = .rows)
      (isOpen : (s.own sid).socket = some open₀) :
      Writes s (.content sid row now requestLimit turns)
        (s.sessions sid).connection
        ((s.own sid).tagged open₀.number
          { body := sendBody
              (rowDestination (s.own sid).destination row.routingKey)
              (rowHeaders row) row.payload now (s.own sid)
            receipt := receipt })
  | commit {sid : SessionId} {turns : CommitTurns}
      {transaction : Transaction} {batch : List Transaction}
      {needed : Bool} {open₀ : Socket} {receipt : Option ReceiptId}
      (phase : (s.sessions sid).phase =
        .committing transaction batch needed)
      (isOpen : (s.connections transaction.connection).socket =
        some open₀) :
      Writes s (.commitTransaction sid turns) transaction.connection
        ((s.connections transaction.connection).tagged open₀.number
          { body := .commit transaction.id, receipt := receipt })
  | force {poolSockets : Nat} {turns : CommitTurns}
      {transaction : Transaction} {open₀ : Socket}
      {receipt : Option ReceiptId}
      (stored : transaction ∈ s.pool.transactionStore)
      (ready : transaction.ready)
      (isOpen : (s.connections transaction.connection).socket =
        some open₀) :
      Writes s (.forceNext poolSockets turns) transaction.connection
        ((s.connections transaction.connection).tagged open₀.number
          { body := .commit transaction.id, receipt := receipt })

/-- A row writes its SEND, or nothing. -/
theorem capstompContent_written [FrameBytes] (row : Row)
    (now requestLimit : Nat) (turns : Exchange) (c : Connection) :
    let after := (capstompContent row now requestLimit turns c).2
    after.written = c.written ∨
      Wrote (sendBody (rowDestination c.destination row.routingKey)
        (rowHeaders row) row.payload now c) c after := by
  rcases capstompContent_cases row now requestLimit turns c with
    ⟨_, same⟩ | ⟨_, _, may⟩ | ⟨_, _, _, wrote⟩
  · exact .inl (by rw [same])
  · exact may.wrote
  · exact .inr wrote

section Steps

variable {s after : System} {action : Action} {x : ConnId}

theorem Writes.session {w : Written} (writes : Writes s action x w) :
    w.session = (s.connections x).owner := by
  cases writes <;> rfl

/-- The record of a connection is longer by the frame, if there is one. -/
def WritesOnce (s : System) (action : Action) (after : System) : Prop :=
  (∀ y, (after.connections y).written = (s.connections y).written) ∨
    ∃ x w, Writes s action x w ∧
      (after.connections x).written = (s.connections x).written ++ [w] ∧
      ∀ y, y ≠ x →
        (after.connections y).written = (s.connections y).written

theorem WritesOnce.unwritten {c : Connection}
    (written : c.written = (s.connections x).written)
    (connections : after.connections = Function.update s.connections x c) :
    WritesOnce s action after := by
  left
  rw [connections, Function.forall_update_iff s.connections
    fun y c => c.written = (s.connections y).written]
  exact ⟨written, fun _ _ => rfl⟩

theorem WritesOnce.ofWrites {c : Connection} {w : Written}
    (writes : Writes s action x w)
    (written : c.written = (s.connections x).written ++ [w])
    (connections : after.connections = Function.update s.connections x c) :
    WritesOnce s action after := by
  refine .inr ⟨x, w, writes, by rw [connections, Function.update_self,
    written], ?_⟩
  intro y different
  rw [connections, Function.update_of_ne different]

/-- A call that may write a frame with this body. -/
theorem WritesOnce.mayWrite {body : Body} {c : Connection}
    (wrote : c.written = (s.connections x).written ∨
      Wrote body (s.connections x) c)
    (writes : ∀ open₀ receipt, (s.connections x).socket = some open₀ →
      Writes s action x ((s.connections x).tagged open₀.number
        { body := body, receipt := receipt }))
    (connections : after.connections = Function.update s.connections x c) :
    WritesOnce s action after := by
  rcases wrote with none | ⟨open₀, receipt, isOpen, written⟩
  · exact unwritten none connections
  · exact ofWrites (writes open₀ receipt isOpen) written connections

theorem Told.new_unwritten (told : Told s) :
    (s.connections s.nextConnection).written = [] := by
  refine List.eq_nil_iff_forall_not_mem.mpr fun w member => ?_
  obtain ⟨busy, isHere⟩ := told.home _ w member
  have known := told.assigned _ busy
  rw [isHere] at known
  exact Nat.lt_irrefl _ known

/-- A connection that is handed out has the record it had. -/
theorem Told.obtained_written (told : Told s) {maxPoolSockets : Nat}
    {obtained : Obtained} (conf : Settings) (sid : SessionId)
    (got : s.pool.get maxPoolSockets s.nextConnection = .ok obtained) :
    ((if obtained.created then {}
        else s.connections obtained.connection).handedOver
          obtained.connection conf sid).written =
      (s.connections obtained.connection).written := by
  rcases Pool.get_cases got with ⟨_, _, reused, _⟩ | ⟨_, isNew, created, _⟩
  · simp [reused, Connection.handedOver, Connection.init, Connection.setSelf]
  · simp [created, isNew, told.new_unwritten, Connection.handedOver,
      Connection.init, Connection.setSelf]

variable [QueryDecoding] [PassHash] [FrameBytes]

theorem System.written_cases (custody : Custody s) (queue : Queue s)
    (told : Told s) (stepped : s.step action = some after) :
    WritesOnce s action after := by
  cases action with
  | get sid uri maxPoolSockets =>
      obtain ⟨_, _, rfl | ⟨obtained, got, rfl⟩⟩ := System.get_cases stepped
      · exact .inl fun _ => rfl
      · exact .unwritten (told.obtained_written _ _ got)
          (System.handOver_connections ..)
  | connect sid turns =>
      obtain ⟨u, phase, outcome⟩ := System.connect_cases stepped
      have wrote := (connect_connects u turns (s.own sid)).wrote
      obtain ⟨c, connections, same⟩ : ∃ c,
          after.connections =
            Function.update s.connections (s.sessions sid).connection c ∧
          c.written =
            (leftBehind (Capstomp.connect u turns (s.own sid))).written := by
        rcases outcome with ⟨c, returned, rfl⟩ | ⟨_, c, thrown, rfl⟩
        · exact ⟨c, rfl, by rw [returned]; rfl⟩
        · exact ⟨c.close, rfl, by rw [thrown]; rfl⟩
      rw [← same] at wrote
      rcases wrote with none | ⟨receipt, written, _⟩
      · exact .unwritten none connections
      · exact .ofWrites (.logon phase) written connections
  | createTransaction sid =>
      obtain ⟨self, _, _, _, rfl⟩ := System.createTransaction_cases stepped
      exact .unwritten (c := (s.own sid).setTransaction _ _) rfl rfl
  | begin sid requestLimit turns =>
      obtain ⟨phase, outcome⟩ := System.begin_cases stepped
      have wrote := (sendBegin_mayWrite requestLimit turns (s.own sid)).wrote
      rcases outcome with ⟨c, returned, rfl⟩ | ⟨_, c, thrown, rfl⟩
      · rw [returned] at wrote
        exact .mayWrite wrote (fun _ _ isOpen => .begin phase isOpen) rfl
      · rw [thrown] at wrote
        exact .mayWrite (c := c.close) wrote
          (fun _ _ isOpen => .begin phase isOpen) rfl
  | content sid row now requestLimit turns =>
      obtain ⟨phase, rfl⟩ := System.content_cases stepped
      exact .mayWrite
        (capstompContent_written row now requestLimit turns (s.own sid))
        (fun _ _ isOpen => .content phase isOpen) rfl
  | deinit sid =>
      obtain ⟨_, rfl⟩ := System.deinit_cases stepped
      exact .inl fun _ => rfl
  | commit sid endReady requestLimit =>
      obtain ⟨_, ⟨_, rfl⟩ | ⟨_, _, _, _, _, _, _, rfl⟩⟩ :=
        System.commit_cases stepped <;> exact .inl fun _ => rfl
  | commitTransaction sid turns =>
      obtain ⟨transaction, batch, receipt, phase, rfl⟩ :=
        System.commitTransaction_cases stepped
      exact .mayWrite (commitTransaction_mayWrite transaction.id receipt turns
        (s.connections transaction.connection)).wrote
        (fun _ _ isOpen => .commit phase isOpen) rfl
  | releaseDeferred sid poolSockets =>
      obtain ⟨y, batch, receipt, _, _, rfl⟩ :=
        System.releaseDeferred_cases stepped
      refine .unwritten ?_ (System.releaseConnection_connections ..)
      split <;> rfl
  | release sid requestLimit poolSockets =>
      obtain ⟨self, phase, isSelf, _, rfl⟩ := System.release_cases stepped
      have isOwn := custody.self_eq (by simp [phase]) (by simp [phase]) isSelf
      subst isOwn
      refine .unwritten ?_ (by simp; rfl)
      split <;> rfl
  | forceLock =>
      obtain ⟨_, rfl⟩ := System.forceLock_cases stepped
      exact .inl fun _ => rfl
  | forceNext poolSockets turns =>
      obtain ⟨forcing, transaction, _, located,
        ⟨_, rfl⟩ | ⟨pointed, ready, found, _, rfl⟩⟩ :=
        System.forceNext_cases stepped
      · exact .inl fun _ => rfl
      · have member := List.mem_of_getElem? located
        have same := custody.pointed_eq queue.distinct member found
        subst same
        have wrote := (commitTransaction_mayWrite pointed.id true turns
          (s.connections pointed.connection)).wrote
        refine .mayWrite ?_ (fun _ _ isOpen => .force member ready isOpen)
          (System.forceCommit_connection ..)
        split <;> exact wrote
  | forceUnlock =>
      obtain ⟨_, _, _, rfl⟩ := System.forceUnlock_cases stepped
      exact .inl fun _ => rfl

end Steps

/-! ## Owners -/

/-- The connection has the owner it had, and was not opened. -/
structure Calm (before after : Connection) : Prop where
  owner : after.owner = before.owner
  closed : after.good → before.good

theorem Continues.calm {before after : Connection}
    (continues : Continues before after) : Calm before after := by
  refine ⟨continues.owner, fun isOpen => ?_⟩
  rw [Connection.good, Option.isSome_iff_ne_none] at isOpen ⊢
  exact fun isClosed => isOpen (continues.closed isClosed)

theorem Calm.refl (c : Connection) : Calm c c :=
  (Continues.refl c).calm

/-- What the pool makes of a connection it is given back. -/
theorem Calm.released {before c : Connection} (calm : Calm before c)
    (parked : Bool) (self : ConnId) :
    Calm before (if parked then c.setSelf self else c.close) := by
  cases parked with
  | true => exact ⟨calm.owner, calm.closed⟩
  | false => exact ⟨calm.owner, fun impossible => by cases impossible⟩

theorem Calm.update {s after : System} {x : ConnId} {c : Connection}
    (calm : Calm (s.connections x) c)
    (connections : after.connections = Function.update s.connections x c) :
    ∀ y, Calm (s.connections y) (after.connections y) := by
  rw [connections, Function.forall_update_iff s.connections
    fun y c => Calm (s.connections y) c]
  exact ⟨calm, fun y _ => .refl _⟩

/-- A session that has not begun is given the connection, or one that has not
sent anything connects it. -/
def Prepares (s after : System) (y : ConnId) : Prop :=
  ∃ sid, (after.connections y).owner = sid ∧
    (after.sessions sid).connection = y ∧
    ((s.sessions sid).phase = .idle ∨ (s.sessions sid).phase.early)

section Steps

variable {s after : System} {action : Action}
variable [QueryDecoding] [PassHash] [FrameBytes]

theorem System.owner_cases (custody : Custody s) (queue : Queue s)
    (ledger : Ledger s) (stepped : s.step action = some after) (y : ConnId) :
    Calm (s.connections y) (after.connections y) ∨ Prepares s after y := by
  have elsewhere : ∀ {x : ConnId} {c : Connection},
      after.connections = Function.update s.connections x c → y ≠ x →
        Calm (s.connections y) (after.connections y) := by
    intro x c connections different
    rw [connections, Function.update_of_ne different]
    exact .refl _
  cases action with
  | get sid uri maxPoolSockets =>
      obtain ⟨idle, _, rfl | ⟨obtained, got, rfl⟩⟩ := System.get_cases stepped
      · exact .inl (.refl _)
      · by_cases isObtained : y = obtained.connection
        · subst isObtained
          exact .inr ⟨sid, by simp [Connection.handedOver], by simp,
            .inl idle⟩
        · exact .inl (elsewhere (System.handOver_connections ..) isObtained)
  | connect sid turns =>
      obtain ⟨u, phase, outcome⟩ := System.connect_cases stepped
      by_cases isOwn : y = (s.sessions sid).connection
      · subst isOwn
        right
        have owner := ledger.owner sid (by simp [phase]) (by simp [phase])
        have same := (connect_sameHandle u turns (s.own sid)).owner
        refine ⟨sid, ?_, ?_, .inr (by simp [phase, Phase.early])⟩
        · rcases outcome with ⟨c, returned, rfl⟩ | ⟨_, c, thrown, rfl⟩
          · rw [returned] at same
            simpa using same.trans owner
          · rw [thrown] at same
            simpa [Connection.close] using same.trans owner
        · rcases outcome with ⟨_, _, rfl⟩ | ⟨_, _, _, rfl⟩ <;> simp
      · left
        rcases outcome with ⟨c, _, rfl⟩ | ⟨_, c, _, rfl⟩
        · exact elsewhere (c := c) rfl isOwn
        · exact elsewhere (c := c.close) rfl isOwn
  | createTransaction sid =>
      obtain ⟨self, _, _, _, rfl⟩ := System.createTransaction_cases stepped
      exact .inl (Calm.update (c := (s.own sid).setTransaction _ _)
        ⟨rfl, id⟩ rfl y)
  | begin sid requestLimit turns =>
      obtain ⟨_, outcome⟩ := System.begin_cases stepped
      have calm := (sendBegin_mayWrite requestLimit turns (s.own sid)).calm
      left
      rcases outcome with ⟨c, returned, rfl⟩ | ⟨_, c, thrown, rfl⟩
      · rw [returned] at calm
        exact calm.update rfl y
      · rw [thrown] at calm
        exact Calm.update (c := c.close)
          ⟨calm.owner, fun impossible => by cases impossible⟩ rfl y
  | content sid row now requestLimit turns =>
      obtain ⟨_, rfl⟩ := System.content_cases stepped
      exact .inl ((capstompContent_continues row now requestLimit turns
        (s.own sid)).calm.update rfl y)
  | deinit sid =>
      obtain ⟨_, rfl⟩ := System.deinit_cases stepped
      exact .inl (.refl _)
  | commit sid endReady requestLimit =>
      obtain ⟨_, ⟨_, rfl⟩ | ⟨_, _, _, _, _, _, _, rfl⟩⟩ :=
        System.commit_cases stepped <;> exact .inl (.refl _)
  | commitTransaction sid turns =>
      obtain ⟨transaction, batch, receipt, _, rfl⟩ :=
        System.commitTransaction_cases stepped
      exact .inl ((commitTransaction_continues transaction.id receipt turns
        (s.connections transaction.connection)).calm.update rfl y)
  | releaseDeferred sid poolSockets =>
      obtain ⟨x, batch, receipt, _, _, rfl⟩ :=
        System.releaseDeferred_cases stepped
      exact .inl (((Calm.refl _).released _ _).update
        (System.releaseConnection_connections ..) y)
  | release sid requestLimit poolSockets =>
      obtain ⟨self, phase, isSelf, _, rfl⟩ := System.release_cases stepped
      have isOwn := custody.self_eq (by simp [phase]) (by simp [phase]) isSelf
      subst isOwn
      have calm : Calm (s.connections (s.sessions sid).connection)
          ((s.own sid).release requestLimit) := ⟨rfl, id⟩
      exact .inl ((calm.released _ _).update (by simp; rfl) y)
  | forceLock =>
      obtain ⟨_, rfl⟩ := System.forceLock_cases stepped
      exact .inl (.refl _)
  | forceNext poolSockets turns =>
      obtain ⟨forcing, transaction, _, located,
        ⟨_, rfl⟩ | ⟨pointed, _, found, _, rfl⟩⟩ :=
        System.forceNext_cases stepped
      · exact .inl (.refl _)
      · have same := custody.pointed_eq queue.distinct
          (List.mem_of_getElem? located) found
        subst same
        exact .inl (((commitTransaction_continues ..).calm.released _ _).update
          (System.forceCommit_connection ..) y)
  | forceUnlock =>
      obtain ⟨_, _, _, rfl⟩ := System.forceUnlock_cases stepped
      exact .inl (.refl _)

end Steps

end Capstomp
