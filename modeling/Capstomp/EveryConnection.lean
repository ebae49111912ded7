import Capstomp.Custody
import Capstomp.TransactionQueue

/-!
# A property of every connection

The steps of a pool change a connection by its I/O, and otherwise only its
links and counters, or they close it (`Touches`).  A property of the socket and
of what was agreed on it is therefore kept by every step once it is kept by the
four calls that use the socket.
-/

namespace Capstomp

open General

/-- A property of the socket and the logon of a connection. -/
structure OfSocket (holds : Connection → Prop) : Prop where
  closed : ∀ c, c.good = false → holds c
  congr : ∀ before after : Connection, holds before →
    after.socket = before.socket → after.stomplay = before.stomplay →
    after.destination = before.destination →
    after.passhash = before.passhash → holds after

/-- The transaction `pool::force_commit` stands at. -/
def System.pointed (s : System) : Option Transaction :=
  s.forcing.bind fun forcing => s.pool.transactionStore[forcing.position]?

section Steps

variable {holds : Connection → Prop} {s after : System}

theorem OfSocket.update (holding : ∀ y, holds (s.connections y))
    {x : ConnId} {c : Connection} (holdsHere : holds c)
    (connections : after.connections = Function.update s.connections x c) :
    ∀ y, holds (after.connections y) := by
  rw [connections, Function.forall_update_iff s.connections
    fun _ c => holds c]
  exact ⟨holdsHere, fun y _ => holding y⟩

/-- The I/O of the connection is where it was; its links and its counters may
be others. -/
structure SameIo (before after : Connection) : Prop where
  socket : after.socket = before.socket
  stomplay : after.stomplay = before.stomplay
  destination : after.destination = before.destination
  passhash : after.passhash = before.passhash
  written : after.written = before.written

theorem OfSocket.same (ofSocket : OfSocket holds) {c d : Connection}
    (holdsBefore : holds c) (same : SameIo c d) : holds d :=
  ofSocket.congr c d holdsBefore same.socket same.stomplay same.destination
    same.passhash

/-- What the pool makes of a connection it is given back. -/
theorem released_io (c : Connection) (parked : Bool) (self : ConnId) :
    (if parked then c.setSelf self else c.close).good = false ∨
      SameIo c (if parked then c.setSelf self else c.close) := by
  cases parked with
  | true => exact .inr ⟨rfl, rfl, rfl, rfl, rfl⟩
  | false => exact .inl rfl

variable [PassHash] [FrameBytes]

/-- What a step can make of a connection: it closes it, or leaves the I/O to
one of the four calls that use the socket. -/
inductive Touches (s : System) (action : Action) :
    ConnId → Connection → Prop
  | closed (x : ConnId) {c : Connection} (isClosed : c.good = false) :
      Touches s action x c
  | kept (x : ConnId) {c : Connection} (same : SameIo (s.connections x) c) :
      Touches s action x c
  | connect {sid : SessionId} {turns : ConnectTurns} {u : Uri}
      {c : Connection} (isAction : action = .connect sid turns)
      (phase : (s.sessions sid).phase = .got u)
      (returned : Capstomp.connect u turns (s.own sid) = .ok () c) :
      Touches s action (s.sessions sid).connection c
  | begin {sid : SessionId} {requestLimit : Nat} {turns : Exchange}
      {c : Connection} (isAction : action = .begin sid requestLimit turns)
      (returned : sendBegin requestLimit turns (s.own sid) = .ok () c) :
      Touches s action (s.sessions sid).connection c
  | content {sid : SessionId} {row : Row} {now requestLimit : Nat}
      {turns : Exchange}
      (isAction : action = .content sid row now requestLimit turns) :
      Touches s action (s.sessions sid).connection
        (capstompContent row now requestLimit turns (s.own sid)).2
  | commit {sid : SessionId} {turns : CommitTurns}
      {transaction : Transaction} {batch : List Transaction}
      {receipt : Bool} (isAction : action = .commitTransaction sid turns)
      (phase : (s.sessions sid).phase =
        .committing transaction batch receipt) :
      Touches s action transaction.connection
        ((s.connections transaction.connection).commitTransaction
          transaction.id receipt turns)
  | force {poolSockets : Nat} {turns : CommitTurns}
      {transaction : Transaction} {c : Connection}
      (isAction : action = .forceNext poolSockets turns)
      (pointed : s.pointed = some transaction) (ready : transaction.ready)
      (same : SameIo ((s.connections transaction.connection).commitTransaction
        transaction.id true turns) c) :
      Touches s action transaction.connection c

/-- A step changes one connection, if any. -/
theorem System.connection_cases [QueryDecoding] {action : Action}
    (custody : Custody s) (queue : Queue s)
    (stepped : s.step action = some after) :
    ∃ x c, after.connections = Function.update s.connections x c ∧
      Touches s action x c := by
  have unchanged (same : after.connections = s.connections) :
      ∃ x c, after.connections = Function.update s.connections x c ∧
        Touches s action x c := by
    refine ⟨0, s.connections 0, ?_, .kept 0 ⟨rfl, rfl, rfl, rfl, rfl⟩⟩
    rw [same, Function.update_eq_self]
  cases action with
  | get sid uri maxPoolSockets =>
      obtain ⟨_, _, rfl | ⟨obtained, got, rfl⟩⟩ := System.get_cases stepped
      · exact unchanged rfl
      · refine ⟨obtained.connection, _, System.handOver_connections .., ?_⟩
        split
        · exact .closed _ rfl
        · exact .kept _ ⟨rfl, rfl, rfl, rfl, rfl⟩
  | connect sid turns =>
      obtain ⟨u, phase, ⟨c, returned, rfl⟩ | ⟨_, c, _, rfl⟩⟩ :=
        System.connect_cases stepped
      · exact ⟨_, c, rfl, .connect rfl phase returned⟩
      · exact ⟨_, c.close, rfl, .closed _ rfl⟩
  | createTransaction sid =>
      obtain ⟨self, _, _, _, rfl⟩ := System.createTransaction_cases stepped
      exact ⟨_, _, rfl, .kept _ ⟨rfl, rfl, rfl, rfl, rfl⟩⟩
  | begin sid requestLimit turns =>
      obtain ⟨_, ⟨c, returned, rfl⟩ | ⟨_, c, _, rfl⟩⟩ :=
        System.begin_cases stepped
      · exact ⟨_, c, rfl, .begin rfl returned⟩
      · exact ⟨_, c.close, rfl, .closed _ rfl⟩
  | content sid row now requestLimit turns =>
      obtain ⟨_, rfl⟩ := System.content_cases stepped
      exact ⟨_, _, rfl, .content rfl⟩
  | deinit sid =>
      obtain ⟨_, rfl⟩ := System.deinit_cases stepped
      exact unchanged rfl
  | commit sid endReady requestLimit =>
      obtain ⟨_, ⟨_, rfl⟩ | ⟨_, _, _, _, _, _, _, rfl⟩⟩ :=
        System.commit_cases stepped <;> exact unchanged rfl
  | commitTransaction sid turns =>
      obtain ⟨transaction, batch, receipt, committing, rfl⟩ :=
        System.commitTransaction_cases stepped
      exact ⟨_, _, rfl, .commit rfl committing⟩
  | releaseDeferred sid poolSockets =>
      obtain ⟨x, batch, receipt, _, _, rfl⟩ :=
        System.releaseDeferred_cases stepped
      exact ⟨x, _, rfl, (released_io _ _ x).elim (.closed x) (.kept x)⟩
  | release sid requestLimit poolSockets =>
      obtain ⟨self, phase, isSelf, _, rfl⟩ := System.release_cases stepped
      have isOwn := custody.self_eq (by simp [phase]) (by simp [phase]) isSelf
      subst isOwn
      refine ⟨(s.sessions sid).connection, _, by simp; rfl, ?_⟩
      rcases released_io ((s.own sid).release requestLimit) _ _ with
        isClosed | ⟨socket, stomplay, destination, passhash, written⟩
      · exact .closed _ isClosed
      · exact .kept _ ⟨socket, stomplay, destination, passhash, written⟩
  | forceLock =>
      obtain ⟨_, rfl⟩ := System.forceLock_cases stepped
      exact unchanged rfl
  | forceNext poolSockets turns =>
      obtain ⟨forcing, transaction, forced, located,
        ⟨_, rfl⟩ | ⟨pointed, ready, found, _, rfl⟩⟩ :=
        System.forceNext_cases stepped
      · exact unchanged rfl
      · have same := custody.pointed_eq queue.distinct
          (List.mem_of_getElem? located) found
        subst same
        have isPointed : s.pointed = some pointed := by
          simp [System.pointed, forced, located]
        exact ⟨_, _, System.forceCommit_connection ..,
          (released_io _ _ _).elim (.closed _) (.force rfl isPointed ready)⟩
  | forceUnlock =>
      obtain ⟨_, _, _, rfl⟩ := System.forceUnlock_cases stepped
      exact unchanged rfl

/-- What the calls that use the socket do to the property in one step. -/
structure CallsKeep (holds : Connection → Prop) (s : System)
    (action : Action) : Prop where
  connect : ∀ sid turns u c, action = .connect sid turns →
    (s.sessions sid).phase = .got u →
    Capstomp.connect u turns (s.own sid) = .ok () c → holds c
  begin : ∀ sid requestLimit turns c,
    action = .begin sid requestLimit turns →
    sendBegin requestLimit turns (s.own sid) = .ok () c → holds c
  content : ∀ sid row now requestLimit turns,
    action = .content sid row now requestLimit turns →
    holds (capstompContent row now requestLimit turns (s.own sid)).2
  commit : ∀ sid turns transaction batch receipt,
    action = .commitTransaction sid turns →
    (s.sessions sid).phase = .committing transaction batch receipt →
    holds ((s.connections transaction.connection).commitTransaction
      transaction.id receipt turns)
  force : ∀ poolSockets turns transaction,
    action = .forceNext poolSockets turns →
    s.pointed = some transaction → transaction.ready →
    holds ((s.connections transaction.connection).commitTransaction
      transaction.id true turns)

theorem OfSocket.step [QueryDecoding] (ofSocket : OfSocket holds)
    {action : Action} (custody : Custody s) (queue : Queue s)
    (holding : ∀ y, holds (s.connections y))
    (calls : CallsKeep holds s action)
    (stepped : s.step action = some after) :
    ∀ y, holds (after.connections y) := by
  obtain ⟨x, c, connections, touches⟩ :=
    System.connection_cases custody queue stepped
  refine update holding ?_ connections
  cases touches with
  | closed _ isClosed => exact ofSocket.closed c isClosed
  | kept _ same => exact ofSocket.same (holding x) same
  | connect isAction phase returned =>
      exact calls.connect _ _ _ c isAction phase returned
  | begin isAction returned => exact calls.begin _ _ _ c isAction returned
  | content isAction => exact calls.content _ _ _ _ _ isAction
  | commit isAction phase => exact calls.commit _ _ _ _ _ isAction phase
  | force isAction pointed ready same =>
      exact ofSocket.same (calls.force _ _ _ isAction pointed ready) same

end Steps

end Capstomp
