import Mathlib.Logic.Function.Basic
import Mathlib.Tactic.Simps.Basic
import Capstomp.Pool
import Capstomp.Udf

/-!
# The sessions of a pool

One pool with its connections and any number of sessions, as a step function
on actions.  A session is one statement: `capstomp_init`, its rows, and
`connection::commit`.  An action is one locked section, or one call that runs
outside the mutex and touches only a connection its thread holds.  Sections
under the mutex are enabled while no other thread is inside; `force_commit`
keeps the mutex from its first transaction to its last and is the only section
that takes more than one step.
-/

namespace Capstomp

open General

/-- Where a session stands.  In `committing` the next step is the COMMIT of
the transaction named, in `returning` the release of the connection named. -/
inductive Phase where
  | idle
  | got (uri : Uri)
  | creating
  | beginning
  | rows
  | ending
  | committing (transaction : Transaction) (batch : List Transaction)
      (receipt : Bool)
  | returning (connection : ConnId) (batch : List Transaction)
      (receipt : Bool)
  | releasing
  | ended
  deriving DecidableEq

structure Session where
  phase : Phase := .idle
  connection : ConnId := 0
  conf : Settings := {}
  rows : List RowResult := []

/-- What is recorded of a run; `sent` tells whether the COMMIT went out
completely, `inActive` whether the connection was in `active_`. -/
inductive Event where
  | got (session : SessionId) (connection : ConnId)
  | created (session : SessionId) (node : Nat) (connection : ConnId)
  | taken (node : Nat)
  | attempted (node : Nat) (connection : ConnId) (sent : Bool)
  | released (connection : ConnId) (inActive : Bool)
  deriving DecidableEq, Repr

/-- `pool::force_commit` inside its loop: the position of its iterator and
the count it will return. -/
structure Forcing where
  position : Nat := 0
  count : Nat := 0
  deriving DecidableEq, Repr

/-- `++i`. -/
def Forcing.skip (forcing : Forcing) : Forcing :=
  { forcing with position := forcing.position + 1 }

/-- `++rc`; the iterator stays where the erased transaction was. -/
def Forcing.committed (forcing : Forcing) : Forcing :=
  { forcing with count := forcing.count + 1 }

/-- A connection that was destroyed keeps its number, which is not given out
again, and what was recorded of it. -/
structure System where
  pool : Pool := {}
  connections : ConnId → Connection := fun _ => {}
  nextConnection : ConnId := 0
  sessions : SessionId → Session := fun _ => {}
  forcing : Option Forcing := none
  trace : List Event := []

inductive Action where
  | get (session : SessionId) (uri : Uri) (maxPoolSockets : Nat)
  | connect (session : SessionId) (turns : ConnectTurns)
  | createTransaction (session : SessionId)
  | begin (session : SessionId) (requestLimit : Nat) (turns : Exchange)
  | content (session : SessionId) (row : Row) (now requestLimit : Nat)
      (turns : Exchange)
  | deinit (session : SessionId)
  | commit (session : SessionId) (endReady : Bool) (requestLimit : Nat)
  | commitTransaction (session : SessionId) (turns : CommitTurns)
  | releaseDeferred (session : SessionId) (poolSockets : Nat)
  | release (session : SessionId) (requestLimit poolSockets : Nat)
  | forceLock
  | forceNext (poolSockets : Nat) (turns : CommitTurns)
  | forceUnlock

/-- `conn.set(connection_id); conn.init(conf)`. -/
def Connection.handedOver (self : ConnId) (conf : Settings)
    (owner : SessionId) (c : Connection) : Connection :=
  { (c.setSelf self).init conf with owner := owner }

namespace System

/-- The connection a session was given. -/
def own (s : System) (sid : SessionId) : Connection :=
  s.connections (s.sessions sid).connection

@[simps -fullyApplied]
def setConnection (id : ConnId) (c : Connection) (s : System) : System :=
  { s with connections := Function.update s.connections id c }

@[simps -fullyApplied]
def setSession (sid : SessionId) (session : Session) (s : System) : System :=
  { s with sessions := Function.update s.sessions sid session }

@[simps! -fullyApplied]
def setPhase (sid : SessionId) (phase : Phase) (s : System) : System :=
  s.setSession sid { s.sessions sid with phase := phase }

@[simps -fullyApplied]
def record (events : List Event) (s : System) : System :=
  { s with trace := s.trace ++ events }

/-- A section that begins by taking the mutex. -/
def locked (section' : System → Option System) (s : System) : Option System :=
  if s.forcing = none then section' s else none

section Statements

variable [QueryDecoding] [PassHash] [FrameBytes]

/-- `pool::get` once the lists are changed: the connection is given its place
and its settings. -/
@[simps! -fullyApplied]
def handOver (sid : SessionId) (uri : Uri) (obtained : Obtained)
    (s : System) : System :=
  let conf := Settings.create uri.query
  let c := if obtained.created then {}
    else s.connections obtained.connection
  { s with
    pool := obtained.pool
    nextConnection := if obtained.created then s.nextConnection + 1
      else s.nextConnection }
    |>.setConnection obtained.connection
        (c.handedOver obtained.connection conf sid)
    |>.setSession sid
        { phase := .got uri, connection := obtained.connection, conf := conf }
    |>.record [.got sid obtained.connection]

/-- `pool::get`.  When it throws, the statement has not begun. -/
def get (sid : SessionId) (uri : Uri) (maxPoolSockets : Nat) (s : System) :
    Option System :=
  match (s.sessions sid).phase with
  | .idle => s.locked fun s =>
      match s.pool.get maxPoolSockets s.nextConnection with
      | .error _ => some s
      | .ok obtained => some (s.handOver sid uri obtained)
  | _ => none

/-- The exit of `capstomp_init` through its handlers: with `no_error` the
statement goes on. -/
@[simps! -fullyApplied]
def initFailed (sid : SessionId) (c : Connection) (s : System) : System :=
  s.setConnection (s.sessions sid).connection c.close
    |>.setPhase sid (if c.close.withNoError then .rows else .ending)

/-- `connection::connect`, up to the locked section of its `begin`. -/
def connect (sid : SessionId) (turns : ConnectTurns) (s : System) :
    Option System :=
  match (s.sessions sid).phase with
  | .got uri =>
      match Capstomp.connect uri turns (s.own sid) with
      | .ok _ c =>
          some (s.setConnection (s.sessions sid).connection c
            |>.setPhase sid (if c.conf.transaction then .creating else .rows))
      | .error _ c => some (s.initFailed sid c)
  | _ => none

/-- `set(pool_.create_transaction(self_))`. -/
def createTransaction (sid : SessionId) (s : System) : Option System :=
  match (s.sessions sid).phase, (s.own sid).self with
  | .creating, some self => s.locked fun s =>
      let transaction := s.pool.newTransaction self
      some ({ s with pool := s.pool.createTransaction self }
        |>.setConnection (s.sessions sid).connection
            ((s.own sid).setTransaction transaction.node transaction.id)
        |>.setPhase sid .beginning
        |>.record [.created sid transaction.node self])
  | _, _ => none

/-- The rest of `connection::begin`. -/
def begin (sid : SessionId) (requestLimit : Nat) (turns : Exchange)
    (s : System) : Option System :=
  match (s.sessions sid).phase with
  | .beginning =>
      match sendBegin requestLimit turns (s.own sid) with
      | .ok _ c =>
          some (s.setConnection (s.sessions sid).connection c
            |>.setPhase sid .rows)
      | .error _ c => some (s.initFailed sid c)
  | _ => none

def content (sid : SessionId) (row : Row) (now requestLimit : Nat)
    (turns : Exchange) (s : System) : Option System :=
  match (s.sessions sid).phase with
  | .rows =>
      let result := capstompContent row now requestLimit turns (s.own sid)
      some (s.setConnection (s.sessions sid).connection result.2
        |>.setSession sid { s.sessions sid with
            rows := (s.sessions sid).rows ++ [result.1] })
  | _ => none

def deinit (sid : SessionId) (s : System) : Option System :=
  match (s.sessions sid).phase with
  | .rows => some (s.setPhase sid .ending)
  | _ => none

end Statements

/-- What is next in a batch; after it the connection itself is released. -/
def afterBatch (batch : List Transaction) (receipt : Bool) : Phase :=
  match batch with
  | [] => .releasing
  | transaction :: batch => .committing transaction batch receipt

/-- `connection::commit` up to the loop over the batch.  An empty batch leaves
the connection to the thread that commits its transaction. -/
def commit (sid : SessionId) (endReady : Bool) (requestLimit : Nat)
    (s : System) : Option System :=
  match (s.sessions sid).phase with
  | .ending =>
      if (s.own sid).withTransaction then
        match (s.own sid).transaction with
        | none => none
        | some node => s.locked fun s =>
            let result := s.pool.getUncommited endReady node
            let receipt := if result.1.length = 1
              then (s.own sid).isReceipt requestLimit else true
            some ({ s with pool := result.2 }
              |>.setPhase sid (if result.1 = [] then .ended
                else afterBatch result.1 receipt)
              |>.record (result.1.map fun (transaction : Transaction) =>
                  .taken transaction.node))
      else some (s.setPhase sid .releasing)
  | _ => none

section Commits

variable [FrameBytes]

/-- The COMMIT of one transaction, on the connection that began it. -/
@[simps! -fullyApplied]
def attempt (transaction : Transaction) (receipt : Bool) (turns : CommitTurns)
    (s : System) : System :=
  let c := s.connections transaction.connection
  let after := c.commitTransaction transaction.id receipt turns
  s.setConnection transaction.connection after
    |>.record [.attempted transaction.node transaction.connection
        (decide (c.written.length < after.written.length))]

/-- `connection::commit_transaction` in the loop over a batch. -/
def commitTransaction (sid : SessionId) (turns : CommitTurns) (s : System) :
    Option System :=
  match (s.sessions sid).phase with
  | .committing transaction batch receipt =>
      some (s.attempt transaction receipt turns
        |>.setPhase sid
            (if (s.own sid).self = some transaction.connection
              then afterBatch batch receipt
              else .returning transaction.connection batch receipt))
  | _ => none

end Commits

/-- `pool::release_connection`; a connection that is not parked is
destroyed. -/
@[simps! -fullyApplied]
def releaseConnection (poolSockets : Nat) (id : ConnId) (s : System) :
    System :=
  let c := s.connections id
  { s with pool := s.pool.releaseConnection poolSockets c.good id }
    |>.setConnection id
        (if s.pool.parks poolSockets c.good then c.setSelf id else c.close)
    |>.record [.released id (decide (id ∈ s.pool.active))]

/-- `pool_.release` of a connection whose transaction was committed for it. -/
def releaseDeferred (sid : SessionId) (poolSockets : Nat) (s : System) :
    Option System :=
  match (s.sessions sid).phase with
  | .returning connection batch receipt => s.locked fun s =>
      some (s.releaseConnection poolSockets connection
        |>.setPhase sid (afterBatch batch receipt))
  | _ => none

/-- `connection::release`. -/
def release (sid : SessionId) (requestLimit poolSockets : Nat) (s : System) :
    Option System :=
  match (s.sessions sid).phase, (s.own sid).self with
  | .releasing, some self => s.locked fun s =>
      some (s.setConnection (s.sessions sid).connection
          ((s.own sid).release requestLimit)
        |>.releaseConnection poolSockets self
        |>.setPhase sid .ended)
  | _, _ => none

def forceLock (s : System) : Option System :=
  s.locked fun s => some { s with forcing := some {} }

/-- What `pool::force_commit` does with a ready transaction; `pointed` is the
one its connection points to. -/
@[simps! -fullyApplied connections nextConnection sessions forcing trace]
def forceCommit [FrameBytes] (poolSockets : Nat) (turns : CommitTurns)
    (forcing : Forcing) (transaction pointed : Transaction) (s : System) :
    System :=
  let s := s.attempt pointed true turns
    |>.releaseConnection poolSockets transaction.connection
  { s with
    pool := s.pool.eraseTransaction forcing.position
    forcing := some forcing.committed }
    |>.record [.taken transaction.node]

@[simp] theorem forceCommit_pool [FrameBytes] (poolSockets : Nat)
    (turns : CommitTurns) (forcing : Forcing)
    (transaction pointed : Transaction) (s : System) :
    (s.forceCommit poolSockets turns forcing transaction pointed).pool =
      (s.attempt pointed true turns |>.releaseConnection poolSockets
        transaction.connection).pool.eraseTransaction forcing.position := rfl

/-- One turn of the loop of `pool::force_commit`.  Were the transaction that a
connection points to begun on another one, that one would be released here as
well, under the mutex that is already held. -/
def forceNext [FrameBytes] (poolSockets : Nat) (turns : CommitTurns)
    (s : System) : Option System :=
  match s.forcing with
  | none => none
  | some forcing =>
      match s.pool.transactionStore[forcing.position]? with
      | none => none
      | some transaction =>
          if transaction.ready then
            match s.pool.transactionStore.find? fun other =>
                (s.connections transaction.connection).transaction =
                  some other.node with
            | none => none
            | some pointed =>
                if (s.connections transaction.connection).self =
                    some pointed.connection then
                  some (s.forceCommit poolSockets turns forcing transaction
                    pointed)
                else none
          else some { s with forcing := some forcing.skip }

def forceUnlock (s : System) : Option System :=
  match s.forcing with
  | none => none
  | some forcing =>
      if forcing.position < s.pool.transactionStore.length then none
      else some { s with forcing := none }

section Steps

variable [QueryDecoding] [PassHash] [FrameBytes]

def step (s : System) : Action → Option System
  | .get sid uri maxPoolSockets => s.get sid uri maxPoolSockets
  | .connect sid turns => s.connect sid turns
  | .createTransaction sid => s.createTransaction sid
  | .begin sid requestLimit turns => s.begin sid requestLimit turns
  | .content sid row now requestLimit turns =>
      s.content sid row now requestLimit turns
  | .deinit sid => s.deinit sid
  | .commit sid endReady requestLimit => s.commit sid endReady requestLimit
  | .commitTransaction sid turns => s.commitTransaction sid turns
  | .releaseDeferred sid poolSockets => s.releaseDeferred sid poolSockets
  | .release sid requestLimit poolSockets =>
      s.release sid requestLimit poolSockets
  | .forceLock => s.forceLock
  | .forceNext poolSockets turns => s.forceNext poolSockets turns
  | .forceUnlock => s.forceUnlock

end Steps

/-- A pool as it is created, with its name. -/
def init (name : String) : System :=
  { pool := { name := name } }

end System

end Capstomp
