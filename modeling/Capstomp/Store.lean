import Capstomp.Endpoint
import Capstomp.System

/-!
# The store of pools

`store.cpp`: the pools of the server by the name of their endpoint, with the
sessions of all of them, as a step function on actions.  `store::get` is two
locked sections, the choice of a pool under the mutex of the store and
`pool::get` under that of the pool; in between the thread holds a reference to
the pool.  A pool that is no longer in `store_` has been destroyed, and none
of its sessions has a next step.
-/

namespace Capstomp

abbrev PoolId := Nat

/-- The reference `select_pool` has returned to a session, until `pool::get`
is called on it. -/
structure Reference where
  session : SessionId
  uri : Uri
  pool : PoolId

/-- What is recorded of a pool that `store::erase` removes: who refers to it,
its `active_` and its `transaction_store_`. -/
structure Removal where
  pool : PoolId
  references : List Reference
  active : List ConnId
  transactions : List Transaction

/-- `homes` is the pool chosen for a session, `names` the name a pool was
created under.  A pool that was destroyed keeps its number and the state it
had.  While `store::commit` runs, `committing` is its pool. -/
structure Store where
  store : List (String × PoolId) := []
  pools : PoolId → System := fun _ => {}
  nextPool : PoolId := 0
  homes : SessionId → Option PoolId := fun _ => none
  references : List Reference := []
  committing : Option PoolId := none
  names : PoolId → String := fun _ => ""
  erased : List Removal := []

inductive StoreAction where
  | select (session : SessionId) (uri : Uri) (maxPoolCount : Nat)
      (address : String)
  | get (session : SessionId) (maxPoolSockets : Nat)
  | session (action : Action)
  | erase (name : String)
  | findCommit (name : String)
  | forceLock
  | forceNext (poolSockets : Nat) (turns : CommitTurns)
  | forceUnlock
  | clear

/-- The session that takes a step on the connection it was given. -/
def Action.statement : Action → Option SessionId
  | .connect sid _ | .createTransaction sid | .begin sid _ _
  | .content sid _ _ _ _ | .deinit sid | .commit sid _ _
  | .commitTransaction sid _ | .releaseDeferred sid _ | .release sid _ _ =>
      some sid
  | .get _ _ _ | .forceLock | .forceNext _ _ | .forceUnlock => none

namespace Store

/-- `store_.find(name)`. -/
def find (name : String) (s : Store) : Option PoolId :=
  (s.store.find? fun entry => entry.1 = name).map Prod.snd

/-- The pool is in `store_`. -/
abbrev Live (pool : PoolId) (s : Store) : Prop :=
  pool ∈ s.store.map Prod.snd

@[simps -fullyApplied]
def setPool (pool : PoolId) (system : System) (s : Store) : Store :=
  { s with pools := Function.update s.pools pool system }

/-- A section that begins by taking the mutex of the store. -/
def locked (section' : Store → Option Store) (s : Store) : Option Store :=
  if s.committing = none then section' s else none

/-- `store_[name]` for a new name; the pool takes its own name from the
address it is at. -/
@[simps -fullyApplied]
def emplace (name address : String) (s : Store) : Store :=
  { s with
    store := (name, s.nextPool) :: s.store
    pools := Function.update s.pools s.nextPool (System.init address)
    nextPool := s.nextPool + 1
    names := Function.update s.names s.nextPool name }

/-- `store::select_pool`.  The count of the pools is tested before the new one
is there. -/
def selectPool (maxPoolCount : Nat) (address : String) (u : Uri) (s : Store) :
    Except Error (PoolId × Store) :=
  match s.find (endpoint u) with
  | some pool => .ok (pool, s)
  | none =>
      if maxPoolCount < s.store.length then
        .error (.maxPoolCount maxPoolCount)
      else .ok (s.nextPool, s.emplace (endpoint u) address)

/-- The session holds a reference to the pool. -/
@[simps -fullyApplied]
def refer (sid : SessionId) (u : Uri) (pool : PoolId) (s : Store) : Store :=
  { s with
    references := { session := sid, uri := u, pool := pool } :: s.references
    homes := Function.update s.homes sid (some pool) }

/-- The first section of `store::get`.  When it throws, the statement has not
begun. -/
def select (sid : SessionId) (u : Uri) (maxPoolCount : Nat) (address : String)
    (s : Store) : Option Store :=
  if s.homes sid = none then s.locked fun s =>
    match s.selectPool maxPoolCount address u with
    | .error _ => some s
    | .ok (pool, s) => some (s.refer sid u pool)
  else none

/-- What is recorded when a pool is erased. -/
def removal (pool : PoolId) (s : Store) : Removal where
  pool := pool
  references := s.references.filter fun held => held.pool = pool
  active := (s.pools pool).pool.active
  transactions := (s.pools pool).pool.transactionStore

/-- `store::erase`. -/
def erase (name : String) (s : Store) : Except Error Store :=
  match s.find name with
  | none => .error (.eraseNotFound name)
  | some pool =>
      let running := (s.pools pool).pool.active.length
      if 0 < running then .error (.eraseRunning name running)
      else .ok { s with
        store := s.store.filter fun entry => entry.1 ≠ name
        erased := s.erased ++ [s.removal pool] }

/-- `store::clear`. -/
@[simps -fullyApplied]
def clear (s : Store) : Store :=
  { s with store := [] }

/-- `store::commit` up to `force_commit`, under the mutex of the store until
that returns. -/
def findCommit (name : String) (s : Store) : Option Store :=
  s.locked fun s =>
    match s.find name with
    | none => some s
    | some pool => some { s with committing := some pool }

section Steps

variable [QueryDecoding] [PassHash] [FrameBytes]

/-- A step inside a pool that has not been destroyed. -/
def inPool (pool : PoolId) (action : Action) (s : Store) : Option Store :=
  if s.Live pool then
    ((s.pools pool).step action).map fun system => s.setPool pool system
  else none

/-- The second section of `store::get`. -/
def get (sid : SessionId) (maxPoolSockets : Nat) (s : Store) :
    Option Store :=
  match s.references.find? fun held => held.session = sid with
  | none => none
  | some held =>
      (s.inPool held.pool (.get sid held.uri maxPoolSockets)).map fun s =>
        { s with references := s.references.filter fun other =>
            other.session ≠ sid }

/-- A step of a session in the pool of its connection. -/
def session (action : Action) (s : Store) : Option Store :=
  match action.statement.bind s.homes with
  | none => none
  | some pool => s.inPool pool action

/-- A step of `force_commit` in the pool `store::commit` has found. -/
def force (action : Action) (s : Store) : Option Store :=
  match s.committing with
  | none => none
  | some pool => s.inPool pool action

def step (s : Store) : StoreAction → Option Store
  | .select sid uri maxPoolCount address =>
      s.select sid uri maxPoolCount address
  | .get sid maxPoolSockets => s.get sid maxPoolSockets
  | .session action => s.session action
  | .erase name => s.locked fun s =>
      match s.erase name with
      | .error _ => some s
      | .ok s => some s
  | .findCommit name => s.findCommit name
  | .forceLock => s.force .forceLock
  | .forceNext poolSockets turns => s.force (.forceNext poolSockets turns)
  | .forceUnlock =>
      (s.force .forceUnlock).map fun s => { s with committing := none }
  | .clear => s.locked fun s => some s.clear

end Steps

end Store

end Capstomp
