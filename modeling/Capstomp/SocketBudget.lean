import Mathlib.Data.List.MinMax
import Capstomp.Reachable

/-!
# The socket budget of a pool

`get` tests its limit when it creates a connection, and only against
`active_`; `release` tests its own when it parks one.  What both keep is a
bound on the two lists together and a bound on `ready_`.  It is proved for the
operations of the pool in any order, and for the sessions that call them.
-/

namespace Capstomp

/-- What a release depends on: whether the socket is open, and `pool_sockets`
when it is read. -/
structure Release where
  good : Bool
  poolSockets : Nat
  deriving DecidableEq, Repr

/-- The calls of a pool; `fresh` is the connection that `get` may create, and
`force_commit` is given what each of its releases depends on. -/
inductive PoolAction where
  | get (maxPoolSockets : Nat) (fresh : ConnId)
  | release (connection : ConnId) (returned : Release)
  | createTransaction (connection : ConnId)
  | getUncommited (endReady : Bool) (node : Nat)
  | forceCommit (returned : List Release)
  | clear

namespace Pool

/-- `release_connection` of a connection that is in `active_`. -/
def releaseActive (connection : ConnId) (returned : Release) (pool : Pool) :
    Option Pool :=
  if connection ∈ pool.active then
    some (pool.releaseConnection returned.poolSockets returned.good connection)
  else none

/-- The loop of `force_commit`, from the position of its iterator to the
end. -/
def forceLoop (position : Nat) :
    List Transaction → List Release → Pool → Option Pool
  | [], returned, pool => if returned = [] then some pool else none
  | transaction :: rest, returned, pool =>
      if transaction.ready then
        match returned with
        | [] => none
        | first :: returned => do
            let released ← pool.releaseActive transaction.connection first
            forceLoop position rest returned
              (released.eraseTransaction position)
      else forceLoop (position + 1) rest returned pool

/-- `pool::force_commit`, as far as the lists go. -/
def forceCommit (returned : List Release) (pool : Pool) : Option Pool :=
  forceLoop 0 pool.transactionStore returned pool

def step (pool : Pool) : PoolAction → Option Pool
  | .get maxPoolSockets fresh =>
      match pool.get maxPoolSockets fresh with
      | .error _ => some pool
      | .ok obtained => some obtained.pool
  | .release connection returned => pool.releaseActive connection returned
  | .createTransaction connection => some (pool.createTransaction connection)
  | .getUncommited endReady node => some (pool.getUncommited endReady node).2
  | .forceCommit returned => pool.forceCommit returned
  | .clear => some pool.clear

/-- The pool after these calls. -/
def run (pool : Pool) (actions : List PoolAction) : Option Pool :=
  actions.foldlM step pool

end Pool

/-- The values of `max_pool_sockets` that a call reads. -/
def PoolAction.maxPoolSockets : PoolAction → List Nat
  | .get maxPoolSockets _ => [maxPoolSockets]
  | _ => []

/-- The values of `pool_sockets` that a call reads. -/
def PoolAction.poolSockets : PoolAction → List Nat
  | .release _ returned => [returned.poolSockets]
  | .forceCommit returned => returned.map Release.poolSockets
  | _ => []

/-- The largest of some limits, zero when there are none. -/
def largest (limits : List Nat) : Nat :=
  limits.foldr max 0

/-- The bound on a pool: on all its connections, and on those parked. -/
structure Within (sockets parked : Nat) (pool : Pool) : Prop where
  all : pool.active.length + pool.ready.length ≤ sockets
  ready : pool.ready.length ≤ parked

namespace Within

variable {sockets parked : Nat} {pool after : Pool}

/-- A call that leaves both lists alone. -/
theorem quiet (within : Within sockets parked pool)
    (active : after.active = pool.active) (ready : after.ready = pool.ready) :
    Within sockets parked after := by
  constructor
  · rw [active, ready]
    exact within.all
  · rw [ready]
    exact within.ready

/-- A connection taken from `ready_` leaves the sum alone, and a new one is
created below the limit. -/
theorem get (within : Within sockets parked pool) {maxPoolSockets : Nat}
    {fresh : ConnId} {obtained : Obtained}
    (limit : maxPoolSockets ≤ sockets)
    (got : pool.get maxPoolSockets fresh = .ok obtained) :
    Within sockets parked obtained.pool := by
  have all := within.all
  have ready := within.ready
  obtain ⟨rest, parkedList, _, same⟩ | ⟨none, _, _, room, same⟩ :=
    Pool.get_cases got
  · rw [parkedList, List.length_cons] at all ready
    rw [same]
    constructor
    · simp only [List.length_cons]
      omega
    · simp only
      omega
  · rw [none, List.length_nil] at all ready
    rw [same]
    constructor
    · simp only [List.length_cons, none, List.length_nil]
      omega
    · simp only [none, List.length_nil]
      omega

/-- A connection of `active_` is moved, while there is room, or destroyed. -/
theorem releaseConnection (within : Within sockets parked pool)
    {poolSockets : Nat} {good : Bool} {connection : ConnId}
    (limit : poolSockets ≤ parked) (active : connection ∈ pool.active) :
    Within sockets parked
      (pool.releaseConnection poolSockets good connection) := by
  have all := within.all
  have ready := within.ready
  have shorter := List.length_erase_of_mem active
  have some := List.length_pos_of_mem active
  unfold Pool.releaseConnection
  split
  · next parks =>
      have room : pool.ready.length < poolSockets := by
        simp only [Pool.parks, Bool.and_eq_true, decide_eq_true_eq] at parks
        exact parks.2
      constructor
      · simp only [List.length_cons, shorter]
        omega
      · simp only [List.length_cons]
        omega
  · constructor
    · simp only [shorter]
      omega
    · exact ready

theorem clear (within : Within sockets parked pool) :
    Within sockets parked pool.clear := by
  have all := within.all
  constructor
  · simp only [Pool.clear, List.length_nil]
    omega
  · exact Nat.zero_le _

theorem releaseActive (within : Within sockets parked pool)
    {connection : ConnId} {returned : Release}
    (limit : returned.poolSockets ≤ parked)
    (released : pool.releaseActive connection returned = some after) :
    Within sockets parked after := by
  unfold Pool.releaseActive at released
  split at released
  · next active =>
      cases released
      exact within.releaseConnection limit active
  · cases released

/-- The loop of `force_commit` keeps the bound at each of its releases. -/
theorem forceLoop {store : List Transaction} {returned : List Release}
    {position : Nat} (within : Within sockets parked pool)
    (limits : ∀ release ∈ returned, release.poolSockets ≤ parked)
    (looped : pool.forceLoop position store returned = some after) :
    Within sockets parked after := by
  induction store generalizing pool returned position with
  | nil =>
      rw [Pool.forceLoop] at looped
      split at looped
      · cases looped
        exact within
      · cases looped
  | cons transaction rest induction =>
      unfold Pool.forceLoop at looped
      split at looped
      · cases returned with
        | nil => cases looped
        | cons first returned =>
            obtain ⟨released, isReleased, looped⟩ :=
              Option.bind_eq_some_iff.mp looped
            have here := within.releaseActive
              (limits first List.mem_cons_self) isReleased
            have erased : Within sockets parked
                (released.eraseTransaction position) := here.quiet rfl rfl
            apply induction erased _ looped
            intro release member
            exact limits release (List.mem_cons_of_mem _ member)
      · exact induction within limits looped

/-- One call keeps the bound when the limits it reads are within it. -/
theorem step (within : Within sockets parked pool) {action : PoolAction}
    (gets : ∀ limit ∈ action.maxPoolSockets, limit ≤ sockets)
    (releases : ∀ limit ∈ action.poolSockets, limit ≤ parked)
    (stepped : pool.step action = some after) :
    Within sockets parked after := by
  cases action with
  | get maxPoolSockets fresh =>
      have limit := gets maxPoolSockets List.mem_cons_self
      simp only [Pool.step] at stepped
      split at stepped
      · cases stepped
        exact within
      · next obtained got =>
          cases stepped
          exact within.get limit got
  | release connection returned =>
      exact within.releaseActive (releases _ List.mem_cons_self) stepped
  | createTransaction connection =>
      cases stepped
      exact within.quiet rfl rfl
  | getUncommited endReady node =>
      cases stepped
      apply within.quiet <;>
        · unfold Pool.getUncommited
          dsimp only
          split <;> rfl
  | forceCommit returned =>
      apply within.forceLoop _ stepped
      intro release member
      exact releases _ (List.mem_map_of_mem member)
  | clear =>
      cases stepped
      exact within.clear

theorem run {actions : List PoolAction} (within : Within sockets parked pool)
    (gets : ∀ limit ∈ actions.flatMap PoolAction.maxPoolSockets,
      limit ≤ sockets)
    (releases : ∀ limit ∈ actions.flatMap PoolAction.poolSockets,
      limit ≤ parked)
    (played : pool.run actions = some after) :
    Within sockets parked after := by
  induction actions generalizing pool with
  | nil =>
      cases played
      exact within
  | cons action actions induction =>
      obtain ⟨between, stepped, played⟩ := Option.bind_eq_some_iff.mp played
      simp only [List.flatMap_cons, List.mem_append] at gets releases
      have here := within.step
        (fun limit member => gets limit (.inl member))
        (fun limit member => releases limit (.inl member)) stepped
      apply induction here _ _ played
      · intro limit member
        exact gets limit (.inr member)
      · intro limit member
        exact releases limit (.inr member)

end Within

theorem le_largest {limits : List Nat} {limit : Nat} (member : limit ∈ limits) :
    limit ≤ largest limits :=
  List.le_max_of_le' 0 member (Nat.le_refl limit)

/-- Whatever is called on a new pool, in whatever order: all its connections
are at most the largest limit a `get` has read, and those parked at most the
largest limit a release has read. -/
theorem socket_budget {name : String} {actions : List PoolAction}
    {pool : Pool} (played : Pool.run { name := name } actions = some pool) :
    pool.active.length + pool.ready.length ≤
        largest (actions.flatMap PoolAction.maxPoolSockets) ∧
      pool.ready.length ≤
        largest (actions.flatMap PoolAction.poolSockets) := by
  have empty : Within (largest (actions.flatMap PoolAction.maxPoolSockets))
      (largest (actions.flatMap PoolAction.poolSockets))
      { name := name } := ⟨Nat.zero_le _, Nat.zero_le _⟩
  have within := empty.run (fun _ member => le_largest member)
    (fun _ member => le_largest member) played
  exact ⟨within.all, within.ready⟩

/-- The limit is lowered between two calls, and a parked connection is taken
although more are in use than it allows. -/
theorem socket_budget_lowered :
    let actions : List PoolAction :=
      [.get 10 0, .get 10 1, .release 0 ⟨true, 4⟩, .get 10 2, .get 1 3,
        .release 1 ⟨true, 4⟩, .get 1 3]
    ∃ pool, Pool.run {} actions = some pool ∧
      pool.active.length + pool.ready.length = 2 ∧
      pool.active.length + pool.ready.length ≤
        largest (actions.flatMap PoolAction.maxPoolSockets) := by
  intro actions
  obtain ⟨pool, played⟩ : ∃ pool, Pool.run {} actions = some pool :=
    ⟨_, rfl⟩
  refine ⟨pool, played, ?_, (socket_budget played).1⟩
  cases played
  rfl

/-! ## The sessions of a pool -/

section Runs

variable {sockets parked : Nat}

/-- Every limit that is read is within the bound. -/
def readsWithin (sockets parked : Nat) (_ : System) : Action → Prop
  | .get _ _ maxPoolSockets => maxPoolSockets ≤ sockets
  | .releaseDeferred _ poolSockets | .release _ _ poolSockets
  | .forceNext poolSockets _ => poolSockets ≤ parked
  | _ => True

variable [QueryDecoding] [PassHash] [FrameBytes]
variable {s after : System} {name : String}

/-- The steps of the sessions call the pool only with connections that are
in use, which keeps the bound. -/
theorem Within.system (within : Within sockets parked s.pool)
    (custody : Custody s) {action : Action}
    (limits : readsWithin sockets parked s action)
    (stepped : s.step action = some after) :
    Within sockets parked after.pool := by
  cases action with
  | get sid uri maxPoolSockets =>
      obtain ⟨_, _, rfl | ⟨obtained, got, rfl⟩⟩ := System.get_cases stepped
      · exact within
      · exact within.get limits got
  | connect sid turns =>
      obtain ⟨_, _, ⟨c, _, rfl⟩ | ⟨_, c, _, rfl⟩⟩ :=
        System.connect_cases stepped <;>
        exact within
  | createTransaction sid =>
      obtain ⟨self, _, _, _, rfl⟩ := System.createTransaction_cases stepped
      exact within.quiet rfl rfl
  | begin sid requestLimit turns =>
      obtain ⟨_, ⟨c, _, rfl⟩ | ⟨_, c, _, rfl⟩⟩ :=
        System.begin_cases stepped <;>
        exact within
  | content sid row now requestLimit turns =>
      obtain ⟨_, rfl⟩ := System.content_cases stepped
      exact within
  | deinit sid =>
      obtain ⟨_, rfl⟩ := System.deinit_cases stepped
      exact within
  | commit sid endReady requestLimit =>
      obtain ⟨_, ⟨_, rfl⟩ | ⟨node, batch, pool, _, _, _, taken, rfl⟩⟩ :=
        System.commit_cases stepped
      · exact within
      · have called : s.pool.step (.getUncommited endReady node) =
            some pool := by
          rw [Pool.step, taken]
        exact within.step (by simp [PoolAction.maxPoolSockets])
          (by simp [PoolAction.poolSockets]) called
  | commitTransaction sid turns =>
      obtain ⟨_, _, _, _, rfl⟩ := System.commitTransaction_cases stepped
      exact within
  | releaseDeferred sid poolSockets =>
      obtain ⟨c, batch, receipt, phase, _, rfl⟩ :=
        System.releaseDeferred_cases stepped
      have held : c ∈ s.places (.session sid) := by
        simp [System.places, Session.held, phase]
      exact within.releaseConnection limits
        (custody.mem_active_of_place (by simp) held)
  | release sid requestLimit poolSockets =>
      obtain ⟨self, phase, isSelf, _, rfl⟩ := System.release_cases stepped
      have held : (s.sessions sid).connection ∈ s.places (.session sid) :=
        Session.own_mem_held (by simp [phase]) (by simp [phase])
      have isOwn := custody.self_eq (by simp [phase]) (by simp [phase]) isSelf
      subst isOwn
      exact within.releaseConnection limits
        (custody.mem_active_of_place (by simp) held)
  | forceLock =>
      obtain ⟨_, rfl⟩ := System.forceLock_cases stepped
      exact within
  | forceNext poolSockets turns =>
      obtain ⟨forcing, transaction, _, located,
        ⟨_, rfl⟩ | ⟨pointed, _, _, _, rfl⟩⟩ :=
        System.forceNext_cases stepped
      · exact within
      · obtain ⟨place, away, held⟩ :=
          custody.place_of_store (List.mem_of_getElem? located)
        have active := custody.mem_active_of_place away held
        exact (within.releaseConnection limits active).quiet rfl rfl
  | forceUnlock =>
      obtain ⟨_, _, _, rfl⟩ := System.forceUnlock_cases stepped
      exact within

/-- The sessions of a pool keep the budget of the calls they make. -/
theorem Runs.within (run : Runs (readsWithin sockets parked) name s) :
    Within sockets parked s.pool := by
  apply General.Reaches.invariant run
  · exact ⟨Nat.zero_le _, Nat.zero_le _⟩
  · intro before action after reached within limits stepped
    exact within.system (Runs.custody reached) limits stepped

end Runs

end Capstomp
