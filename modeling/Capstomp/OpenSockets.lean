import Capstomp.Completion
import Capstomp.ParkedClean
import Capstomp.SocketBudget

/-!
# The sockets of the connections

A connection is closed when the pool lets it go.  So the connections with an
open socket are in the two lists of the pool, and no more than the largest
limit a `get` has read; and when all statements have ended, they are parked.

The descriptors that `create_connection` leaves open when an attempt fails
belong to no connection, and are not among these.
-/

namespace Capstomp

open General

@[simp] theorem getUncommited_active (endReady : Bool) (node : Nat)
    (pool : Pool) :
    (pool.getUncommited endReady node).2.active = pool.active := by
  unfold Pool.getUncommited
  dsimp only
  split <;> rfl

namespace System

/-- The connections whose `socket_` is open. -/
def openSockets (s : System) : List ConnId :=
  (List.range s.nextConnection).filter fun c => (s.connections c).good

/-- The connections of the pool. -/
def pooled (s : System) : List ConnId :=
  s.pool.active ++ s.pool.ready

end System

/-- A connection with an open socket is in a list of the pool. -/
def Accounted (s : System) : Prop :=
  ∀ c, (s.connections c).good → c ∈ s.pooled

namespace Accounted

variable {s after : System} {x : ConnId} {c : Connection}

/-- A step on a connection that is in use. -/
theorem update (accounted : Accounted s) (active : x ∈ s.pool.active)
    (connections : after.connections = Function.update s.connections x c)
    (pooled : after.pooled = s.pooled) : Accounted after := by
  intro y isOpen
  rw [pooled]
  by_cases isHere : y = x
  · subst isHere
    exact List.mem_append_left _ active
  · rw [connections, Function.update_of_ne isHere] at isOpen
    exact accounted y isOpen

theorem quiet (accounted : Accounted s)
    (connections : after.connections = s.connections)
    (pooled : after.pooled = s.pooled) : Accounted after := by
  intro y isOpen
  rw [pooled]
  exact accounted y (connections ▸ isOpen)

/-- A connection that is let go is parked, or closed. -/
theorem released (accounted : Accounted s) (poolSockets : Nat) (x : ConnId) :
    Accounted (s.releaseConnection poolSockets x) := by
  intro y isOpen
  simp only [System.releaseConnection_connections] at isOpen
  simp only [System.pooled, System.releaseConnection_pool,
    Pool.releaseConnection]
  by_cases isHere : y = x
  · subst isHere
    rw [Function.update_self] at isOpen
    split at isOpen
    · next parks => simp [parks]
    · simp [Connection.close, Connection.good] at isOpen
  · rw [Function.update_of_ne isHere] at isOpen
    have known := accounted y isOpen
    simp only [System.pooled, List.mem_append] at known
    split <;>
      simp only [List.mem_append, List.mem_cons,
        List.mem_erase_of_ne isHere] <;>
      tauto

/-- A connection that is handed out is in use. -/
theorem handOver (accounted : Accounted s) (sid : SessionId) (uri : Uri)
    {maxPoolSockets : Nat} {obtained : Obtained}
    (got : s.pool.get maxPoolSockets s.nextConnection = .ok obtained)
    [QueryDecoding] : Accounted (s.handOver sid uri obtained) := by
  intro y isOpen
  rw [System.handOver_connections] at isOpen
  have known : y = obtained.connection ∨ y ∈ s.pooled := by
    by_cases isHere : y = obtained.connection
    · exact .inl isHere
    · rw [Function.update_of_ne isHere] at isOpen
      exact .inr (accounted y isOpen)
  simp only [System.pooled, System.handOver_pool] at known ⊢
  rcases Pool.get_cases got with
    ⟨rest, ready, _, pool⟩ | ⟨none, isNew, _, _, pool⟩
  · rw [pool]
    simp only [ready, List.mem_append, List.mem_cons] at known ⊢
    tauto
  · rw [pool]
    simp only [isNew, List.mem_append, List.mem_cons] at known ⊢
    tauto

variable [QueryDecoding] [PassHash] [FrameBytes] {action : Action}

theorem step (accounted : Accounted s) (custody : Custody s) (queue : Queue s)
    (stepped : s.step action = some after) : Accounted after := by
  have own : ∀ sid, (s.sessions sid).phase ≠ .idle →
      (s.sessions sid).phase ≠ .ended →
        (s.sessions sid).connection ∈ s.pool.active := by
    intro sid begun unended
    have held : (s.sessions sid).connection ∈ s.places (.session sid) :=
      Session.own_mem_held begun unended
    exact custody.mem_active_of_place (by simp) held
  cases action with
  | get sid uri maxPoolSockets =>
      obtain ⟨_, _, rfl | ⟨obtained, got, rfl⟩⟩ := System.get_cases stepped
      · exact accounted
      · exact accounted.handOver sid uri got
  | connect sid turns =>
      obtain ⟨_, phase, ⟨c, _, rfl⟩ | ⟨_, c, _, rfl⟩⟩ :=
        System.connect_cases stepped <;>
        exact accounted.update (own sid (by simp [phase]) (by simp [phase]))
          rfl rfl
  | createTransaction sid =>
      obtain ⟨self, phase, _, _, rfl⟩ := System.createTransaction_cases stepped
      exact accounted.update (own sid (by simp [phase]) (by simp [phase]))
        rfl rfl
  | begin sid requestLimit turns =>
      obtain ⟨phase, ⟨c, _, rfl⟩ | ⟨_, c, _, rfl⟩⟩ :=
        System.begin_cases stepped <;>
        exact accounted.update (own sid (by simp [phase]) (by simp [phase]))
          rfl rfl
  | content sid row now requestLimit turns =>
      obtain ⟨phase, rfl⟩ := System.content_cases stepped
      exact accounted.update (own sid (by simp [phase]) (by simp [phase]))
        rfl rfl
  | deinit sid =>
      obtain ⟨_, rfl⟩ := System.deinit_cases stepped
      exact accounted
  | commit sid endReady requestLimit =>
      obtain ⟨_, ⟨_, rfl⟩ | ⟨node, batch, pool, _, _, _, taken, rfl⟩⟩ :=
        System.commit_cases stepped
      · exact accounted
      · have ready := getUncommited_ready endReady node s.pool
        have active := getUncommited_active endReady node s.pool
        rw [taken] at ready active
        exact accounted.quiet rfl (congrArg₂ (· ++ ·) active ready)
  | commitTransaction sid turns =>
      obtain ⟨transaction, batch, receipt, phase, rfl⟩ :=
        System.commitTransaction_cases stepped
      have held : transaction.connection ∈ s.places (.session sid) := by
        simp only [System.places, Session.held, phase]
        split <;> simp_all
      exact accounted.update (custody.mem_active_of_place (by simp) held)
        rfl rfl
  | releaseDeferred sid poolSockets =>
      obtain ⟨x, _, _, _, _, rfl⟩ := System.releaseDeferred_cases stepped
      exact (accounted.released poolSockets x).quiet rfl rfl
  | release sid requestLimit poolSockets =>
      obtain ⟨self, phase, isSelf, _, rfl⟩ := System.release_cases stepped
      have updated : Accounted (s.setConnection (s.sessions sid).connection
          ((s.own sid).release requestLimit)) :=
        accounted.update (own sid (by simp [phase]) (by simp [phase])) rfl rfl
      exact (updated.released poolSockets self).quiet rfl rfl
  | forceLock =>
      obtain ⟨_, rfl⟩ := System.forceLock_cases stepped
      exact accounted
  | forceNext poolSockets turns =>
      obtain ⟨forcing, transaction, _, located,
        ⟨_, rfl⟩ | ⟨pointed, _, found, _, rfl⟩⟩ :=
        System.forceNext_cases stepped
      · exact accounted
      · have same := custody.pointed_eq queue.distinct
          (List.mem_of_getElem? located) found
        subst same
        obtain ⟨place, away, held⟩ :=
          custody.place_of_store (List.mem_of_getElem? located)
        have updated : Accounted (s.attempt pointed true turns) :=
          accounted.update (custody.mem_active_of_place away held) rfl rfl
        exact (updated.released poolSockets _).quiet rfl rfl
  | forceUnlock =>
      obtain ⟨_, _, _, rfl⟩ := System.forceUnlock_cases stepped
      exact accounted

end Accounted

section Runs

variable [QueryDecoding] [PassHash] [FrameBytes]
variable {allowed : System → Action → Prop} {name : String} {s : System}
variable {sockets parked : Nat}

theorem Runs.accounted (run : Runs allowed name s) : Accounted s :=
  Reaches.invariant run (fun c isOpen => by cases isOpen)
    fun _ _ _ reached accounted _ stepped =>
      accounted.step (Runs.custody reached) (Runs.queue reached) stepped

/-- A connection whose socket is open is in the pool: there are at most as many
as the limits of the `get`s allow, and at most as many as those of the releases
allow when the last statement has ended. -/
theorem open_sockets (run : Runs (readsWithin sockets parked) name s) :
    (∀ c, (s.connections c).good → c ∈ s.pooled) ∧
      s.openSockets.length ≤ sockets ∧
      (s.Drained → s.openSockets.length ≤ parked) := by
  have accounted := run.accounted
  have distinct : s.openSockets.Nodup := List.nodup_range.filter _
  have within : s.openSockets ⊆ s.pooled := by
    intro c member
    exact accounted c (List.mem_filter.mp member).2
  have fewer := (List.subperm_of_subset distinct within).length_le
  refine ⟨accounted, fewer.trans ?_, fun drained => fewer.trans ?_⟩
  · rw [System.pooled, List.length_append]
    exact run.within.all
  · rw [System.pooled, drained.active, List.nil_append]
    exact run.within.ready

end Runs

section Executed

open scoped Sample

instance (sockets parked : Nat) (s : System) (action : Action) :
    Decidable (readsWithin sockets parked s action) :=
  match action with
  | .get _ _ _ | .releaseDeferred _ _ | .release _ _ _ | .forceNext _ _ =>
      inferInstanceAs (Decidable (_ ≤ _))
  | .connect _ _ | .createTransaction _ | .begin _ _ _ | .content _ _ _ _ _
  | .deinit _ | .commit _ _ _ | .commitTransaction _ _ | .forceLock
  | .forceUnlock => .isTrue trivial

/-- Five statements side by side, of whose connections four can be parked. -/
def lettingGo : List Action :=
  (List.range 5).flatMap (fun sid =>
    [.get sid (Sample.uri "") 8, .connect sid Sample.connects]) ++
    (List.range 5).flatMap fun sid =>
      [.deinit sid, .commit sid false 100, .release sid 100 4]

theorem open_sockets_lettingGo :
    let s := final (readsWithin 8 4) "pool" lettingGo
    s.nextConnection = 5 ∧ s.openSockets = [0, 1, 2, 3] ∧
      (∀ c, (s.connections c).good → c ∈ s.pooled) ∧
      s.openSockets.length ≤ 8 ∧ (s.Drained → s.openSockets.length ≤ 4) :=
  ⟨by decide +kernel, by decide +kernel,
    open_sockets (runs_final (by decide +kernel))⟩

end Executed

end Capstomp
