import Capstomp.Completion
import Capstomp.Erasure
import Capstomp.WholeOperations

/-!
# The whole server completes

The store and each of its pools have a mutex, and `store::commit` waits for
the mutex of a pool while it holds that of the store.  No thread ever waits for
the store with a pool in its hands: a pool is locked for longer than a step
only by the call that also holds the store.  So while something is under way
some call can be made next, and what is under way is finished in a bounded
number of calls, in whatever order the statements of all pools and the
administrator make them.  That each call returns is not said here: a step is a
call that has returned, and one that waits for its peer need not.
-/

namespace Capstomp

open General

/-- No pool is destroyed that a thread refers to or has a connection of. -/
def destroysUnused (s : Store) : StoreAction → Prop
  | .erase name => erasesUnreferenced s (.erase name)
  | .clear => s.Idle ∧ ∀ held ∈ s.references, ¬ s.Live held.pool
  | _ => True

instance (s : Store) (action : StoreAction) :
    Decidable (destroysUnused s action) :=
  match action with
  | .erase name => inferInstanceAs
      (Decidable (erasesUnreferenced s (.erase name)))
  | .clear => inferInstanceAs
      (Decidable (s.Idle ∧ ∀ held ∈ s.references, ¬ s.Live held.pool))
  | .select _ _ _ _ | .get _ _ | .session _ | .findCommit _ | .forceLock
  | .forceNext _ _ | .forceUnlock => .isTrue trivial

/-! ## Who holds the mutexes, and where the sessions are -/

/-- The mutex of a pool is held only with that of the store; `store::commit`
works on a pool of `store_`; a statement is in the pool that was chosen for
it, and until it calls `pool::get` it has not begun. -/
structure Attended (s : Store) : Prop where
  mutex : ∀ pool, (s.pools pool).forcing ≠ none → s.committing = some pool
  committing : ∀ pool, s.committing = some pool → s.Live pool
  homes : ∀ pool sid, ((s.pools pool).sessions sid).phase ≠ .idle →
    s.homes sid = some pool
  references : ∀ held ∈ s.references, s.homes held.session = some held.pool ∧
    ((s.pools held.pool).sessions held.session).phase = .idle

section Steps

variable [QueryDecoding] [PassHash] [FrameBytes]
variable {allowed : Store → StoreAction → Prop}
variable {s after : Store} {pool : PoolId} {sid : SessionId}

theorem StoreRuns.queue (run : StoreRuns allowed s) (pool : PoolId) :
    Queue (s.pools pool) := by
  obtain ⟨_, inside⟩ := StoreRuns.inside run pool
  exact inside.queue

omit [QueryDecoding] [PassHash] [FrameBytes] in
theorem Action.thread_of_statement {action : Action}
    (isOwn : action.statement = some sid) :
    action.thread = .session sid ∧
      ∀ uri maxPoolSockets, action ≠ .get sid uri maxPoolSockets := by
  cases action with
  | get | forceLock | forceNext | forceUnlock => cases isOwn
  | _ =>
      cases isOwn
      exact ⟨rfl, by simp⟩

namespace Attended

omit [QueryDecoding] [PassHash] [FrameBytes] in
theorem init : Attended {} where
  mutex _ forcing := absurd rfl forcing
  committing _ isPool := by cases isPool
  homes _ _ phase := absurd rfl phase
  references _ member := by cases member

omit [QueryDecoding] [PassHash] [FrameBytes] in
/-- While the store is not locked, entries and references may go. -/
theorem shrink (attended : Attended s) (unlocked : s.committing = none)
    (pools : after.pools = s.pools) (homes : after.homes = s.homes)
    (references : after.references = s.references)
    (committing : after.committing = none) : Attended after where
  mutex pool forcing := by
    rw [pools] at forcing
    simp [attended.mutex pool forcing] at unlocked
  committing pool isPool := by
    rw [committing] at isPool
    cases isPool
  homes pool sid phase := by
    rw [pools] at phase
    rw [homes]
    exact attended.homes pool sid phase
  references held member := by
    rw [pools, homes]
    rw [references] at member
    exact attended.references held member

omit [QueryDecoding] [PassHash] [FrameBytes] in
/-- A pool takes a step. -/
theorem inPool (attended : Attended s) {system : System}
    {references : List Reference}
    (mutex : system.forcing ≠ none → s.committing = some pool)
    (phases : ∀ sid, (system.sessions sid).phase ≠ .idle →
      s.homes sid = some pool)
    (still : references ⊆ s.references)
    (idle : ∀ held ∈ references, held.pool = pool →
      (system.sessions held.session).phase = .idle) :
    Attended { s.setPool pool system with references := references } := by
  constructor
  · intro other forcing
    by_cases same : other = pool
    · subst same
      simp only [Store.setPool_pools, Function.update_self] at forcing
      exact mutex forcing
    · simp only [Store.setPool_pools, Function.update_of_ne same] at forcing
      exact attended.mutex other forcing
  · exact attended.committing
  · intro other sid phase
    by_cases same : other = pool
    · subst same
      simp only [Store.setPool_pools, Function.update_self] at phase
      exact phases sid phase
    · simp only [Store.setPool_pools, Function.update_of_ne same] at phase
      exact attended.homes other sid phase
  · intro held member
    obtain ⟨home, wasIdle⟩ := attended.references held (still member)
    refine ⟨home, ?_⟩
    by_cases same : held.pool = pool
    · simp only [Store.setPool_pools, same, Function.update_self]
      exact idle held member same
    · simp only [Store.setPool_pools, Function.update_of_ne same]
      exact wasIdle

/-- A session whose thread has not taken the step is where it was. -/
theorem homes_after (attended : Attended s) {action : Action}
    {system : System} (custody : Custody (s.pools pool))
    (queue : Queue (s.pools pool))
    (moved : (s.pools pool).step action = some system)
    (home : ∀ sid, action.thread = .session sid → s.homes sid = some pool) :
    ∀ sid, (system.sessions sid).phase ≠ .idle → s.homes sid = some pool := by
  intro sid phase
  by_cases isThread : action.thread = .session sid
  · exact home sid isThread
  · rw [System.session_other custody queue moved isThread] at phase
    exact attended.homes pool sid phase

/-- A statement takes a step in its pool. -/
theorem session (attended : Attended s) {action : Action}
    (isOwn : action.statement = some sid) (home : s.homes sid = some pool)
    (custody : Custody (s.pools pool)) (queue : Queue (s.pools pool))
    (stepped : s.inPool pool action = some after) : Attended after := by
  obtain ⟨isThread, notGet⟩ := Action.thread_of_statement isOwn
  obtain ⟨_, system, moved, rfl⟩ := Store.inPool_cases stepped
  have spends := System.spends moved isThread notGet
  refine attended.inPool ?_ ?_ (List.Subset.refl _) ?_
  · rw [spends.forcing]
    exact attended.mutex pool
  · refine attended.homes_after custody queue moved ?_
    intro other isOther
    rw [isThread, Thread.session.injEq] at isOther
    exact isOther ▸ home
  · rintro held member rfl
    obtain ⟨_, idle⟩ := attended.references held member
    -- Who still refers to the pool has not begun.
    have isOther : held.session ≠ sid := by
      rintro rfl
      exact spends.live idle
    rw [System.session_other custody queue moved (by simpa [isThread] using
      isOther.symm)]
    exact idle

theorem get (attended : Attended s)
    (custody : ∀ pool, Custody (s.pools pool))
    (queue : ∀ pool, Queue (s.pools pool)) {maxPoolSockets : Nat}
    (stepped : s.get sid maxPoolSockets = some after) : Attended after := by
  obtain ⟨held, member, rfl, _, inside, rfl⟩ := Store.get_cases stepped
  obtain ⟨_, system, moved, rfl⟩ := Store.inPool_cases inside
  refine attended.inPool ?_ ?_ (List.filter_subset_self _) ?_
  · rw [System.forcing_session (by simp [Action.thread]) moved]
    exact attended.mutex held.pool
  · refine attended.homes_after (custody _) (queue _) moved ?_
    rintro _ ⟨⟩
    exact (attended.references held member).1
  · intro other isReference samePool
    obtain ⟨old, notSelf⟩ := List.mem_filter.mp isReference
    have isOther : held.session ≠ other.session := by
      intro same
      simp [same] at notSelf
    rw [System.session_other (custody _) (queue _) moved (by
      simpa [Action.thread] using isOther)]
    exact samePool ▸ (attended.references other old).2

/-- `force_commit` takes a step in the pool of the call. -/
theorem force (attended : Attended s) {action : Action}
    (isThread : action.thread = .administrator)
    (isPool : s.committing = some pool) (custody : Custody (s.pools pool))
    (queue : Queue (s.pools pool))
    (stepped : s.inPool pool action = some after) :
    Attended after ∧ after.committing = some pool := by
  obtain ⟨_, system, moved, rfl⟩ := Store.inPool_cases stepped
  refine ⟨attended.inPool (fun _ => isPool) ?_ (List.Subset.refl _) ?_, isPool⟩
  · refine attended.homes_after custody queue moved ?_
    intro sid isSession
    rw [isThread] at isSession
    cases isSession
  · rintro held member rfl
    rw [System.session_other custody queue moved (by simp [isThread])]
    exact (attended.references held member).2

theorem forceUnlock (attended : Attended s)
    (isPool : s.committing = some pool) (custody : Custody (s.pools pool))
    (queue : Queue (s.pools pool))
    (stepped : s.inPool pool .forceUnlock = some after) :
    Attended { after with committing := none } := by
  obtain ⟨forced, stillPool⟩ :=
    attended.force rfl isPool custody queue stepped
  refine ⟨?_, fun _ isNone => (by cases isNone), forced.homes,
    forced.references⟩
  intro other forcing
  have isOther : other = pool := by
    have := forced.mutex other forcing
    rw [stillPool, Option.some.injEq] at this
    exact this.symm
  -- The pool that was locked has been unlocked.
  obtain ⟨_, system, moved, rfl⟩ := Store.inPool_cases stepped
  obtain ⟨_, _, _, unlocked⟩ := System.forceUnlock_cases moved
  subst isOther
  simp [unlocked] at forcing

omit [QueryDecoding] [PassHash] [FrameBytes] in
/-- A reference to a pool that is there. -/
theorem refer (attended : Attended s) {u : Uri}
    (homeless : s.homes sid = none) : Attended (s.refer sid u pool) := by
  have idle : ∀ other, ((s.pools other).sessions sid).phase = .idle := by
    intro other
    by_contra phase
    simp [attended.homes other sid phase] at homeless
  refine ⟨attended.mutex, attended.committing, ?_, ?_⟩
  · intro other session phase
    have isOther : session ≠ sid := by
      rintro rfl
      exact phase (idle other)
    rw [Store.refer_homes, Function.update_of_ne isOther]
    exact attended.homes other session phase
  · intro held member
    rw [Store.refer_homes, Store.refer_pools]
    rcases List.mem_cons.mp member with rfl | old
    · exact ⟨Function.update_self _ _ _, idle _⟩
    · obtain ⟨isHome, isIdle⟩ := attended.references held old
      have isOther : held.session ≠ sid := by
        rintro same
        rw [same, homeless] at isHome
        cases isHome
      exact ⟨by rw [Function.update_of_ne isOther, isHome], isIdle⟩

omit [QueryDecoding] [PassHash] [FrameBytes] in
theorem emplace (attended : Attended s) {name address : String}
    (unlocked : s.committing = none)
    (known : ∀ held ∈ s.references, held.pool < s.nextPool) :
    Attended (s.emplace name address) := by
  constructor
  · intro other forcing
    by_cases same : other = s.nextPool
    · subst same
      simp [System.init] at forcing
    · rw [Store.emplace_pools, Function.update_of_ne same] at forcing
      exact attended.mutex other forcing
  · intro other isPool
    simp [unlocked] at isPool
  · intro other sid phase
    by_cases same : other = s.nextPool
    · subst same
      simp [System.init] at phase
    · rw [Store.emplace_pools, Function.update_of_ne same] at phase
      exact attended.homes other sid phase
  · intro held member
    have isOther := Nat.ne_of_lt (known held member)
    rw [Store.emplace_pools, Function.update_of_ne isOther]
    exact attended.references held member

theorem select (attended : Attended s) (named : Named (fun _ => True) s)
    {u : Uri} {maxPoolCount : Nat} {address : String}
    (stepped : s.select sid u maxPoolCount address = some after) :
    Attended after := by
  obtain ⟨homeless, unlocked, rfl | ⟨pool, between, selected, rfl⟩⟩ :=
    Store.select_cases stepped
  · exact attended
  · rcases Store.selectPool_cases selected with ⟨_, rfl⟩ | ⟨_, _, rfl⟩
    · exact attended.refer homeless
    · refine refer (attended.emplace unlocked ?_) homeless
      exact fun held member => (named.references held member).1

theorem step (attended : Attended s) (named : Named (fun _ => True) s)
    (custody : ∀ pool, Custody (s.pools pool))
    (queue : ∀ pool, Queue (s.pools pool)) {action : StoreAction}
    (stepped : s.step action = some after) : Attended after := by
  cases action with
  | select sid uri maxPoolCount address => exact attended.select named stepped
  | get sid maxPoolSockets => exact attended.get custody queue stepped
  | session action =>
      obtain ⟨sid, pool, isOwn, home, moved⟩ := Store.session_cases stepped
      exact attended.session isOwn home (custody pool) (queue pool) moved
  | erase name =>
      obtain ⟨unlocked, rfl | erased⟩ := Store.step_erase stepped
      · exact attended
      · obtain ⟨_, _, _, rfl⟩ := Store.erase_cases erased
        exact attended.shrink unlocked rfl rfl rfl unlocked
  | findCommit name =>
      obtain ⟨unlocked, rfl | ⟨pool, found, rfl⟩⟩ :=
        Store.findCommit_cases stepped
      · exact attended
      · refine ⟨?_, ?_, attended.homes, attended.references⟩
        · intro other forcing
          simp [attended.mutex other forcing] at unlocked
        · intro other isPool
          cases isPool
          exact List.mem_map_of_mem (Store.mem_of_find found)
  | forceLock =>
      obtain ⟨pool, isPool, moved⟩ := Store.force_cases stepped
      exact (attended.force rfl isPool (custody pool) (queue pool) moved).1
  | forceNext poolSockets turns =>
      obtain ⟨pool, isPool, moved⟩ := Store.force_cases stepped
      exact (attended.force rfl isPool (custody pool) (queue pool) moved).1
  | forceUnlock =>
      obtain ⟨pool, isPool, between, moved, rfl⟩ :=
        Store.step_forceUnlock stepped
      exact attended.forceUnlock isPool (custody pool) (queue pool) moved
  | clear =>
      obtain ⟨unlocked, rfl⟩ := Store.step_clear stepped
      exact attended.shrink unlocked rfl rfl rfl unlocked

end Attended

theorem StoreRuns.attended (run : StoreRuns allowed s) : Attended s :=
  Reaches.invariant run .init fun _ _ _ reached attended _ stepped =>
    attended.step (StoreRuns.anyNamed reached) (StoreRuns.custody reached)
      (StoreRuns.queue reached) stepped

/-- A pool that a thread refers to is in `store_`. -/
def Store.Referred (s : Store) : Prop :=
  ∀ held ∈ s.references, s.Live held.pool

theorem StoreRuns.referred (run : StoreRuns destroysUnused s) :
    s.Referred := by
  refine Reaches.invariant run (fun _ none => by cases none) ?_
  intro before action after reached referred permitted stepped held member
  cases action with
  | select sid uri maxPoolCount address =>
      obtain ⟨_, _, rfl | ⟨pool, between, selected, rfl⟩⟩ :=
        Store.select_cases stepped
      · exact referred held member
      · rcases Store.selectPool_cases selected with
          ⟨found, rfl⟩ | ⟨_, rfl, rfl⟩
        · rcases List.mem_cons.mp member with rfl | old
          · exact List.mem_map_of_mem (Store.mem_of_find found)
          · exact referred held old
        · rcases List.mem_cons.mp member with rfl | old
          · exact List.mem_cons_self
          · exact List.mem_cons_of_mem _ (referred held old)
  | get sid maxPoolSockets =>
      obtain ⟨_, _, _, _, inside, rfl⟩ := Store.get_cases stepped
      obtain ⟨_, _, _, rfl⟩ := Store.inPool_cases inside
      exact referred held (List.mem_of_mem_filter member)
  | session action =>
      obtain ⟨_, _, _, _, inside⟩ := Store.session_cases stepped
      obtain ⟨_, _, _, rfl⟩ := Store.inPool_cases inside
      exact referred held member
  | erase name =>
      obtain ⟨_, rfl | erased⟩ := Store.step_erase stepped
      · exact referred held member
      · obtain ⟨pool, found, idle, rfl⟩ := Store.erase_cases erased
        obtain ⟨entry, isEntry, isPool⟩ := List.mem_map.mp
          (referred held member)
        refine List.mem_map.mpr ⟨entry, List.mem_filter.mpr ⟨isEntry, ?_⟩,
          isPool⟩
        -- The pool that is erased is not the one referred to.
        have named := StoreRuns.anyNamed reached
        have different : entry.1 ≠ name := by
          rintro rfl
          have same := List.inj_on_of_nodup_map named.nodup isEntry
            (Store.mem_of_find found) rfl
          rw [same] at isPool
          exact permitted pool found idle held member isPool.symm
        simpa using different
  | findCommit name =>
      obtain ⟨_, rfl | ⟨_, _, rfl⟩⟩ := Store.findCommit_cases stepped <;>
        exact referred held member
  | forceLock | forceNext =>
      obtain ⟨_, _, inside⟩ := Store.force_cases stepped
      obtain ⟨_, _, _, rfl⟩ := Store.inPool_cases inside
      exact referred held member
  | forceUnlock =>
      obtain ⟨_, _, _, inside, rfl⟩ := Store.step_forceUnlock stepped
      obtain ⟨_, _, _, rfl⟩ := Store.inPool_cases inside
      exact referred held member
  | clear =>
      obtain ⟨_, rfl⟩ := Store.step_clear stepped
      exact absurd (referred held member) (permitted.2 held member)

theorem StoreRuns.attached (run : StoreRuns destroysUnused s) :
    s.Attached := by
  have idle : StoreRuns stepsIdle s := by
    refine Reaches.weaken run fun _ action permitted => ?_
    cases action with
    | clear => exact permitted.1
    | _ => trivial
  exact (Store.attached_iff (StoreRuns.custody run)).mpr
    (StoreRuns.activeLive idle)

/-! ## There is always a next call -/

/-- None of the calls that are due is enabled. -/
structure Store.Halted (s : Store) (met : Circumstances)
    (maxPoolSockets : Nat) : Prop where
  references : ∀ held ∈ s.references,
    s.step (.get held.session maxPoolSockets) = none
  sessions : ∀ pool sid action,
    ((s.pools pool).sessions sid).phase.call sid met = some action →
      s.step (.session action) = none
  lock : s.step .forceLock = none
  turn : s.step (.forceNext met.poolSockets met.commit) = none
  unlock : s.step .forceUnlock = none

/-- Every statement has ended, in every pool, and no call of the store is
under way. -/
structure Store.Drained (s : Store) : Prop where
  unlocked : s.committing = none
  references : s.references = []
  pools : ∀ pool, (s.pools pool).Drained

/-- While the mutex is free a statement can begin, if only to fail. -/
theorem System.get_isSome {system : System}
    (idle : (system.sessions sid).phase = .idle)
    (unlocked : system.forcing = none) (uri : Uri) (maxPoolSockets : Nat) :
    (system.step (.get sid uri maxPoolSockets)).isSome := by
  simp only [step, get, idle, locked, unlocked, if_pos]
  split <;> rfl

theorem Store.inPool_isSome (action : Action) (live : s.Live pool)
    (enabled : ((s.pools pool).step action).isSome) :
    (s.inPool pool action).isSome := by
  simpa [inPool, live] using enabled

omit [QueryDecoding] [PassHash] [FrameBytes] in
theorem Phase.statement_of_call {phase : Phase} {met : Circumstances}
    {action : Action} (isCall : phase.call sid met = some action) :
    action.statement = some sid := by
  cases phase <;> cases isCall <;> rfl

/-- Where no call is enabled, `store::commit` is not under way. -/
theorem Store.Halted.unlocked {met : Circumstances} {maxPoolSockets : Nat}
    (halted : s.Halted met maxPoolSockets) (attended : Attended s)
    (custody : ∀ pool, Custody (s.pools pool))
    (queue : ∀ pool, Queue (s.pools pool)) : s.committing = none := by
  by_contra locked
  obtain ⟨pool, isPool⟩ := Option.ne_none_iff_exists'.mp locked
  have live := attended.committing pool isPool
  cases forced : (s.pools pool).forcing with
  | none =>
      have enabled := Store.inPool_isSome .forceLock live
        (by simp [System.step, System.forceLock, System.locked, forced])
      have stuck := halted.lock
      simp only [Store.step, Store.force, isPool] at stuck
      simp [stuck] at enabled
  | some forcing =>
      rcases System.force_goes_on (custody pool) (queue pool) forced
        met.poolSockets met.commit with turns | returns
      · have enabled := Store.inPool_isSome _ live turns
        have stuck := halted.turn
        simp only [Store.step, Store.force, isPool] at stuck
        simp [stuck] at enabled
      · have enabled := Store.inPool_isSome _ live returns
        have stuck := halted.unlock
        simp only [Store.step, Store.force, isPool, Option.map_eq_none_iff]
          at stuck
        simp [stuck] at enabled

/-- Nothing deadlocks: where no call is enabled, none is due. -/
theorem Store.Halted.drained {met : Circumstances} {maxPoolSockets : Nat}
    (halted : s.Halted met maxPoolSockets)
    (run : StoreRuns destroysUnused s) : s.Drained := by
  have attended := StoreRuns.attended run
  have custody := StoreRuns.custody run
  have queue := StoreRuns.queue run
  have unlocked := halted.unlocked attended custody queue
  have free : ∀ pool, (s.pools pool).forcing = none := by
    intro pool
    by_contra forcing
    simp [attended.mutex pool forcing] at unlocked
  have references : s.references = [] := by
    rw [List.eq_nil_iff_forall_not_mem]
    intro held member
    have stuck := halted.references held member
    have isSome : (s.references.find? fun other =>
        other.session = held.session).isSome :=
      List.find?_isSome.mpr ⟨held, member, by simp⟩
    obtain ⟨first, found⟩ := Option.isSome_iff_exists.mp isSome
    have isFirst := List.mem_of_find?_eq_some found
    have same : first.session = held.session := by
      simpa using List.find?_some found
    have idle := (attended.references first isFirst).2
    have enabled := Store.inPool_isSome
      (.get held.session first.uri maxPoolSockets)
      (StoreRuns.referred run first isFirst)
      (System.get_isSome (same ▸ idle) (free first.pool) _ _)
    simp only [Store.step, Store.get, found, Option.map_eq_none_iff] at stuck
    simp [stuck] at enabled
  refine ⟨unlocked, references, fun pool => ?_⟩
  have ended : ∀ sid, ¬ ((s.pools pool).sessions sid).live := by
    intro sid live
    obtain ⟨action, isCall, enabled⟩ :=
      System.goes_on (custody pool) (free pool) live met
    have held : ((s.pools pool).sessions sid).held ≠ [] :=
      List.ne_nil_of_mem (Session.own_mem_held live.1 live.2)
    have enabled := Store.inPool_isSome _
      ((StoreRuns.attached run).sessions pool sid held) enabled
    have stuck := halted.sessions pool sid action isCall
    simp only [Store.step, Store.session, Phase.statement_of_call isCall,
      Option.bind_some, attended.homes pool sid live.1] at stuck
    simp [stuck] at enabled
  have empty := store_empty (custody pool) (queue pool) (free pool) ended
  exact ⟨free pool, ended, empty, active_empty (custody pool) empty ended⟩

omit [QueryDecoding] [PassHash] [FrameBytes] in
/-- Then every pool can be erased. -/
theorem Store.Drained.erases (drained : s.Drained) {name : String}
    (found : s.find name = some pool) : ∃ empty, s.erase name = .ok empty := by
  simp [erase, found, (drained.pools pool).active]

/-! ## The calls that are left -/

/-- What the statements of all pools and the calls of `force_commit` still
take, with the statements that are about to begin. -/
def Store.left (s : Store) : Nat :=
  ((List.range s.nextPool).map fun pool => (s.pools pool).left).sum +
    9 * s.references.length

/-- `store::commit` has its pool and waits for the mutex of that. -/
def Store.waits (s : Store) : Bool :=
  match s.committing with
  | some pool => (s.pools pool).forcing.isNone
  | none => false

/-- How many calls are left.  When `force_commit` begins it is to pass every
transaction that is in the store by then; there are no more of these than
there are calls left. -/
def Store.due (s : Store) : Nat :=
  if s.waits then 2 * s.left + 2 else s.left

/-- The steps that finish what is under way. -/
def storeWorking (_ : Store) : StoreAction → Prop
  | .get _ _ | .forceLock | .forceNext _ _ | .forceUnlock => True
  | .session action => action.works
  | .select _ _ _ _ | .erase _ | .findCommit _ | .clear => False

instance (s : Store) (action : StoreAction) :
    Decidable (storeWorking s action) :=
  match action with
  | .get _ _ | .forceLock | .forceNext _ _ | .forceUnlock => .isTrue trivial
  | .session action => inferInstanceAs (Decidable (action.works = true))
  | .select _ _ _ _ | .erase _ | .findCommit _ | .clear => .isFalse id

theorem StoreRuns.listed (run : StoreRuns allowed s) (pool : PoolId) :
    Listed (s.pools pool) := by
  obtain ⟨_, inside⟩ := StoreRuns.inside run pool
  exact Runs.listed inside

omit [QueryDecoding] [PassHash] [FrameBytes] in
/-- The other pools have left what they had. -/
theorem Store.left_setPool (system : System) (known : pool < s.nextPool) :
    (s.setPool pool system).left + (s.pools pool).left =
      s.left + system.left := by
  have distinct : @List.Nodup PoolId (List.range s.nextPool) :=
    List.nodup_range
  have sum := sum_update distinct (List.mem_range.mpr known) System.left
    s.pools system
  simp only [left, setPool_nextPool, setPool_pools, setPool_references]
  omega

omit [QueryDecoding] [PassHash] [FrameBytes] in
theorem Store.waits_congr {system : System} {references : List Reference}
    (forcing : system.forcing = (s.pools pool).forcing) :
    ({ s.setPool pool system with references := references } :
      Store).waits = s.waits := by
  simp only [waits, setPool_committing, setPool_pools]
  split
  · next other _ =>
      by_cases same : other = pool
      · subst same
        rw [Function.update_self, forcing]
      · rw [Function.update_of_ne same]
  · rfl

omit [QueryDecoding] [PassHash] [FrameBytes] in
theorem Store.due_lt (waits : after.waits = s.waits)
    (left : after.left + 1 ≤ s.left) : after.due + 1 ≤ s.due := by
  unfold due
  rw [waits]
  split <;> omega

omit [QueryDecoding] [PassHash] [FrameBytes] in
theorem Store.due_of_waits (waits : s.waits = true) :
    s.due = 2 * s.left + 2 := if_pos waits

omit [QueryDecoding] [PassHash] [FrameBytes] in
theorem Store.due_of_locked (locked : s.waits = false) : s.due = s.left :=
  if_neg (by simp [locked])

omit [QueryDecoding] [PassHash] [FrameBytes] in
theorem Store.left_pool_le (known : pool < s.nextPool) :
    (s.pools pool).left ≤ s.left := by
  have emptied := Store.left_setPool {} known
  have nothing : ({} : System).left = 0 := rfl
  omega

omit [QueryDecoding] [PassHash] [FrameBytes] in
/-- `force_commit` begins with the turns for what is in the store. -/
theorem System.left_forceLock {system : System}
    (unlocked : system.forcing = none) :
    ({ system with forcing := some {} } : System).left ≤
      2 * system.left + 1 := by
  have statements : ({ system with forcing := some {} } : System).statements =
      system.statements := rfl
  simp only [left, forcingLeft, unlocked, statements]
  omega

omit [QueryDecoding] [PassHash] in
theorem System.forceNext_forcing {system next : System} {poolSockets : Nat}
    {turns : CommitTurns}
    (stepped : system.forceNext poolSockets turns = some next) :
    system.forcing.isNone = false ∧ next.forcing.isNone = false := by
  obtain ⟨_, _, forced, _, ⟨_, rfl⟩ | ⟨_, _, _, _, rfl⟩⟩ :=
    System.forceNext_cases stepped <;>
    simp [forced]

/-- Every working step is paid for by what is left. -/
theorem Store.due_step (run : StoreRuns allowed s) {action : StoreAction}
    (working : storeWorking s action) (stepped : s.step action = some after) :
    after.due + 1 ≤ s.due := by
  have listed := StoreRuns.listed run
  have known : ∀ {pool}, s.Live pool → pool < s.nextPool := by
    intro pool live
    obtain ⟨entry, member, rfl⟩ := List.mem_map.mp live
    exact ((StoreRuns.anyNamed run).entries entry member).1
  cases action with
  | select | erase | findCommit | clear => cases working
  | get sid maxPoolSockets =>
      obtain ⟨held, member, isOwn, _, inside, rfl⟩ := Store.get_cases stepped
      obtain ⟨live, system, moved, rfl⟩ := Store.inPool_cases inside
      have paid := System.left_le (listed held.pool) moved (by simp)
      have others := Store.left_setPool system (known live)
      have fewer : (s.references.filter fun other =>
          other.session ≠ sid).length < s.references.length :=
        List.length_filter_lt_length_iff_exists.mpr
          ⟨held, member, by simpa using isOwn⟩
      refine Store.due_lt (Store.waits_congr
        (System.forcing_session (by simp [Action.thread]) moved)) ?_
      simp only [Store.left, Action.brings, Store.setPool_nextPool,
        Store.setPool_pools, Store.setPool_references] at paid others ⊢
      omega
  | session action =>
      obtain ⟨sid, pool, isOwn, _, inside⟩ := Store.session_cases stepped
      obtain ⟨live, system, moved, rfl⟩ := Store.inPool_cases inside
      obtain ⟨isThread, _⟩ := Action.thread_of_statement isOwn
      have paid := System.left_le (listed pool) moved (by
        rintro rfl
        cases isOwn)
      have brought : action.brings = 0 := by
        cases action <;> first | rfl | cases working
      have others := Store.left_setPool system (known live)
      refine Store.due_lt (Store.waits_congr
        (System.forcing_session (by simp [isThread]) moved)) ?_
      omega
  | forceLock =>
      obtain ⟨pool, isPool, inside⟩ := Store.force_cases stepped
      obtain ⟨live, system, moved, rfl⟩ := Store.inPool_cases inside
      obtain ⟨free, isLocked⟩ := System.forceLock_cases moved
      have longer := System.left_forceLock free
      rw [← isLocked] at longer
      have others := Store.left_setPool system (known live)
      have part := Store.left_pool_le (known live)
      have locked : (s.setPool pool system).waits = false := by
        simp [Store.waits, isPool, isLocked]
      rw [Store.due_of_locked locked,
        Store.due_of_waits (s := s) (by simp [Store.waits, isPool, free])]
      omega
  | forceNext poolSockets turns =>
      obtain ⟨pool, isPool, inside⟩ := Store.force_cases stepped
      obtain ⟨live, system, moved, rfl⟩ := Store.inPool_cases inside
      have paid := System.left_le (listed pool) moved (by simp)
      have others := Store.left_setPool system (known live)
      obtain ⟨was, still⟩ := System.forceNext_forcing moved
      have same : (s.setPool pool system).waits = s.waits := by
        simp [Store.waits, isPool, was, still]
      have brought : (Action.forceNext poolSockets turns).brings = 0 := rfl
      refine Store.due_lt same ?_
      omega
  | forceUnlock =>
      obtain ⟨pool, isPool, _, inside, rfl⟩ := Store.step_forceUnlock stepped
      obtain ⟨live, system, moved, rfl⟩ := Store.inPool_cases inside
      have paid := System.left_le (listed pool) moved (by simp)
      have others := Store.left_setPool system (known live)
      obtain ⟨forcing, forced, _⟩ := System.forceUnlock_cases moved
      have released : ({ s.setPool pool system with committing := none } :
          Store).waits = false := rfl
      rw [Store.due_of_locked released,
        Store.due_of_locked (s := s) (by simp [Store.waits, isPool, forced])]
      have brought : Action.forceUnlock.brings = 0 := rfl
      change (s.setPool pool system).left + 1 ≤ s.left
      omega

/-! ## Whole runs -/

omit [QueryDecoding] [PassHash] [FrameBytes] in
theorem destroysUnused_of_working {action : StoreAction}
    (working : storeWorking s action) : destroysUnused s action := by
  cases action with
  | erase | clear => cases working
  | _ => trivial

end Steps

section Executed

open scoped Sample

/-- The same in the store, with the pool that is chosen for a statement. -/
def inStore : Action → List StoreAction
  | .get sid uri maxPoolSockets =>
      [.select sid uri 16 (toString sid), .get sid maxPoolSockets]
  | action => [.session action]

/-- A call of `store::commit` has its pool, where one transaction is open and
one is ready; a third statement has just been given another pool. -/
def committingOne : List StoreAction :=
  deferring.flatMap inStore ++
    [.select 3 { Sample.uri "" with fragment := "/queue/b" } 16 "3",
      .findCommit (endpoint (Sample.uri "transaction=true"))]

/-- The statements of both pools go on until the call gets the mutex. -/
def finishingAll : List StoreAction :=
  [.get 3 8, .session (.deinit 1), .forceLock, .session (.connect 3
      Sample.connects), .forceNext 8 {}, .session (.deinit 3),
    .forceNext 8 (Sample.confirmed 0), .session (.commit 3 false 100),
    .forceUnlock, .session (.release 3 100 8),
    .session (.commit 1 false 100),
    .session (.commitTransaction 1 (Sample.confirmed 0)),
    .session (.release 1 100 8)]

end Executed

end Capstomp
