import Capstomp.LoggedOn
import Capstomp.Store

/-!
# The reachable states of the store

What each step of the store can do, and the invariant that ties the names in
`store_` to the pools: a pool is a run of its own, begun with URIs of the
endpoint that the pool is named after.
-/

namespace Capstomp

open General

namespace Store

variable {s after : Store} {sid : SessionId} {pool : PoolId} {name : String}

theorem locked_eq_some_iff {section' : Store → Option Store} :
    s.locked section' = some after ↔
      s.committing = none ∧ section' s = some after := by
  unfold locked
  split <;> simp_all

theorem mem_of_find (found : s.find name = some pool) :
    (name, pool) ∈ s.store := by
  obtain ⟨entry, isFirst, rfl⟩ := Option.map_eq_some_iff.mp found
  have named := List.find?_some isFirst
  simp only [decide_eq_true_eq] at named
  subst named
  exact List.mem_of_find?_eq_some isFirst

theorem notMem_of_find (absent : s.find name = none) :
    name ∉ s.store.map Prod.fst := by
  intro member
  obtain ⟨entry, member, named⟩ := List.mem_map.mp member
  have none := Option.map_eq_none_iff.mp absent
  simpa [named] using List.find?_eq_none.mp none entry member

/-- A pool that was there, or a new one. -/
theorem selectPool_cases {maxPoolCount : Nat} {address : String} {u : Uri}
    (selected : s.selectPool maxPoolCount address u = .ok (pool, after)) :
    (s.find (endpoint u) = some pool ∧ after = s) ∨
      (s.find (endpoint u) = none ∧ pool = s.nextPool ∧
        after = s.emplace (endpoint u) address) := by
  unfold selectPool at selected
  split at selected
  · next found =>
      cases selected
      exact .inl ⟨found, rfl⟩
  · next absent =>
      split at selected
      · cases selected
      · cases selected
        exact .inr ⟨absent, rfl, rfl⟩

theorem select_cases {maxPoolCount : Nat} {address : String} {u : Uri}
    (stepped : s.select sid u maxPoolCount address = some after) :
    s.homes sid = none ∧ s.committing = none ∧
      (after = s ∨ ∃ pool between,
        s.selectPool maxPoolCount address u = .ok (pool, between) ∧
          after = between.refer sid u pool) := by
  unfold select at stepped
  split at stepped
  · next homeless =>
      rw [locked_eq_some_iff] at stepped
      obtain ⟨unlocked, stepped⟩ := stepped
      refine ⟨homeless, unlocked, ?_⟩
      split at stepped
      · cases stepped
        exact .inl rfl
      · next pool between selected =>
          cases stepped
          exact .inr ⟨pool, between, selected, rfl⟩
  · cases stepped

/-- What `erase` makes of the store. -/
theorem erase_cases (erased : s.erase name = .ok after) :
    ∃ pool, s.find name = some pool ∧ (s.pools pool).pool.active = [] ∧
      after = { s with
        store := s.store.filter fun entry => entry.1 ≠ name
        erased := s.erased ++ [s.removal pool] } := by
  unfold erase at erased
  split at erased
  · cases erased
  · next pool found =>
      dsimp only at erased
      split at erased
      · cases erased
      · next idle =>
          cases erased
          exact ⟨pool, found, List.length_eq_zero_iff.mp (by omega), rfl⟩

theorem findCommit_cases (stepped : s.findCommit name = some after) :
    s.committing = none ∧ (after = s ∨ ∃ pool, s.find name = some pool ∧
      after = { s with committing := some pool }) := by
  unfold findCommit at stepped
  rw [locked_eq_some_iff] at stepped
  obtain ⟨unlocked, stepped⟩ := stepped
  refine ⟨unlocked, ?_⟩
  split at stepped
  · cases stepped
    exact .inl rfl
  · next pool found =>
      cases stepped
      exact .inr ⟨pool, found, rfl⟩

section Steps

variable [QueryDecoding] [PassHash] [FrameBytes]

theorem inPool_cases {action : Action}
    (stepped : s.inPool pool action = some after) :
    s.Live pool ∧ ∃ system, (s.pools pool).step action = some system ∧
      after = s.setPool pool system := by
  unfold inPool at stepped
  split at stepped
  · next live =>
      obtain ⟨system, moved, rfl⟩ := Option.map_eq_some_iff.mp stepped
      exact ⟨live, system, moved, rfl⟩
  · cases stepped

theorem get_cases {maxPoolSockets : Nat}
    (stepped : s.get sid maxPoolSockets = some after) :
    ∃ held ∈ s.references, held.session = sid ∧ ∃ between,
      s.inPool held.pool (.get sid held.uri maxPoolSockets) = some between ∧
        after = { between with
          references := between.references.filter fun other =>
            other.session ≠ sid } := by
  unfold get at stepped
  split at stepped
  · cases stepped
  · next held found =>
      obtain ⟨between, moved, rfl⟩ := Option.map_eq_some_iff.mp stepped
      have isOwn := List.find?_some found
      simp only [decide_eq_true_eq] at isOwn
      exact ⟨held, List.mem_of_find?_eq_some found, isOwn, between, moved,
        rfl⟩

theorem session_cases {action : Action}
    (stepped : s.session action = some after) :
    ∃ sid pool, action.statement = some sid ∧ s.homes sid = some pool ∧
      s.inPool pool action = some after := by
  unfold session at stepped
  split at stepped
  · cases stepped
  · next pool found =>
      obtain ⟨sid, isOwn, home⟩ := Option.bind_eq_some_iff.mp found
      exact ⟨sid, pool, isOwn, home, stepped⟩

theorem force_cases {action : Action}
    (stepped : s.force action = some after) :
    ∃ pool, s.committing = some pool ∧ s.inPool pool action = some after := by
  unfold force at stepped
  split at stepped
  · cases stepped
  · next pool committing => exact ⟨pool, committing, stepped⟩

theorem step_erase (stepped : s.step (.erase name) = some after) :
    s.committing = none ∧ (after = s ∨ s.erase name = .ok after) := by
  simp only [step, locked_eq_some_iff] at stepped
  obtain ⟨unlocked, stepped⟩ := stepped
  refine ⟨unlocked, ?_⟩
  split at stepped
  · cases stepped
    exact .inl rfl
  · next erased =>
      cases stepped
      exact .inr erased

theorem step_forceUnlock (stepped : s.step .forceUnlock = some after) :
    ∃ pool, s.committing = some pool ∧ ∃ between,
      s.inPool pool .forceUnlock = some between ∧
        after = { between with committing := none } := by
  obtain ⟨between, forced, rfl⟩ := Option.map_eq_some_iff.mp stepped
  obtain ⟨pool, committing, moved⟩ := force_cases forced
  exact ⟨pool, committing, between, moved, rfl⟩

theorem step_clear (stepped : s.step .clear = some after) :
    s.committing = none ∧ after = s.clear := by
  simp only [step, locked_eq_some_iff, Option.some.injEq] at stepped
  exact ⟨stepped.1, stepped.2.symm⟩

/-- What a step makes of `store_`, of the pools and of the record of erased
ones.  References and the mutex of the store are left out. -/
inductive Changes (s after : Store) : StoreAction → Prop where
  | kept (action : StoreAction) (store : after.store = s.store)
      (pools : after.pools = s.pools) (erased : after.erased = s.erased) :
      Changes s after action
  | created {sid : SessionId} {u : Uri} {maxPoolCount : Nat}
      {address : String} (absent : s.find (endpoint u) = none)
      (room : s.store.length ≤ maxPoolCount)
      (same : after =
        (s.emplace (endpoint u) address).refer sid u s.nextPool) :
      Changes s after (.select sid u maxPoolCount address)
  | inside (action : StoreAction) {pool : PoolId} {inner : Action}
      {system : System} (live : s.Live pool)
      (moved : (s.pools pool).step inner = some system)
      (store : after.store = s.store)
      (pools : after.pools = Function.update s.pools pool system)
      (erased : after.erased = s.erased) : Changes s after action
  | erased {name : String} {pool : PoolId} (found : s.find name = some pool)
      (idle : (s.pools pool).pool.active = [])
      (same : after = { s with
        store := s.store.filter fun entry => entry.1 ≠ name
        erased := s.erased ++ [s.removal pool] }) :
      Changes s after (.erase name)
  | cleared (same : after = s.clear) : Changes s after .clear

theorem Changes.inPool {action : StoreAction} {inner : Action}
    {between : Store} (stepped : s.inPool pool inner = some between)
    (store : after.store = between.store) (pools : after.pools = between.pools)
    (erased : after.erased = between.erased) : Changes s after action := by
  obtain ⟨live, system, moved, rfl⟩ := inPool_cases stepped
  exact .inside action live moved store pools erased

theorem select_changes {u : Uri} {maxPoolCount : Nat} {address : String}
    (stepped : s.select sid u maxPoolCount address = some after) :
    Changes s after (.select sid u maxPoolCount address) := by
  obtain ⟨_, _, rfl | ⟨pool, between, selected, rfl⟩⟩ := select_cases stepped
  · exact .kept _ rfl rfl rfl
  · rcases selectPool_cases selected with ⟨_, rfl⟩ | ⟨absent, rfl, rfl⟩
    · exact .kept _ rfl rfl rfl
    · have room : ¬ maxPoolCount < s.store.length := by
        intro full
        simp [selectPool, absent, full] at selected
      exact .created absent (Nat.not_lt.mp room) rfl

theorem step_changes {action : StoreAction}
    (stepped : s.step action = some after) : Changes s after action := by
  cases action with
  | select sid uri maxPoolCount address => exact select_changes stepped
  | get sid maxPoolSockets =>
      obtain ⟨held, _, _, between, moved, rfl⟩ := get_cases stepped
      exact .inPool moved rfl rfl rfl
  | session action =>
      obtain ⟨sid, pool, _, _, moved⟩ := session_cases stepped
      exact .inPool moved rfl rfl rfl
  | erase name =>
      obtain ⟨_, rfl | erased⟩ := step_erase stepped
      · exact .kept _ rfl rfl rfl
      · obtain ⟨pool, found, idle, same⟩ := erase_cases erased
        exact .erased found idle same
  | findCommit name =>
      obtain ⟨_, rfl | ⟨pool, _, rfl⟩⟩ := findCommit_cases stepped <;>
        exact .kept _ rfl rfl rfl
  | forceLock =>
      obtain ⟨pool, _, moved⟩ := force_cases stepped
      exact .inPool moved rfl rfl rfl
  | forceNext poolSockets turns =>
      obtain ⟨pool, _, moved⟩ := force_cases stepped
      exact .inPool moved rfl rfl rfl
  | forceUnlock =>
      obtain ⟨pool, _, between, moved, rfl⟩ := step_forceUnlock stepped
      exact .inPool moved rfl rfl rfl
  | clear =>
      obtain ⟨_, same⟩ := step_clear stepped
      exact .cleared same

end Steps

end Store

/-! ## Names and pools -/

section Runs

variable [QueryDecoding] [PassHash] [FrameBytes]
variable {allowed : Store → StoreAction → Prop} {meant : Uri → Prop}
variable {s after : Store} {pool : PoolId}

/-- A run of the store, with the sessions of all its pools. -/
abbrev StoreRuns (allowed : Store → StoreAction → Prop) (s : Store) : Prop :=
  Reaches Store.step allowed {} s

/-- Sessions ask for the URIs that are meant. -/
def asksFor (meant : Uri → Prop) (_ : Store) : StoreAction → Prop
  | .select _ uri _ _ => meant uri
  | _ => True

instance [DecidablePred meant] (s : Store) (action : StoreAction) :
    Decidable (asksFor meant s action) :=
  match action with
  | .select _ uri _ _ => inferInstanceAs (Decidable (meant uri))
  | .get _ _ | .session _ | .erase _ | .findCommit _ | .forceLock
  | .forceNext _ _ | .forceUnlock | .clear => .isTrue trivial

/-- The URIs that lead to the pool with this name. -/
def LeadsTo (meant : Uri → Prop) (name : String) (u : Uri) : Prop :=
  endpoint u = name ∧ meant u

structure Named (meant : Uri → Prop) (s : Store) : Prop where
  nodup : (s.store.map Prod.fst).Nodup
  entries : ∀ entry ∈ s.store,
    entry.2 < s.nextPool ∧ s.names entry.2 = entry.1
  references : ∀ held ∈ s.references,
    held.pool < s.nextPool ∧ LeadsTo meant (s.names held.pool) held.uri
  pools : ∀ pool, ∃ address,
    Runs (begunWith (LeadsTo meant (s.names pool))) address (s.pools pool)

omit [QueryDecoding] [PassHash] [FrameBytes] in
theorem begunWith_of_statement {action : Action} {sid : SessionId}
    {system : System} (isOwn : action.statement = some sid) :
    begunWith meant system action := by
  cases action with
  | get sid uri maxPoolSockets => cases isOwn
  | _ => trivial

namespace Named

theorem init : Named meant {} where
  nodup := List.nodup_nil
  entries := by simp
  references := by simp
  pools _ := ⟨"", .refl⟩

/-- Entries and references may go. -/
theorem shrink (named : Named meant s)
    (store : after.store.Sublist s.store)
    (references : after.references ⊆ s.references)
    (pools : after.pools = s.pools) (nextPool : after.nextPool = s.nextPool)
    (names : after.names = s.names) : Named meant after where
  nodup := named.nodup.sublist (store.map Prod.fst)
  entries entry member := by
    rw [nextPool, names]
    exact named.entries entry (store.subset member)
  references held member := by
    rw [nextPool, names]
    exact named.references held (references member)
  pools pool := by
    rw [pools, names]
    exact named.pools pool

theorem inPool (named : Named meant s) {action : Action}
    (stepped : s.inPool pool action = some after)
    (permitted : begunWith (LeadsTo meant (s.names pool)) (s.pools pool)
      action) : Named meant after := by
  obtain ⟨live, system, moved, rfl⟩ := Store.inPool_cases stepped
  refine ⟨named.nodup, named.entries, named.references, ?_⟩
  intro other
  obtain ⟨address, run⟩ := named.pools other
  refine ⟨address, ?_⟩
  by_cases same : other = pool
  · subst same
    simp only [Store.setPool_pools, Store.setPool_names, Function.update_self]
    exact run.next permitted moved
  · simp only [Store.setPool_pools, Store.setPool_names,
      Function.update_of_ne same]
    exact run

theorem emplace (named : Named meant s) {name address : String}
    (absent : s.find name = none) :
    Named meant (s.emplace name address) := by
  have others : ∀ other < s.nextPool,
      (s.emplace name address).names other = s.names other :=
    fun other old => Function.update_of_ne (Nat.ne_of_lt old) _ _
  constructor
  case nodup =>
      exact List.nodup_cons.mpr ⟨Store.notMem_of_find absent, named.nodup⟩
  case entries =>
      intro entry member
      rcases List.mem_cons.mp member with rfl | old
      · exact ⟨Nat.lt_succ_self _, Function.update_self _ _ _⟩
      · obtain ⟨known, isName⟩ := named.entries entry old
        rw [others _ known]
        exact ⟨Nat.lt_succ_of_lt known, isName⟩
  case references =>
      intro held member
      obtain ⟨known, leads⟩ := named.references held member
      rw [others _ known]
      exact ⟨Nat.lt_succ_of_lt known, leads⟩
  case pools =>
      intro other
      by_cases same : other = s.nextPool
      · subst same
        refine ⟨address, ?_⟩
        simp only [Store.emplace_pools, Function.update_self]
        exact .refl
      · simp only [Store.emplace_pools, Store.emplace_names,
          Function.update_of_ne same]
        exact named.pools other

theorem refer (named : Named meant s) {sid : SessionId} {u : Uri}
    (known : pool < s.nextPool) (isName : s.names pool = endpoint u)
    (isMeant : meant u) : Named meant (s.refer sid u pool) := by
  refine ⟨named.nodup, named.entries, ?_, named.pools⟩
  intro held member
  rcases List.mem_cons.mp member with rfl | old
  · exact ⟨known, isName.symm, isMeant⟩
  · exact named.references held old

theorem select (named : Named meant s) {sid : SessionId} {u : Uri}
    {maxPoolCount : Nat} {address : String} (isMeant : meant u)
    (stepped : s.select sid u maxPoolCount address = some after) :
    Named meant after := by
  obtain ⟨_, _, rfl | ⟨pool, between, selected, rfl⟩⟩ :=
    Store.select_cases stepped
  · exact named
  · rcases Store.selectPool_cases selected with
      ⟨found, rfl⟩ | ⟨absent, rfl, rfl⟩
    · obtain ⟨known, isName⟩ :=
        named.entries _ (Store.mem_of_find found)
      exact named.refer known isName isMeant
    · exact (named.emplace absent).refer (Nat.lt_succ_self _)
        (Function.update_self _ _ _) isMeant

theorem get (named : Named meant s) {sid : SessionId} {maxPoolSockets : Nat}
    (stepped : s.get sid maxPoolSockets = some after) : Named meant after := by
  obtain ⟨held, member, _, between, moved, rfl⟩ := Store.get_cases stepped
  have permitted := (named.references held member).2
  exact (named.inPool moved permitted).shrink (.refl _)
    (List.filter_subset_self _) rfl rfl rfl

theorem step (named : Named meant s) {action : StoreAction}
    (permitted : asksFor meant s action)
    (stepped : s.step action = some after) : Named meant after := by
  cases action with
  | select sid uri maxPoolCount address => exact named.select permitted stepped
  | get sid maxPoolSockets => exact named.get stepped
  | session action =>
      obtain ⟨sid, pool, isOwn, _, moved⟩ := Store.session_cases stepped
      exact named.inPool moved (begunWith_of_statement isOwn)
  | erase name =>
      obtain ⟨_, rfl | erased⟩ := Store.step_erase stepped
      · exact named
      · obtain ⟨pool, _, _, rfl⟩ := Store.erase_cases erased
        exact named.shrink List.filter_sublist (List.Subset.refl _) rfl rfl rfl
  | findCommit name =>
      obtain ⟨_, rfl | ⟨pool, _, rfl⟩⟩ := Store.findCommit_cases stepped
      · exact named
      · exact named.shrink (.refl _) (List.Subset.refl _) rfl rfl rfl
  | forceLock =>
      obtain ⟨pool, _, moved⟩ := Store.force_cases stepped
      exact named.inPool moved trivial
  | forceNext poolSockets turns =>
      obtain ⟨pool, _, moved⟩ := Store.force_cases stepped
      exact named.inPool moved trivial
  | forceUnlock =>
      obtain ⟨pool, _, between, moved, rfl⟩ := Store.step_forceUnlock stepped
      exact (named.inPool moved trivial).shrink (.refl _)
        (List.Subset.refl _) rfl rfl rfl
  | clear =>
      obtain ⟨_, rfl⟩ := Store.step_clear stepped
      exact named.shrink (List.nil_sublist _) (List.Subset.refl _) rfl rfl rfl

end Named

theorem StoreRuns.named (run : StoreRuns (asksFor meant) s) :
    Named meant s :=
  Reaches.invariant run .init
    fun _ _ _ _ named permitted stepped => named.step permitted stepped

/-- Whatever sessions ask for, the names fit the pools. -/
theorem StoreRuns.anyNamed (run : StoreRuns allowed s) :
    Named (fun _ => True) s := by
  refine StoreRuns.named (Reaches.weaken run fun _ action _ => ?_)
  cases action <;> trivial

/-- A pool is a run of its own. -/
theorem StoreRuns.inside (run : StoreRuns allowed s) (pool : PoolId) :
    ∃ address, Runs anything address (s.pools pool) := by
  obtain ⟨address, run⟩ := (StoreRuns.anyNamed run).pools pool
  exact ⟨address, run.unrestricted⟩

theorem StoreRuns.custody (run : StoreRuns allowed s) (pool : PoolId) :
    Custody (s.pools pool) := by
  obtain ⟨_, run⟩ := StoreRuns.inside run pool
  exact Runs.custody run

end Runs

end Capstomp
