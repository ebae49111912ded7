import Capstomp.StoreReachable

/-!
# Whole operations of the store

The calls of the store as they are used, each one from its first section to
its last without another step in between, together with the steps of the
sessions.  `erase` leaves a pool alone that has an active connection; `clear`
does not look, and what a session holds of a pool that is cleared has been
destroyed under it.
-/

namespace Capstomp

open General

/-- One call of the store, or one step of a session.  `turns` is what
`force_commit` meets, transaction by transaction. -/
inductive WholeAction where
  | get (session : SessionId) (uri : Uri) (maxPoolCount : Nat)
      (address : String) (maxPoolSockets : Nat)
  | session (action : Action)
  | erase (name : String)
  | commit (name : String) (turns : List (Nat × CommitTurns))
  | clear

namespace Store

section Whole

variable [QueryDecoding] [PassHash] [FrameBytes]

/-- `store::get`; when `select_pool` throws, there is no pool to go on
with. -/
def wholeGet (sid : SessionId) (u : Uri) (maxPoolCount : Nat)
    (address : String) (maxPoolSockets : Nat) (s : Store) : Option Store := do
  let s ← s.step (.select sid u maxPoolCount address)
  if s.homes sid = none then some s else s.step (.get sid maxPoolSockets)

/-- `store::commit`; when there is no such pool, it throws. -/
def wholeCommit (name : String) (turns : List (Nat × CommitTurns))
    (s : Store) : Option Store := do
  let s ← s.step (.findCommit name)
  if s.committing = none then some s
  else
    let s ← s.step .forceLock
    let s ← turns.foldlM
      (fun s turn => s.step (.forceNext turn.1 turn.2)) s
    s.step .forceUnlock

def whole (s : Store) : WholeAction → Option Store
  | .get sid u maxPoolCount address maxPoolSockets =>
      s.wholeGet sid u maxPoolCount address maxPoolSockets
  | .session action => s.step (.session action)
  | .erase name => s.step (.erase name)
  | .commit name turns => s.wholeCommit name turns
  | .clear => s.step .clear

end Whole

/-- No pool in `store_` has an active connection. -/
abbrev Idle (s : Store) : Prop :=
  ∀ entry ∈ s.store, (s.pools entry.2).pool.active = []

/-- What a session holds, and every transaction not yet taken out to be
committed, is in a pool that is still in `store_`. -/
structure Attached (s : Store) : Prop where
  sessions : ∀ pool sid, ((s.pools pool).sessions sid).held ≠ [] →
    s.Live pool
  transactions : ∀ pool, (s.pools pool).pool.transactionStore ≠ [] →
    s.Live pool

/-- A pool with an active connection is in `store_`. -/
def ActiveLive (s : Store) : Prop :=
  ∀ pool, (s.pools pool).pool.active ≠ [] → s.Live pool

theorem attached_iff {s : Store}
    (custody : ∀ pool, Custody (s.pools pool)) :
    s.Attached ↔ s.ActiveLive := by
  constructor
  · intro attached pool active
    by_contra dead
    refine active ((custody pool).idle_iff.mpr ⟨?_, fun sid => ?_⟩)
    · by_contra waiting
      exact dead (attached.transactions pool waiting)
    · by_contra held
      exact dead (attached.sessions pool sid held)
  · intro activeLive
    constructor
    · intro pool sid held
      refine activeLive pool fun idle => held ?_
      exact ((custody pool).idle_iff.mp idle).2 sid
    · intro pool waiting
      refine activeLive pool fun idle => waiting ?_
      exact ((custody pool).idle_iff.mp idle).1

end Store

/-- `clear` is called when no connection is active. -/
def clearsIdle (s : Store) : WholeAction → Prop
  | .clear => s.Idle
  | _ => True

/-- The same of single steps. -/
def stepsIdle (s : Store) : StoreAction → Prop
  | .clear => s.Idle
  | _ => True

instance (s : Store) (action : WholeAction) :
    Decidable (clearsIdle s action) :=
  match action with
  | .clear => inferInstanceAs (Decidable s.Idle)
  | .get _ _ _ _ _ | .session _ | .erase _ | .commit _ _ => .isTrue trivial

section Steps

variable [QueryDecoding] [PassHash] [FrameBytes]
variable {s after : Store}

/-! ## A whole operation is a run of steps -/

theorem reaches_step (action : StoreAction)
    (stepped : s.step action = some after)
    (permitted : stepsIdle s action) :
    Reaches Store.step stepsIdle s after :=
  .next .refl permitted stepped

theorem reaches_forceNext {turns : List (Nat × CommitTurns)}
    (forced : turns.foldlM
      (fun (s : Store) turn => s.step (.forceNext turn.1 turn.2)) s =
        some after) :
    Reaches Store.step stepsIdle s after := by
  induction turns generalizing s with
  | nil =>
      cases forced
      exact .refl
  | cons turn turns induction =>
      rw [List.foldlM_cons] at forced
      obtain ⟨between, moved, forced⟩ := Option.bind_eq_some_iff.mp forced
      exact (reaches_step _ moved trivial).trans (induction forced)

/-- Every whole operation is a run of steps under the same condition. -/
theorem reaches_whole {action : WholeAction} (permitted : clearsIdle s action)
    (stepped : s.whole action = some after) :
    Reaches Store.step stepsIdle s after := by
  cases action with
  | get sid u maxPoolCount address maxPoolSockets =>
      obtain ⟨between, selected, rest⟩ := Option.bind_eq_some_iff.mp stepped
      have first := reaches_step _ selected trivial
      split at rest
      · cases rest
        exact first
      · exact first.trans (reaches_step _ rest trivial)
  | session action => exact reaches_step (.session action) stepped trivial
  | erase name => exact reaches_step (.erase name) stepped trivial
  | commit name turns =>
      obtain ⟨between, found, rest⟩ := Option.bind_eq_some_iff.mp stepped
      have first := reaches_step _ found trivial
      split at rest
      · cases rest
        exact first
      · obtain ⟨locked, forcing, rest⟩ := Option.bind_eq_some_iff.mp rest
        obtain ⟨walked, forced, unlocked⟩ := Option.bind_eq_some_iff.mp rest
        exact first.trans ((reaches_step _ forcing trivial).trans
          ((reaches_forceNext forced).trans (reaches_step _ unlocked trivial)))
  | clear => exact reaches_step .clear stepped permitted

/-! ## What is held stays attached -/

theorem activeLive_step {meant : Uri → Prop} {action : StoreAction}
    (named : Named meant s) (activeLive : s.ActiveLive)
    (permitted : stepsIdle s action) (stepped : s.step action = some after) :
    after.ActiveLive := by
  intro other active
  cases Store.step_changes stepped with
  | kept _ store pools =>
      rw [pools] at active
      simpa only [Store.Live, store] using activeLive other active
  | created _ _ changed =>
      subst changed
      by_cases same : other = s.nextPool
      · subst same
        exact List.mem_cons_self
      · rw [Store.refer_pools, Store.emplace_pools,
          Function.update_of_ne same] at active
        exact List.mem_cons_of_mem _ (activeLive other active)
  | @inside _ pool _ _ live _ store pools =>
      rw [Store.Live, store]
      by_cases same : other = pool
      · exact same ▸ live
      · rw [pools, Function.update_of_ne same] at active
        exact activeLive other active
  | @erased name pool found idle changed =>
      subst changed
      obtain ⟨entry, member, rfl⟩ := List.mem_map.mp (activeLive other active)
      refine List.mem_map_of_mem (List.mem_filter.mpr ⟨member, ?_⟩)
      -- The erased pool is idle, and no other one has its name.
      have different : entry.1 ≠ name := by
        rintro rfl
        have same := List.inj_on_of_nodup_map named.nodup member
          (Store.mem_of_find found) rfl
        rw [same] at active
        exact active idle
      simpa using different
  | cleared changed =>
      subst changed
      obtain ⟨entry, member, rfl⟩ := List.mem_map.mp (activeLive other active)
      exact absurd (permitted entry member) active

theorem StoreRuns.activeLive (run : StoreRuns stepsIdle s) : s.ActiveLive :=
  Reaches.invariant run (fun _ active => absurd rfl active)
    fun _ _ _ reached activeLive permitted stepped =>
      activeLive_step (StoreRuns.anyNamed reached) activeLive permitted
        stepped

omit [QueryDecoding] [PassHash] [FrameBytes] in
/-- Clearing the store keeps what is held attached exactly when no connection
is active. -/
theorem clear_attached_iff (custody : ∀ pool, Custody (s.pools pool))
    (activeLive : s.ActiveLive) : s.clear.Attached ↔ s.Idle := by
  rw [Store.attached_iff (s := s.clear) custody]
  constructor
  · intro cleared entry _
    by_contra active
    cases cleared entry.2 active
  · intro idle pool active
    obtain ⟨entry, member, rfl⟩ := List.mem_map.mp (activeLive pool active)
    exact absurd (idle entry member) active

/-- When `clear` is called only while no connection is active, no operation
takes a pool from what is held of it. -/
theorem nothing_stranded (run : Reaches Store.whole clearsIdle {} s) :
    s.Attached := by
  have steps : StoreRuns stepsIdle s :=
    Reaches.simulate run fun _ _ _ _ permitted stepped =>
      reaches_whole permitted stepped
  exact (Store.attached_iff (StoreRuns.custody steps)).mpr
    (StoreRuns.activeLive steps)

end Steps

section Executed

open scoped Sample

/-- A statement from its beginning to its end, without a transaction. -/
def wholeStatement (sid : SessionId) : List WholeAction :=
  [.get sid (Sample.uri "") 16 "a" 8, .session (.connect sid Sample.connects),
    .session (.deinit sid), .session (.commit sid false 100),
    .session (.release sid 100 8)]

/-- The store is cleared between two statements, and a third one begins. -/
theorem nothing_stranded_cleared :
    let s := executed Store.whole clearsIdle {}
      (wholeStatement 1 ++ [.clear] ++ wholeStatement 2 ++
        [.get 3 (Sample.uri "") 16 "b" 8])
    (s.pools 1).pool.active = [0] ∧ s.Attached :=
  ⟨by decide +kernel, nothing_stranded (reaches_executed (by decide +kernel))⟩

/-- The store is cleared while a session has a connection. -/
theorem clear_strands :
    ¬ ∀ s, Reaches Store.whole anything {} s → s.Attached := by
  intro alwaysAttached
  let s := executed Store.whole anything {}
    [.get 1 (Sample.uri "") 16 "a" 8, .clear]
  have attached := alwaysAttached s (reaches_executed (by decide +kernel))
  have live := attached.sessions 0 1 (by decide +kernel)
  have cleared : ¬ s.Live 0 := by decide +kernel
  exact cleared live

end Executed

end Capstomp
