import Capstomp.StoreReachable

/-!
# Pools that are erased

`store::erase` asks a pool for its active connections, under the mutex of the
store.  `store::get` has by then perhaps given that mutex back with a
reference to the pool in hand, and not yet made a connection active.  Apart
from such a reference nothing of a pool that is erased is in use.
-/

namespace Capstomp

open General

/-- Nothing of the pool was in use. -/
def Removal.Unused (removal : Removal) : Prop :=
  removal.references = [] ∧ removal.active = [] ∧ removal.transactions = []

/-- If `erase` finds a pool with no connection in `active_`, no thread is
between the two sections of `store::get` with a reference to it. -/
def erasesUnreferenced (s : Store) : StoreAction → Prop
  | .erase name => ∀ pool ∈ s.find name, (s.pools pool).pool.active = [] →
      ∀ held ∈ s.references, held.pool ≠ pool
  | _ => True

instance (s : Store) (action : StoreAction) :
    Decidable (erasesUnreferenced s action) :=
  match action with
  | .erase name => inferInstanceAs (Decidable (∀ pool ∈ s.find name,
      (s.pools pool).pool.active = [] → ∀ held ∈ s.references,
        held.pool ≠ pool))
  | .select _ _ _ _ | .get _ _ | .session _ | .findCommit _ | .forceLock
  | .forceNext _ _ | .forceUnlock | .clear => .isTrue trivial

section Steps

variable [QueryDecoding] [PassHash] [FrameBytes]
variable {allowed : Store → StoreAction → Prop} {s after : Store}

/-- Only `erase` adds to what is recorded of it. -/
theorem Store.erased_cases {action : StoreAction}
    (stepped : s.step action = some after) :
    after.erased = s.erased ∨ ∃ name pool, action = .erase name ∧
      s.find name = some pool ∧ (s.pools pool).pool.active = [] ∧
      after.erased = s.erased ++ [s.removal pool] := by
  cases Store.step_changes stepped with
  | kept _ _ _ erased => exact .inl erased
  | created _ _ same =>
      subst same
      exact .inl rfl
  | inside _ _ _ _ _ erased => exact .inl erased
  | erased found idle same =>
      subst same
      exact .inr ⟨_, _, rfl, found, idle, rfl⟩
  | cleared same =>
      subst same
      exact .inl rfl

/-- A pool with no active connection is unused exactly when no thread refers
to it. -/
theorem removal_unused_iff (run : StoreRuns allowed s) {pool : PoolId}
    (idle : (s.pools pool).pool.active = []) :
    (s.removal pool).Unused ↔ ∀ held ∈ s.references, held.pool ≠ pool := by
  have empty := ((StoreRuns.custody run pool).idle_iff.mp idle).1
  simp [Removal.Unused, Store.removal, idle, empty]

/-- Whatever `erase` removes is not in use. -/
def RemovesUnused (allowed : Store → StoreAction → Prop) : Prop :=
  ∀ s, StoreRuns allowed s → ∀ removal ∈ s.erased, removal.Unused

/-- No call of `erase` that has the mutex finds a pool idle while a thread
refers to it. -/
def ErasesUnreferenced (allowed : Store → StoreAction → Prop) : Prop :=
  ∀ s, StoreRuns allowed s → s.committing = none → ∀ action,
    allowed s action → erasesUnreferenced s action

omit [QueryDecoding] [PassHash] [FrameBytes] in
/-- A pool that `erase` finds idle is removed. -/
theorem Store.erase_of_idle {name : String} {pool : PoolId}
    (found : s.find name = some pool)
    (idle : (s.pools pool).pool.active = []) :
    ∃ after, s.erase name = .ok after ∧
      after.erased = s.erased ++ [s.removal pool] := by
  simp [Store.erase, found, idle]

/-- Whatever calls are permitted, the pools removed are unused exactly when
no thread refers to one that `erase` finds idle. -/
theorem erased_unused_iff :
    RemovesUnused allowed ↔ ErasesUnreferenced allowed := by
  constructor
  · intro unused s run unlocked action permitted
    cases action with
    | erase name =>
        intro pool found idle
        obtain ⟨after, erased, longer⟩ := Store.erase_of_idle found idle
        have stepped : s.step (.erase name) = some after := by
          simp [Store.step, Store.locked, unlocked, erased]
        have removed := unused after (run.next permitted stepped)
          (s.removal pool) (by simp [longer])
        exact (removal_unused_iff run idle).mp removed
    | _ => trivial
  · intro unreferenced s run
    apply Reaches.invariant run
    · intro removal member
      cases member
    · intro before action after reached unused permitted stepped removal
        member
      rcases Store.erased_cases stepped with
        same | ⟨name, pool, rfl, found, idle, longer⟩
      · exact unused removal (same ▸ member)
      · rw [longer] at member
        rcases List.mem_append.mp member with old | new
        · exact unused removal old
        · rw [List.mem_singleton.mp new, removal_unused_iff reached idle]
          exact unreferenced before reached (Store.step_erase stepped).1 _
            permitted pool found idle

end Steps

section Executed

open scoped Sample

/-- A pool is not erased while it is in use, though a thread refers to it, and
it is when nobody does. -/
theorem erased_unused_used :
    let s := executed Store.step erasesUnreferenced {}
      [.select 1 (Sample.uri "") 16 "a", .get 1 8,
        .select 2 (Sample.uri "") 16 "a", .erase (endpoint (Sample.uri "")),
        .get 2 8, .session (.connect 1 Sample.connects), .session (.deinit 1),
        .session (.commit 1 false 100), .session (.release 1 100 8),
        .session (.connect 2 Sample.connects), .session (.deinit 2),
        .session (.commit 2 false 100), .session (.release 2 100 8),
        .erase (endpoint (Sample.uri ""))]
    s.erased.map Removal.pool = [0] ∧ ∀ removal ∈ s.erased, removal.Unused := by
  intro s
  have run : StoreRuns erasesUnreferenced s :=
    reaches_executed (by decide +kernel)
  have removes : RemovesUnused erasesUnreferenced :=
    erased_unused_iff.mpr fun _ _ _ _ permitted => permitted
  exact ⟨by decide +kernel, removes s run⟩

/-- A pool is erased between the two sections of `store::get`. -/
theorem erases_referenced :
    ¬ ∀ s, StoreRuns anything s → ∀ removal ∈ s.erased, removal.Unused := by
  intro alwaysUnused
  let s := executed Store.step anything {}
    [.select 1 (Sample.uri "") 16 "a", .erase (endpoint (Sample.uri ""))]
  have referred : s.erased.any fun removal => removal.references ≠ [] := by
    decide +kernel
  obtain ⟨removal, member, referred⟩ := List.any_eq_true.mp referred
  have unused := alwaysUnused s (reaches_executed (by decide +kernel)) removal
    member
  simp [unused.1] at referred

end Executed

end Capstomp
