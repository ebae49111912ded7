import Capstomp.StoreReachable

/-!
# The number of pools

`select_pool` counts the pools before the new one is there and refuses it when
there are more than `max_pool_count`, where `pool::get` refuses a connection
when there are as many as its limit.  A full store therefore takes one pool
more, and only then refuses.
-/

namespace Capstomp

open General

namespace Store

/-- The endpoint has no pool yet. -/
def New (u : Uri) (s : Store) : Prop :=
  s.find (endpoint u) = none

/-- `select_pool` throws. -/
def Refuses (maxPoolCount : Nat) (u : Uri) (s : Store) : Prop :=
  ∀ address, s.selectPool maxPoolCount address u =
    .error (.maxPoolCount maxPoolCount)

variable {s after : Store} {maxPoolCount : Nat} {u : Uri}

/-- Only a store with more pools than the limit refuses a new one. -/
theorem refuses_iff :
    s.Refuses maxPoolCount u ↔ s.New u ∧ maxPoolCount < s.store.length := by
  constructor
  · intro refused
    have thrown := refused ""
    unfold selectPool at thrown
    split at thrown
    · cases thrown
    · next absent =>
        split at thrown
        · next full => exact ⟨absent, full⟩
        · cases thrown
  · intro ⟨absent, full⟩ address
    unfold New at absent
    simp [selectPool, absent, full]

section Steps

variable [QueryDecoding] [PassHash] [FrameBytes]

/-- The pools go, or one is created below or at the limit. -/
theorem store_cases {action : StoreAction}
    (stepped : s.step action = some after) :
    after.store.length ≤ s.store.length ∨
      ∃ sid u maxPoolCount address,
        action = .select sid u maxPoolCount address ∧ s.New u ∧
          s.store.length ≤ maxPoolCount ∧
          after.store.length = s.store.length + 1 := by
  cases step_changes stepped with
  | kept _ store => exact .inl (Nat.le_of_eq (congrArg List.length store))
  | created absent room same =>
      subst same
      exact .inr ⟨_, _, _, _, rfl, absent, room, rfl⟩
  | inside _ _ _ store =>
      exact .inl (Nat.le_of_eq (congrArg List.length store))
  | erased _ _ same =>
      subst same
      exact .inl (List.length_filter_le _ _)
  | cleared same =>
      subst same
      exact .inl (Nat.zero_le _)

end Steps

end Store

/-- `max_pool_count` is held fixed. -/
def readsCount (maxPoolCount : Nat) (_ : Store) : StoreAction → Prop
  | .select _ _ limit _ => limit = maxPoolCount
  | _ => True

instance (maxPoolCount : Nat) (s : Store) (action : StoreAction) :
    Decidable (readsCount maxPoolCount s action) :=
  match action with
  | .select _ _ limit _ => inferInstanceAs (Decidable (limit = maxPoolCount))
  | .get _ _ | .session _ | .erase _ | .findCommit _ | .forceLock
  | .forceNext _ _ | .forceUnlock | .clear => .isTrue trivial

section Runs

variable [QueryDecoding] [PassHash] [FrameBytes]
variable {allowed : Store → StoreAction → Prop} {maxPoolCount : Nat}

/-- The limit as it is meant: there are never more pools than
`max_pool_count`, and a new one is refused, which leaves the pools as they
are, exactly when there are that many. -/
def CountLimited (maxPoolCount : Nat)
    (allowed : Store → StoreAction → Prop) : Prop :=
  ∀ s, StoreRuns allowed s →
    s.store.length ≤ maxPoolCount ∧
      ∀ sid u address, allowed s (.select sid u maxPoolCount address) →
        s.New u →
          (s.Refuses maxPoolCount u ↔ s.store.length = maxPoolCount) ∧
            ∀ after,
              s.step (.select sid u maxPoolCount address) = some after →
              s.Refuses maxPoolCount u → after.store = s.store

/-- No `get` asks for a new endpoint while there are as many pools as the
limit. -/
def AsksWithRoom (maxPoolCount : Nat)
    (allowed : Store → StoreAction → Prop) : Prop :=
  ∀ s, StoreRuns allowed s → ∀ sid u address,
    allowed s (.select sid u maxPoolCount address) → s.New u →
      s.store.length ≠ maxPoolCount

/-- What a refused `get` leaves. -/
theorem select_refused {s after : Store} {sid : SessionId} {u : Uri}
    {address : String}
    (stepped : s.step (.select sid u maxPoolCount address) = some after)
    (refused : s.Refuses maxPoolCount u) : after = s := by
  obtain ⟨_, _, same | ⟨_, _, selected, _⟩⟩ := Store.select_cases stepped
  · exact same
  · rw [refused address] at selected
    cases selected

theorem count_step {s after : Store} {action : StoreAction}
    (few : s.store.length ≤ maxPoolCount)
    (reads : readsCount maxPoolCount s action)
    (room : ∀ sid u address, action = .select sid u maxPoolCount address →
      s.New u → s.store.length ≠ maxPoolCount)
    (stepped : s.step action = some after) :
    after.store.length ≤ maxPoolCount := by
  rcases Store.store_cases stepped with
    fewer | ⟨sid, u, limit, address, rfl, isNew, _, more⟩
  · omega
  · have same : limit = maxPoolCount := reads
    subst same
    have notFull := room sid u address rfl isNew
    omega

/-- With a fixed limit the store keeps to it exactly when no new endpoint is
asked for while it is full. -/
theorem count_limited_iff
    (reads : ∀ s action, allowed s action →
      readsCount maxPoolCount s action) :
    CountLimited maxPoolCount allowed ↔
      AsksWithRoom maxPoolCount allowed := by
  constructor
  · intro limited s run sid u address permitted isNew full
    obtain ⟨_, refusals⟩ := limited s run
    have refused := ((refusals sid u address permitted isNew).1).mpr full
    have tooMany := (Store.refuses_iff.mp refused).2
    omega
  · intro room s run
    have few : s.store.length ≤ maxPoolCount := by
      apply Reaches.invariant run
      · exact Nat.zero_le _
      · intro before action after reached few permitted stepped
        apply count_step few (reads _ _ permitted) _ stepped
        intro sid u address isSelect isNew
        subst isSelect
        exact room before reached sid u address permitted isNew
    refine ⟨few, ?_⟩
    intro sid u address permitted isNew
    have notFull := room s run sid u address permitted isNew
    constructor
    · rw [Store.refuses_iff]
      constructor
      · intro ⟨_, tooMany⟩
        omega
      · intro full
        exact absurd full notFull
    · intro after stepped refused
      rw [select_refused stepped refused]

end Runs

section Executed

open scoped Sample

/-- The endpoint of a queue with this number. -/
def numbered (number : Nat) : Uri :=
  { Sample.uri "" with fragment := toString number }

/-- Sessions that ask for so many endpoints. -/
def asks (count : Nat) : List StoreAction :=
  (List.range count).map fun number =>
    .select number (numbered number) 16 "a"

/-- Sessions that stop asking when the store is full. -/
theorem count_limited_below :
    CountLimited 16 fun s action =>
      readsCount 16 s action ∧ s.store.length < 16 := by
  apply (count_limited_iff fun s action permitted => permitted.1).mpr
  intro s _ sid u address permitted _ full
  have room := permitted.2
  omega

/-- Seventeen pools with a limit of sixteen. -/
theorem count_exceeded : ¬ CountLimited 16 (readsCount 16) := by
  intro limited
  let s := executed Store.step (readsCount 16) {} (asks 17)
  have few := (limited s (reaches_executed (by decide +kernel))).1
  have many : s.store.length = 17 := by decide +kernel
  omega

end Executed

end Capstomp
