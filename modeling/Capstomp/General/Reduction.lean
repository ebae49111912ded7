import Capstomp.General.Script

/-!
# Steps that move

Threads take the steps of a system.  Some steps are movers: after a step of
another thread they could as well have been taken before it.  Then every run
is one in which each mover directly follows a step of its own thread, up to
states that are alike.
-/

namespace Capstomp.General

variable {State Action Thread : Type*}
variable {step : State → Action → Option State} {start state : State}
variable {thread : Action → Thread} {mover : State → Action → Prop}
variable {alike : State → State → Prop}
variable {actions : List Action} {action : Action}

/-- What makes steps movers, up to `alike`, in the runs from `start`. -/
structure Movable (step : State → Action → Option State) (start : State)
    (thread : Action → Thread) (mover : State → Action → Prop)
    (alike : State → State → Prop) : Prop where
  refl : ∀ s, alike s s
  trans : ∀ {s t u}, alike s t → alike t u → alike s u
  repeats : ∀ {s t s' action}, Reaches step anything start s → alike s t →
    step s action = some s' → ∃ t', step t action = some t' ∧ alike s' t'
  mover_alike : ∀ {s t action}, alike s t →
    (mover s action ↔ mover t action)
  moves : ∀ {s s₁ s₂ first second}, Reaches step anything start s →
    step s first = some s₁ → step s₁ second = some s₂ →
    mover s₁ second → thread first ≠ thread second →
    ∃ t₁ t₂, step s second = some t₁ ∧ step t₁ first = some t₂ ∧
      alike s₂ t₂ ∧ mover s second ∧ (mover t₁ first ↔ mover s first)
  opened : ∀ {s s' actions action},
    Plays step anything start actions s → step s action = some s' →
    mover s action → ∃ earlier ∈ actions, thread earlier = thread action

/-- A run in which every mover follows a step of its own thread. -/
inductive Gathered (step : State → Action → Option State) (start : State)
    (thread : Action → Thread) (mover : State → Action → Prop) :
    List Action → State → Prop
  | nil : Gathered step start thread mover [] start
  | snoc {actions : List Action} {action : Action} {before after : State}
      (gathered : Gathered step start thread mover actions before)
      (follows : mover before action →
        actions.getLast?.map thread = some (thread action))
      (stepped : step before action = some after) :
      Gathered step start thread mover (actions ++ [action]) after

theorem Gathered.plays
    (gathered : Gathered step start thread mover actions state) :
    Plays step anything start actions state := by
  induction gathered with
  | nil => exact .nil
  | snoc _ _ stepped induction => exact induction.snoc trivial stepped

/-- What is kept of a list keeps its order when a mover moves. -/
def Ordered (thread : Action → Thread) (mover : State → Action → Prop)
    (kept : Action → Bool) : Prop :=
  ∀ state first second, mover state second → kept first → kept second →
    thread first = thread second

theorem ordered_thread [DecidableEq Thread] (own : Thread) :
    Ordered thread mover fun action => decide (thread action = own) := by
  intro _ first second _ one two
  simp only [decide_eq_true_eq] at one two
  rw [one, two]

/-- The mover takes its place behind the last step of its thread. -/
theorem Gathered.insert
    (movable : Movable step start thread mover alike)
    (gathered : Gathered step start thread mover actions state)
    {after : State} (stepped : step state action = some after)
    (moving : mover state action)
    (opened : ∃ earlier ∈ actions, thread earlier = thread action) :
    ∃ reordered final, Gathered step start thread mover reordered final ∧
      alike after final ∧
      reordered.getLast?.map thread = actions.getLast?.map thread ∧
      ∀ kept, Ordered thread mover kept →
        reordered.filter kept = (actions ++ [action]).filter kept := by
  induction gathered generalizing after with
  | nil =>
      obtain ⟨_, member, _⟩ := opened
      cases member
  | @snoc actions last before state gathered follows steppedLast induction =>
      by_cases same : thread last = thread action
      · refine ⟨actions ++ [last] ++ [action], after, ?_, movable.refl after,
          by simp [same], fun _ _ => rfl⟩
        exact (gathered.snoc follows steppedLast).snoc
          (fun _ => by simp [same]) stepped
      · obtain ⟨middle, final, moved, steppedThen, alikeFinal, movingThere,
          sameMover⟩ := movable.moves gathered.plays.reaches steppedLast
            stepped moving same
        have openedThere : ∃ earlier ∈ actions,
            thread earlier = thread action := by
          obtain ⟨earlier, member, isOwn⟩ := opened
          rw [List.mem_append, List.mem_singleton] at member
          rcases member with inside | rfl
          · exact ⟨earlier, inside, isOwn⟩
          · exact absurd isOwn same
        obtain ⟨reordered, end', gatheredEnd, alikeMiddle, lastSame, filters⟩ :=
          induction moved movingThere openedThere
        obtain ⟨final', steppedLast', alikeFinal'⟩ :=
          movable.repeats (gathered.plays.reaches.next trivial moved)
            alikeMiddle steppedThen
        refine ⟨reordered ++ [last], final', ?_,
          movable.trans alikeFinal alikeFinal', by simp, ?_⟩
        · refine gatheredEnd.snoc (fun movingLast => ?_) steppedLast'
          rw [lastSame]
          exact follows (sameMover.mp
            ((movable.mover_alike alikeMiddle).mpr movingLast))
        · intro kept ordered
          have exchanged : [action].filter kept ++ [last].filter kept =
              [last].filter kept ++ [action].filter kept := by
            by_cases keepsLast : kept last
            · have leaves : kept action = false := by
                rw [Bool.eq_false_iff]
                exact fun keeps => same
                  (ordered state last action moving keepsLast keeps)
              simp [leaves]
            · simp [keepsLast]
          rw [List.filter_append, filters kept ordered]
          simp only [List.filter_append, List.append_assoc]
          rw [exchanged]

/-- Every run is gathered, up to the order in which the threads take turns. -/
theorem Plays.gathers (movable : Movable step start thread mover alike)
    (played : Plays step anything start actions state) :
    ∃ reordered final, Gathered step start thread mover reordered final ∧
      alike state final ∧
      ∀ kept, Ordered thread mover kept →
        reordered.filter kept = actions.filter kept := by
  induction played with
  | nil => exact ⟨[], start, .nil, movable.refl start, fun _ _ => rfl⟩
  | @snoc actions action before after played permitted stepped induction =>
      obtain ⟨reordered, final, gathered, isAlike, filters⟩ := induction
      obtain ⟨final', stepped', alike'⟩ :=
        movable.repeats played.reaches isAlike stepped
      by_cases moving : mover final action
      · obtain ⟨inserted, end', gatheredEnd, alikeEnd, _, filtersEnd⟩ :=
          gathered.insert movable stepped' moving
            (movable.opened gathered.plays stepped' moving)
        refine ⟨inserted, end', gatheredEnd, movable.trans alike' alikeEnd, ?_⟩
        intro kept ordered
        rw [filtersEnd kept ordered, List.filter_append, filters kept ordered,
          List.filter_append]
      · refine ⟨reordered ++ [action], final',
          gathered.snoc (fun isMover => absurd isMover moving) stepped',
          alike', ?_⟩
        intro kept ordered
        rw [List.filter_append, filters kept ordered, List.filter_append]

end Capstomp.General
