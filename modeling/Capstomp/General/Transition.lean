import Mathlib.Logic.Relation

/-!
# Runs of a partial step function

A system is given by `step : State → Action → Option State`: an action that is
not enabled has no successor.  `Reaches` collects the runs in which every step
meets a condition on the state before it and on the action taken, so that a
property of all runs and a property of the runs that respect a condition are
stated with the same relation.
-/

namespace Capstomp.General

section Runs

variable {State Action : Type*}
variable {step : State → Action → Option State}
variable {allowed weaker : State → Action → Prop}
variable {start state before after : State}

/-- One enabled step that meets the condition `allowed`. -/
def Moves (step : State → Action → Option State)
    (allowed : State → Action → Prop) (before after : State) : Prop :=
  ∃ action, allowed before action ∧ step before action = some after

/-- Zero or more steps, each of which meets `allowed`. -/
def Reaches (step : State → Action → Option State)
    (allowed : State → Action → Prop) : State → State → Prop :=
  Relation.ReflTransGen (Moves step allowed)

/-- The condition that restricts nothing. -/
def anything : State → Action → Prop := fun _ _ => True

theorem Reaches.refl : Reaches step allowed start start :=
  Relation.ReflTransGen.refl

theorem Reaches.next {action : Action}
    (reached : Reaches step allowed start before)
    (permitted : allowed before action)
    (stepped : step before action = some after) :
    Reaches step allowed start after :=
  Relation.ReflTransGen.tail reached ⟨action, permitted, stepped⟩

theorem Reaches.trans
    (first : Reaches step allowed start before)
    (second : Reaches step allowed before after) :
    Reaches step allowed start after :=
  Relation.ReflTransGen.trans first second

/-- A run under a condition is a run under every weaker one. -/
theorem Reaches.weaken
    (reached : Reaches step allowed start state)
    (implied : ∀ state action, allowed state action → weaker state action) :
    Reaches step weaker start state := by
  refine Relation.ReflTransGen.mono ?_ _ _ reached
  rintro before after ⟨action, permitted, stepped⟩
  exact ⟨action, implied before action permitted, stepped⟩

theorem Reaches.unrestricted
    (reached : Reaches step allowed start state) :
    Reaches step anything start state :=
  reached.weaken fun _ _ _ => trivial

/-- The induction rule of runs.  The step case may use that the state before
the step is itself reached, and through that every invariant already known. -/
theorem Reaches.invariant {Invariant : State → Prop}
    (reached : Reaches step allowed start state)
    (initially : Invariant start)
    (preserved : ∀ before action after,
      Reaches step allowed start before → Invariant before →
      allowed before action → step before action = some after →
      Invariant after) :
    Invariant state := by
  induction reached with
  | refl => exact initially
  | tail reached moved holds =>
      obtain ⟨action, permitted, stepped⟩ := moved
      exact preserved _ action _ reached holds permitted stepped

/-- A step that also checks its condition, to execute runs. -/
def checked (step : State → Action → Option State)
    (allowed : State → Action → Prop)
    [∀ state action, Decidable (allowed state action)]
    (state : State) (action : Action) : Option State :=
  if allowed state action then step state action else none

/-- Executing a list of actions with `checked` exhibits a run. -/
theorem reaches_of_checked
    [∀ state action, Decidable (allowed state action)]
    (actions : List Action)
    (executed : actions.foldlM (checked step allowed) start = some state) :
    Reaches step allowed start state := by
  induction actions generalizing start with
  | nil =>
      simp only [List.foldlM_nil, Option.pure_def, Option.some.injEq] at executed
      subst state
      exact .refl
  | cons action actions induction =>
      simp only [List.foldlM_cons, Option.bind_eq_bind,
        Option.bind_eq_some_iff] at executed
      obtain ⟨middle, stepped, executed⟩ := executed
      unfold checked at stepped
      split at stepped
      · next permitted =>
          exact Reaches.trans (.next .refl permitted stepped)
            (induction executed)
      · cases stepped

/-- The state that a list of actions leads to, if each is enabled and meets
the condition. -/
def execute (step : State → Action → Option State)
    (allowed : State → Action → Prop)
    [∀ state action, Decidable (allowed state action)]
    (start : State) (actions : List Action) : Option State :=
  actions.foldlM (checked step allowed) start

/-- The same, when it is known that they are. -/
def executed (step : State → Action → Option State)
    (allowed : State → Action → Prop)
    [∀ state action, Decidable (allowed state action)]
    (start : State) (actions : List Action) : State :=
  (execute step allowed start actions).getD start

theorem reaches_executed
    [∀ state action, Decidable (allowed state action)]
    {actions : List Action}
    (enabled : (execute step allowed start actions).isSome) :
    Reaches step allowed start (executed step allowed start actions) := by
  obtain ⟨final, played⟩ := Option.isSome_iff_exists.mp enabled
  rw [executed, played]
  exact reaches_of_checked actions played

instance (state : State) (action : Action) :
    Decidable (anything state action) :=
  .isTrue trivial

end Runs

section Simulation

variable {Concrete Abstract ConcreteAction AbstractAction : Type*}
variable {concrete : Concrete → ConcreteAction → Option Concrete}
variable {abstract : Abstract → AbstractAction → Option Abstract}
variable {allowed : Concrete → ConcreteAction → Prop}
variable {permitted : Abstract → AbstractAction → Prop}

/-- Forward simulation: when every concrete step is matched by a run of the
abstract system, so is every concrete run. -/
theorem Reaches.simulate {project : Concrete → Abstract}
    {start state : Concrete}
    (reached : Reaches concrete allowed start state)
    (matched : ∀ before action after,
      Reaches concrete allowed start before → allowed before action →
      concrete before action = some after →
      Reaches abstract permitted (project before) (project after)) :
    Reaches abstract permitted (project start) (project state) := by
  induction reached with
  | refl => exact .refl
  | tail reachedBefore moved simulated =>
      obtain ⟨action, allowedHere, stepped⟩ := moved
      exact simulated.trans
        (matched _ action _ reachedBefore allowedHere stepped)

end Simulation

end Capstomp.General
