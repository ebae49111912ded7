import Capstomp.General.Transition

/-!
# Runs with the actions they take

`Reaches` forgets the actions of a run.  `Plays` keeps them, in their order,
for what has to be said of the actions and the state they lead to.
-/

namespace Capstomp.General

variable {State Action : Type*}
variable {step : State → Action → Option State}
variable {allowed : State → Action → Prop}
variable {start state middle : State} {actions more : List Action}

/-- The actions are enabled one after the other, each of them meets `allowed`,
and they lead to the state. -/
inductive Plays (step : State → Action → Option State)
    (allowed : State → Action → Prop) (start : State) :
    List Action → State → Prop
  | nil : Plays step allowed start [] start
  | snoc {actions : List Action} {action : Action} {before after : State}
      (played : Plays step allowed start actions before)
      (permitted : allowed before action)
      (stepped : step before action = some after) :
      Plays step allowed start (actions ++ [action]) after

namespace Plays

theorem reaches (played : Plays step allowed start actions state) :
    Reaches step allowed start state := by
  induction played with
  | nil => exact .refl
  | snoc _ permitted stepped induction => exact induction.next permitted stepped

theorem ofReaches (reached : Reaches step allowed start state) :
    ∃ actions, Plays step allowed start actions state := by
  induction reached with
  | refl => exact ⟨[], .nil⟩
  | tail _ moved induction =>
      obtain ⟨actions, played⟩ := induction
      obtain ⟨action, permitted, stepped⟩ := moved
      exact ⟨actions ++ [action], played.snoc permitted stepped⟩

theorem each {Meets : Action → Prop}
    (played : Plays step allowed start actions state)
    (implied : ∀ state action, allowed state action → Meets action) :
    ∀ action ∈ actions, Meets action := by
  induction played with
  | nil => simp
  | snoc _ permitted _ induction =>
      intro action member
      rw [List.mem_append, List.mem_singleton] at member
      rcases member with earlier | rfl
      · exact induction action earlier
      · exact implied _ _ permitted

theorem weaken {weaker : State → Action → Prop}
    (played : Plays step allowed start actions state)
    (implied : ∀ state action, allowed state action → weaker state action) :
    Plays step weaker start actions state := by
  induction played with
  | nil => exact .nil
  | snoc _ permitted stepped induction =>
      exact induction.snoc (implied _ _ permitted) stepped

theorem append (first : Plays step allowed start actions middle)
    (second : Plays step allowed middle more state) :
    Plays step allowed start (actions ++ more) state := by
  induction second with
  | nil => simpa using first
  | snoc _ permitted stepped induction =>
      rw [← List.append_assoc]
      exact induction.snoc permitted stepped

theorem cons {action : Action} (permitted : allowed start action)
    (stepped : step start action = some middle)
    (played : Plays step allowed middle actions state) :
    Plays step allowed start (action :: actions) state :=
  (Plays.nil.snoc permitted stepped).append played

/-- The run that executing the actions exhibits. -/
theorem ofExecute [∀ state action, Decidable (allowed state action)]
    (played : execute step allowed start actions = some state) :
    Plays step allowed start actions state := by
  induction actions generalizing start with
  | nil =>
      cases played
      exact .nil
  | cons action actions induction =>
      simp only [execute, List.foldlM_cons, Option.bind_eq_bind,
        Option.bind_eq_some_iff] at played
      obtain ⟨middle, stepped, played⟩ := played
      unfold checked at stepped
      split at stepped
      · next permitted => exact .cons permitted stepped (induction played)
      · cases stepped

theorem executed [∀ state action, Decidable (allowed state action)]
    (enabled : (execute step allowed start actions).isSome) :
    Plays step allowed start actions
      (executed step allowed start actions) := by
  obtain ⟨final, played⟩ := Option.isSome_iff_exists.mp enabled
  rw [General.executed, played]
  exact .ofExecute played

end Plays

end Capstomp.General
