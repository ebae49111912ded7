import Mathlib.Algebra.GroupWithZero.Nat
import Mathlib.Algebra.BigOperators.Group.List.Basic
import Mathlib.Algebra.Order.BigOperators.Group.List
import Capstomp.General.Script

/-!
# Steps that are paid for

When every step is paid for, by what its action brings or by what the state
loses in size, the length of a run is bounded by what was there at its start
and by what its actions brought.
-/

namespace Capstomp.General

variable {State Action : Type*}
variable {step : State → Action → Option State}
variable {allowed : State → Action → Prop}
variable {start state : State} {actions : List Action}

theorem Plays.length_add_le (size : State → Nat) (brings : Action → Nat)
    (played : Plays step allowed start actions state)
    (paid : ∀ before action after, Reaches step allowed start before →
      allowed before action → step before action = some after →
      size after + 1 ≤ size before + brings action) :
    actions.length + size state ≤
      size start + (actions.map brings).sum := by
  induction played with
  | nil => simp
  | snoc played permitted stepped induction =>
      have one := paid _ _ _ played.reaches permitted stepped
      simp only [List.length_append, List.length_singleton, List.map_append,
        List.map_cons, List.map_nil, List.sum_append, List.sum_singleton]
      omega

section Sums

variable {Index Value : Type*} [DecidableEq Index]

/-- A sum over distinct indices, one of which is given another value. -/
theorem sum_update {indices : List Index} (distinct : indices.Nodup)
    {index : Index} (member : index ∈ indices) (weight : Value → Nat)
    (values : Index → Value) (value : Value) :
    (indices.map fun i => weight (Function.update values index value i)).sum +
        weight (values index) =
      (indices.map fun i => weight (values i)).sum + weight value := by
  induction indices with
  | nil => cases member
  | cons head rest induction =>
      obtain ⟨notThere, distinct⟩ := List.nodup_cons.mp distinct
      simp only [List.map_cons, List.sum_cons]
      by_cases same : head = index
      · subst same
        have others : (rest.map fun i =>
            weight (Function.update values head value i)) =
            rest.map fun i => weight (values i) := by
          refine List.map_congr_left fun i inRest => ?_
          rw [Function.update_of_ne]
          rintro rfl
          exact notThere inRest
        rw [others, Function.update_self]
        omega
      · have inRest : index ∈ rest := by
          simpa [Ne.symm same] using member
        have rest := induction distinct inRest
        rw [Function.update_of_ne same]
        omega

end Sums

end Capstomp.General
