/-!
# Loops that may read outside their memory

A loop is a body that goes on with a new state or is left with a value; a body
that fails ends the whole computation.  The fuel bounds the number of turns,
and running out of it is a failure too, so that a loop which yields a value
ends within that many turns and never fails on the way.
-/

namespace Capstomp.General

variable {σ ρ : Type _}

/-- At most `fuel` turns of a body. -/
def loop (body : σ → Option (σ ⊕ ρ)) : Nat → σ → Option ρ
  | 0, _ => none
  | fuel + 1, state =>
      match body state with
      | none => none
      | some (.inl next) => loop body fuel next
      | some (.inr value) => some value

/-- The total correctness of a loop: in every state of the invariant, a turn
ends it with the value expected there, or goes on to a state that has the same
value ahead of it and a smaller variant. -/
structure Computes (body : σ → Option (σ ⊕ ρ)) (invariant : σ → Prop)
    (variant : σ → Nat) (value : σ → ρ) : Prop where
  turn : ∀ state, invariant state →
    body state = some (.inr (value state)) ∨
      ∃ next, body state = some (.inl next) ∧ invariant next ∧
        variant next < variant state ∧ value next = value state

/-- Such a loop ends with its value as soon as the fuel exceeds the
variant. -/
theorem Computes.loop_eq {body : σ → Option (σ ⊕ ρ)} {invariant : σ → Prop}
    {variant : σ → Nat} {value : σ → ρ}
    (computes : Computes body invariant variant value)
    {fuel : Nat} {state : σ} (holds : invariant state)
    (enough : variant state < fuel) :
    loop body fuel state = some (value state) := by
  induction fuel generalizing state with
  | zero => omega
  | succ fuel induction =>
      rcases computes.turn state holds with
        ends | ⟨next, goesOn, stillHolds, smaller, same⟩
      · simp [loop, ends]
      · have rest := induction stillHolds (by omega)
        simp [loop, goesOn, rest, same]

end Capstomp.General
