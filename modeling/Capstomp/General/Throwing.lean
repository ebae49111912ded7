/-!
# Computations that throw without rolling back

`EStateM ε σ` with its default backtracking instance is the meaning of a
member function that may throw: an exception leaves the object as the steps
before it made it.  The rules below take a sequence of calls apart, and lift a
relation between the object before and after from the calls to the sequence,
whichever way the sequence is left.
-/

namespace Capstomp.General

universe u

variable {ε σ α β : Type u}

/-- The state left behind, by a return and by an exception alike. -/
def leftBehind : EStateM.Result ε σ α → σ
  | .ok _ state => state
  | .error _ state => state

@[simp] theorem leftBehind_ok (value : α) (state : σ) :
    leftBehind (.ok value state : EStateM.Result ε σ α) = state := rfl

@[simp] theorem leftBehind_error (error : ε) (state : σ) :
    leftBehind (.error error state : EStateM.Result ε σ α) = state := rfl

@[simp] theorem pure_apply (value : α) (state : σ) :
    (pure value : EStateM ε σ α) state = .ok value state := rfl

@[simp] theorem throw_apply (error : ε) (state : σ) :
    (throw error : EStateM ε σ α) state = .error error state := rfl

@[simp] theorem get_apply {ε σ : Type u} (state : σ) :
    (get : EStateM ε σ σ) state = .ok state state := rfl

@[simp] theorem modify_apply {ε σ : Type u} (change : σ → σ) (state : σ) :
    (modify change : EStateM ε σ PUnit) state = .ok ⟨⟩ (change state) := rfl

/-- A sequence returns when both parts return. -/
theorem bind_eq_ok_iff {first : EStateM ε σ α} {rest : α → EStateM ε σ β}
    {start final : σ} {value : β} :
    (first >>= rest) start = .ok value final ↔
      ∃ between middle, first start = .ok between middle ∧
        rest between middle = .ok value final := by
  simp only [bind, EStateM.bind]
  cases result : first start with
  | ok between middle =>
      constructor
      · intro returned
        exact ⟨between, middle, rfl, returned⟩
      · rintro ⟨_, _, same, returned⟩
        cases same
        exact returned
  | error error middle => simp

/-- A sequence throws when its first part does, or when that returns and the
rest throws. -/
theorem bind_eq_error_iff {first : EStateM ε σ α} {rest : α → EStateM ε σ β}
    {start final : σ} {error : ε} :
    (first >>= rest) start = .error error final ↔
      first start = .error error final ∨
        ∃ between middle, first start = .ok between middle ∧
          rest between middle = .error error final := by
  simp only [bind, EStateM.bind]
  cases result : first start with
  | ok between middle =>
      constructor
      · intro thrown
        exact .inr ⟨between, middle, rfl, thrown⟩
      · rintro (impossible | ⟨_, _, same, thrown⟩)
        · cases impossible
        · cases same
          exact thrown
  | error other middle => simp

/-- Every way out of the computation leads to a related state. -/
def Respects (related : σ → σ → Prop) (computation : EStateM ε σ α) : Prop :=
  ∀ state, related state (leftBehind (computation state))

namespace Respects

variable {related : σ → σ → Prop}

theorem returned {computation : EStateM ε σ α}
    (respects : Respects related computation) {start final : σ} {value : α}
    (returns : computation start = .ok value final) : related start final := by
  simpa [returns] using respects start

theorem thrown {computation : EStateM ε σ α}
    (respects : Respects related computation) {start final : σ} {error : ε}
    (throws : computation start = .error error final) :
    related start final := by
  simpa [throws] using respects start

theorem ofPure (reflexive : ∀ state, related state state) (value : α) :
    Respects related (pure value : EStateM ε σ α) :=
  fun state => reflexive state

theorem ofThrow (reflexive : ∀ state, related state state) (error : ε) :
    Respects related (throw error : EStateM ε σ α) :=
  fun state => reflexive state

theorem ofGet {ε σ : Type u} {related : σ → σ → Prop}
    (reflexive : ∀ state, related state state) :
    Respects related (get : EStateM ε σ σ) :=
  fun state => reflexive state

theorem ofModify {ε σ : Type u} {related : σ → σ → Prop} {change : σ → σ}
    (changes : ∀ state, related state (change state)) :
    Respects related (modify change : EStateM ε σ PUnit) :=
  fun state => changes state

theorem ofBind
    (transitive : ∀ first second third,
      related first second → related second third → related first third)
    {first : EStateM ε σ α} {rest : α → EStateM ε σ β}
    (firstRespects : Respects related first)
    (restRespects : ∀ value, Respects related (rest value)) :
    Respects related (first >>= rest) := by
  intro state
  simp only [Bind.bind, EStateM.bind]
  cases result : first state with
  | ok value middle =>
      exact transitive _ _ _ (firstRespects.returned result)
        (restRespects value middle)
  | error error middle => exact firstRespects.thrown result

theorem ofIte {condition : Prop} [Decidable condition]
    {whenTrue whenFalse : EStateM ε σ α}
    (trueRespects : Respects related whenTrue)
    (falseRespects : Respects related whenFalse) :
    Respects related (if condition then whenTrue else whenFalse) := by
  split
  · exact trueRespects
  · exact falseRespects

end Respects

end Capstomp.General
