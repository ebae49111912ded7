import Capstomp.General.Throwing

/-!
# Computations with a tape

Beside its state a computation may write to a tape, from which nothing is
taken back: what stands there survives whatever becomes of the state, an
exception included.  Forgetting the tape gives the computation on the state
alone.  The rules below say what a sequence of calls writes, from what its
parts write.
-/

namespace Capstomp.General

universe u

variable {ε σ τ α β : Type u}

abbrev Taped (ε σ τ : Type u) := EStateM ε (σ × List τ)

/-- The outcome on the state alone. -/
def forget : EStateM.Result ε (σ × List τ) α → EStateM.Result ε σ α
  | .ok value state => .ok value state.1
  | .error error state => .error error state.1

/-- A computation that leaves the tape alone. -/
def aside (computation : EStateM ε σ α) : Taped ε σ τ α := fun state =>
  match computation state.1 with
  | .ok value next => .ok value (next, state.2)
  | .error error next => .error error (next, state.2)

/-- A change of the state that writes entries. -/
def inscribe (change : σ → σ) (entries : List τ) : Taped ε σ τ PUnit :=
  modify fun state => (change state.1, state.2 ++ entries)

/-! ## Forgetting the tape -/

/-- The second computation is the first without its tape. -/
def Tapes (taped : Taped ε σ τ α) (plain : EStateM ε σ α) : Prop :=
  ∀ state, forget (taped state) = plain state.1

namespace Tapes

theorem ofAside (computation : EStateM ε σ α) :
    Tapes (aside computation : Taped ε σ τ α) computation := by
  intro state
  simp only [aside]
  cases computation state.1 <;> rfl

theorem ofInscribe (change : σ → σ) (entries : List τ) :
    Tapes (inscribe change entries : Taped ε σ τ PUnit) (modify change) :=
  fun _ => rfl

theorem ofPure (value : α) :
    Tapes (pure value : Taped ε σ τ α) (pure value) :=
  fun _ => rfl

theorem ofThrow (error : ε) :
    Tapes (throw error : Taped ε σ τ α) (throw error) :=
  fun _ => rfl

theorem ofBind {taped : Taped ε σ τ α} {plain : EStateM ε σ α}
    {tapedRest : α → Taped ε σ τ β} {plainRest : α → EStateM ε σ β}
    (first : Tapes taped plain)
    (rest : ∀ value, Tapes (tapedRest value) (plainRest value)) :
    Tapes (taped >>= tapedRest) (plain >>= plainRest) := by
  intro state
  have same := first state
  simp only [bind, EStateM.bind, ← same]
  cases taped state with
  | ok value next => exact rest value next
  | error error next => rfl

theorem ofIte {condition : Prop} [Decidable condition]
    {tapedTrue tapedFalse : Taped ε σ τ α}
    {plainTrue plainFalse : EStateM ε σ α}
    (whenTrue : Tapes tapedTrue plainTrue)
    (whenFalse : Tapes tapedFalse plainFalse) :
    Tapes (if condition then tapedTrue else tapedFalse)
      (if condition then plainTrue else plainFalse) := by
  split
  · exact whenTrue
  · exact whenFalse

end Tapes

/-! ## What is written -/

/-- From any state, the computation adds to the tape: when it returns,
something that stands in `returned` to its value, and when it throws,
something that satisfies `thrown`. -/
def Inscribes (taped : Taped ε σ τ α) (returned : α → List τ → Prop)
    (thrown : List τ → Prop) : Prop :=
  ∀ state, match taped state with
    | .ok value next =>
        ∃ written, next.2 = state.2 ++ written ∧ returned value written
    | .error _ next =>
        ∃ written, next.2 = state.2 ++ written ∧ thrown written

namespace Inscribes

variable {returned : α → List τ → Prop} {thrown : List τ → Prop}

/-- Computations aside write nothing. -/
theorem ofAside (computation : EStateM ε σ α)
    (returns : ∀ value, returned value []) (throws : thrown []) :
    Inscribes (aside computation) returned thrown := by
  intro state
  simp only [aside]
  cases computation state.1 with
  | ok value next => exact ⟨[], (List.append_nil _).symm, returns value⟩
  | error error next => exact ⟨[], (List.append_nil _).symm, throws⟩

theorem ofInscribe (change : σ → σ) {entries : List τ}
    {returned : PUnit → List τ → Prop} (returns : returned ⟨⟩ entries) :
    Inscribes (inscribe change entries : Taped ε σ τ PUnit) returned
      thrown :=
  fun _ => ⟨entries, rfl, returns⟩

theorem ofPure {value : α} (returns : returned value []) :
    Inscribes (pure value : Taped ε σ τ α) returned thrown :=
  fun _ => ⟨[], (List.append_nil _).symm, returns⟩

theorem ofThrow (error : ε) (throws : thrown []) :
    Inscribes (throw error : Taped ε σ τ α) returned thrown :=
  fun _ => ⟨[], (List.append_nil _).symm, throws⟩

/-- The rest of a sequence is judged with what the first part has written in
front of what it writes itself. -/
theorem ofBind {first : Taped ε σ τ α} {rest : α → Taped ε σ τ β}
    {between : α → List τ → Prop} {returned : β → List τ → Prop}
    (starts : Inscribes first between thrown)
    (goesOn : ∀ value early, between value early →
      Inscribes (rest value) (fun result late => returned result (early ++ late))
        (fun late => thrown (early ++ late))) :
    Inscribes (first >>= rest) returned thrown := by
  intro state
  have began := starts state
  simp only [bind, EStateM.bind]
  cases result : first state with
  | error error next => simpa only [result] using began
  | ok value next =>
      simp only [result] at began
      obtain ⟨early, tape, holds⟩ := began
      have ended := goesOn value early holds next
      dsimp only
      cases last : rest value next with
      | ok value final =>
          simp only [last, tape, List.append_assoc] at ended
          obtain ⟨late, tape, holds⟩ := ended
          exact ⟨early ++ late, tape, holds⟩
      | error error final =>
          simp only [last, tape, List.append_assoc] at ended
          obtain ⟨late, tape, holds⟩ := ended
          exact ⟨early ++ late, tape, holds⟩

theorem ofBindAside {first : EStateM ε σ α} {rest : α → Taped ε σ τ β}
    {returned : β → List τ → Prop} (throws : thrown [])
    (goesOn : ∀ value, Inscribes (rest value) returned thrown) :
    Inscribes (aside first >>= rest) returned thrown := by
  have starts : Inscribes (aside first : Taped ε σ τ α)
      (fun _ written => written = []) thrown :=
    ofAside first (fun _ => rfl) throws
  refine starts.ofBind ?_
  rintro value early rfl
  exact goesOn value

theorem ofBindInscribe {change : σ → σ} {entries : List τ}
    {rest : PUnit → Taped ε σ τ β} {returned : β → List τ → Prop}
    (goesOn : Inscribes (rest ⟨⟩)
      (fun result late => returned result (entries ++ late))
      (fun late => thrown (entries ++ late))) :
    Inscribes (inscribe change entries >>= rest) returned thrown := by
  have starts : Inscribes (inscribe change entries : Taped ε σ τ PUnit)
      (fun _ written => written = entries) thrown :=
    ofInscribe change rfl
  refine starts.ofBind ?_
  rintro _ early rfl
  exact goesOn

/-- A weaker account of what is written. -/
theorem weaken {taped : Taped ε σ τ α} {returned' : α → List τ → Prop}
    {thrown' : List τ → Prop} (inscribes : Inscribes taped returned thrown)
    (returns : ∀ value written, returned value written →
      returned' value written)
    (throws : ∀ written, thrown written → thrown' written) :
    Inscribes taped returned' thrown' := by
  intro state
  have account := inscribes state
  cases outcome : taped state with
  | ok value next =>
      simp only [outcome] at account
      obtain ⟨written, tape, holds⟩ := account
      exact ⟨written, tape, returns value written holds⟩
  | error error next =>
      simp only [outcome] at account
      obtain ⟨written, tape, holds⟩ := account
      exact ⟨written, tape, throws written holds⟩

theorem ofIte {condition : Prop} [Decidable condition]
    {whenTrue whenFalse : Taped ε σ τ α}
    (ifTrue : condition → Inscribes whenTrue returned thrown)
    (ifFalse : ¬ condition → Inscribes whenFalse returned thrown) :
    Inscribes (if condition then whenTrue else whenFalse) returned thrown := by
  split
  · next holds => exact ifTrue holds
  · next fails => exact ifFalse fails

end Inscribes

end Capstomp.General
