import Mathlib.Data.List.Basic

/-!
# Statements about the order of events

A history is the list of the events of a run, the newest last.  `EachTime`
says something about every event and the events before it; `Since` looks at
what came after an opening event, up to an ending one; `Closed` says that
every opening event has been followed by an ending one.
-/

namespace Capstomp.General

variable {Event : Type*} {trace more between : List Event}

/-- Each event stands in `holds` to the events before it. -/
def EachTime (holds : List Event → Event → Prop) (trace : List Event) :
    Prop :=
  ∀ earlier event later, trace = earlier ++ event :: later →
    holds earlier event

section EachTime

variable {holds : List Event → Event → Prop}

@[simp] theorem eachTime_nil : EachTime holds [] := by
  intro earlier event later split
  simp at split

theorem eachTime_append_iff :
    EachTime holds (trace ++ more) ↔ EachTime holds trace ∧
      EachTime (fun earlier event => holds (trace ++ earlier) event) more := by
  constructor
  · intro each
    constructor
    · rintro earlier event later rfl
      exact each earlier event (later ++ more) (by simp)
    · rintro earlier event later rfl
      exact each (trace ++ earlier) event later (by simp)
  · rintro ⟨old, new⟩ earlier event later split
    rcases List.append_eq_append_iff.mp split with
      ⟨middle, rfl, newer⟩ | ⟨middle, older, newer⟩
    · exact new middle event later newer
    · cases middle with
      | nil =>
          rw [List.append_nil] at older
          subst older
          simpa using new [] event later (by simpa using newer.symm)
      | cons head middle =>
          rw [List.cons_append, List.cons.injEq] at newer
          obtain ⟨rfl, rfl⟩ := newer
          exact old earlier event middle older

@[simp] theorem eachTime_cons_iff {event : Event} :
    EachTime holds (event :: trace) ↔ holds [] event ∧
      EachTime (fun earlier => holds (event :: earlier)) trace := by
  constructor
  · intro each
    refine ⟨each [] event trace rfl, ?_⟩
    rintro earlier next later rfl
    exact each (event :: earlier) next later rfl
  · rintro ⟨atHead, atTail⟩ earlier next later split
    cases earlier with
    | nil =>
        cases split
        exact atHead
    | cons head earlier =>
        cases split
        exact atTail earlier next later rfl

end EachTime

/-- `between` is what came after `opening`, and nothing in it is an end. -/
def Since (opening : Event) (ends : Event → Prop)
    (trace between : List Event) : Prop :=
  (∃ before, trace = before ++ opening :: between) ∧
    ∀ event ∈ between, ¬ ends event

/-- Every opening event was followed by an ending one. -/
def Closed (opens ends : Event → Prop) (trace : List Event) : Prop :=
  ∀ earlier event later, trace = earlier ++ event :: later → opens event →
    ∃ later' ∈ later, ends later'

section Intervals

variable {opening : Event} {opens ends : Event → Prop}

theorem since_snoc (trace : List Event) :
    Since opening ends (trace ++ [opening]) [] :=
  ⟨⟨trace, rfl⟩, by simp⟩

theorem Since.append (since : Since opening ends trace between)
    (goesOn : ∀ event ∈ more, ¬ ends event) :
    Since opening ends (trace ++ more) (between ++ more) := by
  obtain ⟨⟨before, rfl⟩, noEnd⟩ := since
  refine ⟨⟨before, by simp⟩, ?_⟩
  intro event member
  rcases List.mem_append.mp member with old | new
  · exact noEnd event old
  · exact goesOn event new

@[simp] theorem closed_nil : Closed opens ends [] := by
  intro earlier event later split
  simp at split

/-- Events that do not open leave a closed history closed. -/
theorem Closed.append (closed : Closed opens ends trace)
    (quiet : ∀ event ∈ more, ¬ opens event) :
    Closed opens ends (trace ++ more) := by
  intro earlier event later split isOpening
  rcases List.append_eq_append_iff.mp split with
    ⟨middle, rfl, newer⟩ | ⟨middle, older, newer⟩
  · exact absurd isOpening (quiet event (by simp [newer]))
  · cases middle with
    | nil =>
        refine absurd isOpening (quiet event ?_)
        rw [List.nil_append] at newer
        simp [← newer]
    | cons head middle =>
        rw [List.cons_append, List.cons.injEq] at newer
        obtain ⟨rfl, rfl⟩ := newer
        obtain ⟨ending, member, isEnd⟩ :=
          closed earlier event middle older isOpening
        exact ⟨ending, List.mem_append_left _ member, isEnd⟩

/-- An ending event closes a history in which nothing opens after it. -/
theorem closed_of_end {ending : Event} (isEnd : ends ending)
    (member : ending ∈ more) (quiet : ∀ event ∈ more, ¬ opens event) :
    Closed opens ends (trace ++ more) := by
  intro earlier event later split isOpening
  rcases List.append_eq_append_iff.mp split with
    ⟨middle, rfl, newer⟩ | ⟨middle, older, newer⟩
  · exact absurd isOpening (quiet event (by simp [newer]))
  · cases middle with
    | nil =>
        refine absurd isOpening (quiet event ?_)
        rw [List.nil_append] at newer
        simp [← newer]
    | cons head middle =>
        rw [List.cons_append, List.cons.injEq] at newer
        obtain ⟨rfl, rfl⟩ := newer
        exact ⟨ending, List.mem_append_right _ member, isEnd⟩

end Intervals

end Capstomp.General
