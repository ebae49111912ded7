import Mathlib.Data.List.Nodup
import Mathlib.Data.List.Perm.Subperm

/-!
# Resources kept in places

Every place holds a list of resources.  The lists are exclusive when no
resource is held twice, in one place or in two.  A resource that is added new,
moved or given up leaves them exclusive.
-/

namespace Capstomp.General

variable {Place Resource : Type*}
variable {before after : Place → List Resource}

/-- No resource is held twice. -/
structure Exclusive (places : Place → List Resource) : Prop where
  nodup : ∀ place, (places place).Nodup
  apart : ∀ first second resource, resource ∈ places first →
    resource ∈ places second → first = second

namespace Exclusive

theorem of_empty (empty : ∀ place, after place = []) : Exclusive after := by
  constructor
  · intro place
    simp [empty place]
  · intro first second resource inFirst
    simp [empty first] at inFirst

/-- Resources that are all in one place move to another. -/
theorem move (exclusive : Exclusive before) {source target : Place}
    (different : source ≠ target) (moved : List Resource)
    (leaves : (before source).Perm (moved ++ after source))
    (arrives : (after target).Perm (moved ++ before target))
    (others : ∀ place, place ≠ source → place ≠ target →
      after place = before place) :
    Exclusive after := by
  have sourceNodup := leaves.nodup_iff.mp (exclusive.nodup source)
  have movedFrom : ∀ resource ∈ moved, resource ∈ before source :=
    fun resource member => leaves.mem_iff.mpr (List.mem_append_left _ member)
  have remained : ∀ resource ∈ after source, resource ∈ before source :=
    fun resource member => leaves.mem_iff.mpr (List.mem_append_right _ member)
  have came : ∀ resource, resource ∈ after target →
      resource ∈ moved ∨ resource ∈ before target :=
    fun resource member => List.mem_append.mp (arrives.mem_iff.mp member)
  have untouched : ∀ place, place ≠ target → ∀ resource ∈ after place,
      resource ∈ before place := by
    intro place notTarget resource member
    by_cases isSource : place = source
    · subst isSource
      exact remained resource member
    · rwa [others place isSource notTarget] at member
  have stayed : ∀ place, place ≠ target → ∀ resource ∈ after place,
      resource ∉ moved := by
    intro place notTarget resource member inMoved
    by_cases isSource : place = source
    · subst isSource
      exact (List.nodup_append.mp sourceNodup).2.2 resource inMoved resource
        member rfl
    · exact isSource (exclusive.apart place source resource
        (untouched place notTarget resource member)
        (movedFrom resource inMoved))
  have elsewhere : ∀ place, place ≠ target → ∀ resource ∈ after place,
      resource ∉ after target := by
    intro place notTarget resource member inTarget
    rcases came resource inTarget with inMoved | wasThere
    · exact stayed place notTarget resource member inMoved
    · exact notTarget (exclusive.apart place target resource
        (untouched place notTarget resource member) wasThere)
  constructor
  · intro place
    by_cases isTarget : place = target
    · subst isTarget
      refine arrives.nodup_iff.mpr (List.nodup_append.mpr
        ⟨(List.nodup_append.mp sourceNodup).1, exclusive.nodup place, ?_⟩)
      rintro resource inMoved _ wasThere rfl
      exact different (exclusive.apart source place resource
        (movedFrom resource inMoved) wasThere)
    · by_cases isSource : place = source
      · subst isSource
        exact (List.nodup_append.mp sourceNodup).2.1
      · rw [others place isSource isTarget]
        exact exclusive.nodup place
  · intro first second resource inFirst inSecond
    by_cases firstTarget : first = target
    · by_cases secondTarget : second = target
      · exact firstTarget.trans secondTarget.symm
      · subst firstTarget
        exact absurd inFirst (elsewhere second secondTarget resource inSecond)
    · by_cases secondTarget : second = target
      · subst secondTarget
        exact absurd inSecond (elsewhere first firstTarget resource inFirst)
      · exact exclusive.apart first second resource
          (untouched first firstTarget resource inFirst)
          (untouched second secondTarget resource inSecond)

/-- A resource that was nowhere is put in a place. -/
theorem add (exclusive : Exclusive before) (target : Place)
    (resource : Resource) (fresh : ∀ place, resource ∉ before place)
    (arrives : (after target).Perm (resource :: before target))
    (others : ∀ place, place ≠ target → after place = before place) :
    Exclusive after := by
  have came : ∀ place other, other ∈ after place →
      (place = target ∧ other = resource) ∨ other ∈ before place := by
    intro place other member
    by_cases isTarget : place = target
    · subst isTarget
      rcases List.mem_cons.mp (arrives.mem_iff.mp member) with new | old
      · exact .inl ⟨rfl, new⟩
      · exact .inr old
    · rw [others place isTarget] at member
      exact .inr member
  constructor
  · intro place
    by_cases isTarget : place = target
    · subst isTarget
      exact arrives.nodup_iff.mpr
        (List.nodup_cons.mpr ⟨fresh place, exclusive.nodup place⟩)
    · rw [others place isTarget]
      exact exclusive.nodup place
  · intro first second other inFirst inSecond
    rcases came first other inFirst with ⟨rfl, rfl⟩ | wasFirst
    · rcases came second other inSecond with ⟨rfl, _⟩ | wasSecond
      · rfl
      · exact absurd wasSecond (fresh second)
    · rcases came second other inSecond with ⟨rfl, rfl⟩ | wasSecond
      · exact absurd wasFirst (fresh first)
      · exact exclusive.apart first second other wasFirst wasSecond

/-- Resources are given up, or lists put in another order. -/
theorem shrink (exclusive : Exclusive before)
    (kept : ∀ place, (after place).Subperm (before place)) :
    Exclusive after := by
  constructor
  · intro place
    obtain ⟨same, perm, sublist⟩ := kept place
    exact perm.nodup_iff.mp ((exclusive.nodup place).sublist sublist)
  · intro first second resource inFirst inSecond
    exact exclusive.apart first second resource
      ((kept first).subset inFirst) ((kept second).subset inSecond)

end Exclusive

end Capstomp.General
