import Mathlib.Data.List.Nodup

/-!
# Lists of tagged items

The items of a list are tagged, and some of them show a name.  When the names
of different tags differ, what holds of the names shown under each tag holds
of those of the list.
-/

namespace Capstomp.General

variable {Item Tag Name : Type*} [DecidableEq Tag]
variable {tag : Item → Tag} {shows : Item → Option Name}

/-- The items with a tag. -/
def under (tag : Item → Tag) (wanted : Tag) (items : List Item) : List Item :=
  items.filter (tag · = wanted)

/-- No name is shown twice, if none is under any tag and no two tags share
one. -/
theorem nodup_of_under (tag : Item → Tag) {items : List Item}
    (apart : ∀ first ∈ items, ∀ second ∈ items, ∀ name,
      shows first = some name → shows second = some name →
        tag first = tag second)
    (each : ∀ wanted, ((under tag wanted items).filterMap shows).Nodup) :
    (items.filterMap shows).Nodup := by
  induction items with
  | nil => simp
  | cons item items induction =>
      have tail : (items.filterMap shows).Nodup := by
        refine induction ?_ fun wanted => (each wanted).sublist ?_
        · intro first isFirst second isSecond
          exact apart first (List.mem_cons_of_mem _ isFirst) second
            (List.mem_cons_of_mem _ isSecond)
        · exact ((List.sublist_cons_self item items).filter _).filterMap _
      cases shown : shows item with
      | none => rwa [List.filterMap_cons_none shown]
      | some name =>
          rw [List.filterMap_cons_some shown, List.nodup_cons]
          refine ⟨fun again => ?_, tail⟩
          obtain ⟨other, member, same⟩ := List.mem_filterMap.mp again
          have sameTag := apart item List.mem_cons_self other
            (List.mem_cons_of_mem _ member) name shown same
          have alone := each (tag item)
          simp only [under, List.filter_cons_of_pos, decide_true,
            List.filterMap_cons_some shown, List.nodup_cons] at alone
          refine alone.1 (List.mem_filterMap.mpr ⟨other, ?_, same⟩)
          exact List.mem_filter.mpr ⟨member, by simp [sameTag]⟩

end Capstomp.General
