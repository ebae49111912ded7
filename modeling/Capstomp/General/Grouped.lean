import Mathlib.Data.List.Nodup

/-!
# Lists in groups

A list is grouped when equal items stand next to each other.  A list of tagged
items whose tags are grouped is the concatenation of one block for each tag.
-/

namespace Capstomp.General

variable {Item Tag : Type*} {tag : Item → Tag}
variable {tags more : List Tag} {one : Tag} {items : List Item}

/-- Nothing else stands between two equal items. -/
def Grouped (tags : List Tag) : Prop :=
  ∀ a b, [a, b, a].Sublist tags → a = b

namespace Grouped

theorem nil : Grouped ([] : List Tag) :=
  fun _ _ sublist => by cases sublist

theorem sublist (grouped : Grouped tags) (shorter : more.Sublist tags) :
    Grouped more :=
  fun a b between => grouped a b (between.trans shorter)

theorem sublist_concat {a b c : Tag}
    (between : [a, b, c].Sublist (tags ++ [one])) :
    [a, b, c].Sublist tags ∨ [a, b].Sublist tags ∧ c = one := by
  have parts := List.sublist_append_iff.mp between
  obtain ⟨front, back, split, inFront, inBack⟩ := parts
  rcases List.sublist_singleton.mp inBack with rfl | rfl
  · rw [List.append_nil] at split
    exact .inl (split ▸ inFront)
  · have ends : [a, b] ++ [c] = front ++ [one] := split
    obtain ⟨same, isOne⟩ := List.append_inj' ends rfl
    exact .inr ⟨same ▸ inFront, by simpa using isOne⟩

/-- A tag that is new. -/
theorem fresh (grouped : Grouped tags) (isNew : one ∉ tags) :
    Grouped (tags ++ [one]) := by
  intro a b between
  rcases sublist_concat between with inside | ⟨inside, rfl⟩
  · exact grouped a b inside
  · exact absurd (inside.subset (by simp)) isNew

/-- The last tag once more. -/
theorem again (grouped : Grouped (tags ++ [one])) :
    Grouped (tags ++ [one] ++ [one]) := by
  intro a b between
  rcases sublist_concat between with inside | ⟨inside, rfl⟩
  · exact grouped a b inside
  · have parts := List.sublist_append_iff.mp inside
    obtain ⟨front, back, split, inFront, inBack⟩ := parts
    rcases List.sublist_singleton.mp inBack with rfl | rfl
    · rw [List.append_nil] at split
      subst split
      exact grouped a b (inFront.append (.refl [a]))
    · have ends : [a] ++ [b] = front ++ [a] := split
      have same := (List.append_inj' ends rfl).2
      simpa using same.symm

end Grouped

/-- The items of the block have its tag, and there are some. -/
structure IsBlock (tag : Item → Tag) (block : Tag × List Item) : Prop where
  some : block.2 ≠ []
  tagged : ∀ item ∈ block.2, tag item = block.1

theorem Grouped.blocks (grouped : Grouped (items.map tag)) :
    ∃ blocks : List (Tag × List Item),
      items = (blocks.map Prod.snd).flatten ∧
        (blocks.map Prod.fst).Nodup ∧ ∀ block ∈ blocks, IsBlock tag block := by
  induction items with
  | nil => exact ⟨[], rfl, List.nodup_nil, by simp⟩
  | cons item rest induction =>
      have groupedRest : Grouped (rest.map tag) :=
        grouped.sublist (List.sublist_cons_self _ _)
      obtain ⟨blocks, isFlat, distinct, areBlocks⟩ := induction groupedRest
      by_cases known : tag item ∈ blocks.map Prod.fst
      · cases blocks with
        | nil => cases known
        | cons first others =>
            have isFirst : tag item = first.1 := by
              rcases List.mem_cons.mp known with same | later
              · exact same
              · -- Otherwise the first block stands between its tag and itself.
                obtain ⟨block, isOther, isTag⟩ := List.mem_map.mp later
                obtain ⟨x, inFirst⟩ := List.exists_mem_of_ne_nil _
                  (areBlocks first List.mem_cons_self).some
                obtain ⟨y, inBlock⟩ := List.exists_mem_of_ne_nil _
                  (areBlocks block (List.mem_cons_of_mem _ isOther)).some
                have isX := (areBlocks first List.mem_cons_self).tagged x
                  inFirst
                have isY := (areBlocks block
                  (List.mem_cons_of_mem _ isOther)).tagged y inBlock
                have inOthers : y ∈ (others.map Prod.snd).flatten :=
                  List.mem_flatten.mpr
                    ⟨_, List.mem_map_of_mem isOther, inBlock⟩
                have between : [item, x, y].Sublist (item :: rest) := by
                  rw [isFlat, List.map_cons, List.flatten_cons]
                  exact ((List.singleton_sublist.mpr inFirst).append
                    (List.singleton_sublist.mpr inOthers)).cons_cons item
                have parted := between.map tag
                simp only [List.map_cons, List.map_nil, isX, isY, isTag]
                  at parted
                exact grouped _ _ parted
            refine ⟨(first.1, item :: first.2) :: others, by simp [isFlat],
              distinct, ?_⟩
            intro block member
            rcases List.mem_cons.mp member with rfl | old
            · refine ⟨by simp, ?_⟩
              intro other inBlock
              rcases List.mem_cons.mp inBlock with rfl | old
              · exact isFirst
              · exact (areBlocks first List.mem_cons_self).tagged other old
            · exact areBlocks block (List.mem_cons_of_mem _ old)
      · refine ⟨(tag item, [item]) :: blocks, by simp [isFlat],
          List.nodup_cons.mpr ⟨known, distinct⟩, ?_⟩
        intro block member
        rcases List.mem_cons.mp member with rfl | old
        · exact ⟨by simp, by simp⟩
        · exact areBlocks block old

/-- A block has all items of its tag. -/
theorem block_eq_filter [DecidableEq Tag] {blocks : List (Tag × List Item)}
    (distinct : (blocks.map Prod.fst).Nodup)
    (areBlocks : ∀ block ∈ blocks, IsBlock tag block)
    {block : Tag × List Item} (member : block ∈ blocks) :
    block.2 = ((blocks.map Prod.snd).flatten).filter (tag · = block.1) := by
  induction blocks with
  | nil => cases member
  | cons first others induction =>
      obtain ⟨notLater, distinct⟩ := List.nodup_cons.mp distinct
      have areOthers : ∀ block ∈ others, IsBlock tag block :=
        fun other isOther => areBlocks other (List.mem_cons_of_mem _ isOther)
      rw [List.map_cons, List.flatten_cons, List.filter_append]
      rcases List.mem_cons.mp member with rfl | later
      · have own := (areBlocks block List.mem_cons_self).tagged
        have none : ((others.map Prod.snd).flatten).filter
            (tag · = block.1) = [] := by
          refine List.filter_eq_nil_iff.mpr fun item inOthers => ?_
          obtain ⟨_, isItems, inBlock⟩ := List.mem_flatten.mp inOthers
          obtain ⟨other, isOther, rfl⟩ := List.mem_map.mp isItems
          rw [decide_eq_true_eq, (areOthers other isOther).tagged item inBlock]
          exact fun same => notLater (List.mem_map.mpr ⟨other, isOther, same⟩)
        rw [none, List.append_nil, List.filter_eq_self.mpr]
        exact fun item inBlock => by simpa using own item inBlock
      · have none : first.2.filter (tag · = block.1) = [] := by
          refine List.filter_eq_nil_iff.mpr fun item inFirst => ?_
          rw [decide_eq_true_eq,
            (areBlocks first List.mem_cons_self).tagged item inFirst]
          exact fun same =>
            notLater (same ▸ List.mem_map_of_mem later)
        rw [none, List.nil_append]
        exact induction distinct areOthers later

end Capstomp.General
