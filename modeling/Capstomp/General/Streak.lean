import Mathlib.Data.Finset.Card

/-!
# Streaks in a log

Every entry of a log has a key.  Some entries count for their key, and some
settle it.  A streak is a stretch of the log whose keys are all unsettled, and
its size is the number of the keys that count in it.  The rules below follow
the streaks of a log, and those at its end, as entries are appended.
-/

namespace Capstomp.General

variable {Entry Key : Type*}

/-- How the entries of a log are read. -/
structure Tally (Entry Key : Type*) where
  key : Entry → Key
  counts : Entry → Bool
  settles : Entry → Bool

namespace Tally

variable (tally : Tally Entry Key)

/-- Some entry of the log settles the key. -/
def Settled (log : List Entry) (k : Key) : Prop :=
  ∃ entry ∈ log, tally.key entry = k ∧ tally.settles entry

/-- No key of the stretch is settled anywhere in the log. -/
def Unsettled (log stretch : List Entry) : Prop :=
  ∀ entry ∈ stretch, ¬ tally.Settled log (tally.key entry)

instance [DecidableEq Key] (log : List Entry) (k : Key) :
    Decidable (tally.Settled log k) :=
  inferInstanceAs (Decidable (∃ entry ∈ log, _ ∧ _))

instance [DecidableEq Key] (log stretch : List Entry) :
    Decidable (tally.Unsettled log stretch) :=
  inferInstanceAs (Decidable (∀ entry ∈ stretch, ¬ _))

/-- The key is settled, and the last entry is its own. -/
def SettledLast (own : Key) (log : List Entry) : Prop :=
  ∃ older last, log = older ++ [last] ∧ tally.key last = own ∧
    tally.Settled log own

variable {tally} {log stretch : List Entry} {entry : Entry}

theorem settled_snoc {k : Key} :
    tally.Settled (log ++ [entry]) k ↔
      tally.Settled log k ∨ (tally.key entry = k ∧ tally.settles entry) := by
  simp [Settled, or_and_right, exists_or]

/-- What is unsettled was unsettled before. -/
theorem Unsettled.older (unsettled : tally.Unsettled (log ++ [entry]) stretch) :
    tally.Unsettled log stretch :=
  fun other member settled =>
    unsettled other member (settled_snoc.mpr (.inl settled))

theorem Unsettled.front {last : Entry}
    (unsettled : tally.Unsettled log (stretch ++ [last])) :
    tally.Unsettled log stretch :=
  fun other member => unsettled other (List.mem_append_left _ member)

theorem SettledLast.ofSettles {own : Key} (isOwn : tally.key entry = own)
    (settles : tally.settles entry) : tally.SettledLast own (log ++ [entry]) :=
  ⟨log, entry, rfl, isOwn, settled_snoc.mpr (.inr ⟨isOwn, settles⟩)⟩

theorem SettledLast.snoc {own : Key} (isOwn : tally.key entry = own)
    (settled : tally.SettledLast own log) :
    tally.SettledLast own (log ++ [entry]) := by
  obtain ⟨_, _, _, _, settled⟩ := settled
  exact ⟨log, entry, rfl, isOwn, settled_snoc.mpr (.inl settled)⟩

variable [DecidableEq Key]

variable (tally) in
/-- The keys that count in a stretch. -/
def counted (stretch : List Entry) : Finset Key :=
  ((stretch.filter tally.counts).map tally.key).toFinset

variable (tally) in
/-- No streak of the log is longer. -/
def StreaksWithin (most : Nat) (log : List Entry) : Prop :=
  ∀ stretch, stretch <:+: log → tally.Unsettled log stretch →
    (tally.counted stretch).card ≤ most

variable (tally) in
/-- No streak at the end of the log is longer. -/
def EndsWithin (most : Nat) (log : List Entry) : Prop :=
  ∀ stretch, stretch <:+ log → tally.Unsettled log stretch →
    (tally.counted stretch).card ≤ most

variable (tally) in
/-- Beside one key, every streak at the end of the log is shorter. -/
def OthersBelow (own : Key) (bound : Nat) (log : List Entry) : Prop :=
  ∀ stretch, stretch <:+ log → tally.Unsettled log stretch →
    ((tally.counted stretch).erase own).card < bound

@[simp] theorem counted_nil : tally.counted [] = ∅ := rfl

theorem counted_snoc_of_counts (counts : tally.counts entry) :
    tally.counted (stretch ++ [entry]) =
      insert (tally.key entry) (tally.counted stretch) := by
  have last : [entry].filter tally.counts = [entry] := by simp [counts]
  rw [counted, List.filter_append, last, List.map_append,
    List.toFinset_append, Finset.union_comm]
  rfl

theorem counted_snoc_of_silent (silent : tally.counts entry = false) :
    tally.counted (stretch ++ [entry]) = tally.counted stretch := by
  simp [counted, silent]

theorem counted_snoc_erase :
    (tally.counted (stretch ++ [entry])).erase (tally.key entry) =
      (tally.counted stretch).erase (tally.key entry) := by
  cases counts : tally.counts entry with
  | true => rw [counted_snoc_of_counts counts, Finset.erase_insert_eq_erase]
  | false => rw [counted_snoc_of_silent counts]

theorem StreaksWithin.nil (most : Nat) :
    tally.StreaksWithin most [] := by
  intro stretch inside _
  simp [List.infix_nil.mp inside]

theorem EndsWithin.nil (most : Nat) : tally.EndsWithin most [] := by
  intro stretch suffix _
  simp [List.suffix_nil.mp suffix]

theorem EndsWithin.mono {fewer most : Nat} (bounded : fewer ≤ most)
    (ends : tally.EndsWithin fewer log) : tally.EndsWithin most log :=
  fun stretch suffix unsettled =>
    (ends stretch suffix unsettled).trans bounded

theorem StreaksWithin.endsWithin {most : Nat}
    (within : tally.StreaksWithin most log) : tally.EndsWithin most log :=
  fun stretch suffix => within stretch suffix.isInfix

/-- A streak that the entry does not belong to is one of the older log. -/
theorem StreaksWithin.snoc {most : Nat} (within : tally.StreaksWithin most log)
    (ends : tally.EndsWithin most (log ++ [entry])) :
    tally.StreaksWithin most (log ++ [entry]) := by
  intro stretch inside unsettled
  rcases List.infix_concat_iff.mp inside with atEnd | older
  · exact ends stretch atEnd unsettled
  · exact within stretch older unsettled.older

theorem EndsWithin.silent {most : Nat} (silent : tally.counts entry = false)
    (ends : tally.EndsWithin most log) :
    tally.EndsWithin most (log ++ [entry]) := by
  intro stretch suffix unsettled
  rcases List.suffix_concat_iff.mp suffix with rfl | ⟨front, rfl, older⟩
  · simp
  · rw [counted_snoc_of_silent silent]
    exact ends front older unsettled.front.older

theorem EndsWithin.othersBelow {most : Nat} (own : Key)
    (ends : tally.EndsWithin most log) :
    tally.OthersBelow own (most + 1) log := by
  intro stretch suffix unsettled
  have whole := ends stretch suffix unsettled
  have fewer : ((tally.counted stretch).erase own).card ≤
      (tally.counted stretch).card := Finset.card_erase_le
  omega

theorem OthersBelow.endsWithin {own : Key} {bound : Nat}
    (others : tally.OthersBelow own bound log) :
    tally.EndsWithin bound log := by
  intro stretch suffix unsettled
  have below := others stretch suffix unsettled
  have one : (tally.counted stretch).card - 1 ≤
      ((tally.counted stretch).erase own).card :=
    Finset.pred_card_le_card_erase
  omega

/-- What is appended for a key changes nothing beside it. -/
theorem OthersBelow.snoc {own : Key} {bound : Nat}
    (isOwn : tally.key entry = own)
    (others : tally.OthersBelow own bound log) :
    tally.OthersBelow own bound (log ++ [entry]) := by
  subst isOwn
  intro stretch suffix unsettled
  rcases List.suffix_concat_iff.mp suffix with rfl | ⟨front, rfl, older⟩
  · exact others [] (List.nil_suffix) (by simp [Unsettled])
  · rw [counted_snoc_erase]
    exact others front older unsettled.front.older

/-- Behind a settled key there is no streak. -/
theorem SettledLast.endsWithin {own : Key}
    (settled : tally.SettledLast own log) : tally.EndsWithin 0 log := by
  obtain ⟨older, last, rfl, rfl, settled⟩ := settled
  intro stretch suffix unsettled
  rcases List.suffix_concat_iff.mp suffix with rfl | ⟨front, rfl, _⟩
  · simp
  · exact absurd settled (unsettled last (by simp))

end Tally

end Capstomp.General
