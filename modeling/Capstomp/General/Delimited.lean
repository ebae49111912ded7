/-!
# Texts that end at a delimiter

A text whose characters all satisfy a test, followed by nothing or by one that
does not, can be told from what follows it.
-/

namespace Capstomp.General

variable {α : Type _} {p : α → Bool}

theorem takeWhile_delimited {body rest : List α}
    (inside : ∀ value ∈ body, p value = true)
    (stops : ∀ value, rest.head? = some value → p value = false) :
    (body ++ rest).takeWhile p = body := by
  have none : rest.takeWhile p = [] := by
    cases rest with
    | nil => rfl
    | cons value rest => simp [stops value rfl]
  rw [List.takeWhile_append_of_pos inside, none, List.append_nil]

/-- Two such texts are equal when they are followed by anything that makes the
wholes equal. -/
theorem delimited_inj {body other rest others : List α}
    (inside : ∀ value ∈ body, p value = true)
    (stops : ∀ value, rest.head? = some value → p value = false)
    (otherInside : ∀ value ∈ other, p value = true)
    (otherStops : ∀ value, others.head? = some value → p value = false)
    (same : body ++ rest = other ++ others) :
    body = other ∧ rest = others := by
  have bodies : body = other := by
    rw [← takeWhile_delimited inside stops, same,
      takeWhile_delimited otherInside otherStops]
  subst bodies
  exact ⟨rfl, List.append_cancel_left same⟩

/-- What is left after the elements that `takeWhile` takes. -/
theorem drop_length_takeWhile (p : α → Bool) (whole : List α) :
    whole.drop (whole.takeWhile p).length = whole.dropWhile p := by
  induction whole with
  | nil => rfl
  | cons value rest induction =>
      cases holds : p value <;> simp [holds, induction]

/-- The pieces between separators are what stands before the first separator
and the pieces of what stands behind it. -/
theorem splitOn_eq_first [DecidableEq α] (separator : α) (text : List α) :
    text.splitOn separator =
      text.takeWhile (· ≠ separator) ::
        if text.dropWhile (· ≠ separator) = [] then []
        else (text.dropWhile (· ≠ separator)).tail.splitOn separator := by
  have parts := List.takeWhile_append_dropWhile (p := (· ≠ separator))
    (l := text)
  have absent : separator ∉ text.takeWhile (· ≠ separator) := by
    intro member
    have passed := List.all_eq_true.mp List.all_takeWhile separator member
    simp at passed
  cases behind : text.dropWhile (· ≠ separator) with
  | nil =>
      rw [behind, List.append_nil] at parts
      rw [parts] at absent ⊢
      simpa using List.splitOn_eq_singleton absent
  | cons first rest =>
      have stopped := List.head?_dropWhile_not (· ≠ separator) text
      have isSeparator : first = separator := by
        rw [behind] at stopped
        simpa using stopped
      rw [behind, isSeparator] at parts
      have split := List.splitOn_append_cons_self_of_not_mem absent rest
      rw [parts] at split
      simpa using split

/-- The longest prefix of `whole` all of whose elements satisfy the test. -/
structure LongestPrefix (p : α → Bool) (taken whole : List α) : Prop where
  isPrefix : taken <+: whole
  inside : ∀ value ∈ taken, p value = true
  longest : ∀ other, other <+: whole → (∀ value ∈ other, p value = true) →
    other <+: taken

theorem longestPrefix_takeWhile (p : α → Bool) (whole : List α) :
    LongestPrefix p (whole.takeWhile p) whole := by
  constructor
  · exact List.takeWhile_prefix p
  · intro value member
    exact List.all_eq_true.mp List.all_takeWhile value member
  · intro other isPrefix inside
    obtain ⟨rest, rfl⟩ := isPrefix
    rw [List.takeWhile_append_of_pos inside]
    exact List.prefix_append other _

end Capstomp.General
