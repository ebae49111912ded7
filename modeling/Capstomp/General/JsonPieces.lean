import Mathlib.Data.List.Forall2
import Mathlib.Data.List.Infix
import Capstomp.General.Delimited
import Capstomp.General.Json

/-!
# Writing JSON piece by piece

Rules for texts that a program writes itself.  A piece reads as a value when
the decoder takes it, whatever delimiter follows; pieces are put together by
the rules for arrays and objects.  A string that is written without escapes
reads back as itself exactly when none of its characters needs one.
-/

namespace Capstomp.General

namespace Json

variable {α : Type}

/-! ## Strings without escapes -/

/-- The character stands for itself in a string. -/
def Plain (char : Char) : Prop :=
  char ≠ '"' ∧ char ≠ '\\' ∧ 0x20 ≤ char.toNat

instance (char : Char) : Decidable (Plain char) :=
  inferInstanceAs (Decidable (_ ∧ _))

/-- So does every character of the text. -/
def PlainText (text : List Char) : Prop :=
  ∀ char ∈ text, Plain char

instance (text : List Char) : Decidable (PlainText text) :=
  List.decidableBAll _ text

@[simp] theorem plainText_nil : PlainText [] := by simp [PlainText]

@[simp] theorem plainText_cons {char : Char} {text : List Char} :
    PlainText (char :: text) ↔ Plain char ∧ PlainText text := by
  simp [PlainText]

theorem plain_of_isAlphanum {char : Char} (isAlphanum : char.isAlphanum) :
    Plain char := by
  refine ⟨?_, ?_, ?_⟩
  · rintro rfl
    cases isAlphanum
  · rintro rfl
    cases isAlphanum
  · by_contra control
    have noLetter : ∀ code < 0x20, (Char.ofNat code).isAlphanum = false := by
      decide
    have isNot := noLetter char.toNat (Nat.not_le.mp control)
    rw [Char.ofNat_toNat, isAlphanum] at isNot
    cases isNot

theorem readChars_of_plain {body rest : List Char} (plain : PlainText body) :
    readChars (body.length + 1) (body ++ '"' :: rest) = some (body, rest) := by
  induction body with
  | nil => simp [readChars]
  | cons char body induction =>
      obtain ⟨⟨noQuote, noBackslash, printable⟩, others⟩ :=
        plainText_cons.mp plain
      have later := induction others
      have stands : ¬ char.toNat < 0x20 := Nat.not_lt.mpr printable
      simp [readChars, noQuote, noBackslash, stands, later]

theorem readHex_eq_some {text behind : List Char} {code : Nat}
    (read : readHex text = some (code, behind)) :
    ∃ first second third fourth,
      text = first :: second :: third :: fourth :: behind ∧
        first ≠ '"' ∧ second ≠ '"' ∧ third ≠ '"' ∧ fourth ≠ '"' := by
  have digit {char : Char} {value : Nat}
      (isDigit : hexDigit char = some value) : char ≠ '"' := by
    rintro rfl
    simp [hexDigit] at isDigit
  unfold readHex at read
  split at read
  · next first second third fourth rest =>
      simp only [Option.bind_eq_bind, Option.bind_eq_some_iff] at read
      obtain ⟨_, one, _, two, _, three, _, four, same⟩ := read
      cases same
      exact ⟨_, _, _, _, rfl, digit one, digit two, digit three, digit four⟩
  · cases read

theorem readHex_inside {body rest behind : List Char} {code : Nat}
    (read : readHex (body ++ '"' :: rest) = some (code, behind)) :
    ∃ eaten later, body = eaten ++ later ∧ behind = later ++ '"' :: rest ∧
      eaten ≠ [] ∧ '"' ∉ eaten := by
  obtain ⟨first, second, third, fourth, same, one, two, three, four⟩ :=
    readHex_eq_some read
  match body with
  | [] => exact absurd (List.cons.inj same).1.symm one
  | [_] =>
      simp only [List.cons_append, List.nil_append, List.cons.injEq] at same
      exact absurd same.2.1.symm two
  | [_, _] =>
      simp only [List.cons_append, List.nil_append, List.cons.injEq] at same
      exact absurd same.2.2.1.symm three
  | [_, _, _] =>
      simp only [List.cons_append, List.nil_append, List.cons.injEq] at same
      exact absurd same.2.2.2.1.symm four
  | _ :: _ :: _ :: _ :: later =>
      simp only [List.cons_append, List.cons.injEq] at same
      obtain ⟨rfl, rfl, rfl, rfl, rfl⟩ := same
      refine ⟨[_, _, _, _], later, rfl, rfl, by simp, ?_⟩
      simp [one.symm, two.symm, three.symm, four.symm]

theorem readUnicode_inside {body rest behind : List Char} {char : Char}
    (read : readUnicode (body ++ '"' :: rest) = some (char, behind)) :
    ∃ eaten later, body = eaten ++ later ∧ behind = later ++ '"' :: rest ∧
      eaten ≠ [] ∧ '"' ∉ eaten := by
  unfold readUnicode at read
  simp only [Option.bind_eq_bind, Option.bind_eq_some_iff] at read
  obtain ⟨⟨code, between⟩, isCode, read⟩ := read
  obtain ⟨eaten, later, rfl, rfl, notEmpty, absent⟩ := readHex_inside isCode
  dsimp only at read
  split at read
  · -- A pair: the second half is inside as well.
    split at read
    · next low isPair =>
        simp only [Option.bind_eq_some_iff] at read
        obtain ⟨⟨low, after⟩, isLow, read⟩ := read
        dsimp only at read
        split at read
        · simp only [Option.some.injEq, Prod.mk.injEq] at read
          obtain ⟨_, rfl⟩ := read
          match later with
          | [] => simp at isPair
          | [_] => simp at isPair
          | _ :: _ :: later =>
              simp only [List.cons_append, List.cons.injEq] at isPair
              obtain ⟨rfl, rfl, rfl⟩ := isPair
              obtain ⟨more, last, rfl, rfl, _, absentToo⟩ :=
                readHex_inside isLow
              refine ⟨eaten ++ '\\' :: 'u' :: more, last, by simp, rfl,
                by simp, ?_⟩
              simp [absent, absentToo]
        · cases read
    · cases read
  · split at read
    · cases read
    · cases read
      exact ⟨eaten, later, rfl, rfl, notEmpty, absent⟩

/-- What an escape eats of a string.  The backslash at its end escapes the
closing quotation mark. -/
theorem readEscape_inside {body rest behind : List Char} {char : Char}
    (read : readEscape (body ++ '"' :: rest) = some (char, behind)) :
    (body = [] ∧ char = '"' ∧ behind = rest) ∨
      ∃ eaten later, body = eaten ++ later ∧ behind = later ++ '"' :: rest ∧
        eaten ≠ [] ∧ eaten.count '"' ≤ [char].count '"' := by
  cases body with
  | nil =>
      left
      simp only [List.nil_append, readEscape, Char.reduceEq, if_false,
        Option.map_eq_some_iff] at read
      obtain ⟨_, isEscaped, same⟩ := read
      cases same
      simp only [escaped, true_or, if_true, Option.some.injEq] at isEscaped
      exact ⟨rfl, isEscaped.symm, rfl⟩
  | cons first body =>
      right
      simp only [List.cons_append, readEscape] at read
      split at read
      · next isUnicode =>
          obtain ⟨eaten, later, rfl, rfl, _, absent⟩ := readUnicode_inside read
          refine ⟨first :: eaten, later, rfl, rfl, by simp, ?_⟩
          simp [isUnicode, List.count_eq_zero_of_not_mem absent]
      · simp only [Option.map_eq_some_iff] at read
        obtain ⟨_, isEscaped, same⟩ := read
        cases same
        refine ⟨[first], body, rfl, rfl, by simp, ?_⟩
        by_cases quote : first = '"'
        · subst quote
          simp only [escaped, true_or, if_true, Option.some.injEq] at isEscaped
          rw [isEscaped]
        · simp [quote]

/-- A string ends, goes on with an escape, or with a character that stands for
itself. -/
theorem readChars_cons {fuel : Nat} {char : Char}
    {text chars behind : List Char}
    (read : readChars (fuel + 1) (char :: text) = some (chars, behind)) :
    (char = '"' ∧ chars = [] ∧ behind = text) ∨
      (char = '\\' ∧ ∃ taken between later,
        readEscape text = some (taken, between) ∧
          readChars fuel between = some (later, behind) ∧
          chars = taken :: later) ∨
      (Plain char ∧ ∃ later,
        readChars fuel text = some (later, behind) ∧ chars = char :: later) := by
  simp only [readChars] at read
  split at read
  · next ends =>
      cases read
      exact .inl ⟨ends, rfl, rfl⟩
  · next inside =>
      right
      split at read
      · next escapes =>
          simp only [Option.bind_eq_bind, Option.bind_eq_some_iff] at read
          obtain ⟨⟨taken, between⟩, isTaken, ⟨later, _⟩, isLater, same⟩ := read
          cases same
          exact .inl ⟨escapes, taken, between, later, isTaken, isLater, rfl⟩
      · next stands =>
          split at read
          · cases read
          · next printable =>
              simp only [Option.bind_eq_bind, Option.bind_eq_some_iff] at read
              obtain ⟨⟨later, _⟩, isLater, same⟩ := read
              cases same
              exact .inr ⟨⟨inside, stands, Nat.not_lt.mp printable⟩, later,
                isLater, rfl⟩

/-- What is read of a body that is followed by a quotation mark: more quotation
marks than it has, or nothing longer than it, and only a body without escapes
is read as something of its length. -/
theorem readChars_measure {fuel : Nat} {body rest chars behind : List Char}
    (read : readChars fuel (body ++ '"' :: rest) = some (chars, behind)) :
    body.count '"' < chars.count '"' ∨
      (chars.length ≤ body.length ∧
        (chars.length = body.length → PlainText body)) := by
  induction fuel generalizing body chars with
  | zero => cases read
  | succ fuel induction =>
      cases body with
      | nil =>
          rcases readChars_cons read with
            ⟨_, rfl, _⟩ | ⟨escapes, _⟩ | ⟨plain, _⟩
          · simp
          · cases escapes
          · exact absurd rfl plain.1
      | cons char body =>
          rcases readChars_cons read with ⟨_, rfl, _⟩ |
            ⟨rfl, taken, between, later, isTaken, isLater, rfl⟩ |
            ⟨isPlain, later, isLater, rfl⟩
          · -- The string ends inside the body.
            simp
          · rcases readEscape_inside isTaken with
              ⟨rfl, rfl, rfl⟩ | ⟨eaten, left, rfl, rfl, notEmpty, fewer⟩
            · left
              simp
            · have shorter : 0 < eaten.length :=
                List.length_pos_of_ne_nil notEmpty
              rcases induction isLater with more | ⟨bound, _⟩
              · left
                have noQuote : ('\\' == '"') = false := by decide
                simp only [List.count_cons, List.count_append, List.count_nil,
                  noQuote, Bool.false_eq_true, if_false] at fewer ⊢
                omega
              · right
                simp only [List.length_cons, List.length_append]
                omega
          · rcases induction isLater with more | ⟨bound, plain⟩
            · left
              simpa [List.count_cons] using more
            · right
              simp only [List.length_cons, Nat.add_le_add_iff_right,
                Nat.add_right_cancel_iff, plainText_cons]
              exact ⟨bound, fun same => ⟨isPlain, plain same⟩⟩

/-- A string that reads back as what stands in it has no character that needs
an escape. -/
theorem plain_of_readChars {fuel : Nat} {body rest behind : List Char}
    (read : readChars fuel (body ++ '"' :: rest) = some (body, behind)) :
    PlainText body := by
  rcases readChars_measure read with more | ⟨_, plain⟩
  · exact absurd more (Nat.lt_irrefl _)
  · exact plain rfl

/-! ## Pieces of a text -/

/-- What may stand behind a piece. -/
def Ends (rest : List Char) : Prop :=
  ∀ char ∈ rest.head?, char = ',' ∨ char = ']' ∨ char = '}'

theorem ends_nil : Ends [] := by simp [Ends]

@[simp] theorem ends_cons {char : Char} {rest : List Char} :
    Ends (char :: rest) ↔ char = ',' ∨ char = ']' ∨ char = '}' := by
  simp [Ends]

/-- The piece is read as the value, whatever stands behind it. -/
structure Reads (read : Nat → Reader α) (text : List Char) (value : α) :
    Prop where
  starts : ∃ char rest, text = char :: rest ∧ isSpace char = false ∧
    char ≠ ']' ∧ char ≠ '}'
  reads : ∀ rest, Ends rest →
    ∃ fuel, read fuel (text ++ rest) = some (value, rest)

@[simp] theorem skipSpace_nil : skipSpace [] = [] := rfl

theorem skipSpace_cons {char : Char} {rest : List Char}
    (visible : isSpace char = false) :
    skipSpace (char :: rest) = char :: rest := by
  simp [skipSpace, visible]

theorem decodes_of_reads {text : List Char} {value : Json}
    (reads : Reads readValue text value) : Decodes text value := by
  obtain ⟨fuel, read⟩ := reads.reads [] ends_nil
  rw [List.append_nil] at read
  exact ⟨fuel, [], read, rfl⟩

theorem reads_string {body : List Char} (plain : PlainText body) :
    Reads readValue ('"' :: body ++ ['"']) (.string body) where
  starts := ⟨'"', _, rfl, by decide⟩
  reads rest _ := by
    refine ⟨body.length + 2, ?_⟩
    simp [readValue_string, readChars_of_plain plain]

theorem reads_member {name text : List Char} {value : Json}
    (plain : PlainText name) (reads : Reads readValue text value) :
    Reads (fun fuel => readMember fuel (readValue fuel))
      ('"' :: name ++ '"' :: ':' :: text) (name, value) where
  starts := ⟨'"', _, rfl, by decide⟩
  reads rest ends := by
    obtain ⟨fuel, read⟩ := reads.reads rest ends
    refine ⟨max (name.length + 1) fuel, ?_⟩
    have quote : isSpace '"' = false := by decide
    have colon : isSpace ':' = false := by decide
    have isName : readChars (max (name.length + 1) fuel)
        (name ++ '"' :: ':' :: (text ++ rest)) =
          some (name, ':' :: (text ++ rest)) :=
      readChars_fueled _ _ (Nat.le_max_left _ fuel) _ _
        (readChars_of_plain plain)
    have isValue := readValue_fueled _ _ (Nat.le_max_right (name.length + 1) _)
      _ _ read
    simp [readMember, skipSpace_cons quote, isName, skipSpace_cons colon,
      isValue]

/-! ## Numbers -/

theorem toDigits_head {n : Nat} (zero : (Nat.toDigits 10 n).head? = some '0') :
    Nat.toDigits 10 n = ['0'] := by
  induction n using Nat.strongRecOn with
  | ind n induction =>
      by_cases small : n < 10
      · rw [Nat.toDigits_of_lt_base small] at zero ⊢
        simpa using zero
      · have split := Nat.toDigits_of_base_le (b := 10) (by decide)
          (Nat.not_lt.mp small)
        have first := induction (n / 10) (by omega) (by
          rw [split, List.head?_append_of_ne_nil _ Nat.toDigits_ne_nil] at zero
          exact zero)
        have value := Nat.ofDigitChars_ten_toDigits (n := n / 10)
        rw [first] at value
        simp [Nat.ofDigitChars] at value
        omega

theorem readDigits_toDigits (n : Nat) {rest : List Char} (ends : Ends rest) :
    readDigits (Nat.toDigits 10 n ++ rest) =
      some (Nat.toDigits 10 n, rest) := by
  have inside : ∀ char ∈ Nat.toDigits 10 n, char.isDigit = true :=
    fun _ member =>
      Nat.isDigit_of_mem_toDigits (by decide) (by decide) member
  have stops : ∀ char, rest.head? = some char → char.isDigit = false := by
    intro char isHead
    rcases ends char isHead with rfl | rfl | rfl <;> decide
  have taken := takeWhile_delimited inside stops
  have left := drop_length_takeWhile Char.isDigit (Nat.toDigits 10 n ++ rest)
  rw [taken, List.drop_left] at left
  simp [readDigits, taken, ← left, Nat.toDigits_ne_nil]

theorem readMagnitude_toDigits (n : Nat) {rest : List Char}
    (ends : Ends rest) :
    readMagnitude (Nat.toDigits 10 n ++ rest) =
      some ({ mantissa := n }, rest) := by
  have whole : readWhole (Nat.toDigits 10 n ++ rest) =
      some (Nat.toDigits 10 n, rest) := by
    have noZero : ¬ ((Nat.toDigits 10 n).head? = some '0' ∧
        Nat.toDigits 10 n ≠ ['0']) := fun ⟨zero, long⟩ =>
      long (toDigits_head zero)
    simp only [readWhole, readDigits_toDigits n ends, Option.bind_eq_bind,
      Option.bind_some, noZero, if_false]
  have fraction : readFraction rest = some ([], rest) := by
    unfold readFraction
    split
    · next behind =>
        simp at ends
    · rfl
  have exponent : readExponent rest = some (0, rest) := by
    cases rest with
    | nil => rfl
    | cons char behind =>
        rw [ends_cons] at ends
        rcases ends with rfl | rfl | rfl <;> rfl
  simp [readMagnitude, whole, fraction, exponent, Nat.ofDigitChars_ten_toDigits]

/-- What a number begins with. -/
theorem toDigits_starts (n : Nat) :
    ∃ char rest, Nat.toDigits 10 n = char :: rest ∧ char.isDigit = true := by
  cases digits : Nat.toDigits 10 n with
  | nil => exact absurd digits Nat.toDigits_ne_nil
  | cons char rest =>
      refine ⟨char, rest, rfl, ?_⟩
      exact Nat.isDigit_of_mem_toDigits (b := 10) (n := n) (by decide)
        (by decide) (by simp [digits])

theorem readNumber_toDigits (n : Nat) {rest : List Char} (ends : Ends rest) :
    readNumber (Nat.toDigits 10 n ++ rest) =
      some ({ mantissa := n }, rest) := by
  obtain ⟨char, digits, starts, isDigit⟩ := toDigits_starts n
  unfold readNumber
  split
  · next behind same =>
      rw [starts] at same
      obtain ⟨rfl, _⟩ := List.cons.inj same
      simp at isDigit
  · exact readMagnitude_toDigits n ends

theorem reads_number {text : List Char} {value : Decimal}
    (starts : ∃ char rest, text = char :: rest ∧
      (char = '-' ∨ char.isDigit = true))
    (read : ∀ rest, Ends rest →
      readNumber (text ++ rest) = some (value, rest)) :
    Reads readValue text (.number value) := by
  obtain ⟨char, digits, rfl, isFirst⟩ := starts
  have other : ∀ mark : Char, mark ≠ '-' → mark.isDigit = false →
      char ≠ mark := by
    rintro mark notMinus noDigit rfl
    rcases isFirst with minus | digit
    · exact notMinus minus
    · simp [digit] at noDigit
  have visible : isSpace char = false := by
    simp [isSpace, other ' ' (by decide) (by decide),
      other '\t' (by decide) (by decide), other '\n' (by decide) (by decide),
      other '\r' (by decide) (by decide)]
  refine ⟨⟨char, digits, rfl, visible, other ']' (by decide) (by decide),
    other '}' (by decide) (by decide)⟩, fun rest ends => ⟨1, ?_⟩⟩
  have isNumber := read rest ends
  rw [List.cons_append] at isNumber ⊢
  simp [readValue, skipSpace_cons visible, isNumber,
    other '"' (by decide) (by decide), other '[' (by decide) (by decide),
    other '{' (by decide) (by decide)]

theorem reads_nat (n : Nat) :
    Reads readValue (toString n).toList (.number { mantissa := n }) := by
  rw [Nat.toString_eq_repr, Nat.toList_repr]
  obtain ⟨char, digits, starts, isDigit⟩ := toDigits_starts n
  exact reads_number ⟨char, digits, starts, .inr isDigit⟩
    fun rest ends => readNumber_toDigits n ends

theorem reads_int (n : Int) :
    Reads readValue (toString n).toList (.number { mantissa := n }) := by
  rw [Int.toString_eq_repr, Int.repr_eq_if]
  split
  · next positive =>
      have reads := reads_nat n.toNat
      rwa [Nat.toString_eq_repr, Int.toNat_of_nonneg positive] at reads
  · next negative =>
      have value : -((-n).toNat : Int) = n := by omega
      rw [String.toList_append, Nat.toList_repr]
      refine reads_number ⟨'-', Nat.toDigits 10 (-n).toNat, rfl, .inl rfl⟩
        fun rest ends => ?_
      show readNumber ('-' :: (Nat.toDigits 10 (-n).toNat ++ rest)) = _
      simp only [readNumber, readMagnitude_toDigits _ ends, Option.map_some,
        value]

/-! ## Arrays and objects -/

section Items

variable {item : Nat → Reader α} {close : Char}

theorem skipSpace_close (isClose : close = ']' ∨ close = '}')
    (rest : List Char) : skipSpace (close :: rest) = close :: rest := by
  rcases isClose with rfl | rfl <;> exact skipSpace_cons (by decide)

theorem ends_close (isClose : close = ']' ∨ close = '}') (rest : List Char) :
    Ends (close :: rest) :=
  ends_cons.mpr (.inr isClose)

theorem readItems_reads (fueled : Fueled item)
    (isClose : close = ']' ∨ close = '}') {text : List Char} {value : α}
    {texts : List (List Char)} {values : List α}
    (reads : Reads item text value)
    (others : List.Forall₂ (Reads item) texts values) (rest : List Char) :
    ∃ fuel, readItems (item fuel) close fuel
      ([','].intercalate (text :: texts) ++ close :: rest) =
        some (value :: values, rest) := by
  induction others generalizing text value with
  | nil =>
      obtain ⟨fuel, read⟩ := reads.reads _ (ends_close isClose rest)
      have readToo := fueled fuel (fuel + 1) (Nat.le_succ _) _ _ read
      have noComma : close ≠ ',' := by rcases isClose with rfl | rfl <;> decide
      refine ⟨fuel + 1, ?_⟩
      rw [List.intercalate_singleton]
      simp [readItems, readToo, skipSpace_close isClose, noComma]
  | @cons second other texts values readsSecond _ induction =>
      obtain ⟨later, readLater⟩ := induction readsSecond
      obtain ⟨fuel, read⟩ := reads.reads
        (',' :: ([','].intercalate (second :: texts) ++ close :: rest))
        (ends_cons.mpr (.inl rfl))
      have readToo := fueled fuel (max fuel later + 1) (by omega) _ _ read
      have longer : Extends (readItems (item later) close later)
          (readItems (item (max fuel later + 1)) close (max fuel later)) :=
        readItems_extends (fueled later _ (by omega)) (Nat.le_max_right _ _)
      have readLaterToo := longer _ _ readLater
      have comma : isSpace ',' = false := by decide
      refine ⟨max fuel later + 1, ?_⟩
      rw [List.intercalate_cons_cons]
      simp only [List.append_assoc, List.cons_append, List.nil_append]
      simp [readItems, readToo, skipSpace_cons comma, readLaterToo]

theorem readList_reads (fueled : Fueled item)
    (isClose : close = ']' ∨ close = '}') {texts : List (List Char)}
    {values : List α} (reads : List.Forall₂ (Reads item) texts values)
    (rest : List Char) :
    ∃ fuel, readList (item fuel) close fuel
      ([','].intercalate texts ++ close :: rest) = some (values, rest) := by
  cases reads with
  | nil => exact ⟨0, by simp [readList, skipSpace_close isClose]⟩
  | @cons text value texts values first others =>
      obtain ⟨char, behind, starts, visible, noBracket, noBrace⟩ := first.starts
      obtain ⟨fuel, read⟩ := readItems_reads fueled isClose first others rest
      have opens : char ≠ close := by
        rcases isClose with rfl | rfl
        · exact noBracket
        · exact noBrace
      refine ⟨fuel, ?_⟩
      rw [← read]
      cases texts with
      | nil =>
          simp [readList, starts, skipSpace_cons visible, opens]
      | cons second texts =>
          simp [readList, starts, skipSpace_cons visible, opens,
            List.intercalate_cons_cons]

/-- The first of the items read, and how the others are read from behind
it. -/
theorem readItems_eq_some {read : Reader α} {fuel : Nat}
    {text behind : List Char} {values : List α}
    (found : readItems read close fuel text = some (values, behind)) :
    ∃ value others left, values = value :: others ∧
      read text = some (value, left) ∧
      (others = [] ∨ ∃ less after, skipSpace left = ',' :: after ∧
        readItems read close less after = some (others, behind)) := by
  cases fuel with
  | zero => cases found
  | succ fuel =>
      obtain ⟨⟨value, left⟩, isFirst, found⟩ :=
        Option.bind_eq_some_iff.mp found
      dsimp only at found
      split at found
      · cases found
      · next char after space =>
          split at found
          · next comma =>
              subst comma
              obtain ⟨⟨others, _⟩, later, same⟩ :=
                Option.bind_eq_some_iff.mp found
              cases same
              exact ⟨value, others, left, rfl, isFirst,
                .inr ⟨fuel, after, space, later⟩⟩
          · split at found
            · cases found
              exact ⟨value, [], left, rfl, isFirst, .inl rfl⟩
            · cases found

theorem readItems_of_readList {read : Reader α} {fuel : Nat}
    {text behind : List Char} {value : α} {values : List α}
    (found : readList read close fuel text = some (value :: values, behind)) :
    readItems read close fuel text = some (value :: values, behind) := by
  unfold readList at found
  split at found
  · cases found
  · split at found
    · cases found
    · exact found

/-- When every item that is read back as the value it was written for is good,
so are all items of a list that is read back. -/
theorem forall_of_readItems {Entry : Type} {text : Entry → List Char}
    {value : Entry → α} {Good : Entry → Prop} (fueled : Fueled item)
    (good : ∀ entry, Good entry → Reads item (text entry) (value entry))
    (back : ∀ entry fuel rest behind,
      item fuel (text entry ++ rest) = some (value entry, behind) → Good entry)
    {first : Entry} {entries : List Entry} {inside fuel : Nat}
    {rest behind : List Char}
    (read : readItems (item inside) close fuel
      ([','].intercalate ((first :: entries).map text) ++ rest) =
        some ((first :: entries).map value, behind)) :
    ∀ entry ∈ first :: entries, Good entry := by
  obtain ⟨taken, others, left, same, isFirst, later⟩ := readItems_eq_some read
  obtain ⟨rfl, rfl⟩ := List.cons.inj same
  induction entries generalizing first fuel left with
  | nil =>
      rw [List.map_singleton, List.intercalate_singleton] at isFirst
      simpa using back _ _ _ _ isFirst
  | cons second entries induction =>
      simp only [List.map_cons, List.intercalate_cons_cons, List.append_assoc,
        List.cons_append, List.nil_append] at isFirst
      have isGood := back _ _ _ _ isFirst
      -- The item ends where it was written to end.
      obtain ⟨enough, whole⟩ := (good first isGood).reads
        (',' :: ([','].intercalate ((second :: entries).map text) ++ rest))
        (ends_cons.mpr (.inl rfl))
      cases fueled.unique isFirst whole
      rcases later with none | ⟨less, after, space, readLater⟩
      · cases none
      · rw [skipSpace_cons (by decide), List.cons.injEq] at space
        obtain ⟨_, rfl⟩ := space
        obtain ⟨next, others, left, same, isNext, later⟩ :=
          readItems_eq_some readLater
        obtain ⟨rfl, rfl⟩ := List.cons.inj same
        exact List.forall_mem_cons.mpr
          ⟨isGood, induction readLater left isNext later rfl⟩

end Items

theorem reads_array {texts : List (List Char)} {values : List Json}
    (reads : List.Forall₂ (Reads readValue) texts values) :
    Reads readValue ('[' :: [','].intercalate texts ++ [']'])
      (.array values) where
  starts := ⟨'[', _, rfl, by decide⟩
  reads rest _ := by
    obtain ⟨fuel, read⟩ :=
      readList_reads readValue_fueled (.inl rfl) reads rest
    refine ⟨fuel + 1, ?_⟩
    simp [readValue_array, read]

theorem reads_object {texts : List (List Char)}
    {members : List (List Char × Json)}
    (reads : List.Forall₂
      (Reads fun fuel => readMember fuel (readValue fuel)) texts members) :
    Reads readValue ('{' :: [','].intercalate texts ++ ['}'])
      (.object members) where
  starts := ⟨'{', _, rfl, by decide⟩
  reads rest _ := by
    obtain ⟨fuel, read⟩ :=
      readList_reads readMember_fueled (.inr rfl) reads rest
    refine ⟨fuel + 1, ?_⟩
    simp [readValue_object, read]

theorem reads_each {Entry : Type} {item : Nat → Reader α}
    {text : Entry → List Char} {value : Entry → α} {entries : List Entry}
    (reads : ∀ entry ∈ entries, Reads item (text entry) (value entry)) :
    List.Forall₂ (Reads item) (entries.map text) (entries.map value) := by
  rw [List.forall₂_map_left_iff, List.forall₂_map_right_iff,
    List.forall₂_same]
  exact reads

/-- An array stands for the values that its items were written for exactly when
every item is good: when a good item is read as its value, and an item that is
read as its value is good. -/
theorem decodes_array_iff {Entry : Type} {text : Entry → List Char}
    {value : Entry → Json} {Good : Entry → Prop}
    (good : ∀ entry, Good entry → Reads readValue (text entry) (value entry))
    (back : ∀ entry fuel rest behind,
      readValue fuel (text entry ++ rest) = some (value entry, behind) →
        Good entry)
    (entries : List Entry) :
    Decodes ('[' :: [','].intercalate (entries.map text) ++ [']'])
        (.array (entries.map value)) ↔
      ∀ entry ∈ entries, Good entry := by
  constructor
  · rintro ⟨fuel, behind, read, _⟩
    cases fuel with
    | zero => cases read
    | succ fuel =>
        rw [List.cons_append, readValue_array] at read
        obtain ⟨⟨items, _⟩, listed, same⟩ := Option.map_eq_some_iff.mp read
        cases same
        cases entries with
        | nil => simp
        | cons first entries =>
            exact forall_of_readItems readValue_fueled good back
              (readItems_of_readList listed)
  · intro allGood
    exact decodes_of_reads (reads_array (reads_each fun entry member =>
      good entry (allGood entry member)))

/-- The value of the first member of an object, when it is a string and its
name needs no escapes. -/
theorem plain_of_first_member {name body rest behind : List Char}
    {members : List (List Char × Json)} {fuel : Nat} {key : List Char}
    (plain : PlainText name)
    (read : readValue fuel
      ('{' :: '"' :: (name ++ '"' :: ':' :: '"' :: (body ++ '"' :: rest))) =
        some (.object ((key, .string body) :: members), behind)) :
    PlainText body := by
  cases fuel with
  | zero => cases read
  | succ fuel =>
      rw [readValue_object] at read
      obtain ⟨⟨items, _⟩, listed, same⟩ := Option.map_eq_some_iff.mp read
      cases same
      obtain ⟨member, others, left, same, isFirst, _⟩ :=
        readItems_eq_some (readItems_of_readList listed)
      obtain ⟨rfl, rfl⟩ := List.cons.inj same
      have quote : isSpace '"' = false := by decide
      simp only [readMember, skipSpace_cons quote, Option.bind_eq_bind,
        Option.bind_eq_some_iff] at isFirst
      obtain ⟨⟨found, after⟩, isName, isFirst⟩ := isFirst
      cases readChars_fueled.unique isName (readChars_of_plain plain)
      have colon : isSpace ':' = false := by decide
      simp only [skipSpace_cons colon, Option.bind_eq_some_iff] at isFirst
      obtain ⟨⟨value, _⟩, isValue, same⟩ := isFirst
      cases same
      cases fuel with
      | zero => cases isValue
      | succ fuel =>
          rw [readValue_string] at isValue
          obtain ⟨⟨text, _⟩, isText, same⟩ :=
            Option.map_eq_some_iff.mp isValue
          cases same
          exact plain_of_readChars isText

end Json

end Capstomp.General
