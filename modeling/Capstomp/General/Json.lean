import Mathlib.Data.List.Basic

/-!
# JSON texts

A decoder for JSON texts as lists of characters.  It runs on fuel: a text
decodes to a value when some amount of fuel is enough, and more fuel never
changes the value.
-/

namespace Capstomp.General

/-- A number `mantissa * 10 ^ exponent`. -/
structure Decimal where
  mantissa : Int
  exponent : Int := 0
  deriving DecidableEq, Repr

/-- A value; the members of an object stand in the order of the text, repeated
names included. -/
inductive Json where
  | null
  | bool (value : Bool)
  | number (value : Decimal)
  | string (text : List Char)
  | array (items : List Json)
  | object (members : List (List Char × Json))

/-- What a reader takes from the front of a text, and what it leaves. -/
abbrev Reader (α : Type) := List Char → Option (α × List Char)

namespace Json

variable {α : Type}

/-! ## The decoder -/

def isSpace (char : Char) : Bool :=
  char = ' ' || char = '\t' || char = '\n' || char = '\r'

def skipSpace (text : List Char) : List Char :=
  text.dropWhile isSpace

def hexDigit (char : Char) : Option Nat :=
  if '0' ≤ char ∧ char ≤ '9' then some (char.toNat - '0'.toNat)
  else if 'a' ≤ char ∧ char ≤ 'f' then some (char.toNat - 'a'.toNat + 10)
  else if 'A' ≤ char ∧ char ≤ 'F' then some (char.toNat - 'A'.toNat + 10)
  else none

def readHex : Reader Nat
  | first :: second :: third :: fourth :: rest => do
      let first ← hexDigit first
      let second ← hexDigit second
      let third ← hexDigit third
      let fourth ← hexDigit fourth
      some (((first * 16 + second) * 16 + third) * 16 + fourth, rest)
  | _ => none

/-- What follows `\u`: a code unit, or the two of a surrogate pair. -/
def readUnicode : Reader Char := fun text => do
  let (code, rest) ← readHex text
  if 0xd800 ≤ code ∧ code < 0xdc00 then
    match rest with
    | '\\' :: 'u' :: rest => do
        let (low, rest) ← readHex rest
        if 0xdc00 ≤ low ∧ low < 0xe000 then
          some (.ofNat (0x10000 + (code - 0xd800) * 0x400 + (low - 0xdc00)),
            rest)
        else none
    | _ => none
  else if 0xdc00 ≤ code ∧ code < 0xe000 then none
  else some (.ofNat code, rest)

/-- The escapes of one character. -/
def escaped (char : Char) : Option Char :=
  if char = '"' ∨ char = '\\' ∨ char = '/' then some char
  else if char = 'b' then some '\x08'
  else if char = 'f' then some '\x0c'
  else if char = 'n' then some '\n'
  else if char = 'r' then some '\r'
  else if char = 't' then some '\t'
  else none

/-- What follows a backslash. -/
def readEscape : Reader Char
  | [] => none
  | char :: rest =>
      if char = 'u' then readUnicode rest
      else (escaped char).map fun char => (char, rest)

/-- A string from behind its opening quotation mark. -/
def readChars : Nat → Reader (List Char)
  | 0, _ => none
  | _ + 1, [] => none
  | fuel + 1, char :: rest =>
      if char = '"' then some ([], rest)
      else if char = '\\' then do
        let (char, rest) ← readEscape rest
        let (chars, rest) ← readChars fuel rest
        some (char :: chars, rest)
      else if char.toNat < 0x20 then none
      else do
        let (chars, rest) ← readChars fuel rest
        some (char :: chars, rest)

def readDigits : Reader (List Char) := fun text =>
  if text.takeWhile Char.isDigit = [] then none
  else some (text.takeWhile Char.isDigit, text.dropWhile Char.isDigit)

/-- The digits before the point, with no superfluous zero. -/
def readWhole : Reader (List Char) := fun text => do
  let (digits, rest) ← readDigits text
  if digits.head? = some '0' ∧ digits ≠ ['0'] then none
  else some (digits, rest)

def readFraction : Reader (List Char) := fun text =>
  match text with
  | '.' :: rest => readDigits rest
  | _ => some ([], text)

def readExponent : Reader Int := fun text =>
  match text with
  | [] => some (0, [])
  | char :: rest =>
      if char = 'e' ∨ char = 'E' then
        match rest with
        | '-' :: rest => (readDigits rest).map fun (digits, rest) =>
            (-(Nat.ofDigitChars 10 digits 0 : Int), rest)
        | '+' :: rest => (readDigits rest).map fun (digits, rest) =>
            (Nat.ofDigitChars 10 digits 0, rest)
        | _ => (readDigits rest).map fun (digits, rest) =>
            (Nat.ofDigitChars 10 digits 0, rest)
      else some (0, text)

def readMagnitude : Reader Decimal := fun text => do
  let (whole, rest) ← readWhole text
  let (fraction, rest) ← readFraction rest
  let (exponent, rest) ← readExponent rest
  some ({ mantissa := Nat.ofDigitChars 10 (whole ++ fraction) 0
          exponent := exponent - fraction.length }, rest)

def readNumber : Reader Decimal := fun text =>
  match text with
  | '-' :: rest => (readMagnitude rest).map fun (magnitude, rest) =>
      ({ magnitude with mantissa := -magnitude.mantissa }, rest)
  | _ => readMagnitude text

/-- Items with commas between them, up to the closing character. -/
def readItems (item : Reader α) (close : Char) : Nat → Reader (List α)
  | 0, _ => none
  | fuel + 1, text => do
      let (value, rest) ← item text
      match skipSpace rest with
      | [] => none
      | char :: rest =>
          if char = ',' then do
            let (values, rest) ← readItems item close fuel rest
            some (value :: values, rest)
          else if char = close then some ([value], rest)
          else none

/-- The same, or none at all. -/
def readList (item : Reader α) (close : Char) (fuel : Nat) :
    Reader (List α) := fun text =>
  match skipSpace text with
  | [] => none
  | char :: rest =>
      if char = close then some ([], rest)
      else readItems item close fuel text

def readMember (fuel : Nat) (value : Reader Json) :
    Reader (List Char × Json) := fun text =>
  match skipSpace text with
  | '"' :: rest => do
      let (name, rest) ← readChars fuel rest
      match skipSpace rest with
      | ':' :: rest => do
          let (value, rest) ← value rest
          some ((name, value), rest)
      | _ => none
  | _ => none

/-- The words `true`, `false` and `null`. -/
def readWord (text : List Char) : Option (Json × List Char) :=
  if text.take 4 = ['t', 'r', 'u', 'e'] then some (.bool true, text.drop 4)
  else if text.take 5 = ['f', 'a', 'l', 's', 'e'] then
    some (.bool false, text.drop 5)
  else if text.take 4 = ['n', 'u', 'l', 'l'] then some (.null, text.drop 4)
  else none

def readValue : Nat → Reader Json
  | 0, _ => none
  | fuel + 1, text =>
      match skipSpace text with
      | [] => none
      | char :: rest =>
          if char = '"' then
            (readChars fuel rest).map fun (text, rest) => (.string text, rest)
          else if char = '[' then
            (readList (readValue fuel) ']' fuel rest).map
              fun (items, rest) => (.array items, rest)
          else if char = '{' then
            (readList (readMember fuel (readValue fuel)) '}' fuel rest).map
              fun (members, rest) => (.object members, rest)
          else match readNumber (char :: rest) with
            | some (decimal, rest) => some (.number decimal, rest)
            | none => readWord (char :: rest)

theorem readValue_string (fuel : Nat) (text : List Char) :
    readValue (fuel + 1) ('"' :: text) =
      (readChars fuel text).map fun (text, rest) => (.string text, rest) := by
  simp [readValue, skipSpace, isSpace]

theorem readValue_array (fuel : Nat) (text : List Char) :
    readValue (fuel + 1) ('[' :: text) =
      (readList (readValue fuel) ']' fuel text).map
        fun (items, rest) => (.array items, rest) := by
  simp [readValue, skipSpace, isSpace]

theorem readValue_object (fuel : Nat) (text : List Char) :
    readValue (fuel + 1) ('{' :: text) =
      (readList (readMember fuel (readValue fuel)) '}' fuel text).map
        fun (members, rest) => (.object members, rest) := by
  simp [readValue, skipSpace, isSpace]

/-- The text is well formed and stands for the value. -/
def Decodes (text : List Char) (value : Json) : Prop :=
  ∃ fuel rest, readValue fuel text = some (value, rest) ∧ skipSpace rest = []

/-! ## More fuel -/

/-- What the first computation gives, the second gives too. -/
def Gives {β : Type} (first second : Option β) : Prop :=
  ∀ value, first = some value → second = some value

namespace Gives

variable {β γ : Type} {first second : Option β}

theorem refl (first : Option β) : Gives first first :=
  fun _ gives => gives

theorem none (second : Option β) : Gives .none second := by
  intro value gives
  cases gives

theorem bind {rest other : β → Option γ} (gives : Gives first second)
    (later : ∀ value, Gives (rest value) (other value)) :
    Gives (first >>= rest) (second >>= other) := by
  intro value bound
  obtain ⟨between, starts, ends⟩ := Option.bind_eq_some_iff.mp bound
  exact Option.bind_eq_some_iff.mpr
    ⟨between, gives _ starts, later _ _ ends⟩

theorem map (gives : Gives first second) (change : β → γ) :
    Gives (first.map change) (second.map change) := by
  intro value mapped
  obtain ⟨between, starts, same⟩ := Option.map_eq_some_iff.mp mapped
  exact Option.map_eq_some_iff.mpr ⟨between, gives _ starts, same⟩

theorem ite {condition : Prop} [Decidable condition]
    {first' second' : Option β} (gives : Gives first second)
    (otherwise : Gives first' second') :
    Gives (if condition then first else first')
      (if condition then second else second') := by
  split
  · exact gives
  · exact otherwise

end Gives

/-- The second reader gives what the first one gives. -/
def Extends (first second : Reader α) : Prop :=
  ∀ text, Gives (first text) (second text)

/-- A family of readers that run on fuel. -/
def Fueled (read : Nat → Reader α) : Prop :=
  ∀ fuel more, fuel ≤ more → Extends (read fuel) (read more)

theorem Fueled.unique {read : Nat → Reader α} (fueled : Fueled read)
    {fuel more : Nat} {text : List Char} {first second : α × List Char}
    (one : read fuel text = some first) (two : read more text = some second) :
    first = second := by
  have here := fueled fuel _ (Nat.le_max_left fuel more) text first one
  have there := fueled more _ (Nat.le_max_right fuel more) text second two
  exact Option.some.inj (here.symm.trans there)

theorem readChars_fueled : Fueled readChars := by
  intro fuel
  induction fuel with
  | zero => exact fun _ _ _ => .none _
  | succ fuel induction =>
      rintro (_ | more) enough text
      · cases enough
      have later := induction more (Nat.le_of_succ_le_succ enough)
      cases text with
      | nil => exact .none _
      | cons char rest =>
          refine .ite (.refl _) (.ite ?_ (.ite (.refl _) ?_))
          · exact .bind (.refl _) fun taken =>
              .bind (later taken.2) fun _ => .refl _
          · exact .bind (later rest) fun _ => .refl _

theorem readItems_extends {item other : Reader α} {close : Char}
    (items : Extends item other) {fuel more : Nat} (enough : fuel ≤ more) :
    Extends (readItems item close fuel) (readItems other close more) := by
  induction fuel generalizing more with
  | zero => exact fun _ => .none _
  | succ fuel induction =>
      cases more with
      | zero => cases enough
      | succ more =>
          have later := induction (Nat.le_of_succ_le_succ enough)
          refine fun text => .bind (items text) fun taken => ?_
          dsimp only
          split
          · exact .none _
          · next char rest _ =>
              exact .ite (.bind (later rest) fun _ => .refl _) (.refl _)

theorem readList_extends {item other : Reader α} {close : Char}
    (items : Extends item other) {fuel more : Nat} (enough : fuel ≤ more) :
    Extends (readList item close fuel) (readList other close more) := by
  intro text
  unfold readList
  split
  · exact .none _
  · exact .ite (.refl _) (readItems_extends items enough text)

theorem readMember_extends {value other : Reader Json}
    (values : Extends value other) {fuel more : Nat} (enough : fuel ≤ more) :
    Extends (readMember fuel value) (readMember more other) := by
  intro text
  unfold readMember
  split
  · next rest _ =>
      refine .bind (readChars_fueled fuel more enough rest) fun taken => ?_
      dsimp only
      split
      · next rest _ => exact .bind (values rest) fun _ => .refl _
      · exact .none _
  · exact .none _

theorem readValue_fueled : Fueled readValue := by
  intro fuel
  induction fuel with
  | zero => exact fun _ _ _ => .none _
  | succ fuel induction =>
      rintro (_ | more) enough text
      · cases enough
      have less := Nat.le_of_succ_le_succ enough
      have later := induction more less
      simp only [readValue]
      split
      · exact .none _
      · next char rest _ =>
          have chars := readChars_fueled fuel more less rest
          have items : Gives (readList (readValue fuel) ']' fuel rest)
              (readList (readValue more) ']' more rest) :=
            readList_extends later less rest
          have members :
              Gives (readList (readMember fuel (readValue fuel)) '}' fuel rest)
                (readList (readMember more (readValue more)) '}' more rest) :=
            readList_extends (readMember_extends later less) less rest
          exact .ite (chars.map _) (.ite (items.map _)
            (.ite (members.map _) (.refl _)))

theorem readMember_fueled :
    Fueled fun fuel => readMember fuel (readValue fuel) :=
  fun fuel more enough =>
    readMember_extends (readValue_fueled fuel more enough) enough

/-- A text decodes to one value at most. -/
theorem Decodes.unique {text : List Char} {value other : Json}
    (first : Decodes text value) (second : Decodes text other) :
    value = other := by
  obtain ⟨_, _, read, _⟩ := first
  obtain ⟨_, _, readToo, _⟩ := second
  cases readValue_fueled.unique read readToo
  rfl

end Json

end Capstomp.General
