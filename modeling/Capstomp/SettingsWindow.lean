import Capstomp.Settings
import Mathlib.Data.List.DropRight

/-!
# The settings and the text after the query

`settings::parse` hands `query.data()` to a parser of C strings.  The window
the URI gives is not followed by a NUL when the URI has a fragment, so that
the parser reads on: the last piece of the query is completed with the text
after it, and the pieces after the next `&` are added.  This file states what
the query alone asks for, and determines which trailing texts change it.
-/

namespace Capstomp

/-! ## C strings and pieces -/

theorem cString_append_of_mem {first second : List Char}
    (ended : '\x00' ∈ first) : cString (first ++ second) = cString first := by
  induction first with
  | nil => cases ended
  | cons char rest induction =>
      by_cases isEnd : char = '\x00'
      · simp [cString, isEnd]
      · have later : '\x00' ∈ rest := by
          simpa [Ne.symm isEnd] using ended
        simpa [cString, isEnd] using induction later

theorem cString_append_of_notMem {first : List Char} (second : List Char)
    (unended : '\x00' ∉ first) :
    cString (first ++ second) = first ++ cString second := by
  unfold cString
  apply List.takeWhile_append_of_pos
  intro char member
  have different : char ≠ '\x00' := fun same => unended (same ▸ member)
  simpa using different

theorem cString_of_notMem {text : List Char} (unended : '\x00' ∉ text) :
    cString text = text := by
  simpa [cString] using cString_append_of_notMem [] unended

/-- The part of a query after its last `&`. -/
def openPiece (query : List Char) : List Char :=
  query.rtakeWhile (· ≠ '&')

/-- The part of a query up to its last `&`. -/
def closedPart (query : List Char) : List Char :=
  query.rdropWhile (· ≠ '&')

theorem closedPart_append_openPiece (query : List Char) :
    closedPart query ++ openPiece query = query :=
  List.rdropWhile_append_rtakeWhile

theorem notMem_closedPart {query : List Char} (unended : '\x00' ∉ query) :
    '\x00' ∉ closedPart query :=
  fun member => unended ((List.rdropWhile_prefix _ query).subset member)

theorem queryPieces_append_separator (first rest : List Char) :
    queryPieces (first ++ '&' :: rest) =
      queryPieces (first ++ ['&']) ++ queryPieces rest := by
  induction first with
  | nil => simp [queryPieces]
  | cons char first induction =>
      by_cases separator : char = '&'
      · simp [queryPieces, separator, induction]
      · simp only [List.cons_append, queryPieces, if_neg separator, induction]
        cases pieces : queryPieces (first ++ ['&']) with
        | nil => cases first <;> simp [queryPieces] at pieces; grind
        | cons piece pieces => simp

theorem closedPart_ends (query : List Char) :
    closedPart query = [] ∨ ∃ first, closedPart query = first ++ ['&'] := by
  by_cases empty : closedPart query = []
  · exact .inl empty
  · have last := List.rdropWhile_last_not
      (fun char : Char => decide (char ≠ '&')) query empty
    have separator : (closedPart query).getLast empty = '&' := by
      simpa [closedPart] using last
    refine .inr ⟨(closedPart query).dropLast, ?_⟩
    rw [← separator, List.dropLast_append_getLast]

/-- The pieces of an extended query: the closed ones stay, the last one is
completed and extended. -/
theorem queryPieces_append (query tail : List Char) :
    queryPieces (query ++ tail) =
      queryPieces (closedPart query) ++
        queryPieces (openPiece query ++ tail) := by
  conv_lhs => rw [← closedPart_append_openPiece query, List.append_assoc]
  rcases closedPart_ends query with empty | ⟨first, ends⟩
  · simp [empty, queryPieces]
  · rw [ends, List.append_assoc, List.singleton_append,
      queryPieces_append_separator]

/-- A text starts with the piece up to its first `&`. -/
theorem queryPieces_of_ne_nil {text : List Char} (some : text ≠ []) :
    queryPieces text =
      text.takeWhile (· ≠ '&') ::
        queryPieces (text.dropWhile (· ≠ '&')).tail := by
  induction text with
  | nil => exact absurd rfl some
  | cons char rest induction =>
      by_cases separator : char = '&'
      · simp [queryPieces, separator]
      · cases rest with
        | nil => simp [queryPieces, separator]
        | cons next rest =>
            rw [queryPieces, if_neg separator, induction (by simp)]
            simp [separator]

theorem notMem_openPiece (query : List Char) : '&' ∉ openPiece query := by
  intro member
  simpa using List.mem_rtakeWhile_imp member

/-- A query is read as its closed pieces and its open one. -/
theorem queryPieces_split (query : List Char) :
    queryPieces query =
      queryPieces (closedPart query) ++ queryPieces (openPiece query) := by
  simpa using queryPieces_append query []

/-! ## What the pieces ask for -/

section Reading

variable [QueryDecoding]

/-- Every piece is a pair, so that the parser accepts them. -/
def readable (pieces : List (List Char)) : Bool :=
  pieces.all fun piece => (queryPair piece).isSome

/-- The value a piece gives to a flag, when its key names the flag. -/
def assignedBy (flag : Flag) (piece : List Char) : Option Bool :=
  (queryPair piece).bind fun pair =>
    if Flag.ofKey pair.1 = some flag then some (readBool pair.2) else none

/-- The key of a piece, and its value, as they stand in the text. -/
def pieceKey (piece : List Char) : List Char :=
  piece.takeWhile (· ≠ '=')

def pieceValue (piece : List Char) : List Char :=
  (piece.dropWhile (· ≠ '=')).tail

/-- The value as it is read. -/
def decodedOn (value : List Char) : Bool :=
  readBool (cString (QueryDecoding.decode value))

/-- The value the last of the pieces that name a flag gives to it. -/
def lastAssigned (flag : Flag) (pieces : List (List Char)) : Option Bool :=
  (pieces.filterMap (assignedBy flag)).getLast?

/-- What pieces make of a flag given before them: the last that names it
wins, and a malformed one turns everything off. -/
def readOver (flag : Flag) (given : Bool) (pieces : List (List Char)) :
    Bool :=
  if readable pieces then (lastAssigned flag pieces).getD given else false

/-- What a query alone asks for: of the pairs of its characters the last
occurrence of a key wins, and a flag without a pair is off. -/
def askedFor (flag : Flag) (query : List Char) : Bool :=
  readOver flag false (queryPieces (cString query))

theorem mapM_queryPair (pieces : List (List Char)) :
    pieces.mapM queryPair =
      if readable pieces then some (pieces.filterMap queryPair) else none := by
  induction pieces with
  | nil => rfl
  | cons piece pieces induction =>
      rw [List.mapM_cons, induction]
      cases pair : queryPair piece with
      | none => simp [readable, pair]
      | some pair' =>
          by_cases rest : readable pieces
          · have both : readable (piece :: pieces) := by
              simpa [readable, pair] using rest
            simp [rest, both, pair]
          · have neither : ¬ readable (piece :: pieces) := by
              simpa [readable, pair] using rest
            simp [rest, neither]

omit [QueryDecoding] in
theorem get_assign (settings : Settings) (pair : List Char × List Char)
    (flag : Flag) :
    (settings.assign pair).get flag =
      if Flag.ofKey pair.1 = some flag then readBool pair.2
      else settings.get flag := by
  unfold Settings.assign
  cases named : Flag.ofKey pair.1 with
  | none => simp
  | some other => simp [eq_comm]

/-- The loop of `settings::parse` lets the last occurrence win. -/
theorem get_foldl_assign (pieces : List (List Char)) (settings : Settings)
    (flag : Flag) :
    ((pieces.filterMap queryPair).foldl Settings.assign settings).get flag =
      (lastAssigned flag pieces).getD (settings.get flag) := by
  induction pieces generalizing settings with
  | nil => rfl
  | cons piece pieces induction =>
      unfold lastAssigned at induction ⊢
      rw [List.filterMap_cons, List.filterMap_cons]
      cases pair : queryPair piece with
      | none => simpa [assignedBy, pair] using induction settings
      | some pair' =>
          by_cases named : Flag.ofKey pair'.1 = some flag
          · simp [assignedBy, pair, induction, get_assign, named,
              List.getLast?_cons]
          · simp [assignedBy, pair, induction, get_assign, named]

omit [QueryDecoding] in
theorem dropWhile_eq_nil_iff_notMem {piece : List Char} :
    piece.dropWhile (· ≠ '=') = [] ↔ '=' ∉ piece := by
  rw [List.dropWhile_eq_nil_iff]
  constructor
  · intro each member
    simpa using each '=' member
  · intro absent char member
    rw [decide_eq_true_eq]
    rintro rfl
    exact absent member

/-- A piece is read when it has an `=` with a key before it. -/
theorem queryPair_eq (piece : List Char) :
    queryPair piece =
      if pieceKey piece ≠ [] ∧ '=' ∈ piece then
        some (pieceKey piece,
          cString (QueryDecoding.decode (pieceValue piece)))
      else none := by
  unfold queryPair pieceKey pieceValue
  cases key : piece.takeWhile (· ≠ '=') with
  | nil => simp
  | cons char rest =>
      cases value : piece.dropWhile (· ≠ '=') with
      | nil =>
          have absent := dropWhile_eq_nil_iff_notMem.mp value
          simp [absent]
      | cons equals value =>
          have present : '=' ∈ piece := by
            by_contra absent
            rw [dropWhile_eq_nil_iff_notMem.mpr absent] at value
            cases value
          simp [present]

theorem assignedBy_of_readable {piece : List Char} (flag : Flag)
    (isPair : (queryPair piece).isSome) :
    assignedBy flag piece =
      if Flag.ofKey (pieceKey piece) = some flag then
        some (decodedOn (pieceValue piece))
      else none := by
  rw [queryPair_eq] at isPair
  split at isPair
  · next pair =>
      rw [assignedBy, queryPair_eq, if_pos pair, Option.bind_some]
      rfl
  · cases isPair

/-- Whatever is added to a pair, it has the same key. -/
theorem queryPair_append {piece : List Char} (more : List Char)
    (isPair : (queryPair piece).isSome) :
    (queryPair (piece ++ more)).isSome ∧
      pieceKey (piece ++ more) = pieceKey piece ∧
      pieceValue (piece ++ more) = pieceValue piece ++ more := by
  rw [queryPair_eq] at isPair
  split at isPair
  · next pair =>
      obtain ⟨some, equals⟩ := pair
      have rest : piece.dropWhile (· ≠ '=') ≠ [] := by
        rw [ne_eq, dropWhile_eq_nil_iff_notMem, not_not]
        exact equals
      have key : pieceKey (piece ++ more) = pieceKey piece := by
        unfold pieceKey
        rw [List.takeWhile_append, if_neg]
        intro whole
        have all := List.takeWhile_append_dropWhile
          (p := fun char => decide (char ≠ '=')) (l := piece)
        have length := congrArg List.length all
        rw [List.length_append, whole] at length
        exact rest (List.length_eq_zero_iff.mp (by omega))
      have value : pieceValue (piece ++ more) = pieceValue piece ++ more := by
        unfold pieceValue
        rw [List.dropWhile_append, if_neg (by simpa using rest),
          List.tail_append_of_ne_nil rest]
      refine ⟨?_, key, value⟩
      rw [queryPair_eq, key, if_pos ⟨some, List.mem_append_left _ equals⟩]
      rfl
  · cases isPair

theorem lastAssigned_append (flag : Flag)
    (first second : List (List Char)) :
    lastAssigned flag (first ++ second) =
      (lastAssigned flag second).or (lastAssigned flag first) := by
  simp [lastAssigned, List.getLast?_append]

theorem readable_append (first second : List (List Char)) :
    readable (first ++ second) = (readable first && readable second) :=
  List.all_append

/-- `settings::create` is what the C string behind the window asks for. -/
theorem get_create (query : StringView) (flag : Flag) :
    (Settings.create query).get flag =
      if query.empty then false else askedFor flag query.data := by
  unfold Settings.create Settings.parse askedFor readOver
  by_cases empty : query.empty
  · cases flag <;> simp [empty, Settings.get]
  · simp only [if_neg empty, evhttpParseQueryStr, mapM_queryPair]
    by_cases accepted : readable (queryPieces (cString query.data))
    · simp only [accepted, if_true, get_foldl_assign]
      cases flag <;> rfl
    · simp only [if_neg accepted]
      cases flag <;> rfl

/-! ## The text after the window -/

/-- The pieces from the open piece of a query on, when the parser goes on
reading the text after it. -/
def completedPieces (query tail : List Char) : List (List Char) :=
  queryPieces (openPiece query ++ cString tail)

/-- What the text after a query adds to its open piece: everything up to the
first `&` or NUL. -/
def completion (tail : List Char) : List Char :=
  (cString tail).takeWhile (· ≠ '&')

/-- The pieces that the text after a query adds.  A query that ends with `&` or
is empty has no open piece to be completed. -/
def addedPieces (query tail : List Char) : List (List Char) :=
  if openPiece query = [] then queryPieces (cString tail)
  else queryPieces ((cString tail).dropWhile (· ≠ '&')).tail

/-- The texts after a query that leave its reading alone.  Apart from queries
that are empty, hide the text behind a NUL or have a malformed piece that is
closed, the open piece may be malformed with the text and without it; or
malformed in one of the two cases, when no flag is on in the other; or else the
value of the open piece reads the same with what is added to it, unless a later
piece gives that flag, and the pieces added give no flag another value than the
query does. -/
inductive TailHarmless (query tail : List Char) : Prop
  | empty (none : query = [])
  | hidden (ended : '\x00' ∈ query)
  | malformed (closed : readable (queryPieces (closedPart query)) = false)
  | unread (itself : readable (queryPieces (openPiece query)) = false)
      (completed : readable (completedPieces query tail) = false)
  | broken (completed : readable (completedPieces query tail) = false)
      (off : ∀ flag, lastAssigned flag (queryPieces query) ≠ some true)
  | mended (itself : readable (queryPieces (openPiece query)) = false)
      (off : ∀ flag, lastAssigned flag (queryPieces (closedPart query) ++
        completedPieces query tail) ≠ some true)
  | kept (itself : readable (queryPieces (openPiece query)))
      (completed : readable (completedPieces query tail))
      (value : ∀ flag, Flag.ofKey (pieceKey (openPiece query)) = some flag →
        lastAssigned flag (addedPieces query tail) = none →
          decodedOn (pieceValue (openPiece query) ++ completion tail) =
            decodedOn (pieceValue (openPiece query)))
      (added : ∀ flag value,
        lastAssigned flag (addedPieces query tail) = some value →
          value = (lastAssigned flag (queryPieces query)).getD false)

theorem askedFor_append_of_mem (flag : Flag) {query tail : List Char}
    (ended : '\x00' ∈ query) :
    askedFor flag (query ++ tail) = askedFor flag query := by
  simp only [askedFor, cString_append_of_mem ended]

theorem askedFor_append_of_notMem (flag : Flag) {query : List Char}
    (tail : List Char) (unended : '\x00' ∉ query) :
    askedFor flag (query ++ tail) =
      if readable (queryPieces (closedPart query)) then
        readOver flag (askedFor flag (closedPart query))
          (completedPieces query tail)
      else false := by
  have closed : cString (closedPart query) = closedPart query :=
    cString_of_notMem (notMem_closedPart unended)
  unfold askedFor completedPieces
  rw [cString_append_of_notMem tail unended, queryPieces_append, closed]
  unfold readOver
  rw [readable_append, lastAssigned_append, Option.getD_or]
  cases readable (queryPieces (closedPart query)) <;> rfl

/-- The query itself has its open piece as it is. -/
theorem askedFor_of_notMem (flag : Flag) {query : List Char}
    (unended : '\x00' ∉ query) :
    askedFor flag query =
      if readable (queryPieces (closedPart query)) then
        readOver flag (askedFor flag (closedPart query))
          (queryPieces (openPiece query))
      else false := by
  have extended := askedFor_append_of_notMem flag [] unended
  simpa [completedPieces, cString] using extended

omit [QueryDecoding] in
/-- The text after a query is read as the completion of its open piece, if it
has one, and as the pieces added. -/
theorem completedPieces_eq (query tail : List Char) :
    completedPieces query tail =
      if openPiece query = [] then addedPieces query tail
      else (openPiece query ++ completion tail) :: addedPieces query tail := by
  unfold completedPieces addedPieces completion
  by_cases none : openPiece query = []
  · simp [none]
  · have apart : ∀ char ∈ openPiece query, decide (char ≠ '&') = true := by
      intro char member
      rw [decide_eq_true_eq]
      rintro rfl
      exact notMem_openPiece query member
    rw [if_neg none, if_neg none, queryPieces_of_ne_nil (by simp [none]),
      List.takeWhile_append_of_pos apart, List.dropWhile_append_of_pos apart]

omit [QueryDecoding] in
/-- So is the query itself. -/
theorem queryPieces_openPiece (query : List Char) :
    queryPieces (openPiece query) =
      if openPiece query = [] then [] else [openPiece query] := by
  have alone := completedPieces_eq query []
  simpa [completedPieces, addedPieces, completion, cString, queryPieces]
    using alone

/-- Of pieces that are all pairs, the completed ones read as the open piece by
itself when its value does and the pieces added say the same. -/
theorem readsAlike_iff (query tail : List Char)
    (itself : readable (queryPieces (openPiece query))) :
    (∀ flag, (lastAssigned flag (completedPieces query tail)).getD
        ((lastAssigned flag (queryPieces (closedPart query))).getD false) =
      (lastAssigned flag (queryPieces query)).getD false) ↔
      (∀ flag, Flag.ofKey (pieceKey (openPiece query)) = some flag →
        lastAssigned flag (addedPieces query tail) = none →
          decodedOn (pieceValue (openPiece query) ++ completion tail) =
            decodedOn (pieceValue (openPiece query))) ∧
      ∀ flag value, lastAssigned flag (addedPieces query tail) = some value →
        value = (lastAssigned flag (queryPieces query)).getD false := by
  rw [← forall_and]
  refine forall_congr' fun flag => ?_
  rw [queryPieces_split query, lastAssigned_append, Option.getD_or]
  generalize (lastAssigned flag (queryPieces (closedPart query))).getD false =
    given
  rw [completedPieces_eq, queryPieces_openPiece]
  rw [queryPieces_openPiece] at itself
  by_cases none : openPiece query = []
  · have unnamed : Flag.ofKey (pieceKey (openPiece query)) ≠ some flag := by
      rw [none]
      simp [pieceKey, Flag.ofKey]
    have unassigned : lastAssigned flag [] = Option.none := rfl
    rw [if_pos none, if_pos none, unassigned, Option.getD_none]
    cases added : lastAssigned flag (addedPieces query tail) <;>
      simp [unnamed]
  · rw [if_neg none] at itself ⊢
    rw [if_neg none]
    have isPair : (queryPair (openPiece query)).isSome := by
      simpa [readable] using itself
    obtain ⟨stillPair, key, value⟩ :=
      queryPair_append (completion tail) isPair
    have alone : lastAssigned flag [openPiece query] =
        assignedBy flag (openPiece query) := by
      cases assigned : assignedBy flag (openPiece query) <;>
        simp [lastAssigned, assigned]
    have first : lastAssigned flag
        ((openPiece query ++ completion tail) :: addedPieces query tail) =
          (lastAssigned flag (addedPieces query tail)).or
            (assignedBy flag (openPiece query ++ completion tail)) := by
      rw [← List.singleton_append, lastAssigned_append]
      cases assigned : assignedBy flag (openPiece query ++ completion tail) <;>
        simp [lastAssigned, assigned]
    rw [alone, first, assignedBy_of_readable flag isPair,
      assignedBy_of_readable flag stillPair, key, value]
    cases added : lastAssigned flag (addedPieces query tail) with
    | some value => simp
    | none =>
        by_cases named :
            Flag.ofKey (pieceKey (openPiece query)) = some flag
        · simp [named]
        · simp [named]

/-- Of a query whose closed pieces are pairs, and that hides no text behind a
NUL. -/
theorem tailHarmless_iff {query tail : List Char} (some : query ≠ [])
    (unended : '\x00' ∉ query)
    (closed : readable (queryPieces (closedPart query))) :
    TailHarmless query tail ↔ ∀ flag,
      readOver flag (askedFor flag (closedPart query))
          (completedPieces query tail) =
        readOver flag (askedFor flag (closedPart query))
          (queryPieces (openPiece query)) := by
  have given : ∀ flag, askedFor flag (closedPart query) =
      (lastAssigned flag (queryPieces (closedPart query))).getD false := by
    intro flag
    rw [askedFor, cString_of_notMem (notMem_closedPart unended), readOver,
      if_pos closed]
  have asked : ∀ flag,
      (lastAssigned flag (queryPieces (openPiece query))).getD
        ((lastAssigned flag (queryPieces (closedPart query))).getD false) =
      (lastAssigned flag (queryPieces query)).getD false := by
    intro flag
    rw [queryPieces_split query, lastAssigned_append, Option.getD_or]
  have off : ∀ assigned : Option Bool,
      assigned.getD false = false ↔ assigned ≠ Option.some true := by
    intro assigned
    cases assigned <;> simp
  simp only [given]
  constructor
  · intro harmless flag
    unfold readOver
    cases harmless with
    | empty none => exact absurd none some
    | hidden ended => exact absurd ended unended
    | malformed broken => simp [broken] at closed
    | unread itself completed => simp [itself, completed]
    | broken completed allOff =>
        simp only [completed, Bool.false_eq_true, if_false, asked,
          (off _).mpr (allOff flag), ite_self]
    | mended itself allOff =>
        have none := (off _).mpr (allOff flag)
        rw [lastAssigned_append, Option.getD_or] at none
        simp only [itself, Bool.false_eq_true, if_false, none, ite_self]
    | kept itself completed value added =>
        rw [if_pos itself, if_pos completed, asked]
        exact (readsAlike_iff query tail itself).mpr
          ⟨value, added⟩ flag
  · intro alike
    unfold readOver at alike
    cases itself : readable (queryPieces (openPiece query)) <;>
      cases completed : readable (completedPieces query tail) <;>
      simp only [itself, completed, if_true, Bool.false_eq_true, if_false,
        asked] at alike
    · exact .unread itself completed
    · refine .mended itself fun flag => (off _).mp ?_
      rw [lastAssigned_append, Option.getD_or]
      exact alike flag
    · exact .broken completed fun flag => (off _).mp (alike flag).symm
    · obtain ⟨value, added⟩ :=
        (readsAlike_iff query tail itself).mp alike
      exact .kept itself completed value added

/-- A session's settings are those its query asks for exactly when the text
after the query is harmless. -/
theorem create_eq_askedFor_iff (query : StringView) :
    (∀ flag, (Settings.create query).get flag = askedFor flag query.chars) ↔
      TailHarmless query.chars query.trailing := by
  have data : query.data = query.chars ++ query.trailing :=
    (List.take_append_drop query.length _).symm
  by_cases empty : query.chars = []
  · have none : query.empty := by
      have inside := query.inside
      simp only [StringView.chars, List.take_eq_nil_iff,
        List.drop_eq_nil_iff] at empty
      simp only [StringView.empty, beq_iff_eq]
      omega
    constructor
    · intro _
      exact .empty empty
    · intro _ flag
      rw [get_create, if_pos none, empty]
      rfl
  · have some : query.empty = false := by
      simp only [StringView.empty, beq_eq_false_iff_ne, ne_eq]
      rintro zero
      exact empty (by simp [StringView.chars, zero])
    simp only [get_create, some, Bool.false_eq_true, if_false, data]
    by_cases ended : '\x00' ∈ query.chars
    · constructor
      · intro _
        exact .hidden ended
      · intro _ flag
        exact askedFor_append_of_mem flag ended
    · simp only [askedFor_append_of_notMem _ query.trailing ended,
        askedFor_of_notMem _ ended]
      by_cases closed : readable (queryPieces (closedPart query.chars))
      · simp only [closed, if_true]
        exact (tailHarmless_iff empty ended closed).symm
      · have broken : readable (queryPieces (closedPart query.chars)) =
            false := by simpa using closed
        simp only [broken, Bool.false_eq_true, if_false, implies_true,
          true_iff]
        exact .malformed broken

end Reading

/-- The query of `stomp://g:g@host/v?receipt=true#/queue/a`. -/
def receiptBeforeFragment : StringView where
  text := "stomp://g:g@host/v?receipt=true#/queue/a".toList
  offset := 19
  length := 12
  inside := by decide

/-- The same query in a URI without a fragment. -/
def receiptWithoutFragment : StringView where
  text := "stomp://g:g@host/v?receipt=true".toList
  offset := 19
  length := 12
  inside := by decide

/-- With the fragment behind it, `receipt=true` is read as `true#/queue/a`,
and the receipts asked for stay off. -/
theorem create_reads_past_query :
    ¬ ∀ (_ : QueryDecoding) (first second : StringView),
      first.chars = second.chars →
        Settings.create first = Settings.create second ∧
          ∀ flag, (Settings.create first).get flag =
            askedFor flag first.chars := by
  intro alone
  have same := alone ⟨id⟩ receiptBeforeFragment receiptWithoutFragment
    (by decide)
  exact absurd same.1 (by decide)

end Capstomp
