import Capstomp.General.Delimited
import Capstomp.General.Loop
import Capstomp.Udf

/-!
# The header arguments

From its fourth argument on a call takes headers, `key=value` pieces between
`&`.  The functions of `udf.cpp` walk over these arguments by pointers into
buffers that no character terminates.  A pointer is a position here, and a
read outside the buffer fails; what is proved is that no read does, and that
the pairs found are those of the text split at its separators.
-/

namespace Capstomp

open General

/-- `Item_result`, the type of an argument. -/
inductive ItemResult where
  | string
  | real
  | int
  | row
  | decimal
  deriving DecidableEq, Repr

/-- One argument of a call: its type, and the bytes at its pointer, as many as
its length says; a null pointer has none. -/
structure Arg where
  type : ItemResult
  bytes : Option (List UInt8)
  deriving DecidableEq, Repr

def ampersand : UInt8 := '&'.toUInt8

def equalsSign : UInt8 := '='.toUInt8

/-- The text of `header::tag::content_type`. -/
def contentTypeText : List UInt8 :=
  "content-type".toList.map Char.toUInt8

/-- The bytes between two pointers into a buffer. -/
def window (buffer : List UInt8) (ptr stop : Nat) : List UInt8 :=
  (buffer.drop ptr).take (stop - ptr)

/-- Reading the bytes between two pointers; a view that ends before it begins, or
beyond the buffer, cannot be read. -/
def readView (buffer : List UInt8) (ptr stop : Nat) : Option (List UInt8) :=
  if ptr ≤ stop ∧ stop ≤ buffer.length then some (window buffer ptr stop)
  else none

/-- One turn of the loop of `std::find_first_of`. -/
def findTurn (buffer : List UInt8) (stop : Nat) (sought : UInt8) (ptr : Nat) :
    Option (Nat ⊕ Nat) :=
  if ptr = stop then some (.inr stop)
  else do
    let byte ← buffer[ptr]?
    if byte = sought then some (.inr ptr) else some (.inl (ptr + 1))

/-- `std::find_first_of` for one character. -/
def findFirstOf (buffer : List UInt8) (ptr stop : Nat) (sought : UInt8) :
    Option Nat :=
  loop (findTurn buffer stop sought) (buffer.length + 1) ptr

/-- `detect`: the lengths are compared, then the bytes. -/
def detect (text key : List UInt8) : Bool :=
  if text.length ≠ key.length then false
  else decide (text = key.take text.length)

/-- `capstomp_fill_kv_header`: the frame's headers and whether the header
pushed is a content type. -/
def capstompFillKvHeader (buffer : List UInt8) (frame : List Header)
    (ptr stop : Nat) : Option (List Header × Bool) := do
  let f ← findFirstOf buffer ptr stop equalsSign
  if f ≠ stop ∧ ptr ≠ f then
    let key ← readView buffer ptr f
    let val ← readView buffer (f + 1) stop
    if key = [] ∨ val = [] then pure (frame, false)
    else pure (frame ++ [.pair key val], detect contentTypeText key)
  else pure (frame, false)

/-- The variables of the loop of `capstomp_split_kv_header`. -/
structure Splitting where
  ptr : Nat
  curr : Nat
  frame : List Header
  customContentType : Bool := false

/-- One turn of the loop.  The test reads the `curr` of the turn before, and
after the last piece `ptr` is one beyond the end. -/
def splitTurn (buffer : List UInt8) (stop : Nat) (s : Splitting) :
    Option (Splitting ⊕ List Header × Bool) :=
  if s.curr ≠ stop ∧ s.ptr ≠ stop then do
    let curr ← findFirstOf buffer s.ptr stop ampersand
    let pushed ←
      if s.ptr ≠ curr then capstompFillKvHeader buffer s.frame s.ptr curr
      else pure (s.frame, false)
    some (.inl
      { ptr := curr + 1
        curr := curr
        frame := pushed.1
        customContentType := s.customContentType || pushed.2 })
  else some (.inr (s.frame, s.customContentType))

/-- `capstomp_split_kv_header` on a buffer, from its first byte to its
last. -/
def capstompSplitKvHeader (buffer : List UInt8) (frame : List Header) :
    Option (List Header × Bool) :=
  loop (splitTurn buffer buffer.length) (buffer.length + 1)
    { ptr := 0, curr := 0, frame := frame }

/-- The variables of the loop of `capstomp_fill_headers`. -/
structure Filling where
  i : Nat
  frame : List Header
  customContentType : Bool := false

/-- One turn of the loop over the arguments. -/
def fillTurn (args : List Arg) (s : Filling) :
    Option (Filling ⊕ List Header × Bool) :=
  if s.i < args.length then do
    let arg ← args[s.i]?
    match arg.type, arg.bytes with
    | .string, some (byte :: bytes) =>
        let rc ← capstompSplitKvHeader (byte :: bytes) s.frame
        some (.inl
          { i := s.i + 1
            frame := rc.1
            customContentType := if rc.2 then true else s.customContentType })
    | _, _ => some (.inl { s with i := s.i + 1 })
  else some (.inr (s.frame, s.customContentType))

/-- `capstomp_fill_headers`. -/
def capstompFillHeaders (frame : List Header) (args : List Arg) (start : Nat) :
    Option (List Header × Bool) :=
  loop (fillTurn args) (args.length + 1) { i := start, frame := frame }

/-- The row of a call, as `capstomp_content` makes it of its arguments. -/
def Row.ofArgs (json : Bool) (routingKey : String) (payload : List UInt8)
    (args : List Arg) : Option Row := do
  let filled ← capstompFillHeaders [] args 3
  pure
    { json := json
      routingKey := routingKey
      headers := filled.1
      customContentType := filled.2
      payload := payload }

/-- The pair of a piece: what is before its first `=` and what is after it,
when neither is empty. -/
def keyValue (piece : List UInt8) : Option (List UInt8 × List UInt8) :=
  let key := piece.takeWhile (· ≠ equalsSign)
  let value := (piece.dropWhile (· ≠ equalsSign)).tail
  if key = [] ∨ value = [] then none else some (key, value)

/-- The pairs of a text: it is split at every `&` and its empty pieces are
dropped. -/
def keyValues (text : List UInt8) : List (List UInt8 × List UInt8) :=
  ((text.splitOn ampersand).filter (· ≠ [])).filterMap keyValue

example :
    keyValues ("&a=1&&b&=c&d=&e=x=y&".toList.map Char.toUInt8) =
      [("a".toList.map Char.toUInt8, "1".toList.map Char.toUInt8),
        ("e".toList.map Char.toUInt8, "x=y".toList.map Char.toUInt8)] := by
  decide

/-- The pairs of an argument. -/
def Arg.keyValues (arg : Arg) : List (List UInt8 × List UInt8) :=
  match arg.type, arg.bytes with
  | .string, some bytes => Capstomp.keyValues bytes
  | _, _ => []

/-- A pair as a header of a frame. -/
def pairHeader (pair : List UInt8 × List UInt8) : Header :=
  .pair pair.1 pair.2

/-- The pair gives a content type. -/
def isContentType (pair : List UInt8 × List UInt8) : Bool :=
  decide (pair.1 = contentTypeText)

variable {buffer : List UInt8} {ptr stop : Nat}

theorem window_length (inside : stop ≤ buffer.length) :
    (window buffer ptr stop).length = stop - ptr := by
  simp only [window, List.length_take, List.length_drop]
  omega

theorem window_cons {byte : UInt8} (here : buffer[ptr]? = some byte)
    (before : ptr < stop) :
    window buffer ptr stop = byte :: window buffer (ptr + 1) stop := by
  obtain ⟨inside, rfl⟩ := List.getElem?_eq_some_iff.mp here
  have left : stop - ptr = (stop - (ptr + 1)) + 1 := by omega
  rw [window, List.drop_eq_getElem_cons inside, left, List.take_succ_cons]
  rfl

/-- A window whose first bytes are known can be read in two parts. -/
theorem window_drop (count : Nat) :
    window buffer (ptr + count) stop =
      (window buffer ptr stop).drop count := by
  rw [window, window, List.drop_take, List.drop_drop, Nat.sub_sub]

theorem window_take {count : Nat} (within : ptr + count ≤ stop) :
    window buffer ptr (ptr + count) =
      (window buffer ptr stop).take count := by
  rw [window, window, List.take_take]
  congr 1
  omega

theorem readView_eq (ordered : ptr ≤ stop) (inside : stop ≤ buffer.length) :
    readView buffer ptr stop = some (window buffer ptr stop) :=
  if_pos ⟨ordered, inside⟩

/-- The position of the first byte sought in a window, or its end. -/
def firstOf (buffer : List UInt8) (stop : Nat) (sought : UInt8) (ptr : Nat) :
    Nat :=
  ptr + ((window buffer ptr stop).takeWhile (· ≠ sought)).length

theorem findTurn_computes (inside : stop ≤ buffer.length) (sought : UInt8) :
    Computes (findTurn buffer stop sought) (· ≤ stop) (stop - ·)
      (firstOf buffer stop sought) := by
  constructor
  intro ptr ordered
  by_cases atEnd : ptr = stop
  · left
    subst atEnd
    simp [findTurn, firstOf, window]
  · have before : ptr < stop := by omega
    have here : buffer[ptr]? = some buffer[ptr] :=
      List.getElem?_eq_getElem (by omega)
    have next := window_cons here before
    by_cases found : buffer[ptr] = sought
    · left
      simp [findTurn, firstOf, atEnd, here, next, found]
    · right
      refine ⟨ptr + 1, ?_, before, by omega, ?_⟩
      · simp [findTurn, atEnd, here, found]
      · simp only [firstOf, next]
        simp [found]
        omega

/-- A window, cut at the first byte sought. -/
structure CutAt (buffer : List UInt8) (ptr stop : Nat) (sought : UInt8)
    (f : Nat) : Prop where
  notBefore : ptr ≤ f
  inside : f ≤ stop
  front : window buffer ptr f =
    (window buffer ptr stop).takeWhile (· ≠ sought)
  back : window buffer f stop =
    (window buffer ptr stop).dropWhile (· ≠ sought)
  rest : window buffer (f + 1) stop =
    ((window buffer ptr stop).dropWhile (· ≠ sought)).tail

theorem firstOf_cuts (ordered : ptr ≤ stop) (inside : stop ≤ buffer.length)
    (sought : UInt8) :
    CutAt buffer ptr stop sought (firstOf buffer stop sought ptr) := by
  have isPrefix := List.takeWhile_prefix (· ≠ sought)
    (l := window buffer ptr stop)
  have within : firstOf buffer stop sought ptr ≤ stop := by
    have shorter := isPrefix.length_le
    rw [window_length inside] at shorter
    rw [firstOf]
    omega
  have back : window buffer (firstOf buffer stop sought ptr) stop =
      (window buffer ptr stop).dropWhile (· ≠ sought) := by
    rw [firstOf, window_drop]
    exact drop_length_takeWhile _ _
  constructor
  · exact Nat.le_add_right _ _
  · exact within
  · rw [firstOf, window_take within]
    exact (List.prefix_iff_eq_take.mp isPrefix).symm
  · exact back
  · rw [window_drop, back, List.drop_one]

/-- The search ends, and cuts the window where it ends. -/
theorem findFirstOf_cuts (ordered : ptr ≤ stop)
    (inside : stop ≤ buffer.length) (sought : UInt8) :
    ∃ f, findFirstOf buffer ptr stop sought = some f ∧
      CutAt buffer ptr stop sought f := by
  refine ⟨_, ?_, firstOf_cuts ordered inside sought⟩
  apply (findTurn_computes inside sought).loop_eq ordered
  omega

@[simp] theorem keyValue_nil : keyValue [] = none := rfl

@[simp] theorem keyValues_nil : keyValues [] = [] := by
  simp [keyValues]

/-- The pairs of a text are that of its first piece and those of the text
behind it. -/
theorem keyValues_eq (text : List UInt8) :
    keyValues text =
      (keyValue (text.takeWhile (· ≠ ampersand))).toList ++
        keyValues (text.dropWhile (· ≠ ampersand)).tail := by
  -- An empty piece has no pair, dropped or not.
  have pieces (text : List UInt8) :
      keyValues text = (text.splitOn ampersand).filterMap keyValue := by
    rw [keyValues, List.filterMap_filter]
    congr 1
    funext piece
    cases piece with
    | nil => rfl
    | cons byte piece => simp
  rw [pieces, splitOn_eq_first, List.filterMap_cons]
  by_cases last : text.dropWhile (· ≠ ampersand) = []
  · simp only [last, if_true]
    cases keyValue (text.takeWhile (· ≠ ampersand)) <;> simp
  · simp only [last, if_false, pieces]
    cases keyValue (text.takeWhile (· ≠ ampersand)) <;> simp

theorem detect_eq (key : List UInt8) :
    detect contentTypeText key = decide (key = contentTypeText) := by
  by_cases same : contentTypeText.length = key.length
  · simp [detect, same, eq_comm]
  · have different : key ≠ contentTypeText := by
      intro equal
      exact same (by rw [equal])
    simp [detect, same, different]

variable {frame : List Header}

/-- A frame after pairs were pushed to it, with what the functions say about
their content type. -/
def pushed (frame : List Header) (pairs : List (List UInt8 × List UInt8)) :
    List Header × Bool :=
  (frame ++ pairs.map pairHeader, pairs.any isContentType)

theorem window_self : window buffer ptr ptr = [] := by
  simp [window]

/-- One piece pushes its pair, if it has one. -/
theorem capstompFillKvHeader_eq (ordered : ptr ≤ stop)
    (inside : stop ≤ buffer.length) :
    capstompFillKvHeader buffer frame ptr stop =
      some (pushed frame (keyValue (window buffer ptr stop)).toList) := by
  obtain ⟨f, found, cuts⟩ := findFirstOf_cuts ordered inside equalsSign
  simp only [capstompFillKvHeader, found, Option.bind_eq_bind,
    Option.bind_some]
  by_cases shape : f ≠ stop ∧ ptr ≠ f
  · have before := Nat.lt_of_le_of_ne cuts.inside shape.1
    have keyRead := readView_eq cuts.notBefore
      (Nat.le_trans cuts.inside inside)
    have valRead := readView_eq before inside
    rw [cuts.front] at keyRead
    rw [cuts.rest] at valRead
    simp only [if_pos shape, keyRead, valRead, Option.bind_some, keyValue]
    split <;> simp [pushed, pairHeader, isContentType, detect_eq]
  · -- The piece has no `=`, or begins with it.
    have without : keyValue (window buffer ptr stop) = none := by
      apply if_pos
      by_cases atEnd : f = stop
      · have back := cuts.back
        rw [atEnd, window_self] at back
        rw [← back]
        exact .inr rfl
      · have atStart : ptr = f := by omega
        have front := cuts.front
        rw [← atStart, window_self] at front
        exact .inl front.symm
    simp [if_neg shape, without, pushed]

/-- What the loop over a buffer has still to push at a position. -/
def Splitting.pushes (buffer : List UInt8) (s : Splitting) :
    List Header × Bool :=
  let pairs := keyValues (window buffer s.ptr buffer.length)
  (s.frame ++ pairs.map pairHeader,
    s.customContentType || pairs.any isContentType)

/-- Either the last piece was pushed, or the position is inside and the test
of the loop sees the end when the position is there. -/
def Splitting.Within (buffer : List UInt8) (s : Splitting) : Prop :=
  (s.curr = buffer.length ∧ s.ptr = buffer.length + 1) ∨
    (s.ptr ≤ buffer.length ∧ (s.curr = buffer.length → s.ptr = buffer.length))

theorem splitTurn_computes (buffer : List UInt8) :
    Computes (splitTurn buffer buffer.length) (Splitting.Within buffer)
      (fun s => buffer.length - s.ptr) (Splitting.pushes buffer) := by
  constructor
  intro s within
  by_cases goesOn : s.curr ≠ buffer.length ∧ s.ptr ≠ buffer.length
  · right
    have inside : s.ptr ≤ buffer.length := by
      rcases within with ⟨atEnd, _⟩ | ⟨inside, _⟩
      · exact absurd atEnd goesOn.1
      · exact inside
    obtain ⟨curr, found, cuts⟩ :=
      findFirstOf_cuts inside (Nat.le_refl _) ampersand
    have turned : splitTurn buffer buffer.length s = some (.inl
        { ptr := curr + 1
          curr := curr
          frame := s.frame ++
            (keyValue (window buffer s.ptr curr)).toList.map pairHeader
          customContentType := s.customContentType ||
            (keyValue (window buffer s.ptr curr)).toList.any
              isContentType }) := by
      simp only [splitTurn, if_pos goesOn, found, Option.bind_eq_bind,
        Option.bind_some]
      by_cases empty : s.ptr = curr
      · simp [empty, window_self]
      · simp [empty, capstompFillKvHeader_eq cuts.notBefore cuts.inside,
          pushed]
    have text := keyValues_eq (window buffer s.ptr buffer.length)
    rw [← cuts.front, ← cuts.rest] at text
    have forward := cuts.notBefore
    have bounded := cuts.inside
    refine ⟨_, turned, ?_, ?_, ?_⟩
    · simp only [Splitting.Within]
      omega
    · dsimp only
      omega
    · simp [Splitting.pushes, text, Bool.or_assoc]
  · left
    have nothing : window buffer s.ptr buffer.length = [] := by
      simp only [window, List.take_eq_nil_iff, List.drop_eq_nil_iff]
      rcases within with ⟨_, beyond⟩ | ⟨_, atEnd⟩
      · omega
      · omega
    simp [splitTurn, if_neg goesOn, Splitting.pushes, nothing]

theorem capstompSplitKvHeader_eq (buffer : List UInt8) (frame : List Header) :
    capstompSplitKvHeader buffer frame =
      some (pushed frame (keyValues buffer)) := by
  let start : Splitting := { ptr := 0, curr := 0, frame := frame }
  have within : start.Within buffer := .inr ⟨Nat.zero_le _, fun same => same⟩
  have ends := (splitTurn_computes buffer).loop_eq within
    (Nat.lt_succ_self buffer.length)
  rw [capstompSplitKvHeader, ends]
  simp [start, Splitting.pushes, pushed, window]

/-- The pairs of the arguments from one on. -/
def pairsFrom (args : List Arg) (start : Nat) :
    List (List UInt8 × List UInt8) :=
  (args.drop start).flatMap Arg.keyValues

theorem pairsFrom_succ {args : List Arg} {i : Nat} {arg : Arg}
    (here : args[i]? = some arg) :
    pairsFrom args i = arg.keyValues ++ pairsFrom args (i + 1) := by
  obtain ⟨inside, rfl⟩ := List.getElem?_eq_some_iff.mp here
  rw [pairsFrom, List.drop_eq_getElem_cons inside, List.flatMap_cons]
  rfl

/-- What the loop over the arguments has still to push. -/
def Filling.pushes (args : List Arg) (s : Filling) : List Header × Bool :=
  (s.frame ++ (pairsFrom args s.i).map pairHeader,
    s.customContentType || (pairsFrom args s.i).any isContentType)

theorem fillTurn_computes (args : List Arg) :
    Computes (fillTurn args) (fun _ => True) (fun s => args.length - s.i)
      (Filling.pushes args) := by
  constructor
  intro s _
  by_cases inside : s.i < args.length
  · right
    obtain ⟨arg, here⟩ : ∃ arg, args[s.i]? = some arg :=
      ⟨_, List.getElem?_eq_getElem inside⟩
    have turned : fillTurn args s = some (.inl
        { i := s.i + 1
          frame := s.frame ++ arg.keyValues.map pairHeader
          customContentType := s.customContentType ||
            arg.keyValues.any isContentType }) := by
      simp only [fillTurn, if_pos inside, here, Option.bind_eq_bind,
        Option.bind_some]
      split
      · next byte bytes isString isBytes =>
          rw [capstompSplitKvHeader_eq]
          simp [pushed, Arg.keyValues, isString, isBytes, Bool.or_comm]
      · next ignored =>
          have none : arg.keyValues = [] := by
            unfold Arg.keyValues
            split
            · next bytes isString isBytes =>
                cases bytes with
                | nil => exact keyValues_nil
                | cons byte bytes =>
                    exact absurd isBytes (ignored byte bytes isString)
            · rfl
          simp [none]
    refine ⟨_, turned, trivial, ?_, ?_⟩
    · dsimp only
      omega
    · simp [Filling.pushes, pairsFrom_succ here, Bool.or_assoc]
  · left
    have nothing : pairsFrom args s.i = [] := by
      rw [pairsFrom, List.drop_of_length_le (by omega)]
      rfl
    simp [fillTurn, if_neg inside, Filling.pushes, nothing]

theorem capstompFillHeaders_eq (frame : List Header) (args : List Arg)
    (start : Nat) :
    capstompFillHeaders frame args start =
      some (pushed frame (pairsFrom args start)) := by
  let first : Filling := { i := start, frame := frame }
  have enough : args.length - first.i < args.length + 1 := by omega
  have ends := (fillTurn_computes args).loop_eq trivial enough
  rw [capstompFillHeaders, ends]
  simp [first, Filling.pushes, pushed]

theorem Row.ofArgs_eq (json : Bool) (routingKey : String)
    (payload : List UInt8) (args : List Arg) :
    Row.ofArgs json routingKey payload args = some
      { json := json
        routingKey := routingKey
        headers := (pairsFrom args 3).map pairHeader
        customContentType := (pairsFrom args 3).any isContentType
        payload := payload } := by
  simp [Row.ofArgs, capstompFillHeaders_eq, pushed]

/-- The headers of a call are the pairs of its arguments, and `capstomp_json`
adds its content type exactly when none of them gives one. -/
theorem fill_headers_exact (args : List Arg) :
    (∀ frame, ∃ custom,
      capstompFillHeaders frame args 3 =
        some (frame ++ (pairsFrom args 3).map pairHeader, custom) ∧
      (custom = true ↔
        ∃ pair ∈ pairsFrom args 3, pair.1 = contentTypeText)) ∧
    ∀ (json : Bool) (routingKey : String) (payload : List UInt8),
      ∃ row, Row.ofArgs json routingKey payload args = some row ∧
        rowHeaders row = (pairsFrom args 3).map pairHeader ++
          if json ∧ ¬ ∃ pair ∈ pairsFrom args 3, pair.1 = contentTypeText
          then [.contentTypeJson] else [] := by
  have flag : (pairsFrom args 3).any isContentType = true ↔
      ∃ pair ∈ pairsFrom args 3, pair.1 = contentTypeText := by
    simp [isContentType]
  constructor
  · intro frame
    exact ⟨_, capstompFillHeaders_eq frame args 3, flag⟩
  · intro json routingKey payload
    refine ⟨_, Row.ofArgs_eq json routingKey payload args, ?_⟩
    cases custom : (pairsFrom args 3).any isContentType with
    | true =>
        have given := flag.mp custom
        simp only [rowHeaders, if_true, given, not_true_eq_false, and_false,
          if_false, List.append_nil]
    | false =>
        have absent : ¬ ∃ pair ∈ pairsFrom args 3,
            pair.1 = contentTypeText := by
          intro given
          rw [flag.mpr given] at custom
          cases custom
        cases json <;> simp only [rowHeaders, absent] <;> simp

end Capstomp
