import Mathlib.Data.Int.Init

/-!
# Session settings

`settings.cpp`: the five switches a session reads from the query part of its
URI.  The query arrives as a `std::string_view` into the text of the URI, and
`evhttp_parse_query_str` is handed its `data()` pointer, so the two notions of
text are kept apart here: a window with a length, and a C string that ends at
the first NUL.
-/

namespace Capstomp

/-- The characters of a C string: everything before the first NUL. -/
def cString (text : List Char) : List Char :=
  text.takeWhile (· ≠ '\x00')

/-- A `std::string_view`: a window into a longer text.  The NUL that
terminates the text stands after its last character. -/
structure StringView where
  text : List Char
  offset : Nat
  length : Nat
  inside : offset + length ≤ text.length
  deriving DecidableEq

namespace StringView

/-- The characters of the window. -/
def chars (view : StringView) : List Char :=
  (view.text.drop view.offset).take view.length

/-- What follows the window in the text. -/
def trailing (view : StringView) : List Char :=
  (view.text.drop view.offset).drop view.length

/-- What can be read through `data()`, which knows no length. -/
def data (view : StringView) : List Char :=
  view.text.drop view.offset

def empty (view : StringView) : Bool :=
  view.length == 0

end StringView

/-- libevent's decoding of a query value (`%41`, `+`), which the plugin never
looks into. -/
class QueryDecoding where
  decode : List Char → List Char

/-- The pieces between the `&` of a query; the parser stops at the end of the
string, so that a final `&` opens no further piece. -/
def queryPieces : List Char → List (List Char)
  | [] => []
  | char :: rest =>
      if char = '&' then [] :: queryPieces rest
      else match queryPieces rest with
        | [] => [[char]]
        | piece :: pieces => (char :: piece) :: pieces

section Parse

variable [QueryDecoding]

/-- `key=value`, split at the first `=`; a piece with no `=` or with an empty
key is malformed. -/
def queryPair (piece : List Char) : Option (List Char × List Char) :=
  match piece.takeWhile (· ≠ '='), piece.dropWhile (· ≠ '=') with
  | [], _ => none
  | _ :: _, [] => none
  | key, _ :: value => some (key, cString (QueryDecoding.decode value))

/-- `evhttp_parse_query_str`: the pairs of a C string, or a failure when one
of its pieces is malformed. -/
def evhttpParseQueryStr (text : List Char) :
    Option (List (List Char × List Char)) :=
  (queryPieces (cString text)).mapM queryPair

end Parse

/-- The number `atoi` reads: blanks, a sign, digits; the `long` it is read as
saturates and is then cut to an `int`. -/
def atoi (value : List Char) : Int :=
  let value := value.dropWhile fun char =>
    char == ' ' || ('\t' ≤ char && char ≤ '\r')
  let digits (text : List Char) : Int :=
    (text.takeWhile Char.isDigit).foldl
      (fun number char => 10 * number + (char.toNat - '0'.toNat : Nat)) 0
  let number := match value with
    | '-' :: rest => -digits rest
    | '+' :: rest => digits rest
    | rest => digits rest
  Int.bmod (max Int64.minValue.toInt (min number Int64.maxValue.toInt))
    UInt32.size

def readBool (value : List Char) : Bool :=
  if value = "true".toList then true
  else if value = "false".toList then false
  else decide (0 < atoi value)

structure Settings where
  receipt : Bool := false
  timestamp : Bool := false
  persistent : Bool := false
  transaction : Bool := false
  noError : Bool := false
  deriving DecidableEq, Repr

/-- The member a key of the query names; `no_error` has an alias. -/
inductive Flag where
  | receipt
  | timestamp
  | transaction
  | persistent
  | noError
  deriving DecidableEq, Repr

/-- The chain of comparisons in `settings::parse`. -/
def Flag.ofKey (key : List Char) : Option Flag :=
  if key = "receipt".toList then some .receipt
  else if key = "timestamp".toList then some .timestamp
  else if key = "transaction".toList then some .transaction
  else if key = "persistent".toList then some .persistent
  else if key = "no_error".toList then some .noError
  else if key = "skip_error".toList then some .noError
  else none

namespace Settings

def set (settings : Settings) (value : Bool) : Flag → Settings
  | .receipt => { settings with receipt := value }
  | .timestamp => { settings with timestamp := value }
  | .transaction => { settings with transaction := value }
  | .persistent => { settings with persistent := value }
  | .noError => { settings with noError := value }

def get (settings : Settings) : Flag → Bool
  | .receipt => settings.receipt
  | .timestamp => settings.timestamp
  | .transaction => settings.transaction
  | .persistent => settings.persistent
  | .noError => settings.noError

@[simp] theorem get_set (settings : Settings) (value : Bool)
    (flag other : Flag) :
    (settings.set value flag).get other =
      if other = flag then value else settings.get other := by
  cases flag <;> cases other <;> rfl

@[ext] theorem ext_get {left right : Settings}
    (same : ∀ flag, left.get flag = right.get flag) : left = right := by
  cases left
  cases right
  simp only [Settings.mk.injEq]
  exact ⟨same .receipt, same .timestamp, same .persistent,
    same .transaction, same .noError⟩

/-- One turn of the loop over the parsed headers. -/
def assign (settings : Settings) (pair : List Char × List Char) : Settings :=
  match Flag.ofKey pair.1 with
  | some flag => settings.set (readBool pair.2) flag
  | none => settings

variable [QueryDecoding]

/-- `settings::parse`: an unreadable query changes nothing. -/
def parse (settings : Settings) (query : StringView) : Settings :=
  if query.empty then settings
  else match evhttpParseQueryStr query.data with
    | none => settings
    | some headers => headers.foldl assign settings

/-- `settings::create`, given the query of the URI. -/
def create (query : StringView) : Settings :=
  parse {} query

end Settings

end Capstomp
