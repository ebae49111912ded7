import Capstomp.Connection

/-!
# The calls of the server

`udf.cpp`: what one row of a statement sends, and what becomes of a connection
when `capstomp_init` fails.
-/

namespace Capstomp

open Connection

/-- One call of `capstomp` or `capstomp_json`; `headers` is what
`capstomp_fill_headers` pushes to the frame and `customContentType` what it
returns. -/
structure Row where
  json : Bool := false
  routingKey : String := ""
  headers : List Header := []
  customContentType : Bool := false
  payload : List UInt8 := []
  deriving DecidableEq, Repr

/-- How `capstomp_content` leaves: at once, in the mode without errors and on
a closed socket; with the size of the frame; or through the handler, with
`*error` set. -/
inductive RowResult where
  | skipped
  | sent (bytes : Nat)
  | failed
  deriving DecidableEq, Repr

/-- The destination of a row. -/
def rowDestination (destination routingKey : String) : String :=
  if routingKey = "" then destination else destination ++ "/" ++ routingKey

/-- The headers of a row before `send_content` adds its own. -/
def rowHeaders (row : Row) : List Header :=
  if row.customContentType then row.headers
  else if row.json then row.headers ++ [.contentTypeJson]
  else row.headers

section Frames

variable [FrameBytes]

/-- `capstomp_content`; the exception is swallowed and the socket closed. -/
def capstompContent (row : Row) (now requestLimit : Nat) (turns : Exchange)
    (c : Connection) : RowResult × Connection :=
  if !c.good && c.withNoError then (.skipped, c)
  else match sendContent (rowDestination c.destination row.routingKey)
      (rowHeaders row) row.payload now requestLimit turns c with
    | .ok count c => (.sent count, c)
    | .error _ c => (.failed, c.close)

end Frames

end Capstomp
