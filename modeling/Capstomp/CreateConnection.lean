import Capstomp.Stomp

/-!
# Opening a socket

`connection::create_connection` and the functions under it.  The state is the
list of the descriptors these calls have opened, because a `btpro::socket` is
a plain handle: it is copied by value and closed explicitly or not at all.
-/

namespace Capstomp

/-- The result of `::connect` on the non-blocking socket. -/
inductive ConnectResult where
  | done
  | inProgress
  | failed
  deriving DecidableEq, Repr

/-- The outcomes met by one `try_connect`: the descriptor `sock.create` opens
(none when it throws), the result of `::connect`, and the poll for
writability. -/
structure Attempt where
  created : Option Nat
  connected : ConnectResult := .done
  writable : Poll := .events false false
  deriving DecidableEq, Repr

/-- The outcome of `getaddrinfo`, with the attempt its address leads to. -/
inductive Resolve where
  | failed (code : Int)
  | empty
  | found (attempt : Attempt)
  deriving DecidableEq, Repr

/-- The outcomes met by `create_connection`; `address` tells whether
`addr_port` parses as an address. -/
structure Route where
  address : Bool
  direct : Attempt
  resolve : Resolve
  deriving DecidableEq, Repr

/-- Computations that open descriptors. -/
abbrev Opening := EStateM Error (List Nat)

def socketReadyWrite : Poll → Opening Bool
  | .failed => throw .poll
  | .events _ pollOut => pure pollOut

def connectSync (attempt : Attempt) : Opening Unit :=
  match attempt.connected with
  | .done => pure ()
  | .failed => throw .connect
  | .inProgress => do
      if ← socketReadyWrite attempt.writable then pure ()
      else throw .connectTimeout

def tryConnect (attempt : Attempt) : Opening Nat :=
  match attempt.created with
  | none => throw .socket
  | some fd => do
      modify (fd :: ·)
      connectSync attempt
      pure fd

def tryGethostnameConnect (host : String) : Resolve → Opening Nat
  | .failed code => throw (.getaddrinfo code host)
  | .empty => throw (.unresolved host)
  | .found attempt => tryConnect attempt

/-- The direct attempt, whose exception is swallowed, then the resolver. -/
def createConnection (u : Uri) (route : Route) : Opening Nat := fun opened =>
  let direct : Opening Nat :=
    if route.address then tryConnect route.direct else throw .address
  match direct opened with
  | .ok fd opened => .ok fd opened
  | .error _ opened => tryGethostnameConnect u.host route.resolve opened

end Capstomp
