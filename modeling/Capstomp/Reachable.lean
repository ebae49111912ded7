import Capstomp.CustodyKept
import Capstomp.General.Transition

/-!
# The reachable states of a pool

Every action keeps custody of the connections, given the order of the
transactions, so both hold in every state that a pool reaches from its
creation.
-/

namespace Capstomp

open General

variable {s after : System} {sid : SessionId}

section Runs

variable [QueryDecoding] [PassHash] [FrameBytes]
variable {allowed : System → Action → Prop} {name : String}

/-- A run of a pool, any number of sessions in any order. -/
abbrev Runs (allowed : System → Action → Prop) (name : String)
    (s : System) : Prop :=
  Reaches System.step allowed (System.init name) s

theorem Runs.queue (run : Runs allowed name s) : Queue s :=
  Reaches.invariant run (Queue.init name)
    fun _ _ _ _ queue _ stepped => queue.step stepped

theorem Runs.custody (run : Runs allowed name s) : Custody s :=
  Reaches.invariant run (Custody.init name)
    fun _ _ _ reached custody _ stepped =>
      custody.step (Runs.queue reached) stepped

/-- The state of a pool after these actions, if they are enabled. -/
abbrev play (allowed : System → Action → Prop)
    [∀ s action, Decidable (allowed s action)] (name : String)
    (actions : List Action) : Option System :=
  execute System.step allowed (System.init name) actions

/-- The same, when it is known that they are. -/
abbrev final (allowed : System → Action → Prop)
    [∀ s action, Decidable (allowed s action)] (name : String)
    (actions : List Action) : System :=
  executed System.step allowed (System.init name) actions

theorem runs_final [∀ s action, Decidable (allowed s action)]
    {actions : List Action}
    (enabled : (play allowed name actions).isSome) :
    Runs allowed name (final allowed name actions) :=
  reaches_executed enabled

end Runs

/-! ## An environment to execute runs in -/

namespace Sample

/-- Queries without escapes stand for themselves. -/
scoped instance : QueryDecoding := ⟨id⟩

scoped instance : PassHash := ⟨String.length⟩

/-- The text of a frame. -/
def stompText (frame : Frame) : String :=
  let receipt := match frame.receipt with
    | none => ""
    | some id => "receipt:" ++ toString id ++ "\n"
  match frame.body with
  | .logon path login passcode => "CONNECT\nhost:" ++ path ++ "\nlogin:" ++
      login ++ "\npasscode:" ++ passcode ++ "\n\n"
  | .begin id => "BEGIN\ntransaction:" ++ id ++ "\n" ++ receipt ++ "\n"
  | .send destination _ _ =>
      "SEND\ndestination:" ++ destination ++ "\n" ++ receipt ++ "\n"
  | .commit id => "COMMIT\ntransaction:" ++ id ++ "\n" ++ receipt ++ "\n"

scoped instance : FrameBytes where
  data frame :=
    (stompText frame).toList.map (fun char => UInt8.ofNat char.toNat) ++ [0]

def uri (query : String) : Uri where
  login := "guest"
  passcode := "guest"
  addrPort := "127.0.0.1:61613"
  host := "127.0.0.1"
  path := "/vhost"
  rpath := "vhost"
  query := ⟨query.toList, 0, query.toList.length, by simp⟩
  fragment := "/queue/a"

/-- The route of a path. -/
def route (path : String) : String :=
  .ofList (path.toList.drop 1)

/-- The socket is writable and takes what it is given. -/
def writable : Turn :=
  { poll := .events false true, write := .accepted 4096 }

/-- The socket has these packets to read. -/
def heard (packets : List Packet) : Turn :=
  { poll := .events true false, recv := .data packets true }

/-- The peer has closed the connection. -/
def closed : Turn :=
  { poll := .events true false, recv := .closed }

/-- A new socket and a logon without trouble. -/
def connects : ConnectTurns where
  route :=
    { address := true, direct := { created := some 7 }, resolve := .empty }
  logon :=
    { write := [writable], wait := [heard [.connected]], session := "s" }

/-- A statement up to its first row, with a transaction and no receipts. -/
def begins (sid : SessionId) : List Action :=
  [.get sid (uri "transaction=true") 8, .connect sid connects,
    .createTransaction sid, .begin sid 100 { write := [writable] }]

/-- A COMMIT that is sent and confirmed by the receipt `id`. -/
def confirmed (id : ReceiptId) : CommitTurns :=
  { write := [writable], wait := [heard [.receipt id]] }

end Sample

end Capstomp
