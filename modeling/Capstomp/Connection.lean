import Capstomp.CreateConnection
import Capstomp.General.Throwing

/-!
# The connection object

`connection.cpp`: a pooled socket with the STOMP session on it.  The member
functions run in `Io`, which keeps what an exception leaves behind.  Three
things are recorded beside the members of the source, and no branch reads
them: what was written to the socket, which packets were parsed, and for which
session the connection was last handed out.
-/

namespace Capstomp

abbrev ConnId := Nat
abbrev SessionId := Nat

/-- An open descriptor.  `number` tells the sockets of one connection apart,
`target` is the URI it was opened for, `stream` holds the bytes it has taken
and `frames` the frames whose last byte it has taken. -/
structure Socket where
  fd : Nat
  number : Nat
  target : Uri
  stream : List UInt8 := []
  frames : List Frame := []

/-- What the connection relies on of `stomplay_`: the receipts it numbers, the
handlers it still holds, and whether the reply to CONNECT is awaited. -/
structure Stomplay where
  receiptSeq : ReceiptId := 0
  handlers : List ReceiptId := []
  logonPending : Bool := false

/-- A frame that was written completely: for which session, on which of the
connection's sockets. -/
structure Written where
  session : SessionId
  socket : Nat
  frame : Frame
  deriving DecidableEq, Repr

structure Connection where
  conf : Settings := {}
  self : Option ConnId := none
  transactionId : String := ""
  transaction : Option Nat := none
  error : String := ""
  receiptReceived : Bool := true
  passhash : Nat := 0
  destination : String := ""
  socket : Option Socket := none
  stomplay : Stomplay := {}
  totalCount : Nat := 0
  requestCount : Nat := 0
  owner : SessionId := 0
  sockets : Nat := 0
  written : List Written := []
  processed : List Packet := []

/-- `std::hash<std::string_view>`. -/
class PassHash where
  hash : String → Nat

/-- Member functions of `connection`. -/
abbrev Io := EStateM Error Connection

namespace Connection

def good (c : Connection) : Bool :=
  c.socket.isSome

def withTransaction (c : Connection) : Bool :=
  c.transactionId ≠ ""

def withNoError (c : Connection) : Bool :=
  c.conf.noError

def close (c : Connection) : Connection :=
  { c with
    socket := none
    destination := ""
    passhash := 0
    requestCount := 0
    error := "" }

def init (conf : Settings) (c : Connection) : Connection :=
  { c with transactionId := "", error := "", conf := conf }

def setSelf (self : ConnId) (c : Connection) : Connection :=
  { c with self := some self }

def setTransaction (node : Nat) (id : String) (c : Connection) : Connection :=
  { c with transaction := some node, transactionId := id }

def isReceipt (requestLimit : Nat) (c : Connection) : Bool :=
  if !c.conf.receipt then decide (requestLimit ≤ c.requestCount)
  else c.conf.receipt

/-- `std::replace` of the line ends in an error text. -/
def oneLine (text : String) : String :=
  text.map fun char => if char = '\n' then ' ' else char

/-- The callback a parsed packet leads to, if any: `on_logon`, `on_error`, or
the handler registered for the receipt it names, which is called once. -/
def callback (c : Connection) : Packet → Connection
  | .receipt id =>
      if id ∈ c.stomplay.handlers then
        { c with
          receiptReceived := true
          stomplay.handlers := c.stomplay.handlers.filter (· ≠ id) }
      else c
  | .receiptError id payload =>
      if id ∈ c.stomplay.handlers then
        { c with
          receiptReceived := true
          error := payload
          stomplay.handlers := c.stomplay.handlers.filter (· ≠ id) }
      else c
  | .connected =>
      if c.stomplay.logonPending then
        { c with receiptReceived := true, stomplay.logonPending := false }
      else c
  | .logonError payload =>
      if c.stomplay.logonPending then
        { c with
          receiptReceived := true
          error := oneLine payload
          stomplay.logonPending := false }
      else c
  | .error dump => { c with receiptReceived := true, error := oneLine dump }
  | .other => c

def dispatch (c : Connection) (packet : Packet) : Connection :=
  { c.callback packet with processed := c.processed ++ [packet] }

def dispatchAll (packets : List Packet) (c : Connection) : Connection :=
  packets.foldl dispatch c

/-- The socket takes some bytes. -/
def accept (bytes : List UInt8) (c : Connection) : Connection :=
  { c with socket := c.socket.map fun socket =>
      { socket with stream := socket.stream ++ bytes } }

/-- The last byte of a frame is out: `++total_count_`. -/
def finish (frame : Frame) (c : Connection) : Connection :=
  { c with
    totalCount := c.totalCount + 1
    socket := c.socket.map fun socket =>
      { socket with frames := socket.frames ++ [frame] }
    written := c.written ++ c.socket.toList.map fun socket =>
      { session := c.owner, socket := socket.number, frame := frame } }

/-- What `read` does when its peer has closed the connection: the error text
is tested after `close` has cleared it. -/
def disconnected (marker : String) (c : Connection) : Connection :=
  let c := c.close
  let c := if c.error ≠ "" then { c with error := "disconnect: " ++ marker }
    else c
  { c with receiptReceived := true }

/-- What `send` does when its peer has closed the connection. -/
def disconnectedSending (c : Connection) : Connection :=
  let c := c.close
  if c.error ≠ "" then { c with error := "disconnect" } else c

/-- `add_handler` numbers a receipt and requests it in the frame. -/
def addHandler (c : Connection) : Connection :=
  { c with
    stomplay.receiptSeq := c.stomplay.receiptSeq + 1
    stomplay.handlers := c.stomplay.receiptSeq :: c.stomplay.handlers }

end Connection

open Connection

/-- `socket_poll`; a closed socket reports no events. -/
def socketPoll (turn : Turn) : Io (Bool × Bool) := do
  match turn.poll with
  | .failed => throw .poll
  | .events pollIn pollOut =>
      if (← get).good then pure (pollIn, pollOut) else pure (false, false)

def readyRead (turn : Turn) : Io Bool := do
  let events ← socketPoll turn
  pure events.1

def readStomp (marker : String) : Recv → Io Bool
  | .failed => throw (.recv marker)
  | .closed => pure false
  | .data packets parsed => do
      modify (dispatchAll packets)
      if parsed then pure true else throw (.stompParse marker)

/-- The loop of `connection::read`. -/
def awaitReply (marker : String) : List Turn → Io Unit
  | [] => do
      if (← get).receiptReceived then pure () else throw (.timeout marker)
  | turn :: turns => do
      if (← get).receiptReceived then pure ()
      else
        if ← readyRead turn then
          if ← readStomp marker turn.recv then awaitReply marker turns
          else
            modify (disconnected marker)
            awaitReply marker turns
        else throw (.timeout marker)

def read (marker : String) (turns : List Turn) : Io Unit := do
  awaitReply marker turns
  let c ← get
  if c.error ≠ "" then throw (.stomp c.error) else pure ()

/-- The loop of `connection::send(stompconn::buffer)`. -/
def sendLoop : List UInt8 → List Turn → Io Unit
  | _, [] => throw .sendTimeout
  | buffer, turn :: turns => do
      let events ← socketPoll turn
      if events.1 then
        if ← readStomp "send" turn.recv then throw .protocolError
        else
          modify disconnectedSending
          throw .protocolError
      else if events.2 then
        match turn.write with
        | .failed => throw .send
        | .wouldBlock =>
            if buffer = [] then pure () else sendLoop buffer turns
        | .accepted count =>
            modify (accept (buffer.take count))
            if buffer.drop count = [] then pure ()
            else sendLoop (buffer.drop count) turns
      else throw .sendTimeout

section Frames

variable [FrameBytes]

/-- `connection::send(stompconn::buffer)`. -/
def sendBuffer (frame : Frame) (turns : List Turn) : Io Nat := do
  sendLoop (FrameBytes.data frame) turns
  modify (finish frame)
  pure (FrameBytes.data frame).length

/-- The turns of a `send` and of the `read` after it. -/
structure Exchange where
  write : List Turn := []
  wait : List Turn := []
  deriving DecidableEq, Repr

/-- `connection::send<T>(T, bool)`. -/
def sendFrame (body : Body) (receipt : Bool) (turns : List Turn) : Io Nat := do
  if receipt then
    modify fun c => { c with receiptReceived := false }
    let id := (← get).stomplay.receiptSeq
    modify addHandler
    sendBuffer { body := body, receipt := some id } turns
  else
    modify fun c => { c with receiptReceived := true }
    sendBuffer { body := body } turns

/-- `connection::send(stompconn::logon)`. -/
def sendLogon (body : Body) (turns : List Turn) : Io Nat := do
  modify fun c =>
    { c with receiptReceived := false, stomplay.logonPending := true }
  sendBuffer { body := body } turns

/-- The loop of `connection::connected`. -/
def drain : List Turn → Io Bool
  | [] => pure true
  | turn :: turns => do
      if ← readyRead turn then
        if ← readStomp "connected" turn.recv then drain turns
        else
          modify close
          pure false
      else pure true

def connected (turns : List Turn) : Io Bool := do
  if (← get).good then drain turns else pure false

/-- The logon and the session stomplay reports after it. -/
structure LogonTurns extends Exchange where
  session : String := ""

/-- The virtual host of the logon. -/
def Uri.vhost (u : Uri) : String :=
  if u.rpath = "" then "/" else u.rpath

/-- The CONNECT frame for a URI. -/
def Uri.logonBody (u : Uri) : Body :=
  .logon u.vhost u.login u.passcode

def logon (u : Uri) (turns : LogonTurns) : Io Unit := do
  let _ ← sendLogon u.logonBody turns.write
  read "logon" turns.wait
  if turns.session = "" then throw .noSession else pure ()

/-- The outcomes met by `connection::connect` before its `begin`. -/
structure ConnectTurns where
  drain : List Turn := []
  route : Route
  logon : LogonTurns := {}

/-- The socket `create_connection` returns, new to this connection. -/
def openSocket (u : Uri) (fd : Nat) (c : Connection) : Connection :=
  { c with
    socket := some { fd := fd, number := c.sockets, target := u }
    sockets := c.sockets + 1 }

/-- The branch of `connection::connect` that does not reuse the socket. -/
def reconnect [PassHash] (u : Uri) (turns : ConnectTurns) : Io Unit := do
  modify close
  match createConnection u turns.route [] with
  | .error error _ => throw error
  | .ok fd _ =>
      modify (openSocket u fd)
      modify fun c => { c with destination := u.fragment }
      logon u turns.logon
      modify fun c => { c with passhash := PassHash.hash u.passcode }

/-- `connection::connect` up to `begin`. -/
def establish [PassHash] (u : Uri) (turns : ConnectTurns) : Io Unit := do
  let alive ← connected turns.drain
  let c ← get
  if alive ∧ PassHash.hash u.passcode = c.passhash then pure ()
  else reconnect u turns

/-- `connection::connect` up to the point where `begin` creates the
transaction. -/
def connect [PassHash] (u : Uri) (turns : ConnectTurns) : Io Unit := do
  establish u turns
  modify fun c => { c with requestCount := c.requestCount + 1 }

/-- The rest of `connection::begin`, once the transaction is set. -/
def sendBegin (requestLimit : Nat) (turns : Exchange) : Io Unit := do
  let c ← get
  let _ ← sendFrame (.begin c.transactionId) (c.isReceipt requestLimit)
    turns.write
  read "begin" turns.wait

/-- The headers `send_content` adds to those of the frame. -/
def contentHeaders (c : Connection) (now : Nat) (headers : List Header) :
    List Header :=
  headers ++ (if c.conf.timestamp then [.timeSinceEpoch now] else []) ++
    (if c.conf.persistent then [.persistentOn] else []) ++
    (if c.withTransaction then [.transaction c.transactionId] else [])

/-- No receipts are requested between BEGIN and COMMIT. -/
def contentReceipt (c : Connection) (requestLimit : Nat) : Bool :=
  if c.withTransaction then false else c.isReceipt requestLimit

def sendContent (destination : String) (headers : List Header)
    (payload : List UInt8) (now requestLimit : Nat) (turns : Exchange) :
    Io Nat := do
  let c ← get
  let count ← sendFrame
    (.send destination (contentHeaders c now headers) payload)
    (contentReceipt c requestLimit) turns.write
  read "send_content" turns.wait
  pure count

/-- The outcomes met by one `commit_transaction`. -/
structure CommitTurns extends Exchange where
  drain : List Turn := []
  deriving DecidableEq, Repr

/-- The `try` block of `connection::commit_transaction`. -/
def tryCommit (id : String) (receipt : Bool) (turns : CommitTurns) :
    Io Unit := do
  if receipt then
    let _ ← sendFrame (.commit id) receipt turns.write
    read "commit_transaction" turns.wait
  else if ← connected turns.drain then
    let _ ← sendFrame (.commit id) receipt turns.write
    read "commit_transaction" turns.wait
  else pure ()

namespace Connection

/-- What `commit_transaction` leaves of the connection that began the
transaction, its exceptions being swallowed. -/
def commitTransaction (id : String) (receipt : Bool) (turns : CommitTurns)
    (c : Connection) : Connection :=
  General.leftBehind (tryCommit id receipt turns c)

end Connection

end Frames

namespace Connection

/-- `connection::release` before it hands the connection to the pool. -/
def release (requestLimit : Nat) (c : Connection) : Connection :=
  { c with
    transactionId := ""
    requestCount := if requestLimit ≤ c.requestCount then 0
      else c.requestCount }

end Connection

end Capstomp
