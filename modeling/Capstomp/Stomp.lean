import Capstomp.Settings

/-!
# Frames, packets and the outcomes of system calls

What the connection code says to its peer and hears from it.  The STOMP
library is not part of the repository: a frame keeps what the plugin puts
into it, its bytes are a parameter, and a packet is one report that
`stomplay::parse` makes to the callbacks the connection has registered.
-/

namespace Capstomp

abbrev ReceiptId := Nat

/-- The headers the plugin pushes to a SEND frame. -/
inductive Header where
  | timeSinceEpoch (now : Nat)
  | persistentOn
  | transaction (id : String)
  | contentTypeJson
  | pair (key value : List UInt8)
  deriving DecidableEq, Repr

/-- A frame before a receipt is requested for it. -/
inductive Body where
  | logon (path login passcode : String)
  | begin (transaction : String)
  | send (destination : String) (headers : List Header)
      (payload : List UInt8)
  | commit (transaction : String)
  deriving DecidableEq, Repr

structure Frame where
  body : Body
  receipt : Option ReceiptId := none
  deriving DecidableEq, Repr

/-- Frames as bytes: `frame.data()`. -/
class FrameBytes where
  data : Frame → List UInt8

/-- One report of `stomplay::parse`: the RECEIPT or the ERROR that names a
receipt, the reply to CONNECT, an ERROR that names no receipt, or a packet
without a callback. -/
inductive Packet where
  | receipt (id : ReceiptId)
  | receiptError (id : ReceiptId) (payload : String)
  | connected
  | logonError (payload : String)
  | error (dump : String)
  | other
  deriving DecidableEq, Repr

/-- `poll`: a failure, or the events reported within the timeout. -/
inductive Poll where
  | failed
  | events (pollIn pollOut : Bool)
  deriving DecidableEq, Repr

/-- `::recv`: a failure, the end of the stream, or bytes, given by the
packets `stomplay::parse` reports for them and by whether it accepts all of
them. -/
inductive Recv where
  | failed
  | closed
  | data (packets : List Packet) (parsed : Bool)
  deriving DecidableEq, Repr

/-- `buffer::write`: a failure, an operation that would block, or the number
of bytes the socket took. -/
inductive Write where
  | failed
  | wouldBlock
  | accepted (count : Nat)
  deriving DecidableEq, Repr

/-- One turn of an I/O loop: what `poll` reports, and what the call it leads
to would return.  A loop runs on a list of turns; when the list is used up
nothing more happens on the socket. -/
structure Turn where
  poll : Poll
  recv : Recv := .failed
  write : Write := .failed
  deriving DecidableEq, Repr

/-- What the plugin reads of a `btpro::uri`; `addrPort` has the default port
61613 filled in. -/
structure Uri where
  login : String
  passcode : String
  addrPort : String
  host : String
  path : String
  rpath : String
  query : StringView
  fragment : String
  deriving DecidableEq

/-- The exceptions of the plugin. -/
inductive Error where
  | poll
  | recv (marker : String)
  | stompParse (marker : String)
  | timeout (marker : String)
  | stomp (text : String)
  | protocolError
  | send
  | sendTimeout
  | noSession
  | address
  | socket
  | connect
  | connectTimeout
  | getaddrinfo (code : Int) (host : String)
  | unresolved (host : String)
  | maxPoolSockets (limit : Nat)
  | maxPoolCount (limit : Nat)
  | eraseNotFound (name : String)
  | eraseRunning (name : String) (running : Nat)
  | commitNotFound (name : String)
  deriving DecidableEq, Repr

/-- The text the code gives to an exception; the system may add its own. -/
def Error.what : Error → String
  | .poll => "poll"
  | .recv marker => "recv: " ++ marker
  | .stompParse marker => "stomp parse: " ++ marker
  | .timeout marker => "timeout: " ++ marker
  | .stomp text => text
  | .protocolError => "protocol error"
  | .send => "send"
  | .sendTimeout => "send timeout"
  | .noSession => "stomplay: no session"
  | .address => "address"
  | .socket => "socket"
  | .connect => "::connect"
  | .connectTimeout => "connect timeout"
  | .getaddrinfo code host => "getaddrinfo: " ++ toString code ++ " " ++ host
  | .unresolved host => "unable to connect getaddrinfo: " ++ host
  | .maxPoolSockets limit => "pool: max pool sockets=" ++ toString limit
  | .maxPoolCount limit => "store: max pool count =" ++ toString limit
  | .eraseNotFound name => "store erase: " ++ name ++ " - not found"
  | .eraseRunning name running =>
      "store erase: " ++ name ++ " - has " ++ toString running ++ " running"
  | .commitNotFound name => "store commit: " ++ name ++ " - not found"

end Capstomp
