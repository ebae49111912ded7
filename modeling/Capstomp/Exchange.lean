import Capstomp.ConnectionPreservation

/-!
# Exactly what a send and a wait do

The two loops of the connection, determined from the outcomes they meet: when
`send` returns and what the socket has then taken, and what ends the wait of
`read`.
-/

namespace Capstomp

open General Connection

/-! ## Callbacks -/

namespace Connection

/-- The packet leads to a callback of the connection. -/
def hasCallback (c : Connection) : Packet → Bool
  | .receipt id => decide (id ∈ c.stomplay.handlers)
  | .receiptError id _ => decide (id ∈ c.stomplay.handlers)
  | .connected => c.stomplay.logonPending
  | .logonError _ => c.stomplay.logonPending
  | .error _ => true
  | .other => false

theorem callback_of_not_hasCallback {c : Connection} {packet : Packet}
    (silent : c.hasCallback packet = false) : c.callback packet = c := by
  cases packet <;> simp_all [hasCallback, callback]

theorem callback_receiptReceived (c : Connection) (packet : Packet) :
    (c.callback packet).receiptReceived =
      (c.receiptReceived || c.hasCallback packet) := by
  cases packet <;> simp only [callback, hasCallback] <;> (try split) <;>
    simp_all

@[simp] theorem dispatchAll_nil (c : Connection) : c.dispatchAll [] = c := rfl

@[simp] theorem dispatchAll_cons (packet : Packet) (packets : List Packet)
    (c : Connection) :
    c.dispatchAll (packet :: packets) =
      (c.dispatch packet).dispatchAll packets := rfl

/-- The record of the packets is read by no callback. -/
theorem dispatchAll_processed (packets record : List Packet)
    (c : Connection) :
    { c with processed := record }.dispatchAll packets =
      { c.dispatchAll packets with processed := record ++ packets } := by
  induction packets generalizing c record with
  | nil => simp
  | cons packet packets induction =>
      have one : { c with processed := record }.dispatch packet =
          { c.dispatch packet with processed := record ++ [packet] } := by
        cases packet <;> simp only [dispatch, callback] <;> (try split) <;> rfl
      rw [dispatchAll_cons, one, induction, List.append_assoc,
        List.singleton_append, dispatchAll_cons]

@[simp] theorem processed_dispatchAll (packets : List Packet)
    (c : Connection) :
    (c.dispatchAll packets).processed = c.processed ++ packets := by
  have whole := dispatchAll_processed packets c.processed c
  exact congrArg Connection.processed whole

theorem callback_socket (c : Connection) (packet : Packet) :
    (c.callback packet).socket = c.socket := by
  cases packet <;> simp only [callback] <;> (try split) <;> rfl

/-- What no callback changes, no packets change. -/
theorem dispatchAll_keeps {α : Type} {field : Connection → α}
    (kept : ∀ c packet, field (c.dispatch packet) = field c)
    (packets : List Packet) (c : Connection) :
    field (c.dispatchAll packets) = field c := by
  induction packets generalizing c with
  | nil => rfl
  | cons packet packets induction =>
      rw [dispatchAll_cons, induction]
      exact kept c packet

@[simp] theorem dispatchAll_socket (packets : List Packet)
    (c : Connection) : (c.dispatchAll packets).socket = c.socket :=
  dispatchAll_keeps callback_socket packets c

/-- Packets without callbacks change nothing but the record. -/
theorem dispatchAll_of_silent {packets : List Packet} {c : Connection}
    (silent : packets.any c.hasCallback = false) :
    c.dispatchAll packets =
      { c with processed := c.processed ++ packets } := by
  induction packets generalizing c with
  | nil => simp
  | cons packet packets induction =>
      simp only [List.any_cons, Bool.or_eq_false_iff] at silent
      have head : c.dispatch packet =
          { c with processed := c.processed ++ [packet] } := by
        simp [dispatch, callback_of_not_hasCallback silent.1]
      have rest : packets.any
          { c with processed := c.processed ++ [packet] }.hasCallback =
            false := by
        rw [← silent.2]
        congr 1
      rw [dispatchAll_cons, head, induction rest]
      simp

theorem dispatchAll_receiptReceived (packets : List Packet)
    (c : Connection) :
    (c.dispatchAll packets).receiptReceived =
      (c.receiptReceived || packets.any c.hasCallback) := by
  induction packets generalizing c with
  | nil => simp
  | cons packet packets induction =>
      have head : (c.dispatch packet).receiptReceived =
          (c.receiptReceived || c.hasCallback packet) :=
        callback_receiptReceived c packet
      rw [dispatchAll_cons, induction, head, List.any_cons]
      cases called : c.hasCallback packet with
      | true => simp
      | false =>
          have same : (c.dispatch packet).hasCallback = c.hasCallback := by
            funext next
            rw [dispatch, callback_of_not_hasCallback called]
            cases next <;> rfl
          simp [same]

end Connection

/-! ## The loop of send -/

/-- The turns let a frame of the given size out: the socket is writable each
time, never readable, and takes all the bytes. -/
def goesOut : Nat → List Turn → Bool
  | _, [] => false
  | left, turn :: turns =>
      match turn.poll, turn.write with
      | .events false true, .accepted count =>
          decide (left ≤ count) || goesOut (left - count) turns
      | .events false true, .wouldBlock =>
          decide (left = 0) || goesOut left turns
      | _, _ => false

/-- How many bytes the socket takes before the loop stops. -/
def taken : Nat → List Turn → Nat
  | _, [] => 0
  | left, turn :: turns =>
      match turn.poll, turn.write with
      | .events false true, .accepted count =>
          if left ≤ count then left else count + taken (left - count) turns
      | .events false true, .wouldBlock =>
          if left = 0 then 0 else taken left turns
      | _, _ => 0

theorem taken_le (left : Nat) (turns : List Turn) : taken left turns ≤ left := by
  induction turns generalizing left with
  | nil => exact Nat.zero_le _
  | cons turn turns induction =>
      unfold taken
      split
      · next count _ _ =>
          split
          · exact Nat.le_refl _
          · have rest := induction (left - count)
            omega
      · split
        · exact Nat.zero_le _
        · exact induction left
      · exact Nat.zero_le _

/-- The loop stops at the end of the stream. -/
def hangsUp : Nat → List Turn → Bool
  | _, [] => false
  | left, turn :: turns =>
      match turn.poll, turn.write with
      | .events true _, _ => decide (turn.recv = .closed)
      | .events false true, .accepted count =>
          !decide (left ≤ count) && hangsUp (left - count) turns
      | .events false true, .wouldBlock =>
          !decide (left = 0) && hangsUp left turns
      | _, _ => false

theorem accept_accept (first second : List UInt8) (c : Connection) :
    (c.accept first).accept second = c.accept (first ++ second) := by
  cases isOpen : c.socket <;> simp [accept, isOpen]

theorem accept_nil (c : Connection) : c.accept [] = c := by
  cases isOpen : c.socket with
  | none => simp [accept, isOpen]; cases c; simp_all
  | some socket => simp [accept, isOpen]; cases c; simp_all

@[simp] theorem accept_good (bytes : List UInt8) (c : Connection) :
    (c.accept bytes).good = c.good := by
  simp [accept, good]

@[simp] theorem finish_good (frame : Frame) (c : Connection) :
    (c.finish frame).good = c.good := by
  simp [finish, good]

theorem socketPoll_failed {turn : Turn} (failed : turn.poll = .failed)
    (c : Connection) : socketPoll turn c = .error .poll c := by
  simp only [socketPoll, failed]
  rfl

theorem socketPoll_events {turn : Turn} {pollIn pollOut : Bool}
    (reported : turn.poll = .events pollIn pollOut) (c : Connection) :
    socketPoll turn c =
      .ok (if c.good then (pollIn, pollOut) else (false, false)) c := by
  simp only [socketPoll, reported, bind, EStateM.bind, get_apply]
  split <;> rfl

/-- What a send that throws leaves: some of its bytes are out, and then the
peer has closed, or packets were parsed, or a call failed. -/
def Abandoned (buffer : List UInt8) (turns : List Turn)
    (before after : Connection) : Prop :=
  let partly := before.accept (buffer.take (taken buffer.length turns))
  if hangsUp buffer.length turns then after = partly.close
  else ∃ packets, after = partly.dispatchAll packets

theorem sendLoop_closed (buffer : List UInt8) (turns : List Turn)
    {c : Connection} (isClosed : c.good = false) :
    ∃ error, sendLoop buffer turns c = .error error c := by
  cases turns with
  | nil => exact ⟨_, rfl⟩
  | cons turn turns =>
      cases polled : turn.poll with
      | failed =>
          refine ⟨.poll, ?_⟩
          simp [sendLoop, bind, EStateM.bind, socketPoll_failed polled]
      | events pollIn pollOut =>
          refine ⟨.sendTimeout, ?_⟩
          simp only [sendLoop, bind, EStateM.bind, socketPoll_events polled,
            isClosed]
          rfl

/-- Readable data while sending ends the loop with an exception. -/
theorem sendLoop_readable (buffer : List UInt8) {turn : Turn}
    (turns : List Turn) {c : Connection} {pollOut : Bool} (isOpen : c.good)
    (polled : turn.poll = .events true pollOut) :
    ∃ error after, sendLoop buffer (turn :: turns) c = .error error after ∧
      if turn.recv = .closed then after = c.close
      else ∃ packets, after = c.dispatchAll packets := by
  have poll : socketPoll turn c = .ok (true, pollOut) c := by
    simp [socketPoll_events polled, isOpen]
  cases received : turn.recv with
  | failed =>
      refine ⟨.recv "send", c, ?_, ⟨[], rfl⟩⟩
      simp only [sendLoop, bind, EStateM.bind, poll, received, readStomp]
      rfl
  | closed =>
      refine ⟨.protocolError, c.close, ?_, rfl⟩
      simp only [sendLoop, bind, EStateM.bind, poll, received, readStomp]
      rw [← disconnectedSending_eq]
      rfl
  | data packets parsed =>
      have outcome : ∃ error, sendLoop buffer (turn :: turns) c =
          .error error (c.dispatchAll packets) := by
        simp only [sendLoop, bind, EStateM.bind, poll, received]
        cases parsed <;> exact ⟨_, rfl⟩
      obtain ⟨error, thrown⟩ := outcome
      exact ⟨error, _, thrown, ⟨packets, rfl⟩⟩

/-- A writable socket takes some bytes, and the loop goes on with the rest. -/
theorem sendLoop_accepted (buffer : List UInt8) {turn : Turn}
    (turns : List Turn) {c : Connection} {count : Nat} (isOpen : c.good)
    (polled : turn.poll = .events false true)
    (wrote : turn.write = .accepted count) :
    sendLoop buffer (turn :: turns) c =
      if buffer.drop count = [] then .ok () (c.accept (buffer.take count))
      else sendLoop (buffer.drop count) turns
        (c.accept (buffer.take count)) := by
  have poll : socketPoll turn c = .ok (false, true) c := by
    simp [socketPoll_events polled, isOpen]
  simp only [sendLoop, bind, EStateM.bind, poll, wrote, Bool.false_eq_true,
    if_false, if_true]
  by_cases done : buffer.drop count = [] <;>
    simp only [done, if_true, if_false] <;> rfl

theorem sendLoop_wouldBlock (buffer : List UInt8) {turn : Turn}
    (turns : List Turn) {c : Connection} (isOpen : c.good)
    (polled : turn.poll = .events false true)
    (wrote : turn.write = .wouldBlock) :
    sendLoop buffer (turn :: turns) c =
      if buffer = [] then .ok () c else sendLoop buffer turns c := by
  have poll : socketPoll turn c = .ok (false, true) c := by
    simp [socketPoll_events polled, isOpen]
  simp only [sendLoop, bind, EStateM.bind, poll, wrote, Bool.false_eq_true,
    if_false, if_true]
  by_cases done : buffer = []
  · simp only [done, if_true]
    rfl
  · simp only [done, if_false]

/-- In every other case the loop stops without having read or written. -/
theorem sendLoop_stopped (buffer : List UInt8) {turn : Turn}
    (turns : List Turn) {c : Connection} (isOpen : c.good)
    (stops : turn.poll = .failed ∨ turn.poll = .events false false ∨
      (turn.poll = .events false true ∧ turn.write = .failed)) :
    ∃ error, sendLoop buffer (turn :: turns) c = .error error c := by
  rcases stops with failed | quiet | ⟨polled, wrote⟩
  · refine ⟨.poll, ?_⟩
    simp [sendLoop, bind, EStateM.bind, socketPoll_failed failed]
  · refine ⟨.sendTimeout, ?_⟩
    simp only [sendLoop, bind, EStateM.bind, socketPoll_events quiet, isOpen]
    rfl
  · refine ⟨.send, ?_⟩
    simp only [sendLoop, bind, EStateM.bind, socketPoll_events polled, isOpen,
      wrote]
    rfl

theorem goesOut_accepted {turn : Turn} {count : Nat}
    (polled : turn.poll = .events false true)
    (wrote : turn.write = .accepted count) (buffer : List UInt8)
    (turns : List Turn) :
    goesOut buffer.length (turn :: turns) =
      (decide (buffer.drop count = []) ||
        goesOut (buffer.drop count).length turns) := by
  simp [goesOut, polled, wrote]

theorem hangsUp_accepted {turn : Turn} {count : Nat}
    (polled : turn.poll = .events false true)
    (wrote : turn.write = .accepted count) (buffer : List UInt8)
    (turns : List Turn) :
    hangsUp buffer.length (turn :: turns) =
      (!decide (buffer.drop count = []) &&
        hangsUp (buffer.drop count).length turns) := by
  simp [hangsUp, polled, wrote]

theorem take_taken_accepted {turn : Turn} {count : Nat}
    (polled : turn.poll = .events false true)
    (wrote : turn.write = .accepted count) (buffer : List UInt8)
    (turns : List Turn) :
    buffer.take (taken buffer.length (turn :: turns)) =
      buffer.take count ++ (buffer.drop count).take
        (taken (buffer.drop count).length turns) := by
  simp only [taken, polled, wrote]
  split
  · next all =>
      have nothing : buffer.drop count = [] := List.drop_eq_nil_of_le all
      simp [nothing, List.take_of_length_le all]
  · rw [List.take_add, List.length_drop]

/-- The loop of `send` on an open socket returns exactly when the turns let
the whole buffer out. -/
theorem sendLoop_open (buffer : List UInt8) (turns : List Turn)
    {c : Connection} (isOpen : c.good) :
    (goesOut buffer.length turns = true ∧
        sendLoop buffer turns c = .ok () (c.accept buffer)) ∨
      (goesOut buffer.length turns = false ∧
        ∃ error after, sendLoop buffer turns c = .error error after ∧
          Abandoned buffer turns c after) := by
  induction turns generalizing buffer c with
  | nil =>
      refine .inr ⟨rfl, .sendTimeout, c, rfl, ?_⟩
      exact ⟨[], by simp [taken, accept_nil]⟩
  | cons turn turns induction =>
      have stopped (stops : turn.poll = .failed ∨
          turn.poll = .events false false ∨
          (turn.poll = .events false true ∧ turn.write = .failed)) :
          goesOut buffer.length (turn :: turns) = false ∧
            ∃ error after,
              sendLoop buffer (turn :: turns) c = .error error after ∧
                Abandoned buffer (turn :: turns) c after := by
        obtain ⟨error, thrown⟩ := sendLoop_stopped buffer turns isOpen stops
        have untaken : taken buffer.length (turn :: turns) = 0 := by
          rcases stops with h | h | ⟨h, h'⟩ <;> simp [taken, *]
        have waits : hangsUp buffer.length (turn :: turns) = false := by
          rcases stops with h | h | ⟨h, h'⟩ <;> simp [hangsUp, *]
        refine ⟨?_, error, c, thrown, ?_⟩
        · rcases stops with h | h | ⟨h, h'⟩ <;> simp [goesOut, *]
        · simp only [Abandoned, waits]
          exact ⟨[], by simp [untaken, accept_nil]⟩
      cases polled : turn.poll with
      | failed => exact .inr (stopped (.inl polled))
      | events pollIn pollOut =>
          cases pollIn with
          | true =>
              obtain ⟨error, after, thrown, left⟩ :=
                sendLoop_readable buffer turns isOpen polled
              refine .inr ⟨by simp [goesOut, polled], error, after, thrown, ?_⟩
              simpa [Abandoned, taken, hangsUp, polled, accept_nil] using left
          | false =>
              cases pollOut with
              | false => exact .inr (stopped (.inr (.inl polled)))
              | true =>
                  cases wrote : turn.write with
                  | failed => exact .inr (stopped (.inr (.inr ⟨polled, wrote⟩)))
                  | wouldBlock =>
                      rw [sendLoop_wouldBlock buffer turns isOpen polled wrote]
                      by_cases empty : buffer = []
                      · subst empty
                        simp [goesOut, polled, wrote, accept_nil]
                      · have positive : buffer.length ≠ 0 := by
                          simpa using empty
                        simpa [goesOut, taken, hangsUp, Abandoned, polled,
                          wrote, empty, positive] using induction buffer isOpen
                  | accepted count =>
                      rw [sendLoop_accepted buffer turns isOpen polled wrote,
                        goesOut_accepted polled wrote]
                      simp only [Abandoned, take_taken_accepted polled wrote,
                        hangsUp_accepted polled wrote, ← accept_accept]
                      by_cases rest : buffer.drop count = []
                      · have all : buffer.take count = buffer := by
                          have whole := List.take_append_drop count buffer
                          rwa [rest, List.append_nil] at whole
                        simp [rest, all]
                      · have going := induction (buffer.drop count)
                          (c := c.accept (buffer.take count))
                          (by simpa using isOpen)
                        simpa [rest, accept_accept, Abandoned] using going

/-! ## Frames -/

section Frames

variable [FrameBytes]

/-- `send` of a whole frame: it returns with all the bytes out, or throws on a
closed socket without touching it, or abandons the frame on the way. -/
theorem sendBuffer_outcome (frame : Frame) (turns : List Turn)
    (c : Connection) :
    (c.good ∧ goesOut (FrameBytes.data frame).length turns ∧
        sendBuffer frame turns c =
          .ok (FrameBytes.data frame).length
            ((c.accept (FrameBytes.data frame)).finish frame)) ∨
      ∃ error after, sendBuffer frame turns c = .error error after ∧
        ((c.good = false ∧ after = c) ∨
          (c.good ∧ goesOut (FrameBytes.data frame).length turns = false ∧
            Abandoned (FrameBytes.data frame) turns c after)) := by
  cases isOpen : c.good with
  | false =>
      obtain ⟨error, thrown⟩ :=
        sendLoop_closed (FrameBytes.data frame) turns isOpen
      refine .inr ⟨error, c, ?_, .inl ⟨rfl, rfl⟩⟩
      simp [sendBuffer, bind, EStateM.bind, thrown]
  | true =>
      rcases sendLoop_open (FrameBytes.data frame) turns isOpen with
        ⟨out, returned⟩ | ⟨stops, error, after, thrown, abandoned⟩
      · refine .inl ⟨rfl, out, ?_⟩
        simp only [sendBuffer, bind, EStateM.bind, returned]
        rfl
      · refine .inr ⟨error, after, ?_, .inr ⟨rfl, stops, abandoned⟩⟩
        simp [sendBuffer, bind, EStateM.bind, thrown]

/-- The frame `send<T>` writes. -/
def framed (body : Body) (receipt : Bool) (c : Connection) : Frame :=
  { body := body
    receipt := if receipt then some c.stomplay.receiptSeq else none }

/-- The connection when `send<T>` starts to write. -/
def requesting (receipt : Bool) (c : Connection) : Connection :=
  if receipt then { c with receiptReceived := false }.addHandler
  else { c with receiptReceived := true }

theorem sendFrame_eq (body : Body) (receipt : Bool) (turns : List Turn)
    (c : Connection) :
    sendFrame body receipt turns c =
      sendBuffer (framed body receipt c) turns (requesting receipt c) := by
  cases receipt <;> rfl

/-- The connection when the CONNECT frame is written. -/
def loggingOn (c : Connection) : Connection :=
  { c with receiptReceived := false, stomplay.logonPending := true }

theorem sendLogon_eq (body : Body) (turns : List Turn) (c : Connection) :
    sendLogon body turns c = sendBuffer { body := body } turns (loggingOn c) :=
  rfl

omit [FrameBytes] in
@[simp] theorem requesting_good (receipt : Bool) (c : Connection) :
    (requesting receipt c).good = c.good := by
  cases receipt <;> rfl

/-- A frame is sent exactly when the socket is open and the turns let it
out. -/
theorem sendBuffer_ok_iff (frame : Frame) (turns : List Turn)
    (c sent : Connection) (count : Nat) :
    sendBuffer frame turns c = .ok count sent ↔
      c.good ∧ goesOut (FrameBytes.data frame).length turns ∧
        count = (FrameBytes.data frame).length ∧
        sent = (c.accept (FrameBytes.data frame)).finish frame := by
  rcases sendBuffer_outcome frame turns c with
    ⟨isOpen, out, returned⟩ | ⟨error, after, thrown, reason⟩
  · rw [returned]
    constructor
    · intro same
      cases same
      exact ⟨isOpen, out, rfl, rfl⟩
    · rintro ⟨_, _, rfl, rfl⟩
      rfl
  · rw [thrown]
    simp only [reduceCtorEq, false_iff]
    rintro ⟨isOpen, out, _⟩
    rcases reason with ⟨isClosed, _⟩ | ⟨_, stops, _⟩
    · simp [isOpen] at isClosed
    · simp [out] at stops

theorem sendFrame_ok_iff (body : Body) (receipt : Bool) (turns : List Turn)
    (c sent : Connection) (count : Nat) :
    sendFrame body receipt turns c = .ok count sent ↔
      c.good ∧
        goesOut (FrameBytes.data (framed body receipt c)).length turns ∧
        count = (FrameBytes.data (framed body receipt c)).length ∧
        sent = ((requesting receipt c).accept
          (FrameBytes.data (framed body receipt c))).finish
            (framed body receipt c) := by
  rw [sendFrame_eq, sendBuffer_ok_iff, requesting_good]

end Frames

/-! ## The loop of read -/

/-- The socket has something to read. -/
def Turn.readable (turn : Turn) : Bool :=
  match turn.poll with
  | .events pollIn _ => pollIn
  | .failed => false

theorem awaitReply_received (marker : String) (turns : List Turn)
    {c : Connection} (received : c.receiptReceived) :
    awaitReply marker turns c = .ok () c := by
  cases turns <;>
    simp [awaitReply, bind, EStateM.bind, received]

/-- A turn that is not readable ends the wait with an exception. -/
theorem awaitReply_unreadable (marker : String) {turn : Turn}
    (turns : List Turn) {c : Connection} (isOpen : c.good)
    (waiting : c.receiptReceived = false)
    (unreadable : turn.readable = false) :
    ∃ error, awaitReply marker (turn :: turns) c = .error error c := by
  cases polled : turn.poll with
  | failed =>
      refine ⟨.poll, ?_⟩
      simp [awaitReply, bind, EStateM.bind, waiting, readyRead,
        socketPoll_failed polled]
  | events pollIn pollOut =>
      have quiet : pollIn = false := by
        simpa [Turn.readable, polled] using unreadable
      subst quiet
      refine ⟨.timeout marker, ?_⟩
      simp [awaitReply, bind, EStateM.bind, waiting, readyRead,
        socketPoll_events polled, isOpen]

/-- A readable turn hands over to `read_stomp`. -/
theorem awaitReply_readable (marker : String) {turn : Turn}
    (turns : List Turn) {c : Connection} (isOpen : c.good)
    (waiting : c.receiptReceived = false) (readable : turn.readable) :
    awaitReply marker (turn :: turns) c =
      match turn.recv with
      | .failed => .error (.recv marker) c
      | .closed => .ok () (c.disconnected marker)
      | .data packets parsed =>
          if parsed then awaitReply marker turns (c.dispatchAll packets)
          else .error (.stompParse marker) (c.dispatchAll packets) := by
  obtain ⟨pollOut, polled⟩ : ∃ pollOut, turn.poll = .events true pollOut := by
    cases polled : turn.poll with
    | failed => simp [Turn.readable, polled] at readable
    | events pollIn pollOut =>
        exact ⟨pollOut, by simpa [Turn.readable, polled] using readable⟩
  have ready : readyRead turn c = .ok true c := by
    simp [readyRead, bind, EStateM.bind, socketPoll_events polled, isOpen]
  have start : awaitReply marker (turn :: turns) c =
      (readStomp marker turn.recv >>= fun more =>
        if more then awaitReply marker turns
        else do
          modify (disconnected marker)
          awaitReply marker turns) c := by
    simp only [awaitReply, bind, EStateM.bind, get_apply, waiting,
      Bool.false_eq_true, if_false, ready, if_true]
  rw [start]
  cases turn.recv with
  | failed => rfl
  | closed =>
      have received : (c.disconnected marker).receiptReceived := by
        simp [disconnected]
      exact awaitReply_received marker turns received
  | data packets parsed => cases parsed <;> rfl

end Capstomp
