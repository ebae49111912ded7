import Capstomp.Confirmation
import Capstomp.Writing

/-!
# What a call leaves on the socket

A socket is tidy when it has taken whole frames and no receipt requested in
them is outstanding (`Tidy`).  Reading keeps it so; for the calls that write,
this file determines the outcomes after which the socket is still tidy.
-/

namespace Capstomp

open General Connection

/-! ## The reply to a receipt -/

/-- The packet answers the receipt `id`. -/
def Packet.repliesTo (id : ReceiptId) : Packet → Bool
  | .receipt named => decide (named = id)
  | .receiptError named _ => decide (named = id)
  | _ => false

/-- The wait meets the reply to `id`, or the end of the stream, before
anything else ends it. -/
def settles (c : Connection) (id : ReceiptId) : List Turn → Bool
  | [] => false
  | turn :: turns =>
      turn.readable &&
        match turn.recv with
        | .failed => false
        | .closed => true
        | .data packets parsed =>
            packets.any (·.repliesTo id) ||
              (parsed && !packets.any c.hasCallback && settles c id turns)

/-- The wait ends without an error text, by packets among which is no reply to
`id`. -/
def slips (c : Connection) (id : ReceiptId) : List Turn → Bool
  | [] => false
  | turn :: turns =>
      turn.readable &&
        match turn.recv with
        | .data packets true =>
            if packets.any c.hasCallback then
              decide ((c.dispatchAll packets).error = "") &&
                !packets.any (·.repliesTo id)
            else slips c id turns
        | _ => false

theorem settles_congr {c d : Connection} (holds : c.stomplay = d.stomplay)
    (id : ReceiptId) (turns : List Turn) :
    settles c id turns = settles d id turns := by
  have callbacks : c.hasCallback = d.hasCallback := by
    funext packet
    cases packet <;> simp [hasCallback, holds]
  induction turns with
  | nil => rfl
  | cons turn turns induction => simp only [settles, callbacks, induction]

theorem slips_congr {c d : Connection} (errors : c.error = d.error)
    (holds : c.stomplay = d.stomplay) (id : ReceiptId) (turns : List Turn) :
    slips c id turns = slips d id turns := by
  have callbacks : c.hasCallback = d.hasCallback := by
    funext packet
    cases packet <;> simp [hasCallback, holds]
  induction turns with
  | nil => rfl
  | cons turn turns induction =>
      simp only [slips, callbacks, induction,
        dispatchAll_agree _ errors holds]

/-- A handler is called by the reply to its receipt alone. -/
theorem mem_handlers_dispatchAll {id : ReceiptId} (packets : List Packet)
    (c : Connection) :
    id ∈ (c.dispatchAll packets).stomplay.handlers ↔
      id ∈ c.stomplay.handlers ∧ packets.any (·.repliesTo id) = false := by
  induction packets generalizing c with
  | nil => simp
  | cons packet packets induction =>
      have one : id ∈ (c.dispatch packet).stomplay.handlers ↔
          id ∈ c.stomplay.handlers ∧ packet.repliesTo id = false := by
        cases packet <;> simp only [dispatch, callback, Packet.repliesTo] <;>
          (try split) <;> grind
      rw [dispatchAll_cons, induction, one, List.any_cons, Bool.or_eq_false_iff,
        and_assoc]

theorem hasCallback_of_repliesTo {id : ReceiptId} {c : Connection}
    (awaited : id ∈ c.stomplay.handlers) {packets : List Packet}
    (replied : packets.any (·.repliesTo id)) :
    packets.any c.hasCallback := by
  obtain ⟨packet, member, replies⟩ := List.any_eq_true.mp replied
  refine List.any_eq_true.mpr ⟨packet, member, ?_⟩
  cases packet <;> simp_all [Packet.repliesTo, hasCallback]

theorem leftBehind_read (marker : String) (turns : List Turn)
    (c : Connection) :
    leftBehind (read marker turns c) =
      leftBehind (awaitReply marker turns c) := by
  simp only [read, bind, EStateM.bind]
  cases awaitReply marker turns c with
  | error error left => rfl
  | ok _ final =>
      simp only [get_apply]
      split <;> rfl

/-- Whether a receipt is outstanding after a wait for it. -/
theorem read_settled_iff (marker : String) (id : ReceiptId)
    (turns : List Turn) (c : Connection) (isOpen : c.good)
    (waiting : c.receiptReceived = false)
    (awaited : id ∈ c.stomplay.handlers) :
    let after := leftBehind (read marker turns c)
    (after.good = false ∨ id ∉ after.stomplay.handlers) ↔
      settles c id turns := by
  simp only [leftBehind_read]
  have unsettled : ¬ (c.good = false ∨ id ∉ c.stomplay.handlers) := by
    simp [isOpen, awaited]
  induction turns generalizing c with
  | nil =>
      have timeout : awaitReply marker [] c = .error (.timeout marker) c := by
        simp [awaitReply, bind, EStateM.bind, waiting]
      simpa [timeout, settles] using unsettled
  | cons turn turns induction =>
      by_cases readable : turn.readable
      · rw [awaitReply_readable marker turns isOpen waiting readable]
        simp only [settles, readable, Bool.true_and]
        cases turn.recv with
        | failed => simpa using unsettled
        | closed => simp [good]
        | data packets parsed =>
            have dispatched : ((c.dispatchAll packets).good = false ∨
                id ∉ (c.dispatchAll packets).stomplay.handlers) ↔
                  packets.any (·.repliesTo id) = true := by
              rw [good, dispatchAll_socket, ← good, mem_handlers_dispatchAll]
              simp [isOpen, awaited]
            cases called : packets.any c.hasCallback with
            | true =>
                -- The wait ends here, one way or the other.
                have ended : (c.dispatchAll packets).receiptReceived := by
                  rw [dispatchAll_receiptReceived, called, Bool.or_true]
                have same : leftBehind
                    (if parsed then
                      awaitReply marker turns (c.dispatchAll packets)
                    else .error (.stompParse marker)
                      (c.dispatchAll packets)) = c.dispatchAll packets := by
                  cases parsed <;> simp [awaitReply_received marker turns ended]
                rw [same, dispatched]
                simp only [called, Bool.not_true, Bool.and_false,
                  Bool.false_and, Bool.or_false]
            | false =>
                have silent : packets.any (·.repliesTo id) = false := by
                  apply Bool.eq_false_iff.mpr
                  intro replied
                  simp [hasCallback_of_repliesTo awaited replied] at called
                have same := dispatchAll_of_silent called
                cases parsed with
                | false => simpa [silent] using dispatched
                | true =>
                    have going := induction (c.dispatchAll packets)
                      (by rw [same]; exact isOpen)
                      (by rw [same]; exact waiting)
                      (by rw [same]; exact awaited)
                      (by rw [dispatched]; simp [silent])
                    rw [settles_congr (d := c) (by rw [same])] at going
                    simp only [if_true, going, silent, called, Bool.not_false,
                      Bool.and_true, Bool.true_and, Bool.false_or]
      · have quiet : turn.readable = false := by simpa using readable
        obtain ⟨error, thrown⟩ :=
          awaitReply_unreadable marker turns isOpen waiting quiet
        simpa [thrown, settles, quiet] using unsettled

/-- A wait that returns leaves the receipt outstanding exactly when it
slips. -/
theorem read_slips_iff (marker : String) (id : ReceiptId)
    (turns : List Turn) (c : Connection) (isOpen : c.good)
    (waiting : c.receiptReceived = false)
    (awaited : id ∈ c.stomplay.handlers) :
    (∃ final, read marker turns c = .ok () final ∧ final.good ∧
        id ∈ final.stomplay.handlers) ↔ slips c id turns := by
  induction turns generalizing c with
  | nil =>
      simp [read_ok_iff, slips, awaitReply, bind, EStateM.bind, waiting]
  | cons turn turns induction =>
      by_cases readable : turn.readable
      · have step := awaitReply_readable marker turns isOpen waiting readable
        simp only [slips, readable, Bool.true_and]
        cases received : turn.recv with
        | failed => simp [read_ok_iff, step, received]
        | closed =>
            simp only [read_ok_iff, step, received, Bool.false_eq_true,
              iff_false]
            rintro ⟨final, ⟨same, _⟩, isGood, _⟩
            cases same
            simp [good] at isGood
        | data packets parsed =>
            cases parsed with
            | false => simp [read_ok_iff, step, received]
            | true =>
                cases called : packets.any c.hasCallback with
                | true =>
                    simp only [called, if_true,
                      read_of_callback marker turns isOpen waiting readable
                        received called]
                    constructor
                    · rintro ⟨_, ⟨rfl, clean⟩, _, member⟩
                      rw [mem_handlers_dispatchAll] at member
                      simp only [clean, member.2, decide_true, Bool.not_false,
                        Bool.and_true]
                    · intro slip
                      simp only [Bool.and_eq_true, decide_eq_true_eq,
                        Bool.not_eq_true'] at slip
                      refine ⟨_, ⟨rfl, slip.1⟩, ?_,
                        (mem_handlers_dispatchAll ..).mpr ⟨awaited, slip.2⟩⟩
                      rwa [good, dispatchAll_socket]
                | false =>
                    have same := dispatchAll_of_silent called
                    have going := induction (c.dispatchAll packets)
                      (by rw [same]; exact isOpen)
                      (by rw [same]; exact waiting)
                      (by rw [same]; exact awaited)
                    rw [slips_congr (d := c) (by rw [same]) (by rw [same])]
                      at going
                    simpa only [called, Bool.false_eq_true, if_false,
                      read_of_silence marker turns isOpen waiting readable
                        received] using going
      · have quiet : turn.readable = false := by simpa using readable
        obtain ⟨error, thrown⟩ :=
          awaitReply_unreadable marker turns isOpen waiting quiet
        simp [read_ok_iff, thrown, slips, quiet]

/-! ## Tidy sockets -/

section Frames

variable [FrameBytes]

/-- An open socket has taken whole frames, and of the receipts requested in
them at most the one that is awaited is outstanding. -/
structure TidyBut (awaited : Option ReceiptId) (c : Connection) : Prop where
  whole : ∀ socket, c.socket = some socket →
    socket.stream = socket.frames.flatMap FrameBytes.data
  numbered : ∀ socket, c.socket = some socket → ∀ frame ∈ socket.frames,
    ∀ id, frame.receipt = some id → id < c.stomplay.receiptSeq
  answered : ∀ socket, c.socket = some socket → ∀ frame ∈ socket.frames,
    ∀ id, frame.receipt = some id → id ∈ c.stomplay.handlers →
      awaited = some id

/-- No receipt is awaited: the next frame starts where a frame can start. -/
abbrev Tidy (c : Connection) : Prop := TidyBut none c

variable {awaited : Option ReceiptId} {c before after : Connection}

theorem tidy_of_closed (isClosed : c.good = false) : TidyBut awaited c := by
  have none : c.socket = none := by simpa [good] using isClosed
  constructor <;> simp [none]

theorem tidy_congr (tidy : TidyBut awaited before)
    (socket : after.socket = before.socket)
    (seq : after.stomplay.receiptSeq = before.stomplay.receiptSeq)
    (handlers : after.stomplay.handlers = before.stomplay.handlers) :
    TidyBut awaited after := by
  constructor
  · rw [socket]
    exact tidy.whole
  · rw [socket, seq]
    exact tidy.numbered
  · rw [socket, handlers]
    exact tidy.answered

/-- Reading leaves a socket tidy. -/
theorem tidy_receives (tidy : TidyBut awaited before)
    (receives : Receives before after) : TidyBut awaited after where
  whole socket isOpen := tidy.whole socket (receives.sameSocket socket isOpen)
  numbered socket isOpen frame member id requested := by
    rw [receives.receiptSeq]
    exact tidy.numbered socket (receives.sameSocket socket isOpen) frame
      member id requested
  answered socket isOpen frame member id requested outstanding :=
    tidy.answered socket (receives.sameSocket socket isOpen) frame member id
      requested (receives.handlers outstanding)

/-- The awaited receipt is no longer outstanding, or the socket is closed. -/
theorem tidy_settled {id : ReceiptId} (tidy : TidyBut (some id) c)
    (settled : c.good = false ∨ id ∉ c.stomplay.handlers) : Tidy c := by
  rcases settled with isClosed | answered
  · exact tidy_of_closed isClosed
  · refine ⟨tidy.whole, tidy.numbered, ?_⟩
    intro socket isOpen frame member other requested outstanding
    cases tidy.answered socket isOpen frame member other requested outstanding
    exact absurd outstanding answered

theorem tidy_requesting (tidy : Tidy c) (receipt : Bool) :
    Tidy (requesting receipt c) := by
  cases receipt with
  | false => exact tidy_congr tidy rfl rfl rfl
  | true =>
      refine ⟨tidy.whole, ?_, ?_⟩
      · intro socket isOpen frame member id requested
        exact Nat.lt_succ_of_lt
          (tidy.numbered socket isOpen frame member id requested)
      · intro socket isOpen frame member id requested outstanding
        rcases List.mem_cons.mp outstanding with rfl | old
        · exact absurd (tidy.numbered socket isOpen frame member _ requested)
            (Nat.lt_irrefl _)
        · exact tidy.answered socket isOpen frame member id requested old

/-- A frame that went out completely. -/
theorem tidy_sent (tidy : Tidy c) (frame : Frame)
    (numbered : ∀ id, frame.receipt = some id → id < c.stomplay.receiptSeq) :
    TidyBut frame.receipt
      ((c.accept (FrameBytes.data frame)).finish frame) := by
  constructor
  all_goals
    intro socket isOpen
    simp only [finish, accept, Option.map_map, Option.map_eq_some_iff,
      Function.comp_apply] at isOpen
    obtain ⟨open₀, wasOpen, rfl⟩ := isOpen
  case whole => simp [tidy.whole open₀ wasOpen]
  case numbered =>
      intro other member id requested
      rcases List.mem_append.mp member with old | new
      · exact tidy.numbered open₀ wasOpen other old id requested
      · rw [List.mem_singleton.mp new] at requested
        exact numbered id requested
  case answered =>
      intro other member id requested outstanding
      rcases List.mem_append.mp member with old | new
      · cases tidy.answered open₀ wasOpen other old id requested outstanding
      · rwa [List.mem_singleton.mp new] at requested

theorem sendFrame_tidy (tidy : Tidy c) {body : Body} {receipt : Bool}
    {turns : List Turn} {count : Nat} {sent : Connection}
    (returned : sendFrame body receipt turns c = .ok count sent) :
    TidyBut (framed body receipt c).receipt sent := by
  obtain ⟨_, _, _, rfl⟩ := (sendFrame_ok_iff ..).mp returned
  refine tidy_sent (tidy_requesting tidy receipt) _ ?_
  intro id requested
  cases receipt with
  | false => cases requested
  | true =>
      cases requested
      exact Nat.lt_succ_self _

/-- A send that throws leaves a tidy socket exactly when nothing of the frame
is out, or the peer has closed. -/
theorem tidy_abandoned_iff (tidy : Tidy before) (isOpen : before.good)
    {buffer : List UInt8} {turns : List Turn}
    (abandoned : Abandoned buffer turns before after) :
    Tidy after ↔ taken buffer.length turns = 0 ∨
      hangsUp buffer.length turns := by
  obtain ⟨open₀, isOpen⟩ := Option.isSome_iff_exists.mp isOpen
  unfold Abandoned at abandoned
  dsimp only at abandoned
  split at abandoned
  · next hung =>
      simp only [hung, or_true, iff_true]
      exact abandoned ▸ tidy_of_closed rfl
  · next stays =>
      obtain ⟨packets, rfl⟩ := abandoned
      simp only [stays, Bool.false_eq_true, or_false]
      constructor
      · intro still
        have whole := still.whole _ (by simp [accept, isOpen]; rfl)
        simp only [tidy.whole open₀ isOpen, List.append_right_eq_self,
          List.take_eq_nil_iff] at whole
        have bound := taken_le buffer.length turns
        rcases whole with nothing | empty
        · exact nothing
        · simp only [empty, List.length_nil, Nat.le_zero_eq] at bound ⊢
          exact bound
      · intro nothing
        rw [nothing, List.take_zero, accept_nil]
        exact tidy_receives tidy (dispatchAll_receives packets before)

/-! ## The calls that write -/

/-- The outcomes after which an exchange leaves a tidy socket: all of the
frame goes out and its receipt, if requested, is settled; or the send stops
with none of it out, or at the end of the stream. -/
def leavesTidy (c : Connection) (body : Body) (receipt : Bool)
    (turns : Exchange) : Bool :=
  let size := (FrameBytes.data (framed body receipt c)).length
  if goesOut size turns.write then
    !receipt || settles (requesting receipt c) c.stomplay.receiptSeq turns.wait
  else decide (taken size turns.write = 0) || hangsUp size turns.write

/-- A `send` and the `read` after it. -/
def exchange (marker : String) (body : Body) (receipt : Bool)
    (turns : Exchange) : Io Unit := do
  let _ ← sendFrame body receipt turns.write
  read marker turns.wait

/-- On an open socket the wait follows a frame that went out, or the frame is
abandoned. -/
theorem exchange_outcome (isOpen : c.good) (marker : String) (body : Body)
    (receipt : Bool) (turns : Exchange) :
    (goesOut (FrameBytes.data (framed body receipt c)).length turns.write ∧
        ∃ count sent, sendFrame body receipt turns.write c = .ok count sent ∧
          leftBehind (exchange marker body receipt turns c) =
            leftBehind (read marker turns.wait sent)) ∨
      (goesOut (FrameBytes.data (framed body receipt c)).length turns.write =
          false ∧
        Abandoned (FrameBytes.data (framed body receipt c)) turns.write
          (requesting receipt c)
          (leftBehind (exchange marker body receipt turns c))) := by
  simp only [exchange, bind, EStateM.bind]
  cases result : sendFrame body receipt turns.write c with
  | ok count sent =>
      obtain ⟨_, out, _, _⟩ := (sendFrame_ok_iff ..).mp result
      exact .inl ⟨out, count, sent, rfl, rfl⟩
  | error error left =>
      right
      rw [sendFrame_eq] at result
      rcases sendBuffer_outcome (framed body receipt c) turns.write
        (requesting receipt c) with
        ⟨_, _, returned⟩ |
          ⟨_, after, thrown, ⟨isClosed, _⟩ | ⟨_, stops, abandoned⟩⟩
      · rw [returned] at result
        cases result
      · simp [isOpen] at isClosed
      · rw [thrown] at result
        cases result
        exact ⟨stops, abandoned⟩

/-- The state in which the wait for a receipt begins. -/
theorem sent_awaits {body : Body} {turns : List Turn} {count : Nat}
    {sent : Connection}
    (returned : sendFrame body true turns c = .ok count sent) :
    sent.good ∧ sent.receiptReceived = false ∧
      c.stomplay.receiptSeq ∈ sent.stomplay.handlers ∧
      sent.error = (requesting true c).error ∧
      sent.stomplay = (requesting true c).stomplay := by
  obtain ⟨isOpen, _, _, rfl⟩ := (sendFrame_ok_iff ..).mp returned
  refine ⟨?_, rfl, List.mem_cons_self, rfl, rfl⟩
  rw [finish_good, accept_good, requesting_good]
  exact isOpen

/-- The frame that requested a receipt is on the socket after the wait. -/
theorem settled_of_tidy {body : Body} {turns : List Turn} {count : Nat}
    {sent : Connection}
    (returned : sendFrame body true turns c = .ok count sent)
    (receives : Receives sent after) (tidy : Tidy after) :
    after.good = false ∨ c.stomplay.receiptSeq ∉ after.stomplay.handlers := by
  obtain ⟨isOpen, _, _, rfl⟩ := (sendFrame_ok_iff ..).mp returned
  obtain ⟨open₀, isOpen⟩ := Option.isSome_iff_exists.mp isOpen
  cases nowOpen : after.socket with
  | none => exact .inl (by simp [good, nowOpen])
  | some open' =>
      refine .inr fun outstanding => ?_
      have wasOpen := receives.sameSocket open' nowOpen
      have requests : framed body true c ∈ open'.frames := by
        simp only [finish, accept, requesting, addHandler, isOpen, if_true,
          Option.map_some, Option.some.injEq] at wasOpen
        simp [← wasOpen]
      cases tidy.answered open' nowOpen _ requests _ rfl outstanding

theorem exchange_tidy_iff (tidy : Tidy c) (isOpen : c.good) (marker : String)
    (body : Body) (receipt : Bool) (turns : Exchange) :
    Tidy (leftBehind (exchange marker body receipt turns c)) ↔
      leavesTidy c body receipt turns := by
  rcases exchange_outcome isOpen marker body receipt turns with
    ⟨out, count, sent, result, rested⟩ | ⟨stops, abandoned⟩
  · have receives := read_receives marker turns.wait sent
    have after := tidy_receives (sendFrame_tidy tidy result) receives
    simp only [leavesTidy, rested, out, if_true]
    cases receipt with
    | false =>
        simp only [Bool.not_false, Bool.true_or, iff_true]
        exact after
    | true =>
        obtain ⟨isOpen, waiting, awaited, _, same⟩ := sent_awaits result
        have settled := read_settled_iff marker _ turns.wait sent isOpen
          waiting awaited
        rw [settles_congr same] at settled
        simp only [Bool.not_true, Bool.false_or]
        exact .trans ⟨settled_of_tidy result receives, tidy_settled after⟩
          settled
  · have stillOpen : (requesting receipt c).good := by
      rw [requesting_good]
      exact isOpen
    simpa [leavesTidy, stops] using
      tidy_abandoned_iff (tidy_requesting tidy receipt) stillOpen abandoned

/-- The outcomes after which an exchange that returns leaves a tidy
socket. -/
def returnsTidy (c : Connection) (body : Body) (receipt : Bool)
    (turns : Exchange) : Bool :=
  !c.good || !receipt ||
    !goesOut (FrameBytes.data (framed body receipt c)).length turns.write ||
    !slips (requesting receipt c) c.stomplay.receiptSeq turns.wait

theorem exchange_returns_tidy_iff (tidy : Tidy c) (marker : String)
    (body : Body) (receipt : Bool) (turns : Exchange) :
    (∀ final, exchange marker body receipt turns c = .ok () final →
        Tidy final) ↔ returnsTidy c body receipt turns := by
  have left {count : Nat} {sent final : Connection}
      (wrote : sendFrame body receipt turns.write c = .ok count sent)
      (returned : read marker turns.wait sent = .ok () final) :
      Receives sent final ∧
        TidyBut (framed body receipt c).receipt final := by
    have receives := (read_receives marker turns.wait).returned returned
    exact ⟨receives, tidy_receives (sendFrame_tidy tidy wrote) receives⟩
  simp only [exchange, bind_eq_ok_iff, returnsTidy, Bool.or_eq_true,
    Bool.not_eq_true']
  by_cases out : c.good ∧
      goesOut (FrameBytes.data (framed body receipt c)).length turns.write
  · obtain ⟨sent, wrote⟩ : ∃ sent, sendFrame body receipt turns.write c =
        .ok (FrameBytes.data (framed body receipt c)).length sent :=
      ⟨_, (sendFrame_ok_iff ..).mpr ⟨out.1, out.2, rfl, rfl⟩⟩
    simp only [wrote, EStateM.Result.ok.injEq, out.1, out.2, Bool.true_eq_false,
      false_or]
    cases receipt with
    | false =>
        simp only [true_or, iff_true]
        rintro final ⟨_, _, ⟨rfl, rfl⟩, returned⟩
        exact (left wrote returned).2
    | true =>
        obtain ⟨isOpen, waiting, awaited, errors, same⟩ := sent_awaits wrote
        have slip := read_slips_iff marker _ turns.wait sent isOpen waiting
          awaited
        rw [slips_congr errors same] at slip
        have noSlip := (not_congr slip).trans (by rw [Bool.not_eq_true])
        simp only [Bool.true_eq_false, or_false, false_or, ← noSlip]
        constructor
        · rintro tidies ⟨final, returned, isGood, outstanding⟩
          have settled := settled_of_tidy wrote (left wrote returned).1
            (tidies final ⟨_, _, ⟨rfl, rfl⟩, returned⟩)
          rcases settled with isClosed | answered
          · simp [isGood] at isClosed
          · exact answered outstanding
        · rintro noSlip final ⟨_, _, ⟨rfl, rfl⟩, returned⟩
          refine tidy_settled (left wrote returned).2 ?_
          apply Classical.byContradiction
          intro outstanding
          simp only [not_or, Bool.not_eq_false, not_not] at outstanding
          exact noSlip ⟨final, returned, outstanding⟩
  · have never : ∀ count sent,
        sendFrame body receipt turns.write c ≠ .ok count sent := by
      intro count sent wrote
      obtain ⟨isOpen, goes, _⟩ := (sendFrame_ok_iff ..).mp wrote
      exact out ⟨isOpen, goes⟩
    constructor
    · intro _
      rw [Decidable.not_and_iff_or_not] at out
      rcases out with isClosed | stops
      · exact .inl (.inl (.inl (by simpa using isClosed)))
      · exact .inl (.inr (by simpa using stops))
    · rintro _ final ⟨_, _, wrote, _⟩
      exact absurd wrote (never _ _)

end Frames

/-- The turns of `connected` that find the socket alive. -/
def staysOpen : List Turn → Bool
  | [] => true
  | turn :: turns =>
      match turn.poll with
      | .failed => false
      | .events false _ => true
      | .events true _ =>
          match turn.recv with
          | .data _ parsed => parsed && staysOpen turns
          | _ => false

theorem drain_open (turns : List Turn) {c : Connection} (isOpen : c.good) :
    (staysOpen turns = true ∧ ∃ drained, drain turns c = .ok true drained ∧
        drained.good) ∨
      (staysOpen turns = false ∧ ∀ drained,
        drain turns c ≠ .ok true drained) := by
  induction turns generalizing c with
  | nil => exact .inl ⟨rfl, c, rfl, isOpen⟩
  | cons turn turns induction =>
      cases polled : turn.poll with
      | failed =>
          refine .inr ⟨by simp [staysOpen, polled], ?_⟩
          simp [drain, bind, EStateM.bind, readyRead, socketPoll_failed polled]
      | events pollIn pollOut =>
          have ready : readyRead turn c = .ok pollIn c := by
            simp [readyRead, bind, EStateM.bind, socketPoll_events polled,
              isOpen]
          cases pollIn with
          | false =>
              refine .inl ⟨by simp [staysOpen, polled], c, ?_, isOpen⟩
              simp only [drain, bind, EStateM.bind, ready]
              rfl
          | true =>
              cases received : turn.recv with
              | failed =>
                  refine .inr ⟨by simp [staysOpen, polled, received], ?_⟩
                  simp only [drain, bind, EStateM.bind, ready, received]
                  rintro drained ⟨⟩
              | closed =>
                  refine .inr ⟨by simp [staysOpen, polled, received], ?_⟩
                  simp only [drain, bind, EStateM.bind, ready, received]
                  rintro drained ⟨⟩
              | data packets parsed =>
                  cases parsed with
                  | false =>
                      refine .inr ⟨by simp [staysOpen, polled, received], ?_⟩
                      simp only [drain, bind, EStateM.bind, ready, received]
                      rintro drained ⟨⟩
                  | true =>
                      have goes : drain (turn :: turns) c =
                          drain turns (c.dispatchAll packets) := by
                        simp only [drain, bind, EStateM.bind, ready, received]
                        rfl
                      simp only [goes, staysOpen, polled, received,
                        Bool.true_and]
                      exact induction
                        (by rw [good, dispatchAll_socket]; exact isOpen)

theorem connected_open (turns : List Turn) {c : Connection}
    (isOpen : c.good) :
    (staysOpen turns = true ∧ ∃ drained,
        connected turns c = .ok true drained ∧ drained.good) ∨
      (staysOpen turns = false ∧ ∀ drained,
        connected turns c ≠ .ok true drained) := by
  have drains : connected turns c = drain turns c := by
    simp [connected, bind, EStateM.bind, isOpen]
  rw [drains]
  exact drain_open turns isOpen

theorem connected_good {turns : List Turn} {c drained : Connection}
    (alive : connected turns c = .ok true drained) : drained.good := by
  cases isOpen : c.good with
  | false =>
      simp [connected, bind, EStateM.bind, isOpen] at alive
  | true =>
      rcases connected_open turns isOpen with
        ⟨_, final, result, isGood⟩ | ⟨_, never⟩
      · rw [result] at alive
        cases alive
        exact isGood
      · exact absurd alive (never drained)

section Frames

variable [FrameBytes] {c : Connection}

/-- On an open socket `commit_transaction` reads, and unless it finds the
socket dead it makes the exchange; with a receipt it does not read before. -/
theorem commitTransaction_outcome (isOpen : c.good) (id : String)
    (receipt : Bool) (turns : CommitTurns) :
    ((!receipt && !staysOpen turns.drain) = true ∧
        Receives c (c.commitTransaction id receipt turns)) ∨
      ((!receipt && !staysOpen turns.drain) = false ∧
        ∃ drained, Receives c drained ∧ drained.good ∧
          (receipt → drained = c) ∧
          c.commitTransaction id receipt turns =
            leftBehind (exchange "commit_transaction" (.commit id) receipt
              turns.toExchange drained)) := by
  cases receipt with
  | true => exact .inr ⟨rfl, c, .refl c, isOpen, fun _ => rfl, rfl⟩
  | false =>
      have alive := connected_receives turns.drain c
      simp only [Bool.not_false, Bool.true_and, Connection.commitTransaction,
        tryCommit, bind, EStateM.bind, Bool.false_eq_true, if_false]
      rcases connected_open turns.drain isOpen with
        ⟨stays, drained, result, isGood⟩ | ⟨stops, never⟩
      · rw [result, leftBehind_ok] at alive
        simp only [result, stays, if_true]
        exact .inr ⟨rfl, drained, alive, isGood, False.elim, rfl⟩
      · left
        refine ⟨by simp [stops], ?_⟩
        cases result : connected turns.drain c with
        | ok good drained =>
            rw [result, leftBehind_ok] at alive
            cases good with
            | true => exact absurd result (never drained)
            | false => exact alive
        | error error drained =>
            rw [result, leftBehind_error] at alive
            exact alive

/-- The outcomes after which `commit_transaction` leaves a tidy socket. -/
def commitsTidy (c : Connection) (id : String) (receipt : Bool)
    (turns : CommitTurns) : Bool :=
  !c.good || (!receipt && !staysOpen turns.drain) ||
    leavesTidy c (.commit id) receipt turns.toExchange

theorem commitTransaction_tidy_iff (tidy : Tidy c) (id : String)
    (receipt : Bool) (turns : CommitTurns) :
    Tidy (c.commitTransaction id receipt turns) ↔
      commitsTidy c id receipt turns := by
  cases isOpen : c.good with
  | false =>
      have none : c.socket = none := by simpa [good] using isOpen
      have closed := (commitTransaction_continues id receipt turns c).closed
        none
      simp only [commitsTidy, isOpen, Bool.not_false, Bool.true_or, iff_true]
      exact tidy_of_closed (by simp [good, closed])
  | true =>
      rcases commitTransaction_outcome isOpen id receipt turns with
        ⟨dead, receives⟩ | ⟨alive, drained, receives, isGood, same, rest⟩
      · simp only [commitsTidy, dead, Bool.or_true, Bool.true_or, iff_true]
        exact tidy_receives tidy receives
      · rw [rest, exchange_tidy_iff (tidy_receives tidy receives) isGood]
        simp only [commitsTidy, isOpen, alive, Bool.not_true, Bool.false_or]
        cases receipt with
        | true => rw [same rfl]
        | false =>
            -- Without a receipt the frame is the same after the drain.
            exact Iff.rfl

/-- A row leaves a tidy socket, as `capstomp_content` closes it on errors. -/
theorem capstompContent_tidy (tidy : Tidy c) {row : Row}
    {now requestLimit : Nat} {turns : Exchange}
    (returns : returnsTidy c
      (sendBody (rowDestination c.destination row.routingKey) (rowHeaders row)
        row.payload now c) (contentReceipt c requestLimit) turns) :
    Tidy (capstompContent row now requestLimit turns c).2 := by
  unfold capstompContent
  split
  · exact tidy
  · split
    · next count final returned =>
        obtain ⟨sent, wrote, waited⟩ := sendContent_returned returned
        exact (exchange_returns_tidy_iff tidy "send_content" _ _ turns).mpr
          returns _ (bind_eq_ok_iff.mpr ⟨count, sent, wrote, waited⟩)
    · exact tidy_of_closed rfl

/-! ## The logon -/

theorem logon_tidy (tidy : Tidy c) {u : Uri} {turns : LogonTurns}
    {after : Connection} (returned : logon u turns c = .ok () after) :
    Tidy after := by
  have start : Tidy (loggingOn c) := tidy_congr tidy rfl rfl rfl
  exact tidy_receives (tidy_sent start { body := u.logonBody } (by simp))
    (logon_returned returned)

/-- A connection that `connect` returns with has a tidy socket. -/
theorem connect_tidy [PassHash] (tidy : Tidy c) {u : Uri}
    {turns : ConnectTurns} {after : Connection}
    (returned : connect u turns c = .ok () after) : Tidy after := by
  obtain ⟨drained, established, receives, rfl, settled⟩ :=
    connect_returned returned
  refine tidy_congr (show Tidy established from ?_) rfl rfl rfl
  rcases settled with rfl | ⟨fd, final, logged, rfl⟩
  · exact tidy_receives tidy receives
  · refine tidy_congr (show Tidy final from logon_tidy ?_ logged) rfl rfl rfl
    constructor <;>
      · intro socket isOpen
        cases isOpen
        simp

end Frames

end Capstomp
