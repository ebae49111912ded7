import Capstomp.Writing

/-!
# The request count and the receipts it asks for

`connection::begin` counts the sessions of a socket, and nothing else that
uses the socket changes the count unless it closes it.  From `request_limit`
on, the count makes BEGIN, or the SENDs of a session without a transaction,
ask for a receipt, and the call that sends such a frame waits for it.
-/

namespace Capstomp

open General Connection

variable {before between after : Connection}

/-- The count is the one before, as long as the socket is. -/
def KeepsCount (before after : Connection) : Prop :=
  after.good → before.good ∧ after.requestCount = before.requestCount

theorem KeepsCount.ofSame (socket : after.good = before.good)
    (count : after.requestCount = before.requestCount) :
    KeepsCount before after :=
  fun isOpen => ⟨socket ▸ isOpen, count⟩

theorem KeepsCount.trans (first second third : Connection)
    (earlier : KeepsCount first second) (later : KeepsCount second third) :
    KeepsCount first third := by
  intro isOpen
  obtain ⟨wasOpen, same⟩ := later isOpen
  exact ⟨(earlier wasOpen).1, same.trans (earlier wasOpen).2⟩

@[simp] theorem dispatchAll_requestCount (packets : List Packet)
    (c : Connection) :
    (c.dispatchAll packets).requestCount = c.requestCount := by
  refine dispatchAll_keeps (fun c packet => ?_) packets c
  cases packet <;> simp only [dispatch, callback] <;> (try split) <;> rfl

theorem keepsCount_written : KeptByWriting KeepsCount where
  refl c := .ofSame rfl rfl
  trans := KeepsCount.trans
  dispatchAll packets c := .ofSame (by simp [good]) (by simp)
  close c := by
    intro isOpen
    simp [good] at isOpen
  received c := .ofSame rfl rfl
  accept bytes c := .ofSame (accept_good bytes c) rfl
  finish frame c := .ofSame (finish_good frame c) rfl
  expect c received stomplay := .ofSame rfl rfl

/-! ## The frame of an exchange -/

/-- A BEGIN or a SEND that asks for its receipt. -/
def Written.awaited (w : Written) : Bool :=
  match w.frame.body with
  | .begin _ | .send _ _ _ => w.frame.receipt.isSome
  | .logon _ _ _ | .commit _ => false

@[simp] theorem framed_body (body : Body) (receipt : Bool) (c : Connection) :
    (framed body receipt c).body = body := rfl

@[simp] theorem framed_receipt (body : Body) (receipt : Bool)
    (c : Connection) :
    (framed body receipt c).receipt.isSome = receipt := by
  cases receipt <;> rfl

/-- The calls of a row after its `send` only read. -/
theorem contentRest_receives (turns : List Turn) (count : Nat) :
    Respects Receives (do
      read "send_content" turns
      pure count) :=
  receives_kept.bind (read_receives "send_content" turns)
    fun _ => receives_kept.pure count

section Frames

variable [FrameBytes]

/-- The frame was sent with a receipt, and the `read` after it returned. -/
def Awaited (w : Written) (before after : Connection) : Prop :=
  ∃ marker count sent, ∃ turns : Exchange,
    sendFrame w.frame.body true turns.write before = .ok count sent ∧
    read marker turns.wait sent = .ok () after

/-- A BEGIN or a SEND that is added with a receipt, on a socket that stays
open, was waited for. -/
def Waits (before after : Connection) : Prop :=
  ∀ w, after.written = before.written ++ [w] → w.awaited → after.good →
    Awaited w before after

theorem Waits.ofUnwritten (same : after.written = before.written) :
    Waits before after := by
  intro w written
  simp [same] at written

theorem Waits.ofClosed (isClosed : after.good = false) :
    Waits before after := by
  intro w _ _ isOpen
  simp [isClosed] at isOpen

theorem Waits.ofSilent {w : Written}
    (added : after.written = before.written ++ [w])
    (silent : w.awaited = false) : Waits before after := by
  intro other written awaited _
  cases List.append_cancel_left (written.symm.trans added)
  rw [silent] at awaited
  cases awaited

/-- `commit_transaction` swallows a wait that fails, so its COMMIT is not one of
these frames. -/
theorem Waits.ofCommit {id : String}
    (wrote : after.written = before.written ∨ Wrote (.commit id) before after) :
    Waits before after := by
  rcases wrote with same | ⟨open₀, receipt, _, added⟩
  · exact .ofUnwritten same
  · exact .ofSilent added rfl

theorem sendFrame_wroteFrame {body : Body} {receipt : Bool}
    {turns : List Turn} {c sent : Connection} {count : Nat}
    (returned : sendFrame body receipt turns c = .ok count sent) :
    WroteFrame (framed body receipt c) c sent := by
  rw [sendFrame_eq] at returned
  have wrote := sendBuffer_returned returned
  cases receipt <;> exact wrote

section Exchange

variable {α : Type} {body : Body} {receipt : Bool} {turns : List Turn}
variable {rest : Nat → Io α}

/-- A `send` and the calls after it that only read. -/
theorem exchange_returned (reads : ∀ count, Respects Receives (rest count))
    {c : Connection} {value : α}
    (result : (sendFrame body receipt turns >>= rest) c = .ok value after) :
    WroteFrame (framed body receipt c) c after := by
  obtain ⟨count, sent, wrote, rested⟩ := bind_eq_ok_iff.mp result
  exact (sendFrame_wroteFrame wrote).receives ((reads count).returned rested)

theorem exchange_wrote (reads : ∀ count, Respects Receives (rest count))
    (c : Connection) :
    let left := leftBehind ((sendFrame body receipt turns >>= rest) c)
    left.written = c.written ∨ WroteFrame (framed body receipt c) c left := by
  intro left
  simp only [left, bind, EStateM.bind]
  cases result : sendFrame body receipt turns c with
  | ok count sent =>
      exact .inr ((sendFrame_wroteFrame result).receives (reads count sent))
  | error error unsent =>
      exact .inl ((sendFrame_writes body receipt turns).thrown c error unsent
        result)

theorem exchange_waits {marker : String} {turns : Exchange} {count : Nat}
    {c sent : Connection}
    (wrote : sendFrame body receipt turns.write c = .ok count sent)
    (waited : read marker turns.wait sent = .ok () after) :
    Waits c after := by
  intro w written awaited _
  obtain ⟨_, _, added⟩ := (sendFrame_wroteFrame wrote).receives
    ((read_receives marker turns.wait).returned waited)
  cases List.append_cancel_left (written.symm.trans added)
  have asks : receipt = true := by
    unfold Written.awaited at awaited
    split at awaited
    · simpa [Connection.tagged] using awaited
    · simpa [Connection.tagged] using awaited
    all_goals cases awaited
  subst asks
  exact ⟨marker, count, sent, turns, wrote, waited⟩

end Exchange

/-- What a call that may write its frame leaves of a connection. -/
structure Sends (frame : Frame) (before after : Connection) : Prop
    extends Continues before after where
  count : KeepsCount before after
  wrote : after.written = before.written ∨ WroteFrame frame before after

/-- The frame of a row, with its receipt. -/
def contentFrame (row : Row) (now requestLimit : Nat) (c : Connection) :
    Frame :=
  framed (sendBody (rowDestination c.destination row.routingKey)
    (rowHeaders row) row.payload now c) (contentReceipt c requestLimit) c

def beginFrame (requestLimit : Nat) (c : Connection) : Frame :=
  framed (.begin c.transactionId) (c.isReceipt requestLimit) c

theorem sendBegin_sends (requestLimit : Nat) (turns : Exchange)
    (c : Connection) :
    Sends (beginFrame requestLimit c) c
      (leftBehind (sendBegin requestLimit turns c)) where
  toContinues := sendBegin_harmless requestLimit turns c
  count := keepsCount_written.sendBegin requestLimit turns c
  wrote := exchange_wrote (fun _ => read_receives "begin" turns.wait) c

theorem sendBegin_wroteFrame {requestLimit : Nat} {turns : Exchange}
    {c : Connection}
    (returned : sendBegin requestLimit turns c = .ok () after) :
    WroteFrame (beginFrame requestLimit c) c after :=
  exchange_returned (fun _ => read_receives "begin" turns.wait) returned

theorem sendBegin_waits {requestLimit : Nat} {turns : Exchange}
    {c : Connection}
    (returned : sendBegin requestLimit turns c = .ok () after) :
    Waits c after := by
  have exchanged : (sendFrame (.begin c.transactionId)
      (c.isReceipt requestLimit) turns.write >>=
        fun _ => read "begin" turns.wait) c = .ok () after := returned
  obtain ⟨_, _, wrote, waited⟩ := bind_eq_ok_iff.mp exchanged
  exact exchange_waits wrote waited

theorem sendContent_sends (row : Row) (now requestLimit : Nat)
    (turns : Exchange) (c : Connection) :
    Sends (contentFrame row now requestLimit c) c
      (leftBehind (sendContent (rowDestination c.destination row.routingKey)
        (rowHeaders row) row.payload now requestLimit turns c)) where
  toContinues := continues_written.sendContent _ _ _ now requestLimit turns c
  count := keepsCount_written.sendContent _ _ _ now requestLimit turns c
  wrote := exchange_wrote (contentRest_receives turns.wait) c

theorem sendContent_waits {destination : String} {headers : List Header}
    {payload : List UInt8} {now requestLimit count : Nat} {turns : Exchange}
    {c : Connection}
    (returned : sendContent destination headers payload now requestLimit turns
      c = .ok count after) : Waits c after := by
  obtain ⟨sent, wrote, waited⟩ := sendContent_returned returned
  exact exchange_waits wrote waited

/-- A row that leaves its socket open has written its frame. -/
theorem capstompContent_sends (row : Row) (now requestLimit : Nat)
    (turns : Exchange) (c : Connection) :
    let outcome := capstompContent row now requestLimit turns c
    Sends (contentFrame row now requestLimit c) c outcome.2 ∧
      Waits c outcome.2 ∧
      (outcome.2.good →
        WroteFrame (contentFrame row now requestLimit c) c outcome.2) := by
  have sends := sendContent_sends row now requestLimit turns c
  unfold capstompContent
  split
  · next idle =>
      have isClosed : c.good = false := by
        simp only [Bool.and_eq_true, Bool.not_eq_true'] at idle
        exact idle.1
      refine ⟨⟨.refl c, .ofSame rfl rfl, .inl rfl⟩, .ofUnwritten rfl, ?_⟩
      simp [isClosed]
  · split
    · next count sent returned =>
        rw [returned] at sends
        exact ⟨sends, sendContent_waits returned, fun _ =>
          exchange_returned (contentRest_receives turns.wait) returned⟩
    · next error left thrown =>
        rw [thrown] at sends
        exact ⟨⟨.trans _ _ _ sends.toContinues (close_continues left),
          .trans _ _ _ sends.count (keepsCount_written.close left),
          sends.wrote⟩, .ofClosed rfl, fun impossible => by cases impossible⟩

end Frames

end Capstomp
