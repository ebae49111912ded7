import Capstomp.Exchange
import Capstomp.General.Taped

/-!
# A frame is written whole or the send fails

`connection::send(stompconn::buffer)` with the bytes that the socket took on a
tape beside the connection.  When the peer hangs up the connection forgets its
socket, and only the tape tells what had gone out by then.
-/

namespace Capstomp

open General Connection

/-- The loop of `send` with the tape. -/
def sendLoopTaped : List UInt8 → List Turn → Taped Error Connection UInt8 Unit
  | _, [] => throw .sendTimeout
  | buffer, turn :: turns => do
      let events ← aside (socketPoll turn)
      if events.1 then
        if ← aside (readStomp "send" turn.recv) then throw .protocolError
        else
          aside (modify disconnectedSending)
          throw .protocolError
      else if events.2 then
        match turn.write with
        | .failed => throw .send
        | .wouldBlock =>
            if buffer = [] then pure () else sendLoopTaped buffer turns
        | .accepted count =>
            inscribe (accept (buffer.take count)) (buffer.take count)
            if buffer.drop count = [] then pure ()
            else sendLoopTaped (buffer.drop count) turns
      else throw .sendTimeout

theorem sendLoopTaped_tapes (buffer : List UInt8) (turns : List Turn) :
    Tapes (sendLoopTaped buffer turns) (sendLoop buffer turns) := by
  induction turns generalizing buffer with
  | nil => exact .ofThrow _
  | cons turn turns induction =>
      refine .ofBind (.ofAside _) fun events => .ofIte ?_ (.ofIte ?_ ?_)
      · refine .ofBind (.ofAside _) fun more => .ofIte (.ofThrow _) ?_
        exact .ofBind (.ofAside _) fun _ => .ofThrow _
      · cases turn.write with
        | failed => exact .ofThrow _
        | wouldBlock => exact .ofIte (.ofPure _) (induction buffer)
        | accepted count =>
            refine .ofBind (.ofInscribe _ _) fun _ => ?_
            exact .ofIte (.ofPure _) (induction (buffer.drop count))
      · exact .ofThrow _

/-- What is out when the loop returns is the buffer, and when it throws, the
beginning of the buffer. -/
theorem sendLoopTaped_inscribes (buffer : List UInt8) (turns : List Turn) :
    Inscribes (sendLoopTaped buffer turns)
      (fun _ written => written = buffer)
      (fun written => written <+: buffer) := by
  induction turns generalizing buffer with
  | nil => exact .ofThrow _ (List.nil_prefix)
  | cons turn turns induction =>
      refine .ofBindAside List.nil_prefix fun events => ?_
      refine .ofIte (fun _ => ?_) fun _ => .ofIte (fun _ => ?_) fun _ => ?_
      · refine .ofBindAside List.nil_prefix fun more => ?_
        refine .ofIte (fun _ => .ofThrow _ List.nil_prefix) fun _ => ?_
        exact .ofBindAside List.nil_prefix fun _ =>
          .ofThrow _ List.nil_prefix
      · cases turn.write with
        | failed => exact .ofThrow _ List.nil_prefix
        | wouldBlock =>
            refine .ofIte (fun empty => .ofPure empty.symm) fun _ => ?_
            exact induction buffer
        | accepted count =>
            have whole : buffer.take count ++ buffer.drop count = buffer :=
              List.take_append_drop count buffer
            refine .ofBindInscribe (.ofIte (fun done => .ofPure ?_) fun _ => ?_)
            · rwa [done] at whole
            · refine (induction (buffer.drop count)).weaken ?_ ?_
              · rintro _ _ rfl
                exact whole
              · intro late isPrefix
                have longer := (List.prefix_append_right_inj
                  (buffer.take count)).mpr isPrefix
                rwa [whole] at longer
      · exact .ofThrow _ List.nil_prefix

@[simp] theorem dispatchAll_totalCount (packets : List Packet)
    (c : Connection) : (c.dispatchAll packets).totalCount = c.totalCount := by
  refine dispatchAll_keeps (fun c packet => ?_) packets c
  cases packet <;> simp only [dispatch, callback] <;> (try split) <;> rfl

section Frames

variable [FrameBytes]

/-- `connection::send(stompconn::buffer)` with the tape. -/
def sendBufferTaped (frame : Frame) (turns : List Turn) :
    Taped Error Connection UInt8 Nat := do
  sendLoopTaped (FrameBytes.data frame) turns
  aside (modify (finish frame))
  pure (FrameBytes.data frame).length

theorem sendBufferTaped_tapes (frame : Frame) (turns : List Turn) :
    Tapes (sendBufferTaped frame turns) (sendBuffer frame turns) :=
  .ofBind (sendLoopTaped_tapes _ turns) fun _ =>
    .ofBind (.ofAside _) fun _ => .ofPure _

theorem sendBufferTaped_inscribes (frame : Frame) (turns : List Turn) :
    Inscribes (sendBufferTaped frame turns)
      (fun count written => written = FrameBytes.data frame ∧
        count = (FrameBytes.data frame).length)
      (fun written => written <+: FrameBytes.data frame) := by
  refine (sendLoopTaped_inscribes (FrameBytes.data frame) turns).ofBind ?_
  rintro _ early rfl
  refine .ofBindAside (by simp) fun _ => .ofPure (by simp)

/-- What a send does to `total_count_`. -/
theorem sendBuffer_totalCount (frame : Frame) (turns : List Turn)
    (c : Connection) :
    match sendBuffer frame turns c with
    | .ok _ sent => sent.totalCount = c.totalCount + 1
    | .error _ left => left.totalCount = c.totalCount := by
  rcases sendBuffer_outcome frame turns c with
    ⟨_, _, returned⟩ | ⟨error, after, thrown, ⟨_, rfl⟩ | ⟨_, _, abandoned⟩⟩
  · rw [returned]
    rfl
  · rw [thrown]
  · rw [thrown]
    simp only [Abandoned] at abandoned
    split at abandoned
    · rw [abandoned]
      rfl
    · obtain ⟨packets, rfl⟩ := abandoned
      exact dispatchAll_totalCount packets _

/-- For all outcomes of the calls: a send that returns has put the bytes of the
frame on the wire, in order and once each, reports their number and counts
itself; one that throws has put a beginning of the frame there and leaves the
count. -/
theorem sendBuffer_whole (frame : Frame) (turns : List Turn) (c : Connection)
    (wire : List UInt8) :
    forget (sendBufferTaped frame turns (c, wire)) =
        sendBuffer frame turns c ∧
      match sendBufferTaped frame turns (c, wire) with
      | .ok count (sent, after) =>
          after = wire ++ FrameBytes.data frame ∧
            count = (FrameBytes.data frame).length ∧
            sent.totalCount = c.totalCount + 1
      | .error _ (left, after) =>
          (∃ written, written <+: FrameBytes.data frame ∧
            after = wire ++ written) ∧
          left.totalCount = c.totalCount := by
  have same := sendBufferTaped_tapes frame turns (c, wire)
  have account := sendBufferTaped_inscribes frame turns (c, wire)
  have counted := sendBuffer_totalCount frame turns c
  refine ⟨same, ?_⟩
  rw [← same] at counted
  cases outcome : sendBufferTaped frame turns (c, wire) with
  | ok count next =>
      simp only [outcome] at account counted
      obtain ⟨_, tape, rfl, rfl⟩ := account
      exact ⟨tape, rfl, counted⟩
  | error error next =>
      simp only [outcome] at account counted
      obtain ⟨written, tape, isPrefix⟩ := account
      exact ⟨⟨written, isPrefix, tape⟩, counted⟩

end Frames

end Capstomp
