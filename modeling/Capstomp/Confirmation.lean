import Capstomp.Exchange
import Capstomp.Reachable

/-!
# What a returned read confirms

`send` with a receipt and the `read` after it are meant to return only when
the peer has confirmed the frame.  The wait ends, however, at the first event
that sets `receipt_received_`, and `read` then looks at `error_` alone.  This
file determines the waits that end without the reply that was waited for.
-/

namespace Capstomp

open General Connection

/-- A turn of the wait whose packets lead to no callback. -/
def SilentTurn (c : Connection) (turn : Turn) : Prop :=
  turn.readable ∧ ∃ packets, turn.recv = .data packets true ∧
    packets.any c.hasCallback = false

/-- A turn that ends the wait, without an error text and without the reply
`own`: the end of the stream, or packets with a callback that leave `error_`
empty. -/
def FalseEnd (own : Packet) (c : Connection) (turn : Turn) : Prop :=
  turn.readable ∧ (turn.recv = .closed ∨
    ∃ packets, turn.recv = .data packets true ∧
      packets.any c.hasCallback = true ∧
      (c.dispatchAll packets).error = "" ∧ own ∉ packets)

/-- Of the turns of a wait, the first that is not silent ends it falsely. -/
def EndsUnanswered (own : Packet) (c : Connection) (turns : List Turn) :
    Prop :=
  ∃ silent last later, turns = silent ++ last :: later ∧
    (∀ turn ∈ silent, SilentTurn c turn) ∧ FalseEnd own c last

theorem endsUnanswered_nil (own : Packet) (c : Connection) :
    ¬ EndsUnanswered own c [] := by
  rintro ⟨silent, last, later, decomposed, _⟩
  cases silent <;> cases decomposed

theorem endsUnanswered_cons {own : Packet} {c : Connection} {turn : Turn}
    {turns : List Turn} :
    EndsUnanswered own c (turn :: turns) ↔
      FalseEnd own c turn ∨
        (SilentTurn c turn ∧ EndsUnanswered own c turns) := by
  constructor
  · rintro ⟨silent, last, later, decomposed, silence, falseEnd⟩
    cases silent with
    | nil =>
        cases decomposed
        exact .inl falseEnd
    | cons head silent =>
        cases decomposed
        refine .inr ⟨silence turn (by simp), silent, last, later, rfl, ?_,
          falseEnd⟩
        intro other member
        exact silence other (by simp [member])
  · rintro (falseEnd | ⟨head, silent, last, later, rfl, silence, falseEnd⟩)
    · exact ⟨[], turn, turns, rfl, by simp, falseEnd⟩
    · refine ⟨turn :: silent, last, later, rfl, ?_, falseEnd⟩
      intro other member
      rcases List.mem_cons.mp member with rfl | member
      · exact head
      · exact silence other member

theorem silentTurn_iff {c : Connection} {turn : Turn}
    {packets : List Packet} (readable : turn.readable)
    (received : turn.recv = .data packets true) :
    SilentTurn c turn ↔ packets.any c.hasCallback = false := by
  constructor
  · rintro ⟨_, others, same, silent⟩
    cases received.symm.trans same
    exact silent
  · intro silent
    exact ⟨readable, packets, received, silent⟩

theorem falseEnd_iff {own : Packet} {c : Connection} {turn : Turn}
    {packets : List Packet} (readable : turn.readable)
    (received : turn.recv = .data packets true) :
    FalseEnd own c turn ↔ packets.any c.hasCallback = true ∧
      (c.dispatchAll packets).error = "" ∧ own ∉ packets := by
  constructor
  · rintro ⟨_, impossible | ⟨others, same, falsely⟩⟩
    · cases received.symm.trans impossible
    · cases received.symm.trans same
      exact falsely
  · intro falsely
    exact ⟨readable, .inr ⟨packets, received, falsely⟩⟩

/-- How packets change the error text depends on the text before them and on
what stomplay holds. -/
theorem dispatchAll_agree {c d : Connection} (packets : List Packet)
    (errors : c.error = d.error) (holds : c.stomplay = d.stomplay) :
    (c.dispatchAll packets).error = (d.dispatchAll packets).error := by
  induction packets generalizing c d with
  | nil => exact errors
  | cons packet packets induction =>
      have step : (c.dispatch packet).error = (d.dispatch packet).error ∧
          (c.dispatch packet).stomplay = (d.dispatch packet).stomplay := by
        cases packet <;> simp only [dispatch, callback, holds] <;>
          (try split) <;> simp [errors, holds]
      exact induction step.1 step.2

/-- So does the end of a wait. -/
theorem endsUnanswered_agree (own : Packet) {c d : Connection}
    (errors : c.error = d.error) (holds : c.stomplay = d.stomplay)
    (turns : List Turn) :
    EndsUnanswered own c turns ↔ EndsUnanswered own d turns := by
  have callbacks : c.hasCallback = d.hasCallback := by
    funext packet
    cases packet <;> simp [hasCallback, holds]
  simp only [EndsUnanswered, SilentTurn, FalseEnd, callbacks,
    dispatchAll_agree _ errors holds]

/-- `own` was among the packets parsed between the two states. -/
def Parsed (own : Packet) (before after : Connection) : Prop :=
  own ∈ after.processed.drop before.processed.length

theorem parsed_of_append (own : Packet) {before after : Connection}
    (packets : List Packet)
    (record : after.processed = before.processed ++ packets) :
    Parsed own before after ↔ own ∈ packets := by
  simp [Parsed, record]

/-- What was parsed before a suffix of the wait is `own` or not by itself. -/
theorem parsed_dispatchAll_iff {own : Packet} {packets : List Packet}
    (absent : own ∉ packets) {c final : Connection}
    (later : (c.dispatchAll packets).processed <+: final.processed) :
    Parsed own (c.dispatchAll packets) final ↔ Parsed own c final := by
  obtain ⟨more, record⟩ := later
  have whole : final.processed = c.processed ++ (packets ++ more) := by
    rw [← record, processed_dispatchAll, List.append_assoc]
  rw [parsed_of_append own _ record.symm, parsed_of_append own _ whole]
  simp [absent]

theorem read_ok_iff (marker : String) (turns : List Turn)
    (c final : Connection) :
    read marker turns c = .ok () final ↔
      awaitReply marker turns c = .ok () final ∧ final.error = "" := by
  unfold read
  rw [bind_eq_ok_iff]
  constructor
  · rintro ⟨_, middle, awaited, checked⟩
    simp only [bind, EStateM.bind, get_apply] at checked
    by_cases failed : middle.error ≠ ""
    · rw [if_pos failed] at checked
      cases checked
    · rw [if_neg failed] at checked
      cases checked
      exact ⟨awaited, Classical.not_not.mp failed⟩
  · rintro ⟨awaited, clean⟩
    refine ⟨(), final, awaited, ?_⟩
    simp [bind, EStateM.bind, clean]

/-- Packets with a callback end the wait there and then. -/
theorem read_of_callback (marker : String) {turn : Turn} (turns : List Turn)
    {c : Connection} {packets : List Packet} (isOpen : c.good)
    (waiting : c.receiptReceived = false) (readable : turn.readable)
    (received : turn.recv = .data packets true)
    (called : packets.any c.hasCallback = true) (final : Connection) :
    read marker (turn :: turns) c = .ok () final ↔
      final = c.dispatchAll packets ∧ (c.dispatchAll packets).error = "" := by
  have ended : (c.dispatchAll packets).receiptReceived := by
    rw [dispatchAll_receiptReceived, called, Bool.or_true]
  rw [read_ok_iff, awaitReply_readable marker turns isOpen waiting readable,
    received]
  simp only [if_true, awaitReply_received marker turns ended]
  constructor
  · rintro ⟨same, clean⟩
    cases same
    exact ⟨rfl, clean⟩
  · rintro ⟨rfl, clean⟩
    exact ⟨rfl, clean⟩

/-- Packets without a callback leave the wait where it is. -/
theorem read_of_silence (marker : String) {turn : Turn} (turns : List Turn)
    {c : Connection} {packets : List Packet} (isOpen : c.good)
    (waiting : c.receiptReceived = false) (readable : turn.readable)
    (received : turn.recv = .data packets true) (final : Connection) :
    read marker (turn :: turns) c = .ok () final ↔
      read marker turns (c.dispatchAll packets) = .ok () final := by
  rw [read_ok_iff, read_ok_iff,
    awaitReply_readable marker turns isOpen waiting readable, received]
  simp only [if_true]

/-- A read that waits for `own` returns without it exactly when the wait ends
falsely. -/
theorem read_unparsed_iff (marker : String) (own : Packet)
    (turns : List Turn) (c : Connection) (isOpen : c.good)
    (waiting : c.receiptReceived = false)
    (awaited : c.hasCallback own) :
    (∃ final, read marker turns c = .ok () final ∧ ¬ Parsed own c final) ↔
      EndsUnanswered own c turns := by
  induction turns generalizing c with
  | nil =>
      simp only [endsUnanswered_nil, iff_false]
      rintro ⟨final, returned, _⟩
      rw [read_ok_iff] at returned
      simp [awaitReply, bind, EStateM.bind, waiting] at returned
  | cons turn turns induction =>
      rw [endsUnanswered_cons]
      by_cases readable : turn.readable
      · have step := awaitReply_readable marker turns isOpen waiting readable
        cases received : turn.recv with
        | failed => simp [read_ok_iff, step, received, FalseEnd, SilentTurn]
        | closed =>
            have ended : FalseEnd own c turn := ⟨readable, .inl received⟩
            simp only [ended, true_or, iff_true]
            refine ⟨c.disconnected marker, ?_, ?_⟩
            · rw [read_ok_iff, step, received]
              simp
            · rw [parsed_of_append own [] (by simp [close])]
              simp
        | data packets parsed =>
            cases parsed with
            | false => simp [read_ok_iff, step, received, FalseEnd, SilentTurn]
            | true =>
                rw [silentTurn_iff readable received,
                  falseEnd_iff readable received]
                have record := parsed_of_append own _
                  (processed_dispatchAll packets c)
                cases called : packets.any c.hasCallback with
                | true =>
                    simp only [read_of_callback marker turns isOpen waiting
                      readable received called]
                    grind
                | false =>
                    have absent : own ∉ packets := by
                      intro member
                      exact List.any_eq_false.mp called own member awaited
                    have same := dispatchAll_of_silent called
                    have going := induction (c.dispatchAll packets)
                      (by rw [same]; exact isOpen)
                      (by rw [same]; exact waiting)
                      (by rw [same]; exact awaited)
                    rw [endsUnanswered_agree own (d := c) (by rw [same])
                      (by rw [same])] at going
                    simp only [read_of_silence marker turns isOpen waiting
                      readable received, Bool.false_eq_true, false_and,
                      true_and, false_or, ← going]
                    refine exists_congr fun final =>
                      and_congr_right fun returned => ?_
                    have later := (read_harmless marker turns).returned returned
                    rw [parsed_dispatchAll_iff absent later.processed]
      · have quiet : turn.readable = false := by simpa using readable
        obtain ⟨error, thrown⟩ :=
          awaitReply_unreadable marker turns isOpen waiting quiet
        simp [read_ok_iff, thrown, FalseEnd, SilentTurn, quiet]

/-! ## The two confirmed exchanges -/

section Frames

variable [FrameBytes]

/-- A frame sent with a receipt: when `send` and the `read` after it return,
the positive receipt of this very frame was parsed in between. -/
def ReceiptConfirmed (c : Connection) (body : Body) (marker : String)
    (turns : Exchange) : Prop :=
  ∀ count sent final,
    sendFrame body true turns.write c = .ok count sent →
    read marker turns.wait sent = .ok () final →
    Parsed (.receipt c.stomplay.receiptSeq) c final

/-- A logon: when `send` and `read` return, the CONNECTED reply was parsed in
between. -/
def LogonConfirmed (c : Connection) (body : Body) (turns : Exchange) :
    Prop :=
  ∀ count sent final,
    sendLogon body turns.write c = .ok count sent →
    read "logon" turns.wait sent = .ok () final →
    Parsed .connected c final

/-- An exchange that waits for `own` with the connection `c`: what it parses
includes `own` whenever both calls return, unless the frame goes out and the
wait ends falsely. -/
theorem exchange_parsed_iff (marker : String) (own : Packet)
    (turns : Exchange) (c : Connection) (frame : Frame)
    (waiting : c.receiptReceived = false) (awaited : c.hasCallback own) :
    (∀ count sent final, sendBuffer frame turns.write c = .ok count sent →
        read marker turns.wait sent = .ok () final → Parsed own c final) ↔
      ¬ (c.good ∧ goesOut (FrameBytes.data frame).length turns.write ∧
        EndsUnanswered own c turns.wait) := by
  let sent := (c.accept (FrameBytes.data frame)).finish frame
  have wait : c.good → ((∃ final, read marker turns.wait sent = .ok () final ∧
      ¬ Parsed own c final) ↔ EndsUnanswered own c turns.wait) := by
    intro isOpen
    rw [← endsUnanswered_agree own (c := sent) (d := c) rfl rfl]
    exact read_unparsed_iff marker own turns.wait sent
      (by simpa [sent] using isOpen) waiting awaited
  constructor
  · rintro confirmed ⟨isOpen, out, ends⟩
    obtain ⟨final, returned, unparsed⟩ := (wait isOpen).mpr ends
    have wrote : sendBuffer frame turns.write c =
        .ok (FrameBytes.data frame).length sent :=
      (sendBuffer_ok_iff frame turns.write c sent _).mpr
        ⟨isOpen, out, rfl, rfl⟩
    exact unparsed (confirmed _ sent final wrote returned)
  · intro excluded count after final wrote returned
    obtain ⟨isOpen, out, _, rfl⟩ :=
      (sendBuffer_ok_iff frame turns.write c after count).mp wrote
    apply Classical.byContradiction
    intro unparsed
    exact excluded ⟨isOpen, out, (wait isOpen).mp ⟨final, returned, unparsed⟩⟩

/-- A frame that goes out to a peer which closes the connection is not
confirmed. -/
theorem not_confirmed_of_closed {c : Connection} {body : Body}
    {marker : String} {turns : Exchange} {turn : Turn} (isOpen : c.good)
    (out : goesOut (FrameBytes.data (framed body true c)).length turns.write)
    (wait : turns.wait = [turn])
    (closes : turn = { poll := .events true false, recv := .closed }) :
    ¬ ReceiptConfirmed c body marker turns := by
  intro confirmed
  simp only [ReceiptConfirmed, sendFrame_eq] at confirmed
  refine (exchange_parsed_iff marker (.receipt c.stomplay.receiptSeq) turns
    (requesting true c) (framed body true c) rfl
    (by simp [requesting, addHandler, hasCallback])).mp confirmed ⟨?_, out, ?_⟩
  · rwa [requesting_good]
  · refine ⟨[], turn, [], by rw [wait]; rfl, by simp, ?_⟩
    rw [closes]
    exact ⟨rfl, .inl rfl⟩

/-- A frame's receipt is confirmed, and a logon is, unless the frame goes out
and the wait ends falsely. -/
theorem confirmed_iff (c : Connection) (body : Body) (marker : String)
    (turns : Exchange) :
    (ReceiptConfirmed c body marker turns ↔
      ¬ (c.good ∧
        goesOut (FrameBytes.data (framed body true c)).length turns.write ∧
        EndsUnanswered (.receipt c.stomplay.receiptSeq) (requesting true c)
          turns.wait)) ∧
      (LogonConfirmed c body turns ↔
        ¬ (c.good ∧
          goesOut (FrameBytes.data { body := body }).length turns.write ∧
          EndsUnanswered .connected (loggingOn c) turns.wait)) := by
  constructor
  · have exchange := exchange_parsed_iff marker
      (.receipt c.stomplay.receiptSeq) turns (requesting true c)
      (framed body true c) rfl (by simp [requesting, addHandler, hasCallback])
    rw [requesting_good] at exchange
    simp only [ReceiptConfirmed, sendFrame_eq]
    exact exchange
  · exact exchange_parsed_iff "logon" .connected turns (loggingOn c)
      { body := body } rfl rfl

end Frames

section Executed

open scoped Sample

/-- A statement that asks for receipts, logged on. -/
def receiptsOn : List Action :=
  [.get 1 (Sample.uri "receipt=true") 8, .connect 1 Sample.connects]

/-- The peer closes the connection instead of confirming a frame, and the
wait returns. -/
theorem disconnect_confirms :
    ¬ ∀ name s, Runs anything name s → ∀ id body marker turns,
      ReceiptConfirmed (s.connections id) body marker turns ∧
        LogonConfirmed (s.connections id) body turns := by
  intro confirmed
  have run : Runs anything "pool" (final anything "pool" receiptsOn) :=
    runs_final (by decide +kernel)
  have received := (confirmed "pool" _ run 0
    (.send "/queue/a" [] []) "send_content"
    { write := [Sample.writable], wait := [Sample.closed] }).1
  exact not_confirmed_of_closed (by decide +kernel) (by decide +kernel) rfl
    rfl received

end Executed

end Capstomp
