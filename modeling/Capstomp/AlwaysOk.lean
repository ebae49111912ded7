import Capstomp.Configured
import Capstomp.Confirmation

/-!
# A session without errors

With `no_error` the server is to be told that every call went well.  The
failure path of `capstomp_init` keeps to that, and so does `capstomp_content`
once the socket is closed; its handler does not, so that the row on which the
socket fails is reported as an error.  This file determines these rows.
-/

namespace Capstomp

open General Connection

/-- A turn that ends the wait without an error text: the end of the stream, or
packets with a callback that leave `error_` empty. -/
def CleanEnd (c : Connection) (turn : Turn) : Prop :=
  turn.readable ∧ (turn.recv = .closed ∨
    ∃ packets, turn.recv = .data packets true ∧
      packets.any c.hasCallback = true ∧ (c.dispatchAll packets).error = "")

/-- Of the turns of a wait, the first that is not silent ends it cleanly. -/
def EndsClean (c : Connection) : List Turn → Prop
  | [] => False
  | turn :: turns =>
      CleanEnd c turn ∨ (SilentTurn c turn ∧ EndsClean c turns)

theorem cleanEnd_iff {c : Connection} {turn : Turn} {packets : List Packet}
    (readable : turn.readable) (received : turn.recv = .data packets true) :
    CleanEnd c turn ↔ packets.any c.hasCallback = true ∧
      (c.dispatchAll packets).error = "" := by
  constructor
  · rintro ⟨_, impossible | ⟨others, same, clean⟩⟩
    · cases received.symm.trans impossible
    · cases received.symm.trans same
      exact clean
  · intro clean
    exact ⟨readable, .inr ⟨packets, received, clean⟩⟩

/-- How a wait ends depends on the error text before it and on what stomplay
holds. -/
theorem endsClean_agree {c d : Connection} (errors : c.error = d.error)
    (holds : c.stomplay = d.stomplay) (turns : List Turn) :
    EndsClean c turns ↔ EndsClean d turns := by
  have callbacks : c.hasCallback = d.hasCallback := by
    funext packet
    cases packet <;> simp [hasCallback, holds]
  induction turns with
  | nil => exact Iff.rfl
  | cons turn turns induction =>
      simp only [EndsClean, CleanEnd, SilentTurn, callbacks,
        dispatchAll_agree _ errors holds, induction]

/-- A read on an open socket returns exactly when the wait ends cleanly. -/
theorem read_returns_iff (marker : String) (turns : List Turn)
    {c : Connection} (isOpen : c.good) (waiting : c.receiptReceived = false) :
    (∃ final, read marker turns c = .ok () final) ↔ EndsClean c turns := by
  induction turns generalizing c with
  | nil =>
      simp only [EndsClean, iff_false]
      rintro ⟨final, returned⟩
      rw [read_ok_iff] at returned
      simp [awaitReply, bind, EStateM.bind, waiting] at returned
  | cons turn turns induction =>
      rw [EndsClean]
      by_cases readable : turn.readable
      · have step := awaitReply_readable marker turns isOpen waiting readable
        cases received : turn.recv with
        | failed => simp [read_ok_iff, step, received, CleanEnd, SilentTurn]
        | closed =>
            have ended : CleanEnd c turn := ⟨readable, .inl received⟩
            simp only [ended, true_or, iff_true]
            refine ⟨c.disconnected marker, ?_⟩
            rw [read_ok_iff, step, received]
            simp
        | data packets parsed =>
            cases parsed with
            | false => simp [read_ok_iff, step, received, CleanEnd, SilentTurn]
            | true =>
                rw [silentTurn_iff readable received,
                  cleanEnd_iff readable received]
                cases called : packets.any c.hasCallback with
                | true =>
                    simp [read_of_callback marker turns isOpen waiting
                      readable received called]
                | false =>
                    have same := dispatchAll_of_silent called
                    have going := induction (c := c.dispatchAll packets)
                      (by rw [same]; exact isOpen)
                      (by rw [same]; exact waiting)
                    rw [endsClean_agree (d := c) (by rw [same])
                      (by rw [same])] at going
                    simpa [read_of_silence marker turns isOpen waiting
                      readable received] using going
      · have quiet : turn.readable = false := by simpa using readable
        obtain ⟨error, thrown⟩ :=
          awaitReply_unreadable marker turns isOpen waiting quiet
        simp [read_ok_iff, thrown, CleanEnd, SilentTurn, quiet]

section Rows

variable [FrameBytes]

/-- The frame goes out, and then the wait for its receipt ends cleanly, or,
when it asks for none, no error is known from before. -/
def ExchangePasses (body : Body) (receipt : Bool) (turns : Exchange)
    (c : Connection) : Prop :=
  goesOut (FrameBytes.data (framed body receipt c)).length turns.write ∧
    if receipt then EndsClean (requesting true c) turns.wait
    else c.error = ""

/-- `send` and the `read` after it both return. -/
theorem exchange_passes_iff (marker : String) (body : Body) (receipt : Bool)
    (turns : Exchange) {c : Connection} (isOpen : c.good) :
    (∃ count sent final, sendFrame body receipt turns.write c = .ok count sent ∧
        read marker turns.wait sent = .ok () final) ↔
      ExchangePasses body receipt turns c := by
  let sent := ((requesting receipt c).accept
    (FrameBytes.data (framed body receipt c))).finish (framed body receipt c)
  have stillOpen : sent.good := by simpa [sent] using isOpen
  have wait : (∃ final, read marker turns.wait sent = .ok () final) ↔
      if receipt then EndsClean (requesting true c) turns.wait
      else c.error = "" := by
    cases receipt with
    | true =>
        rw [if_pos rfl, read_returns_iff marker turns.wait stillOpen rfl]
        exact endsClean_agree (c := sent) (d := requesting true c) rfl rfl
          turns.wait
    | false =>
        have received : sent.receiptReceived := rfl
        have same : sent.error = c.error := rfl
        simp [read_ok_iff, awaitReply_received marker turns.wait received,
          same]
  constructor
  · rintro ⟨count, after, final, wrote, returned⟩
    obtain ⟨_, out, _, rfl⟩ := (sendFrame_ok_iff ..).mp wrote
    exact ⟨out, wait.mp ⟨final, returned⟩⟩
  · rintro ⟨out, ends⟩
    obtain ⟨final, returned⟩ := wait.mpr ends
    exact ⟨_, sent, final, (sendFrame_ok_iff ..).mpr ⟨isOpen, out, rfl, rfl⟩,
      returned⟩

/-- The row of an open connection goes well. -/
def RowPasses (row : Row) (now requestLimit : Nat) (turns : Exchange)
    (c : Connection) : Prop :=
  ExchangePasses (sendBody (rowDestination c.destination row.routingKey)
    (rowHeaders row) row.payload now c) (contentReceipt c requestLimit) turns c

theorem sendContent_returns_iff (destination : String) (headers : List Header)
    (payload : List UInt8) (now requestLimit : Nat) (turns : Exchange)
    {c : Connection} (isOpen : c.good) :
    (∃ count final, sendContent destination headers payload now requestLimit
        turns c = .ok count final) ↔
      ExchangePasses (sendBody destination headers payload now c)
        (contentReceipt c requestLimit) turns c := by
  rw [← exchange_passes_iff "send_content" _ _ turns isOpen]
  constructor
  · rintro ⟨count, final, returned⟩
    obtain ⟨_, _, got, rest⟩ := bind_eq_ok_iff.mp returned
    cases got
    obtain ⟨count, sent, wrote, rest⟩ := bind_eq_ok_iff.mp rest
    obtain ⟨_, _, read, same⟩ := bind_eq_ok_iff.mp rest
    exact ⟨count, sent, _, wrote, read⟩
  · rintro ⟨count, sent, final, wrote, read⟩
    refine ⟨count, final, ?_⟩
    apply bind_eq_ok_iff.mpr
    refine ⟨c, c, rfl, ?_⟩
    apply bind_eq_ok_iff.mpr
    refine ⟨count, sent, wrote, ?_⟩
    apply bind_eq_ok_iff.mpr
    exact ⟨_, final, read, rfl⟩

/-- A row of an open connection is sent or has failed. -/
theorem capstompContent_failed_iff (row : Row) (now requestLimit : Nat)
    (turns : Exchange) {c : Connection} (isOpen : c.good) :
    (capstompContent row now requestLimit turns c).1 = .failed ↔
      ¬ RowPasses row now requestLimit turns c := by
  rw [RowPasses, ← sendContent_returns_iff _ _ _ _ _ _ isOpen]
  unfold capstompContent
  rw [if_neg (by simp [isOpen])]
  split
  · next count final returned =>
      simp [returned]
  · next error left thrown =>
      simp [thrown]

/-- On a closed socket a session without errors sends nothing. -/
theorem capstompContent_skipped (row : Row) (now requestLimit : Nat)
    (turns : Exchange) {c : Connection} (isClosed : c.good = false)
    (noError : c.withNoError) :
    capstompContent row now requestLimit turns c = (.skipped, c) := by
  simp [capstompContent, isClosed, noError]

end Rows

/-! ## What the server is told -/

/-- `*error` as `capstomp_content` leaves it. -/
def RowResult.error : RowResult → Nat
  | .skipped | .sent _ => 0
  | .failed => 1

/-- What `capstomp_init` returns, once it is over. -/
def Phase.initReturn : Phase → Option Nat
  | .rows => some 0
  | .ending => some 1
  | _ => none

/-- What the server is told by the call that led to this state, and for which
session. -/
def System.reports (after : System) : Action → Option (SessionId × Nat)
  | .connect sid _ | .begin sid _ _ =>
      (after.sessions sid).phase.initReturn.map fun code => (sid, code)
  | .content sid _ _ _ _ =>
      (after.sessions sid).rows.getLast?.map fun row => (sid, row.error)
  | _ => none

/-- The failure path of `capstomp_init` is well in a session without
errors. -/
theorem initFailed_reports {s : System} {sid : SessionId} {c : Connection}
    (noError : c.conf.noError) :
    ((s.initFailed sid c).sessions sid).phase.initReturn = some 0 := by
  have still : c.close.withNoError := noError
  simp [still, Phase.initReturn]

section Runs

variable [QueryDecoding] [PassHash] [FrameBytes]
variable {allowed : System → Action → Prop} {name : String}

/-- Every call of a session without errors is reported as gone well. -/
def AlwaysOk (allowed : System → Action → Prop) (name : String) : Prop :=
  ∀ s, Runs allowed name s → ∀ action after, allowed s action →
    s.step action = some after → ∀ sid code,
      after.reports action = some (sid, code) →
        (s.sessions sid).conf.noError → code = 0

/-- Every row that a session without errors sends on an open socket goes
well. -/
def RowsPass (allowed : System → Action → Prop) (name : String) : Prop :=
  ∀ s, Runs allowed name s → ∀ sid row now requestLimit turns,
    allowed s (.content sid row now requestLimit turns) →
      (s.sessions sid).phase = .rows → (s.sessions sid).conf.noError →
        (s.own sid).good → RowPasses row now requestLimit turns (s.own sid)

variable {s after : System} {sid : SessionId} {code : Nat}

omit [QueryDecoding] [PassHash] [FrameBytes] in
/-- A connection or a BEGIN that failed, in a session without errors. -/
theorem initFailed_isOk {c : Connection}
    (same : c.conf = (s.sessions sid).conf)
    (noError : (s.sessions sid).conf.noError)
    (returned :
      ((s.initFailed sid c).sessions sid).phase.initReturn = some code) :
    code = 0 := by
  rw [initFailed_reports (by rw [same]; exact noError)] at returned
  cases returned
  rfl

theorem connect_isOk {turns : ConnectTurns} (run : Runs allowed name s)
    (stepped : s.step (.connect sid turns) = some after)
    (noError : (s.sessions sid).conf.noError)
    (returned : (after.sessions sid).phase.initReturn = some code) :
    code = 0 := by
  obtain ⟨u, phase, ⟨c, _, rfl⟩ | ⟨_, c, thrown, rfl⟩⟩ :=
    System.connect_cases stepped
  · simp only [System.setPhase_sessions, Function.update_self] at returned
    split at returned <;> simp_all [Phase.initReturn]
  · have same := (connect_sameHandle u turns (s.own sid)).conf
    rw [thrown, leftBehind_error,
      run.configured sid (by simp [phase]) (by simp [phase])] at same
    exact initFailed_isOk same noError returned

theorem begin_isOk {requestLimit : Nat} {turns : Exchange}
    (run : Runs allowed name s)
    (stepped : s.step (.begin sid requestLimit turns) = some after)
    (noError : (s.sessions sid).conf.noError)
    (returned : (after.sessions sid).phase.initReturn = some code) :
    code = 0 := by
  obtain ⟨phase, ⟨c, _, rfl⟩ | ⟨_, c, thrown, rfl⟩⟩ :=
    System.begin_cases stepped
  · simp only [System.setPhase_sessions, Function.update_self] at returned
    cases returned
    rfl
  · have same := (sendBegin_mayWrite requestLimit turns (s.own sid)).conf
    rw [thrown, leftBehind_error,
      run.configured sid (by simp [phase]) (by simp [phase])] at same
    exact initFailed_isOk same noError returned

/-- A row that passes if its socket is open. -/
theorem content_isOk {row : Row} {now requestLimit : Nat} {turns : Exchange}
    (run : Runs allowed name s) (phase : (s.sessions sid).phase = .rows)
    (noError : (s.sessions sid).conf.noError)
    (passes : (s.own sid).good →
      RowPasses row now requestLimit turns (s.own sid)) :
    (capstompContent row now requestLimit turns (s.own sid)).1.error = 0 := by
  have same := run.configured sid (by simp [phase]) (by simp [phase])
  cases isOpen : (s.own sid).good with
  | false =>
      rw [capstompContent_skipped row now requestLimit turns isOpen
        (by rw [withNoError, same]; exact noError)]
      rfl
  | true =>
      cases result : (capstompContent row now requestLimit turns
        (s.own sid)).1 with
      | failed =>
          exact absurd (passes isOpen) ((capstompContent_failed_iff row now
            requestLimit turns isOpen).mp result)
      | _ => rfl

theorem content_enabled (row : Row) (now requestLimit : Nat)
    (turns : Exchange) (phase : (s.sessions sid).phase = .rows) :
    ∃ after, s.step (.content sid row now requestLimit turns) = some after := by
  simp [System.step, System.content, phase]

theorem content_reports {row : Row} {now requestLimit : Nat}
    {turns : Exchange}
    (stepped : s.step (.content sid row now requestLimit turns) = some after) :
    after.reports (.content sid row now requestLimit turns) =
      some (sid, (capstompContent row now requestLimit turns
        (s.own sid)).1.error) := by
  obtain ⟨_, rfl⟩ := System.content_cases stepped
  simp [System.reports]

/-- A session without errors is told that all is well exactly when its rows
on open sockets go well. -/
theorem always_ok_iff : AlwaysOk allowed name ↔ RowsPass allowed name := by
  constructor
  · intro alwaysOk s run sid row now requestLimit turns permitted phase noError
      isOpen
    by_contra fails
    have failed := (capstompContent_failed_iff row now requestLimit turns
      isOpen).mpr fails
    obtain ⟨after, stepped⟩ :=
      content_enabled row now requestLimit turns phase
    have isOk := alwaysOk s run _ after permitted stepped sid _
      (content_reports stepped) noError
    rw [failed] at isOk
    cases isOk
  · intro rowsPass s run action after permitted stepped sid code reported
      noError
    cases action with
    | connect other turns =>
        obtain ⟨_, returned, same⟩ := Option.map_eq_some_iff.mp reported
        cases same
        exact connect_isOk run stepped noError returned
    | begin other requestLimit turns =>
        obtain ⟨_, returned, same⟩ := Option.map_eq_some_iff.mp reported
        cases same
        exact begin_isOk run stepped noError returned
    | content other row now requestLimit turns =>
        obtain ⟨phase, _⟩ := System.content_cases stepped
        rw [content_reports stepped] at reported
        cases reported
        exact content_isOk run phase noError
          (rowsPass s run sid row now requestLimit turns permitted phase
            noError)
    | _ => cases reported

end Runs

section Executed

open scoped Sample

/-- A statement without errors, logged on. -/
def withoutErrors : List Action :=
  [.get 1 (Sample.uri "no_error=true") 8, .connect 1 Sample.connects]

/-- Nothing can be sent on the socket within the timeout, and the row is
reported as an error. -/
theorem row_reports_error : ¬ AlwaysOk anything "pool" := by
  intro alwaysOk
  let s := final anything "pool" withoutErrors
  let row : Action := .content 1 {} 0 100 {}
  have run : Runs anything "pool" s := runs_final (by decide +kernel)
  have noError : (s.sessions 1).conf.noError := by decide +kernel
  have told : (s.step row).map (fun after => after.reports row) =
      some (some (1, 1)) := by decide +kernel
  obtain ⟨after, stepped, reported⟩ := Option.map_eq_some_iff.mp told
  have isOk := alwaysOk s run row after trivial stepped 1 1 reported noError
  cases isOk

end Executed

end Capstomp
