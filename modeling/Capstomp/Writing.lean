import Capstomp.Exchange

/-!
# What each call writes

A call of the connection writes at most one frame, tagged with the session the
connection was handed to and with the socket the connection had (`Wrote`); on
a closed socket it writes none.  A call that returns has written its frame.
-/

namespace Capstomp

open General Connection

/-- One frame with this body was written. -/
def Wrote (body : Body) (before after : Connection) : Prop :=
  ∃ open₀ receipt, before.socket = some open₀ ∧
    after.written = before.written ++
      [{ session := before.owner, socket := open₀.number,
         frame := { body := body, receipt := receipt } }]

/-- What is recorded of a frame written to one of the sockets. -/
def Connection.tagged (number : Nat) (frame : Frame) (c : Connection) :
    Written :=
  { session := c.owner, socket := number, frame := frame }

/-- This very frame was written. -/
def WroteFrame (frame : Frame) (before after : Connection) : Prop :=
  ∃ open₀, before.socket = some open₀ ∧
    after.written = before.written ++ [before.tagged open₀.number frame]

/-- The call wrote the frame with this body, or nothing. -/
structure MayWrite (body : Body) (before after : Connection) : Prop
    extends Continues before after where
  wrote : after.written = before.written ∨ Wrote body before after

namespace Wrote

variable {body : Body} {before between after : Connection}

/-- Reading afterwards writes nothing more. -/
theorem receives (wrote : Wrote body before between)
    (received : Receives between after) : Wrote body before after := by
  obtain ⟨open₀, receipt, isOpen, written⟩ := wrote
  exact ⟨open₀, receipt, isOpen, received.nothingWritten.trans written⟩

theorem good (wrote : Wrote body before after) : before.good := by
  obtain ⟨open₀, _, isOpen, _⟩ := wrote
  simp [Connection.good, isOpen]

end Wrote

theorem WroteFrame.receives {frame : Frame}
    {before between after : Connection}
    (wrote : WroteFrame frame before between)
    (received : Receives between after) : WroteFrame frame before after := by
  obtain ⟨open₀, isOpen, written⟩ := wrote
  exact ⟨open₀, isOpen, received.nothingWritten.trans written⟩

theorem Abandoned.nothingWritten {buffer : List UInt8} {turns : List Turn}
    {before after : Connection}
    (abandoned : Abandoned buffer turns before after) :
    after.written = before.written := by
  unfold Abandoned at abandoned
  dsimp only at abandoned
  split at abandoned
  · rw [abandoned]
    rfl
  · obtain ⟨packets, rfl⟩ := abandoned
    exact (dispatchAll_receives packets _).nothingWritten

/-- The call writes its frame exactly when it returns. -/
structure WritesFrame (body : Body) (send : Io Nat) : Prop where
  harmless : Harmless send
  returned : ∀ c count sent, send c = .ok count sent → Wrote body c sent
  thrown : ∀ c error left, send c = .error error left →
    left.written = c.written

namespace WritesFrame

variable {α : Type} {body : Body} {send : Io Nat} {rest : Nat → Io α}

/-- The calls after the `send` only read. -/
theorem mayWrite (writes : WritesFrame body send)
    (reads : ∀ count, Respects Receives (rest count)) (c : Connection) :
    MayWrite body c (leftBehind ((send >>= rest) c)) := by
  have continues : Harmless (send >>= rest) :=
    harmless_bind writes.harmless
      fun count state => (reads count state).toContinues
  refine ⟨continues c, ?_⟩
  simp only [bind, EStateM.bind]
  cases result : send c with
  | ok count sent =>
      exact .inr ((writes.returned c count sent result).receives
        (reads count sent))
  | error error left => exact .inl (writes.thrown c error left result)

theorem wrote (writes : WritesFrame body send)
    (reads : ∀ count, Respects Receives (rest count)) {c after : Connection}
    {value : α} (result : (send >>= rest) c = .ok value after) :
    Wrote body c after := by
  obtain ⟨count, sent, wrote, rested⟩ := bind_eq_ok_iff.mp result
  exact (writes.returned c count sent wrote).receives
    ((reads count).returned rested)

end WritesFrame

section Frames

variable [FrameBytes]

theorem sendBuffer_returned {frame : Frame} {turns : List Turn}
    {c sent : Connection} {count : Nat}
    (returned : sendBuffer frame turns c = .ok count sent) :
    WroteFrame frame c sent := by
  obtain ⟨isOpen, _, _, rfl⟩ := (sendBuffer_ok_iff ..).mp returned
  obtain ⟨open₀, isOpen⟩ := Option.isSome_iff_exists.mp isOpen
  exact ⟨open₀, isOpen, by simp [finish, accept, isOpen, tagged]⟩

theorem sendBuffer_thrown {frame : Frame} {turns : List Turn}
    {c left : Connection} {error : Error}
    (thrown : sendBuffer frame turns c = .error error left) :
    left.written = c.written := by
  rcases sendBuffer_outcome frame turns c with
    ⟨_, _, returned⟩ | ⟨_, after, stopped, reason⟩
  · rw [returned] at thrown
    cases thrown
  · rw [stopped] at thrown
    cases thrown
    rcases reason with ⟨_, rfl⟩ | ⟨_, _, abandoned⟩
    · rfl
    · exact abandoned.nothingWritten

theorem sendFrame_writes (body : Body) (receipt : Bool) (turns : List Turn) :
    WritesFrame body (sendFrame body receipt turns) where
  harmless := sendFrame_harmless body receipt turns
  returned c count sent result := by
    rw [sendFrame_eq] at result
    obtain ⟨open₀, isOpen, written⟩ := sendBuffer_returned result
    cases receipt <;> exact ⟨open₀, _, isOpen, written⟩
  thrown c error left result := by
    rw [sendFrame_eq] at result
    have unwritten := sendBuffer_thrown result
    cases receipt <;> exact unwritten

theorem sendLogon_writes (body : Body) (turns : List Turn) :
    WritesFrame body (sendLogon body turns) where
  harmless := sendLogon_harmless body turns
  returned c count sent result := by
    rw [sendLogon_eq] at result
    obtain ⟨open₀, isOpen, written⟩ := sendBuffer_returned result
    exact ⟨open₀, _, isOpen, written⟩
  thrown c error left result := by
    rw [sendLogon_eq] at result
    exact (sendBuffer_thrown result :)

theorem sendBegin_mayWrite (requestLimit : Nat) (turns : Exchange)
    (c : Connection) :
    MayWrite (.begin c.transactionId) c
      (leftBehind (sendBegin requestLimit turns c)) :=
  (sendFrame_writes _ _ turns.write).mayWrite
    (fun _ => read_receives "begin" turns.wait) c

theorem sendBegin_wrote {requestLimit : Nat} {turns : Exchange}
    {c after : Connection}
    (returned : sendBegin requestLimit turns c = .ok () after) :
    Wrote (.begin c.transactionId) c after :=
  (sendFrame_writes _ _ turns.write).wrote
    (fun _ => read_receives "begin" turns.wait) returned

/-- The SEND frame of a row. -/
def sendBody (destination : String) (headers : List Header)
    (payload : List UInt8) (now : Nat) (c : Connection) : Body :=
  .send destination (contentHeaders c now headers) payload

theorem sendContent_mayWrite (destination : String) (headers : List Header)
    (payload : List UInt8) (now requestLimit : Nat) (turns : Exchange)
    (c : Connection) :
    MayWrite (sendBody destination headers payload now c) c
      (leftBehind
        (sendContent destination headers payload now requestLimit turns c)) :=
  (sendFrame_writes _ _ turns.write).mayWrite
    (fun _ => receives_kept.bind (read_receives "send_content" turns.wait)
      fun _ => receives_kept.pure _) c

theorem sendContent_wrote {destination : String} {headers : List Header}
    {payload : List UInt8} {now requestLimit count : Nat} {turns : Exchange}
    {c after : Connection}
    (returned : sendContent destination headers payload now requestLimit
      turns c = .ok count after) :
    Wrote (sendBody destination headers payload now c) c after :=
  (sendFrame_writes _ _ turns.write).wrote
    (fun _ => receives_kept.bind (read_receives "send_content" turns.wait)
      fun _ => receives_kept.pure _) returned

/-- `send_content` that returns is its frame and the wait after it. -/
theorem sendContent_returned {destination : String} {headers : List Header}
    {payload : List UInt8} {now requestLimit count : Nat} {turns : Exchange}
    {c after : Connection}
    (returned : sendContent destination headers payload now requestLimit
      turns c = .ok count after) :
    ∃ sent, sendFrame (sendBody destination headers payload now c)
        (contentReceipt c requestLimit) turns.write c = .ok count sent ∧
      read "send_content" turns.wait sent = .ok () after := by
  obtain ⟨_, _, got, returned⟩ := bind_eq_ok_iff.mp returned
  cases got
  obtain ⟨_, sent, wrote, returned⟩ := bind_eq_ok_iff.mp returned
  obtain ⟨_, _, rested, same⟩ := bind_eq_ok_iff.mp returned
  cases same
  exact ⟨sent, wrote, rested⟩

theorem commitTransaction_mayWrite (id : String) (receipt : Bool)
    (turns : CommitTurns) (c : Connection) :
    MayWrite (.commit id) c (c.commitTransaction id receipt turns) := by
  have exchange (start : Connection) :=
    (sendFrame_writes (.commit id) receipt turns.write).mayWrite
      (fun _ => read_receives "commit_transaction" turns.wait) start
  cases receipt with
  | true => exact exchange c
  | false =>
      refine ⟨commitTransaction_continues id false turns c, ?_⟩
      simp only [Connection.commitTransaction, tryCommit, Bool.false_eq_true,
        if_false, bind, EStateM.bind]
      have alive := connected_receives turns.drain c
      cases result : connected turns.drain c with
      | error error left =>
          rw [result] at alive
          exact .inl alive.nothingWritten
      | ok good drained =>
          rw [result, leftBehind_ok] at alive
          cases good with
          | false => exact .inl alive.nothingWritten
          | true =>
              rcases (exchange drained).wrote with none | ⟨open₀, _, isOpen, wrote⟩
              · exact .inl (none.trans alive.nothingWritten)
              · rw [alive.nothingWritten, alive.owner] at wrote
                exact .inr ⟨open₀, _, alive.sameSocket open₀ isOpen, wrote⟩

/-! ## The row of a statement -/

/-- How a row ends, and what it has written then. -/
theorem capstompContent_cases (row : Row) (now requestLimit : Nat)
    (turns : Exchange) (c : Connection) :
    let outcome := capstompContent row now requestLimit turns c
    let body := sendBody (rowDestination c.destination row.routingKey)
      (rowHeaders row) row.payload now c
    (c.good = false ∧ outcome = (.skipped, c)) ∨
      (outcome.1 = .failed ∧ outcome.2.good = false ∧
        MayWrite body c outcome.2) ∨
      ∃ count, outcome.1 = .sent count ∧ Continues c outcome.2 ∧
        Wrote body c outcome.2 := by
  unfold capstompContent
  split
  · next idle =>
      simp only [Bool.and_eq_true, Bool.not_eq_true'] at idle
      exact .inl ⟨idle.1, rfl⟩
  · have mayWrite := sendContent_mayWrite
      (rowDestination c.destination row.routingKey) (rowHeaders row)
      row.payload now requestLimit turns c
    split
    · next count sent returned =>
        rw [returned] at mayWrite
        exact .inr (.inr ⟨count, rfl, mayWrite.toContinues,
          sendContent_wrote returned⟩)
    · next error left thrown =>
        rw [thrown] at mayWrite
        exact .inr (.inl ⟨rfl, rfl,
          .trans _ _ _ mayWrite.toContinues (close_continues left),
          mayWrite.wrote⟩)

/-! ## The logon -/

/-- `connect` wrote nothing, or the frame of a logon to the socket it opened,
and left the connection with no other. -/
structure Connects (u : Uri) (before after : Connection) : Prop
    extends SameHandle before after where
  wrote : after.written = before.written ∨
    ∃ receipt, after.written = before.written ++
      [{ session := before.owner, socket := before.sockets,
         frame := { body := u.logonBody, receipt := receipt } }] ∧
      ∀ open', after.socket = some open' → open'.number = before.sockets

theorem logon_mayWrite (u : Uri) (turns : LogonTurns) (c : Connection) :
    MayWrite u.logonBody c (leftBehind (logon u turns c)) :=
  (sendLogon_writes _ turns.write).mayWrite
    (fun _ => receives_kept.bind (read_receives "logon" turns.wait)
      fun _ => Respects.ofIte (receives_kept.throw _) (receives_kept.pure _)) c

/-- The connection when `reconnect` logs on. -/
def logonStart (u : Uri) (fd : Nat) (c : Connection) : Connection :=
  { openSocket u fd c.close with destination := u.fragment }

/-- How `reconnect` ends, by the point at which it stops. -/
theorem reconnect_cases [PassHash] (u : Uri) (turns : ConnectTurns)
    (c : Connection) :
    (∃ error, reconnect u turns c = .error error c.close) ∨
      ∃ fd,
        (∃ error left,
          logon u turns.logon (logonStart u fd c) = .error error left ∧
            reconnect u turns c = .error error left) ∨
        ∃ final, logon u turns.logon (logonStart u fd c) = .ok () final ∧
          reconnect u turns c =
            .ok () { final with passhash := PassHash.hash u.passcode } := by
  simp only [reconnect, bind, EStateM.bind, modify_apply]
  cases created : createConnection u turns.route [] with
  | error error resolved => exact .inl ⟨error, rfl⟩
  | ok fd resolved =>
      refine .inr ⟨fd, ?_⟩
      simp only [EStateM.bind, modify_apply]
      rw [← logonStart]
      cases result : logon u turns.logon (logonStart u fd c) with
      | error error left => exact .inl ⟨error, left, rfl, rfl⟩
      | ok _ final => exact .inr ⟨final, rfl, rfl⟩

/-- `connect` takes the socket it finds: it is alive after what it had to say,
and was logged on with this password. -/
def Reuses [PassHash] (u : Uri) (turns : ConnectTurns)
    (c drained : Connection) : Prop :=
  connected turns.drain c = .ok true drained ∧
    PassHash.hash u.passcode = drained.passhash

theorem connect_reuses [PassHash] {u : Uri} {turns : ConnectTurns}
    {c drained : Connection} (reuses : Reuses u turns c drained) :
    connect u turns c =
      .ok () { drained with requestCount := drained.requestCount + 1 } := by
  obtain ⟨alive, passhash⟩ := reuses
  simp [connect, establish, bind, EStateM.bind, alive, passhash]

/-- A logon that returns has sent its CONNECT, and read since. -/
theorem logon_returned {u : Uri} {turns : LogonTurns} {c after : Connection}
    (returned : logon u turns c = .ok () after) :
    Receives (((loggingOn c).accept
      (FrameBytes.data { body := u.logonBody })).finish
        { body := u.logonBody }) after := by
  obtain ⟨_, _, wrote, rested⟩ := bind_eq_ok_iff.mp returned
  obtain ⟨_, _, _, rfl⟩ := (sendBuffer_ok_iff ..).mp wrote
  have reads : Respects Receives (do
      read "logon" turns.wait
      if turns.session = "" then throw .noSession else pure ()) :=
    receives_kept.bind (read_receives "logon" turns.wait) fun _ =>
      Respects.ofIte (receives_kept.throw _) (receives_kept.pure _)
  exact reads.returned rested

/-- A connection that `connect` returns with is on the socket it had, or on
the one it has just logged on. -/
theorem connect_returned [PassHash] {u : Uri} {turns : ConnectTurns}
    {c after : Connection} (returned : connect u turns c = .ok () after) :
    ∃ drained established, Receives c drained ∧
      after = { established with
        requestCount := established.requestCount + 1 } ∧
      (established = drained ∨ ∃ fd final,
        logon u turns.logon (logonStart u fd drained) = .ok () final ∧
          established =
            { final with passhash := PassHash.hash u.passcode }) := by
  obtain ⟨_, established, settled, counted⟩ := bind_eq_ok_iff.mp returned
  cases counted
  obtain ⟨alive, drained, connected, continued⟩ := bind_eq_ok_iff.mp settled
  refine ⟨drained, established,
    (connected_receives turns.drain).returned connected, rfl, ?_⟩
  simp only [bind, EStateM.bind, get_apply] at continued
  split at continued
  · cases continued
    exact .inl rfl
  · rcases reconnect_cases u turns drained with
      ⟨error, failed⟩ | ⟨fd, ⟨error, left, _, failed⟩ | ⟨final, logged, done⟩⟩
    · rw [failed] at continued
      cases continued
    · rw [failed] at continued
      cases continued
    · rw [done] at continued
      cases continued
      exact .inr ⟨fd, final, logged, rfl⟩

theorem reconnect_connects [PassHash] (u : Uri) (turns : ConnectTurns)
    (c : Connection) : Connects u c (leftBehind (reconnect u turns c)) := by
  have handle := reconnect_sameHandle u turns c
  refine ⟨handle, ?_⟩
  rcases reconnect_cases u turns c with ⟨error, closed⟩ | ⟨fd, outcome⟩
  · rw [closed]
    exact .inl rfl
  · have mayWrite := logon_mayWrite u turns.logon (logonStart u fd c)
    obtain ⟨final, logged, socket, written⟩ : ∃ final,
        leftBehind (logon u turns.logon (logonStart u fd c)) = final ∧
        (leftBehind (reconnect u turns c)).socket = final.socket ∧
        (leftBehind (reconnect u turns c)).written = final.written := by
      rcases outcome with ⟨error, left, thrown, same⟩ | ⟨final, returned, same⟩
      · exact ⟨left, by rw [thrown]; rfl, by rw [same]; rfl,
          by rw [same]; rfl⟩
      · exact ⟨final, by rw [returned]; rfl, by rw [same]; rfl,
          by rw [same]; rfl⟩
    rw [logged] at mayWrite
    rw [socket, written]
    rcases mayWrite.wrote with none | ⟨open₀, receipt, isOpen, wrote⟩
    · exact .inl none
    · cases isOpen
      refine .inr ⟨receipt, wrote, ?_⟩
      intro open' nowOpen
      obtain ⟨_, wasOpen, same⟩ := mayWrite.socket open' nowOpen
      cases wasOpen
      exact same.number

theorem connect_connects [PassHash] (u : Uri) (turns : ConnectTurns)
    (c : Connection) : Connects u c (leftBehind (connect u turns c)) := by
  refine ⟨connect_sameHandle u turns c, ?_⟩
  obtain ⟨written, socket⟩ :
      (leftBehind (connect u turns c)).written =
          (leftBehind (establish u turns c)).written ∧
        (leftBehind (connect u turns c)).socket =
          (leftBehind (establish u turns c)).socket := by
    simp only [connect, bind, EStateM.bind]
    cases establish u turns c <;> exact ⟨rfl, rfl⟩
  rw [written, socket]
  have alive := connected_receives turns.drain c
  simp only [establish, bind, EStateM.bind]
  cases result : connected turns.drain c with
  | error error left =>
      rw [result] at alive
      exact .inl alive.nothingWritten
  | ok good drained =>
      rw [result, leftBehind_ok] at alive
      simp only [get_apply]
      split
      · exact .inl alive.nothingWritten
      · have fresh := (reconnect_connects u turns drained).wrote
        rwa [alive.nothingWritten, alive.owner, alive.sockets] at fresh

end Frames

end Capstomp
