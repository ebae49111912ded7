import Capstomp.Udf

/-!
# What the member functions leave alone

No I/O touches the links of a connection into its pool, its settings or its
transaction (`SameHandle`), and apart from `reconnect` none opens a socket:
afterwards the connection is closed, or on the socket it had, with the
destination and the password of its logon (`Continues`).  What only reads does
not touch the socket at all, unless it closes it (`Receives`).
-/

namespace Capstomp

open General

/-- The members that tie a connection to its pool and its session; what is
recorded is only added to. -/
structure SameHandle (before after : Connection) : Prop where
  self : after.self = before.self
  owner : after.owner = before.owner
  conf : after.conf = before.conf
  transactionId : after.transactionId = before.transactionId
  transaction : after.transaction = before.transaction
  processed : before.processed <+: after.processed
  written : before.written <+: after.written

namespace SameHandle

@[refl] theorem refl (c : Connection) : SameHandle c c :=
  ⟨rfl, rfl, rfl, rfl, rfl, List.prefix_rfl, List.prefix_rfl⟩

/-- Whatever happens to the other members. -/
theorem ofIo (c : Connection) (error destination : String)
    (receiptReceived : Bool) (passhash totalCount requestCount sockets : Nat)
    (socket : Option Socket) (stomplay : Stomplay) :
    SameHandle c
      { c with
        error := error, destination := destination
        receiptReceived := receiptReceived, passhash := passhash
        totalCount := totalCount, requestCount := requestCount
        sockets := sockets, socket := socket, stomplay := stomplay } :=
  ⟨rfl, rfl, rfl, rfl, rfl, List.prefix_rfl, List.prefix_rfl⟩

theorem trans (first second third : Connection)
    (earlier : SameHandle first second) (later : SameHandle second third) :
    SameHandle first third :=
  ⟨later.self.trans earlier.self, later.owner.trans earlier.owner,
    later.conf.trans earlier.conf,
    later.transactionId.trans earlier.transactionId,
    later.transaction.trans earlier.transaction,
    earlier.processed.trans later.processed,
    earlier.written.trans later.written⟩

end SameHandle

/-- The socket is the one before, further on, under the same logon. -/
structure SameSocket (before after : Connection) (open₀ open' : Socket) :
    Prop where
  number : open'.number = open₀.number
  target : open'.target = open₀.target
  frames : open₀.frames <+: open'.frames
  destination : after.destination = before.destination
  passhash : after.passhash = before.passhash

/-- The connection after some I/O that did not open a socket. -/
structure Continues (before after : Connection) : Prop
    extends SameHandle before after where
  sockets : after.sockets = before.sockets
  socket : ∀ open', after.socket = some open' →
    ∃ open₀, before.socket = some open₀ ∧
      SameSocket before after open₀ open'

namespace Continues

theorem ofSame {before after : Connection} (same : SameHandle before after)
    (sockets : after.sockets = before.sockets)
    (socket : after.socket = before.socket)
    (destination : after.destination = before.destination)
    (passhash : after.passhash = before.passhash) : Continues before after :=
  { same with
    sockets := sockets
    socket := fun open' isOpen =>
      ⟨open', socket ▸ isOpen, rfl, rfl, List.prefix_rfl, destination,
        passhash⟩ }

theorem ofClosed {before after : Connection} (same : SameHandle before after)
    (sockets : after.sockets = before.sockets)
    (isClosed : after.socket = none) : Continues before after :=
  { same with
    sockets := sockets
    socket := fun open' isOpen => by simp [isClosed] at isOpen }

theorem refl (c : Connection) : Continues c c :=
  ofSame (.refl c) rfl rfl rfl rfl

theorem trans (first second third : Connection)
    (earlier : Continues first second) (later : Continues second third) :
    Continues first third :=
  { SameHandle.trans first second third earlier.toSameHandle
      later.toSameHandle with
    sockets := later.sockets.trans earlier.sockets
    socket := by
      intro open' isOpen
      obtain ⟨between, wasOpen, newer⟩ := later.socket open' isOpen
      obtain ⟨open₀, wasOpen, older⟩ := earlier.socket between wasOpen
      exact ⟨open₀, wasOpen,
        ⟨newer.number.trans older.number, newer.target.trans older.target,
          older.frames.trans newer.frames,
          newer.destination.trans older.destination,
          newer.passhash.trans older.passhash⟩⟩ }

theorem closed {before after : Connection}
    (continues : Continues before after) (isClosed : before.socket = none) :
    after.socket = none := by
  cases isOpen : after.socket with
  | none => rfl
  | some open' =>
      obtain ⟨open₀, wasOpen, _⟩ := continues.socket open' isOpen
      rw [isClosed] at wasOpen
      cases wasOpen

end Continues

/-- The connection after it has read: nothing was written, and what stomplay
waits for has become less. -/
structure Receives (before after : Connection) : Prop
    extends Continues before after where
  nothingWritten : after.written = before.written
  sameSocket : ∀ open', after.socket = some open' →
    before.socket = some open'
  handlers : after.stomplay.handlers ⊆ before.stomplay.handlers
  receiptSeq : after.stomplay.receiptSeq = before.stomplay.receiptSeq

namespace Receives

theorem refl (c : Connection) : Receives c c :=
  ⟨.refl c, rfl, fun _ isOpen => isOpen, fun _ member => member, rfl⟩

theorem trans (first second third : Connection)
    (earlier : Receives first second) (later : Receives second third) :
    Receives first third :=
  ⟨.trans _ _ _ earlier.toContinues later.toContinues,
    later.nothingWritten.trans earlier.nothingWritten,
    fun open' isOpen =>
      earlier.sameSocket open' (later.sameSocket open' isOpen),
    fun _ member => earlier.handlers (later.handlers member),
    later.receiptSeq.trans earlier.receiptSeq⟩

end Receives

namespace Connection

theorem callback_receives (c : Connection) (packet : Packet) :
    Receives c (c.callback packet) := by
  have filtered (id : ReceiptId) :
      c.stomplay.handlers.filter (· ≠ id) ⊆ c.stomplay.handlers :=
    fun _ member => (List.mem_filter.mp member).1
  cases packet <;> simp only [callback] <;> (try split) <;>
    exact ⟨.ofSame (SameHandle.ofIo c _ _ _ _ _ _ _ _ _) rfl rfl rfl rfl,
      rfl, fun _ isOpen => isOpen,
      by first | exact filtered _ | exact fun _ member => member, rfl⟩

theorem dispatch_receives (c : Connection) (packet : Packet) :
    Receives c (c.dispatch packet) :=
  let called := callback_receives c packet
  ⟨⟨⟨called.self, called.owner, called.conf, called.transactionId,
    called.transaction, List.prefix_append _ _, called.written⟩,
    called.sockets, fun open' isOpen =>
      let ⟨open₀, wasOpen, same⟩ := called.socket open' isOpen
      ⟨open₀, wasOpen, ⟨same.number, same.target, same.frames,
        same.destination, same.passhash⟩⟩⟩,
    called.nothingWritten, called.sameSocket, called.handlers,
    called.receiptSeq⟩

theorem dispatchAll_receives (packets : List Packet) (c : Connection) :
    Receives c (c.dispatchAll packets) := by
  induction packets generalizing c with
  | nil => exact .refl c
  | cons packet packets induction =>
      exact .trans _ _ _ (dispatch_receives c packet)
        (induction (c.dispatch packet))

theorem close_receives (c : Connection) : Receives c c.close :=
  ⟨.ofClosed (.ofIo c _ _ _ _ _ _ _ _ _) rfl rfl, rfl,
    fun _ isOpen => (nomatch isOpen), fun _ member => member, rfl⟩

theorem close_continues (c : Connection) : Continues c c.close :=
  (close_receives c).toContinues

@[simp] theorem close_error (c : Connection) : c.close.error = "" := rfl

@[simp] theorem close_socket (c : Connection) : c.close.socket = none := rfl

@[simp] theorem disconnected_eq (marker : String) (c : Connection) :
    c.disconnected marker = { c.close with receiptReceived := true } := by
  simp [disconnected]

@[simp] theorem disconnectedSending_eq (c : Connection) :
    c.disconnectedSending = c.close := by
  simp [disconnectedSending]

theorem accept_continues (bytes : List UInt8) (c : Connection) :
    Continues c (c.accept bytes) := by
  refine ⟨.ofIo c _ _ _ _ _ _ _ _ _, rfl, ?_⟩
  intro open' isOpen
  simp only [accept, Option.map_eq_some_iff] at isOpen
  obtain ⟨open₀, wasOpen, rfl⟩ := isOpen
  exact ⟨open₀, wasOpen, rfl, rfl, List.prefix_rfl, rfl, rfl⟩

theorem finish_continues (frame : Frame) (c : Connection) :
    Continues c (c.finish frame) := by
  refine ⟨⟨rfl, rfl, rfl, rfl, rfl, List.prefix_rfl,
    List.prefix_append _ _⟩, rfl, ?_⟩
  intro open' isOpen
  simp only [finish, Option.map_eq_some_iff] at isOpen
  obtain ⟨open₀, wasOpen, rfl⟩ := isOpen
  exact ⟨open₀, wasOpen, rfl, rfl, List.prefix_append _ _, rfl, rfl⟩

end Connection

open Connection

/-! ## The calls that read -/

/-- A relation kept by everything that reading does to a connection. -/
structure KeptByReading (related : Connection → Connection → Prop) :
    Prop where
  refl : ∀ c, related c c
  trans : ∀ first second third, related first second →
    related second third → related first third
  dispatchAll : ∀ packets (c : Connection), related c (c.dispatchAll packets)
  close : ∀ c : Connection, related c c.close
  received : ∀ c : Connection, related c { c with receiptReceived := true }

namespace KeptByReading

variable {related : Connection → Connection → Prop}

theorem bind {α β : Type} (kept : KeptByReading related) {first : Io α}
    {rest : α → Io β} (firstKept : Respects related first)
    (restKept : ∀ value, Respects related (rest value)) :
    Respects related (first >>= rest) :=
  Respects.ofBind kept.trans firstKept restKept

theorem pure {α : Type} (kept : KeptByReading related) (value : α) :
    Respects related (Pure.pure value : Io α) :=
  Respects.ofPure kept.refl value

theorem throw {α : Type} (kept : KeptByReading related) (error : Error) :
    Respects related (MonadExcept.throw error : Io α) :=
  Respects.ofThrow kept.refl error

theorem get (kept : KeptByReading related) :
    Respects related (MonadState.get : Io Connection) :=
  Respects.ofGet kept.refl

theorem disconnected (kept : KeptByReading related) (marker : String)
    (c : Connection) : related c (c.disconnected marker) := by
  rw [disconnected_eq]
  exact kept.trans _ _ _ (kept.close c) (kept.received c.close)

theorem socketPoll (kept : KeptByReading related) (turn : Turn) :
    Respects related (socketPoll turn) := by
  unfold Capstomp.socketPoll
  split
  · exact kept.throw _
  · refine kept.bind kept.get fun c => ?_
    exact Respects.ofIte (kept.pure _) (kept.pure _)

theorem readyRead (kept : KeptByReading related) (turn : Turn) :
    Respects related (readyRead turn) :=
  kept.bind (kept.socketPoll turn) fun _ => kept.pure _

theorem readStomp (kept : KeptByReading related) (marker : String)
    (recv : Recv) : Respects related (readStomp marker recv) := by
  cases recv with
  | failed => exact kept.throw _
  | closed => exact kept.pure _
  | data packets parsed =>
      refine kept.bind (Respects.ofModify (kept.dispatchAll packets))
        fun _ => ?_
      exact Respects.ofIte (kept.pure _) (kept.throw _)

theorem awaitReply (kept : KeptByReading related) (marker : String)
    (turns : List Turn) : Respects related (awaitReply marker turns) := by
  induction turns with
  | nil =>
      refine kept.bind kept.get fun c => ?_
      exact Respects.ofIte (kept.pure _) (kept.throw _)
  | cons turn turns induction =>
      refine kept.bind kept.get fun c => ?_
      refine Respects.ofIte (kept.pure _) ?_
      refine kept.bind (kept.readyRead turn) fun ready => ?_
      refine Respects.ofIte ?_ (kept.throw _)
      refine kept.bind (kept.readStomp marker turn.recv) fun more => ?_
      refine Respects.ofIte induction ?_
      exact kept.bind (Respects.ofModify (kept.disconnected marker))
        fun _ => induction

theorem read (kept : KeptByReading related) (marker : String)
    (turns : List Turn) : Respects related (read marker turns) := by
  refine kept.bind (kept.awaitReply marker turns) fun _ => ?_
  refine kept.bind kept.get fun c => ?_
  exact Respects.ofIte (kept.throw _) (kept.pure _)

theorem drain (kept : KeptByReading related) (turns : List Turn) :
    Respects related (drain turns) := by
  induction turns with
  | nil => exact kept.pure _
  | cons turn turns induction =>
      refine kept.bind (kept.readyRead turn) fun ready => ?_
      refine Respects.ofIte ?_ (kept.pure _)
      refine kept.bind (kept.readStomp _ _) fun more => ?_
      refine Respects.ofIte induction ?_
      exact kept.bind (Respects.ofModify kept.close) fun _ => kept.pure _

theorem connected (kept : KeptByReading related) (turns : List Turn) :
    Respects related (connected turns) :=
  kept.bind kept.get fun _ =>
    Respects.ofIte (kept.drain turns) (kept.pure _)

/-- The loop of `send` reads as well, and hands bytes to the socket. -/
theorem sendLoop (kept : KeptByReading related)
    (accept : ∀ bytes (c : Connection), related c (c.accept bytes))
    (buffer : List UInt8) (turns : List Turn) :
    Respects related (sendLoop buffer turns) := by
  induction turns generalizing buffer with
  | nil => exact kept.throw _
  | cons turn turns induction =>
      refine kept.bind (kept.socketPoll turn) fun events => ?_
      refine Respects.ofIte ?_ (Respects.ofIte ?_ (kept.throw _))
      · refine kept.bind (kept.readStomp _ _) fun more => ?_
        refine Respects.ofIte (kept.throw _) ?_
        refine kept.bind (Respects.ofModify fun c => ?_)
          fun _ => kept.throw _
        rw [disconnectedSending_eq]
        exact kept.close c
      · cases turn.write with
        | failed => exact kept.throw _
        | wouldBlock => exact Respects.ofIte (kept.pure _) (induction _)
        | accepted count =>
            refine kept.bind (Respects.ofModify (accept _)) fun _ => ?_
            exact Respects.ofIte (kept.pure _) (induction _)

end KeptByReading

theorem received_receives (c : Connection) (received : Bool) :
    Receives c { c with receiptReceived := received } :=
  ⟨.ofSame (.ofIo c _ _ _ _ _ _ _ _ _) rfl rfl rfl rfl, rfl,
    fun _ isOpen => isOpen, fun _ member => member, rfl⟩

theorem receives_kept : KeptByReading Receives where
  refl := Receives.refl
  trans := Receives.trans
  dispatchAll := dispatchAll_receives
  close := close_receives
  received c := received_receives c true

theorem continues_kept : KeptByReading Continues where
  refl := Continues.refl
  trans := Continues.trans
  dispatchAll packets c := (dispatchAll_receives packets c).toContinues
  close := close_continues
  received c := (received_receives c true).toContinues

theorem read_receives (marker : String) (turns : List Turn) :
    Respects Receives (read marker turns) :=
  receives_kept.read marker turns

theorem connected_receives (turns : List Turn) :
    Respects Receives (connected turns) :=
  receives_kept.connected turns

/-! ## The calls that write -/

/-- The relation of `Respects` for the calls that write. -/
abbrev Harmless {α : Type} (computation : Io α) : Prop :=
  Respects Continues computation

theorem read_harmless (marker : String) (turns : List Turn) :
    Harmless (read marker turns) :=
  continues_kept.read marker turns

theorem connected_harmless (turns : List Turn) : Harmless (connected turns) :=
  continues_kept.connected turns

section Rules

variable {α β : Type}

theorem harmless_bind {first : Io α} {rest : α → Io β}
    (firstHarmless : Harmless first)
    (restHarmless : ∀ value, Harmless (rest value)) :
    Harmless (first >>= rest) :=
  continues_kept.bind firstHarmless restHarmless

theorem harmless_modify {change : Connection → Connection}
    (continues : ∀ c, Continues c (change c)) :
    Harmless (modify change : Io PUnit) :=
  Respects.ofModify continues

end Rules

theorem sameHandle_of_harmless {α : Type} {computation : Io α}
    (harmless : Harmless computation) : Respects SameHandle computation :=
  fun c => (harmless c).toSameHandle

theorem sameHandle_modify {change : Connection → Connection}
    (changes : ∀ c, SameHandle c (change c)) :
    Respects SameHandle (modify change : Io PUnit) :=
  Respects.ofModify changes

/-- Changing only what the wait for a reply looks at. -/
theorem expect_continues (c : Connection) (received : Bool)
    (stomplay : Stomplay) :
    Continues c
      { c with receiptReceived := received, stomplay := stomplay } :=
  .ofSame (.ofIo c _ _ _ _ _ _ _ _ _) rfl rfl rfl rfl

/-- A relation that handing over bytes and frames keeps as well. -/
structure KeptByWriting (related : Connection → Connection → Prop) : Prop
    extends KeptByReading related where
  accept : ∀ bytes (c : Connection), related c (c.accept bytes)
  finish : ∀ frame (c : Connection), related c (c.finish frame)
  expect : ∀ (c : Connection) received stomplay, related c
    { c with receiptReceived := received, stomplay := stomplay }

theorem continues_written : KeptByWriting Continues :=
  { continues_kept with
    accept := accept_continues
    finish := finish_continues
    expect := expect_continues }

section Frames

variable [FrameBytes]

namespace KeptByWriting

variable {related : Connection → Connection → Prop}

theorem sendBuffer (kept : KeptByWriting related) (frame : Frame)
    (turns : List Turn) : Respects related (sendBuffer frame turns) :=
  kept.bind (kept.sendLoop kept.accept _ turns) fun _ =>
    kept.bind (Respects.ofModify (kept.finish frame)) fun _ => kept.pure _

theorem sendFrame (kept : KeptByWriting related) (body : Body)
    (receipt : Bool) (turns : List Turn) :
    Respects related (sendFrame body receipt turns) := by
  refine Respects.ofIte ?_ ?_
  · refine kept.bind
      (Respects.ofModify fun c => kept.expect c _ c.stomplay) fun _ => ?_
    refine kept.bind kept.get fun c => ?_
    refine kept.bind
      (Respects.ofModify fun c => kept.expect c c.receiptReceived _)
      fun _ => kept.sendBuffer _ turns
  · exact kept.bind
      (Respects.ofModify fun c => kept.expect c _ c.stomplay)
      fun _ => kept.sendBuffer _ turns

theorem sendLogon (kept : KeptByWriting related) (body : Body)
    (turns : List Turn) : Respects related (sendLogon body turns) :=
  kept.bind (Respects.ofModify fun c => kept.expect c _ _)
    fun _ => kept.sendBuffer _ turns

theorem logon (kept : KeptByWriting related) (u : Uri) (turns : LogonTurns) :
    Respects related (logon u turns) :=
  kept.bind (kept.sendLogon _ _) fun _ =>
    kept.bind (kept.read _ _) fun _ =>
      Respects.ofIte (kept.throw _) (kept.pure _)

theorem sendBegin (kept : KeptByWriting related) (requestLimit : Nat)
    (turns : Exchange) : Respects related (sendBegin requestLimit turns) :=
  kept.bind kept.get fun _ =>
    kept.bind (kept.sendFrame _ _ _) fun _ => kept.read _ _

theorem sendContent (kept : KeptByWriting related) (destination : String)
    (headers : List Header) (payload : List UInt8) (now requestLimit : Nat)
    (turns : Exchange) : Respects related
      (sendContent destination headers payload now requestLimit turns) :=
  kept.bind kept.get fun _ =>
    kept.bind (kept.sendFrame _ _ _) fun _ =>
      kept.bind (kept.read _ _) fun _ => kept.pure _

theorem tryCommit (kept : KeptByWriting related) (id : String)
    (receipt : Bool) (turns : CommitTurns) :
    Respects related (tryCommit id receipt turns) := by
  have exchange : Respects related (do
      let _ ← Capstomp.sendFrame (.commit id) receipt turns.write
      Capstomp.read "commit_transaction" turns.wait) :=
    kept.bind (kept.sendFrame _ _ _) fun _ => kept.read _ _
  refine Respects.ofIte exchange ?_
  refine kept.bind (kept.connected _) fun alive => ?_
  exact Respects.ofIte exchange (kept.pure _)

theorem capstompContent (kept : KeptByWriting related) (row : Row)
    (now requestLimit : Nat) (turns : Exchange) (c : Connection) :
    related c (capstompContent row now requestLimit turns c).2 := by
  unfold Capstomp.capstompContent
  split
  · exact kept.refl c
  · have sends := kept.sendContent
      (rowDestination c.destination row.routingKey) (rowHeaders row)
      row.payload now requestLimit turns
    split
    · next count sent returned => exact sends.returned returned
    · next error left thrown =>
        exact kept.trans _ _ _ (sends.thrown thrown) (kept.close left)

end KeptByWriting

theorem sendFrame_harmless (body : Body) (receipt : Bool)
    (turns : List Turn) : Harmless (sendFrame body receipt turns) :=
  continues_written.sendFrame body receipt turns

theorem sendLogon_harmless (body : Body) (turns : List Turn) :
    Harmless (sendLogon body turns) :=
  continues_written.sendLogon body turns

theorem logon_harmless (u : Uri) (turns : LogonTurns) :
    Harmless (logon u turns) :=
  continues_written.logon u turns

theorem sendBegin_harmless (requestLimit : Nat) (turns : Exchange) :
    Harmless (sendBegin requestLimit turns) :=
  continues_written.sendBegin requestLimit turns

theorem commitTransaction_continues (id : String) (receipt : Bool)
    (turns : CommitTurns) (c : Connection) :
    Continues c (c.commitTransaction id receipt turns) :=
  continues_written.tryCommit id receipt turns c

theorem capstompContent_continues (row : Row) (now requestLimit : Nat)
    (turns : Exchange) (c : Connection) :
    Continues c (capstompContent row now requestLimit turns c).2 :=
  continues_written.capstompContent row now requestLimit turns c

/-! ## The call that opens a socket -/

section Connect

variable [PassHash]

theorem reconnect_sameHandle (u : Uri) (turns : ConnectTurns) :
    Respects SameHandle (reconnect u turns) := by
  refine Respects.ofBind SameHandle.trans
    (sameHandle_of_harmless (harmless_modify close_continues)) fun _ => ?_
  split
  · exact Respects.ofThrow SameHandle.refl _
  · refine Respects.ofBind SameHandle.trans
      (sameHandle_modify fun c => .ofIo c _ _ _ _ _ _ _ _ _) fun _ => ?_
    refine Respects.ofBind SameHandle.trans
      (sameHandle_modify fun c => .ofIo c _ _ _ _ _ _ _ _ _) fun _ => ?_
    exact Respects.ofBind SameHandle.trans
      (sameHandle_of_harmless (logon_harmless _ _))
      fun _ => sameHandle_modify fun c => .ofIo c _ _ _ _ _ _ _ _ _

/-- `connection::connect` may open a new socket, and does nothing else to
the links of the connection. -/
theorem connect_sameHandle (u : Uri) (turns : ConnectTurns) :
    Respects SameHandle (connect u turns) := by
  refine Respects.ofBind SameHandle.trans ?_
    fun _ => sameHandle_modify fun c => .ofIo c _ _ _ _ _ _ _ _ _
  refine Respects.ofBind SameHandle.trans
    (sameHandle_of_harmless (connected_harmless _)) fun alive => ?_
  refine Respects.ofBind SameHandle.trans
    (sameHandle_of_harmless continues_kept.get) fun c => ?_
  exact Respects.ofIte (sameHandle_of_harmless (continues_kept.pure _))
    (reconnect_sameHandle u turns)

end Connect

end Frames

end Capstomp
