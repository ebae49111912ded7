import Capstomp.EveryConnection
import Capstomp.Publication
import Capstomp.Streams
import Capstomp.Tidiness

/-!
# Sockets whose frames are whole

The peer of a socket reads bytes.  They are the frames written to it as long as
no frame stops midway on a socket that stays open, and only a COMMIT can do
that: `commit_transaction` swallows the exception, while every other call that
writes is followed by `close` when it fails.  What is said about the frames of
a socket is therefore said to its peer if no COMMIT on it stops midway.
-/

namespace Capstomp

open General Connection

section Statements

variable [FrameBytes]

/-- The connection is on the socket of this number. -/
def Connection.On (number : Nat) (c : Connection) : Prop :=
  ∃ open' ∈ c.socket, open'.number = number

instance (number : Nat) (c : Connection) : Decidable (c.On number) :=
  inferInstanceAs (Decidable (∃ open' ∈ c.socket, open'.number = number))

/-- If the socket of this number is open, it has taken the frames written to
it and not a byte more. -/
def Connection.Uncut (number : Nat) (c : Connection) : Prop :=
  ∀ open', c.socket = some open' → open'.number = number →
    open'.stream =
      ((c.framesOn number).map Written.frame).flatMap FrameBytes.data

/-- The outcomes of a write after which the socket has taken whole frames: all
of the frame goes out or nothing of it, or the peer has closed. -/
def writesWhole (size : Nat) (turns : List Turn) : Bool :=
  goesOut size turns || decide (taken size turns = 0) || hangsUp size turns

/-- The outcomes of `commit_transaction` after which it has. -/
def commitsWhole (c : Connection) (id : String) (receipt : Bool)
    (turns : CommitTurns) : Bool :=
  !c.good || (!receipt && !staysOpen turns.drain) ||
    writesWhole (FrameBytes.data (framed (.commit id) receipt c)).length
      turns.write

/-- The transaction that an action commits, whether it asks for a receipt, and
the outcomes. -/
def System.commits (s : System) :
    Action → Option (Transaction × Bool × CommitTurns)
  | .commitTransaction sid turns =>
      match (s.sessions sid).phase with
      | .committing transaction _ receipt => some (transaction, receipt, turns)
      | _ => none
  | .forceNext _ turns =>
      (s.pointed.filter (·.ready)).map fun transaction =>
        (transaction, true, turns)
  | _ => none

/-- No row names a transaction, and no COMMIT stops midway on this socket and
leaves it open. -/
def uncutOn (x : ConnId) (number : Nat) (s : System) (action : Action) :
    Prop :=
  plainRows s action ∧ ∀ commit ∈ s.commits action,
    commit.1.connection = x → (s.connections x).On number →
      commitsWhole (s.connections x) commit.1.id commit.2.1 commit.2.2

instance (x : ConnId) (number : Nat) (s : System) (action : Action) :
    Decidable (uncutOn x number s action) :=
  inferInstanceAs (Decidable (_ ∧ _))

end Statements

/-! ## One connection -/

namespace Connection.On

variable {number : Nat} {c before after : Connection}

theorem good (on : c.On number) : c.good := by
  obtain ⟨open', isOpen, _⟩ := on
  simp [Connection.good, Option.mem_def.mp isOpen]

/-- Reading does not change the socket, if it does not close it. -/
theorem receives (on : before.On number) (received : Receives before after)
    (isOpen : after.good) : after.On number := by
  obtain ⟨open₀, wasOpen, here⟩ := on
  obtain ⟨open', nowOpen⟩ := Option.isSome_iff_exists.mp isOpen
  have same := wasOpen.symm.trans (received.sameSocket open' nowOpen)
  cases same
  exact ⟨open₀, nowOpen, here⟩

end Connection.On

namespace Connection.Uncut

variable [FrameBytes] {number : Nat} {c before after : Connection}

theorem ofClosed (isClosed : c.good = false) : Uncut number c := by
  intro open' isOpen
  simp [good, isOpen] at isClosed

/-- The call wrote nothing and left the socket alone, or closed it. -/
theorem kept (uncut : Uncut number before)
    (written : after.written = before.written)
    (socket : ∀ open', after.socket = some open' →
      before.socket = some open') : Uncut number after := by
  intro open' isOpen here
  rw [framesOn_of_written written]
  exact uncut open' (socket open' isOpen) here

theorem receives (uncut : Uncut number before)
    (received : Receives before after) : Uncut number after :=
  uncut.kept received.nothingWritten received.sameSocket

/-- The connection is on another socket. -/
theorem elsewhere (continues : Continues before after)
    (apart : ¬ before.On number) : Uncut number after := by
  intro open' isOpen here
  obtain ⟨open₀, wasOpen, same⟩ := continues.socket open' isOpen
  exact absurd ⟨open₀, wasOpen, same.number ▸ here⟩ apart

theorem requesting (uncut : Uncut number c) (receipt : Bool) :
    Uncut number (requesting receipt c) := by
  cases receipt <;> exact uncut.kept rfl fun _ isOpen => isOpen

/-- A frame that went out completely. -/
theorem sent (uncut : Uncut number c) (frame : Frame) :
    Uncut number ((c.accept (FrameBytes.data frame)).finish frame) := by
  intro open' isOpen here
  simp only [finish, accept, Option.map_map, Option.map_eq_some_iff,
    Function.comp_apply] at isOpen
  obtain ⟨open₀, wasOpen, rfl⟩ := isOpen
  have added : ((c.accept (FrameBytes.data frame)).finish frame).written =
      c.written ++ [c.tagged open₀.number frame] := by
    simp [finish, accept, tagged, wasOpen]
  have tagged : (c.tagged open₀.number frame).socket = number := here
  rw [framesOn_append added, if_pos tagged, List.map_append,
    List.flatMap_append, ← uncut open₀ wasOpen here]
  simp [Connection.tagged]

/-- A send that throws cuts the frame, unless nothing of it is out or the peer
has closed. -/
theorem abandoned_iff (uncut : Uncut number before) (on : before.On number)
    {buffer : List UInt8} {turns : List Turn}
    (abandoned : Abandoned buffer turns before after) :
    Uncut number after ↔
      taken buffer.length turns = 0 ∨ hangsUp buffer.length turns := by
  obtain ⟨open₀, isOpen, here⟩ := on
  rw [Option.mem_def] at isOpen
  unfold Abandoned at abandoned
  dsimp only at abandoned
  split at abandoned
  · next hung =>
      simp only [hung, or_true, iff_true]
      exact abandoned ▸ ofClosed rfl
  · next stays =>
      obtain ⟨packets, rfl⟩ := abandoned
      simp only [stays, Bool.false_eq_true, or_false]
      constructor
      · intro still
        let out := buffer.take (taken buffer.length turns)
        have written : ((before.accept out).dispatchAll packets).written =
            before.written :=
          (dispatchAll_receives packets (before.accept out)).nothingWritten
        have nowOpen : ((before.accept out).dispatchAll packets).socket =
            some { open₀ with stream := open₀.stream ++ out } := by
          simp [accept, isOpen]
        have whole := still _ nowOpen here
        rw [framesOn_of_written written, ← uncut open₀ isOpen here] at whole
        simp only [out, List.append_right_eq_self, List.take_eq_nil_iff]
          at whole
        have bound := taken_le buffer.length turns
        rcases whole with nothing | empty
        · exact nothing
        · simpa [empty] using bound
      · intro nothing
        rw [nothing, List.take_zero, accept_nil]
        exact uncut.receives (dispatchAll_receives packets before)

theorem sentFrame (uncut : Uncut number c) {body : Body} {receipt : Bool}
    {turns : List Turn} {count : Nat} {sent : Connection}
    (returned : sendFrame body receipt turns c = .ok count sent) :
    Uncut number sent := by
  obtain ⟨_, _, _, rfl⟩ := (sendFrame_ok_iff ..).mp returned
  exact (uncut.requesting receipt).sent _

/-- An exchange that returns has written its frame. -/
theorem exchanged (uncut : Uncut number c) (marker : String) {body : Body}
    {receipt : Bool} {turns : Exchange}
    (returned : exchange marker body receipt turns c = .ok () after) :
    Uncut number after := by
  obtain ⟨_, sent, wrote, rested⟩ := bind_eq_ok_iff.mp returned
  exact (uncut.sentFrame wrote).receives
    ((read_receives marker turns.wait).returned rested)

/-- One whose exceptions are swallowed. -/
theorem swallowed_iff (uncut : Uncut number c) (on : c.On number)
    (marker : String) (body : Body) (receipt : Bool) (turns : Exchange) :
    Uncut number (leftBehind (exchange marker body receipt turns c)) ↔
      writesWhole (FrameBytes.data (framed body receipt c)).length
        turns.write := by
  rcases exchange_outcome on.good marker body receipt turns with
    ⟨out, count, sent, result, rested⟩ | ⟨stops, abandoned⟩
  · simp only [writesWhole, rested, out, Bool.true_or, iff_true]
    exact (uncut.sentFrame result).receives
      (read_receives marker turns.wait sent)
  · have onSocket : (Capstomp.requesting receipt c).On number := by
      cases receipt <;> exact on
    simpa [writesWhole, stops] using
      (uncut.requesting receipt).abandoned_iff onSocket abandoned

/-- `commit_transaction` cuts its frame, or none. -/
theorem commitTransaction_iff (uncut : Uncut number c) (on : c.On number)
    (id : String) (receipt : Bool) (turns : CommitTurns) :
    Uncut number (c.commitTransaction id receipt turns) ↔
      commitsWhole c id receipt turns := by
  have isOpen := on.good
  rcases commitTransaction_outcome isOpen id receipt turns with
    ⟨dead, received⟩ | ⟨alive, drained, received, isGood, same, rest⟩
  · simp only [commitsWhole, dead, Bool.or_true, Bool.true_or, iff_true]
    exact uncut.receives received
  · rw [rest, (uncut.receives received).swallowed_iff (on.receives received
      isGood)]
    simp only [commitsWhole, isOpen, alive, Bool.not_true, Bool.false_or]
    cases receipt with
    | true => rw [same rfl]
    | false => exact Iff.rfl

theorem content (uncut : Uncut number c) (row : Row) (now requestLimit : Nat)
    (turns : Exchange) :
    Uncut number (capstompContent row now requestLimit turns c).2 := by
  unfold capstompContent
  split
  · exact uncut
  · split
    · next count final returned =>
        obtain ⟨sent, wrote, waited⟩ := sendContent_returned returned
        exact (uncut.sentFrame wrote).receives
          ((read_receives "send_content" turns.wait).returned waited)
    · exact ofClosed rfl

/-- A new socket has taken its CONNECT. -/
theorem connect [PassHash] (stream : Stream c) (uncut : Uncut number c)
    {u : Uri} {turns : ConnectTurns}
    (returned : Capstomp.connect u turns c = .ok () after) :
    Uncut number after := by
  obtain ⟨drained, established, received, rfl, settled⟩ :=
    connect_returned returned
  refine kept (show Uncut number established from ?_) rfl fun _ isOpen =>
    isOpen
  rcases settled with rfl | ⟨fd, final, logged, rfl⟩
  · exact uncut.receives received
  · refine kept (show Uncut number final from ?_) rfl fun _ isOpen => isOpen
    refine receives (sent ?_ _) (logon_returned logged)
    rintro open' isOpen rfl
    cases isOpen
    have fresh := (stream.keep received.sameStream).framesOn_fresh
    exact (congrArg (fun frames => (frames.map Written.frame).flatMap
      FrameBytes.data) fresh).symm

end Connection.Uncut

/-! ## In a pool -/

section Steps

variable [QueryDecoding] [PassHash] [FrameBytes]
variable {s after : System} {action : Action} {x : ConnId} {number : Nat}
variable {name : String}

omit [QueryDecoding] [PassHash] in
theorem Connection.Uncut.commit
    (uncut : (s.connections x).Uncut number)
    (whole : uncutOn x number s action) {transaction : Transaction}
    {receipt : Bool} {turns : CommitTurns}
    (commits : s.commits action = some (transaction, receipt, turns))
    (here : transaction.connection = x) :
    ((s.connections x).commitTransaction transaction.id receipt
      turns).Uncut number := by
  by_cases onSocket : (s.connections x).On number
  · exact (uncut.commitTransaction_iff onSocket ..).mpr
      (whole.2 _ commits here onSocket)
  · exact .elsewhere (commitTransaction_continues ..) onSocket

theorem Connection.Uncut.step (custody : Custody s) (queue : Queue s)
    (streams : ∀ y, Stream (s.connections y))
    (uncut : (s.connections x).Uncut number)
    (whole : uncutOn x number s action)
    (stepped : s.step action = some after) :
    (after.connections x).Uncut number := by
  obtain ⟨y, c, connections, touches⟩ :=
    System.connection_cases custody queue stepped
  by_cases here : x = y
  · subst here
    rw [connections, Function.update_self]
    cases touches with
    | closed _ isClosed => exact .ofClosed isClosed
    | kept _ same =>
        exact uncut.kept same.written fun _ isOpen => same.socket ▸ isOpen
    | connect _ _ returned => exact uncut.connect (streams _) returned
    | begin _ returned => exact uncut.exchanged "begin" returned
    | content _ => exact Uncut.content uncut _ _ _ _
    | @commit sid turns transaction batch receipt isAction phase =>
        have commits : s.commits action = some (transaction, receipt, turns) :=
          by simp [isAction, System.commits, phase]
        exact uncut.commit whole commits rfl
    | @force _ turns transaction _ isAction pointed ready same =>
        have commits : s.commits action = some (transaction, true, turns) := by
          simp [isAction, System.commits, pointed, ready]
        exact (uncut.commit whole commits rfl).kept same.written
          fun _ isOpen => same.socket ▸ isOpen
  · rw [connections, Function.update_of_ne here]
    exact uncut

theorem Runs.plain (run : Runs (uncutOn x number) name s) :
    Runs plainRows name s :=
  run.weaken fun _ _ permitted => permitted.1

/-- What the socket has taken are the frames written to it, in every state. -/
theorem Runs.uncut (run : Runs (uncutOn x number) name s) :
    (s.connections x).Uncut number := by
  apply Reaches.invariant run
  · exact .ofClosed rfl
  · intro before action after reached uncut permitted stepped
    exact uncut.step (Runs.custody reached) (Runs.queue reached)
      (Runs.conversations reached).streams permitted stepped

end Steps

end Capstomp
