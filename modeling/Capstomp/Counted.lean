import Capstomp.General.Streak
import Capstomp.RequestCount
import Capstomp.Custody

/-!
# The sessions counted on a socket

The frames of a socket are read as a log of the sessions that used it in turn.
A session counts in it with its SENDs, and is settled when it asks for a
receipt that it waits for.  `request_count_` bounds the sessions that count
since the last settled one (`Counted`), also while a session is under way
(`Serving`).
-/

namespace Capstomp

open General Connection

def Written.isSend (w : Written) : Bool :=
  match w.frame.body with
  | .send _ _ _ => true
  | _ => false

/-- The sessions on a socket, their messages, and the frames that confirm
them. -/
def confirming (asks : Written → Bool) : Tally Written SessionId where
  key := Written.session
  counts := Written.isSend
  settles := asks

/-- Of the sessions that used a socket one after the other, no `limit` that
sent messages follow each other, empty ones left out, without a confirmation
among them and the empty ones in between. -/
def ConfirmedEvery (asks : Written → Bool) (limit : Nat)
    (frames : List Written) : Prop :=
  (confirming asks).StreaksWithin (limit - 1) frames

/-- The frames that one of the sockets has taken. -/
def Connection.framesOn (number : Nat) (c : Connection) : List Written :=
  c.written.filter (·.socket = number)

/-- The tally of the frames that are waited for. -/
abbrev awaiting : Tally Written SessionId :=
  confirming Written.awaited

structure Counted (limit : Nat) (c : Connection) : Prop where
  every : ∀ number,
    ConfirmedEvery Written.awaited limit (c.framesOn number)
  fresh : ∀ w ∈ c.written, w.socket < c.sockets
  known : ∀ open', c.socket = some open' → open'.number < c.sockets
  ends : ∀ open', c.socket = some open' →
    awaiting.EndsWithin c.requestCount (c.framesOn open'.number)

def RowResult.isSent : RowResult → Bool
  | .sent _ => true
  | .skipped | .failed => false

/-- A session that has sent its BEGIN, or a message. -/
def Spoke (session : Session) (c : Connection) : Prop :=
  (c.withTransaction ∧ session.phase ≠ .beginning) ∨
    session.rows.any RowResult.isSent

/-- A session that the count of its connection includes. -/
structure Serving (limit : Nat) (sid : SessionId) (session : Session)
    (c : Connection) : Prop where
  others : ∀ open', c.socket = some open' →
    awaiting.OthersBelow sid c.requestCount (c.framesOn open'.number)
  settled : ∀ open', c.socket = some open' → limit ≤ c.requestCount →
    Spoke session c → awaiting.SettledLast sid (c.framesOn open'.number)

/-- An open socket is the one before, with its count. -/
def SameCount (before after : Connection) : Prop :=
  ∀ open', after.socket = some open' →
    ∃ open₀, before.socket = some open₀ ∧ open'.number = open₀.number ∧
      after.requestCount = before.requestCount

section Connection

variable {limit : Nat} {sid : SessionId} {session new : Session}
variable {before after c : Connection}

theorem Continues.sameCount (continues : Continues before after)
    (count : KeepsCount before after) : SameCount before after := by
  intro open' isOpen
  obtain ⟨open₀, wasOpen, same⟩ := continues.socket open' isOpen
  exact ⟨open₀, wasOpen, same.number, (count (by simp [good, isOpen])).2⟩

theorem SameCount.ofSame (socket : after.socket = before.socket)
    (count : after.requestCount = before.requestCount) :
    SameCount before after :=
  fun open' isOpen => ⟨open', socket ▸ isOpen, rfl, count⟩

theorem SameCount.ofClosed (isClosed : after.socket = none) :
    SameCount before after := by
  intro open' isOpen
  simp [isClosed] at isOpen

theorem framesOn_of_written (same : after.written = before.written)
    (number : Nat) : after.framesOn number = before.framesOn number := by
  simp [Connection.framesOn, same]

theorem framesOn_append {w : Written}
    (added : after.written = before.written ++ [w]) (number : Nat) :
    after.framesOn number = before.framesOn number ++
      (if w.socket = number then [w] else []) := by
  by_cases here : w.socket = number <;>
    simp [Connection.framesOn, added, here]

namespace Counted

/-- A connection that has not been used. -/
theorem unused (limit : Nat) : Counted limit {} where
  every _ := .nil _
  fresh w member := by cases member
  known open' isOpen := by cases isOpen
  ends open' isOpen := by cases isOpen

theorem keep (counted : Counted limit before)
    (written : after.written = before.written)
    (sockets : after.sockets = before.sockets)
    (same : SameCount before after) : Counted limit after where
  every number := by
    rw [framesOn_of_written written]
    exact counted.every number
  fresh := by
    rw [written, sockets]
    exact counted.fresh
  known open' isOpen := by
    obtain ⟨open₀, wasOpen, number, _⟩ := same open' isOpen
    rw [number, sockets]
    exact counted.known open₀ wasOpen
  ends open' isOpen := by
    obtain ⟨open₀, wasOpen, number, count⟩ := same open' isOpen
    rw [number, count, framesOn_of_written written]
    exact counted.ends open₀ wasOpen

/-- The open socket takes a frame. -/
theorem append (counted : Counted limit before)
    (sockets : after.sockets = before.sockets)
    (same : SameCount before after) {open₀ : Socket} {w : Written}
    (wasOpen : before.socket = some open₀) (here : w.socket = open₀.number)
    (added : after.written = before.written ++ [w])
    (inTime : awaiting.EndsWithin (limit - 1)
      (before.framesOn open₀.number ++ [w]))
    (ends : awaiting.EndsWithin before.requestCount
      (before.framesOn open₀.number ++ [w])) : Counted limit after where
  every number := by
    rw [framesOn_append added]
    by_cases this : w.socket = number
    · rw [if_pos this]
      rw [here] at this
      subst this
      exact (counted.every open₀.number).snoc inTime
    · rw [if_neg this, List.append_nil]
      exact counted.every number
  fresh := by
    intro other member
    rw [added, List.mem_append, List.mem_singleton] at member
    rw [sockets]
    rcases member with old | rfl
    · exact counted.fresh other old
    · exact here ▸ counted.known open₀ wasOpen
  known open' isOpen := by
    obtain ⟨open₁, isOpen₁, number, _⟩ := same open' isOpen
    rw [number, sockets]
    exact counted.known open₁ isOpen₁
  ends open' isOpen := by
    obtain ⟨open₁, isOpen₁, number, count⟩ := same open' isOpen
    cases wasOpen.symm.trans isOpen₁
    rw [number, count, framesOn_append added, if_pos here]
    exact ends

/-- A frame without a message. -/
theorem mayWrite (counted : Counted limit before) {body : Body}
    (may : MayWrite body before after) (count : KeepsCount before after)
    (silent : ∀ destination headers payload,
      body ≠ .send destination headers payload) : Counted limit after := by
  have same := may.toContinues.sameCount count
  rcases may.wrote with unwritten | ⟨open₀, receipt, wasOpen, added⟩
  · exact counted.keep unwritten may.sockets same
  · have quiet : awaiting.counts
        { session := before.owner, socket := open₀.number,
          frame := { body := body, receipt := receipt } } = false := by
      cases body <;> simp_all [confirming, Written.isSend]
    exact counted.append may.sockets same wasOpen rfl added
      ((counted.every open₀.number).endsWithin.silent quiet)
      ((counted.ends open₀ wasOpen).silent quiet)

/-- A socket no session has used yet. -/
theorem framesOn_fresh (counted : Counted limit c) :
    c.framesOn c.sockets = [] := by
  rw [Connection.framesOn, List.filter_eq_nil_iff]
  intro w member
  have older := counted.fresh w member
  simp only [decide_eq_true_eq]
  omega

end Counted

namespace Serving

theorem ofClosed (isClosed : c.socket = none) :
    Serving limit sid session c := by
  constructor <;>
    · intro open' isOpen
      simp [isClosed] at isOpen

theorem keep (serving : Serving limit sid session before)
    (written : after.written = before.written)
    (same : SameCount before after)
    (spoke : Spoke new after → Spoke session before) :
    Serving limit sid new after where
  others open' isOpen := by
    obtain ⟨open₀, wasOpen, number, count⟩ := same open' isOpen
    rw [number, count, framesOn_of_written written]
    exact serving.others open₀ wasOpen
  settled open' isOpen atLimit asked := by
    obtain ⟨open₀, wasOpen, number, count⟩ := same open' isOpen
    rw [number, framesOn_of_written written]
    exact serving.settled open₀ wasOpen (count ▸ atLimit) (spoke asked)

/-- The session adds a frame of its own. -/
theorem append (serving : Serving limit sid session before)
    (same : SameCount before after) {open₀ : Socket} {w : Written}
    (wasOpen : before.socket = some open₀) (here : w.socket = open₀.number)
    (isOwn : w.session = sid)
    (added : after.written = before.written ++ [w])
    (settled : limit ≤ before.requestCount → Spoke new after →
      awaiting.SettledLast sid (before.framesOn open₀.number ++ [w])) :
    Serving limit sid new after where
  others open' isOpen := by
    obtain ⟨open₁, isOpen₁, number, count⟩ := same open' isOpen
    cases wasOpen.symm.trans isOpen₁
    rw [number, count, framesOn_append added, if_pos here]
    exact (serving.others open₀ wasOpen).snoc isOwn
  settled open' isOpen atLimit asked := by
    obtain ⟨open₁, isOpen₁, number, count⟩ := same open' isOpen
    cases wasOpen.symm.trans isOpen₁
    rw [number, framesOn_append added, if_pos here]
    exact settled (count ▸ atLimit) asked

/-- A frame of the session that changes nothing about what it has said. -/
theorem mayWrite (serving : Serving limit sid session before)
    (owner : before.owner = sid) {body : Body}
    (may : MayWrite body before after) (count : KeepsCount before after)
    (spoke : Spoke new after → Spoke session before) :
    Serving limit sid new after := by
  have same := may.toContinues.sameCount count
  rcases may.wrote with unwritten | ⟨open₀, receipt, wasOpen, added⟩
  · exact serving.keep unwritten same spoke
  · refine serving.append same wasOpen rfl owner added ?_
    intro atLimit asked
    exact (serving.settled open₀ wasOpen atLimit (spoke asked)).snoc owner

/-- A frame of the session that asks for a receipt at the limit, or follows
one that did. -/
theorem sends (serving : Serving limit sid session before)
    (counted : Counted limit before) (owner : before.owner = sid)
    {frame : Frame} (sends : Sends frame before after)
    (settled : ∀ open₀, before.socket = some open₀ →
      limit ≤ before.requestCount → awaiting.SettledLast sid
        (before.framesOn open₀.number ++
          [before.tagged open₀.number frame])) :
    Counted limit after ∧
      ((after.good → WroteFrame frame before after) →
        ∀ new, Serving limit sid new after) := by
  have same := sends.toContinues.sameCount sends.count
  constructor
  · rcases sends.wrote with unwritten | ⟨open₀, wasOpen, added⟩
    · exact counted.keep unwritten sends.sockets same
    · have bounded : awaiting.EndsWithin before.requestCount
          (before.framesOn open₀.number ++
            [before.tagged open₀.number frame]) :=
        ((serving.others open₀ wasOpen).snoc owner).endsWithin
      refine counted.append sends.sockets same wasOpen rfl added ?_ bounded
      by_cases atLimit : limit ≤ before.requestCount
      · exact (settled open₀ wasOpen atLimit).endsWithin.mono (Nat.zero_le _)
      · exact bounded.mono (by omega)
  · intro wrote new
    cases isOpen : after.socket with
    | none => exact .ofClosed isOpen
    | some open' =>
        obtain ⟨open₀, wasOpen, added⟩ := wrote (by simp [good, isOpen])
        exact serving.append same wasOpen rfl owner added
          fun atLimit _ => settled open₀ wasOpen atLimit

end Serving

theorem Counted.openSocket (counted : Counted limit c) (u : Uri) (fd : Nat) :
    Counted limit (openSocket u fd c) where
  every := counted.every
  fresh w member := Nat.lt_succ_of_lt (counted.fresh w member)
  known open' isOpen := by
    cases isOpen
    exact Nat.lt_succ_self c.sockets
  ends open' isOpen := by
    cases isOpen
    have unused : (Capstomp.openSocket u fd c).framesOn c.sockets = [] :=
      counted.framesOn_fresh
    rw [unused]
    exact .nil _

/-- One session more. -/
theorem Counted.count (counted : Counted limit c) :
    Counted limit { c with requestCount := c.requestCount + 1 } :=
  { counted with
    ends := fun open' isOpen =>
      (counted.ends open' isOpen).mono (Nat.le_succ _) }

/-- The count stays right. -/
def KeepsCounted (limit : Nat) (before after : Connection) : Prop :=
  Counted limit before → Counted limit after

theorem keepsCounted_read : KeptByReading (KeepsCounted limit) where
  refl _ counted := counted
  trans _ _ _ earlier later counted := later (earlier counted)
  dispatchAll packets c counted :=
    counted.keep (dispatchAll_receives packets c).nothingWritten
      (dispatchAll_receives packets c).sockets
      (.ofSame (dispatchAll_socket packets c) (by simp))
  close c counted := counted.keep rfl rfl (.ofClosed rfl)
  received c counted := counted.keep rfl rfl (.ofSame rfl rfl)

/-! ## The calls of a session -/

theorem isReceipt_of_limit (atLimit : limit ≤ c.requestCount) :
    c.isReceipt limit = true := by
  cases asked : c.conf.receipt <;> simp [Connection.isReceipt, asked, atLimit]

/-- Either the BEGIN has asked for a receipt, or the SEND does. -/
theorem contentFrame_settles (serving : Serving limit sid session c)
    (owner : c.owner = sid) (phase : session.phase = .rows) (row : Row)
    (now : Nat) {open₀ : Socket} (isOpen : c.socket = some open₀)
    (atLimit : limit ≤ c.requestCount) :
    awaiting.SettledLast sid (c.framesOn open₀.number ++
      [c.tagged open₀.number (contentFrame row now limit c)]) := by
  cases begun : c.withTransaction with
  | true =>
      have spoke : Spoke session c := .inl ⟨begun, by simp [phase]⟩
      exact (serving.settled open₀ isOpen atLimit spoke).snoc owner
  | false =>
      have asks : contentReceipt c limit = true := by
        rw [contentReceipt, begun]
        exact isReceipt_of_limit atLimit
      refine .ofSettles owner ?_
      simp [confirming, Written.awaited, Connection.tagged, contentFrame,
        sendBody, asks]

/-- The count starts again. -/
theorem Serving.release (serving : Serving limit sid session c)
    (counted : Counted limit c)
    (spoke : c.good → limit ≤ c.requestCount → Spoke session c) :
    Counted limit (c.release limit) where
  every := counted.every
  fresh := counted.fresh
  known := counted.known
  ends open' isOpen := by
    simp only [Connection.release]
    split
    · next atLimit =>
        have asked := spoke (by
          rw [good, Option.isSome_iff_exists]
          exact ⟨open', isOpen⟩) atLimit
        exact (serving.settled open' isOpen atLimit asked).endsWithin
    · exact counted.ends open' isOpen

section Calls

variable [FrameBytes]

theorem Serving.begin (serving : Serving limit sid session c)
    (counted : Counted limit c) (owner : c.owner = sid) (turns : Exchange) :
    Counted limit (leftBehind (sendBegin limit turns c)) ∧
      ∀ final, sendBegin limit turns c = .ok () final →
        ∀ new, Serving limit sid new final := by
  have sends := serving.sends counted owner
    (sendBegin_sends limit turns c) (by
      intro open₀ _ atLimit
      refine .ofSettles owner ?_
      simp [confirming, Written.awaited, Connection.tagged, beginFrame,
        isReceipt_of_limit atLimit])
  refine ⟨sends.1, ?_⟩
  intro final returned
  rw [returned] at sends
  exact sends.2 fun _ => sendBegin_wroteFrame returned

theorem Serving.content (serving : Serving limit sid session c)
    (counted : Counted limit c) (owner : c.owner = sid)
    (phase : session.phase = .rows) (row : Row) (now : Nat)
    (turns : Exchange) :
    let left := (capstompContent row now limit turns c).2
    Counted limit left ∧ ∀ new, Serving limit sid new left := by
  obtain ⟨content, _, wrote⟩ := capstompContent_sends row now limit turns c
  have sends := serving.sends counted owner content
    fun open₀ isOpen atLimit =>
      contentFrame_settles serving owner phase row now isOpen atLimit
  exact ⟨sends.1, sends.2 wrote⟩

/-! ## The logon -/

theorem logon_counted (u : Uri) (turns : LogonTurns) :
    Respects (KeepsCounted limit) (logon u turns) :=
  fun c counted => counted.mayWrite (logon_mayWrite u turns c)
    (keepsCount_written.logon u turns c) (by simp [Uri.logonBody])

variable [PassHash]

theorem reconnect_counted (u : Uri) (turns : ConnectTurns) :
    Respects (KeepsCounted limit) (reconnect u turns) := by
  have kept : KeptByReading (KeepsCounted limit) := keepsCounted_read
  refine kept.bind (Respects.ofModify kept.close) fun _ => ?_
  split
  · exact kept.throw _
  · refine kept.bind (Respects.ofModify fun c counted =>
      counted.openSocket u _) fun _ => ?_
    refine kept.bind (Respects.ofModify fun c counted =>
      counted.keep rfl rfl (.ofSame rfl rfl)) fun _ => ?_
    refine kept.bind (logon_counted u turns.logon) fun _ => ?_
    exact Respects.ofModify fun c counted =>
      counted.keep rfl rfl (.ofSame rfl rfl)

theorem establish_counted (u : Uri) (turns : ConnectTurns) :
    Respects (KeepsCounted limit) (establish u turns) := by
  have kept : KeptByReading (KeepsCounted limit) := keepsCounted_read
  refine kept.bind (kept.connected turns.drain) fun alive => ?_
  refine kept.bind kept.get fun c => ?_
  exact Respects.ofIte (kept.pure _) (reconnect_counted u turns)

theorem connect_counted (u : Uri) (turns : ConnectTurns) :
    Respects (KeepsCounted limit) (connect u turns) := by
  refine keepsCounted_read.bind (establish_counted u turns) fun _ => ?_
  exact Respects.ofModify fun c counted => counted.count

/-- `begin` counts the session that connects. -/
theorem Counted.connect (counted : Counted limit c) {u : Uri}
    {turns : ConnectTurns} (returned : connect u turns c = .ok () after)
    (silent : ¬ Spoke session after) : Serving limit sid session after := by
  obtain ⟨_, established, settled, same⟩ := bind_eq_ok_iff.mp returned
  cases same
  have before := (establish_counted u turns).returned settled counted
  constructor
  · intro open' isOpen
    exact (before.ends open' isOpen).othersBelow sid
  · intro _ _ _ spoke
    exact absurd spoke silent

end Calls

end Connection

end Capstomp
