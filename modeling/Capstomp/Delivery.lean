import Capstomp.Configured
import Capstomp.Counted
import Capstomp.General.Script
import Capstomp.LoggedOn
import Capstomp.Sessions
import Capstomp.Writes

/-!
# The rows of a statement

Every call of `capstomp` or `capstomp_json` asks for one SEND frame.  On the
wire are those of the first calls, in their order and one for each, up to the
first call that fails; that one may have written its frame before it failed,
and the calls after it write nothing.
-/

namespace Capstomp

open General Connection

/-- The frame the call asks for, in a session with these settings. -/
def Call.body (conf : Settings) (destination transaction : String)
    (call : Call) : Body :=
  sendBody (rowDestination destination call.row.routingKey)
    (rowHeaders call.row) call.row.payload call.now
    { conf := conf, transactionId := transaction }

/-- The calls of a session among the actions of a run. -/
def callsOf (sid : SessionId) (actions : List Action) : List Call :=
  actions.filterMap (Action.call sid)

/-- The SEND frames, in the order they were written. -/
def sendFrames (frames : List Written) : List Frame :=
  (frames.filter Written.isSend).map Written.frame

/-- Before the first row of a session. -/
def Phase.unsent : Phase → Bool
  | .idle | .got _ | .creating | .beginning => true
  | _ => false

theorem Phase.Next.unsent {before after : Phase} (next : before.Next after)
    (unsent : after.unsent) : before.unsent := by
  cases next with
  | own transaction batch => cases batch <;> cases unsent
  | returned connection batch => cases batch <;> cases unsent
  | begin leads => rfl
  | connect leads => rfl
  | _ => first | rfl | cases unsent

/-- A session under way has just begun to send, or has ended its rows. -/
theorem Phase.Next.unfinished {before after : Phase}
    (next : before.Next after) (unfinished : after.unfinished) :
    before.unsent ∨ before = .rows := by
  cases next with
  | own transaction batch => cases batch <;> cases unfinished
  | returned connection batch => cases batch <;> cases unfinished
  | begin leads => exact .inl rfl
  | connect leads => exact .inl rfl
  | deinit => exact .inr rfl
  | _ => first | exact .inl rfl | cases unfinished

section Rows

variable [FrameBytes] {conf : Settings} {destination transaction : String}
variable {calls : List Call} {results : List RowResult} {sends : List Frame}

/-- Every call has sent its frame, and returned its size. -/
structure Whole (conf : Settings) (destination transaction : String)
    (calls : List Call) (results : List RowResult) (sends : List Frame) :
    Prop where
  bodies : sends.map Frame.body =
    calls.map (Call.body conf destination transaction)
  results : results = sends.map fun frame =>
    .sent (FrameBytes.data frame).length

/-- The first calls have sent their frames.  If there is another one, it and
those after it have not returned a size, and nothing is on the wire after its
own frame, with which it failed. -/
inductive Delivered (conf : Settings) (destination transaction : String) :
    List Call → List RowResult → List Frame → Prop
  | whole {calls : List Call} {results : List RowResult} {sends : List Frame}
      (whole : Whole conf destination transaction calls results sends) :
      Delivered conf destination transaction calls results sends
  | upTo {calls : List Call} {results : List RowResult} {sends : List Frame}
      {call : Call} {later : List Call} {result : RowResult}
      {unsent : List RowResult} {last : List Frame}
      (whole : Whole conf destination transaction calls results sends)
      (length : unsent.length = later.length)
      (notSent : ∀ other ∈ result :: unsent, other.isSent = false)
      (lost : last = [] ∨ result = .failed ∧
        last.map Frame.body = [call.body conf destination transaction]) :
      Delivered conf destination transaction (calls ++ call :: later)
        (results ++ result :: unsent) (sends ++ last)

theorem Whole.nothing : Whole conf destination transaction [] [] [] :=
  ⟨rfl, rfl⟩

theorem Whole.sent
    (whole : Whole conf destination transaction calls results sends)
    {call : Call} {frame : Frame}
    (body : frame.body = call.body conf destination transaction) :
    Whole conf destination transaction (calls ++ [call])
      (results ++ [.sent (FrameBytes.data frame).length])
      (sends ++ [frame]) := by
  constructor
  · simp [whole.bodies, body]
  · simp [whole.results]

/-- A call that returns no size and writes nothing. -/
theorem Delivered.unsent
    (delivered : Delivered conf destination transaction calls results sends)
    (call : Call) {result : RowResult} (notSent : result.isSent = false) :
    Delivered conf destination transaction (calls ++ [call])
      (results ++ [result]) sends := by
  cases delivered with
  | whole whole =>
      have cut : Delivered conf destination transaction (calls ++ [call])
          (results ++ [result]) (sends ++ []) :=
        .upTo whole rfl (by simpa using notSent) (.inl rfl)
      rwa [List.append_nil] at cut
  | upTo whole length others lost =>
      simp only [List.append_assoc, List.cons_append]
      refine .upTo whole (by simp [length]) ?_ lost
      intro other member
      rw [← List.cons_append, List.mem_append, List.mem_singleton] at member
      rcases member with old | rfl
      · exact others other old
      · exact notSent

/-- The results and the frames determine each other up to the first call that
returned no size. -/
theorem Delivered.length_eq
    (delivered : Delivered conf destination transaction calls results sends) :
    calls.length = results.length := by
  cases delivered with
  | whole whole =>
      have lengths := congrArg List.length whole.bodies
      simp only [List.length_map] at lengths
      simp [whole.results, lengths]
  | upTo whole length _ _ =>
      have lengths := congrArg List.length whole.bodies
      simp only [List.length_map] at lengths
      simp [whole.results, lengths, length]

end Rows

/-! ## One row -/

section Frames

variable {sid : SessionId} {before after c : Connection} {frame : Frame}

theorem WroteFrame.sendFrames (wrote : WroteFrame frame before after)
    (owner : before.owner = sid)
    (isSend : ∀ number, (before.tagged number frame).isSend) :
    sendFrames (after.framesOf sid) =
      sendFrames (before.framesOf sid) ++ [frame] := by
  obtain ⟨open₀, _, written⟩ := wrote
  have mine : (before.tagged open₀.number frame).session = sid := owner
  simp only [Capstomp.sendFrames, framesOf, written, List.filter_append,
    List.map_append, List.filter_singleton, mine, isSend, decide_true,
    cond_true, List.map_singleton]
  rfl

variable [FrameBytes]

/-- A call that returns the size of its frame has written it. -/
theorem sendContent_size {destination : String} {headers : List Header}
    {payload : List UInt8} {now requestLimit count : Nat} {turns : Exchange}
    (returned : sendContent destination headers payload now requestLimit
      turns c = .ok count after) :
    ∃ frame : Frame, frame.body = sendBody destination headers payload now c ∧
      count = (FrameBytes.data frame).length ∧ WroteFrame frame c after := by
  obtain ⟨sent, wrote, rested⟩ := sendContent_returned returned
  have receives := (read_receives "send_content" turns.wait).returned rested
  rw [sendFrame_eq] at wrote
  obtain ⟨_, _, isSize, _⟩ := (sendBuffer_ok_iff ..).mp wrote
  have written := sendBuffer_returned wrote
  refine ⟨_, rfl, isSize, ?_⟩
  cases asked : contentReceipt c requestLimit <;>
    · rw [asked] at written
      exact (written.receives receives :)

/-- What one row does: it writes nothing and the socket is closed, it fails
after its frame, or it returns with it. -/
theorem row_cases (call : Call) (requestLimit : Nat) (turns : Exchange)
    (owner : c.owner = sid) :
    let outcome := capstompContent call.row call.now requestLimit turns c
    let body := call.body c.conf c.destination c.transactionId
    (outcome.1.isSent = false ∧ outcome.2.good = false ∧
      sendFrames (outcome.2.framesOf sid) = sendFrames (c.framesOf sid)) ∨
    c.good ∧ ∃ frame : Frame, frame.body = body ∧
      sendFrames (outcome.2.framesOf sid) =
        sendFrames (c.framesOf sid) ++ [frame] ∧
      (outcome.1 = .failed ∧ outcome.2.good = false ∨
        outcome.1 = .sent (FrameBytes.data frame).length ∧
          Continues c outcome.2) := by
  dsimp only
  unfold capstompContent
  split
  · next idle =>
      simp only [Bool.and_eq_true, Bool.not_eq_true'] at idle
      exact .inl ⟨rfl, idle.1, rfl⟩
  · split
    · next count sent returned =>
        obtain ⟨frame, isBody, rfl, wrote⟩ := sendContent_size returned
        have isOpen := (sendContent_wrote returned).good
        refine .inr ⟨isOpen, frame, isBody,
          wrote.sendFrames owner fun _ => by
            simp [tagged, Written.isSend, isBody, sendBody],
          .inr ⟨rfl, ?_⟩⟩
        have continues := (sendContent_mayWrite
          (rowDestination c.destination call.row.routingKey)
          (rowHeaders call.row) call.row.payload call.now requestLimit turns
          c).toContinues
        rwa [returned] at continues
    · next error left thrown =>
        have wrote := (sendContent_mayWrite
          (rowDestination c.destination call.row.routingKey)
          (rowHeaders call.row) call.row.payload call.now requestLimit turns
          c).wrote
        rw [thrown] at wrote
        rcases wrote with none | wrote
        · have unwritten : left.close.written = c.written := none
          exact .inl ⟨rfl, rfl, congrArg _ (framesOf_of_written unwritten)⟩
        · obtain ⟨open₀, receipt, isOpen, written⟩ := wrote
          have wroteFrame : WroteFrame { body := _, receipt := receipt } c
            left.close := ⟨open₀, isOpen, written⟩
          exact .inr ⟨by simp [good, isOpen], _, rfl,
            wroteFrame.sendFrames owner fun _ => rfl, .inl ⟨rfl, rfl⟩⟩

end Frames

/-! ## In a pool -/

/-- What is known of the rows of a session, from the calls it has made and the
connection it was given. -/
structure Delivery [FrameBytes] (meant : Uri → Prop) (sid : SessionId)
    (calls : List Call) (session : Session) (c : Connection) : Prop where
  unsent : session.phase.unsent →
    calls = [] ∧ session.rows = [] ∧ sendFrames (c.framesOf sid) = []
  running : session.phase.unfinished → c.good →
    Whole session.conf c.destination c.transactionId calls session.rows
      (sendFrames (c.framesOf sid))
  /-- Until the connection is handed to another session. -/
  intact : c.owner = sid → c.good → ∃ destination transaction,
    Whole session.conf destination transaction calls session.rows
      (sendFrames (c.framesOf sid))
  delivered : ∃ destination transaction,
    (sendFrames (c.framesOf sid) ≠ [] →
      ∃ u, meant u ∧ u.fragment = destination) ∧
    Delivered session.conf destination transaction calls session.rows
      (sendFrames (c.framesOf sid))
  committed : ∀ w ∈ c.framesOf sid, (∃ id, w.frame.body = .commit id) →
    session.phase.finishing ∧ ∃ destination transaction,
      Whole session.conf destination transaction calls session.rows
        (sendFrames (c.framesOf sid))

namespace Delivery

variable [FrameBytes] {meant : Uri → Prop} {sid : SessionId}
variable {calls : List Call} {session new : Session} {c d : Connection}

omit [FrameBytes] in
theorem unfinishing_of_unsent {phase : Phase} (unsent : phase.unsent) :
    ¬ phase.finishing := by
  rintro ⟨⟨notIdle, notEarly⟩, finished⟩
  cases phase <;> simp_all [Phase.unsent, Phase.early, Phase.unfinished]

/-- A session that has sent nothing. -/
theorem ofUnsent (rows : session.rows = [])
    (frames : sendFrames (c.framesOf sid) = [])
    (uncommitted : ∀ w ∈ c.framesOf sid,
      ¬ ∃ id, w.frame.body = .commit id) :
    Delivery meant sid [] session c where
  unsent _ := ⟨rfl, rows, frames⟩
  running _ _ := by
    rw [rows, frames]
    exact .nothing
  intact _ _ := ⟨"", "", by
    rw [rows, frames]
    exact .nothing⟩
  delivered := ⟨"", "", by simp [frames], by
    rw [rows, frames]
    exact .whole .nothing⟩
  committed w member isCommit := absurd isCommit (uncommitted w member)

/-- The session goes on without a row, or another thread acts. -/
theorem keep (delivery : Delivery meant sid calls session c)
    (rows : new.rows = session.rows) (conf : new.conf = session.conf)
    (sends : sendFrames (d.framesOf sid) = sendFrames (c.framesOf sid))
    (unsent : new.phase.unsent → session.phase.unsent)
    (finishing : session.phase.finishing → new.phase.finishing)
    (running : new.phase.unfinished → session.phase.unsent ∨
      session.phase.unfinished ∧ d = c)
    (owner : d.owner = sid → d.good → session.phase.unsent ∨
      c.owner = sid ∧ c.good)
    (commits : ∀ w ∈ d.framesOf sid, (∃ id, w.frame.body = .commit id) →
      w ∈ c.framesOf sid ∨
        session.phase.finishing ∧ c.owner = sid ∧ c.good) :
    Delivery meant sid calls new d := by
  by_cases nothing : session.phase.unsent
  · obtain ⟨rfl, none, noFrames⟩ := delivery.unsent nothing
    have notFinishing := unfinishing_of_unsent nothing
    refine .ofUnsent (rows.trans none) (sends.trans noFrames) ?_
    intro w member isCommit
    rcases commits w member isCommit with old | ⟨impossible, _⟩
    · exact notFinishing (delivery.committed w old isCommit).1
    · exact notFinishing impossible
  · constructor
    case unsent => exact fun impossible => absurd (unsent impossible) nothing
    case running =>
        intro unfinished isOpen
        obtain ⟨was, rfl⟩ := (running unfinished).resolve_left nothing
        rw [conf, rows]
        exact delivery.running was isOpen
    case intact =>
        intro isOwner isOpen
        obtain ⟨wasOwner, wasOpen⟩ :=
          (owner isOwner isOpen).resolve_left nothing
        rw [conf, rows, sends]
        exact delivery.intact wasOwner wasOpen
    case delivered =>
        rw [conf, rows, sends]
        exact delivery.delivered
    case committed =>
        intro w member isCommit
        rw [conf, rows, sends]
        rcases commits w member isCommit with
          old | ⟨wasFinishing, wasOwner, wasOpen⟩
        · obtain ⟨was, whole⟩ := delivery.committed w old isCommit
          exact ⟨finishing was, whole⟩
        · exact ⟨finishing wasFinishing, delivery.intact wasOwner wasOpen⟩

/-- The session makes a call. -/
theorem row (delivery : Delivery meant sid calls session c) (call : Call)
    (requestLimit : Nat) (turns : Exchange) (phase : session.phase = .rows)
    (owner : c.owner = sid) (conf : c.conf = session.conf)
    (logged : c.good → ∃ u, meant u ∧ u.fragment = c.destination) :
    let outcome := capstompContent call.row call.now requestLimit turns c
    Delivery meant sid (calls ++ [call])
      { session with rows := session.rows ++ [outcome.1] } outcome.2 := by
  intro outcome
  have uncommitted : ∀ w ∈ outcome.2.framesOf sid,
      ¬ ∃ id, w.frame.body = .commit id := by
    rintro w member ⟨id, isCommit⟩
    have old : w ∈ c.framesOf sid := by
      rcases capstompContent_written call.row call.now requestLimit turns c with
        none | ⟨open₀, receipt, _, written⟩
      · rwa [framesOf_of_written none] at member
      · simp only [outcome, framesOf, written, List.filter_append,
          List.mem_append, List.mem_filter, List.mem_singleton] at member
        rcases member with old | ⟨rfl, _⟩
        · exact List.mem_filter.mpr old
        · cases isCommit
    have finishing := (delivery.committed w old ⟨id, isCommit⟩).1
    simp [Phase.finishing, phase, Phase.unfinished] at finishing
  rcases row_cases call requestLimit turns owner with
    ⟨notSent, isClosed, same⟩ | ⟨isOpen, frame, isBody, more, lost | sent⟩
  · obtain ⟨destination, transaction, isMeant, delivered⟩ :=
      delivery.delivered
    constructor
    case unsent => simp [phase, Phase.unsent]
    case running => simp [outcome, isClosed]
    case intact => simp [outcome, isClosed]
    case committed =>
        exact fun w member isCommit =>
          absurd isCommit (uncommitted w member)
    case delivered =>
        refine ⟨destination, transaction, ?_, ?_⟩ <;>
          rw [show sendFrames (outcome.2.framesOf sid) = _ from same]
        · exact isMeant
        · exact delivered.unsent call notSent
  · have whole := delivery.running (by simp [phase, Phase.unfinished]) isOpen
    rw [conf] at isBody
    constructor
    case unsent => simp [phase, Phase.unsent]
    case running => simp [outcome, lost.2]
    case intact => simp [outcome, lost.2]
    case committed =>
        exact fun w member isCommit =>
          absurd isCommit (uncommitted w member)
    case delivered =>
        refine ⟨c.destination, c.transactionId, fun _ => logged isOpen, ?_⟩
        rw [show sendFrames (outcome.2.framesOf sid) = _ from more]
        exact .upTo whole rfl
          (by simp [outcome, lost.1, RowResult.isSent])
          (.inr ⟨lost.1, by simp [isBody]⟩)
  · obtain ⟨isSent, continues⟩ := sent
    rw [conf] at isBody
    have whole := (delivery.running (by simp [phase, Phase.unfinished])
      isOpen).sent isBody
    rw [← isSent, ← more] at whole
    constructor
    case unsent => simp [phase, Phase.unsent]
    case running =>
        intro _ stillOpen
        obtain ⟨open', nowOpen⟩ := Option.isSome_iff_exists.mp stillOpen
        obtain ⟨_, _, same⟩ := continues.socket open' nowOpen
        rw [same.destination, continues.transactionId]
        exact whole
    case intact => exact fun _ _ => ⟨_, _, whole⟩
    case committed =>
        exact fun w member isCommit =>
          absurd isCommit (uncommitted w member)
    case delivered => exact ⟨_, _, fun _ => logged isOpen, .whole whole⟩

end Delivery

section Steps

variable {s after : System} {action : Action} {sid : SessionId}
variable {x : ConnId} {w : Written}

theorem Phase.Next.finishing {before after : Phase}
    (next : before.Next after) (finishing : before.finishing) :
    after.finishing := by
  cases next with
  | own transaction batch receipt => exact finishing_afterBatch batch receipt
  | returned connection batch receipt =>
      exact finishing_afterBatch batch receipt
  | other => exact ⟨⟨by simp, rfl⟩, rfl⟩
  | released => exact ⟨⟨by simp, rfl⟩, rfl⟩
  | _ => simp [Phase.finishing, Phase.started, Phase.early,
      Phase.unfinished] at finishing

theorem callsOf_snoc (sid : SessionId) (actions : List Action)
    (action : Action) :
    callsOf sid (actions ++ [action]) =
      callsOf sid actions ++ (action.call sid).toList := by
  rw [callsOf, List.filterMap_append, callsOf]
  cases called : action.call sid <;> simp [called]

/-- Only a call of the session writes a SEND for it. -/
theorem Writes.not_send (ledger : Ledger s) (writes : Writes s action x w)
    (noRow : action.call sid = none) (mine : w.session = sid) :
    w.isSend = false := by
  cases writes with
  | @content other row now requestLimit turns open₀ receipt phase isOpen =>
      have owner := ledger.owner other (by simp [phase]) (by simp [phase])
      have same : other = sid := owner.symm.trans mine
      simp [Action.call, same] at noRow
  | _ => rfl

/-- The session whose COMMIT is written has ended its rows, and its connection
is open. -/
theorem Writes.committed (custody : Custody s) (told : Told s)
    (writes : Writes s action x w)
    (isCommit : ∃ id, w.frame.body = .commit id) :
    (s.sessions w.session).phase.finishing ∧
      (s.connections x).owner = w.session ∧ (s.connections x).good := by
  have finishing : ∀ transaction, s.Pending transaction →
      (∀ sid, (s.sessions sid).phase.unfinished →
        transaction.connection ∉ s.places (.session sid)) →
      (s.sessions
        (s.connections transaction.connection).owner).phase.finishing := by
    intro transaction pending away
    obtain ⟨isHere, uncommitted⟩ := told.pending transaction pending
    refine ⟨uncommitted.started, Bool.eq_false_iff.mpr fun unfinished => ?_⟩
    have held := List.mem_singleton_self
      (s.sessions (s.connections transaction.connection).owner).connection
    rw [← Session.held_of_unfinished unfinished, isHere] at held
    exact away _ unfinished held
  obtain ⟨id, isCommit⟩ := isCommit
  cases writes with
  | @commit sid turns transaction batch needed open₀ receipt phase isOpen =>
      have batched : transaction ∈ (s.sessions sid).phase.batch := by
        simp [phase, Phase.batch]
      refine ⟨finishing transaction (.inr ⟨sid, batched⟩) ?_, rfl,
        by simp [good, isOpen]⟩
      intro other unfinished held
      have same := custody.only_session held (Custody.place_of_batch batched)
      simp [← same, phase, Phase.unfinished] at unfinished
  | @force poolSockets turns transaction open₀ receipt stored ready isOpen =>
      refine ⟨finishing transaction (.inl stored) ?_, rfl,
        by simp [good, isOpen]⟩
      intro other _ held
      cases custody.only held (Custody.place_of_ready stored ready)
  | _ => cases isCommit

/-- The frames of a session on a connection, one step on. -/
theorem WritesOnce.framesOf (once : WritesOnce s action after) (sid : SessionId)
    (y : ConnId) :
    (after.connections y).framesOf sid = (s.connections y).framesOf sid ∨
      ∃ w, Writes s action y w ∧ w.session = sid ∧
        (after.connections y).framesOf sid =
          (s.connections y).framesOf sid ++ [w] := by
  rcases once with same | ⟨x, w, writes, written, same⟩
  · exact .inl (framesOf_of_written (same y))
  · by_cases isHere : y = x
    · subst isHere
      by_cases mine : w.session = sid
      · exact .inr ⟨w, writes, mine, by simp [Connection.framesOf, written,
          mine]⟩
      · exact .inl (by simp [Connection.framesOf, written, mine])
    · exact .inl (framesOf_of_written (same y isHere))

variable [QueryDecoding] [PassHash] [FrameBytes]

/-- A session under way has its connection for itself. -/
theorem System.own_unchanged (custody : Custody s) (queue : Queue s)
    (stepped : s.step action = some after)
    (another : action.thread ≠ .session sid)
    (same : after.sessions sid = s.sessions sid)
    (unfinished : (s.sessions sid).phase.unfinished) :
    after.own sid = s.own sid := by
  rw [System.own, same]
  apply Classical.byContradiction
  intro changed
  have held : (s.sessions sid).connection ∈ (s.sessions sid).held := by
    rw [Session.held_of_unfinished unfinished]
    exact List.mem_singleton.mpr rfl
  refine another ?_
  rcases System.step_local custody queue stepped changed with uses | uses
  · exact custody.uses_unique uses held
  · refine (custody.step queue stepped).uses_unique uses ?_
    rw [System.Uses, same]
    exact held

variable {meant : Uri → Prop} {actions : List Action}

theorem Delivery.step (custody : Custody s) (queue : Queue s)
    (ledger : Ledger s) (told : Told s) (configured : s.Configured)
    (logged : ∀ c, KeepsLogon meant (s.connections c))
    (delivery : Delivery meant sid (callsOf sid actions) (s.sessions sid)
      (s.own sid)) (stepped : s.step action = some after) :
    Delivery meant sid (callsOf sid (actions ++ [action]))
      (after.sessions sid) (after.own sid) := by
  have frames := (System.written_cases custody queue told stepped).framesOf sid
    (s.sessions sid).connection
  have owner := System.owner_cases custody queue ledger stepped
    (s.sessions sid).connection
  -- The session makes no call, so its SENDs are those before.
  have keep : ∀ {new : Session}, after.sessions sid = new →
      new.connection = (s.sessions sid).connection →
      new.rows = (s.sessions sid).rows → new.conf = (s.sessions sid).conf →
      action.call sid = none →
      (new.phase.unsent → (s.sessions sid).phase.unsent) →
      ((s.sessions sid).phase.finishing → new.phase.finishing) →
      (new.phase.unfinished → (s.sessions sid).phase.unsent ∨
        (s.sessions sid).phase.unfinished ∧ after.own sid = s.own sid) →
      Delivery meant sid (callsOf sid (actions ++ [action])) new
        (after.own sid) := by
    intro new isNew connection rows conf noRow unsent finishing running
    have isOwn : after.own sid =
        after.connections (s.sessions sid).connection := by
      rw [System.own, isNew, connection]
    rw [callsOf_snoc, noRow, Option.toList_none, List.append_nil]
    refine delivery.keep rows conf ?_ unsent finishing running ?_ ?_
    · rw [isOwn]
      rcases frames with same | ⟨w, writes, mine, more⟩
      · rw [same, System.own]
      · have notSend := writes.not_send ledger noRow mine
        simp [sendFrames, more, notSend, System.own]
    · rw [isOwn]
      intro isOwner isOpen
      rcases owner with calm | ⟨other, isOther, _, early⟩
      · exact .inr ⟨calm.owner.symm.trans isOwner, calm.closed isOpen⟩
      · have same : other = sid := isOther.symm.trans isOwner
        subst same
        left
        rcases early with idle | early
        · simp [idle, Phase.unsent]
        · cases phase : (s.sessions other).phase <;>
            simp_all [Phase.early, Phase.unsent]
    · rw [isOwn]
      intro w member isCommit
      rcases frames with same | ⟨more, writes, mine, longer⟩
      · rw [same] at member
        exact .inl member
      · rw [longer, List.mem_append, List.mem_singleton] at member
        rcases member with old | rfl
        · exact .inl old
        · obtain ⟨ended, isOwner, isOpen⟩ :=
            writes.committed custody told isCommit
          rw [mine] at ended isOwner
          exact .inr ⟨ended, isOwner, isOpen⟩
  cases System.session_cases stepped sid with
  | still another same =>
      rw [same]
      refine keep same rfl rfl rfl (Action.call_of_thread another) id id ?_
      exact fun unfinished => .inr ⟨unfinished, System.own_unchanged custody
        queue stepped another same unfinished⟩
  | refused => simpa [callsOf_snoc, Action.call] using delivery
  | goes noRow next session quiet =>
      rw [session]
      refine keep session rfl rfl rfl noRow next.unsent next.finishing ?_
      intro unfinished
      refine (next.unfinished unfinished).imp_right fun phase => ?_
      refine ⟨by simp [phase, Phase.unfinished], ?_⟩
      rw [System.own, session, quiet phase, System.own]
  | @begins uri maxPoolSockets obtained idle got =>
      have nothing := (delivery.unsent (by simp [idle, Phase.unsent])).1
      rw [callsOf_snoc, nothing]
      have none : ((s.handOver sid uri obtained).own sid).framesOf sid = [] := by
        refine List.filter_eq_nil_iff.mpr fun w member => ?_
        have written :=
          told.obtained_written (Settings.create uri.query) sid got
        simp only [System.own, System.handOver_sessions,
          System.handOver_connections, Function.update_self] at member
        rw [written] at member
        have busy := (told.home _ w member).1
        rw [decide_eq_true_eq]
        rintro rfl
        exact busy idle
      exact .ofUnsent (by simp) (by simp [none, sendFrames])
        (by simp [none])
  | @row row now requestLimit turns _ phase session connection =>
      rw [callsOf_snoc, session, connection]
      have called : (Action.content sid row now requestLimit turns).call sid =
          some { row := row, now := now } := by simp [Action.call]
      rw [called]
      refine delivery.row { row := row, now := now } requestLimit turns phase
        (ledger.owner sid (by simp [phase]) (by simp [phase]))
        (configured sid (by simp [phase]) (by simp [phase])) ?_
      intro isOpen
      obtain ⟨socket, isOpen⟩ := Option.isSome_iff_exists.mp isOpen
      have loggedOn := logged _ socket isOpen
      exact ⟨socket.target, loggedOn.target, loggedOn.destination.symm⟩

end Steps

section Runs

variable [QueryDecoding] [PassHash] [FrameBytes]
variable {meant : Uri → Prop} {name : String} {actions : List Action}
variable {s : System}

/-- Of every run it can be said with which URIs its statements began. -/
theorem General.Plays.begun {allowed : System → Action → Prop}
    (played : Plays System.step allowed (System.init name) actions s) :
    Plays System.step (begunWith fun _ => True) (System.init name) actions
      s :=
  played.weaken fun _ action _ => by cases action <;> trivial

theorem delivery_of_plays
    (played : Plays System.step (begunWith meant) (System.init name) actions s)
    (sid : SessionId) :
    Delivery meant sid (callsOf sid actions) (s.sessions sid) (s.own sid) := by
  induction played with
  | nil =>
      exact .ofUnsent rfl rfl (by simp [System.own, System.init, framesOf])
  | snoc played permitted stepped induction =>
      have run : Runs (begunWith meant) name _ := played.reaches
      exact induction.step run.custody run.queue run.ledger run.told
        run.configured run.keepsLogon stepped

/-- In every run of a pool, the frames of a session are on its connection, and
its SENDs are those of its first calls. -/
theorem rows_delivered
    (played : Plays System.step (begunWith meant) (System.init name) actions s)
    (sid : SessionId) :
    (∀ c, ∀ w ∈ (s.connections c).written, w.session = sid →
        c = (s.sessions sid).connection) ∧
      ∃ destination transaction,
        (sendFrames ((s.own sid).framesOf sid) ≠ [] →
          ∃ u, meant u ∧ u.fragment = destination) ∧
        Delivered (s.sessions sid).conf destination transaction
          (callsOf sid actions) (s.sessions sid).rows
          (sendFrames ((s.own sid).framesOf sid)) := by
  refine ⟨?_, (delivery_of_plays played sid).delivered⟩
  have run : Runs (begunWith meant) name s := played.reaches
  rintro c w member rfl
  exact (run.told.home c w member).2.symm

end Runs

/-- The run that playing these actions exhibits. -/
theorem plays_final [QueryDecoding] [PassHash] [FrameBytes]
    {allowed : System → Action → Prop}
    [∀ s action, Decidable (allowed s action)] {name : String}
    {actions : List Action} (enabled : (play allowed name actions).isSome) :
    Plays System.step allowed (System.init name) actions
      (final allowed name actions) :=
  .executed enabled

section Executed

open scoped Sample

/-- A row with this payload. -/
def sampleRow (text : String) : Row :=
  { payload := text.toList.map fun char => UInt8.ofNat char.toNat }

/-- Two sessions send in turns; the peer closes the connection of the second
one after its first row. -/
def inTurns : List Action :=
  Sample.begins 1 ++ Sample.begins 2 ++
    [.content 2 (sampleRow "a") 0 100 { write := [Sample.writable] },
      .content 1 (sampleRow "b") 0 100 { write := [Sample.writable] },
      .content 2 (sampleRow "c") 0 100 { write := [Sample.closed] },
      .content 2 (sampleRow "d") 0 100 { write := [Sample.writable] },
      .content 1 (sampleRow "e") 0 100 { write := [Sample.writable] }]

instance {meant : Uri → Prop} [DecidablePred meant] (s : System)
    (action : Action) : Decidable (begunWith meant s action) :=
  match action with
  | .get _ uri _ => inferInstanceAs (Decidable (meant uri))
  | .connect _ _ | .createTransaction _ | .begin _ _ _ | .content _ _ _ _ _
  | .deinit _ | .commit _ _ _ | .commitTransaction _ _ | .releaseDeferred _ _
  | .release _ _ _ | .forceLock | .forceNext _ _ | .forceUnlock =>
      .isTrue trivial

/-- The URIs of the samples, by their destination. -/
def toQueue (u : Uri) : Prop :=
  u.fragment = "/queue/a"

instance : DecidablePred toQueue :=
  fun u => inferInstanceAs (Decidable (u.fragment = "/queue/a"))

theorem rows_delivered_inTurns :
    let s := final (begunWith toQueue) "pool" inTurns
    (callsOf 2 inTurns).length = 3 ∧
      (s.sessions 2).rows.map RowResult.isSent = [true, false, false] ∧
      (sendFrames ((s.own 2).framesOf 2)).map Frame.body =
        [.send "/queue/a" [.transaction "2@pool"] [97]] ∧
      (∀ c, ∀ w ∈ (s.connections c).written, w.session = 2 →
        c = (s.sessions 2).connection) ∧
      ∃ destination transaction,
        (sendFrames ((s.own 2).framesOf 2) ≠ [] →
          ∃ u, toQueue u ∧ u.fragment = destination) ∧
        Delivered (s.sessions 2).conf destination transaction
          (callsOf 2 inTurns) (s.sessions 2).rows
          (sendFrames ((s.own 2).framesOf 2)) :=
  ⟨by decide +kernel, by decide +kernel, by decide +kernel,
    rows_delivered (plays_final (by decide +kernel)) 2⟩

end Executed

end Capstomp
