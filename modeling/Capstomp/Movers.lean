import Mathlib.Data.Set.Basic
import Capstomp.General.Reduction
import Capstomp.Reachable
import Capstomp.SideBySide

/-!
# Calls outside the mutex

What a session does outside the mutex could as well have been done before the
last step of another thread.  Every run of a pool is therefore one in which
each call outside the mutex directly follows a step of its own thread, and
`force_commit` runs in one piece, up to the order in which the threads take
turns.
-/

namespace Capstomp

open General

/-- The step runs outside the mutex; `connection::commit` does when nothing
was begun. -/
def System.outside (s : System) : Action → Prop
  | .connect _ _ | .begin _ _ _ | .content _ _ _ _ _ | .deinit _
  | .commitTransaction _ _ => True
  | .commit sid _ _ => (s.own sid).withTransaction = false
  | .get _ _ _ | .createTransaction _ | .releaseDeferred _ _ | .release _ _ _
  | .forceLock | .forceNext _ _ | .forceUnlock => False

/-- Recorded by a section under the mutex, beside the commits. -/
def Event.locked : Event → Bool
  | .attempted _ _ _ => false
  | .got _ _ | .created _ _ _ | .taken _ | .released _ _ => true

/-- The same state, in which the same was recorded; only the commits may
stand elsewhere in the record. -/
structure Alike (s t : System) : Prop where
  pool : t.pool = s.pool
  connections : t.connections = s.connections
  nextConnection : t.nextConnection = s.nextConnection
  sessions : t.sessions = s.sessions
  forcing : t.forcing = s.forcing
  trace : t.trace.Perm s.trace
  locked : t.trace.filter Event.locked = s.trace.filter Event.locked

/-- What a step outside the mutex leaves behind: one connection, its session
and what it recorded. -/
structure Mark where
  connection : ConnId
  left : Connection
  session : SessionId
  course : Session
  events : List Event
  quiet : events.filter Event.locked = []

def System.marked (mark : Mark) (s : System) : System :=
  (s.setConnection mark.connection mark.left).setSession mark.session
    mark.course |>.record mark.events

namespace Alike

variable {s t u after : System}

theorem refl (s : System) : Alike s s :=
  ⟨rfl, rfl, rfl, rfl, rfl, .refl _, rfl⟩

theorem trans (first : Alike s t) (second : Alike t u) : Alike s u :=
  ⟨second.pool.trans first.pool, second.connections.trans first.connections,
    second.nextConnection.trans first.nextConnection,
    second.sessions.trans first.sessions,
    second.forcing.trans first.forcing, second.trace.trans first.trace,
    second.locked.trans first.locked⟩

theorem apart (alike : Alike s t) : Apart ∅ ∅ s t :=
  ⟨alike.pool, alike.nextConnection, alike.forcing,
    fun _ _ => by rw [alike.connections],
    fun _ _ => by rw [alike.sessions]⟩

theorem ofAlong {beside : System} (alike : Alike s t)
    (along : Along ∅ ∅ s t after beside) : Alike after beside := by
  obtain ⟨events, one, two⟩ := along.record
  constructor
  · exact along.apart.pool
  · exact funext fun c => along.connection_eq (Set.notMem_empty c)
  · exact along.apart.nextConnection
  · exact funext fun sid => along.session_eq (Set.notMem_empty sid)
  · exact along.apart.forcing
  · rw [one, two]
    exact alike.trace.append_right events
  · rw [one, two, List.filter_append, List.filter_append, alike.locked]

theorem outside_iff (alike : Alike s t) (action : Action) :
    s.outside action ↔ t.outside action := by
  cases action <;> simp [System.outside, System.own, alike.sessions,
    alike.connections]

variable [QueryDecoding] [PassHash] [FrameBytes]

theorem step {action : Action} (custody : Custody s) (queue : Queue s)
    (alike : Alike s t) (stepped : s.step action = some after) :
    ∃ beside, t.step action = some beside ∧ Alike after beside := by
  obtain ⟨beside, stepped, along⟩ := alike.apart.step custody queue stepped
    (fun _ none => none.elim) (fun _ none => none.elim)
  exact ⟨beside, stepped, alike.ofAlong along⟩

end Alike

section Steps

variable [QueryDecoding] [PassHash] [FrameBytes]
variable {s after : System} {action : Action} {sid : SessionId}

omit [QueryDecoding] [PassHash] [FrameBytes] in
theorem System.record_nil : s.record [] = s := by
  simp [record]

/-- What leaves its mark where its session and its connections are the
same. -/
def System.Marks (s : System) (action : Action) (mark : Mark) : Prop :=
  ∀ t : System, t.sessions mark.session = s.sessions mark.session →
    (∀ c, s.Uses (.session mark.session) c →
      t.connections c = s.connections c) →
    t.step action = some (t.marked mark)

omit [QueryDecoding] [PassHash] [FrameBytes] in
theorem System.setPhase_eq {t : System} (phase : Phase)
    (session : t.sessions sid = s.sessions sid) :
    t.setPhase sid phase =
      t.setSession sid { s.sessions sid with phase := phase } := by
  rw [setPhase, session]

omit [QueryDecoding] [PassHash] [FrameBytes] in
theorem System.setConnection_own {t : System}
    (session : t.sessions sid = s.sessions sid)
    (own : t.own sid = s.own sid) :
    t.setConnection (s.sessions sid).connection (s.own sid) = t := by
  rw [← own, System.own, session, setConnection, Function.update_eq_self]

/-- The mark of a step on the connection of its session. -/
theorem System.marks_own (new : Connection) (course : Session)
    (notIdle : (s.sessions sid).phase ≠ .idle)
    (notEnded : (s.sessions sid).phase ≠ .ended)
    (steps : ∀ t : System, t.sessions sid = s.sessions sid →
      t.own sid = s.own sid →
      t.step action =
        some ((t.setConnection (s.sessions sid).connection new).setSession sid
          course)) :
    ∃ mark, mark.session = sid ∧ s.Uses (.session sid) mark.connection ∧
      s.Marks action mark := by
  have uses : s.Uses (.session sid) (s.sessions sid).connection :=
    Session.own_mem_held notIdle notEnded
  refine ⟨⟨(s.sessions sid).connection, new, sid, course, [], rfl⟩, rfl, uses,
    ?_⟩
  intro t session connections
  have own : t.own sid = s.own sid := by
    rw [own, session, connections _ uses, own]
  rw [steps t session own, marked, record_nil]

/-- A step outside the mutex reads its session and the connections the session
uses, and it leaves its mark wherever these are the same. -/
theorem System.outside_mark (outside : s.outside action)
    (stepped : s.step action = some after) :
    ∃ mark, action.thread = .session mark.session ∧
      s.Uses (.session mark.session) mark.connection ∧
      s.Marks action mark := by
  have ofOwn : ∀ {sid}, action.thread = .session sid →
      (∃ mark, mark.session = sid ∧ s.Uses (.session sid) mark.connection ∧
        s.Marks action mark) →
      ∃ mark, action.thread = .session mark.session ∧
        s.Uses (.session mark.session) mark.connection ∧
        s.Marks action mark := by
    rintro _ isThread ⟨mark, rfl, uses, marks⟩
    exact ⟨mark, isThread, uses, marks⟩
  cases action with
  | connect sid turns =>
      obtain ⟨uri, phase, outcome⟩ := System.connect_cases stepped
      refine ofOwn rfl ?_
      rcases outcome with ⟨c, result, _⟩ | ⟨error, c, result, _⟩
      · refine marks_own c { s.sessions sid with
          phase := if c.conf.transaction then .creating else .rows }
          (by simp [phase]) (by simp [phase]) ?_
        intro t session own
        simp only [step, connect, session, phase, own, result]
        exact congrArg some (setPhase_eq _ session)
      · refine marks_own c.close { s.sessions sid with
          phase := if c.close.withNoError then .rows else .ending }
          (by simp [phase]) (by simp [phase]) ?_
        intro t session own
        simp only [step, connect, session, phase, own, result, initFailed]
        exact congrArg some (setPhase_eq _ session)
  | begin sid requestLimit turns =>
      obtain ⟨phase, outcome⟩ := System.begin_cases stepped
      refine ofOwn rfl ?_
      rcases outcome with ⟨c, result, _⟩ | ⟨error, c, result, _⟩
      · refine marks_own c { s.sessions sid with phase := .rows }
          (by simp [phase]) (by simp [phase]) ?_
        intro t session own
        simp only [step, begin, session, phase, own, result]
        exact congrArg some (setPhase_eq _ session)
      · refine marks_own c.close { s.sessions sid with
          phase := if c.close.withNoError then .rows else .ending }
          (by simp [phase]) (by simp [phase]) ?_
        intro t session own
        simp only [step, begin, session, phase, own, result, initFailed]
        exact congrArg some (setPhase_eq _ session)
  | content sid row now requestLimit turns =>
      obtain ⟨phase, _⟩ := System.content_cases stepped
      let result := capstompContent row now requestLimit turns (s.own sid)
      refine ofOwn rfl (marks_own result.2 { s.sessions sid with
          rows := (s.sessions sid).rows ++ [result.1] }
        (by simp [phase]) (by simp [phase]) ?_)
      intro t session own
      simp only [step, content, session, phase, own, result]
  | deinit sid =>
      obtain ⟨phase, _⟩ := System.deinit_cases stepped
      refine ofOwn rfl (marks_own (s.own sid)
        { s.sessions sid with phase := .ending } (by simp [phase])
        (by simp [phase]) ?_)
      intro t session own
      rw [setConnection_own session own]
      simp only [step, deinit, session, phase]
      exact congrArg some (setPhase_eq _ session)
  | commit sid endReady requestLimit =>
      obtain ⟨phase, _⟩ := System.commit_cases stepped
      refine ofOwn rfl (marks_own (s.own sid)
        { s.sessions sid with phase := .releasing } (by simp [phase])
        (by simp [phase]) ?_)
      intro t session own
      rw [setConnection_own session own]
      have without : (s.own sid).withTransaction = false := outside
      simp only [step, commit, session, phase, own, without]
      exact congrArg some (setPhase_eq _ session)
  | commitTransaction sid turns =>
      obtain ⟨transaction, batch, receipt, phase, _⟩ :=
        System.commitTransaction_cases stepped
      have uses : s.Uses (.session sid) transaction.connection :=
        Custody.place_of_batch (by simp [phase, Phase.batch])
      have usesOwn : s.Uses (.session sid) (s.sessions sid).connection :=
        Session.own_mem_held (by simp [phase]) (by simp [phase])
      let c := s.connections transaction.connection
      let left := c.commitTransaction transaction.id receipt turns
      refine ⟨⟨transaction.connection, left, sid, { s.sessions sid with
        phase := if (s.own sid).self = some transaction.connection
          then afterBatch batch receipt
          else .returning transaction.connection batch receipt },
        [.attempted transaction.node transaction.connection
          (decide (c.written.length < left.written.length))], rfl⟩, rfl, uses,
        ?_⟩
      intro t session connections
      have own : t.own sid = s.own sid := by
        rw [System.own, session, connections _ usesOwn, System.own]
      simp only [step, commitTransaction, session, phase, own, attempt,
        connections _ uses]
      exact congrArg some (setPhase_eq _ session)
  | _ => exact outside.elim

/-- What a thread does not use or is, it leaves as it was. -/
theorem System.frame (custody : Custody s) (queue : Queue s)
    (cs : Set ConnId) (sids : Set SessionId)
    (stepped : s.step action = some after)
    (notUsed : ∀ c ∈ cs, ¬ s.Uses action.thread c ∧
      ¬ after.Uses action.thread c)
    (notOne : ∀ sid ∈ sids, action.thread ≠ .session sid) :
    (∀ c ∈ cs, after.connections c = s.connections c) ∧
      ∀ sid ∈ sids, after.sessions sid = s.sessions sid := by
  have same : Apart cs sids s s :=
    ⟨rfl, rfl, rfl, fun _ _ => rfl, fun _ _ => rfl⟩
  obtain ⟨beside, again, along⟩ :=
    same.step custody queue stepped notUsed notOne
  cases stepped.symm.trans again
  exact ⟨along.connections, along.sessions⟩

theorem System.session_other (custody : Custody s) (queue : Queue s)
    (stepped : s.step action = some after)
    (another : action.thread ≠ .session sid) :
    after.sessions sid = s.sessions sid := by
  have kept := System.frame custody queue ∅ {sid} stepped
    (fun _ none => none.elim) (by rintro _ rfl; exact another)
  exact kept.2 sid rfl

theorem System.connection_other (custody : Custody s) (queue : Queue s)
    (stepped : s.step action = some after)
    (another : action.thread ≠ .session sid) {c : ConnId}
    (uses : s.Uses (.session sid) c) :
    after.connections c = s.connections c ∧
      ¬ s.Uses action.thread c ∧ ¬ after.Uses action.thread c := by
  have usesAfter : after.Uses (.session sid) c := by
    rw [System.Uses, System.session_other custody queue stepped another]
    exact uses
  have notUsed : ¬ s.Uses action.thread c ∧ ¬ after.Uses action.thread c :=
    ⟨fun usesToo => another (custody.uses_unique usesToo uses),
      fun usesToo => another
        ((custody.step queue stepped).uses_unique usesToo usesAfter)⟩
  have kept := System.frame custody queue {c} ∅ stepped
    (by rintro _ rfl; exact notUsed) (fun _ none => none.elim)
  exact ⟨kept.1 c rfl, notUsed⟩

omit [QueryDecoding] [PassHash] [FrameBytes] in
theorem System.apart_marked (mark : Mark) :
    Apart {mark.connection} {mark.session} s (s.marked mark) := by
  constructor
  case connections =>
    intro c other
    exact Function.update_of_ne other _ _
  case sessions =>
    intro sid other
    exact Function.update_of_ne other _ _
  all_goals rfl

omit [QueryDecoding] [PassHash] [FrameBytes] in
/-- A mark made before the step of another thread, or after it. -/
theorem Along.alike_marked {mark : Mark} {beside : System}
    (along : Along {mark.connection} {mark.session} s (s.marked mark) after
      beside) : Alike (after.marked mark) beside := by
  constructor
  · exact along.apart.pool
  · funext c
    by_cases same : c = mark.connection
    · rw [along.connections c same, same]
      simp [System.marked]
    · rw [along.connection_eq same]
      simp [System.marked, Function.update_of_ne same]
  · exact along.apart.nextConnection
  · funext sid
    by_cases same : sid = mark.session
    · rw [along.sessions sid same, same]
      simp [System.marked]
    · rw [along.session_eq same]
      simp [System.marked, Function.update_of_ne same]
  · exact along.apart.forcing
  · obtain ⟨events, one, two⟩ := along.record
    simp only [System.marked, System.record_trace, System.setSession_trace,
      System.setConnection_trace, one, two, List.append_assoc]
    exact List.perm_append_comm.append_left s.trace
  · obtain ⟨events, one, two⟩ := along.record
    simp [System.marked, one, two, List.filter_append, mark.quiet]

theorem System.outside_congr {t : System}
    (stepped : s.step action = some after)
    (session : ∀ sid, action.thread = .session sid →
      t.sessions sid = s.sessions sid)
    (connection : ∀ c, s.Uses action.thread c →
      t.connections c = s.connections c) :
    t.outside action ↔ s.outside action := by
  cases action with
  | commit sid endReady requestLimit =>
      obtain ⟨phase, _⟩ := System.commit_cases stepped
      have own : t.own sid = s.own sid := by
        rw [System.own, session sid rfl, connection, System.own]
        exact Session.own_mem_held (by simp [phase]) (by simp [phase])
      rw [System.outside, System.outside, own]
  | _ => exact Iff.rfl

/-- A call outside the mutex could have been made before the step of another
thread. -/
theorem System.moves {s₁ s₂ : System} {first second : Action}
    (custody : Custody s) (queue : Queue s)
    (steppedFirst : s.step first = some s₁)
    (steppedSecond : s₁.step second = some s₂)
    (outside : s₁.outside second) (another : first.thread ≠ second.thread) :
    ∃ t₁ t₂, s.step second = some t₁ ∧ t₁.step first = some t₂ ∧
      Alike s₂ t₂ ∧ s.outside second ∧ (t₁.outside first ↔ s.outside first) := by
  obtain ⟨mark, isThread, usesAfter, marks⟩ :=
    System.outside_mark outside steppedSecond
  rw [isThread] at another
  have session := System.session_other custody queue steppedFirst another
  have uses_iff : ∀ c, s.Uses (.session mark.session) c ↔
      s₁.Uses (.session mark.session) c := by
    intro c
    rw [System.Uses, System.Uses, session]
  have uses := (uses_iff _).mpr usesAfter
  have connection := fun c usesHere => System.connection_other (c := c) custody
    queue steppedFirst another usesHere
  -- The session finds what it uses as it was before the other's step.
  have moved : s.step second = some (s.marked mark) :=
    marks s session.symm fun c usesThere =>
      (connection c ((uses_iff c).mpr usesThere)).1.symm
  have isMarked : s₂ = s₁.marked mark := by
    have again := marks s₁ rfl fun _ _ => rfl
    exact Option.some.inj (steppedSecond.symm.trans again)
  obtain ⟨t₂, steppedThen, along⟩ :=
    (System.apart_marked mark).step custody queue steppedFirst
      (by rintro _ rfl; exact (connection _ uses).2)
      (by rintro _ rfl; exact another)
  refine ⟨_, t₂, moved, steppedThen, isMarked ▸ along.alike_marked, ?_, ?_⟩
  · refine (System.outside_congr moved ?_ ?_).mp outside
    · intro sid isSid
      cases isThread.symm.trans isSid
      exact session
    · rw [isThread]
      exact fun c usesHere => (connection c usesHere).1
  · refine System.outside_congr steppedFirst ?_ ?_
    · rintro sid isSid
      exact (System.apart_marked mark).sessions sid
        fun same => another (same ▸ isSid)
    · intro c usesFirst
      refine (System.apart_marked mark).connections c ?_
      rintro rfl
      exact (connection _ uses).2.1 usesFirst

/-! ## Whole runs -/

theorem System.forcing_session (another : action.thread ≠ .administrator)
    (stepped : s.step action = some after) : after.forcing = s.forcing := by
  cases action with
  | get sid uri maxPoolSockets =>
      obtain ⟨_, _, rfl | ⟨_, _, rfl⟩⟩ := System.get_cases stepped <;> rfl
  | connect sid turns =>
      obtain ⟨_, _, ⟨_, _, rfl⟩ | ⟨_, _, _, rfl⟩⟩ :=
        System.connect_cases stepped <;> rfl
  | createTransaction sid =>
      obtain ⟨_, _, _, _, rfl⟩ := System.createTransaction_cases stepped
      rfl
  | begin sid requestLimit turns =>
      obtain ⟨_, ⟨_, _, rfl⟩ | ⟨_, _, _, rfl⟩⟩ :=
        System.begin_cases stepped <;> rfl
  | content sid row now requestLimit turns =>
      obtain ⟨_, rfl⟩ := System.content_cases stepped
      rfl
  | deinit sid =>
      obtain ⟨_, rfl⟩ := System.deinit_cases stepped
      rfl
  | commit sid endReady requestLimit =>
      obtain ⟨_, ⟨_, rfl⟩ | ⟨_, _, _, _, _, _, _, rfl⟩⟩ :=
        System.commit_cases stepped <;> rfl
  | commitTransaction sid turns =>
      obtain ⟨_, _, _, _, rfl⟩ := System.commitTransaction_cases stepped
      rfl
  | releaseDeferred sid poolSockets =>
      obtain ⟨_, _, _, _, _, rfl⟩ := System.releaseDeferred_cases stepped
      rfl
  | release sid requestLimit poolSockets =>
      obtain ⟨_, _, _, _, rfl⟩ := System.release_cases stepped
      rfl
  | forceLock => exact absurd rfl another
  | forceNext poolSockets turns => exact absurd rfl another
  | forceUnlock => exact absurd rfl another

/-- While `force_commit` holds the mutex, what other threads do is outside
it. -/
theorem System.outside_of_forcing (another : action.thread ≠ .administrator)
    (held : s.forcing ≠ none) (stepped : s.step action = some after) :
    s.outside action := by
  cases action with
  | get sid uri maxPoolSockets =>
      exact absurd (System.get_cases stepped).2.1 held
  | createTransaction sid =>
      obtain ⟨_, _, _, unlocked, _⟩ := System.createTransaction_cases stepped
      exact absurd unlocked held
  | commit sid endReady requestLimit =>
      obtain ⟨_, ⟨without, _⟩ | ⟨_, _, _, _, _, unlocked, _⟩⟩ :=
        System.commit_cases stepped
      · exact without
      · exact absurd unlocked held
  | releaseDeferred sid poolSockets =>
      obtain ⟨_, _, _, _, unlocked, _⟩ := System.releaseDeferred_cases stepped
      exact absurd unlocked held
  | release sid requestLimit poolSockets =>
      obtain ⟨_, _, _, unlocked, _⟩ := System.release_cases stepped
      exact absurd unlocked held
  | connect | begin | content | deinit | commitTransaction => exact trivial
  | forceLock | forceNext | forceUnlock => exact absurd rfl another

end Steps

section Runs

variable [QueryDecoding] [PassHash] [FrameBytes] {name : String}
variable {s : System} {actions : List Action}

/-- A session that has taken no step is where it began. -/
theorem session_unmoved
    (played : Plays System.step anything (System.init name) actions s)
    {sid : SessionId}
    (unmoved : ∀ action ∈ actions, action.thread ≠ .session sid) :
    s.sessions sid = {} := by
  induction played with
  | nil => rfl
  | snoc played _ stepped induction =>
      have run : Runs anything name _ := played.reaches
      rw [System.session_other run.custody run.queue stepped
        (unmoved _ (by simp))]
      exact induction fun action member => unmoved action (by simp [member])

theorem System.outside_live {action : Action} {after : System}
    (outside : s.outside action) (stepped : s.step action = some after) :
    ∃ sid, action.thread = .session sid ∧ (s.sessions sid).phase ≠ .idle := by
  cases action with
  | connect sid turns =>
      obtain ⟨_, phase, _⟩ := System.connect_cases stepped
      exact ⟨sid, rfl, by simp [phase]⟩
  | begin sid requestLimit turns =>
      exact ⟨sid, rfl, by simp [(System.begin_cases stepped).1]⟩
  | content sid row now requestLimit turns =>
      exact ⟨sid, rfl, by simp [(System.content_cases stepped).1]⟩
  | deinit sid =>
      exact ⟨sid, rfl, by simp [(System.deinit_cases stepped).1]⟩
  | commit sid endReady requestLimit =>
      exact ⟨sid, rfl, by simp [(System.commit_cases stepped).1]⟩
  | commitTransaction sid turns =>
      obtain ⟨_, _, _, phase, _⟩ := System.commitTransaction_cases stepped
      exact ⟨sid, rfl, by simp [phase]⟩
  | _ => exact outside.elim

theorem movable (name : String) :
    Movable System.step (System.init name) Action.thread System.outside
      Alike := by
  constructor
  case refl => exact Alike.refl
  case trans => exact Alike.trans
  case repeats =>
    intro s t after action run alike stepped
    exact alike.step (Runs.custody run) (Runs.queue run) stepped
  case mover_alike => exact fun alike => alike.outside_iff _
  case moves =>
    intro s s₁ s₂ first second run
    exact System.moves (Runs.custody run) (Runs.queue run)
  case opened =>
    intro s after actions action played stepped outside
    obtain ⟨sid, isThread, notIdle⟩ := System.outside_live outside stepped
    by_contra none
    refine notIdle ?_
    rw [session_unmoved played]
    intro earlier member same
    exact none ⟨earlier, member, same.trans isThread.symm⟩

/-- In a gathered run `force_commit` runs in one piece. -/
def wholeCall (s : System) (action : Action) : Prop :=
  s.forcing ≠ none → action.thread = .administrator

theorem General.Gathered.wholeCalls
    (gathered : Gathered System.step (System.init name) Action.thread
      System.outside actions s) :
    Plays System.step wholeCall (System.init name) actions s ∧
      (s.forcing ≠ none →
        actions.getLast?.map Action.thread = some .administrator) := by
  induction gathered with
  | nil => exact ⟨.nil, fun held => absurd rfl held⟩
  | @snoc actions action before after gathered follows stepped induction =>
      obtain ⟨played, last⟩ := induction
      have whole : wholeCall before action := by
        intro held
        by_contra another
        have outside := System.outside_of_forcing another held stepped
        have same := (follows outside).symm.trans (last held)
        exact another (Option.some.inj same)
      refine ⟨played.snoc whole stepped, fun held => ?_⟩
      rw [List.getLast?_concat, Option.map_some, Option.some.injEq]
      by_contra another
      rw [System.forcing_session another stepped] at held
      exact another (whole held)

/-- Every run of a pool is one in which each call outside the mutex directly
follows a step of its own thread and `force_commit` runs in one piece, up to
the order in which the threads take turns. -/
theorem one_at_a_time
    (played : Plays System.step anything (System.init name) actions s) :
    ∃ reordered t,
      Gathered System.step (System.init name) Action.thread System.outside
        reordered t ∧
      Plays System.step wholeCall (System.init name) reordered t ∧
      Alike s t ∧
      ∀ thread, reordered.filter (·.thread = thread) =
        actions.filter (·.thread = thread) := by
  obtain ⟨reordered, t, gathered, alike, filters⟩ :=
    played.gathers (movable name)
  exact ⟨reordered, t, gathered, gathered.wholeCalls.1, alike,
    fun thread => filters _ (ordered_thread thread)⟩

end Runs

/-! ## `force_commit` as one operation -/

section Atomic

variable [QueryDecoding] [PassHash] [FrameBytes] {name : String}
variable {s t : System} {actions : List Action}

/-- The turns of the loop, each with the limit it reads and what its commit
meets. -/
def System.forceTurns (turns : List (Nat × CommitTurns)) (s : System) :
    Option System :=
  turns.foldlM (fun s turn => s.forceNext turn.1 turn.2) s

/-- `pool::force_commit` from the mutex it takes to the mutex it leaves. -/
def System.forceWhole (turns : List (Nat × CommitTurns)) (s : System) :
    Option System := do
  let s ← s.forceLock
  let s ← s.forceTurns turns
  s.forceUnlock

/-- What a pool does when `force_commit` is a single step. -/
inductive WholeCall where
  | session (action : Action) (other : action.thread ≠ .administrator)
  | forceCommit (turns : List (Nat × CommitTurns))

def System.stepWhole (s : System) : WholeCall → Option System
  | .session action _ => s.step action
  | .forceCommit turns => s.forceWhole turns

/-- The whole calls made so far, and the turns of one that is under way. -/
def UnderWay (name : String) (s : System) : Prop :=
  if s.forcing = none then
    Reaches System.stepWhole anything (System.init name) s
  else ∃ before locked turns,
    Reaches System.stepWhole anything (System.init name) before ∧
      before.forceLock = some locked ∧ locked.forceTurns turns = some s

theorem underWay
    (played : Plays System.step wholeCall (System.init name) actions s) :
    UnderWay name s := by
  induction played with
  | nil => exact .refl
  | @snoc actions action before after played whole stepped underWay =>
      by_cases unlocked : before.forcing = none
      · rw [UnderWay, if_pos unlocked] at underWay
        by_cases other : action.thread = .administrator
        · cases action with
          | forceLock =>
              obtain ⟨_, rfl⟩ := System.forceLock_cases stepped
              exact ⟨before, _, [], underWay, stepped, rfl⟩
          | forceNext poolSockets turns =>
              obtain ⟨_, _, forced, _⟩ := System.forceNext_cases stepped
              simp [unlocked] at forced
          | forceUnlock =>
              obtain ⟨_, forced, _⟩ := System.forceUnlock_cases stepped
              simp [unlocked] at forced
          | _ => cases other
        · rw [UnderWay, if_pos
            ((System.forcing_session other stepped).trans unlocked)]
          have same : before.stepWhole (.session action other) = some after :=
            stepped
          exact underWay.next trivial same
      · rw [UnderWay, if_neg unlocked] at underWay
        obtain ⟨first, locked, turns, reached, isLocked, turned⟩ := underWay
        have isAdministrator := whole unlocked
        cases action with
        | forceLock =>
            exact absurd (System.forceLock_cases stepped).1 unlocked
        | forceNext poolSockets next =>
            have longer : locked.forceTurns (turns ++ [(poolSockets, next)]) =
                some after := by
              rw [System.forceTurns] at turned
              simp only [System.forceTurns, List.foldlM_append, turned,
                List.foldlM_cons, List.foldlM_nil, bind_pure]
              exact stepped
            have still : after.forcing ≠ none := by
              obtain ⟨_, _, forced, _, ⟨_, rfl⟩ | ⟨_, _, _, _, rfl⟩⟩ :=
                System.forceNext_cases stepped <;> simp
            rw [UnderWay, if_neg still]
            exact ⟨first, locked, _, reached, isLocked, longer⟩
        | forceUnlock =>
            have whole : first.stepWhole (.forceCommit turns) = some after := by
              rw [System.stepWhole, System.forceWhole, isLocked,
                Option.bind_eq_bind, Option.bind_some, turned]
              exact stepped
            obtain ⟨_, _, _, rfl⟩ := System.forceUnlock_cases stepped
            exact reached.next trivial whole
        | _ => cases isAdministrator

/-- Whenever the mutex is free, a pool is in a state that it also reaches when
`force_commit` is a single step. -/
theorem force_commit_atomic (run : Runs anything name s)
    (unlocked : s.forcing = none) :
    ∃ t, Reaches System.stepWhole anything (System.init name) t ∧
      Alike s t := by
  obtain ⟨actions, played⟩ := Plays.ofReaches run
  obtain ⟨_, t, gathered, alike, _⟩ := played.gathers (movable name)
  have way := underWay gathered.wholeCalls.1
  rw [UnderWay, if_pos (alike.forcing.trans unlocked)] at way
  exact ⟨t, way, alike⟩

end Atomic

section Executed

open scoped Sample

instance (s : System) (action : Action) : Decidable (wholeCall s action) :=
  inferInstanceAs (Decidable (s.forcing ≠ none → _))

/-- A session ends its rows while `force_commit` is at work. -/
def meanwhile : List Action :=
  Sample.begins 1 ++ Sample.begins 2 ++
    [.deinit 2, .commit 2 false 100, .forceLock,
      .forceNext 8 (Sample.confirmed 0), .deinit 1,
      .forceNext 8 (Sample.confirmed 1), .forceUnlock]

theorem one_at_a_time_meanwhile :
    let s := final anything "pool" meanwhile
    (play wholeCall "pool" meanwhile).isNone ∧
      ∃ reordered t,
        Gathered System.step (System.init "pool") Action.thread
          System.outside reordered t ∧
        Plays System.step wholeCall (System.init "pool") reordered t ∧
        Alike s t ∧
        ∀ thread, reordered.filter (·.thread = thread) =
          meanwhile.filter (·.thread = thread) :=
  ⟨by decide +kernel, one_at_a_time (Plays.executed (by decide +kernel))⟩

theorem force_commit_atomic_meanwhile :
    let s := final anything "pool" meanwhile
    s.pool.ready = [1] ∧
      ∃ t, Reaches System.stepWhole anything (System.init "pool") t ∧
        Alike s t :=
  ⟨by decide +kernel,
    force_commit_atomic (runs_final (by decide +kernel)) (by decide +kernel)⟩

end Executed

end Capstomp
