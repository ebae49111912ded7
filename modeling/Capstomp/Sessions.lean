import Capstomp.ExactlyOnce

/-!
# The course of a session

The phases a session goes through (`Phase.Next`), and what one step of the pool
does to one session: it begins, sends a row, goes on to a next phase, or is
left as it was.
-/

namespace Capstomp

open General

/-- From one phase to the next, by another call than that of a row. -/
inductive Phase.Next : Phase → Phase → Prop
  | connect {uri : Uri} {phase : Phase}
      (leads : phase = .creating ∨ phase = .rows ∨ phase = .ending) :
      Next (.got uri) phase
  | create : Next .creating .beginning
  | begin {phase : Phase} (leads : phase = .rows ∨ phase = .ending) :
      Next .beginning phase
  | deinit : Next .rows .ending
  | plain : Next .ending .releasing
  | deferred : Next .ending .ended
  | batch (transaction : Transaction) (batch : List Transaction)
      (receipt : Bool) : Next .ending (.committing transaction batch receipt)
  | own (transaction : Transaction) (batch : List Transaction)
      (receipt : Bool) :
      Next (.committing transaction batch receipt)
        (System.afterBatch batch receipt)
  | other (transaction : Transaction) (batch : List Transaction)
      (receipt : Bool) :
      Next (.committing transaction batch receipt)
        (.returning transaction.connection batch receipt)
  | returned (connection : ConnId) (batch : List Transaction)
      (receipt : Bool) :
      Next (.returning connection batch receipt)
        (System.afterBatch batch receipt)
  | released : Next .releasing .ended

/-- One call of `capstomp_content`: its row, and the time it may stamp. -/
structure Call where
  row : Row
  now : Nat
  deriving DecidableEq, Repr

def Action.call (sid : SessionId) : Action → Option Call
  | .content other row now _ _ =>
      if other = sid then some { row := row, now := now } else none
  | _ => none

theorem Action.call_of_thread {action : Action} {sid : SessionId}
    (another : action.thread ≠ .session sid) : action.call sid = none := by
  cases action <;> simp_all [Action.thread, Action.call]

/-- What a step makes of a session. -/
inductive Course [QueryDecoding] [FrameBytes] (s : System) (sid : SessionId) :
    Action → System → Prop
  | still {action : Action} {after : System}
      (another : action.thread ≠ .session sid)
      (same : after.sessions sid = s.sessions sid) :
      Course s sid action after
  | refused {uri : Uri} {maxPoolSockets : Nat} :
      Course s sid (.get sid uri maxPoolSockets) s
  | goes {action : Action} {after : System} {phase : Phase}
      (noRow : action.call sid = none)
      (next : (s.sessions sid).phase.Next phase)
      (session : after.sessions sid =
        { s.sessions sid with phase := phase })
      (quiet : (s.sessions sid).phase = .rows →
        after.connections = s.connections)
      (creates : phase = .creating → (after.own sid).conf.transaction) :
      Course s sid action after
  | begins {uri : Uri} {maxPoolSockets : Nat} {obtained : Obtained}
      (idle : (s.sessions sid).phase = .idle)
      (got : s.pool.get maxPoolSockets s.nextConnection = .ok obtained) :
      Course s sid (.get sid uri maxPoolSockets) (s.handOver sid uri obtained)
  | row {row : Row} {now requestLimit : Nat} {turns : Exchange}
      {after : System} (phase : (s.sessions sid).phase = .rows)
      (session : after.sessions sid = { s.sessions sid with
        rows := (s.sessions sid).rows ++
          [(capstompContent row now requestLimit turns (s.own sid)).1] })
      (connection : after.own sid =
        (capstompContent row now requestLimit turns (s.own sid)).2) :
      Course s sid (.content sid row now requestLimit turns) after

section Steps

variable [QueryDecoding] [FrameBytes]
variable {s after : System} {action : Action} {sid other : SessionId}

/-- A step that takes its session to the next phase. -/
theorem Course.ofPhase {phase : Phase}
    (thread : action.thread = .session other)
    (noRow : action.call other = none)
    (next : (s.sessions other).phase.Next phase)
    (sessions : after.sessions = Function.update s.sessions other
      { s.sessions other with phase := phase })
    (quiet : (s.sessions other).phase = .rows →
      after.connections = s.connections)
    (creates : phase = .creating → (after.own other).conf.transaction) :
    Course s sid action after := by
  by_cases same : sid = other
  · subst same
    exact .goes noRow next (by rw [sessions, Function.update_self]) quiet
      creates
  · exact .still (by simpa [thread] using Ne.symm same)
      (by rw [sessions, Function.update_of_ne same])

variable [PassHash]

omit [QueryDecoding] [FrameBytes] [PassHash] in
theorem afterBatch_ne_creating (batch : List Transaction) (receipt : Bool) :
    System.afterBatch batch receipt ≠ .creating := by
  cases batch <;> simp [System.afterBatch]

theorem System.session_cases (stepped : s.step action = some after)
    (sid : SessionId) : Course s sid action after := by
  cases action with
  | get other uri maxPoolSockets =>
      obtain ⟨idle, _, rfl | ⟨obtained, got, rfl⟩⟩ := System.get_cases stepped
      · by_cases same : sid = other
        · subst same
          exact .refused
        · exact .still (by simpa [Action.thread] using Ne.symm same) rfl
      · by_cases same : sid = other
        · subst same
          exact .begins idle got
        · exact .still (by simpa [Action.thread] using Ne.symm same)
            (by simp [Function.update_of_ne same])
  | connect other turns =>
      obtain ⟨u, phase, ⟨c, _, rfl⟩ | ⟨_, c, _, rfl⟩⟩ :=
        System.connect_cases stepped <;>
        refine .ofPhase rfl rfl (phase ▸ .connect (by split <;> simp)) rfl
          (by simp [phase]) ?_
      · simp [own]
      · split <;> simp
  | createTransaction other =>
      obtain ⟨self, phase, _, _, rfl⟩ := System.createTransaction_cases stepped
      exact .ofPhase rfl rfl (phase ▸ .create) rfl (by simp [phase])
        (by simp)
  | begin other requestLimit turns =>
      obtain ⟨phase, ⟨c, _, rfl⟩ | ⟨_, c, _, rfl⟩⟩ :=
        System.begin_cases stepped
      · exact .ofPhase rfl rfl (phase ▸ .begin (.inl rfl)) rfl
          (by simp [phase]) (by simp)
      · exact .ofPhase rfl rfl (phase ▸ .begin (by split <;> simp)) rfl
          (by simp [phase]) (by split <;> simp)
  | content other row now requestLimit turns =>
      obtain ⟨phase, rfl⟩ := System.content_cases stepped
      by_cases same : sid = other
      · subst same
        exact .row phase (by simp) (by simp [System.own])
      · exact .still (by simpa [Action.thread] using Ne.symm same)
          (by simp [Function.update_of_ne same])
  | deinit other =>
      obtain ⟨phase, rfl⟩ := System.deinit_cases stepped
      exact .ofPhase rfl rfl (phase ▸ .deinit) rfl (fun _ => rfl) (by simp)
  | commit other endReady requestLimit =>
      obtain ⟨phase, ⟨_, rfl⟩ | ⟨_, batch, _, _, _, _, _, rfl⟩⟩ :=
        System.commit_cases stepped
      · exact .ofPhase rfl rfl (phase ▸ .plain) rfl (fun _ => rfl)
          (by simp)
      · refine .ofPhase rfl rfl (phase ▸ ?_) rfl (fun _ => rfl)
          (by split <;> simp [afterBatch_ne_creating])
        cases batch with
        | nil => exact .deferred
        | cons transaction batch => exact .batch _ _ _
  | commitTransaction other turns =>
      obtain ⟨transaction, batch, receipt, phase, rfl⟩ :=
        System.commitTransaction_cases stepped
      refine .ofPhase rfl rfl (phase ▸ ?_) rfl (by simp [phase])
        (by split <;> simp [afterBatch_ne_creating])
      split
      · exact .own _ _ _
      · exact .other _ _ _
  | releaseDeferred other poolSockets =>
      obtain ⟨c, batch, receipt, phase, _, rfl⟩ :=
        System.releaseDeferred_cases stepped
      exact .ofPhase rfl rfl (phase ▸ .returned _ _ _) rfl (by simp [phase])
        fun impossible => absurd impossible (afterBatch_ne_creating _ _)
  | release other requestLimit poolSockets =>
      obtain ⟨self, phase, _, _, rfl⟩ := System.release_cases stepped
      exact .ofPhase rfl rfl (phase ▸ .released) rfl (by simp [phase])
        (by simp)
  | forceLock =>
      obtain ⟨_, rfl⟩ := System.forceLock_cases stepped
      exact .still (by simp [Action.thread]) rfl
  | forceNext poolSockets turns =>
      obtain ⟨_, _, _, _, ⟨_, rfl⟩ | ⟨_, _, _, _, rfl⟩⟩ :=
        System.forceNext_cases stepped <;>
        exact .still (by simp [Action.thread]) rfl
  | forceUnlock =>
      obtain ⟨_, _, _, rfl⟩ := System.forceUnlock_cases stepped
      exact .still (by simp [Action.thread]) rfl

end Steps

end Capstomp
