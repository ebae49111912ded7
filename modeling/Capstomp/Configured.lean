import Capstomp.Reachable
import Capstomp.Writing

/-!
# The settings of a session

`pool::get` gives a connection the settings of the session it is handed to,
and no other step changes the settings of any connection.  A session that is
under way therefore finds its own settings on its connection.
-/

namespace Capstomp

open General

variable {s after : System} {sid : SessionId}

/-- The step hands out no connection: every connection keeps its settings, and
every session its connection and its settings. -/
structure KeepsSettings (s after : System) : Prop where
  conf : ∀ y, (after.connections y).conf = (s.connections y).conf
  connection : ∀ sid,
    (after.sessions sid).connection = (s.sessions sid).connection
  settings : ∀ sid, (after.sessions sid).conf = (s.sessions sid).conf
  begun : ∀ sid, (after.sessions sid).phase ≠ .idle →
    (s.sessions sid).phase ≠ .idle
  unended : ∀ sid, (after.sessions sid).phase ≠ .ended →
    (s.sessions sid).phase ≠ .ended

namespace KeepsSettings

theorem refl (s : System) : KeepsSettings s s :=
  ⟨fun _ => rfl, fun _ => rfl, fun _ => rfl, fun _ busy => busy,
    fun _ busy => busy⟩

/-- The connections change by their I/O, their links and their counters. -/
theorem ofConnections
    (conf : ∀ y, (after.connections y).conf = (s.connections y).conf)
    (sessions : after.sessions = s.sessions) : KeepsSettings s after := by
  constructor
  · exact conf
  all_goals
    intro sid
    rw [sessions]
  all_goals
    intro busy
    exact busy

theorem conf_update {x : ConnId} {c : Connection}
    (same : c.conf = (s.connections x).conf)
    (connections : after.connections = Function.update s.connections x c) :
    ∀ y, (after.connections y).conf = (s.connections y).conf := by
  rw [connections, Function.forall_update_iff s.connections
    fun y c => c.conf = (s.connections y).conf]
  exact ⟨same, fun _ _ => rfl⟩

/-- One session goes on, on the connection it has. -/
theorem ofSession {session : Session}
    (conf : ∀ y, (after.connections y).conf = (s.connections y).conf)
    (sessions : after.sessions = Function.update s.sessions sid session)
    (connection : session.connection = (s.sessions sid).connection)
    (settings : session.conf = (s.sessions sid).conf)
    (begun : (s.sessions sid).phase ≠ .idle)
    (unended : (s.sessions sid).phase ≠ .ended) : KeepsSettings s after := by
  constructor
  · exact conf
  all_goals
    intro other
    rw [sessions]
    by_cases same : other = sid
    · subst same
      rw [Function.update_self]
      first
        | assumption
        | exact fun _ => begun
        | exact fun _ => unended
    · rw [Function.update_of_ne same]
      first
        | done
        | exact id

end KeepsSettings

/-- The connection of a session under way has the settings of the session. -/
def System.Configured (s : System) : Prop :=
  ∀ sid, (s.sessions sid).phase ≠ .idle → (s.sessions sid).phase ≠ .ended →
    (s.own sid).conf = (s.sessions sid).conf

theorem System.Configured.keep (configured : s.Configured)
    (keeps : KeepsSettings s after) : after.Configured := by
  intro sid begun unended
  have before := configured sid (keeps.begun sid begun)
    (keeps.unended sid unended)
  rw [System.own, keeps.connection, keeps.conf, keeps.settings]
  exact before

theorem conf_releaseConnection (poolSockets : Nat) (id : ConnId) :
    ∀ y, ((s.releaseConnection poolSockets id).connections y).conf =
      (s.connections y).conf := by
  apply KeepsSettings.conf_update ?_
    (System.releaseConnection_connections poolSockets id s)
  split <;> rfl

variable [QueryDecoding]

theorem configured_handOver (custody : Custody s)
    (configured : s.Configured) {uri : Uri} {maxPoolSockets : Nat}
    {obtained : Obtained}
    (got : s.pool.get maxPoolSockets s.nextConnection = .ok obtained) :
    (s.handOver sid uri obtained).Configured := by
  intro other begun unended
  by_cases same : other = sid
  · subst same
    simp [System.own, Connection.handedOver, Connection.init]
  · simp only [System.handOver_sessions, Function.update_of_ne same]
      at begun unended
    have different := custody.obtained_not_own got begun unended
    simpa [System.own, Function.update_of_ne same,
      Function.update_of_ne different] using configured other begun unended

variable [PassHash] [FrameBytes]

/-- Only `pool::get` hands out a connection. -/
theorem step_settings {action : Action}
    (stepped : s.step action = some after) :
    KeepsSettings s after ∨
      ∃ sid uri maxPoolSockets obtained,
        action = .get sid uri maxPoolSockets ∧
        s.pool.get maxPoolSockets s.nextConnection = .ok obtained ∧
        after = s.handOver sid uri obtained := by
  cases action with
  | get sid uri maxPoolSockets =>
      obtain ⟨_, _, rfl | ⟨obtained, got, rfl⟩⟩ := System.get_cases stepped
      · exact .inl (.refl after)
      · exact .inr ⟨sid, uri, maxPoolSockets, obtained, rfl, got, rfl⟩
  | connect sid turns =>
      left
      obtain ⟨u, phase, outcome⟩ := System.connect_cases stepped
      have same := (connect_sameHandle u turns (s.own sid)).conf
      rcases outcome with ⟨c, returned, rfl⟩ | ⟨_, c, thrown, rfl⟩
      · rw [returned] at same
        exact .ofSession (KeepsSettings.conf_update same rfl) rfl rfl rfl
          (by simp [phase]) (by simp [phase])
      · rw [thrown] at same
        exact .ofSession (KeepsSettings.conf_update (c := c.close) same rfl)
          rfl rfl rfl (by simp [phase]) (by simp [phase])
  | createTransaction sid =>
      left
      obtain ⟨self, phase, _, _, rfl⟩ := System.createTransaction_cases stepped
      refine .ofSession (KeepsSettings.conf_update
        (c := (s.own sid).setTransaction _ _) rfl rfl) rfl rfl rfl ?_ ?_ <;>
        simp [phase]
  | begin sid requestLimit turns =>
      left
      obtain ⟨phase, outcome⟩ := System.begin_cases stepped
      have same := (sendBegin_mayWrite requestLimit turns (s.own sid)).conf
      rcases outcome with ⟨c, returned, rfl⟩ | ⟨_, c, thrown, rfl⟩
      · rw [returned] at same
        exact .ofSession (KeepsSettings.conf_update same rfl) rfl rfl rfl
          (by simp [phase]) (by simp [phase])
      · rw [thrown] at same
        exact .ofSession (KeepsSettings.conf_update (c := c.close) same rfl)
          rfl rfl rfl (by simp [phase]) (by simp [phase])
  | content sid row now requestLimit turns =>
      left
      obtain ⟨phase, rfl⟩ := System.content_cases stepped
      have same := (capstompContent_continues row now requestLimit turns
        (s.own sid)).conf
      exact .ofSession (KeepsSettings.conf_update same rfl) rfl rfl rfl
        (by simp [phase]) (by simp [phase])
  | deinit sid =>
      left
      obtain ⟨phase, rfl⟩ := System.deinit_cases stepped
      exact .ofSession (fun _ => rfl) rfl rfl rfl (by simp [phase])
        (by simp [phase])
  | commit sid endReady requestLimit =>
      left
      obtain ⟨phase, ⟨_, rfl⟩ | ⟨_, _, _, _, _, _, _, rfl⟩⟩ :=
        System.commit_cases stepped <;>
        exact .ofSession (fun _ => rfl) rfl rfl rfl (by simp [phase])
          (by simp [phase])
  | commitTransaction sid turns =>
      left
      obtain ⟨transaction, batch, receipt, phase, rfl⟩ :=
        System.commitTransaction_cases stepped
      have same := (commitTransaction_continues transaction.id receipt turns
        (s.connections transaction.connection)).conf
      exact .ofSession (KeepsSettings.conf_update same rfl) rfl rfl rfl
        (by simp [phase]) (by simp [phase])
  | releaseDeferred sid poolSockets =>
      left
      obtain ⟨c, batch, receipt, phase, _, rfl⟩ :=
        System.releaseDeferred_cases stepped
      exact .ofSession (conf_releaseConnection poolSockets c) rfl rfl rfl
        (by simp [phase]) (by simp [phase])
  | release sid requestLimit poolSockets =>
      left
      obtain ⟨self, phase, _, _, rfl⟩ := System.release_cases stepped
      refine .ofSession ?_ rfl rfl rfl (by simp [phase]) (by simp [phase])
      intro y
      have released := conf_releaseConnection
        (s := s.setConnection (s.sessions sid).connection
          ((s.own sid).release requestLimit)) poolSockets self y
      exact released.trans (KeepsSettings.conf_update
        (c := (s.own sid).release requestLimit) rfl rfl y)
  | forceLock =>
      left
      obtain ⟨_, rfl⟩ := System.forceLock_cases stepped
      exact .ofConnections (fun _ => rfl) rfl
  | forceNext poolSockets turns =>
      left
      obtain ⟨forcing, transaction, _, _, ⟨_, rfl⟩ | ⟨pointed, _, _, _, rfl⟩⟩ :=
        System.forceNext_cases stepped
      · exact .ofConnections (fun _ => rfl) rfl
      · have same := (commitTransaction_continues pointed.id true turns
          (s.connections pointed.connection)).conf
        refine .ofConnections ?_ rfl
        intro y
        have released := conf_releaseConnection
          (s := s.attempt pointed true turns) poolSockets
          transaction.connection y
        exact released.trans (KeepsSettings.conf_update same rfl y)
  | forceUnlock =>
      left
      obtain ⟨_, _, _, rfl⟩ := System.forceUnlock_cases stepped
      exact .ofConnections (fun _ => rfl) rfl

theorem Runs.configured {allowed : System → Action → Prop} {name : String}
    (run : Runs allowed name s) : s.Configured := by
  refine Reaches.invariant run ?_ ?_
  · intro sid begun
    exact absurd rfl begun
  · intro s action after reached configured _ stepped
    rcases step_settings stepped with
      keeps | ⟨sid, uri, maxPoolSockets, obtained, _, got, rfl⟩
    · exact configured.keep keeps
    · exact configured_handOver (Runs.custody reached) configured got

end Capstomp
