import Capstomp.Ledger

/-!
# Exactly once

Every transaction is taken out of the store at most once and committed at most
once, on its own connection; a connection that is handed out is released at
most once, after the commit of what was begun on it; and no two threads use
one connection.
-/

namespace Capstomp

open General

/-- Who acts on the connections of a pool. -/
inductive Thread where
  | session (sid : SessionId)
  | administrator
  deriving DecidableEq

/-- The thread that takes a step. -/
def Action.thread : Action → Thread
  | .get sid _ _ | .connect sid _ | .createTransaction sid | .begin sid _ _
  | .content sid _ _ _ _ | .deinit sid | .commit sid _ _
  | .commitTransaction sid _ | .releaseDeferred sid _ | .release sid _ _ =>
      .session sid
  | .forceLock | .forceNext _ _ | .forceUnlock => .administrator

/-- A session uses what it holds, from the call that hands a connection out to
the one that gives it up; `force_commit` uses the connection of the ready
transaction it stands at. -/
def System.Uses (s : System) : Thread → ConnId → Prop
  | .session sid, c => c ∈ (s.sessions sid).held
  | .administrator, c => ∃ forcing transaction,
      s.forcing = some forcing ∧
        s.pool.transactionStore[forcing.position]? = some transaction ∧
        transaction.ready ∧ transaction.connection = c

variable {s after : System}

/-- Where the connections are that a thread uses. -/
def Thread.place : Thread → Place
  | .session sid => .session sid
  | .administrator => .deferred

theorem System.Uses.mem_places {thread : Thread} {c : ConnId}
    (uses : s.Uses thread c) : c ∈ s.places thread.place := by
  cases thread with
  | session sid => exact uses
  | administrator =>
      obtain ⟨forcing, transaction, _, located, ready, rfl⟩ := uses
      exact Custody.place_of_ready (List.mem_of_getElem? located) ready

theorem Custody.uses_unique (custody : Custody s) {first second : Thread}
    {c : ConnId} (one : s.Uses first c) (two : s.Uses second c) :
    first = second := by
  have same : second.place = first.place :=
    custody.only one.mem_places two.mem_places
  cases first <;> cases second <;> cases same <;> rfl

section Locality

variable [QueryDecoding] [PassHash] [FrameBytes]

/-- A thread changes only a connection it uses, or is being given. -/
theorem System.step_local (custody : Custody s) (queue : Queue s)
    {action : Action} (stepped : s.step action = some after) {c : ConnId}
    (changed : after.connections c ≠ s.connections c) :
    s.Uses action.thread c ∨ after.Uses action.thread c := by
  have own : ∀ {sid}, (s.sessions sid).phase ≠ .idle →
      (s.sessions sid).phase ≠ .ended →
        s.Uses (.session sid) (s.sessions sid).connection :=
    fun notIdle notEnded => Session.own_mem_held notIdle notEnded
  have onlyAt : ∀ {x new}, after.connections =
      Function.update s.connections x new → c = x := by
    intro x new connections
    apply Classical.byContradiction
    intro different
    exact changed (by rw [connections, Function.update_of_ne different])
  cases action with
  | get sid uri maxPoolSockets =>
      obtain ⟨idle, _, rfl | ⟨obtained, got, rfl⟩⟩ := System.get_cases stepped
      · exact absurd rfl changed
      · rw [onlyAt (System.handOver_connections _ _ _ _)]
        refine .inr ?_
        simp [Uses, Action.thread, Session.held]
  | connect sid turns =>
      obtain ⟨uri, phase, ⟨_, _, rfl⟩ | ⟨_, _, _, rfl⟩⟩ :=
        System.connect_cases stepped
      all_goals
        rw [onlyAt rfl]
        exact .inl (own (by simp [phase]) (by simp [phase]))
  | createTransaction sid =>
      obtain ⟨self, phase, _, _, rfl⟩ := System.createTransaction_cases stepped
      rw [onlyAt rfl]
      exact .inl (own (by simp [phase]) (by simp [phase]))
  | begin sid requestLimit turns =>
      obtain ⟨phase, ⟨_, _, rfl⟩ | ⟨_, _, _, rfl⟩⟩ :=
        System.begin_cases stepped
      all_goals
        rw [onlyAt rfl]
        exact .inl (own (by simp [phase]) (by simp [phase]))
  | content sid row now requestLimit turns =>
      obtain ⟨phase, rfl⟩ := System.content_cases stepped
      rw [onlyAt rfl]
      exact .inl (own (by simp [phase]) (by simp [phase]))
  | deinit sid =>
      obtain ⟨_, rfl⟩ := System.deinit_cases stepped
      exact absurd rfl changed
  | commit sid endReady requestLimit =>
      obtain ⟨_, ⟨_, rfl⟩ | ⟨_, _, _, _, _, _, _, rfl⟩⟩ :=
        System.commit_cases stepped <;>
        exact absurd rfl changed
  | commitTransaction sid turns =>
      obtain ⟨transaction, batch, receipt, committing, rfl⟩ :=
        System.commitTransaction_cases stepped
      rw [onlyAt rfl]
      exact .inl (Custody.place_of_batch
        (by simp [committing, Phase.batch]))
  | releaseDeferred sid poolSockets =>
      obtain ⟨x, batch, receipt, returning, _, rfl⟩ :=
        System.releaseDeferred_cases stepped
      rw [onlyAt rfl]
      refine .inl ?_
      simp [Uses, Action.thread, Session.held, returning]
  | release sid requestLimit poolSockets =>
      obtain ⟨self, releasing, isSelf, _, rfl⟩ := System.release_cases stepped
      have isOwn :=
        custody.self_eq (by simp [releasing]) (by simp [releasing]) isSelf
      subst isOwn
      refine .inl ?_
      by_cases same : c = (s.sessions sid).connection
      · rw [same]
        exact own (by simp [releasing]) (by simp [releasing])
      · exact absurd (by simp [Function.update_of_ne same]) changed
  | forceLock =>
      obtain ⟨_, rfl⟩ := System.forceLock_cases stepped
      exact absurd rfl changed
  | forceNext poolSockets turns =>
      obtain ⟨forcing, transaction, forced, located,
        ⟨_, rfl⟩ | ⟨pointed, ready, found, _, rfl⟩⟩ :=
        System.forceNext_cases stepped
      · exact absurd rfl changed
      · have same := custody.pointed_eq queue.distinct
          (List.mem_of_getElem? located) found
        subst same
        refine .inl ⟨forcing, pointed, forced, located, ready, ?_⟩
        apply Classical.byContradiction
        intro different
        exact changed
          (by simp [Function.update_of_ne (Ne.symm different)])
  | forceUnlock =>
      obtain ⟨_, _, _, rfl⟩ := System.forceUnlock_cases stepped
      exact absurd rfl changed

variable {allowed : System → Action → Prop} {name : String}

/-- Exactly-once commit and release, and exclusive use. -/
theorem exactly_once (run : Runs anything name s) :
    EachTime Proper s.trace ∧
      (∀ first second c, s.Uses first c → s.Uses second c →
        first = second) ∧
      ∀ action after c, s.step action = some after →
        after.connections c ≠ s.connections c →
          s.Uses action.thread c ∨ after.Uses action.thread c :=
  ⟨run.ledger.proper,
    fun _ _ _ one two => run.custody.uses_unique one two,
    fun _ _ _ stepped changed =>
      System.step_local run.custody run.queue stepped changed⟩

end Locality

section Executed

open scoped Sample

/-- The first session commits for the second one and releases both
connections; the transaction of a third one is forced. -/
def handing : List Action :=
  Sample.begins 1 ++ Sample.begins 2 ++
    [.deinit 2, .commit 2 false 100, .deinit 1, .commit 1 false 100,
      .commitTransaction 1 (Sample.confirmed 0),
      .commitTransaction 1 (Sample.confirmed 0),
      .releaseDeferred 1 8, .release 1 100 8] ++
    Sample.begins 3 ++ Sample.begins 4 ++
    [.deinit 4, .commit 4 false 100, .forceLock,
      .forceNext 8 (Sample.confirmed 0), .forceNext 8 (Sample.confirmed 1)]

theorem exactly_once_handing :
    let s := final anything "pool" handing
    s.trace.drop 4 =
        [.taken 1, .taken 2, .attempted 1 0 true, .attempted 2 1 true,
          .released 1 true, .released 0 true, .got 3 0, .created 3 3 0,
          .got 4 1, .created 4 4 1, .attempted 4 1 true, .released 1 true,
          .taken 4] ∧
      EachTime Proper s.trace ∧
      (∀ first second c, s.Uses first c → s.Uses second c →
        first = second) ∧
      ∀ action after c, s.step action = some after →
        after.connections c ≠ s.connections c →
          s.Uses action.thread c ∨ after.Uses action.thread c :=
  ⟨by decide +kernel, exactly_once (runs_final (by decide +kernel))⟩

end Executed

end Capstomp
