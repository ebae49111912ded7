import Capstomp.EveryConnection
import Capstomp.ExactlyOnce

/-!
# Steps side by side

A step of a thread reads the pool, its session and the connections it uses.
Where two states agree in these, the step does the same in both and leaves
the rest of each of them alone.
-/

namespace Capstomp

open General

/-- The two states agree but for these connections and sessions, and for what
was recorded. -/
structure Apart (cs : Set ConnId) (sids : Set SessionId) (s t : System) :
    Prop where
  pool : t.pool = s.pool
  nextConnection : t.nextConnection = s.nextConnection
  forcing : t.forcing = s.forcing
  connections : ∀ c, c ∉ cs → t.connections c = s.connections c
  sessions : ∀ sid, sid ∉ sids → t.sessions sid = s.sessions sid

/-- From `s` and `t` the same was done, which agree where they differ but for
what was there before. -/
structure Along (cs : Set ConnId) (sids : Set SessionId)
    (s t after beside : System) : Prop where
  apart : Apart cs sids after beside
  connections : ∀ c ∈ cs, beside.connections c = t.connections c
  sessions : ∀ sid ∈ sids, beside.sessions sid = t.sessions sid
  record : ∃ events, after.trace = s.trace ++ events ∧
    beside.trace = t.trace ++ events

namespace Along

variable {cs : Set ConnId} {sids : Set SessionId}
variable {s t after beside : System}

theorem refl (apart : Apart cs sids s t) : Along cs sids s t s t :=
  ⟨apart, fun _ _ => rfl, fun _ _ => rfl, [], by simp, by simp⟩

theorem connection_eq (along : Along cs sids s t after beside)
    {c : ConnId} (away : c ∉ cs) :
    beside.connections c = after.connections c :=
  along.apart.connections c away

theorem session_eq (along : Along cs sids s t after beside)
    {sid : SessionId} (away : sid ∉ sids) :
    beside.sessions sid = after.sessions sid :=
  along.apart.sessions sid away

theorem own_eq (along : Along cs sids s t after beside)
    {sid : SessionId} (away : sid ∉ sids)
    (ownAway : (after.sessions sid).connection ∉ cs) :
    beside.own sid = after.own sid := by
  rw [System.own, along.session_eq away, along.connection_eq ownAway,
    System.own]

theorem setConnection (along : Along cs sids s t after beside)
    {c : ConnId} (away : c ∉ cs) (new : Connection) :
    Along cs sids s t (after.setConnection c new)
      (beside.setConnection c new) := by
  constructor
  · constructor
    case connections =>
      intro x notHidden
      simp only [System.setConnection_connections, Function.update_apply]
      rw [along.connection_eq notHidden]
    case sessions => exact along.apart.sessions
    all_goals first
      | exact along.apart.pool
      | exact along.apart.nextConnection
      | exact along.apart.forcing
  · intro x hidden
    have other : x ≠ c := fun same => away (same ▸ hidden)
    simp only [System.setConnection_connections, Function.update_of_ne other]
    exact along.connections x hidden
  · exact along.sessions
  · exact along.record

theorem setSession (along : Along cs sids s t after beside)
    {sid : SessionId} (away : sid ∉ sids)
    (session : Session) :
    Along cs sids s t (after.setSession sid session)
      (beside.setSession sid session) := by
  constructor
  · constructor
    case sessions =>
      intro x notHidden
      simp only [System.setSession_sessions, Function.update_apply]
      rw [along.session_eq notHidden]
    case connections => exact along.apart.connections
    all_goals first
      | exact along.apart.pool
      | exact along.apart.nextConnection
      | exact along.apart.forcing
  · exact along.connections
  · intro x hidden
    have other : x ≠ sid := fun same => away (same ▸ hidden)
    simp only [System.setSession_sessions, Function.update_of_ne other]
    exact along.sessions x hidden
  · exact along.record

theorem setPhase (along : Along cs sids s t after beside)
    {sid : SessionId} (away : sid ∉ sids) (phase : Phase) :
    Along cs sids s t (after.setPhase sid phase)
      (beside.setPhase sid phase) := by
  rw [System.setPhase, System.setPhase, along.session_eq away]
  exact along.setSession away _

theorem recorded (along : Along cs sids s t after beside)
    (events : List Event) :
    Along cs sids s t (after.record events) (beside.record events) := by
  constructor
  · exact ⟨along.apart.pool, along.apart.nextConnection,
      along.apart.forcing, along.apart.connections, along.apart.sessions⟩
  · exact along.connections
  · exact along.sessions
  · obtain ⟨before, one, two⟩ := along.record
    exact ⟨before ++ events, by simp [one], by simp [two]⟩

theorem setPool (along : Along cs sids s t after beside) (pool : Pool)
    (forcing : Option Forcing) :
    Along cs sids s t { after with pool := pool, forcing := forcing }
      { beside with pool := pool, forcing := forcing } :=
  ⟨⟨rfl, along.apart.nextConnection, rfl, along.apart.connections,
    along.apart.sessions⟩, along.connections, along.sessions, along.record⟩

theorem setNext (along : Along cs sids s t after beside) (next : ConnId) :
    Along cs sids s t { after with nextConnection := next }
      { beside with nextConnection := next } :=
  ⟨⟨along.apart.pool, rfl, along.apart.forcing, along.apart.connections,
    along.apart.sessions⟩, along.connections, along.sessions, along.record⟩

theorem releaseConnection (along : Along cs sids s t after beside)
    (poolSockets : Nat) {c : ConnId} (away : c ∉ cs) :
    Along cs sids s t (after.releaseConnection poolSockets c)
      (beside.releaseConnection poolSockets c) := by
  have pool := along.setPool
    (after.pool.releaseConnection poolSockets (after.connections c).good c)
    after.forcing
  have released := (pool.setConnection away
    (if after.pool.parks poolSockets (after.connections c).good
      then (after.connections c).setSelf c
      else (after.connections c).close)).recorded
    [.released c (decide (c ∈ after.pool.active))]
  rw [System.releaseConnection, System.releaseConnection,
    along.connection_eq away]
  simpa [along.apart.pool, along.apart.forcing] using released

theorem attempt [FrameBytes]
    (along : Along cs sids s t after beside)
    {transaction : Transaction} (receipt : Bool)
    (turns : CommitTurns) (away : transaction.connection ∉ cs) :
    Along cs sids s t (after.attempt transaction receipt turns)
      (beside.attempt transaction receipt turns) := by
  rw [System.attempt, System.attempt, along.connection_eq away]
  exact (along.setConnection away _).recorded _

theorem initFailed (along : Along cs sids s t after beside)
    {sid : SessionId} (away : sid ∉ sids)
    (ownAway : (after.sessions sid).connection ∉ cs) (c : Connection) :
    Along cs sids s t (after.initFailed sid c) (beside.initFailed sid c) := by
  rw [System.initFailed, System.initFailed, along.session_eq away]
  exact (along.setConnection ownAway _).setPhase away _

theorem handOver [QueryDecoding]
    (along : Along cs sids s t after beside)
    {sid : SessionId} (away : sid ∉ sids)
    (uri : Uri) (obtained : Obtained)
    (obtainedAway : obtained.connection ∉ cs) :
    Along cs sids s t (after.handOver sid uri obtained)
      (beside.handOver sid uri obtained) := by
  rw [System.handOver, System.handOver, along.connection_eq obtainedAway,
    along.apart.nextConnection]
  have pool := (along.setPool obtained.pool after.forcing).setNext
    (if obtained.created then after.nextConnection + 1
      else after.nextConnection)
  have handed := ((pool.setConnection obtainedAway
    ((if obtained.created then {}
      else after.connections obtained.connection).handedOver
        obtained.connection (Settings.create uri.query) sid)).setSession away
    { phase := .got uri, connection := obtained.connection,
      conf := Settings.create uri.query }).recorded
    [.got sid obtained.connection]
  simpa [along.apart.forcing] using handed

theorem forceCommit [FrameBytes]
    (along : Along cs sids s t after beside) (poolSockets : Nat)
    (turns : CommitTurns) (forcing : Forcing) {transaction : Transaction}
    (away : transaction.connection ∉ cs) :
    Along cs sids s t
      (after.forceCommit poolSockets turns forcing transaction transaction)
      (beside.forceCommit poolSockets turns forcing transaction
        transaction) := by
  have released :=
    (along.attempt true turns away).releaseConnection poolSockets away
  have erased := released.setPool
    (((after.attempt transaction true turns).releaseConnection poolSockets
      transaction.connection).pool.eraseTransaction forcing.position)
    (some forcing.committed)
  rw [System.forceCommit, System.forceCommit, released.apart.pool]
  exact erased.recorded [.taken transaction.node]

end Along

section Steps

variable [QueryDecoding] [PassHash] [FrameBytes]
variable {cs : Set ConnId} {sids : Set SessionId}
variable {s t after : System} {action : Action}

/-- A thread that uses nothing of what differs takes the same step in both
states. -/
theorem Apart.step (custody : Custody s) (queue : Queue s)
    (apart : Apart cs sids s t) (stepped : s.step action = some after)
    (notUsed : ∀ c ∈ cs, ¬ s.Uses action.thread c ∧
      ¬ after.Uses action.thread c)
    (notOne : ∀ sid ∈ sids, action.thread ≠ .session sid) :
    ∃ beside, t.step action = some beside ∧
      Along cs sids s t after beside := by
  have along := Along.refl apart
  have away : ∀ {sid}, action.thread = .session sid → sid ∉ sids :=
    fun isThread hidden => notOne _ hidden isThread
  have heldAway : ∀ {sid c}, action.thread = .session sid →
      c ∈ (s.sessions sid).held → c ∉ cs := by
    intro sid c isThread held hidden
    have free := (notUsed c hidden).1
    rw [isThread] at free
    exact free held
  have ownAway : ∀ {sid}, action.thread = .session sid →
      (s.sessions sid).phase ≠ .idle → (s.sessions sid).phase ≠ .ended →
        (s.sessions sid).connection ∉ cs :=
    fun isThread notIdle notEnded =>
      heldAway isThread (Session.own_mem_held notIdle notEnded)
  cases action with
  | get sid uri maxPoolSockets =>
      obtain ⟨idle, unlocked, _⟩ := System.get_cases stepped
      have session := along.session_eq (away rfl)
      cases got : s.pool.get maxPoolSockets s.nextConnection with
      | error error =>
          simp only [System.step, System.get, System.locked, idle, unlocked,
            got, if_true, Option.some.injEq] at stepped
          subst stepped
          exact ⟨t, by simp [System.step, System.get, System.locked, session,
            idle, apart.forcing, unlocked, apart.pool, apart.nextConnection,
            got], along⟩
      | ok obtained =>
          simp only [System.step, System.get, System.locked, idle, unlocked,
            got, if_true, Option.some.injEq] at stepped
          subst stepped
          have obtainedAway : obtained.connection ∉ cs := by
            intro hidden
            refine (notUsed _ hidden).2 ?_
            simp [System.Uses, Action.thread, Session.held]
          have next := along.handOver (away rfl) uri obtained obtainedAway
          exact ⟨_, by simp [System.step, System.get, System.locked, session,
            idle, apart.forcing, unlocked, apart.pool, apart.nextConnection,
            got], next⟩
  | connect sid turns =>
      obtain ⟨uri, phase, outcome⟩ := System.connect_cases stepped
      have session := along.session_eq (away rfl)
      have ownHere := ownAway rfl (by simp [phase]) (by simp [phase])
      have own := along.own_eq (away rfl) ownHere
      rcases outcome with ⟨c, result, rfl⟩ | ⟨error, c, result, rfl⟩
      · have next := (along.setConnection ownHere c).setPhase (away rfl)
          (if c.conf.transaction then .creating else .rows)
        exact ⟨_, by simp [System.step, System.connect, session, phase, own,
          result], next⟩
      · have next := along.initFailed (away rfl) ownHere c
        exact ⟨_, by simp [System.step, System.connect, session, phase, own,
          result], next⟩
  | createTransaction sid =>
      obtain ⟨self, phase, isSelf, unlocked, rfl⟩ :=
        System.createTransaction_cases stepped
      have session := along.session_eq (away rfl)
      have ownHere := ownAway rfl (by simp [phase]) (by simp [phase])
      have own := along.own_eq (away rfl) ownHere
      have pool := along.setPool (s.pool.createTransaction self) s.forcing
      have next := ((pool.setConnection ownHere
        ((s.own sid).setTransaction (s.pool.newTransaction self).node
          (s.pool.newTransaction self).id)).setPhase (away rfl)
          .beginning).recorded
        [.created sid (s.pool.newTransaction self).node self]
      exact ⟨_, by simp [System.step, System.createTransaction, System.locked,
        session, phase, own, isSelf, apart.forcing, unlocked, apart.pool,
        apart.nextConnection], next⟩
  | begin sid requestLimit turns =>
      obtain ⟨phase, outcome⟩ := System.begin_cases stepped
      have session := along.session_eq (away rfl)
      have ownHere := ownAway rfl (by simp [phase]) (by simp [phase])
      have own := along.own_eq (away rfl) ownHere
      rcases outcome with ⟨c, result, rfl⟩ | ⟨error, c, result, rfl⟩
      · have next := (along.setConnection ownHere c).setPhase (away rfl) .rows
        exact ⟨_, by simp [System.step, System.begin, session, phase, own,
          result], next⟩
      · have next := along.initFailed (away rfl) ownHere c
        exact ⟨_, by simp [System.step, System.begin, session, phase, own,
          result], next⟩
  | content sid row now requestLimit turns =>
      obtain ⟨phase, rfl⟩ := System.content_cases stepped
      have session := along.session_eq (away rfl)
      have ownHere := ownAway rfl (by simp [phase]) (by simp [phase])
      have own := along.own_eq (away rfl) ownHere
      have next := (along.setConnection ownHere
        (capstompContent row now requestLimit turns (s.own sid)).2).setSession
          (away rfl) { s.sessions sid with
            rows := (s.sessions sid).rows ++
              [(capstompContent row now requestLimit turns
                (s.own sid)).1] }
      exact ⟨_, by simp [System.step, System.content, session, phase, own],
        next⟩
  | deinit sid =>
      obtain ⟨phase, rfl⟩ := System.deinit_cases stepped
      have session := along.session_eq (away rfl)
      exact ⟨_, by simp [System.step, System.deinit, session, phase],
        along.setPhase (away rfl) .ending⟩
  | commit sid endReady requestLimit =>
      obtain ⟨phase, outcome⟩ := System.commit_cases stepped
      have session := along.session_eq (away rfl)
      have ownHere := ownAway rfl (by simp [phase]) (by simp [phase])
      have own := along.own_eq (away rfl) ownHere
      rcases outcome with ⟨without, rfl⟩ |
        ⟨node, batch, pool, begun, isNode, unlocked, taken, rfl⟩
      · exact ⟨_, by simp [System.step, System.commit, session, phase, own,
          without], along.setPhase (away rfl) .releasing⟩
      · have next := ((along.setPool pool s.forcing).setPhase (away rfl)
          (if batch = [] then .ended
            else System.afterBatch batch (if batch.length = 1
              then (s.own sid).isReceipt requestLimit else true))).recorded
          (batch.map fun (transaction : Transaction) =>
            .taken transaction.node)
        exact ⟨_, by simp [System.step, System.commit, System.locked, session,
          phase, own, begun, isNode, apart.forcing, unlocked, apart.pool,
          apart.nextConnection, taken], next⟩
  | commitTransaction sid turns =>
      obtain ⟨transaction, batch, receipt, phase, rfl⟩ :=
        System.commitTransaction_cases stepped
      have session := along.session_eq (away rfl)
      have ownHere := ownAway rfl (by simp [phase]) (by simp [phase])
      have own := along.own_eq (away rfl) ownHere
      have here : transaction.connection ∉ cs :=
        heldAway rfl (Custody.place_of_batch (by simp [phase, Phase.batch]))
      have next := (along.attempt receipt turns here).setPhase (away rfl)
        (if (s.own sid).self = some transaction.connection
          then System.afterBatch batch receipt
          else .returning transaction.connection batch receipt)
      exact ⟨_, by simp [System.step, System.commitTransaction, session,
        phase, own], next⟩
  | releaseDeferred sid poolSockets =>
      obtain ⟨c, batch, receipt, phase, unlocked, rfl⟩ :=
        System.releaseDeferred_cases stepped
      have session := along.session_eq (away rfl)
      have here : c ∉ cs := heldAway rfl (by simp [Session.held, phase])
      have next := (along.releaseConnection poolSockets here).setPhase
        (away rfl) (System.afterBatch batch receipt)
      exact ⟨_, by simp [System.step, System.releaseDeferred, System.locked,
        session, phase, apart.forcing, unlocked], next⟩
  | release sid requestLimit poolSockets =>
      obtain ⟨self, phase, isSelf, unlocked, rfl⟩ :=
        System.release_cases stepped
      have session := along.session_eq (away rfl)
      have ownHere := ownAway rfl (by simp [phase]) (by simp [phase])
      have own := along.own_eq (away rfl) ownHere
      have isOwn := custody.self_eq (by simp [phase]) (by simp [phase]) isSelf
      subst isOwn
      have next := ((along.setConnection ownHere
        ((s.own sid).release requestLimit)).releaseConnection poolSockets
          ownHere).setPhase (away rfl) .ended
      exact ⟨_, by simp [System.step, System.release, System.locked, session,
        phase, own, isSelf, apart.forcing, unlocked], next⟩
  | forceLock =>
      obtain ⟨unlocked, rfl⟩ := System.forceLock_cases stepped
      have next := along.setPool s.pool (some {})
      exact ⟨_, by simp [System.step, System.forceLock, System.locked,
        apart.forcing, unlocked, apart.pool, apart.nextConnection], next⟩
  | forceNext poolSockets turns =>
      obtain ⟨forcing, transaction, forced, located,
        ⟨unready, rfl⟩ | ⟨pointed, ready, found, same, rfl⟩⟩ :=
        System.forceNext_cases stepped
      · have next := along.setPool s.pool (some forcing.skip)
        exact ⟨_, by simp [System.step, System.forceNext, apart.forcing,
          forced, apart.pool, located, unready, apart.nextConnection], next⟩
      · have isPointed := custody.pointed_eq queue.distinct
          (List.mem_of_getElem? located) found
        subst isPointed
        have here : pointed.connection ∉ cs := fun hidden =>
          (notUsed _ hidden).1 ⟨forcing, pointed, forced, located, ready, rfl⟩
        have next := along.forceCommit poolSockets turns forcing here
        exact ⟨_, by simp [System.step, System.forceNext, apart.forcing,
          forced, apart.pool, located, ready, found, same,
          along.connection_eq here], next⟩
  | forceUnlock =>
      obtain ⟨forcing, forced, past, rfl⟩ := System.forceUnlock_cases stepped
      have next := along.setPool s.pool none
      exact ⟨_, by simp [System.step, System.forceUnlock, apart.forcing,
        forced, apart.pool, Nat.not_lt.mpr past, apart.nextConnection], next⟩

end Steps

end Capstomp
