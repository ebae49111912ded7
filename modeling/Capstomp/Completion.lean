import Capstomp.Draining
import Capstomp.ForceCommit
import Capstomp.General.Credit
import Capstomp.Movers

/-!
# Every statement completes

A statement under way can always make its next call once the mutex is free,
and `force_commit` has a next turn as long as it holds the mutex.  The calls
left are counted, so that without new statements and new rows no run is longer
than the count, and where no call is left there is nothing in `active_` and in
`transaction_store_`.

A step is a call that has returned.  Whether it returns is not said here:
`read`, `send` and `connected` wait again as long as their peer keeps them
busy, and `force_commit` waits with the mutex of the pool.
-/

namespace Capstomp

open General

/-! ## The next call -/

/-- What a call may meet: the network, the limits, and the value that
`get_uncommited` reads past the end of the store. -/
structure Circumstances where
  connect : ConnectTurns
  exchange : Exchange
  commit : CommitTurns
  endReady : Bool
  requestLimit : Nat
  poolSockets : Nat

/-- The call that takes a session out of its phase. -/
def Phase.call (sid : SessionId) (met : Circumstances) : Phase → Option Action
  | .idle | .ended => none
  | .got _ => some (.connect sid met.connect)
  | .creating => some (.createTransaction sid)
  | .beginning => some (.begin sid met.requestLimit met.exchange)
  | .rows => some (.deinit sid)
  | .ending => some (.commit sid met.endReady met.requestLimit)
  | .committing _ _ _ => some (.commitTransaction sid met.commit)
  | .returning _ _ _ => some (.releaseDeferred sid met.poolSockets)
  | .releasing => some (.release sid met.requestLimit met.poolSockets)

section Calls

variable [QueryDecoding] [PassHash] [FrameBytes]
variable {s after : System} {sid : SessionId} {name : String}

omit [QueryDecoding] [PassHash] [FrameBytes] in
/-- `self_` of a connection in use is set. -/
theorem Custody.own_self (custody : Custody s)
    (notIdle : (s.sessions sid).phase ≠ .idle)
    (notEnded : (s.sessions sid).phase ≠ .ended) :
    (s.own sid).self = some (s.sessions sid).connection :=
  custody.self (.session sid) _ (Session.own_mem_held notIdle notEnded)

/-- A session under way is not kept from its next call, whatever that call
meets. -/
theorem System.goes_on (custody : Custody s) (unlocked : s.forcing = none)
    (live : (s.sessions sid).live) (met : Circumstances) :
    ∃ action, (s.sessions sid).phase.call sid met = some action ∧
      (s.step action).isSome := by
  have own := custody.own_self live.1 live.2
  cases phase : (s.sessions sid).phase with
  | idle => exact absurd phase live.1
  | ended => exact absurd phase live.2
  | got uri =>
      refine ⟨_, rfl, ?_⟩
      simp only [step, connect, phase]
      split <;> rfl
  | creating =>
      exact ⟨_, rfl, by simp [step, createTransaction, phase, own, locked,
        unlocked]⟩
  | beginning =>
      refine ⟨_, rfl, ?_⟩
      simp only [step, begin, phase]
      split <;> rfl
  | rows => exact ⟨_, rfl, by simp [step, deinit, phase]⟩
  | ending =>
      refine ⟨_, rfl, ?_⟩
      cases begun : (s.own sid).withTransaction with
      | false => simp [step, commit, phase, begun]
      | true =>
          -- What was begun is still in the store, and is pointed to.
          obtain ⟨transaction, member, _, isOwn⟩ :=
            custody.begun sid (by simp [phase, Phase.unfinished]) begun
          have linked := (custody.linked_store transaction member).node
          rw [isOwn] at linked
          have node : (s.own sid).transaction = some transaction.node := linked
          simp [step, commit, phase, begun, node, locked, unlocked]
  | committing transaction batch receipt =>
      exact ⟨_, rfl, by simp [step, commitTransaction, phase]⟩
  | returning connection batch receipt =>
      exact ⟨_, rfl, by simp [step, releaseDeferred, phase, locked, unlocked]⟩
  | releasing =>
      exact ⟨_, rfl, by simp [step, release, phase, own, locked, unlocked]⟩

/-- `force_commit` takes its next turn or returns. -/
theorem System.force_goes_on (custody : Custody s) (queue : Queue s)
    {forcing : Forcing} (forced : s.forcing = some forcing)
    (poolSockets : Nat) (turns : CommitTurns) :
    (s.step (.forceNext poolSockets turns)).isSome ∨
      (s.step .forceUnlock).isSome := by
  cases located : s.pool.transactionStore[forcing.position]? with
  | none =>
      have past := List.getElem?_eq_none_iff.mp located
      right
      rw [step, forceUnlock_past forced past]
      rfl
  | some transaction =>
      left
      rw [step, forceNext_turn custody queue forced located]
      rfl

/-- None of the calls that are due is enabled. -/
structure System.Halted (s : System) (met : Circumstances) : Prop where
  sessions : ∀ sid action, (s.sessions sid).phase.call sid met = some action →
    s.step action = none
  turn : s.step (.forceNext met.poolSockets met.commit) = none
  unlock : s.step .forceUnlock = none

/-- Every statement has ended and left nothing behind. -/
structure System.Drained (s : System) : Prop where
  unlocked : s.forcing = none
  ended : ∀ sid, ¬ (s.sessions sid).live
  store : s.pool.transactionStore = []
  active : s.pool.active = []

/-- Nothing deadlocks: where no call is enabled, none is due. -/
theorem System.Halted.drained (custody : Custody s) (queue : Queue s)
    {met : Circumstances} (halted : s.Halted met) : s.Drained := by
  have unlocked : s.forcing = none := by
    cases forced : s.forcing with
    | none => rfl
    | some forcing =>
        rcases System.force_goes_on custody queue forced met.poolSockets
          met.commit with turns | returns
        · simp [halted.turn] at turns
        · simp [halted.unlock] at returns
  have ended : ∀ sid, ¬ (s.sessions sid).live := by
    intro sid live
    obtain ⟨action, isCall, enabled⟩ :=
      System.goes_on custody unlocked live met
    simp [halted.sessions sid action isCall] at enabled
  have empty := store_empty custody queue unlocked ended
  exact ⟨unlocked, ended, empty, active_empty custody empty ended⟩

end Calls

/-! ## The calls that are left -/

/-- How many calls a session still makes from here, if it gets no more rows;
a transaction in its batch takes two. -/
def Phase.left : Phase → Nat
  | .idle | .ended => 0
  | .releasing => 1
  | .ending => 2
  | .returning _ batch _ => 2 * batch.length + 2
  | .committing _ batch _ => 2 * batch.length + 3
  | .rows => 3
  | .beginning => 4
  | .creating => 7
  | .got _ => 8

/-- The statement that obtained a connection. -/
def Event.statement : Event → Option SessionId
  | .got sid _ => some sid
  | _ => none

/-- The statements there have been. -/
def System.statements (s : System) : List SessionId :=
  s.trace.filterMap Event.statement

/-- How many turns `force_commit` still takes, with its return. -/
def System.forcingLeft (s : System) : Nat :=
  match s.forcing with
  | none => 0
  | some forcing => s.pool.transactionStore.length - forcing.position + 1

/-- How many calls are left: those of the statements, those for the
transactions in the store, and those of `force_commit`. -/
def System.left (s : System) : Nat :=
  (s.statements.map fun sid => (s.sessions sid).phase.left).sum +
    2 * s.pool.transactionStore.length + s.forcingLeft

/-- Every statement that is not idle is listed once. -/
structure Listed (s : System) : Prop where
  distinct : s.statements.Nodup
  listed : ∀ sid, sid ∈ s.statements ↔ (s.sessions sid).phase ≠ .idle

@[simp] theorem Phase.left_afterBatch (batch : List Transaction)
    (receipt : Bool) :
    (System.afterBatch batch receipt).left = 2 * batch.length + 1 := by
  cases batch <;> simp [System.afterBatch, Phase.left, Nat.mul_add]

variable {s after : System} {action : Action} {sid : SessionId}

/-- One session makes a call, for which its action may have brought what it
takes. -/
structure Spends (brought : Nat) (s after : System) (sid : SessionId) :
    Prop where
  sessions : ∃ session, after.sessions = Function.update s.sessions sid session
  statements : after.statements = s.statements
  live : (s.sessions sid).phase ≠ .idle
  stays : (after.sessions sid).phase ≠ .idle
  forcing : after.forcing = s.forcing
  held : s.forcing ≠ none →
    after.pool.transactionStore = s.pool.transactionStore
  falls : (after.sessions sid).phase.left +
      2 * after.pool.transactionStore.length + 1 ≤
    (s.sessions sid).phase.left + 2 * s.pool.transactionStore.length +
      brought

variable {brought maxPoolSockets : Nat}

theorem Spends.left_le (listed : Listed s)
    (spends : Spends brought s after sid) :
    after.left + 1 ≤ s.left + brought := by
  obtain ⟨session, sessions⟩ := spends.sessions
  have sum := sum_update listed.distinct ((listed.listed sid).mpr spends.live)
    (fun session => session.phase.left) s.sessions session
  have isSession : after.sessions sid = session := by
    rw [sessions, Function.update_self]
  have falls := spends.falls
  have forcing : after.forcingLeft = s.forcingLeft := by
    simp only [System.forcingLeft, spends.forcing]
    split
    · rfl
    · next held => rw [spends.held (by simp [held])]
  rw [isSession] at falls
  rw [System.left, System.left, spends.statements, sessions, forcing]
  omega

theorem Spends.listed (listed : Listed s)
    (spends : Spends brought s after sid) : Listed after := by
  obtain ⟨session, sessions⟩ := spends.sessions
  constructor
  · exact spends.statements ▸ listed.distinct
  · intro other
    rw [spends.statements, listed.listed]
    by_cases same : other = sid
    · subst same
      exact iff_of_true spends.live spends.stays
    · rw [sessions, Function.update_of_ne same]

/-- What a call costs the caller: a statement costs what it takes to its end,
and a row one call. -/
def Action.brings : Action → Nat
  | .get _ _ _ => 9
  | .content _ _ _ _ _ => 1
  | _ => 0

/-- `get_uncommited` takes transactions out and loses none. -/
theorem Pool.getUncommited_length (endReady : Bool) (node : Nat)
    (pool : Pool) :
    (pool.getUncommited endReady node).1.length +
      (pool.getUncommited endReady node).2.transactionStore.length =
        pool.transactionStore.length := by
  have marked : (setReady node pool.transactionStore).length =
      pool.transactionStore.length := List.length_map _
  unfold getUncommited
  dsimp only
  split
  · rw [scan_passed, scan_rest, ← List.length_append,
      List.takeWhile_append_dropWhile, marked]
  · simpa using marked

theorem Spends.ofPhase {phase : Phase}
    (sessions : after.sessions = Function.update s.sessions sid
      { s.sessions sid with phase := phase })
    (statements : after.statements = s.statements)
    (live : (s.sessions sid).phase ≠ .idle) (stays : phase ≠ .idle)
    (forcing : after.forcing = s.forcing)
    (held : s.forcing ≠ none →
      after.pool.transactionStore = s.pool.transactionStore)
    (falls : phase.left + 2 * after.pool.transactionStore.length + 1 ≤
      (s.sessions sid).phase.left + 2 * s.pool.transactionStore.length) :
    Spends 0 s after sid := by
  have isPhase : (after.sessions sid).phase = phase := by
    rw [sessions, Function.update_self]
  constructor
  · exact ⟨_, sessions⟩
  · exact statements
  · exact live
  · rwa [isPhase]
  · exact forcing
  · exact held
  · rwa [isPhase]

/-- A call that leaves the transactions as they are. -/
theorem Spends.ofStored {phase : Phase}
    (sessions : after.sessions = Function.update s.sessions sid
      { s.sessions sid with phase := phase })
    (statements : after.statements = s.statements)
    (live : (s.sessions sid).phase ≠ .idle) (stays : phase ≠ .idle)
    (forcing : after.forcing = s.forcing)
    (store : after.pool.transactionStore = s.pool.transactionStore)
    (falls : phase.left < (s.sessions sid).phase.left) :
    Spends 0 s after sid := by
  refine ofPhase sessions statements live stays forcing (fun _ => store) ?_
  rw [store]
  omega

section Steps

variable [QueryDecoding] [PassHash] [FrameBytes]

/-- A step of a session that has its connection. -/
theorem System.spends (stepped : s.step action = some after)
    (isThread : action.thread = .session sid)
    (notGet : ∀ uri maxPoolSockets, action ≠ .get sid uri maxPoolSockets) :
    Spends action.brings s after sid := by
  cases action with
  | get other uri maxPoolSockets =>
      cases isThread
      exact absurd rfl (notGet uri maxPoolSockets)
  | connect other turns =>
      cases isThread
      obtain ⟨uri, phase, ⟨c, _, rfl⟩ | ⟨error, c, _, rfl⟩⟩ :=
        System.connect_cases stepped
      · refine .ofStored rfl rfl (by simp [phase]) (by split <;> simp) rfl rfl
          ?_
        rw [phase]
        split <;> simp [Phase.left]
      · refine .ofStored rfl rfl (by simp [phase]) (by split <;> simp) rfl rfl
          ?_
        rw [phase]
        split <;> simp [Phase.left]
  | createTransaction other =>
      cases isThread
      obtain ⟨self, phase, _, unlocked, rfl⟩ :=
        System.createTransaction_cases stepped
      refine .ofPhase rfl ?_ (by simp [phase]) (by simp) rfl
        (absurd unlocked) ?_
      · simp [System.statements, Event.statement]
      · simp [phase, Phase.left, Pool.createTransaction]
        omega
  | begin other requestLimit turns =>
      cases isThread
      obtain ⟨phase, ⟨c, _, rfl⟩ | ⟨error, c, _, rfl⟩⟩ :=
        System.begin_cases stepped
      · exact .ofStored rfl rfl (by simp [phase]) (by simp) rfl rfl
          (by simp [phase, Phase.left])
      · refine .ofStored rfl rfl (by simp [phase]) (by split <;> simp) rfl rfl
          ?_
        rw [phase]
        split <;> simp [Phase.left]
  | content other row now requestLimit turns =>
      cases isThread
      obtain ⟨phase, rfl⟩ := System.content_cases stepped
      constructor
      · exact ⟨_, rfl⟩
      · rfl
      · simp [phase]
      · simp [phase]
      · rfl
      · exact fun _ => rfl
      · simp [phase, Phase.left, Action.brings]
  | deinit other =>
      cases isThread
      obtain ⟨phase, rfl⟩ := System.deinit_cases stepped
      exact .ofStored rfl rfl (by simp [phase]) (by simp) rfl rfl
        (by simp [phase, Phase.left])
  | commit other endReady requestLimit =>
      cases isThread
      obtain ⟨phase, ⟨_, rfl⟩ | ⟨node, batch, pool, _, _, unlocked, taken,
        rfl⟩⟩ := System.commit_cases stepped
      · exact .ofStored rfl rfl (by simp [phase]) (by simp) rfl rfl
          (by simp [phase, Phase.left])
      · have length := Pool.getUncommited_length endReady node s.pool
        rw [taken] at length
        refine .ofPhase rfl ?_ (by simp [phase]) ?_ rfl (absurd unlocked) ?_
        · simp [System.statements, Event.statement, List.filterMap_map,
            Function.comp_def]
        · split
          · simp
          · cases batch <;> simp [System.afterBatch]
        · rw [phase]
          split
          · next none =>
              subst none
              simp [Phase.left] at length ⊢
              omega
          · rw [Phase.left_afterBatch]
            simp [Phase.left] at length ⊢
            omega
  | commitTransaction other turns =>
      cases isThread
      obtain ⟨transaction, batch, receipt, phase, rfl⟩ :=
        System.commitTransaction_cases stepped
      refine .ofStored rfl ?_ (by simp [phase]) ?_ rfl rfl ?_
      · simp [System.statements, Event.statement]
      · split
        · cases batch <;> simp [System.afterBatch]
        · simp
      · rw [phase]
        split
        · rw [Phase.left_afterBatch, Phase.left]
          omega
        · rw [Phase.left, Phase.left]
          omega
  | releaseDeferred other poolSockets =>
      cases isThread
      obtain ⟨c, batch, receipt, phase, unlocked, rfl⟩ :=
        System.releaseDeferred_cases stepped
      refine .ofStored rfl ?_ (by simp [phase]) ?_ rfl (by simp) ?_
      · simp [System.statements, Event.statement]
      · cases batch <;> simp [System.afterBatch]
      · rw [phase, Phase.left_afterBatch, Phase.left]
        omega
  | release other requestLimit poolSockets =>
      cases isThread
      obtain ⟨self, phase, _, unlocked, rfl⟩ := System.release_cases stepped
      refine .ofStored rfl ?_ (by simp [phase]) (by simp) rfl (by simp) ?_
      · simp [System.statements, Event.statement]
      · simp [phase, Phase.left]
  | forceLock | forceNext | forceUnlock => cases isThread

omit [PassHash] [FrameBytes] in
/-- A statement that begins is a new one, with all its calls to make. -/
theorem Listed.handOver (listed : Listed s) (uri : Uri) (obtained : Obtained)
    (got : s.pool.get maxPoolSockets s.nextConnection = .ok obtained)
    (idle : (s.sessions sid).phase = .idle) :
    Listed (s.handOver sid uri obtained) ∧
      (s.handOver sid uri obtained).left = s.left + 8 := by
  have statements : (s.handOver sid uri obtained).statements =
      s.statements ++ [sid] := by
    simp [System.statements, Event.statement]
  have isNew : sid ∉ s.statements := by
    rw [listed.listed]
    exact fun live => live idle
  constructor
  · constructor
    · rw [statements, List.nodup_append]
      refine ⟨listed.distinct, List.nodup_singleton _, ?_⟩
      rintro other member _ isSid rfl
      exact isNew (List.mem_singleton.mp isSid ▸ member)
    · intro other
      rw [statements, List.mem_append, List.mem_singleton, listed.listed]
      by_cases same : other = sid
      · subst same
        simp
      · simp [same]
  · have others : (s.statements.map fun other =>
        ((s.handOver sid uri obtained).sessions other).phase.left) =
        s.statements.map fun other => (s.sessions other).phase.left := by
      refine List.map_congr_left fun other member => ?_
      have different : other ≠ sid := by
        rintro rfl
        exact isNew member
      simp [Function.update_of_ne different]
    have store := (Pool.get_spec got).store
    have forcing : (s.handOver sid uri obtained).forcingLeft =
        s.forcingLeft := by
      simp [System.forcingLeft, store]
    rw [System.left, System.left, statements, List.map_append,
      List.sum_append, others, forcing]
    simp [store, Phase.left]
    omega

omit [QueryDecoding] [PassHash] in
theorem System.forceNext_statements {poolSockets : Nat} {turns : CommitTurns}
    (stepped : s.forceNext poolSockets turns = some after) :
    after.statements = s.statements ∧ after.sessions = s.sessions := by
  obtain ⟨_, _, _, _, ⟨_, rfl⟩ | ⟨_, _, _, _, rfl⟩⟩ :=
    System.forceNext_cases stepped
  · exact ⟨rfl, rfl⟩
  · simp [System.statements, Event.statement]

omit [QueryDecoding] [PassHash] [FrameBytes] in
theorem Listed.congr (listed : Listed s)
    (statements : after.statements = s.statements)
    (sessions : after.sessions = s.sessions) : Listed after := by
  constructor
  · rw [statements]
    exact listed.distinct
  · rw [statements, sessions]
    exact listed.listed

theorem Listed.step (listed : Listed s)
    (stepped : s.step action = some after) : Listed after := by
  cases action with
  | get other uri maxPoolSockets =>
      obtain ⟨idle, _, rfl | ⟨obtained, got, rfl⟩⟩ :=
        System.get_cases stepped
      · exact listed
      · exact (listed.handOver uri obtained got idle).1
  | forceLock =>
      obtain ⟨_, rfl⟩ := System.forceLock_cases stepped
      exact listed.congr rfl rfl
  | forceNext poolSockets turns =>
      have same := System.forceNext_statements stepped
      exact listed.congr same.1 same.2
  | forceUnlock =>
      obtain ⟨_, _, _, rfl⟩ := System.forceUnlock_cases stepped
      exact listed.congr rfl rfl
  | _ => exact (System.spends stepped rfl (by simp)).listed listed

omit [QueryDecoding] [PassHash] in
/-- A turn of the loop passes a transaction or takes it out. -/
theorem System.forceNext_left {poolSockets : Nat} {turns : CommitTurns}
    (stepped : s.forceNext poolSockets turns = some after) :
    after.left + 1 ≤ s.left := by
  have same := System.forceNext_statements stepped
  obtain ⟨forcing, transaction, forced, located,
    ⟨_, rfl⟩ | ⟨_, _, _, _, rfl⟩⟩ := System.forceNext_cases stepped
  · have inside := (List.getElem?_eq_some_iff.mp located).1
    simp only [System.left, System.forcingLeft, forced, Forcing.skip]
    have statements : ({ s with forcing := some forcing.skip } :
        System).statements = s.statements := same.1
    simp only [Forcing.skip] at statements
    rw [statements]
    omega
  · have inside := (List.getElem?_eq_some_iff.mp located).1
    rw [System.left, System.left, same.1, same.2]
    simp [System.forcingLeft, forced, Pool.eraseTransaction,
      List.length_eraseIdx, inside, Forcing.committed]
    omega

/-- Every call is paid for by what is left, or by what it brings. -/
theorem System.left_le (listed : Listed s)
    (stepped : s.step action = some after) (unforced : action ≠ .forceLock) :
    after.left + 1 ≤ s.left + action.brings := by
  cases action with
  | get other uri maxPoolSockets =>
      obtain ⟨idle, _, rfl | ⟨obtained, got, rfl⟩⟩ :=
        System.get_cases stepped
      · simp [Action.brings]
      · rw [(listed.handOver uri obtained got idle).2, Action.brings]
  | forceLock => exact absurd rfl unforced
  | forceNext poolSockets turns => exact System.forceNext_left stepped
  | forceUnlock =>
      obtain ⟨forcing, forced, _, rfl⟩ := System.forceUnlock_cases stepped
      simp [System.left, System.forcingLeft, forced, Action.brings,
        System.statements]
  | _ => exact (System.spends stepped rfl (by simp)).left_le listed

end Steps

/-! ## Whole runs -/

/-- Neither a statement nor a row nor a call of `force_commit` begins. -/
def Action.works : Action → Bool
  | .get _ _ _ | .content _ _ _ _ _ | .forceLock => false
  | _ => true

def Action.isGet : Action → Bool
  | .get _ _ _ => true
  | _ => false

/-- The steps that finish what is under way. -/
def working (_ : System) (action : Action) : Prop := action.works

section Runs

variable [QueryDecoding] [PassHash] [FrameBytes]
variable {allowed : System → Action → Prop} {name : String}
variable {actions : List Action}

omit [QueryDecoding] [PassHash] [FrameBytes] in
theorem Listed.init (name : String) : Listed (System.init name) :=
  ⟨List.nodup_nil, fun _ => by simp [System.statements, System.init]⟩

theorem Runs.listed (run : Runs allowed name s) : Listed s :=
  Reaches.invariant run (Listed.init name)
    fun _ _ _ _ listed _ stepped => listed.step stepped

omit [QueryDecoding] [PassHash] [FrameBytes] in
theorem length_eq_of_unforced (none : Action.forceLock ∉ actions) :
    (actions.map Action.brings).sum + actions.countP Action.works =
      8 * actions.countP Action.isGet + actions.length := by
  induction actions with
  | nil => rfl
  | cons action actions induction =>
      rw [List.mem_cons, not_or] at none
      have rest := induction none.2
      cases action <;>
        simp [List.countP_cons, Action.brings, Action.works, Action.isGet]
          at none ⊢ <;>
        omega

/-- In every run without `force_commit` the statements make at most eight
calls each, beside those of their rows. -/
theorem eight_calls
    (played : Plays System.step unforced (System.init name) actions s) :
    actions.countP Action.works + s.left ≤
      8 * actions.countP Action.isGet := by
  have notForced : ∀ action ∈ actions, action ≠ .forceLock :=
    played.each fun _ action permitted => by
      rintro rfl
      exact permitted
  have paid := played.length_add_le System.left Action.brings
    fun _ action _ reached permitted stepped =>
      System.left_le (Runs.listed reached) stepped (by
        rintro rfl
        exact permitted)
  have none : (System.init name).left = 0 := rfl
  have counts := length_eq_of_unforced
    fun member => notForced _ member rfl
  omega

end Runs

section Executed

open scoped Sample

instance (s : System) (action : Action) : Decidable (working s action) :=
  inferInstanceAs (Decidable (action.works = true))

/-- The first session of two commits both transactions and ends. -/
def finishing : List Action :=
  [.deinit 1, .commit 1 false 100,
    .commitTransaction 1 (Sample.confirmed 0),
    .commitTransaction 1 (Sample.confirmed 0), .releaseDeferred 1 8,
    .release 1 100 8]

theorem eight_calls_finishing :
    let s := final unforced "pool" (deferring ++ finishing)
    (deferring ++ finishing).countP Action.works = 14 ∧
      (deferring ++ finishing).countP Action.works + s.left ≤
        8 * (deferring ++ finishing).countP Action.isGet :=
  ⟨by decide +kernel, eight_calls (Plays.executed (by decide +kernel))⟩

end Executed

end Capstomp
