import Capstomp.Ledger

/-!
# Nothing stays behind

A transaction that is ready and still in the store waits for one before it
whose session is under way.  When no session is, the store is empty, and so is
the list of the active connections.
-/

namespace Capstomp

open General

/-- The session has a connection and has not finished. -/
def Session.live (session : Session) : Prop :=
  session.phase ≠ .idle ∧ session.phase ≠ .ended

variable {s : System}

theorem Session.live_of_unfinished {session : Session}
    (unfinished : session.phase.unfinished) : session.live := by
  constructor <;>
    · intro phase
      simp [phase, Phase.unfinished] at unfinished

/-- A transaction that is not ready belongs to the session that created it,
and that session is under way. -/
theorem unready_owner (custody : Custody s) (ledger : Ledger s)
    {transaction : Transaction}
    (member : transaction ∈ s.pool.transactionStore)
    (unready : transaction.ready = false) :
    ∃ sid, .created sid transaction.node transaction.connection ∈ s.trace ∧
      (s.sessions sid).live := by
  obtain ⟨sid, unfinished, isOwn⟩ :=
    custody.unready transaction member unready
  have live := Session.live_of_unfinished unfinished
  have owner := ledger.owner sid live.1 live.2
  have created := (ledger.stored transaction member).1
  rw [System.own, isOwn] at owner
  rw [owner] at created
  exact ⟨sid, created, live⟩

/-- While the mutex is free the first transaction is not ready, so that every
ready one has it before it. -/
theorem preceded (queue : Queue s) (unlocked : s.forcing = none)
    {before behind : List Transaction} {transaction : Transaction}
    (store : s.pool.transactionStore = before ++ transaction :: behind)
    (ready : transaction.ready) :
    ∃ earlier ∈ before, earlier.ready = false := by
  cases before with
  | nil =>
      have unready := queue.waiting unlocked transaction (by simp [store])
      rw [ready] at unready
      cases unready
  | cons head before =>
      exact ⟨head, List.mem_cons_self,
        queue.waiting unlocked head (by simp [store])⟩

/-- Without a live session nothing is in the store. -/
theorem store_empty (custody : Custody s) (queue : Queue s)
    (unlocked : s.forcing = none)
    (finished : ∀ sid, ¬ (s.sessions sid).live) :
    s.pool.transactionStore = [] := by
  cases store : s.pool.transactionStore with
  | nil => rfl
  | cons head rest =>
      have unready := queue.waiting unlocked head (by simp [store])
      obtain ⟨sid, unfinished, _⟩ :=
        custody.unready head (by simp [store]) unready
      exact absurd (Session.live_of_unfinished unfinished) (finished sid)

/-- Without a live session no connection is active. -/
theorem active_empty (custody : Custody s)
    (empty : s.pool.transactionStore = [])
    (finished : ∀ sid, ¬ (s.sessions sid).live) : s.pool.active = [] := by
  rw [List.eq_nil_iff_forall_not_mem]
  intro c member
  rcases (custody.active_iff c).mp member with deferred | ⟨sid, held⟩
  · simp [System.places, empty] at deferred
  · refine finished sid ⟨?_, ?_⟩ <;>
      · intro phase
        simp [System.places, Session.held, phase] at held

section Runs

variable [QueryDecoding] [PassHash] [FrameBytes] {name : String}

/-- No transaction is stuck and no connection leaks. -/
theorem nothing_stuck (run : Runs anything name s)
    (unlocked : s.forcing = none) :
    (∀ before transaction behind,
      s.pool.transactionStore = before ++ transaction :: behind →
      transaction.ready →
        ∃ earlier ∈ before, earlier.ready = false ∧
          ∃ sid, .created sid earlier.node earlier.connection ∈ s.trace ∧
            (s.sessions sid).live) ∧
      ((∀ sid, ¬ (s.sessions sid).live) →
        s.pool.transactionStore = [] ∧ s.pool.active = []) := by
  constructor
  · intro before transaction behind store ready
    obtain ⟨earlier, member, unready⟩ :=
      preceded run.queue unlocked store ready
    exact ⟨earlier, member, unready,
      unready_owner run.custody run.ledger (by simp [store, member]) unready⟩
  · intro finished
    have empty := store_empty run.custody run.queue unlocked finished
    exact ⟨empty, active_empty run.custody empty finished⟩

end Runs

section Executed

open scoped Sample

/-- The second session ends while the first has rows to send. -/
def deferring : List Action :=
  Sample.begins 1 ++ Sample.begins 2 ++ [.deinit 2, .commit 2 false 100]

theorem nothing_stuck_deferring :
    let s := final anything "pool" deferring
    s.pool.transactionStore.map Transaction.ready = [false, true] ∧
      (∀ before transaction behind,
        s.pool.transactionStore = before ++ transaction :: behind →
        transaction.ready →
          ∃ earlier ∈ before, earlier.ready = false ∧
            ∃ sid, .created sid earlier.node earlier.connection ∈ s.trace ∧
              (s.sessions sid).live) ∧
      ((∀ sid, ¬ (s.sessions sid).live) →
        s.pool.transactionStore = [] ∧ s.pool.active = []) :=
  ⟨by decide +kernel,
    nothing_stuck (runs_final (by decide +kernel)) (by decide +kernel)⟩

end Executed

end Capstomp
