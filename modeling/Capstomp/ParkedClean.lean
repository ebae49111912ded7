import Capstomp.EveryConnection
import Capstomp.ExactlyOnce
import Capstomp.Tidiness

/-!
# What is parked

A connection in `ready_` is meant to be at a frame boundary, with no receipt
outstanding.  `commit_transaction` swallows its exceptions without closing the
socket, so that a COMMIT which stops midway or is not answered leaves a
connection that is parked all the same.  This file shows that nothing else
does.
-/

namespace Capstomp

open General Connection

section Statements

variable [FrameBytes]

/-- The socket is open, it has taken whole frames, and no receipt requested in
one of them is outstanding. -/
def Connection.Clean (c : Connection) : Prop :=
  ∃ socket, c.socket = some socket ∧
    socket.stream = socket.frames.flatMap FrameBytes.data ∧
    ∀ frame ∈ socket.frames, ∀ id, frame.receipt = some id →
      id ∉ c.stomplay.handlers

/-- No COMMIT stops midway without the end of the stream, nor does the wait
for its receipt end without the reply or the end of the stream; and no wait for
the receipt of a BEGIN or SEND ends by other packets that leave no error. -/
def cleanly (s : System) : Action → Bool
  | .begin sid requestLimit turns =>
      returnsTidy (s.own sid) (.begin (s.own sid).transactionId)
        ((s.own sid).isReceipt requestLimit) turns
  | .content sid row now requestLimit turns =>
      returnsTidy (s.own sid)
        (sendBody (rowDestination (s.own sid).destination row.routingKey)
          (rowHeaders row) row.payload now (s.own sid))
        (contentReceipt (s.own sid) requestLimit) turns
  | .commitTransaction sid turns =>
      match (s.sessions sid).phase with
      | .committing transaction _ receipt =>
          commitsTidy (s.connections transaction.connection) transaction.id
            receipt turns
      | _ => true
  | .forceNext _ turns =>
      match s.pointed with
      | some transaction => !transaction.ready ||
          commitsTidy (s.connections transaction.connection) transaction.id
            true turns
      | none => true
  | _ => true

end Statements

section Parked

variable {s after : System}

/-- Who uses a connection does not use a parked one. -/
theorem Custody.uses_not_parked (custody : Custody s) {thread : Thread}
    {c : ConnId} (uses : s.Uses thread c) : c ∉ s.pool.ready := by
  intro parked
  have isParked : c ∈ s.places .parked := parked
  have same : thread.place = .parked := custody.only isParked uses.mem_places
  cases thread <;> cases same

/-- `release_connection` parks the connection it is given, if any. -/
theorem ready_releaseConnection {poolSockets : Nat} {id : ConnId}
    {c : ConnId}
    (parked : c ∈ (s.releaseConnection poolSockets id).pool.ready) :
    c ∈ s.pool.ready ∨ (c = id ∧
      s.pool.parks poolSockets (s.connections id).good ∧
      (s.releaseConnection poolSockets id).connections id =
        (s.connections id).setSelf id) := by
  simp only [System.releaseConnection_pool, Pool.releaseConnection] at parked
  split at parked
  · next parks =>
      rcases List.mem_cons.mp parked with rfl | old
      · refine .inr ⟨rfl, parks, ?_⟩
        simp only [System.releaseConnection_connections, parks, if_true,
          Function.update_self]
      · exact .inl old
  · exact .inl parked

theorem good_of_parks {poolSockets : Nat} {good : Bool} {pool : Pool}
    (parks : pool.parks poolSockets good) : good := by
  simp only [Pool.parks, Bool.and_eq_true] at parks
  exact parks.1

@[simp] theorem getUncommited_ready (endReady : Bool) (node : Nat)
    (pool : Pool) :
    (pool.getUncommited endReady node).2.ready = pool.ready := by
  unfold Pool.getUncommited
  dsimp only
  split <;> rfl

variable [QueryDecoding] [PassHash] [FrameBytes]

/-- The three ways into `ready_`: `connection::release`, the release of a
connection whose transaction another session has committed, and
`force_commit`. -/
inductive Parks (s after : System) : Action → ConnId → Prop
  | own {sid : SessionId} {requestLimit poolSockets : Nat}
      (isOpen : (s.own sid).good)
      (parked : after.connections (s.sessions sid).connection =
        ((s.own sid).release requestLimit).setSelf
          (s.sessions sid).connection) :
      Parks s after (.release sid requestLimit poolSockets)
        (s.sessions sid).connection
  | deferred {sid : SessionId} {poolSockets : Nat} {c : ConnId}
      {batch : List Transaction} {receipt : Bool}
      (returning : (s.sessions sid).phase = .returning c batch receipt)
      (parks : s.pool.parks poolSockets (s.connections c).good)
      (parked : after.connections c = (s.connections c).setSelf c) :
      Parks s after (.releaseDeferred sid poolSockets) c
  | forced {poolSockets : Nat} {turns : CommitTurns}
      {transaction : Transaction} {c : Connection}
      (pointed : s.pointed = some transaction) (ready : transaction.ready)
      (committed : c =
        (s.connections transaction.connection).commitTransaction
          transaction.id true turns)
      (parks : s.pool.parks poolSockets c.good)
      (parked : after.connections transaction.connection =
        c.setSelf transaction.connection) :
      Parks s after (.forceNext poolSockets turns) transaction.connection

omit [QueryDecoding] [PassHash] in
theorem Parks.good {action : Action} {c : ConnId}
    (parks : Parks s after action c) : (after.connections c).good := by
  cases parks with
  | own isOpen parked =>
      rw [parked]
      exact isOpen
  | deferred _ parks parked =>
      rw [parked]
      exact good_of_parks parks
  | forced _ _ _ parks parked =>
      rw [parked]
      exact good_of_parks parks

/-- A step leaves `ready_` alone, or gives it a connection. -/
theorem System.ready_cases {action : Action} (custody : Custody s)
    (queue : Queue s) (stepped : s.step action = some after)
    {c : ConnId} (parked : c ∈ after.pool.ready) :
    c ∈ s.pool.ready ∨ Parks s after action c := by
  cases action with
  | get sid uri maxPoolSockets =>
      left
      obtain ⟨_, _, rfl | ⟨obtained, got, rfl⟩⟩ := System.get_cases stepped
      · exact parked
      · rcases Pool.get_cases got with
          ⟨rest, ready, _, pool⟩ | ⟨_, _, _, _, pool⟩ <;>
          simp only [System.handOver_pool, pool] at parked
        · rw [ready]
          exact List.mem_cons_of_mem _ parked
        · exact parked
  | connect sid turns =>
      obtain ⟨_, _, ⟨c, _, rfl⟩ | ⟨_, c, _, rfl⟩⟩ :=
        System.connect_cases stepped <;> exact .inl parked
  | createTransaction sid =>
      obtain ⟨self, _, _, _, rfl⟩ := System.createTransaction_cases stepped
      exact .inl parked
  | begin sid requestLimit turns =>
      obtain ⟨_, ⟨c, _, rfl⟩ | ⟨_, c, _, rfl⟩⟩ :=
        System.begin_cases stepped <;> exact .inl parked
  | content sid row now requestLimit turns =>
      obtain ⟨_, rfl⟩ := System.content_cases stepped
      exact .inl parked
  | deinit sid =>
      obtain ⟨_, rfl⟩ := System.deinit_cases stepped
      exact .inl parked
  | commit sid endReady requestLimit =>
      obtain ⟨_, ⟨_, rfl⟩ | ⟨node, batch, pool, _, _, _, taken, rfl⟩⟩ :=
        System.commit_cases stepped
      · exact .inl parked
      · left
        have same := getUncommited_ready endReady node s.pool
        rw [taken] at same
        exact same ▸ parked
  | commitTransaction sid turns =>
      obtain ⟨transaction, batch, receipt, _, rfl⟩ :=
        System.commitTransaction_cases stepped
      exact .inl parked
  | releaseDeferred sid poolSockets =>
      obtain ⟨x, batch, receipt, returning, _, rfl⟩ :=
        System.releaseDeferred_cases stepped
      rcases ready_releaseConnection parked with old | ⟨rfl, parks, same⟩
      · exact .inl old
      · exact .inr (.deferred returning parks same)
  | release sid requestLimit poolSockets =>
      obtain ⟨self, releasing, isSelf, _, rfl⟩ := System.release_cases stepped
      have isOwn := custody.self_eq (by simp [releasing]) (by simp [releasing])
        isSelf
      subst isOwn
      let released := s.setConnection (s.sessions sid).connection
        ((s.own sid).release requestLimit)
      have here : released.connections (s.sessions sid).connection =
          (s.own sid).release requestLimit := by simp [released]
      rcases ready_releaseConnection (s := released) parked with
        old | ⟨rfl, parks, same⟩
      · exact .inl old
      · rw [here] at parks same
        have isOpen : (s.own sid).good := good_of_parks parks
        exact .inr (.own isOpen same)
  | forceLock =>
      obtain ⟨_, rfl⟩ := System.forceLock_cases stepped
      exact .inl parked
  | forceNext poolSockets turns =>
      obtain ⟨forcing, transaction, forced, located,
        ⟨_, rfl⟩ | ⟨pointed, ready, found, _, rfl⟩⟩ :=
        System.forceNext_cases stepped
      · exact .inl parked
      · have same := custody.pointed_eq queue.distinct
          (List.mem_of_getElem? located) found
        subst same
        have isPointed : s.pointed = some pointed := by
          simp [System.pointed, forced, located]
        have here : (s.attempt pointed true turns).connections
            pointed.connection = (s.connections
              pointed.connection).commitTransaction pointed.id true turns := by
          simp
        rcases ready_releaseConnection (s := s.attempt pointed true turns)
          parked with old | ⟨rfl, parks, same⟩
        · exact .inl old
        · rw [here] at parks same
          exact .inr (.forced isPointed ready rfl parks same)
  | forceUnlock =>
      obtain ⟨_, _, _, rfl⟩ := System.forceUnlock_cases stepped
      exact .inl parked

/-- What stays in `ready_` is not touched. -/
theorem ready_unchanged {action : Action} (custody : Custody s)
    (queue : Queue s) (next : Custody after)
    (stepped : s.step action = some after) {c : ConnId}
    (old : c ∈ s.pool.ready) (parked : c ∈ after.pool.ready) :
    after.connections c = s.connections c := by
  by_cases same : after.connections c = s.connections c
  · exact same
  · rcases System.step_local custody queue stepped same with uses | uses
    · exact absurd old (custody.uses_not_parked uses)
    · exact absurd parked (next.uses_not_parked uses)

/-- What is parked stays open. -/
theorem ready_good_step {action : Action} (custody : Custody s)
    (queue : Queue s) (next : Custody after)
    (open₀ : ∀ c ∈ s.pool.ready, (s.connections c).good)
    (stepped : s.step action = some after) :
    ∀ c ∈ after.pool.ready, (after.connections c).good := by
  intro c parked
  rcases System.ready_cases custody queue stepped parked with old | parks
  · rw [ready_unchanged custody queue next stepped old parked]
    exact open₀ c old
  · exact parks.good

/-! ## Tidy connections -/

omit [QueryDecoding] [PassHash] in
theorem ofSocket_tidy : OfSocket Tidy where
  closed _ isClosed := tidy_of_closed isClosed
  congr _ _ tidy socket stomplay _ _ :=
    tidy_congr tidy socket (by rw [stomplay]) (by rw [stomplay])

theorem tidy_step {action : Action} (custody : Custody s) (queue : Queue s)
    (tidies : ∀ y, Tidy (s.connections y)) (clean : cleanly s action)
    (stepped : s.step action = some after) :
    ∀ y, Tidy (after.connections y) := by
  refine ofSocket_tidy.step custody queue tidies ?_ stepped
  constructor
  case connect =>
      intro sid turns u c _ _ returned
      exact connect_tidy (tidies _) returned
  case begin =>
      rintro sid requestLimit turns c rfl returned
      have returns := exchange_returns_tidy_iff (c := s.own sid)
        (tidies (s.sessions sid).connection) "begin"
        (.begin (s.own sid).transactionId) ((s.own sid).isReceipt requestLimit)
        turns
      exact returns.mpr clean c returned
  case content =>
      rintro sid row now requestLimit turns rfl
      exact capstompContent_tidy (tidies _) clean
  case commit =>
      rintro sid turns transaction batch receipt rfl committing
      simp only [cleanly, committing] at clean
      exact (commitTransaction_tidy_iff (tidies _) ..).mpr clean
  case force =>
      rintro poolSockets turns transaction rfl isPointed ready
      simp only [cleanly, isPointed, ready, Bool.not_true, Bool.false_or]
        at clean
      exact (commitTransaction_tidy_iff (tidies _) ..).mpr clean

end Parked

section Runs

variable [QueryDecoding] [PassHash] [FrameBytes]
variable {name : String} {s : System}

theorem Runs.ready_good {allowed : System → Action → Prop}
    (run : Runs allowed name s) :
    ∀ c ∈ s.pool.ready, (s.connections c).good :=
  Reaches.invariant run (by simp [System.init])
    fun _ _ _ reached open₀ permitted stepped =>
      ready_good_step (Runs.custody reached) (Runs.queue reached)
        (Runs.custody (reached.next permitted stepped)) open₀ stepped

theorem Runs.tidy (run : Runs (fun s action => cleanly s action) name s) :
    ∀ c, Tidy (s.connections c) :=
  Reaches.invariant run (fun _ => tidy_of_closed rfl)
    fun _ _ _ reached tidies clean stepped =>
      tidy_step (Runs.custody reached) (Runs.queue reached) tidies clean
        stepped

/-- When every COMMIT leaves a tidy socket, every parked connection is
clean. -/
theorem parked_clean
    (run : Runs (fun s action => cleanly s action) name s) :
    ∀ c ∈ s.pool.ready, (s.connections c).Clean := by
  intro c parked
  obtain ⟨socket, isOpen⟩ :=
    Option.isSome_iff_exists.mp (run.ready_good c parked)
  have tidy := run.tidy c
  refine ⟨socket, isOpen, tidy.whole socket isOpen, ?_⟩
  intro frame member id requested outstanding
  cases tidy.answered socket isOpen frame member id requested outstanding

end Runs

section Executed

open scoped Sample

/-- A session that commits alone, with the given outcomes. -/
def commitsAlone (turns : CommitTurns) : List Action :=
  Sample.begins 1 ++ [.deinit 1, .commit 1 false 100,
    .commitTransaction 1 turns, .release 1 100 8]

theorem parked_clean_confirmed :
    let s := final (fun s action => cleanly s action) "pool"
      (commitsAlone (Sample.confirmed 0))
    s.pool.ready = [0] ∧ ∀ c ∈ s.pool.ready, (s.connections c).Clean :=
  ⟨by decide +kernel, parked_clean (runs_final (by decide +kernel))⟩

/-- The socket takes three bytes of the COMMIT and then no more in time: the
connection is parked in the middle of a frame. -/
theorem parks_half_frame :
    ¬ ∀ (name : String) (s : System), Runs anything name s →
      ∀ c ∈ s.pool.ready, (s.connections c).Clean := by
  intro alwaysClean
  let turns : CommitTurns :=
    { write := [{ poll := .events false true, write := .accepted 3 }] }
  let s := final anything "pool" (commitsAlone turns)
  obtain ⟨socket, isOpen, whole, _⟩ := alwaysClean "pool" s
    (runs_final (by decide +kernel)) 0 (by decide +kernel)
  have half : (s.connections 0).socket.all fun socket => decide
      (socket.stream ≠ socket.frames.flatMap FrameBytes.data) := by
    decide +kernel
  simp [isOpen, whole] at half

end Executed

end Capstomp
