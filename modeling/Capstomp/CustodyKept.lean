import Capstomp.Custody
import Capstomp.TransactionQueue

/-!
# Custody is kept

What each step does to the places of the connections.  A connection is handed
to a session, left behind with a transaction, taken over with a batch, and
given up; every other step leaves all of them where they are.
-/

namespace Capstomp

open General

variable {s after : System} {sid : SessionId}

theorem initFailed_sameHandle {x : ConnId} {c : Connection}
    (same : SameHandle (s.connections x) c) :
    SameHandle (s.connections x) c.close :=
  .trans _ _ _ same (Connection.close_continues c).toSameHandle

namespace Custody

/-- What `pool::get` hands out was nowhere but in `ready_`. -/
theorem obtained_away (custody : Custody s) {maxPoolSockets : Nat}
    {obtained : Obtained}
    (got : s.pool.get maxPoolSockets s.nextConnection = .ok obtained) :
    ∀ place, place ≠ .parked → obtained.connection ∉ s.places place := by
  intro place away member
  rcases Pool.get_cases got with ⟨rest, ready, _⟩ | ⟨_, isNew, _⟩
  · exact away (custody.only (by simp [System.places, ready]) member)
  · rw [isNew] at member
    exact absurd (custody.known place _ member) (by simp)

/-- No session under way has it for its own. -/
theorem obtained_not_own (custody : Custody s) {maxPoolSockets : Nat}
    {obtained : Obtained}
    (got : s.pool.get maxPoolSockets s.nextConnection = .ok obtained)
    {other : SessionId} (begun : (s.sessions other).phase ≠ .idle)
    (unended : (s.sessions other).phase ≠ .ended) :
    (s.sessions other).connection ≠ obtained.connection := by
  intro isObtained
  have held := Session.own_mem_held begun unended
  rw [isObtained] at held
  exact custody.obtained_away got (.session other) (by simp) held

theorem handOver [QueryDecoding] (custody : Custody s) {uri : Uri}
    {maxPoolSockets : Nat} {obtained : Obtained}
    (idle : (s.sessions sid).phase = .idle)
    (got : s.pool.get maxPoolSockets s.nextConnection = .ok obtained) :
    Custody (s.handOver sid uri obtained) := by
  have away := custody.obtained_away got
  obtain ⟨notStored, notBatched, notOwn⟩ := custody.unused away
  have store := (Pool.get_spec got).store
  have active := (Pool.get_spec got).active
  have wasIdle : s.places (.session sid) = [] := by
    simp [System.places, Session.held, idle]
  have heldNow : (s.handOver sid uri obtained).places (.session sid) =
      [obtained.connection] := by
    simp [System.places, Session.held]
  have others : ∀ place, place ≠ .parked → place ≠ .session sid →
      (s.handOver sid uri obtained).places place = s.places place := by
    intro place notParked notSid
    refine places_session (System.handOver_sessions ..) notSid
      (fun isParked => absurd isParked notParked) fun _ => ?_
    simp [System.places, store]
  have parked : (s.places .parked =
        obtained.connection ::
          (s.handOver sid uri obtained).places .parked ∧
        obtained.connection < s.nextConnection ∧
        (s.handOver sid uri obtained).nextConnection = s.nextConnection) ∨
      (s.places .parked = [] ∧
        (s.handOver sid uri obtained).places .parked = [] ∧
        obtained.connection = s.nextConnection ∧
        (s.handOver sid uri obtained).nextConnection =
          s.nextConnection + 1) := by
    simp only [System.places, System.handOver_pool,
      System.handOver_nextConnection]
    rcases Pool.get_cases got with
      ⟨rest, ready, made, pool⟩ | ⟨none, isNew, made, _, pool⟩
    · refine .inl ⟨by rw [ready, pool], ?_, by simp [made]⟩
      exact custody.known .parked _ (by simp [System.places, ready])
    · exact .inr ⟨none, by rw [pool, none], isNew, by simp [made]⟩
  have exclusive : Exclusive (s.handOver sid uri obtained).places := by
    rcases parked with ⟨ready, _⟩ | ⟨none, noneNow, isNew, _⟩
    · refine custody.exclusive.move
        (show Place.parked ≠ .session sid by simp) [obtained.connection]
        (by rw [ready]; rfl) (by rw [heldNow, wasIdle]; rfl) ?_
      intro place notParked notSid
      exact others place notParked notSid
    · refine custody.exclusive.add (.session sid) obtained.connection
        ?_ (by rw [heldNow, wasIdle]) ?_
      · intro place member
        exact absurd (custody.known place _ member) (by simp [isNew])
      · intro place notSid
        by_cases isParked : place = .parked
        · subst isParked
          rw [none, noneNow]
        · exact others place isParked notSid
  refine custody.frame (c := obtained.connection) ?_ ?_
  · constructor
    case next =>
        rcases parked with ⟨_, _, next⟩ | ⟨_, _, _, next⟩
        · exact Nat.le_of_eq next.symm
        · exact Nat.le_trans (Nat.le_succ _) (Nat.le_of_eq next.symm)
    case places =>
        intro place x different
        by_cases isParked : place = .parked
        · subst isParked
          rcases parked with ⟨ready, _⟩ | ⟨none, noneNow, _⟩
          · simp [ready, different]
          · simp [none, noneNow]
        · by_cases isSid : place = .session sid
          · subst isSid
            simp [heldNow, wasIdle, different]
          · rw [others place isParked isSid]
    case active =>
        intro x different
        simp [active, different]
    case connections =>
        intro x different
        simp [Function.update_of_ne different]
    case store => simp [store]
    case batch | stays | began | early =>
        intro other
        by_cases same : other = sid
        · subst same
          simp [Phase.batch, Phase.unfinished, idle]
        · simp only [System.handOver_sessions, Function.update_of_ne same]
          simp_all
  · constructor
    case exclusive => exact exclusive
    case active_nodup =>
        rw [System.handOver_pool, active, List.nodup_cons]
        refine ⟨?_, custody.active_nodup⟩
        rw [custody.active_iff]
        rintro (deferred | ⟨other, held⟩)
        · exact away .deferred (by simp) deferred
        · exact away (.session other) (by simp) held
    case active_iff =>
        simp only [System.handOver_pool, active, List.mem_cons, true_or,
          true_iff]
        exact .inr ⟨sid, by simp [heldNow]⟩
    case known =>
        intro place member
        rcases parked with ⟨_, old, next⟩ | ⟨_, _, isNew, next⟩
        · rwa [next]
        · rw [isNew, next]
          exact Nat.lt_succ_self _
    case self =>
        intro place member
        simp [Connection.handedOver, Connection.init, Connection.setSelf]
    case store_nodup =>
        rw [System.handOver_pool, store]
        exact custody.store_nodup
    case linked_store =>
        intro transaction member isOwn
        rw [System.handOver_pool, store] at member
        exact absurd isOwn (notStored transaction member)
    case linked_batch =>
        intro other transaction member isOwn
        by_cases same : other = sid
        · subst same
          simp [Phase.batch] at member
        · simp only [System.handOver_sessions, Function.update_of_ne same]
            at member
          exact absurd isOwn (notBatched other transaction member)
    case unready =>
        intro transaction member isOwn
        rw [System.handOver_pool, store] at member
        exact absurd isOwn (notStored transaction member)
    case begun =>
        intro other isOwn unfinished
        by_cases same : other = sid
        · subst same
          simp [Phase.unfinished] at unfinished
        · simp only [System.handOver_sessions, Function.update_of_ne same]
            at isOwn unfinished
          simp [(notOwn other isOwn).1] at unfinished
    case unbegun =>
        intro other _ _
        simp [Connection.handedOver, Connection.init, Connection.setSelf,
          Connection.withTransaction]

theorem createTransaction (custody : Custody s) {self : ConnId}
    (creating : (s.sessions sid).phase = .creating)
    (isSelf : (s.own sid).self = some self)
    (stepped : after = ({ s with pool := s.pool.createTransaction self }
        |>.setConnection (s.sessions sid).connection
            ((s.own sid).setTransaction (s.pool.newTransaction self).node
              (s.pool.newTransaction self).id)
        |>.setPhase sid .beginning
        |>.record [.created sid (s.pool.newTransaction self).node self])) :
    Custody after := by
  have held : s.places (.session sid) = [(s.sessions sid).connection] := by
    simp [System.places, Session.held, creating]
  have isOwn := custody.self_eq (by simp [creating]) (by simp [creating]) isSelf
  subst isOwn
  have notStored := custody.not_stored (show (s.sessions sid).connection ∈
      s.places (.session sid) by simp [held])
    (by simp [Phase.unfinished, creating])
  have only : ∀ other, (s.sessions sid).connection ∈
      s.places (.session other) → other = sid :=
    fun other => custody.only_session (by simp [held])
  have places : after.places = s.places := by
    funext place
    subst stepped
    cases place with
    | parked => rfl
    | deferred =>
        simp [System.places, Pool.createTransaction, Pool.newTransaction]
    | session other =>
        by_cases same : other = sid
        · subst same
          simp [System.places, Session.held, creating]
        · simp [System.places, Function.update_of_ne same]
  have store : after.pool.transactionStore = s.pool.transactionStore ++
      [s.pool.newTransaction (s.sessions sid).connection] := by
    subst stepped
    rfl
  have active : after.pool.active = s.pool.active := by
    subst stepped
    rfl
  have sessions : ∀ other, other ≠ sid →
      after.sessions other = s.sessions other := by
    intro other different
    simp [stepped, Function.update_of_ne different]
  have now : (after.sessions sid).phase = .beginning ∧
      (after.sessions sid).connection = (s.sessions sid).connection := by
    simp [stepped]
  refine custody.frame (c := (s.sessions sid).connection) ?_ ?_
  · constructor
    case next => simp [stepped]
    case places => simp [places]
    case active => simp [active]
    case connections =>
        intro x different
        simp [stepped, Function.update_of_ne different]
    case store =>
        intro transaction different
        rw [store, List.mem_append, List.mem_singleton]
        constructor
        · rintro (member | rfl)
          · exact member
          · exact absurd rfl different
        · exact .inl
    case batch | stays | began | early =>
        intro other
        by_cases same : other = sid
        · subst same
          simp [now, creating, Phase.batch, Phase.unfinished, Phase.early]
        · simp_all
  · constructor
    case exclusive => exact places ▸ custody.exclusive
    case active_nodup => exact active ▸ custody.active_nodup
    case active_iff =>
        rw [active, places]
        exact custody.active_iff _
    case known =>
        intro place member
        have known := custody.known place _ (places ▸ member)
        simpa [stepped] using known
    case self =>
        intro place member
        have isSelf := custody.self place _ (places ▸ member)
        simpa [stepped, System.own, Connection.setTransaction] using isSelf
    case store_nodup =>
        rw [store, List.map_append, List.nodup_append]
        refine ⟨custody.store_nodup, by simp, ?_⟩
        intro x there y here same
        obtain ⟨transaction, member, rfl⟩ := List.mem_map.mp there
        subst same
        simp only [List.map_cons, List.map_nil, List.mem_singleton] at here
        exact notStored transaction member here
    case linked_store =>
        intro transaction member isOwn
        rw [store, List.mem_append, List.mem_singleton] at member
        rcases member with old | rfl
        · exact absurd isOwn (notStored transaction old)
        · refine ⟨?_, ?_, transactionText_ne_empty _ _⟩ <;>
            simp [stepped, Connection.setTransaction]
    case linked_batch =>
        intro other transaction member isOwn
        by_cases same : other = sid
        · subst same
          simp [now, Phase.batch] at member
        · rw [sessions other same] at member
          exact absurd (only other (isOwn ▸ place_of_batch member)) same
    case unready =>
        intro transaction member isOwn unready
        exact ⟨sid, by simp [now, Phase.unfinished], now.2⟩
    case begun =>
        intro other isOwn unfinished begun
        exact ⟨s.pool.newTransaction (s.sessions sid).connection,
          by simp [store], rfl, rfl⟩
    case unbegun =>
        intro other isOwn early
        by_cases same : other = sid
        · subst same
          simp [now, Phase.early] at early
        · rw [sessions other same] at isOwn early
          refine absurd (only other ?_) same
          simp [System.places, Session.held_of_early early, isOwn]

/-- A connection is parked or destroyed, and with it goes the transaction it
points to, where it has one. -/
theorem leave (custody : Custody s) {c : ConnId} (origin : Place)
    (away : origin ≠ .parked)
    (leaves : (s.places origin).Perm (c :: after.places origin))
    (others : ∀ place, place ≠ .parked → place ≠ origin →
      after.places place = s.places place)
    (active : after.pool.active = s.pool.active.erase c)
    (parked : after.pool.ready = s.pool.ready ∨
      (after.pool.ready = c :: s.pool.ready ∧
        (after.connections c).self = some c))
    (next : after.nextConnection = s.nextConnection)
    (connections : ∀ x, x ≠ c → after.connections x = s.connections x)
    (sublist : after.pool.transactionStore.Sublist s.pool.transactionStore)
    (kept : ∀ transaction ∈ s.pool.transactionStore,
      transaction.connection ≠ c →
        transaction ∈ after.pool.transactionStore)
    (notStored : ∀ transaction ∈ after.pool.transactionStore,
      transaction.connection ≠ c)
    (batch : ∀ sid, ∀ transaction ∈ (after.sessions sid).phase.batch,
      transaction ∈ (s.sessions sid).phase.batch ∧
        transaction.connection ≠ c)
    (phases : ∀ sid,
      (after.sessions sid).connection = (s.sessions sid).connection ∧
      (after.sessions sid).phase.unfinished =
        (s.sessions sid).phase.unfinished ∧
      (after.sessions sid).phase.early = (s.sessions sid).phase.early)
    (notOwn : ∀ sid, (s.sessions sid).connection = c →
      (s.sessions sid).phase.unfinished = false ∧
        (s.sessions sid).phase.early = false) :
    Custody after := by
  have wasThere : c ∈ s.places origin :=
    leaves.mem_iff.mpr List.mem_cons_self
  have gone : ∀ place, place ≠ .parked → c ∉ after.places place := by
    intro place notParked there
    have nodup := leaves.nodup_iff.mp (custody.exclusive.nodup origin)
    by_cases isOrigin : place = origin
    · subst isOrigin
      exact (List.nodup_cons.mp nodup).1 there
    · rw [others place notParked isOrigin] at there
      exact isOrigin (custody.only wasThere there)
  have atParked : after.places .parked = after.pool.ready := rfl
  have exclusive : Exclusive after.places := by
    rcases parked with same | ⟨ready, _⟩
    · refine custody.exclusive.shrink fun place => ?_
      by_cases isOrigin : place = origin
      · subst isOrigin
        exact (List.sublist_cons_self c (after.places place)).subperm.trans
          leaves.symm.subperm
      · by_cases isParked : place = .parked
        · subst isParked
          rw [atParked, same]
          exact List.Subperm.refl _
        · rw [others place isParked isOrigin]
    · refine custody.exclusive.move away [c] leaves ?_ ?_
      · rw [atParked, ready]
        exact List.Perm.refl _
      · intro place notOrigin notParked
        exact others place notParked notOrigin
  have notParkedBefore : c ∉ s.pool.ready := fun there =>
    away (custody.only there wasThere)
  refine custody.frame (c := c) ?_ ?_
  · constructor
    case next => exact Nat.le_of_eq next.symm
    case places =>
        intro place x different
        by_cases isParked : place = .parked
        · subst isParked
          rcases parked with same | ⟨ready, _⟩
          · simp [System.places, same]
          · simp [System.places, ready, different]
        · by_cases isOrigin : place = origin
          · subst isOrigin
            simp [leaves.mem_iff, different]
          · rw [others place isParked isOrigin]
    case active =>
        intro x different
        rw [active, List.mem_erase_of_ne different]
    case connections => exact connections
    case store =>
        intro transaction different
        exact ⟨fun member => sublist.subset member,
          fun member => kept transaction member different⟩
    case batch =>
        intro sid transaction member _
        exact (batch sid transaction member).1
    case stays =>
        intro sid _ unfinished
        exact ⟨(phases sid).2.1.trans unfinished, (phases sid).1⟩
    case began =>
        intro sid _ unfinished
        exact ⟨(phases sid).2.1.symm.trans unfinished, (phases sid).1.symm⟩
    case early =>
        intro sid _ early
        exact ⟨(phases sid).2.2.symm.trans early, (phases sid).1.symm⟩
  · constructor
    case exclusive => exact exclusive
    case active_nodup =>
        rw [active]
        exact custody.active_nodup.erase c
    case active_iff =>
        rw [active]
        constructor
        · intro member
          exact absurd member (custody.active_nodup.not_mem_erase)
        · rintro (deferred | ⟨sid, held⟩)
          · exact absurd deferred (gone .deferred (by simp))
          · exact absurd held (gone (.session sid) (by simp))
    case known =>
        intro _ _
        rw [next]
        exact custody.known origin c wasThere
    case self =>
        intro place there
        by_cases isParked : place = .parked
        · subst isParked
          rcases parked with same | ⟨_, isSelf⟩
          · rw [atParked, same] at there
            exact absurd there notParkedBefore
          · exact isSelf
        · exact absurd there (gone place isParked)
    case store_nodup =>
        exact custody.store_nodup.sublist (sublist.map _)
    case linked_store =>
        intro transaction member isOwn
        exact absurd isOwn (notStored transaction member)
    case linked_batch =>
        intro sid transaction member isOwn
        exact absurd isOwn (batch sid transaction member).2
    case unready =>
        intro transaction member isOwn
        exact absurd isOwn (notStored transaction member)
    case begun =>
        intro sid isOwn unfinished
        rw [(phases sid).1] at isOwn
        rw [(phases sid).2.1, (notOwn sid isOwn).1] at unfinished
        cases unfinished
    case unbegun =>
        intro sid isOwn early
        rw [(phases sid).1] at isOwn
        rw [(phases sid).2.2, (notOwn sid isOwn).2] at early
        cases early

theorem releaseConnection_ready (poolSockets : Nat) (c : ConnId)
    (s : System) :
    (s.releaseConnection poolSockets c).pool.ready = s.pool.ready ∨
      ((s.releaseConnection poolSockets c).pool.ready = c :: s.pool.ready ∧
        ((s.releaseConnection poolSockets c).connections c).self =
          some c) := by
  simp only [System.releaseConnection_pool,
    System.releaseConnection_connections, Function.update_self,
    Pool.releaseConnection]
  split
  · exact .inr ⟨rfl, rfl⟩
  · exact .inl rfl

/-- A session that is done with its rows gives up a connection it holds;
`between` is the state when `release_connection` is called. -/
theorem giveUp (custody : Custody s) (between : System) {poolSockets : Nat}
    {c : ConnId} {phase : Phase}
    (pool : between.pool = s.pool) (sessions : between.sessions = s.sessions)
    (next : between.nextConnection = s.nextConnection)
    (connections : ∀ x, x ≠ c → between.connections x = s.connections x)
    (finished : (s.sessions sid).phase.unfinished = false ∧
      (s.sessions sid).phase.early = false)
    (finishes : phase.unfinished = false ∧ phase.early = false)
    (leaves : (s.sessions sid).held.Perm
      (c :: { s.sessions sid with phase := phase }.held))
    (batch : ∀ transaction ∈ phase.batch,
      transaction ∈ (s.sessions sid).phase.batch ∧
        transaction.connection ≠ c)
    (stepped : after = (between.releaseConnection poolSockets c
      |>.setPhase sid phase)) :
    Custody after := by
  have held : c ∈ s.places (.session sid) :=
    leaves.mem_iff.mpr List.mem_cons_self
  have others : ∀ other, other ≠ sid →
      after.sessions other = s.sessions other := by
    intro other different
    simp [stepped, sessions, Function.update_of_ne different]
  have now : after.sessions sid = { s.sessions sid with phase := phase } := by
    simp [stepped, sessions]
  have store : after.pool.transactionStore = s.pool.transactionStore := by
    simp [stepped, pool]
  refine custody.leave (c := c) (.session sid) (by simp)
    ?leaves ?others ?active ?parked ?next ?connections ?sublist ?kept
    ?notStored ?batch ?phases ?notOwn
  case leaves =>
      simp only [System.places, now]
      exact leaves
  case others =>
      intro place notParked notSid
      refine places_session
        (show after.sessions = Function.update s.sessions sid
          { s.sessions sid with phase := phase } by simp [stepped, sessions])
        notSid (fun isParked => absurd isParked notParked) fun _ => ?_
      simp [System.places, store]
  case active => simp [stepped, pool]
  case parked =>
      rw [stepped, ← pool]
      exact releaseConnection_ready poolSockets c between
  case next => simp [stepped, next]
  case connections =>
      intro x different
      simp [stepped, Function.update_of_ne different, connections x different]
  case sublist => rw [store]
  case kept =>
      intro transaction member _
      rwa [store]
  case notStored =>
      rw [store]
      exact custody.not_stored held finished.1
  case batch =>
      intro other transaction member
      by_cases same : other = sid
      · subst same
        rw [now] at member
        exact batch transaction member
      · rw [others other same] at member
        refine ⟨member, ?_⟩
        intro isOwn
        rw [← isOwn] at held
        exact same (custody.only_session held (place_of_batch member))
  case phases =>
      intro other
      by_cases same : other = sid
      · subst same
        simp [now, finished, finishes]
      · simp [others other same]
  case notOwn =>
      refine custody.not_own held ?_
      rintro _ ⟨⟩
      exact finished

theorem releaseDeferred (custody : Custody s) {poolSockets : Nat}
    {c : ConnId} {batch : List Transaction} {receipt : Bool}
    (returning : (s.sessions sid).phase = .returning c batch receipt)
    (stepped : after = (s.releaseConnection poolSockets c
      |>.setPhase sid (System.afterBatch batch receipt))) :
    Custody after := by
  have holds : (s.sessions sid).held = (s.sessions sid).connection :: c ::
      batch.map Transaction.connection := by
    simp [Session.held, returning]
  have nodup : (s.sessions sid).held.Nodup :=
    custody.exclusive.nodup (.session sid)
  simp only [holds, List.nodup_cons, List.mem_cons, not_or] at nodup
  refine custody.giveUp s (c := c) rfl rfl rfl (fun _ _ => rfl)
    (by simp [returning, Phase.unfinished, Phase.early]) (by simp) ?_ ?_
    stepped
  · rw [holds, Session.held_afterBatch nodup.1.2]
    exact List.Perm.swap _ _ _
  · intro transaction member
    rw [batch_afterBatch] at member
    refine ⟨by simpa [Phase.batch, returning] using member, ?_⟩
    rintro rfl
    exact nodup.2.1 (List.mem_map_of_mem member)

theorem release (custody : Custody s) {requestLimit poolSockets : Nat}
    {self : ConnId} (releasing : (s.sessions sid).phase = .releasing)
    (isSelf : (s.own sid).self = some self)
    (stepped : after = (s.setConnection (s.sessions sid).connection
          ((s.own sid).release requestLimit)
        |>.releaseConnection poolSockets self
        |>.setPhase sid .ended)) :
    Custody after := by
  have holds : (s.sessions sid).held = [(s.sessions sid).connection] := by
    simp [Session.held, releasing]
  have isOwn :=
    custody.self_eq (by simp [releasing]) (by simp [releasing]) isSelf
  subst isOwn
  refine custody.giveUp
    (s.setConnection (s.sessions sid).connection
      ((s.own sid).release requestLimit))
    rfl rfl rfl ?_ (by simp [releasing, Phase.unfinished, Phase.early])
    ⟨rfl, rfl⟩ (by rw [holds]; rfl) (by simp [Phase.batch]) stepped
  intro x different
  simp [Function.update_of_ne different]

/-- The transaction of a session that is not the first stays in the store, and
its connection with it. -/
theorem defer (custody : Custody s) {transaction : Transaction}
    {front back : List Transaction}
    (unfinished : (s.sessions sid).phase.unfinished)
    (store : s.pool.transactionStore = front ++ transaction :: back)
    (unready : transaction.ready = false)
    (isOwn : transaction.connection = (s.sessions sid).connection)
    (pool : after.pool = { s.pool with
      transactionStore :=
        front ++ { transaction with ready := true } :: back })
    (connections : after.connections = s.connections)
    (next : after.nextConnection = s.nextConnection)
    (sessions : after.sessions = Function.update s.sessions sid
      { s.sessions sid with phase := .ended }) :
    Custody after := by
  have holds : s.places (.session sid) = [transaction.connection] := by
    simp [System.places, Session.held_of_unfinished unfinished, isOwn]
  have holdsNow : after.places (.session sid) = [] := by
    simp [System.places, sessions, Session.held]
  have deferredNow : (after.places .deferred).Perm
      (transaction.connection :: s.places .deferred) := by
    simp only [System.places, pool, store, List.filter_append, List.map_append,
      List.filter_cons, unready, if_true, Bool.false_eq_true, if_false,
      List.map_cons]
    exact List.perm_middle
  have others : ∀ place, place ≠ .session sid → place ≠ .deferred →
      after.places place = s.places place := by
    intro place notSid notDeferred
    exact places_session sessions notSid (fun _ => by rw [pool])
      fun isDeferred => absurd isDeferred notDeferred
  have exclusive : Exclusive after.places :=
    custody.exclusive.move
      (show Place.session sid ≠ .deferred by simp) [transaction.connection]
      (by rw [holds, holdsNow]; exact List.Perm.refl _) deferredNow others
  have held : transaction.connection ∈ s.places (.session sid) := by
    simp [holds]
  have only : ∀ other, transaction.connection ∈ s.places (.session other) →
      other = sid := fun other => custody.only_session held
  have sessionsKept : ∀ other, other ≠ sid →
      after.sessions other = s.sessions other := by
    intro other different
    simp [sessions, Function.update_of_ne different]
  have alone := custody.store_alone store
  have member_iff : ∀ other, other ∈ after.pool.transactionStore ↔
      other = { transaction with ready := true } ∨ other ∈ front ++ back := by
    intro other
    simp only [pool, List.mem_append, List.mem_cons]
    tauto
  refine custody.frame (c := transaction.connection) ?_ ?_
  · constructor
    case next => exact Nat.le_of_eq next.symm
    case places =>
        intro place x different
        by_cases isSid : place = .session sid
        · subst isSid
          simp [holds, holdsNow, different]
        · by_cases isDeferred : place = .deferred
          · subst isDeferred
            simp [deferredNow.mem_iff, different]
          · rw [others place isSid isDeferred]
    case active => simp [pool]
    case connections => simp [connections]
    case store =>
        intro other different
        rw [member_iff, store]
        simp only [List.mem_append, List.mem_cons]
        constructor
        · rintro (rfl | member)
          · exact absurd rfl different
          · tauto
        · rintro (member | rfl | member)
          · tauto
          · exact absurd rfl different
          · tauto
    case batch | stays | began | early =>
        intro other
        by_cases same : other = sid
        · subst same
          simp [sessions, isOwn, Phase.batch, Phase.unfinished, Phase.early]
        · simp_all
  · constructor
    case exclusive => exact exclusive
    case active_nodup => exact pool ▸ custody.active_nodup
    case active_iff =>
        have active : transaction.connection ∈ s.pool.active :=
          custody.mem_active_of_place (by simp) held
        have deferred : transaction.connection ∈ after.places .deferred :=
          deferredNow.mem_iff.mpr List.mem_cons_self
        simp [pool, active, deferred]
    case known =>
        intro _ _
        rw [next]
        exact custody.known _ _ held
    case self =>
        intro _ _
        rw [connections]
        exact custody.self _ _ held
    case store_nodup =>
        have nodup := custody.store_nodup
        rw [store] at nodup
        simpa [pool] using nodup
    case linked_store =>
        intro other member same
        have linked := custody.linked_store transaction (by simp [store])
        rw [member_iff] at member
        rw [connections]
        rcases member with rfl | member
        · exact ⟨linked.node, linked.id, linked.nonempty⟩
        · exact absurd same (alone other member)
    case linked_batch =>
        intro other waiting member same
        by_cases isSid : other = sid
        · subst isSid
          simp [sessions, Phase.batch] at member
        · rw [sessionsKept other isSid] at member
          exact absurd (only other (same ▸ place_of_batch member)) isSid
    case unready =>
        intro other member same notReady
        rw [member_iff] at member
        rcases member with rfl | member
        · cases notReady
        · exact absurd same (alone other member)
    case begun =>
        intro other same underWay
        by_cases isSid : other = sid
        · subst isSid
          simp [sessions, Phase.unfinished] at underWay
        · rw [sessionsKept other isSid] at same underWay
          refine absurd (only other ?_) isSid
          simp [System.places, Session.held_of_unfinished underWay, same]
    case unbegun =>
        intro other same early
        by_cases isSid : other = sid
        · subst isSid
          simp [sessions, Phase.early] at early
        · rw [sessionsKept other isSid] at same early
          refine absurd (only other ?_) isSid
          simp [System.places, Session.held_of_early early, same]

/-- The session that is first takes over the connections of the ready
transactions next to its own. -/
theorem takeOver (custody : Custody s) {transaction : Transaction}
    {back : List Transaction} {receipt : Bool}
    (unfinished : (s.sessions sid).phase.unfinished)
    (store : s.pool.transactionStore = transaction :: back)
    (unready : transaction.ready = false)
    (isOwn : transaction.connection = (s.sessions sid).connection)
    (pool : after.pool = { s.pool with
      transactionStore := back.dropWhile Transaction.ready })
    (connections : after.connections = s.connections)
    (next : after.nextConnection = s.nextConnection)
    (sessions : after.sessions = Function.update s.sessions sid
      { s.sessions sid with
        phase := .committing { transaction with ready := true }
          (back.takeWhile Transaction.ready) receipt }) :
    Custody after := by
  have split : back.takeWhile Transaction.ready ++
      back.dropWhile Transaction.ready = back :=
    List.takeWhile_append_dropWhile
  have allReady : ∀ other ∈ back.takeWhile Transaction.ready,
      other.ready := fun other member => List.mem_takeWhile_imp member
  have fromStore : ∀ other, other ∈ back.takeWhile Transaction.ready ∨
      other ∈ back.dropWhile Transaction.ready →
        other ∈ s.pool.transactionStore := by
    intro other member
    rw [← List.mem_append, split] at member
    simp [store, member]
  have alone : ∀ other ∈ back,
      other.connection ≠ transaction.connection :=
    custody.store_alone (show s.pool.transactionStore = [] ++ _ from store)
  have holds : s.places (.session sid) = [transaction.connection] := by
    simp [System.places, Session.held_of_unfinished unfinished, isOwn]
  have holdsNow : after.places (.session sid) = transaction.connection ::
      (back.takeWhile Transaction.ready).map Transaction.connection := by
    simp [System.places, sessions, Session.held, isOwn]
  have deferred : s.places .deferred =
      (back.takeWhile Transaction.ready).map Transaction.connection ++
        after.places .deferred := by
    have filtered : back.filter Transaction.ready =
        back.takeWhile Transaction.ready ++
          (back.dropWhile Transaction.ready).filter Transaction.ready := by
      rw [← List.filter_eq_self.mpr allReady, ← List.filter_append, split]
    simp only [System.places, store, pool, List.filter_cons, unready,
      Bool.false_eq_true, if_false, filtered, List.map_append]
  have others : ∀ place, place ≠ .deferred → place ≠ .session sid →
      after.places place = s.places place := by
    intro place notDeferred notSid
    exact places_session sessions notSid (fun _ => by rw [pool])
      fun isDeferred => absurd isDeferred notDeferred
  have sessionsKept : ∀ other, other ≠ sid →
      after.sessions other = s.sessions other := by
    intro other different
    simp [sessions, Function.update_of_ne different]
  have came : ∀ place, ∀ c ∈ after.places place,
      ∃ origin, c ∈ s.places origin := by
    intro place c member
    by_cases isDeferred : place = .deferred
    · subst isDeferred
      exact ⟨.deferred, by rw [deferred]; exact List.mem_append_right _ member⟩
    · by_cases isSid : place = .session sid
      · subst isSid
        rw [holdsNow] at member
        rcases List.mem_cons.mp member with rfl | member
        · exact ⟨.session sid, by simp [holds]⟩
        · exact ⟨.deferred, by
            rw [deferred]
            exact List.mem_append_left _ member⟩
      · exact ⟨place, others place isDeferred isSid ▸ member⟩
  constructor
  case exclusive =>
      refine custody.exclusive.move
        (show Place.deferred ≠ .session sid by simp)
        ((back.takeWhile Transaction.ready).map Transaction.connection)
        (by rw [deferred]) ?_ others
      rw [holds, holdsNow]
      exact (List.perm_append_singleton _ _).symm
  case active_nodup => exact pool ▸ custody.active_nodup
  case active_iff =>
      intro c
      have same : c ∈ after.pool.active ↔ c ∈ s.pool.active := by rw [pool]
      rw [same, custody.active_iff, deferred, List.mem_append]
      constructor
      · rintro ((taken | stays) | ⟨other, member⟩)
        · exact .inr ⟨sid, by
            rw [holdsNow]
            exact List.mem_cons_of_mem _ taken⟩
        · exact .inl stays
        · by_cases isSid : other = sid
          · subst isSid
            rw [holds, List.mem_singleton] at member
            exact .inr ⟨other, by simp [holdsNow, member]⟩
          · exact .inr ⟨other, others (.session other) (by simp)
              (by simpa using isSid) ▸ member⟩
      · rintro (stays | ⟨other, member⟩)
        · exact .inl (.inr stays)
        · by_cases isSid : other = sid
          · subst isSid
            rw [holdsNow] at member
            rcases List.mem_cons.mp member with rfl | taken
            · exact .inr ⟨other, by simp [holds]⟩
            · exact .inl (.inl taken)
          · exact .inr ⟨other, others (.session other) (by simp)
              (by simpa using isSid) ▸ member⟩
  case known =>
      intro place c member
      obtain ⟨origin, member⟩ := came place c member
      exact next ▸ custody.known origin c member
  case self =>
      intro place c member
      obtain ⟨origin, member⟩ := came place c member
      exact connections ▸ custody.self origin c member
  case store_nodup =>
      have nodup := custody.store_nodup
      rw [store, List.map_cons, List.nodup_cons, ← split, List.map_append,
        List.nodup_append] at nodup
      exact pool ▸ nodup.2.2.1
  case linked_store =>
      intro other member
      rw [pool] at member
      rw [connections]
      exact custody.linked_store other (fromStore other (.inr member))
  case linked_batch =>
      intro other waiting member
      rw [connections]
      by_cases isSid : other = sid
      · subst isSid
        simp only [sessions, Function.update_self, Phase.batch] at member
        rcases List.mem_cons.mp member with rfl | member
        · have linked := custody.linked_store transaction (by simp [store])
          exact ⟨linked.node, linked.id, linked.nonempty⟩
        · exact custody.linked_store waiting (fromStore waiting (.inl member))
      · rw [sessionsKept other isSid] at member
        exact custody.linked_batch other waiting member
  case unready =>
      intro other member notReady
      rw [pool] at member
      obtain ⟨owner, underWay, owns⟩ :=
        custody.unready other (fromStore other (.inr member)) notReady
      have different : owner ≠ sid := by
        rintro rfl
        rw [← isOwn] at owns
        exact alone other (split ▸ List.mem_append_right _ member) owns.symm
      exact ⟨owner, by rwa [sessionsKept owner different],
        by rwa [sessionsKept owner different]⟩
  case begun =>
      intro other underWay begun
      by_cases isSid : other = sid
      · subst isSid
        simp [sessions, Phase.unfinished] at underWay
      · rw [System.own, connections, sessionsKept other isSid] at begun
        rw [sessionsKept other isSid] at underWay ⊢
        obtain ⟨waiting, member, notReady, owns⟩ :=
          custody.begun other underWay begun
        refine ⟨waiting, ?_, notReady, owns⟩
        rw [store] at member
        rcases List.mem_cons.mp member with rfl | member
        · have there : waiting.connection ∈ s.places (.session other) := by
            simp [System.places, Session.held_of_unfinished underWay, owns]
          exact absurd (custody.only_session (by simp [holds]) there) isSid
        · rw [← split, List.mem_append] at member
          rw [pool]
          rcases member with taken | stays
          · rw [allReady waiting taken] at notReady
            cases notReady
          · exact stays
  case unbegun =>
      intro other early
      by_cases isSid : other = sid
      · subst isSid
        simp [sessions, Phase.early] at early
      · rw [System.own, connections, sessionsKept other isSid]
        rw [sessionsKept other isSid] at early
        exact custody.unbegun other early

/-- `force_commit` parks or destroys the connection of the transaction it
erases. -/
theorem forceCommit [FrameBytes] (custody : Custody s) {poolSockets : Nat}
    {turns : CommitTurns} {forcing : Forcing} {transaction : Transaction}
    (located : s.pool.transactionStore[forcing.position]? = some transaction)
    (ready : transaction.ready)
    (stepped : after = s.forceCommit poolSockets turns forcing transaction
      transaction) : Custody after := by
  obtain ⟨front, back, store, erased⟩ := Pool.erase_split located
  have storeNow : after.pool.transactionStore = front ++ back := by
    simp [stepped, Pool.eraseTransaction, erased]
  have member : transaction ∈ s.pool.transactionStore := by simp [store]
  have held : transaction.connection ∈ s.places .deferred :=
    place_of_ready member ready
  have sessions : after.sessions = s.sessions := by simp [stepped]
  obtain ⟨alone, notBatched⟩ := custody.deferred_alone store ready
  refine custody.leave (c := transaction.connection) .deferred (by simp)
    ?leaves ?others ?active ?parked ?next ?connections ?sublist
    ?kept ?notStored ?batch ?phases ?notOwn
  case leaves =>
      simp only [System.places, store, storeNow, List.filter_append,
        List.map_append, List.filter_cons, ready, if_true, List.map_cons]
      exact List.perm_middle
  case others =>
      intro place notParked notDeferred
      cases place with
      | parked => exact absurd rfl notParked
      | deferred => exact absurd rfl notDeferred
      | session other => simp [System.places, sessions]
  case active => simp [stepped, Pool.eraseTransaction]
  case parked =>
      rw [stepped]
      exact releaseConnection_ready poolSockets _
        (s.attempt transaction true turns)
  case next => simp [stepped]
  case connections =>
      intro x different
      simp [stepped, Function.update_of_ne different]
  case sublist =>
      rw [store, storeNow]
      exact (List.sublist_cons_self _ _).append_left _
  case kept =>
      intro other isThere different
      rw [store] at isThere
      rw [storeNow]
      simp only [List.mem_append, List.mem_cons] at isThere ⊢
      rcases isThere with before | rfl | behind
      · exact .inl before
      · exact absurd rfl different
      · exact .inr behind
  case notStored => exact storeNow ▸ alone
  case batch =>
      intro sid waiting isThere
      rw [sessions] at isThere
      exact ⟨isThere, notBatched sid waiting isThere⟩
  case phases => simp [sessions]
  case notOwn =>
      refine custody.not_own held ?_
      intro sid impossible
      cases impossible

/-- The COMMIT of a batch leaves the session with what it holds. -/
theorem commitTransaction [FrameBytes] (custody : Custody s)
    {turns : CommitTurns} {transaction : Transaction}
    {batch : List Transaction} {receipt : Bool}
    (committing : (s.sessions sid).phase =
      .committing transaction batch receipt)
    (stepped : after = (s.attempt transaction receipt turns
      |>.setPhase sid
          (if (s.own sid).self = some transaction.connection
            then System.afterBatch batch receipt
            else .returning transaction.connection batch receipt))) :
    Custody after := by
  have nodup : (s.sessions sid).held.Nodup :=
    custody.exclusive.nodup (.session sid)
  have isSelf : (s.own sid).self = some (s.sessions sid).connection := by
    refine custody.self (.session sid) _ (Session.own_mem_held ?_ ?_) <;>
      simp [committing]
  subst stepped
  refine custody.quietSession rfl rfl
    (System.attempt_connections transaction receipt turns s)
    (commitTransaction_continues transaction.id receipt turns _).toSameHandle
    rfl rfl ?held ?batch ?stays ?began ?early
  case held =>
      by_cases own : transaction.connection = (s.sessions sid).connection
      · have holds : (s.sessions sid).held = (s.sessions sid).connection ::
            batch.map Transaction.connection := by
          simp [Session.held, committing, own]
        rw [holds] at nodup ⊢
        rw [isSelf, if_pos (by rw [own])]
        exact Session.held_afterBatch (List.nodup_cons.mp nodup).1
      · have holds : (s.sessions sid).held = (s.sessions sid).connection ::
            transaction.connection :: batch.map Transaction.connection := by
          simp [Session.held, committing, own]
        rw [holds, isSelf, if_neg (by simpa using Ne.symm own)]
        rfl
  case batch =>
      intro waiting member
      rw [committing]
      refine List.mem_cons_of_mem _ ?_
      split at member
      · rwa [batch_afterBatch] at member
      · exact member
  case stays => simp [committing, Phase.unfinished]
  case began =>
      split
      · simp
      · simp [Phase.unfinished]
  case early =>
      split
      · simp
      · simp [Phase.early]

theorem init (name : String) : Custody (System.init name) := by
  have empty : ∀ place, (System.init name).places place = [] := by
    intro place
    cases place <;> rfl
  have active : (System.init name).pool.active = [] := rfl
  constructor
  case exclusive => exact Exclusive.of_empty empty
  case active_iff | known | self => simp [empty, active]
  all_goals simp [System.init, Phase.batch, Phase.unfinished, Phase.early]

theorem get [QueryDecoding] (custody : Custody s) {uri : Uri}
    {maxPoolSockets : Nat}
    (stepped : s.get sid uri maxPoolSockets = some after) : Custody after := by
  obtain ⟨idle, _, rfl | ⟨obtained, got, rfl⟩⟩ := System.get_cases stepped
  · exact custody
  · exact custody.handOver idle got

theorem connect [PassHash] [FrameBytes] (custody : Custody s)
    {turns : ConnectTurns} (stepped : s.connect sid turns = some after) :
    Custody after := by
  obtain ⟨uri, phase, result⟩ := System.connect_cases stepped
  have unbegun : (s.own sid).withTransaction = false :=
    custody.unbegun sid (by simp [phase, Phase.early])
  have handle := connect_sameHandle uri turns
  rcases result with ⟨c, returned, rfl⟩ | ⟨error, c, thrown, rfl⟩
  · refine custody.quietSession rfl rfl rfl (handle.returned returned) rfl rfl
      ?_ ?_ ?_ ?_ ?_
    all_goals dsimp only [System.setConnection_sessions]
    all_goals split <;>
      simp_all [Session.held, Phase.batch, Phase.unfinished, Phase.early]
  · refine custody.quietSession rfl rfl rfl
      (initFailed_sameHandle (handle.thrown thrown)) rfl rfl ?_ ?_ ?_ ?_ ?_
    all_goals dsimp only [System.setConnection_sessions]
    all_goals split <;>
      simp_all [Session.held, Phase.batch, Phase.unfinished, Phase.early]

theorem begin [FrameBytes] (custody : Custody s) {requestLimit : Nat}
    {turns : Exchange}
    (stepped : s.begin sid requestLimit turns = some after) :
    Custody after := by
  obtain ⟨phase, result⟩ := System.begin_cases stepped
  have handle := sendBegin_harmless requestLimit turns
  rcases result with ⟨c, returned, rfl⟩ | ⟨error, c, thrown, rfl⟩
  · refine custody.quietSession rfl rfl rfl
      (handle.returned returned).toSameHandle rfl rfl ?_ ?_ ?_ ?_ ?_
    all_goals simp [phase, Session.held, Phase.batch, Phase.unfinished,
      Phase.early]
  · refine custody.quietSession rfl rfl rfl
      (initFailed_sameHandle (handle.thrown thrown).toSameHandle) rfl rfl
      ?_ ?_ ?_ ?_ ?_
    all_goals dsimp only [System.setConnection_sessions]
    all_goals split <;>
      simp [phase, Session.held, Phase.batch, Phase.unfinished, Phase.early]

theorem content [FrameBytes] (custody : Custody s) {row : Row}
    {now requestLimit : Nat} {turns : Exchange}
    (stepped : s.content sid row now requestLimit turns = some after) :
    Custody after := by
  obtain ⟨phase, rfl⟩ := System.content_cases stepped
  exact custody.quietSession rfl rfl rfl
    (capstompContent_continues row now requestLimit turns _).toSameHandle
    rfl rfl (by simp [Session.held, phase]) (by simp [phase])
    (fun unfinished _ => unfinished) (fun unfinished _ => unfinished) id

theorem deinit (custody : Custody s) (stepped : s.deinit sid = some after) :
    Custody after := by
  obtain ⟨phase, rfl⟩ := System.deinit_cases stepped
  refine custody.quietSession (x := 0) rfl rfl
    (Function.update_eq_self _ _).symm (.refl _) rfl rfl ?_ ?_ ?_ ?_ ?_
  all_goals simp [phase, Session.held, Phase.batch, Phase.unfinished,
    Phase.early]

theorem commit (custody : Custody s) (queue : Queue s) {endReady : Bool}
    {requestLimit : Nat}
    (stepped : s.commit sid endReady requestLimit = some after) :
    Custody after := by
  obtain ⟨phase, ⟨without, rfl⟩ |
    ⟨node, batch, pool, begun, isNode, unlocked, taken, rfl⟩⟩ :=
    System.commit_cases stepped
  · refine custody.quietSession (x := 0) rfl rfl
      (Function.update_eq_self _ _).symm (.refl _) rfl rfl ?_ ?_ ?_ ?_ ?_
    all_goals simp [phase, without, Session.held, Phase.batch,
      Phase.unfinished, Phase.early]
  · have unfinished : (s.sessions sid).phase.unfinished := by
      simp [phase, Phase.unfinished]
    obtain ⟨front, transaction, back, store, rfl, unready, isOwn⟩ :=
      custody.finds unfinished begun isNode
    cases front with
    | nil =>
        rw [List.nil_append] at store
        rw [Pool.getUncommited_first endReady store queue.distinct] at taken
        cases taken
        exact custody.takeOver unfinished store unready isOwn rfl rfl rfl rfl
    | cons head front =>
        rw [Pool.getUncommited_later endReady store (by simp) queue.distinct]
          at taken
        cases taken
        exact custody.defer unfinished store unready isOwn rfl rfl rfl rfl

theorem forceNext [FrameBytes] (custody : Custody s) (queue : Queue s)
    {poolSockets : Nat} {turns : CommitTurns}
    (stepped : s.forceNext poolSockets turns = some after) :
    Custody after := by
  obtain ⟨forcing, transaction, forced, located,
    ⟨unready, rfl⟩ | ⟨pointed, ready, found, _, stepped⟩⟩ :=
    System.forceNext_cases stepped
  · exact custody.quiet rfl rfl (fun _ => .refl _) (fun _ => rfl)
      (fun _ => rfl) (fun _ _ member => member) (fun _ unfinished _ => unfinished)
      (fun _ unfinished _ => unfinished) (fun _ early => early)
  · have same := custody.pointed_eq queue.distinct
      (List.mem_of_getElem? located) found
    rw [same] at stepped
    exact custody.forceCommit located ready stepped

/-- Locking and unlocking change nothing that custody is about. -/
theorem setForcing (custody : Custody s) (forcing : Option Forcing) :
    Custody { s with forcing := forcing } :=
  custody.quiet rfl rfl (fun _ => .refl _) (fun _ => rfl) (fun _ => rfl)
    (fun _ _ member => member) (fun _ unfinished _ => unfinished)
    (fun _ unfinished _ => unfinished) (fun _ early => early)

theorem step [QueryDecoding] [PassHash] [FrameBytes] {action : Action}
    (custody : Custody s) (queue : Queue s)
    (stepped : s.step action = some after) : Custody after := by
  cases action with
  | get sid uri maxPoolSockets => exact custody.get stepped
  | connect sid turns => exact custody.connect stepped
  | createTransaction sid =>
      obtain ⟨self, creating, isSelf, _, stepped⟩ :=
        System.createTransaction_cases stepped
      exact custody.createTransaction creating isSelf stepped
  | begin sid requestLimit turns => exact custody.begin stepped
  | content sid row now requestLimit turns => exact custody.content stepped
  | deinit sid => exact custody.deinit stepped
  | commit sid endReady requestLimit => exact custody.commit queue stepped
  | commitTransaction sid turns =>
      obtain ⟨transaction, batch, receipt, committing, stepped⟩ :=
        System.commitTransaction_cases stepped
      exact custody.commitTransaction committing stepped
  | releaseDeferred sid poolSockets =>
      obtain ⟨c, batch, receipt, returning, _, stepped⟩ :=
        System.releaseDeferred_cases stepped
      exact custody.releaseDeferred returning stepped
  | release sid requestLimit poolSockets =>
      obtain ⟨self, releasing, isSelf, _, stepped⟩ :=
        System.release_cases stepped
      exact custody.release releasing isSelf stepped
  | forceLock =>
      obtain ⟨_, rfl⟩ := System.forceLock_cases stepped
      exact custody.setForcing _
  | forceNext poolSockets turns => exact custody.forceNext queue stepped
  | forceUnlock =>
      obtain ⟨_, _, _, rfl⟩ := System.forceUnlock_cases stepped
      exact custody.setForcing _

end Custody

end Capstomp
