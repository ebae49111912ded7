import Capstomp.Wire

/-!
# Transactions on the wire

The frames of a session with transactions begin a sequence BEGIN, SENDs,
COMMIT on one socket, whoever commits it and whatever fails.  The invariant
follows every session through its phases, and every transaction whose COMMIT
was not attempted on the connection that began it.
-/

namespace Capstomp

open General

/-- The transaction begun on the connection, by the session it was handed to,
is uncommitted. -/
def System.HalfDone (s : System) (c : ConnId) : Prop :=
  (s.sessions (s.connections c).owner).connection = c ∧
    Uncommitted (s.connections c).owner (s.sessions (s.connections c).owner)
      (s.connections c)

structure Told (s : System) : Prop where
  off : ∀ sid, (s.sessions sid).phase = .idle →
    (s.sessions sid).conf.transaction = false
  assigned : ∀ sid, (s.sessions sid).phase ≠ .idle →
    (s.sessions sid).connection < s.nextConnection
  /-- A frame is tagged with a session that was given the connection. -/
  home : ∀ c, ∀ written ∈ (s.connections c).written,
    (s.sessions written.session).phase ≠ .idle ∧
      (s.sessions written.session).connection = c
  story : ∀ sid, Story sid (s.sessions sid) (s.own sid)
  pending : ∀ transaction, s.Pending transaction →
    s.HalfDone transaction.connection

namespace Told

variable {s after : System} {sid : SessionId}

theorem HalfDone.keep {y : ConnId} (half : s.HalfDone y)
    (connection : after.connections y = s.connections y)
    (advances : Advances (s.sessions (s.connections y).owner)
      (after.sessions (s.connections y).owner)) : after.HalfDone y := by
  obtain ⟨isHere, uncommitted⟩ := half
  rw [System.HalfDone, connection]
  exact ⟨advances.connection.trans isHere,
    uncommitted.advance (advances.started uncommitted.started)
      advances.beginning advances.rows⟩

/-- A session that is under way is the one its connection was handed to. -/
theorem owner_of_live (ledger : Ledger s) {other : SessionId}
    (live : (s.sessions other).phase.early ∨
      (s.sessions other).phase.unfinished) :
    (s.own other).owner = other := by
  refine ledger.owner other ?_ ?_ <;>
    · intro phase
      simp [phase, Phase.early, Phase.unfinished] at live

/-- A step that changes one connection and one session. -/
theorem extend (told : Told s) (ledger : Ledger s) {x : ConnId}
    {c : Connection} {session : Session}
    (connections : after.connections = Function.update s.connections x c)
    (sessions : after.sessions = Function.update s.sessions sid session)
    (next : after.nextConnection = s.nextConnection)
    (busy : (s.sessions sid).phase ≠ .idle)
    (stillBusy : session.phase ≠ .idle)
    (connection : session.connection = (s.sessions sid).connection)
    (tagged : ∃ more, c.written = (s.connections x).written ++ more ∧
      ∀ w ∈ more, w.session = (s.connections x).owner ∧
        (s.sessions w.session).phase ≠ .idle ∧
        (s.sessions w.session).connection = x)
    (mine : Story sid session (after.own sid))
    (theirs : ∀ other, other ≠ sid → (s.sessions other).connection = x →
      other = (s.connections x).owner →
        Story other (s.sessions other) c)
    (pending : ∀ transaction, after.Pending transaction →
      after.HalfDone transaction.connection) : Told after := by
  have kept : ∀ other, other ≠ sid →
      after.sessions other = s.sessions other := by
    intro other different
    rw [sessions, Function.update_of_ne different]
  have mineNow : after.sessions sid = session := by
    rw [sessions, Function.update_self]
  obtain ⟨more, written, tags⟩ := tagged
  have homes : ∀ other, (s.sessions other).phase ≠ .idle →
      (after.sessions other).phase ≠ .idle ∧
        (after.sessions other).connection =
          (s.sessions other).connection := by
    intro other wasBusy
    by_cases same : other = sid
    · subst same
      rw [mineNow]
      exact ⟨stillBusy, connection⟩
    · rw [kept other same]
      exact ⟨wasBusy, rfl⟩
  constructor
  case off =>
      intro other idle
      by_cases same : other = sid
      · subst same
        rw [mineNow] at idle
        exact absurd idle stillBusy
      · rw [kept other same] at idle ⊢
        exact told.off other idle
  case assigned =>
      intro other notIdle
      rw [next]
      by_cases same : other = sid
      · subst same
        rw [mineNow, connection]
        exact told.assigned other busy
      · rw [kept other same] at notIdle ⊢
        exact told.assigned other notIdle
  case home =>
      intro y w member
      have before : (s.sessions w.session).phase ≠ .idle ∧
          (s.sessions w.session).connection = y := by
        by_cases same : y = x
        · subst same
          rw [connections, Function.update_self, written,
            List.mem_append] at member
          exact member.elim (told.home y w) fun new => (tags w new).2
        · rw [connections, Function.update_of_ne same] at member
          exact told.home y w member
      obtain ⟨notIdle, isHere⟩ := homes w.session before.1
      exact ⟨notIdle, isHere.trans before.2⟩
  case story =>
      intro other
      by_cases same : other = sid
      · subst same
        rw [mineNow]
        exact mine
      · rw [System.own, kept other same, connections]
        by_cases isX : (s.sessions other).connection = x
        · rw [isX, Function.update_self]
          by_cases owner : other = (s.connections x).owner
          · exact theirs other same isX owner
          · have story := told.story other
            rw [System.own, isX] at story
            refine story.keep (framesOf_of_tagged written ?_) ?_
            · intro w member isOther
              exact owner (isOther.symm.trans (tags w member).1)
            · intro live
              have isOwner := owner_of_live ledger live
              rw [System.own, isX] at isOwner
              exact absurd isOwner.symm owner
        · rw [Function.update_of_ne isX]
          exact told.story other
  case pending => exact pending

/-- A step that changes no connection, in which every session goes on and no
transaction becomes pending. -/
theorem quiet (told : Told s) (connections : after.connections = s.connections)
    (next : after.nextConnection = s.nextConnection)
    (advances : ∀ sid, Advances (s.sessions sid) (after.sessions sid))
    (pending : ∀ transaction, after.Pending transaction →
      ∃ original, s.Pending original ∧
        original.connection = transaction.connection) : Told after := by
  have owns : ∀ sid, after.own sid = s.own sid := by
    intro sid
    rw [System.own, connections, (advances sid).connection]
    rfl
  constructor
  case off =>
      intro sid isIdle
      rw [(advances sid).conf]
      exact told.off sid ((advances sid).idle.mp isIdle)
  case assigned =>
      intro sid notIdle
      rw [next, (advances sid).connection]
      exact told.assigned sid (mt (advances sid).idle.mpr notIdle)
  case home =>
      intro c w member
      rw [connections] at member
      obtain ⟨notIdle, isHere⟩ := told.home c w member
      exact ⟨mt (advances _).idle.mp notIdle,
        (advances _).connection.trans isHere⟩
  case story =>
      intro sid
      rw [owns]
      exact (told.story sid).advance (advances sid)
  case pending =>
      intro transaction isPending
      obtain ⟨original, wasPending, same⟩ := pending transaction isPending
      rw [← same]
      exact HalfDone.keep (told.pending original wasPending)
        (by rw [connections]) (advances _)

theorem init (name : String) : Told (System.init name) := by
  constructor
  case off | assigned | home => simp [System.init]
  case story =>
      intro sid
      exact Story.idle rfl rfl
  case pending =>
      rintro transaction (stored | ⟨sid, batched⟩)
      · simp [System.init] at stored
      · simp [System.init, Phase.batch] at batched

theorem handOver [QueryDecoding] (told : Told s) (custody : Custody s)
    {uri : Uri} {maxPoolSockets : Nat} {obtained : Obtained}
    (idle : (s.sessions sid).phase = .idle)
    (got : s.pool.get maxPoolSockets s.nextConnection = .ok obtained) :
    Told (s.handOver sid uri obtained) := by
  have away := custody.obtained_away got
  obtain ⟨notStored, notBatched, notOwn⟩ := custody.unused away
  have unwritten : ∀ c, ∀ w ∈ (s.connections c).written,
      w.session ≠ sid := by
    rintro c w member rfl
    exact (told.home c w member).1 idle
  have kept : ∀ other, other ≠ sid →
      (s.handOver sid uri obtained).sessions other = s.sessions other := by
    intro other different
    simp [Function.update_of_ne different]
  have elsewhere : ∀ c, c ≠ obtained.connection →
      (s.handOver sid uri obtained).connections c = s.connections c := by
    intro c different
    simp [Function.update_of_ne different]
  -- A connection that is new has no frames yet, and a parked one keeps its.
  have new : (s.connections s.nextConnection).written = [] := by
    refine List.eq_nil_iff_forall_not_mem.mpr fun w member => ?_
    obtain ⟨busy, isHere⟩ := told.home _ w member
    have known := told.assigned _ busy
    rw [isHere] at known
    exact Nat.lt_irrefl _ known
  obtain ⟨known, later, frames⟩ : obtained.connection <
        (s.handOver sid uri obtained).nextConnection ∧
      s.nextConnection ≤ (s.handOver sid uri obtained).nextConnection ∧
      ((s.handOver sid uri obtained).connections
          obtained.connection).written =
        (s.connections obtained.connection).written := by
    rcases Pool.get_cases got with
      ⟨rest, ready, reused, _⟩ | ⟨_, isNew, created, _⟩
    · have parked := custody.known .parked obtained.connection
        (by simp [System.places, ready])
      simpa [reused, Connection.handedOver, Connection.init,
        Connection.setSelf] using parked
    · simp [created, isNew, new, Connection.handedOver, Connection.init,
        Connection.setSelf]
  have written : ∀ c, ((s.handOver sid uri obtained).connections c).written =
      (s.connections c).written := by
    intro c
    by_cases same : c = obtained.connection
    · exact same ▸ frames
    · rw [elsewhere c same]
  constructor
  case off =>
      intro other isIdle
      by_cases same : other = sid
      · subst same
        simp at isIdle
      · rw [kept other same] at isIdle ⊢
        exact told.off other isIdle
  case assigned =>
      intro other busy
      by_cases same : other = sid
      · subst same
        simpa using known
      · rw [kept other same] at busy ⊢
        exact Nat.lt_of_lt_of_le (told.assigned other busy) later
  case home =>
      intro c w member
      rw [written] at member
      rw [kept w.session (unwritten c w member)]
      exact told.home c w member
  case story =>
      intro other
      by_cases same : other = sid
      · subst same
        have none : ((s.handOver other uri obtained).connections
            obtained.connection).framesOf other = [] := by
          rw [framesOf_of_written (written obtained.connection)]
          exact List.filter_eq_nil_iff.mpr fun w member => by
            simpa using unwritten _ w member
        simp only [System.own, System.handOver_sessions,
          Function.update_self]
        constructor <;> simp only [none, Phase.unfinished]
        case fresh =>
            intro _ _
            simp [Connection.handedOver, Connection.init, Connection.setSelf]
        case integrity =>
            intro _
            exact .ofNothing ⟨0, by simp⟩ rfl
        all_goals simp
      · rw [System.own, kept other same]
        by_cases isObtained : (s.sessions other).connection =
            obtained.connection
        · refine (told.story other).keep ?_ ?_
          · rw [System.own]
            exact framesOf_of_written (written _)
          · intro live
            simp [notOwn other isObtained] at live
        · rw [elsewhere _ isObtained]
          exact told.story other
  case pending =>
      intro transaction isPending
      have wasPending := (System.pending_congr (Pool.get_spec got).store
        (System.batches_update (System.handOver_sessions sid uri obtained s)
          (by simp [Phase.batch, idle])) transaction).mp isPending
      have half := told.pending transaction wasPending
      have notObtained : transaction.connection ≠ obtained.connection := by
        rcases wasPending with stored | ⟨other, batched⟩
        · exact notStored transaction stored
        · exact notBatched other transaction batched
      refine HalfDone.keep half (elsewhere _ notObtained) ?_
      rw [kept _ fun isSid => half.2.started.1 (by rw [isSid]; exact idle)]
      exact .refl _

/-- The sessions beside the acting one keep their unfinished transactions,
when only the connection of the acting one changes. -/
theorem elsewhere {c : Connection} {session : Session} {y : ConnId}
    (half : s.HalfDone y)
    (connections : after.connections =
      Function.update s.connections (s.sessions sid).connection c)
    (sessions : after.sessions = Function.update s.sessions sid session)
    (different : y ≠ (s.sessions sid).connection) : after.HalfDone y := by
  have other : (s.connections y).owner ≠ sid := by
    intro isSid
    have isHere := half.1
    rw [isSid] at isHere
    exact different isHere.symm
  refine HalfDone.keep half ?_ ?_
  · rw [connections, Function.update_of_ne different]
  · rw [sessions, Function.update_of_ne other]
    exact .refl _

/-- A step of one session on its own connection. -/
theorem ownStep (told : Told s) (ledger : Ledger s) {c : Connection}
    {session : Session}
    (connections : after.connections =
      Function.update s.connections (s.sessions sid).connection c)
    (sessions : after.sessions = Function.update s.sessions sid session)
    (next : after.nextConnection = s.nextConnection)
    (live : (s.sessions sid).phase.early ∨ (s.sessions sid).phase.unfinished)
    (stillBusy : session.phase ≠ .idle)
    (connection : session.connection = (s.sessions sid).connection)
    (tagged : ∃ more, c.written = (s.own sid).written ++ more ∧
      ∀ w ∈ more, w.session = (s.own sid).owner)
    (mine : Story sid session c)
    (pending : ∀ transaction, after.Pending transaction →
      transaction.connection ≠ (s.sessions sid).connection →
        s.Pending transaction)
    (own : ∀ transaction, after.Pending transaction →
      transaction.connection = (s.sessions sid).connection →
        Uncommitted sid session c) (owner : c.owner = (s.own sid).owner) :
    Told after := by
  have isOwner := owner_of_live ledger live
  have busy : (s.sessions sid).phase ≠ .idle := by
    intro idle
    simp [idle, Phase.early, Phase.unfinished] at live
  have ownNow : after.own sid = c := by
    rw [System.own, sessions, Function.update_self, connections, connection,
      Function.update_self]
  refine told.extend ledger connections sessions next busy stillBusy
    connection ?_ (ownNow ▸ mine) ?_ ?_
  · obtain ⟨more, written, tags⟩ := tagged
    refine ⟨more, written, fun w member => ⟨tags w member, ?_⟩⟩
    rw [tags w member, isOwner]
    exact ⟨busy, rfl⟩
  · intro other different _ isOther
    exact absurd (isOther.trans isOwner) different
  · intro transaction isPending
    by_cases same : transaction.connection = (s.sessions sid).connection
    · rw [same, System.HalfDone, connections, Function.update_self,
        owner, isOwner, sessions, Function.update_self]
      exact ⟨connection, own transaction isPending same⟩
    · exact elsewhere
        (told.pending transaction (pending transaction isPending same))
        connections sessions same

/-- Before `commit` a session has no batch. -/
theorem batch_of_live {phase : Phase} (live : phase.early ∨ phase.unfinished) :
    phase.batch = [] := by
  cases phase <;> first | rfl | simp [Phase.early, Phase.unfinished] at live

/-- A call of one session on its own connection, outside the mutex. -/
theorem ownCall (told : Told s) (custody : Custody s) (ledger : Ledger s)
    {c : Connection} {phase : Phase} {rows : List RowResult}
    (stepped : after = (s.setConnection (s.sessions sid).connection c
      |>.setSession sid
        { s.sessions sid with phase := phase, rows := rows }))
    (live : (s.sessions sid).phase.early ∨ (s.sessions sid).phase.unfinished)
    (stillLive : phase.early ∨ phase.unfinished)
    (owner : c.owner = (s.own sid).owner)
    (tagged : ∃ more, c.written = (s.own sid).written ++ more ∧
      ∀ w ∈ more, w.session = (s.own sid).owner)
    (mine : Story sid { s.sessions sid with phase := phase, rows := rows } c)
    (own : (s.own sid).withTransaction →
      Uncommitted sid (s.sessions sid) (s.own sid) →
        Uncommitted sid { s.sessions sid with phase := phase, rows := rows }
          c) : Told after := by
  subst stepped
  have pendings := System.pending_congr
    (show (s.setConnection (s.sessions sid).connection c |>.setSession sid
      { s.sessions sid with phase := phase, rows := rows }
      ).pool.transactionStore = s.pool.transactionStore from rfl)
    (System.batches_update rfl
      ((batch_of_live stillLive).trans (batch_of_live live).symm))
  refine told.ownStep ledger rfl rfl rfl live ?busy rfl tagged mine
    ?pending ?own owner
  case busy =>
      rintro rfl
      simp [Phase.early, Phase.unfinished] at stillLive
  case pending => exact fun transaction isPending _ =>
      (pendings transaction).mp isPending
  case own =>
      intro transaction isPending same
      have wasPending := (pendings transaction).mp isPending
      have half := told.pending transaction wasPending
      have linked := custody.linked_of_pending wasPending
      rw [same, System.HalfDone, ← System.own, owner_of_live ledger live]
        at half
      rw [same, ← System.own] at linked
      exact own linked.withTransaction half.2

theorem connect [PassHash] [FrameBytes] (told : Told s)
    (custody : Custody s) (ledger : Ledger s)
    {turns : ConnectTurns} (stepped : s.connect sid turns = some after) :
    Told after := by
  obtain ⟨uri, phase, result⟩ := System.connect_cases stepped
  have early : (s.sessions sid).phase.early := by simp [phase, Phase.early]
  have isOwner := owner_of_live ledger (.inl early)
  obtain ⟨unwritten, conf⟩ := (told.story sid).fresh uri phase
  have noRows := (told.story sid).noRows (.inl early)
  have connects := connect_connects uri turns (s.own sid)
  have frames := connects.frames isOwner unwritten
  have tagged := connects.tagged
  have handle := connects.toSameHandle
  have notBegun {session : Session} {c : Connection}
      (_ : (s.own sid).withTransaction)
      (uncommitted : Uncommitted sid (s.sessions sid) (s.own sid)) :
      Uncommitted sid session c := by
    simp [uncommitted.started.2] at early
  rcases result with ⟨c, returned, stepped⟩ | ⟨error, c, thrown, stepped⟩
  · rw [returned, leftBehind_ok] at frames tagged handle
    refine told.ownCall custody ledger stepped (.inl early) ?_ handle.owner tagged
      (.ofConnect frames.1 frames.2 noRows ?_) notBegun
    · split <;> simp [Phase.early, Phase.unfinished]
    · rw [handle.conf, conf]
  · rw [thrown, leftBehind_error] at frames tagged handle
    refine told.ownCall custody ledger stepped (.inl early) ?_ handle.owner tagged
      (.ofClosed (frames.1.keep (Connection.close_continues c) rfl) frames.2
        rfl ?_) notBegun
    · split <;> simp [Phase.unfinished]
    · dsimp only
      split <;> simp

theorem createTransaction (told : Told s) (ledger : Ledger s)
    (custody : Custody s) {self : ConnId}
    (creating : (s.sessions sid).phase = .creating)
    (isSelf : (s.own sid).self = some self)
    (stepped : after = ({ s with pool := s.pool.createTransaction self }
        |>.setConnection (s.sessions sid).connection
            ((s.own sid).setTransaction (s.pool.newTransaction self).node
              (s.pool.newTransaction self).id)
        |>.setPhase sid .beginning
        |>.record [.created sid (s.pool.newTransaction self).node self])) :
    Told after := by
  have isOwn := custody.self_eq (by simp [creating]) (by simp [creating]) isSelf
  have early : (s.sessions sid).phase.early := by simp [creating, Phase.early]
  obtain ⟨oneSocket, nothing⟩ := (told.story sid).creating creating
  have noRows := (told.story sid).noRows (.inl early)
  have uncommitted : Uncommitted sid
      { s.sessions sid with phase := .beginning }
      ((s.own sid).setTransaction (s.pool.newTransaction self).node
        (s.pool.newTransaction self).id) :=
    ⟨by simp [Phase.started, Phase.early], oneSocket, .inl nothing,
      fun _ => ⟨nothing, noRows⟩, fun impossible => absurd rfl impossible⟩
  subst stepped
  refine told.ownStep ledger rfl
    (show _ = Function.update s.sessions sid
      { s.sessions sid with phase := .beginning } from rfl) rfl (.inl early)
    (by simp) rfl ⟨[], by simp [Connection.setTransaction], by simp⟩
    (.ofIntegrity uncommitted.started ?begun (fun _ => noRows)
      uncommitted.integrity) ?pending (fun _ _ _ => uncommitted) rfl
  case begun =>
      intro _
      simp [Connection.withTransaction, Connection.setTransaction,
        Pool.newTransaction, transactionText_ne_empty]
  case pending =>
      rintro transaction (stored | ⟨other, batched⟩) different
      · simp only [System.record_pool, System.setPhase_pool,
          System.setConnection_pool, Pool.createTransaction, List.mem_append,
          List.mem_singleton] at stored
        refine .inl (stored.resolve_right ?_)
        rintro rfl
        exact different isOwn
      · refine .inr ⟨other, ?_⟩
        rwa [System.batches_update
          (show _ = Function.update s.sessions sid
            { s.sessions sid with phase := .beginning } from rfl)
          (by simp [creating, Phase.batch])] at batched

/-- A session under way that has begun a transaction has not committed it. -/
theorem own_uncommitted (told : Told s) (custody : Custody s)
    (ledger : Ledger s) (unfinished : (s.sessions sid).phase.unfinished)
    (begun : (s.own sid).withTransaction) :
    Uncommitted sid (s.sessions sid) (s.own sid) := by
  obtain ⟨transaction, stored, _, isOwn⟩ := custody.begun sid unfinished begun
  have half := told.pending transaction (.inl stored)
  rw [isOwn, System.HalfDone, ← System.own,
    owner_of_live ledger (.inr unfinished)] at half
  exact half.2

theorem begin [FrameBytes] (told : Told s) (custody : Custody s)
    (ledger : Ledger s) {requestLimit : Nat} {turns : Exchange}
    (stepped : s.begin sid requestLimit turns = some after) :
    Told after := by
  obtain ⟨beginning, result⟩ := System.begin_cases stepped
  have unfinished : (s.sessions sid).phase.unfinished := by
    simp [beginning, Phase.unfinished]
  have isOwner := owner_of_live ledger (.inr unfinished)
  have begun := (told.story sid).beginning beginning
  have uncommitted := told.own_uncommitted custody ledger unfinished begun
  have may := sendBegin_mayWrite requestLimit turns (s.own sid)
  rcases result with ⟨c, returned, stepped⟩ | ⟨error, c, thrown, stepped⟩
  · rw [returned, leftBehind_ok] at may
    have now : Uncommitted sid { s.sessions sid with phase := .rows } c :=
      uncommitted.begin isOwner beginning may
        (fun _ => sendBegin_wrote returned) (by simp [Phase.started, Phase.early])
        (by simp) rfl
    exact told.ownCall custody ledger stepped (.inr unfinished) (.inr rfl)
      may.owner may.tagged
      (.ofIntegrity now.started
        (fun _ => may.withTransaction.trans begun) (by simp) now.integrity)
      fun _ _ => now
  · rw [thrown, leftBehind_error] at may
    have closed : MayWrite (.begin (s.own sid).transactionId) (s.own sid)
        c.close :=
      ⟨.trans _ _ _ may.toContinues (Connection.close_continues c), may.wrote⟩
    obtain ⟨phase, isPhase, isNext⟩ : ∃ phase,
        (if c.close.withNoError then Phase.rows else .ending) = phase ∧
          (phase = .rows ∨ phase = .ending) := by
      refine ⟨_, rfl, ?_⟩
      split <;> simp
    rw [System.initFailed, isPhase] at stepped
    have now : Uncommitted sid { s.sessions sid with phase := phase }
        c.close := by
      refine uncommitted.begin isOwner beginning closed ?_ ?_ ?_ rfl
      · intro impossible
        simp [Connection.good] at impossible
      · rcases isNext with rfl | rfl <;> simp [Phase.started, Phase.early]
      · rcases isNext with rfl | rfl <;> simp
    refine told.ownCall custody ledger stepped (.inr unfinished) (.inr ?_)
      closed.owner closed.tagged
      (.ofIntegrity now.started
        (fun _ => closed.withTransaction.trans begun) ?_ now.integrity)
      fun _ _ => now
    · rcases isNext with rfl | rfl <;> rfl
    · rcases isNext with rfl | rfl <;> simp

theorem content [FrameBytes] (told : Told s) (custody : Custody s)
    (ledger : Ledger s) {row : Row} {now requestLimit : Nat}
    {turns : Exchange}
    (stepped : s.content sid row now requestLimit turns = some after) :
    Told after := by
  obtain ⟨phase, stepped⟩ := System.content_cases stepped
  have unfinished : (s.sessions sid).phase.unfinished := by
    simp [phase, Phase.unfinished]
  have isOwner := owner_of_live ledger (.inr unfinished)
  have outcome := capstompContent_cases row now requestLimit turns (s.own sid)
  obtain ⟨may, clean⟩ : MayWrite
        (sendBody (rowDestination (s.own sid).destination row.routingKey)
          (rowHeaders row) row.payload now (s.own sid)) (s.own sid)
        (capstompContent row now requestLimit turns (s.own sid)).2 ∧
      ((capstompContent row now requestLimit turns (s.own sid)).2.good →
        (capstompContent row now requestLimit turns (s.own sid)).1 ≠
          .failed) := by
    rcases outcome with
      ⟨_, same⟩ | ⟨_, closed, may⟩ | ⟨count, sent, continues, wrote⟩
    · rw [same]
      exact ⟨⟨.refl _, .inl rfl⟩, by simp⟩
    · exact ⟨may, by simp [closed]⟩
    · exact ⟨⟨continues, .inr wrote⟩, by simp [sent]⟩
  cases begun : (s.own sid).withTransaction with
  | true =>
      have uncommitted := told.own_uncommitted custody ledger unfinished begun
      have next : Uncommitted sid { s.sessions sid with
            rows := (s.sessions sid).rows ++
              [(capstompContent row now requestLimit turns (s.own sid)).1] }
          (capstompContent row now requestLimit turns (s.own sid)).2 :=
        uncommitted.row isOwner (by simp [phase]) rfl ?_ may clean rfl rfl
      · exact told.ownCall custody ledger stepped (.inr unfinished)
          (.inr unfinished) may.owner may.tagged
          (.ofIntegrity next.started (fun _ => may.withTransaction.trans begun)
            (by simp [phase]) next.integrity) fun _ _ => next
      · simp [sendBody, Body.SendsIn, contentHeaders, begun]
  | false =>
      have unbegun := begun
      rw [← may.withTransaction] at unbegun
      -- With the setting on, `connect` has failed and nothing can be sent.
      have idle (on : (s.sessions sid).conf.transaction) :
          (capstompContent row now requestLimit turns (s.own sid)).2.good =
              false ∧
            (capstompContent row now requestLimit turns
              (s.own sid)).2.framesOf sid = (s.own sid).framesOf sid ∧
            transactionBodies ((s.own sid).framesOf sid) = [] := by
        obtain ⟨isClosed, nothing⟩ :=
          (told.story sid).without unfinished on begun
        have socket : (s.own sid).socket = none := by
          simpa [Connection.good] using isClosed
        refine ⟨by simp [Connection.good, may.closed socket], ?_, nothing⟩
        rcases may.wrote with same | wrote
        · exact framesOf_of_written same
        · simp [wrote.good] at isClosed
      refine told.ownCall custody ledger stepped (.inr unfinished)
        (.inr unfinished) may.owner may.tagged ?_ ?_
      · constructor
        case without =>
            intro _ on _
            obtain ⟨isClosed, frames, nothing⟩ := idle on
            exact ⟨isClosed, frames ▸ nothing⟩
        case integrity =>
            intro on
            obtain ⟨_, frames, nothing⟩ := idle on
            rw [frames]
            exact .ofNothing ((told.story sid).integrity on).oneSocket nothing
        all_goals simp [phase, Phase.early]
      · intro impossible
        simp [begun] at impossible

theorem advances_update {session : Session}
    (sessions : after.sessions = Function.update s.sessions sid session)
    (advances : Advances (s.sessions sid) session) (other : SessionId) :
    Advances (s.sessions other) (after.sessions other) := by
  by_cases same : other = sid
  · subst same
    rwa [sessions, Function.update_self]
  · rw [sessions, Function.update_of_ne same]
    exact .refl _

theorem deinit (told : Told s) (stepped : s.deinit sid = some after) :
    Told after := by
  obtain ⟨phase, rfl⟩ := System.deinit_cases stepped
  have pendings := System.pending_congr
    (show (s.setPhase sid .ending).pool.transactionStore =
      s.pool.transactionStore from rfl)
    (System.batches_update rfl (by simp [phase, Phase.batch]))
  refine told.quiet rfl rfl (advances_update rfl (.ofPhase ?_ ?_ ?_ ?_ ?_))
    fun transaction isPending =>
      ⟨transaction, (pendings transaction).mp isPending, rfl⟩
  all_goals simp [phase, Phase.started, Phase.early, Phase.unfinished]

theorem commit (told : Told s) {endReady : Bool} {requestLimit : Nat}
    (stepped : s.commit sid endReady requestLimit = some after) :
    Told after := by
  obtain ⟨phase, ⟨_, rfl⟩ |
    ⟨node, batch, pool, _, _, _, taken, rfl⟩⟩ := System.commit_cases stepped
  · have pendings := System.pending_congr
      (show (s.setPhase sid .releasing).pool.transactionStore =
        s.pool.transactionStore from rfl)
      (System.batches_update rfl (by simp [phase, Phase.batch]))
    refine told.quiet rfl rfl (advances_update rfl (.ofPhase ?_ ?_ ?_ ?_ ?_))
      fun transaction isPending =>
        ⟨transaction, (pendings transaction).mp isPending, rfl⟩
    all_goals simp [phase, Phase.started, Phase.early, Phase.unfinished]
  · refine told.quiet rfl rfl
      (advances_update rfl (.ofFinishing ?began ?begun ?finishing)) ?pending
    case began => simp [phase, Phase.started, Phase.early]
    case begun => simp [phase]
    case finishing =>
        split
        · simp [Phase.finishing, Phase.started, Phase.early, Phase.unfinished]
        · exact finishing_afterBatch _ _
    case pending =>
        intro transaction isPending
        have origin (member : transaction ∈ batch ∨
            transaction ∈ pool.transactionStore) :
            ∃ original, s.Pending original ∧
              original.connection = transaction.connection := by
          obtain ⟨original, stored, same⟩ :=
            Pool.connection_of_getUncommited endReady node s.pool
              (by rw [taken]; exact member)
          exact ⟨original, .inl stored, same⟩
        rcases isPending with stored | ⟨other, batched⟩
        · exact origin (.inr stored)
        · by_cases same : other = sid
          · subst same
            refine origin (.inl ?_)
            simp only [System.record_sessions, System.setPhase_sessions,
              Function.update_self] at batched
            split at batched
            · simp [Phase.batch] at batched
            · simpa using batched
          · refine ⟨transaction, .inr ⟨other, ?_⟩, rfl⟩
            simpa [Function.update_of_ne same] using batched

/-- The session that began a transaction which is being committed is past its
`begin`. -/
theorem begun_of_place (told : Told s) (custody : Custody s)
    {transaction : Transaction} {place : Place}
    (pending : s.Pending transaction)
    (held : transaction.connection ∈ s.places place)
    (finished : ∀ other, place = .session other →
      (s.sessions other).phase.unfinished = false) :
    (s.sessions (s.connections transaction.connection).owner).phase ≠
      .beginning := by
  intro beginning
  obtain ⟨isHere, _⟩ := told.pending transaction pending
  have unfinished : (s.sessions
      (s.connections transaction.connection).owner).phase.unfinished := by
    simp [beginning, Phase.unfinished]
  have there : transaction.connection ∈ s.places
      (.session (s.connections transaction.connection).owner) := by
    simp [System.places, Session.held_of_unfinished unfinished, isHere]
  cases custody.only held there
  rw [finished _ rfl] at unfinished
  cases unfinished

/-- A COMMIT that is attempted completes the frames of its session. -/
theorem attempted [FrameBytes] (told : Told s) (custody : Custody s)
    {transaction : Transaction} {place : Place}
    (pending : s.Pending transaction)
    (held : transaction.connection ∈ s.places place)
    (finished : ∀ other, place = .session other →
      (s.sessions other).phase.unfinished = false) (receipt : Bool)
    (turns : CommitTurns) :
    let c := s.connections transaction.connection
    let after := c.commitTransaction transaction.id receipt turns
    (∃ more, after.written = c.written ++ more ∧
      ∀ w ∈ more, w.session = c.owner ∧
        (s.sessions w.session).phase ≠ .idle ∧
        (s.sessions w.session).connection = transaction.connection) ∧
      Integrity (s.sessions c.owner).rows (after.framesOf c.owner) := by
  intro c after
  obtain ⟨isHere, uncommitted⟩ := told.pending transaction pending
  have may : MayWrite (.commit c.transactionId) c after := by
    rw [(custody.linked_of_pending pending).id]
    exact commitTransaction_mayWrite transaction.id receipt turns c
  refine ⟨?_, uncommitted.commit rfl
    (told.begun_of_place custody pending held finished) may⟩
  obtain ⟨more, written, tags⟩ := may.tagged
  refine ⟨more, written, fun w member => ⟨tags w member, ?_⟩⟩
  rw [tags w member]
  exact ⟨uncommitted.started.1, isHere⟩

theorem commitTransaction [FrameBytes] (told : Told s) (custody : Custody s)
    (ledger : Ledger s) {turns : CommitTurns} {transaction : Transaction}
    {batch : List Transaction} {receipt : Bool} {phase : Phase}
    (committing : (s.sessions sid).phase =
      .committing transaction batch receipt)
    (finishing : phase.finishing) (next : phase.batch = batch)
    (stepped : after = (s.attempt transaction receipt turns
      |>.setPhase sid phase)) : Told after := by
  have isNext : transaction ∈ (s.sessions sid).phase.batch := by
    simp [committing, Phase.batch]
  have isPending : s.Pending transaction := .inr ⟨sid, isNext⟩
  have held : transaction.connection ∈ s.places (.session sid) :=
    Custody.place_of_batch isNext
  obtain ⟨tagged, integrity⟩ := told.attempted custody isPending held
    (by simp [committing, Phase.unfinished]) receipt turns
  have advances : Advances (s.sessions sid)
      { s.sessions sid with phase := phase } := by
    refine .ofFinishing ?_ ?_ finishing <;>
      simp [committing, Phase.started, Phase.early]
  have alone := custody.committing_alone committing
  have linked := custody.linked_of_pending isPending
  have may := commitTransaction_mayWrite transaction.id receipt turns
    (s.connections transaction.connection)
  obtain ⟨isHere, uncommitted⟩ := told.pending transaction isPending
  have owners : (s.sessions sid).connection = transaction.connection →
      (s.connections transaction.connection).owner = sid := by
    intro isOwn
    rw [← isOwn]
    exact ledger.owner sid (by simp [committing]) (by simp [committing])
  subst stepped
  refine told.extend ledger rfl
    (show _ = Function.update s.sessions sid { s.sessions sid with
      phase := phase } from rfl) rfl (by simp [committing]) finishing.1.1 rfl
    tagged ?mine ?theirs ?pending
  case mine =>
      by_cases isOwn : (s.sessions sid).connection = transaction.connection
      · refine .ofFinished finishing.1.2 finishing.2 fun _ => ?_
        rw [owners isOwn] at integrity
        simpa [System.own, isOwn] using integrity
      · simpa [System.own, Function.update_of_ne isOwn] using
          (told.story sid).advance advances
  case theirs =>
      rintro other different _ rfl
      refine .ofIntegrity uncommitted.started
        (fun _ => may.withTransaction.trans linked.withTransaction)
        (fun beginning => (uncommitted.unbegun beginning).2) integrity
  case pending =>
      intro waiting isWaiting
      have before : s.Pending waiting ∧
          waiting.connection ≠ transaction.connection := by
        rcases isWaiting with stored | ⟨other, batched⟩
        · exact ⟨.inl stored, alone.1 waiting stored⟩
        · by_cases same : other = sid
          · subst same
            have member : waiting ∈ batch := by
              simpa [next] using batched
            exact ⟨.inr ⟨other, by simp [committing, Phase.batch, member]⟩,
              alone.2.1 waiting member⟩
          · have member : waiting ∈ (s.sessions other).phase.batch := by
              simpa [Function.update_of_ne same] using batched
            exact ⟨.inr ⟨other, member⟩, alone.2.2 other same waiting member⟩
      exact HalfDone.keep (told.pending waiting before.1)
        (by simp [Function.update_of_ne before.2])
        (advances_update rfl advances _)

/-- What `release_connection` makes of a connection in custody. -/
theorem released_receives (custody : Custody s) {place : Place} {x : ConnId}
    (held : x ∈ s.places place) {c : Connection}
    (receives : Receives (s.connections x) c) (parked : Bool) :
    Receives (s.connections x) (if parked then c.setSelf x else c.close) := by
  split
  · have isSelf := receives.self.trans (custody.self place x held)
    have same : c.setSelf x = c := by
      rw [Connection.setSelf, ← isSelf]
    rwa [same]
  · exact .trans _ _ _ receives (Connection.close_receives c)

/-- A connection is at most closed, in a step after which its session goes
on. -/
theorem calm (told : Told s) (ledger : Ledger s) {x : ConnId} {c : Connection}
    {session : Session}
    (connections : after.connections = Function.update s.connections x c)
    (sessions : after.sessions = Function.update s.sessions sid session)
    (next : after.nextConnection = s.nextConnection)
    (receives : Receives (s.connections x) c)
    (busy : (s.sessions sid).phase ≠ .idle)
    (advances : Advances (s.sessions sid) session)
    (pending : ∀ transaction, after.Pending transaction →
      s.Pending transaction) : Told after := by
  have frames (other : SessionId) :
      c.framesOf other = (s.connections x).framesOf other :=
    framesOf_of_written receives.nothingWritten
  have stories (other : SessionId) (isOwn : (s.sessions other).connection = x) :
      Story other (s.sessions other) c := by
    have story := told.story other
    rw [System.own, isOwn] at story
    exact story.keep (frames other) fun _ => receives.toContinues
  have advancing := advances_update sessions advances
  refine told.extend ledger connections sessions next busy
    (mt advances.idle.mp busy) advances.connection
    ⟨[], by simp [receives.nothingWritten], by simp⟩ ?_
    (fun other _ isOwn _ => stories other isOwn) ?_
  · have own : after.own sid = if (s.sessions sid).connection = x then c
        else s.own sid := by
      rw [System.own, (advancing sid).connection, connections]
      split
      · next isOwn => rw [isOwn, Function.update_self]
      · next isOther => rw [Function.update_of_ne isOther, System.own]
    rw [own]
    split
    · next isOwn => exact (stories sid isOwn).advance advances
    · exact (told.story sid).advance advances
  · intro transaction isPending
    have half := told.pending transaction (pending transaction isPending)
    by_cases isX : transaction.connection = x
    · obtain ⟨isHere, uncommitted⟩ := half
      have advance := advancing (s.connections transaction.connection).owner
      rw [System.HalfDone]
      rw [isX] at isHere uncommitted advance ⊢
      rw [connections, Function.update_self, receives.owner]
      exact ⟨advance.connection.trans isHere,
        (uncommitted.keep receives.toContinues (frames _)).advance
          (advance.started uncommitted.started) advance.beginning
          advance.rows⟩
    · exact HalfDone.keep half
        (by rw [connections, Function.update_of_ne isX]) (advancing _)

theorem releaseDeferred (told : Told s) (custody : Custody s)
    (ledger : Ledger s) {poolSockets : Nat} {x : ConnId}
    {batch : List Transaction} {receipt : Bool}
    (returning : (s.sessions sid).phase = .returning x batch receipt)
    (stepped : after = (s.releaseConnection poolSockets x
      |>.setPhase sid (System.afterBatch batch receipt))) : Told after := by
  have held : x ∈ s.places (.session sid) := by
    simp [System.places, Session.held, returning]
  have pendings := System.pending_congr
    (show after.pool.transactionStore = s.pool.transactionStore by
      simp [stepped])
    (System.batches_update
      (show _ = Function.update s.sessions sid { s.sessions sid with
        phase := System.afterBatch batch receipt } by rw [stepped]; rfl)
      (by rw [returning]; exact batch_afterBatch batch receipt))
  subst stepped
  refine told.calm ledger rfl rfl rfl
    (released_receives custody held (.refl _) _) (by simp [returning])
    (.ofFinishing ?_ ?_ (finishing_afterBatch batch receipt))
    fun transaction => (pendings transaction).mp
  all_goals simp [returning, Phase.started, Phase.early]

theorem release (told : Told s) (custody : Custody s) (ledger : Ledger s)
    {requestLimit poolSockets : Nat} {self : ConnId}
    (releasing : (s.sessions sid).phase = .releasing)
    (isSelf : (s.own sid).self = some self)
    (stepped : after = (s.setConnection (s.sessions sid).connection
        ((s.own sid).release requestLimit)
      |>.releaseConnection poolSockets self
      |>.setPhase sid .ended)) : Told after := by
  have isOwn := custody.self_eq (by simp [releasing]) (by simp [releasing])
    isSelf
  subst isOwn
  have owner : (s.own sid).owner = sid :=
    ledger.owner sid (by simp [releasing]) (by simp [releasing])
  have alone := custody.none_pending
    (show (s.sessions sid).connection ∈ s.places (.session sid) by
      simp [System.places, Session.held, releasing])
    (by simp [releasing, Phase.unfinished]) (by simp [releasing, Phase.batch])
  have pendings := System.pending_congr
    (show after.pool.transactionStore = s.pool.transactionStore by
      simp [stepped])
    (System.batches_update
      (show _ = Function.update s.sessions sid
        { s.sessions sid with phase := .ended } by rw [stepped]; rfl)
      (by simp [releasing, Phase.batch]))
  obtain ⟨c, connections, written⟩ : ∃ c,
      after.connections =
          Function.update s.connections (s.sessions sid).connection c ∧
        c.written = (s.own sid).written := by
    rw [stepped]
    refine ⟨_, by simp; rfl, ?_⟩
    split <;> rfl
  have sessions : after.sessions = Function.update s.sessions sid
      { s.sessions sid with phase := .ended } := by
    rw [stepped]
    rfl
  have ownNow : after.own sid = c := by
    rw [System.own, sessions, Function.update_self, connections,
      Function.update_self]
  refine told.extend ledger connections sessions (by rw [stepped]; rfl)
    (by simp [releasing]) (by simp) rfl
    ⟨[], by simp [written, System.own], by simp⟩ ?mine ?theirs ?pending
  case mine =>
      rw [ownNow]
      refine .ofFinished rfl rfl fun on => ?_
      rw [framesOf_of_written written]
      exact (told.story sid).integrity on
  case theirs =>
      intro other different _ isOwner
      exact absurd (isOwner.trans owner) different
  case pending =>
      intro transaction isPending
      have wasPending := (pendings transaction).mp isPending
      refine HalfDone.keep (told.pending transaction wasPending) ?_
        (advances_update sessions (.ofFinishing ?_ ?_ ?_) _)
      · rw [connections,
          Function.update_of_ne (alone transaction wasPending)]
      all_goals simp [releasing, Phase.finishing, Phase.started, Phase.early,
        Phase.unfinished]

theorem forceCommit [FrameBytes] (told : Told s) (custody : Custody s)
    (ledger : Ledger s) {poolSockets : Nat} {turns : CommitTurns}
    {forcing : Forcing} {transaction : Transaction}
    (located : s.pool.transactionStore[forcing.position]? = some transaction)
    (ready : transaction.ready)
    (stepped : after = s.forceCommit poolSockets turns forcing transaction
      transaction) : Told after := by
  obtain ⟨front, back, store, erased⟩ := Pool.erase_split located
  have member : transaction ∈ s.pool.transactionStore := by simp [store]
  have isPending : s.Pending transaction := .inl member
  have held : transaction.connection ∈ s.places .deferred :=
    Custody.place_of_ready member ready
  obtain ⟨alone, notBatched⟩ := custody.deferred_alone store ready
  obtain ⟨⟨more, written, tagged⟩, integrity⟩ :=
    told.attempted custody isPending held (by simp) true turns
  obtain ⟨isHere, uncommitted⟩ := told.pending transaction isPending
  have linked := custody.linked_of_pending isPending
  obtain ⟨c, connections, unwritten, begun⟩ : ∃ c,
      after.connections =
          Function.update s.connections transaction.connection c ∧
        c.written = ((s.connections
          transaction.connection).commitTransaction transaction.id true
            turns).written ∧ c.withTransaction := by
    have kept := (commitTransaction_continues transaction.id true turns
      (s.connections transaction.connection)).toSameHandle.withTransaction
    refine ⟨_, by rw [stepped, System.forceCommit_connection], ?_, ?_⟩
    · split <;> rfl
    · split <;> exact kept.trans linked.withTransaction
  have sessions : after.sessions = s.sessions := by simp [stepped]
  let owner := (s.connections transaction.connection).owner
  have ownNow : after.own owner = c := by
    rw [System.own, sessions, connections, isHere, Function.update_self]
  rw [← framesOf_of_written unwritten] at integrity
  refine told.extend ledger connections
    (show _ = Function.update s.sessions owner (s.sessions owner) from
      sessions.trans (Function.update_eq_self _ _).symm) (by simp [stepped])
    uncommitted.started.1 uncommitted.started.1 rfl
    ⟨more, unwritten.trans written, tagged⟩ ?mine ?theirs ?pending
  case mine =>
      rw [ownNow]
      exact .ofIntegrity uncommitted.started (fun _ => begun)
        (fun beginning => (uncommitted.unbegun beginning).2) integrity
  case theirs =>
      intro other different _ isOwner
      exact absurd isOwner different
  case pending =>
      intro waiting isWaiting
      have before : s.Pending waiting ∧
          waiting.connection ≠ transaction.connection := by
        rcases isWaiting with stored | ⟨other, batched⟩
        · have isThere : waiting ∈ front ++ back := by
            rw [stepped, System.forceCommit_pool, Pool.eraseTransaction] at stored
            simpa [erased] using stored
          refine ⟨.inl ?_, alone waiting isThere⟩
          rw [store]
          simp only [List.mem_append, List.mem_cons] at isThere ⊢
          exact isThere.imp_right .inr
        · rw [sessions] at batched
          exact ⟨.inr ⟨other, batched⟩, notBatched other waiting batched⟩
      refine HalfDone.keep (told.pending waiting before.1) ?_ ?_
      · rw [connections, Function.update_of_ne before.2]
      · rw [sessions]
        exact .refl _

/-- Locking and unlocking write nothing. -/
theorem setForcing (told : Told s) (forcing : Option Forcing) :
    Told { s with forcing := forcing } :=
  told.quiet rfl rfl (fun _ => .refl _)
    fun transaction isPending => ⟨transaction, isPending, rfl⟩

theorem step [QueryDecoding] [PassHash] [FrameBytes] {action : Action}
    (told : Told s) (queue : Queue s) (custody : Custody s)
    (ledger : Ledger s) (stepped : s.step action = some after) :
    Told after := by
  cases action with
  | get sid uri maxPoolSockets =>
      obtain ⟨idle, _, rfl | ⟨obtained, got, rfl⟩⟩ := System.get_cases stepped
      · exact told
      · exact told.handOver custody idle got
  | connect sid turns => exact told.connect custody ledger stepped
  | createTransaction sid =>
      obtain ⟨self, creating, isSelf, _, stepped⟩ :=
        System.createTransaction_cases stepped
      exact told.createTransaction ledger custody creating isSelf stepped
  | begin sid requestLimit turns => exact told.begin custody ledger stepped
  | content sid row now requestLimit turns =>
      exact told.content custody ledger stepped
  | deinit sid => exact told.deinit stepped
  | commit sid endReady requestLimit => exact told.commit stepped
  | commitTransaction sid turns =>
      obtain ⟨transaction, batch, receipt, committing, stepped⟩ :=
        System.commitTransaction_cases stepped
      split at stepped
      · exact told.commitTransaction custody ledger committing
          (finishing_afterBatch batch receipt) (batch_afterBatch batch receipt)
          stepped
      · exact told.commitTransaction custody ledger committing
          (by simp [Phase.finishing, Phase.started, Phase.early,
            Phase.unfinished]) rfl stepped
  | releaseDeferred sid poolSockets =>
      obtain ⟨c, batch, receipt, returning, _, stepped⟩ :=
        System.releaseDeferred_cases stepped
      exact told.releaseDeferred custody ledger returning stepped
  | release sid requestLimit poolSockets =>
      obtain ⟨self, releasing, isSelf, _, stepped⟩ :=
        System.release_cases stepped
      exact told.release custody ledger releasing isSelf stepped
  | forceLock =>
      obtain ⟨_, rfl⟩ := System.forceLock_cases stepped
      exact told.setForcing _
  | forceNext poolSockets turns =>
      obtain ⟨forcing, transaction, _, located,
        ⟨_, rfl⟩ | ⟨pointed, ready, found, _, stepped⟩⟩ :=
        System.forceNext_cases stepped
      · exact told.setForcing _
      · have same := custody.pointed_eq queue.distinct
          (List.mem_of_getElem? located) found
        rw [same] at stepped
        exact told.forceCommit custody ledger located ready stepped
  | forceUnlock =>
      obtain ⟨_, _, _, rfl⟩ := System.forceUnlock_cases stepped
      exact told.setForcing _

end Told

section Runs

variable [QueryDecoding] [PassHash] [FrameBytes]
variable {allowed : System → Action → Prop} {name : String} {s : System}

theorem Runs.told (run : Runs allowed name s) : Told s :=
  Reaches.invariant run (Told.init name)
    fun _ _ _ reached told _ stepped =>
      told.step (Runs.queue reached) (Runs.custody reached)
        (Runs.ledger reached) stepped

/-- In every state of a pool, the frames of a session with transactions are
on its own connection and in order. -/
theorem transaction_on_wire (run : Runs anything name s) (sid : SessionId)
    (on : (s.sessions sid).conf.transaction) :
    (∀ c, ∀ written ∈ (s.connections c).written, written.session = sid →
        c = (s.sessions sid).connection) ∧
      Integrity (s.sessions sid).rows ((s.own sid).framesOf sid) := by
  refine ⟨?_, (run.told.story sid).integrity on⟩
  rintro c written member rfl
  exact (run.told.home c written member).2.symm

end Runs

section Executed

open scoped Sample

/-- The second session sends a row and is committed by the first one. -/
def handedOn : List Action :=
  Sample.begins 1 ++ Sample.begins 2 ++
    [.content 2 {} 0 100 { write := [Sample.writable] }, .deinit 2,
      .commit 2 false 100, .deinit 1, .commit 1 false 100,
      .commitTransaction 1 (Sample.confirmed 0),
      .commitTransaction 1 (Sample.confirmed 0)]

theorem transaction_on_wire_handedOn :
    let s := final anything "pool" handedOn
    transactionBodies ((s.own 2).framesOf 2) =
        [.begin "2@pool", .send "/queue/a" [.transaction "2@pool"] [],
          .commit "2@pool"] ∧
      (∀ c, ∀ written ∈ (s.connections c).written, written.session = 2 →
        c = (s.sessions 2).connection) ∧
      Integrity (s.sessions 2).rows ((s.own 2).framesOf 2) :=
  ⟨by decide +kernel,
    transaction_on_wire (runs_final (by decide +kernel)) 2
      (by decide +kernel)⟩

end Executed

end Capstomp
