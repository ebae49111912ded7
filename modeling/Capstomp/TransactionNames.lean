import Std.Data.String.ToNat
import Capstomp.Configured
import Capstomp.General.Tagged
import Capstomp.Sessions
import Capstomp.Writes

/-!
# The names of transactions on the wire

A broker keeps transactions apart by the text in their BEGIN.  A pool counts
its transactions in a 64-bit word and appends its name, so that until the word
wraps no two BEGINs of the pool have one text, whatever connections they are
on; no two COMMITs have, and a COMMIT follows its BEGIN on the same socket.
-/

namespace Capstomp

open General

theorem transactionText_inj {first second : Nat} {name : String}
    (boundedFirst : first < UInt64.size) (boundedSecond : second < UInt64.size)
    (same : transactionText first name = transactionText second name) :
    first = second := by
  simp only [transactionText, String.append_left_inj] at same
  have equal := Nat.repr_injective same
  rwa [Nat.mod_eq_of_lt boundedFirst, Nat.mod_eq_of_lt boundedSecond] at equal

theorem Phase.Next.started {before after : Phase} (next : before.Next after)
    (started : before.started) : after.started := by
  cases next with
  | own transaction batch receipt => exact (finishing_afterBatch batch receipt).1
  | returned connection batch receipt =>
      exact (finishing_afterBatch batch receipt).1
  | begin leads => rcases leads with rfl | rfl <;> exact ⟨by simp, rfl⟩
  | connect leads => simp [Phase.started, Phase.early] at started
  | _ => exact ⟨by simp, rfl⟩

/-- The text of the transaction a connection is in, if it is in one. -/
def Titled (name : String) (c : Connection) : Prop :=
  c.withTransaction → ∃ node, c.transaction = some node ∧
    c.transactionId = transactionText node name

theorem Titled.keep {name : String} {before after : Connection}
    (titled : Titled name before) (same : SameHandle before after) :
    Titled name after := by
  intro begun
  rw [same.withTransaction] at begun
  rw [same.transaction, same.transactionId]
  exact titled begun

theorem Titled.without {name : String} {c : Connection}
    (none : c.transactionId = "") : Titled name c := by
  intro begun
  simp [Connection.withTransaction, none] at begun

theorem Titled.released {name : String} {c : Connection}
    (titled : Titled name c) (parked : Bool) (self : ConnId) :
    Titled name (if parked then c.setSelf self else c.close) := by
  cases parked <;> exact titled

/-- The text of a BEGIN, and of a COMMIT. -/
def Body.begins : Body → Option String
  | .begin id => some id
  | _ => none

def Body.commits : Body → Option String
  | .commit id => some id
  | _ => none

/-- A transaction that was created, and the session that did so. -/
def System.Created (s : System) (sid : SessionId) (node : Nat) : Prop :=
  ∃ c, .created sid node c ∈ s.trace

structure Titles (s : System) : Prop where
  connections : ∀ c, Titled s.pool.name (s.connections c)
  creating : ∀ sid, (s.sessions sid).phase = .creating →
    (s.sessions sid).conf.transaction
  created : ∀ sid node, s.Created sid node →
    (s.sessions sid).phase.started ∧ (s.sessions sid).conf.transaction
  once : ∀ sid node other, s.Created sid node → s.Created sid other →
    node = other
  /-- What names a transaction on the wire was created for its session. -/
  wire : ∀ c, ∀ w ∈ (s.connections c).written, ∀ id,
    w.frame.body.begins = some id ∨ w.frame.body.commits = some id →
      ∃ node, s.Created w.session node ∧
        id = transactionText node s.pool.name

namespace Titles

variable {s after : System} {sid : SessionId} {action : Action}

theorem update {x : ConnId} {c : Connection} {name : String}
    (connections : ∀ y, Titled name (s.connections y))
    (titled : Titled name c)
    (changed : after.connections = Function.update s.connections x c) :
    ∀ y, Titled name (after.connections y) := by
  rw [changed, Function.forall_update_iff s.connections
    fun _ c => Titled name c]
  exact ⟨titled, fun y _ => connections y⟩

theorem init (name : String) : Titles (System.init name) where
  connections _ := .without rfl
  creating sid impossible := by simp [System.init] at impossible
  created sid node created := by
    obtain ⟨c, member⟩ := created
    simp [System.init] at member
  once sid node other created := by
    obtain ⟨c, member⟩ := created
    simp [System.init] at member
  wire c w member := by simp [System.init] at member

/-- A transaction on the wire, with the text its connection has for it. -/
theorem named (titles : Titles s) (ledger : Ledger s) (custody : Custody s)
    {transaction : Transaction} (pending : s.Pending transaction) :
    ∃ node, s.Created (s.connections transaction.connection).owner node ∧
      transaction.id = transactionText node s.pool.name := by
  have linked := custody.linked_of_pending pending
  obtain ⟨node, isNode, text⟩ := titles.connections _ linked.withTransaction
  have same : transaction.node = node :=
    Option.some.inj (linked.node.symm.trans isNode)
  refine ⟨node, ⟨transaction.connection, ?_⟩, linked.id.symm.trans text⟩
  rw [← same]
  rcases pending with stored | ⟨sid, batched⟩
  · exact (ledger.stored transaction stored).1
  · exact (ledger.batched sid transaction batched).1

/-- The frame of a step that names a transaction. -/
theorem writes (titles : Titles s) (ledger : Ledger s) (custody : Custody s)
    (told : Told s) {x : ConnId} {w : Written}
    (writes : Writes s action x w) {id : String}
    (names : w.frame.body.begins = some id ∨
      w.frame.body.commits = some id) :
    ∃ node, s.Created w.session node ∧
      id = transactionText node s.pool.name := by
  cases writes with
  | logon => simp [Connection.tagged, Uri.logonBody, Body.begins,
      Body.commits] at names
  | content => simp [Connection.tagged, sendBody, Body.begins,
      Body.commits] at names
  | @begin sid requestLimit turns open₀ receipt phase isOpen =>
      have unfinished : (s.sessions sid).phase.unfinished := by
        simp [phase, Phase.unfinished]
      have begun := (told.story sid).beginning phase
      obtain ⟨transaction, member, _, isOwn⟩ :=
        custody.begun sid unfinished begun
      obtain ⟨node, created, text⟩ :=
        titles.named ledger custody (.inl member)
      have linked := custody.linked_store transaction member
      rw [isOwn] at created linked
      refine ⟨node, created, ?_⟩
      simp only [Connection.tagged, Body.begins, Body.commits, Option.some.injEq,
        reduceCtorEq, or_false] at names
      exact names.symm.trans (linked.id.trans text)
  | @commit sid turns transaction batch needed open₀ receipt phase isOpen =>
      simp only [Connection.tagged, Body.begins, Body.commits, Option.some.injEq,
        reduceCtorEq, false_or] at names
      subst names
      exact titles.named ledger custody
        (.inr ⟨sid, by simp [phase, Phase.batch]⟩)
  | @force poolSockets turns transaction open₀ receipt stored ready isOpen =>
      simp only [Connection.tagged, Body.begins, Body.commits, Option.some.injEq,
        reduceCtorEq, false_or] at names
      subst names
      exact titles.named ledger custody (.inl stored)

end Titles

section Steps

variable {s after : System} {sid : SessionId} {action : Action}
variable [QueryDecoding] [PassHash] [FrameBytes]

/-- Only `create_transaction` records that a transaction was created. -/
theorem System.created_cases (stepped : s.step action = some after) :
    (∀ other node, after.Created other node ↔ s.Created other node) ∨
      ∃ sid, action = .createTransaction sid ∧
        (s.sessions sid).phase = .creating ∧
        ∀ other node, after.Created other node ↔
          s.Created other node ∨ other = sid ∧
            node = s.pool.transactionSeq + 1 := by
  have same : ∀ more, after.trace = s.trace ++ more →
      (∀ other node c, .created other node c ∉ more) →
        ∀ other node, after.Created other node ↔ s.Created other node := by
    intro more trace none other node
    simp [Created, trace, none]
  cases action with
  | get sid uri maxPoolSockets =>
      obtain ⟨_, _, rfl | ⟨obtained, got, rfl⟩⟩ := System.get_cases stepped
      · exact .inl fun _ _ => .rfl
      · exact .inl (same _ (System.handOver_trace ..) (by simp))
  | connect sid turns =>
      obtain ⟨_, _, ⟨_, _, rfl⟩ | ⟨_, _, _, rfl⟩⟩ :=
        System.connect_cases stepped <;> exact .inl fun _ _ => .rfl
  | createTransaction sid =>
      obtain ⟨self, phase, _, _, rfl⟩ := System.createTransaction_cases stepped
      refine .inr ⟨sid, rfl, phase, ?_⟩
      intro other node
      simp [Created, Pool.newTransaction, exists_or]
  | begin sid requestLimit turns =>
      obtain ⟨_, ⟨_, _, rfl⟩ | ⟨_, _, _, rfl⟩⟩ :=
        System.begin_cases stepped <;> exact .inl fun _ _ => .rfl
  | content sid row now requestLimit turns =>
      obtain ⟨_, rfl⟩ := System.content_cases stepped
      exact .inl fun _ _ => .rfl
  | deinit sid =>
      obtain ⟨_, rfl⟩ := System.deinit_cases stepped
      exact .inl fun _ _ => .rfl
  | commit sid endReady requestLimit =>
      obtain ⟨_, ⟨_, rfl⟩ | ⟨_, _, _, _, _, _, _, rfl⟩⟩ :=
        System.commit_cases stepped
      · exact .inl fun _ _ => .rfl
      · exact .inl (same _ rfl (by simp))
  | commitTransaction sid turns =>
      obtain ⟨_, _, _, _, rfl⟩ := System.commitTransaction_cases stepped
      exact .inl (same _ rfl (by simp))
  | releaseDeferred sid poolSockets =>
      obtain ⟨_, _, _, _, _, rfl⟩ := System.releaseDeferred_cases stepped
      exact .inl (same _ rfl (by simp))
  | release sid requestLimit poolSockets =>
      obtain ⟨_, _, _, _, rfl⟩ := System.release_cases stepped
      exact .inl (same _ rfl (by simp))
  | forceLock =>
      obtain ⟨_, rfl⟩ := System.forceLock_cases stepped
      exact .inl fun _ _ => .rfl
  | forceNext poolSockets turns =>
      obtain ⟨_, _, _, _, ⟨_, rfl⟩ | ⟨_, _, _, _, rfl⟩⟩ :=
        System.forceNext_cases stepped
      · exact .inl fun _ _ => .rfl
      · refine .inl fun other node => ?_
        simp [Created]
  | forceUnlock =>
      obtain ⟨_, _, _, rfl⟩ := System.forceUnlock_cases stepped
      exact .inl fun _ _ => .rfl

namespace Titles

theorem connections_step {name : String} (isName : s.pool.name = name)
    (connections : ∀ y, Titled name (s.connections y))
    (custody : Custody s) (queue : Queue s)
    (stepped : s.step action = some after) :
    ∀ y, Titled name (after.connections y) := by
  cases action with
  | get sid uri maxPoolSockets =>
      obtain ⟨_, _, rfl | ⟨obtained, got, rfl⟩⟩ := System.get_cases stepped
      · exact connections
      · exact update connections (.without rfl)
          (System.handOver_connections ..)
  | connect sid turns =>
      obtain ⟨u, _, outcome⟩ := System.connect_cases stepped
      have titled := (connections _).keep
        (connect_sameHandle u turns (s.own sid))
      rcases outcome with ⟨c, returned, rfl⟩ | ⟨_, c, thrown, rfl⟩
      · rw [returned] at titled
        exact update connections titled rfl
      · rw [thrown] at titled
        exact update (c := c.close) connections titled rfl
  | createTransaction sid =>
      obtain ⟨self, _, _, _, rfl⟩ := System.createTransaction_cases stepped
      refine update connections (x := (s.sessions sid).connection)
        (c := (s.own sid).setTransaction _ _) ?_ rfl
      exact fun _ => ⟨_, rfl, by rw [← isName]; rfl⟩
  | begin sid requestLimit turns =>
      obtain ⟨_, outcome⟩ := System.begin_cases stepped
      have titled := (connections _).keep
        (sendBegin_mayWrite requestLimit turns (s.own sid)).toSameHandle
      rcases outcome with ⟨c, returned, rfl⟩ | ⟨_, c, thrown, rfl⟩
      · rw [returned] at titled
        exact update connections titled rfl
      · rw [thrown] at titled
        exact update (c := c.close) connections titled rfl
  | content sid row now requestLimit turns =>
      obtain ⟨_, rfl⟩ := System.content_cases stepped
      exact update connections ((connections _).keep
        (capstompContent_continues row now requestLimit turns
          (s.own sid)).toSameHandle) rfl
  | deinit sid =>
      obtain ⟨_, rfl⟩ := System.deinit_cases stepped
      exact connections
  | commit sid endReady requestLimit =>
      obtain ⟨_, ⟨_, rfl⟩ | ⟨_, _, _, _, _, _, _, rfl⟩⟩ :=
        System.commit_cases stepped <;> exact connections
  | commitTransaction sid turns =>
      obtain ⟨transaction, batch, receipt, _, rfl⟩ :=
        System.commitTransaction_cases stepped
      exact update connections ((connections _).keep
        (commitTransaction_continues ..).toSameHandle) rfl
  | releaseDeferred sid poolSockets =>
      obtain ⟨x, batch, receipt, _, _, rfl⟩ :=
        System.releaseDeferred_cases stepped
      exact update connections ((connections x).released _ _)
        (System.releaseConnection_connections ..)
  | release sid requestLimit poolSockets =>
      obtain ⟨self, phase, isSelf, _, rfl⟩ := System.release_cases stepped
      have isOwn := custody.self_eq (by simp [phase]) (by simp [phase]) isSelf
      subst isOwn
      have titled : Titled name ((s.own sid).release requestLimit) :=
        .without rfl
      exact update connections (titled.released _ _) (by simp; rfl)
  | forceLock =>
      obtain ⟨_, rfl⟩ := System.forceLock_cases stepped
      exact connections
  | forceNext poolSockets turns =>
      obtain ⟨forcing, transaction, _, located,
        ⟨_, rfl⟩ | ⟨pointed, _, found, _, rfl⟩⟩ :=
        System.forceNext_cases stepped
      · exact connections
      · have same := custody.pointed_eq queue.distinct
          (List.mem_of_getElem? located) found
        subst same
        exact update connections (((connections pointed.connection).keep
          (commitTransaction_continues ..).toSameHandle).released _ _)
          (System.forceCommit_connection ..)
  | forceUnlock =>
      obtain ⟨_, _, _, rfl⟩ := System.forceUnlock_cases stepped
      exact connections

/-- A session that has created its transaction is past the point where it
does so. -/
theorem started_step (stepped : s.step action = some after)
    (started : (s.sessions sid).phase.started) :
    (after.sessions sid).phase.started ∧
      (after.sessions sid).conf = (s.sessions sid).conf := by
  cases System.session_cases stepped sid with
  | still _ same => exact ⟨same ▸ started, by rw [same]⟩
  | refused => exact ⟨started, rfl⟩
  | goes _ next session =>
      rw [session]
      exact ⟨next.started started, rfl⟩
  | begins idle => exact absurd idle started.1
  | row phase session =>
      rw [session]
      exact ⟨started, rfl⟩

theorem step (titles : Titles s) (custody : Custody s) (queue : Queue s)
    (ledger : Ledger s) (told : Told s) (configured : after.Configured)
    (stepped : s.step action = some after) : Titles after := by
  have name := System.step_name stepped
  have created := System.created_cases stepped
  have older : ∀ other node, s.Created other node → after.Created other node := by
    intro other node was
    rcases created with same | ⟨_, _, _, more⟩
    · exact (same other node).mpr was
    · exact (more other node).mpr (.inl was)
  constructor
  case connections =>
      rw [name]
      exact connections_step rfl titles.connections custody queue stepped
  case creating =>
      intro sid creating
      cases System.session_cases stepped sid with
      | still _ same =>
          rw [same] at creating ⊢
          exact titles.creating sid creating
      | refused => exact titles.creating sid creating
      | goes _ _ session _ creates =>
          rw [session] at creating
          rw [← configured sid (by simp [session, creating])
            (by simp [session, creating])]
          exact creates creating
      | begins => simp at creating
      | row phase session => simp [session, phase] at creating
  case created =>
      intro sid node isCreated
      rcases created with same | ⟨creator, rfl, phase, more⟩
      · obtain ⟨started, on⟩ :=
          titles.created sid node ((same sid node).mp isCreated)
        obtain ⟨still, conf⟩ := started_step stepped started
        exact ⟨still, conf ▸ on⟩
      · rcases (more sid node).mp isCreated with was | ⟨rfl, _⟩
        · obtain ⟨started, on⟩ := titles.created sid node was
          obtain ⟨still, conf⟩ := started_step stepped started
          exact ⟨still, conf ▸ on⟩
        · obtain ⟨self, _, _, _, rfl⟩ :=
            System.createTransaction_cases stepped
          have on := titles.creating sid phase
          exact ⟨by simp [Phase.started, Phase.early], by simpa using on⟩
  case once =>
      intro sid node other first second
      rcases created with same | ⟨creator, _, phase, more⟩
      · exact titles.once sid node other ((same sid node).mp first)
          ((same sid other).mp second)
      · -- The session that creates one has created none before.
        have none : ∀ node, ¬ s.Created creator node := by
          intro node was
          have started := (titles.created creator node was).1
          simp [phase, Phase.started, Phase.early] at started
        rcases (more sid node).mp first with old | ⟨rfl, rfl⟩ <;>
          rcases (more sid other).mp second with was | ⟨isCreator, rfl⟩
        · exact titles.once sid node other old was
        · exact absurd old (isCreator ▸ none node)
        · exact absurd was (none other)
        · rfl
  case wire =>
      intro c w member id names
      rw [name]
      have wired : ∃ node, s.Created w.session node ∧
          id = transactionText node s.pool.name := by
        rcases System.written_cases custody queue told stepped with
          same | ⟨x, new, writes, written, same⟩
        · exact titles.wire c w (same c ▸ member) id names
        · by_cases isHere : c = x
          · subst isHere
            rw [written, List.mem_append, List.mem_singleton] at member
            rcases member with old | rfl
            · exact titles.wire c w old id names
            · exact titles.writes ledger custody told writes names
          · exact titles.wire c w (same c isHere ▸ member) id names
      obtain ⟨node, was, text⟩ := wired
      exact ⟨node, older _ _ was, text⟩

end Titles

end Steps

/-! ## The frames of one session -/

section Sequence

variable {frames : List Written} {rows : List RowResult}

/-- The texts that the frames show. -/
def textsOf (shows : Body → Option String) (frames : List Written) :
    List String :=
  frames.filterMap fun w => shows w.frame.body

theorem textsOf_bodies {shows : Body → Option String}
    (notLogon : ∀ body : Body, body.isLogon → shows body = none)
    (frames : List Written) :
    textsOf shows frames = (transactionBodies frames).filterMap shows := by
  rw [textsOf, transactionBodies, List.filterMap_filter, List.filterMap_map]
  refine List.filterMap_congr fun w _ => ?_
  cases isLogon : w.frame.body.isLogon <;> simp [isLogon, notLogon]

/-- A sequence of a transaction has one BEGIN and at most one COMMIT. -/
theorem Integrity.once (integrity : Integrity rows frames) :
    (textsOf Body.begins frames).Nodup ∧
      (textsOf Body.commits frames).Nodup := by
  obtain ⟨transaction, sends, inTransaction, shape⟩ := integrity.shape
  have silent : sends.filterMap Body.begins = [] ∧
      sends.filterMap Body.commits = [] := by
    constructor <;>
      · refine List.filterMap_eq_nil_iff.mpr fun body member => ?_
        have sent := inTransaction body member
        cases body <;> first | rfl | cases sent
  constructor
  · rw [textsOf_bodies (by intro body; cases body <;> simp [Body.isLogon,
      Body.begins])]
    have shorter := shape.filterMap Body.begins
    simp only [List.cons_append, List.filterMap_cons, Body.begins,
      List.filterMap_append, silent.1, List.filterMap_nil,
      List.nil_append] at shorter
    exact (List.nodup_singleton _).sublist shorter.sublist
  · rw [textsOf_bodies (by intro body; cases body <;> simp [Body.isLogon,
      Body.commits])]
    have shorter := shape.filterMap Body.commits
    simp only [List.cons_append, List.filterMap_cons, Body.commits,
      List.filterMap_append, silent.2, List.filterMap_nil,
      List.nil_append] at shorter
    exact (List.nodup_singleton _).sublist shorter.sublist

/-- The COMMIT of a sequence follows its BEGIN. -/
theorem Integrity.begun (integrity : Integrity rows frames)
    {earlier later : List Written} {w : Written} {id : String}
    (split : frames = earlier ++ w :: later)
    (isCommit : w.frame.body.commits = some id) :
    ∃ v ∈ earlier, v.frame.body.begins = some id ∧ v.socket = w.socket := by
  obtain ⟨number, oneSocket⟩ := integrity.oneSocket
  obtain ⟨transaction, sends, inTransaction, shape⟩ := integrity.shape
  have commits : w.frame.body = .commit id := by
    cases body : w.frame.body <;> simp_all [Body.commits]
  have bodies : transactionBodies frames = transactionBodies earlier ++
      .commit id :: transactionBodies later := by
    rw [split, transactionBodies_append]
    simp [transactionBodies, commits, Body.isLogon]
  rw [bodies] at shape
  cases first : transactionBodies earlier with
  | nil => simp [first] at shape
  | cons body bodies' =>
      rw [first] at shape
      have isBegin : body = .begin transaction := by
        simpa using (List.cons_prefix_cons.mp shape).1
      have member : .commit id ∈
          Body.begin transaction :: sends ++ [.commit transaction] :=
        shape.subset (by simp)
      have same : id = transaction := by
        simp only [List.cons_append, List.mem_cons, List.mem_append,
          reduceCtorEq, false_or, List.not_mem_nil, or_false,
          Body.commit.injEq] at member
        exact member.resolve_left fun sent => inTransaction _ sent
      have inEarlier : Body.begin transaction ∈ transactionBodies earlier := by
        rw [first, isBegin]
        exact List.mem_cons_self
      obtain ⟨v, isEarlier, isBody⟩ :=
        List.mem_map.mp (List.mem_filter.mp inEarlier).1
      refine ⟨v, isEarlier, by rw [isBody, same]; rfl, ?_⟩
      rw [oneSocket v (by simp [split, isEarlier]),
        oneSocket w (by simp [split])]

end Sequence

section Names

variable {s : System}

/-- While the counter has not wrapped, a text names one session. -/
theorem Ledger.same_creator (ledger : Ledger s)
    (bounded : s.pool.transactionSeq < UInt64.size) {sid other : SessionId}
    {node node' : Nat} {name : String} (first : s.Created sid node)
    (second : s.Created other node')
    (text : transactionText node name = transactionText node' name) :
    sid = other := by
  obtain ⟨x, created⟩ := first
  obtain ⟨y, alsoCreated⟩ := second
  have boundedNode := ledger.created_bound _ _ _ created
  have boundedOther := ledger.created_bound _ _ _ alsoCreated
  have same := transactionText_inj (by omega) (by omega) text
  subst same
  exact (ledger.created_unique _ _ _ _ _ created alsoCreated).1

/-- Two frames that show one text are of one session. -/
theorem Titles.same_session (titles : Titles s) (ledger : Ledger s)
    (bounded : s.pool.transactionSeq < UInt64.size) {c d : ConnId}
    {w v : Written} {id : String} (inFirst : w ∈ (s.connections c).written)
    (inSecond : v ∈ (s.connections d).written)
    (first : w.frame.body.begins = some id ∨
      w.frame.body.commits = some id)
    (second : v.frame.body.begins = some id ∨
      v.frame.body.commits = some id) : w.session = v.session := by
  obtain ⟨node, created, text⟩ := titles.wire c w inFirst id first
  obtain ⟨other, alsoCreated, alsoText⟩ :=
    titles.wire d v inSecond id second
  exact ledger.same_creator bounded created alsoCreated
    (text.symm.trans alsoText)

/-- The frames of the session of a transaction are its sequence. -/
theorem Titles.integrity (titles : Titles s) (told : Told s) {c : ConnId}
    {w : Written} {id : String} (member : w ∈ (s.connections c).written)
    (names : w.frame.body.begins = some id ∨
      w.frame.body.commits = some id) :
    Integrity (s.sessions w.session).rows
      ((s.connections c).framesOf w.session) := by
  obtain ⟨node, created, _⟩ := titles.wire c w member id names
  have isHere := (told.home c w member).2
  rw [← isHere]
  exact (told.story w.session).integrity
    (titles.created w.session node created).2

theorem Titles.nodup (titles : Titles s) (ledger : Ledger s) (told : Told s)
    (bounded : s.pool.transactionSeq < UInt64.size)
    {shows : Body → Option String}
    (names : ∀ body id, shows body = some id →
      body.begins = some id ∨ body.commits = some id)
    (once : ∀ rows frames, Integrity rows frames →
      (textsOf shows frames).Nodup) (c : ConnId) :
    (textsOf shows (s.connections c).written).Nodup := by
  refine nodup_of_under Written.session ?_ fun sid => ?_
  · intro w inFirst v inSecond id first second
    exact titles.same_session ledger bounded inFirst inSecond
      (names _ _ first) (names _ _ second)
  · cases shown : (under Written.session sid
        (s.connections c).written).filterMap fun w =>
          shows w.frame.body with
    | nil => exact List.nodup_nil
    | cons id texts =>
        obtain ⟨w, member, isShown⟩ := List.mem_filterMap.mp
          (shown ▸ List.mem_cons_self : id ∈ (under Written.session sid
            (s.connections c).written).filterMap fun w =>
              shows w.frame.body)
        obtain ⟨written, isSid⟩ := List.mem_filter.mp member
        rw [decide_eq_true_eq] at isSid
        subst isSid
        rw [← shown]
        exact once _ _ (titles.integrity told written (names _ _ isShown))

theorem Titles.exclusive (titles : Titles s) (ledger : Ledger s)
    (told : Told s) (bounded : s.pool.transactionSeq < UInt64.size)
    {shows : Body → Option String}
    (names : ∀ body id, shows body = some id →
      body.begins = some id ∨ body.commits = some id)
    (once : ∀ rows frames, Integrity rows frames →
      (textsOf shows frames).Nodup) :
    Exclusive fun c => textsOf shows (s.connections c).written := by
  refine ⟨titles.nodup ledger told bounded names once, ?_⟩
  intro c d id inFirst inSecond
  obtain ⟨w, written, first⟩ := List.mem_filterMap.mp inFirst
  obtain ⟨v, alsoWritten, second⟩ := List.mem_filterMap.mp inSecond
  have same := titles.same_session ledger bounded written alsoWritten
    (names _ _ first) (names _ _ second)
  rw [← (told.home c w written).2, same, (told.home d v alsoWritten).2]

end Names

section Runs

variable [QueryDecoding] [PassHash] [FrameBytes]
variable {allowed : System → Action → Prop} {name : String} {s : System}

theorem Runs.titles (run : Runs allowed name s) : Titles s :=
  Reaches.invariant run (Titles.init name)
    fun _ _ _ reached titles permitted stepped =>
      titles.step (Runs.custody reached) (Runs.queue reached)
        (Runs.ledger reached) (Runs.told reached)
        (Runs.configured (reached.next permitted stepped)) stepped

/-- While the counter of the pool has not wrapped, no text is in two BEGINs or
in two COMMITs of the pool, and a COMMIT follows the BEGIN of its text, which
the same session wrote to the same socket. -/
theorem transaction_names_unique (run : Runs anything name s)
    (bounded : s.pool.transactionSeq < UInt64.size) :
    (Exclusive fun c => textsOf Body.begins (s.connections c).written) ∧
      (Exclusive fun c => textsOf Body.commits (s.connections c).written) ∧
      ∀ c earlier w later id,
        (s.connections c).written = earlier ++ w :: later →
        w.frame.body.commits = some id →
          ∃ v ∈ earlier, v.frame.body.begins = some id ∧
            v.session = w.session ∧ v.socket = w.socket := by
  have titles := run.titles
  refine ⟨titles.exclusive run.ledger run.told bounded (fun _ _ => .inl)
      fun _ _ integrity => integrity.once.1,
    titles.exclusive run.ledger run.told bounded (fun _ _ => .inr)
      fun _ _ integrity => integrity.once.2, ?_⟩
  intro c earlier w later id split isCommit
  have integrity := titles.integrity run.told (c := c) (w := w)
    (by simp [split]) (.inr isCommit)
  have splits : (s.connections c).framesOf w.session =
      earlier.filter (·.session = w.session) ++
        w :: later.filter (·.session = w.session) := by
    simp [Connection.framesOf, split]
  obtain ⟨v, member, begins, socket⟩ := integrity.begun splits isCommit
  obtain ⟨isEarlier, session⟩ := List.mem_filter.mp member
  exact ⟨v, isEarlier, begins, by simpa using session, socket⟩

end Runs

section Executed

open scoped Sample

/-- Two transactions in turn on one connection, while a third one is open on
another. -/
def threeTransactions : List Action :=
  Sample.begins 1 ++ Sample.begins 2 ++ [.deinit 1, .commit 1 false 100,
      .commitTransaction 1 (Sample.confirmed 0), .release 1 100 8] ++
    Sample.begins 3

theorem transaction_names_unique_three :
    let s := final anything "pool" threeTransactions
    textsOf Body.begins (s.connections 0).written = ["1@pool", "3@pool"] ∧
      textsOf Body.begins (s.connections 1).written = ["2@pool"] ∧
      (Exclusive fun c => textsOf Body.begins (s.connections c).written) ∧
      (Exclusive fun c => textsOf Body.commits (s.connections c).written) ∧
      ∀ c earlier w later id,
        (s.connections c).written = earlier ++ w :: later →
        w.frame.body.commits = some id →
          ∃ v ∈ earlier, v.frame.body.begins = some id ∧
            v.session = w.session ∧ v.socket = w.socket :=
  ⟨by decide +kernel, by decide +kernel,
    transaction_names_unique (runs_final (by decide +kernel))
      (by decide +kernel)⟩

end Executed

end Capstomp
