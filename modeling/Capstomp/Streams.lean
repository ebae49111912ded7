import Capstomp.General.Grouped
import Capstomp.Publication

/-!
# What is said on a socket

A socket hears the CONNECT of the session it was opened for, and then the
sessions that use it one after the other: the frames of a session stand
together, and they are the SENDs of a statement without a transaction, or the
BEGIN, SENDs and COMMIT of one with a transaction.  A frame that stops midway
is not one of them.
-/

namespace Capstomp

open General Connection

/-! ## One connection -/

/-- A CONNECT comes first, and none after it. -/
def LogonFirst (frames : List Written) : Prop :=
  frames = [] ∨ ∃ logon rest, frames = logon :: rest ∧
    logon.frame.body.isLogon ∧ ∀ w ∈ rest, w.frame.body.isLogon = false

/-- The sockets of a connection are told apart by their numbers, and each one
has heard a CONNECT first, the present one that of its target. -/
structure Stream (c : Connection) : Prop where
  fresh : ∀ w ∈ c.written, w.socket < c.sockets
  logon : ∀ number, LogonFirst (c.framesOn number)
  known : ∀ open', c.socket = some open' → open'.number < c.sockets
  heard : ∀ open', c.socket = some open' →
    (c.framesOn open'.number).head?.map (fun w => w.frame.body) =
      some open'.target.logonBody

/-- The connection is on the socket it was on, if it is on one, and wrote
nothing. -/
structure SameStream (before after : Connection) : Prop where
  owner : after.owner = before.owner
  written : after.written = before.written
  sockets : after.sockets = before.sockets
  socket : ∀ open', after.socket = some open' →
    ∃ open₀, before.socket = some open₀ ∧
      open'.number = open₀.number ∧ open'.target = open₀.target

section Connection

variable {before middle after c : Connection} {body : Body}

theorem SameStream.ofClosed (owner : after.owner = before.owner)
    (written : after.written = before.written)
    (sockets : after.sockets = before.sockets)
    (isClosed : after.socket = none) : SameStream before after :=
  ⟨owner, written, sockets, fun _ isOpen => by simp [isClosed] at isOpen⟩

/-- What the pool makes of a connection it is given back. -/
theorem SameStream.released (c : Connection) (parked : Bool) (self : ConnId) :
    SameStream c (if parked then c.setSelf self else c.close) := by
  cases parked with
  | true => exact ⟨rfl, rfl, rfl, fun open' isOpen => ⟨open', isOpen, rfl, rfl⟩⟩
  | false => exact .ofClosed rfl rfl rfl rfl

namespace Stream

theorem unused : Stream {} where
  fresh := by simp
  logon _ := .inl rfl
  known := by simp
  heard := by simp

theorem keep (stream : Stream before) (same : SameStream before after) :
    Stream after where
  fresh := by
    rw [same.written, same.sockets]
    exact stream.fresh
  logon number := by
    rw [framesOn_of_written same.written]
    exact stream.logon number
  known open' isOpen := by
    obtain ⟨open₀, wasOpen, number, _⟩ := same.socket open' isOpen
    rw [number, same.sockets]
    exact stream.known open₀ wasOpen
  heard open' isOpen := by
    obtain ⟨open₀, wasOpen, number, target⟩ := same.socket open' isOpen
    rw [number, target, framesOn_of_written same.written]
    exact stream.heard open₀ wasOpen

theorem mayWrite (stream : Stream before) (may : MayWrite body before after)
    (noLogon : body.isLogon = false) : Stream after := by
  have socket : ∀ open', after.socket = some open' →
      ∃ open₀, before.socket = some open₀ ∧
        open'.number = open₀.number ∧ open'.target = open₀.target := by
    intro open' isOpen
    obtain ⟨open₀, wasOpen, same⟩ := may.socket open' isOpen
    exact ⟨open₀, wasOpen, same.number, same.target⟩
  rcases may.wrote with none | ⟨open₀, receipt, wasOpen, added⟩
  · exact stream.keep ⟨may.owner, none, may.sockets, socket⟩
  · constructor
    case fresh =>
      intro w member
      rw [added, List.mem_append, List.mem_singleton] at member
      rw [may.sockets]
      rcases member with old | rfl
      · exact stream.fresh w old
      · exact stream.known open₀ wasOpen
    case logon =>
      intro other
      rw [framesOn_append added]
      split
      · next here =>
          dsimp only at here
          subst here
          rcases stream.logon open₀.number with
            nothing | ⟨logon, rest, split, isLogon, others⟩
          · have heard := stream.heard open₀ wasOpen
            simp [nothing] at heard
          · refine .inr ⟨logon, rest ++ [_], by rw [split]; rfl, isLogon, ?_⟩
            intro w member
            rw [List.mem_append, List.mem_singleton] at member
            rcases member with old | rfl
            · exact others w old
            · exact noLogon
      · rw [List.append_nil]
        exact stream.logon other
    case known =>
      intro open' isOpen
      obtain ⟨open₁, wasOpen, number, _⟩ := socket open' isOpen
      rw [number, may.sockets]
      exact stream.known open₁ wasOpen
    case heard =>
      intro open' isOpen
      obtain ⟨open₁, wasOpen, number, target⟩ := socket open' isOpen
      have heard := stream.heard open₁ wasOpen
      obtain ⟨logon, isFirst, body⟩ := Option.map_eq_some_iff.mp heard
      rw [number, target, framesOn_append added, List.head?_append, isFirst,
        ← body]
      rfl

theorem framesOn_fresh (stream : Stream c) : c.framesOn c.sockets = [] := by
  refine List.filter_eq_nil_iff.mpr fun w member => ?_
  have older := stream.fresh w member
  simp only [decide_eq_true_eq]
  omega

/-- A new socket has its CONNECT, or is closed again. -/
theorem opened (stream : Stream c) {u : Uri} {fd : Nat}
    (may : MayWrite u.logonBody (logonStart u fd c) after)
    (heard : after.socket = none ∨
      Wrote u.logonBody (logonStart u fd c) after) : Stream after := by
  have sockets : after.sockets = c.sockets + 1 := may.sockets
  have fresh : ∀ open', after.socket = some open' →
      open'.number = c.sockets ∧ open'.target = u := by
    intro open' isOpen
    obtain ⟨_, wasOpen, same⟩ := may.socket open' isOpen
    cases wasOpen
    exact ⟨same.number, same.target⟩
  have known : ∀ open', after.socket = some open' →
      open'.number < after.sockets := by
    intro open' isOpen
    rw [(fresh open' isOpen).1, sockets]
    exact Nat.lt_succ_self _
  rcases may.wrote with none | ⟨open₀, receipt, isOpen, added⟩
  · have unwritten : after.written = c.written := none
    have isClosed : after.socket = Option.none := by
      refine heard.resolve_right ?_
      rintro ⟨_, _, _, added⟩
      exact absurd (none.symm.trans added) (by simp)
    refine ⟨?_, ?_, known, fun _ isOpen => by simp [isClosed] at isOpen⟩
    · intro w member
      rw [unwritten] at member
      rw [sockets]
      exact Nat.lt_succ_of_lt (stream.fresh w member)
    · intro other
      rw [framesOn_of_written unwritten]
      exact stream.logon other
  · cases isOpen
    have added : after.written = c.written ++ [_] := added
    constructor
    case fresh =>
      intro w member
      rw [added, List.mem_append, List.mem_singleton] at member
      rw [sockets]
      rcases member with old | rfl
      · exact Nat.lt_succ_of_lt (stream.fresh w old)
      · exact Nat.lt_succ_self _
    case logon =>
      intro other
      rw [framesOn_append added]
      split
      · next here =>
          have here : c.sockets = other := here
          subst here
          rw [stream.framesOn_fresh]
          exact .inr ⟨_, [], rfl, rfl, by simp⟩
      · rw [List.append_nil]
        exact stream.logon other
    case known => exact known
    case heard =>
      intro open' isOpen
      obtain ⟨number, target⟩ := fresh open' isOpen
      rw [number, target, framesOn_append added, stream.framesOn_fresh,
        if_pos (show (close c).sockets = c.sockets from rfl)]
      rfl

end Stream

section Calls

variable [FrameBytes]

theorem logon_wrote {u : Uri} {turns : LogonTurns}
    (returned : logon u turns c = .ok () after) :
    Wrote u.logonBody c after :=
  (sendLogon_writes _ turns.write).wrote
    (fun _ => receives_kept.bind (read_receives "logon" turns.wait)
      fun _ => Respects.ofIte (receives_kept.throw _) (receives_kept.pure _))
    returned

omit [FrameBytes] in
theorem Receives.sameStream (receives : Receives before after) :
    SameStream before after := by
  refine ⟨receives.owner, receives.nothingWritten, receives.sockets, ?_⟩
  exact fun open' isOpen => ⟨open', receives.sameSocket open' isOpen, rfl, rfl⟩

omit [FrameBytes] in
theorem SameStream.close (c : Connection) : SameStream c c.close :=
  .ofClosed rfl rfl rfl rfl

variable [PassHash] {u : Uri} {turns : ConnectTurns}

theorem Stream.returned (stream : Stream c)
    (returned : connect u turns c = .ok () after) : Stream after := by
  obtain ⟨drained, established, receives, rfl, settled⟩ :=
    connect_returned returned
  have streamDrained := stream.keep receives.sameStream
  have counted : SameStream established
      { established with requestCount := established.requestCount + 1 } :=
    ⟨rfl, rfl, rfl, fun open' isOpen => ⟨open', isOpen, rfl, rfl⟩⟩
  refine Stream.keep ?_ counted
  rcases settled with rfl | ⟨fd, final, logged, rfl⟩
  · exact streamDrained
  · have may := logon_mayWrite u turns.logon (logonStart u fd drained)
    rw [logged] at may
    have streamFinal : Stream final :=
      streamDrained.opened may (.inr (logon_wrote logged))
    exact streamFinal.keep
      ⟨rfl, rfl, rfl, fun open' isOpen => ⟨open', isOpen, rfl, rfl⟩⟩

/-- The socket a `connect` that throws leaves behind is closed. -/
theorem Stream.thrown (stream : Stream c) {error : Error}
    {left : Connection} (thrown : connect u turns c = .error error left) :
    Stream left.close := by
  rcases bind_eq_error_iff.mp thrown with failed | ⟨_, _, _, impossible⟩
  · rcases bind_eq_error_iff.mp failed with
      failed | ⟨alive, drained, connected, continued⟩
    · have receives := (connected_receives turns.drain).thrown failed
      exact (stream.keep receives.sameStream).keep (.close left)
    · have streamDrained := stream.keep
        ((connected_receives turns.drain).returned connected).sameStream
      simp only [bind, EStateM.bind, get_apply] at continued
      split at continued
      · cases continued
      · rcases reconnect_cases u turns drained with ⟨error, failed⟩ |
          ⟨fd, ⟨error, stopped, logged, failed⟩ | ⟨final, _, done⟩⟩
        · rw [failed] at continued
          cases continued
          exact (streamDrained.keep (.close drained)).keep (.close _)
        · rw [failed] at continued
          cases continued
          have may := logon_mayWrite u turns.logon (logonStart u fd drained)
          rw [logged] at may
          have closing : MayWrite u.logonBody (logonStart u fd drained)
              left.close :=
            ⟨.trans _ _ _ may.toContinues (close_continues left), may.wrote⟩
          exact streamDrained.opened closing (.inl rfl)
        · rw [done] at continued
          cases continued
  · cases impossible

end Calls

end Connection

/-! ## In a pool -/

section Steps

variable {s after : System} {action : Action}

theorem Stream.update {x : ConnId} {c : Connection}
    (streams : ∀ y, Stream (s.connections y)) (stream : Stream c)
    (connections : after.connections = Function.update s.connections x c) :
    ∀ y, Stream (after.connections y) := by
  rw [connections, Function.forall_update_iff s.connections
    fun _ c => Stream c]
  exact ⟨stream, fun y _ => streams y⟩

variable [QueryDecoding] [PassHash] [FrameBytes]

theorem Stream.step (custody : Custody s) (queue : Queue s)
    (streams : ∀ y, Stream (s.connections y))
    (stepped : s.step action = some after) :
    ∀ y, Stream (after.connections y) := by
  cases action with
  | get sid uri maxPoolSockets =>
      obtain ⟨_, _, rfl | ⟨obtained, _, rfl⟩⟩ := System.get_cases stepped
      · exact streams
      · refine update streams ?_ (System.handOver_connections ..)
        have handed : ∀ c, Stream c → Stream (c.handedOver
            obtained.connection (Settings.create uri.query) sid) :=
          fun c ⟨fresh, logon, known, heard⟩ => ⟨fresh, logon, known, heard⟩
        split
        · exact handed _ .unused
        · exact handed _ (streams _)
  | connect sid turns =>
      obtain ⟨uri, _, ⟨c, returned, rfl⟩ | ⟨_, c, thrown, rfl⟩⟩ :=
        System.connect_cases stepped
      · exact update streams ((streams _).returned returned) rfl
      · exact update streams ((streams _).thrown thrown) rfl
  | createTransaction sid =>
      obtain ⟨self, _, _, _, rfl⟩ := System.createTransaction_cases stepped
      refine update streams
        ((streams (s.sessions sid).connection).keep ?_) rfl
      exact ⟨rfl, rfl, rfl, fun open' isOpen => ⟨open', isOpen, rfl, rfl⟩⟩
  | begin sid requestLimit turns =>
      have may := sendBegin_mayWrite requestLimit turns (s.own sid)
      obtain ⟨_, ⟨c, returned, rfl⟩ | ⟨_, c, thrown, rfl⟩⟩ :=
        System.begin_cases stepped
      · rw [returned] at may
        exact update streams ((streams _).mayWrite may rfl) rfl
      · rw [thrown] at may
        exact update streams (((streams _).mayWrite may rfl).keep (.close c))
          rfl
  | content sid row now requestLimit turns =>
      obtain ⟨_, rfl⟩ := System.content_cases stepped
      refine update streams ?_ rfl
      rcases capstompContent_cases row now requestLimit turns (s.own sid) with
        ⟨_, same⟩ | ⟨_, _, may⟩ | ⟨_, _, continues, wrote⟩
      · rw [same]
        exact streams _
      · exact (streams _).mayWrite may rfl
      · exact (streams _).mayWrite ⟨continues, .inr wrote⟩ rfl
  | deinit sid =>
      obtain ⟨_, rfl⟩ := System.deinit_cases stepped
      exact streams
  | commit sid endReady requestLimit =>
      obtain ⟨_, ⟨_, rfl⟩ | ⟨_, _, _, _, _, _, _, rfl⟩⟩ :=
        System.commit_cases stepped <;> exact streams
  | commitTransaction sid turns =>
      obtain ⟨transaction, batch, receipt, _, rfl⟩ :=
        System.commitTransaction_cases stepped
      exact update streams ((streams _).mayWrite
        (commitTransaction_mayWrite transaction.id receipt turns _) rfl) rfl
  | releaseDeferred sid poolSockets =>
      obtain ⟨x, _, _, _, _, rfl⟩ := System.releaseDeferred_cases stepped
      exact update streams ((streams x).keep (.released ..))
        (System.releaseConnection_connections ..)
  | release sid requestLimit poolSockets =>
      obtain ⟨self, phase, isSelf, _, rfl⟩ := System.release_cases stepped
      have isOwn := custody.self_eq (by simp [phase]) (by simp [phase]) isSelf
      subst isOwn
      have released : Stream ((s.own sid).release requestLimit) :=
        (streams _).keep
          ⟨rfl, rfl, rfl, fun open' isOpen => ⟨open', isOpen, rfl, rfl⟩⟩
      exact update streams (released.keep (.released ..)) (by simp; rfl)
  | forceLock =>
      obtain ⟨_, rfl⟩ := System.forceLock_cases stepped
      exact streams
  | forceNext poolSockets turns =>
      obtain ⟨forcing, transaction, _, located,
        ⟨_, rfl⟩ | ⟨pointed, _, found, _, rfl⟩⟩ :=
        System.forceNext_cases stepped
      · exact streams
      · have same := custody.pointed_eq queue.distinct
          (List.mem_of_getElem? located) found
        subst same
        have wrote := (streams pointed.connection).mayWrite
          (commitTransaction_mayWrite pointed.id true turns _) rfl
        exact update streams (wrote.keep (.released ..))
          (System.forceCommit_connection ..)
  | forceUnlock =>
      obtain ⟨_, _, _, rfl⟩ := System.forceUnlock_cases stepped
      exact streams

/-- A connection keeps its owner, or a session that begins is given it. -/
theorem System.owner_step (custody : Custody s) (queue : Queue s)
    (ledger : Ledger s) (stepped : s.step action = some after) (y : ConnId) :
    (after.connections y).owner = (s.connections y).owner ∨
      (s.sessions (after.connections y).owner).phase = .idle := by
  rcases System.owner_cases custody queue ledger stepped y with
    calm | ⟨sid, owner, there, idle | early⟩
  · exact .inl calm.owner
  · exact .inr (owner ▸ idle)
  · left
    have notIdle : (s.sessions sid).phase ≠ .idle := by
      rintro idle
      simp [idle, Phase.early] at early
    have notEnded : (s.sessions sid).phase ≠ .ended := by
      rintro ended
      simp [ended, Phase.early] at early
    have here : (s.sessions sid).connection = y := by
      cases System.session_cases stepped sid with
      | still _ same => rwa [same] at there
      | refused => exact there
      | goes _ _ session => rwa [session] at there
      | begins idle => exact absurd idle notIdle
      | row _ session => rwa [session] at there
    rw [owner, ← here]
    exact (ledger.owner sid notIdle notEnded).symm

/-- The sessions whose frames are on a connection, and the present one. -/
def Connection.users (c : Connection) : List SessionId :=
  c.written.map Written.session ++ [c.owner]

structure Conversations (s : System) : Prop where
  streams : ∀ y, Stream (s.connections y)
  users : ∀ y, Grouped (s.connections y).users

theorem users_step (custody : Custody s) (queue : Queue s)
    (ledger : Ledger s) (told : Told s)
    (grouped : ∀ y, Grouped (s.connections y).users)
    (stepped : s.step action = some after) :
    ∀ y, Grouped (after.connections y).users := by
  intro y
  -- The frame of the step, if there is one, is of the owner before it.
  have wrote : (after.connections y).written = (s.connections y).written ∨
      ∃ w, (after.connections y).written = (s.connections y).written ++ [w] ∧
        w.session = (s.connections y).owner := by
    rcases System.written_cases custody queue told stepped with
      same | ⟨x, w, writes, written, same⟩
    · exact .inl (same y)
    · by_cases isHere : y = x
      · subst isHere
        exact .inr ⟨w, written, writes.session⟩
      · exact .inl (same y isHere)
  have groupedBefore : Grouped
      ((after.connections y).written.map Written.session ++
        [(s.connections y).owner]) := by
    rcases wrote with same | ⟨w, written, session⟩
    · rw [same]
      exact grouped y
    · rw [written, List.map_append, List.map_singleton, session]
      exact (grouped y).again
  by_cases same : (after.connections y).owner = (s.connections y).owner
  · rw [Connection.users, same]
    exact groupedBefore
  · have idle := (System.owner_step custody queue ledger stepped y).resolve_left
      same
    refine (groupedBefore.sublist (List.sublist_append_left _ _)).fresh ?_
    intro member
    obtain ⟨w, inWritten, session⟩ := List.mem_map.mp member
    have old : w ∈ (s.connections y).written := by
      rcases wrote with unwritten | ⟨new, written, isOwner⟩
      · exact unwritten ▸ inWritten
      · rw [written, List.mem_append, List.mem_singleton] at inWritten
        refine inWritten.resolve_right ?_
        rintro rfl
        exact same (session.symm.trans isOwner)
    exact (told.home y w old).1 (session ▸ idle)

variable {allowed : System → Action → Prop} {name : String}

theorem Runs.conversations (run : Runs allowed name s) :
    Conversations s := by
  refine Reaches.invariant run ?_ ?_
  · exact ⟨fun _ => .unused, fun _ => Grouped.nil.fresh (by simp)⟩
  · intro before action after reached conversations allowed stepped
    have custody := Runs.custody reached
    have queue := Runs.queue reached
    exact ⟨Stream.step custody queue conversations.streams stepped,
      users_step custody queue (Runs.ledger reached) (Runs.told reached)
        conversations.users stepped⟩

end Steps

/-! ## The frames of a socket -/

section Socket

variable {s : System} {c : ConnId} {number : Nat}

/-- What a session with these settings says on a socket. -/
def Spoken (conf : Settings) (frames : List Written) : Prop :=
  if conf.transaction then
    ∃ transaction sends, (∀ body ∈ sends, body.SendsIn transaction) ∧
      frames.map (fun w => w.frame.body) <+:
        .begin transaction :: sends ++ [.commit transaction]
  else
    ∀ w ∈ frames, ∃ destination headers payload,
      w.frame.body = .send destination headers payload ∧
        withinOf headers = none

/-- A session without a transaction only has SENDs. -/
theorem spoken_without (titles : Titles s) (headed : Headed s) {w : Written}
    (written : w ∈ (s.connections c).written)
    (notLogon : w.frame.body.isLogon = false)
    (off : (s.sessions w.session).conf.transaction = false) :
    ∃ destination headers payload,
      w.frame.body = .send destination headers payload ∧
        withinOf headers = none := by
  have uncreated : ∀ node, ¬ s.Created w.session node := by
    intro node created
    have on := (titles.created _ node created).2
    rw [off] at on
    cases on
  cases body : w.frame.body with
  | logon => simp [body, Body.isLogon] at notLogon
  | begin id =>
      obtain ⟨node, created, _⟩ :=
        titles.wire c w written id (.inl (by rw [body]; rfl))
      exact absurd created (uncreated node)
  | commit id =>
      obtain ⟨node, created, _⟩ :=
        titles.wire c w written id (.inr (by rw [body]; rfl))
      exact absurd created (uncreated node)
  | send destination headers payload =>
      refine ⟨destination, headers, payload, rfl, ?_⟩
      refine Option.eq_none_iff_forall_ne_some.mpr fun id within => ?_
      obtain ⟨node, created, _⟩ :=
        (headed c w written _ _ _ body).2 id within
      exact uncreated node created

/-- The frames of a session with a transaction, but for the CONNECT. -/
theorem spoken_within {rows : List RowResult} {rest : List Written}
    {logon w : Written} {sid : SessionId}
    (integrity : Integrity rows ((s.connections c).framesOf sid))
    (split : (s.connections c).framesOn number = logon :: rest)
    (isLogon : logon.frame.body.isLogon)
    (others : ∀ w ∈ rest, w.frame.body.isLogon = false)
    (member : w ∈ rest) (session : w.session = sid) :
    transactionBodies ((s.connections c).framesOf sid) =
      (rest.filter (·.session = sid)).map fun w => w.frame.body := by
  obtain ⟨other, oneSocket⟩ := integrity.oneSocket
  have isFrame : w ∈ (s.connections c).framesOn number := by
    rw [split]
    exact List.mem_cons_of_mem _ member
  obtain ⟨written, socket⟩ := mem_framesOn.mp isFrame
  have same : other = number :=
    (oneSocket w (mem_framesOf.mpr ⟨written, session⟩)).symm.trans socket
  subst same
  have onSocket : (s.connections c).framesOf sid =
      ((s.connections c).framesOn other).filter (·.session = sid) := by
    rw [Connection.framesOn, List.filter_filter]
    refine List.filter_congr fun v isWritten => ?_
    by_cases isOwn : v.session = sid
    · simp [isOwn, oneSocket v (mem_framesOf.mpr ⟨isWritten, isOwn⟩)]
    · simp [isOwn]
  have silent : ∀ frames : List Written,
      (∀ w ∈ frames, w.frame.body.isLogon = false) →
        transactionBodies frames = frames.map fun w => w.frame.body := by
    intro frames speak
    refine List.filter_eq_self.mpr fun body isBody => ?_
    obtain ⟨w, member, rfl⟩ := List.mem_map.mp isBody
    simp [speak w member]
  have spoken := silent (rest.filter (·.session = sid)) fun w member =>
    others w (List.mem_filter.mp member).1
  rw [onSocket, split, ← spoken]
  by_cases isOwn : logon.session = sid
  · rw [List.filter_cons_of_pos (by simpa using isOwn)]
    simp [transactionBodies, isLogon]
  · rw [List.filter_cons_of_neg (by simpa using isOwn)]

/-- The frames of a socket: the CONNECT, and what each of its users says. -/
structure Turns (s : System) (c : ConnId) (number : Nat) (logon : Written)
    (blocks : List (SessionId × List Written)) : Prop where
  frames : (s.connections c).framesOn number =
    logon :: (blocks.map Prod.snd).flatten
  isLogon : logon.frame.body.isLogon
  distinct : (blocks.map Prod.fst).Nodup
  areBlocks : ∀ block ∈ blocks, IsBlock Written.session block
  spoken : ∀ block ∈ blocks, Spoken (s.sessions block.1).conf block.2

theorem Turns.mem {logon w : Written}
    {blocks : List (SessionId × List Written)}
    (turns : Turns s c number logon blocks)
    {block : SessionId × List Written} (isBlock : block ∈ blocks)
    (inBlock : w ∈ block.2) :
    w ∈ (s.connections c).framesOn number ∧ w.session = block.1 := by
  refine ⟨?_, (turns.areBlocks block isBlock).tagged w inBlock⟩
  rw [turns.frames]
  exact List.mem_cons_of_mem _
    (List.mem_flatten.mpr ⟨_, List.mem_map_of_mem isBlock, inBlock⟩)

end Socket

section Runs

variable [QueryDecoding] [PassHash] [FrameBytes]
variable {name : String} {s : System}

theorem Runs.turns (run : Runs plainRows name s) (c : ConnId)
    (number : Nat) :
    (s.connections c).framesOn number = [] ∨
      ∃ logon blocks, Turns s c number logon blocks := by
  refine ((run.conversations.streams c).logon number).imp id ?_
  rintro ⟨logon, rest, split, isLogon, others⟩
  have users : Grouped (rest.map Written.session) := by
    refine (run.conversations.users c).sublist ?_
    have frames : (logon :: rest).Sublist (s.connections c).written :=
      split ▸ List.filter_sublist
    exact (((List.sublist_cons_self _ _).trans frames).map _).trans
      (List.sublist_append_left _ _)
  obtain ⟨blocks, isFlat, distinct, areBlocks⟩ := users.blocks
  refine ⟨logon, blocks, isFlat ▸ split, isLogon, distinct, areBlocks, ?_⟩
  intro block member
  have isAll := block_eq_filter distinct areBlocks member
  rw [← isFlat] at isAll
  have spoken : ∀ w ∈ block.2, w ∈ rest ∧ w.session = block.1 ∧
      w ∈ (s.connections c).written := by
    intro w inBlock
    rw [isAll, List.mem_filter, decide_eq_true_eq] at inBlock
    have isFrame : w ∈ (s.connections c).framesOn number := by
      rw [split]
      exact List.mem_cons_of_mem _ inBlock.1
    exact ⟨inBlock.1, inBlock.2, (mem_framesOn.mp isFrame).1⟩
  unfold Spoken
  split
  · next on =>
      obtain ⟨w, inBlock⟩ :=
        List.exists_mem_of_ne_nil _ (areBlocks block member).some
      obtain ⟨inRest, session, written⟩ := spoken w inBlock
      have isHere : (s.sessions block.1).connection = c :=
        session ▸ (run.told.home c w written).2
      subst isHere
      have integrity := (run.told.story block.1).integrity on
      rw [isAll, ← spoken_within integrity split isLogon others inRest session]
      exact integrity.shape
  · next off =>
      intro w inBlock
      obtain ⟨inRest, session, written⟩ := spoken w inBlock
      refine spoken_without run.titles run.headed written (others w inRest) ?_
      rw [session]
      simpa using off

/-- The frames written completely to a socket are one CONNECT, first, and then
those of session after session: the frames of one session stand together, and
are a sequence of BEGIN, SENDs and COMMIT or part of it from its start, or
SENDs in no transaction. -/
theorem socket_stream (run : Runs plainRows name s) (c : ConnId)
    (number : Nat) :
    (s.connections c).framesOn number = [] ∨
      ∃ logon, ∃ blocks : List (SessionId × List Written),
        (s.connections c).framesOn number =
          logon :: (blocks.map Prod.snd).flatten ∧
        logon.frame.body.isLogon ∧
        (blocks.map Prod.fst).Nodup ∧
        ∀ block ∈ blocks, IsBlock Written.session block ∧
          Spoken (s.sessions block.1).conf block.2 := by
  refine (run.turns c number).imp id ?_
  rintro ⟨logon, blocks, turns⟩
  exact ⟨logon, blocks, turns.frames, turns.isLogon, turns.distinct,
    fun block member =>
      ⟨turns.areBlocks block member, turns.spoken block member⟩⟩

end Runs

section Executed

open scoped Sample

theorem socket_stream_sharing :
    let s := final plainRows "pool" sharing
    let frames := (s.connections 0).framesOn 0
    frames.map Written.session = [1, 1, 1, 1, 1, 2, 3, 3] ∧
      (frames = [] ∨
        ∃ logon, ∃ blocks : List (SessionId × List Written),
          frames = logon :: (blocks.map Prod.snd).flatten ∧
          logon.frame.body.isLogon ∧
          (blocks.map Prod.fst).Nodup ∧
          ∀ block ∈ blocks, IsBlock Written.session block ∧
            Spoken (s.sessions block.1).conf block.2) :=
  ⟨by decide +kernel,
    socket_stream (plays_final (by decide +kernel)).reaches 0 0⟩

end Executed

end Capstomp
