import Capstomp.General.Conversation
import Capstomp.Uncut

/-!
# The protocol of a socket

A server that follows a socket has no complaint: the CONNECT is the first frame
and the only one of its kind, a transaction is begun once, and a SEND or a
COMMIT names one that is open.  What is published of a socket is what the
statements that used it publish, one after the other.

All this is about sockets on which no COMMIT stops midway: the frame that comes
after half a COMMIT is lost on the server.
-/

namespace Capstomp

open General

/-- What is published of the frames of a session with these settings. -/
def announced (conf : Settings) (frames : List Written) : List Written :=
  if conf.transaction && !frames.any fun w => w.frame.body.commits.isSome then
    []
  else
    frames.filter Written.isSend

section Socket

variable {s : System} {c : ConnId} {number : Nat} {logon w : Written}
variable {blocks : List (SessionId × List Written)}
variable {block other : SessionId × List Written}

/-- The users of a socket name different transactions. -/
theorem Turns.strangers (turns : Turns s c number logon blocks)
    (titles : Titles s) (headed : Headed s) (ledger : Ledger s)
    (bounded : s.pool.transactionSeq < UInt64.size) :
    ((blocks.map Prod.snd).map (List.map Written.request)).Pairwise
      Strangers := by
  have created : ∀ block ∈ blocks, ∀ id,
      Mentions id (block.2.map Written.request) →
        ∃ node, s.Created block.1 node ∧
          id = bytesOf (transactionText node s.pool.name) := by
    rintro block isBlock id ⟨request, member, names⟩
    obtain ⟨w, inBlock, rfl⟩ := List.mem_map.mp member
    obtain ⟨isFrame, session⟩ := turns.mem isBlock inBlock
    rw [← session]
    exact names_created titles headed (mem_framesOn.mp isFrame).1 names
  rw [List.map_map, List.pairwise_map]
  have distinct : blocks.Pairwise fun block other => block.1 ≠ other.1 :=
    List.pairwise_map.mp turns.distinct
  refine distinct.imp_of_mem ?_
  intro block other isBlock isOther different id named alsoNamed
  obtain ⟨node, isNode, text⟩ := created block isBlock id named
  obtain ⟨node', isNode', text'⟩ := created other isOther id alsoNamed
  have same := bytesOf_inj.mp (text.symm.trans text')
  exact different (ledger.same_creator bounded isNode isNode' same)

/-- What a session without a transaction says on a socket. -/
theorem talk_outside {frames : List Written}
    (sends : ∀ w ∈ frames, ∃ destination headers payload,
      w.frame.body = .send destination headers payload ∧
        withinOf headers = none) :
    Talk (frames.map Written.request) ∧
      publish (frames.map Written.request) =
        frames.filter Written.isSend := by
  have requests : frames.map Written.request =
      frames.map (.message none) := by
    refine List.map_congr_left fun w member => ?_
    obtain ⟨destination, headers, payload, body, within⟩ := sends w member
    simp [Written.request, body, within]
  have areSends : ∀ w ∈ frames, w.isSend := by
    intro w member
    obtain ⟨_, _, _, body, _⟩ := sends w member
    simp [Written.isSend, body]
  rw [requests, publish_outside, List.filter_eq_self.mpr areSends]
  exact ⟨.plain frames, rfl⟩

theorem Turns.talk (turns : Turns s c number logon blocks)
    (headed : Headed s) (isBlock : block ∈ blocks) :
    Talk (block.2.map Written.request) ∧
      publish (block.2.map Written.request) =
        announced (s.sessions block.1).conf block.2 := by
  have spoken := turns.spoken block isBlock
  unfold Spoken at spoken
  unfold announced
  split at spoken
  · next on =>
      obtain ⟨transaction, sends, inTransaction, shape⟩ := spoken
      have written : ∀ w ∈ block.2, w ∈ (s.connections c).written :=
        fun w inBlock => (mem_framesOn.mp (turns.mem isBlock inBlock).1).1
      have talk := Talk.within _
        (requests_within headed written inTransaction shape)
      refine ⟨talk,
        (publish_within headed written inTransaction shape).trans ?_⟩
      cases committed : block.2.any fun w => w.frame.body.commits.isSome <;>
        simp [on]
  · next off =>
      obtain ⟨talk, published⟩ := talk_outside spoken
      exact ⟨talk, by simp [published, off]⟩

/-- The frames of a socket as requests. -/
theorem Turns.requests (turns : Turns s c number logon blocks) :
    ((s.connections c).framesOn number).map Written.request =
      .logon ::
        ((blocks.map Prod.snd).map (List.map Written.request)).flatten := by
  have logs : logon.request = .logon := by
    have isLogon := turns.isLogon
    cases body : logon.frame.body <;>
      simp_all [Written.request, Body.isLogon]
  rw [turns.frames, List.map_cons, logs, List.map_flatten]

end Socket

section Runs

variable [QueryDecoding] [PassHash] [FrameBytes]
variable {name : String} {actions : List Action} {s : System}
variable {c : ConnId} {number : Nat}

/-- A server has no complaint about the frames of a socket, and they are what
it reads. -/
theorem socket_conforms (run : Runs (uncutOn c number) name s)
    (bounded : s.pool.transactionSeq < UInt64.size) :
    (s.connections c).Uncut number ∧
      Server.accepts {}
        (((s.connections c).framesOn number).map Written.request) := by
  refine ⟨run.uncut, ?_⟩
  rcases run.plain.turns c number with none | ⟨logon, blocks, turns⟩
  · rw [none]
    rfl
  · rw [turns.requests]
    have headed := run.plain.headed
    refine accepts_conversation
      (turns.strangers run.titles headed run.ledger bounded) ?_
    intro requests member
    obtain ⟨frames, isFrames, rfl⟩ := List.mem_map.mp member
    obtain ⟨block, isBlock, rfl⟩ := List.mem_map.mp isFrames
    exact (turns.talk headed isBlock).1

/-- The rows of a statement without a transaction are published as they are
sent, and they are those of its first calls. -/
theorem published_as_sent
    (played : Plays System.step (uncutOn c number) (System.init name) actions
      s)
    (sid : SessionId) (off : (s.sessions sid).conf.transaction = false) :
    (s.connections c).Uncut number ∧
      ((s.connections c).publishedOn number).filter (·.session = sid) =
        (((s.connections c).framesOn number).filter
          (·.session = sid)).filter Written.isSend ∧
      ∃ destination transaction,
        Delivered (s.sessions sid).conf destination transaction
          (callsOf sid actions) (s.sessions sid).rows
          (sendFrames ((s.own sid).framesOf sid)) := by
  have run : Runs (uncutOn c number) name s := played.reaches
  refine ⟨run.uncut, ?_, ?_⟩
  · rw [Connection.publishedOn, publish_plain, carries_requests,
      List.filter_filter, List.filter_filter]
    · exact List.filter_congr fun w _ => Bool.and_comm _ _
    · intro request member message carried isMine
      obtain ⟨isFrame, isSend, rfl⟩ := send_of_carries member carried
      cases named : message.request.names with
      | none => rfl
      | some id =>
          obtain ⟨node, created, _⟩ := names_created run.titles
            run.plain.headed (mem_framesOn.mp isFrame).1 named
          have on := (run.titles.created _ node created).2
          simp_all
  · have delivery := delivery_of_plays played.begun sid
    obtain ⟨destination, transaction, _, delivered⟩ := delivery.delivered
    exact ⟨destination, transaction, delivered⟩

/-- What is published of a socket: statement after statement, as their frames
stand on it, those of a transaction if its COMMIT is among them. -/
theorem published_in_turn (run : Runs (uncutOn c number) name s)
    (bounded : s.pool.transactionSeq < UInt64.size) :
    (s.connections c).Uncut number ∧
      ((s.connections c).framesOn number = [] ∨
        ∃ logon, ∃ blocks : List (SessionId × List Written),
          (s.connections c).framesOn number =
            logon :: (blocks.map Prod.snd).flatten ∧
          (blocks.map Prod.fst).Nodup ∧
          (∀ block ∈ blocks, IsBlock Written.session block) ∧
          (s.connections c).publishedOn number =
            (blocks.map fun block =>
              announced (s.sessions block.1).conf block.2).flatten) := by
  refine ⟨run.uncut, (run.plain.turns c number).imp id ?_⟩
  rintro ⟨logon, blocks, turns⟩
  refine ⟨logon, blocks, turns.frames, turns.distinct, turns.areBlocks, ?_⟩
  have headed := run.plain.headed
  have strangers := turns.strangers run.titles headed run.ledger bounded
  have silent : Strangers [(.logon : Request (List UInt8) Written)]
      ((blocks.map Prod.snd).map (List.map Written.request)).flatten := by
    rintro id ⟨request, member, names⟩
    rw [List.mem_singleton.mp member] at names
    cases names
  rw [Connection.publishedOn, turns.requests, ← List.singleton_append,
    publish_append silent, publish_flatten strangers, List.map_map,
    List.map_map]
  have logs : publish [(.logon : Request (List UInt8) Written)] = [] := rfl
  rw [logs, List.nil_append]
  refine congrArg List.flatten (List.map_congr_left fun block isBlock => ?_)
  exact (turns.talk headed isBlock).2

end Runs

section Executed

open scoped Sample

theorem socket_conforms_sharing :
    let s := final (uncutOn 0 0) "pool" sharing
    ((s.connections 0).framesOn 0).length = 8 ∧
      (s.connections 0).Uncut 0 ∧
      Server.accepts {}
        (((s.connections 0).framesOn 0).map Written.request) :=
  ⟨by decide +kernel, socket_conforms (plays_final (by decide +kernel)).reaches
    (by decide +kernel)⟩

theorem published_as_sent_sharing :
    let s := final (uncutOn 0 0) "pool" sharing
    let c := s.connections 0
    ((s.own 2).framesOf 2).map (fun w => w.frame.body) =
        [.send "/queue/a" [] [99]] ∧
      c.Uncut 0 ∧
      (c.publishedOn 0).filter (·.session = 2) =
        ((c.framesOn 0).filter (·.session = 2)).filter Written.isSend ∧
      ∃ destination transaction,
        Delivered (s.sessions 2).conf destination transaction
          (callsOf 2 sharing) (s.sessions 2).rows
          (sendFrames ((s.own 2).framesOf 2)) :=
  ⟨by decide +kernel,
    published_as_sent (plays_final (by decide +kernel)) 2
      (by decide +kernel)⟩

theorem published_in_turn_sharing :
    let s := final (uncutOn 0 0) "pool" sharing
    let c := s.connections 0
    (c.publishedOn 0).map Written.session = [1, 1, 2] ∧ c.Uncut 0 ∧
      (c.framesOn 0 = [] ∨
        ∃ logon, ∃ blocks : List (SessionId × List Written),
          c.framesOn 0 = logon :: (blocks.map Prod.snd).flatten ∧
          (blocks.map Prod.fst).Nodup ∧
          (∀ block ∈ blocks, IsBlock Written.session block) ∧
          c.publishedOn 0 = (blocks.map fun block =>
            announced (s.sessions block.1).conf block.2).flatten) :=
  ⟨by decide +kernel, published_in_turn
    (plays_final (by decide +kernel)).reaches (by decide +kernel)⟩

end Executed

end Capstomp
