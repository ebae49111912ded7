import Capstomp.EveryConnection
import Capstomp.Reachable
import Capstomp.Tidiness

/-!
# For whom a socket was logged on

An open socket of a pool has been sent the CONNECT of the URI it was opened
for, the connection keeps the destination and the password of that URI, and
the URI is one that a session of the pool was begun with.
-/

namespace Capstomp

open General Connection

section Sockets

variable [PassHash] {meant : Uri → Prop} {c before after : Connection}

/-- The socket was logged on for its target, which is as meant. -/
structure LoggedOn (meant : Uri → Prop) (c : Connection) (socket : Socket) :
    Prop where
  target : meant socket.target
  logon : socket.frames.head? = some { body := socket.target.logonBody }
  destination : c.destination = socket.target.fragment
  passhash : c.passhash = PassHash.hash socket.target.passcode

/-- So is the socket of the connection, if it is open. -/
def KeepsLogon (meant : Uri → Prop) (c : Connection) : Prop :=
  ∀ socket, c.socket = some socket → LoggedOn meant c socket

theorem ofSocket_keepsLogon : OfSocket (KeepsLogon meant) where
  closed c isClosed := by
    intro socket isOpen
    simp [good, isOpen] at isClosed
  congr before after keeps same _ destination passhash := by
    intro socket isOpen
    rw [same] at isOpen
    obtain ⟨target, logon, atDestination, withHash⟩ := keeps socket isOpen
    exact ⟨target, logon, destination.trans atDestination,
      passhash.trans withHash⟩

theorem KeepsLogon.continues (keeps : KeepsLogon meant before)
    (continues : Continues before after) : KeepsLogon meant after := by
  intro socket isOpen
  obtain ⟨open₀, wasOpen, same⟩ := continues.socket socket isOpen
  obtain ⟨target, logon, destination, passhash⟩ := keeps open₀ wasOpen
  refine ⟨same.target ▸ target, ?_, ?_, ?_⟩
  · obtain ⟨more, longer⟩ := same.frames
    rw [← longer, List.head?_append, logon, same.target]
    rfl
  · rw [same.destination, same.target, destination]
  · rw [same.passhash, same.target, passhash]

variable [FrameBytes]

omit [PassHash] in
/-- After a logon the CONNECT is the last frame of the socket. -/
theorem logon_frames {u : Uri} {turns : LogonTurns} {socket : Socket}
    (returned : logon u turns c = .ok () after)
    (isOpen : after.socket = some socket) :
    ∃ open₀, c.socket = some open₀ ∧ socket.target = open₀.target ∧
      socket.frames = open₀.frames ++ [{ body := u.logonBody }] ∧
      after.destination = c.destination := by
  have receives := logon_returned returned
  obtain ⟨_, _, same⟩ := receives.socket socket isOpen
  have wasOpen := receives.sameSocket socket isOpen
  simp only [finish, accept, Option.map_map, Option.map_eq_some_iff,
    Function.comp_apply] at wasOpen
  obtain ⟨open₀, wasOpen, rfl⟩ := wasOpen
  exact ⟨open₀, wasOpen, rfl, rfl, same.destination⟩

theorem KeepsLogon.connect (keeps : KeepsLogon meant c) {u : Uri}
    {turns : ConnectTurns} (isMeant : meant u)
    (returned : connect u turns c = .ok () after) :
    KeepsLogon meant after := by
  obtain ⟨drained, established, receives, rfl, settled⟩ :=
    connect_returned returned
  refine ofSocket_keepsLogon.congr established _ ?_ rfl rfl rfl rfl
  rcases settled with rfl | ⟨fd, final, logged, rfl⟩
  · exact keeps.continues receives.toContinues
  · intro socket isOpen
    obtain ⟨open₀, opened, target, frames, destination⟩ :=
      logon_frames logged isOpen
    cases opened
    have isTarget : socket.target = u := target
    refine ⟨isTarget ▸ isMeant, ?_, ?_, ?_⟩
    · rw [frames, isTarget]
      rfl
    · rw [isTarget]
      exact destination
    · rw [isTarget]

omit [FrameBytes] in
/-- A connection that is reused was logged on with the password of the URI,
and for the destination it still has. -/
theorem KeepsLogon.reused (keeps : KeepsLogon meant c) {u : Uri}
    {turns : ConnectTurns} {drained : Connection}
    (reuses : Reuses u turns c drained) :
    ∃ socket, drained.socket = some socket ∧ LoggedOn meant drained socket ∧
      PassHash.hash socket.target.passcode = PassHash.hash u.passcode := by
  obtain ⟨alive, passhash⟩ := reuses
  have isOpen : drained.good := connected_good alive
  obtain ⟨socket, isOpen⟩ := Option.isSome_iff_exists.mp isOpen
  have receives := (connected_receives turns.drain).returned alive
  have logged := keeps.continues receives.toContinues socket isOpen
  exact ⟨socket, isOpen, logged, logged.passhash.symm.trans passhash.symm⟩

end Sockets

/-! ## In a pool -/

section Runs

variable [QueryDecoding] [PassHash] [FrameBytes]
variable {meant : Uri → Prop} {name : String} {s after : System}

/-- Sessions begin with the URIs that are meant. -/
def begunWith (meant : Uri → Prop) (_ : System) : Action → Prop
  | .get _ uri _ => meant uri
  | _ => True

/-- What a session that is about to connect was begun with. -/
def System.Expects (meant : Uri → Prop) (s : System) : Prop :=
  ∀ sid uri, (s.sessions sid).phase = .got uri → meant uri

omit [PassHash] [FrameBytes] [QueryDecoding] in
theorem expects_update {sid : SessionId} {session : Session}
    (expects : s.Expects meant)
    (sessions : after.sessions = Function.update s.sessions sid session)
    (here : ∀ uri, session.phase = .got uri → meant uri) :
    after.Expects meant := by
  intro other uri phase
  rw [sessions] at phase
  by_cases same : other = sid
  · rw [same, Function.update_self] at phase
    exact here uri phase
  · rw [Function.update_of_ne same] at phase
    exact expects other uri phase

theorem expects_step {action : Action} (expects : s.Expects meant)
    (permitted : begunWith meant s action)
    (stepped : s.step action = some after) : after.Expects meant := by
  cases action with
  | get sid uri maxPoolSockets =>
      obtain ⟨_, _, rfl | ⟨obtained, _, rfl⟩⟩ := System.get_cases stepped
      · exact expects
      · refine expects_update expects (System.handOver_sessions ..) ?_
        rintro other ⟨⟩
        exact permitted
  | connect sid turns =>
      obtain ⟨u, _, ⟨c, _, rfl⟩ | ⟨_, c, _, rfl⟩⟩ :=
        System.connect_cases stepped <;>
        exact expects_update expects rfl (by dsimp only; split <;> simp)
  | createTransaction sid =>
      obtain ⟨self, _, _, _, rfl⟩ := System.createTransaction_cases stepped
      exact expects_update expects rfl (by simp)
  | begin sid requestLimit turns =>
      obtain ⟨_, ⟨c, _, rfl⟩ | ⟨_, c, _, rfl⟩⟩ := System.begin_cases stepped
      · exact expects_update expects rfl (by simp)
      · exact expects_update expects rfl (by dsimp only; split <;> simp)
  | content sid row now requestLimit turns =>
      obtain ⟨phase, rfl⟩ := System.content_cases stepped
      exact expects_update expects rfl (by simp [phase])
  | deinit sid =>
      obtain ⟨_, rfl⟩ := System.deinit_cases stepped
      exact expects_update expects rfl (by simp)
  | commit sid endReady requestLimit =>
      obtain ⟨_, ⟨_, rfl⟩ | ⟨_, batch, _, _, _, _, _, rfl⟩⟩ :=
        System.commit_cases stepped
      · exact expects_update expects rfl (by simp)
      · refine expects_update expects rfl ?_
        cases batch <;> simp [System.afterBatch]
  | commitTransaction sid turns =>
      obtain ⟨transaction, batch, receipt, _, rfl⟩ :=
        System.commitTransaction_cases stepped
      refine expects_update expects rfl ?_
      dsimp only
      split
      · cases batch <;> simp [System.afterBatch]
      · simp
  | releaseDeferred sid poolSockets =>
      obtain ⟨c, batch, receipt, _, _, rfl⟩ :=
        System.releaseDeferred_cases stepped
      refine expects_update expects rfl ?_
      cases batch <;> simp [System.afterBatch]
  | release sid requestLimit poolSockets =>
      obtain ⟨self, _, _, _, rfl⟩ := System.release_cases stepped
      exact expects_update expects rfl (by simp)
  | forceLock =>
      obtain ⟨_, rfl⟩ := System.forceLock_cases stepped
      exact expects
  | forceNext poolSockets turns =>
      obtain ⟨_, _, _, _, ⟨_, rfl⟩ | ⟨_, _, _, _, rfl⟩⟩ :=
        System.forceNext_cases stepped <;> exact expects
  | forceUnlock =>
      obtain ⟨_, _, _, rfl⟩ := System.forceUnlock_cases stepped
      exact expects

theorem Runs.expects (run : Runs (begunWith meant) name s) :
    s.Expects meant :=
  Reaches.invariant run (by simp [System.Expects, System.init])
    fun _ _ _ _ expects permitted stepped =>
      expects_step expects permitted stepped

theorem keepsLogon_step {action : Action} (custody : Custody s)
    (queue : Queue s) (expects : s.Expects meant)
    (keeps : ∀ c, KeepsLogon meant (s.connections c))
    (stepped : s.step action = some after) :
    ∀ c, KeepsLogon meant (after.connections c) := by
  refine ofSocket_keepsLogon.step custody queue keeps ?_ stepped
  constructor
  case connect =>
      intro sid turns u c _ phase returned
      exact (keeps _).connect (expects sid u phase) returned
  case begin =>
      intro sid requestLimit turns c _ returned
      exact (keeps _).continues
        ((sendBegin_harmless requestLimit turns).returned returned)
  case content =>
      intro sid row now requestLimit turns _
      exact (keeps _).continues (capstompContent_continues row now _ turns _)
  case commit =>
      intro sid turns transaction batch receipt _ _
      exact (keeps _).continues (commitTransaction_continues ..)
  case force =>
      intro poolSockets turns transaction _ _ _
      exact (keeps _).continues (commitTransaction_continues ..)

theorem Runs.keepsLogon (run : Runs (begunWith meant) name s) :
    ∀ c, KeepsLogon meant (s.connections c) :=
  Reaches.invariant run (fun _ => ofSocket_keepsLogon.closed _ rfl)
    fun _ _ _ reached keeps _ stepped =>
      keepsLogon_step (Runs.custody reached) (Runs.queue reached)
        (Runs.expects reached) keeps stepped

end Runs

end Capstomp
