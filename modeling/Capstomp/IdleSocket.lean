import Capstomp.Confirmation

/-!
# A socket that died while idle

`connected` reads what has arrived on a socket since it was parked.  The end
of the stream makes it close the socket, so that `connect` opens a new one.
A failing `recv`, bytes that stomplay rejects and a failing `poll` leave it as
exceptions instead, and an ERROR frame on a socket that stays open is not
looked at.
-/

namespace Capstomp

open General Connection

/-- What ends the draining of a socket: nothing more to read, the end of the
stream, or a call that fails. -/
inductive DrainEnd where
  | quiet
  | closed
  | failed
  deriving DecidableEq, Repr

/-- The packets read before draining ends, and what ends it. -/
def arrived : List Turn → List Packet × DrainEnd
  | [] => ([], .quiet)
  | turn :: turns =>
      match turn.poll with
      | .failed => ([], .failed)
      | .events pollIn _ =>
          if pollIn then
            match turn.recv with
            | .failed => ([], .failed)
            | .closed => ([], .closed)
            | .data packets parsed =>
                if parsed then
                  (packets ++ (arrived turns).1, (arrived turns).2)
                else (packets, .failed)
          else ([], .quiet)

/-- How `connected` ends on an open socket. -/
def Drains (c : Connection) (turns : List Turn)
    (result : EStateM.Result Error Connection Bool) : Prop :=
  let after := c.dispatchAll (arrived turns).1
  match (arrived turns).2 with
  | .quiet => result = .ok true after
  | .closed => result = .ok false after.close
  | .failed => ∃ error, result = .error error after

theorem dispatchAll_append (first second : List Packet) (c : Connection) :
    c.dispatchAll (first ++ second) =
      (c.dispatchAll first).dispatchAll second :=
  List.foldl_append

theorem drain_drains (turns : List Turn) {c : Connection} (isOpen : c.good) :
    Drains c turns (drain turns c) := by
  induction turns generalizing c with
  | nil => rfl
  | cons turn turns induction =>
      cases polled : turn.poll with
      | failed =>
          have ends : arrived (turn :: turns) = ([], .failed) := by
            simp [arrived, polled]
          rw [Drains, ends]
          refine ⟨.poll, ?_⟩
          simp [drain, bind, EStateM.bind, readyRead, socketPoll_failed polled]
      | events pollIn pollOut =>
          have ready : readyRead turn c = .ok pollIn c := by
            simp [readyRead, bind, EStateM.bind, socketPoll_events polled,
              isOpen]
          cases pollIn with
          | false =>
              have ends : arrived (turn :: turns) = ([], .quiet) := by
                simp [arrived, polled]
              rw [Drains, ends]
              simp only [drain, bind, EStateM.bind, ready]
              rfl
          | true =>
              cases received : turn.recv with
              | failed =>
                  have ends : arrived (turn :: turns) = ([], .failed) := by
                    simp [arrived, polled, received]
                  rw [Drains, ends]
                  refine ⟨.recv "connected", ?_⟩
                  simp only [drain, bind, EStateM.bind, ready, received]
                  rfl
              | closed =>
                  have ends : arrived (turn :: turns) = ([], .closed) := by
                    simp [arrived, polled, received]
                  rw [Drains, ends]
                  simp only [drain, bind, EStateM.bind, ready, received]
                  rfl
              | data packets parsed =>
                  cases parsed with
                  | false =>
                      have ends : arrived (turn :: turns) =
                          (packets, .failed) := by
                        simp [arrived, polled, received]
                      rw [Drains, ends]
                      refine ⟨.stompParse "connected", ?_⟩
                      simp only [drain, bind, EStateM.bind, ready, received]
                      rfl
                  | true =>
                      have more : arrived (turn :: turns) =
                          (packets ++ (arrived turns).1,
                            (arrived turns).2) := by
                        simp [arrived, polled, received]
                      have goes : drain (turn :: turns) c =
                          drain turns (c.dispatchAll packets) := by
                        simp only [drain, bind, EStateM.bind, ready, received]
                        rfl
                      have still : (c.dispatchAll packets).good := by
                        rw [good, dispatchAll_socket]
                        exact isOpen
                      rw [Drains, more, goes, dispatchAll_append]
                      exact induction still

theorem connected_drains {c : Connection} (isOpen : c.good)
    (turns : List Turn) : Drains c turns (connected turns c) := by
  have drains := drain_drains turns isOpen
  have same : connected turns c = drain turns c := by
    simp [connected, bind, EStateM.bind, isOpen]
  rwa [same]

theorem connected_closed {c : Connection} (isClosed : c.good = false)
    (turns : List Turn) : connected turns c = .ok false c := by
  simp [connected, bind, EStateM.bind, isClosed]

section Replaced

variable [PassHash] [FrameBytes]

/-- `connected` as it is meant: it returns, with true for an open socket on
which no error is known, and else with the connection closed, so that
`connect` opens a new socket. -/
def Replaces (c : Connection) (turns : List Turn) : Prop :=
  ∃ alive drained, connected turns c = .ok alive drained ∧
    (alive = true → drained.good ∧ drained.error = "") ∧
    (alive = false → drained.good = false ∧
      ∀ (u : Uri) (connecting : ConnectTurns), connecting.drain = turns →
        establish u connecting c = reconnect u connecting drained)

/-- What arrives does not end with a failing call, and if the socket stays
open it leaves no error text. -/
def DrainsClean (c : Connection) (turns : List Turn) : Prop :=
  c.good = false ∨ (arrived turns).2 = .closed ∨
    ((arrived turns).2 = .quiet ∧
      (c.dispatchAll (arrived turns).1).error = "")

/-- A socket that is not alive makes `connect` open a new one. -/
theorem establish_of_dead {c drained : Connection} {turns : List Turn}
    (dead : connected turns c = .ok false drained) (u : Uri)
    (connecting : ConnectTurns) (same : connecting.drain = turns) :
    establish u connecting c = reconnect u connecting drained := by
  simp [establish, bind, EStateM.bind, same, dead]

/-- A dead socket is replaced exactly when draining it does not fail, and an
open one is known to be good exactly when it has no error left. -/
theorem connected_replaces_iff (c : Connection) (turns : List Turn) :
    Replaces c turns ↔ DrainsClean c turns := by
  cases isOpen : c.good with
  | false =>
      have dead := connected_closed isOpen turns
      constructor
      · intro _
        exact .inl isOpen
      · intro _
        refine ⟨false, c, dead, ?_, ?_⟩
        · intro impossible
          cases impossible
        · intro _
          exact ⟨isOpen, establish_of_dead dead⟩
  | true =>
      have drains := connected_drains isOpen turns
      have clean_iff : DrainsClean c turns ↔
          (arrived turns).2 = .closed ∨ ((arrived turns).2 = .quiet ∧
            (c.dispatchAll (arrived turns).1).error = "") := by
        simp [DrainsClean, isOpen]
      rw [clean_iff]
      unfold Drains at drains
      cases ends : (arrived turns).2 with
      | quiet =>
          simp only [ends] at drains
          have still : (c.dispatchAll (arrived turns).1).good := by
            rw [good, dispatchAll_socket]
            exact isOpen
          constructor
          · rintro ⟨alive, drained, returned, isAlive, _⟩
            rw [drains] at returned
            cases returned
            exact .inr ⟨rfl, (isAlive rfl).2⟩
          · rintro (impossible | ⟨_, clean⟩)
            · cases impossible
            · refine ⟨true, _, drains, fun _ => ⟨still, clean⟩, ?_⟩
              intro impossible
              cases impossible
      | closed =>
          simp only [ends] at drains
          constructor
          · intro _
            exact .inl rfl
          · intro _
            refine ⟨false, _, drains, ?_, ?_⟩
            · intro impossible
              cases impossible
            · intro _
              exact ⟨rfl, establish_of_dead drains⟩
      | failed =>
          simp only [ends] at drains
          obtain ⟨error, thrown⟩ := drains
          constructor
          · rintro ⟨alive, drained, returned, _⟩
            rw [thrown] at returned
            cases returned
          · rintro (impossible | ⟨impossible, _⟩) <;> cases impossible

end Replaced

section Executed

open scoped Sample

/-- A statement that parks its connection, and the beginning of another. -/
def parksThenGets : List Action :=
  [.get 1 (Sample.uri "") 8, .connect 1 Sample.connects, .deinit 1,
    .commit 1 false 100, .release 1 100 8, .get 2 (Sample.uri "") 8]

/-- The peer has reset the connection that was parked. -/
theorem connected_throws :
    ¬ ∀ (s : System) (sid : SessionId) (u : Uri) (turns : List Turn),
      Runs anything "pool" s → (s.sessions sid).phase = .got u →
        Replaces (s.own sid) turns := by
  intro alwaysReplaces
  let s := final anything "pool" parksThenGets
  let reset : Turn := { poll := .events true false, recv := .failed }
  obtain ⟨alive, drained, returned, _⟩ :=
    alwaysReplaces s 2 (Sample.uri "") [reset]
      (runs_final (by decide +kernel)) (by decide +kernel)
  have isOpen : (s.own 2).good := by decide +kernel
  have drains := connected_drains isOpen [reset]
  obtain ⟨error, thrown⟩ := drains
  rw [thrown] at returned
  cases returned

end Executed

end Capstomp
