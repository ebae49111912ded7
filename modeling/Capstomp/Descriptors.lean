import Capstomp.CreateConnection
import Capstomp.General.Throwing

/-!
# The descriptors of a connection attempt

`try_connect` creates a socket and hands it out only when it is connected.
A handle does not close its descriptor when an exception destroys it, so an
attempt that fails after the socket was created leaves the descriptor open
with nobody to close it.
-/

namespace Capstomp

open General

/-- `connect_sync` returns: at once, or when the socket becomes writable. -/
def Attempt.connects (attempt : Attempt) : Bool :=
  match attempt.connected, attempt.writable with
  | .done, _ => true
  | .failed, _ => false
  | .inProgress, .failed => false
  | .inProgress, .events _ pollOut => pollOut

/-- A socket is created and then not connected. -/
def Attempt.abandons (attempt : Attempt) : Bool :=
  attempt.created.isSome && !attempt.connects

def Resolve.abandons : Resolve → Bool
  | .failed _ | .empty => false
  | .found attempt => attempt.abandons

/-- The direct attempt is made and succeeds. -/
def Route.isDirect (route : Route) : Bool :=
  route.address && route.direct.created.isSome && route.direct.connects

/-- The direct attempt abandons a socket, or the one that follows it does. -/
def Route.abandons (route : Route) : Bool :=
  (route.address && route.direct.abandons) ||
    (!route.isDirect && route.resolve.abandons)

/-- Whatever was open stays open, and besides it exactly the descriptor that
is returned. -/
def KeepsReturned (opening : Opening Nat) : Prop :=
  ∀ opened,
    match opening opened with
    | .ok fd left => left = fd :: opened
    | .error _ left => left = opened

/-- `connect_sync` opens nothing. -/
theorem connectSync_cases (attempt : Attempt) (opened : List Nat) :
    (attempt.connects ∧ connectSync attempt opened = .ok () opened) ∨
      (attempt.connects = false ∧
        ∃ error, connectSync attempt opened = .error error opened) := by
  obtain ⟨created, connected, writable⟩ := attempt
  cases connected with
  | done => exact .inl ⟨rfl, rfl⟩
  | failed => exact .inr ⟨rfl, .connect, rfl⟩
  | inProgress =>
      cases writable with
      | failed => exact .inr ⟨rfl, .poll, rfl⟩
      | events pollIn pollOut =>
          cases pollOut with
          | true => exact .inl ⟨rfl, rfl⟩
          | false => exact .inr ⟨rfl, .connectTimeout, rfl⟩

/-- An attempt ends without a socket, with one that it returns, or with one
that is left open. -/
theorem tryConnect_cases (attempt : Attempt) (opened : List Nat) :
    (attempt.created = none ∧
        tryConnect attempt opened = .error .socket opened) ∨
      ∃ fd, attempt.created = some fd ∧
        ((attempt.connects ∧
            tryConnect attempt opened = .ok fd (fd :: opened)) ∨
          (attempt.connects = false ∧
            ∃ error, tryConnect attempt opened =
              .error error (fd :: opened))) := by
  unfold tryConnect
  cases created : attempt.created with
  | none => exact .inl ⟨rfl, rfl⟩
  | some fd =>
      refine .inr ⟨fd, rfl, ?_⟩
      rcases connectSync_cases attempt (fd :: opened) with
        ⟨connects, returned⟩ | ⟨fails, error, thrown⟩
      · refine .inl ⟨connects, ?_⟩
        apply bind_eq_ok_iff.mpr
        refine ⟨⟨⟩, fd :: opened, rfl, ?_⟩
        exact bind_eq_ok_iff.mpr ⟨(), fd :: opened, returned, rfl⟩
      · refine .inr ⟨fails, error, ?_⟩
        apply bind_eq_error_iff.mpr
        refine .inr ⟨⟨⟩, fd :: opened, rfl, ?_⟩
        exact bind_eq_error_iff.mpr (.inl thrown)

theorem tryConnect_keeps_iff (attempt : Attempt) :
    KeepsReturned (tryConnect attempt) ↔ attempt.abandons = false := by
  constructor
  · intro keeps
    have kept := keeps []
    rcases tryConnect_cases attempt [] with
      ⟨created, _⟩ | ⟨fd, _, ⟨connects, _⟩ | ⟨_, error, thrown⟩⟩
    · simp [Attempt.abandons, created]
    · simp [Attempt.abandons, connects]
    · simp [thrown] at kept
  · intro keeps opened
    rcases tryConnect_cases attempt opened with
      ⟨_, thrown⟩ | ⟨fd, created, ⟨_, returned⟩ | ⟨fails, _⟩⟩
    · simp [thrown]
    · simp [returned]
    · simp [Attempt.abandons, created, fails] at keeps

/-- What `create_connection` does after a direct attempt that failed. -/
theorem tryGethostnameConnect_keeps_iff (host : String) (resolve : Resolve) :
    KeepsReturned (tryGethostnameConnect host resolve) ↔
      resolve.abandons = false := by
  cases resolve with
  | failed code => exact ⟨fun _ => rfl, fun _ opened => rfl⟩
  | empty => exact ⟨fun _ => rfl, fun _ opened => rfl⟩
  | found attempt => exact tryConnect_keeps_iff attempt

/-- Nothing that was open is closed. -/
theorem tryGethostnameConnect_grows (host : String) (resolve : Resolve)
    (opened : List Nat) :
    match tryGethostnameConnect host resolve opened with
    | .ok fd left => left = fd :: opened
    | .error _ left => opened.length ≤ left.length := by
  cases resolve with
  | failed code => exact Nat.le_refl _
  | empty => exact Nat.le_refl _
  | found attempt =>
      rcases tryConnect_cases attempt opened with
        ⟨_, thrown⟩ | ⟨fd, _, ⟨_, returned⟩ | ⟨_, error, thrown⟩⟩
      · simp [tryGethostnameConnect, thrown]
      · simp [tryGethostnameConnect, returned]
      · simp [tryGethostnameConnect, thrown]

/-- After a direct attempt that left nothing open the resolver decides. -/
theorem createConnection_fallback {u : Uri} {route : Route}
    (falls : ∀ opened, createConnection u route opened =
      tryGethostnameConnect u.host route.resolve opened) :
    KeepsReturned (createConnection u route) ↔
      KeepsReturned (tryGethostnameConnect u.host route.resolve) := by
  constructor <;>
    · intro keeps opened
      have kept := keeps opened
      simpa only [falls] using kept

/-- A direct attempt that connects hands its socket out. -/
theorem createConnection_direct {u : Uri} {route : Route} {fd : Nat}
    (address : route.address = true) (created : route.direct.created = some fd)
    (connects : route.direct.connects = true) :
    KeepsReturned (createConnection u route) := by
  intro opened
  rcases tryConnect_cases route.direct opened with
    ⟨none, _⟩ | ⟨_, _, ⟨_, returned⟩ | ⟨fails, _⟩⟩
  · simp [created] at none
  · simp [createConnection, address, returned]
  · simp [connects] at fails

/-- The socket of one that does not stays open, whatever the resolver does. -/
theorem createConnection_abandons {u : Uri} {route : Route} {fd : Nat}
    (address : route.address = true) (created : route.direct.created = some fd)
    (fails : route.direct.connects = false) :
    ¬ KeepsReturned (createConnection u route) := by
  intro keeps
  have kept := keeps []
  rcases tryConnect_cases route.direct [] with
    ⟨none, _⟩ | ⟨other, _, ⟨connects, _⟩ | ⟨_, error, thrown⟩⟩
  · simp [created] at none
  · simp [fails] at connects
  · have grows := tryGethostnameConnect_grows u.host route.resolve [other]
    simp only [createConnection, address, if_true, thrown] at kept
    split at grows
    · next fd left returned =>
        rw [returned] at kept
        simp [grows] at kept
    · next later left thrownLater =>
        rw [thrownLater] at kept
        simp [kept] at grows

/-- `create_connection` leaves open exactly the descriptor it returns, and
none when it throws, if and only if no attempt fails with a socket created. -/
theorem create_connection_keeps_iff (u : Uri) (route : Route) :
    KeepsReturned (createConnection u route) ↔ route.abandons = false := by
  have resolved := tryGethostnameConnect_keeps_iff u.host route.resolve
  cases address : route.address with
  | false =>
      rw [createConnection_fallback fun opened => by
        simp [createConnection, address], resolved]
      simp [Route.abandons, Route.isDirect, address]
  | true =>
      cases created : route.direct.created with
      | none =>
          rw [createConnection_fallback fun opened => by
            simp [createConnection, address, tryConnect, created], resolved]
          simp [Route.abandons, Route.isDirect, address, created,
            Attempt.abandons]
      | some fd =>
          cases connects : route.direct.connects with
          | true =>
              have kept : KeepsReturned (createConnection u route) :=
                createConnection_direct address created connects
              simp [kept, Route.abandons, Route.isDirect, address, created,
                Attempt.abandons, connects]
          | false =>
              have lost : ¬ KeepsReturned (createConnection u route) :=
                createConnection_abandons address created connects
              simp [lost, Route.abandons, address, created,
                Attempt.abandons, connects]

/-- The broker refuses the connection, and the resolver does not know the
host: the descriptor of the first attempt is never closed. -/
theorem create_connection_leaks :
    ¬ ∀ (u : Uri) (route : Route), KeepsReturned (createConnection u route) := by
  intro alwaysKeeps
  let u : Uri :=
    { login := "guest", passcode := "guest", addrPort := "127.0.0.1:61613"
      host := "127.0.0.1", path := "", rpath := ""
      query := ⟨[], 0, 0, by simp⟩, fragment := "" }
  let route : Route :=
    { address := true
      direct := { created := some 7, connected := .failed }
      resolve := .failed 1 }
  have kept : [7] = ([] : List Nat) := alwaysKeeps u route []
  cases kept

end Capstomp
