import Capstomp.StoreReachable

/-!
# Connections that are reused

A session that finds a live connection in its pool, logged on with its
password, publishes on it without a logon of its own.  Whoever logged that
connection on asked for the same login, address, virtual host and destination,
because the name of the pool gives these parts of a URI away.
-/

namespace Capstomp

open General

section Runs

variable [QueryDecoding] [PassHash] [FrameBytes]
variable {route : String → String} {s : Store}

/-- A connection that `connect` reuses has been logged on for the session's
own endpoint, and with a password of the same hash. -/
theorem reuses_own_endpoint
    (run : StoreRuns (asksFor (WellParsed route)) s) {pool : PoolId}
    {sid : SessionId} {u : Uri} {turns : ConnectTurns} {drained : Connection}
    (phase : ((s.pools pool).sessions sid).phase = .got u)
    (reuses : Reuses u turns ((s.pools pool).own sid) drained) :
    connect u turns ((s.pools pool).own sid) =
        .ok () { drained with requestCount := drained.requestCount + 1 } ∧
      drained.destination = u.fragment ∧
      ∃ socket, drained.socket = some socket ∧
        socket.target.addrPort = u.addrPort ∧
        socket.target.fragment = u.fragment ∧
        socket.frames.head? = some
          { body := .logon u.vhost u.login socket.target.passcode } ∧
        PassHash.hash socket.target.passcode = PassHash.hash u.passcode := by
  obtain ⟨address, inside⟩ := (StoreRuns.named run).pools pool
  obtain ⟨ownName, ownParsed⟩ := Runs.expects inside sid u phase
  obtain ⟨socket, isOpen, logged, passhash⟩ :=
    (Runs.keepsLogon inside _).reused reuses
  obtain ⟨targetName, targetParsed⟩ := logged.target
  have same : SameEndpoint socket.target u :=
    endpoint_inj targetParsed ownParsed (targetName.trans ownName.symm)
  have logon := logged.logon
  simp only [Uri.logonBody, Uri.vhost, same.rpath, same.login] at logon
  exact ⟨connect_reuses reuses, logged.destination.trans same.fragment,
    socket, isOpen, same.addrPort, same.fragment, logon, passhash⟩

end Runs

section Executed

open scoped Sample

/-- A session that logs on and parks its connection, and a second one of the
same URI. -/
def parkedForNext : List StoreAction :=
  [.select 1 (Sample.uri "") 16 "a", .get 1 8,
    .session (.connect 1 Sample.connects), .session (.deinit 1),
    .session (.commit 1 false 100), .session (.release 1 100 8),
    .select 2 (Sample.uri "") 16 "b", .get 2 8]

theorem reuses_own_endpoint_parked :
    let s := executed Store.step (asksFor (WellParsed Sample.route)) {}
      parkedForNext
    let c := (s.pools 0).own 2
    Reuses (Sample.uri "") Sample.connects c c ∧
      c.destination = (Sample.uri "").fragment ∧
      ∃ socket, c.socket = some socket ∧
        socket.frames.head? = some
          { body := .logon "vhost" "guest" socket.target.passcode } := by
  intro s c
  have isOpen : c.good := by decide +kernel
  have reuses : Reuses (Sample.uri "") Sample.connects c c := by
    refine ⟨?_, by decide +kernel⟩
    simp [connected, bind, EStateM.bind, isOpen, Sample.connects, drain]
  obtain ⟨_, destination, socket, isSocket, _, _, logon, _⟩ :=
    reuses_own_endpoint (reaches_executed (by decide +kernel))
      (by decide +kernel) reuses
  exact ⟨reuses, destination, socket, isSocket, logon⟩

end Executed

end Capstomp
