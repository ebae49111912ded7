import Capstomp.Movers
import Capstomp.StoreReachable
import Capstomp.Streams

/-!
# Where the frames of a statement go

Statements share connections, but not with statements of other endpoints: what
a statement begins, sends and commits goes to a socket that was logged on with
the login and virtual host of its own URI and a password of the same hash, and
what it sends is for the destination of that URI.
-/

namespace Capstomp

open General Connection

/-- A BEGIN or a SEND. -/
def Body.opening : Body → Bool
  | .begin _ | .send _ _ _ => true
  | .logon _ _ _ | .commit _ => false

/-- Between `connect` and `deinit`. -/
def Phase.speaking : Phase → Bool
  | .creating | .beginning | .rows => true
  | _ => false

/-- Sessions begin with the URIs that are meant for them. -/
def begunAs (meant : SessionId → Uri → Prop) (_ : System) : Action → Prop
  | .get sid uri _ => meant sid uri
  | _ => True

theorem begunWith_of_begunAs {meant : SessionId → Uri → Prop} {s : System}
    {action : Action} (permitted : begunAs meant s action) :
    begunWith (fun u => ∃ sid, meant sid u) s action := by
  cases action with
  | get sid => exact ⟨sid, permitted⟩
  | _ => trivial

section Frames

variable [PassHash] {meant : SessionId → Uri → Prop}
variable {before after c : Connection} {w : Written} {target uri : Uri}

/-- The frame of a session with this URI is on a socket that was logged on for
that target. -/
structure Routed (meant : SessionId → Uri → Prop) (c : Connection)
    (w : Written) (target uri : Uri) : Prop where
  asked : meant w.session uri
  alsoAsked : ∃ sid, meant sid target
  logon : (c.framesOn w.socket).head?.map (fun w => w.frame.body) =
    some target.logonBody
  passcode : PassHash.hash target.passcode = PassHash.hash uri.passcode
  destination : ∀ destination headers payload,
    w.frame.body = .send destination headers payload →
      ∃ routingKey, destination = rowDestination target.fragment routingKey

theorem Routed.append (routed : Routed meant before w target uri)
    {more : List Written} (written : after.written = before.written ++ more) :
    Routed meant after w target uri := by
  refine ⟨routed.asked, routed.alsoAsked, ?_, routed.passcode,
    routed.destination⟩
  obtain ⟨logon, isFirst, body⟩ := Option.map_eq_some_iff.mp routed.logon
  rw [framesOn, written, List.filter_append, ← framesOn, List.head?_append,
    isFirst, ← body]
  rfl

variable [FrameBytes] {u : Uri} {turns : ConnectTurns}

omit [FrameBytes] in
/-- A connection that has connected keeps the hash of the password. -/
theorem connect_passhash [FrameBytes]
    (returned : connect u turns c = .ok () after) :
    after.passhash = PassHash.hash u.passcode := by
  obtain ⟨_, established, settled, counted⟩ := bind_eq_ok_iff.mp returned
  cases counted
  obtain ⟨alive, drained, _, continued⟩ := bind_eq_ok_iff.mp settled
  simp only [bind, EStateM.bind, get_apply] at continued
  split at continued
  · next reuses =>
      cases continued
      simp_all
  · rcases reconnect_cases u turns drained with
      ⟨error, failed⟩ | ⟨fd, ⟨error, left, _, failed⟩ | ⟨final, _, done⟩⟩
    · rw [failed] at continued
      cases continued
    · rw [failed] at continued
      cases continued
    · rw [done] at continued
      cases continued
      rfl

end Frames

/-- What is known of the URIs of the sessions: of one that is to connect, of
the connection of one that may send, and of the frames that were written. -/
structure Routes [PassHash] (meant : SessionId → Uri → Prop) (s : System) :
    Prop where
  asked : ∀ sid uri, (s.sessions sid).phase = .got uri → meant sid uri
  speaking : ∀ sid, (s.sessions sid).phase.speaking → (s.own sid).good →
    ∃ uri, meant sid uri ∧
      (s.own sid).passhash = PassHash.hash uri.passcode
  wire : ∀ c, ∀ w ∈ (s.connections c).written, w.frame.body.opening →
    ∃ target uri, Routed meant (s.connections c) w target uri

theorem Phase.Next.ne_got {before after : Phase} (next : before.Next after)
    (uri : Uri) : after ≠ .got uri := by
  rintro rfl
  generalize got : Phase.got uri = phase at next
  cases next with
  | connect leads => simp [← got] at leads
  | begin leads => simp [← got] at leads
  | own _ batch | returned _ batch =>
      cases batch <;> simp [System.afterBatch] at got
  | _ => cases got

@[simp] theorem speaking_afterBatch (batch : List Transaction)
    (receipt : Bool) : (System.afterBatch batch receipt).speaking = false := by
  cases batch <;> rfl

section Steps

variable [QueryDecoding] [PassHash] [FrameBytes]
variable {meant : SessionId → Uri → Prop} {s after : System}
variable {action : Action}

namespace Routes

theorem asked_step (routes : Routes meant s)
    (permitted : begunAs meant s action)
    (stepped : s.step action = some after) :
    ∀ sid uri, (after.sessions sid).phase = .got uri → meant sid uri := by
  intro sid uri phase
  cases System.session_cases stepped sid with
  | still _ same => exact routes.asked sid uri (same ▸ phase)
  | refused => exact routes.asked sid uri phase
  | goes _ next session =>
      rw [session] at phase
      exact absurd phase (next.ne_got uri)
  | begins => simp_all [begunAs]
  | row rows session => simp [session, rows] at phase

/-- A step leaves the connection of another session that may send alone; what
one of its own makes of it is for the caller to say. -/
theorem speaking_step (routes : Routes meant s) (custody : Custody s)
    (queue : Queue s) (stepped : s.step action = some after) :
    ∀ sid, (after.sessions sid).phase.speaking → (after.own sid).good →
      ∃ uri, meant sid uri ∧
        (after.own sid).passhash = PassHash.hash uri.passcode := by
  intro sid speaking isOpen
  by_cases thread : action.thread = .session sid
  · -- What continues on an open socket has the password it had.
    have continued : ∀ {c : Connection}, Continues (s.own sid) c →
        after.own sid = c → (s.sessions sid).phase.speaking →
          ∃ uri, meant sid uri ∧
            (after.own sid).passhash = PassHash.hash uri.passcode := by
      intro c continues isOwn was
      rw [isOwn] at isOpen ⊢
      obtain ⟨open', nowOpen⟩ := Option.isSome_iff_exists.mp isOpen
      obtain ⟨open₀, wasOpen, same⟩ := continues.socket open' nowOpen
      obtain ⟨uri, isMeant, passhash⟩ :=
        routes.speaking sid was (Option.isSome_iff_exists.mpr ⟨_, wasOpen⟩)
      exact ⟨uri, isMeant, same.passhash.trans passhash⟩
    cases action with
    | get other uri maxPoolSockets =>
        cases thread
        obtain ⟨idle, _, rfl | ⟨obtained, _, rfl⟩⟩ := System.get_cases stepped
        · exact routes.speaking sid speaking isOpen
        · simp [Phase.speaking] at speaking
    | connect other turns =>
        cases thread
        obtain ⟨uri, phase, ⟨c, returned, rfl⟩ | ⟨_, c, _, rfl⟩⟩ :=
          System.connect_cases stepped
        · refine ⟨uri, routes.asked sid uri phase, ?_⟩
          simpa [System.own] using connect_passhash returned
        · simp [System.own, System.initFailed, Connection.close,
            Connection.good] at isOpen
    | createTransaction other =>
        cases thread
        obtain ⟨self, phase, _, _, rfl⟩ :=
          System.createTransaction_cases stepped
        have was := routes.speaking sid (by simp [phase, Phase.speaking])
        simpa [System.own, setTransaction, good] using
          was (by simpa [System.own, setTransaction, good] using isOpen)
    | begin other requestLimit turns =>
        cases thread
        have may := sendBegin_mayWrite requestLimit turns (s.own sid)
        obtain ⟨phase, ⟨c, returned, rfl⟩ | ⟨_, c, _, rfl⟩⟩ :=
          System.begin_cases stepped
        · rw [returned] at may
          exact continued may.toContinues (by simp [System.own])
            (by simp [phase, Phase.speaking])
        · simp [System.own, System.initFailed, Connection.close,
            Connection.good] at isOpen
    | content other row now requestLimit turns =>
        cases thread
        obtain ⟨phase, rfl⟩ := System.content_cases stepped
        exact continued (capstompContent_continues row now requestLimit turns _)
          (by simp [System.own]) (by simp [phase, Phase.speaking])
    | deinit other =>
        cases thread
        obtain ⟨_, rfl⟩ := System.deinit_cases stepped
        simp [Phase.speaking] at speaking
    | commit other endReady requestLimit =>
        cases thread
        obtain ⟨_, ⟨_, rfl⟩ | ⟨_, batch, _, _, _, _, _, rfl⟩⟩ :=
          System.commit_cases stepped
        · simp [Phase.speaking] at speaking
        · cases batch <;> simp [System.afterBatch, Phase.speaking] at speaking
    | commitTransaction other turns =>
        cases thread
        obtain ⟨_, batch, _, _, rfl⟩ := System.commitTransaction_cases stepped
        simp only [System.setPhase_sessions, Function.update_self] at speaking
        split at speaking
        · rw [speaking_afterBatch] at speaking
          cases speaking
        · cases speaking
    | releaseDeferred other poolSockets =>
        cases thread
        obtain ⟨_, batch, _, _, _, rfl⟩ := System.releaseDeferred_cases stepped
        simp [speaking_afterBatch] at speaking
    | release other requestLimit poolSockets =>
        cases thread
        obtain ⟨_, _, _, _, rfl⟩ := System.release_cases stepped
        simp [Phase.speaking] at speaking
    | forceLock | forceNext | forceUnlock => cases thread
  · have same := System.session_other custody queue stepped thread
    rw [same] at speaking
    have uses : s.Uses (.session sid) (s.sessions sid).connection := by
      refine Session.own_mem_held ?_ ?_ <;>
        · intro phase
          simp [phase, Phase.speaking] at speaking
    have isOwn : after.own sid = s.own sid := by
      rw [System.own, same]
      exact (System.connection_other custody queue stepped thread uses).1
    rw [isOwn] at isOpen ⊢
    exact routes.speaking sid speaking isOpen

omit [QueryDecoding] [FrameBytes] in
/-- What a session that may send writes on its open socket. -/
theorem routed (routes : Routes meant s) (ledger : Ledger s)
    (keeps : ∀ c, KeepsLogon (fun u => ∃ sid, meant sid u) (s.connections c))
    {sid : SessionId} {c : Connection} {frame : Frame} {open₀ : Socket}
    (speaking : (s.sessions sid).phase.speaking)
    (isOpen : (s.own sid).socket = some open₀)
    (stream : Stream (s.own sid))
    (written : c.written = (s.own sid).written ++
      [(s.own sid).tagged open₀.number frame])
    (destination : ∀ destination headers payload,
      frame.body = .send destination headers payload →
        ∃ routingKey,
          destination = rowDestination (s.own sid).destination routingKey) :
    ∃ target uri,
      Routed meant c ((s.own sid).tagged open₀.number frame) target uri := by
  have owner : (s.own sid).owner = sid := by
    refine ledger.owner sid ?_ ?_ <;>
      · intro phase
        simp [phase, Phase.speaking] at speaking
  have logged := keeps (s.sessions sid).connection open₀ isOpen
  obtain ⟨uri, isMeant, passhash⟩ :=
    routes.speaking sid speaking (Option.isSome_iff_exists.mpr ⟨_, isOpen⟩)
  refine ⟨open₀.target, uri, ?_, logged.target, ?_, ?_, ?_⟩
  · rw [Connection.tagged, owner]
    exact isMeant
  · have heard := stream.heard open₀ isOpen
    obtain ⟨logon, isFirst, body⟩ := Option.map_eq_some_iff.mp heard
    rw [framesOn, written, List.filter_append, ← framesOn, List.head?_append]
    simp only [Connection.tagged]
    rw [isFirst, ← body]
    rfl
  · exact logged.passhash.symm.trans passhash
  · intro destination' headers payload body
    obtain ⟨routingKey, same⟩ := destination destination' headers payload body
    exact ⟨routingKey, by rw [same, ← logged.destination]; rfl⟩

theorem wire_step (routes : Routes meant s) (custody : Custody s)
    (queue : Queue s) (ledger : Ledger s) (told : Told s)
    (streams : ∀ c, Stream (s.connections c))
    (keeps : ∀ c, KeepsLogon (fun u => ∃ sid, meant sid u) (s.connections c))
    (stepped : s.step action = some after) :
    ∀ c, ∀ w ∈ (after.connections c).written, w.frame.body.opening →
      ∃ target uri, Routed meant (after.connections c) w target uri := by
  intro c w member opening
  have older : ∀ {more : List Written}, w ∈ (s.connections c).written →
      (after.connections c).written = (s.connections c).written ++ more →
        ∃ target uri, Routed meant (after.connections c) w target uri := by
    intro more old written
    obtain ⟨target, uri, routed⟩ := routes.wire c w old opening
    exact ⟨target, uri, routed.append written⟩
  rcases System.written_cases custody queue told stepped with
    same | ⟨x, new, writes, written, same⟩
  · exact older (same c ▸ member) (by rw [same c, List.append_nil])
  · by_cases isHere : c = x
    · subst isHere
      rw [written, List.mem_append, List.mem_singleton] at member
      rcases member with old | rfl
      · exact older old written
      · cases writes with
        | logon => cases opening
        | commit => cases opening
        | force => cases opening
        | begin phase isOpen =>
            exact routes.routed ledger keeps (by simp [phase, Phase.speaking])
              isOpen (streams _) written (by simp)
        | @content sid row now requestLimit turns open₀ receipt phase isOpen =>
            refine routes.routed ledger keeps (by simp [phase, Phase.speaking])
              isOpen (streams _) written ?_
            intro destination headers payload body
            cases body
            exact ⟨row.routingKey, rfl⟩
    · exact older (same c isHere ▸ member)
        (by rw [same c isHere, List.append_nil])

end Routes

variable {name : String}

theorem Runs.routes (run : Runs (begunAs meant) name s) :
    Routes meant s := by
  refine Reaches.invariant run ?_ ?_
  · constructor
    · intro sid uri phase
      cases phase
    · intro sid speaking
      cases speaking
    · intro c w member
      cases member
  · intro before action after reached routes permitted stepped
    have custody := Runs.custody reached
    have queue := Runs.queue reached
    have keeps := Runs.keepsLogon
      (Reaches.weaken reached fun _ _ => begunWith_of_begunAs)
    exact ⟨routes.asked_step permitted stepped,
      routes.speaking_step custody queue stepped,
      routes.wire_step custody queue (Runs.ledger reached)
        (Runs.told reached) (Runs.conversations reached).streams keeps
        stepped⟩

/-- A COMMIT follows the BEGIN of its session, on the socket of that. -/
theorem Runs.routed (run : Runs (begunAs meant) name s) {c : ConnId}
    {w : Written} (member : w ∈ (s.connections c).written)
    (notLogon : w.frame.body.isLogon = false) :
    ∃ target uri, Routed meant (s.connections c) w target uri := by
  have routes := run.routes
  by_cases opening : w.frame.body.opening
  · exact routes.wire c w member opening
  · obtain ⟨id, isCommit⟩ : ∃ id, w.frame.body = .commit id := by
      cases body : w.frame.body <;>
        simp_all [Body.opening, Body.isLogon]
    have commits : w.frame.body.commits = some id := by
      rw [isCommit]
      rfl
    have integrity := run.titles.integrity run.told member (.inr commits)
    obtain ⟨earlier, later, split⟩ :=
      List.append_of_mem (mem_framesOf.mpr ⟨member, rfl⟩)
    obtain ⟨v, isEarlier, begins, socket⟩ := integrity.begun split commits
    have inFrames : v ∈ (s.connections c).framesOf w.session := by
      rw [split]
      exact List.mem_append_left _ isEarlier
    obtain ⟨written, session⟩ := mem_framesOf.mp inFrames
    have isBegin : v.frame.body.opening := by
      cases body : v.frame.body <;>
        simp_all [Body.begins, Body.opening]
    obtain ⟨target, uri, routed⟩ := routes.wire c v written isBegin
    refine ⟨target, uri, session ▸ routed.asked, routed.alsoAsked,
      socket ▸ routed.logon, routed.passcode, ?_⟩
    simp [isCommit]

end Steps

/-! ## In the store -/

section Store

variable [QueryDecoding] [PassHash] [FrameBytes]
variable {meant : SessionId → Uri → Prop} {s after : Store}

/-- Sessions select pools with the URIs that are meant for them. -/
def selectsAs (meant : SessionId → Uri → Prop) (_ : Store) :
    StoreAction → Prop
  | .select sid uri _ _ => meant sid uri
  | _ => True

/-- The URI of a session leads to the pool with this name. -/
def LeadsFor (meant : SessionId → Uri → Prop) (name : String)
    (sid : SessionId) (u : Uri) : Prop :=
  endpoint u = name ∧ meant sid u

/-- The pools run what is permitted under their names. -/
def PoolsRun (permits : String → System → Action → Prop) (s : Store) : Prop :=
  ∀ pool, ∃ address, Runs (permits (s.names pool)) address (s.pools pool)

namespace PoolsRun

variable {permits : String → System → Action → Prop}

theorem inPool (running : PoolsRun permits s) {pool : PoolId}
    {action : Action} {system : System}
    (permitted : permits (s.names pool) (s.pools pool) action)
    (moved : (s.pools pool).step action = some system) :
    PoolsRun permits (s.setPool pool system) := by
  intro other
  obtain ⟨address, run⟩ := running other
  refine ⟨address, ?_⟩
  by_cases same : other = pool
  · subst same
    simp only [Store.setPool_pools, Store.setPool_names, Function.update_self]
    exact run.next permitted moved
  · simp only [Store.setPool_pools, Store.setPool_names,
      Function.update_of_ne same]
    exact run

theorem emplace (running : PoolsRun permits s) (name address : String) :
    PoolsRun permits (s.emplace name address) := by
  intro other
  by_cases same : other = s.nextPool
  · subst same
    refine ⟨address, ?_⟩
    rw [Store.emplace_pools, Function.update_self]
    exact .refl
  · rw [Store.emplace_pools, Store.emplace_names,
      Function.update_of_ne same, Function.update_of_ne same]
    exact running other

end PoolsRun

structure NamedFor (meant : SessionId → Uri → Prop) (s : Store) : Prop where
  references : ∀ held ∈ s.references, meant held.session held.uri
  pools : ∀ pool, ∃ address,
    Runs (begunAs (LeadsFor meant (s.names pool))) address (s.pools pool)

namespace NamedFor

omit [QueryDecoding] [PassHash] [FrameBytes] in
theorem begunAs_of_statement {action : Action} {sid : SessionId}
    {system : System} (isOwn : action.statement = some sid) :
    begunAs meant system action := by
  cases action with
  | get sid uri maxPoolSockets => cases isOwn
  | _ => trivial

theorem running (namedFor : NamedFor meant s) :
    PoolsRun (fun name => begunAs (LeadsFor meant name)) s :=
  namedFor.pools

/-- References may go. -/
theorem shrink (namedFor : NamedFor meant s)
    (references : after.references ⊆ s.references)
    (pools : after.pools = s.pools) (names : after.names = s.names) :
    NamedFor meant after := by
  refine ⟨fun held member => namedFor.references held (references member), ?_⟩
  rw [pools, names]
  exact namedFor.pools

theorem inPool (namedFor : NamedFor meant s) {pool : PoolId}
    {action : Action} (stepped : s.inPool pool action = some after)
    (permitted : begunAs (LeadsFor meant (s.names pool)) (s.pools pool)
      action) : NamedFor meant after := by
  obtain ⟨_, system, moved, rfl⟩ := Store.inPool_cases stepped
  exact ⟨namedFor.references, namedFor.running.inPool permitted moved⟩

theorem select (namedFor : NamedFor meant s) {sid : SessionId} {u : Uri}
    {maxPoolCount : Nat} {address : String} (isMeant : meant sid u)
    (stepped : s.select sid u maxPoolCount address = some after) :
    NamedFor meant after := by
  obtain ⟨_, _, rfl | ⟨pool, between, selected, rfl⟩⟩ :=
    Store.select_cases stepped
  · exact namedFor
  · have references : between.references = s.references := by
      rcases Store.selectPool_cases selected with ⟨_, rfl⟩ | ⟨_, _, rfl⟩ <;> rfl
    constructor
    · intro held member
      rcases List.mem_cons.mp member with rfl | old
      · exact isMeant
      · exact namedFor.references held (references ▸ old)
    · rcases Store.selectPool_cases selected with ⟨_, rfl⟩ | ⟨_, _, rfl⟩
      · exact namedFor.pools
      · exact namedFor.running.emplace (endpoint u) address

theorem step (namedFor : NamedFor meant s)
    (named : Named (fun _ => True) s) {action : StoreAction}
    (permitted : selectsAs meant s action)
    (stepped : s.step action = some after) : NamedFor meant after := by
  cases action with
  | select sid uri maxPoolCount address =>
      exact namedFor.select permitted stepped
  | get sid maxPoolSockets =>
      obtain ⟨held, member, isOwn, between, moved, rfl⟩ :=
        Store.get_cases stepped
      have leads := (named.references held member).2.1
      have asked := namedFor.references held member
      rw [isOwn] at asked
      exact (namedFor.inPool moved ⟨leads, asked⟩).shrink
        (List.filter_subset_self _) rfl rfl
  | session action =>
      obtain ⟨sid, pool, isOwn, _, moved⟩ := Store.session_cases stepped
      exact namedFor.inPool moved (begunAs_of_statement isOwn)
  | erase name =>
      obtain ⟨_, rfl | erased⟩ := Store.step_erase stepped
      · exact namedFor
      · obtain ⟨pool, _, _, rfl⟩ := Store.erase_cases erased
        exact namedFor.shrink (List.Subset.refl _) rfl rfl
  | findCommit name =>
      obtain ⟨_, rfl | ⟨pool, _, rfl⟩⟩ := Store.findCommit_cases stepped
      · exact namedFor
      · exact namedFor.shrink (List.Subset.refl _) rfl rfl
  | forceLock | forceNext =>
      obtain ⟨pool, _, moved⟩ := Store.force_cases stepped
      exact namedFor.inPool moved trivial
  | forceUnlock =>
      obtain ⟨pool, _, between, moved, rfl⟩ := Store.step_forceUnlock stepped
      exact (namedFor.inPool moved trivial).shrink (List.Subset.refl _) rfl rfl
  | clear =>
      obtain ⟨_, rfl⟩ := Store.step_clear stepped
      exact namedFor.shrink (List.Subset.refl _) rfl rfl

end NamedFor

theorem StoreRuns.namedFor (run : StoreRuns (selectsAs meant) s) :
    NamedFor meant s := by
  refine Reaches.invariant run ?_ ?_
  · constructor
    · intro held member
      cases member
    · exact fun _ => ⟨"", .refl⟩
  · intro before action after reached namedFor permitted stepped
    exact namedFor.step (StoreRuns.anyNamed reached) permitted stepped

variable {route : String → String} {uriOf : SessionId → Uri}

/-- The session selects a pool with its own URI, which is well parsed. -/
def ownUri (route : String → String) (uriOf : SessionId → Uri)
    (sid : SessionId) (u : Uri) : Prop :=
  u = uriOf sid ∧ WellParsed route u

/-- Whatever statements share a connection: what one of them begins, sends and
commits goes over a socket that was logged on with the login and the virtual
host of its URI and a password of the same hash, the socket that is open is one
to the address of its URI, and what it sends is for its destination. -/
theorem frames_routed (run : StoreRuns (selectsAs (ownUri route uriOf)) s)
    (pool : PoolId) (x : ConnId) {w : Written}
    (member : w ∈ ((s.pools pool).connections x).written)
    (notLogon : w.frame.body.isLogon = false) :
    let c := (s.pools pool).connections x
    let uri := uriOf w.session
    (∃ passcode, (c.framesOn w.socket).head?.map (fun w => w.frame.body) =
        some (.logon uri.vhost uri.login passcode) ∧
      PassHash.hash passcode = PassHash.hash uri.passcode) ∧
    (∀ open', c.socket = some open' → open'.target.addrPort = uri.addrPort) ∧
    ∀ destination headers payload,
      w.frame.body = .send destination headers payload →
        ∃ routingKey, destination = rowDestination uri.fragment routingKey := by
  intro c uri
  obtain ⟨address, inside⟩ := (StoreRuns.namedFor run).pools pool
  obtain ⟨target, asked, routed⟩ := Runs.routed inside member notLogon
  obtain ⟨ownName, rfl, ownParsed⟩ := routed.asked
  -- All URIs that lead to the pool are of one endpoint.
  have same : ∀ {other : Uri},
      (∃ sid, LeadsFor (ownUri route uriOf) (s.names pool) sid other) →
        SameEndpoint other uri := by
    rintro other ⟨_, name, _, parsed⟩
    exact endpoint_inj parsed ownParsed (name.trans ownName.symm)
  have atTarget := same routed.alsoAsked
  refine ⟨⟨target.passcode, ?_, routed.passcode⟩, ?_, ?_⟩
  · have logon := routed.logon
    simpa only [Uri.logonBody, Uri.vhost, atTarget.rpath, atTarget.login]
      using logon
  · intro open' isOpen
    have keeps := Runs.keepsLogon
      (Reaches.weaken inside fun _ _ => begunWith_of_begunAs)
    exact (same (keeps x open' isOpen).target).addrPort
  · intro destination headers payload body
    rw [← atTarget.fragment]
    exact routed.destination destination headers payload body

end Store

section Executed

open scoped Sample

instance (meant : SessionId → Uri → Prop)
    [∀ sid u, Decidable (meant sid u)] (s : Store) (action : StoreAction) :
    Decidable (selectsAs meant s action) :=
  match action with
  | .select sid uri _ _ => inferInstanceAs (Decidable (meant sid uri))
  | .get _ _ | .session _ | .erase _ | .findCommit _ | .forceLock
  | .forceNext _ _ | .forceUnlock | .clear => .isTrue trivial

instance (route : String → String) (uriOf : SessionId → Uri) (sid : SessionId)
    (u : Uri) : Decidable (ownUri route uriOf sid u) :=
  inferInstanceAs (Decidable (_ ∧ _))

/-- The second session has a destination of its own. -/
def twoQueues (sid : SessionId) : Uri :=
  if sid = 2 then { Sample.uri "" with fragment := "/queue/b" }
  else Sample.uri ""

/-- A session selects its pool, connects and sends a row. -/
def sendsOne (sid : SessionId) : List StoreAction :=
  [.select sid (twoQueues sid) 16 (toString sid), .get sid 8,
    .session (.connect sid Sample.connects),
    .session (.content sid (sampleRow "a") 0 100
      { write := [Sample.writable] })]

/-- The third session reuses the connection of the first one. -/
theorem frames_routed_reusing :
    let s := executed Store.step
      (selectsAs (ownUri Sample.route twoQueues)) {}
      (sendsOne 1 ++ [.session (.deinit 1), .session (.commit 1 false 100),
        .session (.release 1 100 8)] ++ sendsOne 2 ++ sendsOne 3)
    let c := (s.pools 0).connections 0
    c.written.map Written.session = [1, 1, 3] ∧
      ∃ w ∈ c.written, w.session = 3 ∧
        (∃ passcode, (c.framesOn w.socket).head?.map
              (fun w => w.frame.body) =
            some (.logon (twoQueues 3).vhost (twoQueues 3).login passcode) ∧
          PassHash.hash passcode = PassHash.hash (twoQueues 3).passcode) ∧
        (∀ open', c.socket = some open' →
          open'.target.addrPort = (twoQueues 3).addrPort) ∧
        ∀ destination headers payload,
          w.frame.body = .send destination headers payload →
            ∃ routingKey, destination =
              rowDestination (twoQueues 3).fragment routingKey := by
  intro s c
  have run : StoreRuns (selectsAs (ownUri Sample.route twoQueues)) s :=
    reaches_executed (by decide +kernel)
  obtain ⟨w, member, session, notLogon⟩ : ∃ w ∈ c.written,
      w.session = 3 ∧ w.frame.body.isLogon = false := by decide +kernel
  have routed := frames_routed run 0 0 member notLogon
  rw [session] at routed
  exact ⟨by decide +kernel, w, member, session, routed⟩

end Executed

end Capstomp
