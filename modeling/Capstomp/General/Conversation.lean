import Capstomp.General.Broker

/-!
# A conversation of several users

Users that share a connection one after the other, and name different
transactions, can be looked at one by one: the broker publishes what it would
publish of each of them alone (`publish_flatten`), and a server that checks
what it reads accepts them all if it accepts each (`accepts_conversation`).
-/

namespace Capstomp.General

variable {Id Message : Type*} {id : Id}
variable {request : Request Id Message}
variable {first second requests : List (Request Id Message)}
variable {blocks : List (List (Request Id Message))}

def Mentions (id : Id) (requests : List (Request Id Message)) : Prop :=
  ∃ request ∈ requests, request.names = some id

/-- No transaction is named by both. -/
def Strangers (first second : List (Request Id Message)) : Prop :=
  ∀ id, Mentions id first → ¬ Mentions id second

theorem Mentions.cons (named : Mentions id requests) :
    Mentions id (request :: requests) := by
  obtain ⟨later, member, names⟩ := named
  exact ⟨later, List.mem_cons_of_mem _ member, names⟩

theorem Mentions.head (names : request.names = some id) :
    Mentions id (request :: requests) :=
  ⟨request, List.mem_cons_self, names⟩

theorem Strangers.flatten
    (each : ∀ block ∈ blocks, Strangers first block) :
    Strangers first blocks.flatten := by
  rintro id named ⟨request, member, names⟩
  obtain ⟨block, isBlock, inBlock⟩ := List.mem_flatten.mp member
  exact each block isBlock id named ⟨request, inBlock, names⟩

section Publishing

variable [DecidableEq Id] {whole alone : Broker Id Message}

omit [DecidableEq Id] in
theorem Broker.releases_congr
    (same : ∀ id, request.names = some id → whole.kept id = alone.kept id) :
    whole.releases request = alone.releases request := by
  cases request with
  | commit id => simp [Broker.releases, same id rfl]
  | message within message => cases within <;> rfl
  | _ => rfl

theorem kept_of_never_named (unnamed : ¬ Mentions id requests)
    (broker : Broker Id Message) :
    (requests.foldl Broker.read broker).kept id = broker.kept id := by
  induction requests generalizing broker with
  | nil => rfl
  | cons request requests induction =>
      rw [List.foldl_cons, induction fun named => unnamed named.cons]
      exact Broker.kept_of_unnamed fun names => unnamed (.head names)

/-- What was published before does not matter, and what is kept only for the
transactions that are named. -/
theorem published_congr {before : List Message}
    (same : ∀ id, Mentions id requests → whole.kept id = alone.kept id)
    (published : whole.published = before ++ alone.published) :
    (requests.foldl Broker.read whole).published =
      before ++ (requests.foldl Broker.read alone).published := by
  induction requests generalizing whole alone with
  | nil => exact published
  | cons request requests induction =>
      refine induction ?_ ?_
      · exact fun id named => Broker.kept_congr (same id named.cons)
      · rw [Broker.published_read, Broker.published_read, published,
          List.append_assoc]
        rw [Broker.releases_congr fun id names => same id (.head names)]

theorem publish_append (strangers : Strangers first second) :
    publish (first ++ second) = publish first ++ publish second := by
  rw [publish, List.foldl_append]
  refine published_congr ?_ (List.append_nil _).symm
  exact fun id named =>
    kept_of_never_named (fun inFirst => strangers id inFirst named) _

theorem publish_flatten (apart : blocks.Pairwise Strangers) :
    publish blocks.flatten = (blocks.map publish).flatten := by
  induction blocks with
  | nil => rfl
  | cons block blocks induction =>
      obtain ⟨strangers, apart⟩ := List.pairwise_cons.mp apart
      rw [List.flatten_cons, publish_append (.flatten strangers),
        induction apart]
      rfl

theorem publish_outside (messages : List Message) :
    publish (messages.map (.message (none : Option Id))) = messages := by
  induction messages with
  | nil => rfl
  | cons message messages induction =>
      have silent : Strangers [Request.message (none : Option Id) message]
          (messages.map (.message none)) := by
        rintro id ⟨request, member, names⟩
        rw [List.mem_singleton.mp member] at names
        cases names
      have apart := publish_append silent
      rw [List.singleton_append, induction] at apart
      rw [List.map_cons, apart]
      rfl

end Publishing

/-- A server that checks what it reads: whether the client has logged on, and
which transactions are open. -/
structure Server (Id : Type*) where
  loggedOn : Bool := false
  begun : Id → Bool := fun _ => false

namespace Server

/-- The client logs on once and before all else, begins no transaction that is
open, and sends and commits only in one that is. -/
def permits (server : Server Id) : Request Id Message → Bool
  | .logon => !server.loggedOn
  | .begin id => server.loggedOn && !server.begun id
  | .message none _ => server.loggedOn
  | .message (some id) _ | .commit id => server.loggedOn && server.begun id

variable [DecidableEq Id] {server whole alone : Server Id}

def read (server : Server Id) : Request Id Message → Server Id
  | .logon => { server with loggedOn := true }
  | .begin id =>
      { server with begun := Function.update server.begun id true }
  | .message _ _ => server
  | .commit id =>
      { server with begun := Function.update server.begun id false }

/-- The server has no complaint. -/
def accepts : Server Id → List (Request Id Message) → Bool
  | _, [] => true
  | server, request :: requests =>
      server.permits request && (server.read request).accepts requests

@[simp] theorem accepts_nil :
    server.accepts ([] : List (Request Id Message)) :=
  rfl

theorem accepts_cons_iff :
    server.accepts (request :: requests) ↔
      server.permits request ∧ (server.read request).accepts requests := by
  simp [accepts]

theorem accepts_append_iff :
    server.accepts (first ++ second) ↔
      server.accepts first ∧ (first.foldl read server).accepts second := by
  induction first generalizing server with
  | nil => simp
  | cons request first induction =>
      rw [List.cons_append, accepts_cons_iff, accepts_cons_iff, induction,
        and_assoc, List.foldl_cons]

theorem loggedOn_read (loggedOn : server.loggedOn)
    (request : Request Id Message) : (server.read request).loggedOn := by
  cases request <;> first | rfl | exact loggedOn

theorem loggedOn_reads (loggedOn : server.loggedOn)
    (requests : List (Request Id Message)) :
    (requests.foldl read server).loggedOn := by
  induction requests generalizing server with
  | nil => exact loggedOn
  | cons request requests induction =>
      exact induction (loggedOn_read loggedOn request)

theorem begun_of_never_named (unnamed : ¬ Mentions id requests) :
    (requests.foldl read server).begun id = server.begun id := by
  induction requests generalizing server with
  | nil => rfl
  | cons request requests induction =>
      rw [List.foldl_cons, induction fun named => unnamed named.cons]
      have different : request.names ≠ some id :=
        fun names => unnamed (.head names)
      cases request with
      | begin other | commit other =>
          exact Function.update_of_ne
            (fun same => different (by rw [same]; rfl)) ..
      | _ => rfl

/-- Only the transactions that are named matter. -/
theorem accepts_congr (loggedOn : whole.loggedOn = alone.loggedOn)
    (same : ∀ id, Mentions id requests → whole.begun id = alone.begun id) :
    whole.accepts requests = alone.accepts requests := by
  induction requests generalizing whole alone with
  | nil => rfl
  | cons request requests induction =>
      have head : whole.permits request = alone.permits request := by
        cases request with
        | message within message =>
            cases within with
            | none => exact loggedOn
            | some id => simp [permits, loggedOn, same id (.head rfl)]
        | logon => simp [permits, loggedOn]
        | begin id | commit id => simp [permits, loggedOn, same id (.head rfl)]
      rw [accepts, accepts, head]
      congr 1
      refine induction ?_ ?_
      · cases request <;> first | rfl | exact loggedOn
      · intro id named
        have known := same id named.cons
        cases request <;> simp [read, Function.update_apply, known]

/-- Each user is accepted alone, so all are accepted in turn. -/
theorem accepts_flatten (apart : blocks.Pairwise Strangers)
    (each : ∀ block ∈ blocks,
      accepts { loggedOn := true } block)
    (loggedOn : server.loggedOn)
    (closed : ∀ block ∈ blocks, ∀ id, Mentions id block →
      server.begun id = false) : server.accepts blocks.flatten := by
  induction blocks generalizing server with
  | nil => rfl
  | cons block blocks induction =>
      obtain ⟨strangers, apart⟩ := List.pairwise_cons.mp apart
      rw [List.flatten_cons, accepts_append_iff]
      constructor
      · have same : server.accepts block =
            accepts { loggedOn := true } block :=
          accepts_congr loggedOn (closed block List.mem_cons_self)
        rw [same]
        exact each block List.mem_cons_self
      · refine induction apart
          (fun other member => each other (List.mem_cons_of_mem _ member))
          (loggedOn_reads loggedOn block) fun other member id named => ?_
        rw [begun_of_never_named fun inBlock =>
          strangers other member id inBlock named]
        exact closed other (List.mem_cons_of_mem _ member) id named

end Server

/-- What one user says: messages outside transactions, or a transaction up to
some point. -/
inductive Talk : List (Request Id Message) → Prop
  | plain (messages : List Message) : Talk (messages.map (.message none))
  | within {requests : List (Request Id Message)} {messages : List Message}
      (id : Id)
      (shape : requests <+: .begin id :: messages.map (.message (some id)) ++
        [.commit id]) : Talk requests

section Talks

variable [DecidableEq Id]

theorem accepts_messages (server : Server Id) (within : Option Id)
    (permitted : ∀ message : Message,
      server.permits (.message within message))
    (messages : List Message) :
    server.accepts (messages.map (.message within)) ∧
      (messages.map (.message within)).foldl Server.read server = server := by
  induction messages with
  | nil => exact ⟨rfl, rfl⟩
  | cons message messages induction =>
      rw [List.map_cons, Server.accepts_cons_iff, List.foldl_cons]
      exact ⟨⟨permitted message, induction.1⟩, induction.2⟩

theorem Talk.accepted (talk : Talk requests) :
    Server.accepts { loggedOn := true } requests := by
  cases talk with
  | plain messages => exact (accepts_messages _ _ (fun _ => rfl) messages).1
  | @within _ messages id shape =>
      obtain ⟨rest, shape⟩ := shape
      have whole : Server.accepts { loggedOn := true } (.begin id ::
          messages.map (.message (some id)) ++ [.commit id]) := by
        obtain ⟨accepted, kept⟩ := accepts_messages
          (Server.read { loggedOn := true } (.begin id : Request Id Message))
          (some id) (fun _ => by simp [Server.permits, Server.read]) messages
        rw [List.cons_append, Server.accepts_cons_iff,
          Server.accepts_append_iff, kept]
        refine ⟨rfl, accepted, ?_⟩
        simp [Server.accepts, Server.permits, Server.read]
      rw [← shape, Server.accepts_append_iff] at whole
      exact whole.1

/-- A client that logs on and then talks for one user after the other. -/
theorem accepts_conversation (apart : blocks.Pairwise Strangers)
    (talks : ∀ block ∈ blocks, Talk block) :
    Server.accepts {} (.logon :: blocks.flatten) := by
  rw [Server.accepts_cons_iff]
  refine ⟨rfl, Server.accepts_flatten apart
    (fun block member => (talks block member).accepted) rfl ?_⟩
  exact fun _ _ _ _ => rfl

end Talks

end Capstomp.General
