import Mathlib.Data.List.Basic
import Mathlib.Logic.Function.Basic

/-!
# Transactions at a broker

What a broker makes of the requests it reads from one connection: a message
without a transaction is published at once, one within a transaction is kept
until the transaction is committed, and what is kept for a transaction that is
not committed is never published.  The requests of one transaction can be
looked at alone, as long as no other request names it (`publish_under`).
-/

namespace Capstomp.General

variable {Id Message : Type*}

inductive Request (Id Message : Type*) where
  | begin (id : Id)
  | message (within : Option Id) (message : Message)
  | commit (id : Id)
  | logon

/-- The messages kept for the transactions that are open, and those that were
published. -/
structure Broker (Id Message : Type*) where
  kept : Id → Option (List Message) := fun _ => none
  published : List Message := []

namespace Request

/-- The transaction a request names. -/
def names : Request Id Message → Option Id
  | .begin id => some id
  | .message within _ => within
  | .commit id => some id
  | .logon => none

/-- The message of a request. -/
def carries : Request Id Message → Option Message
  | .message _ content => some content
  | _ => none

end Request

namespace Broker

variable [DecidableEq Id]

/-- One request.  A message within a transaction that is not open is refused,
as is the COMMIT of one. -/
def read (broker : Broker Id Message) : Request Id Message → Broker Id Message
  | .begin id =>
      { broker with
        kept := Function.update broker.kept id
          (some ((broker.kept id).getD [])) }
  | .message none message =>
      { broker with published := broker.published ++ [message] }
  | .message (some id) message =>
      { broker with
        kept := Function.update broker.kept id
          ((broker.kept id).map (· ++ [message])) }
  | .commit id =>
      { kept := Function.update broker.kept id none
        published := broker.published ++ (broker.kept id).getD [] }
  | .logon => broker

/-- What a request has published. -/
def releases (broker : Broker Id Message) : Request Id Message → List Message
  | .message none message => [message]
  | .commit id => (broker.kept id).getD []
  | _ => []

variable {broker other : Broker Id Message} {request : Request Id Message}
variable {id : Id}

theorem published_read (broker : Broker Id Message)
    (request : Request Id Message) :
    (broker.read request).published =
      broker.published ++ broker.releases request := by
  cases request with
  | message within message => cases within <;> simp [read, releases]
  | _ => simp [read, releases]

theorem kept_of_unnamed (unnamed : request.names ≠ some id) :
    (broker.read request).kept id = broker.kept id := by
  cases request with
  | logon => rfl
  | begin named =>
      exact Function.update_of_ne
        (fun same => unnamed (by rw [same]; rfl)) ..
  | commit named =>
      exact Function.update_of_ne
        (fun same => unnamed (by rw [same]; rfl)) ..
  | message within message =>
      cases within with
      | none => rfl
      | some named =>
          exact Function.update_of_ne
            (fun same => unnamed (by rw [same]; rfl)) ..

/-- What is kept for a transaction depends on nothing else. -/
theorem kept_congr (same : broker.kept id = other.kept id) :
    (broker.read request).kept id = (other.read request).kept id := by
  by_cases named : request.names = some id
  · cases request with
    | logon => exact same
    | begin named' =>
        cases named
        simp [read, same]
    | commit named' =>
        cases named
        simp [read]
    | message within message =>
        cases named
        simp [read, same]
  · rw [kept_of_unnamed named, kept_of_unnamed named, same]

/-- What is kept was kept before, or is the message of the request. -/
theorem mem_kept {messages : List Message} {message : Message}
    (kept : (broker.read request).kept id = some messages)
    (member : message ∈ messages) :
    (∃ before, broker.kept id = some before ∧ message ∈ before) ∨
      request.carries = some message ∧ request.names = some id := by
  by_cases named : request.names = some id
  · cases request with
    | logon => cases named
    | begin named' =>
        cases named
        simp only [read, Function.update_self, Option.some.injEq] at kept
        subst kept
        cases was : broker.kept id with
        | none => simp [was] at member
        | some before => exact .inl ⟨before, rfl, by simpa [was] using member⟩
    | commit named' =>
        cases named
        simp [read] at kept
    | message within new =>
        cases named
        simp only [read, Function.update_self, Option.map_eq_some_iff] at kept
        obtain ⟨before, was, rfl⟩ := kept
        rcases List.mem_append.mp member with old | isNew
        · exact .inl ⟨before, was, old⟩
        · rw [List.mem_singleton.mp isNew]
          exact .inr ⟨rfl, rfl⟩
  · rw [kept_of_unnamed named] at kept
    exact .inl ⟨messages, kept, member⟩

end Broker

/-- What is published of the requests of a connection. -/
def publish [DecidableEq Id] (requests : List (Request Id Message)) :
    List Message :=
  (requests.foldl Broker.read {}).published

section Isolation

variable [DecidableEq Id] {mine : Message → Bool} {id : Id}
variable {whole alone : Broker Id Message} {request : Request Id Message}

/-- The broker that reads everything, beside one that reads only what names
the transaction. -/
structure Isolated (mine : Message → Bool) (id : Id)
    (whole alone : Broker Id Message) : Prop where
  same : whole.kept id = alone.kept id
  inside : ∀ messages, whole.kept id = some messages →
    ∀ message ∈ messages, mine message
  outside : ∀ other messages, other ≠ id →
    whole.kept other = some messages →
      ∀ message ∈ messages, mine message = false
  published : whole.published.filter mine = alone.published

/-- The message of a request is one of ours exactly within the transaction. -/
def OursWithin (mine : Message → Bool) (id : Id)
    (request : Request Id Message) : Prop :=
  ∀ message, request.carries = some message →
    (mine message ↔ request.names = some id)

namespace Isolated

/-- What is released by the requests that name the transaction is ours, and
nothing else is. -/
theorem releases (isolated : Isolated mine id whole alone)
    (ours : OursWithin mine id request) :
    (whole.releases request).filter mine =
      if request.names = some id then alone.releases request else [] := by
  have none : ∀ other, other ≠ id →
      ((whole.kept other).getD []).filter mine = [] := by
    intro other different
    rw [List.filter_eq_nil_iff]
    intro message member
    cases was : whole.kept other with
    | none => simp [was] at member
    | some before =>
        rw [was, Option.getD_some] at member
        simp [isolated.outside other before different was message member]
  cases request with
  | logon => simp [Broker.releases]
  | begin other => simp [Broker.releases]
  | message within message =>
      cases within with
      | some other => simp [Broker.releases]
      | none =>
          have notMine : mine message = false := by
            rw [← Bool.not_eq_true, ours message rfl]
            simp [Request.names]
          simp [Broker.releases, notMine, Request.names]
  | commit other =>
      by_cases same : other = id
      · subst same
        simp only [Broker.releases, Request.names, if_pos, isolated.same]
        cases kept : alone.kept other with
        | none => rfl
        | some messages =>
            rw [Option.getD_some, List.filter_eq_self.mpr]
            exact isolated.inside messages (isolated.same.trans kept)
      · simpa [Broker.releases, Request.names, same] using none other same

theorem read (isolated : Isolated mine id whole alone)
    (ours : OursWithin mine id request) :
    Isolated mine id (whole.read request)
      (if request.names = some id then alone.read request else alone) := by
  constructor
  case same =>
      split
      · exact Broker.kept_congr isolated.same
      · next unnamed =>
          rw [Broker.kept_of_unnamed unnamed]
          exact isolated.same
  case inside =>
      intro messages kept message member
      rcases Broker.mem_kept kept member with
        ⟨before, was, old⟩ | ⟨carried, named⟩
      · exact isolated.inside before was message old
      · exact (ours message carried).mpr named
  case outside =>
      intro other messages different kept message member
      rcases Broker.mem_kept kept member with
        ⟨before, was, old⟩ | ⟨carried, named⟩
      · exact isolated.outside other before different was message old
      · rw [← Bool.not_eq_true, ours message carried, named]
        simpa using different
  case published =>
      rw [Broker.published_read, List.filter_append, isolated.published,
        isolated.releases ours]
      split
      · rw [Broker.published_read]
      · rw [List.append_nil]

end Isolated

/-- The requests that name a transaction decide what is published of its
messages. -/
theorem publish_under {requests : List (Request Id Message)}
    (ours : ∀ request ∈ requests, OursWithin mine id request) :
    (publish requests).filter mine =
      publish (requests.filter fun request => request.names = some id) := by
  suffices isolated : ∀ whole alone, Isolated mine id whole alone →
      Isolated mine id (requests.foldl Broker.read whole)
        ((requests.filter fun request => request.names = some id).foldl
          Broker.read alone) by
    exact (isolated {} {} ⟨rfl, by simp, by simp, rfl⟩).published
  induction requests with
  | nil => exact fun _ _ isolated => isolated
  | cons request requests induction =>
      intro whole alone isolated
      have next := isolated.read (ours request List.mem_cons_self)
      have later := induction fun next' member =>
        ours next' (List.mem_cons_of_mem _ member)
      split at next
      · next named =>
          rw [List.filter_cons_of_pos (by simpa using named)]
          exact later _ _ next
      · next unnamed =>
          rw [List.filter_cons_of_neg (by simpa using unnamed)]
          exact later _ _ next

end Isolation

section Sequences

variable [DecidableEq Id] {id : Id}

/-- The messages of a transaction are kept in their order. -/
theorem read_messages (messages before : List Message)
    (broker : Broker Id Message) (open' : broker.kept id = some before) :
    let after := (messages.map (.message (some id))).foldl Broker.read broker
    after.kept id = some (before ++ messages) ∧
      after.published = broker.published := by
  induction messages generalizing before broker with
  | nil => simpa using open'
  | cons message messages induction =>
      have next := induction (before ++ [message])
        (broker.read (.message (some id) message))
        (by simp [Broker.read, open'])
      simpa [Broker.read] using next

/-- A transaction is published as a whole by its COMMIT, and not before. -/
theorem publish_sequence {requests : List (Request Id Message)}
    {messages : List Message}
    (shape : requests <+: .begin id ::
      messages.map (.message (some id)) ++ [.commit id]) :
    (.commit id ∉ requests → publish requests = []) ∧
      (.commit id ∈ requests →
        publish requests = requests.filterMap Request.carries) := by
  obtain ⟨rest, shape⟩ := shape
  cases requests with
  | nil => exact ⟨fun _ => rfl, fun _ => rfl⟩
  | cons first requests =>
      simp only [List.cons_append, List.cons.injEq] at shape
      obtain ⟨rfl, shape⟩ := shape
      have opened : (({} : Broker Id Message).read (.begin id)).kept id =
          some [] := by simp [Broker.read]
      have unpublished : ∀ sent : List Message,
          (.commit id ∉ Request.begin id :: sent.map (.message (some id)) →
            publish (.begin id :: sent.map (.message (some id))) = []) ∧
          (.commit id ∈ Request.begin id :: sent.map (.message (some id)) →
            publish (.begin id :: sent.map (.message (some id))) =
              (.begin id :: sent.map (.message (some id))).filterMap
                Request.carries) := by
        intro sent
        exact ⟨fun _ => (read_messages sent [] _ opened).2, by simp⟩
      rcases List.append_eq_append_iff.mp shape with
        ⟨left, isPrefix, _⟩ | ⟨left, requestsAre, committed⟩
      · obtain ⟨sent, unsent, rfl, rfl, _⟩ := List.map_eq_append_iff.mp isPrefix
        exact unpublished sent
      · cases left with
        | nil =>
            rw [List.append_nil] at requestsAre
            subst requestsAre
            exact unpublished messages
        | cons last left =>
            obtain ⟨rfl, none⟩ : last = .commit id ∧ left = [] := by
              cases left <;> simp_all
            subst none
            subst requestsAre
            have whole := read_messages messages [] _ opened
            have carried : ((Request.begin id : Request Id Message) ::
                (messages.map (.message (some id)) ++ [.commit id])).filterMap
                  Request.carries = messages := by
              rw [List.filterMap_cons_none rfl, List.filterMap_append,
                List.filterMap_map]
              exact (List.append_nil _).trans List.filterMap_some
            refine ⟨by simp, fun _ => ?_⟩
            rw [carried, publish, List.foldl_cons, List.foldl_append,
              List.foldl_cons, List.foldl_nil, Broker.published_read,
              whole.2, Broker.releases, whole.1]
            simp [Broker.read]

/-- Messages outside transactions are published at once. -/
theorem publish_plain {mine : Message → Bool}
    {requests : List (Request Id Message)}
    (outside : ∀ request ∈ requests, ∀ message,
      request.carries = some message → mine message →
        request.names = none) :
    (publish requests).filter mine =
      (requests.filterMap Request.carries).filter mine := by
  suffices aside : ∀ broker : Broker Id Message,
      (∀ other messages, broker.kept other = some messages →
        ∀ message ∈ messages, mine message = false) →
      (requests.foldl Broker.read broker).published.filter mine =
        broker.published.filter mine ++
          (requests.filterMap Request.carries).filter mine by
    simpa [publish] using aside {} (by simp)
  induction requests with
  | nil => simp
  | cons request requests induction =>
      intro broker apart
      have here := outside request List.mem_cons_self
      have notMine : ∀ message, request.carries = some message →
          request.names ≠ none → mine message = false := by
        intro message carried named
        by_contra isMine
        exact named (here message carried (by simpa using isMine))
      -- What is kept stays apart from our messages.
      have stillApart : ∀ other messages,
          (broker.read request).kept other = some messages →
            ∀ message ∈ messages, mine message = false := by
        intro other messages kept message member
        rcases Broker.mem_kept kept member with
          ⟨before, was, old⟩ | ⟨carried, named⟩
        · exact apart other before was message old
        · exact notMine message carried (by simp [named])
      have released : (broker.releases request).filter mine =
          request.carries.toList.filter mine := by
        cases request with
        | logon => rfl
        | begin id => rfl
        | message within message =>
            cases within with
            | none => rfl
            | some id =>
                simp [Broker.releases, Request.carries,
                  notMine message rfl (by simp [Request.names])]
        | commit id =>
            simp only [Broker.releases, Request.carries, Option.toList_none,
              List.filter_nil, List.filter_eq_nil_iff]
            intro message member
            cases was : broker.kept id with
            | none => simp [was] at member
            | some before =>
                rw [was, Option.getD_some] at member
                simp [apart id before was message member]
      rw [List.foldl_cons, induction (fun later member =>
          outside later (List.mem_cons_of_mem _ member)) _ stillApart,
        Broker.published_read, List.filter_append, released,
        List.append_assoc, ← List.filter_append]
      congr 2
      cases carried : request.carries <;> simp [carried]

end Sequences

end Capstomp.General
