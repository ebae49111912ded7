import Capstomp.Headers
import Capstomp.Status
import Capstomp.StoreCompletion

/-!
# The calls of the administrator

`capstomp_status` and the calls that erase and commit a pool by its name, as
`store.cpp` exports them to the server: their arguments, what they write to
the buffer for messages, and what they return.  What an administrator reads in
the status decides what the other calls answer and what the status shows
afterwards.
-/

namespace Capstomp

open General General.Json

/-! ## Strings -/

/-- `MYSQL_ERRMSG_SIZE`. -/
class MessageSize where
  size : Nat

/-- `std::string` of the bytes of an argument, a character each. -/
def byteString (bytes : List UInt8) : String :=
  .ofList (bytes.map .ofUInt8)

/-- An argument as an `_init` function is given it.  One that is not constant
has a null pointer there, and as its length the longest that it can have. -/
structure InitArg where
  type : ItemResult
  bytes : Option (List UInt8)
  length : Nat
  isLength : ∀ text ∈ bytes, text.length = length

/-- The text of the exception with which the library answers to a null pointer
that is to be a string of some length. -/
class NullString where
  what : String

/-- `std::string` of the pointer and the length. -/
def InitArg.stdString [NullString] (arg : InitArg) : Except String String :=
  match arg.bytes with
  | some bytes => .ok (byteString bytes)
  | none => if arg.length = 0 then .ok "" else .error NullString.what

section Messages

variable [MessageSize]

/-- `strncpy` to `msg`. -/
def strncpyMsg (text : String) : List Char :=
  (cString text.toList).take MessageSize.size

/-- `snprintf` of a text to `msg`, which keeps room for the terminator. -/
def snprintfMsg (text : String) : List Char :=
  (cString text.toList).take (MessageSize.size - 1)

end Messages

/-! ## The calls -/

/-- What an `_init` function returns: 0, with what it leaves in `initid->ptr`,
or 1, with what it has written to `msg`. -/
abbrev Init (α : Type) := Except (List Char) α

/-- The name of a pool, when it is the only argument, a string, and of some
length; or the text of what is thrown as it is made. -/
def poolName [NullString] (args : List InitArg) :
    Option (Except String String) :=
  match args with
  | [arg] =>
      if arg.type = .string ∧ arg.length ≠ 0 then some arg.stdString else none
  | _ => none

section Status

variable [ClosedSocket]

/-- `capstomp_status_init`: the text is copied, with a terminator, unless it is
empty. -/
def capstompStatusInit (entries : List (String × PoolId)) (s : Store) :
    Option (List Char) :=
  let result := (s.json entries).toList
  if result = [] then none else some (result ++ ['\x00'])

/-- `capstomp_status`: as much of the buffer as `strlen` finds. -/
def capstompStatus (ptr : Option (List Char)) : Option (List Char) :=
  ptr.map cString

end Status

section Calls

variable [MessageSize] [NullString]

/-- `capstomp_store_erase_init`. -/
def capstompStoreEraseInit (args : List InitArg) (s : Store) :
    Init Unit × Store :=
  match poolName args with
  | none => (.error (strncpyMsg
      "bad args, use capstomp_store_erase(\"pool_name\")"), s)
  | some (.error what) => (.error (snprintfMsg what), s)
  | some (.ok name) =>
      match s.erase name with
      | .error error => (.error (snprintfMsg error.what), s)
      | .ok s => (.ok (), s)

section Commit

variable [QueryDecoding] [PassHash] [FrameBytes]

/-- `store::commit` and what it returns; `turns` is what `force_commit` meets
as it passes the transactions one by one. -/
def Store.commit (name : String) (turns : List (Nat × CommitTurns))
    (s : Store) : Option (Except Error Nat × Store) :=
  match s.find name with
  | none => some (.error (.commitNotFound name), s)
  | some pool => do
      let s ← s.step (.findCommit name)
      let s ← s.step .forceLock
      let s ← turns.foldlM
        (fun s turn => s.step (.forceNext turn.1 turn.2)) s
      let forcing ← (s.pools pool).forcing
      let s ← s.step .forceUnlock
      some (.ok forcing.count, s)

/-- `capstomp_store_commit_init`. -/
def capstompStoreCommitInit (args : List InitArg)
    (turns : List (Nat × CommitTurns)) (s : Store) :
    Option (Init Nat × Store) :=
  match poolName args with
  | none => some (.error (strncpyMsg
      "bad args, use capstomp_store_commit(\"pool_name\")"), s)
  | some (.error what) => some (.error (snprintfMsg what), s)
  | some (.ok name) => do
      let result ← s.commit name turns
      match result.1 with
      | .error error => some (.error (snprintfMsg error.what), result.2)
      | .ok count => some (.ok count, result.2)

end Commit

end Calls

/-! ## Reading the status -/

namespace General.Json

/-- The first member of this name. -/
def member? (name : String) : Json → Option Json
  | .object members =>
      (members.find? fun member => member.1 = name.toList).map Prod.snd
  | _ => none

/-- The name of a pool, in the item that is about it. -/
def poolName? (item : Json) : Option (List Char) :=
  match item.member? "name" with
  | some (.string name) => some name
  | _ => none

/-- How many connections of the pool are in use. -/
def running? (item : Json) : Option Nat :=
  match (item.member? "pool").bind (member? "active") with
  | some (.array active) => some active.length
  | _ => none

/-- The items of a list that are about pools of other names. -/
def others (name : String) : Json → List Json
  | .array items => items.filter fun item => item.poolName? ≠ some name.toList
  | _ => []

/-- It tells of a pool of this name, with so many connections in use. -/
def Tells (name : String) (running : Nat) : Json → Prop
  | .array items => ∃ item ∈ items,
      item.poolName? = some name.toList ∧ item.running? = some running
  | _ => False

end General.Json

/-! ## The text has no null character -/

theorem notMem_intercalate {char : Char} {separator : List Char}
    {texts : List (List Char)} (notThere : char ∉ separator)
    (each : ∀ text ∈ texts, char ∉ text) :
    char ∉ separator.intercalate texts := by
  induction texts with
  | nil => simp
  | cons text texts induction =>
      have first := each text List.mem_cons_self
      have rest := induction fun other member =>
        each other (List.mem_cons_of_mem _ member)
      cases texts with
      | nil => simpa using first
      | cons next texts =>
          rw [List.intercalate_cons_cons]
          simp [first, notThere, rest]

theorem null_notMem_toDigits (n : Nat) : '\x00' ∉ Nat.toDigits 10 n := by
  intro member
  have isDigit := Nat.isDigit_of_mem_toDigits (by decide) (by decide) member
  simp at isDigit

theorem null_notMem_repr (n : Int) : '\x00' ∉ n.repr.toList := by
  rw [Int.repr_eq_if]
  split
  · rw [Nat.toList_repr]
    exact null_notMem_toDigits n.toNat
  · rw [String.toList_append, Nat.toList_repr, List.mem_append, not_or]
    exact ⟨by decide, null_notMem_toDigits (-n).toNat⟩

theorem null_notMem_of_plain {text : List Char} (plain : PlainText text) :
    '\x00' ∉ text := by
  intro member
  have visible := (plain _ member).2.2
  simp at visible

section Texts

variable [ClosedSocket]

theorem null_notMem_jsonArr (list : List Connection) :
    '\x00' ∉ (jsonArr list).toList := by
  have each : ∀ c : Connection, '\x00' ∉ c.json.toList := by
    intro c
    simp [Connection.json, null_notMem_toDigits, null_notMem_repr]
  have inside : '\x00' ∉ [','].intercalate
      (list.map (String.toList ∘ Connection.json)) := by
    refine notMem_intercalate (by decide) fun text member => ?_
    obtain ⟨c, _, rfl⟩ := List.mem_map.mp member
    exact each c
  simp [jsonArr_eq, inside]

theorem null_notMem_system {s : System}
    (plain : PlainText s.pool.name.toList) : '\x00' ∉ s.json.toList := by
  simp [System.json, null_notMem_jsonArr, null_notMem_of_plain plain]

theorem Store.null_notMem_json {s : Store} (plain : s.PlainPools)
    {entries : List (String × PoolId)}
    (keys : ∀ entry ∈ entries, PlainText entry.1.toList) :
    '\x00' ∉ (s.json entries).toList := by
  have inside : '\x00' ∉ [','].intercalate
      (entries.map (String.toList ∘ s.jsonEntry)) := by
    refine notMem_intercalate (by decide) fun text member => ?_
    obtain ⟨entry, isEntry, rfl⟩ := List.mem_map.mp member
    simp [Store.jsonEntry, null_notMem_system (plain entry.2),
      null_notMem_of_plain (keys entry isEntry)]
  simp [Store.json_eq, inside]

/-! ## What the status shows -/

/-- The status that the call returns decodes to this value and to no other. -/
def Store.Shows (entries : List (String × PoolId)) (s : Store)
    (value : Json) : Prop :=
  ∀ other, (∃ text,
    capstompStatus (capstompStatusInit entries s) = some text ∧
      Decodes text other) ↔ other = value

omit [ClosedSocket] in
theorem cString_terminated {text : List Char} (inside : '\x00' ∉ text) :
    cString (text ++ ['\x00']) = text := by
  have kept : ∀ char ∈ text, decide (char ≠ '\x00') = true := by
    intro char member
    rw [decide_eq_true_eq]
    rintro rfl
    exact inside member
  rw [cString, List.takeWhile_append_of_pos kept]
  simp

theorem capstompStatus_eq {s : Store} (plain : s.PlainPools)
    {entries : List (String × PoolId)}
    (keys : ∀ entry ∈ entries, PlainText entry.1.toList) :
    capstompStatus (capstompStatusInit entries s) =
      some (s.json entries).toList := by
  have nonempty : (s.json entries).toList ≠ [] := by
    simp [Store.json_eq]
  simp [capstompStatusInit, capstompStatus, nonempty,
    cString_terminated (Store.null_notMem_json plain keys)]

theorem Store.shows_status {s : Store} (plain : s.PlainPools)
    {entries : List (String × PoolId)}
    (keys : ∀ entry ∈ entries, PlainText entry.1.toList) :
    s.Shows entries (s.status entries) := by
  have decodes := (Store.decodes_json_iff plain entries).mpr keys
  intro other
  rw [capstompStatus_eq plain keys]
  constructor
  · rintro ⟨text, isText, read⟩
    cases isText
    exact read.unique decodes
  · rintro rfl
    exact ⟨_, rfl, decodes⟩

variable {s : Store} {entries : List (String × PoolId)}

@[simp] theorem Store.statusEntry_poolName (entry : String × PoolId) :
    (s.statusEntry entry).poolName? = some entry.1.toList := rfl

@[simp] theorem Store.statusEntry_running (entry : String × PoolId) :
    (s.statusEntry entry).running? =
      some (s.pools entry.2).pool.active.length := by
  simp [statusEntry, System.status, running?, member?]

theorem Store.tells_status_iff {name : String} {running : Nat} :
    (s.status entries).Tells name running ↔
      ∃ pool, (name, pool) ∈ entries ∧
        (s.pools pool).pool.active.length = running := by
  simp [status, Tells, String.toList_inj]

theorem Store.others_status (name : String) :
    (s.status entries).others name =
      (entries.filter fun entry => entry.1 ≠ name).map s.statusEntry := by
  simp [status, others, List.filter_map, Function.comp_def,
    String.toList_inj]

/-- The status tells of every pool once. -/
theorem Store.tells_unique (nodup : (s.store.map Prod.fst).Nodup)
    (traversed : entries.Perm s.store) {name : String} {running other : Nat}
    (first : (s.status entries).Tells name running)
    (second : (s.status entries).Tells name other) : running = other := by
  obtain ⟨pool, member, rfl⟩ := Store.tells_status_iff.mp first
  obtain ⟨alike, isAlike, rfl⟩ := Store.tells_status_iff.mp second
  have same := List.inj_on_of_nodup_map nodup
    (traversed.mem_iff.mp member) (traversed.mem_iff.mp isAlike) rfl
  cases same
  rfl

theorem Store.tells_of_find {name : String} {pool : PoolId}
    (traversed : entries.Perm s.store) (found : s.find name = some pool) :
    (s.status entries).Tells name (s.pools pool).pool.active.length :=
  Store.tells_status_iff.mpr
    ⟨pool, traversed.mem_iff.mpr (Store.mem_of_find found), rfl⟩

theorem Store.tells_nothing {name : String}
    (traversed : entries.Perm s.store) (absent : s.find name = none)
    (running : Nat) : ¬ (s.status entries).Tells name running := by
  intro tells
  obtain ⟨pool, member, _⟩ := Store.tells_status_iff.mp tells
  exact Store.notMem_of_find absent
    (List.mem_map_of_mem (traversed.mem_iff.mp member))

/-! ## Erasing -/

section Answers

variable [MessageSize] [NullString]

/-- What `capstomp_store_erase` answers an administrator who has read the
status, and what it leaves. -/
inductive EraseAnswers (args : List InitArg) (value : Json) (s : Store) :
    Init Unit × Store → Prop
  | badArgs (noName : poolName args = none) :
      EraseAnswers args value s (.error (strncpyMsg
        "bad args, use capstomp_store_erase(\"pool_name\")"), s)
  | noValue {what : String} (thrown : poolName args = some (.error what)) :
      EraseAnswers args value s (.error (snprintfMsg what), s)
  | notFound {name : String} (isName : poolName args = some (.ok name))
      (absent : ∀ running, ¬ value.Tells name running) :
      EraseAnswers args value s (.error (snprintfMsg
        ("store erase: " ++ name ++ " - not found")), s)
  | running {name : String} {running : Nat}
      (isName : poolName args = some (.ok name))
      (tells : value.Tells name running) (used : 0 < running) :
      EraseAnswers args value s (.error (snprintfMsg
        ("store erase: " ++ name ++ " - has " ++ toString running ++
          " running")), s)
  | erased {name : String} {after : Store}
      (isName : poolName args = some (.ok name)) (tells : value.Tells name 0)
      (shows : ∀ order : List (String × PoolId), order.Perm after.store →
        ∃ later, after.Shows order later ∧
          (later.others name).Perm (value.others name) ∧
          ∀ running, ¬ later.Tells name running) :
      EraseAnswers args value s (.ok (), after)

theorem capstompStoreEraseInit_answers (plain : s.PlainPools)
    (keys : ∀ entry ∈ s.store, PlainText entry.1.toList)
    (traversed : entries.Perm s.store) (args : List InitArg) :
    EraseAnswers args (s.status entries) s
      (capstompStoreEraseInit args s) := by
  unfold capstompStoreEraseInit
  rcases isName : poolName args with _ | what | name
  · exact .badArgs isName
  · exact .noValue isName
  · cases found : s.find name with
      | none =>
          simp only [Store.erase, found]
          exact .notFound isName (Store.tells_nothing traversed found)
      | some pool =>
          have tells := Store.tells_of_find traversed found
          by_cases used : 0 < (s.pools pool).pool.active.length
          · simp only [Store.erase, found, used, if_true]
            exact .running isName tells used
          · have idle := Nat.eq_zero_of_not_pos used
            rw [idle] at tells
            simp only [Store.erase, found, used, if_false]
            refine .erased isName tells fun order isOrder => ?_
            have kept : ∀ entry ∈ order, entry ∈ s.store ∧ entry.1 ≠ name := by
              intro entry member
              simpa using isOrder.mem_iff.mp member
            refine ⟨_, Store.shows_status plain fun entry member =>
              keys entry (kept entry member).1, ?_, ?_⟩
            · have same : order.filter (fun entry => entry.1 ≠ name) = order :=
                List.filter_eq_self.mpr fun entry member =>
                  decide_eq_true (kept entry member).2
              rw [Store.others_status, Store.others_status, same]
              exact (isOrder.trans (traversed.symm.filter _)).map _
            · intro running tells
              obtain ⟨other, member, _⟩ := Store.tells_status_iff.mp tells
              exact (kept _ member).2 rfl

end Answers

end Texts

section Runs

variable [QueryDecoding] [PassHash] [FrameBytes] [ClosedSocket] [MessageSize]
variable [NullString]
variable {s after : Store} {entries : List (String × PoolId)}

omit [ClosedSocket] in
/-- The call is a step of the store, or changes nothing. -/
theorem capstompStoreEraseInit_run (run : StoreRuns hexAddresses s)
    (unlocked : s.committing = none) (args : List InitArg) :
    StoreRuns hexAddresses (capstompStoreEraseInit args s).2 := by
  unfold capstompStoreEraseInit
  split
  · exact run
  · exact run
  · next name _ =>
      split
      · exact run
      · next after erased =>
          have stepped : s.step (.erase name) = some after := by
            simp [Store.step, Store.locked, unlocked, erased]
          exact run.next (show hexAddresses s (.erase name) from trivial)
            stepped

/-! ## Committing -/

/-- What `capstomp_store_commit` answers an administrator who has read the
status, and what it leaves: the connections it has freed are not in use any
more. -/
inductive CommitAnswers (args : List InitArg) (value : Json) (s : Store) :
    Init Nat × Store → Prop
  | badArgs (noName : poolName args = none) :
      CommitAnswers args value s (.error (strncpyMsg
        "bad args, use capstomp_store_commit(\"pool_name\")"), s)
  | noValue {what : String} (thrown : poolName args = some (.error what)) :
      CommitAnswers args value s (.error (snprintfMsg what), s)
  | notFound {name : String} (isName : poolName args = some (.ok name))
      (absent : ∀ running, ¬ value.Tells name running) :
      CommitAnswers args value s (.error (snprintfMsg
        ("store commit: " ++ name ++ " - not found")), s)
  | committed {name : String} {running count : Nat} {after : Store}
      (isName : poolName args = some (.ok name))
      (tells : value.Tells name (running + count))
      (shows : ∀ order : List (String × PoolId), order.Perm after.store →
        ∃ later, after.Shows order later ∧
          (later.others name).Perm (value.others name) ∧
          later.Tells name running) :
      CommitAnswers args value s (.ok count, after)

section Call

variable {allowed : Store → StoreAction → Prop}
variable {start last : System} {pool : PoolId}

omit [ClosedSocket] [MessageSize] [NullString] in
/-- The turns of a call one after the other, from where it stands. -/
theorem Forces.walk {address : String} (run : Runs anything address start)
    {visited : List Transaction} (forces : Forces start visited last) :
    ∀ turns : List (Nat × CommitTurns),
      visited.length + turns.length = start.pool.transactionStore.length →
      ∃ walked, turns.foldlM
          (fun s turn => s.step (.forceNext turn.1 turn.2)) last =
            some walked ∧
        Forces start start.pool.transactionStore walked := by
  intro turns
  induction turns generalizing visited last with
  | nil =>
      intro long
      obtain ⟨rest, before, _⟩ := (forces.progress run).store
      have done : rest = [] := by
        rw [before, List.length_append] at long
        exact List.length_eq_zero_iff.mp (by simpa using long)
      rw [done, List.append_nil] at before
      exact ⟨last, rfl, before ▸ forces⟩
  | cons turn turns induction =>
      intro long
      have progress := forces.progress run
      obtain ⟨rest, before, now⟩ := progress.store
      cases rest with
      | nil => simp [before] at long
      | cons transaction rest =>
          have reached := forces.runs run
          have located : last.pool.transactionStore[(unreadyOnes
              visited).length]? = some transaction := by
            simp [now]
          have stepped := forceNext_turn reached.custody reached.queue
            progress.forcing located turn.1 turn.2
          have pointed : last.pointed = some transaction := by
            simp [System.pointed, progress.forcing, located]
          have further := forces.turn pointed stepped
          obtain ⟨walked, isWalked, all⟩ := induction further (by
            simp only [List.length_append, List.length_cons,
              List.length_nil] at long ⊢
            omega)
          refine ⟨walked, ?_, all⟩
          rw [List.foldlM_cons]
          exact Option.bind_eq_some_iff.mpr ⟨_, stepped, isWalked⟩

omit [QueryDecoding] [PassHash] [FrameBytes] [ClosedSocket] [MessageSize]
  [NullString] in
/-- A ready transaction takes its connection out of `active_`. -/
theorem Progress.active_length (custody : Custody start)
    (here : Custody last) {visited : List Transaction}
    (progress : Progress start visited last) :
    last.pool.active.length + (readyOnes visited).length =
      start.pool.active.length := by
  obtain ⟨rest, before, _⟩ := progress.store
  have inStore : ((readyOnes visited).map Transaction.connection).Sublist
      (start.pool.transactionStore.map Transaction.connection) := by
    rw [before]
    exact (List.filter_sublist.trans
      (List.sublist_append_left _ _)).map _
  have taken : ((readyOnes visited).map Transaction.connection).Nodup :=
    custody.store_nodup.sublist inStore
  have wasActive : ∀ c ∈ (readyOnes visited).map Transaction.connection,
      c ∈ start.pool.active := by
    intro c member
    obtain ⟨transaction, isReady, rfl⟩ := List.mem_map.mp member
    refine custody.backPointers.active transaction ?_
    rw [before]
    exact List.mem_append_left _ (List.mem_of_mem_filter isReady)
  have split : (last.pool.active ++
      (readyOnes visited).map Transaction.connection).Perm
      start.pool.active := by
    rw [List.perm_ext_iff_of_nodup _ custody.active_nodup]
    · intro c
      rw [List.mem_append, progress.active c]
      constructor
      · rintro (⟨active, _⟩ | member)
        · exact active
        · exact wasActive c member
      · intro active
        by_cases member : c ∈ (readyOnes visited).map Transaction.connection
        · exact .inr member
        · exact .inl ⟨active, member⟩
    · refine List.nodup_append.mpr ⟨here.active_nodup, taken, ?_⟩
      rintro c active other member rfl
      exact ((progress.active c).mp active).2 member
  simpa using split.length_eq

omit [ClosedSocket] [MessageSize] [NullString] in
theorem Forces.name {visited : List Transaction}
    (forces : Forces start visited last) :
    last.pool.name = start.pool.name := by
  induction forces with
  | lock stepped => exact System.step_name stepped
  | turn _ _ stepped induction
  | other _ _ stepped induction =>
      exact (System.step_name stepped).trans induction

omit [ClosedSocket] [MessageSize] [NullString] in
/-- The turns that `force_commit` takes in the pool, taken in the store. -/
theorem Store.foldlM_forceNext {turns : List (Nat × CommitTurns)}
    (isPool : s.committing = some pool) (live : s.Live pool)
    (walked : turns.foldlM
      (fun s turn => s.step (.forceNext turn.1 turn.2)) (s.pools pool) =
        some last) :
    turns.foldlM (fun (s : Store) turn => s.step (.forceNext turn.1 turn.2))
      s = some (s.setPool pool last) := by
  induction turns generalizing s with
  | nil =>
      cases walked
      simp [setPool]
  | cons turn turns induction =>
      rw [List.foldlM_cons] at walked ⊢
      obtain ⟨next, stepped, rest⟩ := Option.bind_eq_some_iff.mp walked
      have moved : s.step (.forceNext turn.1 turn.2) =
          some (s.setPool pool next) := by
        simp [step, force, isPool, inPool, live, stepped]
      have further := induction (s := s.setPool pool next) isPool live
        (by simpa using rest)
      rw [moved, Option.bind_eq_bind, Option.bind_some, further]
      simp [setPool]

omit [ClosedSocket] [MessageSize] [NullString] in
/-- `store::commit` takes a turn for each transaction, whatever they meet, and
takes as many connections out of `active_` as it says. -/
theorem Store.commit_returns (run : StoreRuns allowed s)
    (unlocked : s.committing = none) {name : String}
    (found : s.find name = some pool) (turns : List (Nat × CommitTurns))
    (enough : turns.length = (s.pools pool).pool.transactionStore.length) :
    ∃ count system, s.commit name turns =
        some (.ok count, s.setPool pool system) ∧
      system.pool.active.length + count =
        (s.pools pool).pool.active.length ∧
      system.pool.name = (s.pools pool).pool.name := by
  obtain ⟨address, inside⟩ := StoreRuns.inside run pool
  have free : (s.pools pool).forcing = none := by
    by_contra forcing
    simp [(StoreRuns.attended run).mutex pool forcing] at unlocked
  have live : s.Live pool :=
    List.mem_map_of_mem (Store.mem_of_find found)
  have locks : (s.pools pool).step .forceLock =
      some { s.pools pool with forcing := some {} } := by
    simp [System.step, System.forceLock, System.locked, free]
  obtain ⟨walked, isWalked, forces⟩ :=
    (Forces.lock locks).walk inside turns (by simpa using enough)
  have progress := forces.progress inside
  have past : walked.pool.transactionStore.length ≤
      (unreadyOnes (s.pools pool).pool.transactionStore).length := by
    obtain ⟨rest, before, now⟩ := progress.store
    have none : rest = [] := by simpa using before
    simp [now, none]
  have unlocks := forceUnlock_past progress.forcing past
  have here := (forces.runs inside).custody
  refine ⟨_, { walked with forcing := none }, ?_,
    progress.active_length inside.custody here, forces.name⟩
  let found' : Store := { s with committing := some pool }
  let locked' := found'.setPool pool
    { s.pools pool with forcing := some {} }
  have finds : s.step (.findCommit name) = some found' := by
    simp [step, findCommit, locked, unlocked, found, found']
  have locksIt : found'.step .forceLock = some locked' := by
    simp [step, force, found', locked', inPool, live, locks]
  have walks := Store.foldlM_forceNext (s := locked') rfl live
    (by simpa [locked'] using isWalked)
  have isForcing : ((locked'.setPool pool walked).pools pool).forcing =
      walked.forcing := by simp
  have unlocksIt : (locked'.setPool pool walked).step .forceUnlock =
      some (s.setPool pool { walked with forcing := none }) := by
    simp [step, force, found', locked', inPool, live, System.step, unlocks,
      setPool, unlocked]
  simp only [commit, found, Option.bind_eq_bind, finds, Option.bind_some,
    locksIt, walks, isForcing, progress.forcing, unlocksIt]

theorem capstompStoreCommitInit_answers (run : StoreRuns allowed s)
    (plain : s.PlainPools) (unlocked : s.committing = none)
    (keys : ∀ entry ∈ s.store, PlainText entry.1.toList)
    (traversed : entries.Perm s.store) (args : List InitArg)
    (met : Nat → Nat × CommitTurns) :
    ∃ turns result,
      capstompStoreCommitInit args ((List.range turns).map met) s =
          some result ∧
        CommitAnswers args (s.status entries) s result := by
  rcases isName : poolName args with _ | what | name
  · refine ⟨0, _, ?_, .badArgs isName⟩
    simp only [capstompStoreCommitInit, isName]
  · refine ⟨0, _, ?_, .noValue isName⟩
    simp only [capstompStoreCommitInit, isName]
  · cases found : s.find name with
      | none =>
          refine ⟨0, _, ?_, .notFound isName
            (Store.tells_nothing traversed found)⟩
          simp only [capstompStoreCommitInit, isName, Store.commit, found,
            Option.bind_eq_bind, Option.bind_some]
          rfl
      | some pool =>
          obtain ⟨count, system, commits, fewer, sameName⟩ :=
            Store.commit_returns run unlocked found
              ((List.range (s.pools pool).pool.transactionStore.length).map
                met) (by simp)
          have tells := Store.tells_of_find traversed found
          rw [← fewer] at tells
          refine ⟨(s.pools pool).pool.transactionStore.length,
            (.ok count, s.setPool pool system), ?_, .committed
              isName tells fun order isOrder => ?_⟩
          · simp only [capstompStoreCommitInit, isName, commits,
              Option.bind_eq_bind, Option.bind_some]
          have still : (s.setPool pool system).PlainPools := by
            intro other
            by_cases same : other = pool
            · subst same
              rw [Store.setPool_pools, Function.update_self, sameName]
              exact plain other
            · rw [Store.setPool_pools, Function.update_of_ne same]
              exact plain other
          refine ⟨_, Store.shows_status still fun entry member =>
            keys entry (isOrder.mem_iff.mp member), ?_, ?_⟩
          · have named := StoreRuns.anyNamed run
            have others : ∀ entry ∈ order.filter fun entry => entry.1 ≠ name,
                (s.setPool pool system).statusEntry entry =
                  s.statusEntry entry := by
              rintro ⟨other, its⟩ member
              obtain ⟨isEntry, different⟩ := List.mem_filter.mp member
              -- No other name leads to the pool.
              have isOther : its ≠ pool := by
                rintro rfl
                have first := (named.entries _ (Store.mem_of_find found)).2
                have second := (named.entries _
                  (isOrder.mem_iff.mp isEntry)).2
                exact of_decide_eq_true different (second.symm.trans first)
              simp [Store.statusEntry, Function.update_of_ne isOther]
            rw [Store.others_status, Store.others_status,
              List.map_congr_left others]
            exact ((isOrder.trans traversed.symm).filter _).map _
          · refine Store.tells_status_iff.mpr ⟨pool, isOrder.mem_iff.mpr
              (Store.mem_of_find found), ?_⟩
            simp

end Call

/-- Whenever the store is not locked, what an administrator reads in the
status decides what `capstomp_store_erase` and `capstomp_store_commit` answer
to any arguments, and what the status shows afterwards; the second one does so
whatever its commits meet, if each of their waits ends. -/
theorem answered_as_shown (run : StoreRuns hexAddresses s)
    (unlocked : s.committing = none)
    (keys : ∀ entry ∈ s.store, PlainText entry.1.toList)
    (traversed : entries.Perm s.store) :
    ∃ value, s.Shows entries value ∧
      (∀ name running other, value.Tells name running →
        value.Tells name other → running = other) ∧
      (∀ args, EraseAnswers args value s (capstompStoreEraseInit args s) ∧
        StoreRuns hexAddresses (capstompStoreEraseInit args s).2) ∧
      ∀ args met, ∃ turns result,
        capstompStoreCommitInit args ((List.range turns).map met) s =
            some result ∧
          CommitAnswers args value s result := by
  have plain := StoreRuns.plainPools run
  refine ⟨s.status entries, ?_, ?_, fun args => ⟨?_, ?_⟩, fun args met => ?_⟩
  · exact Store.shows_status plain fun entry member =>
      keys entry (traversed.mem_iff.mp member)
  · intro name running other
    exact Store.tells_unique (StoreRuns.anyNamed run).nodup traversed
  · exact capstompStoreEraseInit_answers plain keys traversed args
  · exact capstompStoreEraseInit_run run unlocked args
  · exact capstompStoreCommitInit_answers run plain unlocked keys traversed
      args met

end Runs

namespace Sample

scoped instance : MessageSize := ⟨512⟩

scoped instance : NullString :=
  ⟨"basic_string: construction from null is not valid"⟩

/-- A constant as an argument. -/
def constant (value : String) : InitArg where
  type := .string
  bytes := some (value.toList.map Char.toUInt8)
  length := value.toList.length
  isLength := by simp

end Sample

section Executed

open scoped Sample

/-- One pool has a connection in use by a transaction that is ready and one by
a transaction that is not; another pool has one that is parked. -/
theorem answered_as_shown_deferred :
    let s := executed Store.step hexAddresses {}
      (deferring.flatMap inStore ++
        [.select 3 { Sample.uri "" with fragment := "/queue/b" } 16 "7f10",
          .get 3 8, .session (.connect 3 Sample.connects),
          .session (.deinit 3), .session (.commit 3 false 100),
          .session (.release 3 100 8)])
    let first := [Sample.constant "guest@127.0.0.1:61613/vhost#/queue/a"]
    let second := [Sample.constant "guest@127.0.0.1:61613/vhost#/queue/b"]
    (capstompStoreEraseInit first s).1.isOk = false ∧
    (capstompStoreEraseInit second s).1.isOk ∧
    ∃ value, s.Shows s.store.reverse value ∧
      (∀ name running other, value.Tells name running →
        value.Tells name other → running = other) ∧
      (∀ args, EraseAnswers args value s (capstompStoreEraseInit args s) ∧
        StoreRuns hexAddresses (capstompStoreEraseInit args s).2) ∧
      ∀ args met, ∃ turns result,
        capstompStoreCommitInit args ((List.range turns).map met) s =
            some result ∧
          CommitAnswers args value s result :=
  ⟨by decide +kernel, by decide +kernel,
    answered_as_shown (reaches_executed (by decide +kernel))
      (by decide +kernel) (by decide +kernel) (List.reverse_perm _)⟩

end Executed

end Capstomp
