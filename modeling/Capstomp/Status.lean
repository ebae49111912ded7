import Capstomp.General.JsonPieces
import Capstomp.StoreReachable

/-!
# The status of the store

What `capstomp_status` returns: `store::json`, with `pool::json` for each pool
and `pool::json_arr` for each of its lists.  The texts are written piece by
piece, each list with its own test for the comma, and names are written as
they are.
-/

namespace Capstomp

open General General.Json

/-- `fd` of a socket that is closed. -/
class ClosedSocket where
  fd : Int

section Texts

variable [ClosedSocket]

/-- `c.socket().fd()`. -/
def Connection.socketFd (c : Connection) : Int :=
  match c.socket with
  | some socket => socket.fd
  | none => ClosedSocket.fd

/-- What `json_arr` writes of a connection. -/
def Connection.json (c : Connection) : String :=
  "\x7b" ++ "\"socket\":" ++ toString c.socketFd ++
    ",\"total_count\":" ++ toString c.totalCount ++ "\x7d"

/-- One turn of the loop of `json_arr`. -/
def jsonNext (tmp : String) (c : Connection) : String :=
  (if tmp = "" then tmp else tmp ++ ",") ++ c.json

/-- `pool::json_arr`. -/
def jsonArr (list : List Connection) : String :=
  "[" ++ list.foldl jsonNext "" ++ "]"

/-- `pool::json`. -/
def System.json (s : System) : String :=
  "\x7b" ++ "\"name\":\"" ++ s.pool.name ++ "\"" ++ "," ++
    "\"ready\":" ++ jsonArr (s.pool.ready.map s.connections) ++ "," ++
    "\"active\":" ++ jsonArr (s.pool.active.map s.connections) ++ "\x7d"

namespace Store

/-- What `store::json` writes of an entry of `store_`. -/
def jsonEntry (s : Store) (entry : String × PoolId) : String :=
  "\x7b" ++ "\"name\":\"" ++ entry.1 ++ "\"," ++
    "\"pool\":" ++ (s.pools entry.2).json ++ "\x7d"

/-- One turn of the loop of `store::json`, with `rc` and `first_line`. -/
def jsonLine (s : Store) (line : String × Bool) (entry : String × PoolId) :
    String × Bool :=
  ((if line.2 then line.1 else line.1 ++ ",") ++ s.jsonEntry entry, false)

/-- `store::json`; `entries` is `store_` in the order it is traversed in. -/
def json (entries : List (String × PoolId)) (s : Store) : String :=
  (entries.foldl s.jsonLine ("[", true)).1 ++ "]"

end Store

/-! ## What the texts are to stand for -/

def Connection.status (c : Connection) : Json :=
  .object [("socket".toList, .number { mantissa := c.socketFd }),
    ("total_count".toList, .number { mantissa := c.totalCount })]

def System.status (s : System) : Json :=
  .object [("name".toList, .string s.pool.name.toList),
    ("ready".toList,
      .array ((s.pool.ready.map s.connections).map Connection.status)),
    ("active".toList,
      .array ((s.pool.active.map s.connections).map Connection.status))]

namespace Store

def statusEntry (s : Store) (entry : String × PoolId) : Json :=
  .object [("name".toList, .string entry.1.toList),
    ("pool".toList, (s.pools entry.2).status)]

def status (entries : List (String × PoolId)) (s : Store) : Json :=
  .array (entries.map s.statusEntry)

end Store

/-! ## Commas -/

theorem Connection.json_ne_empty (c : Connection) : c.json ≠ "" := by
  intro empty
  have length := congrArg String.length empty
  simp [Connection.json] at length

theorem foldl_jsonNext (list : List Connection) {tmp : String}
    (written : tmp ≠ "") :
    list.foldl jsonNext tmp =
      ",".intercalate (tmp :: list.map Connection.json) := by
  induction list generalizing tmp with
  | nil => simp
  | cons c list induction =>
      have more : tmp ++ "," ++ c.json ≠ "" := by
        simp [Connection.json_ne_empty]
      rw [List.foldl_cons, jsonNext, if_neg written, induction more,
        List.map_cons, String.intercalate_cons_cons,
        String.intercalate_cons_append]

theorem jsonArr_eq (list : List Connection) :
    jsonArr list = "[" ++ ",".intercalate (list.map Connection.json) ++ "]" := by
  cases list with
  | nil => rfl
  | cons c list =>
      have first : jsonNext "" c = c.json := by simp [jsonNext]
      rw [jsonArr, List.foldl_cons, first,
        foldl_jsonNext list c.json_ne_empty, List.map_cons]

namespace Store

variable {s : Store}

theorem foldl_jsonLine (entries : List (String × PoolId)) (rc : String) :
    (entries.foldl s.jsonLine (rc, false)).1 =
      ",".intercalate (rc :: entries.map s.jsonEntry) := by
  induction entries generalizing rc with
  | nil => simp
  | cons entry entries induction =>
      rw [List.foldl_cons, jsonLine, if_neg Bool.false_ne_true, induction,
        List.map_cons, String.intercalate_cons_cons,
        String.intercalate_cons_append]

theorem json_eq (entries : List (String × PoolId)) :
    s.json entries =
      "[" ++ ",".intercalate (entries.map s.jsonEntry) ++ "]" := by
  cases entries with
  | nil => rfl
  | cons entry entries =>
      rw [json, List.foldl_cons, jsonLine, if_pos rfl, foldl_jsonLine,
        List.map_cons, String.intercalate_cons_append]

end Store

/-! ## Reading the texts back -/

theorem reads_connection (c : Connection) :
    Reads readValue c.json.toList c.status := by
  have socket : PlainText "socket".toList := by decide
  have count : PlainText "total_count".toList := by decide
  have object := reads_object
    (.cons (reads_member socket (reads_int c.socketFd))
      (.cons (reads_member count (reads_nat c.totalCount)) .nil))
  have text : c.json.toList = '{' :: [','].intercalate
      ['"' :: "socket".toList ++ '"' :: ':' :: (toString c.socketFd).toList,
        '"' :: "total_count".toList ++
          '"' :: ':' :: (toString c.totalCount).toList] ++ ['}'] := by
    simp [Connection.json]
  rw [text]
  exact object

theorem reads_jsonArr (list : List Connection) :
    Reads readValue (jsonArr list).toList
      (.array (list.map Connection.status)) := by
  have array := reads_array (reads_each fun c (_ : c ∈ list) =>
    reads_connection c)
  simpa [jsonArr_eq, List.map_map, Function.comp_def] using array

theorem reads_system {s : System}
    (named : PlainText s.pool.name.toList) :
    Reads readValue s.json.toList s.status := by
  have name : PlainText "name".toList := by decide
  have ready : PlainText "ready".toList := by decide
  have active : PlainText "active".toList := by decide
  have object := reads_object
    (.cons (reads_member name (reads_string named))
      (.cons (reads_member ready
          (reads_jsonArr (s.pool.ready.map s.connections)))
        (.cons (reads_member active
          (reads_jsonArr (s.pool.active.map s.connections))) .nil)))
  have text : s.json.toList = '{' :: [','].intercalate
      ['"' :: "name".toList ++
          '"' :: ':' :: ('"' :: s.pool.name.toList ++ ['"']),
        '"' :: "ready".toList ++ '"' :: ':' ::
          (jsonArr (s.pool.ready.map s.connections)).toList,
        '"' :: "active".toList ++ '"' :: ':' ::
          (jsonArr (s.pool.active.map s.connections)).toList] ++ ['}'] := by
    simp [System.json]
  rw [text]
  exact object

namespace Store

variable {s : Store} {entry : String × PoolId}

theorem jsonEntry_toList (entry : String × PoolId) :
    (s.jsonEntry entry).toList = '{' :: [','].intercalate
      ['"' :: "name".toList ++
          '"' :: ':' :: ('"' :: entry.1.toList ++ ['"']),
        '"' :: "pool".toList ++
          '"' :: ':' :: (s.pools entry.2).json.toList] ++ ['}'] := by
  simp [jsonEntry]

theorem reads_entry
    (named : PlainText (s.pools entry.2).pool.name.toList)
    (key : PlainText entry.1.toList) :
    Reads readValue (s.jsonEntry entry).toList (s.statusEntry entry) := by
  have name : PlainText "name".toList := by decide
  have pool : PlainText "pool".toList := by decide
  rw [jsonEntry_toList]
  exact reads_object
    (.cons (reads_member name (reads_string key))
      (.cons (reads_member pool (reads_system named)) .nil))

/-- An entry that is read back with its name was written with a name that
needs no escapes. -/
theorem plain_of_readEntry {fuel : Nat} {rest behind : List Char}
    (read : readValue fuel ((s.jsonEntry entry).toList ++ rest) =
      some (s.statusEntry entry, behind)) :
    PlainText entry.1.toList := by
  have name : PlainText "name".toList := by decide
  rw [jsonEntry_toList] at read
  simp only [List.intercalate_cons_cons, List.cons_append,
    List.append_assoc, List.nil_append] at read
  exact plain_of_first_member name read

end Store

/-- No pool has a name of its own that needs escapes. -/
def Store.PlainPools (s : Store) : Prop :=
  ∀ pool, PlainText (s.pools pool).pool.name.toList

/-- When the pools' own names need no escapes, the text decodes to the status
exactly when the keys need none either. -/
theorem Store.decodes_json_iff {s : Store} (plain : s.PlainPools)
    (entries : List (String × PoolId)) :
    Decodes (s.json entries).toList (s.status entries) ↔
      ∀ entry ∈ entries, PlainText entry.1.toList := by
  have good : ∀ entry : String × PoolId,
      PlainText entry.1.toList →
        Reads readValue (s.jsonEntry entry).toList (s.statusEntry entry) :=
    fun entry key => reads_entry (plain entry.2) key
  have iff := decodes_array_iff good
    (fun entry fuel rest behind read => plain_of_readEntry read) entries
  simpa [json_eq, status, List.map_map, Function.comp_def] using iff

end Texts

/-! ## In a run -/

/-- `btdef::to_hex` writes the address of a new pool in letters and digits. -/
def hexAddresses (_ : Store) : StoreAction → Prop
  | .select _ _ _ address => address.toList.all Char.isAlphanum
  | _ => True

instance (s : Store) (action : StoreAction) :
    Decidable (hexAddresses s action) :=
  match action with
  | .select _ _ _ address =>
      inferInstanceAs (Decidable (address.toList.all Char.isAlphanum = true))
  | .get _ _ | .session _ | .erase _ | .findCommit _ | .forceLock
  | .forceNext _ _ | .forceUnlock | .clear => .isTrue trivial

section Runs

variable [QueryDecoding] [PassHash] [FrameBytes]
variable {s after : Store}

theorem plainPools_step {action : StoreAction} (plain : s.PlainPools)
    (permitted : hexAddresses s action) (stepped : s.step action = some after) :
    after.PlainPools := by
  intro other
  cases Store.step_changes stepped with
  | kept _ _ pools => exact pools ▸ plain other
  | created _ _ changed =>
      subst changed
      rw [Store.refer_pools, Store.emplace_pools]
      by_cases same : other = s.nextPool
      · rw [same, Function.update_self]
        exact fun char member =>
          plain_of_isAlphanum (List.all_eq_true.mp permitted char member)
      · rw [Function.update_of_ne same]
        exact plain other
  | @inside _ pool _ _ _ moved _ pools =>
      rw [pools]
      by_cases same : other = pool
      · rw [same, Function.update_self, System.step_name moved]
        exact plain pool
      · rw [Function.update_of_ne same]
        exact plain other
  | erased _ _ changed => exact changed ▸ plain other
  | cleared changed => exact changed ▸ plain other

theorem StoreRuns.plainPools (run : StoreRuns hexAddresses s) :
    s.PlainPools :=
  Reaches.invariant run (fun _ _ member => by cases member)
    fun _ _ _ _ plain permitted stepped =>
      plainPools_step plain permitted stepped

variable [ClosedSocket] {entries : List (String × PoolId)}

/-- The text decodes to the status and to nothing else, and every name in it is
there once. -/
structure Store.DecodesBack (entries : List (String × PoolId)) (s : Store) :
    Prop where
  value : ∀ value,
    Decodes (s.json entries).toList value ↔ value = s.status entries
  once : (entries.map Prod.fst).Nodup

/-- In whatever order the pools are traversed, the text decodes back exactly
when no name in `store_` has a character that needs an escape. -/
theorem status_decodes_iff (run : StoreRuns hexAddresses s)
    (traversed : entries.Perm s.store) :
    s.DecodesBack entries ↔
      ∀ entry ∈ s.store, PlainText entry.1.toList := by
  have iff := Store.decodes_json_iff (StoreRuns.plainPools run) entries
  constructor
  · intro back entry member
    exact iff.mp ((back.value _).mpr rfl) entry (traversed.mem_iff.mpr member)
  · intro plain
    have decodes := iff.mpr fun entry member =>
      plain entry (traversed.mem_iff.mp member)
    have once : (entries.map Prod.fst).Nodup :=
      (traversed.map Prod.fst).nodup_iff.mpr (StoreRuns.anyNamed run).nodup
    exact ⟨fun value => ⟨fun other => other.unique decodes,
      fun same => same ▸ decodes⟩, once⟩

end Runs

namespace Sample

/-- A closed socket has no descriptor. -/
scoped instance : ClosedSocket := ⟨-1⟩

end Sample

section Executed

open scoped Sample

/-- Two pools, one with a connection that is ready and one with a connection
that is not yet open. -/
theorem status_decodes_sample :
    let s := executed Store.step hexAddresses {}
      [.select 1 (Sample.uri "") 16 "7f10", .get 1 8,
        .session (.connect 1 Sample.connects), .session (.deinit 1),
        .session (.commit 1 false 100), .session (.release 1 100 8),
        .select 2 { Sample.uri "" with fragment := "/queue/b" } 16 "7f20",
        .get 2 8]
    s.store.length = 2 ∧ s.DecodesBack s.store.reverse :=
  ⟨by decide +kernel,
    (status_decodes_iff (reaches_executed (by decide +kernel))
      (List.reverse_perm _)).mpr (by decide +kernel)⟩

/-- The fragment of a URI with a quotation mark in it ends the name of the
pool. -/
theorem status_unescaped :
    ¬ ∀ s, StoreRuns hexAddresses s → ∀ entries : List (String × PoolId),
      entries.Perm s.store → s.DecodesBack entries := by
  intro alwaysBack
  let s := executed Store.step hexAddresses {}
    [.select 1 { Sample.uri "" with fragment := "/queue/a\"b" } 16 "7f10"]
  have run : StoreRuns hexAddresses s := reaches_executed (by decide +kernel)
  have quoted :
      ¬ ∀ entry ∈ s.store, PlainText entry.1.toList := by
    decide +kernel
  have back := alwaysBack s run s.store (.refl _)
  exact quoted ((Store.decodes_json_iff (StoreRuns.plainPools run) _).mp
    ((back.value _).mpr rfl))

end Executed

end Capstomp
