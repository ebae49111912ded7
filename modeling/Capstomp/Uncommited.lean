import Capstomp.General.Delimited
import Capstomp.Reachable

/-!
# What `get_uncommited` hands out and what it reads

A session that ends marks its transaction.  If that one is first, the session
takes the longest prefix of ready transactions with it.  The loop that looks
for the end of this prefix reads a flag before it tests the position, so when
every transaction is ready its last read is at the end of the list.
-/

namespace Capstomp

open General

/-- `get_uncommited` hands out the longest ready prefix to the first
transaction and nothing to any other, and keeps what it does not hand out. -/
theorem get_uncommited_longest (endReady : Bool) {pool : Pool}
    {front back : List Transaction} {transaction : Transaction}
    (store : pool.transactionStore = front ++ transaction :: back)
    (distinct : (pool.transactionStore.map Transaction.node).Nodup) :
    let marked := front ++ { transaction with ready := true } :: back
    let result := pool.getUncommited endReady transaction.node
    result.1 ++ result.2.transactionStore = marked ∧
      result.2 = { pool with
        transactionStore := result.2.transactionStore } ∧
      (front ≠ [] → result.1 = []) ∧
      (front = [] →
        LongestPrefix Transaction.ready result.1 marked ∧
          result.1.head? = some { transaction with ready := true } ∧
          ∀ next, result.2.transactionStore.head? = some next →
            next.ready = false) := by
  intro marked result
  by_cases first : front = []
  · subst first
    have handsOut : result = _ :=
      Pool.getUncommited_first endReady store distinct
    have whole : result.1 = marked.takeWhile Transaction.ready := by
      simp [handsOut, marked]
    have left : result.2.transactionStore =
        marked.dropWhile Transaction.ready := by
      simp [handsOut, marked]
    refine ⟨?_, ?_, fun notFirst => absurd rfl notFirst, fun _ => ⟨?_, ?_, ?_⟩⟩
    · rw [whole, left]
      exact List.takeWhile_append_dropWhile
    · rw [handsOut]
    · rw [whole]
      exact longestPrefix_takeWhile Transaction.ready marked
    · rw [handsOut]
      rfl
    · intro next isHead
      have unready := List.head?_dropWhile_not Transaction.ready marked
      rw [← left, isHead] at unready
      simpa using unready
  · have handsOut : result = _ :=
      Pool.getUncommited_later endReady store first distinct
    refine ⟨?_, ?_, fun _ => ?_, fun isFirst => absurd isFirst first⟩
    · simp [handsOut, marked]
    · rw [handsOut]
    · rw [handsOut]

/-- The first transaction ends, the second has ended, the third has not. -/
theorem get_uncommited_longest_two :
    let back : List Transaction :=
      [⟨2, "2@pool", true, 1⟩, ⟨3, "3@pool", false, 2⟩]
    let pool : Pool := { transactionStore := ⟨1, "1@pool", false, 0⟩ :: back }
    let result := pool.getUncommited true 1
    LongestPrefix Transaction.ready result.1
        (⟨1, "1@pool", true, 0⟩ :: back) ∧
      result.1.map Transaction.node = [1, 2] := by
  intro back pool result
  have store : pool.transactionStore =
      [] ++ ⟨1, "1@pool", false, 0⟩ :: back := rfl
  have handsOut := get_uncommited_longest true store (by decide)
  exact ⟨(handsOut.2.2.2 rfl).1, by decide⟩

namespace Pool

/-- The iterators on which the loop of `get_uncommited` reads the flag. -/
def uncommitedReads (endReady : Bool) (node : Nat) (pool : Pool) :
    List (Option Nat) :=
  let store := setReady node pool.transactionStore
  if (store.head?.map Transaction.node) = some node then
    (scan endReady store).reads
  else []

/-- Every iterator that is read designates a transaction of the store. -/
def ReadsInside (endReady : Bool) (node : Nat) (pool : Pool) : Prop :=
  ∀ read ∈ pool.uncommitedReads endReady node,
    ∃ transaction ∈ pool.transactionStore, read = some transaction.node

end Pool

/-- The loop reads the ready prefix and the position after it. -/
theorem scan_reads (endReady : Bool) (store : List Transaction) :
    (scan endReady store).reads =
      ((store.takeWhile Transaction.ready).map fun transaction =>
        some transaction.node) ++
        [(store.dropWhile Transaction.ready).head?.map Transaction.node] := by
  induction store with
  | nil => cases endReady <;> rfl
  | cons transaction rest induction =>
      cases ready : transaction.ready <;> simp [scan, ready, induction]

/-- The reads of one scan stay inside when the scan meets a transaction that
is not ready. -/
theorem scan_inside_iff (endReady : Bool) (store : List Transaction) :
    (∀ read ∈ (scan endReady store).reads,
        ∃ transaction ∈ store, read = some transaction.node) ↔
      ∃ transaction ∈ store, transaction.ready = false := by
  rw [scan_reads]
  constructor
  · intro inside
    obtain ⟨transaction, _, isRead⟩ := inside
      ((store.dropWhile Transaction.ready).head?.map Transaction.node)
      (by simp)
    obtain ⟨next, isHead, _⟩ := Option.map_eq_some_iff.mp isRead
    have unready := List.head?_dropWhile_not Transaction.ready store
    rw [isHead] at unready
    exact ⟨next, (List.dropWhile_sublist _).subset (List.mem_of_head? isHead),
      by simpa using unready⟩
  · rintro ⟨transaction, member, unready⟩ read isRead
    rcases List.mem_append.mp isRead with passed | last
    · obtain ⟨other, taken, rfl⟩ := List.mem_map.mp passed
      exact ⟨other, (List.takeWhile_sublist _).subset taken, rfl⟩
    · rw [List.mem_singleton] at last
      subst last
      cases rest : store.dropWhile Transaction.ready with
      | nil =>
          rw [List.dropWhile_eq_nil_iff] at rest
          simp [rest transaction member] at unready
      | cons next rest' =>
          refine ⟨next, ?_, rfl⟩
          apply (List.dropWhile_sublist (p := Transaction.ready)).subset
          simp [rest]

variable {s : System} {sid : SessionId} {node : Nat}

/-- A session that ends reads inside the store exactly while another
transaction is not ready: one that is before it, or one that stops the
loop. -/
theorem reads_inside_iff (custody : Custody s) (queue : Queue s)
    (endReady : Bool) (unlocked : s.forcing = none)
    (ending : (s.sessions sid).phase = .ending)
    (begun : (s.own sid).withTransaction)
    (passed : (s.own sid).transaction = some node) :
    s.pool.ReadsInside endReady node ↔
      ∃ other ∈ s.pool.transactionStore,
        other.node ≠ node ∧ other.ready = false := by
  have unfinished : (s.sessions sid).phase.unfinished := by
    simp [ending, Phase.unfinished]
  obtain ⟨front, transaction, back, store, isNode, _, _⟩ :=
    custody.finds unfinished begun passed
  subst isNode
  have distinct := queue.distinct
  have marked := Pool.setReady_split front (store ▸ distinct)
  have others : ∀ other ∈ front ++ back, other.node ≠ transaction.node := by
    intro other member same
    rw [store, List.map_append, List.map_cons, List.perm_middle.nodup_iff,
      List.nodup_cons, ← List.map_append] at distinct
    exact distinct.1 (same ▸ List.mem_map_of_mem member)
  cases front with
  | nil =>
      -- It is first, and the scan runs over the marked store.
      have reads : s.pool.uncommitedReads endReady transaction.node =
          (scan endReady ({ transaction with ready := true } :: back)).reads := by
        simp only [List.nil_append] at marked store
        simp [Pool.uncommitedReads, store, marked]
      have inside := scan_inside_iff endReady
        ({ transaction with ready := true } :: back)
      rw [Pool.ReadsInside, reads, store]
      simp only [List.nil_append, List.mem_cons, exists_eq_or_imp] at inside ⊢
      simp only [Bool.true_eq_false, false_or] at inside
      rw [inside]
      constructor
      · rintro ⟨other, member, unready⟩
        exact .inr ⟨other, member, others other (by simp [member]), unready⟩
      · rintro (⟨different, _⟩ | ⟨other, member, _, unready⟩)
        · exact absurd rfl different
        · exact ⟨other, member, unready⟩
  | cons head front =>
      -- It is not, and the first one is of a session under way.
      have different := others head (by simp)
      have reads : s.pool.uncommitedReads endReady transaction.node = [] := by
        simp only [Pool.uncommitedReads, store, marked]
        simp [different]
      constructor
      · intro _
        refine ⟨head, by simp [store], different, ?_⟩
        exact queue.waiting unlocked head (by simp [store])
      · intro _ read isRead
        rw [reads] at isRead
        cases isRead

section Runs

variable [QueryDecoding] [PassHash] [FrameBytes] {name : String}

/-- In every reachable state the scan stays inside the store exactly when a
transaction beside that of the session is not ready. -/
theorem scan_inside (run : Runs anything name s) (endReady : Bool)
    (unlocked : s.forcing = none)
    (ending : (s.sessions sid).phase = .ending)
    (begun : (s.own sid).withTransaction)
    (passed : (s.own sid).transaction = some node) :
    s.pool.ReadsInside endReady node ↔
      ∃ other ∈ s.pool.transactionStore,
        other.node ≠ node ∧ other.ready = false :=
  reads_inside_iff run.custody run.queue endReady unlocked ending begun passed

end Runs

section Executed

open scoped Sample

/-- The first of two sessions ends while the second has rows to send. -/
def firstEnds : List Action :=
  Sample.begins 1 ++ Sample.begins 2 ++ [.deinit 1]

theorem scan_inside_underWay :
    let s := final anything "pool" firstEnds
    s.pool.ReadsInside true 1 := by
  intro s
  have run : Runs anything "pool" s := runs_final (by decide +kernel)
  obtain ⟨unlocked, ending, begun, passed⟩ : s.forcing = none ∧
      (s.sessions 1).phase = .ending ∧ (s.own 1).withTransaction ∧
        (s.own 1).transaction = some 1 := by decide +kernel
  apply (scan_inside run true unlocked ending begun passed).mpr
  decide +kernel

/-- The only session of a pool ends, and the loop reads at the end of the
list. -/
theorem scan_reads_end :
    ¬ ∀ (s : System) (sid : SessionId) (node : Nat) (endReady : Bool),
      Runs anything "pool" s → s.forcing = none →
      (s.sessions sid).phase = .ending → (s.own sid).withTransaction →
      (s.own sid).transaction = some node →
        s.pool.ReadsInside endReady node := by
  intro alwaysInside
  let s := final anything "pool" (Sample.begins 1 ++ [.deinit 1])
  obtain ⟨unlocked, ending, begun, passed, atEnd⟩ : s.forcing = none ∧
      (s.sessions 1).phase = .ending ∧ (s.own 1).withTransaction ∧
        (s.own 1).transaction = some 1 ∧
        none ∈ s.pool.uncommitedReads false 1 := by decide +kernel
  have inside := alwaysInside s 1 1 false (runs_final (by decide +kernel))
    unlocked ending begun passed
  obtain ⟨_, _, impossible⟩ := inside none atEnd
  cases impossible

end Executed

end Capstomp
