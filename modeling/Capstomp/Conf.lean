import Capstomp.General.Transition
import Capstomp.General.Word

/-!
# The limits set from SQL

`conf.cpp`: six settings that hold for the whole server, each with a UDF that
sets it and reports it.  The argument arrives as a signed 64-bit integer and is
cast to `std::size_t` before it is clamped.
-/

namespace Capstomp

open General

/-- The least important messages that the journal still writes. -/
inductive JournalLevel where
  | err
  | notice
  | debug
  deriving DecidableEq, Repr

/-- `journal::set_level`. -/
def journalSetLevel (level : Nat) : JournalLevel :=
  if 1 < level then .debug else if level = 1 then .notice else .err

/-- The `_min` and the `_max` of a setting, where it has one.  Both are far
from the end of a signed word. -/
structure Bounds where
  min : Option UInt64 := none
  max : Option UInt64 := none
  ordered : ∀ least ∈ min, ∀ greatest ∈ max, least < greatest := by simp
  minSmall : ∀ least ∈ min, least.toNat < 2 ^ 63 := by simp
  maxSmall : ∀ greatest ∈ max, greatest.toNat < 2 ^ 63 := by simp

/-- `std::max` with the one, then `std::min` with the other. -/
def Bounds.clamp (bounds : Bounds) (value : UInt64) : UInt64 :=
  let value := bounds.min.elim value (Max.max value)
  bounds.max.elim value (Min.min value)

theorem toNat_max (x y : UInt64) : (max x y).toNat = max x.toNat y.toNat := by
  have whole : max x y = if x ≤ y then y else x := rfl
  rw [whole, Nat.max_def]
  split <;> rename_i le <;> rw [UInt64.le_iff_toNat_le] at le <;> simp [le]

theorem toNat_min (x y : UInt64) : (min x y).toNat = min x.toNat y.toNat := by
  have whole : min x y = if x ≤ y then x else y := rfl
  rw [whole, Nat.min_def]
  split <;> rename_i le <;> rw [UInt64.le_iff_toNat_le] at le <;> simp [le]

namespace Bounds

variable {bounds : Bounds} {x y : UInt64}

theorem clamp_le_clamp (bounds : Bounds) (le : x ≤ y) :
    bounds.clamp x ≤ bounds.clamp y := by
  rw [UInt64.le_iff_toNat_le] at le ⊢
  obtain ⟨least, greatest, _, _, _⟩ := bounds
  cases least <;> cases greatest <;>
    simp only [clamp, Option.elim, toNat_max, toNat_min] <;> omega

/-- Without a maximum, the top bit of a word is kept, and none is set. -/
theorem clamp_unbounded (unbounded : bounds.max = none) :
    (2 ^ 63 ≤ x.toNat → 2 ^ 63 ≤ (bounds.clamp x).toNat) ∧
      (x.toNat < 2 ^ 63 → (bounds.clamp x).toNat < 2 ^ 63) := by
  obtain ⟨least, greatest, _, minSmall, _⟩ := bounds
  subst unbounded
  cases least with
  | none => exact ⟨id, id⟩
  | some least =>
      have isSmall := minSmall least rfl
      simp only [clamp, Option.elim, toNat_max]
      omega

/-- A word is clamped to the maximum exactly from there on. -/
theorem clamp_eq_max_iff {greatest : UInt64} (isMax : bounds.max = some greatest) :
    bounds.clamp x = greatest ↔ greatest ≤ x := by
  obtain ⟨least, _, ordered, _, _⟩ := bounds
  subst isMax
  rw [← UInt64.toNat_inj, UInt64.le_iff_toNat_le]
  cases least with
  | none =>
      simp only [clamp, Option.elim, toNat_min]
      omega
  | some least =>
      have below := UInt64.lt_iff_toNat_lt.mp (ordered least rfl greatest rfl)
      simp only [clamp, Option.elim, toNat_max, toNat_min]
      omega

theorem min_le_clamp (bounds : Bounds) {least : UInt64}
    (isMin : bounds.min = some least) (value : UInt64) :
    least ≤ bounds.clamp value := by
  obtain ⟨_, greatest, ordered, _, _⟩ := bounds
  subst isMin
  rw [UInt64.le_iff_toNat_le]
  cases greatest with
  | none =>
      simp only [clamp, Option.elim, toNat_max]
      omega
  | some greatest =>
      have below := UInt64.lt_iff_toNat_lt.mp (ordered least rfl greatest rfl)
      simp only [clamp, Option.elim, toNat_max, toNat_min]
      omega

theorem clamp_clamp (bounds : Bounds) (value : UInt64) :
    bounds.clamp (bounds.clamp value) = bounds.clamp value := by
  obtain ⟨least, greatest, ordered, _, _⟩ := bounds
  apply UInt64.toNat_inj.mp
  cases least <;> cases greatest <;>
    simp only [clamp, Option.elim, toNat_max, toNat_min,
      Option.mem_some_iff, forall_eq', UInt64.lt_iff_toNat_lt] at ordered ⊢ <;>
    omega

/-- A word with the top bit set is clamped like one without it exactly when
both are clamped to the maximum. -/
theorem clamp_eq_clamp_iff (large : 2 ^ 63 ≤ x.toNat)
    (small : y.toNat < 2 ^ 63) :
    bounds.clamp x = bounds.clamp y ↔
      ∃ greatest ∈ bounds.max, greatest ≤ y := by
  cases isMax : bounds.max with
  | none =>
      have above := (clamp_unbounded isMax).1 large
      have below := (clamp_unbounded isMax).2 small
      simp only [Option.mem_def, reduceCtorEq, false_and, exists_false,
        iff_false, ← UInt64.toNat_inj]
      omega
  | some greatest =>
      have isSmall := bounds.maxSmall greatest isMax
      have reaches : greatest ≤ x := UInt64.le_iff_toNat_le.mpr (by omega)
      rw [(clamp_eq_max_iff isMax).mpr reaches, eq_comm, clamp_eq_max_iff isMax]
      simp

end Bounds

def timeoutBounds : Bounds where
  min := some 300
  max := some 90000
  ordered := by simp

def maxPoolCountBounds : Bounds where
  min := some 16

def maxPoolSocketsBounds : Bounds where
  min := some 8

def poolSocketsBounds : Bounds where
  min := some 4

def requestLimitBounds : Bounds where
  min := some 4

def verboseBounds : Bounds where
  max := some 2

/-- `capst::conf` with the defaults of the build, and the level that
`set_verbose` sets in the journal. -/
structure Conf where
  timeout : UInt64 := 25000
  maxPoolCount : UInt64 := 250
  maxPoolSockets : UInt64 := 250
  poolSockets : UInt64 := 16
  requestLimit : UInt64 := 20480
  verbose : UInt64 := 1
  journal : JournalLevel := .notice
  deriving DecidableEq, Repr

namespace Conf

def setTimeout (value : UInt64) (conf : Conf) : Conf :=
  { conf with timeout := timeoutBounds.clamp value }

def setMaxPoolCount (value : UInt64) (conf : Conf) : Conf :=
  { conf with maxPoolCount := maxPoolCountBounds.clamp value }

def setMaxPoolSockets (value : UInt64) (conf : Conf) : Conf :=
  { conf with maxPoolSockets := maxPoolSocketsBounds.clamp value }

def setPoolSockets (value : UInt64) (conf : Conf) : Conf :=
  { conf with poolSockets := poolSocketsBounds.clamp value }

def setRequestLimit (value : UInt64) (conf : Conf) : Conf :=
  { conf with requestLimit := requestLimitBounds.clamp value }

def setVerbose (value : UInt64) (conf : Conf) : Conf :=
  { conf with
    verbose := verboseBounds.clamp value
    journal := journalSetLevel (verboseBounds.clamp value).toNat }

end Conf

/-- An argument of a UDF; one that is not constant has no value yet when the
function is initialised. -/
inductive UdfArg where
  | int (value : Option Int64)
  | other
  deriving DecidableEq, Repr

/-- The argument is of type `INT_RESULT`, and its pointer is not null. -/
def UdfArg.constant : UdfArg → Option Int64
  | .int value => value
  | .other => none

/-- The `_init` of a setting: what it leaves in `initid->ptr` or in `msg`, and
the settings after it. -/
def settingInit (set : UInt64 → Conf → Conf) (get : Conf → UInt64)
    (usage : String) (args : List UdfArg) (conf : Conf) :
    Except String UInt64 × Conf :=
  match args with
  | [] => (.ok (get conf), conf)
  | [arg] =>
      match arg.constant with
      | some value =>
          let conf := set value.toUInt64 conf
          (.ok (get conf), conf)
      | none => (.error usage, conf)
  | _ :: _ :: _ => (.error usage, conf)

/-- The function of a setting: a null pointer is reported as an error. -/
def settingValue (ptr : UInt64) : Option Int64 :=
  if ptr ≠ 0 then some ptr.toInt64 else none

def capstompTimeoutInit :=
  settingInit Conf.setTimeout Conf.timeout
    "bad args, use capstomp_timeout([timeout_ms])"

def capstompMaxPoolCountInit :=
  settingInit Conf.setMaxPoolCount Conf.maxPoolCount
    "bad args, use capstomp_max_pool_count([count])"

def capstompMaxPoolSocketsInit :=
  settingInit Conf.setMaxPoolSockets Conf.maxPoolSockets
    "bad args, use capstomp_max_pool_sockets([count])"

def capstompPoolSocketsInit :=
  settingInit Conf.setPoolSockets Conf.poolSockets
    "bad args, use capstomp_pool_sockets([count])"

def capstompRequestLimitInit :=
  settingInit Conf.setRequestLimit Conf.requestLimit
    "bad args, use capstomp_request_limit([count])"

def capstompVerboseInit :=
  settingInit Conf.setVerbose Conf.verbose
    "bad args, use capstomp_verbose([verbose])"

def capstompTimeout := settingValue
def capstompMaxPoolCount := settingValue
def capstompMaxPoolSockets := settingValue
def capstompPoolSockets := settingValue
def capstompRequestLimit := settingValue

/-- For this one setting zero is a value, and a null pointer is reported as
it. -/
def capstompVerbose (ptr : UInt64) : Option Int64 :=
  if ptr ≠ 0 then some ptr.toInt64 else some 0

/-! ## The family -/

inductive Limit where
  | timeout
  | maxPoolCount
  | maxPoolSockets
  | poolSockets
  | requestLimit
  | verbose
  deriving DecidableEq, Repr

namespace Limit

def bounds : Limit → Bounds
  | timeout => timeoutBounds
  | maxPoolCount => maxPoolCountBounds
  | maxPoolSockets => maxPoolSocketsBounds
  | poolSockets => poolSocketsBounds
  | requestLimit => requestLimitBounds
  | verbose => verboseBounds

/-- The value in force. -/
def inForce : Limit → Conf → UInt64
  | timeout => Conf.timeout
  | maxPoolCount => Conf.maxPoolCount
  | maxPoolSockets => Conf.maxPoolSockets
  | poolSockets => Conf.poolSockets
  | requestLimit => Conf.requestLimit
  | verbose => Conf.verbose

/-- Its `set_` function. -/
def put : Limit → UInt64 → Conf → Conf
  | timeout => Conf.setTimeout
  | maxPoolCount => Conf.setMaxPoolCount
  | maxPoolSockets => Conf.setMaxPoolSockets
  | poolSockets => Conf.setPoolSockets
  | requestLimit => Conf.setRequestLimit
  | verbose => Conf.setVerbose

/-- The `_init` of its UDF. -/
def init : Limit → List UdfArg → Conf → Except String UInt64 × Conf
  | timeout => capstompTimeoutInit
  | maxPoolCount => capstompMaxPoolCountInit
  | maxPoolSockets => capstompMaxPoolSocketsInit
  | poolSockets => capstompPoolSocketsInit
  | requestLimit => capstompRequestLimitInit
  | verbose => capstompVerboseInit

/-- Its UDF, given the pointer that `init` left. -/
def value : Limit → UInt64 → Option Int64
  | timeout => capstompTimeout
  | maxPoolCount => capstompMaxPoolCount
  | maxPoolSockets => capstompMaxPoolSockets
  | poolSockets => capstompPoolSockets
  | requestLimit => capstompRequestLimit
  | verbose => capstompVerbose

/-- The settings after the UDF was called with one integer. -/
def set (limit : Limit) (argument : Int64) (conf : Conf) : Conf :=
  (limit.init [.int (some argument)] conf).2

theorem inForce_put (limit : Limit) (value : UInt64) (conf : Conf) :
    limit.inForce (limit.put value conf) = limit.bounds.clamp value := by
  cases limit <;> rfl

theorem inForce_put_other {limit other : Limit} (different : other ≠ limit)
    (value : UInt64) (conf : Conf) :
    other.inForce (limit.put value conf) = other.inForce conf := by
  cases limit <;> cases other <;> first | rfl | exact absurd rfl different

theorem init_eq (limit : Limit) :
    ∃ usage, limit.init = settingInit limit.put limit.inForce usage := by
  cases limit <;> exact ⟨_, rfl⟩

/-- A call of `_init` sets a value that it is given, reports the value in
force, or fails and changes nothing. -/
theorem init_cases (limit : Limit) (args : List UdfArg) (conf : Conf) :
    (∃ value, args = [.int (some value)] ∧ limit.init args conf =
        (.ok (limit.inForce (limit.put value.toUInt64 conf)),
          limit.put value.toUInt64 conf)) ∨
      (args = [] ∧ limit.init args conf = (.ok (limit.inForce conf), conf)) ∨
      ∃ usage, limit.init args conf = (.error usage, conf) := by
  obtain ⟨usage, isInit⟩ := limit.init_eq
  rw [isInit]
  match args with
  | [] => exact .inr (.inl ⟨rfl, rfl⟩)
  | [.int (some value)] => exact .inl ⟨value, rfl, rfl⟩
  | [.int none] => exact .inr (.inr ⟨usage, rfl⟩)
  | [.other] => exact .inr (.inr ⟨usage, rfl⟩)
  | _ :: _ :: _ => exact .inr (.inr ⟨usage, rfl⟩)

theorem inForce_set (limit : Limit) (argument : Int64) (conf : Conf) :
    limit.inForce (limit.set argument conf) =
      limit.bounds.clamp argument.toUInt64 := by
  obtain ⟨usage, isInit⟩ := limit.init_eq
  rw [set, isInit]
  exact limit.inForce_put argument.toUInt64 conf

/-- A smaller argument gives a setting that is not larger, exactly when both
are of one sign, or the larger one reaches a maximum that the setting has. -/
theorem set_le_set_iff (limit : Limit) (conf other : Conf) {a b : Int64}
    (le : a ≤ b) :
    limit.inForce (limit.set a conf) ≤ limit.inForce (limit.set b other) ↔
      0 ≤ a ∨ b < 0 ∨ ∃ greatest ∈ limit.bounds.max,
        (greatest.toNat : Int) ≤ b.toInt := by
  rw [inForce_set, inForce_set,
    monotone_cast_iff (fun _ _ => limit.bounds.clamp_le_clamp) le]
  by_cases nonneg : 0 ≤ a
  · simp [nonneg]
  by_cases negative : b < 0
  · simp [negative]
  have large := (toUInt64_of_neg (Int64.not_le.mp nonneg)).2
  have small := toUInt64_of_nonneg (Int64.not_lt.mp negative)
  rw [Bounds.clamp_eq_clamp_iff large small.2, ← small.1]
  simp only [nonneg, negative, false_or, Int.ofNat_le, UInt64.le_iff_toNat_le]

/-- Both arguments are below the least timeout. -/
theorem set_le_set_below :
    let conf : Conf := {}
    (-2 : Int64) ≤ -1 ∧
      timeout.inForce (timeout.set (-2) conf) ≤
        timeout.inForce (timeout.set (-1) conf) :=
  ⟨by decide, (set_le_set_iff timeout {} {} (by decide)).mpr (by decide)⟩

/-- Minus one pool is more pools than sixteen. -/
theorem negative_count_unlimited :
    ¬ ∀ (limit : Limit) (conf other : Conf) (a b : Int64), a ≤ b →
      limit.inForce (limit.set a conf) ≤
        limit.inForce (limit.set b other) := by
  intro monotone
  have fewer := monotone maxPoolCount {} {} (-1) 16 (by decide)
  have more : ¬ maxPoolCount.inForce (maxPoolCount.set (-1) {}) ≤
      maxPoolCount.inForce (maxPoolCount.set 16 {}) := by decide
  exact more fewer

end Limit

/-! ## The settings over a run of the server -/

namespace Conf

/-- Every value is one that its own check lets pass, and the journal has the
level of `verbose`. -/
structure InBounds (conf : Conf) : Prop where
  clamped : ∀ limit : Limit,
    limit.bounds.clamp (limit.inForce conf) = limit.inForce conf
  journal : conf.journal = journalSetLevel conf.verbose.toNat

/-- The server calls the `_init` of one of the functions. -/
def step (conf : Conf) (call : Limit × List UdfArg) : Option Conf :=
  some (call.1.init call.2 conf).2

theorem InBounds.default : InBounds {} where
  clamped limit := by cases limit <;> rfl
  journal := rfl

theorem journal_put (limit : Limit) (value : UInt64) {conf : Conf}
    (same : conf.journal = journalSetLevel conf.verbose.toNat) :
    (limit.put value conf).journal =
      journalSetLevel (limit.put value conf).verbose.toNat := by
  cases limit with
  | verbose => rfl
  | _ => exact same

theorem InBounds.put {conf : Conf} (inBounds : InBounds conf) (limit : Limit)
    (value : UInt64) : InBounds (limit.put value conf) where
  clamped other := by
    by_cases same : other = limit
    · subst same
      rw [Limit.inForce_put, Bounds.clamp_clamp]
    · rw [Limit.inForce_put_other same]
      exact inBounds.clamped other
  journal := journal_put limit value inBounds.journal

/-- Whatever is asked for, the settings stay within their bounds. -/
theorem reaches_inBounds {conf : Conf}
    (reached : Reaches step anything {} conf) : InBounds conf := by
  refine Reaches.invariant reached .default ?_
  rintro before ⟨limit, args⟩ after _ inBounds _ stepped
  cases stepped
  rcases limit.init_cases args before with
    ⟨value, _, same⟩ | ⟨_, same⟩ | ⟨usage, same⟩
  · exact same ▸ inBounds.put limit value.toUInt64
  · exact same ▸ inBounds
  · exact same ▸ inBounds

/-- A setting with a minimum is never below it. -/
theorem InBounds.least_le {conf : Conf} (inBounds : InBounds conf)
    (limit : Limit) {least : UInt64} (isMin : limit.bounds.min = some least) :
    least.toNat ≤ (limit.inForce conf).toNat := by
  have below := limit.bounds.min_le_clamp isMin (limit.inForce conf)
  rwa [inBounds.clamped, UInt64.le_iff_toNat_le] at below

theorem InBounds.requestLimit_pos {conf : Conf} (inBounds : InBounds conf) :
    0 < conf.requestLimit.toNat := by
  have least : 4 ≤ conf.requestLimit.toNat :=
    inBounds.least_le .requestLimit rfl
  omega

/-- What was left in `ptr` is reported as a signed number: only the verbosity
may be zero. -/
theorem InBounds.value_inForce {conf : Conf} (inBounds : InBounds conf)
    (limit : Limit) :
    limit.value (limit.inForce conf) =
      some (limit.inForce conf).toInt64 := by
  have positive (least : UInt64) (isMin : limit.bounds.min = some least)
      (notZero : 0 < least.toNat) : settingValue (limit.inForce conf) =
        some (limit.inForce conf).toInt64 := by
    have above := inBounds.least_le limit isMin
    have nonzero : limit.inForce conf ≠ 0 := by
      intro zero
      simp only [zero, UInt64.toNat_zero] at above
      omega
    simp [settingValue, nonzero]
  cases limit with
  | timeout => exact positive 300 rfl (by decide)
  | maxPoolCount => exact positive 16 rfl (by decide)
  | maxPoolSockets => exact positive 8 rfl (by decide)
  | poolSockets => exact positive 4 rfl (by decide)
  | requestLimit => exact positive 4 rfl (by decide)
  | verbose =>
      by_cases zero : conf.verbose = 0 <;>
        simp [Limit.value, Limit.inForce, capstompVerbose, zero]

end Conf

end Capstomp
