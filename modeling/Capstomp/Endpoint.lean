import Mathlib.Tactic.MkIffOfInductiveProp
import Capstomp.General.Delimited
import Capstomp.Stomp

/-!
# The name of a pool in the store

`endpoint` of `store.cpp` puts the login, the address, the path and the
fragment of a URI into one text.  Given what the parser of URIs promises of
these parts, they can be read off it again.
-/

namespace Capstomp

open General

/-- `capst::endpoint`. -/
def endpoint (u : Uri) : String :=
  u.login ++ "@" ++ u.addrPort ++ u.path ++ "#" ++ u.fragment

/-- What `btpro::uri` promises; the route of a path is a function of it. -/
@[mk_iff]
structure WellParsed (route : String → String) (u : Uri) : Prop where
  login : ∀ char ∈ u.login.toList, char ≠ '@'
  addrPort : ∀ char ∈ u.addrPort.toList,
    char ≠ '/' ∧ char ≠ '#' ∧ char ≠ '@'
  path : ∀ char ∈ u.path.toList.head?, char = '/'
  pathInside : ∀ char ∈ u.path.toList, char ≠ '#'
  rpath : u.rpath = route u.path

instance (route : String → String) (u : Uri) : Decidable (WellParsed route u) :=
  decidable_of_iff
    (u.login.toList.all (· ≠ '@') ∧
      u.addrPort.toList.all (fun char => char ≠ '/' ∧ char ≠ '#' ∧ char ≠ '@') ∧
      u.path.toList.head?.all (· = '/') ∧ u.path.toList.all (· ≠ '#') ∧
      u.rpath = route u.path)
    (by simp [wellParsed_iff, Option.all_eq_true])

/-- The parts of a URI that lead to a pool. -/
structure SameEndpoint (u other : Uri) : Prop where
  login : u.login = other.login
  addrPort : u.addrPort = other.addrPort
  path : u.path = other.path
  rpath : u.rpath = other.rpath
  fragment : u.fragment = other.fragment

theorem endpoint_inj {route : String → String} {u other : Uri}
    (parsed : WellParsed route u) (otherParsed : WellParsed route other)
    (same : endpoint u = endpoint other) : SameEndpoint u other := by
  have texts := congrArg String.toList same
  simp only [endpoint, String.toList_append, List.append_assoc] at texts
  -- The login ends at the '@'.
  obtain ⟨login, texts⟩ := delimited_inj (p := (· ≠ '@'))
    (by simpa using parsed.login) (by simp) (by simpa using otherParsed.login)
    (by simp) texts
  have texts := List.append_cancel_left texts
  -- The address ends where the path begins, or at the '#'.
  have stops {v : Uri} (isParsed : WellParsed route v) : ∀ char,
      (v.path.toList ++ ("#".toList ++ v.fragment.toList)).head? =
        some char → decide (char ≠ '/' ∧ char ≠ '#') = false := by
    intro char isHead
    cases path : v.path.toList with
    | nil =>
        have sharp : '#' = char := by simpa [path] using isHead
        simp [← sharp]
    | cons first rest =>
        have slash := isParsed.path first (by simp [path])
        have same : first = char := by simpa [path] using isHead
        simp [← same, slash]
  have inside {v : Uri} (isParsed : WellParsed route v) :
      ∀ char ∈ v.addrPort.toList, decide (char ≠ '/' ∧ char ≠ '#') = true := by
    intro char member
    have kept := isParsed.addrPort char member
    simp [kept.1, kept.2.1]
  obtain ⟨addrPort, texts⟩ := delimited_inj (inside parsed) (stops parsed)
    (inside otherParsed) (stops otherParsed) texts
  -- The path ends at the '#'.
  obtain ⟨path, texts⟩ := delimited_inj (p := (· ≠ '#'))
    (by simpa using parsed.pathInside) (by simp)
    (by simpa using otherParsed.pathInside) (by simp) texts
  have fragment := List.append_cancel_left texts
  have samePath := String.toList_injective path
  exact ⟨String.toList_injective login, String.toList_injective addrPort,
    samePath, by rw [parsed.rpath, otherParsed.rpath, samePath],
    String.toList_injective fragment⟩

end Capstomp
