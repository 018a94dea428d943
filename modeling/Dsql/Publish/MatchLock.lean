import Mathlib.Data.List.Sort
import Mathlib.Data.List.Dedup

/-!
# The filter match lock

The canonical contents of `dsql.lock`: for every scope the filters it sees and
the tables that they match.
-/

namespace Dsql

/-- The match-lock format version that this compiler writes. -/
def filterMatchLockVersion : Nat := 1

structure LockedPolicyReference where
  scope : String
  name : String
deriving DecidableEq, Repr

structure LockedFilterMatch where
  target : String
  /-- The structural fields that caused the match, by name. -/
  fields : List (String × String)
deriving DecidableEq, Repr

structure LockedFilter where
  scope : String
  definedIn : String
  name : String
  conditions : List LockedPolicyReference
  «matches» : List LockedFilterMatch
deriving DecidableEq, Repr

structure FilterMatchLock where
  version : Nat
  filters : List LockedFilter
deriving DecidableEq, Repr

namespace FilterMatchLock

def empty : FilterMatchLock := ⟨filterMatchLockVersion, []⟩

def isEmpty (lock : FilterMatchLock) : Bool :=
  lock.filters.isEmpty

def filterLines (filter : LockedFilter) : List String :=
  filter.«matches».map (fun matched =>
    filter.scope ++ " <- " ++ filter.definedIn ++ "::" ++ filter.name ++
      ": " ++ matched.target ++ " [" ++
      String.intercalate ","
        (matched.fields.map (fun field => field.1 ++ ":" ++ field.2)) ++
      "] conditions [" ++
      String.intercalate ","
        (filter.conditions.map (fun condition =>
          condition.scope ++ "::" ++ condition.name)) ++
      "]")

/-- Sorted semantic lines, as stale-lock reports list them. -/
def semanticLines (lock : FilterMatchLock) : List String :=
  ((lock.filters.flatMap filterLines).dedup).insertionSort (· ≤ ·)

end FilterMatchLock

/-- The report of a stale lock: `detail`, what goes and what comes. -/
def staleMatchLockMessage
    (current : Option FilterMatchLock)
    (desired : FilterMatchLock)
    (detail : String) : String :=
  let difference :=
    match current with
    | some current =>
        (if current.version = desired.version then
            []
          else
            ["- version " ++ toString current.version,
              "+ version " ++ toString desired.version]) ++
          (current.semanticLines.filter (fun line =>
            !desired.semanticLines.contains line)).map ("- " ++ ·) ++
          (desired.semanticLines.filter (fun line =>
            !current.semanticLines.contains line)).map ("+ " ++ ·)
    | none => desired.semanticLines.map ("+ " ++ ·)
  String.intercalate "\n"
    ([detail] ++ difference ++
      ["run `dsql lock` to review and accept the current matches"])

/-- Native match-lock behavior that a writer selects. -/
inductive MatchLockMode where
  | update
  | locked
deriving DecidableEq, Repr

/-- The result of reconciling the lock; an absent lock has no hash. -/
structure MatchLockStatus where
  changed : Bool
  contentHash : Option String
deriving DecidableEq, Repr

end Dsql
