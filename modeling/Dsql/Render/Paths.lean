import Dsql.Logic.LinkedFiles
import Mathlib.Data.List.DropRight

/-!
# Paths of a render map

Owned roots and desired files are named by text relative to the project base.
A path is accepted when its parts are plain names, and then names one place
below the base.
-/

namespace Dsql
namespace Render

/-- Why a render map is not written. -/
inductive Failure where
  | notPlain (role path : String)
  | outsideRoots (path : String)
  | rootNotDirectory (root : Location)
  | disk
  | tooDeep
deriving DecidableEq, Repr

/-- Whether the paths themselves were refused. -/
def Failure.isInvalidPath : Failure → Bool
  | .notPlain .. | .outsideRoots _ => true
  | .rootNotDirectory _ | .disk | .tooDeep => false

/-- One backslash is one slash, slashes at the end are dropped, and then one
`./` at the start. -/
def normalizeRelative (path : List Char) : List Char :=
  let slashes := path.map (fun c => if c = '\\' then '/' else c)
  match slashes.rdropWhile (· == '/') with
  | '.' :: '/' :: rest => rest
  | trimmed => trimmed

/-- The parts of a path between its slashes. -/
def segments (path : List Char) : List String :=
  (path.splitOn '/').map String.ofList

def isPlain (segment : String) : Bool :=
  segment != "" && segment != "." && segment != ".."

def isAbsolute (path : List Char) : Bool :=
  path.head? == some '/'

def namesDrive : List Char → Bool
  | letter :: ':' :: _ => letter.isAlpha
  | _ => false

def assertProjectRelativePath
    (role : String)
    (path : List Char) : Except Failure (List Char) :=
  let normalized := normalizeRelative path
  if normalized.isEmpty || isAbsolute path || namesDrive path ||
      !(segments normalized).all isPlain then
    .error (.notPlain role (String.ofList path))
  else
    .ok normalized

def isUnderAny (path : List Char) (roots : List (List Char)) : Bool :=
  let normalized := normalizeRelative path
  roots.any (fun root =>
    normalized == root || (root ++ ['/']).isPrefixOf normalized)

theorem normalizeRelative_no_backslash (path : List Char) :
    '\\' ∉ normalizeRelative path := by
  have hslashes : '\\' ∉
      (path.map (fun c => if c = '\\' then '/' else c)).rdropWhile
        (· == '/') := by
    intro hmem
    have hmap := (List.rdropWhile_prefix _ _).subset hmem
    obtain ⟨c, -, hc⟩ := List.mem_map.mp hmap
    split at hc
    · cases hc
    · contradiction
  unfold normalizeRelative
  dsimp only
  split
  · rename_i rest hrest
    intro hmem
    rw [hrest] at hslashes
    exact hslashes (List.mem_cons_of_mem _ (List.mem_cons_of_mem _ hmem))
  · exact hslashes

/-- A path whose parts are plain names is in normal form. -/
theorem normalizeRelative_of_plain
    {path : List Char}
    (hbackslash : '\\' ∉ path)
    (hplain : (segments path).all isPlain = true) :
    normalizeRelative path = path := by
  have hmap : path.map (fun c => if c = '\\' then '/' else c) = path := by
    conv_rhs => rw [← List.map_id path]
    refine List.map_congr_left (fun c hc => ?_)
    rw [if_neg]
    · rfl
    · rintro rfl
      exact hbackslash hc
  have htrim : path.rdropWhile (· == '/') = path := by
    rw [List.rdropWhile_eq_self_iff]
    intro hne hlast
    have hlast := eq_of_beq hlast
    rw [← List.dropLast_append_getLast hne, hlast, segments,
      List.splitOn_append_cons_self] at hplain
    simp [isPlain] at hplain
  unfold normalizeRelative
  dsimp only
  rw [hmap, htrim]
  split
  · rename_i rest
    have hdot : ['.'].splitOn '/' = [['.']] := by decide
    rw [segments, show '.' :: '/' :: rest = ['.'] ++ '/' :: rest from rfl,
      List.splitOn_append_cons_self, hdot] at hplain
    simp [isPlain] at hplain
  · rfl

/-- An accepted path is its own normal form. -/
theorem assertProjectRelativePath_ok
    {role : String}
    {path normalized : List Char}
    (h : assertProjectRelativePath role path = .ok normalized) :
    normalizeRelative normalized = normalized := by
  unfold assertProjectRelativePath at h
  dsimp only at h
  split at h
  · cases h
  · rename_i hrejected
    cases h
    simp only [Bool.or_eq_true, Bool.not_eq_true', not_or,
      Bool.not_eq_false] at hrejected
    exact normalizeRelative_of_plain (normalizeRelative_no_backslash path)
      hrejected.2

/-- An accepted path below a root begins with the names of that root. -/
theorem segments_of_isUnderAny
    {path : List Char}
    {roots : List (List Char)}
    (hnormal : normalizeRelative path = path)
    (h : isUnderAny path roots = true) :
    ∃ root ∈ roots, segments root <+: segments path := by
  unfold isUnderAny at h
  rw [hnormal] at h
  obtain ⟨root, hroot, hunder⟩ := List.any_eq_true.mp h
  refine ⟨root, hroot, ?_⟩
  rcases Bool.or_eq_true_iff.mp hunder with hsame | hprefix
  · rw [eq_of_beq hsame]
  · obtain ⟨rest, hrest⟩ := List.isPrefixOf_iff_prefix.mp hprefix
    refine ⟨(rest.splitOn '/').map String.ofList, ?_⟩
    rw [← hrest, segments, segments, List.append_assoc, List.singleton_append,
      List.splitOn_append_cons_self, List.map_append]

end Render
end Dsql
