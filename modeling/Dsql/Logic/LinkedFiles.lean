import Dsql.Logic.FileStore
import Mathlib.Tactic

/-!
# File systems with symbolic links

A file system maps locations to files, directories and symbolic links.  A
location is the list of names below the root; every entry lies in a directory.
A symbolic link holds the path it denotes, counted from the root.  A path is
resolved name by name, and a link on the way restarts at its target; a system
follows only so many links.
-/

namespace Dsql

abbrev Location : Type := List String

namespace LinkedFiles

inductive Entry (B : Type) where
  | file (content : B)
  | directory
  | link (target : Location)

variable {B : Type}

def isDirectory : Option (Entry B) → Bool
  | some .directory => true
  | _ => false

def asFile : Option (Entry B) → Option B
  | some (.file content) => some content
  | _ => none

def asLink : Option (Entry B) → Option Location
  | some (.link target) => some target
  | _ => none

/-- The entry at a location; the root is a directory. -/
def entryIn
    (store : FileStore Location (Entry B)) : Location → Option (Entry B)
  | [] => some .directory
  | name :: names => store.read (name :: names)

@[simp] theorem entryIn_nil (store : FileStore Location (Entry B)) :
    entryIn store [] = some .directory := rfl

theorem entryIn_of_ne_nil
    (store : FileStore Location (Entry B))
    {location : Location}
    (h : location ≠ []) :
    entryIn store location = store.read location := by
  cases location with
  | nil => exact absurd rfl h
  | cons name names => rfl

theorem isDirectory_iff (entry : Option (Entry B)) :
    isDirectory entry = true ↔ entry = some .directory := by
  constructor
  · intro h
    match entry, h with
    | some .directory, _ => rfl
  · rintro rfl
    rfl

theorem asLink_eq_some {entry : Option (Entry B)} {target : Location} :
    asLink entry = some target ↔ entry = some (.link target) := by
  constructor
  · intro h
    match entry, h with
    | some (.link _), rfl => rfl
  · rintro rfl
    rfl

end LinkedFiles

open LinkedFiles in
/-- Every entry lies in a directory. -/
structure LinkedFiles (B : Type) where
  store : FileStore Location (Entry B)
  nested : ∀ location, location ≠ [] →
    (entryIn store location).isSome = true →
      isDirectory (entryIn store location.dropLast) = true

namespace LinkedFiles

variable {B : Type}

def entryAt (files : LinkedFiles B) (location : Location) : Option (Entry B) :=
  entryIn files.store location

def directoryAt (files : LinkedFiles B) (location : Location) : Bool :=
  isDirectory (files.entryAt location)

def linkAt (files : LinkedFiles B) (location : Location) : Option Location :=
  asLink (files.entryAt location)

def fileAt (files : LinkedFiles B) (location : Location) : Option B :=
  asFile (files.entryAt location)

/-- The entry at a location unless it is a directory. -/
def leafAt (files : LinkedFiles B) (location : Location) : Option (Entry B) :=
  if files.directoryAt location then none else files.entryAt location

@[simp] theorem entryAt_nil (files : LinkedFiles B) :
    files.entryAt [] = some .directory := rfl

@[simp] theorem directoryAt_nil (files : LinkedFiles B) :
    files.directoryAt [] = true := rfl

theorem directoryAt_iff (files : LinkedFiles B) (location : Location) :
    files.directoryAt location = true ↔
      files.entryAt location = some .directory :=
  isDirectory_iff _

theorem linkAt_eq_some
    {files : LinkedFiles B}
    {location target : Location} :
    files.linkAt location = some target ↔
      files.entryAt location = some (.link target) :=
  asLink_eq_some

/-- Files and links are leaves. -/
theorem leafAt_eq_some
    {files : LinkedFiles B}
    {location : Location}
    {entry : Entry B} :
    files.leafAt location = some entry ↔
      files.entryAt location = some entry ∧ entry ≠ .directory := by
  unfold leafAt
  by_cases hdirectory : files.directoryAt location = true
  · rw [if_pos hdirectory]
    rw [directoryAt_iff] at hdirectory
    rw [hdirectory]
    constructor
    · intro h
      cases h
    · rintro ⟨hentry, hne⟩
      exact absurd (Option.some.inj hentry).symm hne
  · rw [if_neg hdirectory]
    constructor
    · intro hentry
      refine ⟨hentry, ?_⟩
      rintro rfl
      exact hdirectory ((directoryAt_iff files location).mpr hentry)
    · exact fun h => h.1

/-- Leaves and links depend on the entry alone. -/
theorem leafAt_congr
    {files other : LinkedFiles B}
    {location place : Location}
    (h : files.entryAt location = other.entryAt place) :
    files.leafAt location = other.leafAt place := by
  unfold leafAt directoryAt
  rw [h]

theorem leafAt_of_directory
    {files : LinkedFiles B}
    {location : Location}
    (h : files.directoryAt location = true) :
    files.leafAt location = none :=
  if_pos h

theorem leafAt_of_none
    {files : LinkedFiles B}
    {location : Location}
    (h : files.entryAt location = none) :
    files.leafAt location = none := by
  simp [leafAt, h]

theorem leafAt_file
    {files : LinkedFiles B}
    {location : Location}
    {content : B}
    (h : files.entryAt location = some (.file content)) :
    files.leafAt location = some (.file content) :=
  leafAt_eq_some.mpr ⟨h, nofun⟩

theorem linkAt_eq_leafAt (files : LinkedFiles B) (location : Location) :
    files.linkAt location = asLink (files.leafAt location) := by
  unfold linkAt leafAt
  split
  · rename_i hdirectory
    rw [(directoryAt_iff _ _).mp hdirectory]
    rfl
  · rfl

/-- A directory lies around every entry. -/
theorem directoryAt_of_prefix
    (files : LinkedFiles B)
    (outer inner : Location)
    (hinner : inner ≠ [])
    (h : (files.entryAt (outer ++ inner)).isSome = true) :
    files.directoryAt outer = true := by
  induction inner using List.reverseRecOn with
  | nil => exact absurd rfl hinner
  | append_singleton inner name ih =>
      have hparent := files.nested (outer ++ (inner ++ [name]))
        (by simp) h
      rw [← List.append_assoc, List.dropLast_concat] at hparent
      by_cases hempty : inner = []
      · rw [hempty, List.append_nil] at hparent
        exact hparent
      · apply ih hempty
        have hentry := (isDirectory_iff _).mp hparent
        unfold entryAt
        rw [hentry]
        rfl

/-! ## Resolution -/

/-- How far a path leads without following a link. -/
inductive Arrival where
  | arrived (location : Location)
  | redirected (target : Location) (rest : List String)
  | blocked

/-- A path advances through directories.  Only its last name may be missing
or name a file. -/
def advance (files : LinkedFiles B) : Location → List String → Arrival
  | here, [] => .arrived here
  | here, name :: rest =>
      match files.entryAt (here ++ [name]) with
      | some .directory => advance files (here ++ [name]) rest
      | some (.link target) => .redirected target rest
      | some (.file _) =>
          if rest = [] then .arrived (here ++ [name]) else .blocked
      | none => if rest = [] then .arrived (here ++ [name]) else .blocked

/-- The location that a path names, if all but its last name exist.  `limit`
is the number of links the system still follows. -/
def resolve
    (files : LinkedFiles B)
    (limit : Nat)
    (here : Location)
    (path : List String) : Option Location :=
  match files.advance here path, limit with
  | .arrived location, _ => some location
  | .redirected target rest, limit + 1 =>
      files.resolve limit [] (target ++ rest)
  | _, _ => none

/-- The entry a path names, with its location. -/
def stat
    (files : LinkedFiles B)
    (limit : Nat)
    (path : List String) : Option (Location × Entry B) :=
  (files.resolve limit [] path).bind (fun location =>
    (files.entryAt location).map (fun entry => (location, entry)))

/-- The entry a path names, where a link in its last name is not followed. -/
def lstat
    (files : LinkedFiles B)
    (limit : Nat)
    (path : List String) : Option (Location × Entry B) :=
  match path.getLast? with
  | none => some ([], .directory)
  | some name =>
      (files.resolve limit [] path.dropLast).bind (fun parent =>
        if files.directoryAt parent then
          (files.entryAt (parent ++ [name])).map (fun entry =>
            (parent ++ [name], entry))
        else
          none)

/-- The names in a directory. -/
def children (files : LinkedFiles B) (location : Location) : List String :=
  (files.store.paths.filterMap (fun path =>
    if path.dropLast = location then path.getLast? else none)).dedup

/-- The children of a location are the names that exist in it. -/
theorem mem_children_iff
    (files : LinkedFiles B)
    (location : Location)
    (name : String) :
    name ∈ files.children location ↔
      (files.entryAt (location ++ [name])).isSome = true := by
  unfold children entryAt
  rw [List.mem_dedup, entryIn_of_ne_nil _ (by simp), List.mem_filterMap,
    ← FileStore.mem_paths_iff]
  constructor
  · rintro ⟨path, hpath, hname⟩
    by_cases hparent : path.dropLast = location
    · rw [if_pos hparent] at hname
      obtain ⟨front, rfl⟩ := List.getLast?_eq_some_iff.mp hname
      rw [List.dropLast_concat] at hparent
      rw [← hparent]
      exact hpath
    · rw [if_neg hparent] at hname
      cases hname
  · intro hpath
    refine ⟨location ++ [name], hpath, ?_⟩
    rw [if_pos List.dropLast_concat, List.getLast?_concat]

theorem children_nodup (files : LinkedFiles B) (location : Location) :
    (files.children location).Nodup :=
  List.nodup_dedup _

/-! ## Changing entries -/

/-- Exactly one entry of the second file system differs from the first. -/
def Changed
    (before : LinkedFiles B)
    (location : Location)
    (entry : Option (Entry B))
    (after : LinkedFiles B) : Prop :=
  ∀ other, after.entryAt other =
    if other = location then entry else before.entryAt other

/-- Writing changes one entry. -/
theorem entryIn_write
    (store : FileStore Location (Entry B))
    {location : Location}
    (hlocation : location ≠ [])
    (entry : Entry B)
    (other : Location) :
    entryIn (store.write location entry) other =
      if other = location then some entry else entryIn store other := by
  by_cases hother : other = location
  · subst hother
    rw [if_pos rfl, entryIn_of_ne_nil _ hlocation, FileStore.read_write_self]
  · rw [if_neg hother]
    cases other with
    | nil => rfl
    | cons name names => exact FileStore.read_write_of_ne store entry hother

/-- Removing changes one entry. -/
theorem entryIn_remove
    (store : FileStore Location (Entry B))
    {location : Location}
    (hlocation : location ≠ [])
    (other : Location) :
    entryIn (store.remove location) other =
      if other = location then none else entryIn store other := by
  by_cases hother : other = location
  · subst hother
    rw [if_pos rfl, entryIn_of_ne_nil _ hlocation, FileStore.read_remove_self]
  · rw [if_neg hother]
    cases other with
    | nil => rfl
    | cons name names => exact FileStore.read_remove_of_ne store hother

/-- An entry may be written where its parent is a directory. -/
theorem nested_write
    (files : LinkedFiles B)
    {location : Location}
    (hlocation : location ≠ [])
    (entry : Entry B)
    (hparent : files.directoryAt location.dropLast = true)
    (hkind : files.directoryAt location = true → entry = .directory)
    (other : Location)
    (hother : other ≠ [])
    (h : (entryIn (files.store.write location entry) other).isSome = true) :
    isDirectory (entryIn (files.store.write location entry) other.dropLast) =
      true := by
  have hbefore : files.directoryAt other.dropLast = true := by
    rw [entryIn_write _ hlocation] at h
    by_cases hsame : other = location
    · rw [hsame]
      exact hparent
    · rw [if_neg hsame] at h
      exact files.nested other hother h
  rw [entryIn_write _ hlocation]
  by_cases hsame : other.dropLast = location
  · rw [if_pos hsame, hkind (hsame ▸ hbefore)]
    rfl
  · rw [if_neg hsame]
    exact hbefore

/-- A location without children may be removed. -/
theorem nested_remove
    (files : LinkedFiles B)
    {location : Location}
    (hlocation : location ≠ [])
    (hempty : files.children location = [])
    (other : Location)
    (hother : other ≠ [])
    (h : (entryIn (files.store.remove location) other).isSome = true) :
    isDirectory (entryIn (files.store.remove location) other.dropLast) =
      true := by
  rw [entryIn_remove _ hlocation] at h ⊢
  by_cases hself : other = location
  · rw [if_pos hself] at h
    cases h
  · rw [if_neg hself] at h
    by_cases hsame : other.dropLast = location
    · have hname : other.getLast hother ∈ files.children location := by
        rw [mem_children_iff, ← hsame, List.dropLast_append_getLast]
        exact h
      rw [hempty] at hname
      cases hname
    · rw [if_neg hsame]
      exact files.nested other hother h

/-- A store is nested if the entries it lists are. -/
theorem nested_of_entries
    (store : FileStore Location (Entry B))
    (h : ∀ entry ∈ store.entries,
      isDirectory (entryIn store entry.1.dropLast) = true)
    (location : Location)
    (hlocation : location ≠ [])
    (hentry : (entryIn store location).isSome = true) :
    isDirectory (entryIn store location.dropLast) = true := by
  rw [entryIn_of_ne_nil _ hlocation, ← FileStore.mem_paths_iff] at hentry
  obtain ⟨entry, hmem, rfl⟩ := List.mem_map.mp hentry
  exact h entry hmem

/-- An entry put into a directory. -/
def place
    (files : LinkedFiles B)
    (location : Location)
    (entry : Entry B)
    (hlocation : location ≠ [])
    (hparent : files.directoryAt location.dropLast = true)
    (hkind : files.directoryAt location = true → entry = .directory) :
    LinkedFiles B :=
  ⟨files.store.write location entry,
    files.nested_write hlocation entry hparent hkind⟩

/-- An entry with nothing below it taken away. -/
def erase
    (files : LinkedFiles B)
    (location : Location)
    (hlocation : location ≠ [])
    (hempty : files.children location = []) : LinkedFiles B :=
  ⟨files.store.remove location, files.nested_remove hlocation hempty⟩

/-- Placing an entry changes that location alone. -/
theorem changed_place
    (files : LinkedFiles B)
    {location : Location}
    {entry : Entry B}
    (hlocation : location ≠ [])
    (hparent : files.directoryAt location.dropLast = true)
    (hkind : files.directoryAt location = true → entry = .directory) :
    Changed files location (some entry)
      (files.place location entry hlocation hparent hkind) :=
  entryIn_write files.store hlocation entry

/-- Erasing an entry changes that location alone. -/
theorem changed_erase
    (files : LinkedFiles B)
    {location : Location}
    (hlocation : location ≠ [])
    (hempty : files.children location = []) :
    Changed files location none (files.erase location hlocation hempty) :=
  entryIn_remove files.store hlocation

/-- Only directories have children. -/
theorem children_eq_nil
    (files : LinkedFiles B)
    {location : Location}
    (h : files.directoryAt location = false) :
    files.children location = [] := by
  rw [List.eq_nil_iff_forall_not_mem]
  intro name hname
  rw [mem_children_iff] at hname
  have hdirectory := files.directoryAt_of_prefix location [name] (by simp) hname
  rw [h] at hdirectory
  cases hdirectory

theorem ne_nil_of_not_directory
    (files : LinkedFiles B)
    {location : Location}
    (h : files.directoryAt location = false) :
    location ≠ [] := by
  rintro rfl
  cases h

/-- A directory is replaced by no leaf. -/
theorem directory_only
    (files : LinkedFiles B)
    {location : Location}
    (h : files.directoryAt location = false)
    (entry : Entry B)
    (hdirectory : files.directoryAt location = true) :
    entry = .directory := by
  rw [h] at hdirectory
  cases hdirectory

/-- The file a path names gets a content; a missing file is created. -/
def writeFile
    (limit : Nat)
    (path : List String)
    (content : B)
    (files : LinkedFiles B) : Option (LinkedFiles B) :=
  match files.resolve limit [] path with
  | none => none
  | some location =>
      if hparent : files.directoryAt location.dropLast = true then
        if hkind : files.directoryAt location = false then
          some (files.place location (.file content)
            (files.ne_nil_of_not_directory hkind) hparent
            (files.directory_only hkind _))
        else
          none
      else
        none

/-- The location where a path would create an entry. -/
def parentOf
    (files : LinkedFiles B)
    (limit : Nat)
    (path : List String) : Option Location :=
  match path.getLast? with
  | none => none
  | some name =>
      (files.resolve limit [] path.dropLast).map (fun parent =>
        parent ++ [name])

/-- A missing directory is created in its parent. -/
def makeDirectory
    (limit : Nat)
    (path : List String)
    (files : LinkedFiles B) : Option (LinkedFiles B) :=
  match files.parentOf limit path with
  | none => none
  | some location =>
      if hparent : files.directoryAt location.dropLast = true then
        if (files.entryAt location).isSome then
          none
        else if hlocation : location ≠ [] then
          some (files.place location .directory hlocation hparent
            (fun _ => rfl))
        else
          none
      else
        none

/-- The names in the directory a path leads to, and which are directories. -/
def readDirectory
    (limit : Nat)
    (path : List String)
    (files : LinkedFiles B) : Option (List (String × Bool)) :=
  match files.stat limit path with
  | some (location, .directory) =>
      some ((files.children location).map (fun name =>
        (name, files.directoryAt (location ++ [name]))))
  | _ => none

/-- A file or link is removed; the link itself, not what it denotes. -/
def removeFile
    (limit : Nat)
    (path : List String)
    (files : LinkedFiles B) : Option (LinkedFiles B) :=
  match files.lstat limit path with
  | none => none
  | some (location, _) =>
      if hkind : files.directoryAt location = false then
        some (files.erase location (files.ne_nil_of_not_directory hkind)
          (files.children_eq_nil hkind))
      else
        none

/-- An empty directory is removed. -/
def removeDirectory
    (limit : Nat)
    (path : List String)
    (files : LinkedFiles B) : Option (LinkedFiles B) :=
  match files.lstat limit path with
  | some (location, .directory) =>
      if hempty : location ≠ [] ∧ files.children location = [] then
        some (files.erase location hempty.1 hempty.2)
      else
        none
  | _ => none

end LinkedFiles

end Dsql
