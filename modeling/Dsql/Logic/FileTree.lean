import Dsql.Logic.Fallible

/-!
# File trees

Directories and files with contents of any type.  A walk collects the files
below a directory and stops at a directory that cannot be listed.
-/

namespace Dsql

/-- A directory has the entries of its names and no others. -/
inductive FileTree (α : Type) where
  | file (content : α)
  | directory
      (listable : Bool)
      (names : List String)
      (entry : String → FileTree α)

/-- The names from the root to an entry. -/
abbrev TreePath : Type := List String

namespace FileTree

variable {α : Type}

def isDirectory : FileTree α → Bool
  | .directory .. => true
  | .file _ => false

def asFile : FileTree α → Option α
  | .file content => some content
  | .directory .. => none

def child (name : String) : FileTree α → Option (FileTree α)
  | .file _ => none
  | .directory _ names entry => if name ∈ names then some (entry name) else none

def lookup : TreePath → FileTree α → Option (FileTree α)
  | [], tree => some tree
  | name :: rest, tree => (tree.child name).bind (lookup rest)

/-- The content of the file at a path. -/
def fileAt (tree : FileTree α) (path : TreePath) : Option α :=
  (tree.lookup path).bind asFile

def isFileAt (tree : FileTree α) (path : TreePath) : Bool :=
  (tree.fileAt path).isSome

def isDirectoryAt (tree : FileTree α) (path : TreePath) : Bool :=
  (tree.lookup path).any isDirectory

/-- What an entry is, apart from the entries below it. -/
inductive Entry (α : Type) where
  | file (content : α)
  | directory (listable : Bool)

def toEntry : FileTree α → Entry α
  | .file content => .file content
  | .directory listable _ _ => .directory listable

def entryAt (tree : FileTree α) (path : TreePath) : Option (Entry α) :=
  (tree.lookup path).map toEntry

/-- The kept files below a path; directories that are not entered are left
out. -/
def walk
    (enter keep : TreePath → Bool) :
    TreePath → FileTree α → Except TreePath (List TreePath)
  | path, .file _ => .ok (if keep path then [path] else [])
  | path, .directory listable names entry =>
      if enter path then
        if listable then
          List.flatten <$>
            names.mapM (fun name =>
              walk enter keep (path ++ [name]) (entry name))
        else
          .error path
      else
        .ok []

section Lookup

theorem lookup_append (tree : FileTree α) (path rest : TreePath) :
    tree.lookup (path ++ rest) = (tree.lookup path).bind (lookup rest) := by
  induction path generalizing tree with
  | nil => rfl
  | cons name path ih =>
      rw [List.cons_append, lookup, lookup]
      cases tree.child name with
      | none => rfl
      | some tree => exact ih tree

theorem child_directory
    (listable : Bool)
    (names : List String)
    (entry : String → FileTree α)
    (name : String) :
    child name (.directory listable names entry) =
      if name ∈ names then some (entry name) else none := rfl

/-- The file at a path decides the entry there. -/
theorem fileAt_of_entryAt_eq
    {tree other : FileTree α}
    {path : TreePath}
    (h : tree.entryAt path = other.entryAt path) :
    tree.fileAt path = other.fileAt path := by
  have hentry : ∀ tree : FileTree α,
      tree.fileAt path = (tree.entryAt path).bind (fun entry =>
        match entry with
        | .file content => some content
        | .directory _ => none) := by
    intro tree
    unfold fileAt entryAt
    cases tree.lookup path with
    | none => rfl
    | some found =>
        cases found with
        | file content => rfl
        | directory listable names entry => rfl
  rw [hentry, hentry, h]

theorem fileAt_eq_some
    {tree : FileTree α}
    {path : TreePath}
    {content : α} :
    tree.fileAt path = some content ↔
      tree.lookup path = some (.file content) := by
  unfold fileAt
  cases tree.lookup path with
  | none => simp
  | some found =>
      cases found with
      | file other => simp [asFile]
      | directory listable names entry => simp [asFile]

/-- What stands above an entry is a directory. -/
theorem isDirectoryAt_of_lookup
    {tree found : FileTree α}
    {path rest : TreePath}
    (h : tree.lookup (path ++ rest) = some found)
    (hrest : rest ≠ []) :
    tree.isDirectoryAt path = true := by
  rw [lookup_append] at h
  unfold isDirectoryAt
  cases hpath : tree.lookup path with
  | none =>
      rw [hpath] at h
      cases h
  | some above =>
      rw [hpath] at h
      cases rest with
      | nil => exact absurd rfl hrest
      | cons name rest =>
          cases above with
          | file content => cases h
          | directory listable names entry => rfl

end Lookup

section Walk

variable {enter keep : TreePath → Bool}

/-- A walk finds the kept files below entered directories. -/
theorem walk_mem
    (tree : FileTree α)
    {path : TreePath}
    {files : List TreePath}
    (h : walk enter keep path tree = .ok files)
    (found : TreePath) :
    found ∈ files ↔
      keep found = true ∧ ∃ rest content, found = path ++ rest ∧
        tree.lookup rest = some (.file content) ∧
        ∀ above below, rest = above ++ below → below ≠ [] →
          enter (path ++ above) = true := by
  induction tree generalizing path files with
  | file content =>
      have hrest : ∀ rest other,
          lookup rest (.file content) = some (.file other) → rest = [] := by
        intro rest other hlookup
        cases rest with
        | nil => rfl
        | cons name rest => cases hlookup
      cases h
      constructor
      · intro hfound
        split at hfound
        · next hkeep =>
            rw [List.mem_singleton.mp hfound]
            refine ⟨hkeep, [], content, by simp, rfl, ?_⟩
            intro above below hnil hbelow
            exact absurd (List.append_eq_nil_iff.mp hnil.symm).2 hbelow
        · cases hfound
      · rintro ⟨hkeep, rest, other, rfl, hlookup, -⟩
        rw [hrest rest other hlookup, List.append_nil] at hkeep ⊢
        rw [if_pos hkeep]
        exact List.mem_singleton.mpr rfl
  | directory listable names entry ih =>
      rw [walk] at h
      have hempty : ∀ rest (content : α),
          lookup rest (.directory listable names entry) =
            some (.file content) →
          ∃ name below, rest = name :: below ∧ name ∈ names ∧
            (entry name).lookup below = some (.file content) := by
        intro rest content hlookup
        cases rest with
        | nil => cases hlookup
        | cons name below =>
            rw [lookup, child_directory] at hlookup
            split at hlookup
            · next hname => exact ⟨name, below, rfl, hname, hlookup⟩
            · cases hlookup
      split at h
      · next henter =>
          split at h
          · obtain ⟨groups, hgroups, rfl⟩ := except_map_ok h
            rw [List.mem_flatten]
            constructor
            · rintro ⟨group, hgroup, hfound⟩
              obtain ⟨name, hname, hwalk⟩ :=
                (mapM_ok_mem names hgroups group).mp hgroup
              obtain ⟨hkeep, rest, content, rfl, hlookup, habove⟩ :=
                (ih name hwalk).mp hfound
              refine ⟨hkeep, name :: rest, content, by simp, ?_, ?_⟩
              · rw [lookup, child_directory, if_pos hname]
                exact hlookup
              · intro above below hsplit hbelow
                cases above with
                | nil => rw [List.append_nil]; exact henter
                | cons first above =>
                    rw [List.cons_append, List.cons.injEq] at hsplit
                    obtain ⟨rfl, hsplit⟩ := hsplit
                    have hentered := habove above below hsplit hbelow
                    rw [List.append_assoc] at hentered
                    exact hentered
            · rintro ⟨hkeep, rest, content, rfl, hlookup, habove⟩
              obtain ⟨name, below, rfl, hname, hbelow⟩ :=
                hempty rest content hlookup
              obtain ⟨group, hwalk⟩ := mapM_ok_forall names hgroups name hname
              refine ⟨group, (mapM_ok_mem names hgroups group).mpr
                ⟨name, hname, hwalk⟩, (ih name hwalk).mpr
                ⟨hkeep, below, content, by simp, hbelow, ?_⟩⟩
              intro above later hsplit hlater
              have hentered := habove (name :: above) later
                (by rw [hsplit, List.cons_append]) hlater
              rw [List.append_assoc]
              exact hentered
          · cases h
      · next henter =>
          cases h
          constructor
          · intro hnil
            cases hnil
          · rintro ⟨-, rest, content, rfl, hlookup, habove⟩
            obtain ⟨name, below, rfl, -, -⟩ := hempty rest content hlookup
            have hentered := habove [] (name :: below) rfl (by simp)
            rw [List.append_nil] at hentered
            exact absurd hentered henter

/-- A walk succeeds when every directory that it enters can be listed. -/
theorem walk_ok_of_listable
    (tree : FileTree α)
    (path : TreePath)
    (h : ∀ rest listable names entry,
      tree.lookup rest = some (.directory listable names entry) →
      (∀ above below, rest = above ++ below →
        enter (path ++ above) = true) →
      listable = true) :
    ∃ files, walk enter keep path tree = .ok files := by
  induction tree generalizing path with
  | file content => exact ⟨_, rfl⟩
  | directory listable names entry ih =>
      rw [walk]
      by_cases henter : enter path = true
      · rw [if_pos henter]
        have hlistable : listable = true := by
          refine h [] listable names entry rfl ?_
          intro above below hnil
          rw [(List.append_eq_nil_iff.mp hnil.symm).1, List.append_nil]
          exact henter
        rw [if_pos hlistable]
        have hall : ∀ name ∈ names, ∃ files,
            walk enter keep (path ++ [name]) (entry name) = .ok files := by
          intro name hname
          refine ih name (path ++ [name]) ?_
          intro rest found others below hlookup hentered
          refine h (name :: rest) found others below ?_ ?_
          · rw [lookup, child_directory, if_pos hname]
            exact hlookup
          · intro above later hsplit
            cases above with
            | nil => rw [List.append_nil]; exact henter
            | cons first above =>
                rw [List.cons_append, List.cons.injEq] at hsplit
                obtain ⟨rfl, hsplit⟩ := hsplit
                have hlater := hentered above later hsplit
                rw [List.append_assoc] at hlater
                exact hlater
        obtain ⟨groups, hgroups⟩ := mapM_ok_of_forall names hall
        rw [hgroups]
        exact ⟨_, rfl⟩
      · rw [if_neg henter]
        exact ⟨_, rfl⟩

/-- A walk that succeeds could list every directory that it entered. -/
theorem listable_of_walk
    (tree : FileTree α)
    {path : TreePath}
    {files : List TreePath}
    (h : walk enter keep path tree = .ok files)
    {rest : TreePath}
    {listable : Bool}
    {names : List String}
    {entry : String → FileTree α}
    (hlookup : tree.lookup rest = some (.directory listable names entry))
    (hentered : ∀ above below, rest = above ++ below →
      enter (path ++ above) = true) :
    listable = true := by
  induction tree generalizing path files rest with
  | file content =>
      cases rest with
      | nil => cases hlookup
      | cons name rest => cases hlookup
  | directory found others children ih =>
      rw [walk] at h
      have henter := hentered [] rest rfl
      rw [List.append_nil] at henter
      rw [if_pos henter] at h
      split at h
      · next hfound =>
          obtain ⟨groups, hgroups, rfl⟩ := except_map_ok h
          cases rest with
          | nil =>
              cases hlookup
              exact hfound
          | cons name rest =>
              rw [lookup, child_directory] at hlookup
              split at hlookup
              · next hname =>
                  obtain ⟨group, hwalk⟩ :=
                    mapM_ok_forall others hgroups name hname
                  refine ih name hwalk hlookup ?_
                  intro above below hsplit
                  have hlater := hentered (name :: above) below
                    (by rw [hsplit, List.cons_append])
                  rw [List.append_assoc]
                  exact hlater
              · cases hlookup
      · cases h

/-- A narrower walk finds what the wider one finds outside the part that it
does not enter. -/
theorem walk_narrow
    {enter' keep' outside : TreePath → Bool}
    (henter : ∀ path, enter' path = (enter path && outside path))
    (hkeep : ∀ path, outside path = true → keep' path = keep path)
    (habove : ∀ path rest, outside (path ++ rest) = true →
      outside path = true)
    (tree : FileTree α)
    {path : TreePath}
    {files : List TreePath}
    (h : walk enter keep path tree = .ok files) :
    ∃ others, walk enter' keep' path tree = .ok others ∧
      others.filter outside = files.filter outside := by
  induction tree generalizing path files with
  | file content =>
      cases h
      refine ⟨_, rfl, ?_⟩
      cases houtside : outside path with
      | true => rw [hkeep path houtside]
      | false => split <;> split <;> simp [houtside]
  | directory listable names entry ih =>
      have hwalk := h
      rw [walk] at h ⊢
      rw [henter]
      cases hopen : enter path with
      | false =>
          rw [hopen] at h
          cases h
          exact ⟨[], rfl, rfl⟩
      | true =>
          cases houtside : outside path with
          | false =>
              refine ⟨[], rfl, ?_⟩
              symm
              rw [List.filter_nil, List.filter_eq_nil_iff]
              intro found hfound hout
              obtain ⟨-, rest, -, rfl, -, -⟩ :=
                (walk_mem _ hwalk found).mp hfound
              rw [habove path rest hout] at houtside
              cases houtside
          | true =>
              rw [hopen, if_pos rfl] at h
              rw [Bool.and_self, if_pos rfl]
              split at h
              · next hlistable =>
                  rw [if_pos hlistable]
                  obtain ⟨groups, hgroups, rfl⟩ := except_map_ok h
                  obtain ⟨others, hothers, hfilter⟩ :=
                    mapM_ok_follow names
                      (fun name _ group hgroup => ih name hgroup) hgroups
                  refine ⟨others.flatten, by rw [hothers]; rfl, ?_⟩
                  rw [List.filter_flatten, List.filter_flatten]
                  exact congrArg List.flatten hfilter
              · cases h

end Walk

end FileTree

end Dsql
