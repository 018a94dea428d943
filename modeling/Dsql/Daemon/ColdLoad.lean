import Dsql.Daemon.Ownership
import Mathlib.Data.List.TakeWhile

/-!
# What a full load finds

The documents of a load are exactly the sources of the disk, each of them once.
A load fails only at a directory that cannot be listed, a file that is no text
or a file of two groups.
-/

namespace Dsql

namespace Daemon

section Walk

variable {disk : Disk} {reserved : List FilePath} {keep : FilePath → Bool}

/-- The directories that a walk lists are not reserved. -/
def enters (reserved : List FilePath) (path : TreePath) : Bool :=
  !isReservedPath reserved path

theorem not_reserved_of_append
    {path rest : FilePath}
    (h : isReservedPath reserved (path ++ rest) = false) :
    enters reserved path = true := by
  unfold enters
  cases hpath : isReservedPath reserved path with
  | false => rfl
  | true => rw [isReservedPath_append rest hpath] at h; cases h

/-- A walk keeps every kept file that is not reserved. -/
theorem walk_mem_of_file
    {start found : TreePath}
    {tree : FileTree FileContent}
    {files : List TreePath}
    (hstart : disk.tree.lookup start = some tree)
    (h : FileTree.walk (enters reserved) keep start tree = .ok files)
    (hkeep : keep found = true)
    (hstarts : start <+: found)
    (hfile : disk.tree.isFileAt found = true)
    (hreserved : isReservedPath reserved found = false) :
    found ∈ files := by
  obtain ⟨rest, rfl⟩ := hstarts
  obtain ⟨content, hcontent⟩ := Option.isSome_iff_exists.mp hfile
  rw [FileTree.fileAt_eq_some, FileTree.lookup_append, hstart] at hcontent
  refine (FileTree.walk_mem tree h (start ++ rest)).mpr
    ⟨hkeep, rest, content, rfl, hcontent, ?_⟩
  rintro above below rfl -
  rw [← List.append_assoc] at hreserved
  exact not_reserved_of_append hreserved

theorem file_of_walk_mem
    {start found : TreePath}
    {tree : FileTree FileContent}
    {files : List TreePath}
    (hstart : disk.tree.lookup start = some tree)
    (h : FileTree.walk (enters reserved) keep start tree = .ok files)
    (hfound : found ∈ files) :
    keep found = true ∧ start <+: found ∧
      disk.tree.isFileAt found = true := by
  obtain ⟨hkeep, rest, content, rfl, hcontent, -⟩ :=
    (FileTree.walk_mem tree h found).mp hfound
  refine ⟨hkeep, List.prefix_append .., ?_⟩
  unfold FileTree.isFileAt
  rw [Option.isSome_iff_exists]
  refine ⟨content, FileTree.fileAt_eq_some.mpr ?_⟩
  rw [FileTree.lookup_append, hstart]
  exact hcontent

/-- A walk went through every directory above a file that it found. -/
theorem entered_of_walk_mem
    {start found : TreePath}
    {tree : FileTree FileContent}
    {files : List TreePath}
    (h : FileTree.walk (enters reserved) keep start tree = .ok files)
    (hfound : found ∈ files)
    {above : TreePath}
    (hstart : start <+: above)
    (habove : above <+: found)
    (hne : above ≠ found) :
    isReservedPath reserved above = false := by
  obtain ⟨-, rest, content, rfl, -, hentered⟩ :=
    (FileTree.walk_mem tree h found).mp hfound
  obtain ⟨between, rfl⟩ := hstart
  obtain ⟨below, hbelow⟩ := habove
  rw [List.append_assoc, List.append_cancel_left_eq] at hbelow
  have henter := hentered between below hbelow.symm (by
    rintro rfl
    rw [List.append_nil] at hbelow
    exact hne (by rw [hbelow]))
  unfold enters at henter
  rwa [Bool.not_eq_true'] at henter

/-- Every directory below a path that may be entered can be listed. -/
def Listable
    (disk : Disk)
    (reserved : List FilePath)
    (start : TreePath) : Prop :=
  ∀ path listable names entry,
    disk.tree.lookup path = some (.directory listable names entry) →
    start <+: path → isReservedPath reserved path = false →
    listable = true

theorem walk_ok
    {start : TreePath}
    {tree : FileTree FileContent}
    (hstart : disk.tree.lookup start = some tree)
    (h : Listable disk reserved start) :
    ∃ files, FileTree.walk (enters reserved) keep start tree = .ok files := by
  refine FileTree.walk_ok_of_listable tree start ?_
  intro rest listable names entry hlookup hentered
  refine h (start ++ rest) listable names entry ?_ (List.prefix_append ..) ?_
  · rw [FileTree.lookup_append, hstart]
    exact hlookup
  · have hlast := hentered rest [] (by rw [List.append_nil])
    unfold enters at hlast
    rwa [Bool.not_eq_true'] at hlast

theorem listable_of_walk
    {start : TreePath}
    {tree : FileTree FileContent}
    {files : List TreePath}
    (hstart : disk.tree.lookup start = some tree)
    (h : FileTree.walk (enters reserved) keep start tree = .ok files) :
    Listable disk reserved start := by
  rintro path listable names entry hlookup ⟨rest, rfl⟩ hreserved
  rw [FileTree.lookup_append, hstart] at hlookup
  refine FileTree.listable_of_walk tree h hlookup ?_
  rintro above below rfl
  rw [← List.append_assoc] at hreserved
  exact not_reserved_of_append hreserved

end Walk

/-! ## Configured paths -/

section ConfiguredPaths

variable {glob : GlobLibrary} {disk : Disk} {reserved : List FilePath}

theorem lookup_isSome_of_prefix
    {path found : TreePath}
    (hstarts : path <+: found)
    (hfile : disk.tree.isFileAt found = true) :
    ∃ tree, disk.tree.lookup path = some tree := by
  obtain ⟨rest, rfl⟩ := hstarts
  obtain ⟨content, hcontent⟩ := Option.isSome_iff_exists.mp hfile
  rw [FileTree.fileAt_eq_some, FileTree.lookup_append] at hcontent
  cases htree : disk.tree.lookup path with
  | none => rw [htree] at hcontent; cases hcontent
  | some tree => exact ⟨tree, rfl⟩

/-- Nothing stands below a file. -/
theorem eq_of_prefix_of_file
    {path found : TreePath}
    {content : FileContent}
    (hpath : disk.tree.lookup path = some (.file content))
    (hstarts : path <+: found)
    {tree : FileTree FileContent}
    (hfound : disk.tree.lookup found = some tree) :
    found = path := by
  obtain ⟨rest, rfl⟩ := hstarts
  rw [FileTree.lookup_append, hpath] at hfound
  cases rest with
  | nil => rw [List.append_nil]
  | cons name rest => cases hfound

theorem named_of_file
    {path : TreePath}
    (h : disk.tree.isFileAt path = true) : Named path := by
  obtain ⟨tree, htree⟩ := lookup_isSome_of_prefix (List.prefix_refl path) h
  exact disk.named path tree htree

theorem readError_ok
    {α : Type}
    {result : Except TreePath α}
    {value : α}
    (h : readError result = .ok value) : result = .ok value := by
  cases result with
  | error path => cases h
  | ok found => cases h; rfl

theorem staticPrefix_literal
    {path : FilePath}
    (h : isPattern path = false) :
    staticPrefix path = components path := by
  unfold staticPrefix
  refine List.takeWhile_eq_self_iff.mpr ?_
  intro segment hs
  unfold isPattern at h
  rw [List.any_eq_false] at h
  simpa using h segment (List.mem_filter.mp hs).1

theorem named_staticPrefix
    {path : FilePath}
    (h : SpelledPlainly disk path) : Named (staticPrefix path) := by
  intro segment hs
  exact named_components h.noParent segment
    ((List.takeWhile_prefix _).subset hs)

theorem listedPath_components
    {path : FilePath}
    (hnamed : Named (components path))
    (h : path = components path ∨ path = components path ++ [""]) :
    listedPath path = components path := by
  unfold listedPath
  rcases h with h | h
  · have hlast : path.getLast? ≠ some "" := by
      rw [h]
      intro hlast
      exact (hnamed "" (List.mem_of_getLast? hlast)).1 rfl
    rw [if_neg hlast]
    exact h
  · rw [h]
    simp only [List.getLast?_concat, if_true, List.dropLast_concat,
      components_append, components_eq_self hnamed]
    simp [components]

/-- What a plain path names on the disk. -/
theorem metadata_spelled
    {path : FilePath}
    (h : SpelledPlainly disk path)
    (hliteral : isPattern path = false) :
    metadata disk path = disk.tree.lookup (components path) ∨
      metadata disk path = none ∧
        disk.tree.lookup (components path) = none := by
  have hnamed := named_components h.noParent
  rcases h.literal hliteral with hpath | ⟨hpath, hfile⟩
  · left
    rw [hpath, metadata_named disk hnamed, components_eq_self hnamed]
  · rw [hpath, metadata_slash, metadata_named disk hnamed, ← hpath]
    unfold FileTree.isFileAt FileTree.fileAt at hfile
    cases hlookup : disk.tree.lookup (components path) with
    | none => right; exact ⟨rfl, rfl⟩
    | some tree =>
        left
        rw [hlookup] at hfile
        cases tree with
        | file content => cases hfile
        | directory listable names entry => rfl

/-- The files of a plain path are the files that it covers. -/
theorem collectConfiguredPath_literal
    {path : FilePath}
    {files : List FilePath}
    (hplain : SpelledPlainly disk path)
    (hliteral : isPattern path = false)
    (h : collectConfiguredPath glob disk reserved path = .ok files) :
    (∀ found ∈ files, disk.tree.isFileAt found = true ∧
      components path <+: found) ∧
    (∀ found, disk.tree.isFileAt found = true →
      components path <+: found → isReservedPath reserved found = false →
      found ∈ files) ∧
    Listable disk reserved (components path) := by
  have hnamed := named_components hplain.noParent
  have hlisted := listedPath_components hnamed
    ((hplain.literal hliteral).imp_right And.left)
  unfold collectConfiguredPath collectDir at h
  rw [if_neg (by rw [hliteral]; simp)] at h
  rcases metadata_spelled hplain hliteral with hmeta | ⟨hmeta, hnone⟩
  · rw [hmeta] at h
    cases hlookup : disk.tree.lookup (components path) with
    | none =>
        rw [hlookup] at h
        cases h
        refine ⟨by simp, ?_, ?_⟩
        · intro found hfile hstarts _
          obtain ⟨tree, htree⟩ := lookup_isSome_of_prefix hstarts hfile
          rw [hlookup] at htree
          cases htree
        · rintro found listable names entry hfound ⟨rest, rfl⟩ _
          rw [FileTree.lookup_append, hlookup] at hfound
          cases hfound
    | some tree =>
        rw [hlookup] at h
        cases tree with
        | file content =>
            have hpath : path = components path := by
              rcases hplain.literal hliteral with hpath | ⟨-, hfile⟩
              · exact hpath
              · unfold FileTree.isFileAt at hfile
                rw [FileTree.fileAt_eq_some.mpr hlookup] at hfile
                cases hfile
            cases h
            refine ⟨?_, ?_, ?_⟩
            · intro found hfound
              rw [List.mem_singleton.mp hfound, ← hpath]
              refine ⟨?_, List.prefix_refl path⟩
              unfold FileTree.isFileAt
              rw [hpath, FileTree.fileAt_eq_some.mpr hlookup]
              rfl
            · intro found hfile hstarts _
              obtain ⟨tree, htree⟩ :=
                lookup_isSome_of_prefix (List.prefix_refl found) hfile
              rw [eq_of_prefix_of_file hlookup hstarts htree, ← hpath]
              exact List.mem_singleton.mpr rfl
            · intro found listable names entry hfound hstarts _
              rw [eq_of_prefix_of_file hlookup hstarts hfound, hlookup]
                at hfound
              cases hfound
        | directory listable names entry =>
            simp only [hlisted] at h
            have hwalk := readError_ok h
            refine ⟨?_, ?_, listable_of_walk hlookup hwalk⟩
            · intro found hfound
              obtain ⟨-, hstarts, hfile⟩ :=
                file_of_walk_mem hlookup hwalk hfound
              exact ⟨hfile, hstarts⟩
            · intro found hfile hstarts hreserved
              exact walk_mem_of_file hlookup hwalk rfl hstarts hfile hreserved
  · rw [hmeta] at h
    cases h
    refine ⟨by simp, ?_, ?_⟩
    · intro found hfile hstarts _
      obtain ⟨tree, htree⟩ := lookup_isSome_of_prefix hstarts hfile
      rw [hnone] at htree
      cases htree
    · rintro found listable names entry hfound ⟨rest, rfl⟩ _
      rw [FileTree.lookup_append, hnone] at hfound
      cases hfound

/-- The files of a pattern are its matches outside the reserved roots. -/
theorem collectConfiguredPath_pattern
    {path : FilePath}
    {files : List FilePath}
    (hglob : GlobLaws glob)
    (hplain : SpelledPlainly disk path)
    (hpattern : isPattern path = true)
    (h : collectConfiguredPath glob disk reserved path = .ok files) :
    ∃ isMatch, glob.compile path = some isMatch ∧
      (∀ found ∈ files, disk.tree.isFileAt found = true ∧
        isMatch found = true) ∧
      (∀ found, disk.tree.isFileAt found = true → isMatch found = true →
        isReservedPath reserved found = false → found ∈ files) ∧
      Listable disk reserved (staticPrefix path) := by
  have hnamed := named_staticPrefix hplain
  unfold collectConfiguredPath at h
  rw [if_pos hpattern] at h
  cases hcompile : glob.compile path with
  | none => rw [hcompile] at h; cases h
  | some isMatch =>
      refine ⟨isMatch, rfl, ?_⟩
      rw [hcompile] at h
      unfold collectPattern at h
      rw [metadata_named disk hnamed] at h
      cases hlookup : disk.tree.lookup (staticPrefix path) with
      | none =>
          rw [hlookup] at h
          cases h
          refine ⟨by simp, ?_, ?_⟩
          · intro found hfile hmatch _
            obtain ⟨tree, htree⟩ := lookup_isSome_of_prefix
              (hglob.literalPrefix path isMatch found hcompile
                (named_of_file hfile) hmatch) hfile
            rw [hlookup] at htree
            cases htree
          · rintro found listable names entry hfound ⟨rest, rfl⟩ _
            rw [FileTree.lookup_append, hlookup] at hfound
            cases hfound
      | some tree =>
          rw [hlookup] at h
          have hwalk := readError_ok h
          refine ⟨?_, ?_, listable_of_walk hlookup hwalk⟩
          · intro found hfound
            obtain ⟨hkeep, -, hfile⟩ := file_of_walk_mem hlookup hwalk hfound
            exact ⟨hfile, (Bool.and_eq_true_iff.mp hkeep).2⟩
          · intro found hfile hmatch hreserved
            refine walk_mem_of_file hlookup hwalk ?_
              (hglob.literalPrefix path isMatch found hcompile
                (named_of_file hfile) hmatch) hfile hreserved
            simp [hreserved, hmatch]

/-- The files of a configured path are the files that it covers, as far as
they are not reserved. -/
theorem collectConfiguredPath_mem
    {path : FilePath}
    {files : List FilePath}
    (hglob : GlobLaws glob)
    (hplain : SpelledPlainly disk path)
    (h : collectConfiguredPath glob disk reserved path = .ok files) :
    (∀ found ∈ files, disk.tree.isFileAt found = true ∧
      configuredPathMatches glob path found = true) ∧
    (∀ found, disk.tree.isFileAt found = true →
      configuredPathMatches glob path found = true →
      isReservedPath reserved found = false → found ∈ files) ∧
    Listable disk reserved (staticPrefix path) := by
  cases hpattern : isPattern path with
  | false =>
      obtain ⟨hsound, hcomplete, hlistable⟩ :=
        collectConfiguredPath_literal hplain hpattern h
      have hcovers : ∀ found, Named found →
          (configuredPathMatches glob path found = true ↔
            components path <+: found) := by
        intro found hfound
        unfold configuredPathMatches
        rw [if_neg (by rw [hpattern]; simp)]
        exact startsWith_named hfound path
      refine ⟨?_, ?_, ?_⟩
      · intro found hfound
        obtain ⟨hfile, hstarts⟩ := hsound found hfound
        exact ⟨hfile, (hcovers found (named_of_file hfile)).mpr hstarts⟩
      · intro found hfile hmatch hreserved
        exact hcomplete found hfile
          ((hcovers found (named_of_file hfile)).mp hmatch) hreserved
      · rw [staticPrefix_literal hpattern]
        exact hlistable
  | true =>
      obtain ⟨isMatch, hcompile, hsound, hcomplete, hlistable⟩ :=
        collectConfiguredPath_pattern hglob hplain hpattern h
      have hcovers : ∀ found,
          configuredPathMatches glob path found = isMatch found := by
        intro found
        unfold configuredPathMatches
        rw [if_pos hpattern, hcompile]
        rfl
      refine ⟨?_, ?_, hlistable⟩
      · intro found hfound
        rw [hcovers]
        exact hsound found hfound
      · intro found hfile hmatch
        exact hcomplete found hfile (by rw [← hcovers]; exact hmatch)

/-- Whether the pattern of a configured path parses. -/
def patternParses (glob : GlobLibrary) (path : FilePath) : Bool :=
  !isPattern path || (glob.compile path).isSome

theorem patternParses_of_collect
    {path : FilePath}
    {files : List FilePath}
    (h : collectConfiguredPath glob disk reserved path = .ok files) :
    patternParses glob path = true := by
  unfold patternParses
  unfold collectConfiguredPath at h
  split at h
  · next hpattern =>
      cases hcompile : glob.compile path with
      | none => rw [hcompile] at h; cases h
      | some isMatch => simp
  · next hpattern => simp [hpattern]

/-- A configured path is collected when its pattern parses and every directory
below its literal part can be listed. -/
theorem collectConfiguredPath_ok
    {path : FilePath}
    (hplain : SpelledPlainly disk path)
    (hparses : patternParses glob path = true)
    (hlistable : Listable disk reserved (staticPrefix path)) :
    ∃ files, collectConfiguredPath glob disk reserved path = .ok files := by
  have hwalk : ∀ (keep : FilePath → Bool) start tree,
      start = staticPrefix path → disk.tree.lookup start = some tree →
      ∃ files, readError (FileTree.walk (enters reserved) keep start tree) =
        .ok files := by
    rintro keep start tree rfl hlookup
    obtain ⟨files, hfiles⟩ :
        ∃ files, FileTree.walk (enters reserved) keep (staticPrefix path)
          tree = .ok files := walk_ok hlookup hlistable
    exact ⟨files, by rw [hfiles]; rfl⟩
  unfold collectConfiguredPath
  split
  · next hpattern =>
      cases hcompile : glob.compile path with
      | none => simp [patternParses, hpattern, hcompile] at hparses
      | some isMatch =>
          simp only
          unfold collectPattern
          rw [metadata_named disk (named_staticPrefix hplain)]
          cases hlookup : disk.tree.lookup (staticPrefix path) with
          | none => exact ⟨[], rfl⟩
          | some tree => exact hwalk _ _ tree rfl hlookup
  · next hpattern =>
      have hliteral : isPattern path = false := by
        rwa [Bool.not_eq_true] at hpattern
      have hnamed := named_components hplain.noParent
      unfold collectDir
      rcases metadata_spelled hplain hliteral with hmeta | ⟨hmeta, -⟩
      · rw [hmeta]
        cases hlookup : disk.tree.lookup (components path) with
        | none => exact ⟨[], rfl⟩
        | some tree =>
            cases tree with
            | file content => exact ⟨[path], rfl⟩
            | directory listable names entry =>
                simp only
                rw [listedPath_components hnamed
                  ((hplain.literal hliteral).imp_right And.left)]
                exact hwalk _ _ _ (staticPrefix_literal hliteral).symm hlookup
      · rw [hmeta]
        exact ⟨[], rfl⟩

end ConfiguredPaths

end Daemon

end Dsql
