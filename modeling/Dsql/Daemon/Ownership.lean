import Dsql.Daemon.Documents

/-!
# Ownership of paths

Which document a path of the disk stands for under a configuration, without the
order in which a load or a batch looks at the disk.  Paths are compared by
their texts in one place and by their components in another, so configured
paths have to be spelled plainly for the two to agree.
-/

namespace Dsql

namespace Daemon

def Named (path : FilePath) : Prop :=
  ∀ segment ∈ path, IsName segment

section Paths

theorem named_append {path rest : FilePath} :
    Named (path ++ rest) ↔ Named path ∧ Named rest := by
  constructor
  · intro h
    exact ⟨fun segment hs => h segment (List.mem_append_left rest hs),
      fun segment hs => h segment (List.mem_append_right path hs)⟩
  · rintro ⟨hpath, hrest⟩ segment hs
    rcases List.mem_append.mp hs with hs | hs
    · exact hpath segment hs
    · exact hrest segment hs

theorem components_append (path rest : FilePath) :
    components (path ++ rest) = components path ++ components rest := by
  unfold components
  exact List.filter_append ..

theorem components_eq_self {path : FilePath} (h : Named path) :
    components path = path := by
  unfold components
  refine List.filter_eq_self.mpr ?_
  intro segment hs
  have hname := h segment hs
  simp [hname.1, hname.2.1]

/-- Components other than parent segments are names. -/
theorem named_components
    {path : FilePath}
    (h : ".." ∉ path) :
    Named (components path) := by
  intro segment hs
  obtain ⟨hmem, hsegment⟩ := List.mem_filter.mp hs
  rw [Bool.and_eq_true, decide_eq_true_iff, decide_eq_true_iff] at hsegment
  refine ⟨hsegment.1, hsegment.2, ?_⟩
  rintro rfl
  exact h hmem

theorem startsWith_named
    {path : FilePath}
    (h : Named path)
    (start : FilePath) :
    startsWith path start = true ↔ components start <+: path := by
  unfold startsWith
  rw [components_eq_self h, List.isPrefixOf_iff_prefix]

theorem startsWith_append
    {path start : FilePath}
    (rest : FilePath)
    (h : startsWith path start = true) :
    startsWith (path ++ rest) start = true := by
  unfold startsWith at h ⊢
  rw [List.isPrefixOf_iff_prefix] at h ⊢
  rw [components_append]
  exact h.trans (List.prefix_append ..)

theorem resolve_named
    (disk : Disk)
    {path : FilePath}
    (h : Named path)
    (current : TreePath) :
    (resolve disk current path).bind (fun found => disk.tree.lookup found) =
      disk.tree.lookup (current ++ path) := by
  induction path generalizing current with
  | nil => rw [List.append_nil]; rfl
  | cons segment path ih =>
      obtain ⟨hempty, hdot, hparent⟩ := h segment List.mem_cons_self
      rw [resolve]
      by_cases hdirectory : disk.tree.isDirectoryAt current = true
      · rw [if_pos hdirectory, if_neg (by simp [hempty, hdot]),
          if_neg hparent,
          ih (fun other hs => h other (List.mem_cons_of_mem segment hs)),
          List.append_assoc, List.singleton_append]
      · rw [if_neg hdirectory]
        cases hlookup : disk.tree.lookup (current ++ segment :: path) with
        | none => rfl
        | some found =>
            exact absurd
              (FileTree.isDirectoryAt_of_lookup hlookup (by simp)) hdirectory

/-- A path of names is looked up segment by segment. -/
theorem metadata_named
    (disk : Disk)
    {path : FilePath}
    (h : Named path) :
    metadata disk path = disk.tree.lookup path := by
  have hresolve := resolve_named disk h []
  rw [List.nil_append] at hresolve
  exact hresolve

theorem resolve_append
    (disk : Disk)
    (path rest : FilePath)
    (current : TreePath) :
    resolve disk current (path ++ rest) =
      (resolve disk current path).bind (fun found =>
        resolve disk found rest) := by
  induction path generalizing current with
  | nil => rfl
  | cons segment path ih =>
      rw [List.cons_append, resolve, resolve]
      split
      · split
        · exact ih current
        · split
          · exact ih current.dropLast
          · exact ih (current ++ [segment])
      · rfl

/-- A trailing slash asks for a directory. -/
theorem metadata_slash
    (disk : Disk)
    (path : FilePath) :
    metadata disk (path ++ [""]) =
      (metadata disk path).filter FileTree.isDirectory := by
  unfold metadata
  rw [resolve_append]
  cases resolve disk [] path with
  | none => rfl
  | some found =>
      simp only [Option.bind_some, resolve, true_or, if_true]
      unfold FileTree.isDirectoryAt
      cases hlookup : disk.tree.lookup found with
      | none => rfl
      | some tree =>
          cases tree with
          | file content => rfl
          | directory listable names entry =>
              simp [hlookup, FileTree.isDirectory, Option.filter]

end Paths

/-! ## Configured paths -/

/-- A configured path that means the same as a text and by its components: a
pattern may hold dots in its literal part, a plain path may end in one slash
that does not follow a file. -/
structure SpelledPlainly (disk : Disk) (path : FilePath) : Prop where
  noParent : ".." ∉ path
  literal : isPattern path = false →
    path = components path ∨
      path = components path ++ [""] ∧
        disk.tree.isFileAt (components path) = false

/-- The base of a project is a canonical path without wildcards. -/
structure PlainBase (base : FilePath) : Prop where
  named : Named base
  literal : isPattern base = false

/-- What the glob crate promises: the literal part of a pattern stands in front
of every match, and two stars with an extension match the files with that
extension at any depth. -/
structure GlobLaws (glob : GlobLibrary) : Prop where
  literalPrefix : ∀ pattern isMatch path,
    glob.compile pattern = some isMatch → Named path →
      isMatch path = true → staticPrefix pattern <+: path
  anyDepth : ∀ base, PlainBase base →
    ∃ isMatch, glob.compile (implicitPattern base) = some isMatch ∧
      ∀ path, Named path →
        (isMatch path = true ↔
          ∃ above name, path = projectRoot base ++ above ++ [name] ∧
            (extension name = some "dsql" ∨ name = ".dsql"))

/-! ## Owners -/

def configuredAssignment (group : String × DocumentConfig) :
    SourceAssignment :=
  ⟨group.1, .fromResolver group.2.resolver⟩

def groupCovers
    (glob : GlobLibrary)
    (base : FilePath)
    (path : FilePath)
    (group : String × DocumentConfig) : Bool :=
  group.2.paths.any (fun configured =>
    configuredPathMatches glob (joinPath base configured) path)

/-- The assignments of the groups that cover a path. -/
def owners
    (glob : GlobLibrary)
    (base : FilePath)
    (config : Config)
    (path : FilePath) : List SourceAssignment :=
  if config.usesImplicitDocuments then
    if startsWith path (projectRoot base) && hasDsqlExtension path then
      [⟨"default", .dsql⟩]
    else
      []
  else
    ((configuredGroups config).filter (groupCovers glob base path)).map
      configuredAssignment

/-- The one assignment of a path. -/
def ownerOf
    (glob : GlobLibrary)
    (base : FilePath)
    (config : Config)
    (path : FilePath) : Option SourceAssignment :=
  match (owners glob base config path).dedup with
  | [assignment] => some assignment
  | _ => none

/-- The document that a path stands for: the text of its file under the scope
that owns it, outside the reserved roots. -/
def sourceAt
    (glob : GlobLibrary)
    (disk : Disk)
    (base : FilePath)
    (config : Config)
    (excludeRoots : List ReservedRoot)
    (path : FilePath) : Option Document :=
  if isReservedPath (reservedPaths base config excludeRoots) path then
    none
  else
    match ownerOf glob base config path,
        (disk.tree.fileAt path).bind FileContent.asText with
    | some assignment, some text =>
        some ⟨path, text, assignment.scope, assignment.kind⟩
    | _, _ => none

section Owners

variable {glob : GlobLibrary} {base : FilePath} {config : Config}

theorem isReservedPath_append
    {reserved : List FilePath}
    {path : FilePath}
    (rest : FilePath)
    (h : isReservedPath reserved path = true) :
    isReservedPath reserved (path ++ rest) = true := by
  unfold isReservedPath at h ⊢
  rw [List.any_eq_true] at h ⊢
  obtain ⟨root, hroot, hstart⟩ := h
  exact ⟨root, hroot, startsWith_append rest hstart⟩

/-- The groups of a configured project cover what its ownership rules say. -/
theorem coveringAssignments_configured
    (h : config.usesImplicitDocuments = false)
    (path : FilePath) :
    coveringAssignments glob (scopeDocumentAssignments base config) path =
      owners glob base config path := by
  unfold owners coveringAssignments scopeDocumentAssignments configuredGroups
  rw [h]
  simp only [Bool.false_eq_true, if_false, List.flatMap_map,
    List.filter_flatMap, List.map_flatMap, List.filter_map, List.map_map]
  refine List.flatMap_congr ?_
  intro scope _
  have hcovers : ∀ document : DocumentConfig,
      (document.paths.map (joinPath base)).any (fun configured =>
        configuredPathMatches glob configured path) =
      groupCovers glob base path (scope.1, document) := by
    intro document
    unfold groupCovers
    rw [List.any_map]
    rfl
  congr 1
  refine List.filter_congr ?_
  intro document _
  exact hcovers document

theorem documentScopes_ne_nil
    (config : Config) : config.documentScopes ≠ [] := by
  unfold Config.documentScopes
  split
  · simp
  · next h =>
      intro hnil
      exact h (by rw [hnil]; rfl)

theorem ownershipOf_configured
    (h : config.usesImplicitDocuments = false)
    (path : FilePath) :
    ownershipOf glob (scopeDocumentAssignments base config) path =
      match (owners glob base config path).dedup with
      | [] => .unmatched
      | [assignment] => .unique assignment
      | assignments => .ambiguous assignments := by
  have hne : (scopeDocumentAssignments base config).isEmpty = false := by
    unfold scopeDocumentAssignments
    rw [h]
    simp only [Bool.false_eq_true, if_false, List.isEmpty_map]
    exact List.isEmpty_eq_false_iff.mpr (documentScopes_ne_nil config)
  unfold ownershipOf
  rw [hne, coveringAssignments_configured h]
  rfl

theorem isPattern_append (path rest : FilePath) :
    isPattern (path ++ rest) = (isPattern path || isPattern rest) := by
  unfold isPattern
  exact List.any_append

/-- Without a configured scope the rules own the files with the extension, and
files whose whole name is the extension. -/
theorem ownershipOf_implicit
    (hglob : GlobLaws glob)
    (hbase : PlainBase base)
    (h : config.usesImplicitDocuments = true)
    {path : FilePath}
    (hpath : Named path) :
    ownershipOf glob (scopeDocumentAssignments base config) path =
      if (startsWith path (projectRoot base) && hasDsqlExtension path) ||
          (startsWith path (projectRoot base) &&
            path.getLast? = some ".dsql") then
        .unique ⟨"default", .dsql⟩
      else
        .unmatched := by
  obtain ⟨isMatch, hcompile, hmatch⟩ := hglob.anyDepth base hbase
  have hpattern : isPattern (implicitPattern base) = true := by
    unfold implicitPattern
    rw [isPattern_append]
    simp [isPattern, hasWildcard]
  have hroot : Named (projectRoot base) := by
    unfold projectRoot
    exact named_append.mpr ⟨hbase.named, by simp [Named, IsName]⟩
  have hiff : isMatch path = true ↔
      ((startsWith path (projectRoot base) && hasDsqlExtension path) ||
        (startsWith path (projectRoot base) &&
          path.getLast? = some ".dsql")) = true := by
    rw [hmatch path hpath, ← Bool.and_or_distrib_left, Bool.and_eq_true,
      startsWith_named hpath, components_eq_self hroot, Bool.or_eq_true,
      decide_eq_true_iff]
    unfold hasDsqlExtension
    rw [decide_eq_true_iff]
    constructor
    · rintro ⟨above, name, rfl, hname⟩
      rw [List.append_assoc]
      refine ⟨List.prefix_append .., ?_⟩
      rw [← List.append_assoc, List.getLast?_append]
      simpa using hname
    · rintro ⟨⟨rest, rfl⟩, hlast⟩
      have hrest : rest ≠ [] := by
        rintro rfl
        rw [List.append_nil] at hlast
        unfold projectRoot at hlast
        rw [List.getLast?_append] at hlast
        simp [extension, Text.split] at hlast
        revert hlast
        decide
      refine ⟨rest.dropLast, rest.getLast hrest, ?_, ?_⟩
      · rw [List.append_assoc, List.dropLast_append_getLast hrest]
      · rw [List.getLast?_append, List.getLast?_eq_some_getLast hrest] at hlast
        simpa using hlast
  have hcovers : configuredPathMatches glob (implicitPattern base) path =
      isMatch path := by
    unfold configuredPathMatches
    rw [if_pos hpattern, hcompile]
    rfl
  unfold ownershipOf scopeDocumentAssignments coveringAssignments
  by_cases hfound : isMatch path = true
  · rw [if_pos (hiff.mp hfound)]
    simp [h, hcovers, hfound]
  · rw [if_neg (fun hcond => hfound (hiff.mpr hcond))]
    simp [h, hcovers, hfound]

/-- A path with one owner among the rules is a document, unless no scope is
configured and its whole name is the extension. -/
theorem ownerOf_of_unique
    (hglob : GlobLaws glob)
    (hbase : PlainBase base)
    {path : FilePath}
    (hpath : Named path)
    (hname : config.usesImplicitDocuments = true →
      path.getLast? ≠ some ".dsql")
    {assignment : SourceAssignment}
    (h : ownershipOf glob (scopeDocumentAssignments base config) path =
      .unique assignment) :
    ownerOf glob base config path = some assignment := by
  unfold ownerOf
  cases himplicit : config.usesImplicitDocuments with
  | true =>
      rw [ownershipOf_implicit hglob hbase himplicit hpath] at h
      rw [decide_eq_false (hname himplicit), Bool.and_false,
        Bool.or_false] at h
      unfold owners
      rw [himplicit, if_pos rfl]
      split at h
      · next hcond =>
          rw [if_pos hcond]
          cases h
          rfl
      · cases h
  | false =>
      rw [ownershipOf_configured himplicit] at h
      split at h
      · cases h
      · next found hfound =>
          cases h
          rw [hfound]
      · cases h

/-- A path that no rule owns is no document. -/
theorem owners_of_unmatched
    (hglob : GlobLaws glob)
    (hbase : PlainBase base)
    {path : FilePath}
    (hpath : Named path)
    (h : ownershipOf glob (scopeDocumentAssignments base config) path =
      .unmatched) :
    owners glob base config path = [] := by
  cases himplicit : config.usesImplicitDocuments with
  | true =>
      rw [ownershipOf_implicit hglob hbase himplicit hpath] at h
      split at h
      · cases h
      · next hcond =>
          unfold owners
          rw [himplicit, if_pos rfl, if_neg]
          intro hfound
          exact hcond (by rw [hfound, Bool.true_or])
  | false =>
      rw [ownershipOf_configured himplicit] at h
      split at h
      · next hnil => exact List.dedup_eq_nil _ |>.mp hnil
      · cases h
      · cases h

theorem ownershipOf_ne_implicitDefault
    (hglob : GlobLaws glob)
    (hbase : PlainBase base)
    {path : FilePath}
    (hpath : Named path) :
    ownershipOf glob (scopeDocumentAssignments base config) path ≠
      .implicitDefault := by
  cases himplicit : config.usesImplicitDocuments with
  | true =>
      rw [ownershipOf_implicit hglob hbase himplicit hpath]
      split <;> simp
  | false =>
      rw [ownershipOf_configured himplicit]
      split <;> simp

theorem sourceAt_eq_some
    {disk : Disk}
    {excludeRoots : List ReservedRoot}
    {path : FilePath}
    {document : Document} :
    sourceAt glob disk base config excludeRoots path = some document ↔
      isReservedPath (reservedPaths base config excludeRoots) path = false ∧
        ∃ assignment text, ownerOf glob base config path = some assignment ∧
          disk.tree.fileAt path = some (.text text) ∧
          document = ⟨path, text, assignment.scope, assignment.kind⟩ := by
  unfold sourceAt
  cases isReservedPath (reservedPaths base config excludeRoots) path with
  | true => simp
  | false =>
      simp only [Bool.false_eq_true, if_false, true_and]
      cases ownerOf glob base config path with
      | none => simp
      | some assignment =>
          cases disk.tree.fileAt path with
          | none => simp
          | some content =>
              cases content with
              | text text => simp [FileContent.asText, eq_comm]
              | binary identity => simp [FileContent.asText]
              | unreadable => simp [FileContent.asText]

theorem sourceAt_path
    {disk : Disk}
    {excludeRoots : List ReservedRoot}
    {path : FilePath}
    {document : Document}
    (h : sourceAt glob disk base config excludeRoots path = some document) :
    document.path = path := by
  obtain ⟨-, assignment, text, -, -, rfl⟩ := sourceAt_eq_some.mp h
  rfl

end Owners

end Daemon

end Dsql
