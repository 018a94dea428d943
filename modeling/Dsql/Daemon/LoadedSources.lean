import Dsql.Daemon.ColdLoad
import Mathlib.Data.List.Nodup
import Mathlib.Data.List.Perm.Basic

/-!
# The sources of a full load

Every file with an owner is loaded under it, and nothing else is.
-/

namespace Dsql

namespace Daemon

section Groups

variable {disk : Disk}

theorem distinctPaths_mem
    {paths : List FilePath}
    (h : ∀ path ∈ paths, Named path) :
    (distinctPaths paths).Nodup ∧
      ∀ path, path ∈ distinctPaths paths ↔ path ∈ paths := by
  induction paths with
  | nil => exact ⟨List.nodup_nil, fun path => Iff.rfl⟩
  | cons first paths ih =>
      obtain ⟨hnodup, hmem⟩ :=
        ih (fun path hpath => h path (List.mem_cons_of_mem first hpath))
      have hfirst := components_eq_self (h first List.mem_cons_self)
      rw [distinctPaths]
      constructor
      · refine List.nodup_cons.mpr ⟨?_, hnodup.filter _⟩
        intro hself
        simpa using (List.mem_filter.mp hself).2
      · intro path
        rw [List.mem_cons, List.mem_cons, List.mem_filter, hmem]
        constructor
        · rintro (rfl | ⟨hpath, -⟩)
          · exact .inl rfl
          · exact .inr hpath
        · rintro (rfl | hpath)
          · exact .inl rfl
          · by_cases heq : path = first
            · exact .inl heq
            · refine .inr ⟨hpath, ?_⟩
              rw [hfirst, components_eq_self
                (h path (List.mem_cons_of_mem first hpath))]
              simpa using heq

def OwnedSource.ofFile
    (assignment : SourceAssignment)
    (path : FilePath) : OwnedSource :=
  ⟨path, assignment⟩

/-- Whether a source has the path of a file. -/
theorem find_source
    {owned : List OwnedSource}
    (howned : ∀ source ∈ owned, Named source.path)
    {path : FilePath}
    (hpath : Named path) :
    owned.find? (fun source => components source.path = components path) =
        none ↔
      path ∉ owned.map OwnedSource.path := by
  rw [List.find?_eq_none]
  constructor
  · rintro h hmem
    obtain ⟨source, hsource, rfl⟩ := List.mem_map.mp hmem
    simpa using h source hsource
  · intro h source hsource heq
    rw [decide_eq_true_iff, components_eq_self (howned source hsource),
      components_eq_self hpath] at heq
    exact h (List.mem_map.mpr ⟨source, hsource, heq⟩)

/-- The files of a group join the sources when none of them is there yet. -/
theorem assignFiles_ok
    {assignment : SourceAssignment}
    {files : List FilePath}
    (hfiles : ∀ path ∈ files, Named path)
    {owned result : List OwnedSource}
    (howned : ∀ source ∈ owned, Named source.path)
    (hnodup : (owned.map OwnedSource.path).Nodup) :
    assignFiles assignment files owned = .ok result ↔
      result = owned ++ files.map (OwnedSource.ofFile assignment) ∧
        (result.map OwnedSource.path).Nodup := by
  induction files generalizing owned with
  | nil =>
      rw [assignFiles, Except.ok.injEq, List.map_nil, List.append_nil]
      constructor
      · rintro rfl
        exact ⟨rfl, hnodup⟩
      · rintro ⟨rfl, -⟩
        rfl
  | cons path files ih =>
      have hpath := hfiles path List.mem_cons_self
      have hsplit :
          owned ++ (path :: files).map (OwnedSource.ofFile assignment) =
            (owned ++ [OwnedSource.ofFile assignment path]) ++
              files.map (OwnedSource.ofFile assignment) := by
        simp
      rw [assignFiles]
      cases hfind : owned.find? (fun source =>
          components source.path = components path) with
      | some first =>
          constructor
          · intro h
            cases h
          · rintro ⟨rfl, hresult⟩
            have hfree : path ∉ owned.map OwnedSource.path := by
              intro hmem
              rw [List.map_append, List.nodup_append] at hresult
              refine hresult.2.2 path hmem path ?_ rfl
              rw [List.map_map]
              exact List.mem_map.mpr ⟨path, List.mem_cons_self, rfl⟩
            rw [(find_source howned hpath).mpr hfree] at hfind
            cases hfind
      | none =>
          have hfree := (find_source howned hpath).mp hfind
          have hnamed : ∀ source ∈
              owned ++ [OwnedSource.ofFile assignment path],
              Named source.path := by
            intro source hsource
            rcases List.mem_append.mp hsource with hsource | hsource
            · exact howned source hsource
            · rw [List.mem_singleton.mp hsource]
              exact hpath
          have hnext : ((owned ++ [OwnedSource.ofFile assignment path]).map
              OwnedSource.path).Nodup := by
            rw [List.map_append]
            refine List.nodup_append.mpr
              ⟨hnodup, List.nodup_singleton _, ?_⟩
            rintro other hother last hlast rfl
            rw [List.map_singleton, List.mem_singleton] at hlast
            subst hlast
            exact hfree hother
          rw [hsplit]
          exact ih (fun other hother =>
            hfiles other (List.mem_cons_of_mem path hother)) hnamed hnext

variable {glob : GlobLibrary} {base : FilePath} {reserved : List FilePath}

/-- Configured paths are spelled plainly. -/
def PlainConfig (disk : Disk) (base : FilePath) (config : Config) : Prop :=
  ∀ group ∈ configuredGroups config, ∀ configured ∈ group.2.paths,
    SpelledPlainly disk (joinPath base configured)

/-- The files that a group finds. -/
def IsGroupFile
    (glob : GlobLibrary)
    (disk : Disk)
    (base : FilePath)
    (reserved : List FilePath)
    (group : String × DocumentConfig)
    (path : FilePath) : Prop :=
  disk.tree.isFileAt path = true ∧ isReservedPath reserved path = false ∧
    groupCovers glob base path group = true

/-- The distinct files of a group outside the reserved roots. -/
def groupFiles
    (reserved : List FilePath)
    (files : List (List FilePath)) : List FilePath :=
  (distinctPaths files.flatten).filter (fun path =>
    !isReservedPath reserved path)

theorem groupFiles_mem
    {group : String × DocumentConfig}
    {files : List (List FilePath)}
    (hglob : GlobLaws glob)
    (hplain : ∀ configured ∈ group.2.paths,
      SpelledPlainly disk (joinPath base configured))
    (h : group.2.paths.mapM (fun configured =>
      collectConfiguredPath glob disk reserved (joinPath base configured)) =
        .ok files) :
    (groupFiles reserved files).Nodup ∧
      ∀ path, path ∈ groupFiles reserved files ↔
        IsGroupFile glob disk base reserved group path := by
  have hnamed : ∀ path ∈ files.flatten, Named path := by
    intro path hpath
    obtain ⟨found, hfound, hpath⟩ := List.mem_flatten.mp hpath
    obtain ⟨configured, hconfigured, hcollect⟩ :=
      (mapM_ok_mem group.2.paths h found).mp hfound
    exact named_of_file ((collectConfiguredPath_mem hglob
      (hplain configured hconfigured) hcollect).1 path hpath).1
  obtain ⟨hnodup, hmem⟩ := distinctPaths_mem hnamed
  refine ⟨hnodup.filter _, ?_⟩
  intro path
  unfold groupFiles IsGroupFile groupCovers
  rw [List.mem_filter, hmem, List.mem_flatten, List.any_eq_true,
    Bool.not_eq_true']
  constructor
  · rintro ⟨⟨found, hfound, hpath⟩, hreserved⟩
    obtain ⟨configured, hconfigured, hcollect⟩ :=
      (mapM_ok_mem group.2.paths h found).mp hfound
    obtain ⟨hfile, hcovers⟩ := (collectConfiguredPath_mem hglob
      (hplain configured hconfigured) hcollect).1 path hpath
    exact ⟨hfile, hreserved, configured, hconfigured, hcovers⟩
  · rintro ⟨hfile, hreserved, configured, hconfigured, hcovers⟩
    obtain ⟨found, hcollect⟩ :=
      mapM_ok_forall group.2.paths h configured hconfigured
    exact ⟨⟨found,
      (mapM_ok_mem group.2.paths h found).mpr
        ⟨configured, hconfigured, hcollect⟩,
      (collectConfiguredPath_mem hglob (hplain configured hconfigured)
        hcollect).2.1 path hfile hcovers hreserved⟩, hreserved⟩

/-- The sources after the groups: those before and every file of a group. -/
theorem collectDocumentGroups_mem
    {groups : List (String × DocumentConfig)}
    (hglob : GlobLaws glob)
    (hplain : ∀ group ∈ groups, ∀ configured ∈ group.2.paths,
      SpelledPlainly disk (joinPath base configured))
    {owned result : List OwnedSource}
    (howned : ∀ source ∈ owned, Named source.path)
    (hnodup : (owned.map OwnedSource.path).Nodup)
    (h : collectDocumentGroups glob disk base reserved groups owned =
      .ok result) :
    (result.map OwnedSource.path).Nodup ∧
      ∀ source, source ∈ result ↔ source ∈ owned ∨
        ∃ group ∈ groups, source.assignment = configuredAssignment group ∧
          IsGroupFile glob disk base reserved group source.path := by
  induction groups generalizing owned with
  | nil =>
      cases h
      refine ⟨hnodup, fun source => ?_⟩
      simp
  | cons group groups ih =>
      rw [collectDocumentGroups] at h
      obtain ⟨next, hgroup, h⟩ := except_bind_ok h
      unfold collectDocumentGroup at hgroup
      obtain ⟨files, hfiles, hassign⟩ := except_bind_ok hgroup
      obtain ⟨hfilesNodup, hfilesMem⟩ := groupFiles_mem hglob
        (hplain group List.mem_cons_self) hfiles
      have hfilesNamed : ∀ path ∈ groupFiles reserved files, Named path :=
        fun path hpath => named_of_file ((hfilesMem path).mp hpath).1
      obtain ⟨rfl, hnext⟩ :=
        (assignFiles_ok hfilesNamed howned hnodup).mp hassign
      have hnamed : ∀ source ∈ owned ++ (groupFiles reserved files).map
          (OwnedSource.ofFile (configuredAssignment group)),
          Named source.path := by
        intro source hsource
        rcases List.mem_append.mp hsource with hsource | hsource
        · exact howned source hsource
        · obtain ⟨path, hpath, rfl⟩ := List.mem_map.mp hsource
          exact hfilesNamed path hpath
      obtain ⟨hresult, hmem⟩ := ih
        (fun other hother => hplain other (List.mem_cons_of_mem group hother))
        hnamed hnext h
      refine ⟨hresult, fun source => ?_⟩
      rw [hmem]
      constructor
      · rintro (hsource | ⟨other, hother, hrest⟩)
        · rcases List.mem_append.mp hsource with hsource | hsource
          · exact .inl hsource
          · obtain ⟨path, hpath, rfl⟩ := List.mem_map.mp hsource
            exact .inr ⟨group, List.mem_cons_self, rfl,
              (hfilesMem path).mp hpath⟩
        · exact .inr ⟨other, List.mem_cons_of_mem group hother, hrest⟩
      · rintro (hsource | ⟨other, hother, hassignment, hfile⟩)
        · exact .inl (List.mem_append_left _ hsource)
        · rcases List.mem_cons.mp hother with rfl | hother
          · refine .inl (List.mem_append_right _ (List.mem_map.mpr
              ⟨source.path, (hfilesMem source.path).mpr hfile, ?_⟩))
            cases source
            cases hassignment
            rfl
          · exact .inr ⟨other, hother, hassignment, hfile⟩

/-- The groups are collected when every path is and no file has two of them. -/
theorem collectDocumentGroups_ok
    {groups : List (String × DocumentConfig)}
    (hglob : GlobLaws glob)
    (hplain : ∀ group ∈ groups, ∀ configured ∈ group.2.paths,
      SpelledPlainly disk (joinPath base configured))
    (hcollect : ∀ group ∈ groups, ∀ configured ∈ group.2.paths, ∃ files,
      collectConfiguredPath glob disk reserved (joinPath base configured) =
        .ok files)
    (hdisjoint : groups.Pairwise (fun group other => ∀ path,
      IsGroupFile glob disk base reserved group path →
        ¬IsGroupFile glob disk base reserved other path))
    {owned : List OwnedSource}
    (howned : ∀ source ∈ owned, Named source.path)
    (hnodup : (owned.map OwnedSource.path).Nodup)
    (hfree : ∀ source ∈ owned, ∀ group ∈ groups,
      ¬IsGroupFile glob disk base reserved group source.path) :
    ∃ result, collectDocumentGroups glob disk base reserved groups owned =
      .ok result := by
  induction groups generalizing owned with
  | nil => exact ⟨owned, rfl⟩
  | cons group groups ih =>
      obtain ⟨hgroup, hpairwise⟩ := List.pairwise_cons.mp hdisjoint
      obtain ⟨files, hfiles⟩ := mapM_ok_of_forall group.2.paths
        (hcollect group List.mem_cons_self)
      obtain ⟨hfilesNodup, hfilesMem⟩ := groupFiles_mem hglob
        (hplain group List.mem_cons_self) hfiles
      have hfilesNamed : ∀ path ∈ groupFiles reserved files, Named path :=
        fun path hpath => named_of_file ((hfilesMem path).mp hpath).1
      have hnext : ((owned ++ (groupFiles reserved files).map
          (OwnedSource.ofFile (configuredAssignment group))).map
            OwnedSource.path).Nodup := by
        rw [List.map_append, List.map_map]
        refine List.nodup_append.mpr ⟨hnodup, ?_, ?_⟩
        · have hid : OwnedSource.path ∘
              OwnedSource.ofFile (configuredAssignment group) = id := rfl
          rw [hid, List.map_id]
          exact hfilesNodup
        · rintro path hpath other hother rfl
          obtain ⟨source, hsource, rfl⟩ := List.mem_map.mp hpath
          obtain ⟨found, hfound, heq⟩ := List.mem_map.mp hother
          refine hfree source hsource group List.mem_cons_self ?_
          rw [← heq]
          exact (hfilesMem found).mp hfound
      have hassign : assignFiles (configuredAssignment group)
          (groupFiles reserved files) owned = .ok (owned ++
            (groupFiles reserved files).map
              (OwnedSource.ofFile (configuredAssignment group))) :=
        (assignFiles_ok hfilesNamed howned hnodup).mpr ⟨rfl, hnext⟩
      have hstep : collectDocumentGroup glob disk base reserved group.1 group.2
          owned = .ok (owned ++ (groupFiles reserved files).map
            (OwnedSource.ofFile (configuredAssignment group))) := by
        unfold collectDocumentGroup
        rw [hfiles]
        exact hassign
      rw [collectDocumentGroups, hstep]
      refine ih
        (fun other hother => hplain other (List.mem_cons_of_mem group hother))
        (fun other hother => hcollect other (List.mem_cons_of_mem group hother))
        hpairwise ?_ hnext ?_
      · intro source hsource
        rcases List.mem_append.mp hsource with hsource | hsource
        · exact howned source hsource
        · obtain ⟨path, hpath, rfl⟩ := List.mem_map.mp hsource
          exact hfilesNamed path hpath
      · intro source hsource other hother
        rcases List.mem_append.mp hsource with hsource | hsource
        · exact hfree source hsource other (List.mem_cons_of_mem group hother)
        · obtain ⟨path, hpath, rfl⟩ := List.mem_map.mp hsource
          exact hgroup other hother path ((hfilesMem path).mp hpath)

end Groups

/-! ## Documents -/

section Documents

variable {glob : GlobLibrary} {disk : Disk} {base : FilePath}
variable {config : Config} {reserved : List FilePath}

theorem named_projectRoot (hbase : PlainBase base) :
    Named (projectRoot base) := by
  unfold projectRoot
  exact named_append.mpr ⟨hbase.named, by simp [Named, IsName]⟩

/-- Where a load looks for documents. -/
def scanRoots (base : FilePath) (config : Config) : List FilePath :=
  if config.usesImplicitDocuments then
    [projectRoot base]
  else
    (configuredGroups config).flatMap (fun group =>
      group.2.paths.map (fun configured =>
        staticPrefix (joinPath base configured)))

theorem owners_implicit
    (hbase : PlainBase base)
    (himplicit : config.usesImplicitDocuments = true)
    {path : FilePath}
    (hpath : Named path)
    (assignment : SourceAssignment) :
    owners glob base config path = [assignment] ↔
      projectRoot base <+: path ∧ hasDsqlExtension path = true ∧
        assignment = ⟨"default", .dsql⟩ := by
  have hroot := components_eq_self (named_projectRoot hbase)
  have hstart := startsWith_named hpath (projectRoot base)
  rw [hroot] at hstart
  unfold owners
  rw [himplicit, if_pos rfl, ← hstart]
  split
  · next hcond =>
      rw [Bool.and_eq_true] at hcond
      simp [hcond.1, hcond.2, eq_comm]
  · next hcond =>
      rw [Bool.and_eq_true] at hcond
      constructor
      · intro hnil
        cases hnil
      · rintro ⟨hstarts, hextension, -⟩
        exact absurd ⟨hstarts, hextension⟩ hcond

theorem listedPath_named
    {path : FilePath}
    (h : Named path) : listedPath path = path := by
  have hcomponents := components_eq_self h
  rw [← hcomponents] at h
  have hlisted := listedPath_components h (.inl hcomponents.symm)
  rwa [hcomponents] at hlisted

/-- The files below a directory. -/
theorem collectDir_mem
    {path : FilePath}
    {files : List FilePath}
    {dsqlOnly : Bool}
    (hpath : Named path)
    (h : collectDir disk dsqlOnly reserved path = .ok files) :
    (∀ found ∈ files, disk.tree.isFileAt found = true ∧ path <+: found ∧
      (!dsqlOnly || hasDsqlExtension found) = true ∧
      ∀ above, path <+: above → above <+: found → above ≠ found →
        isReservedPath reserved above = false) ∧
    (∀ found, disk.tree.isFileAt found = true → path <+: found →
      found ≠ path → (!dsqlOnly || hasDsqlExtension found) = true →
      isReservedPath reserved found = false → found ∈ files) ∧
    Listable disk reserved path := by
  unfold collectDir at h
  rw [metadata_named disk hpath] at h
  cases hlookup : disk.tree.lookup path with
  | none =>
      rw [hlookup] at h
      cases h
      refine ⟨by simp, ?_, ?_⟩
      · intro found hfile hstarts
        obtain ⟨tree, htree⟩ := lookup_isSome_of_prefix hstarts hfile
        rw [hlookup] at htree
        cases htree
      · rintro found listable names entry hfound ⟨rest, rfl⟩ _
        rw [FileTree.lookup_append, hlookup] at hfound
        cases hfound
  | some tree =>
      rw [hlookup] at h
      cases tree with
      | file content =>
          cases h
          refine ⟨by simp, ?_, ?_⟩
          · intro found hfile hstarts hne
            obtain ⟨tree, htree⟩ :=
              lookup_isSome_of_prefix (List.prefix_refl found) hfile
            exact absurd (eq_of_prefix_of_file hlookup hstarts htree) hne
          · intro found listable names entry hfound hstarts _
            rw [eq_of_prefix_of_file hlookup hstarts hfound, hlookup] at hfound
            cases hfound
      | directory listable names entry =>
          simp only [listedPath_named hpath] at h
          have hwalk := readError_ok h
          refine ⟨?_, ?_, listable_of_walk hlookup hwalk⟩
          · intro found hfound
            obtain ⟨hkeep, hstarts, hfile⟩ :=
              file_of_walk_mem hlookup hwalk hfound
            exact ⟨hfile, hstarts, hkeep, fun above hstart habove hne =>
              entered_of_walk_mem hwalk hfound hstart habove hne⟩
          · intro found hfile hstarts _ hkeep hreserved
            exact walk_mem_of_file hlookup hwalk hkeep hstarts hfile hreserved

theorem collectDir_ok
    {path : FilePath}
    {dsqlOnly : Bool}
    (hpath : Named path)
    (h : Listable disk reserved path) :
    ∃ files, collectDir disk dsqlOnly reserved path = .ok files := by
  unfold collectDir
  rw [metadata_named disk hpath]
  cases hlookup : disk.tree.lookup path with
  | none => exact ⟨[], rfl⟩
  | some tree =>
      cases tree with
      | file content => exact ⟨[], rfl⟩
      | directory listable names entry =>
          simp only [listedPath_named hpath]
          obtain ⟨files, hfiles⟩ :
              ∃ files, FileTree.walk (enters reserved)
                (fun path => !dsqlOnly || hasDsqlExtension path) path
                (.directory listable names entry) = .ok files :=
            walk_ok hlookup h
          exact ⟨files, congrArg readError hfiles⟩

/-- Reserved roots that are disjoint from the directory of the project. -/
def Reservable (config : Config) (roots : List ReservedRoot) : Prop :=
  ∀ root ∈ roots, isReservable config (components root) = true

theorem isReservable_cons
    {root : ReservedRoot}
    (h : isReservable config root = true) :
    ∃ name rest, root = name :: rest ∧ name ≠ "dsql" := by
  unfold isReservable isOutsideProject at h
  rw [Bool.and_eq_true] at h
  have hproject := h.1
  cases root with
  | nil => simp at hproject
  | cons name rest =>
      refine ⟨name, rest, rfl, ?_⟩
      rintro rfl
      simp at hproject

/-- Below the directory of the project only the build directory is
reserved. -/
theorem build_of_isReservedPath
    {excludeRoots : List ReservedRoot}
    (hbase : PlainBase base)
    (hroots : Reservable config (config.outputs ++ excludeRoots))
    {path : FilePath}
    (hpath : Named path)
    (hstarts : projectRoot base <+: path)
    (h : isReservedPath (reservedPaths base config excludeRoots) path = true) :
    projectRoot base ++ ["build"] <+: path := by
  unfold isReservedPath reservedPaths at h
  rw [List.any_cons, Bool.or_eq_true, startsWith_named hpath,
    List.any_eq_true] at h
  rcases h with h | ⟨start, hstart, h⟩
  · rwa [components_append, components_eq_self (named_projectRoot hbase)] at h
  · exfalso
    obtain ⟨root, hroot, rfl⟩ := List.mem_map.mp hstart
    obtain ⟨name, rest, hcomponents, hname⟩ :=
      isReservable_cons (hroots root hroot)
    rw [startsWith_named hpath, components_append,
      components_eq_self hbase.named, hcomponents] at h
    obtain ⟨below, rfl⟩ := hstarts
    unfold projectRoot at h
    rw [List.append_assoc, List.prefix_append_right_inj,
      List.singleton_append, List.cons_prefix_cons] at h
    exact hname h.1

theorem ownedSources_implicit
    {excludeRoots : List ReservedRoot}
    (hbase : PlainBase base)
    (hroots : Reservable config (config.outputs ++ excludeRoots))
    (himplicit : config.usesImplicitDocuments = true)
    {owned : List OwnedSource}
    (h : ownedSources glob disk base config
      (reservedPaths base config excludeRoots) = .ok owned) :
    (owned.map OwnedSource.path).Nodup ∧
      (∀ source, source ∈ owned ↔
        disk.tree.isFileAt source.path = true ∧
        isReservedPath (reservedPaths base config excludeRoots) source.path =
          false ∧
        source.assignment ∈ owners glob base config source.path) ∧
      Listable disk (reservedPaths base config excludeRoots)
        (projectRoot base) := by
  unfold ownedSources at h
  rw [if_pos himplicit] at h
  obtain ⟨files, hfiles, h⟩ := except_bind_ok h
  obtain rfl := (Except.ok.inj h).symm
  obtain ⟨hsound, hcomplete, hlistable⟩ :=
    collectDir_mem (named_projectRoot hbase) hfiles
  obtain ⟨hnodup, hmem⟩ :=
    distinctPaths_mem (fun path hpath => named_of_file (hsound path hpath).1)
  have hroot : hasDsqlExtension (projectRoot base) = false := by
    unfold hasDsqlExtension projectRoot
    rw [List.getLast?_concat]
    decide
  have hbuild : hasDsqlExtension (projectRoot base ++ ["build"]) = false := by
    unfold hasDsqlExtension
    rw [List.getLast?_concat]
    decide
  refine ⟨?_, ?_, hlistable⟩
  · have hid : OwnedSource.path ∘
        (fun path => OwnedSource.mk path ⟨"default", .dsql⟩) = id := rfl
    rw [List.map_map, hid, List.map_id]
    exact hnodup
  · intro source
    rw [List.mem_map]
    constructor
    · rintro ⟨path, hpath, rfl⟩
      obtain ⟨hfile, hstarts, hextension, hentered⟩ :=
        hsound path ((hmem path).mp hpath)
      have hnamed := named_of_file hfile
      refine ⟨hfile, ?_, ?_⟩
      · rw [← Bool.not_eq_true]
        intro hreserved
        have hbelow := build_of_isReservedPath hbase hroots hnamed hstarts
          hreserved
        -- a walk does not list the build directory
        have hopen := hentered (projectRoot base ++ ["build"])
          (List.prefix_append ..) hbelow (by
            rintro rfl
            have hkept : hasDsqlExtension (projectRoot base ++ ["build"]) =
              true := hextension
            rw [hbuild] at hkept
            cases hkept)
        have hself : isReservedPath (reservedPaths base config excludeRoots)
            (projectRoot base ++ ["build"]) = true := by
          unfold isReservedPath reservedPaths startsWith
          rw [List.any_cons, Bool.or_eq_true]
          exact .inl (List.isPrefixOf_iff_prefix.mpr (List.prefix_refl _))
        rw [hself] at hopen
        cases hopen
      · rw [(owners_implicit hbase himplicit hnamed _).mpr
          ⟨hstarts, hextension, rfl⟩]
        exact List.mem_singleton.mpr rfl
    · rintro ⟨hfile, hreserved, howner⟩
      have hsingle : owners glob base config source.path =
          [source.assignment] := by
        unfold owners at howner ⊢
        rw [if_pos himplicit] at howner ⊢
        split at howner
        · next hcond =>
            rw [if_pos hcond, List.mem_singleton.mp howner]
        · cases howner
      obtain ⟨hstarts, hextension, hassignment⟩ :=
        (owners_implicit hbase himplicit (named_of_file hfile) _).mp hsingle
      refine ⟨source.path, (hmem source.path).mpr
        (hcomplete source.path hfile hstarts ?_ hextension hreserved), ?_⟩
      · intro heq
        rw [heq, hroot] at hextension
        cases hextension
      · rw [← hassignment]

/-- A group that is collected has every configured path of it collected. -/
theorem collect_of_collectDocumentGroups
    {groups : List (String × DocumentConfig)}
    {owned result : List OwnedSource}
    (h : collectDocumentGroups glob disk base reserved groups owned =
      .ok result)
    {group : String × DocumentConfig}
    (hgroup : group ∈ groups)
    {configured : String}
    (hconfigured : configured ∈ group.2.paths) :
    ∃ files, collectConfiguredPath glob disk reserved
      (joinPath base configured) = .ok files := by
  induction groups generalizing owned with
  | nil => cases hgroup
  | cons first groups ih =>
      rw [collectDocumentGroups] at h
      obtain ⟨next, hfirst, h⟩ := except_bind_ok h
      rcases List.mem_cons.mp hgroup with rfl | hgroup
      · unfold collectDocumentGroup at hfirst
        obtain ⟨files, hfiles, -⟩ := except_bind_ok hfirst
        exact mapM_ok_forall group.2.paths hfiles configured hconfigured
      · exact ih h hgroup

theorem ownedSources_configured
    (hglob : GlobLaws glob)
    (hplain : PlainConfig disk base config)
    (hconfigured : config.usesImplicitDocuments = false)
    {owned : List OwnedSource}
    (h : ownedSources glob disk base config reserved = .ok owned) :
    (owned.map OwnedSource.path).Nodup ∧
      ∀ source, source ∈ owned ↔
        disk.tree.isFileAt source.path = true ∧
        isReservedPath reserved source.path = false ∧
        source.assignment ∈ owners glob base config source.path := by
  unfold ownedSources at h
  rw [if_neg (by rw [hconfigured]; simp)] at h
  obtain ⟨hnodup, hmem⟩ := collectDocumentGroups_mem hglob hplain
    (by simp) (by simp) h
  refine ⟨hnodup, fun source => ?_⟩
  rw [hmem]
  unfold owners IsGroupFile
  rw [if_neg (by rw [hconfigured]; simp)]
  constructor
  · rintro (hnil | ⟨group, hgroup, hassignment, hfile, hreserved, hcovers⟩)
    · cases hnil
    · refine ⟨hfile, hreserved, List.mem_map.mpr ⟨group,
        List.mem_filter.mpr ⟨hgroup, hcovers⟩, hassignment.symm⟩⟩
  · rintro ⟨hfile, hreserved, howner⟩
    obtain ⟨group, hgroup, hassignment⟩ := List.mem_map.mp howner
    obtain ⟨hgroup, hcovers⟩ := List.mem_filter.mp hgroup
    exact .inr ⟨group, hgroup, hassignment.symm, hfile, hreserved, hcovers⟩

/-- The sources of a load are the files of an owner outside the reserved
roots. -/
theorem ownedSources_mem
    {excludeRoots : List ReservedRoot}
    (hglob : GlobLaws glob)
    (hbase : PlainBase base)
    (hplain : PlainConfig disk base config)
    (hroots : Reservable config (config.outputs ++ excludeRoots))
    {owned : List OwnedSource}
    (h : ownedSources glob disk base config
      (reservedPaths base config excludeRoots) = .ok owned) :
    (owned.map OwnedSource.path).Nodup ∧
      ∀ source, source ∈ owned ↔
        disk.tree.isFileAt source.path = true ∧
        isReservedPath (reservedPaths base config excludeRoots) source.path =
          false ∧
        source.assignment ∈ owners glob base config source.path := by
  cases himplicit : config.usesImplicitDocuments with
  | true =>
      obtain ⟨hnodup, hmem, -⟩ :=
        ownedSources_implicit hbase hroots himplicit h
      exact ⟨hnodup, hmem⟩
  | false => exact ownedSources_configured hglob hplain himplicit h

/-- A load lists every directory below its roots. -/
theorem listable_of_ownedSources
    {excludeRoots : List ReservedRoot}
    (hglob : GlobLaws glob)
    (hbase : PlainBase base)
    (hplain : PlainConfig disk base config)
    (hroots : Reservable config (config.outputs ++ excludeRoots))
    {owned : List OwnedSource}
    (h : ownedSources glob disk base config
      (reservedPaths base config excludeRoots) = .ok owned)
    {root : FilePath}
    (hroot : root ∈ scanRoots base config) :
    Listable disk (reservedPaths base config excludeRoots) root := by
  unfold scanRoots at hroot
  cases himplicit : config.usesImplicitDocuments with
  | true =>
      rw [if_pos himplicit, List.mem_singleton] at hroot
      rw [hroot]
      exact (ownedSources_implicit hbase hroots himplicit h).2.2
  | false =>
      rw [if_neg (by rw [himplicit]; simp)] at hroot
      obtain ⟨group, hgroup, hroot⟩ := List.mem_flatMap.mp hroot
      obtain ⟨configured, hconfigured, rfl⟩ := List.mem_map.mp hroot
      unfold ownedSources at h
      rw [if_neg (by rw [himplicit]; simp)] at h
      obtain ⟨files, hfiles⟩ :=
        collect_of_collectDocumentGroups h hgroup hconfigured
      exact (collectConfiguredPath_mem hglob
        (hplain group hgroup configured hconfigured) hfiles).2.2

end Documents

end Daemon

end Dsql
