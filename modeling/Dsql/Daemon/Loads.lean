import Dsql.Daemon.LoadedSources

/-!
# Full loads

A full load yields the documents of the disk, each once, and it succeeds when
nothing that it looks at stands in its way.
-/

namespace Dsql

namespace Daemon

section Documents

variable {glob : GlobLibrary} {disk : Disk} {base : FilePath}
variable {config : Config} {excludeRoots : List ReservedRoot}

theorem dedup_eq_singleton
    {α : Type}
    [DecidableEq α]
    {items : List α}
    {item : α}
    (hmem : item ∈ items)
    (h : ∀ other ∈ items, other = item) :
    items.dedup = [item] := by
  refine List.perm_singleton.mp ?_
  refine (List.perm_ext_iff_of_nodup (List.nodup_dedup items)
    (List.nodup_singleton item)).mpr ?_
  intro other
  rw [List.mem_dedup, List.mem_singleton]
  constructor
  · exact h other
  · rintro rfl
    exact hmem

theorem ownerOf_mem
    {path : FilePath}
    {assignment : SourceAssignment}
    (h : ownerOf glob base config path = some assignment) :
    assignment ∈ owners glob base config path := by
  unfold ownerOf at h
  split at h
  · next found hfound =>
      cases h
      rw [← List.mem_dedup, hfound]
      exact List.mem_singleton.mpr rfl
  · cases h

theorem readDocument_ok
    {source : OwnedSource}
    (hnamed : Named source.path)
    (document : Document) :
    readDocument disk source = .ok document ↔
      ∃ text, disk.tree.fileAt source.path = some (.text text) ∧
        document = ⟨source.path, text, source.assignment.scope,
          source.assignment.kind⟩ := by
  unfold readDocument
  rw [metadata_named disk hnamed]
  have hfile : (disk.tree.lookup source.path).bind FileTree.asFile =
      disk.tree.fileAt source.path := rfl
  rw [hfile]
  cases disk.tree.fileAt source.path with
  | none => simp
  | some content =>
      cases content with
      | text text => simp [eq_comm]
      | binary identity => simp
      | unreadable => simp

/-- What a load needs of a path: a file with an owner has one owner and is a
text, and a directory below a root can be listed. -/
structure Loadable
    (glob : GlobLibrary)
    (disk : Disk)
    (base : FilePath)
    (config : Config)
    (excludeRoots : List ReservedRoot)
    (path : TreePath) : Prop where
  readable : ∀ content, disk.tree.fileAt path = some content →
    isReservedPath (reservedPaths base config excludeRoots) path = false →
    owners glob base config path ≠ [] →
    (∃ text, content = .text text) ∧
      ∃ assignment, ownerOf glob base config path = some assignment
  listable : ∀ listable names entry,
    disk.tree.lookup path = some (.directory listable names entry) →
    isReservedPath (reservedPaths base config excludeRoots) path = false →
    (∃ root ∈ scanRoots base config, root <+: path) →
    listable = true

/-- A source of a load is the only owner of its file. -/
theorem ownerOf_of_source
    {owned : List OwnedSource}
    (hnodup : (owned.map OwnedSource.path).Nodup)
    (hmem : ∀ source, source ∈ owned ↔
      disk.tree.isFileAt source.path = true ∧
      isReservedPath (reservedPaths base config excludeRoots) source.path =
        false ∧
      source.assignment ∈ owners glob base config source.path)
    {source : OwnedSource}
    (hsource : source ∈ owned) :
    ownerOf glob base config source.path = some source.assignment := by
  obtain ⟨hfile, hreserved, howner⟩ := (hmem source).mp hsource
  have hall : ∀ other ∈ owners glob base config source.path,
      other = source.assignment := by
    intro other hother
    have hmate := (hmem ⟨source.path, other⟩).mpr ⟨hfile, hreserved, hother⟩
    have heq := List.inj_on_of_nodup_map hnodup hmate hsource rfl
    rw [← heq]
  unfold ownerOf
  rw [dedup_eq_singleton howner hall]

/-- The documents of a load are the sources of the disk, each of them once, and
nothing stood in its way. -/
theorem loadProjectDocuments_mem
    (hglob : GlobLaws glob)
    (hbase : PlainBase base)
    (hplain : PlainConfig disk base config)
    (hroots : Reservable config (config.outputs ++ excludeRoots))
    {documents : List Document}
    (h : loadProjectDocuments glob disk base config excludeRoots =
      .ok documents) :
    (documents.map Document.path).Nodup ∧
      (∀ document, document ∈ documents ↔
        sourceAt glob disk base config excludeRoots document.path =
          some document) ∧
      ∀ path, Loadable glob disk base config excludeRoots path := by
  unfold loadProjectDocuments at h
  obtain ⟨owned, howned, hdocuments⟩ := except_bind_ok h
  obtain ⟨hnodup, hmem⟩ := ownedSources_mem hglob hbase hplain hroots howned
  have hnamed : ∀ source ∈ owned, Named source.path :=
    fun source hsource => named_of_file ((hmem source).mp hsource).1
  have hpaths : documents.map Document.path = owned.map OwnedSource.path := by
    refine mapM_ok_map ?_ owned hdocuments
    intro source document hread
    unfold readDocument at hread
    split at hread
    · cases hread
      rfl
    · cases hread
  refine ⟨by rw [hpaths]; exact hnodup, ?_, ?_⟩
  · intro document
    rw [mapM_ok_mem owned hdocuments, sourceAt_eq_some]
    constructor
    · rintro ⟨source, hsource, hread⟩
      obtain ⟨text, htext, rfl⟩ :=
        (readDocument_ok (hnamed source hsource) document).mp hread
      exact ⟨((hmem source).mp hsource).2.1, source.assignment, text,
        ownerOf_of_source hnodup hmem hsource, htext, rfl⟩
    · rintro ⟨hreserved, assignment, text, howner, htext, heq⟩
      have hsource : OwnedSource.mk document.path assignment ∈ owned := by
        refine (hmem _).mpr ⟨?_, hreserved, ownerOf_mem howner⟩
        unfold FileTree.isFileAt
        rw [htext]
        rfl
      exact ⟨_, hsource, (readDocument_ok (hnamed _ hsource) document).mpr
        ⟨text, htext, heq⟩⟩
  · intro path
    constructor
    · intro content hcontent hreserved hne
      obtain ⟨assignment, hassignment⟩ :=
        List.exists_mem_of_ne_nil _ hne
      have hsource : OwnedSource.mk path assignment ∈ owned := by
        refine (hmem _).mpr ⟨?_, hreserved, hassignment⟩
        unfold FileTree.isFileAt
        rw [hcontent]
        rfl
      obtain ⟨document, hread⟩ :=
        mapM_ok_forall owned hdocuments _ hsource
      obtain ⟨text, htext, -⟩ :=
        (readDocument_ok (hnamed _ hsource) document).mp hread
      rw [hcontent] at htext
      exact ⟨⟨text, Option.some.inj htext⟩,
        assignment, ownerOf_of_source hnodup hmem hsource⟩
    · rintro listable names entry hlookup hreserved ⟨root, hroot, hstarts⟩
      exact listable_of_ownedSources hglob hbase hplain hroots howned hroot
        path listable names entry hlookup hstarts hreserved

/-- The patterns of a configuration parse. -/
def PatternsParse
    (glob : GlobLibrary)
    (base : FilePath)
    (config : Config) : Prop :=
  config.usesImplicitDocuments = false →
    ∀ group ∈ configuredGroups config, ∀ configured ∈ group.2.paths,
      patternParses glob (joinPath base configured) = true

theorem patternsParse_of_load
    {documents : List Document}
    (h : loadProjectDocuments glob disk base config excludeRoots =
      .ok documents) :
    PatternsParse glob base config := by
  intro himplicit group hgroup configured hconfigured
  unfold loadProjectDocuments at h
  obtain ⟨owned, howned, -⟩ := except_bind_ok h
  unfold ownedSources at howned
  rw [if_neg (by rw [himplicit]; simp)] at howned
  obtain ⟨files, hfiles⟩ :=
    collect_of_collectDocumentGroups howned hgroup hconfigured
  exact patternParses_of_collect hfiles

/-- Two items of a list do not both satisfy a property that holds of one at
most. -/
theorem pairwise_of_filter_length
    {α : Type}
    {p : α → Bool}
    {items : List α}
    (h : (items.filter p).length ≤ 1) :
    items.Pairwise (fun first second => p first = true → ¬p second = true) := by
  rw [List.pairwise_iff_forall_sublist]
  intro first second hsublist hfirst hsecond
  have hfiltered := (hsublist.filter p).length_le
  rw [List.filter_cons_of_pos hfirst, List.filter_cons_of_pos hsecond]
    at hfiltered
  simp only [List.filter_nil, List.length_cons, List.length_nil] at hfiltered
  omega

/-- No file has two groups. -/
theorem groups_disjoint
    (himplicit : config.usesImplicitDocuments = false)
    (hloadable : ∀ path, Loadable glob disk base config excludeRoots path)
    (hsingle : ∀ path, disk.tree.isFileAt path = true →
      (owners glob base config path).Nodup) :
    (configuredGroups config).Pairwise (fun group other => ∀ path,
      IsGroupFile glob disk base (reservedPaths base config excludeRoots)
        group path →
      ¬IsGroupFile glob disk base (reservedPaths base config excludeRoots)
        other path) := by
  rw [List.pairwise_iff_forall_sublist]
  rintro group other hsublist path ⟨hfile, hreserved, hcovers⟩
    ⟨-, -, hother⟩
  have howners : owners glob base config path =
      ((configuredGroups config).filter (groupCovers glob base path)).map
        configuredAssignment := by
    unfold owners
    rw [if_neg (by rw [himplicit]; simp)]
  have hne : owners glob base config path ≠ [] := by
    rw [howners]
    refine List.ne_nil_of_mem (List.mem_map.mpr ⟨group,
      List.mem_filter.mpr ⟨hsublist.subset List.mem_cons_self, hcovers⟩, rfl⟩)
  obtain ⟨content, hcontent⟩ := Option.isSome_iff_exists.mp hfile
  obtain ⟨-, assignment, howner⟩ :=
    (hloadable path).readable content hcontent hreserved hne
  have hlength : ((configuredGroups config).filter
      (groupCovers glob base path)).length ≤ 1 := by
    unfold ownerOf at howner
    split at howner
    · next found hfound =>
        have hnodup := hsingle path hfile
        rw [List.dedup_eq_self.mpr hnodup, howners] at hfound
        have hcount := congrArg List.length hfound
        rw [List.length_map] at hcount
        exact hcount.le
    · cases howner
  exact List.pairwise_iff_forall_sublist.mp (pairwise_of_filter_length hlength)
    hsublist hcovers hother

/-- The documents are loaded when every path is loadable, the patterns parse
and no file has two groups. -/
theorem loadProjectDocuments_ok
    (hglob : GlobLaws glob)
    (hbase : PlainBase base)
    (hplain : PlainConfig disk base config)
    (hroots : Reservable config (config.outputs ++ excludeRoots))
    (hparses : PatternsParse glob base config)
    (hloadable : ∀ path, Loadable glob disk base config excludeRoots path)
    (hsingle : ∀ path, disk.tree.isFileAt path = true →
      (owners glob base config path).Nodup) :
    ∃ documents, loadProjectDocuments glob disk base config excludeRoots =
      .ok documents := by
  have hlistable : ∀ root ∈ scanRoots base config,
      Listable disk (reservedPaths base config excludeRoots) root := by
    intro root hroot path listable names entry hlookup hstarts hreserved
    exact (hloadable path).listable listable names entry hlookup hreserved
      ⟨root, hroot, hstarts⟩
  have howned : ∃ owned, ownedSources glob disk base config
      (reservedPaths base config excludeRoots) = .ok owned := by
    unfold ownedSources
    cases himplicit : config.usesImplicitDocuments with
    | true =>
        rw [if_pos rfl]
        have hroot : Listable disk (reservedPaths base config excludeRoots)
            (projectRoot base) := by
          refine hlistable (projectRoot base) ?_
          unfold scanRoots
          rw [if_pos himplicit]
          exact List.mem_singleton.mpr rfl
        obtain ⟨files, hfiles⟩ := collectDir_ok (named_projectRoot hbase) hroot
        rw [hfiles]
        exact ⟨_, rfl⟩
    | false =>
        rw [if_neg (by simp)]
        refine collectDocumentGroups_ok hglob hplain ?_
          (groups_disjoint himplicit hloadable hsingle)
          (by simp) (by simp) (by simp)
        intro group hgroup configured hconfigured
        refine collectConfiguredPath_ok (hplain group hgroup configured
          hconfigured) (hparses himplicit group hgroup configured hconfigured)
          (hlistable _ ?_)
        unfold scanRoots
        rw [if_neg (by rw [himplicit]; simp)]
        exact List.mem_flatMap.mpr ⟨group, hgroup,
          List.mem_map.mpr ⟨configured, hconfigured, rfl⟩⟩
  obtain ⟨owned, howned⟩ := howned
  obtain ⟨-, hmem⟩ := ownedSources_mem hglob hbase hplain hroots howned
  obtain ⟨documents, hdocuments⟩ : ∃ documents,
      owned.mapM (readDocument disk) = .ok documents := by
    refine mapM_ok_of_forall owned ?_
    intro source hsource
    obtain ⟨hfile, hreserved, howner⟩ := (hmem source).mp hsource
    obtain ⟨content, hcontent⟩ := Option.isSome_iff_exists.mp hfile
    obtain ⟨⟨text, rfl⟩, -⟩ := (hloadable source.path).readable content
      hcontent hreserved (List.ne_nil_of_mem howner)
    exact ⟨_, (readDocument_ok (named_of_file hfile) _).mpr
      ⟨text, hcontent, rfl⟩⟩
  refine ⟨documents, ?_⟩
  unfold loadProjectDocuments
  rw [howned]
  exact hdocuments

end Documents

end Daemon

end Dsql
