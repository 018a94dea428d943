import Dsql.Daemon.Batches

/-!
# What a session has up to date

A request leaves a session whose documents are right at the paths that were
right before it and at the paths that it brings up to date; a reload leaves one
that is right everywhere.
-/

namespace Dsql

namespace Daemon

namespace Session

/-- The documents of a session, and what stands in the way of a load, at the
paths that are up to date. -/
structure Tracked
    (library : ProjectLibrary)
    (session : Session)
    (disk : Disk)
    (current : TreePath → Prop) : Prop where
  owned : session.WellOwned library session.documents
  agrees : ∀ path, Named path → current path →
    session.AgreesAt library disk session.documents path
  loadable : ∀ path, current path → session.LoadableAt library disk path

section Disk

variable {library : ProjectLibrary} {session : Session}

theorem sourceAt_of_entry
    {disk other : Disk}
    {path : FilePath}
    (h : disk.tree.entryAt path = other.tree.entryAt path) :
    session.sourceAt library disk path =
      session.sourceAt library other path := by
  unfold sourceAt Daemon.sourceAt
  rw [FileTree.fileAt_of_entryAt_eq h]

/-- Whether a path can be loaded depends on its own entry only. -/
theorem loadableAt_of_entry
    {disk other : Disk}
    {path : FilePath}
    (h : disk.tree.entryAt path = other.tree.entryAt path)
    (hloadable : session.LoadableAt library disk path) :
    session.LoadableAt library other path := by
  constructor
  · intro content hfile
    rw [← FileTree.fileAt_of_entryAt_eq h] at hfile
    exact hloadable.readable content hfile
  · intro listable names entry hlookup
    have hentry : disk.tree.entryAt path = some (.directory listable) := by
      rw [h]
      unfold FileTree.entryAt
      rw [hlookup]
      rfl
    unfold FileTree.entryAt at hentry
    cases hthere : disk.tree.lookup path with
    | none => rw [hthere] at hentry; cases hentry
    | some tree =>
        cases tree with
        | file content => rw [hthere] at hentry; cases hentry
        | directory found others children =>
            rw [hthere] at hentry
            cases hentry
            exact hloadable.listable listable others children hthere

/-- Paths whose entry did not change stay up to date. -/
theorem Tracked.on
    {disk other : Disk}
    {current : TreePath → Prop}
    (h : session.Tracked library disk current) :
    session.Tracked library other (fun path =>
      current path ∧ disk.tree.entryAt path = other.tree.entryAt path) := by
  refine ⟨h.owned, ?_, ?_⟩
  · rintro path hnamed ⟨hcurrent, hentry⟩ document hpath
    rw [← sourceAt_of_entry hentry]
    exact h.agrees path hnamed hcurrent document hpath
  · rintro path ⟨hcurrent, hentry⟩
    exact loadableAt_of_entry hentry (h.loadable path hcurrent)

theorem Tracked.mono
    {disk : Disk}
    {current fewer : TreePath → Prop}
    (h : session.Tracked library disk current)
    (hfewer : ∀ path, fewer path → current path) :
    session.Tracked library disk fewer :=
  ⟨h.owned, fun path hnamed hpath => h.agrees path hnamed (hfewer path hpath),
    fun path hpath => h.loadable path (hfewer path hpath)⟩

end Disk

section Apply

variable {library : ProjectLibrary} {session : Session} {disk : Disk}

/-- What a session and another one share: everything but the documents'
outcomes and the match lock. -/
def SameProject (session other : Session) : Prop :=
  session.base = other.base ∧ session.excludeRoots = other.excludeRoots ∧
    session.config = other.config ∧ session.resident = other.resident

theorem tracked_of_same
    {other : Session}
    {current : TreePath → Prop}
    (hsame : SameProject session other)
    (h : session.Tracked library disk current) :
    other.Tracked library disk current := by
  obtain ⟨base, excludeRoots, config, resident, last, lock⟩ := session
  obtain ⟨otherBase, otherRoots, otherConfig, otherResident, otherLast,
    otherLock⟩ := other
  obtain ⟨hbase, hroots, hconfig, hresident⟩ := hsame
  cases hbase
  cases hroots
  cases hconfig
  cases hresident
  exact ⟨⟨h.owned.once, h.owned.named, h.owned.outside, h.owned.owned⟩,
    h.agrees, h.loadable⟩

theorem sameProject_withLock
    (session : Session)
    (lock : Option (Option String)) :
    SameProject session (session.withLock lock) := by
  cases lock with
  | none => exact ⟨rfl, rfl, rfl, rfl⟩
  | some lock => exact ⟨rfl, rfl, rfl, rfl⟩

theorem sameProject_record (session : Session) (outcome : Outcome) :
    SameProject session (session.record outcome) := by
  cases outcome with
  | success result lock => exact ⟨rfl, rfl, rfl, rfl⟩
  | error error published =>
      cases published with
      | none => exact ⟨rfl, rfl, rfl, rfl⟩
      | some lock => exact ⟨rfl, rfl, rfl, rfl⟩

/-- An incremental batch brings the paths that it follows up to date. -/
theorem tracked_upserts
    (hglob : GlobLaws library.glob)
    (hbase : PlainBase session.base)
    {documents : List Document}
    (hresident : session.resident = some documents)
    {changes : List (FilePath × String)}
    {current followed : TreePath → Prop}
    (h : session.Tracked library disk current)
    (hfollows : session.Follows library disk changes followed) :
    ({ session with
        resident :=
          some (changes.foldl (session.upsert library) documents) } :
      Session).Tracked library disk
        (fun path => followed path ∨ current path) := by
  have hdocuments : session.documents = documents := by
    unfold Session.documents
    rw [hresident]
    rfl
  rw [← hdocuments]
  obtain ⟨howned, -⟩ :=
    upserts_mem hglob hbase hfollows.sources h.owned
  refine ⟨⟨howned.once, howned.named, howned.outside, howned.owned⟩, ?_, ?_⟩
  · rintro path hnamed hpath
    refine agrees_of_handled hglob hbase hfollows.sources h.owned ?_
    rcases hpath with hpath | hpath
    · exact hfollows.handled path hnamed hpath
    · exact .inr (h.agrees path hnamed hpath)
  · rintro path (hpath | hpath)
    · exact hfollows.loadable path hpath
    · exact h.loadable path hpath

theorem components_idem (path : FilePath) :
    components (components path) = components path := by
  unfold components
  rw [List.filter_filter]
  simp

theorem validateReservedRoot_ok
    {config : Config}
    {output : List String}
    {root : ReservedRoot}
    (h : validateReservedRoot config output = .ok root) :
    root = components output ∧
      isReservable config (components output) = true := by
  obtain ⟨hroot, -, hreservable⟩ := validateReservedRoot_eq_ok h
  exact ⟨hroot, hreservable⟩

/-- What the configuration and the catalog have to be for a load. -/
structure LoadsConfig
    (library : ProjectLibrary)
    (session : Session)
    (disk : Disk) : Prop where
  config : loadConfig library disk session.base = .ok session.config
  roots : ∃ roots, session.excludeRoots.mapM
    (validateReservedRoot session.config) = .ok roots
  catalog : library.loadCatalog disk session.base session.config = .ok ()
  registry : library.extractionRegistry session.config = .ok ()
  parses : PatternsParse library.glob session.base session.config

/-- The reserved roots of a loaded project are disjoint from its directory. -/
theorem LoadsConfig.reservable
    (h : session.LoadsConfig library disk) :
    Reservable session.config
      (session.config.outputs ++ session.excludeRoots) := by
  intro root hroot
  rcases List.mem_append.mp hroot with hroot | hroot
  · have hconfig := h.config
    unfold loadConfig at hconfig
    obtain ⟨parsed, -, hconfig⟩ := except_bind_ok hconfig
    obtain ⟨outputs, houtputs, hconfig⟩ := except_bind_ok hconfig
    have hsession := Except.ok.inj hconfig
    rw [← hsession] at hroot ⊢
    obtain ⟨output, -, hvalid⟩ :=
      (mapM_ok_mem parsed.outputs houtputs root).mp hroot
    obtain ⟨rfl, hreservable⟩ := validateReservedRoot_ok hvalid
    rw [components_idem]
    exact hreservable
  · obtain ⟨roots, hroots⟩ := h.roots
    obtain ⟨found, hvalid⟩ :=
      mapM_ok_forall session.excludeRoots hroots root hroot
    exact (validateReservedRoot_ok hvalid).2

theorem loadProject_ok
    {loaded : LoadedProject}
    (h : loadProject library disk session.base session.excludeRoots =
      .ok loaded) :
    ({ session with config := loaded.config } : Session).LoadsConfig library
        disk ∧
      loadProjectDocuments library.glob disk session.base loaded.config
        session.excludeRoots = .ok loaded.documents := by
  unfold loadProject at h
  obtain ⟨config, hconfig, h⟩ := except_bind_ok h
  obtain ⟨roots, hroots, h⟩ := except_bind_ok h
  obtain ⟨catalog, hcatalog, h⟩ := except_bind_ok h
  obtain ⟨documents, hdocuments, h⟩ := except_bind_ok h
  obtain ⟨registry, hregistry, h⟩ := except_bind_ok h
  cases h
  exact ⟨⟨hconfig, ⟨roots, hroots⟩, hcatalog, hregistry,
    patternsParse_of_load hdocuments⟩, hdocuments⟩

/-- A reload brings every path up to date. -/
theorem tracked_reload
    (hglob : GlobLaws library.glob)
    (hbase : PlainBase session.base)
    (hplain : ∀ config, loadConfig library disk session.base = .ok config →
      PlainConfig disk session.base config)
    {reloaded : Session}
    (h : session.reload library disk = .ok reloaded) :
    reloaded.base = session.base ∧
      reloaded.excludeRoots = session.excludeRoots ∧
      reloaded.Tracked library disk (fun _ => True) ∧
      reloaded.LoadsConfig library disk := by
  unfold reload at h
  obtain ⟨loaded, hloaded, h⟩ := except_bind_ok h
  cases h
  obtain ⟨hconfig, hdocuments⟩ := loadProject_ok hloaded
  obtain ⟨hnodup, hmem, hloadable⟩ := loadProjectDocuments_mem hglob hbase
    (hplain loaded.config hconfig.config) hconfig.reservable hdocuments
  have hsource : ∀ document ∈ loaded.documents,
      Daemon.sourceAt library.glob disk session.base loaded.config
        session.excludeRoots document.path = some document :=
    fun document hdocument => (hmem document).mp hdocument
  refine ⟨rfl, rfl, ⟨⟨hnodup, ?_, ?_, ?_⟩, ?_, fun path _ => hloadable path⟩,
    ⟨hconfig.config, hconfig.roots, hconfig.catalog, hconfig.registry,
      hconfig.parses⟩⟩
  · intro document hdocument
    obtain ⟨-, assignment, text, -, hfile, -⟩ :=
      sourceAt_eq_some.mp (hsource document hdocument)
    have hthere : disk.tree.isFileAt document.path = true := by
      unfold FileTree.isFileAt
      rw [hfile]
      rfl
    exact named_of_file hthere
  · intro document hdocument
    exact (sourceAt_eq_some.mp (hsource document hdocument)).1
  · intro document hdocument
    obtain ⟨-, assignment, text, howner, -, heq⟩ :=
      sourceAt_eq_some.mp (hsource document hdocument)
    have hassignment : assignment = ⟨document.scope, document.kind⟩ := by
      rw [heq]
    rw [← hassignment]
    exact howner
  · rintro path - - document rfl
    exact hmem document

end Apply

end Session

end Daemon

end Dsql
