import Dsql.Daemon.Runs

/-!
# What a reserved root takes from a project

A validated root contains no configured document path that is spelled by its
names, and the reservation takes from a load exactly the documents below the
root.
-/

namespace Dsql

namespace Daemon

/-- The paths of all document groups as they are written. -/
def documentPaths (config : Config) : List String :=
  (configuredGroups config).flatMap (fun group => group.2.paths)

/-- A configured path that does not go by names as deep as a root: it is
absolute, or an empty segment or a dot stands among its first segments. -/
def StepsAround (root : ReservedRoot) (configured : String) : Prop :=
  ∃ segment ∈ (Text.split '/' configured).take root.length,
    segment = "" ∨ segment = "."

/-- The paths at or below a reserved root. -/
def isBelowRoot (base : FilePath) (root : ReservedRoot) (path : FilePath) :
    Bool :=
  startsWith path (base ++ root)

/-- The load of a project under any list of reserved roots. -/
def documentsReserving
    (glob : GlobLibrary)
    (disk : Disk)
    (base : FilePath)
    (config : Config)
    (roots : List ReservedRoot) : Except ProjectError (List Document) := do
  let owned ← ownedSources glob disk base config
    ((projectRoot base ++ ["build"]) :: roots.map (fun root => base ++ root))
  owned.mapM (readDocument disk)

section Roots

variable {config : Config} {raw : List String} {root : ReservedRoot}

theorem validateReservedRoot_ok
    (h : validateReservedRoot config raw = .ok root) :
    isReservable config root = true ∧ Named root := by
  obtain ⟨rfl, hdots, hreservable⟩ := validateReservedRoot_eq_ok h
  refine ⟨hreservable, named_components ?_⟩
  intro hmem
  rw [List.contains_iff_mem.mpr hmem] at hdots
  cases hdots

theorem mem_documentPaths {configured : String} :
    configured ∈ documentPaths config ↔
      ∃ scope ∈ config.documentScopes, ∃ document ∈ scope.2,
        configured ∈ document.paths := by
  unfold documentPaths configuredGroups
  simp only [List.mem_flatMap, List.mem_map]
  constructor
  · rintro ⟨group, ⟨scope, hscope, document, hdocument, rfl⟩, hconfigured⟩
    exact ⟨scope, hscope, document, hdocument, hconfigured⟩
  · rintro ⟨scope, hscope, document, hdocument, hconfigured⟩
    exact ⟨(scope.1, document), ⟨scope, hscope, document, hdocument, rfl⟩,
      hconfigured⟩

/-- The validation compares a root with the text of every document path. -/
theorem literal_start_outside
    (h : validateReservedRoot config raw = .ok root)
    {configured : String}
    (hconfigured : configured ∈ documentPaths config) :
    ¬root <+: (Text.split '/' configured).takeWhile
      (fun segment => !hasWildcard segment) := by
  intro hstart
  obtain ⟨hreservable, hnamed⟩ := validateReservedRoot_ok h
  obtain ⟨name, rest, rfl, -⟩ := isReservable_cons hreservable
  obtain ⟨scope, hscope, document, hdocument, hpath⟩ :=
    mem_documentPaths.mp hconfigured
  unfold isReservable holdsNoDocuments at hreservable
  rw [Bool.and_eq_true] at hreservable
  have hscope := List.all_eq_true.mp hreservable.2 scope hscope
  have hdocument := List.all_eq_true.mp hscope document hdocument
  have hpath := List.all_eq_true.mp hdocument configured hpath
  simp only [Bool.not_eq_true', Bool.and_eq_false_iff, decide_eq_false_iff_not,
    not_not] at hpath
  rcases hpath with (hnil | hempty) | houtside
  · rw [hnil] at hstart
    exact absurd (List.prefix_nil.mp hstart) (List.cons_ne_nil _ _)
  · rw [hempty, List.cons_prefix_cons] at hstart
    exact (hnamed name List.mem_cons_self).1 hstart.1
  · rw [List.isPrefixOf_iff_prefix.mpr hstart] at houtside
    cases houtside

/-- Names in front of a path are read the same from its components and from
its text. -/
theorem prefix_literal_of_components
    (root : ReservedRoot)
    {segments : List String}
    (hplain : ∀ segment ∈ segments.take root.length,
      segment ≠ "" ∧ segment ≠ ".")
    (h : root <+: (components segments).takeWhile
      (fun segment => !hasWildcard segment)) :
    root <+: segments.takeWhile (fun segment => !hasWildcard segment) := by
  induction root generalizing segments with
  | nil => exact List.nil_prefix
  | cons name root ih =>
      cases segments with
      | nil => exact h
      | cons segment segments =>
          rw [List.length_cons, List.take_succ_cons] at hplain
          have hfirst := hplain segment List.mem_cons_self
          have hcomponents : components (segment :: segments) =
              segment :: components segments := by
            unfold components
            exact List.filter_cons_of_pos (by simp [hfirst.1, hfirst.2])
          rw [hcomponents] at h
          rw [List.takeWhile_cons] at h ⊢
          split at h
          · next hliteral =>
              rw [if_pos hliteral]
              rw [List.cons_prefix_cons] at h ⊢
              exact ⟨h.1, ih (fun other hother =>
                hplain other (List.mem_cons_of_mem segment hother)) h.2⟩
          · exact absurd (List.prefix_nil.mp h) (List.cons_ne_nil _ _)

theorem prefix_takeWhile_append
    {α : Type}
    {p : α → Bool}
    {before root after : List α}
    (h : before ++ root <+: (before ++ after).takeWhile p) :
    root <+: after.takeWhile p := by
  induction before with
  | nil => exact h
  | cons first before ih =>
      rw [List.cons_append, List.cons_append, List.takeWhile_cons] at h
      split at h
      · exact ih (List.cons_prefix_cons.mp h).2
      · exact absurd (List.prefix_nil.mp h) (List.cons_ne_nil _ _)

/-- A path text with a leading slash has an empty first segment. -/
theorem split_of_absolute
    {text rest : String}
    (h : Text.dropPrefix "/" text = some rest) :
    ∃ segments, Text.split '/' text = "" :: segments := by
  unfold Text.dropPrefix at h
  obtain ⟨chars, hchars, -⟩ := Option.map_eq_some_iff.mp h
  rw [List.dropPrefix?_eq_some_iff] at hchars
  obtain ⟨front, hfront, htext⟩ := hchars
  have hslash : front = [] ++ ['/'] := eq_of_beq htext
  refine ⟨(chars.splitOn '/').map String.ofList, ?_⟩
  unfold Text.split
  rw [hfront, hslash, List.append_assoc, List.singleton_append,
    List.splitOn_append_cons_self]
  rfl

/-- A configured path that goes by names does not start at or below a
validated root. -/
theorem staticPrefix_outside
    (h : validateReservedRoot config raw = .ok root)
    (base : FilePath)
    {configured : String}
    (hconfigured : configured ∈ documentPaths config)
    (hplain : ¬StepsAround root configured) :
    ¬components (base ++ root) <+:
      staticPrefix (joinPath base configured) := by
  intro hstart
  obtain ⟨hreservable, hnamed⟩ := validateReservedRoot_ok h
  have hsegments : ∀ segment ∈ (Text.split '/' configured).take root.length,
      segment ≠ "" ∧ segment ≠ "." := by
    intro segment hsegment
    exact not_or.mp (fun hspelled => hplain ⟨segment, hsegment, hspelled⟩)
  have hrelative : Text.dropPrefix "/" configured = none := by
    cases hdrop : Text.dropPrefix "/" configured with
    | none => rfl
    | some rest =>
        obtain ⟨segments, hsplit⟩ := split_of_absolute hdrop
        obtain ⟨name, later, rfl, -⟩ := isReservable_cons hreservable
        rw [hsplit] at hsegments
        exact absurd rfl (hsegments "" List.mem_cons_self).1
  have hjoin : joinPath base configured = base ++ Text.split '/' configured := by
    unfold joinPath
    rw [hrelative]
  unfold staticPrefix at hstart
  rw [hjoin, components_append, components_append,
    components_eq_self hnamed] at hstart
  exact literal_start_outside h hconfigured
    (prefix_literal_of_components root hsegments
      (prefix_takeWhile_append hstart))

end Roots

/-! ## Loads under one more root -/

section Loads

variable {glob : GlobLibrary} {disk : Disk} {base : FilePath}
  {reserved narrowed : List FilePath} {root : ReservedRoot}

/-- A list of reserved directories with one more root. -/
def Narrows
    (base : FilePath)
    (root : ReservedRoot)
    (reserved narrowed : List FilePath) : Prop :=
  ∀ path, isReservedPath narrowed path =
    (isReservedPath reserved path || isBelowRoot base root path)

theorem narrows_of_insert
    (base : FilePath)
    (before after : List ReservedRoot)
    (root : ReservedRoot)
    (first : FilePath) :
    Narrows base root
      (first :: (before ++ after).map (fun root => base ++ root))
      (first :: (before ++ root :: after).map (fun root => base ++ root)) := by
  intro path
  unfold isReservedPath isBelowRoot
  simp only [List.any_cons, List.map_append, List.map_cons, List.any_append]
  ac_rfl

theorem Narrows.enter
    (h : Narrows base root reserved narrowed)
    (path : FilePath) :
    (!isReservedPath narrowed path) =
      (!isReservedPath reserved path && !isBelowRoot base root path) := by
  rw [h path, Bool.not_or]

/-- A path outside a root is below no directory of the root. -/
theorem outside_of_append
    (path rest : FilePath)
    (h : (!isBelowRoot base root (path ++ rest)) = true) :
    (!isBelowRoot base root path) = true := by
  rw [Bool.not_eq_true'] at h ⊢
  rw [← Bool.not_eq_true] at h ⊢
  exact fun hbelow => h (startsWith_append rest hbelow)

/-- The files of a directory outside a root do not depend on its
reservation. -/
theorem collectDir_narrow
    (h : Narrows base root reserved narrowed)
    {dsqlOnly : Bool}
    {path : FilePath}
    {files : List FilePath}
    (hfiles : collectDir disk dsqlOnly reserved path = .ok files) :
    ∃ others, collectDir disk dsqlOnly narrowed path = .ok others ∧
      others.filter (fun path => !isBelowRoot base root path) =
        files.filter (fun path => !isBelowRoot base root path) := by
  unfold collectDir at hfiles ⊢
  cases hfound : metadata disk path with
  | none =>
      rw [hfound] at hfiles
      exact ⟨files, hfiles, rfl⟩
  | some found =>
      rw [hfound] at hfiles
      cases found with
      | file content => exact ⟨files, hfiles, rfl⟩
      | directory listable names entry =>
          obtain ⟨others, hothers, hfilter⟩ :=
            FileTree.walk_narrow h.enter (fun path _ => rfl) outside_of_append
              (.directory listable names entry) (readError_ok hfiles)
          exact ⟨others, congrArg readError hothers, hfilter⟩

theorem collectConfiguredPath_narrow
    (h : Narrows base root reserved narrowed)
    {path : FilePath}
    {files : List FilePath}
    (hfiles : collectConfiguredPath glob disk reserved path = .ok files) :
    ∃ others, collectConfiguredPath glob disk narrowed path = .ok others ∧
      others.filter (fun path => !isBelowRoot base root path) =
        files.filter (fun path => !isBelowRoot base root path) := by
  unfold collectConfiguredPath at hfiles ⊢
  split at hfiles
  · next hpattern =>
      rw [if_pos hpattern]
      cases hcompile : glob.compile path with
      | none =>
          rw [hcompile] at hfiles
          cases hfiles
      | some isMatch =>
          rw [hcompile] at hfiles
          unfold collectPattern at hfiles ⊢
          cases hfound : metadata disk (staticPrefix path) with
          | none =>
              simp only [hfound] at hfiles ⊢
              exact ⟨files, hfiles, rfl⟩
          | some tree =>
              simp only [hfound] at hfiles ⊢
              have hkeep : ∀ path, (!isBelowRoot base root path) = true →
                  (!isReservedPath narrowed path && isMatch path) =
                    (!isReservedPath reserved path && isMatch path) := by
                intro path houtside
                rw [h.enter path, houtside, Bool.and_true]
              obtain ⟨others, hothers, hfilter⟩ :=
                FileTree.walk_narrow h.enter hkeep outside_of_append
                  tree (readError_ok hfiles)
              exact ⟨others, congrArg readError hothers, hfilter⟩
  · next hpattern =>
      rw [if_neg hpattern]
      split at hfiles
      · exact ⟨files, hfiles, rfl⟩
      · exact collectDir_narrow h hfiles

/-- Paths with the same components are below the same roots. -/
theorem isBelowRoot_congr
    {path other : FilePath}
    (h : components path = components other) :
    isBelowRoot base root path = isBelowRoot base root other := by
  unfold isBelowRoot startsWith
  rw [h]

theorem distinctPaths_filter (paths : List FilePath) :
    (distinctPaths paths).filter (fun path => !isBelowRoot base root path) =
      distinctPaths
        (paths.filter (fun path => !isBelowRoot base root path)) := by
  induction paths with
  | nil => rfl
  | cons path rest ih =>
      rw [distinctPaths, List.filter_cons, List.filter_cons,
        List.filter_comm, ih]
      cases hbelow : isBelowRoot base root path with
      | false =>
          rw [Bool.not_false, if_pos rfl, if_pos rfl, distinctPaths]
      | true =>
          rw [Bool.not_true, if_neg Bool.false_ne_true,
            if_neg Bool.false_ne_true]
          refine List.filter_eq_self.mpr ?_
          intro other hother
          rw [decide_eq_true_iff]
          intro hsame
          rw [← ih] at hother
          have houtside := (List.mem_filter.mp hother).2
          rw [isBelowRoot_congr hsame, hbelow] at houtside
          cases houtside

/-- The assignments of the files outside a root do not depend on the files
below it. -/
theorem assignFiles_narrow
    {assignment : SourceAssignment}
    (files : List FilePath)
    {owned result : List OwnedSource}
    (h : assignFiles assignment files owned = .ok result) :
    assignFiles assignment
        (files.filter (fun path => !isBelowRoot base root path))
        (owned.filter (fun source => !isBelowRoot base root source.path)) =
      .ok (result.filter (fun source =>
        !isBelowRoot base root source.path)) := by
  induction files generalizing owned with
  | nil =>
      cases h
      rfl
  | cons path rest ih =>
      rw [assignFiles] at h
      split at h
      · cases h
      · next hnone =>
          have hrest := ih h
          rw [List.filter_append] at hrest
          rw [List.filter_cons]
          cases hbelow : isBelowRoot base root path with
          | true =>
              rw [Bool.not_true, if_neg Bool.false_ne_true]
              simpa [hbelow] using hrest
          | false =>
              rw [Bool.not_false, if_pos rfl, assignFiles]
              have hfree : (owned.filter (fun source =>
                  !isBelowRoot base root source.path)).find? (fun source =>
                    components source.path = components path) = none := by
                rw [List.find?_eq_none] at hnone ⊢
                exact fun source hsource =>
                  hnone source (List.mem_filter.mp hsource).1
              rw [hfree]
              simpa [hbelow] using hrest

theorem collectDocumentGroup_narrow
    (h : Narrows base root reserved narrowed)
    {scope : String}
    {document : DocumentConfig}
    {owned result : List OwnedSource}
    (hresult : collectDocumentGroup glob disk base reserved scope document
      owned = .ok result) :
    collectDocumentGroup glob disk base narrowed scope document
        (owned.filter (fun source => !isBelowRoot base root source.path)) =
      .ok (result.filter (fun source =>
        !isBelowRoot base root source.path)) := by
  unfold collectDocumentGroup at hresult ⊢
  obtain ⟨files, hfiles, hassigned⟩ := except_bind_ok hresult
  obtain ⟨others, hothers, hfilters⟩ :=
    mapM_ok_follow document.paths
      (fun configured _ found hfound => collectConfiguredPath_narrow h hfound)
      hfiles
  rw [hothers]
  have hflatten := congrArg List.flatten hfilters
  rw [← List.filter_flatten, ← List.filter_flatten] at hflatten
  have hkept : (distinctPaths others.flatten).filter (fun path =>
        !isReservedPath narrowed path) =
      ((distinctPaths files.flatten).filter (fun path =>
        !isReservedPath reserved path)).filter (fun path =>
          !isBelowRoot base root path) := by
    rw [List.filter_comm, distinctPaths_filter, ← hflatten,
      ← distinctPaths_filter, List.filter_filter]
    refine List.filter_congr ?_
    intro path _
    rw [h path, Bool.not_or]
  show assignFiles _ _ _ = _
  rw [hkept]
  exact assignFiles_narrow _ hassigned

theorem collectDocumentGroups_narrow
    (h : Narrows base root reserved narrowed)
    (groups : List (String × DocumentConfig))
    {owned result : List OwnedSource}
    (hresult : collectDocumentGroups glob disk base reserved groups owned =
      .ok result) :
    collectDocumentGroups glob disk base narrowed groups
        (owned.filter (fun source => !isBelowRoot base root source.path)) =
      .ok (result.filter (fun source =>
        !isBelowRoot base root source.path)) := by
  induction groups generalizing owned with
  | nil =>
      cases hresult
      rfl
  | cons group rest ih =>
      obtain ⟨scope, document⟩ := group
      rw [collectDocumentGroups] at hresult ⊢
      obtain ⟨found, hfound, hrest⟩ := except_bind_ok hresult
      rw [collectDocumentGroup_narrow h hfound]
      exact ih hrest

end Loads

/-! ## What the reservation takes -/

section Taken

variable {glob : GlobLibrary} {disk : Disk} {base : FilePath}
  {reserved narrowed : List FilePath} {config : Config} {raw : List String}
  {root : ReservedRoot}

/-- The directory of the project is disjoint from a validated root. -/
theorem projectRoot_outside
    (h : validateReservedRoot config raw = .ok root)
    (rest : FilePath) :
    isBelowRoot base root (projectRoot base ++ rest) = false := by
  obtain ⟨hreservable, hnamed⟩ := validateReservedRoot_ok h
  obtain ⟨name, later, rfl, hname⟩ := isReservable_cons hreservable
  unfold isBelowRoot startsWith
  rw [← Bool.not_eq_true, List.isPrefixOf_iff_prefix]
  intro hbelow
  unfold projectRoot at hbelow
  have hdsql : components ["dsql"] = ["dsql"] := by decide
  rw [components_append, components_append, components_append,
    components_eq_self hnamed, hdsql, List.append_assoc,
    List.prefix_append_right_inj, List.singleton_append,
    List.cons_prefix_cons] at hbelow
  exact hname hbelow.1

theorem collectDir_projectRoot_outside
    (h : validateReservedRoot config raw = .ok root)
    {files : List FilePath}
    (hfiles : collectDir disk true reserved (projectRoot base) = .ok files) :
    files.filter (fun path => !isBelowRoot base root path) = files := by
  refine List.filter_eq_self.mpr ?_
  intro path hpath
  have hlisted : listedPath (projectRoot base) = projectRoot base := by
    unfold listedPath projectRoot
    rw [List.getLast?_concat, if_neg (by decide)]
  unfold collectDir at hfiles
  split at hfiles
  · obtain ⟨-, rest, -, rfl, -, -⟩ :=
      (FileTree.walk_mem _ (readError_ok hfiles) path).mp hpath
    rw [hlisted, projectRoot_outside h]
    rfl
  · cases hfiles
    cases hpath

/-- The sources outside a validated root do not depend on its reservation. -/
theorem ownedSources_narrow
    (h : validateReservedRoot config raw = .ok root)
    (hnarrows : Narrows base root reserved narrowed)
    {owned : List OwnedSource}
    (howned : ownedSources glob disk base config reserved = .ok owned) :
    ownedSources glob disk base config narrowed =
      .ok (owned.filter (fun source =>
        !isBelowRoot base root source.path)) := by
  unfold ownedSources at howned ⊢
  split at howned
  · next himplicit =>
      rw [if_pos himplicit]
      obtain ⟨files, hfiles, howned⟩ := except_bind_ok howned
      cases howned
      obtain ⟨others, hothers, hfilter⟩ := collectDir_narrow hnarrows hfiles
      have hfree := collectDir_projectRoot_outside h hfiles
      rw [collectDir_projectRoot_outside h hothers, hfree] at hfilter
      rw [hothers, hfilter, List.filter_map]
      have hdistinct : (distinctPaths files).filter (fun path =>
          !isBelowRoot base root path) = distinctPaths files := by
        rw [distinctPaths_filter, hfree]
      exact congrArg (fun paths => Except.ok (List.map _ paths))
        hdistinct.symm
  · next himplicit =>
      rw [if_neg himplicit]
      exact collectDocumentGroups_narrow hnarrows _ howned

theorem readDocument_path
    (source : OwnedSource)
    (document : Document)
    (h : readDocument disk source = .ok document) :
    (!isBelowRoot base root document.path) =
      !isBelowRoot base root source.path := by
  unfold readDocument at h
  split at h
  · cases h
    rfl
  · cases h

/-- One more root takes from a load exactly the documents below it. -/
theorem documentsReserving_insert
    (h : validateReservedRoot config raw = .ok root)
    {before after : List ReservedRoot}
    {documents : List Document}
    (hdocuments : documentsReserving glob disk base config
      (before ++ after) = .ok documents) :
    documentsReserving glob disk base config (before ++ root :: after) =
      .ok (documents.filter (fun document =>
        !isBelowRoot base root document.path)) := by
  unfold documentsReserving at hdocuments ⊢
  obtain ⟨owned, howned, hread⟩ := except_bind_ok hdocuments
  rw [ownedSources_narrow h
    (narrows_of_insert base before after root _) howned]
  exact mapM_ok_filter readDocument_path owned hread

/-- What lies below a directory that neither contains a root nor lies below it
is outside the root. -/
theorem outside_of_start
    {start path : FilePath}
    (hbelow : ¬components (base ++ root) <+: start)
    (habove : ¬start <+: components (base ++ root))
    (hpath : start <+: components path) :
    isBelowRoot base root path = false := by
  unfold isBelowRoot startsWith
  rw [← Bool.not_eq_true, List.isPrefixOf_iff_prefix]
  intro hroot
  rcases List.prefix_or_prefix_of_prefix hroot hpath with hstart | hstart
  · exact hbelow hstart
  · exact habove hstart

theorem textSegments_plain
    {relative : TreePath}
    (h : ∀ segment ∈ relative, '\\' ∉ segment.toList) :
    textSegments relative = relative := by
  unfold textSegments
  induction relative with
  | nil => rfl
  | cons segment rest ih =>
      have hsegment : Text.split '\\' segment = [segment] := by
        unfold Text.split
        rw [List.splitOn_eq_singleton (h segment List.mem_cons_self)]
        simp
      rw [List.flatMap_cons, hsegment,
        ih (fun other hother => h other (List.mem_cons_of_mem segment hother))]
      rfl

/-- The daemon reserves no path outside a root for it. -/
theorem pathIsWithin_outside
    {relative : TreePath}
    (hplain : ∀ segment ∈ relative, '\\' ∉ segment.toList)
    (h : isBelowRoot base root (base ++ relative) = false) :
    pathIsWithin relative root = false := by
  unfold pathIsWithin
  rw [textSegments_plain hplain, ← Bool.not_eq_true,
    List.isPrefixOf_iff_prefix]
  rintro ⟨rest, rfl⟩
  unfold isBelowRoot at h
  rw [← List.append_assoc,
    startsWith_append rest (List.isPrefixOf_iff_prefix.mpr
      (List.prefix_refl _))] at h
  cases h

/-- A validated root neither contains nor is the start of a document path that
goes by names; its reservation takes from a load exactly the documents below
it, and from the documents below such a path none unless the root lies below
the path too.  The daemon skips no file there for it either. -/
theorem reservation_takes_root
    (h : validateReservedRoot config raw = .ok root)
    (glob : GlobLibrary)
    (disk : Disk)
    (base : FilePath)
    {excludeRoots before after : List ReservedRoot}
    (hroots : config.outputs ++ excludeRoots = before ++ root :: after) :
    (∀ configured ∈ documentPaths config, ¬StepsAround root configured →
      ¬components (base ++ root) <+:
        staticPrefix (joinPath base configured)) ∧
    (∀ documents,
      documentsReserving glob disk base config (before ++ after) =
        .ok documents →
      loadProjectDocuments glob disk base config excludeRoots =
        .ok (documents.filter (fun document =>
          !isBelowRoot base root document.path))) ∧
    ∀ configured ∈ documentPaths config, ¬StepsAround root configured →
      ¬staticPrefix (joinPath base configured) <+: components (base ++ root) →
      (∀ documents kept,
        documentsReserving glob disk base config (before ++ after) =
          .ok documents →
        loadProjectDocuments glob disk base config excludeRoots = .ok kept →
        ∀ document,
          staticPrefix (joinPath base configured) <+:
            components document.path →
          (document ∈ kept ↔ document ∈ documents)) ∧
      ∀ relative : TreePath,
        (∀ segment ∈ relative, '\\' ∉ segment.toList) →
        staticPrefix (joinPath base configured) <+:
          components (base ++ relative) →
        (before ++ root :: after).any (pathIsWithin relative) =
          (before ++ after).any (pathIsWithin relative) := by
  have hload : loadProjectDocuments glob disk base config excludeRoots =
      documentsReserving glob disk base config (before ++ root :: after) := by
    unfold loadProjectDocuments documentsReserving reservedPaths
    rw [hroots]
  have hstart : ∀ configured ∈ documentPaths config,
      ¬StepsAround root configured →
      ¬components (base ++ root) <+:
        staticPrefix (joinPath base configured) :=
    fun configured hconfigured hplain =>
      staticPrefix_outside h base hconfigured hplain
  refine ⟨hstart, ?_, ?_⟩
  · intro documents hdocuments
    rw [hload]
    exact documentsReserving_insert h hdocuments
  · intro configured hconfigured hplain habove
    have houtside : ∀ path,
        staticPrefix (joinPath base configured) <+: components path →
        isBelowRoot base root path = false :=
      fun path hpath => outside_of_start
        (hstart configured hconfigured hplain) habove hpath
    constructor
    · intro documents kept hdocuments hkept document hbelow
      rw [hload, documentsReserving_insert h hdocuments] at hkept
      cases hkept
      rw [List.mem_filter, houtside document.path hbelow]
      simp
    · intro relative hnames hbelow
      rw [List.any_append, List.any_cons, List.any_append,
        pathIsWithin_outside hnames (houtside (base ++ relative) hbelow),
        Bool.false_or]

end Taken

/-! ## A root below a document directory -/

section Sample

def generatedFiles : FileTree FileContent :=
  folder [("b.dsql", .file (.text "query B"))]

/-- A project whose directory of queries holds generated files too. -/
def nestedDisk : Disk :=
  sampleDisk [("a.dsql", .file (.text "query A")),
    ("generated", generatedFiles)] (by
    intro entry hentry
    rcases List.mem_cons.mp hentry with rfl | hentry
    · exact ⟨by simp [IsName], hasNames_file _⟩
    · rw [List.mem_singleton.mp hentry]
      refine ⟨by simp [IsName], hasNames_folder ?_⟩
      intro entry hentry
      rw [List.mem_singleton.mp hentry]
      exact ⟨by simp [IsName], hasNames_file _⟩)

def writtenQuery : Document :=
  ⟨["project", "queries", "a.dsql"], "query A", "default", .dsql⟩

def generatedQuery : Document :=
  ⟨["project", "queries", "generated", "b.dsql"], "query B", "default", .dsql⟩

theorem nested_valid :
    validateReservedRoot sampleConfig [".", "queries", "generated", ""] =
      .ok ["queries", "generated"] := by
  have hvalid : (validateReservedRoot sampleConfig
      [".", "queries", "generated", ""]).toOption =
        some ["queries", "generated"] := by
    decide +kernel
  exact toOption_eq_some.mp hvalid

theorem nested_documents :
    documentsReserving sampleGlob nestedDisk ["project"] sampleConfig [] =
      .ok [writtenQuery, generatedQuery] := by
  have hload : (documentsReserving sampleGlob nestedDisk ["project"]
      sampleConfig []).toOption = some [writtenQuery, generatedQuery] := by
    decide +kernel
  exact toOption_eq_some.mp hload

/-- The load of the project in which the generated directory is reserved. -/
theorem nested_reservation :
    (∀ configured ∈ documentPaths sampleConfig,
      ¬StepsAround ["queries", "generated"] configured →
      ¬["project", "queries", "generated"] <+:
        staticPrefix (joinPath ["project"] configured)) ∧
    loadProjectDocuments sampleGlob nestedDisk ["project"] sampleConfig
        [["queries", "generated"]] =
      .ok ([writtenQuery, generatedQuery].filter (fun document =>
        !isBelowRoot ["project"] ["queries", "generated"] document.path)) := by
  obtain ⟨hstart, hload, -⟩ := reservation_takes_root nested_valid sampleGlob
    nestedDisk ["project"]
    (show sampleConfig.outputs ++ [["queries", "generated"]] =
      [] ++ ["queries", "generated"] :: [] from rfl)
  exact ⟨hstart, hload _ nested_documents⟩

/-- A generated file below a document path is no document while its directory
is reserved. -/
theorem nested_root_taken :
    ¬∀ (glob : GlobLibrary) (disk : Disk) (base : FilePath) (config : Config)
        (raw : List String) (root : ReservedRoot)
        (excludeRoots before after : List ReservedRoot),
      validateReservedRoot config raw = .ok root →
      config.outputs ++ excludeRoots = before ++ root :: after →
      ∀ configured ∈ documentPaths config,
        ¬components (base ++ root) <+:
          staticPrefix (joinPath base configured) ∧
        ∀ documents kept,
          documentsReserving glob disk base config (before ++ after) =
            .ok documents →
          loadProjectDocuments glob disk base config excludeRoots = .ok kept →
          ∀ document,
            staticPrefix (joinPath base configured) <+:
              components document.path →
            (document ∈ kept ↔ document ∈ documents) := by
  intro h
  have hload : (loadProjectDocuments sampleGlob nestedDisk ["project"]
      sampleConfig [["queries", "generated"]]).toOption =
        some [writtenQuery] := by
    decide +kernel
  obtain ⟨-, hsame⟩ := h sampleGlob nestedDisk ["project"] sampleConfig
    [".", "queries", "generated", ""] ["queries", "generated"]
    [["queries", "generated"]] [] [] nested_valid rfl "queries" (by decide)
  have hgenerated := hsame _ _ nested_documents (toOption_eq_some.mp hload)
    generatedQuery (by decide +kernel)
  exact absurd (hgenerated.mpr (by decide)) (by decide)

end Sample

end Daemon

end Dsql
