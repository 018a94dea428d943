import Dsql.Daemon.Classification

/-!
# Batches

A classified batch that is no reload handles every path at or below one of its
paths; a batch that touches the configuration or the catalog is a reload.
-/

namespace Dsql

namespace Daemon

namespace Session

section Scan

variable {library : ProjectLibrary} {session : Session} {disk : Disk}

/-- What a scan of some paths brings: sources of the disk, for every path that
is not right already. -/
structure Follows
    (library : ProjectLibrary)
    (session : Session)
    (disk : Disk)
    (changes : List (FilePath × String))
    (paths : TreePath → Prop) : Prop where
  sources : ∀ change ∈ changes, session.IsSource library disk change
  handled : ∀ path, Named path → paths path →
    session.Handled library disk changes path
  loadable : ∀ path, paths path → session.LoadableAt library disk path

/-- The reserved roots read the same at every entry below a path. -/
def ReadsReserved
    (session : Session)
    (disk : Disk)
    (relative : TreePath) : Prop :=
  ∀ below,
    (disk.tree.lookup (session.base ++ (relative ++ below))).isSome = true →
    session.isReserved (relative ++ below) =
      session.isReservedAt (session.base ++ (relative ++ below))

/-- The conditions on the files below a path. -/
structure PlainFiles
    (library : ProjectLibrary)
    (session : Session)
    (disk : Disk)
    (relative : TreePath) : Prop where
  reserved : session.ReadsReserved disk relative
  hashes : ∀ document ∈ session.documents,
    session.base ++ relative <+: document.path →
    ∀ text, disk.tree.fileAt document.path = some (.text text) →
      library.contentHash document.text = library.contentHash text →
      document.text = text
  extension : session.config.usesImplicitDocuments = true →
    ∀ below, disk.tree.isFileAt (session.base ++ (relative ++ below)) = true →
      (session.base ++ (relative ++ below)).getLast? ≠ some ".dsql"

theorem PlainMention.files
    {relative : TreePath}
    (h : session.PlainMention library disk relative) :
    session.PlainFiles library disk relative :=
  ⟨fun below hbelow => h.reserved below (.inr hbelow), h.hashes, h.extension⟩

theorem PlainFiles.below
    {relative : TreePath}
    (h : session.PlainFiles library disk relative)
    (name : String) :
    session.PlainFiles library disk (relative ++ [name]) := by
  constructor
  · intro below hbelow
    rw [List.append_assoc] at hbelow ⊢
    exact h.reserved _ hbelow
  · intro document hdocument hstarts
    refine h.hashes document hdocument ?_
    rw [← List.append_assoc] at hstarts
    exact (List.prefix_append ..).trans hstarts
  · intro himplicit below hbelow
    rw [List.append_assoc] at hbelow ⊢
    exact h.extension himplicit _ hbelow

theorem isReservedAt_append
    {path : FilePath}
    (rest : FilePath)
    (h : session.isReservedAt path = true) :
    session.isReservedAt (path ++ rest) = true := by
  unfold isReservedAt at h ⊢
  exact isReservedPath_append rest h

/-- A scanned file under the conditions on it. -/
theorem scanFile_plain
    (hglob : GlobLaws library.glob)
    (hbase : PlainBase session.base)
    (hresident : session.resident.isNone = false)
    (howned : session.WellOwned library session.documents)
    {relative : TreePath}
    (hplain : session.PlainFiles library disk relative)
    {content : FileContent}
    (hfile : disk.tree.fileAt (session.base ++ relative) = some content)
    (hreserved : session.isReserved relative = false)
    {changes : List (FilePath × String)}
    (h : session.scanFile library (session.base ++ relative) content =
      .ok changes) :
    (∀ change ∈ changes, session.IsSource library disk change) ∧
      session.Handled library disk changes (session.base ++ relative) ∧
      session.LoadableAt library disk (session.base ++ relative) := by
  have hlookup := FileTree.fileAt_eq_some.mp hfile
  have hself := hplain.reserved []
  rw [List.append_nil, hlookup] at hself
  refine scanFile_ok hglob hbase hresident howned hfile
    ((hself rfl).symm.trans hreserved) ?_ ?_ h
  · intro himplicit
    have hname := hplain.extension himplicit []
    rw [List.append_nil] at hname
    refine hname ?_
    simp [FileTree.isFileAt, hfile]
  · rintro document hdocument hpath text rfl
    refine hplain.hashes document hdocument ?_ text ?_
    · simp [hpath]
    · rw [hpath]
      exact hfile

/-- What the scans of the files of one directory bring. -/
theorem scanFiles_ok
    (hglob : GlobLaws library.glob)
    (hbase : PlainBase session.base)
    (hresident : session.resident.isNone = false)
    (howned : session.WellOwned library session.documents)
    {relative : TreePath}
    (hplain : session.PlainFiles library disk relative)
    {names : List String}
    {entry : String → FileTree FileContent}
    (hentry : ∀ name ∈ names, disk.tree.lookup
      (session.base ++ (relative ++ [name])) = some (entry name))
    {scan : String → Except ScanStop (List (FilePath × String))}
    {files : List (List (FilePath × String))}
    (hfiles : names.mapM scan = .ok files)
    (hskip : ∀ name, session.isReserved (relative ++ [name]) = true →
      scan name = .ok [])
    (hfile : ∀ name content,
      session.isReserved (relative ++ [name]) = false →
      entry name = .file content →
      scan name = session.scanFile library
        (session.base ++ (relative ++ [name])) content)
    (hdirectory : ∀ name,
      session.isReserved (relative ++ [name]) = false →
      (entry name).isDirectory = true → scan name = .ok []) :
    (∀ group ∈ files, ∀ change ∈ group,
        session.IsSource library disk change) ∧
      ∀ name ∈ names, ∀ content, entry name = .file content →
        session.isReserved (relative ++ [name]) = false →
        ∃ group ∈ files,
          session.Handled library disk group
            (session.base ++ (relative ++ [name])) ∧
          session.LoadableAt library disk
            (session.base ++ (relative ++ [name])) := by
  have hplainFile : ∀ name ∈ names, ∀ content,
      entry name = .file content →
      session.isReserved (relative ++ [name]) = false →
      ∀ group, scan name = .ok group →
      (∀ change ∈ group, session.IsSource library disk change) ∧
        session.Handled library disk group
          (session.base ++ (relative ++ [name])) ∧
        session.LoadableAt library disk
          (session.base ++ (relative ++ [name])) := by
    intro name hname content hcontent hreserved group hgroup
    have hthis := hentry name hname
    rw [hcontent] at hthis
    rw [hfile name content hreserved hcontent] at hgroup
    exact scanFile_plain hglob hbase hresident howned (hplain.below name)
      (FileTree.fileAt_eq_some.mpr hthis) hreserved hgroup
  refine ⟨?_, ?_⟩
  · intro group hgroup change hchange
    obtain ⟨name, hname, hgroup⟩ := (mapM_ok_mem names hfiles group).mp hgroup
    cases hreserved : session.isReserved (relative ++ [name]) with
    | true =>
        rw [hskip name hreserved] at hgroup
        cases hgroup
        cases hchange
    | false =>
        cases hcontent : entry name with
        | file content =>
            exact (hplainFile name hname content hcontent hreserved group
              hgroup).1 change hchange
        | directory inner children below =>
            rw [hdirectory name hreserved (by rw [hcontent]; rfl)] at hgroup
            cases hgroup
            cases hchange
  · intro name hname content hcontent hreserved
    obtain ⟨group, hgroup⟩ := mapM_ok_forall names hfiles name hname
    exact ⟨group, (mapM_ok_mem names hfiles group).mpr ⟨name, hname, hgroup⟩,
      (hplainFile name hname content hcontent hreserved group hgroup).2⟩

/-- The scan of a directory handles the files below it. -/
theorem scanDirectory_ok
    (hglob : GlobLaws library.glob)
    (hbase : PlainBase session.base)
    (hresident : session.resident.isNone = false)
    (howned : session.WellOwned library session.documents)
    (tree : FileTree FileContent)
    {relative : TreePath}
    (hplain : session.PlainFiles library disk relative)
    (hlookup : disk.tree.lookup (session.base ++ relative) = some tree)
    (hdirectory : tree.isDirectory = true)
    {changes : List (FilePath × String)}
    (h : session.scanDirectory library relative tree = .ok changes) :
    (∀ change ∈ changes, session.IsSource library disk change) ∧
      (∀ below,
        disk.tree.isFileAt (session.base ++ (relative ++ below)) = true →
        session.Handled library disk changes
          (session.base ++ (relative ++ below))) ∧
      ∀ below, session.LoadableAt library disk
        (session.base ++ (relative ++ below)) := by
  induction tree generalizing relative changes with
  | file content => cases hdirectory
  | directory listable names entry ih =>
      rw [scanDirectory] at h
      split at h
      · next hlistable =>
          subst hlistable
          obtain ⟨files, hfiles, h⟩ := except_bind_ok h
          obtain ⟨others, hothers, h⟩ := except_bind_ok h
          cases h
          have hentry : ∀ name ∈ names, disk.tree.lookup
              (session.base ++ (relative ++ [name])) = some (entry name) := by
            intro name hname
            rw [← List.append_assoc, FileTree.lookup_append, hlookup,
              Option.bind_some, FileTree.lookup, FileTree.child_directory,
              if_pos hname]
            rfl
          have hfile := scanFiles_ok hglob hbase hresident howned hplain hentry
            hfiles
            (by
              intro name hreserved
              rw [if_pos hreserved])
            (by
              intro name content hreserved hcontent
              rw [hreserved, hcontent, List.append_assoc]
              rfl)
            (by
              intro name hreserved hkind
              cases hcontent : entry name with
              | file content =>
                  rw [hcontent] at hkind
                  cases hkind
              | directory inner children below =>
                  rw [hreserved]
                  rfl)
          have hinner : ∀ name ∈ names, ∀ group,
              (if session.isReserved (relative ++ [name]) then
                .ok []
              else
                scanDirectory library session (relative ++ [name])
                  (entry name)) = .ok group →
              (∀ change ∈ group, session.IsSource library disk change) ∧
                ((entry name).isDirectory = true →
                  session.isReserved (relative ++ [name]) = false →
                  (∀ below, disk.tree.isFileAt
                      (session.base ++ (relative ++ [name] ++ below)) = true →
                    session.Handled library disk group
                      (session.base ++ (relative ++ [name] ++ below))) ∧
                  ∀ below, session.LoadableAt library disk
                    (session.base ++ (relative ++ [name] ++ below))) := by
            intro name hname group hgroup
            split at hgroup
            · next hreserved =>
                cases hgroup
                refine ⟨by simp, fun _ hopen => ?_⟩
                rw [hreserved] at hopen
                cases hopen
            · cases hkind : (entry name).isDirectory with
              | true =>
                  obtain ⟨hsources, hhandled, hloadable⟩ := ih name
                    (hplain.below name) (hentry name hname) hkind hgroup
                  exact ⟨hsources, fun _ _ => ⟨hhandled, hloadable⟩⟩
              | false =>
                  refine ⟨?_, fun hopen => by cases hopen⟩
                  cases hcontent : entry name with
                  | file content =>
                      rw [hcontent, scanDirectory] at hgroup
                      cases hgroup
                      simp
                  | directory inner children below =>
                      rw [hcontent] at hkind
                      cases hkind
          -- what one entry brings
          have hscan : ∀ name ∈ names,
              session.isReserved (relative ++ [name]) = false →
              ∃ group ⊆ files.flatten ++ others.flatten,
                (∀ below, disk.tree.isFileAt
                    (session.base ++ (relative ++ [name] ++ below)) = true →
                  session.Handled library disk group
                    (session.base ++ (relative ++ [name] ++ below))) ∧
                ∀ below, session.LoadableAt library disk
                  (session.base ++ (relative ++ [name] ++ below)) := by
            intro name hname hreserved
            have hthis := hentry name hname
            cases hfound : entry name with
            | file content =>
                obtain ⟨group, hmem, hhandled, hloadable⟩ :=
                  hfile.2 name hname content hfound hreserved
                rw [hfound] at hthis
                refine ⟨group, ?_, ?_, ?_⟩
                · intro change hchange
                  exact List.mem_append_left _
                    (List.mem_flatten.mpr ⟨group, hmem, hchange⟩)
                · intro below hbelow
                  obtain ⟨found, htree⟩ := lookup_isSome_of_prefix
                    (List.prefix_refl _) hbelow
                  rw [eq_of_prefix_of_file hthis ⟨below, by simp⟩ htree]
                  exact hhandled
                · intro below
                  cases htree : disk.tree.lookup
                      (session.base ++ (relative ++ [name] ++ below)) with
                  | none => exact loadableAt_of_missing htree
                  | some found =>
                      rw [eq_of_prefix_of_file hthis ⟨below, by simp⟩ htree]
                      exact hloadable
            | directory inner children below =>
                obtain ⟨group, hgroup⟩ := mapM_ok_forall names.reverse hothers
                  name (List.mem_reverse.mpr hname)
                have hmem := (mapM_ok_mem names.reverse hothers group).mpr
                  ⟨name, List.mem_reverse.mpr hname, hgroup⟩
                obtain ⟨hhandled, hloadable⟩ :=
                  (hinner name hname group hgroup).2
                    (by rw [hfound]; rfl) hreserved
                refine ⟨group, ?_, hhandled, hloadable⟩
                intro change hchange
                exact List.mem_append_right _
                  (List.mem_flatten.mpr ⟨group, hmem, hchange⟩)
          have hsplit : ∀ name below,
              relative ++ name :: below = relative ++ [name] ++ below := by
            simp
          have hcold : ∀ name ∈ names,
              session.isReserved (relative ++ [name]) = true →
              ∀ below, session.isReservedAt
                (session.base ++ (relative ++ [name] ++ below)) = true := by
            intro name hname hreserved below
            rw [← List.append_assoc]
            refine isReservedAt_append below ?_
            rw [← hplain.reserved [name] (by rw [hentry name hname]; rfl)]
            exact hreserved
          have hmissing : ∀ name below, name ∉ names →
              disk.tree.lookup
                (session.base ++ (relative ++ name :: below)) = none := by
            intro name below hname
            rw [← List.append_assoc, FileTree.lookup_append, hlookup,
              Option.bind_some, FileTree.lookup, FileTree.child_directory,
              if_neg hname]
            rfl
          refine ⟨?_, ?_, ?_⟩
          · intro change hchange
            rcases List.mem_append.mp hchange with hchange | hchange
            · obtain ⟨group, hgroup, hchange⟩ := List.mem_flatten.mp hchange
              exact hfile.1 group hgroup change hchange
            · obtain ⟨group, hgroup, hchange⟩ := List.mem_flatten.mp hchange
              obtain ⟨name, hname, hgroup⟩ :=
                (mapM_ok_mem names.reverse hothers group).mp hgroup
              exact (hinner name (List.mem_reverse.mp hname) group hgroup).1
                change hchange
          · intro below hbelow
            cases below with
            | nil =>
                obtain ⟨content, hcontent⟩ :=
                  Option.isSome_iff_exists.mp hbelow
                rw [List.append_nil, FileTree.fileAt_eq_some, hlookup]
                  at hcontent
                cases hcontent
            | cons name below =>
                by_cases hname : name ∈ names
                · rw [hsplit] at hbelow ⊢
                  cases hreserved : session.isReserved (relative ++ [name]) with
                  | true =>
                      exact handled_of_reserved howned
                        (hcold name hname hreserved below)
                  | false =>
                      obtain ⟨group, hsubset, hhandled, -⟩ :=
                        hscan name hname hreserved
                      exact handled_mono hsubset (hhandled below hbelow)
                · obtain ⟨found, htree⟩ := lookup_isSome_of_prefix
                    (List.prefix_refl _) hbelow
                  rw [hmissing name below hname] at htree
                  cases htree
          · intro below
            cases below with
            | nil =>
                rw [List.append_nil]
                exact loadableAt_of_directory hlookup
            | cons name below =>
                by_cases hname : name ∈ names
                · rw [hsplit]
                  cases hreserved : session.isReserved (relative ++ [name]) with
                  | true =>
                      exact loadableAt_of_reserved
                        (hcold name hname hreserved below)
                  | false =>
                      obtain ⟨group, -, -, hloadable⟩ :=
                        hscan name hname hreserved
                      exact hloadable below
                · exact loadableAt_of_missing (hmissing name below hname)
      · cases h

end Scan

/-! ## Paths of a batch -/

section Classify

variable {library : ProjectLibrary} {session : Session} {disk : Disk}

theorem hasFilesUnder_false
    {path : FilePath}
    (h : session.hasFilesUnder path = false) :
    ∀ document ∈ session.documents, ¬path <+: document.path := by
  intro document hdocument hstarts
  unfold hasFilesUnder at h
  rw [List.any_eq_false] at h
  exact h document hdocument (List.isPrefixOf_iff_prefix.mpr hstarts)

/-- Where nothing is resident and no file has an owner there is nothing to
do. -/
theorem follows_nothing
    {start : TreePath}
    (hnone : ∀ document ∈ session.documents, ¬start <+: document.path)
    (h : ∀ path, start <+: path →
      session.sourceAt library disk path = none ∧
        session.LoadableAt library disk path) :
    session.Follows library disk [] (fun path => start <+: path) := by
  refine ⟨by simp, ?_, fun path hpath => (h path hpath).2⟩
  intro path _ hpath
  refine .inr (agreesAt_of_none (h path hpath).1 ?_)
  rintro document hdocument rfl
  exact hnone document hdocument hpath

theorem isFileAt_of_lookup_none
    {start path : TreePath}
    (h : disk.tree.lookup start = none)
    (hpath : start <+: path) :
    disk.tree.lookup path = none ∧ disk.tree.isFileAt path = false := by
  obtain ⟨rest, rfl⟩ := hpath
  have hlookup : disk.tree.lookup (start ++ rest) = none := by
    rw [FileTree.lookup_append, h]
    rfl
  refine ⟨hlookup, ?_⟩
  unfold FileTree.isFileAt FileTree.fileAt
  rw [hlookup]
  rfl

/-- Only the path of a file itself is on the disk. -/
theorem eq_or_missing_of_file
    {start path : TreePath}
    {content : FileContent}
    (h : disk.tree.lookup start = some (.file content))
    (hpath : start <+: path) :
    path = start ∨ disk.tree.lookup path = none := by
  cases hlookup : disk.tree.lookup path with
  | none => exact .inr rfl
  | some found => exact .inl (eq_of_prefix_of_file h hpath hlookup)

theorem isFileAt_of_missing
    {path : TreePath}
    (h : disk.tree.lookup path = none) : disk.tree.isFileAt path = false := by
  unfold FileTree.isFileAt FileTree.fileAt
  rw [h]
  rfl

theorem follows_missing
    {start : TreePath}
    (h : disk.tree.lookup start = none)
    (hnone : ∀ document ∈ session.documents, ¬start <+: document.path) :
    session.Follows library disk [] (fun path => start <+: path) := by
  refine follows_nothing hnone ?_
  intro path hpath
  obtain ⟨hlookup, hfile⟩ := isFileAt_of_lookup_none h hpath
  exact ⟨sourceAt_of_no_file hfile, loadableAt_of_missing hlookup⟩

/-- The match lock is followed apart from the documents. -/
theorem classifyMatchLock_ok
    {relative : TreePath}
    (hnamed : Named (session.base ++ relative))
    (howners : owners library.glob session.base session.config
      (session.base ++ relative) = [])
    (hunder : session.hasFilesUnder (session.base ++ relative) = false)
    {raw : String}
    {batch next : Batch}
    (h : session.classifyMatchLock library disk raw (session.base ++ relative)
      batch = .ok next) :
    next.reload = batch.reload ∧ next.upserts = batch.upserts ∧
      session.Follows library disk []
        (fun path => session.base ++ relative <+: path) := by
  have hnone := hasFilesUnder_false hunder
  unfold classifyMatchLock at h
  rw [metadata_named disk hnamed] at h
  have hkeep : ∀ (lock : Option String) (condition : Prop)
      [Decidable condition],
      (if condition then
        batch
      else
        { batch with lockChange := some lock }).reload = batch.reload ∧
      (if condition then
        batch
      else
        { batch with lockChange := some lock }).upserts = batch.upserts := by
    intro lock condition _
    split <;> exact ⟨rfl, rfl⟩
  cases hlookup : disk.tree.lookup (session.base ++ relative) with
  | none =>
      rw [hlookup] at h
      obtain rfl := Except.ok.inj h
      exact ⟨(hkeep none _).1, (hkeep none _).2, follows_missing hlookup hnone⟩
  | some tree =>
      rw [hlookup] at h
      cases tree with
      | directory listable names entry => cases h
      | file content =>
          have hfile := FileTree.fileAt_eq_some.mpr hlookup
          have hfollows : session.Follows library disk []
              (fun path => session.base ++ relative <+: path) := by
            refine follows_nothing hnone ?_
            intro path hpath
            rcases eq_or_missing_of_file hlookup hpath with rfl | hmissing
            · exact ⟨sourceAt_of_unowned howners,
                loadableAt_of_unowned hfile howners⟩
            · exact ⟨sourceAt_of_no_file (isFileAt_of_missing hmissing),
                loadableAt_of_missing hmissing⟩
          cases content with
          | unreadable => cases h
          | text text =>
              obtain rfl := Except.ok.inj h
              exact ⟨(hkeep _ _).1, (hkeep _ _).2, hfollows⟩
          | binary identity =>
              obtain rfl := Except.ok.inj h
              exact ⟨(hkeep _ _).1, (hkeep _ _).2, hfollows⟩

theorem lostFilesUnder_false
    {directory : FilePath}
    (h : session.lostFilesUnder disk directory = false)
    (hnamed : ∀ document ∈ session.documents, Named document.path) :
    ∀ document ∈ session.documents, directory <+: document.path →
      document.path ≠ directory →
      disk.tree.isFileAt document.path = true := by
  intro document hdocument hstarts hne
  unfold lostFilesUnder at h
  rw [List.any_eq_false] at h
  have hkept := h document hdocument
  rw [metadata_named disk (hnamed document hdocument)] at hkept
  simp only [List.isPrefixOf_iff_prefix.mpr hstarts, Bool.true_and, hne,
    ne_eq, not_false_eq_true, decide_true, Bool.not_eq_true',
    Bool.not_eq_false] at hkept
  exact hkept

/-- The directory of a batch is followed with everything below it. -/
theorem classifyDirectory_ok
    (hglob : GlobLaws library.glob)
    (hbase : PlainBase session.base)
    (hresident : session.resident.isNone = false)
    (howned : session.WellOwned library session.documents)
    {relative : TreePath}
    (hplain : session.PlainMention library disk relative)
    {listable : Bool}
    {names : List String}
    {entry : String → FileTree FileContent}
    (hlookup : disk.tree.lookup (session.base ++ relative) =
      some (.directory listable names entry))
    {raw : String}
    {batch next : Batch}
    (h : session.classifyDirectory library disk raw relative
      (.directory listable names entry) batch = .ok next) :
    next.reload = true ∨
      next.reload = batch.reload ∧ ∃ more,
        next.upserts = batch.upserts ++ more ∧
        session.Follows library disk more
          (fun path => session.base ++ relative <+: path) := by
  unfold classifyDirectory at h
  split at h
  · cases h
    exact .inl rfl
  · next hlost =>
      rw [Bool.not_eq_true] at hlost
      have hkept := lostFilesUnder_false hlost howned.named
      split at h
      · next changed hscan =>
          cases h
          obtain ⟨hsources, hhandled, hloadable⟩ := scanDirectory_ok hglob hbase
            hresident howned _ hplain.files hlookup rfl hscan
          refine .inr ⟨rfl, changed, rfl, hsources, ?_, ?_⟩
          · rintro path - ⟨below, rfl⟩
            rw [List.append_assoc]
            cases hfile : disk.tree.isFileAt
                (session.base ++ (relative ++ below)) with
            | true => exact hhandled below hfile
            | false =>
                refine .inr (agreesAt_of_none (sourceAt_of_no_file hfile) ?_)
                intro document hdocument hpath
                by_cases hsame : document.path = session.base ++ relative
                · refine hplain.noDirectory ?_ document hdocument hsame
                  unfold FileTree.isDirectoryAt
                  rw [hlookup]
                  rfl
                · have hthere := hkept document hdocument
                    ⟨below, by rw [hpath, List.append_assoc]⟩ hsame
                  rw [hpath, hfile] at hthere
                  cases hthere
          · rintro path ⟨below, rfl⟩
            rw [List.append_assoc]
            exact hloadable below
      · cases h
        exact .inl rfl
      · cases h

theorem classifyFilePath_ok
    (hglob : GlobLaws library.glob)
    (hbase : PlainBase session.base)
    (hresident : session.resident.isNone = false)
    (howned : session.WellOwned library session.documents)
    {relative : TreePath}
    (hplain : session.PlainMention library disk relative)
    {content : FileContent}
    (hlookup : disk.tree.lookup (session.base ++ relative) =
      some (.file content))
    (hreserved : session.isReserved relative = false)
    {raw : String}
    {batch next : Batch}
    (h : session.classifyFilePath library raw (session.base ++ relative)
      content batch = .ok next) :
    next.reload = true ∨
      next.reload = batch.reload ∧ ∃ more,
        next.upserts = batch.upserts ++ more ∧
        session.Follows library disk more
          (fun path => session.base ++ relative <+: path) := by
  unfold classifyFilePath at h
  split at h
  · next changed hscan =>
      cases h
      obtain ⟨hsources, hhandled, hloadable⟩ := scanFile_plain hglob hbase
        hresident howned hplain.files (FileTree.fileAt_eq_some.mpr hlookup)
        hreserved hscan
      refine .inr ⟨rfl, changed, rfl, hsources, ?_, ?_⟩
      · intro path _ hpath
        rcases eq_or_missing_of_file hlookup hpath with rfl | hmissing
        · exact hhandled
        · refine .inr (agreesAt_of_none
            (sourceAt_of_no_file (isFileAt_of_missing hmissing)) ?_)
          rintro document hdocument rfl
          have hsame := hplain.noFile (by
            unfold FileTree.isFileAt
            rw [FileTree.fileAt_eq_some.mpr hlookup]
            rfl) document hdocument hpath
          rw [hsame, hlookup] at hmissing
          cases hmissing
      · intro path hpath
        rcases eq_or_missing_of_file hlookup hpath with rfl | hmissing
        · exact hloadable
        · exact loadableAt_of_missing hmissing
  · cases h
    exact .inl rfl
  · cases h

/-- One path of a batch asks for a reload or is followed. -/
theorem classifyRelative_ok
    (hglob : GlobLaws library.glob)
    (hbase : PlainBase session.base)
    (hresident : session.resident.isNone = false)
    (howned : session.WellOwned library session.documents)
    {relative : TreePath}
    (hnamed : Named relative)
    (hplain : session.PlainMention library disk relative)
    {raw : String}
    {batch next : Batch}
    (h : session.classifyRelative library disk raw relative batch =
      .ok next) :
    next.reload = true ∨
      next.reload = batch.reload ∧ ∃ more,
        next.upserts = batch.upserts ++ more ∧
        session.Follows library disk more
          (fun path => session.base ++ relative <+: path) := by
  have hpath : Named (session.base ++ relative) :=
    named_append.mpr ⟨hbase.named, hnamed⟩
  unfold classifyRelative at h
  split at h
  · next hlock =>
      obtain ⟨howners, hunder⟩ := hplain.lock hlock
      obtain ⟨hreload, hupserts, hfollows⟩ :=
        classifyMatchLock_ok hpath howners hunder h
      exact .inr ⟨hreload, [], by rw [hupserts, List.append_nil], hfollows⟩
  · split at h
    · next hreserved =>
        cases h
        refine .inr ⟨rfl, [], by rw [List.append_nil], by simp, ?_, ?_⟩
        all_goals
          have hcold : ∀ path, session.base ++ relative <+: path →
              session.isReservedAt path = true := by
            rintro path ⟨below, rfl⟩
            have hself := hplain.reserved [] (.inl rfl)
            rw [List.append_nil] at hself
            refine isReservedAt_append below ?_
            rw [← hself]
            exact hreserved
        · intro path _ hstarts
          exact handled_of_reserved howned (hcold path hstarts)
        · intro path hstarts
          exact loadableAt_of_reserved (hcold path hstarts)
    · next hreserved =>
        rw [Bool.not_eq_true] at hreserved
        split at h
        · cases h
          exact .inl rfl
        · simp only [metadata_named disk hpath] at h
          split at h
          · next listable names entry hlookup =>
              exact classifyDirectory_ok hglob hbase hresident howned hplain
                hlookup h
          · next content hlookup =>
              exact classifyFilePath_ok hglob hbase hresident howned hplain
                hlookup hreserved h
          · next hlookup =>
              cases h
              split
              · exact .inl rfl
              · next hunder =>
                  rw [Bool.not_eq_true] at hunder
                  exact .inr ⟨rfl, [], by rw [List.append_nil],
                    follows_missing hlookup (hasFilesUnder_false hunder)⟩

theorem normalizeSegments_named
    {segments normalized result : List String}
    (hnormalized : Named normalized)
    (hsegments : ∀ segment ∈ segments, segment ≠ "" ∧ segment ≠ ".")
    (h : normalizeSegments normalized segments = some result) :
    Named result := by
  induction segments generalizing normalized with
  | nil =>
      cases h
      exact hnormalized
  | cons segment segments ih =>
      have hrest : ∀ other ∈ segments, other ≠ "" ∧ other ≠ "." :=
        fun other hother => hsegments other (List.mem_cons_of_mem segment hother)
      rw [normalizeSegments] at h
      split at h
      · split at h
        · cases h
        · refine ih ?_ hrest h
          exact fun other hother =>
            hnormalized other (List.dropLast_subset normalized hother)
      · next hparent =>
          obtain ⟨hempty, hdot⟩ := hsegments segment List.mem_cons_self
          refine ih (named_append.mpr ⟨hnormalized, ?_⟩) hrest h
          intro other hother
          rw [List.mem_singleton.mp hother]
          exact ⟨hempty, hdot, hparent⟩

theorem normalize_named
    {base : FilePath}
    {raw : String}
    {relative : TreePath}
    (h : normalize base raw = .ok relative) : Named relative := by
  have hcomponents : ∀ path : FilePath, ∀ segment ∈ components path,
      segment ≠ "" ∧ segment ≠ "." := by
    intro path segment hs
    have hkept := (List.mem_filter.mp hs).2
    rwa [Bool.and_eq_true, decide_eq_true_iff, decide_eq_true_iff] at hkept
  unfold normalize at h
  split at h
  · simp only at h
    split at h
    · split at h
      · next hnormalized =>
          cases h
          exact normalizeSegments_named (by simp [Named])
            (fun segment hs => hcomponents _ segment (List.mem_of_mem_drop hs))
            hnormalized
      · cases h
    · cases h
  · split at h
    · next hnormalized =>
        cases h
        exact normalizeSegments_named (by simp [Named]) (hcomponents _)
          hnormalized
    · cases h

theorem Follows.append
    {changes more : List (FilePath × String)}
    {paths others : TreePath → Prop}
    (h : session.Follows library disk changes paths)
    (hmore : session.Follows library disk more others) :
    session.Follows library disk (changes ++ more)
      (fun path => paths path ∨ others path) := by
  refine ⟨?_, ?_, ?_⟩
  · intro change hchange
    rcases List.mem_append.mp hchange with hchange | hchange
    · exact h.sources change hchange
    · exact hmore.sources change hchange
  · rintro path hnamed (hpath | hpath)
    · exact handled_mono (List.subset_append_left changes more)
        (h.handled path hnamed hpath)
    · exact handled_mono (List.subset_append_right changes more)
        (hmore.handled path hnamed hpath)
  · rintro path (hpath | hpath)
    · exact h.loadable path hpath
    · exact hmore.loadable path hpath

theorem Follows.mono
    {changes : List (FilePath × String)}
    {paths others : TreePath → Prop}
    (h : session.Follows library disk changes paths)
    (hsubset : ∀ path, others path → paths path) :
    session.Follows library disk changes others :=
  ⟨h.sources, fun path hnamed hpath => h.handled path hnamed
    (hsubset path hpath), fun path hpath => h.loadable path (hsubset path hpath)⟩

/-- A reload that was asked for stays asked for. -/
theorem classifyRelative_reload
    {relative : TreePath}
    {raw : String}
    {batch next : Batch}
    (h : session.classifyRelative library disk raw relative batch = .ok next)
    (hreload : batch.reload = true) : next.reload = true := by
  unfold classifyRelative classifyMatchLock classifyDirectory classifyFilePath
    at h
  simp only at h
  repeat' split at h
  all_goals cases h
  all_goals first
    | exact hreload
    | rfl

theorem classifyPaths_reload
    {paths : List String}
    {batch next : Batch}
    (h : session.classifyPaths library disk paths batch = .ok next)
    (hreload : batch.reload = true) : next.reload = true := by
  induction paths generalizing batch with
  | nil =>
      cases h
      exact hreload
  | cons raw paths ih =>
      rw [classifyPaths] at h
      split at h
      · cases h
      · obtain ⟨middle, hmiddle, h⟩ := except_bind_ok h
        exact ih h (classifyRelative_reload hmiddle hreload)

/-- A batch without a reload is followed path by path. -/
theorem classifyPaths_ok
    (hglob : GlobLaws library.glob)
    (hbase : PlainBase session.base)
    (hresident : session.resident.isNone = false)
    (howned : session.WellOwned library session.documents)
    {paths : List String}
    (hplain : session.PlainBatch library disk paths)
    {batch next : Batch}
    (h : session.classifyPaths library disk paths batch = .ok next)
    (hreload : next.reload = false) :
    ∃ more, next.upserts = batch.upserts ++ more ∧
      session.Follows library disk more (Covers session.base paths) := by
  induction paths generalizing batch with
  | nil =>
      cases h
      refine ⟨[], by rw [List.append_nil], by simp, ?_, ?_⟩
      · rintro path - ⟨relative, ⟨raw, hraw, -⟩, -⟩
        cases hraw
      · rintro path ⟨relative, ⟨raw, hraw, -⟩, -⟩
        cases hraw
  | cons raw paths ih =>
      rw [classifyPaths] at h
      split at h
      · cases h
      · next relative hrelative =>
          obtain ⟨middle, hmiddle, h⟩ := except_bind_ok h
          have hmention : Mentions session.base (raw :: paths) relative :=
            ⟨raw, List.mem_cons_self, hrelative⟩
          rcases classifyRelative_ok hglob hbase hresident howned
            (normalize_named hrelative) (hplain relative hmention) hmiddle
            with hasked | ⟨-, first, hfirst, hfollows⟩
          · rw [classifyPaths_reload h hasked] at hreload
            cases hreload
          · obtain ⟨more, hmore, hothers⟩ := ih (by
              rintro other ⟨text, htext, hother⟩
              exact hplain other
                ⟨text, List.mem_cons_of_mem raw htext, hother⟩) h
            refine ⟨first ++ more, ?_, (hfollows.append hothers).mono ?_⟩
            · rw [hmore, hfirst, List.append_assoc]
            · rintro path ⟨other, ⟨text, htext, hother⟩, hstarts⟩
              rcases List.mem_cons.mp htext with rfl | htext
              · rw [hrelative] at hother
                obtain rfl := Except.ok.inj hother
                exact .inl hstarts
              · exact .inr ⟨other, ⟨text, htext, hother⟩, hstarts⟩

end Classify

end Session

end Daemon

end Dsql
