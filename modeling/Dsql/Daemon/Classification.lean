import Dsql.Daemon.Upserts
import Dsql.Daemon.Loads

/-!
# What a batch brings up to date

A batch that does not ask for a reload carries an upsert for every path at or
below one of its paths where the resident documents differ from the disk.  The
conditions name the paths for which this fails.
-/

namespace Dsql

namespace Daemon

def Mentions
    (base : FilePath)
    (paths : List String)
    (relative : TreePath) : Prop :=
  ∃ raw ∈ paths, normalize base raw = .ok relative

/-- A path at or below one of a batch. -/
def Covers
    (base : FilePath)
    (paths : List String)
    (path : TreePath) : Prop :=
  ∃ relative, Mentions base paths relative ∧ base ++ relative <+: path

namespace Session

def LoadableAt
    (library : ProjectLibrary)
    (session : Session)
    (disk : Disk)
    (path : TreePath) : Prop :=
  Loadable library.glob disk session.base session.config session.excludeRoots
    path

/-- A path of a batch that the daemon can follow.  The reserved roots read the
same with the backslashes of names taken for slashes; no resident text has the
hash of the text on disk but another text; without configured scopes no file
has the extension for its whole name; a document was not replaced by a
directory or the other way round; and the match lock is no document. -/
structure PlainMention
    (library : ProjectLibrary)
    (session : Session)
    (disk : Disk)
    (relative : TreePath) : Prop where
  reserved : ∀ below,
    below = [] ∨
      (disk.tree.lookup (session.base ++ (relative ++ below))).isSome = true →
    session.isReserved (relative ++ below) =
      session.isReservedAt (session.base ++ (relative ++ below))
  hashes : ∀ document ∈ session.documents,
    session.base ++ relative <+: document.path →
    ∀ text, disk.tree.fileAt document.path = some (.text text) →
      library.contentHash document.text = library.contentHash text →
      document.text = text
  extension : session.config.usesImplicitDocuments = true →
    ∀ below, disk.tree.isFileAt (session.base ++ (relative ++ below)) = true →
      (session.base ++ (relative ++ below)).getLast? ≠ some ".dsql"
  noDirectory :
    disk.tree.isDirectoryAt (session.base ++ relative) = true →
      ∀ document ∈ session.documents, document.path ≠ session.base ++ relative
  noFile : disk.tree.isFileAt (session.base ++ relative) = true →
    ∀ document ∈ session.documents,
      session.base ++ relative <+: document.path →
      document.path = session.base ++ relative
  lock : textSegments relative = ["dsql", "dsql.lock"] →
    owners library.glob session.base session.config
        (session.base ++ relative) = [] ∧
      session.hasFilesUnder (session.base ++ relative) = false

def PlainBatch
    (library : ProjectLibrary)
    (session : Session)
    (disk : Disk)
    (paths : List String) : Prop :=
  ∀ relative, Mentions session.base paths relative →
    session.PlainMention library disk relative

section Agreement

variable {library : ProjectLibrary} {session : Session} {disk : Disk}

theorem agreesAt_of_none
    {documents : List Document}
    {path : FilePath}
    (hsource : session.sourceAt library disk path = none)
    (h : ∀ document ∈ documents, document.path ≠ path) :
    session.AgreesAt library disk documents path := by
  intro document hpath
  rw [hsource]
  constructor
  · intro hmem
    exact absurd hpath (h document hmem)
  · intro hnone
    cases hnone

/-- A resident document agrees with the disk when its text does. -/
theorem agreesAt_of_resident
    {documents : List Document}
    (howned : session.WellOwned library documents)
    {document : Document}
    (hmem : document ∈ documents)
    (htext : disk.tree.fileAt document.path = some (.text document.text)) :
    session.AgreesAt library disk documents document.path := by
  have hsource : session.sourceAt library disk document.path =
      some document :=
    sourceAt_eq_some.mpr ⟨howned.outside document hmem, _, document.text,
      howned.owned document hmem, htext, rfl⟩
  intro other hpath
  rw [hsource, Option.some.injEq]
  constructor
  · intro hother
    exact List.inj_on_of_nodup_map howned.once hmem hother hpath.symm
  · rintro rfl
    exact hmem

theorem sourceAt_of_no_file
    {path : FilePath}
    (h : disk.tree.isFileAt path = false) :
    session.sourceAt library disk path = none := by
  unfold sourceAt Daemon.sourceAt
  unfold FileTree.isFileAt at h
  rw [Option.isSome_eq_false_iff, Option.isNone_iff_eq_none] at h
  rw [h]
  split
  · rfl
  · split
    · next htext => cases htext
    · rfl

theorem sourceAt_of_reserved
    {path : FilePath}
    (h : session.isReservedAt path = true) :
    session.sourceAt library disk path = none := by
  unfold sourceAt Daemon.sourceAt
  exact if_pos h

theorem sourceAt_of_unowned
    {path : FilePath}
    (h : owners library.glob session.base session.config path = []) :
    session.sourceAt library disk path = none := by
  unfold sourceAt Daemon.sourceAt Daemon.ownerOf
  rw [h]
  split
  · rfl
  · rfl

theorem loadableAt_of_reserved
    {path : FilePath}
    (h : session.isReservedAt path = true) :
    session.LoadableAt library disk path := by
  unfold isReservedAt at h
  constructor
  · intro content _ hreserved
    rw [h] at hreserved
    cases hreserved
  · intro listable names entry _ hreserved
    rw [h] at hreserved
    cases hreserved

theorem loadableAt_of_missing
    {path : FilePath}
    (h : disk.tree.lookup path = none) :
    session.LoadableAt library disk path := by
  constructor
  · intro content hfile
    rw [FileTree.fileAt_eq_some, h] at hfile
    cases hfile
  · intro listable names entry hlookup
    rw [h] at hlookup
    cases hlookup

theorem loadableAt_of_directory
    {path : FilePath}
    {names : List String}
    {entry : String → FileTree FileContent}
    (h : disk.tree.lookup path = some (.directory true names entry)) :
    session.LoadableAt library disk path := by
  constructor
  · intro content hfile
    rw [FileTree.fileAt_eq_some, h] at hfile
    cases hfile
  · intro listable others children hlookup _ _
    rw [h] at hlookup
    cases hlookup
    rfl

theorem loadableAt_of_unowned
    {path : FilePath}
    {content : FileContent}
    (hfile : disk.tree.fileAt path = some content)
    (h : owners library.glob session.base session.config path = []) :
    session.LoadableAt library disk path := by
  constructor
  · intro other _ _ hne
    exact absurd h hne
  · intro listable names entry hlookup
    rw [FileTree.fileAt_eq_some.mp hfile] at hlookup
    cases hlookup

theorem loadableAt_of_owned
    {path : FilePath}
    {text : String}
    {assignment : SourceAssignment}
    (hfile : disk.tree.fileAt path = some (.text text))
    (h : session.ownerOf library path = some assignment) :
    session.LoadableAt library disk path := by
  constructor
  · intro content hcontent _ _
    rw [hfile] at hcontent
    exact ⟨⟨text, (Option.some.inj hcontent).symm⟩, assignment, h⟩
  · intro listable names entry hlookup
    rw [FileTree.fileAt_eq_some.mp hfile] at hlookup
    cases hlookup

theorem handled_mono
    {changes more : List (FilePath × String)}
    {path : FilePath}
    (hsubset : changes ⊆ more)
    (h : session.Handled library disk changes path) :
    session.Handled library disk more path := by
  rcases h with h | h
  · obtain ⟨change, hchange, rfl⟩ := List.mem_map.mp h
    exact .inl (List.mem_map.mpr ⟨change, hsubset hchange, rfl⟩)
  · exact .inr h

/-- Nothing below a reserved path is a document. -/
theorem handled_of_reserved
    (howned : session.WellOwned library session.documents)
    {changes : List (FilePath × String)}
    {path : FilePath}
    (h : session.isReservedAt path = true) :
    session.Handled library disk changes path := by
  refine .inr (agreesAt_of_none (sourceAt_of_reserved h) ?_)
  rintro document hdocument rfl
  rw [howned.outside document hdocument] at h
  cases h

end Agreement

/-! ## One file -/

section ScanFile

variable {library : ProjectLibrary} {session : Session} {disk : Disk}

theorem relevance_relevant
    (hglob : GlobLaws library.glob)
    (hbase : PlainBase session.base)
    (hresident : session.resident.isNone = false)
    (howned : session.WellOwned library session.documents)
    {path : FilePath}
    (hpath : Named path)
    (hname : session.config.usesImplicitDocuments = true →
      path.getLast? ≠ some ".dsql")
    (h : session.relevance library path = .relevant) :
    ∃ assignment, session.ownerOf library path = some assignment := by
  unfold relevance at h
  rw [hresident, Bool.false_or] at h
  split at h
  · next hholds =>
      obtain ⟨document, hdocument, rfl⟩ := holds_iff.mp hholds
      exact ⟨_, howned.owned document hdocument⟩
  · split at h
    · next assignment hunique =>
        exact ⟨assignment, ownerOf_of_unique hglob hbase hpath hname hunique⟩
    · cases h
    · cases h
    · cases h

theorem relevance_irrelevant
    (hglob : GlobLaws library.glob)
    (hbase : PlainBase session.base)
    {path : FilePath}
    (hpath : Named path)
    (h : session.relevance library path = .irrelevant) :
    owners library.glob session.base session.config path = [] ∧
      ∀ document ∈ session.documents, document.path ≠ path := by
  unfold relevance at h
  split at h
  · cases h
  · next hholds =>
      rw [Bool.or_eq_true, not_or] at hholds
      constructor
      · split at h
        · cases h
        · next himplicit =>
            exact absurd himplicit
              (ownershipOf_ne_implicitDefault hglob hbase hpath)
        · cases h
        · next hunmatched =>
            exact owners_of_unmatched hglob hbase hpath hunmatched
      · intro document hdocument hsame
        exact hholds.2 (holds_iff.mpr ⟨document, hdocument, hsame⟩)

/-- The scan of a file upserts it unless the resident documents are right. -/
theorem scanFile_ok
    (hglob : GlobLaws library.glob)
    (hbase : PlainBase session.base)
    (hresident : session.resident.isNone = false)
    (howned : session.WellOwned library session.documents)
    {path : FilePath}
    {content : FileContent}
    (hfile : disk.tree.fileAt path = some content)
    (hreserved : session.isReservedAt path = false)
    (hname : session.config.usesImplicitDocuments = true →
      path.getLast? ≠ some ".dsql")
    (hhash : ∀ document ∈ session.documents, document.path = path →
      ∀ text, content = .text text →
        library.contentHash document.text = library.contentHash text →
        document.text = text)
    {changes : List (FilePath × String)}
    (h : session.scanFile library path content = .ok changes) :
    (∀ change ∈ changes, session.IsSource library disk change) ∧
      session.Handled library disk changes path ∧
      session.LoadableAt library disk path := by
  have hpath : Named path :=
    disk.named path _ (FileTree.fileAt_eq_some.mp hfile)
  unfold scanFile at h
  split at h
  · next hirrelevant =>
      cases h
      obtain ⟨howners, hnone⟩ :=
        relevance_irrelevant hglob hbase hpath hirrelevant
      exact ⟨by simp, .inr (agreesAt_of_none (sourceAt_of_unowned howners)
        hnone), loadableAt_of_unowned hfile howners⟩
  · cases h
  · next hrelevant =>
      obtain ⟨assignment, howner⟩ := relevance_relevant hglob hbase hresident
        howned hpath hname hrelevant
      unfold classifyFile at h
      cases content with
      | binary identity => cases h
      | unreadable => cases h
      | text text =>
          simp only [FileContent.asText] at h
          have hloadable := loadableAt_of_owned hfile howner
          split at h
          · cases h
          · next hclassified =>
              cases h
              refine ⟨by simp, .inr ?_, hloadable⟩
              split at hclassified
              · next hsame =>
                  obtain ⟨document, hdocument, hequal⟩ :=
                    List.any_eq_true.mp hsame
                  rw [Bool.and_eq_true, decide_eq_true_iff,
                    decide_eq_true_iff] at hequal
                  obtain ⟨hsamePath, hsameHash⟩ := hequal
                  have htext := hhash document hdocument hsamePath text rfl
                    hsameHash
                  rw [← hsamePath, ← htext] at hfile
                  rw [← hsamePath]
                  exact agreesAt_of_resident howned hdocument hfile
              · cases hclassified
          · next fresh hclassified =>
              cases h
              split at hclassified
              · cases hclassified
              · cases hclassified
                have hsource : session.sourceAt library disk path =
                    some ⟨path, text, assignment.scope, assignment.kind⟩ :=
                  sourceAt_eq_some.mpr
                    ⟨hreserved, assignment, text, howner, hfile, rfl⟩
                refine ⟨?_, .inl (by simp), hloadable⟩
                intro change hchange
                rw [List.mem_singleton.mp hchange]
                exact ⟨hpath, _, hsource, rfl⟩

end ScanFile

end Session

end Daemon

end Dsql
