import Dsql.Daemon.Session
import Dsql.Daemon.Ownership

/-!
# Upserts

A session whose documents have their owners, each of them once, stays so when a
batch upserts sources of the disk; afterwards the upserted paths hold what the
disk holds and the other paths what they held before.
-/

namespace Dsql

namespace Daemon

namespace Session

/-- The document that a path stands for in a session. -/
def sourceAt
    (library : ProjectLibrary)
    (session : Session)
    (disk : Disk)
    (path : FilePath) : Option Document :=
  Daemon.sourceAt library.glob disk session.base session.config
    session.excludeRoots path

def isReservedAt (session : Session) (path : FilePath) : Bool :=
  isReservedPath
    (reservedPaths session.base session.config session.excludeRoots) path

def ownerOf
    (library : ProjectLibrary)
    (session : Session)
    (path : FilePath) : Option SourceAssignment :=
  Daemon.ownerOf library.glob session.base session.config path

/-- Whether a list of documents holds at a path what the disk holds there. -/
def AgreesAt
    (library : ProjectLibrary)
    (session : Session)
    (disk : Disk)
    (documents : List Document)
    (path : FilePath) : Prop :=
  ∀ document, document.path = path →
    (document ∈ documents ↔ session.sourceAt library disk path = some document)

/-- Documents that are resident once and under the scope that owns them. -/
structure WellOwned
    (library : ProjectLibrary)
    (session : Session)
    (documents : List Document) : Prop where
  once : (documents.map Document.path).Nodup
  named : ∀ document ∈ documents, Named document.path
  outside : ∀ document ∈ documents,
    session.isReservedAt document.path = false
  owned : ∀ document ∈ documents,
    session.ownerOf library document.path =
      some ⟨document.scope, document.kind⟩

/-- An upsert carries the text of a source of the disk. -/
def IsSource
    (library : ProjectLibrary)
    (session : Session)
    (disk : Disk)
    (change : FilePath × String) : Prop :=
  Named change.1 ∧ ∃ document,
    session.sourceAt library disk change.1 = some document ∧
      document.text = change.2

section SetText

variable {path : FilePath} {text : String} {documents : List Document}

theorem setText_paths (documents : List Document) :
    (setText path text documents).map Document.path =
      documents.map Document.path := by
  induction documents with
  | nil => rfl
  | cons first documents ih =>
      rw [setText]
      split
      · rfl
      · rw [List.map_cons, List.map_cons, ih]

/-- Only the document at the path changes, and only its text does. -/
theorem setText_mem
    (hnodup : (documents.map Document.path).Nodup)
    (document : Document) :
    document ∈ setText path text documents ↔
      if document.path = path then
        ∃ before ∈ documents, before.path = path ∧
          document = { before with text := text }
      else
        document ∈ documents := by
  induction documents with
  | nil => simp [setText]
  | cons first documents ih =>
      rw [List.map_cons, List.nodup_cons] at hnodup
      rw [setText]
      by_cases hfirst : first.path = path
      · rw [if_pos hfirst]
        have hothers : ∀ other ∈ documents, other.path ≠ path := by
          intro other hother hpath
          refine hnodup.1 (List.mem_map.mpr ⟨other, hother, ?_⟩)
          rw [hpath, hfirst]
        by_cases hdocument : document.path = path
        · rw [if_pos hdocument]
          constructor
          · intro h
            rcases List.mem_cons.mp h with rfl | h
            · exact ⟨first, List.mem_cons_self, hfirst, rfl⟩
            · exact absurd hdocument (hothers document h)
          · rintro ⟨before, hbefore, hpath, rfl⟩
            rcases List.mem_cons.mp hbefore with rfl | hbefore
            · exact List.mem_cons_self
            · exact absurd hpath (hothers before hbefore)
        · rw [if_neg hdocument, List.mem_cons, List.mem_cons]
          constructor
          · rintro (rfl | h)
            · exact absurd hfirst hdocument
            · exact .inr h
          · rintro (rfl | h)
            · exact absurd hfirst hdocument
            · exact .inr h
      · rw [if_neg hfirst, List.mem_cons, ih hnodup.2]
        by_cases hdocument : document.path = path
        · rw [if_pos hdocument, if_pos hdocument]
          constructor
          · rintro (rfl | ⟨before, hbefore, hrest⟩)
            · exact absurd hdocument hfirst
            · exact ⟨before, List.mem_cons_of_mem first hbefore, hrest⟩
          · rintro ⟨before, hbefore, hpath, rfl⟩
            rcases List.mem_cons.mp hbefore with rfl | hbefore
            · exact absurd hpath hfirst
            · exact .inr ⟨before, hbefore, hpath, rfl⟩
        · rw [if_neg hdocument, if_neg hdocument, List.mem_cons]

end SetText

section Upsert

variable {library : ProjectLibrary} {session : Session} {disk : Disk}

/-- What the rules own uniquely they assign to its owner. -/
theorem ownershipOf_of_ownerOf
    (hglob : GlobLaws library.glob)
    (hbase : PlainBase session.base)
    {path : FilePath}
    (hpath : Named path)
    {assignment : SourceAssignment}
    (h : session.ownerOf library path = some assignment) :
    ownershipOf library.glob
        (scopeDocumentAssignments session.base session.config) path =
      .unique assignment := by
  unfold ownerOf Daemon.ownerOf at h
  split at h
  · next found hfound =>
      cases h
      cases himplicit : session.config.usesImplicitDocuments with
      | false =>
          rw [ownershipOf_configured himplicit, hfound]
      | true =>
          unfold owners at hfound
          rw [if_pos himplicit] at hfound
          rw [ownershipOf_implicit hglob hbase himplicit hpath]
          split at hfound
          · next hcond =>
              rw [if_pos (by rw [hcond, Bool.true_or])]
              cases hfound
              rfl
          · cases hfound
  · cases h

theorem holds_iff
    {documents : List Document}
    {path : FilePath} :
    documents.any (fun document => document.path = path) = true ↔
      ∃ document ∈ documents, document.path = path := by
  simp [List.any_eq_true]

/-- An upserted path holds what the disk holds; the others stay. -/
theorem upsert_mem
    (hglob : GlobLaws library.glob)
    (hbase : PlainBase session.base)
    {documents : List Document}
    (howned : session.WellOwned library documents)
    {change : FilePath × String}
    (hchange : session.IsSource library disk change)
    (document : Document) :
    document ∈ session.upsert library documents change ↔
      if document.path = change.1 then
        session.sourceAt library disk change.1 = some document
      else
        document ∈ documents := by
  obtain ⟨hnamed, source, hsource, htext⟩ := hchange
  obtain ⟨hreserved, assignment, text, howner, hfile, rfl⟩ :=
    sourceAt_eq_some.mp hsource
  change text = change.2 at htext
  subst htext
  unfold upsert
  by_cases hholds : documents.any (fun document =>
      document.path = change.1) = true
  · rw [if_pos hholds, setText_mem howned.once]
    by_cases hdocument : document.path = change.1
    · rw [if_pos hdocument, if_pos hdocument, hsource, Option.some.injEq]
      have hbefore : ∀ before ∈ documents, before.path = change.1 →
          ({ before with text := change.2 } : Document) =
            ⟨change.1, change.2, assignment.scope, assignment.kind⟩ := by
        intro before hmem hpath
        have hassignment := howned.owned before hmem
        unfold ownerOf at hassignment
        rw [hpath, howner, Option.some.injEq] at hassignment
        rw [hassignment, ← hpath]
      constructor
      · rintro ⟨before, hmem, hpath, rfl⟩
        exact (hbefore before hmem hpath).symm
      · rintro rfl
        obtain ⟨before, hmem, hpath⟩ := holds_iff.mp hholds
        exact ⟨before, hmem, hpath, (hbefore before hmem hpath).symm⟩
    · rw [if_neg hdocument, if_neg hdocument]
  · rw [if_neg hholds, ownershipOf_of_ownerOf hglob hbase hnamed howner]
    simp only
    rw [List.mem_append, List.mem_singleton]
    by_cases hdocument : document.path = change.1
    · rw [if_pos hdocument, hsource, Option.some.injEq]
      constructor
      · rintro (hmem | rfl)
        · exact absurd (holds_iff.mpr ⟨document, hmem, hdocument⟩) hholds
        · rfl
      · rintro rfl
        exact .inr rfl
    · rw [if_neg hdocument]
      constructor
      · rintro (hmem | rfl)
        · exact hmem
        · exact absurd rfl hdocument
      · exact .inl

theorem upsert_once
    {documents : List Document}
    (h : (documents.map Document.path).Nodup)
    (change : FilePath × String) :
    ((session.upsert library documents change).map Document.path).Nodup := by
  unfold upsert
  split
  · rw [setText_paths]
    exact h
  · next hholds =>
      split
      · next assignment _ =>
          rw [List.map_append, List.map_singleton]
          refine List.nodup_append.mpr ⟨h, List.nodup_singleton _, ?_⟩
          rintro path hpath other hother rfl
          obtain ⟨document, hdocument, rfl⟩ := List.mem_map.mp hpath
          exact hholds (holds_iff.mpr
            ⟨document, hdocument, List.mem_singleton.mp hother⟩)
      · exact h

theorem wellOwned_upsert
    (hglob : GlobLaws library.glob)
    (hbase : PlainBase session.base)
    {documents : List Document}
    (howned : session.WellOwned library documents)
    {change : FilePath × String}
    (hchange : session.IsSource library disk change) :
    session.WellOwned library
      (session.upsert library documents change) := by
  have hmem := upsert_mem hglob hbase howned hchange
  have hcases : ∀ document ∈ session.upsert library documents change,
      document ∈ documents ∨
        document.path = change.1 ∧
          session.sourceAt library disk change.1 = some document := by
    intro document hdocument
    rw [hmem document] at hdocument
    split at hdocument
    · next hpath => exact .inr ⟨hpath, hdocument⟩
    · exact .inl hdocument
  refine ⟨upsert_once howned.once change, ?_, ?_, ?_⟩
  · intro document hdocument
    rcases hcases document hdocument with hold | ⟨hpath, -⟩
    · exact howned.named document hold
    · rw [hpath]
      exact hchange.1
  · intro document hdocument
    rcases hcases document hdocument with hold | ⟨hpath, hsource⟩
    · exact howned.outside document hold
    · rw [hpath]
      exact (sourceAt_eq_some.mp hsource).1
  · intro document hdocument
    rcases hcases document hdocument with hold | ⟨hpath, hsource⟩
    · exact howned.owned document hold
    · obtain ⟨-, assignment, text, howner, -, rfl⟩ :=
        sourceAt_eq_some.mp hsource
      exact howner

/-- After all upserts the paths of some upsert hold what the disk holds. -/
theorem upserts_mem
    (hglob : GlobLaws library.glob)
    (hbase : PlainBase session.base)
    {changes : List (FilePath × String)}
    (hchanges : ∀ change ∈ changes, session.IsSource library disk change)
    {documents : List Document}
    (howned : session.WellOwned library documents) :
    session.WellOwned library
        (changes.foldl (session.upsert library) documents) ∧
      ∀ document,
        document ∈ changes.foldl (session.upsert library) documents ↔
          if document.path ∈ changes.map Prod.fst then
            session.sourceAt library disk document.path = some document
          else
            document ∈ documents := by
  induction changes generalizing documents with
  | nil => exact ⟨howned, fun document => by simp⟩
  | cons change changes ih =>
      have hchange := hchanges change List.mem_cons_self
      obtain ⟨hresult, hmem⟩ := ih
        (fun other hother => hchanges other (List.mem_cons_of_mem change hother))
        (wellOwned_upsert hglob hbase howned hchange)
      refine ⟨hresult, fun document => ?_⟩
      rw [List.foldl_cons, hmem, upsert_mem hglob hbase howned hchange,
        List.map_cons]
      by_cases hlater : document.path ∈ changes.map Prod.fst
      · rw [if_pos hlater, if_pos (List.mem_cons_of_mem change.1 hlater)]
      · rw [if_neg hlater]
        by_cases hfirst : document.path = change.1
        · rw [if_pos hfirst,
            if_pos (List.mem_cons.mpr (.inl hfirst)), hfirst]
        · rw [if_neg hfirst, if_neg (by
            intro hpath
            rcases List.mem_cons.mp hpath with hpath | hpath
            · exact hfirst hpath
            · exact hlater hpath)]

/-- A path is handled when it is upserted or its documents are right
already. -/
def Handled
    (library : ProjectLibrary)
    (session : Session)
    (disk : Disk)
    (changes : List (FilePath × String))
    (path : FilePath) : Prop :=
  path ∈ changes.map Prod.fst ∨
    session.AgreesAt library disk session.documents path

theorem agrees_of_handled
    (hglob : GlobLaws library.glob)
    (hbase : PlainBase session.base)
    {changes : List (FilePath × String)}
    (hchanges : ∀ change ∈ changes, session.IsSource library disk change)
    (howned : session.WellOwned library session.documents)
    {path : FilePath}
    (h : session.Handled library disk changes path) :
    session.AgreesAt library disk
      (changes.foldl (session.upsert library) session.documents) path := by
  obtain ⟨-, hmem⟩ := upserts_mem hglob hbase hchanges howned
  rintro document rfl
  rw [hmem]
  by_cases hpath : document.path ∈ changes.map Prod.fst
  · rw [if_pos hpath]
  · rw [if_neg hpath]
    rcases h with h | h
    · exact absurd h hpath
    · exact h document rfl

end Upsert

end Session

end Daemon

end Dsql
