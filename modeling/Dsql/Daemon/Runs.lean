import Dsql.Daemon.Tracking
import Dsql.Logic.History

/-!
# Runs of a daemon session

Every request comes with the disk that it meets and with the outcome of the
compile that it may run.  One request keeps up to date what was up to date and
follows the paths that it reports.
-/

namespace Dsql

namespace Daemon

/-- A request with the disk that it finds and the outcome of compiling it. -/
structure Exchange where
  disk : Disk
  request : Request
  attempt : Outcome

/-- Whether a request brings a path up to date: a compile loads everything. -/
def Exchange.Reports
    (exchange : Exchange)
    (base : FilePath)
    (path : TreePath) : Prop :=
  match exchange.request with
  | .compile => True
  | .filesChanged none => False
  | .filesChanged (some paths) => Covers base paths path

/-- Whether the entry at a path is the one that the request before met. -/
def Exchange.Unchanged
    (exchange : Exchange)
    (earlier : List Exchange)
    (path : TreePath) : Prop :=
  ∀ previous ∈ earlier.head?,
    previous.disk.tree.entryAt path = exchange.disk.tree.entryAt path

namespace BatchPlan

/-- The plan loads everything again. -/
def isReload : BatchPlan → Bool
  | .fullReload _ => true
  | _ => false

theorem isReload_fullReload (lock : Option (Option String)) :
    (BatchPlan.fullReload lock).isReload = true := rfl

/-- The changed documents of a plan. -/
def changes : BatchPlan → List (FilePath × String)
  | .incremental changes _ => changes
  | _ => []

end BatchPlan

namespace Session

variable (library : ProjectLibrary)

/-- The answer to a request. -/
def serve (session : Session) (exchange : Exchange) : Answer :=
  session.compile library exchange.disk exchange.request exchange.attempt

/-- The plan of a request. -/
def plan
    (session : Session)
    (exchange : Exchange) : Except WireError BatchPlan :=
  session.requestPlan library exchange.disk exchange.request

/-- The session after the requests of a history. -/
def after (start : Session) : List Exchange → Session
  | [] => start
  | exchange :: earlier => ((after start earlier).serve library exchange).session

/-- A session as initialization leaves it. -/
def IsFresh (session : Session) : Prop :=
  session.resident = none ∧ session.last = none

section Serve

variable {library : ProjectLibrary} {session : Session} {exchange : Exchange}

/-- A request whose batch is refused changes nothing. -/
theorem serve_refused
    {error : WireError}
    (h : session.plan library exchange = .error error) :
    session.serve library exchange = ⟨.error error, false, session⟩ := by
  unfold plan at h
  unfold serve compile
  rw [h]

/-- A request with a plan compiles it. -/
theorem serve_planned
    {plan : BatchPlan}
    (h : session.plan library exchange = .ok plan) :
    session.serve library exchange =
      session.compilePlan library exchange.disk exchange.attempt plan := by
  unfold Session.plan at h
  unfold serve compile
  rw [h]

/-- A planned request repeats the last outcome, fails to load or compiles. -/
theorem compilePlan_cases
    (library : ProjectLibrary)
    (session : Session)
    (disk : Disk)
    (attempt : Outcome)
    (plan : BatchPlan) :
    (∃ documents outcome, plan = .noOp ∧ session.resident = some documents ∧
      session.last = some outcome ∧
      session.compilePlan library disk attempt plan =
        ⟨renderOutcome outcome true, true, session⟩) ∨
    (∃ failed error, session.apply library disk plan = .error (failed, error) ∧
      session.compilePlan library disk attempt plan =
        ⟨loadFailed error, false, { failed with resident := none }⟩) ∨
    ∃ applied, session.apply library disk plan = .ok applied ∧
      session.compilePlan library disk attempt plan =
        ⟨renderOutcome attempt false, false, applied.record attempt⟩ := by
  have hnow :
      (∃ failed error,
        session.apply library disk plan = .error (failed, error) ∧
        session.compileNow library disk attempt plan =
          ⟨loadFailed error, false, { failed with resident := none }⟩) ∨
      ∃ applied, session.apply library disk plan = .ok applied ∧
        session.compileNow library disk attempt plan =
          ⟨renderOutcome attempt false, false, applied.record attempt⟩ := by
    unfold compileNow
    cases happly : session.apply library disk plan with
    | error failed => exact .inl ⟨failed.1, failed.2, rfl, rfl⟩
    | ok applied => exact .inr ⟨applied, rfl, rfl⟩
  unfold compilePlan
  split
  · next documents outcome hresident hlast =>
      exact .inl ⟨documents, outcome, rfl, hresident, hlast, rfl⟩
  · exact .inr hnow

/-- Without a reload the plan has the changes of its batch. -/
theorem Batch.plan_changes
    {batch : Batch}
    (h : batch.plan.isReload = false) :
    batch.reload = false ∧ batch.plan.changes = batch.upserts := by
  unfold Batch.plan at h ⊢
  cases hreload : batch.reload with
  | true =>
      rw [hreload, if_pos rfl] at h
      cases h
  | false =>
      refine ⟨rfl, ?_⟩
      rw [if_neg (by simp)]
      cases hupserts : batch.upserts with
      | cons change upserts => rfl
      | nil =>
          rw [if_neg (by simp)]
          cases batch.lockChange with
          | none => rfl
          | some lock => rfl

/-- Only a batch for resident documents gets a plan that is no reload. -/
theorem batch_of_plan
    {plan : BatchPlan}
    (h : session.plan library exchange = .ok plan)
    (hreload : plan.isReload = false) :
    ∃ documents paths batch, session.resident = some documents ∧
      exchange.request = .filesChanged (some paths) ∧
      session.classifyPaths library exchange.disk paths .empty = .ok batch ∧
      batch.reload = false ∧ plan.changes = batch.upserts := by
  unfold Session.plan requestPlan at h
  cases hrequest : exchange.request with
  | compile =>
      rw [hrequest] at h
      cases h
      cases hreload
  | filesChanged paths =>
      rw [hrequest] at h
      unfold classifyBatch at h
      cases paths with
      | none => cases h
      | some paths =>
          simp only at h
          cases hresident : session.resident with
          | none =>
              rw [hresident] at h
              cases h
              cases hreload
          | some documents =>
              rw [hresident, if_neg (by simp)] at h
              obtain ⟨batch, hbatch, rfl⟩ := except_map_ok h
              obtain ⟨hnone, hchanges⟩ := Batch.plan_changes hreload
              exact ⟨documents, paths, batch, rfl, rfl, hbatch, hnone,
                hchanges⟩

/-- A plan that is no reload follows every path that its request reports. -/
theorem follows_of_plan
    (hglob : GlobLaws library.glob)
    (hbase : PlainBase session.base)
    (howned : session.WellOwned library session.documents)
    (hplain : ∀ paths, exchange.request = .filesChanged (some paths) →
      session.PlainBatch library exchange.disk paths)
    {plan : BatchPlan}
    (h : session.plan library exchange = .ok plan)
    (hreload : plan.isReload = false) :
    session.Follows library exchange.disk plan.changes
      (exchange.Reports session.base) := by
  obtain ⟨documents, paths, batch, hresident, hrequest, hbatch, hnone,
    hchanges⟩ := batch_of_plan h hreload
  obtain ⟨more, hmore, hfollows⟩ := classifyPaths_ok hglob hbase
    (by rw [hresident]; rfl) howned (hplain paths hrequest) hbatch hnone
  unfold Exchange.Reports
  rw [hchanges, hmore, hrequest]
  exact hfollows

/-- A plan that is no reload changes the texts of the resident documents. -/
theorem apply_of_not_reload
    (library : ProjectLibrary)
    (disk : Disk)
    {plan : BatchPlan}
    (hreload : plan.isReload = false)
    {documents : List Document}
    (hresident : session.resident = some documents) :
    ∃ applied, session.apply library disk plan = .ok applied ∧
      SameProject
        { session with
          resident :=
            some (plan.changes.foldl (session.upsert library) documents) }
        applied := by
  cases plan with
  | noOp =>
      refine ⟨session, rfl, rfl, rfl, rfl, ?_⟩
      exact hresident.symm
  | matchLockChanged lock =>
      refine ⟨session.withLock (some lock), rfl, rfl, rfl, rfl, ?_⟩
      exact hresident.symm
  | fullReload lock => cases hreload
  | incremental changes lock =>
      unfold apply
      cases lock with
      | none =>
          simp only [withLock, hresident]
          exact ⟨_, rfl, rfl, rfl, rfl, rfl⟩
      | some lock =>
          simp only [withLock, hresident]
          exact ⟨_, rfl, rfl, rfl, rfl, rfl⟩

/-- A reload reloads the same project. -/
theorem apply_of_reload
    (library : ProjectLibrary)
    (session : Session)
    (disk : Disk)
    {plan : BatchPlan}
    (hreload : plan.isReload = true) :
    ∃ locked, SameProject session locked ∧
      session.apply library disk plan =
        match locked.reload library disk with
        | .ok reloaded => .ok reloaded
        | .error error => .error (locked, error) := by
  cases plan with
  | fullReload lock =>
      exact ⟨session.withLock lock, sameProject_withLock session lock, rfl⟩
  | noOp => cases hreload
  | matchLockChanged lock => cases hreload
  | incremental changes lock => cases hreload

/-- What a served request leaves behind when nothing failed to load. -/
theorem serve_tracked
    (hglob : GlobLaws library.glob)
    (hbase : PlainBase session.base)
    {current : TreePath → Prop}
    (htracked : session.resident = none ∨
      session.Tracked library exchange.disk current)
    (hconfig : ∀ config,
      loadConfig library exchange.disk session.base = .ok config →
      PlainConfig exchange.disk session.base config)
    {plan : BatchPlan}
    (hplan : session.plan library exchange = .ok plan)
    (hplain : plan.isReload = false → ∀ paths,
      exchange.request = .filesChanged (some paths) →
      session.PlainBatch library exchange.disk paths) :
    (session.serve library exchange).session.resident = none ∨
      (session.serve library exchange).session.Tracked library exchange.disk
        (fun path => plan.isReload = true ∨
          exchange.Reports session.base path ∨ current path) := by
  rw [serve_planned hplan]
  cases hreload : plan.isReload with
  | true =>
      rcases compilePlan_cases library session exchange.disk exchange.attempt
        plan with
        ⟨documents, outcome, rfl, -⟩ | ⟨failed, error, -, hserve⟩ |
          ⟨applied, happly, hserve⟩
      · cases hreload
      · rw [hserve]
        exact .inl rfl
      · rw [hserve]
        right
        obtain ⟨locked, hsame, hlocked⟩ :=
          apply_of_reload library session exchange.disk hreload
        rw [hlocked] at happly
        cases hreloaded : locked.reload library exchange.disk with
        | error error => rw [hreloaded] at happly; cases happly
        | ok reloaded =>
            rw [hreloaded] at happly
            cases happly
            rw [hsame.1] at hbase hconfig
            obtain ⟨-, -, hall, -⟩ :=
              tracked_reload hglob hbase hconfig hreloaded
            exact tracked_of_same (sameProject_record _ exchange.attempt)
              (hall.mono (fun path _ => trivial))
  | false =>
      right
      obtain ⟨documents, -, -, hresident, -⟩ := batch_of_plan hplan hreload
      have hthere : session.Tracked library exchange.disk current := by
        rcases htracked with hnone | htracked
        · rw [hresident] at hnone
          cases hnone
        · exact htracked
      have hfollows := follows_of_plan hglob hbase hthere.owned
        (hplain hreload) hplan hreload
      have hupserts :=
        tracked_upserts hglob hbase hresident hthere hfollows
      obtain ⟨applied, happly, hsame⟩ :=
        apply_of_not_reload library exchange.disk hreload hresident
      rcases compilePlan_cases library session exchange.disk exchange.attempt
        plan with
        ⟨others, outcome, rfl, -, -, hserve⟩ | ⟨failed, error, hfailed, -⟩ |
          ⟨found, hfound, hserve⟩
      · rw [hserve]
        cases happly
        exact (tracked_of_same hsame hupserts).mono (by simp)
      · rw [happly] at hfailed
        cases hfailed
      · rw [happly] at hfound
        obtain rfl := Except.ok.inj hfound
        rw [hserve]
        exact (tracked_of_same (sameProject_record _ exchange.attempt)
          (tracked_of_same hsame hupserts)).mono (by simp)

/-- The base and the exclusions of a session never change. -/
def SameRoots (session other : Session) : Prop :=
  session.base = other.base ∧ session.excludeRoots = other.excludeRoots

/-- A reload keeps the roots. -/
theorem sameRoots_reload
    {disk : Disk}
    {reloaded : Session}
    (h : session.reload library disk = .ok reloaded) :
    SameRoots session reloaded := by
  unfold reload at h
  obtain ⟨loaded, -, h⟩ := except_bind_ok h
  cases h
  exact ⟨rfl, rfl⟩

/-- Applying a plan keeps the roots. -/
theorem sameRoots_apply
    {disk : Disk}
    {plan : BatchPlan}
    {applied : Session}
    (h : session.apply library disk plan = .ok applied) :
    SameRoots session applied := by
  cases hreload : plan.isReload with
  | true =>
      obtain ⟨locked, hsame, hlocked⟩ :=
        apply_of_reload library session disk hreload
      rw [hlocked] at h
      cases hreloaded : locked.reload library disk with
      | error error => rw [hreloaded] at h; cases h
      | ok reloaded =>
          rw [hreloaded] at h
          cases h
          obtain ⟨hbase, hroots⟩ := sameRoots_reload hreloaded
          exact ⟨hsame.1.trans hbase, hsame.2.1.trans hroots⟩
  | false =>
      cases hresident : session.resident with
      | some documents =>
          obtain ⟨found, hfound, hsame⟩ :=
            apply_of_not_reload library disk hreload hresident
          rw [hfound] at h
          cases h
          exact ⟨hsame.1, hsame.2.1⟩
      | none =>
          cases plan with
          | noOp => cases h; exact ⟨rfl, rfl⟩
          | matchLockChanged lock => cases h; exact ⟨rfl, rfl⟩
          | fullReload lock => cases hreload
          | incremental changes lock =>
              unfold apply at h
              cases lock with
              | none => simp [withLock, hresident] at h
              | some lock => simp [withLock, hresident] at h

/-- A plan that fails keeps the roots. -/
theorem sameRoots_apply_error
    {disk : Disk}
    {plan : BatchPlan}
    {failed : Session}
    {error : ProjectError}
    (h : session.apply library disk plan = .error (failed, error)) :
    SameRoots session failed := by
  cases plan with
  | noOp => cases h
  | matchLockChanged lock => cases h
  | fullReload lock =>
      obtain ⟨locked, hsame, hlocked⟩ :=
        apply_of_reload library session disk (BatchPlan.isReload_fullReload lock)
      rw [hlocked] at h
      cases hreloaded : locked.reload library disk with
      | error found =>
          rw [hreloaded] at h
          cases h
          exact ⟨hsame.1, hsame.2.1⟩
      | ok reloaded => rw [hreloaded] at h; cases h
  | incremental changes lock =>
      unfold apply at h
      obtain ⟨hbase, hroots, -, -⟩ := sameProject_withLock session lock
      simp only at h
      split at h
      · cases h
        exact ⟨hbase, hroots⟩
      · cases h

/-- Serving a request keeps the roots. -/
theorem sameRoots_serve (library : ProjectLibrary) (session : Session)
    (exchange : Exchange) :
    SameRoots session (session.serve library exchange).session := by
  cases hplan : session.plan library exchange with
  | error error =>
      rw [serve_refused hplan]
      exact ⟨rfl, rfl⟩
  | ok plan =>
      rw [serve_planned hplan]
      rcases compilePlan_cases library session exchange.disk exchange.attempt
        plan with
        ⟨documents, outcome, -, -, -, hserve⟩ | ⟨failed, error, happly, hserve⟩ |
          ⟨applied, happly, hserve⟩
      · rw [hserve]
        exact ⟨rfl, rfl⟩
      · rw [hserve]
        obtain ⟨hbase, hroots⟩ := sameRoots_apply_error happly
        exact ⟨hbase, hroots⟩
      · rw [hserve]
        obtain ⟨hbase, hroots, -, -⟩ :=
          sameProject_record applied exchange.attempt
        obtain ⟨hsame, hsameRoots⟩ := sameRoots_apply happly
        exact ⟨hsame.trans hbase, hsameRoots.trans hroots⟩

/-- The base and the exclusions after a history are those of its start. -/
theorem sameRoots_after
    (library : ProjectLibrary)
    (start : Session)
    (history : List Exchange) :
    SameRoots start (start.after library history) := by
  induction history with
  | nil => exact ⟨rfl, rfl⟩
  | cons exchange earlier ih =>
      obtain ⟨hbase, hroots⟩ :=
        sameRoots_serve library (start.after library earlier) exchange
      exact ⟨ih.1.trans hbase, ih.2.trans hroots⟩

end Serve

end Session

/-! ## A small project -/

section Sample

/-- A tree whose entries have names. -/
def HasNames (tree : FileTree FileContent) : Prop :=
  ∀ path found, tree.lookup path = some found →
    ∀ segment ∈ path, IsName segment

theorem hasNames_file (content : FileContent) :
    HasNames (.file content) := by
  intro path found h
  cases path with
  | nil => simp
  | cons name path => cases h

/-- A directory of named entries. -/
def folder (entries : List (String × FileTree FileContent)) :
    FileTree FileContent :=
  .directory true (entries.map Prod.fst)
    (fun name =>
      match entries.find? (fun entry => entry.1 = name) with
      | some entry => entry.2
      | none => .file .unreadable)

theorem hasNames_folder
    {entries : List (String × FileTree FileContent)}
    (h : ∀ entry ∈ entries, IsName entry.1 ∧ HasNames entry.2) :
    HasNames (folder entries) := by
  intro path found hfound
  cases path with
  | nil => simp
  | cons name path =>
      unfold folder at hfound
      rw [FileTree.lookup, FileTree.child_directory] at hfound
      split at hfound
      · next hname =>
          obtain ⟨entry, hmem, rfl⟩ := List.mem_map.mp hname
          intro segment hs
          rcases List.mem_cons.mp hs with rfl | hs
          · exact (h entry hmem).1
          · split at hfound
            · next other hother =>
                exact (h other (List.mem_of_find?_eq_some hother)).2 path found
                  hfound segment hs
            · exact hasNames_file .unreadable path found hfound segment hs
      · cases hfound

theorem staticPrefix_deep
    {root : FilePath}
    (h : Named root) :
    staticPrefix (root ++ ["**", "*.dsql"]) <+: root := by
  have htail : (components ["**", "*.dsql"]).takeWhile
      (fun segment => !hasWildcard segment) = [] := rfl
  unfold staticPrefix
  rw [components_append, components_eq_self h, List.takeWhile_append, htail]
  split
  · simp
  · exact List.takeWhile_prefix _

/-- A glob library for patterns of any depth. -/
def sampleGlob : GlobLibrary where
  compile pattern := some (fun path =>
    let root := pattern.dropLast.dropLast
    pattern = root ++ ["**", "*.dsql"] && root.isPrefixOf path &&
      (path.drop root.length).getLast?.any (fun name =>
        extension name = some "dsql" || name = ".dsql"))

theorem sampleGlob_laws : GlobLaws sampleGlob := by
  have hmatch : ∀ root path : FilePath,
      (root.isPrefixOf path &&
        (path.drop root.length).getLast?.any (fun name =>
          extension name = some "dsql" || name = ".dsql")) = true ↔
        ∃ above name, path = root ++ above ++ [name] ∧
          (extension name = some "dsql" ∨ name = ".dsql") := by
    intro root path
    rw [Bool.and_eq_true, List.isPrefixOf_iff_prefix, Option.any_eq_true]
    constructor
    · rintro ⟨⟨rest, rfl⟩, name, hlast, hname⟩
      rw [List.drop_left] at hlast
      refine ⟨rest.dropLast, name, ?_, by simpa using hname⟩
      rw [List.append_assoc, List.dropLast_append_getLast? name hlast]
    · rintro ⟨above, name, rfl, hname⟩
      rw [List.append_assoc]
      refine ⟨List.prefix_append .., name, ?_, by simpa using hname⟩
      rw [List.drop_left]
      simp
  constructor
  · intro pattern isMatch path hcompile hnamed hpath
    cases hcompile
    simp only [Bool.and_eq_true, decide_eq_true_iff] at hpath
    obtain ⟨⟨hpattern, hstarts⟩, -⟩ := hpath
    have hstarts := List.isPrefixOf_iff_prefix.mp hstarts
    have hroot : Named pattern.dropLast.dropLast := by
      obtain ⟨rest, rfl⟩ := hstarts
      exact (named_append.mp hnamed).1
    have hstatic := staticPrefix_deep hroot
    rw [← hpattern] at hstatic
    exact hstatic.trans hstarts
  · intro base hbase
    refine ⟨_, rfl, ?_⟩
    intro path _
    have hroot : (implicitPattern base).dropLast.dropLast =
        projectRoot base := by
      unfold implicitPattern
      simp
    simp only [hroot]
    rw [← hmatch (projectRoot base) path]
    simp [implicitPattern]

/-- The tree of a project with one directory of queries. -/
def sampleTree
    (queries : List (String × FileTree FileContent)) : FileTree FileContent :=
  folder [("project", folder [("dsql", folder []), ("queries", folder queries)])]

/-- A project with a query directory. -/
def sampleDisk
    (queries : List (String × FileTree FileContent))
    (h : ∀ entry ∈ queries, IsName entry.1 ∧ HasNames entry.2) : Disk where
  tree := sampleTree queries
  named := hasNames_folder (by
    have hname : ∀ name ∈ ["project", "dsql", "queries"], IsName name := by
      simp [IsName]
    have hproject : HasNames
        (folder [("dsql", folder []), ("queries", folder queries)]) := by
      refine hasNames_folder ?_
      intro entry hentry
      rcases List.mem_cons.mp hentry with rfl | hentry
      · exact ⟨hname "dsql" (by simp), hasNames_folder (by simp)⟩
      · rw [List.mem_singleton.mp hentry]
        exact ⟨hname "queries" (by simp), hasNames_folder h⟩
    intro entry hentry
    rw [List.mem_singleton.mp hentry]
    exact ⟨hname "project" (by simp), hproject⟩)

/-- One scope owns the queries. -/
def sampleConfig : Config where
  documents := [⟨"dsql", ["queries"]⟩]
  resolution := []
  outputs := []

/-- A library that reads the configuration of the project. -/
def sampleLibrary : ProjectLibrary where
  glob := sampleGlob
  readConfig _ _ := .ok sampleConfig
  loadCatalog _ _ _ := .ok ()
  extractionRegistry _ := .ok ()
  contentHash text := text.length
  digest _ := "digest"

/-- The session of the project as initialization leaves it. -/
def sampleSession : Session where
  base := ["project"]
  excludeRoots := []
  config := sampleConfig
  resident := none
  last := none
  filterMatchLock := none

theorem sampleSession_base : PlainBase sampleSession.base :=
  ⟨by simp [Named, IsName, sampleSession], rfl⟩

theorem sampleSession_fresh : sampleSession.IsFresh := ⟨rfl, rfl⟩

end Sample

end Daemon

end Dsql
