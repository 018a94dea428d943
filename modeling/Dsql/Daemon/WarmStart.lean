import Dsql.Daemon.Replay

/-!
# Warm sessions and full loads

A session that answered every batch with a success, and whose batches reported
every change, holds the documents that a full load of the disk would yield.
-/

namespace Dsql

namespace Daemon

/-- Paths that a full load reads for the configuration and the catalog. -/
def IsInput (base : FilePath) (path : TreePath) : Prop :=
  path = base ++ ["dsql", "dsql.toml"] ∨
    base ++ ["dsql", "schema"] <+: path ∨
    base ++ ["dsql", "overlays"] <+: path

/-- The configuration and the catalog are read from their own files. -/
def ReadsInputs (library : ProjectLibrary) : Prop :=
  ∀ (disk other : Disk) (base : FilePath),
    (∀ path, IsInput base path →
      disk.tree.entryAt path = other.tree.entryAt path) →
    library.readConfig disk base = library.readConfig other base ∧
      ∀ config, library.loadCatalog disk base config =
        library.loadCatalog other base config

/-- Paths that changed since a request reported them; before the first load
that is every path. -/
def Behind (base : FilePath) : List Exchange → TreePath → Prop
  | [], _ => True
  | exchange :: earlier, path =>
      ¬exchange.Reports base path ∧
        (Behind base earlier path ∨ ¬exchange.Unchanged earlier path)

/-- Whether a change at a path is one of the project: a change below its base
or below a root of its documents. -/
def IsOfProject
    (library : ProjectLibrary)
    (disk : Disk)
    (base : FilePath)
    (path : TreePath) : Prop :=
  base <+: path ∨
    ∃ config, loadConfig library disk base = .ok config ∧
      ∃ root ∈ scanRoots base config, root <+: path

/-- The names of a path at, above or below an input. -/
def ReachesInput (names : List String) : Prop :=
  names = [] ∨ ∃ below, names = "dsql" :: below ∧
    (below = [] ∨ below = ["dsql.toml"] ∨
      ∃ rest, below = "schema" :: rest ∨ below = "overlays" :: rest)

section Inputs

variable {base : FilePath} {relative : TreePath}

/-- The paths at, above or below which an input lies. -/
theorem input_cases
    {path : TreePath}
    (hpath : IsInput base path)
    (hstarts : base ++ relative <+: path) :
    ReachesInput relative := by
  have hcases : ∀ tail, relative <+: "dsql" :: tail →
      relative = [] ∨ ∃ below, relative = "dsql" :: below ∧ below <+: tail := by
    intro tail h
    cases relative with
    | nil => exact .inl rfl
    | cons name below =>
        rw [List.cons_prefix_cons] at h
        exact .inr ⟨below, by rw [h.1], h.2⟩
  have hinner : ∀ name tail, relative <+: "dsql" :: name :: tail →
      relative = [] ∨ ∃ below, relative = "dsql" :: below ∧
        (below = [] ∨ ∃ rest, below = name :: rest ∧ rest <+: tail) := by
    intro name tail h
    rcases hcases (name :: tail) h with rfl | ⟨below, rfl, hbelow⟩
    · exact .inl rfl
    · refine .inr ⟨below, rfl, ?_⟩
      cases below with
      | nil => exact .inl rfl
      | cons other rest =>
          rw [List.cons_prefix_cons] at hbelow
          exact .inr ⟨rest, by rw [hbelow.1], hbelow.2⟩
  rcases hpath with rfl | ⟨tail, rfl⟩ | ⟨tail, rfl⟩
  · rw [List.prefix_append_right_inj] at hstarts
    rcases hinner "dsql.toml" [] hstarts with
      rfl | ⟨below, rfl, rfl | ⟨rest, rfl, hrest⟩⟩
    · exact .inl rfl
    · exact .inr ⟨[], rfl, .inl rfl⟩
    · rw [List.prefix_nil.mp hrest]
      exact .inr ⟨_, rfl, .inr (.inl rfl)⟩
  · rw [List.append_assoc, List.prefix_append_right_inj] at hstarts
    rcases hinner "schema" tail hstarts with
      rfl | ⟨below, rfl, rfl | ⟨rest, rfl, -⟩⟩
    · exact .inl rfl
    · exact .inr ⟨[], rfl, .inl rfl⟩
    · exact .inr ⟨_, rfl, .inr (.inr ⟨rest, .inl rfl⟩)⟩
  · rw [List.append_assoc, List.prefix_append_right_inj] at hstarts
    rcases hinner "overlays" tail hstarts with
      rfl | ⟨below, rfl, rfl | ⟨rest, rfl, -⟩⟩
    · exact .inl rfl
    · exact .inr ⟨[], rfl, .inl rfl⟩
    · exact .inr ⟨_, rfl, .inr (.inr ⟨rest, .inr rfl⟩)⟩

theorem reachesInput_text
    (h : ReachesInput relative) : ReachesInput (textSegments relative) := by
  have hcons : ∀ name rest, Text.split '\\' name = [name] →
      textSegments (name :: rest) = name :: textSegments rest := by
    intro name rest hname
    unfold textSegments
    rw [List.flatMap_cons, hname]
    rfl
  rcases h with rfl | ⟨below, rfl, hbelow⟩
  · exact .inl rfl
  · refine .inr ⟨textSegments below, hcons "dsql" below rfl, ?_⟩
    rcases hbelow with rfl | rfl | ⟨rest, rfl | rfl⟩
    · exact .inl rfl
    · exact .inr (.inl rfl)
    · exact .inr (.inr ⟨textSegments rest, .inl (hcons "schema" rest rfl)⟩)
    · exact .inr (.inr ⟨textSegments rest, .inr (hcons "overlays" rest rfl)⟩)

theorem isProjectInput_of_reaches
    (h : ReachesInput (textSegments relative)) :
    Session.isProjectInput relative = true := by
  unfold Session.isProjectInput pathIsWithin
  rcases h with h | ⟨below, h, rfl | rfl | ⟨rest, rfl | rfl⟩⟩
  · simp [h]
  · simp [h]
  · simp [h]
  · simp [h]
  · simp [h]

theorem not_lock_of_reaches
    (h : ReachesInput (textSegments relative)) :
    textSegments relative ≠ ["dsql", "dsql.lock"] := by
  rcases h with h | ⟨below, h, rfl | rfl | ⟨rest, rfl | rfl⟩⟩
  · simp [h]
  · simp [h]
  · simp [h]
  · simp [h]
  · simp [h]

end Inputs

namespace Session

section Inputs

variable {library : ProjectLibrary} {session : Session} {disk : Disk}

/-- The roots of a session do not hold its inputs. -/
theorem isReserved_input
    (hroots : Reservable session.config
      (session.config.outputs ++ session.excludeRoots))
    {relative : TreePath}
    (h : ReachesInput (textSegments relative)) :
    session.isReserved relative = false := by
  unfold isReserved
  rw [List.any_eq_false]
  intro root hroot
  unfold pathIsWithin
  rw [List.isPrefixOf_iff_prefix]
  intro hstarts
  rcases List.mem_append.mp hroot with hroot | hbuild
  · have hreservable := hroots root (by
      rcases List.mem_append.mp hroot with hroot | hroot
      · exact List.mem_append_right _ hroot
      · exact List.mem_append_left _ hroot)
    obtain ⟨name, rest, hcomponents, hname⟩ := isReservable_cons hreservable
    cases root with
    | nil => cases hcomponents
    | cons first others =>
        rcases h with h | ⟨below, h, -⟩
        · rw [h] at hstarts
          cases List.prefix_nil.mp hstarts
        · rw [h, List.cons_prefix_cons] at hstarts
          obtain ⟨rfl, -⟩ := hstarts
          have hfirst : components ("dsql" :: others) =
              "dsql" :: components others := rfl
          rw [hfirst] at hcomponents
          exact hname (List.cons.inj hcomponents).1.symm
  · rw [List.mem_singleton.mp hbuild] at hstarts
    rcases h with h | ⟨below, h, rfl | rfl | ⟨rest, rfl | rfl⟩⟩
    all_goals
      rw [h] at hstarts
      simp at hstarts

/-- A path of a batch that reaches an input asks for a reload. -/
theorem classifyRelative_input
    (hroots : Reservable session.config
      (session.config.outputs ++ session.excludeRoots))
    {relative : TreePath}
    (hreaches : ReachesInput relative)
    {raw : String}
    {batch next : Batch}
    (h : session.classifyRelative library disk raw relative batch =
      .ok next) :
    next.reload = true := by
  have htext := reachesInput_text hreaches
  unfold classifyRelative at h
  rw [if_neg (not_lock_of_reaches htext),
    if_neg (by rw [isReserved_input hroots htext]; simp),
    if_pos (isProjectInput_of_reaches htext)] at h
  cases h
  rfl

theorem classifyPaths_input
    (hroots : Reservable session.config
      (session.config.outputs ++ session.excludeRoots))
    {paths : List String}
    {path : TreePath}
    (hinput : IsInput session.base path)
    (hcovers : Covers session.base paths path)
    {batch next : Batch}
    (h : session.classifyPaths library disk paths batch = .ok next) :
    next.reload = true := by
  obtain ⟨relative, ⟨raw, hraw, hrelative⟩, hstarts⟩ := hcovers
  induction paths generalizing batch with
  | nil => cases hraw
  | cons first paths ih =>
      rw [classifyPaths] at h
      split at h
      · cases h
      · next found hfound =>
          obtain ⟨middle, hmiddle, hrest⟩ := except_bind_ok h
          rcases List.mem_cons.mp hraw with rfl | hraw
          · rw [hrelative] at hfound
            cases hfound
            exact classifyPaths_reload hrest (classifyRelative_input hroots
              (input_cases hinput hstarts) hmiddle)
          · exact ih hrest hraw

/-- A request that reports an input and is not refused is a reload. -/
theorem isReload_of_input
    {exchange : Exchange}
    (hroots : Reservable session.config
      (session.config.outputs ++ session.excludeRoots))
    {path : TreePath}
    (hinput : IsInput session.base path)
    (hreports : exchange.Reports session.base path)
    {plan : BatchPlan}
    (hplan : session.plan library exchange = .ok plan) :
    plan.isReload = true := by
  cases hreload : plan.isReload with
  | true => rfl
  | false =>
      obtain ⟨documents, paths, batch, -, hrequest, hbatch, hnone, -⟩ :=
        batch_of_plan hplan hreload
      unfold Exchange.Reports at hreports
      rw [hrequest] at hreports
      rw [classifyPaths_input hroots hinput hreports hbatch] at hnone
      cases hnone

end Inputs

/-! ## The configuration of a warm session -/

section Config

variable {library : ProjectLibrary} {start : Session}

/-- What loads once loads again while the inputs stay. -/
theorem LoadsConfig.on
    (hinputs : ReadsInputs library)
    {session : Session}
    {disk other : Disk}
    (h : session.LoadsConfig library disk)
    (hsame : ∀ path, IsInput session.base path →
      disk.tree.entryAt path = other.tree.entryAt path) :
    session.LoadsConfig library other := by
  obtain ⟨hread, hcatalog⟩ := hinputs disk other session.base hsame
  refine ⟨?_, h.roots, ?_, h.registry, h.parses⟩
  · have hconfig := h.config
    unfold loadConfig at hconfig ⊢
    rw [← hread]
    exact hconfig
  · rw [← hcatalog]
    exact h.catalog

theorem LoadsConfig.of_same
    {session other : Session}
    {disk : Disk}
    (hsame : session.base = other.base ∧
      session.excludeRoots = other.excludeRoots ∧
      session.config = other.config)
    (h : session.LoadsConfig library disk) :
    other.LoadsConfig library disk := by
  obtain ⟨base, excludeRoots, config, resident, last, lock⟩ := session
  obtain ⟨otherBase, otherRoots, otherConfig, otherResident, otherLast,
    otherLock⟩ := other
  obtain ⟨hbase, hroots, hconfig⟩ := hsame
  cases hbase
  cases hroots
  cases hconfig
  exact ⟨h.config, h.roots, h.catalog, h.registry, h.parses⟩

/-- A served request reloads the configuration or leaves it alone. -/
theorem serve_config
    (hglob : GlobLaws library.glob)
    {session : Session}
    (hbase : PlainBase session.base)
    {exchange : Exchange}
    (hconfig : ∀ config,
      loadConfig library exchange.disk session.base = .ok config →
      PlainConfig exchange.disk session.base config)
    {plan : BatchPlan}
    (hplan : session.plan library exchange = .ok plan) :
    (session.serve library exchange).session.resident = none ∨
      if plan.isReload then
        (session.serve library exchange).session.LoadsConfig library
          exchange.disk
      else
        session.base = (session.serve library exchange).session.base ∧
        session.excludeRoots =
          (session.serve library exchange).session.excludeRoots ∧
        session.config = (session.serve library exchange).session.config := by
  rw [serve_planned hplan]
  rcases compilePlan_cases library session exchange.disk exchange.attempt
    plan with
    ⟨documents, outcome, rfl, -, -, hserve⟩ | ⟨failed, error, -, hserve⟩ |
      ⟨applied, happly, hserve⟩
  · rw [hserve]
    exact .inr ⟨rfl, rfl, rfl⟩
  · rw [hserve]
    exact .inl rfl
  · rw [hserve]
    right
    obtain ⟨hsameBase, hsameRoots, hsameConfig, -⟩ :=
      sameProject_record applied exchange.attempt
    cases hreload : plan.isReload with
    | true =>
        rw [if_pos rfl]
        obtain ⟨locked, hsame, hlocked⟩ :=
          apply_of_reload library session exchange.disk hreload
        rw [hlocked] at happly
        cases hreloaded : locked.reload library exchange.disk with
        | error error => rw [hreloaded] at happly; cases happly
        | ok reloaded =>
            rw [hreloaded] at happly
            cases happly
            rw [hsame.1] at hbase hconfig
            obtain ⟨-, -, -, hloads⟩ :=
              tracked_reload hglob hbase hconfig hreloaded
            exact hloads.of_same ⟨hsameBase, hsameRoots, hsameConfig⟩
    | false =>
        rw [if_neg (by simp)]
        obtain ⟨documents, -, -, hresident, -⟩ := batch_of_plan hplan hreload
        obtain ⟨found, hfound, hbase, hroots, hconfig, -⟩ :=
          apply_of_not_reload library exchange.disk hreload hresident
        rw [happly] at hfound
        cases hfound
        exact ⟨hbase.trans hsameBase, hroots.trans hsameRoots,
          hconfig.trans hsameConfig⟩

/-- The reserved roots are valid, and the configuration loads from the disk of
the last request unless an input is behind. -/
def Configured
    (library : ProjectLibrary)
    (start : Session)
    (history : List Exchange) : Prop :=
  (start.after library history).resident = none ∨
    Reservable (start.after library history).config
      ((start.after library history).config.outputs ++
        (start.after library history).excludeRoots) ∧
    ((∀ path, IsInput start.base path → ¬Behind start.base history path) →
      ∃ exchange ∈ history.head?,
        (start.after library history).LoadsConfig library exchange.disk)

theorem configured_step
    (hglob : GlobLaws library.glob)
    (hinputs : ReadsInputs library)
    (hbase : PlainBase start.base)
    {exchange : Exchange}
    {earlier : List Exchange}
    (h : Configured library start earlier)
    (hplain : start.PlainRequest library exchange earlier)
    {plan : BatchPlan}
    (hplan : (start.after library earlier).plan library exchange = .ok plan) :
    Configured library start (exchange :: earlier) := by
  obtain ⟨hsame, -⟩ := sameRoots_after library start earlier
  have hconfig := hplain.config
  rw [hsame] at hbase hconfig
  rcases serve_config hglob hbase hconfig hplan with hnone | hserved
  · exact .inl hnone
  · cases hreload : plan.isReload with
    | true =>
        rw [hreload, if_pos rfl] at hserved
        exact .inr ⟨hserved.reservable, fun _ => ⟨exchange, rfl, hserved⟩⟩
    | false =>
        rw [hreload, if_neg (by simp)] at hserved
        obtain ⟨documents, -, -, hresident, -⟩ := batch_of_plan hplan hreload
        rcases h with hnone | ⟨hroots, hloads⟩
        · rw [hresident] at hnone
          cases hnone
        · refine .inr ⟨?_, ?_⟩
          · obtain ⟨-, hsameRoots, hsameConfig⟩ := hserved
            rw [after, ← hsameConfig, ← hsameRoots]
            exact hroots
          · intro hbehind
            have hstill : ∀ path, IsInput start.base path →
                ¬Behind start.base earlier path ∧
                  exchange.Unchanged earlier path := by
              intro path hinput
              have hreported : ¬exchange.Reports start.base path := by
                intro hreports
                rw [hsame] at hinput hreports
                rw [isReload_of_input hroots hinput hreports hplan] at hreload
                cases hreload
              have hnot := hbehind path hinput
              rw [Behind] at hnot
              by_cases hbefore : Behind start.base earlier path
              · exact absurd ⟨hreported, .inl hbefore⟩ hnot
              · refine ⟨hbefore, ?_⟩
                by_contra hchanged
                exact hnot ⟨hreported, .inr hchanged⟩
            obtain ⟨previous, hprevious, hprior⟩ :=
              hloads (fun path hinput => (hstill path hinput).1)
            refine ⟨exchange, rfl, (hprior.on hinputs ?_).of_same hserved⟩
            intro path hinput
            rw [← hsame] at hinput
            exact (hstill path hinput).2 previous hprevious

end Config

/-! ## The documents of a warm session -/

section Documents

variable {library : ProjectLibrary} {start : Session}

/-- An owned path lies below a root of the documents. -/
theorem root_of_owners
    {glob : GlobLibrary}
    {base : FilePath}
    {config : Config}
    (hglob : GlobLaws glob)
    (hbase : PlainBase base)
    {path : FilePath}
    (hpath : Named path)
    (h : owners glob base config path ≠ []) :
    ∃ root ∈ scanRoots base config, root <+: path := by
  unfold scanRoots
  unfold owners at h
  cases himplicit : config.usesImplicitDocuments with
  | true =>
      rw [if_pos rfl]
      rw [if_pos himplicit] at h
      refine ⟨projectRoot base, List.mem_singleton.mpr rfl, ?_⟩
      split at h
      · next hcond =>
          rw [Bool.and_eq_true, startsWith_named hpath,
            components_eq_self (named_projectRoot hbase)] at hcond
          exact hcond.1
      · exact absurd rfl h
  | false =>
      rw [if_neg (by simp)]
      rw [if_neg (by rw [himplicit]; simp)] at h
      obtain ⟨assignment, hassignment⟩ := List.exists_mem_of_ne_nil _ h
      obtain ⟨group, hgroup, -⟩ := List.mem_map.mp hassignment
      obtain ⟨hgroup, hcovers⟩ := List.mem_filter.mp hgroup
      unfold groupCovers at hcovers
      obtain ⟨configured, hconfigured, hmatch⟩ := List.any_eq_true.mp hcovers
      refine ⟨staticPrefix (joinPath base configured),
        List.mem_flatMap.mpr ⟨group, hgroup,
          List.mem_map.mpr ⟨configured, hconfigured, rfl⟩⟩, ?_⟩
      unfold configuredPathMatches at hmatch
      split at hmatch
      · rw [Option.any_eq_true] at hmatch
        obtain ⟨isMatch, hcompile, hfound⟩ := hmatch
        exact hglob.literalPrefix _ isMatch path hcompile hpath hfound
      · next hpattern =>
          rw [Bool.not_eq_true] at hpattern
          rw [staticPrefix_literal hpattern]
          exact (startsWith_named hpath _).mp hmatch

/-- What is not behind is up to date. -/
theorem holds_reported
    (hglob : GlobLaws library.glob)
    (hbase : PlainBase start.base)
    {exchange : Exchange}
    {earlier : List Exchange}
    (h : Holds library start
      (fun path => ¬Behind start.base earlier path) earlier)
    (hplain : start.PlainRequest library exchange earlier)
    {plan : BatchPlan}
    (hplan : (start.after library earlier).plan library exchange = .ok plan) :
    Holds library start
      (fun path => ¬Behind start.base (exchange :: earlier) path)
      (exchange :: earlier) := by
  refine (holds_accepted hglob hbase h hplain hplan).mono ?_
  intro path hpath
  rw [Behind, not_and_or, not_not, not_or, not_not] at hpath
  exact .inr hpath

/-- The request is answered with a success. -/
def Succeeds
    (library : ProjectLibrary)
    (start : Session)
    (exchange : Exchange)
    (earlier : List Exchange) : Prop :=
  ∃ result,
    ((start.after library earlier).serve library exchange).response =
      .success result

/-- A session that is up to date below the roots of its documents holds what a
full load yields. -/
theorem load_of_tracked
    (hglob : GlobLaws library.glob)
    {session : Session}
    {disk : Disk}
    (hbase : PlainBase session.base)
    (hplain : PlainConfig disk session.base session.config)
    {current : TreePath → Prop}
    (htracked : session.Tracked library disk current)
    (hloads : session.LoadsConfig library disk)
    (hcurrent : ∀ path,
      (∃ root ∈ scanRoots session.base session.config, root <+: path) →
      current path)
    (hsingle : ∀ path, disk.tree.isFileAt path = true →
      (owners library.glob session.base session.config path).Nodup) :
    ∃ loaded,
      loadProject library disk session.base session.excludeRoots =
        .ok loaded ∧
      session.documents.Perm loaded.documents ∧
      (session.documents.map Document.path).Nodup := by
  have hroot : ∀ path, Named path →
      owners library.glob session.base session.config path ≠ [] →
      current path := by
    intro path hpath howners
    exact hcurrent path (root_of_owners hglob hbase hpath howners)
  have hloadable : ∀ path, session.LoadableAt library disk path := by
    intro path
    constructor
    · intro content hfile hreserved howners
      have hpath := disk.named path _ (FileTree.fileAt_eq_some.mp hfile)
      exact (htracked.loadable path (hroot path hpath howners)).readable
        content hfile hreserved howners
    · intro listable names entry hlookup hreserved hscanned
      exact (htracked.loadable path (hcurrent path hscanned)).listable
        listable names entry hlookup hreserved hscanned
  obtain ⟨documents, hdocuments⟩ := loadProjectDocuments_ok hglob hbase hplain
    hloads.reservable hloads.parses hloadable hsingle
  obtain ⟨hnodup, hmem, -⟩ := loadProjectDocuments_mem hglob hbase hplain
    hloads.reservable hdocuments
  refine ⟨⟨session.config, documents⟩, ?_, ?_, htracked.owned.once⟩
  · obtain ⟨roots, hroots⟩ := hloads.roots
    unfold loadProject
    rw [hloads.config]
    change (do
      let _ ← session.excludeRoots.mapM (validateReservedRoot session.config)
      library.loadCatalog disk session.base session.config
      let documents ← loadProjectDocuments library.glob disk session.base
        session.config session.excludeRoots
      library.extractionRegistry session.config
      .ok (LoadedProject.mk session.config documents)) = _
    rw [hroots, hloads.catalog, hdocuments, hloads.registry]
    rfl
  · refine (List.perm_ext_iff_of_nodup
      (List.Nodup.of_map Document.path htracked.owned.once)
      (List.Nodup.of_map Document.path hnodup)).mpr ?_
    intro document
    rw [hmem document]
    constructor
    · intro hdocument
      have howner := htracked.owned.owned document hdocument
      have howned : owners library.glob session.base session.config
          document.path ≠ [] :=
        List.ne_nil_of_mem (ownerOf_mem howner)
      have hpath := htracked.owned.named document hdocument
      exact (htracked.agrees document.path hpath
        (hroot document.path hpath howned) document rfl).mp hdocument
    · intro hsource
      obtain ⟨-, assignment, text, howner, hfile, -⟩ :=
        sourceAt_eq_some.mp hsource
      have howned : owners library.glob session.base session.config
          document.path ≠ [] :=
        List.ne_nil_of_mem (ownerOf_mem howner)
      have hpath := disk.named document.path _
        (FileTree.fileAt_eq_some.mp hfile)
      exact (htracked.agrees document.path hpath
        (hroot document.path hpath howned) document rfl).mpr hsource

/-- After plain requests that all succeeded and reported every change of the
project, the session holds the documents of a full load, each of them once,
provided that no file belongs to two groups. -/
theorem warm_eq_cold
    (library : ProjectLibrary)
    (hglob : GlobLaws library.glob)
    (hinputs : ReadsInputs library)
    (start : Session)
    (hfresh : start.IsFresh)
    (hbase : PlainBase start.base)
    (exchange : Exchange)
    (earlier : List Exchange)
    (h : Throughout (fun exchange earlier =>
      start.Succeeds library exchange earlier ∧
        start.PlainRequest library exchange earlier) (exchange :: earlier))
    (hreported : ∀ path,
      IsOfProject library exchange.disk start.base path →
      ¬Behind start.base (exchange :: earlier) path)
    (hsingle : ∀ config,
      loadConfig library exchange.disk start.base = .ok config →
      ∀ path, exchange.disk.tree.isFileAt path = true →
        (owners library.glob start.base config path).Nodup) :
    ∃ loaded,
      loadProject library exchange.disk start.base start.excludeRoots =
        .ok loaded ∧
      (start.after library (exchange :: earlier)).documents.Perm
        loaded.documents ∧
      ((start.after library (exchange :: earlier)).documents.map
        Document.path).Nodup := by
  obtain ⟨hholds, hconfigured⟩ := h.invariant (fun history =>
      Holds library start (fun path => ¬Behind start.base history path)
        history ∧
      Configured library start history)
    ⟨.inl hfresh.1, .inl hfresh.1⟩ (by
      rintro exchange earlier ⟨hholds, hconfigured⟩ ⟨⟨result, hresult⟩, hplain⟩
      obtain ⟨plan, hplan⟩ := plan_of_success hresult
      exact ⟨holds_reported hglob hbase hholds hplain hplan,
        configured_step hglob hinputs hbase hconfigured hplain hplan⟩)
  obtain ⟨⟨⟨result, hresult⟩, hplain⟩, -⟩ := h
  have hresident : (start.after library (exchange :: earlier)).resident ≠
      none := resident_of_success hresult
  obtain ⟨hsame, hsameRoots⟩ :=
    sameRoots_after library start (exchange :: earlier)
  rcases hholds with hnone | ⟨last, hlast, htracked⟩
  · exact absurd hnone hresident
  · cases hlast
    rcases hconfigured with hnone | ⟨-, hloads⟩
    · exact absurd hnone hresident
    · have hbelow : ∀ path, IsInput start.base path → start.base <+: path := by
        rintro path (rfl | ⟨rest, rfl⟩ | ⟨rest, rfl⟩)
        · exact List.prefix_append ..
        · rw [List.append_assoc]
          exact List.prefix_append ..
        · rw [List.append_assoc]
          exact List.prefix_append ..
      obtain ⟨final, hfinal, hloads⟩ := hloads (fun path hinput =>
        hreported path (.inl (hbelow path hinput)))
      cases hfinal
      have hconfig := hloads.config
      rw [← hsame] at hconfig
      have hload := load_of_tracked hglob (by rw [← hsame]; exact hbase)
        (by rw [← hsame]; exact hplain.config _ hconfig) htracked hloads
        (fun path hscanned => hreported path (.inr ⟨_, hconfig, by
          rw [hsame]
          exact hscanned⟩))
        (by rw [← hsame]; exact hsingle _ hconfig)
      rw [← hsame, ← hsameRoots] at hload
      exact hload

end Documents

/-! ## A document that becomes a directory -/

section Sample

/-- Two trees of the small project that differ in its first query. -/
theorem sampleTree_entry
    {first other second : FileTree FileContent}
    (path : TreePath)
    (hpath : ¬["project", "queries", "a.dsql"] <+: path) :
    (sampleTree [("a.dsql", first), ("b.dsql", second)]).entryAt path =
      (sampleTree [("a.dsql", other), ("b.dsql", second)]).entryAt path := by
  cases path with
  | nil => rfl
  | cons name path =>
      by_cases hname : name = "project"
      · subst hname
        cases path with
        | nil => rfl
        | cons name path =>
            by_cases hdsql : name = "dsql"
            · subst hdsql
              rfl
            · by_cases hqueries : name = "queries"
              · subst hqueries
                cases path with
                | nil => rfl
                | cons name path =>
                    by_cases hsecond : name = "b.dsql"
                    · subst hsecond
                      rfl
                    · by_cases hfirst : name = "a.dsql"
                      · subst hfirst
                        exact absurd ⟨path, rfl⟩ hpath
                      · simp [FileTree.entryAt, sampleTree, folder,
                          FileTree.lookup, FileTree.child, hsecond, hfirst]
              · simp [FileTree.entryAt, sampleTree, folder, FileTree.lookup,
                  FileTree.child, hdsql, hqueries]
      · simp [FileTree.entryAt, sampleTree, folder, FileTree.lookup,
          FileTree.child, hname]

/-- The first query is a directory now. -/
def replacedDisk : Disk :=
  sampleDisk [("a.dsql", folder []), ("b.dsql", .file (.text "query B"))] (by
    intro entry hentry
    rcases List.mem_cons.mp hentry with rfl | hentry
    · exact ⟨by simp [IsName], hasNames_folder (by simp)⟩
    · rw [List.mem_singleton.mp hentry]
      exact ⟨by simp [IsName], hasNames_file _⟩)

def firstCompile : Exchange :=
  ⟨queryDisk (.text "query A") (.text "query B"), .compile, sampleSuccess 1⟩

def replacement : Exchange :=
  ⟨replacedDisk, .filesChanged (some ["queries/a.dsql"]), sampleSuccess 2⟩

def edit : Exchange :=
  ⟨queryDisk (.text "query A changed") (.text "query B"),
    .filesChanged (some ["queries/a.dsql"]), sampleSuccess 2⟩

theorem sampleLibrary_inputs : ReadsInputs sampleLibrary :=
  fun _ _ _ _ => ⟨rfl, fun _ => rfl⟩

/-- A request that reports the first query reports every change to it. -/
theorem sample_reported
    {path : TreePath}
    {attempt : Outcome}
    {disk before : Disk}
    {first : Exchange}
    (hfirst : first.request = .compile)
    (hbefore : first.disk = before)
    (hsame : ¬["project", "queries", "a.dsql"] <+: path →
      before.tree.entryAt path = disk.tree.entryAt path) :
    ¬Behind sampleSession.base
      [⟨disk, .filesChanged (some ["queries/a.dsql"]), attempt⟩, first]
      path := by
  rintro ⟨hreports, hbehind | hchanged⟩
  · refine hbehind.1 ?_
    unfold Exchange.Reports
    rw [hfirst]
    trivial
  · refine hchanged ?_
    intro previous hprevious
    cases hprevious
    rw [hbefore]
    refine hsame (fun hstarts => hreports ?_)
    exact ⟨["queries", "a.dsql"], ⟨_, List.mem_singleton.mpr rfl, rfl⟩, hstarts⟩

theorem replaced_document :
    ¬∀ (library : ProjectLibrary) (start : Session) (exchange : Exchange)
        (earlier : List Exchange),
      GlobLaws library.glob → ReadsInputs library → start.IsFresh →
      PlainBase start.base →
      Throughout (start.Succeeds library) (exchange :: earlier) →
      (∀ path, IsOfProject library exchange.disk start.base path →
        ¬Behind start.base (exchange :: earlier) path) →
      ∃ loaded,
        loadProject library exchange.disk start.base start.excludeRoots =
          .ok loaded ∧
        (start.after library (exchange :: earlier)).documents.Perm
          loaded.documents ∧
        ((start.after library (exchange :: earlier)).documents.map
          Document.path).Nodup := by
  intro h
  obtain ⟨loaded, hloaded, hperm, -⟩ := h sampleLibrary sampleSession
    replacement [firstCompile] sampleGlob_laws sampleLibrary_inputs
    sampleSession_fresh sampleSession_base ⟨⟨_, rfl⟩, ⟨_, rfl⟩, trivial⟩
    (fun path _ => sample_reported rfl rfl (sampleTree_entry path))
  cases hloaded
  exact absurd hperm.length_eq (by decide)

theorem sampleConfig_owners (path : FilePath) :
    (owners sampleGlob sampleSession.base sampleConfig path).Nodup := by
  have hgroups : configuredGroups sampleConfig =
      [("default", ⟨"dsql", ["queries"]⟩)] := rfl
  have himplicit : sampleConfig.usesImplicitDocuments = false := rfl
  unfold owners
  rw [if_neg (by rw [himplicit]; simp), hgroups, List.filter_cons]
  split
  · exact List.nodup_singleton _
  · exact List.nodup_nil

theorem warm_eq_cold_edited :
    ∃ loaded,
      loadProject sampleLibrary edit.disk sampleSession.base
        sampleSession.excludeRoots = .ok loaded ∧
      (sampleSession.after sampleLibrary [edit, firstCompile]).documents.Perm
        loaded.documents ∧
      ((sampleSession.after sampleLibrary [edit, firstCompile]).documents.map
        Document.path).Nodup := by
  refine warm_eq_cold sampleLibrary sampleGlob_laws sampleLibrary_inputs
    sampleSession sampleSession_fresh sampleSession_base edit [firstCompile]
    ⟨⟨⟨_, rfl⟩, sampleLibrary_config _, ?_⟩,
      ⟨⟨_, rfl⟩, sampleLibrary_config _, ?_⟩, trivial⟩
    (fun path _ => sample_reported rfl rfl (sampleTree_entry path)) ?_
  · rintro plan - - paths hrequest relative ⟨raw, hraw, hrelative⟩
    cases hrequest
    rw [List.mem_singleton.mp hraw] at hrelative
    cases hrelative
    exact plainMention_sample
  · intro plan hplan hreload
    cases hplan
    cases hreload
  · intro config hconfig path _
    cases hconfig
    exact sampleConfig_owners path

end Sample

end Session

end Daemon

end Dsql
