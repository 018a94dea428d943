import Dsql.Render.Writes

/-!
# What the walks remove

The walk of an owned root reads entries by the names below the place its path
leads to, and decides by the path of the root followed by those names.  Below
that place it removes exactly the files and links whose path is not retained.
Several walks run one after the other; a root whose path no longer leads
anywhere is passed over.
-/

namespace Dsql
namespace Render

open LinkedFiles

variable {limit : Nat}

/-- The walk of a directory: below its place the retained paths keep their
files and links, and no others. -/
structure Swept
    (retainedFiles : List Location)
    (directory place : Location)
    (before after : Files) : Prop where
  within : after.Within before
  outside : ∀ location, (∀ below, below ≠ [] → location ≠ place ++ below) →
    after.entryAt location = before.entryAt location
  kept : ∀ below, below ≠ [] → directory ++ below ∈ retainedFiles →
    after.leafAt (place ++ below) = before.leafAt (place ++ below)
  gone : ∀ below, below ≠ [] → directory ++ below ∉ retainedFiles →
    after.leafAt (place ++ below) = none

/-- The walk of a directory as far as some of its names. -/
structure SweptNames
    (retainedFiles : List Location)
    (directory place : Location)
    (names : List String)
    (before after : Files) : Prop where
  within : after.Within before
  outside : ∀ location,
    (∀ name ∈ names, ∀ below, location ≠ place ++ name :: below) →
      after.entryAt location = before.entryAt location
  kept : ∀ name ∈ names, ∀ below,
    directory ++ name :: below ∈ retainedFiles →
      after.leafAt (place ++ name :: below) =
        before.leafAt (place ++ name :: below)
  gone : ∀ name ∈ names, ∀ below,
    directory ++ name :: below ∉ retainedFiles →
      after.leafAt (place ++ name :: below) = none

theorem SweptNames.start
    (retainedFiles : List Location)
    (directory place : Location)
    (files : Files) :
    SweptNames retainedFiles directory place [] files files where
  within := Within.refl files
  outside _ _ := rfl
  kept _ hname := absurd hname List.not_mem_nil
  gone _ hname := absurd hname List.not_mem_nil

/-- One more name: the step changes nothing but what lies at that name. -/
theorem SweptNames.step
    {retainedFiles : List Location}
    {directory place : Location}
    {names : List String}
    {name : String}
    {before state after : Files}
    (h : SweptNames retainedFiles directory place names before state)
    (hname : name ∉ names)
    (hwithin : after.Within state)
    (houtside : ∀ location, (∀ below, location ≠ place ++ name :: below) →
      after.entryAt location = state.entryAt location)
    (hkept : ∀ below, directory ++ name :: below ∈ retainedFiles →
      after.leafAt (place ++ name :: below) =
        state.leafAt (place ++ name :: below))
    (hgone : ∀ below, directory ++ name :: below ∉ retainedFiles →
      after.leafAt (place ++ name :: below) = none) :
    SweptNames retainedFiles directory place (name :: names) before after := by
  have hdisjoint : ∀ other ∈ names, ∀ inner, ∀ below,
      place ++ other :: inner ≠ place ++ name :: below := by
    intro other hother inner below hsame
    have hheads := (List.cons.inj (List.append_cancel_left hsame)).1
    exact hname (hheads ▸ hother)
  have hstate : ∀ below, state.entryAt (place ++ name :: below) =
      before.entryAt (place ++ name :: below) := by
    intro below
    exact h.outside _ (fun other hother inner =>
      (hdisjoint other hother inner below).symm)
  refine ⟨hwithin.trans h.within, ?_, ?_, ?_⟩
  · intro location hlocation
    rw [houtside location (hlocation name (List.mem_cons_self ..))]
    exact h.outside location (fun other hother =>
      hlocation other (List.mem_cons_of_mem _ hother))
  · intro other hother below hretained
    rcases List.mem_cons.mp hother with rfl | hmem
    · rw [hkept below hretained]
      exact leafAt_congr (hstate below)
    · rw [leafAt_congr (houtside _ (hdisjoint other hmem below))]
      exact h.kept other hmem below hretained
  · intro other hother below hretained
    rcases List.mem_cons.mp hother with rfl | hmem
    · exact hgone below hretained
    · rw [leafAt_congr (houtside _ (hdisjoint other hmem below))]
      exact h.gone other hmem below hretained

/-- All names of a directory: its walk. -/
theorem SweptNames.whole
    {retainedFiles : List Location}
    {directory place : Location}
    {names : List String}
    {before after : Files}
    (h : SweptNames retainedFiles directory place names before after)
    (hnames : ∀ name, (before.entryAt (place ++ [name])).isSome = true →
      name ∈ names) :
    Swept retainedFiles directory place before after := by
  have hmissing : ∀ name ∉ names, ∀ below,
      before.leafAt (place ++ name :: below) = none := by
    intro name hname below
    have hentry : before.entryAt (place ++ [name]) = none := by
      by_contra hsome
      exact hname (hnames name (Option.isSome_iff_ne_none.mpr hsome))
    apply leafAt_of_none
    by_cases hbelow : below = []
    · rw [hbelow, hentry]
    · have hdirectory : before.directoryAt (place ++ [name]) = false := by
        rw [directoryAt, hentry]
        rfl
      have hinner := before.entryAt_below hdirectory hbelow
      rwa [List.append_assoc, List.singleton_append] at hinner
  refine ⟨h.within, ?_, ?_, ?_⟩
  · intro location hlocation
    exact h.outside location (fun name hname below =>
      hlocation (name :: below) (List.cons_ne_nil _ _))
  · intro below hbelow hretained
    obtain ⟨name, inner, rfl⟩ := List.exists_cons_of_ne_nil hbelow
    by_cases hname : name ∈ names
    · exact h.kept name hname inner hretained
    · rw [hmissing name hname, h.within.leafAt_none (hmissing name hname inner)]
  · intro below hbelow hretained
    obtain ⟨name, inner, rfl⟩ := List.exists_cons_of_ne_nil hbelow
    by_cases hname : name ∈ names
    · exact h.gone name hname inner hretained
    · exact h.within.leafAt_none (hmissing name hname inner)

theorem listDirectory_ok
    {path : Location}
    {files after : Files}
    {entries : List (String × Bool)}
    (h : listDirectory limit path files = .ok entries after) :
    after = files ∧ ∃ place,
      files.stat limit path = some (place, .directory) ∧
        entries = (files.children place).map (fun name =>
          (name, files.directoryAt (place ++ [name]))) := by
  obtain ⟨start, same, hget, hrun⟩ := estate_bind_ok h
  cases hget
  cases hread : readDirectory limit path files with
  | none =>
      rw [hread] at hrun
      cases hrun
  | some names =>
      rw [hread] at hrun
      cases hrun
      obtain ⟨place, hstat, hnames⟩ := readDirectory_eq_some hread
      exact ⟨rfl, place, hstat, hnames⟩

/-- What the walk does at one entry of a directory. -/
def sweepEntry
    (limit : Nat)
    (retainedFiles : List Location)
    (depth : Nat)
    (directory : Location)
    (entry : String × Bool) : Disk Unit :=
  let path := directory ++ [entry.1]
  if entry.2 then do
    reconcileOwnedDirectory limit retainedFiles depth path
    let rest ← listDirectory limit path
    if rest.isEmpty then
      change (removeDirectory limit path)
    else
      pure ()
  else if retainedFiles.contains path then
    pure ()
  else
    change (removeFile limit path)

/-- A walk passes over a path that leads nowhere; else it goes through the
names of the directory there. -/
theorem reconcileOwnedDirectory_succ_ok
    {retainedFiles : List Location}
    {depth : Nat}
    {directory : Location}
    {files after : Files}
    (h : reconcileOwnedDirectory limit retainedFiles (depth + 1) directory
      files = .ok () after) :
    (files.stat limit directory = none ∧ after = files) ∨
      ∃ place, files.stat limit directory = some (place, .directory) ∧
        ((files.children place).map (fun name =>
          (name, files.directoryAt (place ++ [name])))).forM
            (sweepEntry limit retainedFiles depth directory) files =
          .ok () after := by
  rw [reconcileOwnedDirectory] at h
  obtain ⟨start, same, hget, hrun⟩ := estate_bind_ok h
  cases hget
  split at hrun
  · rename_i hnone
    cases hrun
    exact .inl ⟨Option.isNone_iff_eq_none.mp hnone, rfl⟩
  · right
    match hlstat : files.lstat limit directory with
    | none =>
        rw [hlstat] at hrun
        cases hrun
    | some (place, .file bytes) =>
        rw [hlstat] at hrun
        cases hrun
    | some (place, .link target) =>
        rw [hlstat] at hrun
        cases hrun
    | some (place, .directory) =>
        rw [hlstat] at hrun
        obtain ⟨entries, between, hlist, hforM⟩ := estate_bind_ok hrun
        obtain ⟨rfl, found, hstat, rfl⟩ := listDirectory_ok hlist
        exact ⟨found, hstat, hforM⟩

/-- The recursive step of a walk, at one entry. -/
theorem sweepEntry_ok
    {retainedFiles : List Location}
    {depth : Nat}
    {directory place : Location}
    {names : List String}
    {name : String}
    {before state after : Files}
    (hwalk : ∀ directory before after,
      reconcileOwnedDirectory limit retainedFiles depth directory before =
        .ok () after →
      (before.stat limit directory = none ∧ after = before) ∨
        ∃ place, before.stat limit directory = some (place, .directory) ∧
          Swept retainedFiles directory place before after)
    (hplace : before.stat limit directory = some (place, .directory))
    (hstate : SweptNames retainedFiles directory place names before state)
    (hname : name ∉ names)
    (h : sweepEntry limit retainedFiles depth directory
      (name, before.directoryAt (place ++ [name])) state = .ok () after) :
    SweptNames retainedFiles directory place (name :: names) before after := by
  have hsame : state.entryAt (place ++ [name]) =
      before.entryAt (place ++ [name]) := by
    apply hstate.outside
    intro other hother below heq
    have hheads := (List.cons.inj (List.append_cancel_left heq)).1
    exact hname (hheads ▸ hother)
  unfold sweepEntry at h
  dsimp only at h
  cases hkind : before.directoryAt (place ++ [name]) with
  | true =>
      rw [hkind, if_pos rfl] at h
      have hpath : before.stat limit (directory ++ [name]) =
          some (place ++ [name], .directory) :=
        stat_concat nofun hplace ((directoryAt_iff _ _).mp hkind)
      obtain ⟨⟨⟩, middle, hinner, h⟩ := estate_bind_ok h
      obtain ⟨rest, same, hlist, h⟩ := estate_bind_ok h
      obtain ⟨rfl, listed, hlisted, rfl⟩ := listDirectory_ok hlist
      have hswept : Swept retainedFiles (directory ++ [name])
          (place ++ [name]) state same := by
        rcases hwalk _ _ _ hinner with ⟨hnone, rfl⟩ | ⟨found, hfound, hswept⟩
        · rw [hnone] at hlisted
          cases hlisted
        · have hbefore := hstate.within.stat hfound
          rw [hpath] at hbefore
          cases hbefore
          exact hswept
      have hleaf : state.leafAt (place ++ [name]) = none := by
        rw [leafAt_of_directory]
        rw [directoryAt_iff, hsame, ← directoryAt_iff, hkind]
      have hfinal : after.Within same ∧ ∀ location,
          location ≠ place ++ [name] →
            after.entryAt location = same.entryAt location := by
        split at h
        · obtain ⟨removed, hremoved, -, hchanged⟩ :=
            removeDirectory_eq_some (change_ok h)
          have hkinds : ∀ target,
              (Entry.directory : Entry ByteArray) ≠ .link target := nofun
          have hbefore := (hswept.within.trans hstate.within).stat
            (stat_of_lstat hkinds hremoved)
          rw [hpath] at hbefore
          cases hbefore
          refine ⟨hchanged.within, fun location hlocation => ?_⟩
          rw [hchanged, if_neg hlocation]
        · cases h
          exact ⟨Within.refl _, fun _ _ => rfl⟩
      have hsplit : ∀ below, place ++ name :: below =
          (place ++ [name]) ++ below := by
        intro below
        rw [List.append_assoc, List.singleton_append]
      have hinner : ∀ below, below ≠ [] →
          after.leafAt (place ++ name :: below) =
            same.leafAt ((place ++ [name]) ++ below) := by
        intro below hbelow
        rw [hsplit]
        exact leafAt_congr (hfinal.2 _ (by simpa using hbelow))
      have hself : after.leafAt (place ++ [name]) = none :=
        (hfinal.1.trans hswept.within).leafAt_none hleaf
      refine hstate.step hname (hfinal.1.trans hswept.within) ?_ ?_ ?_
      · intro location hlocation
        rw [hfinal.2 location (hlocation [])]
        exact hswept.outside location (fun below hbelow => by
          rw [← hsplit]
          exact hlocation below)
      · intro below hretained
        by_cases hbelow : below = []
        · rw [hbelow, hself, hleaf]
        · rw [hinner below hbelow, hsplit below]
          refine hswept.kept below hbelow ?_
          rwa [List.append_assoc, List.singleton_append]
      · intro below hretained
        by_cases hbelow : below = []
        · rw [hbelow, hself]
        · rw [hinner below hbelow]
          refine hswept.gone below hbelow ?_
          rwa [List.append_assoc, List.singleton_append]
  | false =>
      rw [hkind, if_neg Bool.false_ne_true] at h
      have hmissing : ∀ below, below ≠ [] →
          state.leafAt (place ++ name :: below) = none := by
        intro below hbelow
        have hnot : state.directoryAt (place ++ [name]) = false := by
          rw [directoryAt, hsame]
          exact hkind
        have hnone := state.entryAt_below hnot hbelow
        rw [List.append_assoc, List.singleton_append] at hnone
        exact leafAt_of_none hnone
      split at h
      · rename_i hretained
        have hretained := List.contains_iff_mem.mp hretained
        cases h
        refine hstate.step hname (Within.refl _) (fun _ _ => rfl)
          (fun _ _ => rfl) ?_
        intro below hgone
        by_cases hbelow : below = []
        · rw [hbelow] at hgone
          exact absurd hretained hgone
        · exact hmissing below hbelow
      · rename_i hgone
        have hgone := fun hmem => hgone (List.contains_iff_mem.mpr hmem)
        obtain ⟨removed, entry, hremoved, -, hchanged⟩ :=
          removeFile_eq_some (change_ok h)
        obtain ⟨parent, hparent, rfl, -⟩ := lstat_concat hremoved
        have hbefore := hstate.within.stat hparent
        rw [hplace] at hbefore
        cases hbefore
        have hinner : ∀ below, below ≠ [] →
            after.leafAt (place ++ name :: below) =
              state.leafAt (place ++ name :: below) := by
          intro below hbelow
          apply leafAt_congr
          rw [hchanged, if_neg]
          simpa using hbelow
        refine hstate.step hname hchanged.within ?_ ?_ ?_
        · intro location hlocation
          rw [hchanged, if_neg (hlocation [])]
        · intro below hretained
          by_cases hbelow : below = []
          · rw [hbelow] at hretained
            exact absurd hretained hgone
          · exact hinner below hbelow
        · intro below hretained
          by_cases hbelow : below = []
          · rw [hbelow]
            apply leafAt_of_none
            rw [hchanged, if_pos rfl]
          · rw [hinner below hbelow]
            exact hmissing below hbelow

/-- A walk over the remaining names of a directory. -/
theorem sweepEntries_ok
    {retainedFiles : List Location}
    {depth : Nat}
    {directory place : Location}
    {before : Files}
    (hwalk : ∀ directory before after,
      reconcileOwnedDirectory limit retainedFiles depth directory before =
        .ok () after →
      (before.stat limit directory = none ∧ after = before) ∨
        ∃ place, before.stat limit directory = some (place, .directory) ∧
          Swept retainedFiles directory place before after)
    (hplace : before.stat limit directory = some (place, .directory))
    (names rest : List String)
    (hnodup : (names ++ rest).Nodup)
    {state after : Files}
    (hstate : SweptNames retainedFiles directory place names before state)
    (h : (rest.map (fun name =>
      (name, before.directoryAt (place ++ [name])))).forM
        (sweepEntry limit retainedFiles depth directory) state =
          .ok () after) :
    ∃ all, (∀ name ∈ names ++ rest, name ∈ all) ∧
      SweptNames retainedFiles directory place all before after := by
  induction rest generalizing names state with
  | nil =>
      rw [estate_forM_nil_ok h]
      rw [List.append_nil]
      exact ⟨names, fun _ hname => hname, hstate⟩
  | cons name rest ih =>
      obtain ⟨between, hfirst, hrest⟩ := estate_forM_cons_ok h
      have hname : name ∉ names := fun hmem =>
        (List.nodup_append.mp hnodup).2.2 name hmem name
          (List.mem_cons_self ..) rfl
      have hnext : ((name :: names) ++ rest).Nodup :=
        List.perm_middle.nodup_iff.mp hnodup
      obtain ⟨all, hall, hswept⟩ := ih (name :: names) hnext
        (sweepEntry_ok hwalk hplace hstate hname hfirst) hrest
      refine ⟨all, fun other hother => hall other ?_, hswept⟩
      exact List.perm_middle.mem_iff.mp hother

/-- A walk removes below its place exactly what is not retained. -/
theorem reconcileOwnedDirectory_ok
    (retainedFiles : List Location)
    (depth : Nat)
    (directory : Location)
    (before after : Files)
    (h : reconcileOwnedDirectory limit retainedFiles depth directory before =
      .ok () after) :
    (before.stat limit directory = none ∧ after = before) ∨
      ∃ place, before.stat limit directory = some (place, .directory) ∧
        Swept retainedFiles directory place before after := by
  induction depth generalizing directory before after with
  | zero => cases h
  | succ depth ih =>
      rcases reconcileOwnedDirectory_succ_ok h with hnone | ⟨place, hplace, hrun⟩
      · exact .inl hnone
      · right
        obtain ⟨names, hnames, hswept⟩ := sweepEntries_ok ih hplace []
          (before.children place) (before.children_nodup place)
          (.start retainedFiles directory place before) hrun
        refine ⟨place, hplace, hswept.whole (fun name hname => hnames name ?_)⟩
        exact (mem_children_iff before place name).mpr hname

/-! ## All owned roots -/

/-- Whether the walk of a root leaves a file or link at a location. -/
def keeps
    (limit : Nat)
    (files : Files)
    (retainedFiles : List Location)
    (location root : Location) : Bool :=
  match destination limit files root with
  | none => true
  | some place =>
      let below := location.drop place.length
      !place.isPrefixOf location || below.isEmpty ||
        retainedFiles.contains (root ++ below)

/-- Whether the walks of some roots leave a file or link at a location. -/
def retained
    (limit : Nat)
    (files : Files)
    (retainedFiles : List Location)
    (roots : List Location)
    (location : Location) : Bool :=
  roots.all (keeps limit files retainedFiles location)

/-- Whether a path still leads somewhere after the walks of some roots. -/
def leads
    (limit : Nat)
    (files : Files)
    (retainedFiles : List Location)
    (roots : List Location)
    (path : Location) : Bool :=
  match route files.linkAt limit [] path with
  | none => false
  | some found => found.links.all (retained limit files retainedFiles roots)

/-- The roots that are walked, in order: an earlier walk can remove a link on
the path of a later root. -/
def walkedRoots
    (limit : Nat)
    (files : Files)
    (retainedFiles : List Location) :
    List Location → List Location → List Location
  | walked, [] => walked
  | walked, root :: rest =>
      walkedRoots limit files retainedFiles
        (if leads limit files retainedFiles walked root then
          walked ++ [root]
        else
          walked) rest

theorem keeps_eq_true_iff
    {files : Files}
    {retainedFiles : List Location}
    {location root : Location} :
    keeps limit files retainedFiles location root = true ↔
      ∀ place, destination limit files root = some place →
        ∀ below, below ≠ [] → location = place ++ below →
          root ++ below ∈ retainedFiles := by
  unfold keeps
  cases hplace : destination limit files root with
  | none => simp
  | some place =>
      constructor
      · intro h found hfound below hbelow hlocation
        cases hfound
        subst hlocation
        have hprefix : place.isPrefixOf (place ++ below) = true :=
          List.isPrefixOf_iff_prefix.mpr (List.prefix_append _ _)
        simpa [hbelow, hprefix] using h
      · intro h
        dsimp only
        cases hprefix : place.isPrefixOf location with
        | false => rfl
        | true =>
            obtain ⟨below, rfl⟩ := List.isPrefixOf_iff_prefix.mp hprefix
            by_cases hbelow : below = []
            · simp [hbelow]
            · simp [h place rfl below hbelow rfl]

theorem retained_append
    (files : Files)
    (retainedFiles roots : List Location)
    (root location : Location) :
    retained limit files retainedFiles (roots ++ [root]) location =
      (retained limit files retainedFiles roots location &&
        keeps limit files retainedFiles location root) := by
  simp [retained]

/-- The state of the walks: what the walked roots retain is there, and
nothing else. -/
structure WalkedAll
    (limit : Nat)
    (retainedFiles walked : List Location)
    (start state : Files) : Prop where
  within : state.Within start
  leaves : ∀ location, state.leafAt location =
    if retained limit start retainedFiles walked location then
      start.leafAt location
    else
      none

theorem WalkedAll.start
    (limit : Nat)
    (retainedFiles : List Location)
    (start : Files) :
    WalkedAll limit retainedFiles [] start start where
  within := Within.refl start
  leaves _ := rfl

/-- A link that the walked roots retain is still there. -/
theorem WalkedAll.entryAt_link
    {retainedFiles walked : List Location}
    {start state : Files}
    (h : WalkedAll limit retainedFiles walked start state)
    {link : Location}
    (hlink : (start.linkAt link).isSome = true) :
    (state.entryAt link).isSome = true ↔
      retained limit start retainedFiles walked link = true := by
  obtain ⟨target, htarget⟩ := Option.isSome_iff_exists.mp hlink
  have hentry := linkAt_eq_some.mp htarget
  have hleaf : start.leafAt link = some (.link target) :=
    leafAt_eq_some.mpr ⟨hentry, nofun⟩
  have hstate := h.leaves link
  rw [hleaf] at hstate
  constructor
  · intro hsome
    by_contra hnot
    rw [if_neg hnot] at hstate
    obtain ⟨entry, hfound⟩ := Option.isSome_iff_exists.mp hsome
    have hsame := h.within _ _ hfound
    rw [hentry] at hsame
    cases hsame
    rw [leafAt_eq_some.mpr ⟨hfound, nofun⟩] at hstate
    cases hstate
  · intro hretained
    rw [if_pos hretained] at hstate
    rw [(leafAt_eq_some.mp hstate).1]
    rfl

/-- A path leads somewhere after the walks if it led to something that is
still there and its links are retained. -/
theorem WalkedAll.stat_iff
    {retainedFiles walked : List Location}
    {start state : Files}
    (h : WalkedAll limit retainedFiles walked start state)
    {path : Location}
    {place : Location}
    {entry : Entry ByteArray} :
    state.stat limit path = some (place, entry) ↔
      destination limit start path = some place ∧
        leads limit start retainedFiles walked path = true ∧
        state.entryAt place = some entry := by
  constructor
  · intro hstat
    obtain ⟨found, hfound, rfl, hentry⟩ := stat_eq_some.mp hstat
    have hroute := h.within.route (by rw [hentry]; rfl) hfound
    refine ⟨destination_eq_some.mpr ⟨found, hroute, rfl⟩, ?_, hentry⟩
    unfold leads
    rw [hroute]
    refine List.all_eq_true.mpr (fun link hlink => ?_)
    refine (h.entryAt_link (route_links hroute link hlink)).mp ?_
    obtain ⟨target, htarget⟩ := Option.isSome_iff_exists.mp
      (route_links hfound link hlink)
    rw [linkAt_eq_some.mp htarget]
    rfl
  · rintro ⟨hplace, hleads, hentry⟩
    obtain ⟨found, hroute, rfl⟩ := destination_eq_some.mp hplace
    unfold leads at hleads
    rw [hroute] at hleads
    refine stat_eq_some.mpr ⟨found, ?_, rfl, hentry⟩
    refine h.within.route_kept (fun link hlink => ?_) hroute
    exact (h.entryAt_link (route_links hroute link hlink)).mpr
      (List.all_eq_true.mp hleads link hlink)

/-- The walk of one more root. -/
theorem WalkedAll.step
    {retainedFiles walked : List Location}
    {start state after : Files}
    {depth : Nat}
    {root : Location}
    (h : WalkedAll limit retainedFiles walked start state)
    (hrun : reconcileOwnedDirectory limit retainedFiles depth root state =
      .ok () after) :
    WalkedAll limit retainedFiles
      (if leads limit start retainedFiles walked root then
        walked ++ [root]
      else
        walked) start after := by
  rcases reconcileOwnedDirectory_ok _ _ _ _ _ hrun with
    ⟨hnone, rfl⟩ | ⟨place, hplace, hswept⟩
  · split
    · rename_i hleads
      refine ⟨h.within, fun location => ?_⟩
      rw [retained_append, h.leaves]
      cases hretained : retained limit start retainedFiles walked location with
      | false => rfl
      | true =>
          rw [Bool.true_and, if_pos rfl]
          cases hkeeps : keeps limit start retainedFiles location root with
          | true => rfl
          | false =>
              -- Below a place that is not there nothing is left to remove.
              rw [if_neg Bool.false_ne_true]
              have hnot : ¬ ∀ place, destination limit start root = some place →
                  ∀ below, below ≠ [] → location = place ++ below →
                    root ++ below ∈ retainedFiles := by
                rw [← keeps_eq_true_iff, hkeeps]
                exact Bool.false_ne_true
              push Not at hnot
              obtain ⟨place, hplace, below, hbelow, rfl, -⟩ := hnot
              have hmissing : after.entryAt place = none := by
                cases hentry : after.entryAt place with
                | none => rfl
                | some entry =>
                    rw [h.stat_iff.mpr ⟨hplace, hleads, hentry⟩] at hnone
                    cases hnone
              have hnothing := after.entryAt_below
                (by rw [directoryAt, hmissing]; rfl) hbelow
              have hleaf := h.leaves (place ++ below)
              rw [if_pos hretained, leafAt_of_none hnothing] at hleaf
              exact hleaf.symm
    · exact h
  · obtain ⟨hdestination, hleads, -⟩ := h.stat_iff.mp hplace
    rw [if_pos hleads]
    refine ⟨hswept.within.trans h.within, fun location => ?_⟩
    rw [retained_append]
    by_cases hbelow : ∃ below, below ≠ [] ∧ location = place ++ below
    · obtain ⟨below, hne, rfl⟩ := hbelow
      by_cases hmem : root ++ below ∈ retainedFiles
      · have hkeeps : keeps limit start retainedFiles (place ++ below) root =
            true := by
          rw [keeps_eq_true_iff]
          intro found hfound inner hinner hsame
          rw [hdestination] at hfound
          cases hfound
          rw [← List.append_cancel_left hsame]
          exact hmem
        rw [hkeeps, Bool.and_true, hswept.kept below hne hmem, h.leaves]
      · have hkeeps : ¬ keeps limit start retainedFiles (place ++ below) root =
            true := by
          rw [keeps_eq_true_iff]
          exact fun hall => hmem (hall place hdestination below hne rfl)
        rw [hswept.gone below hne hmem, Bool.eq_false_iff.mpr hkeeps,
          Bool.and_false]
        rfl
    · push Not at hbelow
      have hkeeps : keeps limit start retainedFiles location root = true := by
        rw [keeps_eq_true_iff]
        intro found hfound below hne hsame
        rw [hdestination] at hfound
        cases hfound
        exact absurd hsame (hbelow below hne)
      rw [hkeeps, Bool.and_true, leafAt_congr (hswept.outside location hbelow),
        h.leaves]

/-- All walks: what the walked roots retain is there, and nothing else. -/
theorem sweeps_ok
    {retainedFiles walked roots : List Location}
    {start state after : Files}
    (hstate : WalkedAll limit retainedFiles walked start state)
    (h : roots.forM (reconcileRoot limit retainedFiles) state =
      .ok () after) :
    WalkedAll limit retainedFiles
      (walkedRoots limit start retainedFiles walked roots) start after := by
  induction roots generalizing walked state with
  | nil =>
      rw [estate_forM_nil_ok h]
      exact hstate
  | cons root rest ih =>
      obtain ⟨between, hfirst, hrest⟩ := estate_forM_cons_ok h
      obtain ⟨files, same, hget, hrun⟩ := estate_bind_ok hfirst
      cases hget
      exact ih (hstate.step hrun) hrest

end Render
end Dsql
