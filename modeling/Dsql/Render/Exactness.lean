import Dsql.Render.Phases

/-!
# When the owned roots hold exactly the desired files

Desired files are written by their paths and removed by the names found on
the walk.  Both agree, and nothing outside the owned roots changes, exactly
if every link on the path of a desired file and the place it ends at are
spared by the walks, and that place belongs to the file alone.
-/

namespace Dsql
namespace Render

open LinkedFiles

variable {limit : Nat} {decode : ByteArray → String}

/-! ## A whole run -/

/-- Whether a location lies at or below the place an owned root leads to. -/
def Owned
    (limit : Nat)
    (files : Files)
    (roots : List Location)
    (location : Location) : Prop :=
  ∃ root ∈ roots, ∃ place, destination limit files root = some place ∧
    place <+: location

/-- Below the owned roots the paths that lead to files are the desired paths,
with the desired contents, and outside every file and link is as before. -/
structure Reconciled
    (limit : Nat)
    (desired : Desired)
    (before after : Files) : Prop where
  exact : ∀ root ∈ desired.roots, ∀ below bytes,
    (∃ place, after.stat limit (root ++ below) = some (place, .file bytes)) ↔
      ∃ contents, (root ++ below, contents) ∈ desired.files ∧
        bytes = contents.toUTF8
  contained : ∀ location, ¬ Owned limit before desired.roots location →
    after.leafAt location = before.leafAt location

/-- What the walks leave at a location, seen from the tree before the run. -/
def Desired.spares
    (desired : Desired)
    (limit : Nat)
    (files : Files) : Location → Bool :=
  retained limit files (desired.files.map Prod.fst)
    (walkedRoots limit files (desired.files.map Prod.fst) [] desired.roots)

/-- The path of a desired file passes only links that the walks spare and
ends at a place that they spare, that no other content is desired for, and
that lies in an owned root unless it holds the content already. -/
structure Undisturbed
    (limit : Nat)
    (decode : ByteArray → String)
    (desired : Desired)
    (files : Files)
    (contents : String)
    (found : Route) : Prop where
  links : ∀ link ∈ found.links, desired.spares limit files link = true
  place : desired.spares limit files found.destination = true
  single : ∀ other ∈ desired.files,
    destination limit files other.1 = some found.destination →
      other.2 = contents
  lossless : ∀ bytes,
    files.leafAt found.destination = some (.file bytes) →
      decode bytes = contents → bytes = contents.toUTF8
  inside : Owned limit files desired.roots found.destination ∨
    files.leafAt found.destination = some (.file contents.toUTF8)

/-- No desired file meets a link or a place that the run takes away. -/
def AllUndisturbed
    (limit : Nat)
    (decode : ByteArray → String)
    (desired : Desired)
    (files : Files) : Prop :=
  ∀ file ∈ desired.files, ∀ found,
    route files.linkAt limit [] file.1 = some found →
      Undisturbed limit decode desired files file.2 found

/-- What a run that returns has done. -/
structure Finished
    (limit : Nat)
    (decode : ByteArray → String)
    (desired : Desired)
    (before after : Files) : Prop where
  routes : ∀ file ∈ desired.files, ∃ found,
    route before.linkAt limit [] file.1 = some found
  leads_iff : ∀ path place entry,
    after.stat limit path = some (place, entry) ↔
      destination limit before path = some place ∧
        leads limit before (desired.files.map Prod.fst)
          (walkedRoots limit before (desired.files.map Prod.fst) []
            desired.roots) path = true ∧
        after.entryAt place = some entry
  leaves : ∀ location, after.leafAt location =
    if desired.spares limit before location then
      landed decode (destination limit before) location
        (before.leafAt location) desired.files
    else
      none
  below_file : ∀ place bytes, landed decode (destination limit before) place
    (before.leafAt place) desired.files = some (.file bytes) →
      ∀ below, below ≠ [] → before.linkAt (place ++ below) = none ∧
        after.entryAt (place ++ below) = none
  no_file : ∀ root ∈ desired.roots, ∀ place bytes,
    after.stat limit root ≠ some (place, .file bytes)

theorem reconcileRoot_within
    {retainedFiles : List Location}
    {root : Location}
    {files after : Files}
    (h : reconcileRoot limit retainedFiles root files = .ok () after) :
    after.Within files := by
  obtain ⟨start, same, hget, hrun⟩ := estate_bind_ok h
  cases hget
  rcases reconcileOwnedDirectory_ok _ _ _ _ _ hrun with
    ⟨-, rfl⟩ | ⟨place, -, hswept⟩
  · exact Within.refl _
  · exact hswept.within

/-- No owned root is a file: its walk would have failed. -/
theorem sweeps_no_file
    {retainedFiles roots : List Location}
    {files after : Files}
    (h : roots.forM (reconcileRoot limit retainedFiles) files = .ok () after)
    {root : Location}
    (hroot : root ∈ roots)
    (place : Location)
    (bytes : ByteArray) :
    after.stat limit root ≠ some (place, .file bytes) := by
  induction roots generalizing files with
  | nil => cases hroot
  | cons next rest ih =>
      obtain ⟨between, hfirst, hrest⟩ := estate_forM_cons_ok h
      rcases List.mem_cons.mp hroot with rfl | hmem
      · intro hstat
        have hwithin : after.Within between := estate_forM_ok
          (fun before after : Files => after.Within before)
          Within.refl (fun _ _ _ hleft hright => hright.trans hleft) rest
          (fun other _ before after hstep => reconcileRoot_within hstep) hrest
        have hstart := (hwithin.trans (reconcileRoot_within hfirst)).stat hstat
        obtain ⟨start, same, hget, hrun⟩ := estate_bind_ok hfirst
        cases hget
        rcases reconcileOwnedDirectory_ok _ _ _ _ _ hrun with
          ⟨hnone, -⟩ | ⟨found, hfound, -⟩
        · rw [hnone] at hstart
          cases hstart
        · rw [hfound] at hstart
          cases hstart
      · exact ih hrest hmem

theorem finished
    {options : Options}
    {before after : Files}
    (h : reconcileDsqlOutputs limit decode options before = .ok () after) :
    ∃ desired, validated options = .ok desired ∧
      Finished limit decode desired before after := by
  obtain ⟨desired, middle, hvalid, hwrites, hsweeps⟩ := reconcile_phases h
  obtain ⟨hlinks, hroutes, hlanded⟩ := writes_ok hwrites
  have hwalked := sweeps_ok
    (.start limit (desired.files.map Prod.fst) middle) hsweeps
  have hsame := congrFun (destination_congr (congrFun hlinks) limit)
  refine ⟨desired, hvalid, ?_, ?_, ?_, ?_, ?_⟩
  · intro file hfile
    obtain ⟨place, hplace⟩ := Option.isSome_iff_exists.mp (hroutes file hfile)
    obtain ⟨found, hfound, -⟩ := destination_eq_some.mp hplace
    exact ⟨found, hfound⟩
  · intro path place entry
    rw [hwalked.stat_iff, hsame, leads_congr hlinks, walkedRoots_congr hlinks]
  · intro location
    rw [hwalked.leaves, hlanded, retained_congr hlinks,
      walkedRoots_congr hlinks]
    rfl
  · intro place bytes hfile below hbelow
    rw [← hlanded, leafAt_eq_some] at hfile
    have hnot : middle.directoryAt place = false := by
      rw [directoryAt, hfile.1]
      rfl
    have hnone := middle.entryAt_below hnot hbelow
    refine ⟨?_, ?_⟩
    · rw [← hlinks, linkAt, hnone]
      rfl
    · cases hafter : after.entryAt (place ++ below) with
      | none => rfl
      | some entry =>
          rw [hwalked.within _ _ hafter] at hnone
          cases hnone
  · exact fun root hroot => sweeps_no_file hsweeps hroot

/-! ## Exactness -/

section Exactness

variable {desired : Desired} {before after : Files}

theorem leads_of_route
    {files : Files}
    {retainedFiles roots : List Location}
    {path : Location}
    {found : Route}
    (h : route files.linkAt limit [] path = some found) :
    leads limit files retainedFiles roots path = true ↔
      ∀ link ∈ found.links,
        retained limit files retainedFiles roots link = true := by
  unfold leads
  rw [h]
  exact List.all_eq_true

/-- What is found at the end of a path is what the desired files left there. -/
theorem Finished.landed_of_stat
    (h : Finished limit decode desired before after)
    {path place : Location}
    {bytes : ByteArray}
    (hstat : after.stat limit path = some (place, .file bytes)) :
    desired.spares limit before place = true ∧
      landed decode (destination limit before) place (before.leafAt place)
        desired.files = some (.file bytes) := by
  have hentry := ((h.leads_iff path place _).mp hstat).2.2
  have hleaf := h.leaves place
  rw [leafAt_file hentry] at hleaf
  split at hleaf
  · rename_i hspared
    exact ⟨hspared, hleaf.symm⟩
  · cases hleaf

/-- The desired content is what an undisturbed file's place holds. -/
theorem AllUndisturbed.landed
    (h : AllUndisturbed limit decode desired before)
    {path : Location}
    {contents : String}
    (hfile : (path, contents) ∈ desired.files)
    {found : Route}
    (hfound : route before.linkAt limit [] path = some found) :
    landed decode (destination limit before) found.destination
      (before.leafAt found.destination) desired.files =
        some (.file contents.toUTF8) := by
  have hundisturbed := h _ hfile found hfound
  refine landed_settled hundisturbed.lossless hundisturbed.single
    (.inr ⟨_, hfile, ?_⟩)
  exact destination_eq_some.mpr ⟨found, hfound, rfl⟩

/-- A desired path that leads to a file leads to the desired content. -/
theorem Finished.content
    (h : Finished limit decode desired before after)
    (hundisturbed : AllUndisturbed limit decode desired before)
    {path place : Location}
    {contents : String}
    {bytes : ByteArray}
    (hfile : (path, contents) ∈ desired.files)
    (hstat : after.stat limit path = some (place, .file bytes)) :
    bytes = contents.toUTF8 := by
  obtain ⟨found, hfound, rfl⟩ :=
    destination_eq_some.mp ((h.leads_iff path place _).mp hstat).1
  have hlanded := (h.landed_of_stat hstat).2
  rw [hundisturbed.landed hfile hfound] at hlanded
  injection hlanded with hlanded
  injection hlanded with hlanded
  exact hlanded.symm

/-- Undisturbed files are found by their paths. -/
theorem Finished.stat_of_undisturbed
    (h : Finished limit decode desired before after)
    (hundisturbed : AllUndisturbed limit decode desired before)
    {path : Location}
    {contents : String}
    (hfile : (path, contents) ∈ desired.files) :
    ∃ place, after.stat limit path =
      some (place, .file contents.toUTF8) := by
  obtain ⟨found, hfound⟩ := h.routes _ hfile
  have hspared := hundisturbed _ hfile found hfound
  have hleaf := h.leaves found.destination
  rw [if_pos hspared.place, hundisturbed.landed hfile hfound] at hleaf
  refine ⟨found.destination, (h.leads_iff _ _ _).mpr ⟨?_, ?_, ?_⟩⟩
  · exact destination_eq_some.mpr ⟨found, hfound, rfl⟩
  · exact (leads_of_route hfound).mpr hspared.links
  · exact (leafAt_eq_some.mp hleaf).1

/-- What a walked root spares below its place has a desired path. -/
theorem Desired.spares_below
    {root place below : Location}
    (hroot : root ∈ walkedRoots limit before (desired.files.map Prod.fst) []
      desired.roots)
    (hplace : destination limit before root = some place)
    (hbelow : below ≠ [])
    (h : desired.spares limit before (place ++ below) = true) :
    ∃ contents, (root ++ below, contents) ∈ desired.files := by
  have hkeeps := keeps_eq_true_iff.mp (List.all_eq_true.mp h root hroot)
  obtain ⟨file, hfile, hpath⟩ :=
    List.mem_map.mp (hkeeps place hplace below hbelow rfl)
  rw [← hpath]
  exact ⟨file.2, hfile⟩

/-- Without links below it, a location is arrived at by its name. -/
theorem leg_of_no_links
    {links : Location → Option Location}
    {here : Location}
    {path : List String}
    (h : ∀ below, below ≠ [] → links (here ++ below) = none) :
    leg links here path = .arrived (here ++ path) := by
  induction path generalizing here with
  | nil => rw [leg, List.append_nil]
  | cons name path ih =>
      rw [leg, h [name] (List.cons_ne_nil _ _)]
      have hbelow : ∀ below, below ≠ [] →
          links (here ++ [name] ++ below) = none := by
        intro below hbelow
        rw [List.append_assoc]
        exact h _ (by simp)
      have hnext := ih hbelow
      rwa [List.append_assoc, List.singleton_append] at hnext

/-- No path leads through a desired file to anything below it. -/
theorem Finished.rest_eq_nil
    (h : Finished limit decode desired before after)
    {path place : Location}
    {contents : String}
    {rest : List String}
    {entry : Entry ByteArray}
    (hfile : (path, contents) ∈ desired.files)
    (hstat : after.stat limit (path ++ rest) = some (place, entry)) :
    rest = [] := by
  by_contra hrest
  obtain ⟨hplace, -, hentry⟩ := (h.leads_iff _ _ _).mp hstat
  obtain ⟨whole, hwhole, rfl⟩ := destination_eq_some.mp hplace
  obtain ⟨front, hfront⟩ := route_front hwhole
  have hleads : destination limit before path = some front.destination :=
    destination_eq_some.mpr ⟨front, hfront, rfl⟩
  obtain ⟨bytes, hbytes⟩ : ∃ bytes,
      landed decode (destination limit before) front.destination
        (before.leafAt front.destination) desired.files =
          some (.file bytes) :=
    landed_file (.inr ⟨_, hfile, hleads⟩)
  have hbelow := h.below_file _ bytes hbytes
  -- The rest of the path meets no link, so it ends below the file.
  have hleg : leg before.linkAt front.destination rest =
      .arrived (front.destination ++ rest) :=
    leg_of_no_links (fun below hne => (hbelow below hne).1)
  rw [(route_append rest hfront).2, route_arrived _ hleg] at hwhole
  cases hwhole
  rw [(hbelow rest hrest).2] at hentry
  cases hentry

/-- A file below an owned root has a desired path. -/
theorem Finished.desired_of_stat
    (h : Finished limit decode desired before after)
    {root place : Location}
    {below : List String}
    {bytes : ByteArray}
    (hroot : root ∈ desired.roots)
    (hstat : after.stat limit (root ++ below) = some (place, .file bytes)) :
    ∃ contents, (root ++ below, contents) ∈ desired.files := by
  have hbelow : below ≠ [] := by
    rintro rfl
    rw [List.append_nil] at hstat
    exact h.no_file root hroot place bytes hstat
  obtain ⟨hplace, hleads, -⟩ := (h.leads_iff _ _ _).mp hstat
  obtain ⟨whole, hwhole, rfl⟩ := destination_eq_some.mp hplace
  have hlinks := (leads_of_route hwhole).mp hleads
  obtain ⟨front, hfront⟩ := route_front hwhole
  have happend := (route_append below hfront).2
  rw [hwhole, eq_comm, Option.map_eq_some_iff] at happend
  obtain ⟨back, hback, rfl⟩ := happend
  have hwalked : root ∈ walkedRoots limit before
      (desired.files.map Prod.fst) [] desired.roots :=
    mem_walkedRoots hroot ((leads_of_route hfront).mpr (fun link hlink =>
      hlinks link (List.mem_append_left _ hlink)))
  have hstart : destination limit before root = some front.destination :=
    destination_eq_some.mpr ⟨front, hfront, rfl⟩
  cases hleg : leg before.linkAt front.destination below with
  | arrived location =>
      rw [route_arrived _ hleg] at hback
      cases hback
      have hlocation := leg_arrived hleg
      subst hlocation
      exact Desired.spares_below hwalked hstart hbelow
        (h.landed_of_stat hstat).1
  | redirected link target rest =>
      obtain ⟨-, first, hfirst, rfl, rfl⟩ := leg_redirected hleg
      have hlink : front.destination ++ first ∈ back.links := by
        cases hlimit : limit - front.links.length with
        | zero =>
            rw [hlimit, route_exhausted hleg] at hback
            cases hback
        | succ fewer =>
            rw [hlimit, route_redirected fewer hleg,
              Option.map_eq_some_iff] at hback
            obtain ⟨inner, -, rfl⟩ := hback
            exact List.mem_cons_self ..
      obtain ⟨contents, hcontents⟩ := Desired.spares_below hwalked hstart hfirst
        (hlinks _ (List.mem_append_right _ hlink))
      have hnil : rest = [] := by
        rw [← List.append_assoc] at hstat
        exact h.rest_eq_nil hcontents hstat
      rw [hnil, List.append_nil]
      exact ⟨contents, hcontents⟩

/-- The walks spare what lies outside the owned roots. -/
theorem Desired.spares_of_not_owned
    {location : Location}
    (h : ¬ Owned limit before desired.roots location) :
    desired.spares limit before location = true := by
  refine List.all_eq_true.mpr (fun root hroot => ?_)
  rw [keeps_eq_true_iff]
  intro place hplace below hbelow hlocation
  have hmem : root ∈ desired.roots :=
    (walkedRoots_subset _ _ _ _ _ root hroot).resolve_left List.not_mem_nil
  exact absurd ⟨root, hmem, place, hplace, below, hlocation.symm⟩ h

theorem Finished.reconciled
    (h : Finished limit decode desired before after)
    (hundisturbed : AllUndisturbed limit decode desired before) :
    Reconciled limit desired before after where
  exact root hroot below bytes := by
    constructor
    · rintro ⟨place, hstat⟩
      obtain ⟨contents, hcontents⟩ := h.desired_of_stat hroot hstat
      exact ⟨contents, hcontents, h.content hundisturbed hcontents hstat⟩
    · rintro ⟨contents, hcontents, rfl⟩
      exact h.stat_of_undisturbed hundisturbed hcontents
  contained location howned := by
    rw [h.leaves, if_pos (Desired.spares_of_not_owned howned)]
    by_cases hleads : ∃ file ∈ desired.files,
        destination limit before file.1 = some location
    · obtain ⟨file, hfile, hdestination⟩ := hleads
      obtain ⟨found, hfound, rfl⟩ := destination_eq_some.mp hdestination
      have hinside := (hundisturbed file hfile found hfound).inside
      rw [hinside.resolve_left howned, ← hinside.resolve_left howned]
      rw [hundisturbed.landed hfile hfound, hinside.resolve_left howned]
    · push Not at hleads
      exact landed_elsewhere hleads

theorem Finished.undisturbed
    (h : Finished limit decode desired before after)
    (hunder : ∀ file ∈ desired.files, ∃ root ∈ desired.roots,
      root <+: file.1)
    (hreconciled : Reconciled limit desired before after) :
    AllUndisturbed limit decode desired before := by
  have hstat : ∀ file ∈ desired.files, ∀ found,
      route before.linkAt limit [] file.1 = some found →
        after.stat limit file.1 =
          some (found.destination, .file file.2.toUTF8) := by
    intro file hfile found hfound
    obtain ⟨root, hroot, below, hbelow⟩ := hunder file hfile
    have hexact := (hreconciled.exact root hroot below file.2.toUTF8).mpr
      ⟨file.2, by rwa [hbelow], rfl⟩
    rw [hbelow] at hexact
    obtain ⟨place, hplace⟩ := hexact
    obtain ⟨other, hother, rfl⟩ :=
      destination_eq_some.mp ((h.leads_iff _ _ _).mp hplace).1
    rw [hfound] at hother
    cases hother
    exact hplace
  intro file hfile found hfound
  have hfound' := hstat file hfile found hfound
  obtain ⟨hspared, hlanded⟩ := h.landed_of_stat hfound'
  have hsingle : ∀ other ∈ desired.files,
      destination limit before other.1 = some found.destination →
        other.2 = file.2 := by
    intro other hother hdestination
    obtain ⟨route, hroute, hsame⟩ := destination_eq_some.mp hdestination
    have hother' := (h.landed_of_stat (hstat other hother route hroute)).2
    rw [hsame, hlanded] at hother'
    injection hother' with hother'
    injection hother' with hother'
    exact (String.toByteArray_inj.mp hother').symm
  refine ⟨?_, hspared, hsingle, ?_, ?_⟩
  · exact (leads_of_route hfound).mp ((h.leads_iff _ _ _).mp hfound').2.1
  · intro bytes hbytes hdecode
    rw [hbytes, landed_taken hdecode hsingle] at hlanded
    injection hlanded with hlanded
    injection hlanded with hlanded
  · by_cases howned : Owned limit before desired.roots found.destination
    · exact .inl howned
    · refine .inr ?_
      rw [← hreconciled.contained _ howned]
      exact leafAt_file ((h.leads_iff _ _ _).mp hfound').2.2

end Exactness

/-- A refused path changes nothing.  A run that returns leaves exactly the
desired files below the owned roots and everything else as it was if and only
if no desired file is disturbed. -/
theorem reconcile_exact_iff
    (limit : Nat)
    (decode : ByteArray → String)
    (options : Options)
    (before : Files) :
    (∀ failure, validated options = .error failure →
      reconcileDsqlOutputs limit decode options before =
        .error failure before) ∧
      ∀ after, reconcileDsqlOutputs limit decode options before =
          .ok () after →
        ∃ desired, validated options = .ok desired ∧
          (Reconciled limit desired before after ↔
            AllUndisturbed limit decode desired before) := by
  refine ⟨fun failure h => reconcile_of_invalid h before, ?_⟩
  intro after hrun
  obtain ⟨desired, hvalid, hfinished⟩ := finished hrun
  exact ⟨desired, hvalid,
    hfinished.undisturbed (validated_under hvalid), hfinished.reconciled⟩

/-! ## Two runs -/

/-- What a run that returns leaves at a location. -/
def leavesFile
    (location : Location) : EStateM.Result Failure Files Unit → Bool
  | .ok _ after => (after.leafAt location).isSome
  | .error _ _ => false

theorem leavesFile_eq_true
    {location : Location}
    {result : EStateM.Result Failure Files Unit}
    (h : leavesFile location result = true) :
    ∃ after, result = .ok () after ∧ (after.leafAt location).isSome = true := by
  cases result with
  | ok _ after => exact ⟨after, rfl, h⟩
  | error failure after => cases h

theorem validated_of_parts
    {options : Options}
    {desired : Desired}
    {roots : List Location}
    {files : List (Location × String)}
    (h : validated options = .ok desired)
    (hroots : (validated options).map Desired.roots = .ok roots)
    (hfiles : (validated options).map Desired.files = .ok files) :
    desired = ⟨roots, files⟩ := by
  rw [h] at hroots hfiles
  cases hroots
  cases hfiles
  rfl

def readText (bytes : ByteArray) : String :=
  (String.fromUTF8? bytes).getD ""

/-- A project with an owned directory `gen` that holds an old file, and a link
from one desired file to another. -/
def sparedStore : FileStore Location (Entry ByteArray) :=
  ⟨[(["p"], .directory), (["p", "gen"], .directory),
    (["p", "gen", "old.ts"], .file .empty),
    (["p", "gen", "b.ts"], .file .empty),
    (["p", "gen", "a.ts"], .link ["p", "gen", "b.ts"])]⟩

theorem sparedStore_nested :
    ∀ entry ∈ sparedStore.entries,
      isDirectory (entryIn sparedStore entry.1.dropLast) = true := by
  decide

def sparedFiles : Files :=
  ⟨sparedStore, nested_of_entries _ sparedStore_nested⟩

def sparedOptions : Options :=
  ⟨["p"], ["gen"], [⟨"gen/a.ts", "x"⟩, ⟨"gen/b.ts", "x"⟩]⟩

def sparedDesired : Desired :=
  ⟨[["p", "gen"]],
    [(["p", "gen", "a.ts"], "x"), (["p", "gen", "b.ts"], "x")]⟩

theorem spared_route :
    route sparedFiles.linkAt 40 [] ["p", "gen", "b.ts"] =
      some ⟨[], ["p", "gen", "b.ts"]⟩ :=
  route_arrived 40 (by rfl)

theorem spared_route_linked :
    route sparedFiles.linkAt 40 [] ["p", "gen", "a.ts"] =
      some ⟨[["p", "gen", "a.ts"]], ["p", "gen", "b.ts"]⟩ := by
  have hleg : leg sparedFiles.linkAt [] ["p", "gen", "a.ts"] =
      .redirected ["p", "gen", "a.ts"] ["p", "gen", "b.ts"] [] := by
    rfl
  rw [route_redirected 39 hleg, List.append_nil, route_arrived 39 (by rfl)]
  rfl

/-- Both desired files end in `b.ts`, which wants the same contents. -/
theorem spared_undisturbed :
    AllUndisturbed 40 readText sparedDesired sparedFiles := by
  have hplace : sparedDesired.spares 40 sparedFiles ["p", "gen", "b.ts"] =
      true := by
    decide +kernel
  have hlink : sparedDesired.spares 40 sparedFiles ["p", "gen", "a.ts"] =
      true := by
    decide +kernel
  have hcontents : ∀ file ∈ sparedDesired.files, file.2 = "x" := by
    decide
  have hempty : ∀ bytes,
      sparedFiles.leafAt ["p", "gen", "b.ts"] = some (.file bytes) →
        readText bytes = "x" → bytes = "x".toUTF8 := by
    intro bytes hbytes hread
    have hleaf : sparedFiles.leafAt ["p", "gen", "b.ts"] =
        some (.file .empty) := leafAt_file (by rfl)
    rw [hleaf] at hbytes
    cases hbytes
    revert hread
    decide +kernel
  have howned : Owned 40 sparedFiles sparedDesired.roots
      ["p", "gen", "b.ts"] := by
    refine ⟨["p", "gen"], List.mem_singleton_self _, ["p", "gen"], ?_, ?_⟩
    · exact destination_eq_some.mpr ⟨_, route_arrived 40 (by rfl), rfl⟩
    · exact List.prefix_append _ _
  intro file hfile found hfound
  have hends : found.destination = ["p", "gen", "b.ts"] ∧
      ∀ link ∈ found.links, link = ["p", "gen", "a.ts"] := by
    rcases List.mem_pair.mp hfile with rfl | rfl
    · rw [spared_route_linked] at hfound
      cases hfound
      exact ⟨rfl, fun link hmem => List.mem_singleton.mp hmem⟩
    · rw [spared_route] at hfound
      cases hfound
      exact ⟨rfl, nofun⟩
  rw [hcontents file hfile]
  refine ⟨?_, ?_, fun other hother _ => hcontents other hother, ?_, .inl ?_⟩
  · intro link hmem
    rw [hends.2 link hmem]
    exact hlink
  · rw [hends.1]
    exact hplace
  · rw [hends.1]
    exact hempty
  · rw [hends.1]
    exact howned

/-- The run keeps the link, writes the file behind it and sweeps the old
file. -/
theorem spared_reconciled :
    ∃ after,
      reconcileDsqlOutputs 40 readText sparedOptions sparedFiles =
          .ok () after ∧
        validated sparedOptions = .ok sparedDesired ∧
        Reconciled 40 sparedDesired sparedFiles after := by
  have hleaves : leavesFile ["p", "gen", "a.ts"]
      (reconcileDsqlOutputs 40 readText sparedOptions sparedFiles) = true := by
    decide +kernel
  obtain ⟨after, hrun, -⟩ := leavesFile_eq_true hleaves
  obtain ⟨desired, hvalid, hiff⟩ :=
    (reconcile_exact_iff 40 readText sparedOptions sparedFiles).2 after hrun
  have hparts : desired = sparedDesired :=
    validated_of_parts hvalid (by decide +kernel) (by decide +kernel)
  rw [hparts] at hvalid hiff
  exact ⟨after, hrun, hvalid, hiff.mpr spared_undisturbed⟩

/-- The owned directory `gen` holds a link to the sources. -/
def linkedStore : FileStore Location (Entry ByteArray) :=
  ⟨[(["p"], .directory), (["p", "gen"], .directory),
    (["p", "src"], .directory), (["p", "gen", "out"], .link ["p", "src"])]⟩

theorem linkedStore_nested :
    ∀ entry ∈ linkedStore.entries,
      isDirectory (entryIn linkedStore entry.1.dropLast) = true := by
  decide

def linkedFiles : Files :=
  ⟨linkedStore, nested_of_entries _ linkedStore_nested⟩

def linkedOptions : Options :=
  ⟨["p"], ["gen"], [⟨"gen/out/a.ts", "x"⟩]⟩

/-- The run returns, but it has written a source file through the link. -/
theorem linked_not_reconciled :
    ∃ after, reconcileDsqlOutputs 40 readText linkedOptions linkedFiles =
          .ok () after ∧
        ∀ desired, validated linkedOptions = .ok desired →
          ¬ Reconciled 40 desired linkedFiles after := by
  have hleaves : leavesFile ["p", "src", "a.ts"]
      (reconcileDsqlOutputs 40 readText linkedOptions linkedFiles) = true := by
    decide +kernel
  obtain ⟨after, hrun, hsome⟩ := leavesFile_eq_true hleaves
  refine ⟨after, hrun, ?_⟩
  intro desired hvalid hreconciled
  have hparts : desired =
      ⟨[["p", "gen"]], [(["p", "gen", "out", "a.ts"], "x")]⟩ :=
    validated_of_parts hvalid (by decide +kernel) (by decide +kernel)
  have howned : ¬ Owned 40 linkedFiles desired.roots ["p", "src", "a.ts"] := by
    rintro ⟨root, hroot, place, hplace, hprefix⟩
    rw [hparts, List.mem_singleton] at hroot
    have hgen : destination 40 linkedFiles ["p", "gen"] = some ["p", "gen"] :=
      destination_eq_some.mpr ⟨_, route_arrived 40 (by rfl), rfl⟩
    rw [hroot, hgen] at hplace
    cases hplace
    revert hprefix
    decide
  have hsame := hreconciled.contained ["p", "src", "a.ts"] howned
  have hmissing : linkedFiles.leafAt ["p", "src", "a.ts"] = none :=
    leafAt_of_none (by rfl)
  rw [hsame, hmissing] at hsome
  cases hsome

end Render
end Dsql
