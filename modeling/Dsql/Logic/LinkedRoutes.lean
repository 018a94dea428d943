import Dsql.Logic.LinkedFiles

/-!
# Routes through symbolic links

The links alone determine where a path leads.  Its route lists the links on
the way and the destination, and the path resolves exactly if these exist.
-/

namespace Dsql

namespace LinkedFiles

variable {B : Type}

/-! ## Routes -/

/-- The next link on a path, or its end. -/
inductive Leg where
  | arrived (location : Location)
  | redirected (link target : Location) (rest : List String)

def leg (links : Location → Option Location) :
    Location → List String → Leg
  | here, [] => .arrived here
  | here, name :: rest =>
      match links (here ++ [name]) with
      | none => leg links (here ++ [name]) rest
      | some target => .redirected (here ++ [name]) target rest

/-- Where a path leads, and the links on the way. -/
structure Route where
  links : List Location
  destination : Location

def Route.through (link : Location) (route : Route) : Route :=
  ⟨link :: route.links, route.destination⟩

def route
    (links : Location → Option Location)
    (limit : Nat)
    (here : Location)
    (path : List String) : Option Route :=
  match leg links here path, limit with
  | .arrived location, _ => some ⟨[], location⟩
  | .redirected link target rest, limit + 1 =>
      (route links limit [] (target ++ rest)).map (.through link)
  | .redirected .., 0 => none

/-- A path can be followed in two parts. -/
theorem leg_append
    (links : Location → Option Location)
    (here : Location)
    (path rest : List String) :
    leg links here (path ++ rest) =
      match leg links here path with
      | .arrived location => leg links location rest
      | .redirected link target path => .redirected link target (path ++ rest) := by
  induction path generalizing here with
  | nil => rfl
  | cons name path ih =>
      rw [List.cons_append, leg, leg]
      cases links (here ++ [name]) with
      | none => exact ih _
      | some target => rfl

/-- A route without links arrives. -/
theorem route_arrived
    {links : Location → Option Location}
    {here location : Location}
    {path : List String}
    (limit : Nat)
    (h : leg links here path = .arrived location) :
    route links limit here path = some ⟨[], location⟩ := by
  rw [route.eq_def, h]

/-- A link uses up one of the limit. -/
theorem route_redirected
    {links : Location → Option Location}
    {here link target : Location}
    {path rest : List String}
    (limit : Nat)
    (h : leg links here path = .redirected link target rest) :
    route links (limit + 1) here path =
      (route links limit [] (target ++ rest)).map (.through link) := by
  rw [route.eq_def, h]

/-- Beyond the limit there is no route. -/
theorem route_exhausted
    {links : Location → Option Location}
    {here link target : Location}
    {path rest : List String}
    (h : leg links here path = .redirected link target rest) :
    route links 0 here path = none := by
  rw [route.eq_def, h]

/-- A path leads where its front leads, and on from there. -/
theorem route_append
    {links : Location → Option Location}
    {limit : Nat}
    {here : Location}
    {path : List String}
    {front : Route}
    (rest : List String)
    (h : route links limit here path = some front) :
    front.links.length ≤ limit ∧
      route links limit here (path ++ rest) =
        (route links (limit - front.links.length) front.destination rest).map
          (fun back => ⟨front.links ++ back.links, back.destination⟩) := by
  induction limit generalizing here path front with
  | zero =>
      cases hleg : leg links here path with
      | arrived location =>
          rw [route_arrived 0 hleg] at h
          cases h
          refine ⟨Nat.le_refl 0, ?_⟩
          rw [route.eq_def, leg_append, hleg]
          rw [route.eq_def links _ location]
          simp only [List.length_nil, List.nil_append]
          cases leg links location rest <;> rfl
      | redirected link target remaining =>
          rw [route_exhausted hleg] at h
          cases h
  | succ limit ih =>
      cases hleg : leg links here path with
      | arrived location =>
          rw [route_arrived _ hleg] at h
          cases h
          refine ⟨Nat.zero_le _, ?_⟩
          rw [route.eq_def, leg_append, hleg]
          rw [route.eq_def links _ location]
          simp only [List.length_nil, Nat.sub_zero, List.nil_append]
          cases leg links location rest with
          | arrived => rfl
          | redirected link target remaining =>
              simp only [Option.map_map]
              congr
      | redirected link target remaining =>
          rw [route_redirected limit hleg, Option.map_eq_some_iff] at h
          obtain ⟨inner, hinner, rfl⟩ := h
          obtain ⟨hlength, happend⟩ := ih hinner
          refine ⟨Nat.succ_le_succ hlength, ?_⟩
          rw [route.eq_def, leg_append, hleg]
          simp only [← List.append_assoc, happend, Option.map_map]
          rw [show limit + 1 - (inner.through link).links.length =
            limit - inner.links.length by simp [Route.through]]
          rfl

/-- The front of a path that leads somewhere leads somewhere. -/
theorem route_front
    {links : Location → Option Location}
    {limit : Nat}
    {here : Location}
    {path rest : List String}
    {whole : Route}
    (h : route links limit here (path ++ rest) = some whole) :
    ∃ front, route links limit here path = some front := by
  induction limit generalizing here path whole with
  | zero =>
      cases hleg : leg links here path with
      | arrived location => exact ⟨_, route_arrived 0 hleg⟩
      | redirected link target remaining =>
          have hwhole : leg links here (path ++ rest) =
              .redirected link target (remaining ++ rest) := by
            rw [leg_append, hleg]
          rw [route_exhausted hwhole] at h
          cases h
  | succ limit ih =>
      cases hleg : leg links here path with
      | arrived location => exact ⟨_, route_arrived _ hleg⟩
      | redirected link target remaining =>
          have hwhole : leg links here (path ++ rest) =
              .redirected link target (remaining ++ rest) := by
            rw [leg_append, hleg]
          rw [route_redirected limit hwhole, Option.map_eq_some_iff] at h
          obtain ⟨inner, hinner, -⟩ := h
          rw [← List.append_assoc] at hinner
          obtain ⟨front, hfront⟩ := ih hinner
          refine ⟨front.through link, ?_⟩
          rw [route_redirected limit hleg, hfront]
          rfl

/-- A leg that arrives went straight. -/
theorem leg_arrived
    {links : Location → Option Location}
    {here location : Location}
    {path : List String}
    (h : leg links here path = .arrived location) :
    location = here ++ path := by
  induction path generalizing here with
  | nil =>
      cases h
      rw [List.append_nil]
  | cons name path ih =>
      rw [leg] at h
      cases hlink : links (here ++ [name]) with
      | none =>
          rw [hlink] at h
          rw [ih h, List.append_assoc, List.singleton_append]
      | some target =>
          rw [hlink] at h
          cases h

/-- A leg that is redirected stopped at a link on its way. -/
theorem leg_redirected
    {links : Location → Option Location}
    {here link target : Location}
    {path rest : List String}
    (h : leg links here path = .redirected link target rest) :
    links link = some target ∧ ∃ front, front ≠ [] ∧ link = here ++ front ∧
      path = front ++ rest := by
  induction path generalizing here with
  | nil => cases h
  | cons name path ih =>
      rw [leg] at h
      cases hlink : links (here ++ [name]) with
      | none =>
          rw [hlink] at h
          obtain ⟨htarget, front, -, hfront, hpath⟩ := ih h
          refine ⟨htarget, name :: front, List.cons_ne_nil _ _, ?_, ?_⟩
          · rw [hfront, List.append_assoc, List.singleton_append]
          · rw [hpath, List.cons_append]
      | some found =>
          rw [hlink] at h
          cases h
          exact ⟨hlink, [name], List.cons_ne_nil _ _, rfl, rfl⟩

/-- The links of a route are links. -/
theorem route_links
    {links : Location → Option Location}
    {limit : Nat}
    {here : Location}
    {path : List String}
    {found : Route}
    (h : route links limit here path = some found) :
    ∀ link ∈ found.links, (links link).isSome = true := by
  induction limit generalizing here path found with
  | zero =>
      cases hleg : leg links here path with
      | arrived location =>
          rw [route_arrived 0 hleg] at h
          cases h
          intro link hlink
          cases hlink
      | redirected link target rest =>
          rw [route_exhausted hleg] at h
          cases h
  | succ limit ih =>
      cases hleg : leg links here path with
      | arrived location =>
          rw [route_arrived _ hleg] at h
          cases h
          intro link hlink
          cases hlink
      | redirected link target rest =>
          rw [route_redirected limit hleg, Option.map_eq_some_iff] at h
          obtain ⟨inner, hinner, rfl⟩ := h
          intro other hother
          rcases List.mem_cons.mp hother with rfl | hmem
          · rw [(leg_redirected hleg).1]
            rfl
          · exact ih hinner other hmem

/-- A leg does not arrive at a link. -/
theorem leg_arrived_link
    {links : Location → Option Location}
    {here location : Location}
    {path : List String}
    (hhere : links here = none)
    (h : leg links here path = .arrived location) :
    links location = none := by
  induction path generalizing here with
  | nil =>
      cases h
      exact hhere
  | cons name path ih =>
      rw [leg] at h
      cases hlink : links (here ++ [name]) with
      | none =>
          rw [hlink] at h
          exact ih hlink h
      | some target =>
          rw [hlink] at h
          cases h

/-- A route never ends at a link. -/
theorem route_destination
    {links : Location → Option Location}
    {limit : Nat}
    {here : Location}
    {path : List String}
    {found : Route}
    (hroot : links [] = none)
    (hhere : links here = none)
    (h : route links limit here path = some found) :
    links found.destination = none := by
  induction limit generalizing here path found with
  | zero =>
      cases hleg : leg links here path with
      | arrived location =>
          rw [route_arrived 0 hleg] at h
          cases h
          exact leg_arrived_link hhere hleg
      | redirected link target rest =>
          rw [route_exhausted hleg] at h
          cases h
  | succ limit ih =>
      cases hleg : leg links here path with
      | arrived location =>
          rw [route_arrived _ hleg] at h
          cases h
          exact leg_arrived_link hhere hleg
      | redirected link target rest =>
          rw [route_redirected limit hleg, Option.map_eq_some_iff] at h
          obtain ⟨inner, hinner, rfl⟩ := h
          have hend := ih hroot hinner
          exact hend

/-! ## Resolution follows routes -/

/-- Arriving on disk follows the links alone. -/
theorem leg_of_advance
    {files : LinkedFiles B}
    {here location : Location}
    {path : List String}
    (hhere : files.directoryAt here = true)
    (h : files.advance here path = .arrived location) :
    leg files.linkAt here path = .arrived location ∧
      files.directoryAt location.dropLast = true := by
  induction path generalizing here with
  | nil =>
      cases h
      refine ⟨rfl, ?_⟩
      by_cases hempty : location = []
      · rw [hempty]
        rfl
      · refine files.nested location hempty ?_
        have hentry := (directoryAt_iff files location).mp hhere
        unfold entryAt at hentry
        rw [hentry]
        rfl
  | cons name rest ih =>
      rw [advance] at h
      rw [leg, linkAt]
      match hentry : files.entryAt (here ++ [name]) with
      | some .directory =>
          rw [hentry] at h
          exact ih ((directoryAt_iff _ _).mpr hentry) h
      | some (.link target) =>
          rw [hentry] at h
          cases h
      | some (.file content) =>
          rw [hentry] at h
          dsimp only at h
          split at h
          · rename_i hrest
            cases h
            rw [hrest, List.dropLast_concat]
            exact ⟨rfl, hhere⟩
          · cases h
      | none =>
          rw [hentry] at h
          dsimp only at h
          split at h
          · rename_i hrest
            cases h
            rw [hrest, List.dropLast_concat]
            exact ⟨rfl, hhere⟩
          · cases h

theorem leg_of_advance_redirected
    {files : LinkedFiles B}
    {here target : Location}
    {path rest : List String}
    (h : files.advance here path = .redirected target rest) :
    ∃ link, leg files.linkAt here path = .redirected link target rest := by
  induction path generalizing here with
  | nil => cases h
  | cons name path ih =>
      rw [advance] at h
      rw [leg, linkAt]
      match hentry : files.entryAt (here ++ [name]) with
      | some .directory =>
          rw [hentry] at h
          exact ih h
      | some (.link found) =>
          rw [hentry] at h
          cases h
          exact ⟨here ++ [name], rfl⟩
      | some (.file content) =>
          rw [hentry] at h
          dsimp only at h
          split at h <;> cases h
      | none =>
          rw [hentry] at h
          dsimp only at h
          split at h <;> cases h

/-- Following the links arrives where something exists. -/
theorem advance_of_leg
    {files : LinkedFiles B}
    {here location : Location}
    {path : List String}
    (hlocation : (files.entryAt location).isSome = true)
    (h : leg files.linkAt here path = .arrived location) :
    files.advance here path = .arrived location := by
  induction path generalizing here with
  | nil =>
      cases h
      rfl
  | cons name rest ih =>
      have hwhole := leg_arrived h
      rw [leg] at h
      cases hlink : files.linkAt (here ++ [name]) with
      | some target =>
          rw [hlink] at h
          cases h
      | none =>
          rw [hlink] at h
          rw [advance]
          by_cases hrest : rest = []
          · subst hrest
            cases h
            match hentry : files.entryAt (here ++ [name]) with
            | some .directory => rfl
            | some (.file content) => rfl
            | some (.link target) =>
                rw [linkAt, hentry] at hlink
                cases hlink
            | none =>
                rw [hentry] at hlocation
                cases hlocation
          · have hdirectory : files.directoryAt (here ++ [name]) = true := by
              apply files.directoryAt_of_prefix _ rest hrest
              rw [List.append_assoc, List.singleton_append, ← hwhole]
              exact hlocation
            rw [(directoryAt_iff _ _).mp hdirectory]
            exact ih h

theorem advance_of_leg_redirected
    {files : LinkedFiles B}
    {here link target : Location}
    {path rest : List String}
    (h : leg files.linkAt here path = .redirected link target rest) :
    files.advance here path = .redirected target rest := by
  induction path generalizing here with
  | nil => cases h
  | cons name path ih =>
      rw [leg] at h
      rw [advance]
      cases hlink : files.linkAt (here ++ [name]) with
      | some found =>
          rw [hlink] at h
          cases h
          rw [linkAt_eq_some.mp hlink]
      | none =>
          rw [hlink] at h
          obtain ⟨htarget, front, hfront, hlocation, hpath⟩ := leg_redirected h
          have hdirectory : files.directoryAt (here ++ [name]) = true := by
            apply files.directoryAt_of_prefix _ front hfront
            rw [← hlocation, linkAt_eq_some.mp htarget]
            rfl
          rw [(directoryAt_iff _ _).mp hdirectory]
          exact ih h

/-- A path that resolves leads to the location found. -/
theorem route_of_resolve
    {files : LinkedFiles B}
    {limit : Nat}
    {here location : Location}
    {path : List String}
    (hhere : files.directoryAt here = true)
    (h : files.resolve limit here path = some location) :
    (∃ found, route files.linkAt limit here path = some found ∧
      found.destination = location) ∧
      files.directoryAt location.dropLast = true := by
  induction limit generalizing here path with
  | zero =>
      rw [resolve.eq_def] at h
      cases hadvance : files.advance here path with
      | arrived arrived =>
          rw [hadvance] at h
          cases h
          obtain ⟨hleg, hparent⟩ := leg_of_advance hhere hadvance
          exact ⟨⟨_, route_arrived 0 hleg, rfl⟩, hparent⟩
      | redirected target rest =>
          rw [hadvance] at h
          cases h
      | blocked =>
          rw [hadvance] at h
          cases h
  | succ limit ih =>
      rw [resolve.eq_def] at h
      cases hadvance : files.advance here path with
      | arrived arrived =>
          rw [hadvance] at h
          cases h
          obtain ⟨hleg, hparent⟩ := leg_of_advance hhere hadvance
          exact ⟨⟨_, route_arrived _ hleg, rfl⟩, hparent⟩
      | redirected target rest =>
          rw [hadvance] at h
          obtain ⟨⟨found, hfound, hdestination⟩, hparent⟩ :=
            ih (directoryAt_nil files) h
          obtain ⟨link, hleg⟩ := leg_of_advance_redirected hadvance
          refine ⟨⟨found.through link, ?_, hdestination⟩, hparent⟩
          rw [route_redirected limit hleg, hfound]
          rfl
      | blocked =>
          rw [hadvance] at h
          cases h

/-- A path resolves if its destination exists. -/
theorem resolve_of_route
    {files : LinkedFiles B}
    {limit : Nat}
    {here : Location}
    {path : List String}
    {found : Route}
    (hdestination : (files.entryAt found.destination).isSome = true)
    (h : route files.linkAt limit here path = some found) :
    files.resolve limit here path = some found.destination := by
  induction limit generalizing here path found with
  | zero =>
      cases hleg : leg files.linkAt here path with
      | arrived location =>
          rw [route_arrived 0 hleg] at h
          cases h
          rw [resolve.eq_def, advance_of_leg hdestination hleg]
      | redirected link target rest =>
          rw [route_exhausted hleg] at h
          cases h
  | succ limit ih =>
      cases hleg : leg files.linkAt here path with
      | arrived location =>
          rw [route_arrived _ hleg] at h
          cases h
          rw [resolve.eq_def, advance_of_leg hdestination hleg]
      | redirected link target rest =>
          rw [route_redirected limit hleg, Option.map_eq_some_iff] at h
          obtain ⟨inner, hinner, rfl⟩ := h
          rw [resolve.eq_def, advance_of_leg_redirected hleg]
          have hsome : (files.entryAt inner.destination).isSome = true :=
            hdestination
          have hresolved := ih hsome hinner
          exact hresolved

/-- What a path names is what its route leads to. -/
theorem stat_eq_some
    {files : LinkedFiles B}
    {limit : Nat}
    {path : List String}
    {location : Location}
    {entry : Entry B} :
    files.stat limit path = some (location, entry) ↔
      ∃ found, route files.linkAt limit [] path = some found ∧
        found.destination = location ∧ files.entryAt location = some entry := by
  constructor
  · intro h
    obtain ⟨resolved, hresolved, hentry⟩ := Option.bind_eq_some_iff.mp h
    obtain ⟨named, hnamed, hpair⟩ := Option.map_eq_some_iff.mp hentry
    cases hpair
    obtain ⟨⟨found, hfound, hdestination⟩, -⟩ :=
      route_of_resolve (directoryAt_nil files) hresolved
    exact ⟨found, hfound, hdestination, hnamed⟩
  · rintro ⟨found, hfound, rfl, hentry⟩
    have hsome : (files.entryAt found.destination).isSome = true := by
      rw [hentry]
      rfl
    rw [stat, resolve_of_route hsome hfound, Option.bind_some, hentry]
    rfl

theorem linkAt_nil (files : LinkedFiles B) : files.linkAt [] = none := rfl

/-- What a directory holds under a name, unless it is a link, is what the path
with that name leads to. -/
theorem stat_concat
    {files : LinkedFiles B}
    {limit : Nat}
    {path : List String}
    {name : String}
    {parent : Location}
    {entry : Entry B}
    (hentry : ∀ target, entry ≠ .link target)
    (hparent : files.stat limit path = some (parent, .directory))
    (hchild : files.entryAt (parent ++ [name]) = some entry) :
    files.stat limit (path ++ [name]) = some (parent ++ [name], entry) := by
  obtain ⟨found, hfound, rfl, -⟩ := stat_eq_some.mp hparent
  refine stat_eq_some.mpr
    ⟨⟨found.links, found.destination ++ [name]⟩, ?_, rfl, hchild⟩
  have hleg : leg files.linkAt found.destination [name] =
      .arrived (found.destination ++ [name]) := by
    rw [leg]
    cases hlink : files.linkAt (found.destination ++ [name]) with
    | none => rfl
    | some target =>
        rw [linkAt_eq_some, hchild] at hlink
        exact absurd (Option.some.inj hlink) (hentry target)
  rw [(route_append [name] hfound).2, route_arrived _ hleg]
  simp

/-- Without its last link followed, a path names an entry of the directory
that the rest of the path leads to. -/
theorem lstat_concat
    {files : LinkedFiles B}
    {limit : Nat}
    {path : List String}
    {name : String}
    {location : Location}
    {entry : Entry B}
    (h : files.lstat limit (path ++ [name]) = some (location, entry)) :
    ∃ parent, files.stat limit path = some (parent, .directory) ∧
      location = parent ++ [name] ∧ files.entryAt location = some entry := by
  unfold lstat at h
  rw [List.getLast?_concat, List.dropLast_concat] at h
  obtain ⟨parent, hparent, hchild⟩ := Option.bind_eq_some_iff.mp h
  by_cases hdirectory : files.directoryAt parent = true
  · rw [if_pos hdirectory] at hchild
    obtain ⟨named, hnamed, hpair⟩ := Option.map_eq_some_iff.mp hchild
    cases hpair
    refine ⟨parent, ?_, rfl, hnamed⟩
    rw [stat, hparent, Option.bind_some, (directoryAt_iff _ _).mp hdirectory]
    rfl
  · rw [if_neg hdirectory] at hchild
    cases hchild

/-- What a path names without its last link followed, unless that is a link,
is what it names. -/
theorem stat_of_lstat
    {files : LinkedFiles B}
    {limit : Nat}
    {path : List String}
    {location : Location}
    {entry : Entry B}
    (hentry : ∀ target, entry ≠ .link target)
    (h : files.lstat limit path = some (location, entry)) :
    files.stat limit path = some (location, entry) := by
  induction path using List.reverseRecOn with
  | nil =>
      cases h
      exact stat_eq_some.mpr ⟨⟨[], []⟩, route_arrived _ rfl, rfl, rfl⟩
  | append_singleton path name =>
      obtain ⟨parent, hparent, rfl, hchild⟩ := lstat_concat h
      exact stat_concat hentry hparent hchild

/-! ## Removing entries -/

/-- Whatever the first file system holds, the second holds as well. -/
def Within (less more : LinkedFiles B) : Prop :=
  ∀ location entry, less.entryAt location = some entry →
    more.entryAt location = some entry

theorem Within.refl (files : LinkedFiles B) : files.Within files :=
  fun _ _ h => h

/-- Fewer entries of fewer entries. -/
theorem Within.trans
    {least less more : LinkedFiles B}
    (hleft : least.Within less)
    (hright : less.Within more) :
    least.Within more :=
  fun location entry h => hright location entry (hleft location entry h)

theorem Within.linkAt_none
    {less more : LinkedFiles B}
    (h : less.Within more)
    {location : Location}
    (hlink : more.linkAt location = none) :
    less.linkAt location = none := by
  cases hless : less.linkAt location with
  | none => rfl
  | some target =>
      rw [linkAt_eq_some.mpr (h _ _ (linkAt_eq_some.mp hless))] at hlink
      cases hlink

theorem Within.linkAt_some
    {less more : LinkedFiles B}
    (h : less.Within more)
    {location target : Location}
    (hlink : more.linkAt location = some target)
    (hsome : (less.entryAt location).isSome = true) :
    less.linkAt location = some target := by
  obtain ⟨entry, hentry⟩ := Option.isSome_iff_exists.mp hsome
  have hmore := h _ _ hentry
  rw [linkAt_eq_some.mp hlink] at hmore
  rw [linkAt_eq_some, hentry, hmore]

theorem Within.directoryAt
    {less more : LinkedFiles B}
    (h : less.Within more)
    {location : Location}
    (hdirectory : less.directoryAt location = true) :
    more.directoryAt location = true :=
  (directoryAt_iff _ _).mpr (h _ _ ((directoryAt_iff _ _).mp hdirectory))

/-- A leg whose end still exists was the same before. -/
theorem Within.leg_arrived
    {less more : LinkedFiles B}
    (h : less.Within more)
    {here location : Location}
    {path : List String}
    (hlocation : (less.entryAt location).isSome = true)
    (hleg : leg less.linkAt here path = .arrived location) :
    leg more.linkAt here path = .arrived location := by
  induction path generalizing here with
  | nil => exact hleg
  | cons name rest ih =>
      have hwhole := LinkedFiles.leg_arrived hleg
      rw [leg] at hleg ⊢
      cases hlink : less.linkAt (here ++ [name]) with
      | some target =>
          rw [hlink] at hleg
          cases hleg
      | none =>
          rw [hlink] at hleg
          have hmore : more.linkAt (here ++ [name]) = none := by
            by_cases hrest : rest = []
            · subst hrest
              cases hleg
              obtain ⟨entry, hentry⟩ := Option.isSome_iff_exists.mp hlocation
              rw [linkAt, hentry] at hlink
              rw [linkAt, h _ _ hentry, hlink]
            · have hdirectory : less.directoryAt (here ++ [name]) = true := by
                apply less.directoryAt_of_prefix _ rest hrest
                rw [List.append_assoc, List.singleton_append, ← hwhole]
                exact hlocation
              rw [linkAt, (directoryAt_iff _ _).mp (h.directoryAt hdirectory)]
              rfl
          rw [hmore]
          exact ih hleg

theorem Within.leg_redirected
    {less more : LinkedFiles B}
    (h : less.Within more)
    {here link target : Location}
    {path rest : List String}
    (hleg : leg less.linkAt here path = .redirected link target rest) :
    leg more.linkAt here path = .redirected link target rest := by
  induction path generalizing here with
  | nil => cases hleg
  | cons name path ih =>
      obtain ⟨htarget, front, hfront, hlocation, -⟩ :=
        LinkedFiles.leg_redirected hleg
      rw [leg] at hleg ⊢
      cases hlink : less.linkAt (here ++ [name]) with
      | some found =>
          rw [hlink] at hleg
          cases hleg
          rw [linkAt_eq_some.mpr (h _ _ (linkAt_eq_some.mp hlink))]
      | none =>
          rw [hlink] at hleg
          obtain ⟨-, inner, hinner, hwhole, -⟩ :=
            LinkedFiles.leg_redirected hleg
          have hdirectory : less.directoryAt (here ++ [name]) = true := by
            apply less.directoryAt_of_prefix _ inner hinner
            rw [← hwhole, linkAt_eq_some.mp htarget]
            rfl
          have hmore : more.linkAt (here ++ [name]) = none := by
            rw [linkAt, (directoryAt_iff _ _).mp (h.directoryAt hdirectory)]
            rfl
          rw [hmore]
          exact ih hleg

/-- A route whose destination still exists was the same before. -/
theorem Within.route
    {less more : LinkedFiles B}
    (h : less.Within more)
    {limit : Nat}
    {here : Location}
    {path : List String}
    {found : Route}
    (hdestination : (less.entryAt found.destination).isSome = true)
    (hroute : LinkedFiles.route less.linkAt limit here path = some found) :
    LinkedFiles.route more.linkAt limit here path = some found := by
  induction limit generalizing here path found with
  | zero =>
      cases hleg : leg less.linkAt here path with
      | arrived location =>
          rw [route_arrived 0 hleg] at hroute
          cases hroute
          exact route_arrived 0 (h.leg_arrived hdestination hleg)
      | redirected link target rest =>
          rw [route_exhausted hleg] at hroute
          cases hroute
  | succ limit ih =>
      cases hleg : leg less.linkAt here path with
      | arrived location =>
          rw [route_arrived _ hleg] at hroute
          cases hroute
          exact route_arrived _ (h.leg_arrived hdestination hleg)
      | redirected link target rest =>
          rw [route_redirected limit hleg, Option.map_eq_some_iff] at hroute
          obtain ⟨inner, hinner, rfl⟩ := hroute
          have hsome : (less.entryAt inner.destination).isSome = true :=
            hdestination
          rw [route_redirected limit (h.leg_redirected hleg), ih hsome hinner]
          rfl

/-- A leg stays the same while its link does. -/
theorem Within.leg_kept
    {less more : LinkedFiles B}
    (h : less.Within more)
    {here : Location}
    {path : List String}
    (hkept : ∀ link target rest,
      leg more.linkAt here path = .redirected link target rest →
        (less.entryAt link).isSome = true) :
    leg less.linkAt here path = leg more.linkAt here path := by
  induction path generalizing here with
  | nil => rfl
  | cons name rest ih =>
      rw [leg] at hkept ⊢
      rw [leg]
      cases hlink : more.linkAt (here ++ [name]) with
      | none =>
          rw [hlink] at hkept
          rw [h.linkAt_none hlink]
          exact ih hkept
      | some target =>
          rw [hlink] at hkept
          rw [h.linkAt_some hlink (hkept _ _ _ rfl)]

/-- A route stays the same while its links do. -/
theorem Within.route_kept
    {less more : LinkedFiles B}
    (h : less.Within more)
    {limit : Nat}
    {here : Location}
    {path : List String}
    {found : Route}
    (hkept : ∀ link ∈ found.links, (less.entryAt link).isSome = true)
    (hroute : LinkedFiles.route more.linkAt limit here path = some found) :
    LinkedFiles.route less.linkAt limit here path = some found := by
  induction limit generalizing here path found with
  | zero =>
      cases hleg : leg more.linkAt here path with
      | arrived location =>
          rw [route_arrived 0 hleg] at hroute
          cases hroute
          refine route_arrived 0 ?_
          rw [h.leg_kept, hleg]
          intro link target rest hredirected
          rw [hleg] at hredirected
          cases hredirected
      | redirected link target rest =>
          rw [route_exhausted hleg] at hroute
          cases hroute
  | succ limit ih =>
      cases hleg : leg more.linkAt here path with
      | arrived location =>
          rw [route_arrived _ hleg] at hroute
          cases hroute
          refine route_arrived _ ?_
          rw [h.leg_kept, hleg]
          intro link target rest hredirected
          rw [hleg] at hredirected
          cases hredirected
      | redirected link target rest =>
          rw [route_redirected limit hleg, Option.map_eq_some_iff] at hroute
          obtain ⟨inner, hinner, rfl⟩ := hroute
          have hsame : leg less.linkAt here path =
              .redirected link target rest := by
            rw [h.leg_kept, hleg]
            intro other found rest' hredirected
            rw [hleg] at hredirected
            cases hredirected
            exact hkept link (List.mem_cons_self ..)
          rw [route_redirected limit hsame, ih (fun other hother =>
            hkept other (List.mem_cons_of_mem _ hother)) hinner]
          rfl

/-- Nothing lies below what is no directory. -/
theorem entryAt_below
    (files : LinkedFiles B)
    {location inner : Location}
    (h : files.directoryAt location = false)
    (hinner : inner ≠ []) :
    files.entryAt (location ++ inner) = none := by
  cases hentry : files.entryAt (location ++ inner) with
  | none => rfl
  | some entry =>
      have hdirectory := files.directoryAt_of_prefix location inner hinner
        (by rw [hentry]; rfl)
      rw [h] at hdirectory
      cases hdirectory

theorem Within.leafAt_none
    {less more : LinkedFiles B}
    (h : less.Within more)
    {location : Location}
    (hleaf : more.leafAt location = none) :
    less.leafAt location = none := by
  cases hless : less.leafAt location with
  | none => rfl
  | some entry =>
      obtain ⟨hentry, hkind⟩ := leafAt_eq_some.mp hless
      rw [leafAt_eq_some.mpr ⟨h _ _ hentry, hkind⟩] at hleaf
      cases hleaf

theorem Changed.within
    {before after : LinkedFiles B}
    {location : Location}
    (h : Changed before location none after) :
    after.Within before := by
  intro other entry hentry
  rw [h] at hentry
  split at hentry
  · cases hentry
  · exact hentry

/-- What a path still names, it named before. -/
theorem Within.stat
    {less more : LinkedFiles B}
    (h : less.Within more)
    {limit : Nat}
    {path : List String}
    {location : Location}
    {entry : Entry B}
    (hstat : less.stat limit path = some (location, entry)) :
    more.stat limit path = some (location, entry) := by
  obtain ⟨found, hfound, rfl, hentry⟩ := stat_eq_some.mp hstat
  have hsome : (less.entryAt found.destination).isSome = true := by
    rw [hentry]
    rfl
  exact stat_eq_some.mpr ⟨found, h.route hsome hfound, rfl, h _ _ hentry⟩

/-- Where a path leads. -/
def destination
    (limit : Nat)
    (files : LinkedFiles B)
    (path : List String) : Option Location :=
  (route files.linkAt limit [] path).map Route.destination

theorem destination_eq_some
    {limit : Nat}
    {files : LinkedFiles B}
    {path : List String}
    {location : Location} :
    destination limit files path = some location ↔
      ∃ found, route files.linkAt limit [] path = some found ∧
        found.destination = location :=
  Option.map_eq_some_iff

/-- File systems with the same links lead everywhere to the same place. -/
theorem destination_congr
    {files other : LinkedFiles B}
    (h : ∀ location, files.linkAt location = other.linkAt location)
    (limit : Nat) :
    destination limit files = destination limit other := by
  have hlinks : files.linkAt = other.linkAt := funext h
  unfold destination
  rw [hlinks]

/-! ## What the operations do -/

/-- A new directory is no leaf. -/
theorem Changed.leafAt_directory
    {before after : LinkedFiles B}
    {location : Location}
    (h : Changed before location (some .directory) after)
    (hmissing : before.entryAt location = none)
    (other : Location) :
    after.leafAt other = before.leafAt other := by
  by_cases hsame : other = location
  · subst hsame
    rw [leafAt_of_none hmissing, leafAt_of_directory]
    rw [directoryAt_iff, h, if_pos rfl]
  · apply leafAt_congr
    rw [h, if_neg hsame]

theorem Changed.leafAt_file
    {before after : LinkedFiles B}
    {location : Location}
    {content : B}
    (h : Changed before location (some (.file content)) after)
    (other : Location) :
    after.leafAt other =
      if other = location then some (.file content)
      else before.leafAt other := by
  by_cases hsame : other = location
  · rw [if_pos hsame]
    apply LinkedFiles.leafAt_file
    rw [h, if_pos hsame]
  · rw [if_neg hsame]
    apply leafAt_congr
    rw [h, if_neg hsame]

theorem writeFile_eq_some
    {limit : Nat}
    {path : List String}
    {content : B}
    {files after : LinkedFiles B}
    (h : writeFile limit path content files = some after) :
    ∃ found, route files.linkAt limit [] path = some found ∧
      files.directoryAt found.destination = false ∧
      Changed files found.destination (some (.file content)) after := by
  unfold writeFile at h
  split at h
  · cases h
  · rename_i location hresolve
    obtain ⟨⟨found, hfound, rfl⟩, -⟩ :=
      route_of_resolve (directoryAt_nil files) hresolve
    split at h
    · split at h
      · rename_i hkind
        cases h
        exact ⟨found, hfound, hkind, changed_place files _ _ _⟩
      · cases h
    · cases h

theorem makeDirectory_eq_some
    {limit : Nat}
    {path : List String}
    {files after : LinkedFiles B}
    (h : makeDirectory limit path files = some after) :
    ∃ location, files.entryAt location = none ∧
      Changed files location (some .directory) after := by
  unfold makeDirectory at h
  split at h
  · cases h
  · rename_i location hparent
    split at h
    · split at h
      · cases h
      · rename_i hmissing
        split at h
        · cases h
          refine ⟨location, ?_, changed_place files _ _ _⟩
          simpa using hmissing
        · cases h
    · cases h

theorem readDirectory_eq_some
    {limit : Nat}
    {path : List String}
    {files : LinkedFiles B}
    {names : List (String × Bool)}
    (h : readDirectory limit path files = some names) :
    ∃ location, files.stat limit path = some (location, .directory) ∧
      names = (files.children location).map (fun name =>
        (name, files.directoryAt (location ++ [name]))) := by
  unfold readDirectory at h
  split at h
  · rename_i location hstat
    cases h
    exact ⟨location, hstat, rfl⟩
  · cases h

theorem removeFile_eq_some
    {limit : Nat}
    {path : List String}
    {files after : LinkedFiles B}
    (h : removeFile limit path files = some after) :
    ∃ location entry, files.lstat limit path = some (location, entry) ∧
      files.directoryAt location = false ∧
      Changed files location none after := by
  unfold removeFile at h
  split at h
  · cases h
  · rename_i location entry hlstat
    split at h
    · rename_i hkind
      cases h
      exact ⟨location, entry, hlstat, hkind, changed_erase files _ _⟩
    · cases h

theorem removeDirectory_eq_some
    {limit : Nat}
    {path : List String}
    {files after : LinkedFiles B}
    (h : removeDirectory limit path files = some after) :
    ∃ location, files.lstat limit path = some (location, .directory) ∧
      files.children location = [] ∧ Changed files location none after := by
  unfold removeDirectory at h
  split at h
  · rename_i location hlstat
    split at h
    · rename_i hempty
      cases h
      exact ⟨location, hlstat, hempty.2, changed_erase files _ _⟩
    · cases h
  · cases h

end LinkedFiles

end Dsql
