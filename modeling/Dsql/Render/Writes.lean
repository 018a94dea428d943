import Dsql.Render.Reconcile
import Dsql.Logic.Fallible
import Dsql.Logic.LinkedRoutes

/-!
# What the writes leave behind

Writing creates no link and removes none, so every path leads throughout
where it leads at the start.  What a place holds afterwards is decided by the
desired files whose paths lead there, in their order.
-/

namespace Dsql
namespace Render

open LinkedFiles

variable {limit : Nat} {decode : ByteArray → String}

/-- What a desired text leaves at a place: bytes that read as the text stay. -/
def written
    (decode : ByteArray → String)
    (current : Option (Entry ByteArray))
    (contents : String) : ByteArray :=
  match current with
  | some (.file bytes) =>
      if decode bytes = contents then bytes else contents.toUTF8
  | _ => contents.toUTF8

/-- What the desired files leave at a place. -/
def landed
    (decode : ByteArray → String)
    (destination : Location → Option Location)
    (location : Location) :
    Option (Entry ByteArray) → List (Location × String) →
      Option (Entry ByteArray)
  | current, [] => current
  | current, file :: rest =>
      landed decode destination location
        (if destination file.1 = some location then
          some (.file (written decode current file.2))
        else
          current) rest

theorem change_ok
    {operation : Files → Option Files}
    {files after : Files}
    (h : change operation files = .ok () after) :
    operation files = some after := by
  unfold change at h
  split at h
  · cases h
  · rename_i found hfound
    cases h
    exact hfound

theorem makeDirectories_ok
    {path : Location}
    {files after : Files}
    (h : makeDirectories limit path files = .ok () after)
    (location : Location) :
    after.leafAt location = files.leafAt location := by
  refine estate_forM_ok
    (fun before after : Files => after.leafAt location = before.leafAt location)
    (fun _ => rfl) ?_ path.inits ?_ h
  · intro first second third hfirst hsecond
    exact hsecond.trans hfirst
  intro front hfront state after hstep
  obtain ⟨found, between, hget, hstep⟩ := estate_bind_ok hstep
  cases hget
  match hstat : state.stat limit front with
  | some (place, .directory) =>
      rw [hstat] at hstep
      cases hstep
      rfl
  | some (place, .file bytes) =>
      rw [hstat] at hstep
      cases hstep
  | some (place, .link target) =>
      rw [hstat] at hstep
      cases hstep
  | none =>
      rw [hstat] at hstep
      obtain ⟨place, hmissing, hchanged⟩ :=
        makeDirectory_eq_some (change_ok hstep)
      exact hchanged.leafAt_directory hmissing location

theorem linkAt_of_leafAt
    {files after : Files}
    (h : ∀ location, after.leafAt location = files.leafAt location) :
    after.linkAt = files.linkAt := by
  funext location
  rw [linkAt_eq_leafAt, linkAt_eq_leafAt, h]

/-- The second half of a write: directories, then the file. -/
theorem replaceFile_ok
    {path : Location}
    {contents : String}
    {files after : Files}
    (h : (makeDirectories limit path.dropLast >>= fun _ =>
      change (writeFile limit path contents.toUTF8)) files = .ok () after) :
    ∃ found, route files.linkAt limit [] path = some found ∧
      ∀ location, after.leafAt location =
        if location = found.destination then
          some (.file contents.toUTF8)
        else
          files.leafAt location := by
  obtain ⟨⟨⟩, between, hdirectories, hwrite⟩ := estate_bind_ok h
  have hleaf := makeDirectories_ok hdirectories
  obtain ⟨found, hfound, -, hchanged⟩ :=
    writeFile_eq_some (change_ok hwrite)
  rw [linkAt_of_leafAt hleaf] at hfound
  refine ⟨found, hfound, fun location => ?_⟩
  rw [hchanged.leafAt_file, hleaf]

/-- A desired file changes the place its path leads to, and no other. -/
theorem writeFileIfChanged_ok
    {path : Location}
    {contents : String}
    {files after : Files}
    (h : writeFileIfChanged limit decode path contents files =
      .ok () after) :
    ∃ found, route files.linkAt limit [] path = some found ∧
      ∀ location, after.leafAt location =
        if location = found.destination then
          some (.file (written decode (files.leafAt found.destination)
            contents))
        else
          files.leafAt location := by
  obtain ⟨start, same, hget, hrun⟩ := estate_bind_ok h
  cases hget
  obtain ⟨current, between, hcurrent, hreplace⟩ := estate_bind_ok hrun
  cases current with
  | true =>
      cases hreplace
      match hstat : files.stat limit path with
      | none =>
          rw [hstat] at hcurrent
          cases hcurrent
      | some (place, .directory) =>
          rw [hstat] at hcurrent
          cases hcurrent
      | some (place, .link target) =>
          rw [hstat] at hcurrent
          cases hcurrent
      | some (place, .file bytes) =>
          rw [hstat] at hcurrent
          obtain ⟨found, hfound, rfl, hentry⟩ := stat_eq_some.mp hstat
          change EStateM.Result.ok (decode bytes == contents) files =
            .ok true after at hcurrent
          injection hcurrent with hsame hstate
          subst hstate
          refine ⟨found, hfound, fun location => ?_⟩
          by_cases hlocation : location = found.destination
          · rw [if_pos hlocation, hlocation, leafAt_file hentry, written,
              if_pos (eq_of_beq hsame)]
          · rw [if_neg hlocation]
  | false =>
      have hstate : between = files := by
        match hstat : files.stat limit path with
        | none =>
            rw [hstat] at hcurrent
            cases hcurrent
            rfl
        | some (place, .directory) =>
            rw [hstat] at hcurrent
            cases hcurrent
        | some (place, .link target) =>
            rw [hstat] at hcurrent
            cases hcurrent
        | some (place, .file bytes) =>
            rw [hstat] at hcurrent
            injection hcurrent with hsame hstate
            exact hstate.symm
      subst hstate
      obtain ⟨found, hfound, hleaf⟩ := replaceFile_ok hreplace
      refine ⟨found, hfound, fun location => ?_⟩
      rw [hleaf]
      by_cases hlocation : location = found.destination
      · rw [if_pos hlocation, if_pos hlocation]
        match hentry : between.leafAt found.destination with
        | none => rfl
        | some .directory => rfl
        | some (.link target) => rfl
        | some (.file bytes) =>
            have hstat := stat_eq_some.mpr
              ⟨found, hfound, rfl, (leafAt_eq_some.mp hentry).1⟩
            rw [hstat] at hcurrent
            change EStateM.Result.ok (decode bytes == contents) between =
              .ok false between at hcurrent
            injection hcurrent with hdifferent hstate
            rw [written, if_neg (by simpa using hdifferent)]
      · rw [if_neg hlocation, if_neg hlocation]

/-- The links stay as they are while a place that is none gets a file. -/
theorem linkAt_of_file
    {files after : Files}
    {place : Location}
    {bytes : ByteArray}
    (hplace : files.linkAt place = none)
    (h : ∀ location, after.leafAt location =
      if location = place then some (.file bytes)
      else files.leafAt location) :
    after.linkAt = files.linkAt := by
  funext location
  rw [linkAt_eq_leafAt, h]
  by_cases hlocation : location = place
  · rw [if_pos hlocation, hlocation, hplace]
    rfl
  · rw [if_neg hlocation, linkAt_eq_leafAt]

/-- After all writes every place holds what the desired files left there. -/
theorem writes_ok
    {desired : List (Location × String)}
    {files after : Files}
    (h : desired.forM (fun file =>
      writeFileIfChanged limit decode file.1 file.2) files = .ok () after) :
    after.linkAt = files.linkAt ∧
      (∀ file ∈ desired,
        (destination limit files file.1).isSome = true) ∧
      ∀ location, after.leafAt location =
        landed decode (destination limit files) location
          (files.leafAt location) desired := by
  induction desired generalizing files with
  | nil =>
      rw [estate_forM_nil_ok h]
      refine ⟨rfl, ?_, fun _ => rfl⟩
      intro file hfile
      cases hfile
  | cons file rest ih =>
      obtain ⟨between, hfirst, hrest⟩ := estate_forM_cons_ok h
      obtain ⟨found, hfound, hleaf⟩ := writeFileIfChanged_ok hfirst
      have hplace : files.linkAt found.destination = none :=
        route_destination (linkAt_nil files) (linkAt_nil files) hfound
      have hlinks : between.linkAt = files.linkAt :=
        linkAt_of_file hplace hleaf
      have hsame : destination limit between = destination limit files :=
        destination_congr (congrFun hlinks) limit
      have hleads : destination limit files file.1 =
          some found.destination :=
        destination_eq_some.mpr ⟨found, hfound, rfl⟩
      obtain ⟨hafter, hsome, hlanded⟩ := ih hrest
      rw [hsame] at hsome hlanded
      refine ⟨hafter.trans hlinks, ?_, fun location => ?_⟩
      · intro other hother
        rcases List.mem_cons.mp hother with rfl | hmem
        · rw [hleads]
          rfl
        · exact hsome other hmem
      · rw [hlanded, landed, hleads, hleaf]
        by_cases hlocation : location = found.destination
        · rw [if_pos hlocation, if_pos (by rw [hlocation]), hlocation]
        · rw [if_neg hlocation,
            if_neg (fun h => hlocation (Option.some.inj h).symm)]

end Render
end Dsql
