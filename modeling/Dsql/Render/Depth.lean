import Dsql.Render.Phases

/-!
# The walk ends

The walk of a root goes one directory deeper with every name, and no entry
lies deeper than the height of the tree, so the bound on its depth is never
reached.
-/

namespace Dsql
namespace Render

open LinkedFiles

variable {limit : Nat} {decode : ByteArray → String}

theorem change_ne_tooDeep
    {operation : Files → Option Files}
    {files after : Files} :
    change operation files ≠ .error .tooDeep after := by
  intro h
  unfold change at h
  split at h <;> cases h

theorem listDirectory_ne_tooDeep
    {path : Location}
    {files after : Files} :
    listDirectory limit path files ≠ .error .tooDeep after := by
  intro h
  rcases estate_bind_error h with hget | ⟨found, between, hget, hread⟩
  · cases hget
  · cases hget
    cases hnames : readDirectory limit path files with
    | none =>
        rw [hnames] at hread
        cases hread
    | some names =>
        rw [hnames] at hread
        cases hread

/-- Below the place a path leads to, no entry lies deeper than a bound. -/
def Reaches
    (limit : Nat)
    (files : Files)
    (path : Location)
    (depth : Nat) : Prop :=
  ∀ place, files.stat limit path = some (place, .directory) →
    ∀ location entry, files.entryAt location = some entry →
      location.length < place.length + depth

/-- A directory that is entered lies one name deeper. -/
theorem Reaches.enter
    {files state : Files}
    {directory place : Location}
    {name : String}
    {depth : Nat}
    (h : Reaches limit files directory (depth + 1))
    (hwithin : state.Within files)
    (hplace : files.stat limit directory = some (place, .directory))
    (hname : files.directoryAt (place ++ [name]) = true) :
    Reaches limit state (directory ++ [name]) depth ∧ 0 < depth := by
  have hentry := (directoryAt_iff _ _).mp hname
  refine ⟨?_, ?_⟩
  · intro inner hinner location entry hlocation
    have hkind : ∀ target, (Entry.directory : Entry ByteArray) ≠ .link target :=
      nofun
    have hbefore := hwithin.stat hinner
    rw [stat_concat hkind hplace hentry] at hbefore
    cases hbefore
    have hbound := h place hplace location entry (hwithin _ _ hlocation)
    rw [List.length_append, List.length_singleton]
    omega
  · have hbound := h place hplace _ _ hentry
    rw [List.length_append, List.length_singleton] at hbound
    omega

/-- A walk as deep as the tree is never cut off. -/
theorem reconcileOwnedDirectory_ne_tooDeep
    {retainedFiles : List Location}
    {depth : Nat}
    {directory : Location}
    {files after : Files}
    (hdepth : 0 < depth)
    (hreaches : Reaches limit files directory depth) :
    reconcileOwnedDirectory limit retainedFiles depth directory files ≠
      .error .tooDeep after := by
  induction depth generalizing directory files after with
  | zero => exact absurd hdepth (Nat.lt_irrefl 0)
  | succ depth ih =>
      intro h
      rw [reconcileOwnedDirectory] at h
      rcases estate_bind_error h with hget | ⟨start, same, hget, hrun⟩
      · cases hget
      cases hget
      split at hrun
      · cases hrun
      cases hlstat : files.lstat limit directory with
      | none =>
          rw [hlstat] at hrun
          cases hrun
      | some named =>
          obtain ⟨place, entry⟩ := named
          rw [hlstat] at hrun
          cases entry with
          | file bytes => cases hrun
          | link target => cases hrun
          | directory =>
            rcases estate_bind_error hrun with hlist | ⟨entries, between, hlist, hforM⟩
            · exact listDirectory_ne_tooDeep hlist
            obtain ⟨hsame, found, hstat, rfl⟩ := listDirectory_ok hlist
            subst between
            obtain ⟨front, entry, rest, state, hsplit, hfront, hentry⟩ :=
              estate_forM_error hforM
            obtain ⟨names, others, hnames, rfl, hothers⟩ :=
              List.map_eq_append_iff.mp hsplit
            obtain ⟨name, tail, rfl, rfl, rfl⟩ := List.map_eq_cons_iff.mp hothers
            -- The names before this one have been swept.
            have hnodup := files.children_nodup found
            rw [hnames] at hnodup
            obtain ⟨all, -, hswept⟩ := sweepEntries_ok
              (fun directory before after =>
                reconcileOwnedDirectory_ok _ _ directory before after)
              hstat [] names (List.nodup_append.mp hnodup).1
              (.start retainedFiles directory found files) hfront
            dsimp only at hentry
            split at hentry
            · rename_i hkind
              obtain ⟨hinner, hpositive⟩ :=
                hreaches.enter hswept.within hstat hkind
              rcases estate_bind_error hentry with hwalk | ⟨⟨⟩, last, -, hentry⟩
              · exact ih hpositive hinner hwalk
              rcases estate_bind_error hentry with hlist | ⟨left, same, -, hentry⟩
              · exact listDirectory_ne_tooDeep hlist
              split at hentry
              · exact change_ne_tooDeep hentry
              · cases hentry
            · split at hentry
              · cases hentry
              · exact change_ne_tooDeep hentry

theorem length_le_height
    {files : Files}
    {location : Location}
    {entry : Entry ByteArray}
    (h : files.entryAt location = some entry) :
    location.length ≤ height files := by
  have hmax : ∀ lengths : List Nat, ∀ length ∈ lengths,
      length ≤ lengths.foldr max 0 := by
    intro lengths length hlength
    induction lengths with
    | nil => cases hlength
    | cons first rest ih =>
        rw [List.foldr_cons]
        rcases List.mem_cons.mp hlength with rfl | hrest
        · exact Nat.le_max_left _ _
        · exact Nat.le_trans (ih hrest) (Nat.le_max_right _ _)
  by_cases hempty : location = []
  · rw [hempty]
    exact Nat.zero_le _
  · have hpath : location ∈ files.store.paths := by
      rw [FileStore.mem_paths_iff, ← entryIn_of_ne_nil _ hempty]
      unfold entryAt at h
      rw [h]
      rfl
    exact hmax _ _ (List.mem_map_of_mem hpath)

theorem makeDirectories_ne_tooDeep
    {path : Location}
    {files after : Files} :
    makeDirectories limit path files ≠ .error .tooDeep after := by
  intro h
  obtain ⟨_, front, _, state, -, -, hstep⟩ := estate_forM_error h
  rcases estate_bind_error hstep with hget | ⟨start, same, hget, hrun⟩
  · cases hget
  cases hget
  cases hstat : state.stat limit front with
  | none =>
      rw [hstat] at hrun
      exact change_ne_tooDeep hrun
  | some found =>
      obtain ⟨place, entry⟩ := found
      rw [hstat] at hrun
      cases entry <;> cases hrun

theorem writeFileIfChanged_ne_tooDeep
    {path : Location}
    {contents : String}
    {files after : Files} :
    writeFileIfChanged limit decode path contents files ≠
      .error .tooDeep after := by
  intro h
  rcases estate_bind_error h with hget | ⟨start, same, hget, hrun⟩
  · cases hget
  cases hget
  rcases estate_bind_error hrun with hcurrent | ⟨current, between, -, hrun⟩
  · cases hstat : files.stat limit path with
    | none =>
        rw [hstat] at hcurrent
        cases hcurrent
    | some found =>
        obtain ⟨place, entry⟩ := found
        rw [hstat] at hcurrent
        cases entry <;> cases hcurrent
  · split at hrun
    · cases hrun
    · rcases estate_bind_error hrun with hmake | ⟨⟨⟩, last, -, hwrite⟩
      · exact makeDirectories_ne_tooDeep hmake
      · exact change_ne_tooDeep hwrite

/-- Only the paths themselves are refused before the run. -/
theorem validated_error
    {options : Options}
    {failure : Failure}
    (h : validated options = .error failure) :
    failure.isInvalidPath = true := by
  have hassert : ∀ role path,
      assertProjectRelativePath role path = .error failure →
        failure.isInvalidPath = true := by
    intro role path hpath
    unfold assertProjectRelativePath at hpath
    dsimp only at hpath
    split at hpath
    · cases hpath
      rfl
    · cases hpath
  rcases except_bind_error h with hroots | ⟨ownedRoots, -, h⟩
  · unfold validatedRoots at hroots
    cases hnames : options.ownedRoots.mapM (fun root =>
        assertProjectRelativePath "owned root" root.toList) with
    | error found =>
        rw [hnames] at hroots
        cases hroots
        obtain ⟨root, -, hroot⟩ := mapM_error _ hnames
        exact hassert _ _ hroot
    | ok names =>
        rw [hnames] at hroots
        cases hroots
  · rcases except_bind_error h with hfiles | ⟨files, -, h⟩
    · obtain ⟨file, -, hfile⟩ := mapM_error _ hfiles
      rcases except_bind_error hfile with hpath | ⟨path, -, hfile⟩
      · exact hassert _ _ hpath
      · split at hfile
        · cases hfile
        · cases hfile
          rfl
    · cases h

/-- A run ends by itself: no walk is cut off at its bound. -/
theorem reconcileDsqlOutputs_ne_tooDeep
    {options : Options}
    {files after : Files} :
    reconcileDsqlOutputs limit decode options files ≠
      .error .tooDeep after := by
  intro h
  rcases estate_bind_error h with hchecked | ⟨desired, same, -, hrun⟩
  · cases hvalidated : validated options with
    | error failure =>
        rw [hvalidated] at hchecked
        cases hchecked
        have hpath := validated_error hvalidated
        cases hpath
    | ok desired =>
        rw [hvalidated] at hchecked
        cases hchecked
  · rcases estate_bind_error hrun with hwrites | ⟨⟨⟩, middle, -, hwalks⟩
    · obtain ⟨_, file, _, state, -, -, hfile⟩ := estate_forM_error hwrites
      exact writeFileIfChanged_ne_tooDeep hfile
    · obtain ⟨_, root, _, state, -, -, hroot⟩ := estate_forM_error hwalks
      rcases estate_bind_error hroot with hget | ⟨start, same, hget, hwalk⟩
      · cases hget
      · cases hget
        refine reconcileOwnedDirectory_ne_tooDeep (Nat.succ_pos _) ?_ hwalk
        intro place _ location entry hentry
        have hheight := length_le_height hentry
        omega

end Render
end Dsql
