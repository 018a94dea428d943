import Dsql.Render.Sweeps

/-!
# The phases of a run

A run checks all paths, writes the desired files and then walks the owned
roots.  A place holds afterwards what the desired files left there, and a root
is walked if no earlier walk took a link on its path.
-/

namespace Dsql
namespace Render

open LinkedFiles

variable {limit : Nat} {decode : ByteArray → String}

/-! ## Validated paths -/

theorem mem_setEntry
    {K V : Type}
    [DecidableEq K]
    {key : K}
    {value : V}
    {entries : List (K × V)}
    {entry : K × V}
    (h : entry ∈ setEntry key value entries) :
    entry = (key, value) ∨ entry ∈ entries := by
  induction entries with
  | nil => exact .inl (List.mem_singleton.mp h)
  | cons first rest ih =>
      unfold setEntry at h
      split at h
      · rcases List.mem_cons.mp h with rfl | hmem
        · exact .inl rfl
        · exact .inr (List.mem_cons_of_mem _ hmem)
      · rcases List.mem_cons.mp h with rfl | hmem
        · exact .inr (List.mem_cons_self ..)
        · exact (ih hmem).imp_right (List.mem_cons_of_mem _)

theorem mem_mapOf
    {K V : Type}
    [DecidableEq K]
    {entries : List (K × V)}
    {entry : K × V}
    (h : entry ∈ mapOf entries) :
    entry ∈ entries := by
  have hfold : ∀ map : List (K × V),
      entry ∈ entries.foldl (fun map entry => setEntry entry.1 entry.2 map)
        map → entry ∈ map ∨ entry ∈ entries := by
    clear h
    induction entries with
    | nil => exact fun map hmap => .inl hmap
    | cons first rest ih =>
        intro map hmap
        rcases ih _ hmap with hset | hrest
        · rcases mem_setEntry hset with rfl | hmem
          · exact .inr (List.mem_cons_self ..)
          · exact .inl hmem
        · exact .inr (List.mem_cons_of_mem _ hrest)
  exact (hfold [] h).resolve_left List.not_mem_nil

/-- Every desired file is below an owned root. -/
theorem validated_under
    {options : Options}
    {desired : Desired}
    (h : validated options = .ok desired) :
    ∀ file ∈ desired.files, ∃ root ∈ desired.roots, root <+: file.1 := by
  obtain ⟨ownedRoots, hroots, h⟩ := except_bind_ok h
  obtain ⟨files, hfiles, h⟩ := except_bind_ok h
  cases h
  intro file hfile
  obtain ⟨source, -, hsource⟩ :=
    (mapM_ok_mem _ hfiles file).mp (mem_mapOf hfile)
  obtain ⟨path, hpath, hsource⟩ := except_bind_ok hsource
  split at hsource
  · rename_i hunder
    cases hsource
    obtain ⟨root, hroot, hprefix⟩ :=
      segments_of_isUnderAny (assertProjectRelativePath_ok hpath) hunder
    exact ⟨resolvePath options.projectBase root,
      List.mem_map_of_mem hroot, List.prefix_append_right_inj _ |>.mpr hprefix⟩
  · cases hsource

/-- A refused path leaves the file system as it is. -/
theorem reconcile_of_invalid
    {options : Options}
    {failure : Failure}
    (h : validated options = .error failure)
    (files : Files) :
    reconcileDsqlOutputs limit decode options files = .error failure files := by
  unfold reconcileDsqlOutputs
  rw [h]
  rfl

theorem reconcile_phases
    {options : Options}
    {before after : Files}
    (h : reconcileDsqlOutputs limit decode options before = .ok () after) :
    ∃ desired written, validated options = .ok desired ∧
      desired.files.forM (fun file =>
        writeFileIfChanged limit decode file.1 file.2) before =
          .ok () written ∧
      desired.roots.forM (reconcileRoot limit (desired.files.map Prod.fst))
        written = .ok () after := by
  obtain ⟨desired, same, hdesired, h⟩ := estate_bind_ok h
  cases hvalid : validated options with
  | error failure =>
      rw [hvalid] at hdesired
      cases hdesired
  | ok found =>
      rw [hvalid] at hdesired
      cases hdesired
      obtain ⟨⟨⟩, written, hwrites, hsweeps⟩ := estate_bind_ok h
      exact ⟨desired, written, rfl, hwrites, hsweeps⟩

/-! ## What the writes leave at one place -/

section Landed

variable
  {leadsTo : Location → Option Location}
  {location : Location}
  {contents : String}

theorem landed_elsewhere
    {current : Option (Entry ByteArray)}
    {files : List (Location × String)}
    (h : ∀ file ∈ files, leadsTo file.1 ≠ some location) :
    landed decode leadsTo location current files = current := by
  induction files with
  | nil => rfl
  | cons file rest ih =>
      rw [landed, if_neg (h file (List.mem_cons_self ..))]
      exact ih (fun other hother => h other (List.mem_cons_of_mem _ hother))

/-- Bytes that every desired text takes for itself stay. -/
theorem landed_taken
    {bytes : ByteArray}
    {files : List (Location × String)}
    (hbytes : decode bytes = contents)
    (h : ∀ file ∈ files, leadsTo file.1 = some location →
      file.2 = contents) :
    landed decode leadsTo location (some (.file bytes)) files =
      some (.file bytes) := by
  induction files with
  | nil => rfl
  | cons file rest ih =>
      have hrest := ih (fun other hother =>
        h other (List.mem_cons_of_mem _ hother))
      rw [landed]
      by_cases hfile : leadsTo file.1 = some location
      · rw [if_pos hfile, h file (List.mem_cons_self ..) hfile, written,
          if_pos hbytes]
        exact hrest
      · rw [if_neg hfile]
        exact hrest

theorem written_eq
    {current : Option (Entry ByteArray)}
    (h : ∀ bytes, current = some (.file bytes) → decode bytes = contents →
      bytes = contents.toUTF8) :
    written decode current contents = contents.toUTF8 := by
  unfold written
  split
  · rename_i bytes
    split
    · rename_i hbytes
      exact h bytes rfl hbytes
    · rfl
  · rfl

/-- A place that one text belongs to holds that text. -/
theorem landed_settled
    {current : Option (Entry ByteArray)}
    {files : List (Location × String)}
    (hcurrent : ∀ bytes, current = some (.file bytes) →
      decode bytes = contents → bytes = contents.toUTF8)
    (h : ∀ file ∈ files, leadsTo file.1 = some location →
      file.2 = contents)
    (hsome : current = some (.file contents.toUTF8) ∨
      ∃ file ∈ files, leadsTo file.1 = some location) :
    landed decode leadsTo location current files =
      some (.file contents.toUTF8) := by
  induction files generalizing current with
  | nil =>
      rcases hsome with hcurrent | ⟨file, hfile, -⟩
      · exact hcurrent
      · cases hfile
  | cons file rest ih =>
      have hrest : ∀ other ∈ rest, leadsTo other.1 = some location →
          other.2 = contents :=
        fun other hother => h other (List.mem_cons_of_mem _ hother)
      rw [landed]
      by_cases hfile : leadsTo file.1 = some location
      · rw [if_pos hfile, h file (List.mem_cons_self ..) hfile,
          written_eq hcurrent]
        refine ih ?_ hrest (.inl rfl)
        intro bytes hbytes _
        injection hbytes with hbytes
        injection hbytes with hbytes
        exact hbytes.symm
      · rw [if_neg hfile]
        refine ih hcurrent hrest ?_
        rcases hsome with hcurrent | ⟨other, hother, hleads⟩
        · exact .inl hcurrent
        · rcases List.mem_cons.mp hother with rfl | hmem
          · exact absurd hleads hfile
          · exact .inr ⟨other, hmem, hleads⟩

/-- A place that a desired file leads to holds a file. -/
theorem landed_file
    {current : Option (Entry ByteArray)}
    {files : List (Location × String)}
    (hsome : (∃ bytes, current = some (.file bytes)) ∨
      ∃ file ∈ files, leadsTo file.1 = some location) :
    ∃ bytes, landed decode leadsTo location current files =
      some (.file bytes) := by
  induction files generalizing current with
  | nil =>
      rcases hsome with hcurrent | ⟨file, hfile, -⟩
      · exact hcurrent
      · cases hfile
  | cons file rest ih =>
      rw [landed]
      by_cases hfile : leadsTo file.1 = some location
      · rw [if_pos hfile]
        exact ih (.inl ⟨_, rfl⟩)
      · rw [if_neg hfile]
        refine ih ?_
        rcases hsome with hcurrent | ⟨other, hother, hleads⟩
        · exact .inl hcurrent
        · rcases List.mem_cons.mp hother with rfl | hmem
          · exact absurd hleads hfile
          · exact .inr ⟨other, hmem, hleads⟩

end Landed

/-! ## Which roots are walked -/

theorem retained_of_subset
    {files : Files}
    {retainedFiles fewer more : List Location}
    (hsubset : ∀ root ∈ fewer, root ∈ more)
    {location : Location}
    (h : retained limit files retainedFiles more location = true) :
    retained limit files retainedFiles fewer location = true :=
  List.all_eq_true.mpr (fun root hroot =>
    List.all_eq_true.mp h root (hsubset root hroot))

theorem leads_of_subset
    {files : Files}
    {retainedFiles fewer more : List Location}
    (hsubset : ∀ root ∈ fewer, root ∈ more)
    {path : Location}
    (h : leads limit files retainedFiles more path = true) :
    leads limit files retainedFiles fewer path = true := by
  unfold leads at h ⊢
  split at h
  · cases h
  · exact List.all_eq_true.mpr (fun link hlink =>
      retained_of_subset hsubset (List.all_eq_true.mp h link hlink))

theorem walked_subset
    (limit : Nat)
    (files : Files)
    (retainedFiles walked roots : List Location) :
    ∀ root ∈ walked,
      root ∈ walkedRoots limit files retainedFiles walked roots := by
  induction roots generalizing walked with
  | nil => exact fun root hroot => hroot
  | cons next rest ih =>
      intro root hroot
      rw [walkedRoots]
      apply ih
      split
      · exact List.mem_append_left _ hroot
      · exact hroot

theorem walkedRoots_subset
    (limit : Nat)
    (files : Files)
    (retainedFiles walked roots : List Location) :
    ∀ root ∈ walkedRoots limit files retainedFiles walked roots,
      root ∈ walked ∨ root ∈ roots := by
  induction roots generalizing walked with
  | nil => exact fun root hroot => .inl hroot
  | cons next rest ih =>
      intro root hroot
      rw [walkedRoots] at hroot
      rcases ih _ root hroot with hwalked | hrest
      · split at hwalked
        · rcases List.mem_append.mp hwalked with hmem | hmem
          · exact .inl hmem
          · rw [List.mem_singleton.mp hmem]
            exact .inr (List.mem_cons_self ..)
        · exact .inl hwalked
      · exact .inr (List.mem_cons_of_mem _ hrest)

/-- A root whose path leads somewhere after all walks has been walked. -/
theorem mem_walkedRoots
    {files : Files}
    {retainedFiles walked roots : List Location}
    {root : Location}
    (hroot : root ∈ roots)
    (h : leads limit files retainedFiles
      (walkedRoots limit files retainedFiles walked roots) root = true) :
    root ∈ walkedRoots limit files retainedFiles walked roots := by
  induction roots generalizing walked with
  | nil => cases hroot
  | cons next rest ih =>
      rw [walkedRoots] at h ⊢
      rcases List.mem_cons.mp hroot with rfl | hrest
      · have hearlier : leads limit files retainedFiles walked root = true := by
          refine leads_of_subset (fun other hother => ?_) h
          apply walked_subset
          split
          · exact List.mem_append_left _ hother
          · exact hother
        rw [if_pos hearlier]
        exact walked_subset _ _ _ _ _ root (by simp)
      · exact ih hrest h

/-- The walks depend on the links alone. -/
theorem retained_congr
    {files other : Files}
    (h : files.linkAt = other.linkAt)
    (retainedFiles : List Location) :
    retained limit files retainedFiles = retained limit other retainedFiles := by
  funext roots location
  unfold retained keeps destination
  rw [h]

theorem leads_congr
    {files other : Files}
    (h : files.linkAt = other.linkAt)
    (retainedFiles : List Location) :
    leads limit files retainedFiles = leads limit other retainedFiles := by
  funext roots path
  unfold leads
  rw [retained_congr h, h]

theorem walkedRoots_congr
    {files other : Files}
    (h : files.linkAt = other.linkAt)
    (retainedFiles walked roots : List Location) :
    walkedRoots limit files retainedFiles walked roots =
      walkedRoots limit other retainedFiles walked roots := by
  induction roots generalizing walked with
  | nil => rfl
  | cons root rest ih =>
      rw [walkedRoots, walkedRoots, leads_congr h]
      exact ih _

end Render
end Dsql
