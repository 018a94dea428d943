import Dsql.Scopes.SpreadPaths
import Mathlib.Tactic

/-!
# Expansion is exact

The rounds end, each acyclic spread path is one occurrence, and a spread is
reported exactly when the fragment it resolves to leads back to it.
-/

namespace Dsql.Scopes

section

variable {program : Program}

/-! ## Each path once -/

theorem length_path_of_mem_round
    {root : Definition}
    {round : Nat}
    {expansion : Expansion}
    (h : expansion ∈ expansionRound program root round) :
    expansion.path.length = round + 1 := by
  obtain ⟨steps, source, spread, target, hlength, -, -, -, rfl⟩ :=
    (mem_expansionRound root round expansion).mp h
  have hpath : (followed root steps spread target).path = pathOf steps ++ [spread.step] := by
    unfold followed
    split <;> rfl
  rw [hpath, List.length_append, pathOf, List.length_map, hlength]
  rfl

theorem map_fst_filterMap_sublist
    {α β : Type}
    {f : α → Option (α × β)}
    (hf : ∀ item pair, f item = some pair → pair.1 = item)
    (items : List α) :
    ((items.filterMap f).map Prod.fst).Sublist items := by
  induction items with
  | nil => exact .slnil
  | cons item items ih =>
      cases hitem : f item with
      | none =>
          rw [List.filterMap_cons_none hitem]
          exact ih.cons item
      | some pair =>
          rw [List.filterMap_cons_some hitem, List.map_cons, hf item pair hitem]
          exact ih.cons_cons item

theorem dependencies_steps_nodup (group : Nat) :
    ((dependencies program group).map (fun dependency => dependency.1.step)).Nodup := by
  have hspreads : ((dependencies program group).map Prod.fst).Sublist program.spreads := by
    refine (map_fst_filterMap_sublist ?_ _).trans List.filter_sublist
    intro spread pair hpair
    split at hpair
    · cases hpair
      rfl
    · cases hpair
    · cases hpair
  have hentities : (((dependencies program group).map Prod.fst).map Spread.entity).Nodup :=
    (hspreads.map Spread.entity).nodup program.spreadsDistinct
  rw [List.map_map] at hentities
  have hmap : (dependencies program group).map (Spread.entity ∘ Prod.fst) =
      ((dependencies program group).map (fun dependency => dependency.1.step)).map
        ExpansionStep.resolution := by
    rw [List.map_map]
    rfl
  rw [hmap] at hentities
  exact List.Nodup.of_map _ hentities

theorem path_seedSpread
    (definition : Definition)
    (dependency : Spread × Nat) :
    (seedSpread definition dependency).path = [dependency.1.step] := by
  unfold seedSpread
  simp only
  split <;> rfl

theorem path_extendSpread
    (occurrence : ExpansionOccurrence)
    (dependency : Spread × Nat) :
    (extendSpread occurrence dependency).path = occurrence.path ++ [dependency.1.step] := by
  unfold extendSpread
  simp only
  split <;> rfl

theorem extend_paths
    (expansion : Expansion) :
    (expansion.extend program).map Expansion.path = [] ∨
      ∃ group, (expansion.extend program).map Expansion.path =
        ((dependencies program group).map (fun dependency => dependency.1.step)).map
          (fun step => expansion.path ++ [step]) := by
  cases expansion with
  | cycle cut => exact .inl rfl
  | occurrence found =>
      refine .inr ⟨found.targetGroup, ?_⟩
      unfold Expansion.extend extendExpansionOccurrences
      rw [List.map_map, List.map_map]
      exact List.map_congr_left (fun dependency _ => path_extendSpread found dependency)

theorem mem_extend_paths
    {expansion : Expansion}
    {path : List ExpansionStep}
    (h : path ∈ (expansion.extend program).map Expansion.path) :
    path.dropLast = expansion.path := by
  rcases @extend_paths program expansion with hnil | ⟨group, hgroup⟩
  · rw [hnil] at h
    exact absurd h List.not_mem_nil
  · rw [hgroup] at h
    obtain ⟨step, -, rfl⟩ := List.mem_map.mp h
    exact List.dropLast_concat

theorem expansionRound_paths_nodup
    (root : Definition)
    (round : Nat) :
    ((expansionRound program root round).map Expansion.path).Nodup := by
  induction round with
  | zero =>
      unfold expansionRound seedExpansionOccurrences
      rw [List.map_map]
      have hmap : (dependencies program root.entity).map (Expansion.path ∘ seedSpread root) =
          ((dependencies program root.entity).map
            (fun dependency => dependency.1.step)).map (fun step => [step]) := by
        rw [List.map_map]
        exact List.map_congr_left (fun dependency _ => path_seedSpread root dependency)
      rw [hmap]
      exact (dependencies_steps_nodup root.entity).map (fun _ _ h => by simpa using h)
  | succ round ih =>
      unfold expansionRound
      rw [List.map_flatMap, List.nodup_flatMap]
      constructor
      · intro expansion _
        rcases @extend_paths program expansion with hnil | ⟨group, hgroup⟩
        · rw [hnil]
          exact List.nodup_nil
        · rw [hgroup]
          exact (dependencies_steps_nodup group).map (fun _ _ h => by simpa using h)
      · rw [List.Nodup, List.pairwise_map] at ih
        refine ih.imp ?_
        intro left right hne path hleft hright
        exact hne ((mem_extend_paths hleft).symm.trans (mem_extend_paths hright))

/-- No path is expanded twice. -/
theorem expand_paths_nodup (root : Definition) :
    ((expand program root).map Expansion.path).Nodup := by
  unfold expand
  rw [List.map_flatMap, List.nodup_flatMap]
  refine ⟨fun round _ => expansionRound_paths_nodup root round, ?_⟩
  refine List.nodup_range.imp ?_
  intro left right hne path hleft hright
  obtain ⟨first, hfirst, rfl⟩ := List.mem_map.mp hleft
  obtain ⟨second, hsecond, heq⟩ := List.mem_map.mp hright
  have hfirstLength := length_path_of_mem_round hfirst
  have hsecondLength := length_path_of_mem_round hsecond
  rw [heq] at hsecondLength
  omega

/-! ## Occurrences are the acyclic paths -/

theorem expansionRound_eq_nil
    (hfree : ConflictFree program)
    {root : Definition}
    (hroot : root ∈ program.definitions)
    {round : Nat}
    (hround : program.definitions.length < round) :
    expansionRound program root round = [] := by
  rw [List.eq_nil_iff_forall_not_mem]
  intro expansion hmem
  obtain ⟨steps, source, spread, target, hlength, hpath, hnodup, -, -⟩ :=
    (mem_expansionRound root round expansion).mp hmem
  have hle := hpath.length_le hroot ((hpath.visitedOn_nodup hfree hroot).mp hnodup)
  omega

theorem mem_expand
    (hfree : ConflictFree program)
    {root : Definition}
    (hroot : root ∈ program.definitions)
    (expansion : Expansion) :
    expansion ∈ expand program root ↔
      ∃ steps source spread target, SpreadPath program root steps source ∧
        Acyclic root steps ∧ Uses program source spread target ∧
          expansion = followed root steps spread target := by
  unfold expand
  rw [List.mem_flatMap]
  constructor
  · rintro ⟨round, -, hmem⟩
    obtain ⟨steps, source, spread, target, -, hpath, hnodup, huses, heq⟩ :=
      (mem_expansionRound root round expansion).mp hmem
    exact ⟨steps, source, spread, target, hpath, (hpath.visitedOn_nodup hfree hroot).mp hnodup,
      huses, heq⟩
  · rintro ⟨steps, source, spread, target, hpath, hacyclic, huses, heq⟩
    have hle := hpath.length_le hroot hacyclic
    refine ⟨steps.length, List.mem_range.mpr (by omega), ?_⟩
    exact (mem_expansionRound root steps.length expansion).mpr
      ⟨steps, source, spread, target, rfl, hpath,
        (hpath.visitedOn_nodup hfree hroot).mpr hacyclic, huses, heq⟩

/-- The occurrences of a root are its nonempty acyclic spread paths. -/
theorem occurrence_mem_expand
    (hfree : ConflictFree program)
    {root : Definition}
    (hroot : root ∈ program.definitions)
    (occurrence : ExpansionOccurrence) :
    .occurrence occurrence ∈ expand program root ↔
      ∃ steps spread target, SpreadPath program root (steps ++ [(spread, target)]) target ∧
        Acyclic root (steps ++ [(spread, target)]) ∧
          occurrence = occurrenceOf root steps spread target := by
  rw [mem_expand hfree hroot]
  constructor
  · rintro ⟨steps, source, spread, target, hpath, hacyclic, huses, heq⟩
    unfold followed at heq
    split at heq
    · cases heq
    · rename_i hname
      cases heq
      rw [hpath.name_mem_iff hfree hroot huses] at hname
      refine ⟨steps, spread, target, hpath.snoc huses, ?_, rfl⟩
      rw [Acyclic, fragmentsOn_concat, ← List.concat_eq_append]
      exact List.Nodup.concat hname hacyclic
  · rintro ⟨steps, spread, target, hpath, hacyclic, rfl⟩
    obtain ⟨-, source, hinit, huses⟩ := hpath.snoc_inv
    rw [Acyclic, fragmentsOn_concat, List.nodup_append] at hacyclic
    obtain ⟨hinitAcyclic, -, hdisjoint⟩ := hacyclic
    have hname : spread.name ∉ visitedOn root steps := by
      rw [hinit.name_mem_iff hfree hroot huses]
      exact fun hmem => hdisjoint _ hmem _ List.mem_cons_self rfl
    exact ⟨steps, source, spread, target, hinit, hinitAcyclic, huses,
      (followed_eq_occurrence hname).symm⟩

/-! ## Cycles -/

theorem foldl_moreSemantic_isSome
    (cycles : List ExpansionCycle)
    (chosen : Option ExpansionCycle) :
    (cycles.foldl moreSemantic chosen).isSome ↔
      chosen.isSome ∨ ∃ cycle ∈ cycles, cycle.rootKind = .fragment := by
  induction cycles generalizing chosen with
  | nil => simp
  | cons cycle cycles ih =>
      rw [List.foldl_cons, ih]
      have hstep : (moreSemantic chosen cycle).isSome ↔
          chosen.isSome ∨ cycle.rootKind = .fragment := by
        unfold moreSemantic
        by_cases hkind : cycle.rootKind = .fragment
        · rw [if_neg (not_not.mpr hkind)]
          cases chosen with
          | none => simp [hkind]
          | some current =>
              simp only
              split <;> simp
        · rw [if_pos hkind]
          simp [hkind]
      rw [hstep]
      simp only [List.mem_cons, exists_eq_or_imp, or_assoc]

theorem checkExpansionCycles_isSome
    (spread : Spread) :
    (checkExpansionCycles program spread).isSome ↔
      ∃ root ∈ program.definitions, ∃ cycle, .cycle cycle ∈ expand program root ∧
        cycle.closingSpread = spread.entity ∧ cycle.rootKind = .fragment := by
  unfold checkExpansionCycles
  rw [Option.isSome_map, foldl_moreSemantic_isSome]
  simp only [Option.isSome_none, Bool.false_eq_true, false_or, closingCycles, List.mem_filter,
    List.mem_filterMap, List.mem_flatMap, beq_iff_eq]
  constructor
  · rintro ⟨cycle, ⟨⟨expansion, ⟨root, hroot, hmem⟩, hcycle⟩, hclosing⟩, hkind⟩
    cases expansion with
    | occurrence found => cases hcycle
    | cycle cut =>
        cases hcycle
        exact ⟨root, hroot, cycle, hmem, hclosing, hkind⟩
  · rintro ⟨root, hroot, cycle, hmem, hclosing, hkind⟩
    exact ⟨cycle, ⟨⟨.cycle cycle, ⟨root, hroot, hmem⟩, rfl⟩, hclosing⟩, hkind⟩

/-- One definition spreads another. -/
def Spreads (program : Program) (source target : Definition) : Prop :=
  ∃ spread, Uses program source spread target

/-- The fragment a spread resolves to leads back to where it is written. -/
def ClosesCycle (program : Program) (spread : Spread) : Prop :=
  ∃ source ∈ program.definitions, ∃ target, Uses program source spread target ∧
    Relation.ReflTransGen (Spreads program) target source

/-- Every fragment on a path leads to its end. -/
theorem SpreadPath.reaches
    {root source : Definition}
    {steps : List (Spread × Definition)}
    (h : SpreadPath program root steps source)
    {fragment : Definition}
    (hfragment : fragment ∈ fragmentsOn root steps) :
    Relation.ReflTransGen (Spreads program) fragment source := by
  induction h with
  | nil =>
      unfold fragmentsOn at hfragment
      rw [List.map_nil, List.append_nil] at hfragment
      split at hfragment
      · rw [List.mem_singleton.mp hfragment]
      · exact absurd hfragment List.not_mem_nil
  | @snoc steps source target spread hpath huses ih =>
      rw [fragmentsOn_concat] at hfragment
      rcases List.mem_append.mp hfragment with hbefore | hlast
      · exact (ih hbefore).tail ⟨spread, huses⟩
      · rw [List.mem_singleton.mp hlast]

/-- A fragment on an acyclic path ends a shorter one. -/
theorem SpreadPath.exists_ending_at
    {root source : Definition}
    {steps : List (Spread × Definition)}
    (h : SpreadPath program root steps source)
    (hacyclic : Acyclic root steps)
    {fragment : Definition}
    (hfragment : fragment ∈ fragmentsOn root steps) :
    ∃ front, SpreadPath program root front fragment ∧ Acyclic root front := by
  induction h with
  | nil =>
      have hroot : fragment = root := by
        unfold fragmentsOn at hfragment
        rw [List.map_nil, List.append_nil] at hfragment
        split at hfragment
        · exact List.mem_singleton.mp hfragment
        · exact absurd hfragment List.not_mem_nil
      rw [hroot]
      exact ⟨[], .nil, hacyclic⟩
  | @snoc steps source target spread hpath huses ih =>
      have hwhole := hacyclic
      rw [Acyclic, fragmentsOn_concat, List.nodup_append] at hacyclic
      rw [fragmentsOn_concat] at hfragment
      rcases List.mem_append.mp hfragment with hbefore | hlast
      · exact ih hacyclic.1 hbefore
      · rw [List.mem_singleton.mp hlast]
        exact ⟨steps ++ [(spread, target)], hpath.snoc huses, hwhole⟩

/-- What a definition leads to it leads to without visiting a fragment
twice. -/
theorem exists_acyclic_path
    {root source : Definition}
    (h : Relation.ReflTransGen (Spreads program) root source) :
    ∃ steps, SpreadPath program root steps source ∧ Acyclic root steps := by
  induction h with
  | refl =>
      refine ⟨[], .nil, ?_⟩
      unfold Acyclic fragmentsOn
      split <;> simp
  | @tail middle target hreach hspreads ih =>
      obtain ⟨spread, huses⟩ := hspreads
      obtain ⟨steps, hpath, hacyclic⟩ := ih
      by_cases hvisited : target ∈ fragmentsOn root steps
      · exact hpath.exists_ending_at hacyclic hvisited
      · refine ⟨steps ++ [(spread, target)], hpath.snoc huses, ?_⟩
        rw [Acyclic, fragmentsOn_concat, ← List.concat_eq_append]
        exact List.Nodup.concat hvisited hacyclic

/-- A cycle is reported at exactly the spreads that close one. -/
theorem checkExpansionCycles_iff
    (hfree : ConflictFree program)
    {spread : Spread}
    (hspread : spread ∈ program.spreads) :
    (checkExpansionCycles program spread).isSome ↔ ClosesCycle program spread := by
  rw [checkExpansionCycles_isSome]
  constructor
  · rintro ⟨root, hroot, cycle, hmem, hclosing, hkind⟩
    obtain ⟨steps, source, found, target, hpath, -, huses, heq⟩ :=
      (mem_expand hfree hroot _).mp hmem
    unfold followed at heq
    split at heq
    · rename_i hname
      cases heq
      have hfound : found = spread :=
        List.inj_on_of_nodup_map program.spreadsDistinct huses.written hspread hclosing
      subst hfound
      rw [hpath.name_mem_iff hfree hroot huses] at hname
      exact ⟨source, (hpath.spec hroot).1, target, huses, hpath.reaches hname⟩
    · cases heq
  · rintro ⟨source, hsource, target, huses, hreach⟩
    obtain ⟨steps, hpath, hacyclic⟩ := exists_acyclic_path hreach
    have hkind : target.kind = .fragment := huses.visible.2.1
    have htarget : target ∈ fragmentsOn target steps := by
      rw [fragmentsOn, if_pos hkind]
      exact List.mem_append_left _ List.mem_cons_self
    have hname := (hpath.name_mem_iff hfree huses.defined huses).mpr htarget
    refine ⟨target, huses.defined, cycleOf target steps spread, ?_, rfl, hkind⟩
    exact (mem_expand hfree huses.defined _).mpr
      ⟨steps, source, spread, target, hpath, hacyclic, huses, (if_pos hname).symm⟩

end

/-- Where no conflict is reported, the expansion of every definition ends, its
occurrences are its acyclic spread paths, each once and with the targets its
spreads resolve to, names tell the definitions on a path apart, and a cycle is
reported at exactly the spreads that close one. -/
theorem expansion_exact
    (program : Program)
    (hfree : ConflictFree program) :
    (∀ root ∈ program.definitions,
      (∀ round, program.definitions.length < round → expansionRound program root round = []) ∧
      ((expand program root).map Expansion.path).Nodup ∧
      (∀ occurrence, .occurrence occurrence ∈ expand program root ↔
        ∃ steps spread target, SpreadPath program root (steps ++ [(spread, target)]) target ∧
          Acyclic root (steps ++ [(spread, target)]) ∧
            occurrence = occurrenceOf root steps spread target) ∧
      (∀ steps source, SpreadPath program root steps source →
        ∀ left ∈ fragmentsOn root steps, ∀ right ∈ fragmentsOn root steps,
          left.name = right.name → left = right)) ∧
    (∀ spread ∈ program.spreads,
      (checkExpansionCycles program spread).isSome ↔ ClosesCycle program spread) := by
  refine ⟨?_, fun spread hspread => checkExpansionCycles_iff hfree hspread⟩
  intro root hroot
  refine ⟨fun round hround => expansionRound_eq_nil hfree hroot hround,
    expand_paths_nodup root, occurrence_mem_expand hfree hroot, ?_⟩
  intro steps source hpath left hleft right hright hname
  exact hpath.eq_of_name hfree hroot hleft hright hname

/-- A query that spreads one of two fragments that spread each other. -/
def mutualProgram : Program where
  imports := ⟨[]⟩
  definitions := [
    ⟨0, .query, "Q", "main", "q.dsql", ⟨6, 7⟩, none⟩,
    ⟨1, .fragment, "A", "main", "a.dsql", ⟨9, 10⟩, some "title"⟩,
    ⟨2, .fragment, "B", "main", "b.dsql", ⟨9, 10⟩, some "title"⟩]
  spreads := [
    ⟨3, 0, "A", "main", "q.dsql", ⟨20, 21⟩⟩,
    ⟨4, 1, "B", "main", "a.dsql", ⟨30, 31⟩⟩,
    ⟨5, 2, "A", "main", "b.dsql", ⟨30, 31⟩⟩]
  definitionsDistinct := by decide
  spreadsDistinct := by decide
  owned := by decide

theorem conflictFree_mutualProgram : ConflictFree mutualProgram := by
  unfold ConflictFree
  decide +kernel

theorem expansion_exact_mutual :
    ClosesCycle mutualProgram ⟨5, 2, "A", "main", "b.dsql", ⟨30, 31⟩⟩ ∧
      ¬ ClosesCycle mutualProgram ⟨3, 0, "A", "main", "q.dsql", ⟨20, 21⟩⟩ := by
  have hcycles := (expansion_exact mutualProgram conflictFree_mutualProgram).2
  constructor
  · exact (hcycles _ (by decide)).mp (by decide +kernel)
  · exact (hcycles _ (by decide)).not.mp (by decide +kernel)

end Dsql.Scopes
