import Dsql.Policy.Sources

/-!
# What applies at a source

The filters that planning applies at a source are those of its index that
match the table.  For a definition they are the visible filters of the project
that guard the table, as far as these reach the index.
-/

namespace Dsql

namespace Planner

variable (planner : Planner)

/-- Everything visible from `scope` is visible from the operation: the scope
of the operation itself and of every definition it can use. -/
def Sees (scope : String) : Prop :=
  ∀ visible ∈ planner.imports.visibleFrom scope,
    visible ∈ planner.imports.visibleFrom planner.scope

/-- A visible filter that matches a table, with its compiled guards. -/
def Applies
    (table : TableId)
    (applied : CompiledPolicyEntry × CompiledPolicyTarget) : Prop :=
  ∃ entry ∈ planner.policyIndex.entries,
    entry.kind = .filter ∧ table ∈ entry.matchedTables ∧
      entry.scope ∈ planner.imports.visibleFrom planner.scope ∧
      planner.compiledPolicies.entry entry.entity = some applied.1 ∧
      planner.compiledPolicies.target entry.entity table = some applied.2

end Planner

theorem mem_insertIdentity
    (identity other : PolicyEntity)
    (identities : List PolicyEntity) :
    other ∈ insertIdentity identity identities ↔
      other = identity ∨ other ∈ identities := by
  induction identities with
  | nil => simp [insertIdentity]
  | cons head rest ih =>
      unfold insertIdentity
      split
      case isTrue h =>
        simp [h]
      case isFalse h =>
        split
        · simp
        · simp only [List.mem_cons, ih]
          tauto

@[simp] theorem mem_identitySet
    (other : PolicyEntity)
    (identities : List PolicyEntity) :
    other ∈ identitySet identities ↔ other ∈ identities := by
  unfold identitySet
  induction identities with
  | nil => simp
  | cons head rest ih => simp [mem_insertIdentity, ih]

theorem mem_foldl_insertAssignment
    {added assignments : List PlannedPolicyAssignment}
    {assignment : PlannedPolicyAssignment}
    (h : assignment ∈ added.foldl insertAssignment assignments) :
    assignment ∈ added ∨ assignment ∈ assignments := by
  induction added generalizing assignments with
  | nil => exact .inr h
  | cons head rest ih =>
      rcases ih h with hrest | hinsert
      · exact .inl (List.mem_cons_of_mem _ hrest)
      · rcases List.mem_cons.mp hinsert with rfl | hfilter
        · exact .inl (by simp)
        · exact .inr (List.mem_filter.mp hfilter).1

namespace Planner

variable (planner : Planner)

theorem mem_appliedPolicies
    (table : TableId)
    (identities : List PolicyEntity)
    (applied : CompiledPolicyEntry × CompiledPolicyTarget) :
    applied ∈ planner.appliedPolicies table identities ↔
      ∃ identity ∈ identities,
        planner.compiledPolicies.entry identity = some applied.1 ∧
          planner.compiledPolicies.target identity table =
            some applied.2 := by
  unfold appliedPolicies
  rw [List.mem_filterMap]
  constructor
  · rintro ⟨identity, hmem, hmatch⟩
    refine ⟨identity, hmem, ?_⟩
    split at hmatch
    case h_1 compiled target hentry htarget =>
      obtain rfl := Option.some.inj hmatch
      exact ⟨hentry, htarget⟩
    case h_2 => cases hmatch
  · rintro ⟨identity, hmem, hentry, htarget⟩
    exact ⟨identity, hmem, by simp [hentry, htarget]⟩

/-- An assigned filter that guards a table matches it and is visible. -/
theorem applies_of_planned
    {scope : String}
    (hsees : planner.Sees scope)
    {assignments : List (FilterAssignmentExpr Expr)}
    {selectionPath : List String}
    {variableScope : VariablePathScope}
    {planned : PlannedPolicyAssignment}
    (hplanned : planned ∈ planner.planAssignments assignments selectionPath
      variableScope scope)
    {table : TableId}
    {applied : CompiledPolicyEntry × CompiledPolicyTarget}
    (hentry : planner.compiledPolicies.entry planned.filter = some applied.1)
    (htarget : planner.compiledPolicies.target planned.filter table =
      some applied.2) :
    planner.Applies table applied := by
  obtain ⟨assignment, -, hplan⟩ := planner.mem_planAssignments.mp hplanned
  obtain ⟨entry, hvisible, hentity⟩ := planner.namedFilter_eq_some
    (planner.namedFilter_of_planAssignment hplan)
  have hmem : entry ∈ planner.policyIndex.visible scope .filter
      assignment.name planner.imports := by
    simp [hvisible]
  obtain ⟨hin, hkind, -, hscope⟩ := PolicyIndex.mem_visible hmem
  rw [← hentity] at hentry htarget
  exact ⟨entry, hin, hkind,
    planner.compiled_matched entry hin table applied.2 htarget,
    hsees _ hscope, hentry, htarget⟩

theorem sees_self : planner.Sees planner.scope := by
  intro visible hvisible
  exact hvisible

/-- Assigning a filter makes no other filter apply. -/
theorem mem_appliedAt
    {header : List (FilterAssignmentExpr Expr)}
    (hheader : planner.HasHeader header)
    {source : PolicySource}
    (hsees : planner.Sees source.definitionScope)
    (applied : CompiledPolicyEntry × CompiledPolicyTarget) :
    applied ∈ planner.appliedAt source ↔
      planner.Applies source.table applied := by
  unfold appliedAt applicableFilters
  rw [mem_appliedPolicies]
  constructor
  · rintro ⟨identity, hmem, hentry, htarget⟩
    rw [mem_identitySet, List.mem_append] at hmem
    rcases hmem with hbase | hassigned
    · obtain ⟨entry, hfilter, rfl⟩ := List.mem_map.mp hbase
      obtain ⟨hin, hconditions⟩ := List.mem_filter.mp hfilter
      simp only [Bool.and_eq_true, beq_iff_eq, List.contains_iff_mem]
        at hconditions
      exact ⟨entry, hin, hconditions.1.1, hconditions.1.2, hconditions.2,
        hentry, htarget⟩
    · obtain ⟨planned, hplanned, rfl⟩ := List.mem_map.mp hassigned
      unfold assignmentsAt at hplanned
      rcases mem_foldl_insertAssignment hplanned with hlocal | hoperation
      · exact planner.applies_of_planned hsees hlocal hentry htarget
      · rcases mem_foldl_insertAssignment hoperation with hwide | hnone
        · rw [hheader] at hwide
          exact planner.applies_of_planned planner.sees_self hwide hentry
            htarget
        · cases hnone
  · rintro ⟨entry, hin, hkind, hmatched, hscope, hentry, htarget⟩
    refine ⟨entry.entity, ?_, hentry, htarget⟩
    rw [mem_identitySet, List.mem_append]
    refine .inl (List.mem_map.mpr ⟨entry, List.mem_filter.mpr ⟨hin, ?_⟩, rfl⟩)
    simp [hkind, hmatched, hscope]

end Planner

/-! ## The index of a definition -/

namespace PolicyDefinition

variable {project : PolicyProject} {definition : PolicyDefinition project}

theorem compiled_entry_eq_some
    {site : PolicySite}
    (hsite : site ∈ definition.definitionPolicies project) :
    definition.planner.compiledPolicies.entry site.entity =
      some (project.compilePolicy site) := by
  unfold CompiledPolicyIndex.entry
  cases hfound : definition.planner.compiledPolicies.entries.find? (fun entry =>
      entry.entity == site.entity) with
  | none =>
      refine absurd (beq_self_eq_true site.entity) ?_
      exact List.find?_eq_none.mp hfound _ (List.mem_map_of_mem hsite)
  | some found =>
      obtain ⟨other, hother, rfl⟩ :=
        List.mem_map.mp (List.mem_of_find?_eq_some hfound)
      have hentity := List.find?_some hfound
      rw [List.inj_on_of_nodup_map project.entities_nodup
        (List.mem_of_mem_filter hother) (List.mem_of_mem_filter hsite)
        (eq_of_beq hentity)]

/-- What applies by the index of the definition is what guards the table among
the filters that reach the index. -/
theorem applies_iff
    (table : TableId)
    (applied : CompiledPolicyEntry × CompiledPolicyTarget) :
    definition.planner.Applies table applied ↔
      ∃ site, project.GuardedBy definition.scope table site applied.2 ∧
        definition.Indexes site ∧ applied.1 = project.compilePolicy site := by
  constructor
  · rintro ⟨entry, hentry, hkind, hmatched, hvisible, hcompiled, htarget⟩
    obtain ⟨site, hsite, rfl⟩ := List.mem_map.mp hentry
    obtain ⟨hdeclared, -, -, hindexes⟩ := (mem_definitionPolicies site).mp hsite
    have hentry := compiled_entry_eq_some hsite
    refine ⟨site, ⟨hdeclared, hkind, hvisible, hmatched, ?_⟩, hindexes, ?_⟩
    · obtain ⟨compiled, hfound, hguards⟩ := Option.bind_eq_some_iff.mp htarget
      rw [← Option.some.inj (hfound.symm.trans hentry)]
      exact hguards
    · exact Option.some.inj (hcompiled.symm.trans hentry)
  · rintro ⟨site, hguarded, hindexes, hcompiled⟩
    have hsite := (mem_definitionPolicies site).mpr
      ⟨hguarded.declared, hguarded.kind, hguarded.visible, hindexes⟩
    refine ⟨project.entry site, List.mem_map_of_mem hsite, hguarded.kind,
      hguarded.matched, hguarded.visible, ?_, ?_⟩
    · exact (compiled_entry_eq_some hsite).trans (by rw [hcompiled])
    · refine (congrArg (Option.bind · _) (compiled_entry_eq_some hsite)).trans ?_
      exact hguarded.target

end PolicyDefinition

end Dsql
