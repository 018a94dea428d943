import Dsql.Policy.Summary

/-!
# Every consumer of a table

A definition plans its sources with the filters it can see, and summarises
its tables with every filter of the project.  The summary covers the guards of
all its sources.
-/

namespace Dsql

open Results (PolicyFieldAccess)
open PolicyAccess

/-! ## Assignments read no rows -/

/-- No assignment asks for a state that reads a row. -/
def AssignmentsRowFree (assignments : List PlannedPolicyAssignment) : Prop :=
  ∀ assignment ∈ assignments, filterObservesRows assignment.desired = false

namespace Planner

variable (planner : Planner)

theorem planAssignmentVariable_rowFree
    {definitionScope filterName : String}
    {selectionPath : List String}
    {variableScope : VariablePathScope}
    {reference : VariableRef}
    {planned : FilterExpr × List PolicyContextRequirement}
    (h : planner.planAssignmentVariable definitionScope filterName
      selectionPath variableScope reference = some planned) :
    filterObservesRows planned.1 = false := by
  unfold planAssignmentVariable at h
  split at h
  · split at h
    · cases h
    · unfold planAssignmentContext at h
      split at h
      · split at h
        · cases h
        · cases h
          rfl
      · cases h
  · cases h
    rfl

theorem planAssignmentExpr_rowFree
    {definitionScope filterName : String}
    {selectionPath : List String}
    {variableScope : VariablePathScope}
    (expr : Expr)
    {planned : FilterExpr × List PolicyContextRequirement}
    (h : planner.planAssignmentExpr definitionScope filterName selectionPath
      variableScope expr = some planned) :
    filterObservesRows planned.1 = false := by
  induction expr generalizing planned with
  | binary op lhs rhs ihleft ihright =>
      rw [planAssignmentExpr, Option.bind_eq_bind,
        Option.bind_eq_some_iff] at h
      obtain ⟨left, hleft, h⟩ := h
      obtain ⟨right, hright, h⟩ := Option.bind_eq_some_iff.mp h
      obtain ⟨operator, -, h⟩ := Option.bind_eq_some_iff.mp h
      cases h
      rw [filterObservesRows, ihleft hleft, ihright hright]
      rfl
  | unary op operand ih =>
      rw [planAssignmentExpr, Option.bind_eq_bind,
        Option.bind_eq_some_iff] at h
      obtain ⟨operand, hoperand, h⟩ := h
      cases h
      rw [observes_notFilter]
      exact ih hoperand
  | nullTest operand negated ih =>
      rw [planAssignmentExpr, Option.bind_eq_bind,
        Option.bind_eq_some_iff] at h
      obtain ⟨operand, hoperand, h⟩ := h
      cases h
      rw [filterObservesRows]
      exact ih hoperand
  | literal value =>
      cases value with
      | bool value =>
          rw [planAssignmentExpr] at h
          cases h
          rfl
      | string | number | null =>
          rw [planAssignmentExpr] at h
          · cases h
          all_goals simp
  | variable_ reference =>
      rw [planAssignmentExpr] at h
      exact planner.planAssignmentVariable_rowFree h
  | list | exists_ | path | dynamicPredicate | predicateRef | aggregate |
    error =>
      rw [planAssignmentExpr] at h
      · cases h
      all_goals simp

theorem planAssignments_rowFree
    (assignments : List (FilterAssignmentExpr Expr))
    (selectionPath : List String)
    (variableScope : VariablePathScope)
    (definitionScope : String) :
    AssignmentsRowFree (planner.planAssignments assignments selectionPath
      variableScope definitionScope) := by
  intro planned hplanned
  obtain ⟨assignment, -, hassignment⟩ := List.mem_filterMap.mp hplanned
  unfold planAssignment at hassignment
  split at hassignment
  · split at hassignment
    · cases hassignment
      rfl
    · split at hassignment
      · cases hassignment
      · rename_i found hfound
        cases hassignment
        exact planner.planAssignmentExpr_rowFree _ hfound
  · cases hassignment

end Planner

theorem AssignmentsRowFree.insert
    {added assignments : List PlannedPolicyAssignment}
    (hadded : AssignmentsRowFree added)
    (h : AssignmentsRowFree assignments) :
    AssignmentsRowFree (added.foldl insertAssignment assignments) := by
  induction added generalizing assignments with
  | nil => exact h
  | cons first rest ih =>
      refine ih (fun other hother => hadded other (.tail _ hother)) ?_
      intro assignment hassignment
      rcases List.mem_cons.mp hassignment with rfl | hmem
      · exact hadded _ (.head _)
      · exact h assignment (List.mem_of_mem_filter hmem)

theorem AssignmentsRowFree.desiredState
    {assignments : List PlannedPolicyAssignment}
    (h : AssignmentsRowFree assignments)
    (compiled : CompiledPolicyEntry) :
    filterObservesRows (desiredState assignments compiled) = false := by
  unfold Dsql.desiredState
  cases hfound : assignmentFor assignments compiled.entity with
  | none => rfl
  | some assignment => exact h assignment (List.mem_of_find?_eq_some hfound)

theorem AssignmentsRowFree.activeState
    {assignments : List PlannedPolicyAssignment}
    (h : AssignmentsRowFree assignments)
    (compiled : CompiledPolicyEntry)
    {target : CompiledPolicyTarget}
    (htarget : ∀ enforcement, target.enforcement = some enforcement →
      filterObservesRows enforcement = false) :
    filterObservesRows
      (activeState target (Dsql.desiredState assignments compiled)) =
        false := by
  unfold Dsql.activeState
  cases henforcement : target.enforcement with
  | none => exact h.desiredState compiled
  | some enforcement =>
      exact observes_orFilter (htarget enforcement henforcement)
        (h.desiredState compiled)

/-! ## Definitions -/

/-- What a selection resolves to. -/
inductive SelectionTarget where
  | table (table : TableId)
  | column (column : ColumnId)
  | relation (relation : RelationId) (table : TableId)
  | unresolved
deriving DecidableEq, Repr

/-- The table that the children and clauses of a selection resolve against. -/
def SelectionTarget.childContext : SelectionTarget → Option TableId
  | .table id => some id
  | .relation _ id => some id
  | .column _ | .unresolved => none

/-- The selections and clauses of a definition or of a fragment it expands. -/
structure DefinitionBody where
  fragmentTarget : Option TableRef
  selections : List SelectionTarget
  clauses : List ClauseFact

/-- A definition with every fragment body it expands to. -/
structure PolicyConsumer where
  scope : String
  isFragment : Bool
  root : DefinitionBody
  bodies : List DefinitionBody
  /-- The assignments in the header of an operation. -/
  header : List (FilterAssignmentExpr Expr)
  bindings : List VariableBinding
  contexts : String → String → ContextUseResolution

namespace PolicyConsumer

variable (consumer : PolicyConsumer) (project : PolicyProject)

/-- The definition with the fragments that it spreads. -/
def closure : List DefinitionBody :=
  consumer.root :: consumer.bodies

/-- The tables that can make a filter relevant to the definition. -/
def surfaceTables : List TableId :=
  consumer.closure.flatMap (fun body =>
    body.selections.filterMap SelectionTarget.childContext ++
      (match body.fragmentTarget.map project.catalog.resolveTableRefFor with
      | some (.found table) => [table.id]
      | _ => []))

/-- The filters that the clauses and the header name. -/
def surfaceReferences : List String :=
  consumer.closure.flatMap (fun body =>
      body.clauses.flatMap clauseFilterReferences) ++
    consumer.header.flatMap (fun assignment =>
      clauseFilterReferences (.filterAssignment assignment))

/-- Visible filters that match a table of the surface or are named. -/
def definitionPolicies : List PolicySite :=
  project.sites.filter (fun site =>
    site.declaration.kind == .filter &&
      (project.imports.visibleFrom consumer.scope).contains site.scope &&
      ((project.entry site).matchedTables.any (fun table =>
          (consumer.surfaceTables project).contains table) ||
        consumer.surfaceReferences.contains site.declaration.name))

/-- Filters with a compiled target in the surface, visible or not. -/
def definitionShapePolicies : CompiledPolicyIndex :=
  ⟨((project.sites.filter (fun site =>
    site.declaration.kind == .filter)).map project.compilePolicy).filter
      (fun compiled => compiled.targets.any (fun target =>
        (consumer.surfaceTables project).contains target.table))⟩

theorem definitionPolicies_nodup :
    (((consumer.definitionPolicies project).map project.entry).map
      PolicyEntry.entity).Nodup := by
  rw [List.map_map]
  exact (List.filter_sublist.map _).nodup project.entities_nodup

/-- The compiled target that planning reads is one of a filter the definition
sees. -/
theorem target_eq_some
    {sites : List PolicySite}
    {entity : PolicyEntity}
    {table : TableId}
    {target : CompiledPolicyTarget}
    (h : (⟨sites.map project.compilePolicy⟩ : CompiledPolicyIndex).target
      entity table = some target) :
    ∃ site ∈ sites, site.entity = entity ∧ target.table = table ∧
      target ∈ (project.compilePolicy site).targets := by
  obtain ⟨compiled, hcompiled, htarget⟩ := Option.bind_eq_some_iff.mp h
  obtain ⟨site, hsite, rfl⟩ :=
    List.mem_map.mp (List.mem_of_find?_eq_some hcompiled)
  have hentity := List.find?_some hcompiled
  have htable := List.find?_some htarget
  exact ⟨site, hsite, eq_of_beq hentity, eq_of_beq htable,
    List.mem_of_find?_eq_some htarget⟩

theorem compiled_matched :
    ∀ entry ∈ (consumer.definitionPolicies project).map project.entry,
      ∀ table target,
        (⟨(consumer.definitionPolicies project).map project.compilePolicy⟩ :
          CompiledPolicyIndex).target entry.entity table = some target →
        table ∈ entry.matchedTables := by
  intro entry hentry table target htarget
  obtain ⟨site, hsite, rfl⟩ := List.mem_map.mp hentry
  obtain ⟨other, hother, hentity, rfl, hmem⟩ := target_eq_some project htarget
  have hsame : other = site :=
    List.inj_on_of_nodup_map project.entities_nodup
      (List.mem_of_mem_filter hother) (List.mem_of_mem_filter hsite) hentity
  rw [hsame] at hmem
  exact (PolicyProject.mem_compilePolicy_targets hmem).1

/-- The planner before the header of the operation is planned. -/
def basePlanner : Planner :=
  { catalog := project.catalog
    imports := project.imports
    scope := consumer.scope
    policyIndex :=
      ⟨(consumer.definitionPolicies project).map project.entry,
        consumer.definitionPolicies_nodup project⟩
    compiledPolicies :=
      ⟨(consumer.definitionPolicies project).map project.compilePolicy⟩
    compiled_matched := consumer.compiled_matched project
    bindings := consumer.bindings
    contexts := consumer.contexts
    operationAssignments := [] }

/-- A fragment has no header of its own. -/
def planner : Planner :=
  { consumer.basePlanner project with
    operationAssignments :=
      if consumer.isFragment then
        []
      else
        (consumer.basePlanner project).planAssignments consumer.header []
          .operation consumer.scope }

/-- The tables whose rows the definition reads through a selection. -/
def Reads (table : TableId) : Prop :=
  ∃ body ∈ consumer.closure, ∃ selection ∈ body.selections,
    selection.childContext = some table

variable {consumer project}

theorem Reads.mem_surfaceTables
    {table : TableId}
    (h : consumer.Reads table) :
    table ∈ consumer.surfaceTables project := by
  obtain ⟨body, hbody, selection, hselection, hchild⟩ := h
  refine List.mem_flatMap.mpr ⟨body, hbody, List.mem_append_left _ ?_⟩
  exact List.mem_filterMap.mpr ⟨selection, hselection, hchild⟩

/-- Every field rule that planning can apply at a table is in its summary. -/
theorem mem_shapeRules
    {table : TableId}
    (htable : table ∈ consumer.surfaceTables project)
    {site : PolicySite}
    (hsite : site ∈ consumer.definitionPolicies project)
    {target : CompiledPolicyTarget}
    (htarget : target ∈ (project.compilePolicy site).targets)
    (hsame : target.table = table) :
    target.fieldRules ⊆
      shapeRules (consumer.definitionShapePolicies project) table := by
  intro rule hrule
  refine List.mem_flatMap.mpr ⟨target, List.mem_filter.mpr ⟨?_, ?_⟩, hrule⟩
  · refine List.mem_flatMap.mpr ⟨project.compilePolicy site, ?_, htarget⟩
    refine List.mem_filter.mpr ⟨List.mem_map_of_mem ?_, ?_⟩
    · have hkind := (List.mem_filter.mp hsite).2
      rw [Bool.and_eq_true, Bool.and_eq_true] at hkind
      exact List.mem_filter.mpr ⟨List.mem_of_mem_filter hsite, hkind.1.1⟩
    · refine List.any_eq_true.mpr ⟨target, htarget, ?_⟩
      rw [hsame]
      exact List.contains_iff_mem.mpr htable
  · rw [hsame]
    exact beq_self_eq_true table

theorem planner_operationAssignments :
    AssignmentsRowFree (consumer.planner project).operationAssignments := by
  unfold planner
  dsimp only
  split
  · nofun
  · exact Planner.planAssignments_rowFree _ _ _ _ _

/-- In an accepted project the guards of every source are under the summary of
its table. -/
theorem summarised_planSourcePolicies
    (haccepted : project.AcceptsPolicies)
    {table : TableId}
    (htable : table ∈ consumer.surfaceTables project)
    (source explicit : List (FilterAssignmentExpr Expr))
    (selectionPath : List String)
    (variableScope : VariablePathScope)
    (definitionScope : String) :
    Summarised (shapeRules (consumer.definitionShapePolicies project) table)
      ((consumer.planner project).planSourcePolicies table source explicit
        selectionPath variableScope definitionScope).fieldFilters := by
  unfold Planner.planSourcePolicies
  dsimp only
  have hassignments : AssignmentsRowFree
      ((consumer.planner project).sourceAssignments source explicit
        selectionPath variableScope definitionScope) := by
    refine AssignmentsRowFree.insert ?_
      (planner_operationAssignments.insert nofun)
    intro assignment hassignment
    rcases List.mem_append.mp hassignment with hmem | hmem
    · exact Planner.planAssignments_rowFree _ _ _ _ _ assignment hmem
    · exact Planner.planAssignments_rowFree _ _ _ _ _ assignment hmem
  generalize (consumer.planner project).sourceAssignments source explicit
    selectionPath variableScope definitionScope = assignments at hassignments ⊢
  -- Each filter in turn keeps the guards under the summary.
  have hfold : ∀ (identities : List PolicyEntity) (plan : SourcePolicyPlan),
      Summarised (shapeRules (consumer.definitionShapePolicies project) table)
        plan.fieldFilters →
      Summarised (shapeRules (consumer.definitionShapePolicies project) table)
        (identities.foldl ((consumer.planner project).applyIdentity table
          assignments selectionPath) plan).fieldFilters := by
    intro identities
    induction identities with
    | nil => exact fun plan hplan => hplan
    | cons identity rest ih =>
        intro plan hplan
        refine ih _ ?_
        unfold Planner.applyIdentity
        split
        · rename_i compiled target hcompiled htarget
          obtain ⟨site, hsite, -, hsame, hmem⟩ :=
            target_eq_some project htarget
          refine hplan.applyPolicy ?_ (mem_shapeRules htable hsite hmem hsame)
          refine hassignments.activeState compiled ?_
          exact fun enforcement => PolicyProject.enforcement_rowFree haccepted
            (List.mem_of_mem_filter hsite) hmem
        · exact hplan
  exact hfold _ _ nofun

end PolicyConsumer

/-- Of an accepted project, each field of a source that is guarded by anything
but literal truth is listed as nullable for the table, and its access entry is
at least as dependent as the guard. -/
theorem summary_covers_guards
    (project : PolicyProject)
    (haccepted : project.AcceptsPolicies)
    (consumer : PolicyConsumer)
    (source : PolicySource)
    (hsource : consumer.Reads source.table) :
    ∀ guard ∈ ((consumer.planner project).policiesAt source).fieldFilters,
      guard.filter ≠ booleanFilter true →
        guard.target ∈ policyNullableFields
            (consumer.definitionShapePolicies project) source.table ∧
          ∃ access,
            fieldAccess
                (policyFieldAccess (consumer.definitionShapePolicies project)
                  source.table) guard.target = some access ∧
              PolicyAccess.forGuard guard.filter ≤ access := by
  intro guard hguard hmasks
  have hsummarised := PolicyConsumer.summarised_planSourcePolicies haccepted
    hsource.mem_surfaceTables
    (if source.explicit then [] else source.written)
    (if source.explicit then source.written else [])
    source.selectionPath source.variableScope source.definitionScope
  obtain ⟨⟨rule, hrule, hfield⟩, hle⟩ := hsummarised guard hguard
  exact ⟨mem_policyNullableFields hrule hfield,
    fieldAccess_of_masked hmasks hle⟩

/-! ## A masked email -/

/-- The type of the columns of the example. -/
def textColumnType : CatalogType :=
  { key := ⟨"pg_catalog", "text"⟩
    dataType := .text
    readableType := "text"
    enumeration := none
    capabilities := builtinCapabilities .text }

/-- A catalog with one table. -/
def userCatalog : Catalog :=
  { defaultSchema := "public"
    tables :=
      [{ id := ⟨0⟩, schema := "public", name := "user", visible := true
         columns := [⟨0⟩], primaryKey := [], uniqueConstraints := []
         indexes := [], relations := [] }]
    types := [textColumnType]
    columns := [⟨⟨0⟩, ⟨0⟩, "email", true, textColumnType, true⟩]
    relations := [] }

/-- A reference to the trusted context. -/
def trusted (name : String) : Expr :=
  .variable ⟨.context, some name, none⟩

/-- `filter private on user: apply where $:visitor, email where $:staff`. -/
def privateFilter : PolicySite :=
  { entity := ⟨0⟩
    scope := "app"
    embedded := false
    declaration :=
      { kind := .filter
        name := "private"
        target := some (.concrete ⟨none, "user"⟩)
        apply := some ⟨some (trusted "visitor")⟩
        applyCount := 1
        rowRules := []
        fieldRules := [⟨["email"], trusted "staff"⟩] } }

/-- A project whose filter is active unless it is turned off. -/
def privateProject : PolicyProject :=
  { catalog := userCatalog
    imports := ⟨[]⟩
    contexts :=
      [⟨"visitor", "app", some booleanContext⟩,
        ⟨"staff", "app", some booleanContext⟩]
    sites := [privateFilter]
    entities_nodup := List.nodup_singleton _ }

/-- A query of the table. -/
def userConsumer : PolicyConsumer :=
  { scope := "app"
    isFragment := false
    root := ⟨none, [.table ⟨0⟩], []⟩
    bodies := []
    header := []
    bindings := []
    contexts := fun _ _ => .unknown }

/-- The source of that query. -/
def userSource : PolicySource :=
  { table := ⟨0⟩
    explicit := false
    written := []
    selectionPath := ["user"]
    variableScope := .operation
    definitionScope := "app" }

theorem summary_covers_guards_email :
    ∃ guard ∈ ((userConsumer.planner privateProject).policiesAt
        userSource).fieldFilters,
      guard.target = .column ⟨0⟩ ∧
        guard.target ∈ policyNullableFields
          (userConsumer.definitionShapePolicies privateProject) ⟨0⟩ ∧
        ∃ access,
          fieldAccess
              (policyFieldAccess
                (userConsumer.definitionShapePolicies privateProject) ⟨0⟩)
              guard.target = some access ∧
            PolicyAccess.forGuard guard.filter ≤ access := by
  have haccepted : privateProject.AcceptsPolicies := by
    intro site hsite
    rw [List.mem_singleton.mp hsite]
    decide +kernel
  have hsource : userConsumer.Reads userSource.table :=
    ⟨_, List.mem_cons_self .., _, List.mem_cons_self .., rfl⟩
  have hany : ((userConsumer.planner privateProject).policiesAt
      userSource).fieldFilters.any (fun guard =>
        guard.target == .column ⟨0⟩ &&
          filterBoolean guard.filter != some true) = true := by
    decide +kernel
  obtain ⟨guard, hguard, htest⟩ := List.any_eq_true.mp hany
  obtain ⟨htarget, hmasks⟩ := Bool.and_eq_true_iff.mp htest
  refine ⟨guard, hguard, eq_of_beq htarget, ?_⟩
  refine summary_covers_guards privateProject haccepted userConsumer userSource
    hsource guard hguard ?_
  intro htrue
  rw [htrue] at hmasks
  cases hmasks

end Dsql
