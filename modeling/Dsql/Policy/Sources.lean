import Dsql.Logic.Candidates
import Dsql.Policy.Consumers
import Dsql.Policy.SourceActivation
import Dsql.Scopes.Imports

/-!
# The sources of a definition

A definition reads rows at its selections and inside their predicates: at an
`exists`, at every relation a path crosses and at the source of an aggregate.
Only a filter that matches a selected table, or that a clause names, reaches
the index that checks and planning use.
-/

namespace Dsql

/-- A selection that reads rows, with the clauses written at it. -/
structure SelectionPlace where
  root : TableId
  table : TableId
  clauses : List ClauseFact
  selectionPath : List String
  variableScope : VariablePathScope
  definitionScope : String

namespace SelectionPlace

variable (place : SelectionPlace) (catalog : Catalog)

/-- The rows that clauses of the place refer to. -/
def context : ClauseContext :=
  ⟨place.root, place.table, none⟩

/-- The assignments written at the selection. -/
def written : List (FilterAssignmentExpr Expr) :=
  place.clauses.filterMap (fun
    | .filterAssignment assignment => some assignment
    | _ => none)

/-- The place as a source of rows. -/
def source : PolicySource :=
  { table := place.table
    explicit := false
    written := place.written
    selectionPath := place.selectionPath
    variableScope := place.variableScope
    definitionScope := place.definitionScope }

/-- A relation that a path crosses is planned without the selection. -/
def relationSource (step : ResolvedRelationStep) : PolicySource :=
  { table := step.table
    explicit := true
    written := []
    selectionPath := []
    variableScope := .operation
    definitionScope := place.definitionScope }

/-- The tables that a path passes through. -/
def pathSources
    (context : ClauseContext)
    (path : ScopedPath) : List PolicySource :=
  if path.segments.length < 2 then
    []
  else
    (resolvePath catalog context path).relations.map place.relationSource

/-- The source of an `exists`. -/
def nestedSource
    (table : TableId)
    (filters : List (FilterAssignmentExpr Expr)) : PolicySource :=
  { table := table
    explicit := true
    written := filters
    selectionPath := place.selectionPath
    variableScope := place.variableScope
    definitionScope := place.definitionScope }

/-- The sources of an aggregate in a predicate. -/
def aggregateSources
    (context : ClauseContext)
    (source : ScopedPath)
    (function : String)
    (operand : Option ScopedPath) : List PolicySource :=
  ((resolvePredicateAggregate catalog context source function
    operand).relation.map (fun relation =>
      place.nestedSource relation.table [])).toList

mutual

/-- The sources inside a predicate. -/
def predicateSources (context : ClauseContext) : Expr → List PolicySource
  | .path path => place.pathSources catalog context path
  | .aggregate source function operand =>
      place.aggregateSources catalog context source function operand
  | .unary _ operand | .nullTest operand _ =>
      predicateSources context operand
  | .binary _ lhs rhs =>
      predicateSources context lhs ++ predicateSources context rhs
  | .list items => itemSources context items
  | .exists source filters body =>
      match (resolveExistence catalog context source).source with
      | none => []
      | some resolved =>
          place.nestedSource resolved.tableId filters ::
            bodySources (context.nested resolved.tableId) body
  | .literal _ | .variable _ | .dynamicPredicate .. | .predicateRef _ |
    .error => []

/-- The sources of the items of a list. -/
def itemSources (context : ClauseContext) : List Expr → List PolicySource
  | [] => []
  | item :: items =>
      predicateSources context item ++ itemSources context items

/-- The sources of the body of an `exists`. -/
def bodySources (context : ClauseContext) : Option Expr → List PolicySource
  | none => []
  | some body => predicateSources context body

end

/-- What a source takes from the clause it is read in: its scope and the
filters it assigns. -/
structure Within
    (references : List (PolicyKind × String))
    (source : PolicySource) : Prop where
  scope : source.definitionScope = place.definitionScope
  named : ∀ assignment ∈ source.written,
    (PolicyKind.filter, assignment.name) ∈ references

variable {place catalog}

theorem Within.mono
    {references more : List (PolicyKind × String)}
    {source : PolicySource}
    (h : place.Within references source)
    (hsubset : references ⊆ more) :
    place.Within more source :=
  ⟨h.scope, fun assignment hassignment =>
    hsubset (h.named assignment hassignment)⟩

theorem mem_assignmentsPolicyReferences
    {filters : List (FilterAssignmentExpr Expr)}
    {assignment : FilterAssignmentExpr Expr}
    (h : assignment ∈ filters) :
    (PolicyKind.filter, assignment.name) ∈
      assignmentsPolicyReferences filters := by
  induction filters with
  | nil => cases h
  | cons first rest ih =>
      obtain ⟨name, condition⟩ := first
      rw [assignmentsPolicyReferences]
      rcases List.mem_cons.mp h with rfl | hrest
      · exact List.mem_append_left _ (List.mem_cons_self ..)
      · exact List.mem_append_right _ (ih hrest)

/-- Sources of paths assign nothing. -/
theorem within_pathSources
    {context : ClauseContext}
    {path : ScopedPath}
    {source : PolicySource}
    (h : source ∈ place.pathSources catalog context path) :
    place.Within [] source := by
  unfold pathSources at h
  split at h
  · cases h
  · obtain ⟨step, -, rfl⟩ := List.mem_map.mp h
    exact ⟨rfl, nofun⟩

/-- Sources of aggregates assign nothing. -/
theorem within_aggregateSources
    {context : ClauseContext}
    {path : ScopedPath}
    {function : String}
    {operand : Option ScopedPath}
    {source : PolicySource}
    (h : source ∈ place.aggregateSources catalog context path function
      operand) :
    place.Within [] source := by
  obtain ⟨relation, -, rfl⟩ :=
    Option.map_eq_some_iff.mp (Option.mem_toList.mp h)
  exact ⟨rfl, nofun⟩

mutual

/-- A source inside a predicate assigns only filters that the predicate
names. -/
theorem within_predicateSources
    (context : ClauseContext)
    (expr : Expr)
    (source : PolicySource)
    (h : source ∈ place.predicateSources catalog context expr) :
    place.Within (exprPolicyReferences expr) source := by
  cases expr with
  | path path =>
      rw [predicateSources] at h
      exact (within_pathSources h).mono (List.nil_subset _)
  | aggregate path function operand =>
      rw [predicateSources] at h
      exact (within_aggregateSources h).mono (List.nil_subset _)
  | unary op operand =>
      rw [predicateSources] at h
      rw [exprPolicyReferences]
      exact within_predicateSources context operand source h
  | nullTest operand negated =>
      rw [predicateSources] at h
      rw [exprPolicyReferences]
      exact within_predicateSources context operand source h
  | binary op lhs rhs =>
      rw [predicateSources] at h
      rw [exprPolicyReferences]
      rcases List.mem_append.mp h with hlhs | hrhs
      · exact (within_predicateSources context lhs source hlhs).mono
          (List.subset_append_left _ _)
      · exact (within_predicateSources context rhs source hrhs).mono
          (List.subset_append_right _ _)
  | list items =>
      rw [predicateSources] at h
      rw [exprPolicyReferences]
      exact within_itemSources context items source h
  | «exists» existsSource filters body =>
      rw [predicateSources] at h
      rw [exprPolicyReferences]
      split at h
      · cases h
      · rename_i resolved _
        rcases List.mem_cons.mp h with rfl | hbody
        · refine ⟨rfl, fun assignment hassignment => ?_⟩
          exact List.mem_append_left _
            (mem_assignmentsPolicyReferences hassignment)
        · exact (within_bodySources (context.nested resolved.tableId) body
            source hbody).mono (List.subset_append_right _ _)
  | literal | «variable» | dynamicPredicate | predicateRef | error =>
      rw [predicateSources] at h
      cases h

theorem within_itemSources
    (context : ClauseContext)
    (items : List Expr)
    (source : PolicySource)
    (h : source ∈ place.itemSources catalog context items) :
    place.Within (exprsPolicyReferences items) source := by
  cases items with
  | nil =>
      rw [itemSources] at h
      cases h
  | cons item items =>
      rw [itemSources] at h
      rw [exprsPolicyReferences]
      rcases List.mem_append.mp h with hitem | hitems
      · exact (within_predicateSources context item source hitem).mono
          (List.subset_append_left _ _)
      · exact (within_itemSources context items source hitems).mono
          (List.subset_append_right _ _)

theorem within_bodySources
    (context : ClauseContext)
    (body : Option Expr)
    (source : PolicySource)
    (h : source ∈ place.bodySources catalog context body) :
    place.Within (bodyPolicyReferences body) source := by
  cases body with
  | none =>
      rw [bodySources] at h
      cases h
  | some body =>
      rw [bodySources] at h
      rw [bodyPolicyReferences]
      exact within_predicateSources context body source h

end

variable (place catalog)

/-- The sources of a clause. -/
def clauseSources : ClauseFact → List PolicySource
  | .where_ expr => place.predicateSources catalog place.context expr
  | .filterAssignment _ | .orderBy _ | .limit _ | .offset _ => []

/-- The selection with the sources inside its clauses. -/
def sources : List PolicySource :=
  place.source :: place.clauses.flatMap (place.clauseSources catalog)

variable {place catalog}

/-- Whatever a source assigns is named by a clause of its selection. -/
theorem written_named
    {source : PolicySource}
    (h : source ∈ place.sources catalog) :
    source.definitionScope = place.definitionScope ∧
      ∀ assignment ∈ source.written,
        assignment.name ∈ place.clauses.flatMap clauseFilterReferences := by
  rcases List.mem_cons.mp h with rfl | hclause
  · refine ⟨rfl, fun assignment hassignment => ?_⟩
    obtain ⟨clause, hclause, hwritten⟩ := List.mem_filterMap.mp hassignment
    cases clause with
    | filterAssignment found =>
        cases hwritten
        refine List.mem_flatMap.mpr ⟨_, hclause, ?_⟩
        refine List.mem_map.mpr ⟨(.filter, assignment.name), ?_, rfl⟩
        exact List.mem_filter.mpr
          ⟨mem_assignmentsPolicyReferences (List.mem_singleton_self _), rfl⟩
    | where_ | orderBy | limit | offset => cases hwritten
  · obtain ⟨clause, hclause, hsource⟩ := List.mem_flatMap.mp hclause
    cases clause with
    | where_ expr =>
        have hwithin := within_predicateSources place.context expr source
          hsource
        refine ⟨hwithin.scope, fun assignment hassignment => ?_⟩
        refine List.mem_flatMap.mpr ⟨_, hclause, ?_⟩
        refine List.mem_map.mpr ⟨(.filter, assignment.name), ?_, rfl⟩
        exact List.mem_filter.mpr ⟨hwithin.named assignment hassignment, rfl⟩
    | filterAssignment | orderBy | limit | offset => cases hsource

end SelectionPlace

/-- A definition of a project with the places where it reads rows. -/
structure PolicyDefinition (project : PolicyProject)
    extends PolicyConsumer where
  places : List SelectionPlace
  /-- A place is a selection of the definition or of a body it expands. -/
  places_selected : ∀ place ∈ places, ∃ body ∈ toPolicyConsumer.closure,
    (∃ selection ∈ body.selections,
      selection.childContext = some place.table) ∧
    place.clauses ⊆ body.clauses
  places_visible : ∀ place ∈ places,
    place.definitionScope ∈ project.imports.visibleFrom scope
  fragment_header : isFragment = true → header = []

namespace PolicyProject

variable (project : PolicyProject)

/-- The filters of one name that a scope can see. -/
def filtersNamed (scope name : String) : List PolicySite :=
  project.sites.filter (fun site =>
    site.declaration.kind == .filter && site.declaration.name == name &&
      (project.imports.visibleFrom scope).contains site.scope)

/-- The filter of a name, when a scope sees exactly one. -/
def namedFilter (scope name : String) : Option PolicyEntity :=
  (Candidates.only (project.filtersNamed scope name)).map PolicySite.entity

/-- A filter that a scope can see guards a table. -/
structure GuardedBy
    (scope : String)
    (table : TableId)
    (site : PolicySite)
    (target : CompiledPolicyTarget) : Prop where
  declared : site ∈ project.sites
  kind : site.declaration.kind = .filter
  visible : site.scope ∈ project.imports.visibleFrom scope
  matched : table ∈ (project.entry site).matchedTables
  target :
    (project.compilePolicy site).targets.find? (fun target =>
      target.table == table) = some target

/-- The filters that apply to a table, with their compiled guards. -/
def Applies
    (scope : String)
    (table : TableId)
    (applied : CompiledPolicyEntry × CompiledPolicyTarget) : Prop :=
  ∃ site, project.GuardedBy scope table site applied.2 ∧
    applied.1 = project.compilePolicy site

end PolicyProject

namespace PolicyDefinition

variable {project : PolicyProject} (definition : PolicyDefinition project)

/-- All sources of a definition. -/
def sources : List PolicySource :=
  definition.places.flatMap (SelectionPlace.sources · project.catalog)

/-- The planner of a definition. -/
def planner : Planner :=
  definition.toPolicyConsumer.planner project

/-- The filter matches a selected table, or a clause names it. -/
def Indexes (site : PolicySite) : Prop :=
  (∃ table ∈ (project.entry site).matchedTables,
    table ∈ definition.surfaceTables project) ∨
  site.declaration.name ∈ definition.surfaceReferences

/-- Every filter that guards a source reaches the index. -/
def Covered : Prop :=
  ∀ source ∈ definition.sources, ∀ site target,
    project.GuardedBy definition.scope source.table site target →
    definition.Indexes site

/-- The checks accept the header and the assignments of every source. -/
structure Accepted (tables : List TableId) : Prop where
  header : Dsql.Accepted
    (definition.planner.checkOperationFilterAssignments tables
      definition.header)
  sources : ∀ source ∈ definition.sources,
    definition.planner.AcceptsSource source

variable {definition}

/-! ## The header -/

theorem planAssignmentExpr_planner
    (definitionScope filterName : String)
    (selectionPath : List String)
    (variableScope : VariablePathScope)
    (condition : Expr) :
    definition.planner.planAssignmentExpr definitionScope filterName
        selectionPath variableScope condition =
      (definition.basePlanner project).planAssignmentExpr definitionScope
        filterName selectionPath variableScope condition := by
  induction condition with
  | binary op lhs rhs ihlhs ihrhs =>
      simp only [Planner.planAssignmentExpr, ihlhs, ihrhs]
  | unary op operand ih =>
      simp only [Planner.planAssignmentExpr, ih]
  | nullTest operand negated ih =>
      simp only [Planner.planAssignmentExpr, ih]
  | literal value =>
      cases value <;> rfl
  | _ => rfl

/-- The assignments in force are those of the header, a fragment having
none. -/
theorem hasHeader : definition.planner.HasHeader definition.header := by
  have hplan : ∀ assignment,
      definition.planner.planAssignment assignment [] .operation
          definition.scope =
        (definition.basePlanner project).planAssignment assignment []
          .operation definition.scope := by
    intro assignment
    unfold Planner.planAssignment
    simp only [planAssignmentExpr_planner]
    rfl
  unfold Planner.HasHeader Planner.planAssignments
  rw [show definition.planner.scope = definition.scope from rfl,
    funext hplan]
  show (if definition.isFragment then [] else _) = _
  split
  · rename_i hfragment
    rw [definition.fragment_header hfragment]
    rfl
  · rfl

/-! ## What the index holds -/

/-- The index holds the visible filters that the definition uses. -/
theorem mem_definitionPolicies (site : PolicySite) :
    site ∈ definition.definitionPolicies project ↔
      site ∈ project.sites ∧ site.declaration.kind = .filter ∧
        site.scope ∈ project.imports.visibleFrom definition.scope ∧
        definition.Indexes site := by
  simp only [PolicyConsumer.definitionPolicies, List.mem_filter,
    Bool.and_eq_true, Bool.or_eq_true, List.any_eq_true,
    List.contains_iff_mem, beq_iff_eq, Indexes, and_assoc]

/-- A source sees what its definition sees. -/
theorem sees_of_mem
    {source : PolicySource}
    (h : source ∈ definition.sources) :
    source.definitionScope ∈
      project.imports.visibleFrom definition.scope := by
  obtain ⟨place, hplace, hsource⟩ := List.mem_flatMap.mp h
  rw [(SelectionPlace.written_named hsource).1]
  exact definition.places_visible place hplace

/-- The filters of the header are named by the definition. -/
theorem header_named
    {assignment : FilterAssignmentExpr Expr}
    (h : assignment ∈ definition.header) :
    assignment.name ∈ definition.surfaceReferences := by
  refine List.mem_append_right _ (List.mem_flatMap.mpr ⟨assignment, h, ?_⟩)
  refine List.mem_map.mpr ⟨(.filter, assignment.name), ?_, rfl⟩
  refine List.mem_filter.mpr ⟨?_, rfl⟩
  exact SelectionPlace.mem_assignmentsPolicyReferences
    (List.mem_singleton_self _)

/-- The filters of a source are named by the definition. -/
theorem written_named
    {source : PolicySource}
    (h : source ∈ definition.sources)
    {assignment : FilterAssignmentExpr Expr}
    (hassignment : assignment ∈ source.written) :
    assignment.name ∈ definition.surfaceReferences := by
  obtain ⟨place, hplace, hsource⟩ := List.mem_flatMap.mp h
  obtain ⟨body, hbody, -, hclauses⟩ := definition.places_selected place hplace
  obtain ⟨clause, hclause, hnamed⟩ := List.mem_flatMap.mp
    ((SelectionPlace.written_named hsource).2 assignment hassignment)
  exact List.mem_append_left _ (List.mem_flatMap.mpr
    ⟨body, hbody, List.mem_flatMap.mpr ⟨clause, hclauses hclause, hnamed⟩⟩)

/-- The index of the planner is compiled from the project. -/
theorem planner_entries :
    definition.planner.policyIndex.entries =
      (definition.definitionPolicies project).map project.entry :=
  rfl

theorem planner_imports : definition.planner.imports = project.imports :=
  rfl

/-- A filter that a clause or the header names is in the index whenever its
scope is visible. -/
theorem visible_eq
    {scope name : String}
    (hscope : scope ∈ project.imports.visibleFrom definition.scope)
    (hname : name ∈ definition.surfaceReferences) :
    definition.planner.policyIndex.visible scope .filter name
        definition.planner.imports =
      (project.filtersNamed scope name).map project.entry := by
  unfold PolicyIndex.visible PolicyProject.filtersNamed
  rw [planner_entries, planner_imports, PolicyConsumer.definitionPolicies,
    List.filter_map, List.filter_filter]
  congr 1
  apply List.filter_congr
  intro site hsite
  rw [Bool.eq_iff_iff]
  simp only [Function.comp_apply, PolicyProject.entry, resolveEntry,
    Bool.and_eq_true, Bool.or_eq_true, beq_iff_eq, List.contains_iff_mem]
  constructor
  · rintro ⟨hnamed, -⟩
    exact hnamed
  · rintro ⟨⟨hkind, rfl⟩, hvisible⟩
    exact ⟨⟨⟨hkind, rfl⟩, hvisible⟩,
      ⟨hkind, project.imports.visibleFrom_trans hscope hvisible⟩,
      .inr hname⟩

/-- A name of the definition denotes the one visible filter of the project
with that name. -/
theorem namedFilter_eq
    {scope name : String}
    (hscope : scope ∈ project.imports.visibleFrom definition.scope)
    (hname : name ∈ definition.surfaceReferences) :
    definition.planner.namedFilter scope name =
      project.namedFilter scope name := by
  unfold Planner.namedFilter PolicyProject.namedFilter
  rw [visible_eq hscope hname]
  cases project.filtersNamed scope name with
  | nil => rfl
  | cons first rest => cases rest <;> rfl

end PolicyDefinition

end Dsql
