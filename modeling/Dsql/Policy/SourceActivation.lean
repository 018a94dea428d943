import Dsql.Policy.Activation

/-!
# Activation at a source

A source takes the header assignments of its operation, replaced by its own
written assignments.  The module computes the guards of a source from the
assignments in force there, and characterises the headers for which no accepted
assignment is lost.
-/

namespace Dsql

open Logic

/-! ## Assignments in force -/

/-- The later assignment of a filter wins. -/
theorem assignmentFor_insertAssignment
    (assignments : List PlannedPolicyAssignment)
    (assignment : PlannedPolicyAssignment)
    (filter : PolicyEntity) :
    assignmentFor (insertAssignment assignments assignment) filter =
      if assignment.filter = filter then
        some assignment
      else
        assignmentFor assignments filter := by
  unfold assignmentFor insertAssignment
  by_cases h : assignment.filter = filter
  · simp [h]
  · simp only [h, List.find?_cons, List.find?_filter, if_false]
    rw [show (assignment.filter == filter) = false by simpa using h]
    show List.find? _ _ = List.find? _ _
    congr 1
    funext other
    by_cases hother : other.filter = filter
    · simp [hother, Ne.symm h]
    · simp [hother]

/-- A fold of assignments leaves the last one of every filter in force. -/
theorem assignmentFor_foldl
    (added assignments : List PlannedPolicyAssignment)
    (filter : PolicyEntity) :
    assignmentFor (added.foldl insertAssignment assignments) filter =
      (assignmentFor added.reverse filter).or
        (assignmentFor assignments filter) := by
  induction added generalizing assignments with
  | nil => simp [assignmentFor]
  | cons head rest ih =>
      rw [List.foldl_cons, ih, assignmentFor_insertAssignment]
      unfold assignmentFor
      rw [List.reverse_cons, List.find?_append]
      cases hrest : List.find? (fun assignment => assignment.filter == filter)
          rest.reverse with
      | some found => simp
      | none =>
          by_cases h : head.filter = filter
          · simp [h]
          · simp [h]

/-- Every assigned filter has a last assignment. -/
theorem assignmentFor_reverse_isSome
    {assignments : List PlannedPolicyAssignment}
    {assignment : PlannedPolicyAssignment}
    (h : assignment ∈ assignments) :
    ∃ found ∈ assignments,
      found.filter = assignment.filter ∧
        assignmentFor assignments.reverse assignment.filter = some found := by
  have hsome : (assignmentFor assignments.reverse
      assignment.filter).isSome = true := by
    unfold assignmentFor
    rw [List.find?_isSome]
    exact ⟨assignment, by simpa using h, by simp⟩
  obtain ⟨found, hfound⟩ := Option.isSome_iff_exists.mp hsome
  refine ⟨found, ?_, ?_, hfound⟩
  · have hmem := List.mem_of_find?_eq_some hfound
    simpa using hmem
  · simpa using List.find?_some hfound

/-- A filter without assignments has none. -/
theorem assignmentFor_eq_none
    {assignments : List PlannedPolicyAssignment}
    {filter : PolicyEntity}
    (h : ∀ assignment ∈ assignments, assignment.filter ≠ filter) :
    assignmentFor assignments filter = none := by
  unfold assignmentFor
  rw [List.find?_eq_none]
  intro assignment hassignment
  simpa using h assignment hassignment

/-! ## Sources -/

/-- A place where rows are read: a selection, or an `exists` in a clause. -/
structure PolicySource where
  table : TableId
  explicit : Bool
  written : List (FilterAssignmentExpr Expr)
  selectionPath : List String
  variableScope : VariablePathScope
  definitionScope : String

namespace Planner

variable (planner : Planner)

/-- The planner of an operation with the given header. -/
def HasHeader (header : List (FilterAssignmentExpr Expr)) : Prop :=
  planner.operationAssignments =
    planner.planAssignments header [] .operation planner.scope

def policiesAt (source : PolicySource) : SourcePolicyPlan :=
  planner.planSourcePolicies source.table
    (if source.explicit then [] else source.written)
    (if source.explicit then source.written else [])
    source.selectionPath source.variableScope source.definitionScope

def assignmentsAt (source : PolicySource) : List PlannedPolicyAssignment :=
  (planner.planAssignments source.written source.selectionPath
    source.variableScope source.definitionScope).foldl insertAssignment
    (planner.operationAssignments.foldl insertAssignment [])

/-- The assignment of a filter that a source obeys. -/
def inForce
    (source : PolicySource)
    (filter : PolicyEntity) : Option FilterExpr :=
  (assignmentFor (planner.assignmentsAt source) filter).map
    PlannedPolicyAssignment.desired

/-- The state asked of a filter at a source. -/
def desiredAt
    (source : PolicySource)
    (compiled : CompiledPolicyEntry) : FilterExpr :=
  desiredState (planner.assignmentsAt source) compiled

/-- The compiled guards of some filters over one table. -/
def appliedPolicies
    (table : TableId)
    (identities : List PolicyEntity) :
    List (CompiledPolicyEntry × CompiledPolicyTarget) :=
  identities.filterMap (fun identity =>
    match planner.compiledPolicies.entry identity,
        planner.compiledPolicies.target identity table with
    | some compiled, some target => some (compiled, target)
    | _, _ => none)

/-- The filters that apply at a source. -/
def appliedAt
    (source : PolicySource) :
    List (CompiledPolicyEntry × CompiledPolicyTarget) :=
  planner.appliedPolicies source.table
    (planner.applicableFilters source.table (planner.assignmentsAt source))

/-- The filter a name denotes in a scope, when it denotes exactly one. -/
def namedFilter (scope name : String) : Option PolicyEntity :=
  match planner.policyIndex.visible scope .filter name planner.imports with
  | [filter] => some filter.entity
  | _ => none

/-- A source that the checks accept. -/
def AcceptsSource (source : PolicySource) : Prop :=
  Accepted (planner.checkSourceAssignments source.definitionScope
    source.table source.written)

/-- The source writes an assignment of the filter itself. -/
def Assigns (source : PolicySource) (filter : PolicyEntity) : Prop :=
  ∃ assignment ∈ source.written,
    planner.namedFilter source.definitionScope assignment.name = some filter

/-- The assignments of a source, written either way. -/
theorem sourceAssignments_eq_assignmentsAt (source : PolicySource) :
    planner.sourceAssignments
        (if source.explicit then [] else source.written)
        (if source.explicit then source.written else [])
        source.selectionPath source.variableScope source.definitionScope =
      planner.assignmentsAt source := by
  unfold sourceAssignments assignmentsAt
  cases source.explicit <;> simp [planAssignments]

section Guards

variable (atoms : FilterExpr → Truth)

/-- What all filters together do to the rows. -/
theorem guardTruth_foldl_applyIdentity
    (table : TableId)
    (assignments : List PlannedPolicyAssignment)
    (selectionPath : List String)
    (identities : List PolicyEntity)
    (plan : SourcePolicyPlan) :
    guardTruth atoms
        (identities.foldl
          (planner.applyIdentity table assignments selectionPath)
          plan).rowFilter =
      (guardTruth atoms plan.rowFilter).and
        (.all ((planner.appliedPolicies table identities).map (fun applied =>
          rowRuleTruth atoms applied.2
            (desiredState assignments applied.1)))) := by
  induction identities generalizing plan with
  | nil => simp [appliedPolicies]
  | cons identity rest ih =>
      rw [List.foldl_cons, ih]
      unfold applyIdentity
      cases hentry : planner.compiledPolicies.entry identity with
      | none => simp [appliedPolicies, hentry]
      | some compiled =>
          cases htarget : planner.compiledPolicies.target identity table with
          | none => simp [appliedPolicies, hentry, htarget]
          | some target =>
              simp [appliedPolicies, hentry, htarget,
                guardTruth_applyPolicy, Truth.and_assoc]

/-- What all filters together do to a field. -/
theorem fieldTruth_foldl_applyIdentity
    (table : TableId)
    (assignments : List PlannedPolicyAssignment)
    (selectionPath : List String)
    (identities : List PolicyEntity)
    (plan : SourcePolicyPlan)
    (field : PolicyFieldTarget) :
    fieldTruth atoms
        (identities.foldl
          (planner.applyIdentity table assignments selectionPath)
          plan).fieldFilters field =
      (fieldTruth atoms plan.fieldFilters field).and
        (.all ((planner.appliedPolicies table identities).map (fun applied =>
          fieldRulesTruth atoms applied.2
            (desiredState assignments applied.1) field))) := by
  induction identities generalizing plan with
  | nil => simp [appliedPolicies]
  | cons identity rest ih =>
      rw [List.foldl_cons, ih]
      unfold applyIdentity
      cases hentry : planner.compiledPolicies.entry identity with
      | none => simp [appliedPolicies, hentry]
      | some compiled =>
          cases htarget : planner.compiledPolicies.target identity table with
          | none => simp [appliedPolicies, hentry, htarget]
          | some target =>
              simp [appliedPolicies, hentry, htarget,
                fieldTruth_applyPolicy, Truth.and_assoc]

/-- The row guard of a source is the conjunction of its row rules. -/
theorem guardTruth_policiesAt (source : PolicySource) :
    guardTruth atoms (planner.policiesAt source).rowFilter =
      .all ((planner.appliedAt source).map (fun applied =>
        rowRuleTruth atoms applied.2
          (planner.desiredAt source applied.1))) := by
  unfold policiesAt planSourcePolicies
  simp only [sourceAssignments_eq_assignmentsAt,
    guardTruth_foldl_applyIdentity]
  simp [SourcePolicyPlan.empty, appliedAt, desiredAt]

/-- The guard of a field is the conjunction of the rules that name it. -/
theorem fieldTruth_policiesAt
    (source : PolicySource)
    (field : PolicyFieldTarget) :
    fieldTruth atoms (planner.policiesAt source).fieldFilters field =
      .all ((planner.appliedAt source).map (fun applied =>
        fieldRulesTruth atoms applied.2
          (planner.desiredAt source applied.1) field)) := by
  unfold policiesAt planSourcePolicies
  simp only [sourceAssignments_eq_assignmentsAt,
    fieldTruth_foldl_applyIdentity]
  simp [SourcePolicyPlan.empty, appliedAt, desiredAt, fieldTruth,
    policyFieldFilter]

end Guards

end Planner

/-! ## Accepted assignments -/

namespace Planner

variable (planner : Planner)

/-- A filter is named where the name finds one entry. -/
theorem namedFilter_eq_some
    {scope name : String}
    {filter : PolicyEntity}
    (h : planner.namedFilter scope name = some filter) :
    ∃ entry, planner.policyIndex.visible scope .filter name planner.imports =
      [entry] ∧ entry.entity = filter := by
  unfold namedFilter at h
  split at h
  case h_1 entry hvisible =>
    exact ⟨entry, hvisible, by simpa using h⟩
  case h_2 => cases h

/-- Different names never denote one filter. -/
theorem namedFilter_injective
    {scope left right : String}
    {filter : PolicyEntity}
    (hleft : planner.namedFilter scope left = some filter)
    (hright : planner.namedFilter scope right = some filter) :
    left = right := by
  obtain ⟨first, hfirst, rfl⟩ := planner.namedFilter_eq_some hleft
  obtain ⟨second, hsecond, hentity⟩ := planner.namedFilter_eq_some hright
  have hf : first ∈ planner.policyIndex.visible scope .filter left
      planner.imports := by
    simp [hfirst]
  have hs : second ∈ planner.policyIndex.visible scope .filter right
      planner.imports := by
    simp [hsecond]
  obtain ⟨hfmem, -, hfname, -⟩ := PolicyIndex.mem_visible hf
  obtain ⟨hsmem, -, hsname, -⟩ := PolicyIndex.mem_visible hs
  have heq := planner.policyIndex.entity_injective hsmem hfmem hentity
  rw [← hfname, ← hsname, heq]

/-- A planned assignment names its filter. -/
theorem namedFilter_of_planAssignment
    {assignment : FilterAssignmentExpr Expr}
    {selectionPath : List String}
    {variableScope : VariablePathScope}
    {definitionScope : String}
    {planned : PlannedPolicyAssignment}
    (h : planner.planAssignment assignment selectionPath variableScope
      definitionScope = some planned) :
    planner.namedFilter definitionScope assignment.name =
      some planned.filter := by
  unfold planAssignment at h
  unfold namedFilter
  cases hvisible : planner.policyIndex.visible definitionScope .filter
      assignment.name planner.imports with
  | nil => simp [hvisible] at h
  | cons filter others =>
      cases others with
      | cons other others => simp [hvisible] at h
      | nil =>
          cases hcondition : assignment.condition with
          | none =>
              simp only [hvisible, hcondition, Option.some.injEq] at h
              simp [← h]
          | some condition =>
              simp only [hvisible, hcondition] at h
              split at h
              · cases h
              · simp only [Option.some.injEq] at h
                simp [← h]

/-- An accepted assignment names one filter and is planned with the state it
asks for. -/
theorem planAssignment_of_accepted
    {scope : String}
    {tables : List TableId}
    {operationWide duplicate : Bool}
    {assignment : FilterAssignmentExpr Expr}
    (selectionPath : List String)
    (variableScope : VariablePathScope)
    (h : Accepted (planner.checkFilterAssignmentForTables scope tables
      operationWide duplicate assignment)) :
    duplicate = false ∧
      ∃ planned, planner.planAssignment assignment selectionPath variableScope
          scope = some planned ∧
        ∀ compare input, planned.desired.conditionTruth compare input =
          assignment.truth selectionPath variableScope compare input := by
  unfold checkFilterAssignmentForTables at h
  simp only at h
  split at h
  case h_1 => simp at h
  case h_3 => simp at h
  case h_2 filter hvisible =>
    simp only [accepted_append] at h
    obtain ⟨⟨-, hduplicate⟩, hcondition⟩ := h
    refine ⟨by cases duplicate <;> simp_all, ?_⟩
    unfold planAssignment
    rw [hvisible]
    unfold checkAssignmentCondition at hcondition
    unfold FilterAssignmentExpr.truth
    cases hwritten : assignment.condition with
    | none => exact ⟨_, rfl, by simp⟩
    | some condition =>
        simp only [hwritten, accepted_append] at hcondition
        obtain ⟨⟨hindependent, -⟩, hcontexts⟩ := hcondition
        have hindependent : assignmentExprIsRowIndependent condition = true := by
          by_contra hnot
          simp [hnot] at hindependent
        obtain ⟨planned, hplanned⟩ := planner.planAssignmentExpr_isSome
          (lowerSnakeCase assignment.name) selectionPath variableScope
          hindependent hcontexts
        refine ⟨⟨filter.entity, planned.1, planned.2⟩, by simp [hplanned], ?_⟩
        intro compare input
        exact planner.conditionTruth_planAssignmentExpr compare input hplanned

theorem accepted_checkSourceAssignmentsFrom
    {scope : String}
    {table : TableId}
    {seen : List String}
    {assignments : List (FilterAssignmentExpr Expr)}
    (h : Accepted (planner.checkSourceAssignmentsFrom scope table seen
      assignments)) :
    (∀ assignment ∈ assignments,
        Accepted (planner.checkFilterAssignmentForTables scope [table] false
          false assignment) ∧ assignment.name ∉ seen) ∧
      (assignments.map FilterAssignmentExpr.name).Nodup := by
  induction assignments generalizing seen with
  | nil => simp
  | cons head rest ih =>
      simp only [checkSourceAssignmentsFrom, accepted_append] at h
      obtain ⟨hhead, hrest⟩ := h
      obtain ⟨hall, hnodup⟩ := ih hrest
      have hfresh := (planner.planAssignment_of_accepted [] .operation hhead).1
      rw [hfresh] at hhead
      have hhead' : head.name ∉ seen := by
        simpa using hfresh
      refine ⟨?_, ?_⟩
      · intro assignment hassignment
        rcases List.mem_cons.mp hassignment with rfl | hmem
        · exact ⟨hhead, hhead'⟩
        · obtain ⟨haccepted, hseen⟩ := hall assignment hmem
          exact ⟨haccepted, fun hin => hseen (List.mem_cons_of_mem _ hin)⟩
      · rw [List.map_cons, List.nodup_cons]
        refine ⟨?_, hnodup⟩
        intro hin
        obtain ⟨other, hother, hname⟩ := List.mem_map.mp hin
        exact (hall other hother).2 (by simp [hname])

/-- The planned assignments are those whose filters are found. -/
theorem mem_planAssignments
    {assignments : List (FilterAssignmentExpr Expr)}
    {selectionPath : List String}
    {variableScope : VariablePathScope}
    {definitionScope : String}
    {planned : PlannedPolicyAssignment} :
    planned ∈ planner.planAssignments assignments selectionPath variableScope
        definitionScope ↔
      ∃ assignment ∈ assignments,
        planner.planAssignment assignment selectionPath variableScope
          definitionScope = some planned := by
  simp [planAssignments]

/-- Among accepted assignments of one place, every assignment of a filter is
represented by one of the same name. -/
theorem assignmentFor_planAssignments
    (selectionPath : List String)
    (variableScope : VariablePathScope)
    {assignments : List (FilterAssignmentExpr Expr)}
    {scope : String}
    {tables : List TableId}
    {operationWide : Bool}
    (haccepted : ∀ assignment ∈ assignments,
      Accepted (planner.checkFilterAssignmentForTables scope tables
        operationWide false assignment))
    {assignment : FilterAssignmentExpr Expr}
    (hmem : assignment ∈ assignments)
    {filter : PolicyEntity}
    (hnamed : planner.namedFilter scope assignment.name = some filter) :
    ∃ representative ∈ assignments, ∃ planned,
      representative.name = assignment.name ∧
        planner.planAssignment representative selectionPath variableScope
          scope = some planned ∧
        assignmentFor (planner.planAssignments assignments selectionPath
          variableScope scope).reverse filter = some planned := by
  obtain ⟨-, planned, hplanned, -⟩ := planner.planAssignment_of_accepted
    selectionPath variableScope (haccepted assignment hmem)
  have hfilter : planned.filter = filter := by
    have h := planner.namedFilter_of_planAssignment hplanned
    rw [hnamed] at h
    simpa using h.symm
  have hin : planned ∈ planner.planAssignments assignments selectionPath
      variableScope scope :=
    planner.mem_planAssignments.mpr ⟨assignment, hmem, hplanned⟩
  obtain ⟨found, hfound, hsame, hfor⟩ := assignmentFor_reverse_isSome hin
  obtain ⟨representative, hrepresentative, hplan⟩ :=
    planner.mem_planAssignments.mp hfound
  refine ⟨representative, hrepresentative, found, ?_, hplan, ?_⟩
  · have h := planner.namedFilter_of_planAssignment hplan
    rw [hsame, hfilter] at h
    exact planner.namedFilter_injective h hnamed
  · rw [← hfilter]
    exact hfor

/-- A place that names no assignment of a filter puts none in force. -/
theorem assignmentFor_planAssignments_eq_none
    {assignments : List (FilterAssignmentExpr Expr)}
    {selectionPath : List String}
    {variableScope : VariablePathScope}
    {scope : String}
    {filter : PolicyEntity}
    (h : ¬ ∃ assignment ∈ assignments,
      planner.namedFilter scope assignment.name = some filter) :
    assignmentFor (planner.planAssignments assignments selectionPath
      variableScope scope).reverse filter = none := by
  apply assignmentFor_eq_none
  intro planned hplanned hfilter
  obtain ⟨assignment, hmem, hplan⟩ :=
    planner.mem_planAssignments.mp (List.mem_reverse.mp hplanned)
  have hnamed := planner.namedFilter_of_planAssignment hplan
  rw [hfilter] at hnamed
  exact h ⟨assignment, hmem, hnamed⟩

/-- A source's own assignment goes before the header's. -/
theorem assignmentFor_assignmentsAt
    {header : List (FilterAssignmentExpr Expr)}
    (hheader : planner.HasHeader header)
    (source : PolicySource)
    (filter : PolicyEntity) :
    assignmentFor (planner.assignmentsAt source) filter =
      (assignmentFor (planner.planAssignments source.written
          source.selectionPath source.variableScope
          source.definitionScope).reverse filter).or
        (assignmentFor (planner.planAssignments header [] .operation
          planner.scope).reverse filter) := by
  unfold assignmentsAt
  rw [assignmentFor_foldl, assignmentFor_foldl, hheader]
  simp [assignmentFor]

/-! ## What planning keeps -/

/-- A planned state that means what the assignment asks for. -/
def Denotes
    (desired : FilterExpr)
    (assignment : FilterAssignmentExpr Expr)
    (selectionPath : List String)
    (variableScope : VariablePathScope) : Prop :=
  ∀ compare input, desired.conditionTruth compare input =
    assignment.truth selectionPath variableScope compare input

/-- An assignment of a source is in force at that source. -/
theorem inForce_of_written
    {header : List (FilterAssignmentExpr Expr)}
    (hheader : planner.HasHeader header)
    {source : PolicySource}
    (hsource : planner.AcceptsSource source)
    {assignment : FilterAssignmentExpr Expr}
    (hmem : assignment ∈ source.written)
    {filter : PolicyEntity}
    (hnamed : planner.namedFilter source.definitionScope assignment.name =
      some filter) :
    ∃ desired, planner.inForce source filter = some desired ∧
      Denotes desired assignment source.selectionPath source.variableScope := by
  obtain ⟨hall, hnodup⟩ := planner.accepted_checkSourceAssignmentsFrom hsource
  obtain ⟨representative, hrep, planned, hname, hplan, hfor⟩ :=
    planner.assignmentFor_planAssignments source.selectionPath
      source.variableScope
      (fun other hother => (hall other hother).1) hmem hnamed
  have hsame : representative = assignment :=
    List.inj_on_of_nodup_map hnodup hrep hmem hname
  subst hsame
  obtain ⟨-, again, hagain, hdenotes⟩ := planner.planAssignment_of_accepted
    source.selectionPath source.variableScope (hall _ hrep).1
  rw [hplan] at hagain
  obtain rfl := Option.some.inj hagain
  refine ⟨planned.desired, ?_, hdenotes⟩
  unfold inForce
  rw [planner.assignmentFor_assignmentsAt hheader, hfor]
  rfl

/-- Where a source does not assign a filter, the last header assignment of
that name is in force. -/
theorem inForce_of_header
    {header : List (FilterAssignmentExpr Expr)}
    (hheader : planner.HasHeader header)
    {tables : List TableId}
    (haccepted :
      Accepted (planner.checkOperationFilterAssignments tables header))
    {source : PolicySource}
    {assignment : FilterAssignmentExpr Expr}
    (hmem : assignment ∈ header)
    {filter : PolicyEntity}
    (hnamed : planner.namedFilter planner.scope assignment.name = some filter)
    (hunassigned : ¬ planner.Assigns source filter) :
    ∃ representative ∈ header, representative.name = assignment.name ∧
      ∃ desired, planner.inForce source filter = some desired ∧
        Denotes desired representative [] .operation := by
  have hall : ∀ other ∈ header,
      Accepted (planner.checkFilterAssignmentForTables planner.scope tables
        true false other) := by
    simpa [checkOperationFilterAssignments] using haccepted
  obtain ⟨representative, hrep, planned, hname, hplan, hfor⟩ :=
    planner.assignmentFor_planAssignments [] .operation hall hmem hnamed
  obtain ⟨-, again, hagain, hdenotes⟩ := planner.planAssignment_of_accepted
    [] .operation (hall _ hrep)
  rw [hplan] at hagain
  obtain rfl := Option.some.inj hagain
  refine ⟨representative, hrep, hname, planned.desired, ?_, hdenotes⟩
  unfold inForce
  rw [planner.assignmentFor_assignmentsAt hheader,
    planner.assignmentFor_planAssignments_eq_none hunassigned, hfor]
  rfl

end Planner

end Dsql
