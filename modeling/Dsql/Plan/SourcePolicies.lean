import Dsql.Plan.Connectives
import Dsql.Policy.Index
import Mathlib.Data.List.Sort

/-!
# Policies of one row source

Filter assignments and the guards they activate.  A source takes the
assignments of the operation, replaced by its own, and composes for every
applicable filter a row guard and the guards of the fields its rules name.
-/

namespace Dsql

/-- What a trusted value is declared as, or what a use requires of it. -/
structure ContextValueContract where
  dataType : DataType
  wire : WireEncoding
  providerType : Option TypeKey
  collection : Bool
  closedValues : List String
deriving DecidableEq, Repr

/-- A type of the context as messages show it. -/
def ContextValueContract.typeLabel
    (contract : ContextValueContract) : String :=
  let base :=
    match contract.providerType with
    | none => contract.dataType.asStr
    | some key => key.schema ++ "::" ++ key.name
  if contract.collection then base ++ "[]" else base

/-- Whether the declared type serves a use, leaving collections aside. -/
def ContextValueContract.typeMatches
    (declared expected : ContextValueContract) : Bool :=
  if declared.wire = .textCast ∨ expected.wire = .textCast then
    declared.wire == expected.wire &&
      declared.providerType == expected.providerType
  else
    declared.dataType == expected.dataType && declared.wire == expected.wire

/-- A use of the context fits its declaration. -/
def validateContextUse
    (name : String)
    (declared expected : ContextValueContract) :
    Except String (List String) :=
  if !declared.typeMatches expected ||
      declared.collection != expected.collection then
    .error ("trusted context `context." ++ name ++ "` is declared as `" ++
      declared.typeLabel ++ "` but this use requires `" ++
      expected.typeLabel ++ "`")
  else if expected.closedValues.isEmpty then
    .ok declared.closedValues
  else if declared.closedValues.isEmpty ||
      expected.closedValues.all (fun value =>
        declared.closedValues.contains value) then
    .ok expected.closedValues
  else
    .error ("trusted context `context." ++ name ++
      "` does not allow every value required by this use")

/-- What a use of the context resolves to. -/
inductive ContextUseResolution where
  | unknown
  | ambiguous (providers : List String)
  | invalid
  | resolved (contract : ContextValueContract)
deriving DecidableEq, Repr

/-- One inferred public input of a definition. -/
structure VariableBinding where
  path : InputPath
  role : VariableRole
  dataType : DataType
  wire : WireEncoding
  providerType : Option TypeKey
  collection : Bool
  nullable : Bool
deriving DecidableEq, Repr

/-- An assignment with the state that it asks for. -/
structure PlannedPolicyAssignment where
  filter : PolicyEntity
  desired : FilterExpr
  context : List PolicyContextRequirement

/-- What planning one definition reads. -/
structure Planner where
  catalog : Catalog
  imports : ScopeImports
  scope : String
  policyIndex : PolicyIndex
  compiledPolicies : CompiledPolicyIndex
  /-- A filter is compiled only for tables it matches. -/
  compiled_matched : ∀ entry ∈ policyIndex.entries, ∀ table target,
    compiledPolicies.target entry.entity table = some target →
      table ∈ entry.matchedTables
  bindings : List VariableBinding
  /-- Resolution of a trusted context name used in a scope. -/
  contexts : String → String → ContextUseResolution
  operationAssignments : List PlannedPolicyAssignment

/-- Without policies nothing is compiled. -/
theorem nothing_compiled :
    ∀ entry ∈ (⟨[], List.nodup_nil⟩ : PolicyIndex).entries, ∀ table target,
      (⟨[]⟩ : CompiledPolicyIndex).target entry.entity table = some target →
        table ∈ entry.matchedTables := by
  intro found hfound
  cases hfound

/-- What an assignment asks for, as the metadata names it. -/
inductive PolicyAssignmentState where
  | default
  | enabled
  | disabled
  | conditional
deriving DecidableEq, Repr

/-- Whether a filter is enforced whatever is assigned. -/
inductive PolicyEnforcement where
  | none
  | always
  | conditional
deriving DecidableEq, Repr

/-- A field that a filter guards. -/
structure PolicyApplicationField where
  target : PolicyFieldTarget
  access : PolicyAccess
deriving DecidableEq, Repr

/-- One filter applied to one source, as audit data reports it. -/
structure PolicyApplicationPlan where
  filter : PolicyEntity
  identity : PolicyIdentity
  conditions : List PolicyIdentity
  path : List String
  target : TableId
  defaultActive : Bool
  enforcement : PolicyEnforcement
  assignment : PolicyAssignmentState
  rowsFiltered : Bool
  fields : List PolicyApplicationField
  context : List PolicyContextRequirement
deriving DecidableEq, Repr

/-- The guards of a source, and what is published of them. -/
structure SourcePolicyPlan where
  rowFilter : Option FilterExpr
  fieldFilters : List (PolicyFieldFilter FilterExpr)
  applications : List PolicyApplicationPlan
  /-- Context requirements of the row guards. -/
  context : List PolicyContextRequirement

/-- No filter applies. -/
def SourcePolicyPlan.empty : SourcePolicyPlan :=
  ⟨none, [], [], []⟩

/-- The contract that an assignment condition requires of trusted context. -/
def booleanContext : ContextValueContract :=
  { dataType := .boolean
    wire := .boolean
    providerType := none
    collection := false
    closedValues := [] }

namespace Planner

variable (planner : Planner)

/-- A trusted value read by an assignment condition. -/
def planAssignmentContext
    (definitionScope name : String) :
    Option (FilterExpr × List PolicyContextRequirement) :=
  match planner.contexts definitionScope name with
  | .resolved declared =>
      match validateContextUse name declared booleanContext with
      | .error _ => none
      | .ok _ =>
          some
            (.parameter
              { path := ["context", name]
                textCast :=
                  if declared.wire = .textCast then declared.providerType
                  else none
                collection := declared.collection },
              [{ path := ["context", name]
                 dataType := declared.dataType
                 wire := declared.wire
                 providerType := declared.providerType
                 collection := declared.collection }])
  | _ => none

/-- A variable in an assignment, as an input or a spread value. -/
def planAssignmentVariable
    (definitionScope filterName : String)
    (selectionPath : List String)
    (variableScope : VariablePathScope)
    (reference : VariableRef) :
    Option (FilterExpr × List PolicyContextRequirement) :=
  if reference.sigil = .context then
    match reference.name with
    | none => none
    | some name => planner.planAssignmentContext definitionScope name
  else
    some
      (.parameter
        { path := variablePath selectionPath
            ⟨.filterAssignment, [filterName], none⟩ variableScope
            reference.sigil reference.name
          textCast := none
          collection := false }, [])

/-- The operator of a binary assignment condition. -/
def assignmentOperator : BinaryOp → Option FilterOp
  | .and => some .and
  | .or => some .or
  | .comparison op => some (.ofComparison op)
  | .isIn | .notIn | .variable _ => none

/-- A filter assignment's condition.  `filterName` is the snake-case name of
the assigned filter, which structured inputs of the condition are named by. -/
@[grind =]
def planAssignmentExpr
    (definitionScope filterName : String)
    (selectionPath : List String)
    (variableScope : VariablePathScope) :
    Expr → Option (FilterExpr × List PolicyContextRequirement)
  | .variable reference =>
      planner.planAssignmentVariable definitionScope filterName
        selectionPath variableScope reference
  | .literal (.bool value) => some (booleanFilter value, [])
  | .unary _ operand => do
      let planned ← planAssignmentExpr definitionScope filterName
        selectionPath variableScope operand
      some (notFilter planned.1, planned.2)
  | .binary op lhs rhs => do
      let left ← planAssignmentExpr definitionScope filterName
        selectionPath variableScope lhs
      let right ← planAssignmentExpr definitionScope filterName
        selectionPath variableScope rhs
      let op ← assignmentOperator op
      some (.binary left.1 op right.1, left.2 ++ right.2)
  | .nullTest operand negated => do
      let planned ← planAssignmentExpr definitionScope filterName
        selectionPath variableScope operand
      some (.nullTest planned.1 negated, planned.2)
  | _ => none

/-- The snake-case spelling of a filter name. -/
def lowerSnakeCase (name : String) : String :=
  String.ofList (name.toList.zipIdx.flatMap (fun entry =>
    if entry.1.isUpper then
      if entry.2 = 0 then [entry.1.toLower] else ['_', entry.1.toLower]
    else
      [entry.1]))

/-- An assignment of a filter that exactly one visible declaration names. -/
def planAssignment
    (assignment : FilterAssignmentExpr Expr)
    (selectionPath : List String)
    (variableScope : VariablePathScope)
    (definitionScope : String) : Option PlannedPolicyAssignment :=
  match planner.policyIndex.visible definitionScope .filter assignment.name
      planner.imports with
  | [filter] =>
      match assignment.condition with
      | none => some ⟨filter.entity, booleanFilter true, []⟩
      | some condition =>
          match planner.planAssignmentExpr definitionScope
              (lowerSnakeCase assignment.name) selectionPath variableScope
              condition with
          | none => none
          | some planned => some ⟨filter.entity, planned.1, planned.2⟩
  | _ => none

/-- The assignments whose filters are found. -/
def planAssignments
    (assignments : List (FilterAssignmentExpr Expr))
    (selectionPath : List String)
    (variableScope : VariablePathScope)
    (definitionScope : String) : List PlannedPolicyAssignment :=
  assignments.filterMap (fun assignment =>
    planner.planAssignment assignment selectionPath variableScope
      definitionScope)

end Planner

/-- The assignments in force by filter; a later one replaces an earlier. -/
def insertAssignment
    (assignments : List PlannedPolicyAssignment)
    (assignment : PlannedPolicyAssignment) : List PlannedPolicyAssignment :=
  assignment ::
    assignments.filter (fun other => other.filter != assignment.filter)

/-- The assignment of a filter. -/
def assignmentFor
    (assignments : List PlannedPolicyAssignment)
    (filter : PolicyEntity) : Option PlannedPolicyAssignment :=
  assignments.find? (fun assignment => assignment.filter == filter)

/-- A set of policy identities in entity order. -/
def insertIdentity
    (identity : PolicyEntity) : List PolicyEntity → List PolicyEntity
  | [] => [identity]
  | head :: rest =>
      if identity = head then head :: rest
      else if identity.index < head.index then identity :: head :: rest
      else head :: insertIdentity identity rest

/-- Filters in their order, each once. -/
def identitySet (identities : List PolicyEntity) : List PolicyEntity :=
  identities.foldr insertIdentity []

mutual

/-- The inputs a filter reads. -/
def filterParameterPaths : FilterExpr → List InputPath
  | .optional parameter operand =>
      parameter.path :: filterParameterPaths operand
  | .parameter parameter => [parameter.path]
  | .binary left _ right | .variantBinary left _ _ right =>
      filterParameterPaths left ++ filterParameterPaths right
  | .not operand | .nullTest operand _ => filterParameterPaths operand
  | .membership operand (.list items) _ =>
      filterParameterPaths operand ++ filtersParameterPaths items
  | .membership operand (.parameter parameter) _ =>
      filterParameterPaths operand ++ [parameter.path]
  | .exists _ _ _ _ policyFilter fieldFilters filter =>
      guardParameterPaths policyFilter ++ guardParameterPaths filter ++
        fieldsParameterPaths fieldFilters
  | .relationAggregate _ _ _ _ policyFilter fieldFilters =>
      guardParameterPaths policyFilter ++ fieldsParameterPaths fieldFilters
  | .absent | .column .. | .literal _ | .dynamicPredicate .. => []

/-- The inputs of filters. -/
def filtersParameterPaths : List FilterExpr → List InputPath
  | [] => []
  | item :: items => filterParameterPaths item ++ filtersParameterPaths items

/-- The inputs of a guard that may be missing. -/
def guardParameterPaths : Option FilterExpr → List InputPath
  | none => []
  | some filter => filterParameterPaths filter

/-- The inputs of the guards of fields. -/
def fieldsParameterPaths :
    List (PolicyFieldFilter FilterExpr) → List InputPath
  | [] => []
  | ⟨_, filter, _⟩ :: fields =>
      filterParameterPaths filter ++ fieldsParameterPaths fields

end

/-- Requirements of a guard: those of its target and of its assignment whose
input the guard reads. -/
def collectPolicyContext
    (target : CompiledPolicyTarget)
    (assignment : Option PlannedPolicyAssignment)
    (filter : FilterExpr) : List PolicyContextRequirement :=
  let paths := filterParameterPaths filter
  let used := fun (requirement : PolicyContextRequirement) =>
    paths.contains requirement.path
  target.context.filter used ++
    (match assignment with
      | none => []
      | some assignment => assignment.context.filter used)

/-- Adds the requirements that are new. -/
def extendUniqueContext
    (context requirements : List PolicyContextRequirement) :
    List PolicyContextRequirement :=
  requirements.foldl
    (fun context requirement =>
      if requirement ∈ context then context else context ++ [requirement])
    context

/-- A path with dots between its parts. -/
def pathText (path : InputPath) : String :=
  String.intercalate "." path

/-- Columns come before relations. -/
def policyFieldTargetSortKey : PolicyFieldTarget → Nat × Nat
  | .column column => (0, column.index)
  | .relation relation => (1, relation.index)

/-- Reports a guarded field of one application, keeping the strongest
dependency. -/
def recordApplicationField
    (fields : List PolicyApplicationField)
    (target : PolicyFieldTarget)
    (access : PolicyAccess) : List PolicyApplicationField :=
  if access = .unconditional then
    fields
  else if fields.any (fun field => field.target == target) then
    fields.map (fun field =>
      if field.target = target then
        { field with access := field.access.combine access }
      else
        field)
  else
    fields ++ [⟨target, access⟩]

/-- Conjoins a guard to the guard a field already has. -/
def addFieldGuard
    (guard : FilterExpr)
    (context : List PolicyContextRequirement)
    (filters : List (PolicyFieldFilter FilterExpr))
    (target : PolicyFieldTarget) : List (PolicyFieldFilter FilterExpr) :=
  match filters with
  | [] => [⟨target, guard, context⟩]
  | field :: rest =>
      if field.target = target then
        { field with
          filter := andFilter field.filter guard
          context := extendUniqueContext field.context context } :: rest
      else
        field :: addFieldGuard guard context rest target

/-- Row guards are joined by conjunction. -/
def addRowGuard
    (guard : FilterExpr) : Option FilterExpr → Option FilterExpr
  | none => some guard
  | some current => some (andFilter current guard)

/-- The state a filter is asked to be in at a source. -/
def desiredState
    (assignments : List PlannedPolicyAssignment)
    (compiled : CompiledPolicyEntry) : FilterExpr :=
  match assignmentFor assignments compiled.entity with
  | some assignment => assignment.desired
  | none => booleanFilter compiled.defaultActive

/-- Whether a filter is active at a source: enforced or desired. -/
def activeState
    (target : CompiledPolicyTarget)
    (desired : FilterExpr) : FilterExpr :=
  match target.enforcement with
  | none => desired
  | some enforcement => orFilter enforcement desired

/-- The state that is published of an assignment. -/
def assignmentStateOf
    (assignment : Option PlannedPolicyAssignment)
    (desired : FilterExpr) : PolicyAssignmentState :=
  match assignment with
  | none => .default
  | some _ =>
      match filterBoolean desired with
      | some true => .enabled
      | some false => .disabled
      | none => .conditional

/-- The enforcement that is published of a filter. -/
def enforcementOf (target : CompiledPolicyTarget) : PolicyEnforcement :=
  match target.enforcement with
  | none => .none
  | some enforcement =>
      match filterBoolean enforcement with
      | some true => .always
      | some false => .none
      | none => .conditional

/-- One field rule of an active filter. -/
def applyFieldRule
    (target : CompiledPolicyTarget)
    (assignment : Option PlannedPolicyAssignment)
    (active : FilterExpr)
    (filters : List (PolicyFieldFilter FilterExpr))
    (rule : CompiledPolicyFieldRule) :
    List (PolicyFieldFilter FilterExpr) :=
  let guard := activePolicyGuard active rule.condition
  rule.fields.foldl
    (addFieldGuard guard (collectPolicyContext target assignment guard))
    filters

/-- The fields of a rule, with the access that it leaves. -/
def ruleApplicationFields
    (active : FilterExpr)
    (fields : List PolicyApplicationField)
    (rule : CompiledPolicyFieldRule) : List PolicyApplicationField :=
  let access := PolicyAccess.forGuard (activePolicyGuard active rule.condition)
  rule.fields.foldl
    (fun fields target => recordApplicationField fields target access)
    fields

/-- Audit data of a filter at a source. -/
def policyApplication
    (compiled : CompiledPolicyEntry)
    (target : CompiledPolicyTarget)
    (assignment : Option PlannedPolicyAssignment)
    (desired active : FilterExpr)
    (selectionPath : List String) : PolicyApplicationPlan :=
  let inactive : PolicyApplicationPlan :=
    { filter := compiled.entity
      identity := compiled.identity
      conditions := compiled.conditions
      path := selectionPath
      target := target.table
      defaultActive := compiled.defaultActive
      enforcement := enforcementOf target
      assignment := assignmentStateOf assignment desired
      rowsFiltered := false
      fields := []
      context := [] }
  if filterBoolean active = some false then
    inactive
  else
    let rowGuard := target.rowRule.map (activePolicyGuard active)
    let rowContext := (rowGuard.map (collectPolicyContext target assignment)).getD []
    let fieldContext := target.fieldRules.flatMap (fun rule =>
      collectPolicyContext target assignment
        (activePolicyGuard active rule.condition))
    { inactive with
      rowsFiltered :=
        rowGuard.any (fun guard => PolicyAccess.forGuard guard ≠ .unconditional)
      fields :=
        (target.fieldRules.foldl (ruleApplicationFields active) []).insertionSort
          (fun left right =>
            toLex (policyFieldTargetSortKey left.target) ≤
              toLex (policyFieldTargetSortKey right.target))
      context :=
        (extendUniqueContext [] (rowContext ++ fieldContext)).insertionSort
          (fun left right => pathText left.path ≤ pathText right.path) }

/-- The guards that one applicable filter adds to a source. -/
def applyPolicy
    (assignments : List PlannedPolicyAssignment)
    (selectionPath : List String)
    (plan : SourcePolicyPlan)
    (compiled : CompiledPolicyEntry)
    (target : CompiledPolicyTarget) : SourcePolicyPlan :=
  let assignment := assignmentFor assignments compiled.entity
  let desired := desiredState assignments compiled
  let active := activeState target desired
  let application :=
    policyApplication compiled target assignment desired active selectionPath
  if filterBoolean active = some false then
    { plan with applications := plan.applications ++ [application] }
  else
    let rowGuard := target.rowRule.map (activePolicyGuard active)
    { rowFilter :=
        match rowGuard with
        | none => plan.rowFilter
        | some guard => addRowGuard guard plan.rowFilter
      fieldFilters :=
        target.fieldRules.foldl (applyFieldRule target assignment active)
          plan.fieldFilters
      applications := plan.applications ++ [application]
      context :=
        match rowGuard with
        | none => plan.context
        | some guard =>
            extendUniqueContext plan.context
              (collectPolicyContext target assignment guard) }

namespace Planner

variable (planner : Planner)

/-- Filters that apply to a table: visible ones that match it, and every
assigned one. -/
def applicableFilters
    (table : TableId)
    (assignments : List PlannedPolicyAssignment) : List PolicyEntity :=
  identitySet
    ((planner.policyIndex.entries.filter (fun entry =>
        entry.kind == .filter && entry.matchedTables.contains table &&
          (planner.imports.visibleFrom planner.scope).contains
            entry.scope)).map PolicyEntry.entity ++
      assignments.map PlannedPolicyAssignment.filter)

/-- The assignments in force at a source: those of the operation, replaced by
those written at the source. -/
def sourceAssignments
    (source explicit : List (FilterAssignmentExpr Expr))
    (selectionPath : List String)
    (variableScope : VariablePathScope)
    (definitionScope : String) : List PlannedPolicyAssignment :=
  (planner.planAssignments source selectionPath variableScope definitionScope
    ++ planner.planAssignments explicit selectionPath variableScope
      definitionScope).foldl insertAssignment
    (planner.operationAssignments.foldl insertAssignment [])

/-- Applies one filter to a source. -/
def applyIdentity
    (table : TableId)
    (assignments : List PlannedPolicyAssignment)
    (selectionPath : List String)
    (plan : SourcePolicyPlan)
    (identity : PolicyEntity) : SourcePolicyPlan :=
  match planner.compiledPolicies.entry identity,
      planner.compiledPolicies.target identity table with
  | some compiled, some target =>
      applyPolicy assignments selectionPath plan compiled target
  | _, _ => plan

/-- The order in which applications are published. -/
def applicationLe (left right : PolicyApplicationPlan) : Prop :=
  pathText left.path < pathText right.path ∨
    (pathText left.path = pathText right.path ∧
      (left.identity.scope < right.identity.scope ∨
        (left.identity.scope = right.identity.scope ∧
          (left.identity.name < right.identity.name ∨
            (left.identity.name = right.identity.name ∧
              left.target.index ≤ right.target.index)))))

instance : DecidableRel applicationLe := fun left right => by
  unfold applicationLe
  infer_instance

/-- The guards of a source, from its assignments and the index. -/
def planSourcePolicies
    (table : TableId)
    (source explicit : List (FilterAssignmentExpr Expr))
    (selectionPath : List String)
    (variableScope : VariablePathScope)
    (definitionScope : String) : SourcePolicyPlan :=
  let assignments := planner.sourceAssignments source explicit selectionPath
    variableScope definitionScope
  let plan :=
    (planner.applicableFilters table assignments).foldl
      (planner.applyIdentity table assignments selectionPath)
      SourcePolicyPlan.empty
  { plan with
    applications := plan.applications.insertionSort applicationLe }

end Planner

end Dsql
