import Dsql.Check.Assignment

/-!
# Policy activation

A filter is active at a source when it is enforced or desired there, and its
rules bind where it is active.  This module gives assignments a meaning of
their own, computes the truth value of the guards that planning composes, and
states when planning keeps every accepted assignment.
-/

namespace Dsql

open Logic

/-! ## The meaning of assignment conditions -/

/-- How a comparison of two conditions is read. -/
abbrev ConditionComparison := FilterOp → Truth → Truth → Truth

def nullTruth (negated : Bool) (value : Truth) : Truth :=
  .ofBool ((value == .unknown) != negated)

/-- The value of a written condition under values of its variables. -/
@[grind =]
def Expr.conditionTruth
    (compare : ConditionComparison)
    (input : VariableRef → Truth) : Expr → Truth
  | .literal (.bool value) => .ofBool value
  | .variable reference => input reference
  | .unary _ operand => (conditionTruth compare input operand).not
  | .binary .and lhs rhs =>
      (conditionTruth compare input lhs).and
        (conditionTruth compare input rhs)
  | .binary .or lhs rhs =>
      (conditionTruth compare input lhs).or
        (conditionTruth compare input rhs)
  | .binary (.comparison op) lhs rhs =>
      compare (.ofComparison op) (conditionTruth compare input lhs)
        (conditionTruth compare input rhs)
  | .nullTest operand negated =>
      nullTruth negated (conditionTruth compare input operand)
  | _ => .unknown

/-- The value of a planned condition under values of the inputs. -/
@[grind =]
def FilterExpr.conditionTruth
    (compare : ConditionComparison)
    (input : InputPath → Truth) : FilterExpr → Truth
  | .literal (.bool value) => .ofBool value
  | .parameter p => input p.path
  | .not operand => (conditionTruth compare input operand).not
  | .binary left .and right =>
      (conditionTruth compare input left).and
        (conditionTruth compare input right)
  | .binary left .or right =>
      (conditionTruth compare input left).or
        (conditionTruth compare input right)
  | .binary left op right =>
      compare op (conditionTruth compare input left)
        (conditionTruth compare input right)
  | .nullTest operand negated =>
      nullTruth negated (conditionTruth compare input operand)
  | _ => .unknown

/-- The input that a variable of an assignment condition reads. -/
def assignmentInputPath
    (filterName : String)
    (selectionPath : List String)
    (variableScope : VariablePathScope)
    (reference : VariableRef) : InputPath :=
  if reference.sigil = .context then
    ["context", reference.name.getD ""]
  else
    variablePath selectionPath
      ⟨.filterAssignment, [filterName], none⟩ variableScope
      reference.sigil reference.name

/-- The state a written assignment asks for. -/
def FilterAssignmentExpr.truth
    (assignment : FilterAssignmentExpr Expr)
    (selectionPath : List String)
    (variableScope : VariablePathScope)
    (compare : ConditionComparison)
    (input : InputPath → Truth) : Truth :=
  match assignment.condition with
  | none => .tt
  | some condition =>
      condition.conditionTruth compare (fun reference =>
        input (assignmentInputPath (Planner.lowerSnakeCase assignment.name)
          selectionPath variableScope reference))

section Conditions

variable (compare : ConditionComparison)
variable (input : InputPath → Truth)

@[simp] theorem conditionTruth_booleanFilter (value : Bool) :
    (booleanFilter value).conditionTruth compare input = .ofBool value := by
  simp [booleanFilter, FilterExpr.conditionTruth]

@[simp] theorem conditionTruth_notFilter (filter : FilterExpr) :
    (notFilter filter).conditionTruth compare input =
      (filter.conditionTruth compare input).not := by
  unfold notFilter
  split
  · simp [FilterExpr.conditionTruth]
  · simp [FilterExpr.conditionTruth]
  · simp [FilterExpr.conditionTruth]

/-- A comparison is decided by the values of its sides. -/
theorem conditionTruth_comparison
    (op : ComparisonOp)
    (left right : FilterExpr) :
    (FilterExpr.binary left (.ofComparison op) right).conditionTruth compare
        input =
      compare (.ofComparison op) (left.conditionTruth compare input)
        (right.conditionTruth compare input) := by
  cases op <;> simp [FilterOp.ofComparison, FilterExpr.conditionTruth]

end Conditions

namespace Planner

variable (planner : Planner)

theorem planAssignmentVariable_path
    {definitionScope filterName : String}
    {selectionPath : List String}
    {variableScope : VariablePathScope}
    {reference : VariableRef}
    {planned : FilterExpr × List PolicyContextRequirement}
    (h : planner.planAssignmentVariable definitionScope filterName
      selectionPath variableScope reference = some planned) :
    ∃ parameter : SqlParameter,
      planned.1 = .parameter parameter ∧
        parameter.path = assignmentInputPath filterName selectionPath
          variableScope reference := by
  unfold planAssignmentVariable at h
  unfold assignmentInputPath
  split at h
  case isTrue hcontext =>
    rw [if_pos hcontext]
    cases hname : reference.name with
    | none => simp [hname] at h
    | some name =>
        simp only [hname] at h
        unfold planAssignmentContext at h
        split at h
        · split at h
          · cases h
          · simp only [Option.some.injEq] at h
            subst h
            exact ⟨_, rfl, rfl⟩
        · cases h
  case isFalse hcontext =>
    rw [if_neg hcontext]
    simp only [Option.some.injEq] at h
    subst h
    exact ⟨_, rfl, rfl⟩

/-- Planning a condition keeps its meaning. -/
theorem conditionTruth_planAssignmentExpr
    (compare : ConditionComparison)
    (input : InputPath → Truth)
    {definitionScope filterName : String}
    {selectionPath : List String}
    {variableScope : VariablePathScope}
    {expr : Expr}
    {planned : FilterExpr × List PolicyContextRequirement}
    (h : planner.planAssignmentExpr definitionScope filterName selectionPath
      variableScope expr = some planned) :
    planned.1.conditionTruth compare input =
      expr.conditionTruth compare (fun reference =>
        input (assignmentInputPath filterName selectionPath variableScope
          reference)) := by
  induction expr generalizing planned with
  | variable_ reference =>
      obtain ⟨parameter, hparameter, hpath⟩ :=
        planner.planAssignmentVariable_path h
      simp [hparameter, FilterExpr.conditionTruth, Expr.conditionTruth, hpath]
  | literal value =>
      cases value with
      | bool value =>
          simp only [planAssignmentExpr, Option.some.injEq] at h
          subst h
          simp [Expr.conditionTruth]
      | _ => simp [planAssignmentExpr] at h
  | unary op operand ih =>
      simp only [planAssignmentExpr, Option.bind_eq_bind,
        Option.bind_eq_some_iff, Option.some.injEq] at h
      obtain ⟨inner, hinner, rfl⟩ := h
      simp [Expr.conditionTruth, ih hinner]
  | nullTest operand negated ih =>
      simp only [planAssignmentExpr, Option.bind_eq_bind,
        Option.bind_eq_some_iff, Option.some.injEq] at h
      obtain ⟨inner, hinner, rfl⟩ := h
      simp [Expr.conditionTruth, FilterExpr.conditionTruth, ih hinner]
  | binary op lhs rhs ihlhs ihrhs =>
      simp only [planAssignmentExpr, Option.bind_eq_bind,
        Option.bind_eq_some_iff, Option.some.injEq] at h
      obtain ⟨left, hleft, right, hright, filterOp, hop, rfl⟩ := h
      have hl := ihlhs hleft
      have hr := ihrhs hright
      cases op with
      | and =>
          cases hop
          simp [FilterExpr.conditionTruth, Expr.conditionTruth, hl, hr]
      | or =>
          cases hop
          simp [FilterExpr.conditionTruth, Expr.conditionTruth, hl, hr]
      | comparison op =>
          cases hop
          simp [conditionTruth_comparison, Expr.conditionTruth, hl, hr]
      | isIn => cases hop
      | notIn => cases hop
      | «variable» operator => cases hop
  | _ => simp [planAssignmentExpr] at h

/-- A condition that the checks accept is planned. -/
theorem planAssignmentExpr_isSome
    {definitionScope : String}
    (filterName : String)
    (selectionPath : List String)
    (variableScope : VariablePathScope)
    {expr : Expr}
    (hindependent : assignmentExprIsRowIndependent expr = true)
    (hcontexts :
      Accepted (planner.checkAssignmentContexts definitionScope expr)) :
    ∃ planned, planner.planAssignmentExpr definitionScope filterName
      selectionPath variableScope expr = some planned := by
  induction expr with
  | variable_ reference =>
      simp only [planAssignmentExpr, planAssignmentVariable]
      by_cases hsigil : reference.sigil = .context
      · simp only [checkAssignmentContexts, hsigil, if_true] at hcontexts
        unfold checkContextUse at hcontexts
        cases hname : reference.name with
        | none => simp [hname] at hcontexts
        | some name =>
            simp only [hname] at hcontexts
            simp only [hsigil, if_true, planAssignmentContext]
            cases hresolution : planner.contexts definitionScope name with
            | resolved declared =>
                simp only [hresolution] at hcontexts
                cases hvalidate :
                    validateContextUse name declared booleanContext with
                | ok values => simp [hvalidate]
                | error message => simp [hvalidate] at hcontexts
            | _ => simp [hresolution] at hcontexts
      · simp [hsigil]
  | literal value =>
      cases value with
      | bool value => simp [planAssignmentExpr]
      | _ => simp [assignmentExprIsRowIndependent] at hindependent
  | unary op operand ih =>
      simp only [assignmentExprIsRowIndependent] at hindependent
      simp only [checkAssignmentContexts] at hcontexts
      obtain ⟨planned, hplanned⟩ := ih hindependent hcontexts
      simp [planAssignmentExpr, hplanned]
  | nullTest operand negated ih =>
      simp only [assignmentExprIsRowIndependent] at hindependent
      simp only [checkAssignmentContexts] at hcontexts
      obtain ⟨planned, hplanned⟩ := ih hindependent hcontexts
      simp [planAssignmentExpr, hplanned]
  | binary op lhs rhs ihlhs ihrhs =>
      simp only [assignmentExprIsRowIndependent, Bool.and_eq_true]
        at hindependent
      simp only [checkAssignmentContexts, accepted_append] at hcontexts
      obtain ⟨⟨hop, hlhs⟩, hrhs⟩ := hindependent
      obtain ⟨left, hleft⟩ := ihlhs hlhs hcontexts.1
      obtain ⟨right, hright⟩ := ihrhs hrhs hcontexts.2
      cases op <;>
        simp_all [planAssignmentExpr, assignmentOperator]
  | _ => simp [assignmentExprIsRowIndependent] at hindependent

end Planner

/-! ## The guards of one source -/

/-- The truth value of an optional guard; no guard is no restriction. -/
def guardTruth
    (atoms : FilterExpr → Truth) : Option FilterExpr → Truth
  | none => .tt
  | some guard => guard.truth atoms

/-- The truth value of the guard of one column or relation. -/
def fieldTruth
    (atoms : FilterExpr → Truth)
    (filters : List (PolicyFieldFilter FilterExpr))
    (target : PolicyFieldTarget) : Truth :=
  guardTruth atoms ((policyFieldFilter filters target).map
    PolicyFieldFilter.filter)

def enforcedTruth
    (atoms : FilterExpr → Truth)
    (target : CompiledPolicyTarget) : Truth :=
  match target.enforcement with
  | none => .ff
  | some enforcement => enforcement.truth atoms

/-- What a filter asks of the rows of a source. -/
def rowRuleTruth
    (atoms : FilterExpr → Truth)
    (target : CompiledPolicyTarget)
    (desired : FilterExpr) : Truth :=
  match target.rowRule with
  | none => .tt
  | some rule =>
      .activated (enforcedTruth atoms target) (desired.truth atoms)
        (rule.truth atoms)

/-- What a filter asks before a field may be read. -/
def fieldRulesTruth
    (atoms : FilterExpr → Truth)
    (target : CompiledPolicyTarget)
    (desired : FilterExpr)
    (field : PolicyFieldTarget) : Truth :=
  .all ((target.fieldRules.filter (fun rule => rule.fields.contains field)).map
    (fun rule =>
      .activated (enforcedTruth atoms target) (desired.truth atoms)
        (rule.condition.truth atoms)))

section Guards

variable (atoms : FilterExpr → Truth)

@[simp] theorem guardTruth_none : guardTruth atoms none = .tt := rfl

@[simp] theorem guardTruth_some (guard : FilterExpr) :
    guardTruth atoms (some guard) = guard.truth atoms := rfl

/-- Row guards are joined by conjunction. -/
@[simp] theorem guardTruth_addRowGuard
    (guard : FilterExpr)
    (current : Option FilterExpr) :
    guardTruth atoms (addRowGuard guard current) =
      (guardTruth atoms current).and (guard.truth atoms) := by
  cases current <;> simp [addRowGuard]

/-- A guard restricts the field that it names. -/
theorem fieldTruth_addFieldGuard
    (guard : FilterExpr)
    (context : List PolicyContextRequirement)
    (filters : List (PolicyFieldFilter FilterExpr))
    (named field : PolicyFieldTarget) :
    fieldTruth atoms (addFieldGuard guard context filters named) field =
      if field = named then
        (fieldTruth atoms filters field).and (guard.truth atoms)
      else
        fieldTruth atoms filters field := by
  induction filters with
  | nil =>
      by_cases h : field = named
      · simp [addFieldGuard, fieldTruth, policyFieldFilter, h]
      · simp [addFieldGuard, fieldTruth, policyFieldFilter, h, Ne.symm h]
  | cons head rest ih =>
      by_cases hhead : head.target = named
      · by_cases h : field = named
        · simp [addFieldGuard, fieldTruth, policyFieldFilter, hhead, h]
        · have hne : ¬ named = field := fun e => h e.symm
          simp [addFieldGuard, fieldTruth, policyFieldFilter, hhead, h, hne]
      · by_cases hfield : head.target = field
        · have h : ¬ field = named := fun e => hhead (hfield.trans e)
          simp [addFieldGuard, fieldTruth, policyFieldFilter, hfield, h]
        · simpa [addFieldGuard, fieldTruth, policyFieldFilter, hhead, hfield]
            using ih

/-- A rule that names a field twice guards it once. -/
theorem fieldTruth_foldl_addFieldGuard
    (guard : FilterExpr)
    (context : List PolicyContextRequirement)
    (fields : List PolicyFieldTarget)
    (filters : List (PolicyFieldFilter FilterExpr))
    (field : PolicyFieldTarget) :
    fieldTruth atoms (fields.foldl (addFieldGuard guard context) filters)
        field =
      if field ∈ fields then
        (fieldTruth atoms filters field).and (guard.truth atoms)
      else
        fieldTruth atoms filters field := by
  induction fields generalizing filters with
  | nil => simp
  | cons named rest ih =>
      rw [List.foldl_cons, ih, fieldTruth_addFieldGuard]
      by_cases h : field = named
      · simp [h, Truth.and_assoc]
      · simp [h]

@[simp] theorem truth_activeState
    (target : CompiledPolicyTarget)
    (desired : FilterExpr) :
    (activeState target desired).truth atoms =
      (enforcedTruth atoms target).or (desired.truth atoms) := by
  unfold activeState enforcedTruth
  cases target.enforcement with
  | none => simp
  | some enforcement => simp

/-- All rules of a filter together. -/
theorem fieldTruth_foldl_applyFieldRule
    (target : CompiledPolicyTarget)
    (assignment : Option PlannedPolicyAssignment)
    (desired : FilterExpr)
    (rules : List CompiledPolicyFieldRule)
    (filters : List (PolicyFieldFilter FilterExpr))
    (field : PolicyFieldTarget) :
    fieldTruth atoms
        (rules.foldl
          (applyFieldRule target assignment (activeState target desired))
          filters)
        field =
      (fieldTruth atoms filters field).and
        (.all ((rules.filter (fun rule => rule.fields.contains field)).map
          (fun rule =>
            .activated (enforcedTruth atoms target) (desired.truth atoms)
              (rule.condition.truth atoms)))) := by
  induction rules generalizing filters with
  | nil => simp
  | cons rule rest ih =>
      rw [List.foldl_cons, ih]
      simp only [applyFieldRule, fieldTruth_foldl_addFieldGuard]
      by_cases h : field ∈ rule.fields
      · simp [h, Truth.activated, Truth.and_assoc]
      · simp [h]

/-- A filter that is certainly inactive asks for nothing. -/
theorem activated_of_inactive
    {target : CompiledPolicyTarget}
    {desired : FilterExpr}
    (h : filterBoolean (activeState target desired) = some false)
    (rule : Truth) :
    Truth.activated (enforcedTruth atoms target) (desired.truth atoms) rule =
      .tt := by
  have hactive := truth_activeState atoms target desired
  rw [filterBoolean_eq_some h] at hactive
  simp [Truth.activated, ← hactive]

/-- What one filter does to the rows. -/
theorem guardTruth_applyPolicy
    (assignments : List PlannedPolicyAssignment)
    (selectionPath : List String)
    (plan : SourcePolicyPlan)
    (compiled : CompiledPolicyEntry)
    (target : CompiledPolicyTarget) :
    guardTruth atoms
        (applyPolicy assignments selectionPath plan compiled target).rowFilter =
      (guardTruth atoms plan.rowFilter).and
        (rowRuleTruth atoms target (desiredState assignments compiled)) := by
  unfold applyPolicy rowRuleTruth
  by_cases hinactive : filterBoolean
      (activeState target (desiredState assignments compiled)) = some false
  · cases hrule : target.rowRule with
    | none => simp [hinactive]
    | some rule =>
        simp [hinactive, activated_of_inactive atoms hinactive]
  · cases hrule : target.rowRule with
    | none => simp [hinactive]
    | some rule =>
        simp [hinactive, Truth.activated]

/-- What one filter does to a field. -/
theorem fieldTruth_applyPolicy
    (assignments : List PlannedPolicyAssignment)
    (selectionPath : List String)
    (plan : SourcePolicyPlan)
    (compiled : CompiledPolicyEntry)
    (target : CompiledPolicyTarget)
    (field : PolicyFieldTarget) :
    fieldTruth atoms
        (applyPolicy assignments selectionPath plan compiled
          target).fieldFilters field =
      (fieldTruth atoms plan.fieldFilters field).and
        (fieldRulesTruth atoms target (desiredState assignments compiled)
          field) := by
  unfold applyPolicy fieldRulesTruth
  by_cases hinactive : filterBoolean
      (activeState target (desiredState assignments compiled)) = some false
  · have hall : ∀ rules : List CompiledPolicyFieldRule,
        Truth.all (rules.map (fun rule =>
          Truth.activated (enforcedTruth atoms target)
            ((desiredState assignments compiled).truth atoms)
            (rule.condition.truth atoms))) = .tt := by
      intro rules
      simp [Truth.all_eq_tt, activated_of_inactive atoms hinactive]
    simp [hinactive, hall]
  · simp [hinactive, fieldTruth_foldl_applyFieldRule]

end Guards

end Dsql
