import Dsql.Check.Clause
import Dsql.Plan.Filter

/-!
# Clause planning

The clauses of one selection, in source order, become the filter, the order
and the page of its collection.
-/

namespace Dsql

/-- The fields that each surface exposes to dynamic inputs of a source. -/
structure DynamicSurfaceFields where
  selected : Option (List DynamicInputFieldPlan)
  indexed : List DynamicInputFieldPlan
  selectedIndexed : Option (List DynamicInputFieldPlan)
  searchable : List DynamicInputFieldPlan

def DynamicSurfaceFields.get
    (fields : DynamicSurfaceFields) :
    DynamicInputSurface → Option (List DynamicInputFieldPlan)
  | .selected => fields.selected
  | .indexed => some fields.indexed
  | .selectedIndexed => fields.selectedIndexed
  | .searchable => some fields.searchable

section Attach

variable (fields : DynamicSurfaceFields)

mutual

/-- Hands every dynamic predicate of a filter the fields of its surface. -/
@[grind =]
def attachDynamicFields : FilterExpr → FilterExpr
  | .dynamicPredicate path surface planned =>
      .dynamicPredicate path surface ((fields.get surface).getD planned)
  | .optional parameter operand =>
      .optional parameter (attachDynamicFields operand)
  | .not operand => .not (attachDynamicFields operand)
  | .nullTest operand negated =>
      .nullTest (attachDynamicFields operand) negated
  | .binary left op right =>
      .binary (attachDynamicFields left) op (attachDynamicFields right)
  | .variantBinary left path variants right =>
      .variantBinary (attachDynamicFields left) path variants
        (attachDynamicFields right)
  | .membership operand (.list items) negated =>
      .membership (attachDynamicFields operand)
        (.list (attachItems items)) negated
  | .membership operand (.parameter parameter) negated =>
      .membership (attachDynamicFields operand) (.parameter parameter) negated
  | .exists relation table kind sourceScope policyFilter fieldFilters
      filter =>
      .exists relation table kind sourceScope (attachGuard policyFilter)
        (attachFieldGuards fieldFilters) (attachGuard filter)
  | .relationAggregate relation table function operand policyFilter
      fieldFilters =>
      .relationAggregate relation table function operand
        (attachGuard policyFilter) (attachFieldGuards fieldFilters)
  | .absent => .absent
  | .column scope column => .column scope column
  | .literal value => .literal value
  | .parameter parameter => .parameter parameter

@[grind =]
def attachItems : List FilterExpr → List FilterExpr
  | [] => []
  | item :: items => attachDynamicFields item :: attachItems items

@[grind =]
def attachGuard : Option FilterExpr → Option FilterExpr
  | none => none
  | some filter => some (attachDynamicFields filter)

@[grind =]
def attachFieldGuards :
    List (PolicyFieldFilter FilterExpr) → List (PolicyFieldFilter FilterExpr)
  | [] => []
  | ⟨target, filter, context⟩ :: guards =>
      ⟨target, attachDynamicFields filter, context⟩ ::
        attachFieldGuards guards

end

end Attach

inductive SortDirectionPlan where
  | asc
  | desc
  | «variant» (path : InputPath) (variants : List SqlVariantCase)
      (nullable : Bool)
deriving DecidableEq, Repr

inductive OrderByPlan where
  | column (column : ColumnId) (direction : SortDirectionPlan)
  | dynamic (path : InputPath) (surface : DynamicInputSurface)
      (fields : List DynamicInputFieldPlan)
deriving DecidableEq, Repr

structure SelectionClauses where
  filter : Option FilterExpr
  orderBy : List OrderByPlan
  limit : Option SqlValue
  offset : Option SqlValue

def SelectionClauses.empty : SelectionClauses := ⟨none, [], none, none⟩

inductive PlannedPaginationValue where
  | present (value : SqlValue)
  | absent
  | invalid
deriving DecidableEq, Repr

namespace FilterSite

variable (site : FilterSite)

/-- The value of a `limit` or `offset`; a default that is no count is
invalid. -/
def planPaginationValue
    (role : VariableRole)
    (inferredKey : String) : Expr → PlannedPaginationValue
  | .literal (.number value) =>
      match parsePaginationValue value with
      | some value => .present (.literal value)
      | none => .invalid
  | .variable reference =>
      match variableValue site.selectionPath ⟨role, [inferredKey], none⟩
          site.variableScope reference.sigil reference.name with
      | .value path => .present (.parameter ⟨path, none, false⟩)
      | .default (.number value) =>
          match parsePaginationValue value with
          | some value => .present (.literal value)
          | none => .invalid
      | .default .null => .absent
      | .default _ => .invalid
  | _ => .invalid

/-- The direction of an order item.  A null direction drops the item, as does
a default that is no direction. -/
def planDirection
    (column : Column) :
    Option OrderDirection → Option SortDirectionPlan
  | none | some .asc => some .asc
  | some .desc => some .desc
  | some (.variable reference) =>
      match variableValue site.selectionPath
          ⟨.sortDirection, [column.name, "direction"], none⟩
          site.variableScope reference.sigil reference.name with
      | .value path =>
          some (.variant path [⟨"asc", "asc"⟩, ⟨"desc", "desc"⟩]
            (site.planner.variableIsNullable path))
      | .default (.string "asc") => some .asc
      | .default (.string "desc") => some .desc
      | .default _ => none

def planOrderItem
    (context : ClauseContext)
    (item : OrderItem) : Option OrderByPlan :=
  match site.planner.catalog.checkFieldRef context.table
      ⟨item.field, none⟩ with
  | .column column => do
      let column ← site.planner.catalog.columnById column.id
      let direction ← site.planDirection column item.direction
      some (.column column.id direction)
  | _ => none

/-- A dynamic order exposes the fields of its surface in every direction. -/
def planDynamicOrder
    (fields : DynamicSurfaceFields)
    (reference : VariableRef)
    (surface : DynamicInputSurface) : Option OrderByPlan := do
  let name ← reference.name
  let exposed ← fields.get surface
  if exposed.isEmpty then
    none
  else
    some (.dynamic
      (variablePath site.selectionPath ⟨.dynamicOrder, ["order"], none⟩
        site.variableScope reference.sigil (some name))
      surface
      (exposed.map (fun field =>
        { field with
          operators := []
          directions := DynamicOrderDirection.all })))

def planOrderTerm
    (context : ClauseContext)
    (fields : DynamicSurfaceFields) : OrderTerm → Option OrderByPlan
  | .column item => site.planOrderItem context item
  | .dynamic reference surface =>
      site.planDynamicOrder fields reference surface

/-- The planned predicate of a `where` clause. -/
def planWhere
    (context : ClauseContext)
    (fields : DynamicSurfaceFields)
    (expr : Expr) : Option FilterExpr :=
  (site.planFilterExpr context false expr).map (attachDynamicFields fields)

/-- One clause on top of those before it; the flag records an invalid
page. -/
def planClause
    (context : ClauseContext)
    (fields : DynamicSurfaceFields)
    (planned : SelectionClauses × Bool) :
    ClauseFact → SelectionClauses × Bool
  | .filterAssignment _ => planned
  | .where_ expr =>
      ({ planned.1 with filter := site.planWhere context fields expr },
        planned.2)
  | .orderBy items =>
      ({ planned.1 with
          orderBy := planned.1.orderBy ++
            items.filterMap (site.planOrderTerm context fields) },
        planned.2)
  | .limit expr =>
      match site.planPaginationValue .limit "limit" expr with
      | .present value => ({ planned.1 with limit := some value }, planned.2)
      | .absent => ({ planned.1 with limit := none }, planned.2)
      | .invalid => (planned.1, true)
  | .offset expr =>
      match site.planPaginationValue .offset "offset" expr with
      | .present value => ({ planned.1 with offset := some value }, planned.2)
      | .absent => ({ planned.1 with offset := none }, planned.2)
      | .invalid => (planned.1, true)

/-- The clauses of a selection in source order.  An invalid page reads no
rows. -/
def planClauses
    (context : ClauseContext)
    (fields : DynamicSurfaceFields)
    (clauses : List ClauseFact) : SelectionClauses :=
  let planned :=
    clauses.foldl (site.planClause context fields)
      (SelectionClauses.empty, false)
  if planned.2 then
    { planned.1 with limit := some (.literal 0), offset := none }
  else
    planned.1

/-- The written predicates of a selection. -/
def whereExprs (clauses : List ClauseFact) : List Expr :=
  clauses.filterMap (fun
    | .where_ expr => some expr
    | _ => none)

section Filter

variable (context : ClauseContext)
variable (fields : DynamicSurfaceFields)

theorem planClause_filter
    (planned : SelectionClauses × Bool)
    (clause : ClauseFact) :
    (site.planClause context fields planned clause).1.filter =
      match clause with
      | .where_ expr => site.planWhere context fields expr
      | _ => planned.1.filter := by
  cases clause with
  | limit expr =>
      cases h : site.planPaginationValue .limit "limit" expr <;>
        simp [planClause, h]
  | offset expr =>
      cases h : site.planPaginationValue .offset "offset" expr <;>
        simp [planClause, h]
  | _ => rfl

theorem foldl_planClause_filter
    (clauses : List ClauseFact)
    (planned : SelectionClauses × Bool) :
    (clauses.foldl (site.planClause context fields) planned).1.filter =
      match (whereExprs clauses).getLast? with
      | some expr => site.planWhere context fields expr
      | none => planned.1.filter := by
  induction clauses generalizing planned with
  | nil => rfl
  | cons clause clauses ih =>
      rw [List.foldl_cons, ih, planClause_filter]
      cases clause with
      | where_ expr =>
          cases hlast : (whereExprs clauses).getLast? with
          | none =>
              have hnil : whereExprs clauses = [] :=
                List.getLast?_eq_none_iff.mp hlast
              simp [whereExprs] at hnil ⊢
              simp [List.filterMap_eq_nil_iff.mpr hnil]
          | some last =>
              simp [whereExprs, List.getLast?_cons] at hlast ⊢
              simp [hlast]
      | _ => simp [whereExprs]

/-- The last `where` clause of a selection decides its filter. -/
theorem planClauses_filter (clauses : List ClauseFact) :
    (site.planClauses context fields clauses).filter =
      (whereExprs clauses).getLast?.bind
        (site.planWhere context fields) := by
  have hfold := site.foldl_planClause_filter context fields clauses
    (SelectionClauses.empty, false)
  have hfilter :
      (site.planClauses context fields clauses).filter =
        (clauses.foldl (site.planClause context fields)
          (SelectionClauses.empty, false)).1.filter := by
    simp only [planClauses]
    split <;> rfl
  rw [hfilter, hfold]
  cases (whereExprs clauses).getLast? <;> rfl

end Filter

end FilterSite

end Dsql
