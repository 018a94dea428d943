import Dsql.VariablePath

/-!
# Filter plans

The filter tree that the planner produces and that SQL lowering consumes, with
the row and field guards that policies attach to a row source.
-/

namespace Dsql

/-- The operators of a filter. -/
inductive FilterOp where
  | eq | ne | gt | ge | lt | le | like | and | or
deriving DecidableEq, Repr

/-- The filter operator of a comparison. -/
def FilterOp.ofComparison : ComparisonOp → FilterOp
  | .eq => .eq
  | .ne => .ne
  | .gt => .gt
  | .ge => .ge
  | .lt => .lt
  | .le => .le
  | .like => .like

/-- The spelling an operator input selects. -/
def FilterOp.dsqlLabel : FilterOp → Option String
  | .eq => some "=="
  | .ne => some "!="
  | .gt => some ">"
  | .ge => some ">="
  | .lt => some "<"
  | .le => some "<="
  | .like => some "like"
  | .and | .or => none

/-- Spelling of a comparison in the statement. -/
def FilterOp.postgresText : FilterOp → Option String
  | .eq => some "="
  | .ne => some "!="
  | .gt => some ">"
  | .ge => some ">="
  | .lt => some "<"
  | .le => some "<="
  | .like => some "like"
  | .and | .or => none

/-- A parameter by the path of its input. -/
structure SqlParameter where
  path : InputPath
  textCast : Option TypeKey
  collection : Bool
deriving DecidableEq, Repr

/-- A text with the value that selects it. -/
structure SqlVariantCase where
  value : String
  text : String
deriving DecidableEq, Repr

/-- The literals of a filter. -/
inductive FilterLiteral where
  | string (value : String)
  | number (raw : String)
  | bool (value : Bool)
  | null
deriving DecidableEq, Repr

/-- The literal of a document. -/
def FilterLiteral.ofLiteral : LiteralValue → FilterLiteral
  | .string value => .string value
  | .number raw => .number raw
  | .bool value => .bool value
  | .null => .null

/-- The row source that a column reference names, seen from where the filter
stands. -/
inductive FilterColumnScope where
  | current
  | root
  | predicateSource
  | parent
deriving DecidableEq, Repr

/-- Whether an `exists` was written, or comes from a path. -/
inductive ExistsKind where
  | explicit
  | relationshipPredicate
deriving DecidableEq, Repr

/-- What a rule on fields guards. -/
inductive PolicyFieldTarget where
  | column (column : ColumnId)
  | relation (relation : RelationId)
deriving DecidableEq, Repr

/-- Ordered from what anyone may read to what depends on the row. -/
inductive PolicyAccess where
  | unconditional
  | contextOnly
  | rowDependent
deriving DecidableEq, Repr

/-- The access that two guards leave together. -/
def PolicyAccess.combine : PolicyAccess → PolicyAccess → PolicyAccess
  | .rowDependent, _ | _, .rowDependent => .rowDependent
  | .contextOnly, _ | _, .contextOnly => .contextOnly
  | .unconditional, .unconditional => .unconditional

/-- A value of the trusted context that a guard needs. -/
structure PolicyContextRequirement where
  path : InputPath
  dataType : DataType
  wire : WireEncoding
  providerType : Option TypeKey
  collection : Bool
deriving DecidableEq, Repr

/-- The operators of a dynamic predicate. -/
inductive DynamicPredicateOperator where
  | eq | neq | gt | gte | lt | lte | like | isIn | notIn | isNull
deriving DecidableEq, Repr

/-- The directions of a dynamic order. -/
inductive DynamicOrderDirection where
  | asc | desc | ascNullsFirst | ascNullsLast | descNullsFirst | descNullsLast
deriving DecidableEq, Repr

/-- Every accepted direction in public order. -/
def DynamicOrderDirection.all : List DynamicOrderDirection :=
  [.asc, .desc, .ascNullsFirst, .ascNullsLast, .descNullsFirst,
    .descNullsLast]

/-- A field that a dynamic input may name. -/
structure DynamicInputFieldPlan where
  key : String
  column : ColumnId
  dataType : DataType
  nullable : Bool
  access : PolicyAccess
  operators : List DynamicPredicateOperator
  directions : List DynamicOrderDirection
deriving DecidableEq, Repr

/-- The guard of one column or relation of a row source. -/
structure PolicyFieldFilter (F : Type) where
  target : PolicyFieldTarget
  filter : F
  context : List PolicyContextRequirement

/-- The guard of one column or relation among those of a row source. -/
def policyFieldFilter
    {F : Type}
    (filters : List (PolicyFieldFilter F))
    (target : PolicyFieldTarget) : Option (PolicyFieldFilter F) :=
  filters.find? (fun filter => filter.target == target)

/-- The items of a membership. -/
inductive FilterCollection (F : Type) where
  | list (items : List F)
  | parameter (parameter : SqlParameter)

/-- A planned filter. -/
inductive FilterExpr where
  | absent
  | optional (parameter : SqlParameter) (operand : FilterExpr)
  | column (scope : FilterColumnScope) (column : ColumnId)
  | literal (value : FilterLiteral)
  | parameter (parameter : SqlParameter)
  | dynamicPredicate (path : InputPath) (surface : DynamicInputSurface)
      (fields : List DynamicInputFieldPlan)
  | binary (left : FilterExpr) (op : FilterOp) (right : FilterExpr)
  | not (operand : FilterExpr)
  | nullTest (operand : FilterExpr) (negated : Bool)
  | membership (operand : FilterExpr)
      (collection : FilterCollection FilterExpr) (negated : Bool)
  | variantBinary (left : FilterExpr) (path : InputPath)
      (variants : List SqlVariantCase) (right : FilterExpr)
  | exists (relation : Option RelationId) (table : TableId)
      (kind : ExistsKind) (sourceScope : FilterColumnScope)
      (policyFilter : Option FilterExpr)
      (fieldFilters : List (PolicyFieldFilter FilterExpr))
      (filter : Option FilterExpr)
  | relationAggregate (relation : RelationId) (table : TableId)
      (function : AggregateFunction) (operand : Option ColumnId)
      (policyFilter : Option FilterExpr)
      (fieldFilters : List (PolicyFieldFilter FilterExpr))

namespace FilterExpr

/-- Structural induction in which list items, guards and bodies are smaller
filters. -/
@[elab_as_elim, induction_eliminator]
theorem induct
    {motive : FilterExpr → Prop}
    (absent : motive .absent)
    (optional : ∀ parameter operand, motive operand →
      motive (.optional parameter operand))
    (column : ∀ scope column, motive (.column scope column))
    (literal : ∀ value, motive (.literal value))
    (parameter : ∀ parameter, motive (.parameter parameter))
    (dynamicPredicate : ∀ path surface fields,
      motive (.dynamicPredicate path surface fields))
    (binary : ∀ left op right, motive left → motive right →
      motive (.binary left op right))
    (not_ : ∀ operand, motive operand → motive (.not operand))
    (nullTest : ∀ operand negated, motive operand →
      motive (.nullTest operand negated))
    (memberList : ∀ operand items negated, motive operand →
      (∀ item ∈ items, motive item) →
      motive (.membership operand (.list items) negated))
    (memberParameter : ∀ operand parameter negated, motive operand →
      motive (.membership operand (.parameter parameter) negated))
    (variantBinary : ∀ left path variants right, motive left →
      motive right → motive (.variantBinary left path variants right))
    (exists_ : ∀ relation table kind sourceScope policyFilter fieldFilters
        filter,
      (∀ policy ∈ policyFilter, motive policy) →
      (∀ field ∈ fieldFilters, motive field.filter) →
      (∀ body ∈ filter, motive body) →
      motive (.exists relation table kind sourceScope policyFilter
        fieldFilters filter))
    (relationAggregate : ∀ relation table function operand policyFilter
        fieldFilters,
      (∀ policy ∈ policyFilter, motive policy) →
      (∀ field ∈ fieldFilters, motive field.filter) →
      motive (.relationAggregate relation table function operand
        policyFilter fieldFilters))
    (filter : FilterExpr) : motive filter := by
  refine FilterExpr.rec (motive_1 := motive)
    (motive_2 := fun collection => ∀ operand negated, motive operand →
      motive (.membership operand collection negated))
    (motive_3 := fun policy => ∀ guard ∈ policy, motive guard)
    (motive_4 := fun fields => ∀ field ∈ fields, motive field.filter)
    (motive_5 := fun items => ∀ item ∈ items, motive item)
    (motive_6 := fun field => motive field.filter)
    absent optional column literal parameter dynamicPredicate binary not_
    nullTest ?_ variantBinary exists_ relationAggregate
    ?_ ?_ ?_ ?_ ?_ ?_ ?_ ?_ ?_ filter
  case refine_1 =>
    intro operand collection negated hoperand hcollection
    exact hcollection operand negated hoperand
  case refine_2 =>
    intro items hitems operand negated hoperand
    exact memberList operand items negated hoperand hitems
  case refine_3 =>
    intro id operand negated hoperand
    exact memberParameter operand id negated hoperand
  case refine_4 =>
    intro guard hguard
    cases hguard
  case refine_5 =>
    rintro policy hpolicy guard ⟨⟩
    exact hpolicy
  case refine_6 =>
    intro field hfield
    cases hfield
  case refine_7 =>
    intro head fields hhead hfields field hfield
    rcases List.mem_cons.mp hfield with rfl | hmem
    · exact hhead
    · exact hfields field hmem
  case refine_8 =>
    intro item hitem
    cases hitem
  case refine_9 =>
    intro head items hhead hitems item hitem
    rcases List.mem_cons.mp hitem with rfl | hmem
    · exact hhead
    · exact hitems item hmem
  case refine_10 =>
    intro target guard context hguard
    exact hguard

end FilterExpr

/-- A planned value of a pagination clause. -/
inductive SqlValue where
  | literal (value : Nat)
  | parameter (parameter : SqlParameter)
deriving DecidableEq, Repr

mutual

/-- Whether evaluating a filter reads stored rows. -/
def filterObservesRows : FilterExpr → Bool
  | .column .. | .exists .. | .relationAggregate ..
  | .dynamicPredicate .. => true
  | .binary left _ right | .variantBinary left _ _ right =>
      filterObservesRows left || filterObservesRows right
  | .optional _ operand | .not operand | .nullTest operand _ =>
      filterObservesRows operand
  | .membership operand (.list items) _ =>
      filterObservesRows operand || filtersObserveRows items
  | .membership operand (.parameter _) _ => filterObservesRows operand
  | .absent | .literal _ | .parameter _ => false

/-- Some item reads a row. -/
def filtersObserveRows : List FilterExpr → Bool
  | [] => false
  | item :: items => filterObservesRows item || filtersObserveRows items

end

/-- The access that a guard leaves. -/
def PolicyAccess.forGuard (filter : FilterExpr) : PolicyAccess :=
  match filter with
  | .literal (.bool true) => .unconditional
  | filter =>
      if filterObservesRows filter then .rowDependent else .contextOnly

end Dsql
