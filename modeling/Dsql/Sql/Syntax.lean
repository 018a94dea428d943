import Dsql.Plan.Types

/-!
# SQL expressions

The expressions that SQL lowering builds.  A column reference is qualified by
the alias of a row source; an `exists` and a scalar aggregate introduce one
row source with the conditions of its `where`.
-/

namespace Dsql

/-- One segment of a path that aliases are generated from. -/
inductive AliasSegment where
  | label (table : TableId)
  | function (function : AggregateFunction)
  | selection (table : TableId) (outputName : String) (occurrence : Nat)
deriving DecidableEq, Repr

/-- A generated alias.  Its suffix is the hash of the path, so with an
injective hash the path identifies it. -/
structure Alias where
  path : List AliasSegment
deriving DecidableEq, Repr

/-- A row source of a query under generation: the alias its columns are
qualified by, and which of the nested row sources it is, counted from the
outermost. -/
structure SelectionContext where
  tableAlias : Alias
  level : Nat
deriving DecidableEq, Repr

/-- A field of a dynamic input with the expression it stands for. -/
structure DynamicSiteField (E : Type) where
  key : String
  operators : List DynamicPredicateOperator
  expression : E

inductive SqlExpr where
  | column (source : SelectionContext) (column : ColumnId)
  | literal (value : FilterLiteral)
  | parameter (parameter : SqlParameter)
  /-- The test `$n IS NOT NULL` of a parameter. -/
  | isPresent (parameter : SqlParameter)
  | binary (left : SqlExpr) (op : FilterOp) (right : SqlExpr)
  | not (operand : SqlExpr)
  | isNull (operand : SqlExpr) (negated : Bool)
  /-- `CASE WHEN guard THEN value ELSE NULL END`. -/
  | caseWhen (guard value : SqlExpr)
  | inList (operand : SqlExpr) (items : List SqlExpr) (negated : Bool)
  | anyOf (operand : SqlExpr) (parameter : SqlParameter) (negated : Bool)
  /-- A comparison whose operator an input selects. -/
  | variant (left : SqlExpr) (path : InputPath)
      (variants : List SqlVariantCase) (right : SqlExpr)
  /-- A selected operator against the keyword `null`. -/
  | variantNull (operand : SqlExpr) (path : InputPath)
      (variants : List SqlVariantCase)
  | dynamicSite (path : InputPath) (fields : List (DynamicSiteField SqlExpr))
  | exists (source : SelectionContext) (table : TableId)
      (conditions : List SqlExpr)
  | countRows (source : SelectionContext) (table : TableId)
      (conditions : List SqlExpr)
  | aggregate (source : SelectionContext) (table : TableId)
      (conditions : List SqlExpr) (function : AggregateFunction)
      (operand : SqlExpr)
  /-- A reference that the catalog does not hold: generation stops here. -/
  | error

namespace SqlExpr

/-- Structural induction in which list items and conditions are smaller
expressions. -/
@[elab_as_elim, induction_eliminator]
theorem induct
    {motive : SqlExpr → Prop}
    (column : ∀ source column, motive (.column source column))
    (literal : ∀ value, motive (.literal value))
    (parameter : ∀ parameter, motive (.parameter parameter))
    (isPresent : ∀ parameter, motive (.isPresent parameter))
    (binary : ∀ left op right, motive left → motive right →
      motive (.binary left op right))
    (not_ : ∀ operand, motive operand → motive (.not operand))
    (isNull : ∀ operand negated, motive operand →
      motive (.isNull operand negated))
    (caseWhen : ∀ guard value, motive guard → motive value →
      motive (.caseWhen guard value))
    (inList : ∀ operand items negated, motive operand →
      (∀ item ∈ items, motive item) →
      motive (.inList operand items negated))
    (anyOf : ∀ operand parameter negated, motive operand →
      motive (.anyOf operand parameter negated))
    (variant : ∀ left path variants right, motive left → motive right →
      motive (.variant left path variants right))
    (variantNull : ∀ operand path variants, motive operand →
      motive (.variantNull operand path variants))
    (dynamicSite : ∀ path fields,
      (∀ field ∈ fields, motive field.expression) →
      motive (.dynamicSite path fields))
    (exists_ : ∀ source table conditions,
      (∀ condition ∈ conditions, motive condition) →
      motive (.exists source table conditions))
    (countRows : ∀ source table conditions,
      (∀ condition ∈ conditions, motive condition) →
      motive (.countRows source table conditions))
    (aggregate : ∀ source table conditions function operand,
      (∀ condition ∈ conditions, motive condition) → motive operand →
      motive (.aggregate source table conditions function operand))
    (error : motive .error)
    (expr : SqlExpr) : motive expr := by
  refine SqlExpr.rec (motive_1 := motive)
    (motive_2 := fun items => ∀ item ∈ items, motive item)
    (motive_3 := fun fields => ∀ field ∈ fields, motive field.expression)
    (motive_4 := fun field => motive field.expression)
    column literal parameter isPresent binary not_ isNull caseWhen
    (fun operand items negated hoperand hitems =>
      inList operand items negated hoperand hitems)
    anyOf variant variantNull dynamicSite exists_ countRows
    (fun source table conditions function operand hconditions hoperand =>
      aggregate source table conditions function operand hconditions
        hoperand)
    error ?_ ?_ ?_ ?_ ?_ expr
  case refine_1 =>
    intro item hitem
    cases hitem
  case refine_2 =>
    intro head items hhead hitems item hitem
    rcases List.mem_cons.mp hitem with rfl | hmem
    · exact hhead
    · exact hitems item hmem
  case refine_3 =>
    intro field hfield
    cases hfield
  case refine_4 =>
    intro head fields hhead hfields field hfield
    rcases List.mem_cons.mp hfield with rfl | hmem
    · exact hhead
    · exact hfields field hmem
  case refine_5 =>
    intro key operators expression hexpression
    exact hexpression

end SqlExpr

end Dsql
