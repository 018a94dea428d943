import Dsql.Catalog

/-!
# Clause syntax

The expression tree that a clause carries after lowering.  Spans are left out:
they only identify a node, and the model passes the node itself.
-/

namespace Dsql

/-- Whether a variable binds as structured input, as a top-level parameter or
as trusted context. -/
inductive Sigil where
  | build
  | query
  | context
deriving DecidableEq, Repr

/-- A reference to a variable. -/
structure VariableRef where
  sigil : Sigil
  name : Option String
  /-- The operators an operator variable may take. -/
  operators : Option (List ComparisonOp)
deriving DecidableEq, Repr

/-- The row where a path starts. -/
inductive PathAnchor where
  | current
  | parent
  | root
deriving DecidableEq, Repr

/-- A step of a path as it is written. -/
structure PathSegment where
  name : TableRef
  relationPath : Option String
deriving DecidableEq, Repr

/-- The catalog reference a path segment writes. -/
def PathSegment.reference (segment : PathSegment) : FieldRef :=
  ⟨segment.name, segment.relationPath⟩

/-- A path as it is written. -/
structure ScopedPath where
  anchor : PathAnchor
  segments : List PathSegment
deriving DecidableEq, Repr

/-- Spelling of an anchor. -/
def PathAnchor.display : PathAnchor → String
  | .current => "."
  | .parent => ".."
  | .root => "~"

/-- A path as messages show it. -/
def ScopedPath.display (path : ScopedPath) : String :=
  path.anchor.display ++
    String.intercalate "." (path.segments.map (fun segment =>
      segment.reference.displayText))

/-- The literals of a document. -/
inductive LiteralValue where
  | string (value : String)
  | number (raw : String)
  | bool (value : Bool)
  | null
deriving DecidableEq, Repr

/-- The fields that a dynamic input offers. -/
inductive DynamicInputSurface where
  | selected
  | indexed
  | selectedIndexed
  | searchable
deriving DecidableEq, Repr

/-- Operators with two operands. -/
inductive BinaryOp where
  | comparison (op : ComparisonOp)
  | isIn
  | notIn
  | and
  | or
  | variable (operator : VariableRef)
deriving DecidableEq, Repr

/-- Operators with one operand. -/
inductive UnaryOp where
  | not
deriving DecidableEq, Repr

/-- What an `exists` ranges over, as it is written. -/
inductive ExistsSource where
  | relation (path : ScopedPath)
  | table (name : TableRef)
deriving DecidableEq, Repr

/-- A filter assignment `filter name` or `filter name when condition`. -/
structure FilterAssignmentExpr (E : Type) where
  name : String
  condition : Option E

/-- The expressions of clauses. -/
inductive Expr where
  | binary (op : BinaryOp) (lhs rhs : Expr)
  | unary (op : UnaryOp) (operand : Expr)
  | nullTest (operand : Expr) (negated : Bool)
  | list (items : List Expr)
  | exists (source : ExistsSource)
      (filters : List (FilterAssignmentExpr Expr))
      (predicate : Option Expr)
  | literal (value : LiteralValue)
  | path (path : ScopedPath)
  | variable (reference : VariableRef)
  | dynamicPredicate (reference : VariableRef) (surface : DynamicInputSurface)
  | predicateRef (name : String)
  | aggregate (source : ScopedPath) (function : String)
      (operand : Option ScopedPath)
  | error

/-- The direction of an order as it is written. -/
inductive OrderDirection where
  | asc
  | desc
  | variable (reference : VariableRef)
deriving DecidableEq, Repr

/-- One `field [asc|desc|%var]` entry of an `order by` clause. -/
structure OrderItem where
  field : TableRef
  direction : Option OrderDirection
deriving DecidableEq, Repr

/-- A term of an order clause. -/
inductive OrderTerm where
  | column (item : OrderItem)
  | dynamic (reference : VariableRef) (surface : DynamicInputSurface)
deriving DecidableEq, Repr

/-- A clause of a field selection. -/
inductive ClauseFact where
  | filterAssignment (assignment : FilterAssignmentExpr Expr)
  | where_ (expr : Expr)
  | orderBy (items : List OrderTerm)
  | limit (expr : Expr)
  | offset (expr : Expr)

namespace Expr

/-- The expression is an aggregate. -/
def isAggregate : Expr → Bool
  | .aggregate .. => true
  | _ => false

/-- Structural induction in which the predicate of an `exists` is a smaller
expression.  Assignment conditions and list items are expressions too. -/
@[elab_as_elim, induction_eliminator]
theorem induct
    {motive : Expr → Prop}
    (binary : ∀ op lhs rhs, motive lhs → motive rhs →
      motive (.binary op lhs rhs))
    (unary : ∀ op operand, motive operand → motive (.unary op operand))
    (nullTest : ∀ operand negated, motive operand →
      motive (.nullTest operand negated))
    (list : ∀ items, (∀ item ∈ items, motive item) → motive (.list items))
    (exists_ : ∀ source filters predicate,
      (∀ filter ∈ filters, ∀ condition ∈ filter.condition,
        motive condition) →
      (∀ body ∈ predicate, motive body) →
      motive (.exists source filters predicate))
    (literal : ∀ value, motive (.literal value))
    (path : ∀ path, motive (.path path))
    (variable_ : ∀ reference, motive (.variable reference))
    (dynamicPredicate : ∀ reference surface,
      motive (.dynamicPredicate reference surface))
    (predicateRef : ∀ name, motive (.predicateRef name))
    (aggregate : ∀ source function operand,
      motive (.aggregate source function operand))
    (error : motive .error)
    (expr : Expr) : motive expr := by
  refine Expr.rec (motive_1 := motive)
    (motive_2 := fun items => ∀ item ∈ items, motive item)
    (motive_3 := fun filters => ∀ filter ∈ filters,
      ∀ condition ∈ filter.condition, motive condition)
    (motive_4 := fun predicate => ∀ body ∈ predicate, motive body)
    (motive_5 := fun filter => ∀ condition ∈ filter.condition,
      motive condition)
    binary unary nullTest list exists_ literal path variable_
    dynamicPredicate predicateRef aggregate error
    ?_ ?_ ?_ ?_ ?_ ?_ ?_ expr
  case refine_1 =>
    intro item hitem
    cases hitem
  case refine_2 =>
    intro head items hhead hitems item hitem
    rcases List.mem_cons.mp hitem with rfl | hmem
    · exact hhead
    · exact hitems item hmem
  case refine_3 =>
    intro filter hfilter
    cases hfilter
  case refine_4 =>
    intro head filters hhead hfilters filter hfilter
    rcases List.mem_cons.mp hfilter with rfl | hmem
    · exact hhead
    · exact hfilters filter hmem
  case refine_5 =>
    intro body hbody
    cases hbody
  case refine_6 =>
    rintro predicate hpredicate body ⟨⟩
    exact hpredicate
  case refine_7 =>
    intro name condition hcondition
    exact hcondition

end Expr

end Dsql
