import Dsql.Plan.Clauses
import Dsql.Policy.Consumers
import Dsql.Results.Plans

/-!
# Cardinality proofs

A selection has at most one row when its relation is singular, when equalities
that every row must meet cover a unique key of its table, or when it is limited
to one row.
-/

namespace Dsql

namespace Cardinality

inductive VariableSource where
  | structured
  | topLevel
  | context
deriving DecidableEq, Repr

def sourceOf : Sigil → VariableSource
  | .build => .structured
  | .query => .topLevel
  | .context => .context

/-- What the header of a definition says about one of its inputs. -/
structure InputRefinement where
  source : VariableSource
  name : String
  nullable : Bool
deriving DecidableEq, Repr

def refinedNullable
    (refinements : List InputRefinement)
    (sigil : Sigil)
    (name : String) : Bool :=
  refinements.any (fun refinement =>
    refinement.source == sourceOf sigil && refinement.name == name &&
      refinement.nullable)

/-- A value that every row of a result has in a column.  A variable without a
name is identified by its place in the predicate. -/
inductive FixedValueIdentity where
  | string (value : String)
  | number (raw : String)
  | bool (value : Bool)
  | namedVariable (sigil : Sigil) (name : String)
  | anonymousVariable (sigil : Sigil) (position : List Bool)
deriving DecidableEq, Repr

def fixedValueIdentity
    (position : List Bool) : Expr → Option FixedValueIdentity
  | .variable reference =>
      match reference.name with
      | some name => some (.namedVariable reference.sigil name)
      | none => some (.anonymousVariable reference.sigil position)
  | .literal (.string value) => some (.string value)
  | .literal (.number raw) => some (.number raw)
  | .literal (.bool value) => some (.bool value)
  | _ => none

/-- The columns that rows have fixed values in, each with such a value. -/
abbrev GuaranteedEqualities := List (ColumnId × FixedValueIdentity)

def GuaranteedEqualities.cover
    (equalities : GuaranteedEqualities)
    (columns : List ColumnId) : Bool :=
  !columns.isEmpty &&
    columns.all (fun column => equalities.any (fun entry => entry.1 == column))

section Predicates

variable (catalog : Catalog) (table : TableId)

/-- A column of the current row that stands by itself. -/
def directCurrentColumn : Expr → Option ColumnId
  | .path ⟨.current, [⟨name, none⟩]⟩ =>
      match catalog.checkFieldRef table ⟨name, none⟩ with
      | .column column => some column.id
      | _ => none
  | _ => none

/-- A column beside a fixed value, in either order. -/
def equality
    (position : List Bool)
    (left right : Expr) : Option (ColumnId × FixedValueIdentity) :=
  let columnFirst := do
    let column ← directCurrentColumn catalog table left
    let identity ← fixedValueIdentity (position ++ [true]) right
    return (column, identity)
  let columnLast := do
    let column ← directCurrentColumn catalog table right
    let identity ← fixedValueIdentity (position ++ [false]) left
    return (column, identity)
  columnFirst.or columnLast

variable (refinements : List InputRefinement)

/-- A variable that may be null, so that its comparison may be dropped. -/
def nullableIdentity
    (column : ColumnId)
    (anonymousKey : Option String) : FixedValueIdentity → Bool
  | .namedVariable sigil name => refinedNullable refinements sigil name
  | .anonymousVariable sigil _ =>
      match anonymousKey, catalog.columnById column with
      | some key, _ => refinedNullable refinements sigil key
      | none, some column => refinedNullable refinements sigil column.name
      | none, none => false
  | .string _ | .number _ | .bool _ => false

def requiredEquality
    (position : List Bool)
    (anonymousKey : Option String)
    (left right : Expr) : GuaranteedEqualities :=
  ((equality catalog table position left right).filter (fun entry =>
    !nullableIdentity catalog refinements entry.1 anonymousKey
      entry.2)).toList

/-- An operator that can only be an equality. -/
def isEqualityOperator : BinaryOp → Bool
  | .comparison .eq => true
  | .variable operator =>
      operator.operators.any (fun operators =>
        !operators.isEmpty && operators.all (fun op => op == .eq))
  | _ => false

/-- Both sides of a conjunction hold; a disjunction guarantees what both of its
sides guarantee. -/
def guaranteedEqualities
    (position : List Bool) : Expr → GuaranteedEqualities
  | .binary .and lhs rhs =>
      guaranteedEqualities (position ++ [false]) lhs ++
        guaranteedEqualities (position ++ [true]) rhs
  | .binary .or lhs rhs =>
      (guaranteedEqualities (position ++ [false]) lhs).filter (fun entry =>
        (guaranteedEqualities (position ++ [true]) rhs).contains entry)
  | .binary op lhs rhs =>
      if isEqualityOperator op then
        requiredEquality catalog table refinements position
          (predicateAnonymousKey op) lhs rhs
      else
        []
  | _ => []

/-- The key of the table that a predicate covers, the primary key first. -/
def uniqueKeyForPredicate (predicate : Expr) : Option (List ColumnId) :=
  let equalities := guaranteedEqualities catalog table refinements [] predicate
  (catalog.tableById table).bind (fun table =>
    if equalities.cover table.primaryKey then
      some table.primaryKey
    else
      table.uniqueConstraints.find? equalities.cover)

end Predicates

/-! ## Shapes of selections -/

/-- The integer that a text spells without a sign. -/
def parseU64 (value : String) : Option Nat :=
  match value.toList with
  | '+' :: digits => (parseDigits digits).filter (fun value => value < 2 ^ 64)
  | digits => (parseDigits digits).filter (fun value => value < 2 ^ 64)

inductive ResolvedSelectionLimit where
  | none
  | literal (value : Nat)
  | runtime
deriving DecidableEq, Repr

/-- A limit that may hide a row. -/
def ResolvedSelectionLimit.maySuppress : ResolvedSelectionLimit → Bool
  | .literal 0 | .runtime => true
  | _ => false

/-- What the clauses of a selection say about its shape. -/
structure SelectionShapeSyntax where
  predicate : Option Expr
  hasOffset : Bool
  limit : ResolvedSelectionLimit

def limitSyntax : Expr → ResolvedSelectionLimit
  | .literal (.number value) =>
      match parseU64 value with
      | some value => .literal value
      | none => .none
  | .variable _ => .runtime
  | _ => .none

def SelectionShapeSyntax.withClause
    (shape : SelectionShapeSyntax) : ClauseFact → SelectionShapeSyntax
  | .where_ expr => { shape with predicate := some expr }
  | .offset _ => { shape with hasOffset := true }
  | .limit expr => { shape with limit := limitSyntax expr }
  | _ => shape

/-- The clauses in source order; later ones of a kind decide. -/
def selectionShapeSyntax (clauses : List ClauseFact) : SelectionShapeSyntax :=
  clauses.foldl SelectionShapeSyntax.withClause ⟨none, false, .none⟩

/-- Why a selection has at most one row. -/
inductive SelectionCardinalityProof where
  | relation
  | uniqueKey (columns : List ColumnId)
  | limitOne
deriving DecidableEq, Repr

/-- The shape of a selection beside its proof. -/
structure ProvenSelectionShape where
  shape : Results.ResolvedSelectionShape
  proof : Option SelectionCardinalityProof
  limit : ResolvedSelectionLimit

section Shapes

variable (catalog : Catalog) (shape : SelectionShapeSyntax)
  (refinements : List InputRefinement)

def cardinalityProof
    (table : TableId)
    (relation : Option Relation) : Option SelectionCardinalityProof :=
  if relation.any (fun relation => relation.cardinality = .singular) then
    some .relation
  else
    match shape.predicate.bind
        (uniqueKeyForPredicate catalog table refinements) with
    | some columns => some (.uniqueKey columns)
    | none => if shape.limit = .literal 1 then some .limitOne else none

/-- A row that is at most one may be missing, except behind a relation that
always has one and that no clause hides. -/
def selectionNullable (target : SelectionTarget) (relation : Option Relation) :
    Bool :=
  match target, relation with
  | .relation _ _, some relation =>
      relation.cardinality ≠ .singular || relation.nullable ||
        shape.predicate.isSome || shape.hasOffset || shape.limit.maySuppress
  | .table _, _ | .relation _ _, none => true
  | .column _, _ | .unresolved, _ => false

/-- The shape of a selection, whose relation is looked up where there is a row
to step from. -/
def resolveSelectionShape
    (context : Option TableId)
    (target : SelectionTarget) : Option ProvenSelectionShape :=
  let resolve := fun (table : TableId) (relation : Option Relation) =>
    let proof := cardinalityProof catalog shape refinements table relation
    { shape :=
        { cardinality := if proof.isSome then .atMostOne else .collection
          nullable := proof.isSome && selectionNullable shape target relation }
      proof := proof
      limit := shape.limit : ProvenSelectionShape }
  match target with
  | .table table => some (resolve table none)
  | .relation relation table =>
      some (resolve table
        (context.bind (fun _ => catalog.relationById relation)))
  | .column _ | .unresolved => none

end Shapes

end Cardinality

end Dsql
