import Dsql.Logic.Truth
import Dsql.Sql.Syntax

/-!
# Evaluation of SQL expressions

Evaluation over a database in three-valued logic.  What the database engine
decides (literals, orderings, aggregates) is a parameter, as are the inputs of
one execution and the rule that finds the row source of a column reference.
-/

namespace Dsql

open Logic

/-- A value of a row or of an expression. -/
inductive Datum (S : Type) where
  | null
  | bool (value : Bool)
  | scalar (value : S)
deriving DecidableEq, Repr

namespace Datum

variable {S : Type}

/-- A value where a condition is expected. -/
def truth : Datum S → Truth
  | .bool value => .ofBool value
  | _ => .unknown

def ofTruth : Truth → Datum S
  | .ff => .bool false
  | .unknown => .null
  | .tt => .bool true

def isNull : Datum S → Bool
  | .null => true
  | _ => false

@[simp] theorem truth_ofTruth (a : Truth) :
    (ofTruth a : Datum S).truth = a := by
  cases a <;> rfl

@[simp] theorem truth_bool (value : Bool) :
    (Datum.bool value : Datum S).truth = .ofBool value := rfl

@[simp] theorem truth_null :
    (Datum.null : Datum S).truth = .unknown := rfl

end Datum

/-- The rows a filter ranges over assign a value to every column. -/
abbrev Row (S : Type) := ColumnId → Datum S

abbrev Database (S : Type) := TableId → List (Row S)

/-- What the database engine decides about values. -/
structure Engine (S : Type) where
  string : String → S
  number : String → S
  /-- Orderings and `like` on values that are not null. -/
  holds : FilterOp → Datum S → Datum S → Bool
  count : Nat → S
  aggregate : AggregateFunction → List (Datum S) → Datum S

/-- The inputs of one execution, context included. -/
structure Inputs (S : Type) where
  value : InputPath → Datum S
  collection : InputPath → Option (List (Datum S))
  /-- The operator or direction an input selects. -/
  selected : InputPath → String
  /-- A dynamic predicate input over the values of its fields. -/
  dynamic : InputPath → List (String × Datum S) → Truth

def Inputs.isPresent
    {S : Type}
    (inputs : Inputs S)
    (parameter : SqlParameter) : Bool :=
  if parameter.collection then
    (inputs.collection parameter.path).isSome
  else
    !(inputs.value parameter.path).isNull

/-- The operator a variant's text stands for. -/
def FilterOp.ofText (text : String) : Option FilterOp :=
  [FilterOp.eq, .ne, .gt, .ge, .lt, .le, .like].find? (fun op =>
    op.postgresText == some text)

namespace Engine

variable {S : Type} [DecidableEq S] (engine : Engine S)

def literal : FilterLiteral → Datum S
  | .string value => .scalar (engine.string value)
  | .number raw => .scalar (engine.number raw)
  | .bool value => .bool value
  | .null => .null

/-- A comparison operator on values. -/
def compare (op : FilterOp) : Datum S → Datum S → Truth
  | .null, _ | _, .null => .unknown
  | left, right =>
      match op with
      | .eq => .ofBool (left == right)
      | .ne => .ofBool (left != right)
      | op => .ofBool (engine.holds op left right)

def binary (op : FilterOp) (left right : Datum S) : Truth :=
  match op with
  | .and => left.truth.and right.truth
  | .or => left.truth.or right.truth
  | op => engine.compare op left right

/-- Membership in listed values. -/
def member (operand : Datum S) : List (Datum S) → Truth
  | [] => .ff
  | item :: items =>
      (engine.compare .eq operand item).or (member operand items)

def negateIf (negated : Bool) (value : Truth) : Truth :=
  if negated then value.not else value

/-- Membership in a collection input; a collection that is null decides
nothing. -/
def memberOf
    (operand : Datum S)
    (collection : Option (List (Datum S))) : Truth :=
  match collection with
  | none => .unknown
  | some items => engine.member operand items

/-- A comparison by the selected variant. -/
def variant
    (selected : String)
    (variants : List SqlVariantCase)
    (left right : Datum S) : Truth :=
  match variants.find? (fun variant => variant.value == selected) with
  | none => .unknown
  | some variant =>
      match FilterOp.ofText variant.text with
      | none => .unknown
      | some op => engine.compare op left right

/-- The selected variant against the keyword `null`. -/
def variantNull
    (selected : String)
    (variants : List SqlVariantCase)
    (operand : Datum S) : Truth :=
  match variants.find? (fun variant => variant.value == selected) with
  | none => .unknown
  | some variant =>
      if variant.text = "is" then .ofBool operand.isNull
      else if variant.text = "is not" then .ofBool (!operand.isNull)
      else .unknown

/-- An aggregate other than `count(*)`. -/
def aggregateValue
    (function : AggregateFunction)
    (values : List (Datum S)) : Datum S :=
  match function with
  | .count =>
      .scalar (engine.count
        (values.filter (fun value => !value.isNull)).length)
  | .exists => .bool !values.isEmpty
  | function =>
      engine.aggregate function
        (values.filter (fun value => !value.isNull))

end Engine

/-- The rows in scope, the innermost row source first. -/
abbrev Env (S : Type) := List (SelectionContext × Row S)

/-- How a column reference finds its row. -/
abbrev Binding (S : Type) := Env S → SelectionContext → Option (Row S)

/-- SQL's rule: the innermost row source of that alias. -/
def innermost {S : Type} : Binding S :=
  fun env source =>
    (env.find? (fun frame =>
      frame.1.tableAlias == source.tableAlias)).map Prod.snd

/-- The row source that the reference was generated for. -/
def intended {S : Type} : Binding S :=
  fun env source =>
    (env.find? (fun frame => frame.1.level == source.level)).map Prod.snd

section Binding

variable {S : Type} (env : Env S) (source : SelectionContext) (row : Row S)

@[simp] theorem innermost_head :
    innermost ((source, row) :: env) source = some row := by
  simp [innermost]

theorem innermost_tail
    {outer : SelectionContext}
    (h : outer.tableAlias ≠ source.tableAlias) :
    innermost ((source, row) :: env) outer = innermost env outer := by
  have hne : (source.tableAlias == outer.tableAlias) = false := by
    simpa using h.symm
  simp [innermost, hne]

@[simp] theorem intended_head :
    intended ((source, row) :: env) source = some row := by
  simp [intended]

theorem intended_tail
    {outer : SelectionContext}
    (h : outer.level < source.level) :
    intended ((source, row) :: env) outer = intended env outer := by
  have hne : (source.level == outer.level) = false := by
    simpa using h.ne'
  simp [intended, hne]

end Binding

/-- Everything an evaluation is relative to. -/
structure Session (S : Type) where
  engine : Engine S
  inputs : Inputs S
  database : Database S
  binding : Binding S

namespace Session

variable {S : Type} [DecidableEq S] (session : Session S)

def column (env : Env S) (source : SelectionContext) (column : ColumnId) :
    Datum S :=
  match session.binding env source with
  | some row => row column
  | none => .null

mutual

@[grind =]
def eval (env : Env S) : SqlExpr → Datum S
  | .column source column => session.column env source column
  | .literal value => session.engine.literal value
  | .parameter parameter => session.inputs.value parameter.path
  | .isPresent parameter => .bool (session.inputs.isPresent parameter)
  | .binary left op right =>
      .ofTruth (session.engine.binary op (eval env left) (eval env right))
  | .not operand => .ofTruth (eval env operand).truth.not
  | .isNull operand negated =>
      .bool ((eval env operand).isNull != negated)
  | .caseWhen guard value =>
      if (eval env guard).truth = .tt then eval env value else .null
  | .inList operand items negated =>
      .ofTruth (Engine.negateIf negated
        (session.engine.member (eval env operand) (evalItems env items)))
  | .anyOf operand parameter negated =>
      .ofTruth (Engine.negateIf negated
        (session.engine.memberOf (eval env operand)
          (session.inputs.collection parameter.path)))
  | .variant left path variants right =>
      .ofTruth (session.engine.variant (session.inputs.selected path)
        variants (eval env left) (eval env right))
  | .variantNull operand path variants =>
      .ofTruth (Engine.variantNull (session.inputs.selected path)
        variants (eval env operand))
  | .dynamicSite path fields =>
      .ofTruth (session.inputs.dynamic path (evalFields env fields))
  | .exists source table conditions =>
      .bool ((session.database table).any (fun row =>
        evalAll ((source, row) :: env) conditions == .tt))
  | .countRows source table conditions =>
      .scalar (session.engine.count
        ((session.database table).filter (fun row =>
          evalAll ((source, row) :: env) conditions == .tt)).length)
  | .aggregate source table conditions function operand =>
      session.engine.aggregateValue function
        (((session.database table).filter (fun row =>
          evalAll ((source, row) :: env) conditions == .tt)).map
            (fun row => eval ((source, row) :: env) operand))
  | .error => .null

/-- The conjunction of the conditions of a `where`. -/
@[grind =]
def evalAll (env : Env S) : List SqlExpr → Truth
  | [] => .tt
  | condition :: conditions =>
      (eval env condition).truth.and (evalAll env conditions)

@[grind =]
def evalItems (env : Env S) : List SqlExpr → List (Datum S)
  | [] => []
  | item :: items => eval env item :: evalItems env items

@[grind =]
def evalFields (env : Env S) :
    List (DynamicSiteField SqlExpr) → List (String × Datum S)
  | [] => []
  | ⟨key, _, expression⟩ :: fields =>
      (key, eval env expression) :: evalFields env fields

end

/-- The rows of a table that pass the conditions of a `where`. -/
def rowsWhere
    (env : Env S)
    (source : SelectionContext)
    (table : TableId)
    (conditions : List SqlExpr) : List (Row S) :=
  (session.database table).filter (fun row =>
    session.evalAll ((source, row) :: env) conditions == .tt)

section Laws

variable (env : Env S)

@[simp] theorem evalAll_nil : session.evalAll env [] = .tt := by
  simp [evalAll]

@[simp] theorem evalAll_cons
    (condition : SqlExpr)
    (conditions : List SqlExpr) :
    session.evalAll env (condition :: conditions) =
      (session.eval env condition).truth.and
        (session.evalAll env conditions) := by
  simp [evalAll]

theorem evalAll_append (left right : List SqlExpr) :
    session.evalAll env (left ++ right) =
      (session.evalAll env left).and (session.evalAll env right) := by
  induction left with
  | nil =>
      simp
  | cons condition conditions ih =>
      simp [ih, Truth.and_assoc]

theorem evalItems_eq_map (items : List SqlExpr) :
    session.evalItems env items = items.map (session.eval env) := by
  induction items with
  | nil =>
      simp [evalItems]
  | cons item items ih =>
      simp [evalItems, ih]

theorem evalFields_eq_map (fields : List (DynamicSiteField SqlExpr)) :
    session.evalFields env fields =
      fields.map (fun field =>
        (field.key, session.eval env field.expression)) := by
  induction fields with
  | nil =>
      simp [evalFields]
  | cons field fields ih =>
      simp [evalFields, ih]

@[simp] theorem eval_literal (value : FilterLiteral) :
    session.eval env (.literal value) = session.engine.literal value := by
  simp [eval]

@[simp] theorem eval_isPresent (parameter : SqlParameter) :
    session.eval env (.isPresent parameter) =
      .bool (session.inputs.isPresent parameter) := by
  simp [eval]

@[simp] theorem truth_not (operand : SqlExpr) :
    (session.eval env (.not operand)).truth =
      (session.eval env operand).truth.not := by
  simp [eval]

@[simp] theorem truth_and (left right : SqlExpr) :
    (session.eval env (.binary left .and right)).truth =
      (session.eval env left).truth.and (session.eval env right).truth := by
  simp [eval, Engine.binary]

@[simp] theorem truth_or (left right : SqlExpr) :
    (session.eval env (.binary left .or right)).truth =
      (session.eval env left).truth.or (session.eval env right).truth := by
  simp [eval, Engine.binary]

/-- An `exists` holds when some row passes its conditions. -/
theorem eval_exists
    (source : SelectionContext)
    (table : TableId)
    (conditions : List SqlExpr) :
    session.eval env (.exists source table conditions) =
      .bool !(session.rowsWhere env source table conditions).isEmpty := by
  simp only [eval, rowsWhere, Datum.bool.injEq]
  rw [Bool.eq_iff_iff]
  simp

theorem eval_countRows
    (source : SelectionContext)
    (table : TableId)
    (conditions : List SqlExpr) :
    session.eval env (.countRows source table conditions) =
      .scalar (session.engine.count
        (session.rowsWhere env source table conditions).length) := by
  simp [eval, rowsWhere]

theorem eval_aggregate
    (source : SelectionContext)
    (table : TableId)
    (conditions : List SqlExpr)
    (function : AggregateFunction)
    (operand : SqlExpr) :
    session.eval env (.aggregate source table conditions function operand) =
      session.engine.aggregateValue function
        ((session.rowsWhere env source table conditions).map
          (fun row => session.eval ((source, row) :: env) operand)) := by
  simp [eval, rowsWhere]

end Laws

end Session

end Dsql
