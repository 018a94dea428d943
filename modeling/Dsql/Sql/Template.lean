import Dsql.Logic.Numbering
import Dsql.Plan.Clauses
import Dsql.Sql.Syntax

/-!
# The SQL template

What SQL generation writes and what it keeps beside the statement.  A parameter
gets its number when it is requested first; the texts of a dynamic input site
are rendered outside the statement and keep their numbers.

The text is not part of the model: limits and sites stand in the statement as
what replaces their sentinels and markers, so there is no rendering that is
repeated with fresh ones after a collision.  The directions that are replaced
in the text are replaced in the finished statement.
-/

namespace Dsql

namespace Postgres

/-- Failures of the generation. -/
inductive SqlGenerationError where
  | missingTable (table : TableId)
  | missingColumn (column : ColumnId)
  | missingRelation (relation : RelationId)
  | missingAggregateOperand
  | unsupportedFilterFragment
  | emptyQueryPlan
deriving DecidableEq, Repr

/-- Directions of an order. -/
inductive SortDirection where
  | asc
  | desc
deriving DecidableEq, Repr

/-- What a dynamic input decides. -/
inductive DynamicInputKind where
  | predicate
  | order
deriving DecidableEq, Repr

/-- A derived table that a statement names. -/
inductive DerivedTable where
  | related (name : Alias)
  | groups (name : Alias)
  | root (index : Nat)
deriving DecidableEq, Repr

/-- What a part of a statement is built with. -/
inductive SqlConstruct where
  | column (source : Alias) (column : ColumnId)
  /-- A column of a derived table; the result column when it has no name. -/
  | output (source : DerivedTable) (name : Option String)
  | keyword (text : String)
  | literal (value : FilterLiteral)
  | number (value : Nat)
  /-- `$n IS NOT NULL`. -/
  | isPresent
  | binary (op : FilterOp)
  | not
  | isNull (negated : Bool)
  /-- `CASE WHEN guard THEN value ELSE NULL END`. -/
  | caseWhen
  | inList (negated : Bool)
  | anyOf (negated : Bool)
  | variant (path : InputPath)
  | variantNull (path : InputPath)
  /-- `CASE WHEN '{{path}}' = 'asc' THEN value END`. -/
  | directionCase (path : InputPath) (direction : SortDirection)
  /-- `column asc` in an `order by` whose direction is replaced by the one
  that an input selects: `column {{path}}` in a finished statement. -/
  | orderVariant (path : InputPath)
  /-- `{{dynamic:n}}`: the place of a dynamic input site. -/
  | marker (index : Nat)
  /-- `(expression) = ANY(…)` and its like: an operator of a dynamic site. -/
  | dynamicOperator (operator : DynamicPredicateOperator)
      (textCast : Option TypeKey)
  | dynamicNullTest (negated : Bool)
  | dynamicDirection (direction : DynamicOrderDirection)
  /-- `LEAST(COALESCE($n, guard), guard)`. -/
  | least (guard : Nat)
  | function (function : AggregateFunction)
  | countRows
  /-- `COUNT(*) > 0`. -/
  | anyRows
  /-- The public encoding of a column or an aggregate. -/
  | publicColumn (column : ColumnId)
  | publicAggregate (function : AggregateFunction) (operand : Option ColumnId)
  | jsonWire
  | jsonBuildObject (names : List String)
  | jsonAgg
  /-- `COALESCE(…, '[]')`. -/
  | coalesceEmpty
  | exists
  | scalar
  | select
  | fromTable (table : TableId) (name : Alias)
  /-- The rows of a table below a subquery. -/
  | fromSubquery (name : Alias)
  | fromGroups (name : Alias)
  | lateral (name : Alias)
  /-- A root query beside the others. -/
  | root (index : Nat)
  /-- A root query that is joined to a single row. -/
  | singleton
  | condition
  | groupBy
  | orderBy (direction : SortDirection)
  | limit
  | offset
  | field (name : Option String)
deriving DecidableEq, Repr

/-- A statement or a part of it. -/
inductive Sql where
  | placeholder (number : Nat) (textCast : Option TypeKey) (collection : Bool)
  | node (construct : SqlConstruct) (parts : List Sql)

namespace Sql

mutual

/-- The numbers of the placeholders that are written. -/
def numbers : Sql → List Nat
  | .placeholder number _ _ => [number]
  | .node _ parts => numbersOfAll parts

/-- The parameter numbers of parts, in order. -/
def numbersOfAll : List Sql → List Nat
  | [] => []
  | part :: parts => part.numbers ++ numbersOfAll parts

end

theorem numbersOfAll_eq (parts : List Sql) :
    numbersOfAll parts = parts.flatMap numbers := by
  induction parts with
  | nil => rfl
  | cons part parts ih =>
      rw [numbersOfAll, ih]
      rfl

@[simp] theorem numbersOfAll_nil : numbersOfAll [] = [] := by
  rw [numbersOfAll]

@[simp] theorem numbersOfAll_cons (part : Sql) (parts : List Sql) :
    numbersOfAll (part :: parts) = part.numbers ++ numbersOfAll parts := by
  rw [numbersOfAll]

@[simp] theorem numbersOfAll_append (first second : List Sql) :
    numbersOfAll (first ++ second) =
      numbersOfAll first ++ numbersOfAll second := by
  simp only [numbersOfAll_eq, List.flatMap_append]

@[simp] theorem numbers_node (construct : SqlConstruct) (parts : List Sql) :
    (node construct parts).numbers = numbersOfAll parts := by
  rw [numbers]

@[simp] theorem numbers_placeholder
    (number : Nat)
    (textCast : Option TypeKey)
    (collection : Bool) :
    (placeholder number textCast collection).numbers = [number] := by
  rw [numbers]

end Sql

/-! ## Directions in the text -/

/-- An ascending order of a column, or one whose direction an input selects.
Before directions are replaced, both have the same text. -/
structure ColumnOrder where
  source : Alias
  column : ColumnId
  path : Option InputPath
deriving DecidableEq, Repr

/-- In the text, `"source"."column" asc` becomes
`"source"."column" {{path}}`. -/
structure OrderReplacement where
  source : Alias
  column : ColumnId
  path : InputPath
deriving DecidableEq, Repr

/-- The replacement finds the order by its alias and column. -/
def OrderReplacement.applies
    (replacement : OrderReplacement)
    (order : ColumnOrder) : Bool :=
  replacement.source == order.source && replacement.column == order.column

namespace Sql

/-- The column order that a part of a statement writes. -/
def columnOrder : SqlConstruct → List Sql → Option ColumnOrder
  | .orderBy .asc, [.node (.column source column) []] =>
      some ⟨source, column, none⟩
  | .orderVariant path, [.node (.column source column) []] =>
      some ⟨source, column, some path⟩
  | _, _ => none

mutual

/-- The column orders that are written. -/
def orders : Sql → List ColumnOrder
  | .placeholder _ _ _ => []
  | .node construct parts =>
      (columnOrder construct parts).toList ++ ordersOfAll parts

/-- The ascending orders of parts. -/
def ordersOfAll : List Sql → List ColumnOrder
  | [] => []
  | part :: parts => part.orders ++ ordersOfAll parts

end

section Replacements

variable (replacements : List OrderReplacement)

/-- The first replacement of a column takes all of its ascending orders; those
behind it find none. -/
def replacedConstruct
    (construct : SqlConstruct)
    (parts : List Sql) : SqlConstruct :=
  match (columnOrder construct parts).bind (fun order =>
    replacements.find? (·.applies order)) with
  | some replacement => .orderVariant replacement.path
  | none => construct

mutual

/-- The directions of a statement, where replacements find them. -/
def replaceDirections : Sql → Sql
  | .placeholder number textCast collection =>
      .placeholder number textCast collection
  | .node construct parts =>
      .node (replacedConstruct replacements construct parts)
        (replaceAllDirections parts)

/-- The directions of parts. -/
def replaceAllDirections : List Sql → List Sql
  | [] => []
  | part :: parts => part.replaceDirections :: replaceAllDirections parts

end

mutual

@[simp] theorem numbers_replaceDirections (sql : Sql) :
    (sql.replaceDirections replacements).numbers = sql.numbers := by
  match sql with
  | .placeholder number textCast collection => rw [replaceDirections]
  | .node construct parts =>
      rw [replaceDirections, numbers_node, numbers_node,
        numbersOfAll_replaceAllDirections parts]

theorem numbersOfAll_replaceAllDirections (parts : List Sql) :
    numbersOfAll (replaceAllDirections replacements parts) =
      numbersOfAll parts := by
  match parts with
  | [] => rw [replaceAllDirections]
  | part :: parts =>
      rw [replaceAllDirections, numbersOfAll_cons, numbersOfAll_cons,
        numbers_replaceDirections part,
        numbersOfAll_replaceAllDirections parts]

end

end Replacements

end Sql

/-- Texts of which one is chosen by the value of an input. -/
structure GeneratedSqlVariant where
  path : InputPath
  cases : List SqlVariantCase
  nullText : Option String
deriving DecidableEq, Repr

/-- The texts of an operator at a dynamic site. -/
structure GeneratedDynamicPredicateOperator where
  name : DynamicPredicateOperator
  /-- The text before the value, or one text for each case. -/
  texts : List Sql

/-- The texts of one field of a dynamic input at one site. -/
structure GeneratedDynamicInputSiteField where
  key : String
  dataType : DataType
  operators : List GeneratedDynamicPredicateOperator
  directions : List (DynamicOrderDirection × Sql)

/-- A place that a dynamic input fills. -/
structure GeneratedDynamicInputSite where
  path : InputPath
  kind : DynamicInputKind
  fields : List GeneratedDynamicInputSiteField

namespace GeneratedDynamicInputSite

/-- All texts of a field. -/
def fieldTexts (field : GeneratedDynamicInputSiteField) : List Sql :=
  field.operators.flatMap (·.texts) ++ field.directions.map Prod.snd

/-- The numbers of the placeholders in the texts of a site. -/
def numbers (site : GeneratedDynamicInputSite) : List Nat :=
  Sql.numbersOfAll (site.fields.flatMap fieldTexts)

end GeneratedDynamicInputSite

/-- What a rendering collects beside its statement. -/
structure SqlTemplateContext where
  /-- The input paths of the parameters, in the order of their numbers. -/
  parameters : List InputPath
  policyContext : List PolicyContextRequirement
  variants : List GeneratedSqlVariant
  /-- The directions to replace in the statement. -/
  replacements : List OrderReplacement
  dynamicSites : List GeneratedDynamicInputSite
  /-- Every request of a parameter so far with the number it got: a history
  that nothing reads. -/
  requests : List (InputPath × Nat)

/-- Nothing is collected yet. -/
def SqlTemplateContext.new : SqlTemplateContext := ⟨[], [], [], [], [], []⟩

/-- A step of SQL generation. -/
abbrev Rendering (α : Type) : Type :=
  StateT SqlTemplateContext (Except SqlGenerationError) α

namespace SqlTemplateContext

/-- The placeholder of a parameter. -/
def parameter (parameter : SqlParameter) : Rendering Sql := fun template =>
  let numbered := Numbering.request template.parameters parameter.path
  .ok (.placeholder numbered.1 parameter.textCast parameter.collection,
    { template with
      parameters := numbered.2
      requests := template.requests ++ [(parameter.path, numbered.1)] })

/-- Adds the requirements that are new. -/
def requirePolicyContext
    (requirements : List PolicyContextRequirement) : Rendering Unit :=
  fun template =>
    .ok ((),
      { template with
        policyContext := requirements.foldl (fun context requirement =>
          if context.contains requirement then
            context
          else
            context ++ [requirement]) template.policyContext })

/-- Adds a variant; the first one of an input stays. -/
def variantWithNull
    (path : InputPath)
    (cases : List SqlVariantCase)
    (nullText : Option String) : Rendering Unit := fun template =>
  .ok ((),
    if template.variants.any (fun variant => variant.path == path) then
      template
    else
      { template with
        variants := template.variants ++ [⟨path, cases, nullText⟩] })

/-- A variant of an input that has a value. -/
def variant (path : InputPath) (cases : List SqlVariantCase) :
    Rendering Unit :=
  variantWithNull path cases none

/-- A variant of an input that may be null. -/
def nullableVariant (path : InputPath) (cases : List SqlVariantCase) :
    Rendering Unit :=
  variantWithNull path cases (some "null")

/-- A direction that an input decides, put in after the rendering. -/
def replaceOrderDirection
    (source : Alias)
    (column : ColumnId)
    (path : InputPath)
    (cases : List SqlVariantCase) : Rendering Unit := do
  variant path cases
  modify (fun template =>
    { template with
      replacements := template.replacements ++ [⟨source, column, path⟩] })

/-- Keeps the texts of a site; the statement gets its marker. -/
def dynamicSite
    (path : InputPath)
    (kind : DynamicInputKind)
    (fields : List GeneratedDynamicInputSiteField) : Rendering Sql :=
  fun template =>
    .ok (.node (.marker template.dynamicSites.length) [],
      { template with
        dynamicSites := template.dynamicSites ++ [⟨path, kind, fields⟩] })

end SqlTemplateContext

section Lookups

variable (catalog : Catalog)

/-- Looks a table up. -/
def table (id : TableId) : Rendering Table :=
  match catalog.tableById id with
  | some table => pure table
  | none => throw (.missingTable id)

/-- Looks a column up. -/
def column (id : ColumnId) : Rendering Column :=
  match catalog.columnById id with
  | some column => pure column
  | none => throw (.missingColumn id)

/-- Looks a relation up. -/
def catalogRelation (id : RelationId) : Rendering Relation :=
  match catalog.relationById id with
  | some relation => pure relation
  | none => throw (.missingRelation id)

end Lookups

end Postgres

end Dsql
