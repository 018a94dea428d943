import Dsql.Logic.Comparisons
import Dsql.Sql.Semantics
import Dsql.Sql.Statements

/-!
# The meaning of statements

A statement is read by its parts: an expression is a value in a scope, a
`select` the rows of its sources that pass its conditions, sorted, cut and
projected.  What the server decides about values is a parameter, and so are the
inputs of one execution, which stand behind the numbers and markers of the
template.  Limits that are not natural numbers stop the server; they are read
as absent here.
-/

namespace Dsql

namespace Postgres

open Logic

/-- A value of a row or a JSON document. -/
inductive Doc (S : Type) where
  | datum (value : Datum S)
  | object (fields : List (String × Doc S))
  | array (items : List (Doc S))

/-- The value of a document; objects and arrays have none. -/
def Doc.toDatum {S : Type} : Doc S → Datum S
  | .datum value => value
  | _ => .null

/-- The columns of one row of a result. -/
abbrev Outputs (S : Type) := List (Option String × Doc S)

/-- The output of a name. -/
def Outputs.value
    {S : Type}
    (outputs : Outputs S)
    (name : Option String) : Doc S :=
  ((outputs.find? (fun output => output.1 == name)).map Prod.snd).getD
    (.datum .null)

/-- The rows and derived rows in scope, the innermost first. -/
structure Scope (S : Type) where
  rows : Env S
  derived : List (DerivedTable × Outputs S)

namespace Scope

variable {S : Type} (scope : Scope S)

/-- Nothing is in scope. -/
def outside : Scope S := ⟨[], []⟩

/-- A row enters the scope under its alias. -/
def enter (name : Alias) (row : Row S) : Scope S :=
  { scope with rows := (⟨name, scope.rows.length⟩, row) :: scope.rows }

/-- A derived table enters the scope. -/
def join (table : DerivedTable) (outputs : Outputs S) : Scope S :=
  { scope with derived := (table, outputs) :: scope.derived }

/-- The output of a derived table in scope. -/
def output (table : DerivedTable) (name : Option String) : Doc S :=
  match scope.derived.find? (fun frame => frame.1 == table) with
  | some frame => frame.2.value name
  | none => .datum .null

end Scope

/-- A row of a result with the scope that it was projected from. -/
structure ResultRow (S : Type) where
  scope : Scope S
  outputs : Outputs S

/-- What a part of a statement contributes.  An aggregated value reads a group
of rows beside the row at hand; the other fields are what the part does in the
`select` that it stands in. -/
structure SqlMeaning (S : Type) where
  aggregated : Bool := false
  read : List (Scope S) → Scope S → Doc S := fun _ _ => .datum .null
  /-- The parameter of a placeholder, and whether it is a collection. -/
  parameter : Option (InputPath × Bool) := none
  results : Scope S → List (ResultRow S) := fun _ => []
  comparison : Option (Comparison (Scope S)) := none
  /-- The scopes that a source makes of one. -/
  joined : Scope S → List (Scope S) := fun scope => [scope]
  holds : Scope S → Bool := fun _ => true
  limit : Scope S → Option Nat := fun _ => none
  offset : Scope S → Option Nat := fun _ => none
  key : Option (Scope S → Datum S) := none
  /-- The column that the value adds to the rows. -/
  column : Option (Option String) := none

/-- What the server decides, with the inputs of one execution. -/
structure Server (S : Type) where
  engine : Engine S
  inputs : Inputs S
  database : Database S
  /-- What an ordering input selects. -/
  ordering : InputPath → List (String × DynamicOrderDirection)
  order : DynamicOrderDirection → Comparison (Datum S)
  natural : Datum S → Option Nat
  natural_count : ∀ number,
    natural (.scalar (engine.count number)) = some number
  publicColumn : ColumnId → Datum S → Datum S
  publicAggregate : AggregateFunction → Option ColumnId → Datum S → Datum S

/-- How the numbers, variants and markers of a statement are read. -/
structure Reading (S : Type) where
  parameters : List InputPath
  variants : InputPath → List SqlVariantCase
  markers : Nat → SqlMeaning S

/-- The direction as a dynamic input names it. -/
def SortDirection.dynamic : SortDirection → DynamicOrderDirection
  | .asc => .asc
  | .desc => .desc

/-- The direction as an input spells it. -/
def SortDirection.text : SortDirection → String
  | .asc => "asc"
  | .desc => "desc"

/-- The first items, where there is a limit. -/
def takeAtMost {α : Type} : Option Nat → List α → List α
  | none, items => items
  | some limit, items => items.take limit

/-- The groups of the items with one key, one for each key. -/
def groupsBy
    {α κ : Type}
    [DecidableEq κ]
    (key : α → κ)
    (items : List α) : List (List α) :=
  (items.map key).dedup.map (fun sought =>
    items.filter (fun item => key item = sought))

namespace SqlMeaning

variable {S : Type}

/-- A part that means nothing. -/
def void : SqlMeaning S := {}

/-- A part that is read at a row or over a group. -/
@[simps]
def value
    (aggregated : Bool)
    (read : List (Scope S) → Scope S → Doc S) : SqlMeaning S :=
  { aggregated := aggregated
    read := read
    column := some none }

/-- A part that joins rows. -/
@[simps]
def source (scopes : Scope S → List (Scope S)) : SqlMeaning S :=
  { joined := scopes }

/-- A part that orders the rows. -/
@[simps]
def order (rows : Comparison (Scope S)) : SqlMeaning S :=
  { comparison := some rows }

/-- A part that rows have to pass. -/
@[simps]
def condition (holds : Scope S → Bool) : SqlMeaning S :=
  { holds := holds }

/-- A part that limits the rows. -/
@[simps]
def limitTo (limit : Scope S → Option Nat) : SqlMeaning S :=
  { limit := limit }

/-- A part that leaves rows out. -/
@[simps]
def offsetBy (offset : Scope S → Option Nat) : SqlMeaning S :=
  { offset := offset }

/-- A part that groups the rows. -/
@[simps]
def grouped (key : Scope S → Datum S) : SqlMeaning S :=
  { key := some key }

/-- The value of a row without a group. -/
def datum (part : SqlMeaning S) (scope : Scope S) : Datum S :=
  (part.read [] scope).toDatum

/-- An expression over the values of its parts. -/
def expression
    (parts : List (SqlMeaning S))
    (result : List (Doc S) → Doc S) : SqlMeaning S :=
  .value (parts.any aggregated) (fun group scope =>
    result (parts.map (fun part => part.read group scope)))

@[simp] theorem aggregated_expression
    (parts : List (SqlMeaning S))
    (result : List (Doc S) → Doc S) :
    (expression parts result).aggregated = parts.any aggregated := rfl

@[simp] theorem read_expression
    (parts : List (SqlMeaning S))
    (result : List (Doc S) → Doc S)
    (group : List (Scope S))
    (scope : Scope S) :
    (expression parts result).read group scope =
      result (parts.map (fun part => part.read group scope)) := rfl

/-- A part that is an output under a name. -/
@[simps]
def field (name : Option String) (part : SqlMeaning S) : SqlMeaning S :=
  { aggregated := part.aggregated
    read := part.read
    column := some name }

/-! ## Parts of a `select` -/

section Select

variable (parts : List (SqlMeaning S))

/-- The rows that the sources join. -/
def scopes (scope : Scope S) : List (Scope S) :=
  parts.foldl (fun scopes part => scopes.flatMap part.joined) [scope]

/-- The joined rows that pass all conditions. -/
def passing (scope : Scope S) : List (Scope S) :=
  (scopes parts scope).filter (fun row => parts.all (fun part => part.holds row))

/-- The orders of a select, the first one first. -/
def sorting : Comparison (Scope S) :=
  .lexAll (parts.filterMap comparison)

/-- The outputs of a row, or of a group at its first row. -/
def outputs (group : List (Scope S)) (scope : Scope S) : Outputs S :=
  parts.filterMap (fun part =>
    part.column.map (fun name => (name, part.read group scope)))

/-- Cut by the offset and the limit, which are read outside. -/
def window
    {α : Type}
    (scope : Scope S)
    (rows : List α) : List α :=
  takeAtMost (parts.findSome? (fun part => part.limit scope))
    (rows.drop ((parts.findSome? (fun part => part.offset scope)).getD 0))

/-- The key of a row. -/
def groupKey (row : Scope S) : List (Datum S) :=
  (parts.filterMap key).map (fun key => key row)

variable [DecidableEq S]

/-- One row for every group, one for all rows under an aggregate, or one for
every row. -/
def projected (scope : Scope S) : List (ResultRow S) :=
  if parts.any (fun part => part.key.isSome) then
    (groupsBy (groupKey parts) (passing parts scope)).map (fun group =>
      ⟨scope, outputs parts group (group.headD scope)⟩)
  else if parts.any aggregated then
    [⟨scope, outputs parts (passing parts scope) scope⟩]
  else
    ((sorting parts).sort (passing parts scope)).map (fun row =>
      ⟨row, outputs parts [] row⟩)

/-- The rows of a select. -/
def select (scope : Scope S) : List (ResultRow S) :=
  window parts scope (projected parts scope)

end Select

/-! ## Subqueries -/

/-- Subqueries as rows beside the row at hand. -/
def joinedResults
    (query : SqlMeaning S)
    (table : DerivedTable)
    (scope : Scope S) : List (Scope S) :=
  (query.results scope).map (fun result => scope.join table result.outputs)

/-- The same with a row of nulls where the subquery is empty. -/
def leftJoined
    (query : SqlMeaning S)
    (table : DerivedTable)
    (scope : Scope S) : List (Scope S) :=
  match query.results scope with
  | [] => [scope.join table []]
  | _ => joinedResults query table scope

/-- The row of a result enters the scope of its reader. -/
def entered
    (name : Alias)
    (scope : Scope S)
    (result : ResultRow S) : Scope S :=
  match result.scope.rows with
  | [] => scope
  | (_, row) :: _ => scope.enter name row

/-- The array of a group, or null when it is empty. -/
def aggregatedArray
    (object : SqlMeaning S)
    (orders : List (SqlMeaning S))
    (group : List (Scope S)) : Doc S :=
  if group.isEmpty then
    .datum .null
  else
    .array (((sorting orders).sort group).map (fun row =>
      object.read [] row))

end SqlMeaning

/-- The reading of texts that hold no markers, such as those of sites. -/
def Reading.static
    {S : Type}
    (template : SqlTemplateContext) : Reading S where
  parameters := template.parameters
  variants path :=
    ((template.variants.find? (fun variant => variant.path == path)).map
      GeneratedSqlVariant.cases).getD []
  markers _ := .void

namespace Server

variable {S : Type} [DecidableEq S] (server : Server S)

/-- What the server decides, where column references are read by a rule. -/
def bound (binding : Binding S) : Session S :=
  ⟨server.engine, server.inputs, server.database, binding⟩

/-- The session in which names are bound to the innermost alias. -/
def session : Session S :=
  server.bound innermost

/-- The text that an input selects. -/
def selectedText
    (variants : List SqlVariantCase)
    (path : InputPath) : Option String :=
  (variants.find? (fun variant =>
    variant.value == server.inputs.selected path)).map SqlVariantCase.text

/-- Items in the direction that a text names. -/
def directed
    {α : Type}
    (text : Option String)
    (value : α → Datum S) : Comparison α :=
  if text = some SortDirection.asc.text then
    (server.order .asc).on value
  else if text = some SortDirection.desc.text then
    (server.order .desc).on value
  else
    .trivial

/-- A limit under a guard. -/
def least (guard : Nat) (value : Datum S) : Nat :=
  match server.natural value with
  | none => guard
  | some limit => min limit guard

/-- What an operator makes of the values of its operands. -/
def operation
    (reading : Reading S)
    (construct : SqlConstruct)
    (values : List (Doc S)) : Doc S :=
  match construct, values with
  | .binary op, [left, right] =>
      .datum (.ofTruth (server.engine.binary op left.toDatum right.toDatum))
  | .not, [operand] => .datum (.ofTruth operand.toDatum.truth.not)
  | .isNull negated, [operand] =>
      .datum (.bool (operand.toDatum.isNull != negated))
  | .caseWhen, [guard, value] =>
      if guard.toDatum.truth = .tt then value else .datum .null
  | .inList negated, operand :: items =>
      .datum (.ofTruth (Engine.negateIf negated
        (server.engine.member operand.toDatum (items.map Doc.toDatum))))
  | .variant path, [left, right] =>
      .datum (.ofTruth (server.engine.variant (server.inputs.selected path)
        (reading.variants path) left.toDatum right.toDatum))
  | .variantNull path, [operand] =>
      .datum (.ofTruth (Engine.variantNull (server.inputs.selected path)
        (reading.variants path) operand.toDatum))
  | .directionCase path direction, [operand] =>
      if server.selectedText (reading.variants path) path =
          some direction.text then
        operand
      else
        .datum .null
  | .least guard, [operand] =>
      .datum (.scalar
        (server.engine.count (server.least guard operand.toDatum)))
  | .publicColumn column, [operand] =>
      .datum (server.publicColumn column operand.toDatum)
  | .publicAggregate function column, [operand] =>
      .datum (server.publicAggregate function column operand.toDatum)
  | .jsonBuildObject names, values => .object (names.zip values)
  | .coalesceEmpty, [.datum .null] => .array []
  | .coalesceEmpty, [value] => value
  | _, _ => .datum .null

/-- What a construct makes of its parts. -/
def build
    (reading : Reading S)
    (construct : SqlConstruct)
    (parts : List (SqlMeaning S)) : SqlMeaning S :=
  match construct, parts with
  | .column source column, [] =>
      .value false (fun _ scope =>
        .datum (server.session.column scope.rows ⟨source, 0⟩ column))
  | .output table name, [] =>
      .value false (fun _ scope => scope.output table name)
  | .keyword text, [] => .value false (fun _ _ => .datum (.bool (text == "TRUE")))
  | .literal value, [] =>
      .value false (fun _ _ => .datum (server.engine.literal value))
  | .number value, [] =>
      .value false (fun _ _ => .datum (.scalar (server.engine.count value)))
  | .isPresent, [placeholder] =>
      .value false (fun _ _ => .datum (.bool (placeholder.parameter.any
        (fun parameter =>
          server.inputs.isPresent ⟨parameter.1, none, parameter.2⟩))))
  | .anyOf negated, [operand, placeholder] =>
      .value operand.aggregated (fun group scope =>
        .datum (.ofTruth (Engine.negateIf negated
          (server.engine.memberOf (operand.read group scope).toDatum
            (placeholder.parameter.bind (fun parameter =>
              server.inputs.collection parameter.1))))))
  | .orderVariant path, [operand] =>
      .order (server.directed
        (server.selectedText (reading.variants path) path)
        operand.datum)
  | .marker index, [] => reading.markers index
  | .dynamicOperator _ _, [operand] | .dynamicNullTest _, [operand]
  | .jsonWire, [operand] => operand
  | .dynamicDirection direction, [operand] =>
      .order ((server.order direction).on operand.datum)
  | .function function, [operand] =>
      .value true (fun group _ => .datum (server.engine.aggregateValue function
        (group.map operand.datum)))
  | .countRows, [] =>
      .value true (fun group _ =>
        .datum (.scalar (server.engine.count group.length)))
  | .anyRows, [] =>
      .value true (fun group _ => .datum (.bool !group.isEmpty))
  | .jsonAgg, object :: orders =>
      .value true (fun group _ => SqlMeaning.aggregatedArray object orders group)
  | .exists, [query] =>
      .value false (fun _ scope => .datum (.bool !(query.results scope).isEmpty))
  | .scalar, [query] =>
      .value false (fun _ scope =>
        ((query.results scope).head?.bind (fun result =>
          result.outputs.head?.map Prod.snd)).getD (.datum .null))
  | .select, parts => { results := SqlMeaning.select parts }
  | .fromTable table name, [] =>
      .source (fun scope => (server.database table).map (scope.enter name))
  | .fromSubquery name, [query] =>
      .source (fun scope => (query.results scope).map (SqlMeaning.entered name scope))
  | .fromGroups name, [query] =>
      .source (SqlMeaning.joinedResults query (.groups name))
  | .lateral name, [query] => .source (SqlMeaning.leftJoined query (.related name))
  | .root index, [query] => .source (SqlMeaning.joinedResults query (.root index))
  | .singleton, [query] => .source (SqlMeaning.leftJoined query (.root 0))
  | .condition, [operand] =>
      .condition (fun scope => (operand.datum scope).truth == .tt)
  | .groupBy, [operand] => .grouped operand.datum
  | .orderBy direction, [operand] =>
      .order (operand.comparison.getD
        ((server.order direction.dynamic).on operand.datum))
  | .limit, [operand] =>
      .limitTo (fun scope => server.natural (operand.datum scope))
  | .offset, [operand] =>
      .offsetBy (fun scope => server.natural (operand.datum scope))
  | .field name, [operand] => .field name operand
  | _, parts => .expression parts (server.operation reading construct)

mutual

/-- The meaning of a construct, from those of its parts. -/
def meaning (reading : Reading S) : Sql → SqlMeaning S
  | .placeholder number _ collection =>
      match reading.parameters[number - 1]? with
      | none => .void
      | some path =>
          { SqlMeaning.value false (fun _ _ =>
              .datum (server.inputs.value path)) with
            parameter := some (path, collection) }
  | .node construct parts =>
      server.build reading construct (meanings reading parts)

/-- The meanings of parts. -/
def meanings (reading : Reading S) : List Sql → List (SqlMeaning S)
  | [] => []
  | part :: parts => meaning reading part :: meanings reading parts

end

/-- The value of a field of a predicate input, which all of its texts read. -/
def siteValue
    (reading : Reading S)
    (field : GeneratedDynamicInputSiteField)
    (scope : Scope S) : Datum S :=
  match GeneratedDynamicInputSite.fieldTexts field with
  | [] => .null
  | text :: _ => (server.meaning reading text).datum scope

/-- Rows in the order of one selected field. -/
def siteOrder
    (reading : Reading S)
    (fields : List GeneratedDynamicInputSiteField)
    (selected : String × DynamicOrderDirection) : Comparison (Scope S) :=
  match (fields.find? (fun field => field.key == selected.1)).bind (fun field =>
      field.directions.find? (fun direction => direction.1 == selected.2)) with
  | none => .trivial
  | some direction =>
      ((server.meaning reading direction.2).comparison).getD .trivial

/-- A dynamic input where its marker stands. -/
def siteMeaning
    (reading : Reading S)
    (site : GeneratedDynamicInputSite) : SqlMeaning S :=
  match site.kind with
  | .predicate =>
      .value false (fun _ scope => .datum (.ofTruth
        (server.inputs.dynamic site.path (site.fields.map (fun field =>
          (field.key, server.siteValue reading field scope))))))
  | .order =>
      .order (.lexAll ((server.ordering site.path).map
        (server.siteOrder reading site.fields)))

/-- The site behind a marker. -/
def markerMeaning
    (template : SqlTemplateContext)
    (index : Nat) : SqlMeaning S :=
  match template.dynamicSites[index]? with
  | none => .void
  | some site => server.siteMeaning (.static template) site

/-- The reading of a statement with its template. -/
def reading (template : SqlTemplateContext) : Reading S :=
  { (Reading.static template : Reading S) with
    markers := server.markerMeaning template }

/-- What a generated query returns. -/
def answer (sql : GeneratedSql) : List (Outputs S) :=
  ((server.meaning (server.reading sql.template) sql.statement).results
    .outside).map ResultRow.outputs

end Server

end Postgres

end Dsql
