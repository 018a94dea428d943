import Dsql.Metadata
import Mathlib.Tactic

/-!
# The catalog

Tables, columns, relations and types as the compiler reads them, with the
lookups that name resolution uses.  Every entry carries its own identifier and
a lookup returns the entry of that identifier, so the position of an entry in
its table is never relied on.  A column carries its type itself.
-/

namespace Dsql

/-- Position of a table in the catalog. -/
structure TableId where
  index : Nat
deriving DecidableEq, Repr

/-- Position of a column in the catalog. -/
structure ColumnId where
  index : Nat
deriving DecidableEq, Repr

/-- Position of a relation in the catalog. -/
structure RelationId where
  index : Nat
deriving DecidableEq, Repr

/-- The schema and the name of a type. -/
structure TypeKey where
  schema : String
  name : String
deriving DecidableEq, Repr

/-- The schema and the name of a table. -/
structure TableKey where
  schema : String
  table : String
deriving DecidableEq, Repr

/-- Logical types that columns and values have. -/
inductive DataType where
  | uuid | text | timestamptz | int | bigInt | numeric | float | boolean
  | json | unknown
deriving DecidableEq, Repr

/-- Kinds of literals in a document. -/
inductive LiteralKind where
  | string | number | boolean | null
deriving DecidableEq, Repr

/-- Operators that compare a field with an operand. -/
inductive ComparisonOp where
  | eq | ne | gt | ge | lt | le | like
deriving DecidableEq, Repr

/-- Spelling of an operator in a document. -/
def ComparisonOp.asStr : ComparisonOp → String
  | .eq => "=="
  | .ne => "!="
  | .gt => ">"
  | .ge => ">="
  | .lt => "<"
  | .le => "<="
  | .like => "like"

/-- Name of a logical type in messages and metadata. -/
def DataType.asStr : DataType → String
  | .uuid => "uuid"
  | .text => "text"
  | .timestamptz => "timestamptz"
  | .int => "int"
  | .bigInt => "bigint"
  | .numeric => "numeric"
  | .float => "float"
  | .boolean => "boolean"
  | .json => "json"
  | .unknown => "unknown"

/-- Name of a literal kind in messages. -/
def LiteralKind.asStr : LiteralKind → String
  | .string => "string"
  | .number => "number"
  | .boolean => "boolean"
  | .null => "null"

/-- Functions over the rows of a relation. -/
inductive AggregateFunction where
  | count | exists | min | max | sum | avg
deriving DecidableEq, Repr

/-- The contextual source spelling of an aggregate function. -/
def AggregateFunction.label : AggregateFunction → String
  | .count => "count"
  | .exists => "exists"
  | .min => "min"
  | .max => "max"
  | .sum => "sum"
  | .avg => "avg"

/-- The aggregate function of a contextual source spelling. -/
def AggregateFunction.ofLabel : String → Option AggregateFunction
  | "count" => some .count
  | "exists" => some .exists
  | "min" => some .min
  | "max" => some .max
  | "sum" => some .sum
  | "avg" => some .avg
  | _ => none

/-- Accepted source kinds of one scalar surface; `valid` is the value
validation that follows a matching kind. -/
structure ScalarAcceptance where
  kinds : List LiteralKind
  valid : String → Bool
  description : String

/-- A literal is accepted by its kind and by the text of its value. -/
def ScalarAcceptance.accepts
    (acceptance : ScalarAcceptance)
    (kind : LiteralKind)
    (value : String) : Bool :=
  acceptance.kinds.contains kind && acceptance.valid value

/-- What aggregates a type has, with their result types. -/
structure AggregateCapabilities where
  minimum : Bool
  maximum : Bool
  sum : Option DataType
  average : Option DataType
deriving DecidableEq, Repr

/-- Result type of a function over an operand of the type. -/
def AggregateCapabilities.result
    (capabilities : AggregateCapabilities)
    (function : AggregateFunction)
    (operand : DataType) : Option DataType :=
  match function with
  | .min => if capabilities.minimum then some operand else none
  | .max => if capabilities.maximum then some operand else none
  | .sum => capabilities.sum
  | .avg => capabilities.average
  | .count | .exists => none

/-- What can be written, compared and aggregated at a type. -/
structure TypeCapabilities where
  wire : WireEncoding
  operators : List ComparisonOp
  literals : ScalarAcceptance
  aggregates : AggregateCapabilities

/-- The operators that a type has. -/
def TypeCapabilities.supports
    (capabilities : TypeCapabilities)
    (operator : ComparisonOp) : Bool :=
  capabilities.operators.contains operator

/-- A type of the database, as the catalog has resolved it. -/
structure CatalogType where
  key : TypeKey
  dataType : DataType
  readableType : String
  /-- Names of the variants when the type is an enumeration. -/
  enumeration : Option (List String)
  capabilities : TypeCapabilities

/-- The logical type of literals and host values of a type: an opaque type
that is cast from text is read as text. -/
def CatalogType.logicalDataType (catalogType : CatalogType) : DataType :=
  if catalogType.capabilities.wire == .textCast then
    .text
  else
    catalogType.dataType

/-- A column with its resolved type. -/
structure Column where
  id : ColumnId
  table : TableId
  name : String
  visible : Bool
  type : CatalogType
  notNull : Bool

/-- Whether a relation leads to rows or to one row. -/
inductive RelationCardinality where
  | collection
  | singular
deriving DecidableEq, Repr

/-- A relation between two tables, by pairs of equal columns. -/
structure Relation where
  id : RelationId
  name : String
  selector : String
  visible : Bool
  fromTable : TableId
  toTable : TableId
  localColumns : List ColumnId
  targetColumns : List ColumnId
  cardinality : RelationCardinality
  nullable : Bool
deriving DecidableEq, Repr

/-- A database index over columns. -/
structure Index where
  keys : List ColumnId
  isUnique : Bool
deriving DecidableEq, Repr

/-- A table with its keys and the relations that leave it. -/
structure Table where
  id : TableId
  schema : String
  name : String
  visible : Bool
  columns : List ColumnId
  primaryKey : List ColumnId
  uniqueConstraints : List (List ColumnId)
  indexes : List Index
  relations : List RelationId
deriving DecidableEq, Repr

/-- The key under which a table is found. -/
def Table.key (table : Table) : TableKey :=
  ⟨table.schema, table.name⟩

/-- The tables, types, columns and relations that documents refer to. -/
structure Catalog where
  defaultSchema : String
  tables : List Table
  types : List CatalogType
  columns : List Column
  relations : List Relation

/-- A table reference as written, with an optional schema. -/
structure TableRef where
  schema : Option String
  name : String
deriving DecidableEq, Repr

/-- A field reference as written, with an optional relation selector. -/
structure FieldRef where
  target : TableRef
  selector : Option String
deriving DecidableEq, Repr

/-- A table reference as messages show it. -/
def TableRef.displayText (reference : TableRef) : String :=
  match reference.schema with
  | some schema => schema ++ "::" ++ reference.name
  | none => reference.name

/-- A field reference as messages show it. -/
def FieldRef.displayText (reference : FieldRef) : String :=
  match reference.selector with
  | some selector => reference.target.displayText ++ "->" ++ selector
  | none => reference.target.displayText

/-- What a table reference stands for. -/
inductive TableResolution where
  | found (table : Table)
  | notFound (reference : String)
  | ambiguous (reference : String) (candidates : List TableKey)
deriving DecidableEq

/-- A relation together with the table that it leads to. -/
structure RelationField where
  table : Table
  relation : Relation
deriving DecidableEq, Repr

/-- What a field of a table stands for. -/
inductive FieldCheckResult where
  | column (column : Column)
  | relation (field : RelationField)
  | notFound
  | ambiguousRelation (reference : String) (candidates : List String)

namespace Catalog

/-- Looks a table up. -/
def tableById (catalog : Catalog) (id : TableId) : Option Table :=
  catalog.tables.find? (fun table => table.id == id)

/-- Looks a column up. -/
def columnById (catalog : Catalog) (id : ColumnId) : Option Column :=
  catalog.columns.find? (fun column => column.id == id)

/-- Looks a relation up. -/
def relationById (catalog : Catalog) (id : RelationId) : Option Relation :=
  catalog.relations.find? (fun relation => relation.id == id)

/-- A table is found under its own id. -/
theorem tableById_id
    {catalog : Catalog}
    {id : TableId}
    {table : Table}
    (h : catalog.tableById id = some table) :
    table.id = id := by
  simpa using List.find?_some h

/-- A column is found under its own id. -/
theorem columnById_id
    {catalog : Catalog}
    {id : ColumnId}
    {column : Column}
    (h : catalog.columnById id = some column) :
    column.id = id := by
  simpa using List.find?_some h

/-- A relation is found under its own id. -/
theorem relationById_id
    {catalog : Catalog}
    {id : RelationId}
    {relation : Relation}
    (h : catalog.relationById id = some relation) :
    relation.id = id := by
  simpa using List.find?_some h

/-- Looks a type up. -/
def typeByKey (catalog : Catalog) (key : TypeKey) : Option CatalogType :=
  catalog.types.find? (fun dataType => dataType.key == key)

/-- The type of a column. -/
def typeForColumn (catalog : Catalog) (id : ColumnId) : Option CatalogType :=
  (catalog.columnById id).map (fun column => column.type)

/-- The tables that documents may name. -/
def visibleTables (catalog : Catalog) : List Table :=
  catalog.tables.filter (fun table => table.visible)

/-- The visible table of a schema and a name. -/
def table (catalog : Catalog) (schema name : String) : Option Table :=
  catalog.tables.find? (fun table =>
    table.visible && table.schema == schema && table.name == name)

/-- The insertion point of a candidate in the display order of table keys. -/
def insertTableKey (key : TableKey) : List TableKey → List TableKey
  | [] => [key]
  | head :: rest =>
      if key.schema < head.schema ∨
          (key.schema = head.schema ∧ key.table ≤ head.table) then
        key :: head :: rest
      else
        head :: insertTableKey key rest

/-- Resolves a table reference; a bare name must be unique. -/
def resolveTableRefFor
    (catalog : Catalog)
    (reference : TableRef) : TableResolution :=
  match reference.schema with
  | some schema =>
      match catalog.table schema reference.name with
      | some table => .found table
      | none => .notFound reference.displayText
  | none =>
      match catalog.tables.filter (fun table =>
          table.visible && table.name == reference.name) with
      | [] => .notFound reference.displayText
      | [table] => .found table
      | tables =>
          .ambiguous reference.displayText
            ((tables.map Table.key).foldr insertTableKey [])

/-- The visible columns of a table, in its order. -/
def columnsForTable (catalog : Catalog) (table : TableId) : List Column :=
  match catalog.tableById table with
  | none => []
  | some table =>
      (table.columns.filterMap catalog.columnById).filter
        (fun column => column.visible)

/-- Visible relations leaving a table whose target is visible too. -/
def relationFieldsForTable
    (catalog : Catalog)
    (table : TableId) : List RelationField :=
  match catalog.tableById table with
  | none => []
  | some table =>
      (table.relations.filterMap catalog.relationById).filterMap
        (fun relation =>
          if relation.visible then
            match catalog.tableById relation.toTable with
            | some related =>
                if related.visible then some ⟨related, relation⟩ else none
            | none => none
          else
            none)

/-- The columns contain a nonempty unique set. -/
def columnSetCovers (columns uniqueColumns : List ColumnId) : Bool :=
  !uniqueColumns.isEmpty &&
    uniqueColumns.all (fun column => columns.contains column)

/-- Some key of the table lies within the columns. -/
def columnSetIsUnique
    (catalog : Catalog)
    (table : TableId)
    (columns : List ColumnId) : Bool :=
  match catalog.tableById table with
  | none => false
  | some table =>
      table.uniqueConstraints.any (columnSetCovers columns) ||
        table.indexes.any (fun index =>
          index.isUnique && !index.keys.isEmpty &&
            index.keys.all (fun key => columns.contains key))

/-- A candidate of an ambiguous relation, as messages show it. -/
def relationCandidateText (field : RelationField) : String :=
  field.table.schema ++ "::" ++ field.relation.name ++ "->" ++
    field.relation.selector

/-- Resolves a field name: a visible column first when neither a schema nor a
selector is written, then the visible relations of that name. -/
def checkFieldRef
    (catalog : Catalog)
    (table : TableId)
    (field : FieldRef) : FieldCheckResult :=
  match catalog.tableById table with
  | none => .notFound
  | some source =>
      let column :=
        if field.target.schema.isNone && field.selector.isNone then
          (source.columns.filterMap catalog.columnById).find? (fun column =>
            column.visible && column.name == field.target.name)
        else
          none
      match column with
      | some column => .column column
      | none =>
          let fieldSchema := field.target.schema.getD catalog.defaultSchema
          let candidates :=
            (catalog.relationFieldsForTable source.id).filter (fun candidate =>
              candidate.relation.name == field.target.name &&
                candidate.table.schema == fieldSchema &&
                (match field.selector with
                  | none => true
                  | some selector =>
                      selector == candidate.relation.selector))
          match candidates with
          | [] => .notFound
          | [relation] => .relation relation
          | relations =>
              .ambiguousRelation field.displayText
                (relations.map relationCandidateText)

end Catalog

end Dsql
