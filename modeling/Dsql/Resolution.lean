import Dsql.Syntax

/-!
# Clause resolution

Names of one clause against the tables in scope.  A clause is resolved in a
context: the root table of the definition, the table of the selection, and,
inside the body of an `exists`, the table around that body.
-/

namespace Dsql

/-- What the compiler keeps of a column's type when a path resolves to it. -/
structure ResolvedValueType where
  key : TypeKey
  logical : DataType
  readable : String
  capabilities : TypeCapabilities
  enumVariants : Option (List String)

/-- The type of the values of a column. -/
def ResolvedValueType.forColumn
    (catalog : Catalog)
    (column : ColumnId) : Option ResolvedValueType :=
  (catalog.typeForColumn column).map (fun catalogType =>
    { key := catalogType.key
      logical := catalogType.logicalDataType
      readable := catalogType.readableType
      capabilities := catalogType.capabilities
      enumVariants := catalogType.enumeration })

/-- The tables that a clause can name. -/
structure ClauseContext where
  root : TableId
  table : TableId
  parent : Option TableId
deriving DecidableEq, Repr

/-- The context of an `exists` body over `table`. -/
def ClauseContext.nested
    (context : ClauseContext)
    (table : TableId) : ClauseContext :=
  { root := context.root, table := table, parent := some context.table }

/-- A step of a path to another table. -/
structure ResolvedRelationStep where
  display : String
  relation : RelationId
  table : TableId
deriving DecidableEq, Repr

/-- Where a path ends. -/
inductive PathTerminal where
  | column (display : String) (table : TableId) (column : ColumnId)
      (valueType : Option ResolvedValueType)
  | failed
  | outOfScope

/-- The column where a path ends. -/
def PathTerminal.columnId : PathTerminal → Option ColumnId
  | .column _ _ id _ => some id
  | .failed => none
  | .outOfScope => none

/-- The relations of a path and where it ends. -/
structure ResolvedPath where
  relations : List ResolvedRelationStep
  terminal : PathTerminal

/-- The display path of a fully resolved path. -/
def ResolvedPath.displayPath (path : ResolvedPath) : Option (List String) :=
  match path.terminal with
  | .column display _ _ _ =>
      some (path.relations.map ResolvedRelationStep.display ++ [display])
  | _ => none

/-- Resolves the last segment of a path. -/
def resolveTerminal
    (catalog : Catalog)
    (table : TableId)
    (segment : PathSegment) : PathTerminal :=
  match catalog.checkFieldRef table segment.reference with
  | .column column =>
      .column segment.reference.displayText table column.id
        (ResolvedValueType.forColumn catalog column.id)
  | _ => .failed

/-- Relation steps first, then the terminal column, stopping at the first
failure. -/
def resolveSegments
    (catalog : Catalog)
    (current : TableId)
    (relations : List ResolvedRelationStep) :
    List PathSegment → ResolvedPath
  | [] => ⟨relations, .failed⟩
  | [last] => ⟨relations, resolveTerminal catalog current last⟩
  | segment :: rest =>
      match catalog.checkFieldRef current segment.reference with
      | .relation field =>
          resolveSegments catalog field.table.id
            (relations ++
              [⟨segment.reference.displayText, field.relation.id,
                field.table.id⟩])
            rest
      | _ => ⟨relations, .failed⟩

/-- A resolved path of several segments has a relation step. -/
theorem resolveSegments_relations_ne_nil
    {catalog : Catalog}
    {table : TableId}
    {segments : List PathSegment}
    {column : ColumnId}
    (hlong : 2 ≤ segments.length)
    (h : (resolveSegments catalog table [] segments).terminal.columnId =
      some column) :
    (resolveSegments catalog table [] segments).relations ≠ [] := by
  have hextends (segments : List PathSegment) :
      ∀ table relations, relations <+:
        (resolveSegments catalog table relations segments).relations := by
    intro table relations
    fun_induction resolveSegments catalog table relations segments with
    | case1 | case2 | case4 => simp
    | case3 table relations segment rest hrest field hfield ih =>
        exact (List.prefix_append _ _).trans ih
  match segments with
  | [] | [_] => simp at hlong
  | first :: second :: rest =>
      unfold resolveSegments at h ⊢
      cases hfield : catalog.checkFieldRef table first.reference with
      | relation field =>
          rw [hfield] at h
          intro hnil
          have hprefix := hextends (second :: rest) field.table.id
            ([] ++ [⟨first.reference.displayText, field.relation.id,
              field.table.id⟩])
          rw [hnil] at hprefix
          simp at hprefix
      | column | notFound | ambiguousRelation =>
          rw [hfield] at h
          simp [PathTerminal.columnId] at h

/-- The table of an anchor. -/
def ClauseContext.anchorTable
    (context : ClauseContext) : PathAnchor → Option TableId
  | .current => some context.table
  | .root => some context.root
  | .parent => context.parent

/-- Resolves a path from the table of its anchor. -/
def resolvePath
    (catalog : Catalog)
    (context : ClauseContext)
    (path : ScopedPath) : ResolvedPath :=
  match context.anchorTable path.anchor with
  | none => ⟨[], .outOfScope⟩
  | some table => resolveSegments catalog table [] path.segments

/-- What an `exists` ranges over. -/
inductive ResolvedExistenceSource where
  | relation (step : ResolvedRelationStep)
  | table (table : TableId)
deriving DecidableEq, Repr

/-- The table of an `exists`. -/
def ResolvedExistenceSource.tableId : ResolvedExistenceSource → TableId
  | .relation step => step.table
  | .table id => id

/-- The relation of an `exists`, where it has one. -/
def ResolvedExistenceSource.relationId :
    ResolvedExistenceSource → Option RelationId
  | .relation step => some step.relation
  | .table _ => none

/-- What can be wrong with the source of an `exists`. -/
inductive ExistenceProblemKind where
  | sourceMustBeCollection
  | fieldNotFound (reference : String)
  | ambiguousRelation (reference : String) (candidates : List String)
  | tableNotFound (reference : String)
  | ambiguousTable (reference : String) (candidates : List TableKey)
deriving DecidableEq, Repr

/-- The source of an `exists` with its problems. -/
structure ResolvedExistence where
  source : Option ResolvedExistenceSource
  problems : List ExistenceProblemKind
deriving DecidableEq, Repr

/-- Resolves the source of an `exists`. -/
def resolveExistence
    (catalog : Catalog)
    (context : ClauseContext) : ExistsSource → ResolvedExistence
  | .relation ⟨.current, [segment]⟩ =>
      match catalog.checkFieldRef context.table segment.reference with
      | .relation field =>
          { source := some (.relation
              ⟨segment.reference.displayText, field.relation.id,
                field.table.id⟩)
            problems :=
              if field.relation.cardinality = .collection then []
              else [.sourceMustBeCollection] }
      | .column _ => ⟨none, [.sourceMustBeCollection]⟩
      | .notFound =>
          ⟨none, [.fieldNotFound segment.reference.displayText]⟩
      | .ambiguousRelation reference candidates =>
          ⟨none, [.ambiguousRelation reference candidates]⟩
  | .relation _ => ⟨none, [.sourceMustBeCollection]⟩
  | .table name =>
      match catalog.resolveTableRefFor name with
      | .found table => ⟨some (.table table.id), []⟩
      | .notFound reference => ⟨none, [.tableNotFound reference]⟩
      | .ambiguous reference candidates =>
          ⟨none, [.ambiguousTable reference candidates]⟩

/-- What can be wrong with an aggregate. -/
inductive AggregateProblemKind where
  | predicateSourceMustBeDirectCollection (source : String)
  | predicateAggregateMustBeBoolean (function : AggregateFunction)
  | unknownFunction (name : String)
  | missingOperand (function : AggregateFunction)
  | unexpectedOperand (function : AggregateFunction)
  | invalidOperand (written : String)
  | unsupportedOperandType (function : AggregateFunction)
      (dataType : DataType)
deriving DecidableEq, Repr

/-- An aggregate in a predicate with its problems. -/
structure ResolvedPredicateAggregate where
  relation : Option ResolvedRelationStep
  function : Option AggregateFunction
  operand : Option ColumnId
  dataType : Option DataType
  nullable : Bool
  problems : List AggregateProblemKind
deriving DecidableEq, Repr

/-- The aggregate can be planned. -/
def ResolvedPredicateAggregate.isValid
    (aggregate : ResolvedPredicateAggregate) : Bool :=
  aggregate.problems.isEmpty && aggregate.relation.isSome &&
    aggregate.function.isSome && aggregate.dataType.isSome

/-- Relation, function and operand of an aggregate as contract inference
names them. -/
def ResolvedPredicateAggregate.displayPath
    (aggregate : ResolvedPredicateAggregate)
    (catalog : Catalog) : Option (List String) :=
  match aggregate.relation, aggregate.function with
  | some relation, some function =>
      some ([relation.display, function.label] ++
        ((aggregate.operand.bind catalog.columnById).map
          (fun column => column.name)).toList)
  | _, _ => none

/-- The direct operand column of an aggregate. -/
def resolveValueOperand
    (catalog : Catalog)
    (table : TableId)
    (operand : ScopedPath) : Option Column :=
  match operand with
  | ⟨.current, [⟨⟨none, name⟩, none⟩]⟩ =>
      match catalog.checkFieldRef table ⟨⟨none, name⟩, none⟩ with
      | .column column => some column
      | _ => none
  | _ => none

/-- The value of an ungrouped aggregate over `table`. -/
def resolveAggregateValue
    (catalog : Catalog)
    (table : TableId)
    (relation : ResolvedRelationStep)
    (sourceProblems : List AggregateProblemKind)
    (functionName : String)
    (operand : Option ScopedPath) : ResolvedPredicateAggregate :=
  let resolved : ResolvedPredicateAggregate :=
    { relation := some relation, function := none, operand := none
      dataType := none, nullable := false, problems := sourceProblems }
  match AggregateFunction.ofLabel functionName with
  | none =>
      { resolved with
        problems := sourceProblems ++ [.unknownFunction functionName] }
  | some .count =>
      match operand with
      | none =>
          { resolved with function := some .count, dataType := some .bigInt }
      | some operand =>
          match resolveValueOperand catalog table operand with
          | some column =>
              { resolved with
                function := some .count
                operand := some column.id
                dataType := some .bigInt }
          | none =>
              { resolved with
                function := some .count
                dataType := some .bigInt
                problems :=
                  sourceProblems ++ [.invalidOperand operand.display] }
  | some .exists =>
      { resolved with
        function := some .exists
        dataType := some .boolean
        problems :=
          if operand.isSome then
            sourceProblems ++ [.unexpectedOperand .exists]
          else
            sourceProblems }
  | some function =>
      match operand with
      | none =>
          { resolved with
            function := some function
            problems := sourceProblems ++ [.missingOperand function] }
      | some operand =>
          match resolveValueOperand catalog table operand with
          | none =>
              { resolved with
                function := some function
                nullable := true
                problems :=
                  sourceProblems ++ [.invalidOperand operand.display] }
          | some column =>
              let operandType := column.type.logicalDataType
              match column.type.capabilities.aggregates.result function
                  operandType with
              | some resultType =>
                  { resolved with
                    function := some function
                    operand := some column.id
                    dataType := some resultType
                    nullable := true }
              | none =>
                  { resolved with
                    function := some function
                    operand := some column.id
                    dataType := some operandType
                    nullable := true
                    problems := sourceProblems ++
                      [.unsupportedOperandType function operandType] }

/-- Resolves an aggregate in a predicate. -/
def resolvePredicateAggregate
    (catalog : Catalog)
    (context : ClauseContext)
    (source : ScopedPath)
    (functionName : String)
    (operand : Option ScopedPath) : ResolvedPredicateAggregate :=
  let invalid : AggregateProblemKind :=
    .predicateSourceMustBeDirectCollection source.display
  match source with
  | ⟨.current, [segment]⟩ =>
      match catalog.checkFieldRef context.table segment.reference with
      | .relation field =>
          resolveAggregateValue catalog field.table.id
            ⟨segment.reference.displayText, field.relation.id,
              field.table.id⟩
            (if field.relation.cardinality = .collection then []
              else [invalid])
            functionName operand
      | _ => ⟨none, none, none, none, false, [invalid]⟩
  | _ => ⟨none, none, none, none, false, [invalid]⟩

end Dsql
