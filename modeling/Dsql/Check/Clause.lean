import Dsql.Capabilities
import Dsql.Diagnostics
import Dsql.Logic.Text
import Dsql.Resolution

/-!
# Clause checks

What the compiler reports about one clause of a field selection.  The clause
is resolved first; the checks read the resolution and the written expression.
Inside the body of an `exists` whose source does not resolve nothing resolves,
which the checks see as an absent context.
-/

namespace Dsql

/-- What a definition is. -/
inductive DefKind where
  | query
  | fragment
deriving DecidableEq, Repr

/-- The written form of an operand that messages name. -/
def Expr.operandText : Expr → String
  | .path written => written.display
  | .aggregate source function operand =>
      source.display ++ " | " ++ function ++
        (match operand with
          | some operand => " " ++ operand.display
          | none => "")
  | _ => ""

namespace ExistenceProblemKind

/-- The code of a problem of an `exists` source. -/
def code : ExistenceProblemKind → DiagnosticCode
  | .sourceMustBeCollection => .predicateTypeMismatch
  | .fieldNotFound _ => .fieldNotFound
  | .ambiguousRelation .. => .ambiguousRelation
  | .tableNotFound _ => .tableNotFound
  | .ambiguousTable .. => .ambiguousTable

/-- The text of a problem of an `exists` source. -/
def message : ExistenceProblemKind → String
  | .sourceMustBeCollection =>
      "`exists` source must be a to-many relation or table"
  | .fieldNotFound reference => "field `" ++ reference ++ "` not found"
  | .ambiguousRelation reference candidates =>
      "relation `" ++ reference ++ "` is ambiguous; candidates: " ++
        String.intercalate ", " candidates
  | .tableNotFound reference => "table `" ++ reference ++ "` not found"
  | .ambiguousTable reference candidates =>
      "table `" ++ reference ++ "` is ambiguous; candidates: " ++
        String.intercalate ", " (candidates.map (fun candidate =>
          candidate.schema ++ "::" ++ candidate.table))

/-- The diagnostic of a problem of an `exists` source. -/
def diagnostic (problem : ExistenceProblemKind) : Diagnostic :=
  .error problem.code problem.message

end ExistenceProblemKind

namespace AggregateProblemKind

/-- The code of a problem of an aggregate. -/
def code : AggregateProblemKind → DiagnosticCode
  | .predicateSourceMustBeDirectCollection _ => .aggregateSourceCardinality
  | _ => .invalidAggregateField

/-- The text of a problem of an aggregate. -/
def message : AggregateProblemKind → String
  | .predicateSourceMustBeDirectCollection source =>
      "aggregate predicate source `" ++ source ++
        "` must be a direct `.`-anchored collection relation"
  | .predicateAggregateMustBeBoolean function =>
      "aggregate function `" ++ function.label ++
        "` must be compared to a value; only `exists` is a predicate by " ++
        "itself"
  | .unknownFunction name => "unknown aggregate function `" ++ name ++ "`"
  | .missingOperand function =>
      "aggregate function `" ++ function.label ++
        "` requires a direct column operand"
  | .unexpectedOperand function =>
      "aggregate function `" ++ function.label ++
        "` does not accept an operand"
  | .invalidOperand written =>
      "aggregate operand `" ++ written ++
        "` must be a `.`-anchored direct scalar column"
  | .unsupportedOperandType function dataType =>
      "aggregate function `" ++ function.label ++ "` does not support `" ++
        dataType.asStr ++ "` operands"

/-- The diagnostic of a problem of an aggregate. -/
def diagnostic (problem : AggregateProblemKind) : Diagnostic :=
  .error problem.code problem.message

end AggregateProblemKind

/-- Where a dynamic predicate may stand. -/
inductive DynamicPredicatePlacement where
  | conjunctive
  | invalidBoolean
  | missingDynamicInputSurface
deriving DecidableEq, Repr

namespace DynamicPredicatePlacement

/-- Where a nested predicate stands. -/
def nested : DynamicPredicatePlacement → DynamicPredicatePlacement
  | .missingDynamicInputSurface => .missingDynamicInputSurface
  | .conjunctive | .invalidBoolean => .invalidBoolean

/-- The placement of the operands of a connective. -/
def operand
    (placement : DynamicPredicatePlacement)
    (op : BinaryOp) : DynamicPredicatePlacement :=
  match placement, op with
  | .conjunctive, .and => .conjunctive
  | .missingDynamicInputSurface, _ => .missingDynamicInputSurface
  | _, _ => .invalidBoolean

/-- A dynamic predicate may stand at the top or below conjunctions. -/
def diagnostics : DynamicPredicatePlacement → List Diagnostic
  | .conjunctive => []
  | .invalidBoolean =>
      [.error .invalidDynamicInput
        ("bounded dynamic predicates must be the whole predicate or occur " ++
          "in positive `and` position")]
  | .missingDynamicInputSurface =>
      [.error .invalidDynamicInput
        ("bounded dynamic predicates inside `exists` require the nested " ++
          "source to declare a public dynamic input surface")]

end DynamicPredicatePlacement

/-- What the checks of a clause read besides the clause itself. -/
structure ClauseCheck where
  catalog : Catalog
  definitionKind : DefKind
  sourceHasTransform : Bool
  /-- The table of the clause, as messages name it. -/
  tableName : String

namespace ClauseCheck

variable (check : ClauseCheck)

/-- The reference names an input that the definition may declare. -/
def checkDynamicInputOwner
    (reference : VariableRef)
    (kind : String) : List Diagnostic :=
  (if reference.name.isNone then
      [.error .invalidDynamicInput
        ("bounded dynamic " ++ kind ++
          " inputs must be named top-level query inputs")]
    else
      []) ++
    (if check.definitionKind = .fragment then
        [.error .invalidDynamicInput
          ("bounded dynamic " ++ kind ++
            " inputs are not supported in fragments")]
      else
        [])

mutual

/-- The dynamic predicates of an expression stand where they may. -/
@[grind =]
def checkDynamicPredicatePlacement
    (placement : DynamicPredicatePlacement) : Expr → List Diagnostic
  | .dynamicPredicate reference _ =>
      check.checkDynamicInputOwner reference "predicate" ++
        placement.diagnostics
  | .binary op lhs rhs =>
      checkDynamicPredicatePlacement (placement.operand op) lhs ++
        checkDynamicPredicatePlacement (placement.operand op) rhs
  | .unary _ operand =>
      checkDynamicPredicatePlacement placement.nested operand
  | .nullTest operand _ =>
      checkDynamicPredicatePlacement placement.nested operand
  | .list items => checkDynamicItemsPlacement placement.nested items
  | .exists _ _ body =>
      checkDynamicBodyPlacement .missingDynamicInputSurface body
  | _ => []

/-- The same of the items of a list. -/
@[grind =]
def checkDynamicItemsPlacement
    (placement : DynamicPredicatePlacement) : List Expr → List Diagnostic
  | [] => []
  | item :: items =>
      checkDynamicPredicatePlacement placement item ++
        checkDynamicItemsPlacement placement items

/-- The same of the body of an `exists`. -/
@[grind =]
def checkDynamicBodyPlacement
    (placement : DynamicPredicatePlacement) : Option Expr → List Diagnostic
  | none => []
  | some body => checkDynamicPredicatePlacement placement body

end

section Operands

-- The context an operand is resolved in.
variable (context : Option ClauseContext)

/-- The type of a path that resolves to a column. -/
def pathValueType (path : ScopedPath) : Option ResolvedValueType :=
  match context with
  | none => none
  | some context =>
      match (resolvePath check.catalog context path).terminal with
      | .column _ _ _ valueType => valueType
      | _ => none

/-- The aggregate of an operand, if it is resolved. -/
def aggregate
    (source : ScopedPath)
    (function : String)
    (operand : Option ScopedPath) : Option ResolvedPredicateAggregate :=
  context.map (fun context =>
    resolvePredicateAggregate check.catalog context source function operand)

/-- The logical type and the capabilities of a path or an aggregate. -/
def exprSemantics : Expr → Option (DataType × TypeCapabilities)
  | .path path =>
      (check.pathValueType context path).map (fun valueType =>
        (valueType.logical, valueType.capabilities))
  | .aggregate source function operand =>
      ((check.aggregate context source function operand).filter
        ResolvedPredicateAggregate.isValid).bind (fun aggregate =>
          aggregate.dataType.map (fun dataType =>
            (dataType, builtinCapabilities dataType)))
  | _ => none

/-- The key and the variants of a path of an enumeration type. -/
def enumContract : Expr → Option (TypeKey × List String)
  | .path path =>
      (check.pathValueType context path).bind (fun valueType =>
        valueType.enumVariants.map (fun variants =>
          (valueType.key, variants)))
  | _ => none

/-- A type without a wire format cannot be compared. -/
def checkUnmappedValueType
    (valueType : ResolvedValueType) : List Diagnostic :=
  if valueType.capabilities.wire = .unsupported then
    [.error .unmappedType
      ("database type `" ++ valueType.readable ++
        "` cannot be used as an input")]
  else
    []

/-- Operands that read the type of the path they are compared with. -/
def readsInputType : Expr → Bool
  | .literal _ | .variable _ | .list _ => true
  | _ => false

/-- The paths of a comparison have wire formats. -/
def checkUnmappedComparisonOperand (lhs rhs : Expr) : List Diagnostic :=
  let unmapped (path : ScopedPath) : List Diagnostic :=
    match check.pathValueType context path with
    | some valueType => checkUnmappedValueType valueType
    | none => []
  match lhs, rhs with
  | .path path, rhs => if readsInputType rhs then unmapped path else []
  | lhs, .path path => if readsInputType lhs then unmapped path else []
  | _, _ => []

/-- A literal at an enumeration names one of its variants. -/
def checkEnumLiteral
    (contract : Option (TypeKey × List String))
    (path rawValue : String) : List Diagnostic :=
  match contract with
  | none => []
  | some (key, values) =>
      if values.contains rawValue then
        []
      else
        [.error .predicateTypeMismatch
          ("field `" ++ path ++ "` expects a variant of `" ++ key.schema ++
            "." ++ key.name ++ "`; found " ++ Text.debugText rawValue ++
            ", expected one of " ++
            String.intercalate ", " (values.map Text.debugText))]

/-- The kind and the text of a literal; null has neither. -/
def literalText : LiteralValue → Option (LiteralKind × String)
  | .string value => some (.string, value)
  | .number raw => some (.number, raw)
  | .bool true => some (.boolean, "true")
  | .bool false => some (.boolean, "false")
  | .null => none

/-- A literal used as `usage` where a value of these capabilities stands. -/
def checkLiteralForCapabilities
    (capabilities : TypeCapabilities)
    (contract : Option (TypeKey × List String))
    (path usage : String)
    (kind : LiteralKind)
    (rawValue : String) : List Diagnostic :=
  if capabilities.literals.accepts kind rawValue then
    checkEnumLiteral contract path rawValue
  else
    [.error .predicateTypeMismatch
      ("field `" ++ path ++ "` expects " ++
        capabilities.literals.description ++ " but " ++ usage ++ " uses " ++
        kind.asStr)]

/-- An item of a list can stand at the type of the path. -/
def checkMembershipItem
    (capabilities : TypeCapabilities)
    (contract : Option (TypeKey × List String))
    (path : String) : Expr → List Diagnostic
  | .literal value =>
      match literalText value with
      | some (kind, rawValue) =>
          checkLiteralForCapabilities capabilities contract path "membership"
            kind rawValue
      | none => []
  | _ =>
      [.error .predicateTypeMismatch "membership list items must be literals"]

/-- The sides of a membership fit each other. -/
def checkMembershipTypes (lhs rhs : Expr) : List Diagnostic :=
  match lhs with
  | .path path =>
      match check.exprSemantics context lhs with
      | none => []
      | some (_, capabilities) =>
          if capabilities.wire = .unsupported then
            []
          else
            match rhs with
            | .list items =>
                items.flatMap (checkMembershipItem capabilities
                  (check.enumContract context lhs) path.display)
            | .variable _ => []
            | _ =>
                [.error .predicateTypeMismatch
                  ("membership expects a list literal or collection " ++
                    "variable")]
  | _ =>
      [.error .predicateTypeMismatch
        "membership left operand must be a field path"]

/-- Beside an aggregate a path has one step, from the current or the root row.
-/
def checkAggregateComparisonPath (lhs rhs : Expr) : List Diagnostic :=
  let unsupported (path : ScopedPath) : List Diagnostic :=
    if path.segments.length = 1 ∧
        (path.anchor = .current ∨ path.anchor = .root) then
      []
    else if (check.pathValueType context path).isNone then
      []
    else
      [.error .clauseValueTypeMismatch
        ("aggregate comparisons only support direct `.`- or `~`-anchored " ++
          "scalar path operands")]
  match lhs, rhs with
  | .aggregate .., .path path => unsupported path
  | .path path, .aggregate .. => unsupported path
  | _, _ => []

/-- The result of an aggregate has the operator. -/
def checkAggregateOperator
    (op : ComparisonOp)
    (aggregate : Expr) : List Diagnostic :=
  match check.exprSemantics context aggregate with
  | none => []
  | some (dataType, capabilities) =>
      if capabilities.supports op then
        []
      else
        [.error .clauseValueTypeMismatch
          ("aggregate predicate of type " ++ dataType.asStr ++
            " does not support operator `" ++ op.asStr ++ "`")]

/-- The aggregates of a comparison have its operator. -/
def checkAggregateComparisonOperator
    (op : ComparisonOp)
    (lhs rhs : Expr) : List Diagnostic :=
  match lhs, rhs with
  | .aggregate .., _ => check.checkAggregateOperator context op lhs
  | _, .aggregate .. => check.checkAggregateOperator context op rhs
  | _, _ => []

/-- The expression is the literal null. -/
def isNullExpr : Expr → Bool
  | .literal .null => true
  | _ => false

/-- The operators of an operator variable against the type of its path. -/
def checkOperatorsFor
    (lhs rhs : Expr)
    (dataType : DataType)
    (capabilities : TypeCapabilities)
    (allowed : List ComparisonOp) : List Diagnostic :=
  (if (isNullExpr lhs || isNullExpr rhs) &&
        allowed.any (fun op => !(op == .eq || op == .ne)) then
      [.error .predicateTypeMismatch
        ("operator-variable comparisons against `null` only support `==` " ++
          "and `!=`")]
    else
      []) ++
    allowed.flatMap (fun op =>
      if capabilities.supports op then
        []
      else
        [.error .clauseValueTypeMismatch
          ("clause `operator` expects an operator valid for " ++
            dataType.asStr)])

/-- An operator that an input decides suits both sides. -/
def checkOperatorVariable
    (lhs rhs : Expr)
    (operator : VariableRef) : List Diagnostic :=
  let pathOperand (path : Expr) : List Diagnostic :=
    match check.exprSemantics context path with
    | none => []
    | some (dataType, capabilities) =>
        if capabilities.wire = .unsupported then
          []
        else
          match operator.operators with
          | none => []
          | some allowed =>
              checkOperatorsFor lhs rhs dataType capabilities allowed
  let aggregateOperand : List Diagnostic :=
    [.error .clauseValueTypeMismatch
      "operator variables are not supported for aggregate predicates"]
  -- The left operand decides when both are a path or an aggregate.
  match lhs, rhs with
  | .path _, _ => pathOperand lhs
  | .aggregate .., _ => aggregateOperand
  | _, .path _ => pathOperand rhs
  | _, .aggregate .. => aggregateOperand
  | _, _ => []

/-- A literal compared with a path or an aggregate. -/
def checkLiteralComparison
    (op : ComparisonOp)
    (operand : Expr)
    (literal : LiteralValue) : List Diagnostic :=
  match check.exprSemantics context operand with
  | none => []
  | some (_, capabilities) =>
      if capabilities.wire = .unsupported then
        []
      else if operand.isAggregate && !capabilities.supports op then
        []
      else
        match literalText literal with
        | none =>
            if op = .eq ∨ op = .ne then
              []
            else
              [.error .predicateTypeMismatch
                ("comparison with `null` does not support operator `" ++
                  op.asStr ++ "`; use `==` or `!=`")]
        | some (kind, rawValue) =>
            if op = .like ∧ capabilities.supports .like = false then
              [.error .predicateTypeMismatch
                ("field `" ++ operand.operandText ++ "` expects " ++
                  (builtinCapabilities .text).literals.description ++
                  " but predicate uses " ++ kind.asStr)]
            else
              checkLiteralForCapabilities capabilities
                (check.enumContract context operand) operand.operandText
                "predicate" kind rawValue

/-- Two compared paths: an enumeration is comparable with itself only. -/
def checkNominalComparison
    (left right : ScopedPath) : List Diagnostic :=
  match check.pathValueType context left,
      check.pathValueType context right with
  | some left, some right =>
      if (left.enumVariants.isSome || right.enumVariants.isSome) &&
          left.key != right.key then
        [.error .predicateTypeMismatch
          ("cannot compare nominal types `" ++ left.readable ++ "` and `" ++
            right.readable ++ "`")]
      else
        []
  | _, _ => []

/-- The sides of a comparison fit each other. -/
def checkBinaryPredicateTypes
    (op : ComparisonOp)
    (lhs rhs : Expr) : List Diagnostic :=
  match lhs, rhs with
  | .path left, .path right => check.checkNominalComparison context left right
  | .path _, .literal value => check.checkLiteralComparison context op lhs value
  | .aggregate .., .literal value =>
      check.checkLiteralComparison context op lhs value
  | .literal value, .path _ => check.checkLiteralComparison context op rhs value
  | .literal value, .aggregate .. =>
      check.checkLiteralComparison context op rhs value
  | _, _ => []

/-- What is reported about a binary operator itself. -/
def checkOperator
    (op : BinaryOp)
    (lhs rhs : Expr) : List Diagnostic :=
  match op with
  | .comparison op =>
      check.checkAggregateComparisonOperator context op lhs rhs ++
        check.checkAggregateComparisonPath context lhs rhs ++
        check.checkBinaryPredicateTypes context op lhs rhs
  | .variable operator => check.checkOperatorVariable context lhs rhs operator
  | .isIn | .notIn => check.checkMembershipTypes context lhs rhs
  | .and | .or => []

/-- A path leads to a field, which is boolean where it is a condition. -/
def checkPath
    (booleanPosition : Bool)
    (path : ScopedPath) : List Diagnostic :=
  if (check.pathValueType context path).isNone then
    [.error .fieldNotFound
      ("field `" ++ path.display ++ "` not found on table `" ++
        check.tableName ++ "`")]
  else if booleanPosition then
    [.error .predicateTypeMismatch
      ("bare field `" ++ path.display ++
        "` is not a predicate; compare or test it")]
  else
    []

/-- An aggregate resolves, and is boolean where it is a condition. -/
def checkAggregate
    (booleanPosition : Bool)
    (source : ScopedPath)
    (function : String)
    (operand : Option ScopedPath) : List Diagnostic :=
  match check.aggregate context source function operand with
  | none => []
  | some aggregate =>
      aggregate.problems.map AggregateProblemKind.diagnostic ++
        (if booleanPosition then
            ((aggregate.function.filter (· != .exists)).map (fun function =>
              AggregateProblemKind.diagnostic
                (.predicateAggregateMustBeBoolean function))).toList
          else
            [])

/-- The source of an `exists` resolves. -/
def checkExistence (source : ExistsSource) : List Diagnostic :=
  match context with
  | none => []
  | some context =>
      (resolveExistence check.catalog context source).problems.map
        ExistenceProblemKind.diagnostic

/-- The context of the body of an `exists`; absent when its source does not
resolve. -/
def existsContext (source : ExistsSource) : Option ClauseContext :=
  context.bind (fun context =>
    (resolveExistence check.catalog context source).source.map (fun source =>
      context.nested source.tableId))

end Operands

/-- `and` and `or` take predicates, the other operators take values. -/
def operandsAreBoolean : BinaryOp → Bool
  | .and | .or => true
  | _ => false

/-- The expression is a path. -/
def isPath : Expr → Bool
  | .path _ => true
  | _ => false

mutual

/-- All problems of a predicate. -/
@[grind =]
def checkPredicateExpr
    (context : Option ClauseContext)
    (booleanPosition : Bool) : Expr → List Diagnostic
  | .path path => check.checkPath context booleanPosition path
  | .binary op lhs rhs =>
      check.checkUnmappedComparisonOperand context lhs rhs ++
        check.checkOperator context op lhs rhs ++
        checkPredicateExpr context (operandsAreBoolean op) lhs ++
        checkPredicateExpr context (operandsAreBoolean op) rhs
  | .unary _ operand => checkPredicateExpr context true operand
  | .nullTest operand _ =>
      (if isPath operand then
          []
        else
          [.error .predicateTypeMismatch
            "null-test operand must be a field path"]) ++
        checkPredicateExpr context false operand
  | .list items =>
      (if booleanPosition then
          [.error .predicateTypeMismatch
            "collection literal is not a boolean predicate"]
        else
          []) ++
        checkPredicateItems context items
  | .exists source _ body =>
      check.checkExistence context source ++
        checkPredicateBody (check.existsContext context source) body
  | .aggregate source function operand =>
      check.checkAggregate context booleanPosition source function operand
  | .predicateRef name =>
      [.error .predicateTypeMismatch
        ("condition `" ++ name ++
          "` may only be referenced from a filter definition")]
  | .literal (.bool _) => []
  | .literal _ =>
      if booleanPosition then
        [.error .predicateTypeMismatch
          "predicate atom must have type boolean"]
      else
        []
  | .variable _ => []
  | .dynamicPredicate _ _ => []
  | .error => []

/-- All problems of the items of a list. -/
@[grind =]
def checkPredicateItems
    (context : Option ClauseContext) : List Expr → List Diagnostic
  | [] => []
  | item :: items =>
      checkPredicateExpr context false item ++
        checkPredicateItems context items

/-- All problems of the body of an `exists`. -/
@[grind =]
def checkPredicateBody
    (context : Option ClauseContext) : Option Expr → List Diagnostic
  | none => []
  | some body => checkPredicateExpr context true body

end

/-- The largest literal that a pagination clause accepts. -/
def maxPaginationValue : Nat := 2 ^ 63 - 1

end ClauseCheck

/-- The value of a pagination literal. -/
def parsePaginationValue (value : String) : Option Nat :=
  ((parseI64 value).filter (fun value => 0 ≤ value)).map Int.toNat

namespace ClauseCheck

variable (check : ClauseCheck)

/-- A limit or an offset is a variable or an integer within the bounds. -/
def checkNonNegativeInteger
    (clause : String)
    (expr : Expr) : List Diagnostic :=
  let invalid : List Diagnostic :=
    [.error .clauseValueTypeMismatch
      ("clause `" ++ clause ++
        "` expects a non-negative integer no greater than " ++
        toString maxPaginationValue)]
  match expr with
  | .aggregate .. | .exists .. =>
      [.error .clauseValueTypeMismatch
        ("clause `" ++ clause ++
          "` does not accept aggregate predicate expressions")]
  | .literal (.number value) =>
      if (parsePaginationValue value).isSome then [] else invalid
  | .variable _ => []
  | _ => invalid

/-- An order item against the columns of the table of the clause. -/
def checkOrderItem
    (context : ClauseContext)
    (item : OrderItem) : List Diagnostic :=
  match check.catalog.checkFieldRef context.table ⟨item.field, none⟩ with
  | .column column =>
      match ResolvedValueType.forColumn check.catalog column.id with
      | some valueType => checkUnmappedValueType valueType
      | none => []
  | _ =>
      [.error .fieldNotFound
        ("field `" ++ item.field.displayText ++ "` not found on table `" ++
          check.tableName ++ "`")]

/-- Dynamic order terms are checked before the columns. -/
def checkOrderTerms
    (context : ClauseContext)
    (items : List OrderTerm) : List Diagnostic :=
  items.flatMap (fun
    | .dynamic reference _ => check.checkDynamicInputOwner reference "order"
    | .column _ => []) ++
  items.flatMap (fun
    | .column item => check.checkOrderItem context item
    | .dynamic _ _ => [])

/-- The clauses that a transformed source does not support. -/
def aggregateClauseLabel : ClauseFact → Option String
  | .filterAssignment _ | .where_ _ => none
  | .orderBy _ => some "order by"
  | .limit _ => some "limit"
  | .offset _ => some "offset"

/-- Clauses that an aggregated source may not have. -/
def checkTransformedSource (clause : ClauseFact) : List Diagnostic :=
  if check.sourceHasTransform then
    ((aggregateClauseLabel clause).map (fun label =>
      Diagnostic.error .aggregateClauseNotAllowed
        ("aggregate sources do not support `" ++ label ++
          "` clauses"))).toList
  else
    []

/-- All problems of a `where` clause. -/
def checkWhere (context : ClauseContext) (expr : Expr) : List Diagnostic :=
  check.checkDynamicPredicatePlacement .conjunctive expr ++
    check.checkPredicateExpr (some context) true expr

/-- Every report about one clause in the context of its selection. -/
def checkClauseSemantics
    (context : ClauseContext)
    (clause : ClauseFact) : List Diagnostic :=
  check.checkTransformedSource clause ++
    (match clause with
      | .filterAssignment _ => []
      | .where_ expr => check.checkWhere context expr
      | .orderBy items => check.checkOrderTerms context items
      | .limit expr => checkNonNegativeInteger "limit" expr
      | .offset expr => checkNonNegativeInteger "offset" expr)

end ClauseCheck

end Dsql
