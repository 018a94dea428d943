import Dsql.Diagnostics
import Dsql.Plan.SourcePolicies

/-!
# Filter assignment checks

What the compiler reports about `filter name when condition`, at one source or
in the header of an operation.
-/

namespace Dsql

/-- Conditions built from boolean literals, inputs and trusted context. -/
def assignmentExprIsRowIndependent : Expr → Bool
  | .literal (.bool _) => true
  | .variable _ => true
  | .unary _ operand => assignmentExprIsRowIndependent operand
  | .binary op lhs rhs =>
      (match op with
        | .and | .or | .comparison _ => true
        | _ => false) &&
        assignmentExprIsRowIndependent lhs &&
        assignmentExprIsRowIndependent rhs
  | .nullTest operand _ => assignmentExprIsRowIndependent operand
  | _ => false

namespace Planner

variable (planner : Planner)

/-- What a use of trusted context in a condition is reported for: its
resolution, then its type.  The parser rejects a context without a name. -/
def checkContextUse
    (scope : String)
    (reference : VariableRef) : List Diagnostic :=
  match reference.name with
  | none => [.error .syntaxError "expected a trusted context name"]
  | some name =>
      match planner.contexts scope name with
      | .unknown =>
          [.error .unknownTrustedContext
            ("trusted context `" ++ name ++ "` is not declared")]
      | .ambiguous providers =>
          [.error .ambiguousTrustedContext
            ("trusted context `" ++ name ++ "` is ambiguous across scopes `" ++
              String.intercalate "`, `" providers ++ "`")]
      | .invalid =>
          [.error .invalidContextDeclaration
            ("trusted context `" ++ name ++ "` is declared with no type")]
      | .resolved declared =>
          match validateContextUse name declared booleanContext with
          | .ok _ => []
          | .error message => [.error .trustedContextTypeMismatch message]

def checkAssignmentContexts (scope : String) : Expr → List Diagnostic
  | .variable reference =>
      if reference.sigil = .context then
        planner.checkContextUse scope reference
      else
        []
  | .unary _ operand => checkAssignmentContexts scope operand
  | .binary _ lhs rhs =>
      checkAssignmentContexts scope lhs ++ checkAssignmentContexts scope rhs
  | .nullTest operand _ => checkAssignmentContexts scope operand
  | _ => []

/-- The display name of the target in a mismatch report. -/
def assignmentTargetText (tables : List TableId) (operationWide : Bool) :
    String :=
  if operationWide then
    "any source in this operation"
  else
    "table `" ++
      (((tables.head?.bind planner.catalog.tableById).map Table.name).getD
        "<unknown>") ++ "`"

def checkAssignmentCondition
    (scope : String)
    (filter : PolicyEntry)
    (name : String)
    (condition : Option Expr) : List Diagnostic :=
  let redundant : Diagnostic :=
    .warning .invalidFilterAssignment
      ("filter `" ++ name ++
        "` is always enforced; this assignment is redundant")
  match condition with
  | none => if filter.alwaysEnforced then [redundant] else []
  | some condition =>
      (if assignmentExprIsRowIndependent condition then
          []
        else
          [.error .invalidFilterAssignment
            ("filter assignment condition must be a row-independent " ++
              "boolean value")]) ++
        (if filter.alwaysEnforced then
            match condition with
            | .literal (.bool true) => [redundant]
            | _ =>
                [.error .invalidFilterAssignment
                  ("filter `" ++ name ++
                    "` is always enforced and cannot be disabled")]
          else
            []) ++
        planner.checkAssignmentContexts scope condition

def checkFilterAssignmentForTables
    (scope : String)
    (tables : List TableId)
    (operationWide duplicate : Bool)
    (assignment : FilterAssignmentExpr Expr) : List Diagnostic :=
  let name := assignment.name
  match planner.policyIndex.visible scope .filter name planner.imports with
  | [] => [.error .unknownFilter ("filter `" ++ name ++ "` not found")]
  | [filter] =>
      (if tables.any (fun table => filter.matchedTables.contains table) then
          []
        else
          [.error .filterTargetMismatch
            ("filter `" ++ name ++ "` does not match " ++
              planner.assignmentTargetText tables operationWide)]) ++
        (if duplicate then
            [.error .duplicateFilterAssignment
              ("duplicate assignment for filter `" ++ name ++ "`")]
          else
            []) ++
        planner.checkAssignmentCondition scope filter name
          assignment.condition
  | _ => [.error .ambiguousFilter ("filter `" ++ name ++ "` is ambiguous")]

/-- The assignments of one source; `seen` are the names already assigned. -/
def checkSourceAssignmentsFrom
    (scope : String)
    (table : TableId)
    (seen : List String) :
    List (FilterAssignmentExpr Expr) → List Diagnostic
  | [] => []
  | assignment :: rest =>
      planner.checkFilterAssignmentForTables scope [table] false
          (seen.contains assignment.name) assignment ++
        checkSourceAssignmentsFrom scope table (assignment.name :: seen) rest

/-- Assignments written at a selection or an `exists` over `table`. -/
def checkSourceAssignments
    (scope : String)
    (table : TableId)
    (assignments : List (FilterAssignmentExpr Expr)) : List Diagnostic :=
  planner.checkSourceAssignmentsFrom scope table [] assignments

/-- Assignments of an operation header over the tables the operation reads.
An assignment is never compared with the others of the header. -/
def checkOperationFilterAssignments
    (tables : List TableId)
    (assignments : List (FilterAssignmentExpr Expr)) : List Diagnostic :=
  assignments.flatMap
    (planner.checkFilterAssignmentForTables planner.scope tables true false)

end Planner

end Dsql
