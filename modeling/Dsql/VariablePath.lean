import Dsql.Syntax

/-!
# Variable paths

The input path of a variable use.  Build-time variables are structured: they
nest under `input.<selection path>.clause`.  Top-level parameters surface as
`params.<name>` and trusted values as `context.<name>`.  A dotted path is kept
as the list of its segments.

A use inside a spread fragment passes through the frames of the spreads around
it, from the innermost outwards.  A frame renames a path or fixes it to the
default that the fragment declares.
-/

namespace Dsql

/-- The path of an input, by segments. -/
abbrev InputPath := List String

/-- The constant an unrefined input falls back to. -/
inductive InputDefault where
  | string (value : String)
  | number (raw : String)
  | boolean (value : Bool)
  | null
  | collection (items : List InputDefault)
  | emptyObject

/-- What a variable stands for. -/
inductive VariableRole where
  | whereValue
  | dynamicPredicate
  | comparisonOperator
  | sortDirection
  | dynamicOrder
  | limit
  | offset
  | filterAssignment
deriving DecidableEq, Repr

/-- The segment of the clause of a variable. -/
def VariableRole.pathClauseSegment : VariableRole → String
  | .whereValue | .dynamicPredicate | .comparisonOperator => "where"
  | .sortDirection | .dynamicOrder => "order_by"
  | .limit => "limit"
  | .offset => "offset"
  | .filterAssignment => "filter"

/-- Limits and offsets have no path of their own. -/
def VariableRole.pathIncludesInferredPath : VariableRole → Bool
  | .limit | .offset => false
  | _ => true

/-- What the map of one spread says about an input of the fragment. -/
inductive SpreadInputValue where
  | value (path : InputPath)
  | default (value : InputDefault)

/-- The input map of one spread. -/
abbrev SpreadFrame := List (InputPath × SpreadInputValue)

/-- The value that a spread passes for a path. -/
def SpreadFrame.get
    (frame : SpreadFrame)
    (path : InputPath) : Option SpreadInputValue :=
  (frame.find? (fun entry => entry.1 == path)).map Prod.snd

/-- The spreads around a variable use, the outermost first. -/
structure VariablePathScope where
  frames : List SpreadFrame

/-- Outside of all spreads. -/
def VariablePathScope.operation : VariablePathScope :=
  ⟨[]⟩

/-- Inside one more spread. -/
def VariablePathScope.forSpreadMap
    (scope : VariablePathScope)
    (values : SpreadFrame) : VariablePathScope :=
  ⟨scope.frames ++ [values]⟩

/-- What a variable becomes. -/
inductive VariableValue where
  | value (path : InputPath)
  | default (value : InputDefault)

/-- Where a variable stands. -/
structure VariablePathContext where
  role : VariableRole
  inferredPath : InputPath
  anonymousKey : Option String
deriving DecidableEq, Repr

/-- The key of a variable without a name. -/
def predicateAnonymousKey : BinaryOp → Option String
  | .variable _ => some "value"
  | _ => none

/-- The key of a variable: its name, else the role's own key, else the last
inferred segment. -/
def VariablePathContext.key
    (context : VariablePathContext)
    (name : Option String) : String :=
  match name, context.anonymousKey with
  | some name, _ => name
  | none, some key => key
  | none, none =>
      if context.role = .comparisonOperator then "op"
      else context.inferredPath.getLast?.getD ""

/-- The path of an input below its selection. -/
def structuredVariablePath
    (selectionPath : List String)
    (context : VariablePathContext)
    (includeKey : Bool)
    (key : String) : InputPath :=
  ["input"] ++ selectionPath ++ ["clause", context.role.pathClauseSegment] ++
    (if context.role.pathIncludesInferredPath then
        context.inferredPath
      else
        []) ++
    (if includeKey then [key] else [])

/-- The path of a variable of the definition itself. -/
def nativeVariablePath
    (selectionPath : List String)
    (context : VariablePathContext)
    (sigil : Sigil)
    (name : Option String) : InputPath :=
  match sigil with
  | .build =>
      structuredVariablePath selectionPath context
        (name.isSome || context.anonymousKey.isSome ||
          context.role == .comparisonOperator)
        (context.key name)
  | .query => ["params", context.key name]
  | .context => ["context", context.key name]

/-- One frame applied to the value found so far. -/
def VariableValue.throughFrame
    (frame : SpreadFrame) : VariableValue → VariableValue
  | .default fixed => .default fixed
  | .value path =>
      match frame.get path with
      | some (.value outer) => .value outer
      | some (.default fixed) => .default fixed
      | none => .value path

/-- The input or the passed value of a variable. -/
def variableValue
    (selectionPath : List String)
    (context : VariablePathContext)
    (scope : VariablePathScope)
    (sigil : Sigil)
    (name : Option String) : VariableValue :=
  scope.frames.foldr VariableValue.throughFrame
    (.value (nativeVariablePath selectionPath context sigil name))

/-- The path of a variable in a role that cannot lower constants: a fixed
default falls back to the native path of the use. -/
def variablePath
    (selectionPath : List String)
    (context : VariablePathContext)
    (scope : VariablePathScope)
    (sigil : Sigil)
    (name : Option String) : InputPath :=
  match variableValue selectionPath context scope sigil name with
  | .value found => found
  | .default _ => nativeVariablePath selectionPath context sigil name

@[simp] theorem variableValue_operation
    (selectionPath : List String)
    (context : VariablePathContext)
    (sigil : Sigil)
    (name : Option String) :
    variableValue selectionPath context .operation sigil name =
      .value (nativeVariablePath selectionPath context sigil name) := rfl

@[simp] theorem variablePath_operation
    (selectionPath : List String)
    (context : VariablePathContext)
    (sigil : Sigil)
    (name : Option String) :
    variablePath selectionPath context .operation sigil name =
      nativeVariablePath selectionPath context sigil name := rfl

end Dsql
