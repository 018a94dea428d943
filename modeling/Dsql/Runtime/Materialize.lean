import Dsql.Runtime.Bindings

/-!
# Materialization in the native executor

Dynamic predicates and orders are rendered into the SQL template at their
markers.  The operands of a predicate become parameters after the fixed ones,
which every site of the input shares.
-/

namespace Dsql

namespace Execute

/-- The parameters so far and the position of the next operand. -/
structure RenderState where
  parameters : List BoundParameter
  operandIndex : Nat

/-- Rendering with allocation of operands. -/
abbrev Render (α : Type) : Type := StateT RenderState (Except ExecuteError) α

/-- The failure of the metadata of a dynamic input. -/
def invalidMetadata {α : Type} (message : String) : Except ExecuteError α :=
  .error (.invalidDynamicMetadata message)

/-- Texts in parentheses between separators. -/
def parenthesizedJoin (items : List String) (separator : String) : String :=
  "(" ++ String.intercalate separator items ++ ")"

/-- The conjunction of predicates, where there are any. -/
def joined (predicates : List String) : Option String :=
  if predicates.isEmpty then
    none
  else
    some (parenthesizedJoin predicates " AND ")

variable (library : ExecutorLibrary)
variable (input : DynamicInputMetadata)
variable (site : DynamicInputSite)

section Fields

/-- The field of a site; the input has to declare it. -/
def dynamicSiteField
    (key path : String) : Except ExecuteError DynamicInputSiteField :=
  if input.fields.any (fun field => field.key = key) then
    match site.fields.find? (fun field => field.key = key) with
    | some field => .ok field
    | none =>
        invalidMetadata ("site `" ++ site.marker ++
          "` has no lowering for field `" ++ key ++ "`")
  else
    invalid (path ++ "." ++ key) "a selected dynamic field"

/-- The field of an input. -/
def dynamicField (key : String) : Except ExecuteError DynamicInputField :=
  match input.fields.find? (fun field => field.key = key) with
  | some field => .ok field
  | none =>
      invalidMetadata ("input `" ++ input.path ++ "` has no field `" ++ key ++
        "`")

/-- A value has the encoding and the pattern of its field. -/
def dynamicScalarIsValid
    (field : DynamicInputField)
    (value : Json) : Bool :=
  (match field.wire.encoding with
    | .uuid => value.asString.any library.isUuid
    | .text | .textCast => value.asString.isSome
    | .timestamptz => value.asString.any library.isRfc3339
    | .integer => (integerValue value).any isSafeInteger
    | .bigInteger => (bigIntegerValue value).isSome
    | .numeric => value.asString.any library.isBigDecimal
    | .float => hasFloatValue value
    | .boolean => value.asBool.isSome
    | .json => true
    | .unsupported => false) &&
    patternIsValid library field.pattern value

/-- An operand is valid and not null. -/
def validateDynamicScalar
    (field : DynamicInputField)
    (value : Json)
    (path : String) : Except ExecuteError Unit :=
  if value.isNull then
    invalid path ("a non-null " ++ field.dataType ++ " value")
  else if field.wire.encoding = .unsupported then
    .error (.unsupportedType path field.dataType)
  else if dynamicScalarIsValid library field value then
    .ok ()
  else
    invalid path ("a valid " ++ field.dataType ++ " value")

/-- The items of an operand are valid and not null. -/
def validateDynamicItems
    (field : DynamicInputField)
    (path : String) : List Json → Except ExecuteError Unit
  | [] => .ok ()
  | item :: rest =>
      if item.isNull then
        invalid path "a collection without null elements"
      else do
        validateDynamicScalar library field item path
        validateDynamicItems field path rest

/-- An operand that is an array of valid items. -/
def validateDynamicCollection
    (field : DynamicInputField)
    (value : Json)
    (path : String) : Except ExecuteError (List Json) :=
  match value.asArray with
  | none => invalid path ("an array of " ++ field.dataType ++ " values")
  | some items => do
      validateDynamicItems library field path items
      .ok items

/-- What a scalar or collection operand binds. -/
def operandParameter
    (path : String)
    (field : DynamicInputField)
    (collection : Bool)
    (value : Json) : BoundParameter :=
  { path := path
    dataType := field.dataType
    wire := field.wire.encoding
    providerType := providerType field.wire
    collection := collection
    value := value }

/-- Whether a parameter may serve as an operand again. -/
def reusable (existing operand : BoundParameter) : Bool :=
  existing.dataType = operand.dataType && existing.wire = operand.wire &&
    existing.providerType = operand.providerType &&
    existing.collection = operand.collection &&
    library.sameValue existing.value operand.value

/-- The placeholder of an operand: a new parameter, or the one that an earlier
site allocated at the same position. -/
def dynamicParameter (operand : BoundParameter) : Render String :=
  fun state =>
    let next := state.operandIndex + 1
    let placeholder := "$" ++ toString next
    if state.operandIndex = state.parameters.length then
      .ok (placeholder, ⟨state.parameters ++ [operand], next⟩)
    else
      match state.parameters[state.operandIndex]? with
      | none =>
          invalidMetadata "dynamic operand allocation is not contiguous"
      | some existing =>
          if reusable library existing operand then
            .ok (placeholder, ⟨state.parameters, next⟩)
          else
            invalidMetadata ("reused dynamic site disagrees at operand `" ++
              operand.path ++ "`")

end Fields

section Operators

/-- An operator around the placeholder of its operand. -/
def aroundPlaceholder
    (operator : DynamicPredicateOperatorMetadata)
    (operand : BoundParameter) : Render String := do
  let placeholder ← dynamicParameter library operand
  pure (operator.beforeValue.getD "" ++ placeholder ++
    operator.afterValue.getD "")

/-- An operator with a scalar operand. -/
def renderScalar
    (operator : DynamicPredicateOperatorMetadata)
    (fieldKey path : String)
    (operand : Json) : Render String := do
  let field ← dynamicField input fieldKey
  validateDynamicScalar library field operand path
  aroundPlaceholder library operator
    (operandParameter path field false operand)

/-- Nothing is in an empty collection. -/
def renderCollection
    (operator : DynamicPredicateOperatorMetadata)
    (fieldKey path : String)
    (operand : Json) : Render String := do
  let field ← dynamicField input fieldKey
  let items ← validateDynamicCollection library field operand path
  if items.isEmpty then
    pure (if operator.name = "in" then "FALSE" else "TRUE")
  else
    aroundPlaceholder library operator
      (operandParameter path field true operand)

/-- An operator with a boolean operand. -/
def renderBoolean
    (operator : DynamicPredicateOperatorMetadata)
    (path : String)
    (operand : Json) : Except ExecuteError String :=
  match operand.asBool with
  | none => invalid path "a boolean"
  | some value =>
      let value := if value then "true" else "false"
      match operator.cases.find? (fun choice => choice.value = value) with
      | some choice => .ok choice.text
      | none =>
          invalidMetadata ("operator `" ++ operator.name ++ "` has no `" ++
            value ++ "` lowering")

/-- One operator of a field with its operand. -/
def renderOperator
    (field : DynamicInputSiteField)
    (path fieldKey : String)
    (entry : String × Json) : Render String :=
  let operandPath := path ++ "." ++ fieldKey ++ "." ++ entry.1
  match field.operators.find? (fun operator => operator.name = entry.1) with
  | none => invalid operandPath "a declared dynamic predicate operator"
  | some operator =>
      if operator.valueKind = "scalar" then
        renderScalar library input operator fieldKey operandPath entry.2
      else if operator.valueKind = "collection" then
        renderCollection library input operator fieldKey operandPath entry.2
      else if operator.valueKind = "boolean" then
        renderBoolean operator operandPath entry.2
      else
        invalidMetadata ("operator `" ++ entry.1 ++
          "` has unknown value kind `" ++ operator.valueKind ++ "`")

/-- The predicates of a field, in order. -/
def renderOperators
    (field : DynamicInputSiteField)
    (path fieldKey : String) : List (String × Json) → Render (List String)
  | [] => pure []
  | entry :: rest => do
      let predicate ← renderOperator library input field path fieldKey entry
      let predicates ← renderOperators field path fieldKey rest
      pure (predicate :: predicates)

/-- The operators of one field, in the order of their names. -/
def renderField
    (path fieldKey : String)
    (value : Json) : Render (List String) := do
  let field ← dynamicSiteField input site fieldKey path
  match value.asObject with
  | none => invalid (path ++ "." ++ fieldKey) "a dynamic field-operator object"
  | some operators =>
      renderOperators library input field path fieldKey (sortByKey operators)

end Operators

section Predicates

/-- The predicates of an `and` over rendered children. -/
def conjunction (children : List String) : List String :=
  if children.isEmpty then [] else [parenthesizedJoin children " AND "]

/-- No children give a predicate that is false. -/
def disjunction (children : List String) : List String :=
  if children.isEmpty then
    ["FALSE"]
  else
    [parenthesizedJoin children " OR "]

/-- A predicate without a text has no negation. -/
def negation (child : Option String) : List String :=
  child.toList.map (fun child => "NOT (" ++ child ++ ")")

/-- Runs the entries of an object in the given order. -/
def runEntries : List (String × Render (List String)) → Render (List String)
  | [] => pure []
  | entry :: rest => do
      let predicates ← entry.2
      let others ← runEntries rest
      pure (predicates ++ others)

mutual

/-- The entries of a predicate in the order of their keys. -/
def renderDynamicPredicate (path : String) : Json → Render (Option String)
  | .object entries => do
      let predicates ← runEntries (sortByKey (renderEntries path entries))
      pure (joined predicates)
  | _ => invalid path "a dynamic predicate object"

/-- The entries of a predicate with their renderings. -/
def renderEntries
    (path : String) :
    List (String × Json) → List (String × Render (List String))
  | [] => []
  | (key, value) :: rest =>
      (key,
        if key = "and" then
          conjunction <$> renderArray (path ++ ".and") value
        else if key = "or" then
          disjunction <$> renderArray (path ++ ".or") value
        else if key = "not" then
          negation <$> renderDynamicPredicate (path ++ ".not") value
        else
          renderField library input site path key value) ::
        renderEntries path rest

/-- The predicates below a connective. -/
def renderArray (path : String) : Json → Render (List String)
  | .array items => renderChildren path 0 items
  | _ => invalid path "an array of predicates"

/-- The children that render to anything. -/
def renderChildren
    (path : String)
    (index : Nat) : List Json → Render (List String)
  | [] => pure []
  | item :: rest => do
      let child ←
        renderDynamicPredicate (path ++ "[" ++ toString index ++ "]") item
      let children ← renderChildren path (index + 1) rest
      pure (child.toList ++ children)

end

end Predicates

section Order

/-- The text that a direction of a field selects. -/
def renderOrderItem
    (path itemPath : String) : Json → Except ExecuteError String
  | .object [(fieldKey, direction)] => do
      let field ← dynamicSiteField input site fieldKey path
      match direction.asString with
      | none => invalid itemPath "a dynamic order direction"
      | some direction =>
          match field.directions.find? (fun choice =>
              choice.value = direction) with
          | none => invalid itemPath "a declared dynamic order direction"
          | some choice => .ok choice.text
  | _ => invalid itemPath "a single-field order object"

/-- The entries of an order, one by one. -/
def renderOrderItems
    (path : String)
    (index : Nat) : List Json → Except ExecuteError (List String)
  | [] => .ok []
  | item :: rest => do
      let text ← renderOrderItem input site path
        (path ++ "[" ++ toString index ++ "]") item
      let texts ← renderOrderItems path (index + 1) rest
      .ok (text :: texts)

/-- The text of an order, where it has entries. -/
def renderDynamicOrder
    (path : String)
    (value : Json) : Except ExecuteError (Option String) :=
  match value.asArray with
  | none => invalid path "an array of dynamic order entries"
  | some items => do
      let rendered ← renderOrderItems input site path 0 items
      .ok (if rendered.isEmpty then
        none
      else
        some (String.intercalate ", " rendered))

end Order

section Sites

/-- The failure of an input of no known kind. -/
def unknownKind {α : Type} : Except ExecuteError α :=
  invalidMetadata ("input `" ++ input.path ++ "` has unknown kind `" ++
    input.kind ++ "`")

/-- The value of a dynamic input; null stands for the identity of its
kind. -/
def dynamicValue (values : InputValues) : Except ExecuteError Json := do
  let value ← materializedValue values input.path
  if value.isNull then
    if input.kind = "predicate" then
      .ok (.object [])
    else if input.kind = "order" then
      .ok (.array [])
    else
      unknownKind input
  else
    .ok value

/-- The SQL of one site. -/
def renderSite (value : Json) : Render String :=
  if input.kind = "predicate" then do
    let rendered ←
      renderDynamicPredicate library input site input.path value
    pure (rendered.getD site.identitySql)
  else if input.kind = "order" then do
    let rendered ← renderDynamicOrder input site input.path value
    pure (rendered.getD site.identitySql)
  else
    unknownKind input

/-- Later sites consume as many operands as the first. -/
def checkOperandEnd
    (expected : Option Nat)
    (operandIndex : Nat) : Except ExecuteError Unit :=
  if expected.all (fun expected => operandIndex = expected) then
    .ok ()
  else
    invalidMetadata ("sites for `" ++ input.path ++
      "` do not consume the same operands")

/-- A marker has to occur once. -/
def replaceDynamicMarker
    (sql rendered : String) : Except ExecuteError String :=
  if Text.occurrences site.marker.toList sql.toList = 1 then
    .ok (String.ofList (Text.replaceFirst site.marker.toList
      rendered.toList sql.toList))
  else
    invalidMetadata ("marker `" ++ site.marker ++
      "` does not identify exactly one SQL site")

/-- The sites of one input, whose operands start at `start`. -/
def materializeSites
    (value : Json)
    (start : Nat) :
    List DynamicInputSite → Option Nat → MaterializedOperation →
      Except ExecuteError MaterializedOperation
  | [], _, operation => .ok operation
  | site :: rest, expected, operation => do
      let (rendered, state) ←
        renderSite library input site value ⟨operation.parameters, start⟩
      checkOperandEnd input expected state.operandIndex
      let sql ← replaceDynamicMarker site operation.sql rendered
      materializeSites value start rest
        (some (expected.getD state.operandIndex)) ⟨sql, state.parameters⟩

/-- Fills the sites of an input. -/
def materializeDynamicInput
    (values : InputValues)
    (operation : MaterializedOperation) :
    Except ExecuteError MaterializedOperation := do
  let value ← dynamicValue input values
  let operation ← materializeSites library input value
    operation.parameters.length input.sites none operation
  if input.sites.isEmpty then
    invalidMetadata ("input `" ++ input.path ++ "` has no SQL usage sites")
  else
    .ok operation

/-- Fills the sites of all inputs, in order. -/
def materializeDynamicInputs
    (values : InputValues) :
    List DynamicInputMetadata → MaterializedOperation →
      Except ExecuteError MaterializedOperation
  | [], operation => .ok operation
  | input :: rest, operation => do
      let operation ←
        materializeDynamicInput library input values operation
      materializeDynamicInputs values rest operation

end Sites

/-- Every field that an operation declares, the trusted ones last. -/
def declaredFields (operation : OperationMetadata) : List InputField :=
  operation.params ++ operation.input ++ operation.context

/-- The validated SQL of an operation and its ordered values. -/
def materialize
    (operation : OperationMetadata)
    (bindings : ExecutionBindings) :
    Except ExecuteError MaterializedOperation :=
  match operation.kind with
  | .fragment => .error (.unsupportedOperationKind "fragment")
  | .query => do
      let fields := declaredFields operation
      let values ← inputValues library bindings fields []
      let sql ← applyVariants fields values operation.sql.variants
        operation.sql.text
      let parameters ←
        operation.sql.parameters.mapM (fixedParameter fields values)
      materializeDynamicInputs library values operation.dynamicInputs
        ⟨sql, parameters⟩

end Execute

end Dsql
