import Dsql.Capabilities
import Dsql.Logic.Text
import Dsql.Metadata
import Dsql.Runtime.Json

/-!
# Bindings in the native executor

The validated values of the declared inputs of one operation, and what its SQL
template takes from them directly.  The parsers and the value type of other
crates are the fields of `ExecutorLibrary`.
-/

namespace Dsql

/-- Public inputs and trusted server context for one execution. -/
structure ExecutionBindings where
  «variables» : Json
  /-- Context fields without the `context` wrapper. -/
  context : Json

/-- One validated positional bind. -/
structure BoundParameter where
  path : String
  dataType : String
  wire : WireEncoding
  providerType : Option (String × String)
  collection : Bool
  value : Json

/-- Validated SQL and its ordered values. -/
structure MaterializedOperation where
  sql : String
  parameters : List BoundParameter

/-- Failures of the binding of an operation. -/
inductive ExecuteError where
  | undeclaredParameter (path : String)
  | missingInput (path : String)
  | invalidInput (path expected : String)
  | invalidVariant (path value : String)
  | unsupportedType (path dataType : String)
  | invalidDynamicMetadata (message : String)
  | unsupportedOperationKind (kind : String)
deriving DecidableEq, Repr

/-- What other crates decide about texts and values. -/
structure ExecutorLibrary where
  isUuid : String → Bool
  isRfc3339 : String → Bool
  isBigDecimal : String → Bool
  parseF64 : String → Option JsonNumber
  compilePattern : String → Option (String → Bool)
  /-- Equality of values, which compares numbers by their value. -/
  sameValue : Json → Json → Bool

namespace Execute

/-- The least integer that JavaScript keeps exact. -/
def minSafeInteger : Int := -9007199254740991

/-- The greatest integer that JavaScript keeps exact. -/
def maxSafeInteger : Int := 9007199254740991

/-- An integer that JavaScript keeps exact. -/
def isSafeInteger (value : Int) : Bool :=
  minSafeInteger ≤ value && value ≤ maxSafeInteger

/-- The integer of a number. -/
def integerValue (value : Json) : Option Int :=
  value.asNumber.bind JsonNumber.toI64

/-- The integer that a text spells. -/
def bigIntegerValue (value : Json) : Option Int :=
  value.asString.bind parseI64

/-- Whether a value is a number that stays finite as a 64-bit float. -/
def hasFloatValue (value : Json) : Bool :=
  value.asNumber.any JsonNumber.isFinite

/-- The failure of an input. -/
def invalid {α : Type} (path expected : String) : Except ExecuteError α :=
  .error (.invalidInput path expected)

/-- The provider type of a wire format. -/
def providerType (wire : WireMetadata) : Option (String × String) :=
  wire.providerType.map (fun provider => (provider.schema, provider.name))

variable (library : ExecutorLibrary)

/-- Without a pattern every value matches; otherwise it is text that matches. -/
def patternIsValid (pattern : Option String) (value : Json) : Bool :=
  match pattern with
  | none => true
  | some pattern =>
      match value.asString with
      | none => false
      | some value =>
          (library.compilePattern pattern).any (fun compiled =>
            compiled value)

/-- A value has the encoding and the pattern of its field. -/
def inputScalarIsValid (field : InputField) (value : Json) : Bool :=
  (match field.wire.encoding with
    | .uuid => value.asString.any library.isUuid
    | .text | .textCast => value.asString.isSome
    | .timestamptz => value.asString.any library.isRfc3339
    | .bigInteger => (bigIntegerValue value).isSome
    | .numeric => value.asString.any library.isBigDecimal
    | .float => hasFloatValue value
    | .boolean => value.asBool.isSome
    | .json => true
    | .integer | .unsupported => false) &&
    patternIsValid library field.pattern value

/-- The value, or each of its items, is a safe integer. -/
def validateSafeInteger
    (field : InputField)
    (value : Json) : Except ExecuteError Unit :=
  if value.isNull || field.wire.encoding ≠ .integer then
    .ok ()
  else if field.collection = some true then
    match value.asArray with
    | none => invalid field.path "an array of safe integers"
    | some values =>
        if values.all (fun value =>
            value.isNull || (integerValue value).any isSafeInteger) then
          .ok ()
        else
          invalid field.path "an array of safe integers"
  else if (integerValue value).any isSafeInteger then
    .ok ()
  else
    invalid field.path "a safe integer"

/-- The value has the wire format of its field. -/
def validateInputWire
    (field : InputField)
    (value : Json) : Except ExecuteError Unit :=
  if value.isNull || field.wire.encoding = .integer ||
      field.dataType = "dynamic_predicate" ||
      field.dataType = "dynamic_order" then
    .ok ()
  else if field.collection = some true then
    match value.asArray with
    | none => invalid field.path ("an array of " ++ field.dataType)
    | some values =>
        if values.all (fun value =>
            value.isNull || inputScalarIsValid library field value) then
          .ok ()
        else
          invalid field.path ("an array of valid " ++ field.dataType ++
            " values")
  else if inputScalarIsValid library field value then
    .ok ()
  else
    invalid field.path ("a valid " ++ field.dataType)

section Defaults

/-- A string default is one of the closed values and matches the pattern. -/
def stringDefault
    (field : InputField)
    (value : Option String) : Except ExecuteError Json :=
  match value with
  | none => invalid field.path "a valid string default"
  | some value =>
      if !field.closedValues.isEmpty && !field.closedValues.contains value then
        invalid field.path "a declared string default"
      else if !patternIsValid library field.pattern (.string value) then
        invalid field.path ("a valid " ++ field.dataType ++ " default")
      else
        .ok (.string value)

/-- A default given as a number. -/
def numberDefault
    (field : InputField)
    (value : Option String) : Except ExecuteError Json :=
  if field.collection = some true then
    invalid field.path "a compatible number default"
  else
    match value with
    | none => invalid field.path "a valid number default"
    | some value =>
        match field.wire.encoding with
        | .integer =>
            match (parseI64 value).filter isSafeInteger with
            | some value => .ok (.number (.integer value))
            | none => invalid field.path "a safe integer default"
        | .float =>
            match (library.parseF64 value).filter JsonNumber.isFinite with
            | some value => .ok (.number value)
            | none => invalid field.path "a finite float default"
        | .numeric =>
            if library.isBigDecimal value then
              .ok (.string value)
            else
              invalid field.path "a numeric default"
        | _ => invalid field.path "a compatible number default"

/-- A default given as a boolean. -/
def booleanDefault
    (field : InputField)
    (boolean : Option Bool) : Except ExecuteError Json :=
  match boolean with
  | some boolean => .ok (.bool boolean)
  | none => invalid field.path "a valid boolean default"

mutual

/-- The value of a default. -/
def materializeDefault
    (field : InputField) : InputDefaultMetadata → Except ExecuteError Json
  | .mk kind value boolean items =>
      if kind = "string" ∧ field.collection ≠ some true then
        stringDefault library field value
      else if kind = "number" then
        numberDefault library field value
      else if kind = "boolean" ∧ field.collection ≠ some true ∧
          field.wire.encoding = .boolean then
        booleanDefault field boolean
      else if kind = "null" then
        .ok .null
      else if kind = "collection" ∧ (field.collection = some true ∨
          field.dataType = "dynamic_order") then
        match items with
        | none => invalid field.path "a valid collection default"
        | some items =>
            if field.dataType = "dynamic_order" ∧ !items.isEmpty then
              invalid field.path "an empty dynamic order default"
            else
              (materializeItems { field with collection := none } items).map
                Json.array
      else if kind = "empty_object" ∧ field.collection ≠ some true ∧
          field.dataType = "dynamic_predicate" then
        .ok (.object [])
      else if kind = "string" then
        invalid field.path "a compatible string default"
      else if kind = "boolean" then
        invalid field.path "a compatible boolean default"
      else if kind = "collection" then
        invalid field.path "a compatible collection default"
      else if kind = "empty_object" then
        invalid field.path "a dynamic predicate default"
      else
        invalid field.path "a recognized input default"

/-- The items of a default; they are scalars. -/
def materializeItems
    (field : InputField) : List InputDefaultMetadata → Except ExecuteError (List Json)
  | [] => .ok []
  | item :: rest =>
      if ["null", "collection", "empty_object"].contains item.kind then
        invalid field.path "a valid collection default"
      else do
        let value ← materializeDefault field item
        let values ← materializeItems field rest
        .ok (value :: values)

end

end Defaults

/-- The value at a path of nested objects; a missing key is no value. -/
def lookupSegments
    (fieldPath : String) :
    List String → Json → Except ExecuteError (Option Json)
  | [], value => .ok (some value)
  | segment :: rest, value =>
      match value.asObject with
      | none => invalid fieldPath "an object input envelope"
      | some entries =>
          match Json.get entries segment with
          | none => .ok none
          | some value => lookupSegments fieldPath rest value

/-- The value at a path, where there is one. -/
def lookupPath
    (root : Json)
    (path fieldPath : String) : Except ExecuteError (Option Json) :=
  lookupSegments fieldPath (Text.split '.' path) root

/-- The value of a field before validation: from the trusted context when its
path starts with `context.`, else from the variables or the default. -/
def boundValue
    (field : InputField)
    (bindings : ExecutionBindings) : Except ExecuteError (Option Json) :=
  match Text.dropPrefix "context." field.path with
  | some path => do
      match ← lookupPath bindings.context path field.path with
      | some value => .ok (some value)
      | none => .error (.missingInput field.path)
  | none => do
      match ← lookupPath bindings.«variables» field.path field.path with
      | some value => .ok (some value)
      | none =>
          match field.default with
          | some default =>
              (materializeDefault library field default).map some
          | none =>
              if field.required then
                .error (.missingInput field.path)
              else
                .ok none

/-- The value is valid for its field. -/
def validateInput
    (field : InputField)
    (value : Json) : Except ExecuteError Unit :=
  if value.isNull && !field.nullable then
    invalid field.path ("a non-null " ++ field.dataType)
  else do
    validateSafeInteger field value
    validateInputWire library field value

/-- The bound value of an input, once it is valid. -/
def inputValue
    (field : InputField)
    (bindings : ExecutionBindings) : Except ExecuteError (Option Json) := do
  match ← boundValue library field bindings with
  | none => .ok none
  | some value => do
      validateInput library field value
      .ok (some value)

/-- Values by path, the latest first. -/
abbrev InputValues : Type := List (String × Json)

/-- The values of the declared fields, in their order. -/
def inputValues
    (bindings : ExecutionBindings) :
    List InputField → InputValues → Except ExecuteError InputValues
  | [], values => .ok values
  | field :: rest, values => do
      match ← inputValue library field bindings with
      | some value => inputValues bindings rest ((field.path, value) :: values)
      | none => inputValues bindings rest values

/-- The value of an input that is required. -/
def materializedValue
    (values : InputValues)
    (path : String) : Except ExecuteError Json :=
  match values.lookup path with
  | some value => .ok value
  | none => .error (.missingInput path)

/-- The last field that declares a path. -/
def declared
    (fields : List InputField)
    (path : String) : Except ExecuteError InputField :=
  match fields.reverse.find? (fun field => field.path = path) with
  | some field => .ok field
  | none => .error (.undeclaredParameter path)

/-- The text that a variant's value selects. -/
def variantText
    (variant : SqlVariantMetadata)
    (value : Json) : Except ExecuteError String :=
  if value.isNull then
    match variant.nullText with
    | none => invalid variant.path "a non-null string variant"
    | some text => .ok text
  else
    match value.asString with
    | none => invalid variant.path "a string variant"
    | some value =>
        match variant.cases.find? (fun choice => choice.value = value) with
        | none => .error (.invalidVariant variant.path value)
        | some choice => .ok choice.text

/-- `{{path}}` becomes the text of the variant. -/
def replaceVariant (sql path text : String) : String :=
  String.ofList (Text.replaceAll ("\x7b\x7b" ++ path ++ "\x7d\x7d").toList
    text.toList sql.toList)

/-- Puts the selected texts in. -/
def applyVariants
    (fields : List InputField)
    (values : InputValues) :
    List SqlVariantMetadata → String → Except ExecuteError String
  | [], sql => .ok sql
  | variant :: rest, sql => do
      let _ ← declared fields variant.path
      let value ← materializedValue values variant.path
      let text ← variantText variant value
      applyVariants fields values rest (replaceVariant sql variant.path text)

/-- The parameter of a path. -/
def fixedParameter
    (fields : List InputField)
    (values : InputValues)
    (path : String) : Except ExecuteError BoundParameter := do
  let field ← declared fields path
  let value ← materializedValue values path
  .ok
    { path := path
      dataType := field.dataType
      wire := field.wire.encoding
      providerType := providerType field.wire
      collection := field.collection = some true
      value := value }

end Execute

end Dsql
