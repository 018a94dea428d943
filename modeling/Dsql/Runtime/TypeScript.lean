import Dsql.Logic.Text
import Dsql.Metadata
import Dsql.Runtime.JavaScript

/-!
# The TypeScript runtime

Binding, validation and SQL materialization of one generated operation.  A
thrown error is its message.  Project patterns, host serializers and the
conversions between numbers and texts are the fields of `JsLibrary` and of the
payload.
-/

namespace Dsql

/-- What the engine and the project decide about texts and numbers. -/
structure JsLibrary where
  /-- A pattern that does not compile throws. -/
  compilePattern : String → Except String (String → Bool)
  numberOfText : String → Binary64
  numberText : Binary64 → String
  hostText : Nat → String

/-- A host value in its wire representation; a serializer may throw. -/
abbrev Serializer : Type := JsValue → Option JsValue

/-- The contract of an input. -/
structure DsqlInputField where
  path : String
  dataType : String
  encoding : WireEncoding
  pattern : Option String
  collection : Option Bool
  closedValues : List String
  required : Bool
  nullable : Bool
  default : Option InputDefaultMetadata
  serialize : Option Serializer

/-- The contract of a field of a dynamic input. -/
structure DsqlDynamicInputFieldContract where
  key : String
  dataType : String
  encoding : WireEncoding
  pattern : Option String
  /-- Operators with the kind of their operand. -/
  operators : List (String × String)
  serialize : Option Serializer

/-- The contract of a dynamic input. -/
structure DsqlDynamicInputContract where
  path : String
  kind : String
  fields : List DsqlDynamicInputFieldContract

/-- Texts of which one is chosen by the value of an input. -/
structure DsqlSqlVariant where
  cases : List (String × String)
  nullText : Option String

/-- What the runtime is given of an operation. -/
structure DsqlExecutionPayload where
  inputs : List DsqlInputField
  dynamicInputContracts : List DsqlDynamicInputContract
  sql : String
  parameters : List String
  variants : List (String × DsqlSqlVariant)
  dynamicInputs : List DynamicInputMetadata
  contextInputs : List DsqlInputField

/-- Values as the host program has them, or as they travel. -/
inductive Representation where
  | host
  | wire
deriving DecidableEq, Repr

/-- What is sent to the database. -/
structure DsqlMaterializedQuery where
  sql : String
  values : List JsValue
  /-- Trusted context after its one host-to-wire conversion. -/
  context : JsValue

namespace Runtime

/-- Fails with a message. -/
def throw {α : Type} (message : String) : Except String α :=
  .error message

/-! ## Paths -/

/-- What is found at a path; `invalid` where a parent is no object. -/
inductive DsqlPathLookup where
  | found (value : JsValue)
  | missing
  | invalid

/-- Follows the parts of a path. -/
def lookupParts : List String → JsValue → DsqlPathLookup
  | [], value => .found value
  | part :: rest, value =>
      match value.envelope with
      | none => .invalid
      | some properties =>
          match JsValue.own properties part with
          | none => .missing
          | some value =>
              if value.isUndefined then .missing else lookupParts rest value

/-- What is found at a path. -/
def lookupDsqlPath (value : JsValue) (path : String) : DsqlPathLookup :=
  if path = "" then .found value else lookupParts (Text.split '.' path) value

/-- The value at a path, undefined where there is none. -/
def getDsqlPath (value : JsValue) (path : String) : JsValue :=
  match lookupDsqlPath value path with
  | .found value => value
  | _ => .undefined

/-- A copy of nested objects with one value replaced. -/
def setDsqlPathParts
    (replacement : JsValue)
    (path : String) : List String → JsValue → Except String JsValue
  | [], value =>
      match value.envelope with
      | none => throw ("cannot materialize dsql input at " ++ path)
      | some _ => .ok replacement
  | [part], value =>
      match value.envelope with
      | none => throw ("cannot materialize dsql input at " ++ path)
      | some properties =>
          .ok (.object (JsValue.define part replacement properties))
  | part :: rest, value =>
      match value.envelope with
      | none => throw ("cannot materialize dsql input at " ++ path)
      | some properties =>
          let found := JsValue.property properties part
          let child := if found.isUndefined then .object [] else found
          match child.envelope with
          | none => throw ("cannot materialize dsql input at " ++ path)
          | some _ => do
              let child ← setDsqlPathParts replacement path rest child
              .ok (.object (JsValue.define part child properties))

/-- Puts a value at a path. -/
def setDsqlPath
    (value : JsValue)
    (path : String)
    (replacement : JsValue) : Except String JsValue :=
  setDsqlPathParts replacement path (Text.split '.' path) value

/-- The values of the parameters, in the order of their numbers. -/
def collectDsqlParameterValues
    (parameters : List String)
    (bindings : JsValue) : List JsValue :=
  parameters.map (getDsqlPath bindings)

/-! ## Texts of scalars -/

section Texts

/-- A hexadecimal digit. -/
def isHex (char : Char) : Bool :=
  char.isDigit || ('a' ≤ char && char ≤ 'f') || ('A' ≤ char && char ≤ 'F')

/-- Hexadecimal groups of the given lengths with hyphens between them. -/
def hexGroups : List Nat → List Char → Bool
  | [], chars => chars.isEmpty
  | [count], chars => chars.length = count && chars.all isHex
  | count :: rest, chars =>
      (chars.take count).length = count && (chars.take count).all isHex &&
        match chars.drop count with
        | '-' :: chars => hexGroups rest chars
        | _ => false

/-- A UUID with its hyphens. -/
def hyphenated (chars : List Char) : Bool :=
  hexGroups [8, 4, 4, 4, 12] chars

/-- The text starts as a URN of a UUID. -/
def hasUrnMark (chars : List Char) : Bool :=
  String.ofList ((chars.take 9).map Char.toLower) = "urn:uuid:"

/-- `DSQL_UUID`. -/
def isDsqlUuid (text : String) : Bool :=
  let chars := text.toList
  hexGroups [32] chars || hyphenated chars ||
    (hasUrnMark chars && hyphenated (chars.drop 9)) ||
    (chars.head? = some '\x7b' && chars.getLast? = some '\x7d' &&
      hyphenated (chars.drop 1).dropLast)

/-- The text after its sign. -/
def dropSign : List Char → List Char
  | '+' :: chars => chars
  | '-' :: chars => chars
  | chars => chars

/-- A nonempty text of digits. -/
def isDigits (chars : List Char) : Bool :=
  !chars.isEmpty && chars.all Char.isDigit

/-- An optional exponent. -/
def isExponent : List Char → Bool
  | [] => true
  | mark :: chars => (mark = 'e' || mark = 'E') && isDigits (dropSign chars)

/-- `DSQL_NUMERIC`: digits with an optional point and exponent. -/
def isDsqlNumeric (text : String) : Bool :=
  let chars := dropSign text.toList
  let whole := chars.takeWhile Char.isDigit
  let rest := chars.dropWhile Char.isDigit
  match rest with
  | '.' :: rest =>
      let decimals := rest.takeWhile Char.isDigit
      (!whole.isEmpty || !decimals.isEmpty) &&
        isExponent (rest.dropWhile Char.isDigit)
  | rest => !whole.isEmpty && isExponent rest

/-- The integer that an optional sign and digits spell. -/
def parseInteger (text : String) : Option Int :=
  let chars := text.toList
  if isDigits (dropSign chars) then
    let magnitude := (dropSign chars).foldl
      (fun value digit => 10 * value + (digit.toNat - '0'.toNat)) 0
    some (if chars.head? = some '-' then -(magnitude : Int) else magnitude)
  else
    none

/-- An integer of 64 bits. -/
def isDsqlBigInteger (text : String) : Bool :=
  (parseInteger text).any (fun value =>
    -(2 ^ 63) ≤ value && value ≤ 2 ^ 63 - 1)

/-- The number of exactly `count` digits and what follows them. -/
def takeNumber (count : Nat) (chars : List Char) :
    Option (Nat × List Char) :=
  let digits := chars.take count
  if digits.length = count ∧ digits.all Char.isDigit then
    some (digits.foldl
      (fun value digit => 10 * value + (digit.toNat - '0'.toNat)) 0,
      chars.drop count)
  else
    none

/-- The text after a character. -/
def takeChar (char : Char) : List Char → Option (List Char)
  | [] => none
  | first :: rest => if first = char then some rest else none

/-- The offset after a time: `Z`, or hours and minutes. -/
def takeOffset : List Char → Option (Nat × Nat)
  | ['Z'] => some (0, 0)
  | sign :: chars => do
      if sign = '+' ∨ sign = '-' then
        let (hours, chars) ← takeNumber 2 chars
        let chars ← takeChar ':' chars
        let (minutes, chars) ← takeNumber 2 chars
        if chars.isEmpty then some (hours, minutes) else none
      else
        none
  | [] => none

/-- What follows the seconds: an optional fraction and the offset. -/
def takeFraction : List Char → Option (List Char)
  | '.' :: chars =>
      if (chars.takeWhile Char.isDigit).isEmpty then
        none
      else
        some (chars.dropWhile Char.isDigit)
  | chars => some chars

/-- The days of a month, with leap years. -/
def daysInMonth (year month : Nat) : Nat :=
  if month = 2 then
    if year % 4 = 0 ∧ (year % 100 ≠ 0 ∨ year % 400 = 0) then 29 else 28
  else if month = 4 ∨ month = 6 ∨ month = 9 ∨ month = 11 then
    30
  else
    31

/-- A timestamp with its offset. -/
def isDsqlRfc3339Timestamp (text : String) : Bool :=
  (do
    let (year, chars) ← takeNumber 4 text.toList
    let chars ← takeChar '-' chars
    let (month, chars) ← takeNumber 2 chars
    let chars ← takeChar '-' chars
    let (day, chars) ← takeNumber 2 chars
    let chars ← takeChar 'T' chars
    let (hour, chars) ← takeNumber 2 chars
    let chars ← takeChar ':' chars
    let (minute, chars) ← takeNumber 2 chars
    let chars ← takeChar ':' chars
    let (second, chars) ← takeNumber 2 chars
    let chars ← takeFraction chars
    let (offsetHour, offsetMinute) ← takeOffset chars
    some (1 ≤ month && month ≤ 12 && hour ≤ 23 && minute ≤ 59 &&
      second ≤ 59 && offsetHour ≤ 23 && offsetMinute ≤ 59 && 1 ≤ day &&
      day ≤ daysInMonth year month)).getD false

end Texts

variable (library : JsLibrary)

/-! ## Validation -/

/-- Without a pattern every value matches; otherwise it is text that matches. -/
def matchesDsqlPattern
    (pattern : Option String)
    (value : JsValue) : Except String Bool :=
  match pattern with
  | none => .ok true
  | some pattern =>
      match value.asString with
      | none => .ok false
      | some value => do
          let compiled ← library.compilePattern pattern
          .ok (compiled value)

/-- Whether a value has the shape of a wire encoding. -/
def hasEncoding (encoding : WireEncoding) (value : JsValue) : Bool :=
  match encoding, value with
  | .text, .string _ => true
  | .textCast, .string _ => true
  | .uuid, .string value => isDsqlUuid value
  | .timestamptz, .string value => isDsqlRfc3339Timestamp value
  | .integer, .number value => value.isSafeInteger
  | .bigInteger, .string value => isDsqlBigInteger value
  | .float, .number value => value.isFinite
  | .numeric, .string value => isDsqlNumeric value
  | .boolean, .boolean _ => true
  | .json, _ => true
  | _, _ => false

/-- The pattern is tested only after the encoding. -/
def isScalarValid
    (encoding : WireEncoding)
    (pattern : Option String)
    (value : JsValue) : Except String Bool :=
  if hasEncoding encoding value then
    matchesDsqlPattern library pattern value
  else
    .ok false

/-- Every item is null or valid. -/
def areScalarsValid
    (field : DsqlInputField) : List JsValue → Except String Bool
  | [] => .ok true
  | item :: rest =>
      if item.isNull then
        areScalarsValid field rest
      else do
        if ← isScalarValid library field.encoding field.pattern item then
          areScalarsValid field rest
        else
          .ok false

/-- A value has the encoding and the pattern of its field. -/
def validateDsqlScalar
    (field : DsqlInputField)
    (value : JsValue) : Except String Unit := do
  if ← isScalarValid library field.encoding field.pattern value then
    .ok ()
  else
    throw ("operation input " ++ field.path ++ " must be a valid " ++
      field.dataType)

/-- All items that are not null are valid. -/
def validateDsqlCollection
    (field : DsqlInputField)
    (value : JsValue) : Except String Unit :=
  match value.asArray with
  | none =>
      throw ("operation input " ++ field.path ++ " must be an array of " ++
        field.dataType)
  | some items => do
      if ← areScalarsValid library field items then
        .ok ()
      else
        throw ("operation input " ++ field.path ++
          " must be an array of valid " ++ field.dataType ++ " values")

/-- The value, or each of its items, is a safe integer. -/
def validateDsqlIntegers
    (field : DsqlInputField)
    (value : JsValue) : Except String Unit :=
  if field.collection = some true then
    if value.asArray.any (fun items => items.all (fun item =>
        item.isNull || hasEncoding .integer item)) then
      .ok ()
    else
      throw ("operation input " ++ field.path ++
        " must be an array of safe integers")
  else if hasEncoding .integer value then
    .ok ()
  else
    throw ("operation input " ++ field.path ++ " must be a safe integer")

/-- The type of a dynamic input. -/
def isDynamicType (dataType : String) : Bool :=
  dataType = "dynamic_predicate" || dataType = "dynamic_order"

/-- The input is valid for its field. -/
def validateDsqlInput
    (field : DsqlInputField)
    (value : JsValue) : Except String Unit :=
  if !value.isPresent || isDynamicType field.dataType then
    .ok ()
  else if field.encoding = .integer then
    validateDsqlIntegers field value
  else if field.collection = some true then
    validateDsqlCollection library field value
  else
    validateDsqlScalar library field value

/-! ## Defaults -/

section Defaults

/-- The failure of a default. -/
def invalidDsqlDefault
    {α : Type}
    (field : DsqlInputField)
    (expected : String) : Except String α :=
  throw ("invalid dsql default at " ++ field.path ++ ": expected " ++ expected)

/-- A default given as text. -/
def stringDefault
    (field : DsqlInputField)
    (value : Option String) : Except String JsValue :=
  match value with
  | none => invalidDsqlDefault field "a valid string default"
  | some value =>
      if field.collection = some true then
        invalidDsqlDefault field "a valid string default"
      else if !field.closedValues.isEmpty &&
          !field.closedValues.contains value then
        invalidDsqlDefault field "a declared string default"
      else do
        if ← matchesDsqlPattern library field.pattern (.string value) then
          .ok (.string value)
        else
          invalidDsqlDefault field ("a valid " ++ field.dataType ++
            " default")

/-- A default given as an integer. -/
def integerDefault
    (field : DsqlInputField)
    (value : String) : Except String JsValue :=
  match parseInteger value with
  | none => invalidDsqlDefault field "an integer default"
  | some value =>
      if -9007199254740991 ≤ value ∧ value ≤ 9007199254740991 then
        .ok (.number (Binary64.ofSafeInteger value))
      else
        invalidDsqlDefault field "a safe integer default"

/-- A default given as a number. -/
def numberDefault
    (field : DsqlInputField)
    (value : Option String) : Except String JsValue :=
  match value with
  | none => invalidDsqlDefault field "a valid number default"
  | some value =>
      if field.collection = some true then
        invalidDsqlDefault field "a valid number default"
      else if field.encoding = .integer then
        integerDefault field value
      else if field.encoding = .float then
        if isDsqlNumeric value && (library.numberOfText value).isFinite then
          .ok (.number (library.numberOfText value))
        else
          invalidDsqlDefault field "a finite float default"
      else if field.encoding = .numeric then
        if isDsqlNumeric value then
          .ok (.string value)
        else
          invalidDsqlDefault field "a numeric default"
      else
        invalidDsqlDefault field "a compatible number default"

/-- A default given as a boolean. -/
def booleanDefault
    (field : DsqlInputField)
    (boolean : Option Bool) : Except String JsValue :=
  match boolean with
  | none => invalidDsqlDefault field "a valid boolean default"
  | some boolean =>
      if field.collection = some true ∨ field.encoding ≠ .boolean then
        invalidDsqlDefault field "a valid boolean default"
      else
        .ok (.boolean boolean)

mutual

/-- The value of a default. -/
def dsqlDefaultValue
    (field : DsqlInputField) : InputDefaultMetadata → Except String JsValue
  | .mk kind value boolean items =>
      if kind = "string" then
        stringDefault library field value
      else if kind = "number" then
        numberDefault library field value
      else if kind = "boolean" then
        booleanDefault field boolean
      else if kind = "null" then
        .ok .null
      else if kind = "collection" then
        match items with
        | none => invalidDsqlDefault field "a valid collection default"
        | some items =>
            if field.collection ≠ some true ∧
                field.dataType ≠ "dynamic_order" then
              invalidDsqlDefault field "a valid collection default"
            else if field.dataType = "dynamic_order" ∧ !items.isEmpty then
              invalidDsqlDefault field "an empty dynamic order default"
            else
              (dsqlDefaultItems { field with collection := some false }
                items).map JsValue.array
      else if kind = "empty_object" then
        if field.collection = some true ∨
            field.dataType ≠ "dynamic_predicate" then
          invalidDsqlDefault field "a dynamic predicate default"
        else
          .ok (.object [])
      else
        invalidDsqlDefault field "a recognized input default"

/-- The items of a default; they are scalars. -/
def dsqlDefaultItems
    (field : DsqlInputField) :
    List InputDefaultMetadata → Except String (List JsValue)
  | [] => .ok []
  | item :: rest =>
      if ["null", "collection", "empty_object"].contains item.kind then
        invalidDsqlDefault field "a valid collection default"
      else do
        let value ← dsqlDefaultValue field item
        let values ← dsqlDefaultItems field rest
        .ok (value :: values)

end

end Defaults

/-! ## Bindings -/

section Bindings

/-- The path leads into the trusted context. -/
def isTrustedPath (path : String) : Bool :=
  (Text.dropPrefix "context." path).isSome

/-- The failure of a serializer. -/
def serializerFailure (path dataType : String) : String :=
  "dsql input serializer failed at " ++ path ++ " (" ++ dataType ++ ")"

/-- Serializes the items that are not null. -/
def serializeItems (serialize : Serializer) :
    List JsValue → Option (List JsValue)
  | [] => some []
  | item :: rest => do
      let value ← if item.isNull then some .null else serialize item
      let values ← serializeItems serialize rest
      some (value :: values)

/-- Serializes a value of the host. -/
def serializeDsqlInputValue
    (field : DsqlInputField)
    (serialize : Serializer)
    (value : JsValue) : Except String JsValue :=
  let serialized :=
    if field.collection = some true then
      match value.asArray with
      | none => some value
      | some items => (serializeItems serialize items).map JsValue.array
    else
      serialize value
  match serialized with
  | some value => .ok value
  | none => throw (serializerFailure field.path field.dataType)

/-- A field's value with the bindings that it is part of. -/
structure FieldBinding where
  value : JsValue
  defaulted : Bool
  bindings : JsValue

/-- The value that is bound to a field, or its default. -/
def bindField
    (field : DsqlInputField)
    (bindings : JsValue) : Except String FieldBinding :=
  match lookupDsqlPath bindings field.path with
  | .invalid => throw ("invalid dsql input envelope at " ++ field.path)
  | .found value => .ok ⟨value, false, bindings⟩
  | .missing =>
      if isTrustedPath field.path then
        throw ("missing trusted dsql context at " ++ field.path)
      else
        match field.default with
        | some default => do
            let value ← dsqlDefaultValue library field default
            let bindings ← setDsqlPath bindings field.path value
            .ok ⟨value, true, bindings⟩
        | none =>
            if field.required then
              throw ("missing dsql input at " ++ field.path)
            else
              .ok ⟨.undefined, false, bindings⟩

/-- A null needs a nullable field. -/
def checkNullability
    (field : DsqlInputField)
    (value : JsValue) : Except String Unit :=
  if value.isNull && !field.nullable then
    if isTrustedPath field.path then
      throw ("missing trusted dsql context at " ++ field.path)
    else
      throw ("non-null dsql input is null at " ++ field.path)
  else
    .ok ()

/-- Host values of fields with a serializer are converted once. -/
def serializeField
    (field : DsqlInputField)
    (representation : Representation)
    (bound : FieldBinding) : Except String FieldBinding :=
  match field.serialize with
  | none => .ok bound
  | some serialize =>
      if representation = .host && !bound.defaulted && bound.value.isPresent
      then do
        let value ← serializeDsqlInputValue field serialize bound.value
        let bindings ← setDsqlPath bound.bindings field.path value
        .ok ⟨value, bound.defaulted, bindings⟩
      else
        .ok bound

/-- A null dynamic input becomes the identity of its kind. -/
def identityField
    (field : DsqlInputField)
    (bound : FieldBinding) : Except String JsValue :=
  if bound.value.isNull && isDynamicType field.dataType then
    setDsqlPath bound.bindings field.path
      (if field.dataType = "dynamic_predicate" then .object [] else .array [])
  else
    .ok bound.bindings

/-- Binds, serializes and validates one input. -/
def materializeField
    (representation : Representation)
    (field : DsqlInputField)
    (bindings : JsValue) : Except String JsValue := do
  let bound ← bindField library field bindings
  checkNullability field bound.value
  let bound ← serializeField field representation bound
  let bindings ← identityField field bound
  validateDsqlInput library field bound.value
  .ok bindings

/-- All inputs, in the order of the contract. -/
def materializeDsqlBindings
    (representation : Representation) :
    List DsqlInputField → JsValue → Except String JsValue
  | [], bindings => .ok bindings
  | field :: rest, bindings => do
      let bindings ← materializeField library representation field bindings
      materializeDsqlBindings representation rest bindings

end Bindings

/-! ## Dynamic bindings -/

section DynamicBindings

/-- An operand has the encoding and the pattern of its field. -/
def validateDsqlDynamicScalar
    (field : DsqlDynamicInputFieldContract)
    (value : JsValue)
    (path : String) : Except String Unit :=
  if value.isPresent then do
    if ← isScalarValid library field.encoding field.pattern value then
      .ok ()
    else
      throw ("dsql input " ++ path ++ " must be a valid " ++ field.dataType)
  else
    throw ("dsql input " ++ path ++ " must be a non-null " ++ field.dataType)

/-- Serializes and validates an operand. -/
def materializeDsqlDynamicScalar
    (field : DsqlDynamicInputFieldContract)
    (path : String)
    (representation : Representation)
    (value : JsValue) : Except String JsValue := do
  let wireValue ←
    match field.serialize with
    | none => .ok value
    | some serialize =>
        if representation = .host then
          match serialize value with
          | some value => .ok value
          | none => throw (serializerFailure path field.dataType)
        else
          .ok value
  validateDsqlDynamicScalar library field wireValue path
  .ok wireValue

/-- Serializes and validates the items of an operand. -/
def materializeDsqlDynamicItems
    (field : DsqlDynamicInputFieldContract)
    (path : String)
    (representation : Representation) :
    List JsValue → Except String (List JsValue)
  | [] => .ok []
  | item :: rest => do
      let value ←
        materializeDsqlDynamicScalar library field path representation item
      let values ←
        materializeDsqlDynamicItems field path representation rest
      .ok (value :: values)

/-- An operand, by the kind of its operator. -/
def materializeDsqlDynamicOperand
    (field : DsqlDynamicInputFieldContract)
    (path : String)
    (representation : Representation)
    (valueKind : String)
    (operand : JsValue) : Except String JsValue :=
  if valueKind = "boolean" then
    if hasEncoding .boolean operand then
      .ok operand
    else
      throw ("dsql input " ++ path ++ " must be a boolean")
  else if valueKind = "collection" then
    match operand.asArray with
    | none => throw ("dsql input " ++ path ++ " must be an array")
    | some items =>
        (materializeDsqlDynamicItems library field path representation
          items).map JsValue.array
  else if valueKind = "scalar" then
    materializeDsqlDynamicScalar library field path representation operand
  else
    throw ("unknown dsql dynamic operator value kind at " ++ path)

/-- The operators of a field with their operands. -/
def materializeDsqlDynamicOperators
    (field : DsqlDynamicInputFieldContract)
    (path : String)
    (representation : Representation) :
    List (String × JsValue) → Except String (List (String × JsValue))
  | [] => .ok []
  | (operatorName, operand) :: rest => do
      let operandPath := path ++ "." ++ operatorName
      let value ←
        match field.operators.lookup operatorName with
        | none => throw ("unknown dsql dynamic operator at " ++ operandPath)
        | some valueKind =>
            materializeDsqlDynamicOperand library field operandPath
              representation valueKind operand
      let others ← materializeDsqlDynamicOperators field path representation rest
      .ok ((operatorName, value) :: others)

/-- The operators of one field. -/
def materializeDsqlDynamicField
    (input : DsqlDynamicInputContract)
    (path key : String)
    (representation : Representation)
    (item : JsValue) : Except String JsValue :=
  match input.fields.find? (fun field => field.key = key) with
  | none => throw ("unknown dsql dynamic field at " ++ path ++ "." ++ key)
  | some field =>
      match item.envelope with
      | none =>
          throw ("dsql input " ++ path ++ "." ++ key ++
            " must be a field-operator object")
      | some operators =>
          (materializeDsqlDynamicOperators library field (path ++ "." ++ key)
            representation operators).map JsValue.object

mutual

/-- A predicate rebuilt from its validated operands. -/
def materializeDsqlDynamicPredicate
    (input : DsqlDynamicInputContract)
    (representation : Representation)
    (path : String) : JsValue → Except String JsValue
  | .object properties =>
      (materializeDsqlDynamicEntries input representation path
        properties).map JsValue.assigned
  | _ => throw ("dsql input " ++ path ++ " must be a dynamic predicate object")

/-- The entries of a predicate: connectives and fields. -/
def materializeDsqlDynamicEntries
    (input : DsqlDynamicInputContract)
    (representation : Representation)
    (path : String) :
    List (String × JsValue) → Except String (List (String × JsValue))
  | [] => .ok []
  | (key, item) :: rest => do
      let value ←
        if key = "and" ∨ key = "or" then
          materializeDsqlDynamicArray input representation
            (path ++ "." ++ key) item
        else if key = "not" then
          materializeDsqlDynamicPredicate input representation
            (path ++ ".not") item
        else
          materializeDsqlDynamicField library input path key representation
            item
      let others ← materializeDsqlDynamicEntries input representation path rest
      .ok ((key, value) :: others)

/-- The predicates below a connective. -/
def materializeDsqlDynamicArray
    (input : DsqlDynamicInputContract)
    (representation : Representation)
    (path : String) : JsValue → Except String JsValue
  | .array items =>
      (materializeDsqlDynamicChildren input representation path 0
        items).map JsValue.array
  | _ => throw ("dsql input " ++ path ++ " must be an array")

/-- The predicates of an array, one by one. -/
def materializeDsqlDynamicChildren
    (input : DsqlDynamicInputContract)
    (representation : Representation)
    (path : String)
    (index : Nat) : List JsValue → Except String (List JsValue)
  | [] => .ok []
  | item :: rest => do
      let child ← materializeDsqlDynamicPredicate input representation
        (path ++ "[" ++ toString index ++ "]") item
      let children ← materializeDsqlDynamicChildren input representation path
        (index + 1) rest
      .ok (child :: children)

end

/-- Replaces the value of a dynamic predicate. -/
def materializeDsqlDynamicBinding
    (representation : Representation)
    (input : DsqlDynamicInputContract)
    (bindings : JsValue) : Except String JsValue :=
  match lookupDsqlPath bindings input.path with
  | .invalid => throw ("invalid dsql input envelope at " ++ input.path)
  | .missing => throw ("missing dsql dynamic input at " ++ input.path)
  | .found value => do
      let value ←
        if input.kind = "predicate" then
          materializeDsqlDynamicPredicate library input representation
            input.path value
        else
          .ok value
      setDsqlPath bindings input.path value

/-- All dynamic inputs, in the order of the contract. -/
def materializeDsqlDynamicBindings
    (representation : Representation) :
    List DsqlDynamicInputContract → JsValue → Except String JsValue
  | [], bindings => .ok bindings
  | input :: rest, bindings => do
      let bindings ←
        materializeDsqlDynamicBinding library representation input bindings
      materializeDsqlDynamicBindings representation rest bindings

end DynamicBindings

/-! ## SQL -/

section Sql

/-- The text of a case, which an inherited property also gives. -/
def caseText (cases : List (String × String)) (selected : String) :
    Option String :=
  match cases.lookup selected with
  | some text => some text
  | none => JsValue.inheritedText selected

/-- Replaces every marker of a path. -/
def replaceMarker (path text rendered : String) : String :=
  String.ofList (Text.replaceAll ("\x7b\x7b" ++ path ++ "\x7d\x7d").toList
    text.toList rendered.toList)

/-- The text that the value of an input selects. -/
def variantText
    (path : String)
    (variant : DsqlSqlVariant)
    (selected : JsValue) : Except String String :=
  match selected, variant.nullText with
  | .null, some nullText => .ok nullText
  | .undefined, some nullText => .ok nullText
  | .string selected, _ =>
      match caseText variant.cases selected with
      | some text => .ok text
      | none =>
          throw ("invalid dsql variant value at " ++ path ++ ": " ++ selected)
  | _, _ => throw ("missing dsql variant value at " ++ path)

/-- Puts the selected texts in. -/
def applyDsqlVariants
    (bindings : JsValue) :
    List (String × DsqlSqlVariant) → String → Except String String
  | [], rendered => .ok rendered
  | (path, variant) :: rest, rendered => do
      let text ← variantText path variant (getDsqlPath bindings path)
      applyDsqlVariants bindings rest (replaceMarker path text rendered)

/-- The failure of the metadata of a dynamic input. -/
def invalidDsqlDynamicMetadata {α : Type} (message : String) :
    Except String α :=
  throw ("invalid dsql dynamic metadata: " ++ message)

/-- The operands so far, with their places in the inputs, and the position of
the next one. -/
structure DynamicRenderState where
  values : List (String × JsValue)
  cursor : Nat

/-- A rendering numbers its parameters as it goes. -/
abbrev Render (α : Type) : Type :=
  StateT DynamicRenderState (Except String) α

/-- Texts in parentheses between separators. -/
def parenthesizedDsqlJoin (values : List String) (separator : String) :
    String :=
  "(" ++ String.intercalate separator values ++ ")"

/-- The field of a site; the input has to declare it. -/
def dsqlDynamicSiteField
    (input : DynamicInputMetadata)
    (site : DynamicInputSite)
    (key path : String) : Except String DynamicInputSiteField :=
  if input.fields.any (fun field => field.key = key) then
    match site.fields.find? (fun field => field.key = key) with
    | some field => .ok field
    | none =>
        invalidDsqlDynamicMetadata ("site " ++ site.marker ++
          " has no lowering for field " ++ key)
  else
    throw ("unknown dsql dynamic field at " ++ path ++ "." ++ key)

/-- Numbers an operand as the next parameter. -/
def dsqlDynamicParameter
    (fixedParameterCount : Nat)
    (operand : String × JsValue) : Render String :=
  fun state =>
    let next := state.cursor + 1
    let placeholder := "$" ++ toString (fixedParameterCount + next)
    if state.cursor = state.values.length then
      .ok (placeholder, ⟨state.values ++ [operand], next⟩)
    else if (state.values[state.cursor]?).any (fun existing =>
        JsValue.strictEquals existing operand) then
      .ok (placeholder, ⟨state.values, next⟩)
    else
      invalidDsqlDynamicMetadata "reused dynamic site disagrees on an operand"

/-- One operator of a field with its operand. -/
def renderDsqlOperator
    (fixedParameterCount : Nat)
    (field : DynamicInputSiteField)
    (path : String)
    (entry : String × JsValue) : Render String :=
  match field.operators.find? (fun operator => operator.name = entry.1) with
  | none =>
      throw ("invalid dsql dynamic operator at " ++ path ++ "." ++ entry.1)
  | some operator =>
      if operator.valueKind = "boolean" then
        match operator.cases.find? (fun choice => choice.value =
            JsValue.toText library.numberText library.hostText entry.2) with
        | some choice => pure choice.text
        | none =>
            invalidDsqlDynamicMetadata ("operator " ++ entry.1 ++
              " has no boolean lowering")
      else if operator.valueKind = "collection" &&
          entry.2.asArray.any List.isEmpty then
        pure (if entry.1 = "in" then "FALSE" else "TRUE")
      else if operator.valueKind ≠ "collection" &&
          operator.valueKind ≠ "scalar" then
        invalidDsqlDynamicMetadata ("operator " ++ entry.1 ++
          " has unknown value kind " ++ operator.valueKind)
      else do
        let placeholder ← dsqlDynamicParameter fixedParameterCount
          (path ++ "." ++ entry.1, entry.2)
        pure (operator.beforeValue.getD "" ++ placeholder ++
          operator.afterValue.getD "")

/-- The predicates of a field, in order. -/
def renderDsqlOperators
    (fixedParameterCount : Nat)
    (field : DynamicInputSiteField)
    (path : String) : List (String × JsValue) → Render (List String)
  | [] => pure []
  | entry :: rest => do
      let predicate ←
        renderDsqlOperator library fixedParameterCount field path entry
      let predicates ← renderDsqlOperators fixedParameterCount field path rest
      pure (predicate :: predicates)

/-- The predicates of the field under a key. -/
def renderDsqlField
    (fixedParameterCount : Nat)
    (input : DynamicInputMetadata)
    (site : DynamicInputSite)
    (path key : String)
    (item : JsValue) : Render (List String) := do
  let field ← dsqlDynamicSiteField input site key path
  match item.envelope with
  | none =>
      throw ("dsql input " ++ path ++ "." ++ key ++
        " must be a field-operator object")
  | some operators =>
      renderDsqlOperators library fixedParameterCount field
        (path ++ "." ++ key) (JsValue.sortEntries operators)

/-- The predicates of entries, in order. -/
def runEntries : List (String × Render (List String)) → Render (List String)
  | [] => pure []
  | entry :: rest => do
      let predicates ← entry.2
      let others ← runEntries rest
      pure (predicates ++ others)

/-- No children give no predicate. -/
def conjunction (children : List String) : List String :=
  if children.isEmpty then
    []
  else
    [parenthesizedDsqlJoin children " AND "]

/-- No children give a predicate that is false. -/
def disjunction (children : List String) : List String :=
  if children.isEmpty then
    ["FALSE"]
  else
    [parenthesizedDsqlJoin children " OR "]

mutual

/-- The text of a predicate, where it has one. -/
def renderDsqlDynamicPredicate
    (fixedParameterCount : Nat)
    (input : DynamicInputMetadata)
    (site : DynamicInputSite)
    (path : String) : JsValue → Render (Option String)
  | .object properties => do
      let predicates ← runEntries (JsValue.sortEntries
        (renderDsqlEntries fixedParameterCount input site path properties))
      pure (if predicates.isEmpty then
        none
      else
        some (parenthesizedDsqlJoin predicates " AND "))
  | _ => throw ("dsql input " ++ path ++ " must be a dynamic predicate object")

/-- The entries of a predicate with their renderings. -/
def renderDsqlEntries
    (fixedParameterCount : Nat)
    (input : DynamicInputMetadata)
    (site : DynamicInputSite)
    (path : String) :
    List (String × JsValue) → List (String × Render (List String))
  | [] => []
  | (key, item) :: rest =>
      (key,
        if key = "and" then
          conjunction <$> renderDsqlArray fixedParameterCount input site
            (path ++ ".and") item
        else if key = "or" then
          disjunction <$> renderDsqlArray fixedParameterCount input site
            (path ++ ".or") item
        else if key = "not" then
          (fun child : Option String =>
            child.toList.map (fun child => "NOT (" ++ child ++ ")")) <$>
              renderDsqlDynamicPredicate fixedParameterCount input site
                (path ++ ".not") item
        else
          renderDsqlField library fixedParameterCount input site path key
            item) ::
        renderDsqlEntries fixedParameterCount input site path rest

/-- The predicates below a connective. -/
def renderDsqlArray
    (fixedParameterCount : Nat)
    (input : DynamicInputMetadata)
    (site : DynamicInputSite)
    (path : String) : JsValue → Render (List String)
  | .array items =>
      renderDsqlChildren fixedParameterCount input site path 0 items
  | _ => throw ("dsql input " ++ path ++ " must be an array")

/-- The predicates of an array, one by one. -/
def renderDsqlChildren
    (fixedParameterCount : Nat)
    (input : DynamicInputMetadata)
    (site : DynamicInputSite)
    (path : String)
    (index : Nat) : List JsValue → Render (List String)
  | [] => pure []
  | item :: rest => do
      let child ← renderDsqlDynamicPredicate fixedParameterCount input site
        (path ++ "[" ++ toString index ++ "]") item
      let children ← renderDsqlChildren fixedParameterCount input site path
        (index + 1) rest
      pure (child.toList ++ children)

end

/-- One entry names one field with its direction. -/
def renderDsqlOrderEntry
    (input : DynamicInputMetadata)
    (site : DynamicInputSite)
    (path entryPath : String) : JsValue → Except String String
  | .object [(key, direction)] => do
      let field ← dsqlDynamicSiteField input site key path
      match direction.asString with
      | none =>
          throw ("dsql input " ++ entryPath ++
            " must contain an order direction")
      | some direction =>
          match field.directions.find? (fun choice =>
              choice.value = direction) with
          | none => throw ("invalid dsql order direction at " ++ entryPath)
          | some choice => .ok choice.text
  | _ => throw ("dsql input " ++ entryPath ++ " must contain exactly one field")

/-- The entries of an order, one by one. -/
def renderDsqlOrderEntries
    (input : DynamicInputMetadata)
    (site : DynamicInputSite)
    (path : String)
    (index : Nat) : List JsValue → Except String (List String)
  | [] => .ok []
  | entry :: rest => do
      let text ← renderDsqlOrderEntry input site path
        (path ++ "[" ++ toString index ++ "]") entry
      let texts ← renderDsqlOrderEntries input site path (index + 1) rest
      .ok (text :: texts)

/-- The text of an order, where it has entries. -/
def renderDsqlDynamicOrder
    (input : DynamicInputMetadata)
    (site : DynamicInputSite)
    (path : String)
    (value : JsValue) : Except String (Option String) :=
  match value.asArray with
  | none => throw ("dsql input " ++ path ++ " must be an array of order entries")
  | some entries => do
      let rendered ← renderDsqlOrderEntries input site path 0 entries
      .ok (if rendered.isEmpty then
        none
      else
        some (String.intercalate ", " rendered))

/-- The text that is put at a site. -/
def renderDsqlSite
    (fixedParameterCount : Nat)
    (input : DynamicInputMetadata)
    (site : DynamicInputSite)
    (value : JsValue) : Render String :=
  if input.kind = "predicate" then do
    let rendered ← renderDsqlDynamicPredicate library fixedParameterCount
      input site input.path value
    pure (rendered.getD site.identitySql)
  else if input.kind = "order" then do
    let rendered ← renderDsqlDynamicOrder input site input.path value
    pure (rendered.getD site.identitySql)
  else
    invalidDsqlDynamicMetadata ("input " ++ input.path ++
      " has unknown kind " ++ input.kind)

/-- The SQL so far and the operands of its dynamic inputs. -/
structure RenderedSql where
  sql : String
  values : List (String × JsValue)

/-- All sites of an input number the same parameters. -/
def checkEnd
    (input : DynamicInputMetadata)
    (expectedEnd : Option Nat)
    (cursor : Nat) : Except String Unit :=
  if expectedEnd.all (fun expected => cursor = expected) then
    .ok ()
  else
    invalidDsqlDynamicMetadata ("sites for " ++ input.path ++
      " consume different operands")

/-- A marker has to occur once. -/
def replaceSite
    (site : DynamicInputSite)
    (sql replacement : String) : Except String String :=
  if Text.occurrences site.marker.toList sql.toList = 1 then
    .ok (String.ofList (Text.replaceFirst site.marker.toList
      replacement.toList sql.toList))
  else
    invalidDsqlDynamicMetadata ("marker " ++ site.marker ++
      " does not identify exactly one SQL site")

/-- Fills the sites of an input, each from the same number on. -/
def applyDsqlSites
    (fixedParameterCount : Nat)
    (input : DynamicInputMetadata)
    (value : JsValue)
    (inputStart : Nat) :
    List DynamicInputSite → Option Nat → RenderedSql →
      Except String RenderedSql
  | [], _, rendered => .ok rendered
  | site :: rest, expectedEnd, rendered => do
      let (replacement, state) ← renderDsqlSite library fixedParameterCount
        input site value ⟨rendered.values, inputStart⟩
      checkEnd input expectedEnd state.cursor
      let sql ← replaceSite site rendered.sql replacement
      applyDsqlSites fixedParameterCount input value inputStart rest
        (some (expectedEnd.getD state.cursor)) ⟨sql, state.values⟩

/-- The value of a dynamic input; null stands for the identity of its
kind. -/
def dynamicInputValue
    (contracts : List DsqlDynamicInputContract)
    (input : DynamicInputMetadata)
    (bindings : JsValue) : Except String JsValue :=
  if contracts.any (fun contract =>
      contract.path = input.path && contract.kind = input.kind) then
    match getDsqlPath bindings input.path with
    | .null =>
        .ok (if input.kind = "predicate" then .object [] else .array [])
    | .undefined => throw ("missing dsql dynamic input at " ++ input.path)
    | value => .ok value
  else
    invalidDsqlDynamicMetadata ("input " ++ input.path ++
      " has no client materialization contract")

/-- Fills the sites of an input. -/
def applyDsqlDynamicInput
    (fixedParameterCount : Nat)
    (contracts : List DsqlDynamicInputContract)
    (bindings : JsValue)
    (input : DynamicInputMetadata)
    (rendered : RenderedSql) : Except String RenderedSql := do
  let value ← dynamicInputValue contracts input bindings
  if input.sites.isEmpty then
    throw ("dsql dynamic input " ++ input.path ++ " has no SQL sites")
  else
    applyDsqlSites library fixedParameterCount input value
      rendered.values.length input.sites none rendered

/-- Fills the sites of all inputs, in order. -/
def applyDsqlDynamicInputs
    (fixedParameterCount : Nat)
    (contracts : List DsqlDynamicInputContract)
    (bindings : JsValue) :
    List DynamicInputMetadata → RenderedSql → Except String RenderedSql
  | [], rendered => .ok rendered
  | input :: rest, rendered => do
      let rendered ← applyDsqlDynamicInput library fixedParameterCount
        contracts bindings input rendered
      applyDsqlDynamicInputs fixedParameterCount contracts bindings rest
        rendered

end Sql

/-- Public variables, then the trusted context under its own key. -/
def materializeAllBindings
    (payload : DsqlExecutionPayload)
    (bindings context : JsValue) : Except String JsValue := do
  let bindings ←
    materializeDsqlBindings library .wire payload.inputs bindings
  let bindings ← materializeDsqlDynamicBindings library .wire
    payload.dynamicInputContracts bindings
  let bindings ← setDsqlPath bindings "context" context
  materializeDsqlBindings library .host payload.contextInputs bindings

/-- The SQL of an operation and its ordered values. -/
def materializeDsqlQuery
    (payload : DsqlExecutionPayload)
    (bindings context : JsValue) : Except String DsqlMaterializedQuery := do
  let bindings ← materializeAllBindings library payload bindings context
  let fixedValues := collectDsqlParameterValues payload.parameters bindings
  let sql ← applyDsqlVariants bindings payload.variants payload.sql
  let dynamic ← applyDsqlDynamicInputs library fixedValues.length
    payload.dynamicInputContracts bindings payload.dynamicInputs ⟨sql, []⟩
  .ok
    { sql := dynamic.sql
      values := fixedValues ++ dynamic.values.map Prod.snd
      context := getDsqlPath bindings "context" }

end Runtime

end Dsql
