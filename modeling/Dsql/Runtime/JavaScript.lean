import Mathlib.Tactic

/-!
# JavaScript values

The values that the TypeScript runtime handles.  A plain object has
`Object.prototype` as its prototype and lists its own properties; any other
object, function, symbol or big integer is a host value.  A number is the bits
of a 64-bit float.
-/

namespace Dsql

/-- The bits of a 64-bit float. -/
abbrev Binary64 : Type := BitVec 64

namespace Binary64

/-- The biased exponent. -/
def exponent (bits : Binary64) : Nat :=
  (bits.extractLsb' 52 11).toNat

/-- The bits of the fraction. -/
def fraction (bits : Binary64) : Nat :=
  (bits.extractLsb' 0 52).toNat

/-- The number is neither infinite nor NaN. -/
def isFinite (bits : Binary64) : Bool :=
  bits.exponent ≠ 2047

/-- The number is NaN. -/
def isNaN (bits : Binary64) : Bool :=
  bits.exponent = 2047 && bits.fraction ≠ 0

/-- The number is a zero of either sign. -/
def isZero (bits : Binary64) : Bool :=
  bits.exponent = 0 && bits.fraction = 0

/-- An integer of magnitude below `2 ^ 53`. -/
def isSafeInteger (bits : Binary64) : Bool :=
  if bits.exponent = 0 then
    bits.fraction = 0
  else
    bits.exponent ≤ 1075 &&
      (2 ^ 52 + bits.fraction) % 2 ^ (1075 - bits.exponent) = 0

/-- The float of an integer of magnitude below `2 ^ 53`. -/
def ofSafeInteger (value : Int) : Binary64 :=
  let magnitude := value.natAbs
  if magnitude = 0 then
    0#64
  else
    let scale := Nat.log2 magnitude
    BitVec.ofNat 64
      ((if value < 0 then 2 ^ 63 else 0) + (1023 + scale) * 2 ^ 52 +
        (magnitude - 2 ^ scale) * 2 ^ (52 - scale))

end Binary64

/-- The values that bindings hold. -/
inductive JsValue where
  | undefined
  | null
  | boolean (value : Bool)
  | number (value : Binary64)
  | string (value : String)
  | array (items : List JsValue)
  | object (properties : List (String × JsValue))
  | host (identity : Nat)

namespace JsValue

/-- The value is null. -/
def isNull : JsValue → Bool
  | .null => true
  | _ => false

/-- The value is undefined. -/
def isUndefined : JsValue → Bool
  | .undefined => true
  | _ => false

/-- Neither null nor undefined. -/
def isPresent (value : JsValue) : Bool :=
  !value.isNull && !value.isUndefined

/-- The text of a string. -/
def asString : JsValue → Option String
  | .string value => some value
  | _ => none

/-- The items of an array. -/
def asArray : JsValue → Option (List JsValue)
  | .array items => some items
  | _ => none

/-- The own properties of a plain object. -/
def envelope : JsValue → Option (List (String × JsValue))
  | .object properties => some properties
  | _ => none

/-- An own property. -/
def own (properties : List (String × JsValue)) (key : String) :
    Option JsValue :=
  (properties.find? (fun property => property.1 = key)).map Prod.snd

/-- The functions that every plain object inherits. -/
def inheritedFunctions : List String :=
  ["toString", "valueOf", "hasOwnProperty", "isPrototypeOf",
    "propertyIsEnumerable", "toLocaleString", "__defineGetter__",
    "__defineSetter__", "__lookupGetter__", "__lookupSetter__"]

/-- What an inherited property converts to as a string. -/
def inheritedText (key : String) : Option String :=
  if key = "constructor" then
    some "function Object() \x7b [native code] \x7d"
  else if key = "__proto__" then
    some "[object Object]"
  else if inheritedFunctions.contains key then
    some ("function " ++ key ++ "() \x7b [native code] \x7d")
  else
    none

/-- A property, own or inherited. -/
def property (properties : List (String × JsValue)) (key : String) : JsValue :=
  match own properties key with
  | some value => value
  | none =>
      if key = "__proto__" then
        .object []
      else if (inheritedText key).isSome then
        .host 0
      else
        .undefined

/-- The properties of a copy with one own property defined. -/
def define
    (key : String)
    (value : JsValue) : List (String × JsValue) → List (String × JsValue)
  | [] => [(key, value)]
  | (other, found) :: rest =>
      if other = key then
        (key, value) :: rest
      else
        (other, found) :: define key value rest

/-- An object built by assignments, of which one to `__proto__` would change
its prototype. -/
def assigned (properties : List (String × JsValue)) : JsValue :=
  if properties.any (fun property => property.1 = "__proto__") then
    .host 0
  else
    .object properties

/-- The code units of a string. -/
def codeUnits (text : String) : List Nat :=
  text.toList.flatMap (fun char =>
    if char.toNat < 0x10000 then
      [char.toNat]
    else
      [0xD800 + (char.toNat - 0x10000) / 0x400,
        0xDC00 + (char.toNat - 0x10000) % 0x400])

/-- The order of JavaScript on strings, by code units. -/
def unitsLe : List Nat → List Nat → Bool
  | [], _ => true
  | _ :: _, [] => false
  | left :: lefts, right :: rights =>
      left < right || (left = right && unitsLe lefts rights)

/-- Insertion into entries that are sorted by the code units of their keys. -/
def insertEntry {α : Type} (entry : String × α) :
    List (String × α) → List (String × α)
  | [] => [entry]
  | other :: rest =>
      if unitsLe (codeUnits entry.1) (codeUnits other.1) then
        entry :: other :: rest
      else
        other :: insertEntry entry rest

/-- Entries in the order of their keys. -/
def sortEntries {α : Type} (entries : List (String × α)) : List (String × α) :=
  entries.foldr insertEntry []

/-- Strict equality of values at two positions of one tree; an object is equal
to itself alone. -/
def strictEquals (left right : String × JsValue) : Bool :=
  match left.2, right.2 with
  | .undefined, .undefined => true
  | .null, .null => true
  | .boolean value, .boolean other => value = other
  | .number value, .number other =>
      !value.isNaN && !other.isNaN &&
        (value = other || (value.isZero && other.isZero))
  | .string value, .string other => value = other
  | .array _, .array _ => left.1 = right.1
  | .object _, .object _ => left.1 = right.1
  | .host identity, .host other => identity = other
  | _, _ => false

section Text

variable (numberText : Binary64 → String)
variable (hostText : Nat → String)

mutual

/-- What `String` makes of a value. -/
def toText : JsValue → String
  | .undefined => "undefined"
  | .null => "null"
  | .boolean value => if value then "true" else "false"
  | .number value => numberText value
  | .string value => value
  | .array items => String.intercalate "," (itemTexts items)
  | .object _ => "[object Object]"
  | .host identity => hostText identity

/-- The texts of items; missing ones are empty. -/
def itemTexts : List JsValue → List String
  | [] => []
  | item :: rest =>
      (if item.isPresent then toText item else "") :: itemTexts rest

end

end Text

end JsValue

end Dsql
