import Dsql.Catalog

/-!
# Built-in type capabilities

What clauses may do with a value of each logical type.
-/

namespace Dsql

/-- The number that a nonempty run of ASCII digits spells. -/
def parseDigits : List Char → Option Nat
  | [] => none
  | digits =>
      digits.foldl
        (fun value digit =>
          if digit.isDigit then
            value.map (fun value => 10 * value + (digit.toNat - '0'.toNat))
          else
            none)
        (some 0)

/-- The signed 64-bit integer that a text spells. -/
def parseI64 (value : String) : Option Int :=
  match value.toList with
  | '-' :: digits =>
      ((parseDigits digits).filter (fun value => value ≤ 2 ^ 63)).map
        (fun value => -(value : Int))
  | '+' :: digits =>
      ((parseDigits digits).filter (fun value => value < 2 ^ 63)).map
        (fun value => (value : Int))
  | digits =>
      ((parseDigits digits).filter (fun value => value < 2 ^ 63)).map
        (fun value => (value : Int))

/-- Operators of types without an order. -/
def equalityOperators : List ComparisonOp := [.eq, .ne]

/-- Operators of types with an order. -/
def orderedOperators : List ComparisonOp := [.eq, .ne, .gt, .ge, .lt, .le]

/-- Operators of text. -/
def textOperators : List ComparisonOp := [.eq, .ne, .like]

/-- Types without aggregates. -/
def noAggregates : AggregateCapabilities := ⟨false, false, none, none⟩

/-- Types with a minimum and a maximum alone. -/
def minMax : AggregateCapabilities := ⟨true, true, none, none⟩

/-- Literals of one kind without further validation. -/
def anyLiteral (kind : LiteralKind) (description : String) :
    ScalarAcceptance :=
  ⟨[kind], fun _ => true, description⟩

/-- Literals of integers. -/
def integerLiteral (description : String) : ScalarAcceptance :=
  ⟨[.number], fun value => (parseI64 value).isSome, description⟩

/-- The capabilities of a built-in logical type. -/
def builtinCapabilities : DataType → TypeCapabilities
  | .uuid =>
      ⟨.uuid, equalityOperators, anyLiteral .string "string", noAggregates⟩
  | .text => ⟨.text, textOperators, anyLiteral .string "string", minMax⟩
  | .timestamptz =>
      ⟨.timestamptz, orderedOperators, anyLiteral .string "string", minMax⟩
  | .int =>
      ⟨.integer, orderedOperators, integerLiteral "number",
        ⟨true, true, some .numeric, some .numeric⟩⟩
  | .bigInt =>
      ⟨.bigInteger, orderedOperators, integerLiteral "integer",
        ⟨true, true, some .numeric, some .numeric⟩⟩
  | .numeric =>
      ⟨.numeric, orderedOperators, anyLiteral .number "number",
        ⟨false, false, some .numeric, some .numeric⟩⟩
  | .float =>
      ⟨.float, orderedOperators, anyLiteral .number "number",
        ⟨false, false, some .float, some .float⟩⟩
  | .boolean =>
      ⟨.boolean, equalityOperators, anyLiteral .boolean "boolean",
        noAggregates⟩
  | .json =>
      ⟨.json, equalityOperators, anyLiteral .string "string", noAggregates⟩
  | .unknown =>
      ⟨.unsupported, equalityOperators, ⟨[], fun _ => true, "value"⟩,
        noAggregates⟩

end Dsql
