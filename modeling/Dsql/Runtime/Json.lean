import Mathlib.Tactic

/-!
# JSON values

The values that bindings and parameters carry.  An object is a list of
entries, of which the first with a key counts.
-/

namespace Dsql

/-- A number as the parser keeps it apart: an integer, or the bits of a 64-bit
float. -/
inductive JsonNumber where
  | integer (value : Int)
  | float (bits : BitVec 64)
deriving DecidableEq, Repr

namespace JsonNumber

/-- A float whose exponent is not the one of infinities and NaNs. -/
def isFinite : JsonNumber → Bool
  | .integer _ => true
  | .float bits => bits.extractLsb' 52 11 != 2047#11

/-- The value, if it is an integer of 64 bits. -/
def toI64 : JsonNumber → Option Int
  | .integer value =>
      if -(2 ^ 63) ≤ value ∧ value < 2 ^ 63 then some value else none
  | .float _ => none

end JsonNumber

/-- JSON values with ordered entries. -/
inductive Json where
  | null
  | bool (value : Bool)
  | number (value : JsonNumber)
  | string (value : String)
  | array (items : List Json)
  | object (entries : List (String × Json))

/-- Entries in the order of their keys. -/
def sortByKey {α : Type} (entries : List (String × α)) : List (String × α) :=
  entries.insertionSort (fun left right => left.1 ≤ right.1)

/-- Sorting by key commutes with a change of the values. -/
theorem sortByKey_map
    {α β : Type}
    (f : String × α → β)
    (entries : List (String × α)) :
    sortByKey (entries.map (fun entry => (entry.1, f entry))) =
      (sortByKey entries).map (fun entry => (entry.1, f entry)) := by
  exact (List.map_insertionSort
    (fun left right : String × α => left.1 ≤ right.1)
    (fun left right : String × β => left.1 ≤ right.1)
    (fun entry => (entry.1, f entry)) entries
    (fun _ _ _ _ => Iff.rfl)).symm

/-- Sorting keeps the entries. -/
theorem mem_sortByKey
    {α : Type}
    {entries : List (String × α)}
    {entry : String × α} :
    entry ∈ sortByKey entries ↔ entry ∈ entries :=
  List.mem_insertionSort _

namespace Json

/-- The value is null. -/
def isNull : Json → Bool
  | .null => true
  | _ => false

/-- The boolean, if it is one. -/
def asBool : Json → Option Bool
  | .bool value => some value
  | _ => none

/-- The number, if it is one. -/
def asNumber : Json → Option JsonNumber
  | .number value => some value
  | _ => none

/-- The text, if it is one. -/
def asString : Json → Option String
  | .string value => some value
  | _ => none

/-- The items, if it is an array. -/
def asArray : Json → Option (List Json)
  | .array items => some items
  | _ => none

/-- The entries, if it is an object. -/
def asObject : Json → Option (List (String × Json))
  | .object entries => some entries
  | _ => none

/-- The value of a key. -/
def get (entries : List (String × Json)) (key : String) : Option Json :=
  (entries.find? (fun entry => entry.1 = key)).map Prod.snd

/-- Induction over values. -/
@[elab_as_elim]
theorem induction
    {motive : Json → Prop}
    (null : motive .null)
    (bool : ∀ value, motive (.bool value))
    (number : ∀ value, motive (.number value))
    (string : ∀ value, motive (.string value))
    (array : ∀ items, (∀ item ∈ items, motive item) → motive (.array items))
    (object : ∀ entries, (∀ entry ∈ entries, motive entry.2) →
      motive (.object entries)) :
    ∀ value, motive value
  | .null => null
  | .bool value => bool value
  | .number value => number value
  | .string value => string value
  | .array items => array items (fun item _ =>
      induction null bool number string array object item)
  | .object entries => object entries (fun entry _ =>
      induction null bool number string array object entry.2)
termination_by value => sizeOf value
decreasing_by
  · rename_i hitem
    have := List.sizeOf_lt_of_mem hitem
    simp only [Json.array.sizeOf_spec]
    omega
  · rename_i hentry
    have := List.sizeOf_lt_of_mem hentry
    have hpair : sizeOf entry.2 < sizeOf entry := by
      cases entry
      simp only [Prod.mk.sizeOf_spec]
      omega
    simp only [Json.object.sizeOf_spec]
    omega

end Json

end Dsql
