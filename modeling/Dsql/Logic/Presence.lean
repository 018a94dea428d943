import Dsql.Logic.Truth

/-!
# Conditions that may be absent

An absent condition is not a truth value: it is neutral in every connective,
and a filter that is absent as a whole admits every row.

A guarded condition carries such an optional truth value as a two-valued
presence beside a truth value.  Its combinations use only the connectives of
three-valued logic, and they read as the neutral connectives do.
-/

namespace Logic

/-- The negation of a condition that may be absent. -/
def negPresent (a : Option Truth) : Option Truth :=
  a.map Truth.not

/-- The conjunction of conditions that may be absent. -/
def conjPresent : Option Truth → Option Truth → Option Truth
  | none, b => b
  | a, none => a
  | some a, some b => some (a.and b)

/-- The disjunction of conditions that may be absent. -/
def disjPresent : Option Truth → Option Truth → Option Truth
  | none, b => b
  | a, none => a
  | some a, some b => some (a.or b)

/-- An absent filter admits every row. -/
def admitted (a : Option Truth) : Truth :=
  a.getD .tt

@[simp] theorem admitted_none : admitted none = .tt := rfl

@[simp] theorem admitted_some (a : Truth) : admitted (some a) = a := rfl

@[simp] theorem negPresent_none : negPresent none = none := rfl

@[simp] theorem negPresent_some (a : Truth) :
    negPresent (some a) = some a.not := rfl

@[simp] theorem conjPresent_none_left (b : Option Truth) :
    conjPresent none b = b := by
  cases b <;> rfl

@[simp] theorem conjPresent_none_right (a : Option Truth) :
    conjPresent a none = a := by
  cases a <;> rfl

@[simp] theorem conjPresent_some (a b : Truth) :
    conjPresent (some a) (some b) = some (a.and b) := rfl

@[simp] theorem disjPresent_none_left (b : Option Truth) :
    disjPresent none b = b := by
  cases b <;> rfl

@[simp] theorem disjPresent_none_right (a : Option Truth) :
    disjPresent a none = a := by
  cases a <;> rfl

@[simp] theorem disjPresent_some (a b : Truth) :
    disjPresent (some a) (some b) = some (a.or b) := rfl

/-- A truth value with the presence that controls it; without a presence it
is there unconditionally. -/
structure Guarded where
  present : Option Bool
  value : Truth

namespace Guarded

def always (value : Truth) : Guarded :=
  ⟨none, value⟩

/-- The condition a guarded truth value carries. -/
def read (a : Guarded) : Option Truth :=
  if a.present.getD true then some a.value else none

/-- True where the condition is absent. -/
def orAbsent (value : Truth) (present : Bool) : Truth :=
  value.or (Truth.ofBool present).not

/-- False where the condition is absent. -/
def ifPresent (value : Truth) (present : Bool) : Truth :=
  value.and (Truth.ofBool present)

/-- The truth value of a guarded condition used as a filter. -/
def filter (a : Guarded) : Truth :=
  match a.present with
  | none => a.value
  | some present => orAbsent a.value present

def not (a : Guarded) : Guarded :=
  ⟨a.present, a.value.not⟩

/-- The presence of a combination: as soon as one part is always there, so is
the combination. -/
def either : Option Bool → Option Bool → Option Bool
  | some left, some right => some (left || right)
  | _, _ => none

def and (a b : Guarded) : Guarded :=
  ⟨either a.present b.present, a.filter.and b.filter⟩

/-- The truth value of a guarded condition below a disjunction. -/
def alternative (a : Guarded) : Truth :=
  match a.present with
  | none => a.value
  | some present => ifPresent a.value present

def or (a b : Guarded) : Guarded :=
  ⟨either a.present b.present, a.alternative.or b.alternative⟩

/-- A further presence in front of a guarded condition. -/
def under (present : Bool) (a : Guarded) : Guarded :=
  ⟨some (present && a.present.getD true), a.value⟩

@[simp] theorem read_always (value : Truth) :
    (always value).read = some value := rfl

@[simp] theorem read_not (a : Guarded) :
    a.not.read = negPresent a.read := by
  unfold read not
  split <;> simp_all

@[simp] theorem read_under (present : Bool) (a : Guarded) :
    (under present a).read = if present then a.read else none := by
  cases present <;> simp [read, under]

/-- A guarded filter is its condition, and true where that is absent. -/
theorem filter_eq (a : Guarded) :
    a.filter = admitted a.read := by
  obtain ⟨present, value⟩ := a
  cases present with
  | none =>
      simp [filter, read]
  | some present =>
      cases present <;> simp [filter, read, orAbsent]

/-- Conjunction of guarded conditions is the neutral conjunction. -/
@[simp] theorem read_and (a b : Guarded) :
    (a.and b).read = conjPresent a.read b.read := by
  obtain ⟨left, value⟩ := a
  obtain ⟨right, other⟩ := b
  rcases left with _ | _ | _ <;> rcases right with _ | _ | _ <;>
    simp [and, read, either, filter, orAbsent]

/-- Disjunction of guarded conditions is the neutral disjunction. -/
@[simp] theorem read_or (a b : Guarded) :
    (a.or b).read = disjPresent a.read b.read := by
  obtain ⟨left, value⟩ := a
  obtain ⟨right, other⟩ := b
  rcases left with _ | _ | _ <;> rcases right with _ | _ | _ <;>
    simp [or, read, either, alternative, ifPresent]

end Guarded

end Logic
