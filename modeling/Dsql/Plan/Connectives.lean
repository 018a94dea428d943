import Dsql.Logic.Truth
import Dsql.Plan.Types

/-!
# Simplifying connectives

The planner composes guards with connectives that simplify boolean literals
away.  Under every valuation of the atoms a simplified guard has the truth
value of the connective it stands for.
-/

namespace Dsql

open Logic

def booleanFilter (value : Bool) : FilterExpr :=
  .literal (.bool value)

def filterBoolean : FilterExpr → Option Bool
  | .literal (.bool value) => some value
  | _ => none

def notFilter : FilterExpr → FilterExpr
  | .literal (.bool value) => booleanFilter (!value)
  | .not operand => operand
  | filter => .not filter

def orFilter (left right : FilterExpr) : FilterExpr :=
  match filterBoolean left, filterBoolean right with
  | some true, _ => booleanFilter true
  | _, some true => booleanFilter true
  | some false, _ => right
  | _, some false => left
  | none, none => .binary left .or right

def andFilter (left right : FilterExpr) : FilterExpr :=
  match filterBoolean left, filterBoolean right with
  | some false, _ => booleanFilter false
  | _, some false => booleanFilter false
  | some true, _ => right
  | _, some true => left
  | none, none => .binary left .and right

/-- The condition, or the negation of being active. -/
def activePolicyGuard (active condition : FilterExpr) : FilterExpr :=
  if filterBoolean active = some true then
    condition
  else
    orFilter (notFilter active) condition

namespace FilterExpr

/-- The truth value of a filter under a valuation of everything that is not a
boolean literal or a connective. -/
@[grind =]
def truth (atoms : FilterExpr → Truth) : FilterExpr → Truth
  | .literal (.bool value) => .ofBool value
  | .not operand => (truth atoms operand).not
  | .binary left .and right =>
      (truth atoms left).and (truth atoms right)
  | .binary left .or right =>
      (truth atoms left).or (truth atoms right)
  | filter => atoms filter

section Truth

variable (atoms : FilterExpr → Truth)

@[simp] theorem truth_booleanFilter (value : Bool) :
    (booleanFilter value).truth atoms = .ofBool value := by
  simp [booleanFilter, truth]

@[simp] theorem truth_not (operand : FilterExpr) :
    (FilterExpr.not operand).truth atoms =
      (operand.truth atoms).not := by
  simp [truth]

@[simp] theorem truth_and (left right : FilterExpr) :
    (FilterExpr.binary left .and right).truth atoms =
      (left.truth atoms).and (right.truth atoms) := by
  simp [truth]

@[simp] theorem truth_or (left right : FilterExpr) :
    (FilterExpr.binary left .or right).truth atoms =
      (left.truth atoms).or (right.truth atoms) := by
  simp [truth]

end Truth

end FilterExpr

theorem filterBoolean_eq_some
    {filter : FilterExpr}
    {value : Bool}
    (h : filterBoolean filter = some value) :
    filter = booleanFilter value := by
  unfold filterBoolean at h
  split at h
  · simpa [booleanFilter] using h
  · cases h

@[simp] theorem filterBoolean_booleanFilter (value : Bool) :
    filterBoolean (booleanFilter value) = some value := rfl

section Connectives

variable (atoms : FilterExpr → Truth)

@[simp] theorem truth_notFilter (filter : FilterExpr) :
    (notFilter filter).truth atoms = (filter.truth atoms).not := by
  unfold notFilter
  split
  · simp [booleanFilter, FilterExpr.truth]
  · simp
  · simp

@[simp] theorem truth_orFilter (left right : FilterExpr) :
    (orFilter left right).truth atoms =
      (left.truth atoms).or (right.truth atoms) := by
  cases hleft : filterBoolean left with
  | some value =>
      have hl := filterBoolean_eq_some hleft
      subst hl
      cases hright : filterBoolean right with
      | some other =>
          have hr := filterBoolean_eq_some hright
          subst hr
          cases value <;> cases other <;> simp [orFilter]
      | none =>
          cases value <;> simp [orFilter, hright]
  | none =>
      cases hright : filterBoolean right with
      | some other =>
          have hr := filterBoolean_eq_some hright
          subst hr
          cases other <;> simp [orFilter, hleft]
      | none =>
          simp [orFilter, hleft, hright]

@[simp] theorem truth_andFilter (left right : FilterExpr) :
    (andFilter left right).truth atoms =
      (left.truth atoms).and (right.truth atoms) := by
  cases hleft : filterBoolean left with
  | some value =>
      have hl := filterBoolean_eq_some hleft
      subst hl
      cases hright : filterBoolean right with
      | some other =>
          have hr := filterBoolean_eq_some hright
          subst hr
          cases value <;> cases other <;> simp [andFilter]
      | none =>
          cases value <;> simp [andFilter, hright]
  | none =>
      cases hright : filterBoolean right with
      | some other =>
          have hr := filterBoolean_eq_some hright
          subst hr
          cases other <;> simp [andFilter, hleft]
      | none =>
          simp [andFilter, hleft, hright]

/-- A guard holds where its policy is inactive or its condition holds. -/
@[simp] theorem truth_activePolicyGuard (active condition : FilterExpr) :
    (activePolicyGuard active condition).truth atoms =
      (active.truth atoms).not.or (condition.truth atoms) := by
  unfold activePolicyGuard
  split
  case isTrue h =>
    simp [filterBoolean_eq_some h]
  case isFalse =>
    simp

end Connectives

end Dsql
