import Mathlib.Tactic
import Mathlib.Order.Basic

/-!
# Three-valued truth

Strong Kleene logic as SQL uses it.  A condition is `ff`, `unknown` or `tt`,
and a row survives a condition only when the condition is `tt`.

The module states the algebra of the connectives and of the conjunction of a
list.
-/

namespace Logic

/-- A truth value of a condition that may be undetermined. -/
inductive Truth where
  | ff
  | unknown
  | tt
deriving DecidableEq, Repr

namespace Truth

/-- The decided truth value of a boolean. -/
def ofBool : Bool → Truth
  | true => .tt
  | false => .ff

@[simp] theorem ofBool_true : ofBool true = .tt := rfl
@[simp] theorem ofBool_false : ofBool false = .ff := rfl

def not : Truth → Truth
  | .ff => .tt
  | .unknown => .unknown
  | .tt => .ff

def and : Truth → Truth → Truth
  | .ff, _ => .ff
  | _, .ff => .ff
  | .tt, b => b
  | .unknown, _ => .unknown

def or : Truth → Truth → Truth
  | .tt, _ => .tt
  | _, .tt => .tt
  | .ff, b => b
  | .unknown, _ => .unknown

@[simp] theorem not_ff : Truth.ff.not = .tt := rfl
@[simp] theorem not_unknown : Truth.unknown.not = .unknown := rfl
@[simp] theorem not_tt : Truth.tt.not = .ff := rfl

@[simp] theorem not_not (a : Truth) : a.not.not = a := by
  cases a <;> rfl

@[simp] theorem ff_and (a : Truth) : Truth.ff.and a = .ff := by
  cases a <;> rfl

@[simp] theorem and_ff (a : Truth) : a.and .ff = .ff := by
  cases a <;> rfl

@[simp] theorem tt_and (a : Truth) : Truth.tt.and a = a := by
  cases a <;> rfl

@[simp] theorem and_tt (a : Truth) : a.and .tt = a := by
  cases a <;> rfl

@[simp] theorem tt_or (a : Truth) : Truth.tt.or a = .tt := by
  cases a <;> rfl

@[simp] theorem or_tt (a : Truth) : a.or .tt = .tt := by
  cases a <;> rfl

@[simp] theorem ff_or (a : Truth) : Truth.ff.or a = a := by
  cases a <;> rfl

@[simp] theorem or_ff (a : Truth) : a.or .ff = a := by
  cases a <;> rfl

theorem and_assoc (a b c : Truth) :
    (a.and b).and c = a.and (b.and c) := by
  cases a <;> cases b <;> cases c <;> rfl

@[simp] theorem and_self (a : Truth) : a.and a = a := by
  cases a <;> rfl

@[simp] theorem ofBool_not (b : Bool) :
    (ofBool b).not = ofBool (!b) := by
  cases b <;> rfl

@[simp] theorem ofBool_eq_tt (b : Bool) :
    ofBool b = .tt ↔ b = true := by
  cases b <;> simp [ofBool]

/-- A conjunction passes a row exactly when both parts do. -/
@[simp] theorem and_eq_tt (a b : Truth) :
    a.and b = .tt ↔ a = .tt ∧ b = .tt := by
  cases a <;> cases b <;> simp [and]

@[simp] theorem or_eq_tt (a b : Truth) :
    a.or b = .tt ↔ a = .tt ∨ b = .tt := by
  cases a <;> cases b <;> simp [or]

@[simp] theorem not_eq_tt (a : Truth) :
    a.not = .tt ↔ a = .ff := by
  cases a <;> simp [not]

/-- The conjunction of a list of conditions. -/
def all : List Truth → Truth
  | [] => .tt
  | a :: rest => a.and (all rest)

@[simp] theorem all_nil : all [] = .tt := rfl

@[simp] theorem all_cons (a : Truth) (rest : List Truth) :
    all (a :: rest) = a.and (all rest) := rfl

/-- A list of conditions passes a row exactly when each of them does. -/
theorem all_eq_tt (conditions : List Truth) :
    all conditions = .tt ↔ ∀ a ∈ conditions, a = .tt := by
  induction conditions with
  | nil => simp
  | cons a rest ih => simp [ih]

/-- A rule that binds only where its policy is enforced or desired. -/
def activated (enforced desired rule : Truth) : Truth :=
  (enforced.or desired).not.or rule

/-- Where a policy is enforced, its rule decides alone. -/
@[simp] theorem activated_enforced (desired rule : Truth) :
    activated .tt desired rule = rule := by
  simp [activated]

end Truth

end Logic
