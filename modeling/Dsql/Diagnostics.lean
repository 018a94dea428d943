import Mathlib.Tactic

/-!
# Diagnostics

What the checks report.  A definition is accepted when its checks report no
error; warnings do not reject it.
-/

namespace Dsql

inductive DiagnosticCode where
  | fieldNotFound
  | tableNotFound
  | ambiguousTable
  | ambiguousRelation
  | predicateTypeMismatch
  | clauseValueTypeMismatch
  | unmappedType
  | aggregateSourceCardinality
  | invalidAggregateField
  | aggregateClauseNotAllowed
  | invalidDynamicInput
  | unknownFilter
  | ambiguousFilter
  | filterTargetMismatch
  | duplicateFilterAssignment
  | invalidFilterAssignment
  | unknownTrustedContext
  | ambiguousTrustedContext
  | trustedContextTypeMismatch
  | invalidContextDeclaration
  | syntaxError
  | invalidPolicyDefinition
deriving DecidableEq, Repr

inductive Severity where
  | error
  | warning
deriving DecidableEq, Repr

structure Diagnostic where
  severity : Severity
  code : DiagnosticCode
  message : String
deriving DecidableEq, Repr

namespace Diagnostic

def error (code : DiagnosticCode) (message : String) : Diagnostic :=
  ⟨.error, code, message⟩

def warning (code : DiagnosticCode) (message : String) : Diagnostic :=
  ⟨.warning, code, message⟩

def isError (diagnostic : Diagnostic) : Bool :=
  diagnostic.severity == .error

@[simp] theorem isError_error (code : DiagnosticCode) (message : String) :
    (error code message).isError = true := rfl

@[simp] theorem isError_warning (code : DiagnosticCode) (message : String) :
    (warning code message).isError = false := rfl

end Diagnostic

/-- No reported diagnostic is an error. -/
def Accepted (diagnostics : List Diagnostic) : Prop :=
  ∀ diagnostic ∈ diagnostics, diagnostic.isError = false

instance (diagnostics : List Diagnostic) :
    Decidable (Accepted diagnostics) :=
  inferInstanceAs (Decidable (∀ diagnostic ∈ diagnostics, _))

@[simp] theorem accepted_nil : Accepted [] := by
  simp [Accepted]

@[simp] theorem accepted_append (left right : List Diagnostic) :
    Accepted (left ++ right) ↔ Accepted left ∧ Accepted right := by
  simp only [Accepted, List.mem_append]
  constructor
  · intro h
    exact ⟨fun d hd => h d (.inl hd), fun d hd => h d (.inr hd)⟩
  · rintro ⟨hleft, hright⟩ d (hd | hd)
    · exact hleft d hd
    · exact hright d hd

@[simp] theorem accepted_cons
    (diagnostic : Diagnostic)
    (rest : List Diagnostic) :
    Accepted (diagnostic :: rest) ↔
      diagnostic.isError = false ∧ Accepted rest := by
  simp [Accepted]

@[simp] theorem accepted_flatMap
    {α : Type}
    (items : List α)
    (check : α → List Diagnostic) :
    Accepted (items.flatMap check) ↔
      ∀ item ∈ items, Accepted (check item) := by
  simp only [Accepted, List.mem_flatMap]
  constructor
  · intro h item hitem d hd
    exact h d ⟨item, hitem, hd⟩
  · rintro h d ⟨item, hitem, hd⟩
    exact h item hitem d hd

end Dsql
