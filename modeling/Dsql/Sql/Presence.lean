import Dsql.Logic.Presence
import Dsql.Sql.Filter
import Dsql.Sql.Semantics

/-!
# Presence of lowered filters

The presence condition of a lowered filter is two-valued, so a lowered filter
denotes a guarded condition, and lowering takes the connectives of filters to
the neutral connectives of conditions that may be absent.
-/

namespace Dsql

open Logic

/-- The expressions that presence conditions are made of. -/
@[grind =]
def SqlExpr.isPresenceTest : SqlExpr → Bool
  | .isPresent _ => true
  | .literal (.bool _) => true
  | .binary left .and right | .binary left .or right =>
      isPresenceTest left && isPresenceTest right
  | _ => false

namespace ConditionalFilter

/-- A presence condition consists of presence tests. -/
def Decided (filter : ConditionalFilter) : Prop :=
  ∀ present ∈ filter.present, present.isPresenceTest = true

@[simp] theorem decided_always (value : SqlExpr) :
    (always value).Decided := by
  simp [Decided, always]

@[simp] theorem decided_absent : absent.Decided := by
  simp [Decided, absent, SqlExpr.isPresenceTest]

/-- Negation leaves the presence test as it is. -/
theorem Decided.negated
    {filter : ConditionalFilter}
    (h : filter.Decided) :
    filter.negated.Decided := h

/-- An optional condition tests presence alone. -/
theorem Decided.optional
    {filter : ConditionalFilter}
    (h : filter.Decided)
    (parameter : SqlParameter) :
    (filter.optional parameter).Decided := by
  intro present hpresent
  cases hinner : filter.present with
  | none =>
      simp only [ConditionalFilter.optional, hinner, Option.mem_def,
        Option.some.injEq] at hpresent
      subst hpresent
      rfl
  | some inner =>
      simp only [ConditionalFilter.optional, hinner, Option.mem_def,
        Option.some.injEq] at hpresent
      subst hpresent
      simp [SqlExpr.isPresenceTest, h inner hinner]

/-- Connectives test the presence of their sides. -/
theorem decided_eitherPresent
    {left right : ConditionalFilter}
    (hleft : left.Decided)
    (hright : right.Decided)
    (present : SqlExpr)
    (h : present ∈ left.eitherPresent right) :
    present.isPresenceTest = true := by
  unfold eitherPresent at h
  split at h
  · next leftPresent rightPresent hl hr =>
      simp only [Option.mem_def, Option.some.injEq] at h
      subst h
      simp [SqlExpr.isPresenceTest, hleft leftPresent hl,
        hright rightPresent hr]
  · simp at h

end ConditionalFilter

section Lowering

variable (catalog : Catalog)

/-- Lowering builds presence conditions from presence tests only. -/
theorem conditionalFilterExpr_decided
    (scope : FilterSqlScope)
    (depth : Nat)
    (filter : FilterExpr) :
    (conditionalFilterExpr catalog scope depth filter).Decided := by
  induction filter with
  | absent =>
      simp [conditionalFilterExpr]
  | optional parameter operand ih =>
      simpa [conditionalFilterExpr] using ih.optional parameter
  | binary left op right ihleft ihright =>
      cases op with
      | and =>
          intro present hpresent
          simp only [conditionalFilterExpr] at hpresent
          exact ConditionalFilter.decided_eitherPresent ihleft ihright
            present hpresent
      | or =>
          intro present hpresent
          simp only [conditionalFilterExpr] at hpresent
          exact ConditionalFilter.decided_eitherPresent ihleft ihright
            present hpresent
      | _ =>
          simp [conditionalFilterExpr]
  | not_ operand ih =>
      simpa [conditionalFilterExpr] using ih.negated
  | _ =>
      simp [conditionalFilterExpr]

end Lowering

namespace Session

variable {S : Type} [DecidableEq S] (session : Session S)

/-- Whether a presence condition holds. -/
def presence (env : Env S) (present : SqlExpr) : Bool :=
  (session.eval env present).truth == .tt

/-- A presence test is never unknown. -/
theorem truth_presenceTest
    (env : Env S)
    {present : SqlExpr}
    (h : present.isPresenceTest = true) :
    (session.eval env present).truth =
      .ofBool (session.presence env present) := by
  suffices hdecided : (session.eval env present).truth ≠ .unknown by
    unfold presence
    cases htruth : (session.eval env present).truth with
    | ff => rfl
    | unknown => exact absurd htruth hdecided
    | tt => rfl
  induction present with
  | isPresent parameter =>
      cases hpresent : session.inputs.isPresent parameter <;>
        simp [hpresent]
  | literal value =>
      cases value with
      | bool value =>
          cases value <;> simp [Engine.literal]
      | _ =>
          simp [SqlExpr.isPresenceTest] at h
  | binary left op right ihleft ihright =>
      cases op with
      | and =>
          simp only [SqlExpr.isPresenceTest, Bool.and_eq_true] at h
          have hleft := ihleft h.1
          have hright := ihright h.2
          rw [truth_and]
          cases hl : (session.eval env left).truth <;>
            cases hr : (session.eval env right).truth <;>
              simp_all [Truth.and]
      | or =>
          simp only [SqlExpr.isPresenceTest, Bool.and_eq_true] at h
          have hleft := ihleft h.1
          have hright := ihright h.2
          rw [truth_or]
          cases hl : (session.eval env left).truth <;>
            cases hr : (session.eval env right).truth <;>
              simp_all [Truth.or]
      | _ =>
          simp [SqlExpr.isPresenceTest] at h
  | _ =>
      simp [SqlExpr.isPresenceTest] at h

/-- The guarded condition a lowered filter denotes. -/
def guarded (env : Env S) (filter : ConditionalFilter) : Guarded :=
  { present := filter.present.map (session.presence env)
    value := (session.eval env filter.value).truth }

section Guarded

variable (env : Env S)

@[simp] theorem guarded_always (value : SqlExpr) :
    session.guarded env (.always value) =
      .always (session.eval env value).truth := rfl

@[simp] theorem read_guarded_absent :
    (session.guarded env .absent).read = none := by
  simp [guarded, ConditionalFilter.absent, presence, Guarded.read,
    Engine.literal]

@[simp] theorem guarded_negated (filter : ConditionalFilter) :
    session.guarded env filter.negated =
      (session.guarded env filter).not := by
  simp [guarded, ConditionalFilter.negated, Guarded.not]

/-- The presence of a parameter is that of its input. -/
theorem presence_isPresent (parameter : SqlParameter) :
    session.presence env (.isPresent parameter) =
      session.inputs.isPresent parameter := by
  cases hpresent : session.inputs.isPresent parameter <;>
    simp [presence, hpresent]

/-- Both sides have to be present. -/
theorem presence_and (left right : SqlExpr) :
    session.presence env (.binary left .and right) =
      (session.presence env left && session.presence env right) := by
  rw [Bool.eq_iff_iff]
  simp [presence]

/-- One side has to be present. -/
theorem presence_or (left right : SqlExpr) :
    session.presence env (.binary left .or right) =
      (session.presence env left || session.presence env right) := by
  rw [Bool.eq_iff_iff]
  simp [presence]

/-- An optional condition is present with its parameter. -/
theorem guarded_optional
    (filter : ConditionalFilter)
    (parameter : SqlParameter) :
    session.guarded env (filter.optional parameter) =
      .under (session.inputs.isPresent parameter)
        (session.guarded env filter) := by
  cases hpresent : filter.present with
  | none =>
      simp [guarded, ConditionalFilter.optional, Guarded.under, hpresent,
        presence_isPresent]
  | some present =>
      simp [guarded, ConditionalFilter.optional, Guarded.under, hpresent,
        presence_isPresent, presence_and]

/-- The expression of a lowered filter has the truth value of the filter. -/
theorem truth_filterExpr_guarded
    {filter : ConditionalFilter}
    (h : filter.Decided) :
    (session.eval env filter.filterExpr).truth =
      (session.guarded env filter).filter := by
  cases hpresent : filter.present with
  | none =>
      simp [ConditionalFilter.filterExpr, Guarded.filter, guarded, hpresent]
  | some present =>
      have htest := session.truth_presenceTest env (h present hpresent)
      simp [ConditionalFilter.filterExpr, ConditionalFilter.valueOrAbsent,
        Guarded.filter, Guarded.orAbsent, guarded, hpresent, htest]

/-- An absent alternative is false. -/
theorem truth_alternativeExpr_guarded
    {filter : ConditionalFilter}
    (h : filter.Decided) :
    (session.eval env filter.alternativeExpr).truth =
      (session.guarded env filter).alternative := by
  cases hpresent : filter.present with
  | none =>
      simp [ConditionalFilter.alternativeExpr, Guarded.alternative, guarded,
        hpresent]
  | some present =>
      have htest := session.truth_presenceTest env (h present hpresent)
      simp [ConditionalFilter.alternativeExpr,
        ConditionalFilter.valueIfPresent, Guarded.alternative,
        Guarded.ifPresent, guarded, hpresent, htest]

/-- A connective is present where one side is. -/
theorem eitherPresent_guarded (left right : ConditionalFilter) :
    (left.eitherPresent right).map (session.presence env) =
      Guarded.either (session.guarded env left).present
        (session.guarded env right).present := by
  cases hleft : left.present <;> cases hright : right.present <;>
    simp [ConditionalFilter.eitherPresent, Guarded.either, guarded, hleft,
      hright, presence_or]

/-- A conjunction leaves absent sides out. -/
theorem guarded_combineAnd
    {left right : ConditionalFilter}
    (hleft : left.Decided)
    (hright : right.Decided) :
    session.guarded env (left.combineAnd right) =
      (session.guarded env left).and (session.guarded env right) := by
  have hvalue :
      (session.eval env (left.combineAnd right).value).truth =
        (session.guarded env left).filter.and
          (session.guarded env right).filter := by
    rw [ConditionalFilter.combineAnd, truth_and,
      session.truth_filterExpr_guarded env hleft,
      session.truth_filterExpr_guarded env hright]
  have hpresent := session.eitherPresent_guarded env left right
  simp only [guarded, ConditionalFilter.combineAnd, Guarded.and] at *
  rw [hvalue, hpresent]

/-- A disjunction leaves absent sides out. -/
theorem guarded_combineOr
    {left right : ConditionalFilter}
    (hleft : left.Decided)
    (hright : right.Decided) :
    session.guarded env (left.combineOr right) =
      (session.guarded env left).or (session.guarded env right) := by
  have hvalue :
      (session.eval env (left.combineOr right).value).truth =
        (session.guarded env left).alternative.or
          (session.guarded env right).alternative := by
    rw [ConditionalFilter.combineOr, truth_or,
      session.truth_alternativeExpr_guarded env hleft,
      session.truth_alternativeExpr_guarded env hright]
  have hpresent := session.eitherPresent_guarded env left right
  simp only [guarded, ConditionalFilter.combineOr, Guarded.or] at *
  rw [hvalue, hpresent]

end Guarded

section Reading

variable
  (catalog : Catalog)
  (scope : FilterSqlScope)
  (depth : Nat)
  (env : Env S)

/-- The condition a filter denotes after lowering, absent where nullable
inputs remove it. -/
def reading (filter : FilterExpr) : Option Truth :=
  (session.guarded env
    (conditionalFilterExpr catalog scope depth filter)).read

/-- An absent filter reads as nothing. -/
@[simp] theorem reading_absent :
    session.reading catalog scope depth env .absent = none := by
  simp [reading, conditionalFilterExpr]

/-- An optional filter reads as nothing without its parameter. -/
@[simp] theorem reading_optional
    (parameter : SqlParameter)
    (operand : FilterExpr) :
    session.reading catalog scope depth env (.optional parameter operand) =
      if session.inputs.isPresent parameter then
        session.reading catalog scope depth env operand
      else
        none := by
  simp [reading, conditionalFilterExpr, guarded_optional]

/-- The negation of nothing is nothing. -/
@[simp] theorem reading_not (operand : FilterExpr) :
    session.reading catalog scope depth env (.not operand) =
      negPresent (session.reading catalog scope depth env operand) := by
  simp [reading, conditionalFilterExpr]

/-- A conjunction leaves absent sides out. -/
@[simp] theorem reading_and (left right : FilterExpr) :
    session.reading catalog scope depth env (.binary left .and right) =
      conjPresent (session.reading catalog scope depth env left)
        (session.reading catalog scope depth env right) := by
  simp [reading, conditionalFilterExpr,
    session.guarded_combineAnd env
      (conditionalFilterExpr_decided catalog scope depth left)
      (conditionalFilterExpr_decided catalog scope depth right)]

/-- A disjunction leaves absent sides out. -/
@[simp] theorem reading_or (left right : FilterExpr) :
    session.reading catalog scope depth env (.binary left .or right) =
      disjPresent (session.reading catalog scope depth env left)
        (session.reading catalog scope depth env right) := by
  simp [reading, conditionalFilterExpr,
    session.guarded_combineOr env
      (conditionalFilterExpr_decided catalog scope depth left)
      (conditionalFilterExpr_decided catalog scope depth right)]

/-- The lowered expression admits a row as its condition does. -/
theorem truth_filterExpr (filter : FilterExpr) :
    (session.eval env (filterExpr catalog scope depth filter)).truth =
      admitted (session.reading catalog scope depth env filter) := by
  unfold filterExpr reading
  rw [session.truth_filterExpr_guarded env
    (conditionalFilterExpr_decided catalog scope depth filter)]
  exact Guarded.filter_eq _

/-- A filter whose lowering is unconditional denotes its value. -/
theorem reading_of_always
    {filter : FilterExpr}
    {value : SqlExpr}
    (h : conditionalFilterExpr catalog scope depth filter = .always value) :
    session.reading catalog scope depth env filter =
      some (session.eval env value).truth := by
  simp [reading, h]

/-- The truth value that an optional filter adds to a `where`. -/
theorem evalAll_filterConditions (filter : Option FilterExpr) :
    session.evalAll env (filterConditions catalog scope depth filter) =
      admitted (filter.bind
        (session.reading catalog scope depth env)) := by
  cases filter with
  | none =>
      simp [filterConditions]
  | some filter =>
      have h := session.truth_filterExpr catalog scope depth env filter
      simpa [filterConditions, filterExpr] using h

end Reading

end Session

end Dsql
