import Mathlib.Logic.Relation
import Mathlib.Tactic

/-!
# Regular expressions and what they match

One syntax of expressions with two meanings.  A repetition matches any number
of times within its bounds in the one; in the other it goes on as a
backtracking matcher does, which gives up on a further pass that reads nothing.
Without references to earlier matches both accept the same texts.
-/

namespace Dsql

namespace Regex

inductive Assertion where
  | start
  | finish
deriving DecidableEq, Repr

/-- The characters within or, when negated, outside some ranges. -/
structure CharClass where
  negated : Bool
  ranges : List (Char × Char)
deriving DecidableEq, Repr

def CharClass.contains (chars : CharClass) (char : Char) : Bool :=
  chars.ranges.any (fun range => range.1 ≤ char && char ≤ range.2) !=
    chars.negated

/-- How often something is repeated; a lazy quantifier tries fewer first. -/
structure Quantifier where
  minimum : Nat
  maximum : Option Nat
  isLazy : Bool
deriving DecidableEq, Repr

/-- The maximum of a quantifier is not below its minimum. -/
def Quantifier.Ordered (quantifier : Quantifier) : Prop :=
  ∀ maximum, quantifier.maximum = some maximum → quantifier.minimum ≤ maximum

def Quantifier.Allows (quantifier : Quantifier) (count : Nat) : Prop :=
  quantifier.minimum ≤ count ∧
    ∀ maximum, quantifier.maximum = some maximum → count ≤ maximum

inductive Expression where
  | empty
  | literal (char : Char)
  | oneOf (chars : CharClass)
  | assertion (assertion : Assertion)
  | group (captures : Bool) (body : Expression)
  | concat (first second : Expression)
  | alternate (first second : Expression)
  | repetition (quantifier : Quantifier) (body : Expression)
deriving DecidableEq, Repr

/-! ## Repeating a relation -/

section Repeating

variable {α : Type} {step : α → α → Prop}

/-- A number of steps, one after the other. -/
def Times (step : α → α → Prop) : Nat → α → α → Prop
  | 0 => Eq
  | count + 1 => Relation.Comp step (Times step count)

/-- Steps as a backtracking matcher takes them: no further step once the
maximum is reached, and none that stays in place once the minimum is. -/
inductive Backtracks (step : α → α → Prop) :
    Nat → Option Nat → α → α → Prop
  | stop (maximum : Option Nat) (place : α) :
      Backtracks step 0 maximum place place
  | full (minimum : Nat) (place : α) :
      Backtracks step minimum (some 0) place place
  | again
      {minimum : Nat}
      {maximum : Option Nat}
      {place next final : α}
      (below : maximum ≠ some 0)
      (taken : step place next)
      (moved : minimum = 0 → next ≠ place)
      (rest : Backtracks step (minimum - 1) (maximum.map (· - 1)) next final) :
      Backtracks step minimum maximum place final

/-- A step that stays in place is not needed beyond the minimum. -/
theorem backtracks_of_times
    (count : Nat)
    {minimum : Nat}
    {maximum : Option Nat}
    {place final : α}
    (hminimum : minimum ≤ count)
    (hmaximum : ∀ bound, maximum = some bound → count ≤ bound)
    (h : Times step count place final) :
    Backtracks step minimum maximum place final := by
  induction count generalizing minimum maximum place with
  | zero =>
      obtain rfl : place = final := h
      rw [Nat.le_zero.mp hminimum]
      exact .stop maximum place
  | succ count ih =>
      obtain ⟨next, hstep, hrest⟩ := h
      by_cases hstay : minimum = 0 ∧ next = place
      · obtain ⟨rfl, rfl⟩ := hstay
        exact ih (Nat.zero_le count)
          (fun bound hbound => Nat.le_of_succ_le (hmaximum bound hbound)) hrest
      · refine .again ?_ hstep (fun hzero hsame => hstay ⟨hzero, hsame⟩) ?_
        · intro hzero
          exact absurd (hmaximum 0 hzero) (Nat.not_succ_le_zero count)
        · refine ih (by omega) ?_ hrest
          intro bound hbound
          obtain ⟨whole, hwhole, rfl⟩ := Option.map_eq_some_iff.mp hbound
          have hbelow := hmaximum whole hwhole
          omega

theorem times_of_backtracks
    {minimum : Nat}
    {maximum : Option Nat}
    {place final : α}
    (hordered : ∀ bound, maximum = some bound → minimum ≤ bound)
    (h : Backtracks step minimum maximum place final) :
    ∃ count, minimum ≤ count ∧
      (∀ bound, maximum = some bound → count ≤ bound) ∧
      Times step count place final := by
  induction h with
  | stop maximum place =>
      exact ⟨0, Nat.le_refl 0, fun _ _ => Nat.zero_le _, rfl⟩
  | full minimum place =>
      exact ⟨0, hordered 0 rfl, fun _ _ => Nat.zero_le _, rfl⟩
  | @again minimum maximum place next final hbelow hstep hmoved hrest ih =>
      obtain ⟨count, hminimum, hmaximum, htimes⟩ := ih (by
        intro bound hbound
        obtain ⟨whole, hwhole, rfl⟩ := Option.map_eq_some_iff.mp hbound
        have hwithin := hordered whole hwhole
        omega)
      refine ⟨count + 1, by omega, ?_, next, hstep, htimes⟩
      intro bound hbound
      have hwithin := hmaximum (bound - 1) (by rw [hbound]; rfl)
      have hpositive : bound ≠ 0 := by
        rintro rfl
        exact hbelow hbound
      omega

end Repeating

/-! ## Matching -/

/-- What was read and what is left of a text. -/
abbrev Position : Type := List Char × List Char

/-- One character that passes a test is read. -/
def Reads (test : Char → Prop) (place next : Position) : Prop :=
  ∃ char rest, test char ∧ place.2 = char :: rest ∧
    next = (place.1 ++ [char], rest)

def Assertion.Holds : Assertion → Position → Prop
  | .start, place => place.1 = []
  | .finish, place => place.2 = []

namespace Expression

/-- A repetition matches any allowed number of times. -/
def Matches : Expression → Position → Position → Prop
  | .empty => Eq
  | .literal char => Reads (· = char)
  | .oneOf chars => Reads (fun char => chars.contains char = true)
  | .assertion check => fun place next =>
      check.Holds place ∧ next = place
  | .group _ body => body.Matches
  | .concat first second => Relation.Comp first.Matches second.Matches
  | .alternate first second => fun place next =>
      first.Matches place next ∨ second.Matches place next
  | .repetition quantifier body => fun place next =>
      ∃ count, quantifier.Allows count ∧ Times body.Matches count place next

/-- A repetition matches as a backtracking matcher goes through it. -/
def BacktracksTo : Expression → Position → Position → Prop
  | .empty => Eq
  | .literal char => Reads (· = char)
  | .oneOf chars => Reads (fun char => chars.contains char = true)
  | .assertion check => fun place next =>
      check.Holds place ∧ next = place
  | .group _ body => body.BacktracksTo
  | .concat first second => Relation.Comp first.BacktracksTo second.BacktracksTo
  | .alternate first second => fun place next =>
      first.BacktracksTo place next ∨ second.BacktracksTo place next
  | .repetition quantifier body =>
      Backtracks body.BacktracksTo quantifier.minimum quantifier.maximum

/-- The quantifiers of an expression are ordered. -/
def Ordered : Expression → Prop
  | .group _ body => body.Ordered
  | .concat first second | .alternate first second =>
      first.Ordered ∧ second.Ordered
  | .repetition quantifier body => quantifier.Ordered ∧ body.Ordered
  | .empty | .literal _ | .oneOf _ | .assertion _ => True

/-- Both meanings agree, constructor by constructor. -/
theorem backtracksTo_eq
    (expression : Expression)
    (h : expression.Ordered) :
    expression.BacktracksTo = expression.Matches := by
  induction expression with
  | empty | literal | oneOf | assertion => rfl
  | group captures body ih => exact ih h
  | concat first second ihfirst ihsecond =>
      unfold BacktracksTo Matches
      rw [ihfirst h.1, ihsecond h.2]
  | alternate first second ihfirst ihsecond =>
      unfold BacktracksTo Matches
      rw [ihfirst h.1, ihsecond h.2]
  | repetition quantifier body ih =>
      unfold BacktracksTo Matches
      rw [ih h.2]
      funext place final
      refine propext ⟨?_, ?_⟩
      · intro hback
        obtain ⟨count, hminimum, hmaximum, htimes⟩ :=
          times_of_backtracks h.1 hback
        exact ⟨count, ⟨hminimum, hmaximum⟩, htimes⟩
      · rintro ⟨count, ⟨hminimum, hmaximum⟩, htimes⟩
        exact backtracks_of_times count hminimum hmaximum htimes

/-- Some part of a text is matched where it stands. -/
def Searches (expression : Expression) (text : List Char) : Prop :=
  ∃ before after final, text = before ++ after ∧
    expression.Matches (before, after) final

/-- A backtracking matcher finds some part of a text. -/
def Tests (expression : Expression) (text : List Char) : Prop :=
  ∃ before after final, text = before ++ after ∧
    expression.BacktracksTo (before, after) final

theorem tests_iff
    {expression : Expression}
    (h : expression.Ordered)
    (text : List Char) :
    expression.Tests text ↔ expression.Searches text := by
  unfold Tests Searches
  rw [backtracksTo_eq expression h]

end Expression

end Regex

end Dsql
