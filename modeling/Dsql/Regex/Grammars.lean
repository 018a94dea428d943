import Dsql.Regex.Expressions
import Mathlib.Data.List.Chain

/-!
# Two grammars of expressions

One grammar repeats any item, a repetition or an assertion included; the other
puts at most one quantifier behind an atom.  They derive the same expressions
from the same tokens as long as no quantifier follows another one or an
assertion, and the second grammar derives nothing else.
-/

namespace Dsql

namespace Regex

inductive Token where
  | literal (char : Char)
  | oneOf (chars : CharClass)
  | assertion (check : Assertion)
  | opening (captures : Bool)
  | closing
  | bar
  | quantifier (quantifier : Quantifier)
deriving DecidableEq, Repr

def Token.isQuantifier : Token → Bool
  | .quantifier _ => true
  | _ => false

def Token.isAssertion : Token → Bool
  | .assertion _ => true
  | _ => false

/-- A quantifier directly behind another one or behind an assertion. -/
def isStacked (first next : Token) : Bool :=
  next.isQuantifier && (first.isQuantifier || first.isAssertion)

/-- No quantifier follows another one or an assertion. -/
def Plain (tokens : List Token) : Prop :=
  tokens.IsChain (fun first next => isStacked first next = false)

instance (tokens : List Token) : Decidable (Plain tokens) :=
  inferInstanceAs (Decidable (tokens.IsChain _))

inductive StackingLevel where
  | alternation
  | concatenation
  | item

/-- The grammar in which anything can be repeated. -/
inductive StackingDerives : StackingLevel → List Token → Expression → Prop
  | single
      {tokens : List Token}
      {expression : Expression}
      (only : StackingDerives .concatenation tokens expression) :
      StackingDerives .alternation tokens expression
  | bar
      {tokens others : List Token}
      {first second : Expression}
      (left : StackingDerives .concatenation tokens first)
      (right : StackingDerives .alternation others second) :
      StackingDerives .alternation (tokens ++ .bar :: others)
        (.alternate first second)
  | nil : StackingDerives .concatenation [] .empty
  | cons
      {tokens others : List Token}
      {first second : Expression}
      (head : StackingDerives .item tokens first)
      (tail : StackingDerives .concatenation others second) :
      StackingDerives .concatenation (tokens ++ others) (.concat first second)
  | literal (char : Char) :
      StackingDerives .item [.literal char] (.literal char)
  | oneOf (chars : CharClass) :
      StackingDerives .item [.oneOf chars] (.oneOf chars)
  | assertion (check : Assertion) :
      StackingDerives .item [.assertion check] (.assertion check)
  | group
      {tokens : List Token}
      {body : Expression}
      (captures : Bool)
      (inner : StackingDerives .alternation tokens body) :
      StackingDerives .item (.opening captures :: tokens ++ [.closing])
        (.group captures body)
  | repetition
      {tokens : List Token}
      {body : Expression}
      {quantifier : Quantifier}
      (inner : StackingDerives .item tokens body)
      (ordered : quantifier.Ordered) :
      StackingDerives .item (tokens ++ [.quantifier quantifier])
        (.repetition quantifier body)

inductive EcmaLevel where
  | disjunction
  | alternative
  | term
  | atom

/-- The grammar of ECMAScript in its Unicode mode. -/
inductive EcmaDerives : EcmaLevel → List Token → Expression → Prop
  | single
      {tokens : List Token}
      {expression : Expression}
      (only : EcmaDerives .alternative tokens expression) :
      EcmaDerives .disjunction tokens expression
  | bar
      {tokens others : List Token}
      {first second : Expression}
      (left : EcmaDerives .alternative tokens first)
      (right : EcmaDerives .disjunction others second) :
      EcmaDerives .disjunction (tokens ++ .bar :: others)
        (.alternate first second)
  | nil : EcmaDerives .alternative [] .empty
  | cons
      {tokens others : List Token}
      {first second : Expression}
      (head : EcmaDerives .term tokens first)
      (tail : EcmaDerives .alternative others second) :
      EcmaDerives .alternative (tokens ++ others) (.concat first second)
  | assertion (check : Assertion) :
      EcmaDerives .term [.assertion check] (.assertion check)
  | bare
      {tokens : List Token}
      {expression : Expression}
      (only : EcmaDerives .atom tokens expression) :
      EcmaDerives .term tokens expression
  | quantified
      {tokens : List Token}
      {body : Expression}
      {quantifier : Quantifier}
      (inner : EcmaDerives .atom tokens body)
      (ordered : quantifier.Ordered) :
      EcmaDerives .term (tokens ++ [.quantifier quantifier])
        (.repetition quantifier body)
  | literal (char : Char) :
      EcmaDerives .atom [.literal char] (.literal char)
  | oneOf (chars : CharClass) :
      EcmaDerives .atom [.oneOf chars] (.oneOf chars)
  | group
      {tokens : List Token}
      {body : Expression}
      (captures : Bool)
      (inner : EcmaDerives .disjunction tokens body) :
      EcmaDerives .atom (.opening captures :: tokens ++ [.closing])
        (.group captures body)

def StackingLevel.toEcma : StackingLevel → EcmaLevel
  | .alternation => .disjunction
  | .concatenation => .alternative
  | .item => .term

def EcmaLevel.toStacking : EcmaLevel → StackingLevel
  | .disjunction => .alternation
  | .alternative => .concatenation
  | .term | .atom => .item

section Derivations

variable {tokens : List Token} {expression : Expression}

theorem StackingDerives.ordered
    {level : StackingLevel}
    (h : StackingDerives level tokens expression) : expression.Ordered := by
  induction h with
  | single only ih => exact ih
  | bar left right ihleft ihright => exact ⟨ihleft, ihright⟩
  | nil => trivial
  | cons head tail ihhead ihtail => exact ⟨ihhead, ihtail⟩
  | literal char => trivial
  | oneOf chars => trivial
  | assertion check => trivial
  | group captures inner ih => exact ih
  | repetition inner ordered ih => exact ⟨ordered, ih⟩

theorem not_isStacked_of_not_quantifier
    {first next : Token}
    (h : next.isQuantifier = false) : isStacked first next = false := by
  unfold isStacked
  rw [h, Bool.false_and]

/-- A quantifier at the end of plain tokens follows neither a quantifier nor
an assertion. -/
theorem last_of_plain
    {last : Token}
    {quantifier : Quantifier}
    (h : Plain (tokens ++ [.quantifier quantifier]))
    (hlast : tokens.getLast? = some last) :
    last.isQuantifier = false ∧ last.isAssertion = false := by
  have hjunction := (List.isChain_append.mp h).2.2 last hlast
    (.quantifier quantifier) rfl
  unfold isStacked at hjunction
  rw [Bool.and_eq_false_iff, Bool.or_eq_false_iff] at hjunction
  exact hjunction.resolve_left (by simp [Token.isQuantifier])

/-- Without stacked quantifiers the second grammar derives what the first
does. -/
theorem EcmaDerives.of_stacking
    {level : StackingLevel}
    (h : StackingDerives level tokens expression)
    (hplain : Plain tokens) :
    EcmaDerives level.toEcma tokens expression := by
  induction h with
  | single only ih => exact .single (ih hplain)
  | bar left right ihleft ihright =>
      obtain ⟨hleft, hright, -⟩ := List.isChain_append.mp hplain
      exact .bar (ihleft hleft) (ihright hright.tail)
  | nil => exact .nil
  | cons head tail ihhead ihtail =>
      obtain ⟨hhead, htail, -⟩ := List.isChain_append.mp hplain
      exact .cons (ihhead hhead) (ihtail htail)
  | literal char => exact .bare (.literal char)
  | oneOf chars => exact .bare (.oneOf chars)
  | assertion check => exact .assertion check
  | group captures inner ih =>
      have hinner := (List.isChain_append.mp hplain).1
      exact .bare (.group captures (ih hinner.tail))
  | repetition inner ordered ih =>
      have hinner : EcmaDerives .term _ _ :=
        ih (List.isChain_append.mp hplain).1
      -- only an atom can stand in front of the quantifier
      cases hinner with
      | bare only => exact .quantified only ordered
      | assertion check => cases (last_of_plain hplain rfl).2
      | quantified atom other =>
          cases (last_of_plain hplain List.getLast?_concat).1

/-- The first grammar derives whatever the second one does. -/
theorem StackingDerives.of_ecma
    {level : EcmaLevel}
    (h : EcmaDerives level tokens expression) :
    StackingDerives level.toStacking tokens expression := by
  induction h with
  | single only ih => exact .single ih
  | bar left right ihleft ihright => exact .bar ihleft ihright
  | nil => exact .nil
  | cons head tail ihhead ihtail => exact .cons ihhead ihtail
  | assertion check => exact .assertion check
  | bare only ih => exact ih
  | quantified inner ordered ih => exact .repetition ih ordered
  | literal char => exact .literal char
  | oneOf chars => exact .oneOf chars
  | group captures inner ih => exact .group captures ih

/-- Tokens that start with no quantifier, and end with neither a quantifier
nor an assertion where another quantifier may follow. -/
structure WellPlaced (level : EcmaLevel) (tokens : List Token) : Prop where
  plain : Plain tokens
  head : ∀ first, tokens.head? = some first → first.isQuantifier = false
  last : level = .atom → ∀ last, tokens.getLast? = some last →
    last.isQuantifier = false ∧ last.isAssertion = false

theorem Plain.append
    {others : List Token}
    (h : Plain tokens)
    (hothers : Plain others)
    (hhead : ∀ first, others.head? = some first →
      first.isQuantifier = false) : Plain (tokens ++ others) := by
  refine List.isChain_append.mpr ⟨h, hothers, ?_⟩
  intro last _ first hfirst
  exact not_isStacked_of_not_quantifier (hhead first hfirst)

theorem head_append
    {others : List Token}
    (h : ∀ first, tokens.head? = some first → first.isQuantifier = false)
    (hothers : ∀ first, others.head? = some first →
      first.isQuantifier = false)
    (first : Token)
    (hfirst : (tokens ++ others).head? = some first) :
    first.isQuantifier = false := by
  cases tokens with
  | nil => exact hothers first hfirst
  | cons token tokens => exact h first hfirst

/-- What the second grammar derives has no stacked quantifiers. -/
theorem EcmaDerives.wellPlaced
    {level : EcmaLevel}
    (h : EcmaDerives level tokens expression) :
    WellPlaced level tokens := by
  induction h with
  | single only ih => exact ⟨ih.plain, ih.head, nofun⟩
  | @bar tokens others first second left right ihleft ihright =>
      have hbar : Plain (.bar :: others) :=
        Plain.append (List.isChain_singleton _) ihright.plain ihright.head
      have hhead : ∀ first, (Token.bar :: others).head? = some first →
          first.isQuantifier = false := by
        intro first hfirst
        cases hfirst
        rfl
      exact ⟨ihleft.plain.append hbar hhead, head_append ihleft.head hhead,
        nofun⟩
  | nil => exact ⟨List.isChain_nil, nofun, nofun⟩
  | cons head tail ihhead ihtail =>
      exact ⟨ihhead.plain.append ihtail.plain ihtail.head,
        head_append ihhead.head ihtail.head, nofun⟩
  | assertion check =>
      refine ⟨List.isChain_singleton _, ?_, nofun⟩
      intro first hfirst
      cases hfirst
      rfl
  | bare only ih => exact ⟨ih.plain, ih.head, nofun⟩
  | @quantified tokens body quantifier inner ordered ih =>
      refine ⟨List.isChain_append.mpr ⟨ih.plain, List.isChain_singleton _, ?_⟩,
        ?_, nofun⟩
      · intro last hlast first hfirst
        obtain ⟨hquantifier, hassertion⟩ := ih.last rfl last hlast
        unfold isStacked
        rw [hquantifier, hassertion, Bool.or_false, Bool.and_false]
      · intro first hfirst
        cases htokens : tokens with
        | nil =>
            rw [htokens] at inner
            cases inner
        | cons token rest =>
            rw [htokens] at hfirst
            exact ih.head first (by rw [htokens]; exact hfirst)
  | literal char =>
      refine ⟨List.isChain_singleton _, ?_, ?_⟩
      · intro first hfirst
        cases hfirst
        rfl
      · rintro - last hlast
        cases hlast
        exact ⟨rfl, rfl⟩
  | oneOf chars =>
      refine ⟨List.isChain_singleton _, ?_, ?_⟩
      · intro first hfirst
        cases hfirst
        rfl
      · rintro - last hlast
        cases hlast
        exact ⟨rfl, rfl⟩
  | @group tokens body captures inner ih =>
      have hclosing : ∀ first, [Token.closing].head? = some first →
          first.isQuantifier = false := by
        intro first hfirst
        cases hfirst
        rfl
      have hopening : Plain (.opening captures :: tokens) :=
        Plain.append (List.isChain_singleton _) ih.plain ih.head
      refine ⟨hopening.append (List.isChain_singleton _) hclosing, ?_, ?_⟩
      · intro first hfirst
        cases hfirst
        rfl
      · rintro - last hlast
        rw [List.getLast?_concat] at hlast
        cases hlast
        exact ⟨rfl, rfl⟩

end Derivations

end Regex

end Dsql
