import Dsql.Regex.Parsing
import Dsql.Types.PatternAgreement

/-!
# What portable patterns mean

The regex crate compiles an accepted pattern by its own grammar, which repeats
anything, while the browser compiles it by the grammar of ECMAScript.  Both
find the same texts unless a quantifier is stacked.
-/

namespace Dsql

namespace Types

open Regex

/-- What the documentation of the regex crate says of patterns within the
modelled part of its syntax. -/
structure RegexCrate.Documented (crate : RegexCrate) : Prop where
  /-- A compiled pattern has a reading, and is searched for as it says. -/
  meaning : ∀ pattern tokens, Rust.dialect.read pattern = .ok tokens →
    crate.new pattern = .ok () →
      ∃ expression, StackingDerives .alternation tokens expression ∧
        ∀ text, crate.isMatch pattern text = true ↔
          expression.Searches text.toList
  syntaxError : ∀ pattern, Rust.dialect.read pattern = .error .malformed →
    crate.new pattern ≠ .ok ()

/-- The pattern compiles under the `u` flag. -/
def EcmaWellFormed (pattern : String) : Prop :=
  ∃ tokens expression, Ecma.dialect.read pattern = .ok tokens ∧
    EcmaDerives .disjunction tokens expression

/-- The compiled pattern finds something in the text. -/
def EcmaTest (pattern text : String) : Prop :=
  ∃ tokens expression, Ecma.dialect.read pattern = .ok tokens ∧
    EcmaDerives .disjunction tokens expression ∧ expression.Tests text.toList

/-- A pattern of both languages that stands for one set of texts. -/
structure IsPortable (crate : RegexCrate) (pattern : String) : Prop where
  wellFormed : EcmaWellFormed pattern
  sameTexts : ∀ text,
    crate.isMatch pattern text = true ↔ EcmaTest pattern text

/-- No quantifier of the pattern stands behind another one or behind an
assertion. -/
def PlainlyQuantified (pattern : String) : Prop :=
  ∀ tokens, Rust.dialect.read pattern = .ok tokens → Plain tokens

/-! ## A crate that compiles one pattern -/

/-- A crate that compiles one pattern only, and finds it in every text. -/
def onePatternCrate (pattern : String) : RegexCrate where
  new other := if other = pattern then .ok () else .error "unsupported"
  isMatch _ _ := true

theorem onePatternCrate_documented
    {pattern : String}
    {tokens : List Token}
    {expression : Expression}
    (hread : Rust.dialect.read pattern = .ok tokens)
    (hderives : StackingDerives .alternation tokens expression)
    (heverywhere : ∀ text, expression.Searches text) :
    (onePatternCrate pattern).Documented := by
  have honly : ∀ other, (onePatternCrate pattern).new other = .ok () →
      other = pattern := by
    intro other hnew
    by_contra hother
    have herror : (onePatternCrate pattern).new other = .error "unsupported" :=
      if_neg hother
    rw [herror] at hnew
    cases hnew
  refine ⟨?_, ?_⟩
  · intro other others hothers hnew
    obtain rfl := honly other hnew
    obtain rfl : tokens = others := Except.ok.inj (hread.symm.trans hothers)
    exact ⟨expression, hderives, fun text => ⟨fun _ => heverywhere _, fun _ => rfl⟩⟩
  · intro other hmalformed hnew
    obtain rfl := honly other hnew
    rw [hread] at hmalformed
    cases hmalformed

/-- A repetition from zero on is found in every text. -/
theorem searches_star
    {quantifier : Quantifier}
    (hminimum : quantifier.minimum = 0)
    (body : Expression)
    (text : List Char) :
    (Expression.concat (.repetition quantifier body) .empty).Searches text := by
  refine ⟨[], text, ([], text), rfl, ([], text), ⟨0, ⟨?_, ?_⟩, rfl⟩, rfl⟩
  · exact hminimum.le
  · exact fun maximum _ => Nat.zero_le maximum

/-- The quantifier of a star. -/
def star : Quantifier := ⟨0, none, false⟩

theorem star_ordered : star.Ordered := nofun

/-! ## The meaning of accepted patterns -/

section Meaning

variable {crate : RegexCrate} {pattern : String}

theorem validatePortablePattern_ok
    (h : validatePortablePattern crate pattern = .ok ()) :
    scan pattern.toList.length false pattern.toList = .ok () ∧
      crate.new pattern = .ok () := by
  unfold validatePortablePattern at h
  obtain ⟨⟨⟩, hscan, hnew⟩ := except_bind_ok h
  refine ⟨hscan, ?_⟩
  cases hcrate : crate.new pattern with
  | ok value => rfl
  | error message =>
      rw [hcrate] at hnew
      cases hnew

/-- Both dialects read an accepted pattern alike. -/
theorem read_of_accepted
    (hcrate : crate.Documented)
    (h : validatePortablePattern crate pattern = .ok ())
    (hclass : readsEmptyClass pattern = false) :
    ∃ tokens, Rust.dialect.read pattern = .ok tokens ∧
      Ecma.dialect.read pattern = .ok tokens := by
  obtain ⟨hscan, hnew⟩ := validatePortablePattern_ok h
  have hscans : Scans false pattern.toList := scans_of_scan _ hscan hclass
  rcases tokens_agree pattern.toList.length (Nat.le_refl _) hscans with
    hmalformed | hboth
  · exact absurd hnew (hcrate.syntaxError pattern hmalformed)
  · exact hboth

/-- A derivation of the ECMAScript grammar is the one of the crate. -/
theorem ecmaTest_iff
    {tokens : List Token}
    {expression : Expression}
    (hread : Ecma.dialect.read pattern = .ok tokens)
    (hderives : StackingDerives .alternation tokens expression)
    (hecma : EcmaDerives .disjunction tokens expression)
    (text : String) :
    EcmaTest pattern text ↔ expression.Searches text.toList := by
  constructor
  · rintro ⟨others, other, hothers, hother, htests⟩
    obtain rfl : tokens = others := Except.ok.inj (hread.symm.trans hothers)
    obtain rfl : expression = other :=
      hderives.unique (StackingDerives.of_ecma hother)
    exact (Expression.tests_iff hderives.ordered _).mp htests
  · intro hsearches
    exact ⟨tokens, expression, hread, hecma,
      (Expression.tests_iff hderives.ordered _).mpr hsearches⟩

/-- An accepted pattern without an empty class is portable exactly when its
quantifiers are not stacked. -/
theorem portable_pattern_meaning
    (hcrate : crate.Documented)
    (h : validatePortablePattern crate pattern = .ok ())
    (hclass : readsEmptyClass pattern = false) :
    IsPortable crate pattern ↔ PlainlyQuantified pattern := by
  obtain ⟨tokens, hrust, hecma⟩ := read_of_accepted hcrate h hclass
  have hnew := (validatePortablePattern_ok h).2
  obtain ⟨expression, hderives, hmatch⟩ :=
    hcrate.meaning pattern tokens hrust hnew
  constructor
  · rintro ⟨⟨others, other, hothers, hother⟩, -⟩ found hfound
    obtain rfl : tokens = found := Except.ok.inj (hrust.symm.trans hfound)
    obtain rfl : tokens = others := Except.ok.inj (hecma.symm.trans hothers)
    exact hother.wellPlaced.plain
  · intro hplain
    have hboth : EcmaDerives .disjunction tokens expression :=
      EcmaDerives.of_stacking hderives (hplain tokens hrust)
    refine ⟨⟨tokens, expression, hecma, hboth⟩, ?_⟩
    intro text
    rw [hmatch, ecmaTest_iff hecma hderives hboth]

end Meaning

/-- A star over a group with two branches. -/
theorem portable_pattern_meaning_group :
    validatePortablePattern (onePatternCrate "(?:a|[b-d])*")
        "(?:a|[b-d])*" = .ok () ∧
      IsPortable (onePatternCrate "(?:a|[b-d])*") "(?:a|[b-d])*" := by
  have hread : Rust.dialect.read "(?:a|[b-d])*" =
      .ok [.opening false, .literal 'a', .bar, .oneOf ⟨false, [('b', 'd')]⟩,
        .closing, .quantifier star] := by
    decide +kernel
  have hderives := StackingDerives.single (.cons
    (.repetition (.group false
      (.bar (.cons (.literal 'a') .nil)
        (.single (.cons (.oneOf ⟨false, [('b', 'd')]⟩) .nil)))) star_ordered)
    .nil)
  have hcrate : (onePatternCrate "(?:a|[b-d])*").Documented :=
    onePatternCrate_documented hread hderives (searches_star rfl _)
  have haccepted : validatePortablePattern (onePatternCrate "(?:a|[b-d])*")
      "(?:a|[b-d])*" = .ok () := by
    decide +kernel
  refine ⟨haccepted, ?_⟩
  refine (portable_pattern_meaning hcrate haccepted (by decide +kernel)).mpr ?_
  intro tokens htokens
  obtain rfl := Except.ok.inj (hread.symm.trans htokens)
  decide

/-- A star over a star is accepted, but is no pattern of ECMAScript. -/
theorem stacked_star_accepted :
    ¬ ∀ (crate : RegexCrate) (pattern : String),
        crate.Documented → validatePortablePattern crate pattern = .ok () →
          IsPortable crate pattern := by
  intro h
  have hread : Rust.dialect.read "a**" =
      .ok [.literal 'a', .quantifier star, .quantifier star] := by
    decide +kernel
  have hecma : Ecma.dialect.read "a**" =
      .ok [.literal 'a', .quantifier star, .quantifier star] := by
    decide +kernel
  have hderives := StackingDerives.single (.cons
    (.repetition (.repetition (.literal 'a') star_ordered) star_ordered) .nil)
  have hcrate : (onePatternCrate "a**").Documented :=
    onePatternCrate_documented hread hderives (searches_star rfl _)
  obtain ⟨tokens, expression, htokens, hother⟩ :=
    (h _ "a**" hcrate (by decide +kernel)).wellFormed
  obtain rfl := Except.ok.inj (hecma.symm.trans htokens)
  exact absurd hother.wellPlaced.plain (by decide)

-- The closing bracket is a member of the one class that Rust reads, and ends
-- the first of the two that ECMAScript reads.
example : Rust.dialect.read "[]+-[b]" =
    .ok [.oneOf ⟨false, [(']', ']'), ('+', '['), ('b', 'b')]⟩] := by
  decide +kernel

example : Ecma.dialect.read "[]+-[b]" =
    .ok [.oneOf ⟨false, []⟩, .quantifier ⟨1, none, false⟩, .literal '-',
      .oneOf ⟨false, [('b', 'b')]⟩] := by
  decide +kernel

end Types

end Dsql
