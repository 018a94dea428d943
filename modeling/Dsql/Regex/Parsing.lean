import Dsql.Regex.Grammars

/-!
# Derivations are unique

A parser that goes through the tokens once, with a frame for every open group,
returns the expression of every derivation.  So tokens derive one expression at
most.
-/

namespace Dsql

namespace Regex

/-- A group whose closing token was not read yet. -/
structure Frame where
  captures : Bool
  /-- The branches before the last bar. -/
  branches : List Expression
  /-- The items behind the last bar. -/
  items : List Expression

def concatOf (items : List Expression) : Expression :=
  items.foldr .concat .empty

namespace Frame

def push (frame : Frame) (item : Expression) : Frame :=
  { frame with items := frame.items ++ [item] }

/-- The expression of the branches and the items behind them. -/
def close (frame : Frame) : Expression :=
  frame.branches.foldr .alternate (concatOf frame.items)

/-- A bar ends a branch. -/
def split (frame : Frame) : Frame :=
  { frame with
    branches := frame.branches ++ [concatOf frame.items]
    items := [] }

/-- A quantifier repeats the last item. -/
def repeatLast (frame : Frame) (quantifier : Quantifier) : Option Frame :=
  frame.items.getLast?.map fun item =>
    { frame with
      items := frame.items.dropLast ++ [.repetition quantifier item] }

theorem repeatLast_push
    (frame : Frame)
    (item : Expression)
    (quantifier : Quantifier) :
    (frame.push item).repeatLast quantifier =
      some (frame.push (.repetition quantifier item)) := by
  unfold repeatLast push
  simp only [List.getLast?_concat, List.dropLast_concat, Option.map_some]

end Frame

/-- The expression of tokens inside some open groups. -/
def parse : List Frame → Frame → List Token → Option Expression
  | [], frame, [] => some frame.close
  | _ :: _, _, [] => none
  | outer, frame, .literal char :: rest =>
      parse outer (frame.push (.literal char)) rest
  | outer, frame, .oneOf chars :: rest =>
      parse outer (frame.push (.oneOf chars)) rest
  | outer, frame, .assertion check :: rest =>
      parse outer (frame.push (.assertion check)) rest
  | outer, frame, .opening captures :: rest =>
      parse (frame :: outer) ⟨captures, [], []⟩ rest
  | [], _, .closing :: _ => none
  | above :: outer, frame, .closing :: rest =>
      parse outer (above.push (.group frame.captures frame.close)) rest
  | outer, frame, .bar :: rest => parse outer frame.split rest
  | outer, frame, .quantifier quantifier :: rest =>
      match frame.repeatLast quantifier with
      | none => none
      | some repeated => parse outer repeated rest

section Parse

variable (outer : List Frame) (frame : Frame) (rest : List Token)

theorem parse_literal (char : Char) :
    parse outer frame (.literal char :: rest) =
      parse outer (frame.push (.literal char)) rest := by
  cases outer <;> rfl

theorem parse_oneOf (chars : CharClass) :
    parse outer frame (.oneOf chars :: rest) =
      parse outer (frame.push (.oneOf chars)) rest := by
  cases outer <;> rfl

theorem parse_assertion (check : Assertion) :
    parse outer frame (.assertion check :: rest) =
      parse outer (frame.push (.assertion check)) rest := by
  cases outer <;> rfl

theorem parse_opening (captures : Bool) :
    parse outer frame (.opening captures :: rest) =
      parse (frame :: outer) ⟨captures, [], []⟩ rest := by
  cases outer <;> rfl

theorem parse_bar :
    parse outer frame (.bar :: rest) = parse outer frame.split rest := by
  cases outer <;> rfl

theorem parse_quantifier
    {frame repeated : Frame}
    {quantifier : Quantifier}
    (h : frame.repeatLast quantifier = some repeated) :
    parse outer frame (.quantifier quantifier :: rest) =
      parse outer repeated rest := by
  cases outer <;> simp only [parse, h]

end Parse

theorem concatOf_append_nil (item : Expression) (items : List Expression) :
    concatOf (item :: items) = .concat item (concatOf items) := rfl

/-- What the parser makes of the tokens of a derivation: one more item, more
items, or more branches and the items behind them. -/
def Absorbs :
    StackingLevel → List Token → Expression → Prop
  | .item, tokens, expression =>
      ∀ outer frame rest,
        parse outer frame (tokens ++ rest) =
          parse outer (frame.push expression) rest
  | .concatenation, tokens, expression =>
      ∃ items, expression = concatOf items ∧
        ∀ outer frame rest,
          parse outer frame (tokens ++ rest) =
            parse outer { frame with items := frame.items ++ items } rest
  | .alternation, tokens, expression =>
      ∃ branches items,
        expression = branches.foldr .alternate (concatOf items) ∧
        ∀ outer captures before rest,
          parse outer ⟨captures, before, []⟩ (tokens ++ rest) =
            parse outer ⟨captures, before ++ branches, items⟩ rest

theorem StackingDerives.absorbs
    {level : StackingLevel}
    {tokens : List Token}
    {expression : Expression}
    (h : StackingDerives level tokens expression) :
    Absorbs level tokens expression := by
  induction h with
  | single only ih =>
      obtain ⟨items, hitems, hparse⟩ := ih
      refine ⟨[], items, hitems, ?_⟩
      intro outer captures before rest
      rw [hparse, List.append_nil, List.nil_append]
  | bar left right ihleft ihright =>
      obtain ⟨first, hfirst, hleft⟩ := ihleft
      obtain ⟨branches, items, hsecond, hright⟩ := ihright
      refine ⟨concatOf first :: branches, items, ?_, ?_⟩
      · rw [hfirst, hsecond]
        rfl
      · intro outer captures before rest
        rw [List.append_assoc, hleft, List.nil_append, List.cons_append,
          parse_bar]
        show parse outer ⟨captures, before ++ [concatOf first], []⟩ _ = _
        rw [hright, List.append_assoc]
        rfl
  | nil =>
      refine ⟨[], rfl, ?_⟩
      intro outer frame rest
      rw [List.append_nil, List.nil_append]
  | @cons tokens others first second head tail ihhead ihtail =>
      obtain ⟨items, hitems, htail⟩ := ihtail
      refine ⟨first :: items, ?_, ?_⟩
      · rw [concatOf_append_nil, hitems]
      · intro outer frame rest
        rw [List.append_assoc, ihhead, htail]
        unfold Frame.push
        rw [List.append_assoc]
        rfl
  | literal char => exact fun outer frame rest => parse_literal outer frame rest char
  | oneOf chars => exact fun outer frame rest => parse_oneOf outer frame rest chars
  | assertion check =>
      exact fun outer frame rest => parse_assertion outer frame rest check
  | group captures inner ih =>
      obtain ⟨branches, items, hbody, hparse⟩ := ih
      intro outer frame rest
      rw [List.append_assoc, List.cons_append, parse_opening, hparse,
        List.nil_append, hbody]
      rfl
  | repetition inner ordered ih =>
      intro outer frame rest
      rw [List.append_assoc, ih, List.singleton_append]
      exact parse_quantifier outer rest (Frame.repeatLast_push frame _ _)

/-- Tokens derive one expression at most. -/
theorem StackingDerives.unique
    {tokens : List Token}
    {first second : Expression}
    (hfirst : StackingDerives .alternation tokens first)
    (hsecond : StackingDerives .alternation tokens second) :
    first = second := by
  have hparse : ∀ expression,
      StackingDerives .alternation tokens expression →
        parse [] ⟨false, [], []⟩ tokens = some expression := by
    intro expression h
    obtain ⟨branches, items, rfl, hrun⟩ := h.absorbs
    have hwhole := hrun [] false [] []
    rw [List.append_nil, List.nil_append] at hwhole
    exact hwhole
  have hsame := (hparse first hfirst).symm.trans (hparse second hsecond)
  exact Option.some.inj hsame

end Regex

end Dsql
