import Dsql.Regex.Grammars

/-!
# The texts of two dialects

How a pattern text is cut into tokens by the Rust regex syntax and by the
ECMAScript one in its Unicode mode.  Constructs that exist in a dialect but are
not modelled are told apart from texts that the dialect rejects.
-/

namespace Dsql

namespace Regex

inductive Refusal where
  /-- The dialect rejects the text. -/
  | malformed
  /-- A construct of the dialect that is left out here. -/
  | beyond
deriving DecidableEq, Repr

/-- What is read of a text, with the rest of it. -/
abbrev Reading (α : Type) : Type := Except Refusal (α × List Char)

/-! ## Numbers -/

def hexDigit (char : Char) : Option Nat :=
  if '0' ≤ char && char ≤ '9' then
    some (char.toNat - '0'.toNat)
  else if 'a' ≤ char && char ≤ 'f' then
    some (char.toNat - 'a'.toNat + 10)
  else if 'A' ≤ char && char ≤ 'F' then
    some (char.toNat - 'A'.toNat + 10)
  else
    none

def hexValue (digits : List Char) : Nat :=
  digits.foldl (fun value digit => 16 * value + (hexDigit digit).getD 0) 0

def isDecimal (char : Char) : Bool :=
  '0' ≤ char && char ≤ '9'

def decimalValue (digits : List Char) : Nat :=
  digits.foldl (fun value digit => 10 * value + (digit.toNat - '0'.toNat)) 0

/-- Exactly `count` hexadecimal digits name a character; `other` is said of
values that are no character. -/
def hexEscape (other : Refusal) (count : Nat) (chars : List Char) :
    Reading Char :=
  if chars.head? = some '\x7b' then
    .error .beyond
  else if count ≤ chars.length &&
      (chars.take count).all (fun char => (hexDigit char).isSome) then
    if (hexValue (chars.take count)).isValidChar then
      .ok (Char.ofNat (hexValue (chars.take count)), chars.drop count)
    else
      .error other
  else
    .error .malformed

/-! ## Dialects -/

/-- The parts of the token syntax in which dialects differ. -/
structure Dialect where
  /-- What follows a backslash, inside or outside a class. -/
  escape : (inClass : Bool) → List Char → Reading Char
  /-- What follows the opening bracket of a class. -/
  charClass : List Char → Reading CharClass
  /-- The repetition counts that can be written. -/
  isCount : Nat → Bool
  /-- Whether brackets without a partner stand for themselves. -/
  isLiteral : Char → Bool

namespace Dialect

/-- The counts of a quantifier after its opening brace. -/
def counts (dialect : Dialect) (chars : List Char) :
    Reading (Nat × Option Nat) :=
  let digits := chars.takeWhile isDecimal
  let rest := chars.dropWhile isDecimal
  let minimum := decimalValue digits
  if digits.isEmpty then
    .error .beyond
  else if !dialect.isCount minimum then
    .error .malformed
  else if rest.head? = some '\x7d' then
    .ok ((minimum, some minimum), rest.tail)
  else if rest.head? = some ',' then
    let others := rest.tail.takeWhile isDecimal
    let rest := rest.tail.dropWhile isDecimal
    let maximum := decimalValue others
    if rest.head? ≠ some '\x7d' then
      .error .beyond
    else if others.isEmpty then
      .ok ((minimum, none), rest.tail)
    else if dialect.isCount maximum && minimum ≤ maximum then
      .ok ((minimum, some maximum), rest.tail)
    else
      .error .malformed
  else
    .error .beyond

/-- A question mark after the counts makes a quantifier lazy. -/
def quantifier (counts : Nat × Option Nat) (rest : List Char) :
    Token × List Char :=
  if rest.head? = some '?' then
    (.quantifier ⟨counts.1, counts.2, true⟩, rest.tail)
  else
    (.quantifier ⟨counts.1, counts.2, false⟩, rest)

/-- A group that captures, or one that does not. -/
def opening (rest : List Char) : Reading Token :=
  if rest.head? = some '?' then
    if rest.tail.head? = some ':' then
      .ok (.opening false, rest.tail.tail)
    else
      .error .beyond
  else
    .ok (.opening true, rest)

/-- The token that starts with a character. -/
def token (dialect : Dialect) (char : Char) (rest : List Char) :
    Except Refusal (Token × List Char) :=
  if char = '\\' then do
    let (char, rest) ← dialect.escape false rest
    .ok (.literal char, rest)
  else if char = '[' then do
    let (chars, rest) ← dialect.charClass rest
    .ok (.oneOf chars, rest)
  else if char = '(' then
    opening rest
  else if char = ')' then
    .ok (.closing, rest)
  else if char = '|' then
    .ok (.bar, rest)
  else if char = '^' then
    .ok (.assertion .start, rest)
  else if char = '$' then
    .ok (.assertion .finish, rest)
  else if char = '.' then
    .error .beyond
  else if char = '*' then
    .ok (quantifier (0, none) rest)
  else if char = '+' then
    .ok (quantifier (1, none) rest)
  else if char = '?' then
    .ok (quantifier (0, some 1) rest)
  else if char = '\x7b' then do
    let (counts, rest) ← dialect.counts rest
    .ok (quantifier counts rest)
  else if dialect.isLiteral char then
    .ok (.literal char, rest)
  else
    .error .malformed

/-- The tokens of a text; every token takes a character at least, so the
length of the text is fuel enough. -/
def tokens (dialect : Dialect) :
    Nat → List Char → Except Refusal (List Token)
  | _, [] => .ok []
  | 0, _ :: _ => .error .beyond
  | fuel + 1, char :: rest => do
      let (token, rest) ← dialect.token char rest
      let tokens ← dialect.tokens fuel rest
      .ok (token :: tokens)

def read (dialect : Dialect) (pattern : String) :
    Except Refusal (List Token) :=
  dialect.tokens pattern.toList.length pattern.toList

end Dialect

/-- A class may start with a caret that negates it. -/
def negation (chars : List Char) : Bool × List Char :=
  if chars.head? = some '^' then (true, chars.tail) else (false, chars)

/-! ## The Rust regex syntax -/

namespace Rust

/-- The characters that a backslash turns into themselves. -/
def isEscapable (char : Char) : Bool :=
  "\\.+*?()|[]\x7b\x7d^$#&-~/".toList.contains char

def escape (chars : List Char) : Reading Char :=
  match chars with
  | [] => .error .malformed
  | char :: rest =>
      if char = 'n' then
        .ok ('\n', rest)
      else if char = 'r' then
        .ok ('\r', rest)
      else if char = 't' then
        .ok ('\t', rest)
      else if char = 'x' then
        hexEscape .malformed 2 rest
      else if char = 'u' then
        hexEscape .malformed 4 rest
      else if isEscapable char then
        .ok (char, rest)
      else
        .error .beyond

/-- One member of a class, or an end of a range. -/
def member (chars : List Char) : Reading Char :=
  match chars with
  | [] => .error .malformed
  | char :: rest => if char = '\\' then escape rest else .ok (char, rest)

/-- A dash makes a range unless the class or a difference follows it. -/
def opensRange (chars : List Char) : Bool :=
  chars.head? = some '-' && chars.tail.head? ≠ some ']' &&
    chars.tail.head? ≠ some '-'

def range (chars : List Char) :
    Except Refusal ((Char × Char) × List Char) := do
  let (first, rest) ← member chars
  if opensRange rest then
    let (last, rest) ← member rest.tail
    if first ≤ last then
      .ok ((first, last), rest)
    else
      .error .malformed
  else
    .ok ((first, first), rest)

/-- Two equal characters that combine two classes. -/
def opensOperation (chars : List Char) : Bool :=
  chars.head? = chars.tail.head? &&
    (chars.head? = some '&' || chars.head? = some '-' ||
      chars.head? = some '~')

/-- The members of a class up to its closing bracket. -/
def ranges :
    Nat → List Char → Except Refusal (List (Char × Char) × List Char)
  | _, [] => .error .malformed
  | 0, _ :: _ => .error .beyond
  | fuel + 1, char :: rest =>
      if char = ']' then
        .ok ([], rest)
      else if char = '[' || opensOperation (char :: rest) then
        .error .beyond
      else do
        let (first, rest) ← range (char :: rest)
        let (others, rest) ← ranges fuel rest
        .ok (first :: others, rest)

/-- Dashes at the start of a class are members of it, and so is a closing
bracket that comes first. -/
def leading (chars : List Char) : List Char × List Char :=
  if chars.head? = some ']' then
    ([']'], chars.tail)
  else
    (chars.takeWhile (· = '-'), chars.dropWhile (· = '-'))

def charClass (chars : List Char) :
    Except Refusal (CharClass × List Char) := do
  let (negated, rest) := negation chars
  let (members, rest) := leading rest
  let (ranges, rest) ← ranges rest.length rest
  .ok (⟨negated, members.map (fun char => (char, char)) ++ ranges⟩, rest)

/-- Counts are 32-bit numbers, and a closing bracket or brace without a
partner stands for itself. -/
def dialect : Dialect where
  escape := fun _ => escape
  charClass := charClass
  isCount count := count < 2 ^ 32
  isLiteral _ := true

end Rust

/-! ## The ECMAScript syntax -/

namespace Ecma

def isSyntaxCharacter (char : Char) : Bool :=
  "^$\\.*+?()[]\x7b\x7d|".toList.contains char

/-- The other escapes of the Unicode mode. -/
def isOtherEscape (char : Char) : Bool :=
  "dDwWsSbBpPkcfv0123456789".toList.contains char

/-- Outside of classes a dash cannot be escaped. -/
def escape (inClass : Bool) (chars : List Char) : Reading Char :=
  match chars with
  | [] => .error .malformed
  | char :: rest =>
      if char = 'n' then
        .ok ('\n', rest)
      else if char = 'r' then
        .ok ('\r', rest)
      else if char = 't' then
        .ok ('\t', rest)
      else if char = 'x' then
        hexEscape .beyond 2 rest
      else if char = 'u' then
        hexEscape .beyond 4 rest
      else if isSyntaxCharacter char || char = '/' ||
          (inClass && char = '-') then
        .ok (char, rest)
      else if isOtherEscape char then
        .error .beyond
      else
        .error .malformed

def classAtom (chars : List Char) : Reading Char :=
  match chars with
  | [] => .error .malformed
  | char :: rest => if char = '\\' then escape true rest else .ok (char, rest)

/-- A dash makes a range unless it ends the class. -/
def opensRange (chars : List Char) : Bool :=
  chars.head? = some '-' && chars.tail.head? ≠ some ']'

def range (chars : List Char) :
    Except Refusal ((Char × Char) × List Char) := do
  let (first, rest) ← classAtom chars
  if opensRange rest then
    let (last, rest) ← classAtom rest.tail
    if first ≤ last then
      .ok ((first, last), rest)
    else
      .error .malformed
  else
    .ok ((first, first), rest)

/-- The ranges of a class up to the first closing bracket. -/
def ranges :
    Nat → List Char → Except Refusal (List (Char × Char) × List Char)
  | _, [] => .error .malformed
  | 0, _ :: _ => .error .beyond
  | fuel + 1, char :: rest =>
      if char = ']' then
        .ok ([], rest)
      else do
        let (first, rest) ← range (char :: rest)
        let (others, rest) ← ranges fuel rest
        .ok (first :: others, rest)

def charClass (chars : List Char) :
    Except Refusal (CharClass × List Char) := do
  let (negated, rest) := negation chars
  let (ranges, rest) ← ranges rest.length rest
  .ok (⟨negated, ranges⟩, rest)

def dialect : Dialect where
  escape := escape
  charClass := charClass
  isCount _ := true
  isLiteral char := char ≠ ']' && char ≠ '\x7d'

end Ecma

end Regex

end Dsql
