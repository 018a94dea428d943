import Dsql.Logic.Fallible
import Dsql.Regex.Dialects

/-!
# Portable patterns

The check of an authored pattern: a scan over its characters keeps it within a
subset of the regex syntax, and the regex crate must accept the rest.
-/

namespace Dsql

namespace Types

open Regex

/-- The regex crate: whether a pattern compiles and which texts it finds
something in. -/
structure RegexCrate where
  new : String → Except String Unit
  isMatch : String → String → Bool

/-! ## The scan -/

def consumeHex (expected : String) :
    Nat → List Char → Except String (List Char)
  | 0, chars => .ok chars
  | _ + 1, [] => .error ("escape must use exactly `" ++ expected ++ "`")
  | count + 1, char :: rest =>
      if (hexDigit char).isSome then
        consumeHex expected count rest
      else
        .error ("escape must use exactly `" ++ expected ++ "`")

def quantifierError : String :=
  "repeat quantifiers must use `\x7bn\x7d`, `\x7bn,\x7d`, or " ++
    "`\x7bn,m\x7d` with ASCII digits"

def consumeQuantifier (chars : List Char) : Except String (List Char) :=
  let rest := chars.dropWhile isDecimal
  if (chars.takeWhile isDecimal).isEmpty then
    .error quantifierError
  else if rest.head? = some '\x7d' then
    .ok rest.tail
  else if rest.head? = some ',' then
    let rest := rest.tail.dropWhile isDecimal
    if rest.head? = some '\x7d' then
      .ok rest.tail
    else
      .error quantifierError
  else
    .error quantifierError

def escapeError (char : Char) : String :=
  "escape `\\" ++ String.ofList [char] ++
    "` is not in the portable regex subset"

/-- The rest of a pattern after an escape whose backslash was read. -/
def scanEscape (inClass : Bool) (chars : List Char) :
    Except String (List Char) :=
  match chars with
  | [] => .error "ends with an incomplete escape"
  | char :: rest =>
      if "dDwWsSpPbBAz".toList.contains char then
        .error (escapeError char)
      else if char = 'x' then
        consumeHex "\\xNN" 2 rest
      else if char = 'u' then
        consumeHex "\\uNNNN" 4 rest
      else if char = 'n' || char = 'r' || char = 't' then
        .ok rest
      else if char = '-' && !inClass then
        .error "escape `\\-` is only portable inside a character class"
      else if "^$\\.*+?()[]\x7b\x7d|/-".toList.contains char then
        .ok rest
      else
        .error (escapeError char)

/-- One round of the scan: whether it goes on inside a class, and with what. -/
def scanStep (inClass : Bool) (char : Char) (rest : List Char) :
    Except String (Bool × List Char) :=
  if char = '\\' then do
    let rest ← scanEscape inClass rest
    .ok (inClass, rest)
  else if inClass then
    if char = ']' then
      .ok (false, rest)
    else if char = '[' then
      .error "nested character classes are not in the portable regex subset"
    else if (char = '&' || char = '-' || char = '~') &&
        rest.head? = some char then
      .error
        "character-class set operations are not in the portable regex subset"
    else
      .ok (true, rest)
  else if char = '[' then
    .ok (true, rest)
  else if char = ']' then
    .error "contains an unmatched `]`"
  else if char = '.' then
    .error ("wildcard `.` is not in the portable regex subset; use an " ++
      "explicit negated character class")
  else if char = '\x7b' then do
    let rest ← consumeQuantifier rest
    .ok (false, rest)
  else if char = '\x7d' then
    .error "contains an unmatched `\x7d`"
  else if char = '(' && rest.head? = some '?' &&
      rest.tail.head? ≠ some ':' then
    .error ("only non-capturing `(?:...)` groups from the `(?...)` family " ++
      "are portable")
  else
    .ok (false, rest)

/-- The scan of a pattern; every round takes a character at least, so the
length of the pattern is fuel enough. -/
def scan : Nat → Bool → List Char → Except String Unit
  | _, _, [] => .ok ()
  | 0, _, _ :: _ => .error "scan did not end"
  | fuel + 1, inClass, char :: rest => do
      let (inClass, rest) ← scanStep inClass char rest
      scan fuel inClass rest

def validatePortablePattern (crate : RegexCrate) (pattern : String) :
    Except String Unit := do
  scan pattern.toList.length false pattern.toList
  (crate.new pattern).mapError ("is not a valid portable regex: " ++ ·)

/-! ## Empty classes -/

/-- Whether the class that starts here ends at once. -/
def closesAtOnce (rest : List Char) : Bool :=
  (negation rest).2.head? = some ']'

/-- Whether the scan reads a class without members. -/
def hasEmptyClass : Nat → Bool → List Char → Bool
  | _, _, [] => false
  | 0, _, _ :: _ => false
  | fuel + 1, inClass, char :: rest =>
      (!inClass && char = '[' && closesAtOnce rest) ||
        match scanStep inClass char rest with
        | .ok (inClass, rest) => hasEmptyClass fuel inClass rest
        | .error _ => false

def readsEmptyClass (pattern : String) : Bool :=
  hasEmptyClass pattern.toList.length false pattern.toList

/-- A text through which the scan gets without an empty class. -/
inductive Scans : Bool → List Char → Prop
  | nil (inClass : Bool) : Scans inClass []
  | cons
      {inClass next : Bool}
      {char : Char}
      {rest later : List Char}
      (nonempty : inClass = false → char = '[' → closesAtOnce rest = false)
      (step : scanStep inClass char rest = .ok (next, later))
      (tail : Scans next later) :
      Scans inClass (char :: rest)

theorem scans_of_scan
    (fuel : Nat)
    {inClass : Bool}
    {chars : List Char}
    (h : scan fuel inClass chars = .ok ())
    (hclass : hasEmptyClass fuel inClass chars = false) :
    Scans inClass chars := by
  induction fuel generalizing inClass chars with
  | zero =>
      cases chars with
      | nil => exact .nil inClass
      | cons char rest => cases h
  | succ fuel ih =>
      cases chars with
      | nil => exact .nil inClass
      | cons char rest =>
          rw [scan] at h
          obtain ⟨⟨next, later⟩, hstep, htail⟩ := except_bind_ok h
          rw [hasEmptyClass, hstep, Bool.or_eq_false_iff] at hclass
          refine .cons ?_ hstep (ih htail hclass.2)
          rintro rfl rfl
          simpa using hclass.1

end Types

end Dsql
