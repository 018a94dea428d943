import Mathlib.Data.List.Basic
import Mathlib.Data.List.Sort

/-!
# Text replacement

Searching and replacing in a list of symbols, from left to right and without
overlaps, and strings as debug output writes them.
-/

namespace Dsql

namespace Text

section Replace

variable {α : Type} [DecidableEq α]

/-- Every occurrence of a nonempty pattern is replaced; `skip` symbols belong
to the occurrence that was just replaced. -/
def replaceAllFrom (pattern replacement : List α) : Nat → List α → List α
  | _, [] => []
  | skip + 1, _ :: rest => replaceAllFrom pattern replacement skip rest
  | 0, symbol :: rest =>
      if pattern.isPrefixOf (symbol :: rest) then
        replacement ++
          replaceAllFrom pattern replacement (pattern.length - 1) rest
      else
        symbol :: replaceAllFrom pattern replacement 0 rest

def replaceAll (pattern replacement text : List α) : List α :=
  replaceAllFrom pattern replacement 0 text

def occurrencesFrom (pattern : List α) : Nat → List α → Nat
  | _, [] => 0
  | skip + 1, _ :: rest => occurrencesFrom pattern skip rest
  | 0, symbol :: rest =>
      if pattern.isPrefixOf (symbol :: rest) then
        occurrencesFrom pattern (pattern.length - 1) rest + 1
      else
        occurrencesFrom pattern 0 rest

/-- How often a pattern occurs; the empty pattern occurs around every
symbol. -/
def occurrences (pattern text : List α) : Nat :=
  if pattern = [] then
    text.length + 1
  else
    occurrencesFrom pattern 0 text

/-- The first occurrence of a pattern is replaced. -/
def replaceFirst (pattern replacement : List α) : List α → List α
  | [] => if pattern = [] then replacement else []
  | symbol :: rest =>
      if pattern.isPrefixOf (symbol :: rest) then
        replacement ++ (symbol :: rest).drop pattern.length
      else
        symbol :: replaceFirst pattern replacement rest

/-- A pattern that occurs is replaced where it stands. -/
theorem replaceFirst_of_occurs
    (pattern : List α)
    (text : List α)
    (h : occurrences pattern text ≠ 0) :
    ∃ before after, text = before ++ pattern ++ after ∧
      ∀ replacement, replaceFirst pattern replacement text =
        before ++ replacement ++ after := by
  by_cases hempty : pattern = []
  · refine ⟨[], text, by simp [hempty], fun replacement => ?_⟩
    cases text with
    | nil => simp [replaceFirst, hempty]
    | cons symbol rest => simp [replaceFirst, hempty]
  · rw [occurrences, if_neg hempty] at h
    induction text with
    | nil => exact absurd rfl h
    | cons symbol rest ih =>
        rw [occurrencesFrom] at h
        by_cases hfirst : pattern.isPrefixOf (symbol :: rest) = true
        · obtain ⟨after, hafter⟩ := List.isPrefixOf_iff_prefix.mp hfirst
          refine ⟨[], after, by simp [hafter], fun replacement => ?_⟩
          rw [replaceFirst, if_pos hfirst, ← hafter, List.drop_left]
          simp
        · rw [if_neg hfirst] at h
          obtain ⟨before, after, hrest, hreplace⟩ := ih h
          refine ⟨symbol :: before, after, by simp [hrest], fun replacement => ?_⟩
          rw [replaceFirst, if_neg hfirst, hreplace]
          simp

end Replace

section Strings

/-- The parts of a text between the separators. -/
def split (separator : Char) (text : String) : List String :=
  (text.toList.splitOn separator).map String.ofList

/-- What follows a leading text. -/
def dropPrefix (start text : String) : Option String :=
  (text.toList.dropPrefix? start.toList).map String.ofList

/-- The characters that debug output writes as they are, among the first 256
code points; those beyond all count as printable. -/
def isPrintable (char : Char) : Bool :=
  let code := char.toNat
  (0x20 ≤ code && code < 0x7f) || (0xa0 < code && code != 0xad)

/-- A character between the double quotes of debug output. -/
def escapeDebug (char : Char) : String :=
  match char with
  | '"' => "\\\""
  | '\\' => "\\\\"
  | '\n' => "\\n"
  | '\r' => "\\r"
  | '\t' => "\\t"
  | char =>
      if char.toNat = 0 then
        "\\0"
      else if isPrintable char then
        char.toString
      else
        "\\u\x7b" ++ String.ofList (Nat.toDigits 16 char.toNat) ++ "\x7d"

/-- A string as debug output quotes it. -/
def debugText (text : String) : String :=
  "\"" ++ String.join (text.toList.map escapeDebug) ++ "\""

example : debugText "say \"\t\x7f\"" = "\"say \\\"\\t\\u\x7b7f\x7d\\\"\"" := by
  decide +kernel

end Strings

end Text

end Dsql
