import Dsql.Logic.Measured
import Mathlib.Tactic

/-!
# Text with line breaks

A document's text is its characters.  Bytes and UTF-16 units measure the same
characters; LF, CR and CRLF end a line.  The server keeps a text in a rope,
whose operations are a parameter: what they promise is said of the text that
the rope holds.
-/

namespace Dsql.Lsp

open Measured

abbrev Text :=
  List Char

def byteSize (c : Char) : Nat :=
  c.utf8Size

/-- An astral character is a surrogate pair in UTF-16. -/
def unitSize (c : Char) : Nat :=
  if c.toNat < 0x10000 then 1 else 2

theorem byteSize_pos (c : Char) : 0 < byteSize c :=
  c.utf8Size_pos

theorem unitSize_pos (c : Char) : 0 < unitSize c := by
  unfold unitSize
  split <;> omega

/-- Whether a character ends its line; a CR directly before an LF does not. -/
def endsLine (c : Char) (rest : Text) : Bool :=
  c == '\n' || (c == '\r' && rest.head? != some '\n')

def prepend (c : Char) : List Text → List Text
  | [] => [[c]]
  | line :: lines => (c :: line) :: lines

/-- The lines with their terminators; the last line has none. -/
def splitLines : Text → List Text
  | [] => [[]]
  | c :: rest =>
      if endsLine c rest then
        [c] :: splitLines rest
      else
        prepend c (splitLines rest)

/-- A text ends with a line that no terminator closes. -/
def countLines (text : Text) : Nat :=
  (splitLines text).length

/-- The byte before which the given number of lines stands. -/
def startOfLine (text : Text) (line : Nat) : Nat :=
  weight byteSize ((splitLines text).take line).flatten

/-- The line a byte lies on; the end of the text is on the last line. -/
def lineIndex : List Text → Nat → Nat
  | line :: next :: lines, byte =>
      if weight byteSize line ≤ byte then
        lineIndex (next :: lines) (byte - weight byteSize line) + 1
      else
        0
  | _, _ => 0

/-- The line of the text that holds a byte. -/
def lineOfByte (text : Text) (byte : Nat) : Nat :=
  lineIndex (splitLines text) byte

/-- The text without the bytes of a range between two characters. -/
def withoutRange (text : Text) (start stop : Nat) : Option Text :=
  (splitAt byteSize text stop).bind (fun outer =>
    (splitAt byteSize outer.1 start).map (fun inner => inner.1 ++ outer.2))

/-- The text with another one put between two of its characters. -/
def withInserted (text : Text) (byte : Nat) (replacement : Text) : Option Text :=
  (splitAt byteSize text byte).map (fun parts => parts.1 ++ replacement ++ parts.2)

/-- The byte of a UTF-16 unit; inside a surrogate pair it is the pair's
start. -/
def byteOfUnit (text : Text) (unit : Nat) : Nat :=
  floor byteSize unitSize text unit

/-! ## The rope -/

/-- The operations of the rope that the server calls, with lines that LF, CR
and CRLF end; `none` is a panic. -/
structure RopeLibrary where
  Rope : Type
  RopeSlice : Type
  fromStr : Text → Rope
  toText : Rope → Text
  len : Rope → Nat
  lenLines : Rope → Nat
  lineToByteIdx : Rope → Nat → Option Nat
  byteToLineIdx : Rope → Nat → Option Nat
  slice : Rope → Nat → Nat → Option RopeSlice
  remove : Rope → Nat → Nat → Option Rope
  insert : Rope → Nat → Text → Option Rope
  sliceText : RopeSlice → Text
  lenUtf16 : RopeSlice → Nat
  utf16ToByteIdx : RopeSlice → Nat → Option Nat

/-- What the rope promises: it holds the text it was made from, counts that
text's bytes, lines and UTF-16 units, finds the start of a line, the line of a
byte and the byte of a unit that exist, and cuts and joins the text at the
boundaries of characters; off one it panics. -/
structure RopeLibrary.Laws (ropey : RopeLibrary) : Prop where
  fromStr : ∀ text, ropey.toText (ropey.fromStr text) = text
  len : ∀ rope, ropey.len rope = weight byteSize (ropey.toText rope)
  lenLines : ∀ rope, ropey.lenLines rope = countLines (ropey.toText rope)
  lineToByteIdx : ∀ rope line,
    line < countLines (ropey.toText rope) →
      ropey.lineToByteIdx rope line = some (startOfLine (ropey.toText rope) line)
  byteToLineIdx : ∀ rope byte,
    byte ≤ weight byteSize (ropey.toText rope) →
      ropey.byteToLineIdx rope byte = some (lineOfByte (ropey.toText rope) byte)
  slice : ∀ rope start stop,
    (ropey.slice rope start stop).map ropey.sliceText =
      Measured.slice byteSize (ropey.toText rope) start stop
  remove : ∀ rope start stop,
    (ropey.remove rope start stop).map ropey.toText =
      withoutRange (ropey.toText rope) start stop
  insert : ∀ rope byte replacement,
    (ropey.insert rope byte replacement).map ropey.toText =
      withInserted (ropey.toText rope) byte replacement
  lenUtf16 : ∀ slice, ropey.lenUtf16 slice = weight unitSize (ropey.sliceText slice)
  utf16ToByteIdx : ∀ slice unit,
    unit ≤ weight unitSize (ropey.sliceText slice) →
      ropey.utf16ToByteIdx slice unit = some (byteOfUnit (ropey.sliceText slice) unit)

/-- A rope that is its text. -/
def plainRope : RopeLibrary where
  Rope := Text
  RopeSlice := Text
  fromStr text := text
  toText rope := rope
  len rope := weight byteSize rope
  lenLines rope := countLines rope
  lineToByteIdx rope line :=
    if line ≤ countLines rope then some (startOfLine rope line) else none
  byteToLineIdx rope byte :=
    if byte ≤ weight byteSize rope then some (lineOfByte rope byte) else none
  slice rope start stop := Measured.slice byteSize rope start stop
  remove rope start stop := withoutRange rope start stop
  insert rope byte replacement := withInserted rope byte replacement
  sliceText slice := slice
  lenUtf16 slice := weight unitSize slice
  utf16ToByteIdx slice unit :=
    if unit ≤ weight unitSize slice then some (byteOfUnit slice unit) else none

theorem plainRope_laws : plainRope.Laws where
  fromStr _ := rfl
  len _ := rfl
  lenLines _ := rfl
  lineToByteIdx _ _ hline := if_pos (Nat.le_of_lt hline)
  byteToLineIdx _ _ hbyte := if_pos hbyte
  slice _ _ _ := Option.map_id'
  remove _ _ _ := Option.map_id'
  insert _ _ _ := Option.map_id'
  lenUtf16 _ := rfl
  utf16ToByteIdx _ _ hunit := if_pos hunit

theorem RopeLibrary.Laws.slice_eq_some
    {ropey : RopeLibrary}
    (laws : ropey.Laws)
    {rope : ropey.Rope}
    {start stop : Nat}
    {text : Text}
    (h : Measured.slice byteSize (ropey.toText rope) start stop = some text) :
    ∃ slice, ropey.slice rope start stop = some slice ∧ ropey.sliceText slice = text :=
  Option.map_eq_some_iff.mp ((laws.slice rope start stop).trans h)

theorem RopeLibrary.Laws.slice_eq_none
    {ropey : RopeLibrary}
    (laws : ropey.Laws)
    {rope : ropey.Rope}
    {start stop : Nat}
    (h : Measured.slice byteSize (ropey.toText rope) start stop = none) :
    ropey.slice rope start stop = none :=
  Option.map_eq_none_iff.mp ((laws.slice rope start stop).trans h)

/-! ## The shape of a line -/

def isBreak (c : Char) : Bool :=
  c == '\n' || c == '\r'

def BreakFree (text : Text) : Prop :=
  ∀ c ∈ text, isBreak c = false

/-- What stands on a line before its terminator. -/
def content (line : Text) : Text :=
  line.takeWhile (fun c => !isBreak c)

inductive Terminator : Text → Prop
  | lf : Terminator ['\n']
  | crlf : Terminator ['\r', '\n']
  | cr : Terminator ['\r']

/-- A run of terminated lines closed by one that is not. -/
inductive Lines : List Text → Prop
  | last {line : Text} : BreakFree line → Lines [line]
  | cons {line terminator : Text} {lines : List Text} :
      BreakFree line →
      Terminator terminator →
      (terminator = ['\r'] → lines.flatten.head? ≠ some '\n') →
      Lines lines →
      Lines ((line ++ terminator) :: lines)

theorem Lines.ne_nil
    {lines : List Text}
    (h : Lines lines) :
    lines ≠ [] := by
  cases h <;> simp

theorem breakFree_nil : BreakFree [] :=
  fun _ hmem => absurd hmem List.not_mem_nil

theorem BreakFree.cons
    {c : Char}
    {line : Text}
    (hc : isBreak c = false)
    (h : BreakFree line) :
    BreakFree (c :: line) := by
  intro d hd
  rcases List.mem_cons.mp hd with rfl | hd
  · exact hc
  · exact h d hd

theorem Lines.prepend
    {c : Char}
    {lines : List Text}
    (hc : isBreak c = false)
    (h : Lines lines) :
    Lines (prepend c lines) := by
  cases h with
  | last hline => exact .last (hline.cons hc)
  | cons hline hterminator hnext hlines =>
      exact .cons (hline.cons hc) hterminator hnext hlines

theorem Lines.tail
    {line : Text}
    {lines : List Text}
    (h : Lines (line :: lines))
    (hne : lines ≠ []) :
    Lines lines := by
  cases h with
  | last hline => exact absurd rfl hne
  | cons hline hterminator hnext hlines => exact hlines

theorem flatten_prepend
    (c : Char)
    (lines : List Text) :
    (prepend c lines).flatten = c :: lines.flatten := by
  cases lines <;> rfl

theorem flatten_splitLines
    (text : Text) :
    (splitLines text).flatten = text := by
  induction text with
  | nil => rfl
  | cons c rest ih =>
      unfold splitLines
      split
      · rw [List.flatten_cons, ih]
        rfl
      · rw [flatten_prepend, ih]

theorem splitLines_ne_nil (text : Text) : splitLines text ≠ [] := by
  cases text with
  | nil => exact List.cons_ne_nil _ _
  | cons c rest =>
      unfold splitLines
      split
      · exact List.cons_ne_nil _ _
      · cases splitLines rest <;> exact List.cons_ne_nil _ _

theorem splitLines_cons_lf (rest : Text) :
    splitLines ('\n' :: rest) = ['\n'] :: splitLines rest :=
  rfl

/-- What splitting yields has the shape of lines. -/
theorem splitLines_lines
    (text : Text) :
    Lines (splitLines text) := by
  induction text with
  | nil => exact .last breakFree_nil
  | cons c rest ih =>
      by_cases hlf : c = '\n'
      · subst hlf
        exact .cons breakFree_nil .lf (by simp) ih
      by_cases hcr : c = '\r'
      · subst hcr
        by_cases hnext : rest.head? = some '\n'
        · obtain ⟨rest, rfl⟩ := List.head?_eq_some_iff.mp hnext
          rw [splitLines_cons_lf] at ih
          have hrest : Lines (splitLines rest) := ih.tail (splitLines_ne_nil rest)
          exact .cons breakFree_nil .crlf (by simp) hrest
        · have hends : endsLine '\r' rest = true := by simp [endsLine, hnext]
          rw [splitLines, if_pos hends]
          exact .cons breakFree_nil .cr (fun _ => by rwa [flatten_splitLines]) ih
      · have hends : endsLine c rest = false := by simp [endsLine, hlf, hcr]
        rw [splitLines, if_neg (by simp [hends])]
        exact ih.prepend (by simp [isBreak, hlf, hcr])

/-! ## One line of a text -/

/-- A line with what precedes and what follows it. -/
structure LineAt (text : Text) (index : Nat) (front line back : Text) : Prop where
  text_eq : text = front ++ (line ++ back)
  getElem? : (splitLines text)[index]? = some line
  front_eq : front = ((splitLines text).take index).flatten
  stop : startOfLine text (index + 1) = weight byteSize front + weight byteSize line
  last : index + 1 = countLines text → back = []

theorem LineAt.mem
    {text front line back : Text}
    {index : Nat}
    (h : LineAt text index front line back) :
    line ∈ splitLines text :=
  List.mem_of_getElem? h.getElem?

theorem LineAt.start
    {text front line back : Text}
    {index : Nat}
    (h : LineAt text index front line back) :
    startOfLine text index = weight byteSize front := by
  rw [h.front_eq]
  rfl

theorem exists_lineAt
    (text : Text)
    {index : Nat}
    (h : index < countLines text) :
    ∃ front line back, LineAt text index front line back := by
  obtain ⟨line, hline⟩ : ∃ line, (splitLines text)[index]? = some line :=
    ⟨_, List.getElem?_eq_getElem h⟩
  have htake : (splitLines text).take (index + 1) =
      (splitLines text).take index ++ [line] := by
    rw [List.take_add_one, hline]
    rfl
  have hsplit := List.take_append_drop (index + 1) (splitLines text)
  refine ⟨((splitLines text).take index).flatten, line,
    ((splitLines text).drop (index + 1)).flatten, ?_, hline, rfl, ?_, ?_⟩
  · rw [htake] at hsplit
    conv_lhs => rw [← flatten_splitLines text, ← hsplit]
    simp
  · rw [startOfLine, htake]
    simp
  · intro hlast
    rw [hlast, countLines, List.drop_length]
    rfl

/-- The byte after a line: the next line's start or the end of the text. -/
theorem LineAt.lineEnd
    {text front line back : Text}
    {index : Nat}
    (h : LineAt text index front line back) :
    (if index + 1 < countLines text then startOfLine text (index + 1) else weight byteSize text) =
      weight byteSize front + weight byteSize line := by
  split
  · exact h.stop
  · rename_i hlt
    have hindex : index < countLines text := by
      obtain ⟨hindex, -⟩ := List.getElem?_eq_some_iff.mp h.getElem?
      exact hindex
    have hback := h.last (by omega)
    rw [h.text_eq, hback, List.append_nil]
    exact weight_append byteSize front line

/-- Each line is break free up to its terminator, and only the last has none. -/
theorem Lines.shape
    {lines : List Text}
    (h : Lines lines)
    {index : Nat}
    {line : Text}
    (hline : lines[index]? = some line) :
    ∃ body terminator, line = body ++ terminator ∧ BreakFree body ∧
      (terminator = [] ∧ index + 1 = lines.length ∨
        Terminator terminator ∧ index + 1 < lines.length) := by
  induction h generalizing index with
  | @last body hbody =>
      cases index with
      | zero =>
          cases hline
          exact ⟨line, [], by simp, hbody, .inl ⟨rfl, rfl⟩⟩
      | succ index => simp at hline
  | @cons body terminator lines hbody hterminator hnext hlines ih =>
      have hpos : 0 < lines.length := List.length_pos_of_ne_nil hlines.ne_nil
      cases index with
      | zero =>
          cases hline
          exact ⟨body, terminator, rfl, hbody, .inr ⟨hterminator, by simpa using hpos⟩⟩
      | succ index =>
          obtain ⟨body, terminator, heq, hbody, hshape⟩ := ih hline
          refine ⟨body, terminator, heq, hbody, ?_⟩
          rw [List.length_cons]
          rcases hshape with ⟨hnil, hindex⟩ | ⟨hterminator, hindex⟩
          · exact .inl ⟨hnil, by omega⟩
          · exact .inr ⟨hterminator, by omega⟩

theorem content_append
    {body terminator : Text}
    (hbody : BreakFree body)
    (hterminator : ∀ c, terminator.head? = some c → isBreak c = true) :
    content (body ++ terminator) = body := by
  unfold content
  rw [List.takeWhile_append_of_pos (fun c hc => by simp [hbody c hc])]
  cases terminator with
  | nil => simp
  | cons c rest => simp [hterminator c rfl]

theorem Terminator.head
    {terminator : Text}
    (h : Terminator terminator)
    (c : Char)
    (hc : terminator.head? = some c) :
    isBreak c = true := by
  cases h <;> cases hc <;> rfl

/-- Only between CR and LF can a terminator be cut in two. -/
theorem Terminator.cut
    {terminator front back : Text}
    (h : Terminator terminator)
    (heq : terminator = front ++ back)
    (hfront : front ≠ [])
    (hback : back ≠ []) :
    front = ['\r'] ∧ back = ['\n'] := by
  have hlength := congrArg List.length heq
  rw [List.length_append] at hlength
  have hpos := List.length_pos_of_ne_nil hfront
  have hpos' := List.length_pos_of_ne_nil hback
  cases h with
  | lf =>
      rw [List.length_singleton] at hlength
      omega
  | cr =>
      rw [List.length_singleton] at hlength
      omega
  | crlf =>
      have happend : ['\r'] ++ ['\n'] = front ++ back := heq
      simp only [List.length_cons, List.length_nil] at hlength
      obtain ⟨hcr, hlf⟩ := List.append_inj happend (by
        rw [List.length_singleton]
        omega)
      exact ⟨hcr.symm, hlf.symm⟩

end Dsql.Lsp
