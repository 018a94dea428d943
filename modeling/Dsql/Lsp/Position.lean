import Dsql.Lsp.Rope
import Mathlib.Tactic

/-!
# Positions and byte offsets

A position is a line and a UTF-16 column, both `u32`.  `none` is a slice off
a character boundary, where the rope panics.
-/

namespace Dsql.Lsp

open Measured

structure Position where
  line : UInt32
  character : UInt32
deriving DecidableEq

section

variable (ropey : RopeLibrary)

/-- `byte_to_position`. -/
def byteToPosition (rope : ropey.Rope) (byte : Nat) : Option Position := do
  let byte := min byte (ropey.len rope)
  let line ← ropey.byteToLineIdx rope byte
  let lineStart ← ropey.lineToByteIdx rope line
  let slice ← ropey.slice rope lineStart byte
  let character := ropey.lenUtf16 slice
  some ⟨UInt32.ofNat line, UInt32.ofNat character⟩

/-- `position_to_byte`. -/
def positionToByte (rope : ropey.Rope) (position : Position) : Option Nat := do
  let lineCount := ropey.lenLines rope
  let line := min position.line.toNat (lineCount - 1)
  let lineStart ← ropey.lineToByteIdx rope line
  let lineEnd ←
    (if line + 1 < lineCount then
      ropey.lineToByteIdx rope (line + 1)
    else
      some (ropey.len rope))
  let tailStart := max lineStart (lineEnd - 2)
  let tail ← (ropey.slice rope tailStart lineEnd).map ropey.sliceText
  let lineEnd :=
    if ['\n'].isSuffixOf tail then
      let lineEnd := lineEnd - 1
      if ['\r', '\n'].isSuffixOf tail then lineEnd - 1 else lineEnd
    else
      lineEnd
  let lineSlice ← ropey.slice rope lineStart lineEnd
  let utf16 := min position.character.toNat (ropey.lenUtf16 lineSlice)
  let column ← ropey.utf16ToByteIdx lineSlice utf16
  some (lineStart + column)

end

/-! ## One line at a time -/

/-- Two bytes before the line's end, or its start, a character begins. -/
def TailBoundary (line : Text) : Prop :=
  (splitAt byteSize line (weight byteSize line - 2)).isSome

instance (line : Text) : Decidable (TailBoundary line) :=
  inferInstanceAs (Decidable ((splitAt byteSize line (weight byteSize line - 2)).isSome = true))

/-- What `position_to_byte` leaves of a line: it drops LF and CRLF only. -/
def trimmed (line : Text) : Text :=
  if ['\n'].isSuffixOf line then
    if ['\r', '\n'].isSuffixOf line then line.dropLast.dropLast else line.dropLast
  else
    line

/-- The offset of a UTF-16 column in its line. -/
def columnByte (line : Text) (character : UInt32) : Nat :=
  byteOfUnit (trimmed line) (min character.toNat (weight unitSize (trimmed line)))

theorem trimmed_crlf (line : Text) : trimmed (line ++ ['\r', '\n']) = line := by
  have hlf : ['\n'].isSuffixOf (line ++ ['\r', '\n']) = true := by
    rw [List.isSuffixOf_iff_suffix]
    exact ⟨line ++ ['\r'], by simp⟩
  have hcrlf : ['\r', '\n'].isSuffixOf (line ++ ['\r', '\n']) = true := by
    rw [List.isSuffixOf_iff_suffix]
    exact List.suffix_append line _
  have happend : line ++ ['\r', '\n'] = line ++ ['\r'] ++ ['\n'] := by simp
  rw [trimmed, if_pos hlf, if_pos hcrlf, happend, List.dropLast_concat,
    List.dropLast_concat]

theorem trimmed_lf
    {line : Text}
    (h : ¬ ['\r', '\n'] <:+ line ++ ['\n']) :
    trimmed (line ++ ['\n']) = line := by
  have hlf : ['\n'].isSuffixOf (line ++ ['\n']) = true := by
    rw [List.isSuffixOf_iff_suffix]
    exact List.suffix_append line _
  rw [trimmed, if_pos hlf, if_neg (by rwa [List.isSuffixOf_iff_suffix]),
    List.dropLast_concat]

theorem trimmed_other
    {line : Text}
    (h : ¬ ['\n'] <:+ line) :
    trimmed line = line := by
  rw [trimmed, if_neg (by rwa [List.isSuffixOf_iff_suffix])]

/-- A terminator is at most two bytes, so the tail shows it whole. -/
theorem tail_suffix_iff
    {head tail terminator : Text}
    (htail : weight byteSize head = weight byteSize (head ++ tail) - 2)
    (hterminator : weight byteSize terminator ≤ 2) :
    terminator <:+ tail ↔ terminator <:+ head ++ tail := by
  constructor
  · intro h
    exact h.trans (List.suffix_append head tail)
  · rintro ⟨front, hfront⟩
    have hle : weight byteSize head ≤ weight byteSize front := by
      have hbytes : weight byteSize front + weight byteSize terminator = weight byteSize (head ++ tail) := by
        rw [← hfront]
        exact (weight_append byteSize front terminator).symm
      omega
    obtain ⟨middle, -, hmiddle⟩ :=
      exists_append_of_le byteSize byteSize_pos hfront.symm hle
    exact ⟨middle, hmiddle.symm⟩

theorem bytes_lf : weight byteSize ['\n'] = 1 := by decide

theorem bytes_crlf : weight byteSize ['\r', '\n'] = 2 := by decide

/-- The bytes the ending of a line takes off it. -/
theorem trimmed_split
    (line : Text) :
    ∃ rest, line = trimmed line ++ rest ∧
      weight byteSize rest =
        (if ['\n'].isSuffixOf line then
          (if ['\r', '\n'].isSuffixOf line then 2 else 1)
        else
          0) := by
  by_cases hcrlf : ['\r', '\n'] <:+ line
  · obtain ⟨front, rfl⟩ := hcrlf
    have hlf : ['\n'] <:+ front ++ ['\r', '\n'] := ⟨front ++ ['\r'], by simp⟩
    refine ⟨['\r', '\n'], by rw [trimmed_crlf], ?_⟩
    rw [if_pos (List.isSuffixOf_iff_suffix.mpr hlf),
      if_pos (List.isSuffixOf_iff_suffix.mpr (List.suffix_append front _)), bytes_crlf]
  by_cases hlf : ['\n'] <:+ line
  · obtain ⟨front, rfl⟩ := hlf
    refine ⟨['\n'], by rw [trimmed_lf hcrlf], ?_⟩
    rw [if_pos (List.isSuffixOf_iff_suffix.mpr (List.suffix_append front _)),
      if_neg (by rwa [List.isSuffixOf_iff_suffix]), bytes_lf]
  · refine ⟨[], by rw [trimmed_other hlf, List.append_nil], ?_⟩
    rw [if_neg (by rwa [List.isSuffixOf_iff_suffix]), weight_nil]

/-- The line a position addresses; a line past the last is the last. -/
def addressedLine (text : Text) (position : Position) : Nat :=
  min position.line.toNat (countLines text - 1)

theorem tail_slice
    {front line back : Text}
    (h : TailBoundary line) :
    ∃ head tail, line = head ++ tail ∧ weight byteSize head = weight byteSize line - 2 ∧
      slice byteSize (front ++ (line ++ back))
        (max (weight byteSize front) (weight byteSize front + weight byteSize line - 2)) (weight byteSize front + weight byteSize line) =
          some tail := by
  obtain ⟨⟨head, tail⟩, hsplit⟩ := Option.isSome_iff_exists.mp h
  obtain ⟨hline, hhead⟩ := splitAt_sound byteSize line hsplit
  refine ⟨head, tail, hline, hhead, ?_⟩
  have hle : weight byteSize line = weight byteSize head + weight byteSize tail := by
    rw [hline]
    exact weight_append byteSize head tail
  have hslice := slice_append byteSize byteSize_pos (front ++ head) tail back
  have hmax : max (weight byteSize front) (weight byteSize front + weight byteSize line - 2) = weight byteSize (front ++ head) := by
    rw [weight_append]
    omega
  have hstop : weight byteSize front + weight byteSize line = weight byteSize (front ++ head) + weight byteSize tail := by
    rw [weight_append]
    omega
  rw [hmax, hstop]
  rw [hline]
  simpa using hslice

theorem tail_slice_eq_none
    {front line back : Text}
    (h : ¬ TailBoundary line) :
    slice byteSize (front ++ (line ++ back))
      (max (weight byteSize front) (weight byteSize front + weight byteSize line - 2)) (weight byteSize front + weight byteSize line) =
        none := by
  apply slice_eq_none
  intro outer inner happend hstart
  apply h
  obtain ⟨middle, houter, hrest⟩ :=
    exists_append_of_le byteSize byteSize_pos happend (by omega)
  have hmiddle : weight byteSize middle = weight byteSize line - 2 := by
    rw [houter, weight_append] at hstart
    omega
  obtain ⟨tail, hline, -⟩ :=
    exists_append_of_le byteSize byteSize_pos hrest.symm (by omega)
  rw [TailBoundary, ← hmiddle, hline, splitAt_append byteSize byteSize_pos]
  rfl

theorem addressedLine_lt (text : Text) (position : Position) :
    addressedLine text position < countLines text := by
  have hpos : 0 < countLines text := List.length_pos_of_ne_nil (splitLines_ne_nil text)
  unfold addressedLine
  omega

section

variable {ropey : RopeLibrary} (laws : ropey.Laws) {rope : ropey.Rope}
variable {front line back : Text} {position : Position}

include laws

/-- The rope finds the line a position addresses, its start and its end. -/
theorem addressedLine_bytes
    (h : LineAt (ropey.toText rope) (addressedLine (ropey.toText rope) position)
      front line back) :
    min position.line.toNat (ropey.lenLines rope - 1) =
        addressedLine (ropey.toText rope) position ∧
      ropey.lineToByteIdx rope (addressedLine (ropey.toText rope) position) =
        some (weight byteSize front) ∧
      (if addressedLine (ropey.toText rope) position + 1 < ropey.lenLines rope then
        ropey.lineToByteIdx rope (addressedLine (ropey.toText rope) position + 1)
      else
        some (ropey.len rope)) = some (weight byteSize front + weight byteSize line) := by
  refine ⟨by rw [laws.lenLines, addressedLine], ?_, ?_⟩
  · rw [laws.lineToByteIdx rope _ (addressedLine_lt _ position), h.start]
  · have hstop := h.lineEnd
    rw [laws.lenLines, laws.len]
    split at hstop
    · rename_i hlt
      rw [if_pos hlt, laws.lineToByteIdx rope _ hlt, hstop]
    · rename_i hlt
      rw [if_neg hlt, hstop]

/-- `position_to_byte` looks at the addressed line alone. -/
theorem positionToByte_eq
    (h : LineAt (ropey.toText rope) (addressedLine (ropey.toText rope) position)
      front line back)
    (hline : TailBoundary line) :
    positionToByte ropey rope position =
      some (weight byteSize front + columnByte line position.character) := by
  obtain ⟨head, tail, heq, hhead, htail⟩ := @tail_slice front line back hline
  obtain ⟨rest, htrimmed, hend⟩ := trimmed_split line
  rw [heq] at hhead
  have hlf : ['\n'].isSuffixOf tail = ['\n'].isSuffixOf line := by
    rw [Bool.eq_iff_iff, List.isSuffixOf_iff_suffix, List.isSuffixOf_iff_suffix, heq]
    exact tail_suffix_iff hhead (by rw [bytes_lf]; omega)
  have hcrlf : ['\r', '\n'].isSuffixOf tail = ['\r', '\n'].isSuffixOf line := by
    rw [Bool.eq_iff_iff, List.isSuffixOf_iff_suffix, List.isSuffixOf_iff_suffix, heq]
    exact tail_suffix_iff hhead (by rw [bytes_crlf])
  have hlineSlice : slice byteSize (ropey.toText rope) (weight byteSize front)
      (weight byteSize front + weight byteSize (trimmed line)) = some (trimmed line) := by
    have := slice_append byteSize byteSize_pos front (trimmed line) (rest ++ back)
    rw [← List.append_assoc (trimmed line), ← htrimmed] at this
    rwa [h.text_eq]
  have hlineEnd : (if ['\n'].isSuffixOf line then
      (if ['\r', '\n'].isSuffixOf line then
        weight byteSize front + weight byteSize line - 1 - 1
      else weight byteSize front + weight byteSize line - 1)
      else weight byteSize front + weight byteSize line) =
        weight byteSize front + weight byteSize (trimmed line) := by
    have hline : weight byteSize line =
        weight byteSize (trimmed line) + weight byteSize rest := by
      conv_lhs => rw [htrimmed]
      exact weight_append byteSize _ _
    rw [hend] at hline
    split_ifs at hline ⊢ <;> omega
  obtain ⟨hindex, hstart, hstop⟩ := addressedLine_bytes laws h
  rw [← h.text_eq] at htail
  obtain ⟨lineSlice, hslice, htext⟩ := laws.slice_eq_some hlineSlice
  have hcolumn : ropey.utf16ToByteIdx lineSlice
      (min position.character.toNat (ropey.lenUtf16 lineSlice)) =
        some (columnByte line position.character) := by
    rw [laws.lenUtf16, laws.utf16ToByteIdx _ _ (Nat.min_le_right _ _), htext, columnByte]
  simp only [positionToByte, hindex, hstart, hstop, laws.slice, htail, hlf, hcrlf, hlineEnd,
    hslice, hcolumn, Option.bind_eq_bind, Option.bind_some]

theorem positionToByte_eq_none
    (h : LineAt (ropey.toText rope) (addressedLine (ropey.toText rope) position)
      front line back)
    (hline : ¬ TailBoundary line) :
    positionToByte ropey rope position = none := by
  have htail := @tail_slice_eq_none front line back hline
  rw [← h.text_eq] at htail
  obtain ⟨hindex, hstart, hstop⟩ := addressedLine_bytes laws h
  simp only [positionToByte, hindex, hstart, hstop, laws.slice, htail, Option.bind_eq_bind,
    Option.bind_some, Option.bind_none]

end

/-! ## Lines and what is left of them -/

theorem BreakFree.not_suffix_lf
    {body : Text}
    (h : BreakFree body) :
    ¬ ['\n'] <:+ body := by
  intro hsuffix
  exact absurd (h '\n' (hsuffix.subset List.mem_cons_self)) (by decide)

theorem BreakFree.not_suffix_crlf
    {body : Text}
    (h : BreakFree body) :
    ¬ ['\r', '\n'] <:+ body ++ ['\n'] := by
  rintro ⟨front, hfront⟩
  have happend : front ++ ['\r'] ++ ['\n'] = body ++ ['\n'] := by simpa using hfront
  have hbody : front ++ ['\r'] = body := List.append_cancel_right happend
  exact absurd (h '\r' (by rw [← hbody]; simp)) (by decide)

/-- A line that ends in a CR ends in a lone one. -/
def LoneCr (line : Text) : Prop :=
  ['\r'] <:+ line

instance (line : Text) : Decidable (LoneCr line) :=
  inferInstanceAs (Decidable (['\r'] <:+ line))

theorem trimmed_loneCr
    {line : Text}
    (h : LoneCr line) :
    trimmed line = line := by
  obtain ⟨front, rfl⟩ := h
  apply trimmed_other
  intro hlf
  obtain ⟨other, hother⟩ := hlf
  have hlast : ['\n'] = ['\r'] := (List.append_inj' hother rfl).2
  exact absurd hlast (by decide)

/-- Off a lone CR, what is left is the line before its terminator. -/
theorem LineAt.trimmed_eq_content
    {text front line back : Text}
    {index : Nat}
    (h : LineAt text index front line back)
    (hcr : ¬ LoneCr line) :
    trimmed line = content line := by
  obtain ⟨body, terminator, rfl, hbody, hshape⟩ := (splitLines_lines text).shape h.getElem?
  rcases hshape with ⟨rfl, -⟩ | ⟨hterminator, -⟩
  · rw [content_append hbody (by simp), List.append_nil, trimmed_other hbody.not_suffix_lf]
  · rw [content_append hbody hterminator.head]
    cases hterminator with
    | lf => exact trimmed_lf hbody.not_suffix_crlf
    | crlf => exact trimmed_crlf body
    | cr => exact absurd (List.suffix_append body ['\r']) hcr

theorem LineAt.loneCr_eq
    {text front line back : Text}
    {index : Nat}
    (h : LineAt text index front line back)
    (hcr : LoneCr line) :
    line = content line ++ ['\r'] ∧ index + 1 < countLines text := by
  obtain ⟨body, terminator, rfl, hbody, hshape⟩ := (splitLines_lines text).shape h.getElem?
  rcases hshape with ⟨rfl, -⟩ | ⟨hterminator, hindex⟩
  · rw [List.append_nil] at hcr
    exact absurd (hbody '\r' (hcr.subset List.mem_cons_self)) (by decide)
  · rw [content_append hbody hterminator.head]
    cases hterminator with
    | lf =>
        obtain ⟨other, hother⟩ := hcr
        exact absurd (List.append_inj' hother rfl).2 (by decide)
    | crlf =>
        obtain ⟨other, hother⟩ := hcr
        have happend : other ++ ['\r'] = body ++ ['\r'] ++ ['\n'] := by simpa using hother
        exact absurd (List.append_inj' happend rfl).2 (by decide)
    | cr => exact ⟨rfl, hindex⟩

/-- What stands before the terminator survives the trimming. -/
theorem LineAt.content_append_of_trimmed
    {text front line back : Text}
    {index : Nat}
    (h : LineAt text index front line back) :
    ∃ rest, trimmed line = content line ++ rest := by
  by_cases hcr : LoneCr line
  · exact ⟨['\r'], by rw [trimmed_loneCr hcr]; exact (h.loneCr_eq hcr).1⟩
  · exact ⟨[], by rw [h.trimmed_eq_content hcr, List.append_nil]⟩

/-! ## The boundary a byte is -/

/-- Between the CR and the LF of one terminator. -/
def InsideTerminator (front back : Text) : Prop :=
  front.getLast? = some '\r' ∧ back.head? = some '\n'

/-- A boundary on its line, which it closes only at the end of the text. -/
theorem lineIndex_boundary
    {lines : List Text}
    (hne : lines ≠ [])
    {front back : Text}
    (h : lines.flatten = front ++ back) :
    ∃ line inner outer,
      lines[lineIndex lines (weight byteSize front)]? = some line ∧
      line = inner ++ outer ∧
      front = (lines.take (lineIndex lines (weight byteSize front))).flatten ++ inner ∧
      (outer = [] → lineIndex lines (weight byteSize front) + 1 = lines.length) := by
  induction lines generalizing front with
  | nil => exact absurd rfl hne
  | cons line lines ih =>
      cases lines with
      | nil => exact ⟨line, front, back, rfl, by simpa using h, rfl, fun _ => rfl⟩
      | cons next lines =>
          rw [List.flatten_cons] at h
          unfold lineIndex
          split
          · rename_i hle
            obtain ⟨middle, rfl, hrest⟩ := exists_append_of_le byteSize byteSize_pos h hle
            obtain ⟨found, inner, outer, hfound, heq, hmiddle, hlast⟩ :=
              ih (List.cons_ne_nil _ _) hrest
            have hsub : weight byteSize (line ++ middle) - weight byteSize line =
                weight byteSize middle := by
              rw [weight_append]
              omega
            rw [hsub]
            refine ⟨found, inner, outer, hfound, heq, ?_, ?_⟩
            · rw [List.take_succ_cons, List.flatten_cons, List.append_assoc, ← hmiddle]
            · intro houter
              rw [hlast houter]
              rfl
          · rename_i hlt
            obtain ⟨outer, hline, -⟩ :=
              exists_append_of_le byteSize byteSize_pos h.symm (by omega)
            refine ⟨line, front, outer, rfl, hline, rfl, ?_⟩
            intro houter
            rw [houter, List.append_nil] at hline
            exact absurd (Nat.le_of_eq (by rw [hline])) hlt

/-- A boundary of a text on the line it belongs to. -/
structure BoundaryAt
    (text front back : Text)
    (line inner outer : Text) (before after : Text) : Prop where
  lineAt : LineAt text (lineOfByte text (weight byteSize front)) before line after
  line_eq : line = inner ++ outer
  front_eq : front = before ++ inner
  back_eq : back = outer ++ after
  last : outer = [] → lineOfByte text (weight byteSize front) + 1 = countLines text

theorem exists_boundaryAt
    {text front back : Text}
    (h : text = front ++ back) :
    ∃ line inner outer before after, BoundaryAt text front back line inner outer before after := by
  obtain ⟨line, inner, outer, hget, hline, hfront, hlast⟩ :=
    lineIndex_boundary (splitLines_ne_nil text) ((flatten_splitLines text).trans h)
  obtain ⟨hindex, -⟩ := List.getElem?_eq_some_iff.mp hget
  obtain ⟨before, found, after, hat⟩ := exists_lineAt text hindex
  have hfound : found = line := Option.some.inj (hat.getElem?.symm.trans hget)
  subst hfound
  have hfrontEq : front = before ++ inner := by
    rw [hat.front_eq]
    exact hfront
  refine ⟨found, inner, outer, before, after, hat, hline, hfrontEq, ?_, hlast⟩
  have htext := hat.text_eq
  rw [h, hfrontEq, hline] at htext
  simpa using htext

/-- Off the inside of a terminator, a boundary is before its line's
terminator. -/
theorem BoundaryAt.content_eq
    {text front back line inner outer before after : Text}
    (h : BoundaryAt text front back line inner outer before after)
    (hinside : ¬ InsideTerminator front back) :
    ∃ rest, content line = inner ++ rest := by
  obtain ⟨body, terminator, heq, hbody, hshape⟩ :=
    (splitLines_lines text).shape h.lineAt.getElem?
  have houter : terminator ≠ [] → outer ≠ [] := by
    intro hne hnil
    rcases hshape with ⟨hterminator, -⟩ | ⟨-, hindex⟩
    · exact hne hterminator
    · have hlast := h.last hnil
      unfold countLines at hlast
      omega
  have hhead : ∀ c, terminator.head? = some c → isBreak c = true := by
    intro c hc
    rcases hshape with ⟨rfl, -⟩ | ⟨hterminator, -⟩
    · cases hc
    · exact hterminator.head c hc
  rw [heq, content_append hbody hhead]
  have happend : inner ++ outer = body ++ terminator := h.line_eq.symm.trans heq
  rcases List.append_eq_append_iff.mp happend with ⟨rest, hrest, -⟩ | ⟨cut, hinner, hterminator⟩
  · exact ⟨rest, hrest⟩
  by_cases hcut : cut = []
  · exact ⟨[], by rw [hinner, hcut]; simp⟩
  have hne : terminator ≠ [] := by
    rw [hterminator]
    simp [hcut]
  rcases hshape with ⟨hnil, -⟩ | ⟨hkind, -⟩
  · exact absurd hnil hne
  · obtain ⟨rfl, rfl⟩ := hkind.cut hterminator hcut (houter hne)
    refine absurd ⟨?_, ?_⟩ hinside
    · rw [h.front_eq, hinner]
      simp
    · rw [h.back_eq]
      rfl

end Dsql.Lsp
