import Dsql.Lsp.Position
import Mathlib.Tactic

/-!
# Exact conversion

Which texts every position of converts exactly: those whose lines all have a
character boundary two bytes before their end, no lone CR that a column can
reach, and no line or column a `u32` cannot count.
-/

namespace Dsql.Lsp

open Measured

/-- A position counts the lines before a byte and the UTF-16 units since its
line's start. -/
def Addresses (text : Text) (position : Position) (byte : Nat) : Prop :=
  position.line.toNat = lineOfByte text byte ∧
    (slice byteSize text (startOfLine text (lineOfByte text byte)) byte).map
      (weight unitSize) = some position.character.toNat

theorem BoundaryAt.slice_eq
    {text front back line inner outer before after : Text}
    (h : BoundaryAt text front back line inner outer before after) :
    slice byteSize text (startOfLine text (lineOfByte text (weight byteSize front)))
      (weight byteSize front) = some inner := by
  have hslice := slice_append byteSize byteSize_pos before inner (outer ++ after)
  have htext : text = before ++ (inner ++ (outer ++ after)) := by
    rw [h.lineAt.text_eq, h.line_eq, List.append_assoc]
  have hbyte : weight byteSize front = weight byteSize before + weight byteSize inner := by
    rw [h.front_eq, weight_append]
  rw [h.lineAt.start, hbyte]
  conv_lhs => rw [htext]
  exact hslice

theorem BoundaryAt.addresses_iff
    {text front back line inner outer before after : Text}
    (h : BoundaryAt text front back line inner outer before after)
    (position : Position) :
    Addresses text position (weight byteSize front) ↔
      position.line.toNat = lineOfByte text (weight byteSize front) ∧
        position.character.toNat = weight unitSize inner := by
  unfold Addresses
  rw [h.slice_eq, Option.map_some, Option.some_inj, @eq_comm _ (weight unitSize inner)]

theorem BoundaryAt.index_lt
    {text front back line inner outer before after : Text}
    (h : BoundaryAt text front back line inner outer before after) :
    lineOfByte text (weight byteSize front) < countLines text := by
  obtain ⟨hindex, -⟩ := List.getElem?_eq_some_iff.mp h.lineAt.getElem?
  exact hindex

theorem addressedLine_of_addresses
    {text front back line inner outer before after : Text}
    (h : BoundaryAt text front back line inner outer before after)
    {position : Position}
    (haddresses : position.line.toNat = lineOfByte text (weight byteSize front)) :
    addressedLine text position = lineOfByte text (weight byteSize front) := by
  have hindex := h.index_lt
  unfold addressedLine
  rw [haddresses]
  omega

/-- A column within a prefix of what is left of a line is that prefix's end. -/
theorem columnByte_eq
    {line inner rest : Text}
    {character : UInt32}
    (htrimmed : trimmed line = inner ++ rest)
    (hcharacter : character.toNat = weight unitSize inner) :
    columnByte line character = weight byteSize inner := by
  have hmin : min character.toNat (weight unitSize (inner ++ rest)) = weight unitSize inner := by
    rw [hcharacter, weight_append]
    omega
  rw [columnByte, htrimmed, hmin, byteOfUnit]
  exact floor_append byteSize unitSize unitSize_pos inner rest

/-- The exact position of a boundary leads back to it. -/
theorem positionToByte_of_addresses
    {ropey : RopeLibrary}
    (laws : ropey.Laws)
    {rope : ropey.Rope}
    {front back line inner outer before after : Text}
    (h : BoundaryAt (ropey.toText rope) front back line inner outer before after)
    (hinside : ¬ InsideTerminator front back)
    (hline : TailBoundary line)
    {position : Position}
    (haddresses : Addresses (ropey.toText rope) position (weight byteSize front)) :
    positionToByte ropey rope position = some (weight byteSize front) := by
  obtain ⟨hindex, hcharacter⟩ := (h.addresses_iff position).mp haddresses
  have hat := h.lineAt
  rw [← addressedLine_of_addresses h hindex] at hat
  obtain ⟨rest, hcontent⟩ := h.content_eq hinside
  obtain ⟨extra, htrimmed⟩ := hat.content_append_of_trimmed
  rw [hcontent, List.append_assoc] at htrimmed
  rw [positionToByte_eq laws hat hline, columnByte_eq htrimmed hcharacter]
  conv_rhs => rw [h.front_eq, weight_append]

/-- A boundary on a line before its terminator. -/
def WithinLine (text : Text) (index : Nat) (byte : Nat) : Prop :=
  ∃ line front back,
    (splitLines text)[index]? = some line ∧
    content line = front ++ back ∧
    byte = startOfLine text index + weight byteSize front

/-- Positions and byte offsets of a rope's text convert exactly. -/
structure Converts (ropey : RopeLibrary) (rope : ropey.Rope) : Prop where
  within (position : Position) :
    ∃ byte, positionToByte ropey rope position = some byte ∧
      WithinLine (ropey.toText rope) (addressedLine (ropey.toText rope) position) byte
  inverse (front back : Text) :
    (ropey.toText rope) = front ++ back →
    ¬ InsideTerminator front back →
    (byteToPosition ropey rope (weight byteSize front)).bind (positionToByte ropey rope) =
      some (weight byteSize front)

/-- A line on which every column converts. -/
structure CleanLine (line : Text) : Prop where
  tail : TailBoundary line
  counted : weight unitSize (content line) < 2 ^ 32
  unreached : LoneCr line → 2 ^ 32 ≤ weight unitSize (content line) + 1

structure Clean (text : Text) : Prop where
  counted : countLines text ≤ 2 ^ 32
  line (line : Text) : line ∈ splitLines text → CleanLine line

/-! ## Clean texts convert -/

theorem byteToPosition_eq
    {ropey : RopeLibrary}
    (laws : ropey.Laws)
    {rope : ropey.Rope}
    {front back line inner outer before after : Text}
    (h : BoundaryAt (ropey.toText rope) front back line inner outer before after) :
    byteToPosition ropey rope (weight byteSize front) =
      some ⟨UInt32.ofNat (lineOfByte (ropey.toText rope) (weight byteSize front)),
        UInt32.ofNat (weight unitSize inner)⟩ := by
  have htext : weight byteSize (ropey.toText rope) =
      weight byteSize front + (weight byteSize outer + weight byteSize after) := by
    rw [h.lineAt.text_eq, h.line_eq, h.front_eq]
    simp only [weight_append]
    omega
  have hmin : min (weight byteSize front) (ropey.len rope) = weight byteSize front := by
    rw [laws.len]
    omega
  obtain ⟨slice, hslice, hinner⟩ := laws.slice_eq_some h.slice_eq
  simp only [byteToPosition, hmin, laws.byteToLineIdx rope _ (htext ▸ Nat.le_add_right _ _),
    laws.lineToByteIdx rope _ h.index_lt, hslice, laws.lenUtf16, hinner, Option.bind_eq_bind,
    Option.bind_some]

theorem Clean.inverse
    {ropey : RopeLibrary}
    (laws : ropey.Laws)
    {rope : ropey.Rope}
    (h : Clean (ropey.toText rope))
    {front back : Text}
    (htext : ropey.toText rope = front ++ back)
    (hinside : ¬ InsideTerminator front back) :
    (byteToPosition ropey rope (weight byteSize front)).bind (positionToByte ropey rope) =
      some (weight byteSize front) := by
  obtain ⟨line, inner, outer, before, after, hat⟩ := exists_boundaryAt htext
  have hclean := h.line line hat.lineAt.mem
  have hindex := hat.index_lt
  have hcounted := h.counted
  obtain ⟨rest, hcontent⟩ := hat.content_eq hinside
  have hinner : weight unitSize inner < 2 ^ 32 := by
    have := hclean.counted
    rw [hcontent, weight_append] at this
    omega
  rw [byteToPosition_eq laws hat, Option.bind_some]
  apply positionToByte_of_addresses laws hat hinside hclean.tail
  rw [hat.addresses_iff]
  constructor
  · exact UInt32.toNat_ofNat_of_lt' (by unfold UInt32.size; omega)
  · exact UInt32.toNat_ofNat_of_lt' (by unfold UInt32.size; omega)

/-- A column that does not pass a prefix of what is left is a boundary of that
prefix. -/
theorem columnByte_of_le
    {line body rest : Text}
    {character : UInt32}
    (htrimmed : trimmed line = body ++ rest)
    (hle : min character.toNat (weight unitSize (trimmed line)) ≤ weight unitSize body) :
    ∃ front back, body = front ++ back ∧ columnByte line character = weight byteSize front ∧
      weight unitSize front ≤ character.toNat := by
  obtain ⟨front, back, hsplit, hfloor, hfront⟩ := floor_prefix byteSize unitSize
    (trimmed line) (min character.toNat (weight unitSize (trimmed line)))
  obtain ⟨middle, hbody, -⟩ := exists_append_of_le unitSize unitSize_pos
    (hsplit.symm.trans htrimmed) (Nat.le_trans hfront hle)
  exact ⟨front, middle, hbody, hfloor, Nat.le_trans hfront (Nat.min_le_left _ _)⟩

theorem unitSize_cr : weight unitSize ['\r'] = 1 := by decide

/-- No column of a clean line reaches past its terminator. -/
theorem CleanLine.column_le
    {text before line after : Text}
    {index : Nat}
    (h : CleanLine line)
    (hat : LineAt text index before line after)
    (character : UInt32) :
    min character.toNat (weight unitSize (trimmed line)) ≤ weight unitSize (content line) := by
  by_cases hcr : LoneCr line
  · have hreach := h.unreached hcr
    have hlt : character.toNat < 2 ^ 32 := character.toNat_lt
    omega
  · rw [hat.trimmed_eq_content hcr]
    exact Nat.min_le_right _ _

theorem Clean.within
    {ropey : RopeLibrary}
    (laws : ropey.Laws)
    {rope : ropey.Rope}
    (h : Clean (ropey.toText rope))
    (position : Position) :
    ∃ byte, positionToByte ropey rope position = some byte ∧
      WithinLine (ropey.toText rope) (addressedLine (ropey.toText rope) position) byte := by
  obtain ⟨before, line, after, hat⟩ := exists_lineAt (ropey.toText rope) (addressedLine_lt (ropey.toText rope) position)
  have hclean := h.line line hat.mem
  obtain ⟨rest, htrimmed⟩ := hat.content_append_of_trimmed
  obtain ⟨front, back, hcontent, hcolumn, -⟩ :=
    columnByte_of_le htrimmed (hclean.column_le hat position.character)
  refine ⟨_, positionToByte_eq laws hat hclean.tail, line, front, back, hat.getElem?, hcontent, ?_⟩
  rw [hat.start, hcolumn]

theorem Clean.converts
    {ropey : RopeLibrary}
    (laws : ropey.Laws)
    {rope : ropey.Rope}
    (h : Clean (ropey.toText rope)) :
    Converts ropey rope :=
  ⟨h.within laws, fun _ _ htext hinside => h.inverse laws htext hinside⟩

/-! ## Texts that convert are clean -/

/-- A prefix of a line lies on that line. -/
theorem lineIndex_eq
    {lines : List Text}
    {index : Nat}
    {line inner outer : Text}
    (hget : lines[index]? = some line)
    (hline : line = inner ++ outer)
    (hlast : outer = [] → index + 1 = lines.length) :
    lineIndex lines (weight byteSize ((lines.take index).flatten ++ inner)) = index := by
  induction lines generalizing index with
  | nil => cases hget
  | cons first lines ih =>
      cases lines with
      | nil =>
          cases index with
          | zero => rfl
          | succ index => cases hget
      | cons next lines =>
          cases index with
          | zero =>
              have hfirst : first = line := Option.some.inj hget
              have houter : outer ≠ [] := by
                intro hnil
                have := hlast hnil
                simp at this
              have hpos := weight_pos byteSize byteSize_pos houter
              have hlt : ¬ weight byteSize first ≤ weight byteSize inner := by
                rw [hfirst, hline, weight_append]
                omega
              rw [lineIndex]
              exact if_neg hlt
          | succ index =>
              have hrest := ih hget (fun hnil => by
                have := hlast hnil
                simp only [List.length_cons] at this ⊢
                omega)
              have htake : weight byteSize (((first :: next :: lines).take (index + 1)).flatten ++
                  inner) = weight byteSize first +
                    weight byteSize (((next :: lines).take index).flatten ++ inner) := by
                rw [List.take_succ_cons, List.flatten_cons, List.append_assoc, weight_append]
              rw [htake, lineIndex, if_pos (by omega), Nat.add_sub_cancel_left, hrest]

theorem LineAt.boundaryAt
    {text before line after inner outer : Text}
    {index : Nat}
    (h : LineAt text index before line after)
    (hline : line = inner ++ outer)
    (hlast : outer = [] → index + 1 = countLines text) :
    lineOfByte text (weight byteSize (before ++ inner)) = index ∧
      BoundaryAt text (before ++ inner) (outer ++ after) line inner outer before after := by
  have hindex : lineOfByte text (weight byteSize (before ++ inner)) = index := by
    rw [h.front_eq]
    exact lineIndex_eq h.getElem? hline hlast
  exact ⟨hindex, by rwa [hindex], hline, rfl, rfl, by rwa [hindex]⟩

theorem Terminator.ne_nil
    {terminator : Text}
    (h : Terminator terminator) :
    terminator ≠ [] := by
  cases h <;> exact List.cons_ne_nil _ _

theorem Terminator.eq_cr
    {body terminator : Text}
    (h : Terminator terminator)
    (hlast : (body ++ terminator).getLast? = some '\r') :
    terminator = ['\r'] := by
  rw [List.getLast?_append_of_ne_nil _ h.ne_nil] at hlast
  cases h with
  | lf => exact absurd hlast (by decide)
  | crlf => exact absurd hlast (by decide)
  | cr => rfl

/-- A line's start is never inside a terminator. -/
theorem Lines.not_insideTerminator
    {lines : List Text}
    (h : Lines lines)
    (index : Nat) :
    ¬ InsideTerminator (lines.take index).flatten (lines.drop index).flatten := by
  induction h generalizing index with
  | @last body hbody =>
      rintro ⟨hcr, hlf⟩
      cases index with
      | zero => cases hcr
      | succ index =>
          rw [List.drop_succ_cons, List.drop_nil] at hlf
          cases hlf
  | @cons body terminator lines hbody hterminator hnext hlines ih =>
      rintro ⟨hcr, hlf⟩
      cases index with
      | zero => cases hcr
      | succ index =>
          rw [List.take_succ_cons, List.flatten_cons] at hcr
          rw [List.drop_succ_cons] at hlf
          by_cases hempty : (lines.take index).flatten = []
          · rw [hempty, List.append_nil] at hcr
            have hflatten : lines.flatten = (lines.drop index).flatten := by
              conv_lhs => rw [← List.take_append_drop index lines, List.flatten_append, hempty]
              rfl
            exact hnext (hterminator.eq_cr hcr) (by rwa [hflatten])
          · rw [List.getLast?_append_of_ne_nil _ hempty] at hcr
            exact ih index ⟨hcr, hlf⟩

/-- Nothing of a line that is not the last is left out by an empty rest. -/
theorem LineAt.content_split
    {text before line after : Text}
    {index : Nat}
    (h : LineAt text index before line after) :
    ∃ rest, line = content line ++ rest ∧ (rest = [] → index + 1 = countLines text) := by
  obtain ⟨body, terminator, rfl, hbody, hshape⟩ := (splitLines_lines text).shape h.getElem?
  rcases hshape with ⟨rfl, hindex⟩ | ⟨hterminator, -⟩
  · exact ⟨[], by rw [content_append hbody (by simp)], fun _ => hindex⟩
  · refine ⟨terminator, by rw [content_append hbody hterminator.head], ?_⟩
    exact fun hnil => absurd hnil hterminator.ne_nil

theorem LineAt.not_insideTerminator
    {text before line after : Text}
    {index : Nat}
    (h : LineAt text index before line after) :
    ¬ InsideTerminator before (line ++ after) := by
  have hinside := (splitLines_lines text).not_insideTerminator index
  have hdrop : line ++ after = ((splitLines text).drop index).flatten := by
    have htext := h.text_eq
    rw [← flatten_splitLines text, ← List.take_append_drop index (splitLines text),
      List.flatten_append, ← h.front_eq] at htext
    exact (List.append_cancel_left htext).symm
  rwa [hdrop, h.front_eq]

/-- A byte within a line is on that line. -/
theorem WithinLine.lineOfByte
    {text : Text}
    {index byte : Nat}
    (h : WithinLine text index byte) :
    lineOfByte text byte = index := by
  obtain ⟨line, front, back, hget, hcontent, hbyte⟩ := h
  obtain ⟨hindex, -⟩ := List.getElem?_eq_some_iff.mp hget
  obtain ⟨before, found, after, hat⟩ := exists_lineAt text hindex
  have hfound : found = line := Option.some.inj (hat.getElem?.symm.trans hget)
  subst hfound
  obtain ⟨rest, hline, hrest⟩ := hat.content_split
  rw [hcontent, List.append_assoc] at hline
  obtain ⟨hresult, -⟩ := hat.boundaryAt hline
    (fun hnil => hrest (List.append_eq_nil_iff.mp hnil).2)
  rwa [weight_append, ← hat.start, ← hbyte] at hresult

/-- Lines past the last one a `u32` counts do not convert. -/
theorem Converts.counted
    {ropey : RopeLibrary}
    (laws : ropey.Laws)
    {rope : ropey.Rope}
    (h : Converts ropey rope) :
    countLines (ropey.toText rope) ≤ 2 ^ 32 := by
  by_contra hcount
  obtain ⟨before, line, after, hat⟩ := exists_lineAt (ropey.toText rope) (Nat.lt_of_not_le hcount)
  obtain ⟨rest, hline, hrest⟩ := hat.content_split
  have hlast : line = [] → 2 ^ 32 + 1 = countLines (ropey.toText rope) := by
    intro hnil
    rw [hnil] at hline
    exact hrest (List.append_eq_nil_iff.mp hline.symm).2
  obtain ⟨hindex, hboundary⟩ := hat.boundaryAt (List.nil_append line).symm hlast
  rw [List.append_nil] at hindex hboundary
  have hinverse := h.inverse before (line ++ after) hat.text_eq hat.not_insideTerminator
  rw [byteToPosition_eq laws hboundary, hindex, Option.bind_some] at hinverse
  obtain ⟨byte, hbyte, hwithin⟩ := h.within ⟨UInt32.ofNat (2 ^ 32), UInt32.ofNat 0⟩
  have heq : byte = weight byteSize before := Option.some.inj (hbyte.symm.trans hinverse)
  have hzero : addressedLine (ropey.toText rope) ⟨UInt32.ofNat (2 ^ 32), UInt32.ofNat 0⟩ = 0 := by
    have hwrap : (UInt32.ofNat (2 ^ 32)).toNat = 0 := by decide
    rw [addressedLine, hwrap, Nat.zero_min]
  have hline := hwithin.lineOfByte
  rw [heq, hindex, hzero] at hline
  exact absurd hline (by decide)

/-- The position of a column on a line a `u32` counts. -/
theorem addressedLine_ofNat
    {text : Text}
    {index : Nat}
    (hcount : countLines text ≤ 2 ^ 32)
    (hindex : index < countLines text)
    (character : UInt32) :
    addressedLine text ⟨UInt32.ofNat index, character⟩ = index := by
  have htoNat : (UInt32.ofNat index).toNat = index :=
    UInt32.toNat_ofNat_of_lt' (by unfold UInt32.size; omega)
  rw [addressedLine, htoNat]
  omega

section

variable {before line after : Text} {index : Nat}

/-- The end of what stands before a terminator is not inside one. -/
theorem content_not_insideTerminator
    {rest : Text}
    (hne : content line ≠ []) :
    ¬ InsideTerminator (before ++ content line) rest := by
  rintro ⟨hcr, -⟩
  rw [List.getLast?_append_of_ne_nil _ hne] at hcr
  have hfree := List.all_eq_true.mp List.all_takeWhile '\r' (List.mem_of_getLast? hcr)
  exact absurd hfree (by decide)

variable {ropey : RopeLibrary} (laws : ropey.Laws) {rope : ropey.Rope}

include laws

theorem Converts.tail
    (h : Converts ropey rope)
    (hat : LineAt (ropey.toText rope) index before line after) :
    TailBoundary line := by
  obtain ⟨hindex, -⟩ := List.getElem?_eq_some_iff.mp hat.getElem?
  by_contra htail
  obtain ⟨byte, hbyte, -⟩ := h.within ⟨UInt32.ofNat index, 0⟩
  rw [← addressedLine_ofNat (h.counted laws) hindex 0] at hat
  rw [positionToByte_eq_none laws hat htail] at hbyte
  cases hbyte

/-- Every column of a line is a boundary before its terminator. -/
theorem Converts.column
    (h : Converts ropey rope)
    (hat : LineAt (ropey.toText rope) index before line after)
    (character : UInt32) :
    ∃ front back, content line = front ++ back ∧
      columnByte line character = weight byteSize front := by
  obtain ⟨hindex, -⟩ := List.getElem?_eq_some_iff.mp hat.getElem?
  have haddressed := addressedLine_ofNat (h.counted laws) hindex character
  have htail := h.tail laws hat
  obtain ⟨byte, hbyte, found, front, back, hget, hcontent, heq⟩ :=
    h.within ⟨UInt32.ofNat index, character⟩
  rw [haddressed] at hget heq
  have hfound : line = found := Option.some.inj (hat.getElem?.symm.trans hget)
  subst hfound
  rw [hat.start] at heq
  rw [← haddressed] at hat
  rw [positionToByte_eq laws hat htail] at hbyte
  cases hbyte
  exact ⟨front, back, hcontent, Nat.add_left_cancel heq⟩

theorem Converts.unreached
    (h : Converts ropey rope)
    (hat : LineAt (ropey.toText rope) index before line after)
    (hcr : LoneCr line) :
    2 ^ 32 ≤ weight unitSize (content line) + 1 := by
  by_contra hreach
  have hline := (hat.loneCr_eq hcr).1
  have hcharacter : (UInt32.ofNat (weight unitSize (content line) + 1)).toNat =
      weight unitSize (content line ++ ['\r']) := by
    rw [UInt32.toNat_ofNat_of_lt' (by unfold UInt32.size; omega), weight_append, unitSize_cr]
  obtain ⟨front, back, hcontent, hcolumn⟩ :=
    h.column laws hat (UInt32.ofNat (weight unitSize (content line) + 1))
  have htrimmed : trimmed line = content line ++ ['\r'] ++ [] := by
    rw [trimmed_loneCr hcr, List.append_nil]
    exact hline
  rw [columnByte_eq htrimmed hcharacter, hcontent] at hcolumn
  have hpos : 0 < weight byteSize ['\r'] := by decide
  simp only [weight_append] at hcolumn
  omega

theorem Converts.unitsCounted
    (h : Converts ropey rope)
    (hat : LineAt (ropey.toText rope) index before line after) :
    weight unitSize (content line) < 2 ^ 32 := by
  by_contra hcount
  obtain ⟨hindex, -⟩ := List.getElem?_eq_some_iff.mp hat.getElem?
  obtain ⟨rest, hline, hrest⟩ := hat.content_split
  obtain ⟨hlineIdx, hboundary⟩ := hat.boundaryAt hline hrest
  have hne : content line ≠ [] := by
    intro hnil
    rw [hnil, weight_nil] at hcount
    exact hcount (by decide)
  have htext : ropey.toText rope = before ++ content line ++ (rest ++ after) := by
    rw [List.append_assoc, ← List.append_assoc (content line), ← hline]
    exact hat.text_eq
  have hinverse := h.inverse _ _ htext (content_not_insideTerminator hne)
  rw [byteToPosition_eq laws hboundary, hlineIdx, Option.bind_some] at hinverse
  have htail := h.tail laws hat
  obtain ⟨extra, htrimmed⟩ := hat.content_append_of_trimmed
  rw [← addressedLine_ofNat (h.counted laws) hindex
    (UInt32.ofNat (weight unitSize (content line)))] at hat
  rw [positionToByte_eq laws hat htail, weight_append] at hinverse
  have hcolumn := Nat.add_left_cancel (Option.some.inj hinverse)
  have hwrap : (UInt32.ofNat (weight unitSize (content line))).toNat < 2 ^ 32 :=
    UInt32.toNat_lt _
  -- the column wrapped round, so it is floored short of the line's end
  obtain ⟨front, back, hcontent, hfront, hle⟩ := columnByte_of_le htrimmed
    (Nat.le_trans (Nat.min_le_left _ _) (Nat.le_trans (Nat.le_of_lt hwrap) (Nat.not_lt.mp hcount)))
  have heq : front = content line := by
    have happend : front ++ back = content line ++ [] := by rw [List.append_nil, ← hcontent]
    exact (append_unique byteSize byteSize_pos happend (hfront.symm.trans hcolumn)).1
  rw [heq] at hle
  omega

end

theorem Converts.clean
    {ropey : RopeLibrary}
    (laws : ropey.Laws)
    {rope : ropey.Rope}
    (h : Converts ropey rope) :
    Clean (ropey.toText rope) := by
  refine ⟨h.counted laws, ?_⟩
  intro line hmem
  obtain ⟨index, hget⟩ := List.mem_iff_getElem?.mp hmem
  obtain ⟨hindex, -⟩ := List.getElem?_eq_some_iff.mp hget
  obtain ⟨before, found, after, hat⟩ := exists_lineAt (ropey.toText rope) hindex
  have hfound : found = line := Option.some.inj (hat.getElem?.symm.trans hget)
  subst hfound
  exact ⟨h.tail laws hat, h.unitsCounted laws hat, h.unreached laws hat⟩

theorem converts_iff_clean
    {ropey : RopeLibrary}
    (laws : ropey.Laws)
    (rope : ropey.Rope) :
    Converts ropey rope ↔ Clean (ropey.toText rope) :=
  ⟨Converts.clean laws, Clean.converts laws⟩

end Dsql.Lsp
