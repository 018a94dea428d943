import Dsql.Rewrite.Bindings
import Mathlib.Tactic

/-!
# Where the import block lands

The insertion point is found in the original code and used on the spliced
bytes.  The block is at the border of prologue and first statement exactly if
the expressions before that border keep it where it was.
-/

namespace Dsql
namespace Rewrite

/-! ## The parser -/

/-- The length of a text in the unit of the parser. -/
def OffsetUnit.length (unit : OffsetUnit) (text : List Char) : Nat :=
  match unit with
  | .utf16 => (text.flatMap utf16Units).length
  | .utf8 => byteLength text

/-- The parser reports statement starts, which are borders of characters, in
one unit; the probe is a directive and a declaration. -/
structure Documented (parser : Parser) (unit : OffsetUnit) : Prop where
  probe : ∃ directive rest, parser probePath probeSnippet =
    directive :: ⟨false, unit.length (probeSnippet.take 4)⟩ :: rest
  borders : ∀ path code, ∀ statement ∈ parser path code, ∃ count,
    statement.start = unit.length (code.take count)

/-- The byte position between the directive prologue and the first statement,
or the end of a module without statements. -/
inductive PrologueEnd (parser : Parser) (unit : OffsetUnit) (path code : List Char) :
    Nat → Prop where
  | statement {statement : Statement} {count : Nat} :
      (parser path code).find? (fun other => !other.directive) = some statement →
      statement.start = unit.length (code.take count) →
      PrologueEnd parser unit path code (byteLength (code.take count))
  | directives :
      (parser path code).find? (fun other => !other.directive) = none →
      PrologueEnd parser unit path code (byteLength code)

theorem utf16Units_length_pos (c : Char) : 0 < (utf16Units c).length := by
  unfold utf16Units
  split
  · exact Nat.zero_lt_one
  · exact Nat.zero_lt_two

theorem sliceUnits_take
    (code : List Char)
    (count : Nat) :
    sliceUnits ((code.take count).flatMap utf16Units).length code =
      code.take count := by
  induction code generalizing count with
  | nil =>
      rw [List.take_nil]
      rfl
  | cons c code ih =>
      cases count with
      | zero =>
          have hpositive := utf16Units_length_pos c
          rw [List.take_zero, List.flatMap_nil, List.length_nil, sliceUnits,
            if_neg (by omega)]
      | succ count =>
          rw [List.take_succ_cons, List.flatMap_cons, List.length_append, sliceUnits,
            if_pos (Nat.le_add_right _ _), Nat.add_sub_cancel_left, ih]

/-- A position in the parser's unit is converted to the same position in
bytes. -/
theorem OffsetUnit.convert_length
    (unit : OffsetUnit)
    (code : List Char)
    (count : Nat) :
    unit.convert code (unit.length (code.take count)) =
      byteLength (code.take count) := by
  cases unit with
  | utf16 =>
      rw [OffsetUnit.convert, OffsetUnit.length, sliceUnits_take]
  | utf8 => rfl

theorem probeOffsetConverter_ok
    {parser : Parser}
    {unit : OffsetUnit}
    (h : Documented parser unit) :
    probeOffsetConverter parser = .ok unit := by
  obtain ⟨directive, rest, hprobe⟩ := h.probe
  have hsecond : ((parser probePath probeSnippet)[1]?).map Statement.start =
      some (unit.length (probeSnippet.take 4)) := by
    rw [hprobe]
    rfl
  unfold probeOffsetConverter
  rw [hsecond]
  cases unit with
  | utf16 =>
      have hlength : OffsetUnit.utf16.length (probeSnippet.take 4) = 4 := by
        decide +kernel
      rw [hlength]
      rfl
  | utf8 =>
      have hlength : OffsetUnit.utf8.length (probeSnippet.take 4) = 5 := by
        decide +kernel
      rw [hlength]
      rfl

theorem importInsertionByteOffset_ok
    {parser : Parser}
    {unit : OffsetUnit}
    (h : Documented parser unit)
    (code path : List Char) :
    ∃ position, importInsertionByteOffset parser code path = .ok position ∧
      PrologueEnd parser unit path code position := by
  unfold importInsertionByteOffset
  rw [probeOffsetConverter_ok h]
  cases hfind : (parser path code).find? (fun statement => !statement.directive) with
  | none => exact ⟨byteLength code, rfl, .directives hfind⟩
  | some statement =>
      obtain ⟨count, hcount⟩ :=
        h.borders path code statement (List.mem_of_find?_eq_some hfind)
      refine ⟨byteLength (code.take count), ?_, .statement hfind hcount⟩
      rw [← unit.convert_length, ← hcount]
      rfl

theorem byteLength_take_le
    (code : List Char)
    (count : Nat) :
    byteLength (code.take count) ≤ byteLength code := by
  have happend : utf8 (code.take count) ++ utf8 (code.drop count) = utf8 code := by
    rw [utf8, utf8, ← List.flatMap_append, List.take_append_drop, utf8]
  unfold byteLength
  rw [← happend, List.length_append]
  exact Nat.le_add_right _ _

theorem PrologueEnd.le
    {parser : Parser}
    {unit : OffsetUnit}
    {path code : List Char}
    {position : Nat}
    (h : PrologueEnd parser unit path code position) :
    position ≤ byteLength code := by
  cases h with
  | statement _ _ => exact byteLength_take_le code _
  | directives _ => exact le_refl _

/-! ## Splices -/

/-- Expression ranges: not empty, inside the file and pairwise disjoint. -/
structure DisjointRanges (length : Nat) (ranges : List ByteRange) : Prop where
  proper : ∀ range ∈ ranges, range.start < range.stop ∧ range.stop ≤ length
  disjoint : ranges.Pairwise (fun first second =>
    first.stop ≤ second.start ∨ second.stop ≤ first.start)

section Splices

variable {length : Nat}
variable {splices : List (Edit UInt8)}

theorem sortSplices_reverse_ordered
    (hwidth : ∀ splice ∈ splices, splice.start < splice.stop)
    (hbounded : ∀ splice ∈ splices, splice.stop ≤ length)
    (hdisjoint : splices.Pairwise (fun first second =>
      first.stop ≤ second.start ∨ second.stop ≤ first.start)) :
    Edit.Ordered length (sortSplices splices).reverse := by
  have hperm : (sortSplices splices).Perm splices := sortBy_perm _ splices
  have hsorted : (sortSplices splices).Pairwise (fun first second =>
      second.start ≤ first.start) :=
    (sortBy_pairwise (fun splice : Edit UInt8 => OrderDual.toDual splice.start)
      splices).imp (fun h => h)
  have hapart : (sortSplices splices).Pairwise (fun first second =>
      first.stop ≤ second.start ∨ second.stop ≤ first.start) :=
    hdisjoint.perm hperm.symm (fun h => h.symm)
  have hmem : ∀ splice ∈ (sortSplices splices).reverse, splice ∈ splices :=
    fun splice h => hperm.mem_iff.mp (List.mem_reverse.mp h)
  refine ⟨?_, ?_, ?_⟩
  · rw [List.pairwise_reverse]
    refine (hsorted.and hapart).imp_of_mem ?_
    rintro first second hfirst - ⟨hle, hbefore | hbefore⟩
    · have hpositive := hwidth first (hperm.mem_iff.mp hfirst)
      unfold Edit.Before
      omega
    · exact hbefore
  · exact fun splice h => le_of_lt (hwidth splice (hmem splice h))
  · exact fun splice h => hbounded splice (hmem splice h)

/-- Splices in descending order are never out of bounds. -/
theorem applySplices_reverse
    (path : List Char)
    {bytes : List UInt8}
    (h : Edit.Ordered bytes.length splices) :
    applySplices path splices.reverse bytes = .ok (Edit.rebuild bytes 0 splices) := by
  rw [← Edit.foldl_apply_reverse h]
  induction splices using List.reverseRecOn generalizing bytes with
  | nil => rfl
  | append_singleton splices last ih =>
      have hlast : last ∈ splices ++ [last] :=
        List.mem_append_right _ (List.mem_singleton_self last)
      have hstop := h.bounded last hlast
      have hstart := h.proper last hlast
      rw [List.reverse_append, List.reverse_singleton, List.singleton_append,
        applySplices, if_neg (by omega), List.foldl_cons]
      exact ih h.apply_last

end Splices

/-! ## The import block -/

section Imports

variable {options : RewriteOptions}

theorem collectExpressions_specifierFor
    (specifierFor : DsqlRenderModule → List Char)
    (expressions : List CallsiteExpression)
    (collected : Collected) :
    collectExpressions { options with specifierFor := specifierFor } expressions
        collected =
      collectExpressions options expressions collected := by
  induction expressions generalizing collected with
  | nil => rfl
  | cons expression expressions ih =>
      unfold collectExpressions
      cases options.modules expression.target with
      | none => rfl
      | some module => exact ih _

theorem jsonStringify_replicate (count : Nat) :
    jsonStringify (List.replicate count 'a') =
      '"' :: (List.replicate count 'a' ++ ['"']) := by
  unfold jsonStringify
  congr 2
  induction count with
  | zero => rfl
  | succ count ih =>
      rw [List.replicate_succ, List.flatMap_cons, ih]
      rfl

/-- A line starts with the keyword and ends with its specifier. -/
theorem importLine_shape
    (count : Nat)
    (names : LocalNames)
    (module : DsqlRenderModule) :
    ∃ middle, importLine
        { options with specifierFor := fun _ => List.replicate count 'a' }
        names module =
      'i' :: middle ++ (List.replicate count 'a' ++ "\";\n".toList) := by
  unfold importLine
  simp only [jsonStringify_replicate]
  generalize (if (localFor options.code names module).2 = module.exportName then
      module.exportName
    else
      module.exportName ++ " as ".toList ++ (localFor options.code names module).2) =
    clause
  refine ⟨"mport \x7b ".toList ++ clause ++ " \x7d from ".toList ++ ['"'], ?_⟩
  have hkeyword : "import \x7b ".toList = 'i' :: "mport \x7b ".toList := by
    decide
  have hend : "\";\n".toList = '"' :: ";\n".toList := by
    decide
  rw [hkeyword, hend]
  simp only [List.append_assoc, List.cons_append, List.nil_append]

theorem importBlock_shape
    (options : RewriteOptions)
    (count : Nat)
    {collected : Collected}
    (hused : collected.used ≠ []) :
    ∃ middle, importBlock
        { options with specifierFor := fun _ => List.replicate count 'a' } collected =
      'i' :: middle ++ (List.replicate count 'a' ++ "\";\n".toList) := by
  unfold importBlock
  generalize hlines : sortBy (fun line : List Char => line.flatMap utf16Units)
    (collected.used.map (fun entry => importLine
      { options with specifierFor := fun _ => List.replicate count 'a' }
      collected.localNames entry.2)) = lines
  have hshape : ∀ line ∈ lines, ∃ middle,
      line = 'i' :: middle ++ (List.replicate count 'a' ++ "\";\n".toList) := by
    intro line hmem
    rw [← hlines] at hmem
    obtain ⟨entry, -, rfl⟩ := List.mem_map.mp ((sortBy_perm _ _).mem_iff.mp hmem)
    exact importLine_shape count collected.localNames entry.2
  have hne : lines ≠ [] := by
    rintro rfl
    have hnil := (sortBy_perm _ _).symm.trans (List.Perm.of_eq hlines)
    exact hused (List.map_eq_nil_iff.mp hnil.eq_nil)
  rcases List.eq_nil_or_concat' lines with hnil | ⟨init, last, rfl⟩
  · exact absurd hnil hne
  · obtain ⟨middle, hlast⟩ := hshape last
      (List.mem_append_right _ (List.mem_singleton_self last))
    rw [List.flatten_append, List.flatten_singleton, hlast]
    cases init with
    | nil => exact ⟨middle, rfl⟩
    | cons first init =>
        obtain ⟨start, hfirst⟩ := hshape first
          (List.mem_append_left _ List.mem_cons_self)
        rw [List.flatten_cons, hfirst]
        exact ⟨start ++ (List.replicate count 'a' ++ "\";\n".toList) ++ init.flatten ++
          'i' :: middle, by simp only [List.append_assoc, List.cons_append]⟩

theorem utf8_append (first second : List Char) :
    utf8 (first ++ second) = utf8 first ++ utf8 second :=
  List.flatMap_append

theorem utf8_replicate (count : Nat) :
    utf8 (List.replicate count 'a') = List.replicate count 97 := by
  induction count with
  | zero => rfl
  | succ count ih =>
      rw [List.replicate_succ, utf8, List.flatMap_cons, ← utf8, ih,
        List.replicate_succ]
      rfl

/-- With a long specifier the block cannot be exchanged with what it was
displaced by. -/
theorem importBlock_ne
    (options : RewriteOptions)
    (count : Nat)
    {collected : Collected}
    (hused : collected.used ≠ [])
    (moved : List UInt8)
    (hne : moved ≠ [])
    (hlength : moved.length ≤ count) :
    moved ++ utf8 (importBlock
        { options with specifierFor := fun _ => List.replicate count 'a' } collected) ≠
      utf8 (importBlock
        { options with specifierFor := fun _ => List.replicate count 'a' } collected) ++
        moved := by
  obtain ⟨middle, hblock⟩ := importBlock_shape options count hused
  have htail : utf8 (List.replicate count 'a' ++ "\";\n".toList) =
      List.replicate count 97 ++ [34, 59, 10] := by
    rw [utf8_append, utf8_replicate]
    congr 1
  rw [hblock, utf8_append, htail]
  refine Edit.append_ne_append 105 hne ?_ ?_ ?_
  · rw [List.length_append, List.length_replicate]
    omega
  · rfl
  · intro hmem
    rcases List.mem_append.mp hmem with hmem | hmem
    · exact absurd (List.eq_of_mem_replicate hmem) (by decide)
    · exact absurd hmem (by decide)

end Imports

/-! ## The rewritten module -/

section Rewriting

variable {parser : Parser}
variable {unit : OffsetUnit}
variable {options : RewriteOptions}
variable {collected : Collected}

theorem replacement_text_ne_nil
    (hmapped : ∀ expression ∈ options.callsite.expressions, ∃ module,
      options.modules expression.target = some module)
    (hcollected : CollectedFrom options options.callsite.expressions ⟨[], [], []⟩
      collected) :
    ∀ edit ∈ options.callsite.expressions.map
        (replacement options collected.localNames), edit.text ≠ [] := by
  intro edit hmem
  obtain ⟨expression, hexpression, rfl⟩ := List.mem_map.mp hmem
  obtain ⟨module, hmodule⟩ := hmapped expression hexpression
  obtain ⟨name, hname⟩ := hcollected.named expression hexpression module hmodule
  have hwritten := hcollected.free.written _ (LocalNames.mem_of_get? hname)
  simp only [replacement, hmodule, localBinding, hname, Option.getD_some]
  obtain ⟨c, rest, rfl⟩ := List.exists_cons_of_ne_nil hwritten
  intro hnil
  rw [utf8, List.flatMap_cons] at hnil
  exact String.utf8EncodeChar_ne_nil (List.append_eq_nil_iff.mp hnil).1

theorem replacement_ranges
    (names : LocalNames)
    (hranges : DisjointRanges (byteLength options.code)
      (options.callsite.expressions.map CallsiteExpression.range)) :
    (∀ edit ∈ options.callsite.expressions.map (replacement options names),
      edit.start < edit.stop ∧ edit.stop ≤ byteLength options.code) ∧
    (options.callsite.expressions.map (replacement options names)).Pairwise
      (fun first second =>
        first.stop ≤ second.start ∨ second.stop ≤ first.start) := by
  constructor
  · intro edit hmem
    obtain ⟨expression, hexpression, rfl⟩ := List.mem_map.mp hmem
    exact hranges.proper _ (List.mem_map_of_mem hexpression)
  · have hdisjoint := hranges.disjoint
    rw [List.pairwise_map] at hdisjoint ⊢
    exact hdisjoint

/-- What the code returns for a collection with expressions. -/
theorem rewriteCallsites_ok
    (hresolver : options.callsite.resolver = "typescript".toList)
    (hcollect : collectExpressions options options.callsite.expressions ⟨[], [], []⟩ =
      .ok collected)
    (hsplices : collected.splices ≠ [])
    {position : Nat}
    (hposition : importInsertionByteOffset parser options.code options.path =
      .ok position)
    (hordered : Edit.Ordered (utf8 options.code).length
      (sortSplices collected.splices).reverse)
    (specifierFor : DsqlRenderModule → List Char) :
    rewriteCallsites parser { options with specifierFor := specifierFor } =
      .ok ((Edit.rebuild (utf8 options.code) 0
            (sortSplices collected.splices).reverse).take position ++
          utf8 (importBlock { options with specifierFor := specifierFor } collected) ++
        (Edit.rebuild (utf8 options.code) 0
            (sortSplices collected.splices).reverse).drop position) := by
  have hempty : collected.splices.isEmpty = false := by
    cases hlist : collected.splices with
    | nil => exact absurd hlist hsplices
    | cons splice splices => rfl
  have happly := applySplices_reverse options.path hordered
  rw [List.reverse_reverse] at happly
  unfold rewriteCallsites
  rw [if_neg (not_not.mpr hresolver), collectExpressions_specifierFor, hcollect]
  show (if collected.splices.isEmpty then _ else _) = _
  rw [hempty, if_neg Bool.false_ne_true]
  show (applySplices options.path _ _ >>= _) = _
  rw [happly]
  show (importInsertionByteOffset parser options.code options.path >>= _) = _
  rw [hposition]
  rfl

theorem rewriteCallsites_empty
    (hresolver : options.callsite.resolver = "typescript".toList)
    (hempty : options.callsite.expressions = [])
    (specifierFor : DsqlRenderModule → List Char) :
    rewriteCallsites parser { options with specifierFor := specifierFor } =
      .ok (utf8 options.code) := by
  unfold rewriteCallsites
  rw [if_neg (not_not.mpr hresolver), hempty]
  rfl

/-- Every expression becomes the binding of its own target and the import block
stands between prologue and first statement, with every other byte kept,
exactly if the expressions in front of that place leave it where it was. -/
theorem rewriteCallsites_exact_iff
    (parser : Parser)
    (unit : OffsetUnit)
    (hparser : Documented parser unit)
    (options : RewriteOptions)
    (hresolver : options.callsite.resolver = "typescript".toList)
    (hmapped : ∀ expression ∈ options.callsite.expressions, ∃ module,
      options.modules expression.target = some module)
    (hranges : DisjointRanges (byteLength options.code)
      (options.callsite.expressions.map CallsiteExpression.range)) :
    ∃ collected position,
      collectExpressions options options.callsite.expressions ⟨[], [], []⟩ =
          .ok collected ∧
        SafeBindings options collected.localNames ∧
        PrologueEnd parser unit options.path options.code position ∧
        ((∀ specifierFor, ∃ bytes,
          rewriteCallsites parser { options with specifierFor := specifierFor } =
              .ok bytes ∧
            Edit.Edited (utf8 options.code)
              (Edit.insertion position (utf8 (importBlock
                  { options with specifierFor := specifierFor } collected)) ::
                options.callsite.expressions.map
                  (replacement options collected.localNames)) bytes) ↔
          Edit.Settled (byteLength options.code) position
            (options.callsite.expressions.map
              (replacement options collected.localNames))) := by
  have hstart : NamesFree options.code [] :=
    ⟨fun _ h => absurd h List.not_mem_nil, fun _ h => absurd h List.not_mem_nil,
      List.nodup_nil⟩
  obtain ⟨collected, hcollect, hcollected⟩ := @collectExpressions_from options
    options.callsite.expressions hmapped ⟨[], [], []⟩ hstart
  obtain ⟨position, hposition, hprologue⟩ :=
    importInsertionByteOffset_ok hparser options.code options.path
  refine ⟨collected, position, hcollect, hcollected.safe, hprologue, ?_⟩
  have hsplices : collected.splices = options.callsite.expressions.map
      (replacement options collected.localNames) := hcollected.splices
  obtain ⟨hproper, hdisjoint⟩ := replacement_ranges collected.localNames hranges
  have htext := replacement_text_ne_nil hmapped hcollected
  have hused := hcollected.used
  rw [← hsplices] at hproper hdisjoint htext ⊢
  have hordered : Edit.Ordered (utf8 options.code).length
      (sortSplices collected.splices).reverse :=
    sortSplices_reverse_ordered (fun splice h => (hproper splice h).1)
      (fun splice h => (hproper splice h).2) hdisjoint
  have hperm : (sortSplices collected.splices).reverse.Perm collected.splices :=
    (List.reverse_perm _).trans (sortBy_perm _ _)
  have hwidth : ∀ edit ∈ (sortSplices collected.splices).reverse,
      edit.start < edit.stop :=
    fun edit h => (hproper edit (hperm.mem_iff.mp h)).1
  have htext' : ∀ edit ∈ (sortSplices collected.splices).reverse, edit.text ≠ [] :=
    fun edit h => htext edit (hperm.mem_iff.mp h)
  constructor
  · intro h
    by_cases hexpressions : options.callsite.expressions = []
    · rw [hsplices, hexpressions]
      exact ⟨fun edit hmem => absurd hmem List.not_mem_nil, .inl rfl⟩
    · have hne : collected.splices ≠ [] := by
        rw [hsplices]
        exact fun hnil => hexpressions (List.map_eq_nil_iff.mp hnil)
      obtain ⟨bytes, hbytes, hedited⟩ := h (fun _ => List.replicate
        (Edit.rebuild (utf8 options.code) 0
          (sortSplices collected.splices).reverse).length 'a')
      rw [rewriteCallsites_ok hresolver hcollect hne hposition hordered] at hbytes
      cases hbytes
      rw [← Edit.edited_perm (hperm.cons _)] at hedited
      exact (Edit.settled_perm hperm).mp
        (Edit.settled_of_edited hordered hwidth htext' hprologue.le
          (importBlock_ne options _ (hused (.inl hexpressions))) hedited)
  · intro h specifierFor
    have hsettled := (Edit.settled_perm hperm).mpr h
    have hedited := Edit.edited_of_settled hordered hwidth htext' hprologue.le hsettled
      (utf8 (importBlock { options with specifierFor := specifierFor } collected))
    rw [Edit.edited_perm (hperm.cons _)] at hedited
    by_cases hexpressions : options.callsite.expressions = []
    · rw [hexpressions] at hcollect
      cases hcollect
      refine ⟨_, rewriteCallsites_empty hresolver hexpressions specifierFor, ?_⟩
      have hblock : utf8 (importBlock
          { options with specifierFor := specifierFor } ⟨[], [], []⟩) = [] := rfl
      have hbytes : Edit.rebuild (utf8 options.code) 0
          (sortSplices ([] : List (Edit UInt8))).reverse = utf8 options.code := rfl
      rw [hblock, hbytes, List.append_nil, List.take_append_drop] at hedited
      rw [hblock]
      exact hedited
    · have hne : collected.splices ≠ [] := by
        rw [hsplices]
        exact fun hnil => hexpressions (List.map_eq_nil_iff.mp hnil)
      exact ⟨_, rewriteCallsites_ok hresolver hcollect hne hposition hordered
        specifierFor, hedited⟩

end Rewriting

/-! ## An expression in a comment -/

theorem sampleExport_identifier : isIdentifier ['Q'] = true := by
  decide

def sampleModule : DsqlRenderModule where
  id := "frontend/operation/Q".toList
  modulePath := "q.ts".toList
  exportName := ['Q']
  identifier := sampleExport_identifier

def commentCode : List Char :=
  "// dsql`a`\nconst q = 1;\n".toList

def declarationCode : List Char :=
  "// dsql`ab`\nconst q = dsql`a`;\n".toList

/-- The statements of the probe and of the two modules. -/
def sampleParser : Parser := fun _ code =>
  if code = probeSnippet then
    [⟨true, 0⟩, ⟨false, 4⟩]
  else if code = commentCode then
    [⟨false, 11⟩]
  else if code = declarationCode then
    [⟨false, 12⟩]
  else
    [⟨false, 0⟩]

theorem sampleParser_documented : Documented sampleParser .utf16 := by
  refine ⟨⟨⟨true, 0⟩, [], rfl⟩, ?_⟩
  intro path code statement hmem
  unfold sampleParser at hmem
  split at hmem
  · rename_i hcode
    rw [hcode]
    rcases List.mem_pair.mp hmem with rfl | rfl
    · exact ⟨0, rfl⟩
    · exact ⟨4, by decide +kernel⟩
  · split at hmem
    · rename_i hcode
      rw [hcode, List.mem_singleton.mp hmem]
      exact ⟨11, by decide +kernel⟩
    · split at hmem
      · rename_i hcode
        rw [hcode, List.mem_singleton.mp hmem]
        exact ⟨12, by decide +kernel⟩
      · rw [List.mem_singleton.mp hmem]
        exact ⟨0, rfl⟩

def sampleOptions (code : List Char) (start stop : Nat) : RewriteOptions where
  code := code
  path := "src/x.ts".toList
  callsite := ⟨"typescript".toList, [⟨⟨start, stop⟩, sampleModule.id⟩]⟩
  modules := fun _ => some sampleModule
  specifierFor := fun module => '/' :: module.modulePath

def sampleNames : LocalNames :=
  [(moduleKey sampleModule, "__dsql_Q".toList)]

def commentCollected : Collected where
  localNames := sampleNames
  used := [(moduleKey sampleModule, sampleModule)]
  splices := [⟨3, 10, utf8 "__dsql_Q".toList⟩]

theorem commentCollected_eq :
    collectExpressions (sampleOptions commentCode 3 10)
      (sampleOptions commentCode 3 10).callsite.expressions ⟨[], [], []⟩ =
        .ok commentCollected := by
  have hfree : Free commentCode [] (candidate ['Q'] 0) := by
    decide +kernel
  have hname : freshName commentCode [] ['Q'] = "__dsql_Q".toList := by
    have hzero : Nat.find (exists_free commentCode [] ['Q']) = 0 :=
      (Nat.find_eq_zero _).mpr hfree
    rw [freshName, hzero]
    decide +kernel
  show Except.ok (Collected.mk [(moduleKey sampleModule, freshName commentCode [] ['Q'])]
    _ [⟨3, 10, utf8 (freshName commentCode [] ['Q'])⟩]) = _
  rw [hname]
  rfl

/-- The block lands at the end of the comment line, in the comment. -/
theorem not_exact_in_comment :
    ∃ bytes, rewriteCallsites sampleParser (sampleOptions commentCode 3 10) =
        .ok bytes ∧
      PrologueEnd sampleParser .utf16 "src/x.ts".toList commentCode 11 ∧
      ¬ Edit.Edited (utf8 commentCode)
        (Edit.insertion 11 (utf8 (importBlock (sampleOptions commentCode 3 10)
            commentCollected)) ::
          (sampleOptions commentCode 3 10).callsite.expressions.map
            (replacement (sampleOptions commentCode 3 10) sampleNames)) bytes := by
  have hordered : Edit.Ordered (utf8 commentCode).length
      (sortSplices commentCollected.splices).reverse :=
    sortSplices_reverse_ordered (by decide +kernel) (by decide +kernel)
      (List.pairwise_singleton _ _)
  have hposition : importInsertionByteOffset sampleParser commentCode
      "src/x.ts".toList = .ok 11 := by
    decide +kernel
  have hcount : 11 = OffsetUnit.utf16.length (commentCode.take 11) := by
    decide +kernel
  have hbytes : byteLength (commentCode.take 11) = 11 := by
    decide +kernel
  have hresolver : (sampleOptions commentCode 3 10).callsite.resolver =
      "typescript".toList := rfl
  have hfind : (sampleParser "src/x.ts".toList commentCode).find?
      (fun other => !other.directive) = some ⟨false, 11⟩ := by
    decide +kernel
  refine ⟨_, rewriteCallsites_ok hresolver commentCollected_eq (List.cons_ne_nil _ _)
    hposition hordered (fun module => '/' :: module.modulePath), ?_, ?_⟩
  · have hprologue : PrologueEnd sampleParser .utf16 "src/x.ts".toList commentCode
        (byteLength (commentCode.take 11)) := .statement hfind hcount
    rw [hbytes] at hprologue
    exact hprologue
  · have hedits : Edit.Ordered (utf8 commentCode).length
        [⟨3, 10, utf8 "__dsql_Q".toList⟩, Edit.insertion 11 (utf8 (importBlock
          (sampleOptions commentCode 3 10) commentCollected))] :=
      ⟨by decide +kernel, by decide +kernel, by decide +kernel⟩
    have hunique : Edit.EmptyUnique
        [⟨3, 10, utf8 "__dsql_Q".toList⟩, Edit.insertion 11 (utf8 (importBlock
          (sampleOptions commentCode 3 10) commentCollected))] := by
      intro first hfirst second hsecond hempty hempty' _
      rcases List.mem_pair.mp hfirst with rfl | rfl
      · exact absurd hempty (by decide)
      · rcases List.mem_pair.mp hsecond with rfl | rfl
        · exact absurd hempty' (by decide)
        · rfl
    refine (Edit.edited_iff hedits hunique (List.Perm.swap _ _ _)).not.mpr ?_
    decide +kernel

/-- An expression in a comment before the first statement, as long as the name
that replaces it, and one in the statement. -/
def declarationOptions : RewriteOptions :=
  { sampleOptions declarationCode 3 11 with
    callsite := ⟨"typescript".toList,
      [⟨⟨3, 11⟩, sampleModule.id⟩, ⟨⟨22, 29⟩, sampleModule.id⟩]⟩ }

def declarationCollected : Collected where
  localNames := sampleNames
  used := [(moduleKey sampleModule, sampleModule)]
  splices := [⟨3, 11, utf8 "__dsql_Q".toList⟩, ⟨22, 29, utf8 "__dsql_Q".toList⟩]

theorem declarationCollected_eq :
    collectExpressions declarationOptions
      declarationOptions.callsite.expressions ⟨[], [], []⟩ =
        .ok declarationCollected := by
  have hfree : Free declarationCode [] (candidate ['Q'] 0) := by
    decide +kernel
  have hname : freshName declarationCode [] ['Q'] = "__dsql_Q".toList := by
    have hzero : Nat.find (exists_free declarationCode [] ['Q']) = 0 :=
      (Nat.find_eq_zero _).mpr hfree
    rw [freshName, hzero]
    decide +kernel
  show Except.ok (Collected.mk
    [(moduleKey sampleModule, freshName declarationCode [] ['Q'])] _
    [⟨3, 11, utf8 (freshName declarationCode [] ['Q'])⟩,
      ⟨22, 29, utf8 (freshName declarationCode [] ['Q'])⟩]) = _
  rw [hname]
  rfl

/-- The first statement begins behind the comment. -/
theorem prologueEnd_declaration
    {position : Nat}
    (h : PrologueEnd sampleParser .utf16 declarationOptions.path declarationCode
      position) :
    position = 12 := by
  have hfind : (sampleParser declarationOptions.path declarationCode).find?
      (fun other => !other.directive) = some ⟨false, 12⟩ := by
    decide +kernel
  cases h with
  | directives hnone =>
      rw [hfind] at hnone
      cases hnone
  | @statement statement count hsome hcount =>
      rw [hfind] at hsome
      cases hsome
      have hshort : ∀ count < 32,
          12 = OffsetUnit.utf16.length (declarationCode.take count) →
            byteLength (declarationCode.take count) = 12 := by
        decide +kernel
      rcases Nat.lt_or_ge count 32 with hlt | hge
      · exact hshort count hlt hcount
      · have hlength : declarationCode.length ≤ 32 := by decide +kernel
        have hwhole : 12 ≠ OffsetUnit.utf16.length declarationCode := by
          decide +kernel
        rw [List.take_of_length_le (hlength.trans hge)] at hcount
        exact absurd hcount hwhole

/-- Both expressions become the name, and the import stands between them. -/
theorem rewriteCallsites_exact_iff_declaration :
    ∃ bytes,
      rewriteCallsites sampleParser declarationOptions = .ok bytes ∧
        Edit.Edited (utf8 declarationCode)
          [Edit.insertion 12
              (utf8 (importBlock declarationOptions declarationCollected)),
            ⟨3, 11, utf8 "__dsql_Q".toList⟩,
            ⟨22, 29, utf8 "__dsql_Q".toList⟩] bytes := by
  obtain ⟨collected, position, hcollect, -, hprologue, hexact⟩ :=
    rewriteCallsites_exact_iff sampleParser .utf16 sampleParser_documented
      declarationOptions rfl (fun _ _ => ⟨sampleModule, rfl⟩)
      ⟨by decide +kernel, by decide +kernel⟩
  rw [declarationCollected_eq] at hcollect
  cases hcollect
  obtain rfl := prologueEnd_declaration hprologue
  refine hexact.mpr ⟨?_, .inl (by decide +kernel)⟩
    declarationOptions.specifierFor
  unfold Edit.Apart
  decide +kernel

end Rewrite
end Dsql
