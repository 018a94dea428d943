import Dsql.Logic.Edits
import Dsql.Logic.Sorting
import Mathlib.Data.List.Lex
import Mathlib.Data.Nat.Find
import Mathlib.Tactic

/-!
# Callsite rewriting

Expression ranges are byte offsets into the raw file, so every splice is made
on bytes.  The import block is inserted before the first statement, which the
TypeScript parser locates.  Its positions count UTF-16 units or bytes; which of
the two is probed.
-/

namespace Dsql
namespace Rewrite

/-! ## Text and bytes -/

/-- `Buffer.from(text, "utf8")`. -/
def utf8 (text : List Char) : List UInt8 :=
  text.flatMap String.utf8EncodeChar

def byteLength (text : List Char) : Nat :=
  (utf8 text).length

def utf16Units (c : Char) : List Nat :=
  if c.toNat < 0x10000 then
    [c.toNat]
  else
    [0xd800 + (c.toNat - 0x10000) / 0x400, 0xdc00 + (c.toNat - 0x10000) % 0x400]

/-- `text.slice(0, units)`, for an index that is not inside a surrogate
pair. -/
def sliceUnits : Nat → List Char → List Char
  | _, [] => []
  | units, c :: text =>
      if (utf16Units c).length ≤ units then
        c :: sliceUnits (units - (utf16Units c).length) text
      else
        []

def includes (text candidate : List Char) : Bool :=
  decide (candidate <:+: text)

def digits (number : Nat) : List Char :=
  number.repr.toList

def jsonEscape (c : Char) : List Char :=
  if c = '"' then ['\\', '"']
  else if c = '\\' then ['\\', '\\']
  else if c.toNat = 8 then ['\\', 'b']
  else if c.toNat = 9 then ['\\', 't']
  else if c.toNat = 10 then ['\\', 'n']
  else if c.toNat = 12 then ['\\', 'f']
  else if c.toNat = 13 then ['\\', 'r']
  else if c.toNat < 32 then
    ['\\', 'u', '0', '0', (c.toNat / 16).digitChar, (c.toNat % 16).digitChar]
  else [c]

/-- `JSON.stringify` of a text. -/
def jsonStringify (text : List Char) : List Char :=
  '"' :: (text.flatMap jsonEscape ++ ['"'])

/-! ## Inputs -/

def isIdentifierStart (c : Char) : Bool :=
  c.isAlpha || c == '_' || c == '$'

/-- The shape that render maps are checked for. -/
def isIdentifier : List Char → Bool
  | [] => false
  | c :: text =>
      isIdentifierStart c && text.all (fun c => isIdentifierStart c || c.isDigit)

/-- A render mapping of a checked render map. -/
structure DsqlRenderModule where
  id : List Char
  modulePath : List Char
  exportName : List Char
  identifier : isIdentifier exportName = true

structure ByteRange where
  start : Nat
  stop : Nat
deriving DecidableEq, Repr

structure CallsiteExpression where
  range : ByteRange
  target : List Char
deriving DecidableEq, Repr

structure DsqlCallsite where
  resolver : List Char
  expressions : List CallsiteExpression
deriving DecidableEq, Repr

/-- A statement as the parser reports it. -/
structure Statement where
  /-- An expression statement of one string literal. -/
  directive : Bool
  start : Nat
deriving DecidableEq, Repr

/-- `createSourceFile` of the TypeScript package: the statements of a path and
its code. -/
abbrev Parser :=
  List Char → List Char → List Statement

structure RewriteOptions where
  code : List Char
  path : List Char
  callsite : DsqlCallsite
  modules : List Char → Option DsqlRenderModule
  specifierFor : DsqlRenderModule → List Char

inductive DsqlRewriteError where
  | unsupportedResolver (path resolver : List Char)
  | missingMapping (path target : List Char)
  | outOfBounds (path : List Char) (start stop length : Nat)
  | unknownOffsetUnit (start : Option Nat)
deriving DecidableEq, Repr

def DsqlRewriteError.message : DsqlRewriteError → List Char
  | .unsupportedResolver path resolver =>
      path ++ ": dsql resolver ".toList ++ jsonStringify resolver ++
        (" is not supported by @dsql/typescript; assign the host to resolver " ++
          "\"typescript\" or install the matching binding").toList
  | .missingMapping path target =>
      path ++ ": no render mapping for artifact ".toList ++ target ++
        " — the renderer did not produce a module for it".toList
  | .outOfBounds path start stop length =>
      path ++ ": callsite range ".toList ++ digits start ++ "..".toList ++
        digits stop ++ " exceeds the module's ".toList ++ digits length ++
        " bytes".toList
  | .unknownOffsetUnit start =>
      "the TypeScript parser reported offset ".toList ++
        (match start with
        | none => "undefined".toList
        | some start => digits start) ++
        (" for a probe statement expected at 4 (UTF-16) or 5 (UTF-8); " ++
          "refusing to guess the offset unit").toList

/-! ## The insertion point -/

inductive OffsetUnit where
  | utf16
  | utf8
deriving DecidableEq, Repr

def probePath : List Char :=
  "probe.ts".toList

def probeSnippet : List Char :=
  "\"å\";const x = 1;".toList

def probeOffsetConverter (parser : Parser) : Except DsqlRewriteError OffsetUnit :=
  match ((parser probePath probeSnippet)[1]?).map Statement.start with
  | some 4 => .ok .utf16
  | some 5 => .ok .utf8
  | start => .error (.unknownOffsetUnit start)

def OffsetUnit.convert (unit : OffsetUnit) (code : List Char) (index : Nat) : Nat :=
  match unit with
  | .utf16 => byteLength (sliceUnits index code)
  | .utf8 => index

def importInsertionByteOffset
    (parser : Parser)
    (code path : List Char) : Except DsqlRewriteError Nat := do
  let unit ← probeOffsetConverter parser
  match (parser path code).find? (fun statement => !statement.directive) with
  | some statement => .ok (unit.convert code statement.start)
  | none => .ok (byteLength code)

/-! ## Local bindings -/

/-- The names tried for an export, in order. -/
def candidate (exportName : List Char) (counter : Nat) : List Char :=
  "__dsql_".toList ++ exportName ++
    (if counter = 0 then [] else '_' :: digits counter)

/-- A name that neither occurs in the code nor is taken. -/
def Free (code : List Char) (taken : List (List Char)) (name : List Char) : Prop :=
  includes code name = false ∧ name ∉ taken

instance (code : List Char) (taken : List (List Char)) (name : List Char) :
    Decidable (Free code taken name) :=
  inferInstanceAs (Decidable (_ ∧ _))

theorem exists_long_repr (length : Nat) :
    ∃ counter : Nat, counter ≠ 0 ∧ length < counter.repr.length := by
  obtain ⟨counter, hcounter⟩ : ∃ counter, counter = 10 ^ (length + 1) := ⟨_, rfl⟩
  have hpositive : counter ≠ 0 := by
    rw [hcounter]
    exact pow_ne_zero _ (by decide)
  refine ⟨counter, hpositive, ?_⟩
  by_contra hle
  have hshort : counter.repr.length ≤ length + 1 := by omega
  have hlt := (Nat.length_repr_le_iff (Nat.succ_pos length)).mp hshort
  rw [hcounter] at hlt
  exact absurd hlt (lt_irrefl _)

theorem candidate_long
    (exportName : List Char)
    (length : Nat) :
    ∃ counter, length < (candidate exportName counter).length := by
  obtain ⟨counter, hpositive, hlong⟩ := exists_long_repr length
  have hcandidate : candidate exportName counter =
      ("__dsql_".toList ++ exportName ++ ['_']) ++ counter.repr.toList := by
    unfold candidate digits
    rw [if_neg hpositive, List.append_assoc ("__dsql_".toList ++ exportName) ['_'],
      List.singleton_append]
  have hlength : (candidate exportName counter).length =
      ("__dsql_".toList ++ exportName ++ ['_']).length + counter.repr.length := by
    rw [hcandidate, List.length_append, String.length_toList]
  refine ⟨counter, ?_⟩
  rw [hlength]
  exact lt_of_lt_of_le hlong (Nat.le_add_left _ _)

/-- Names that are longer than the code and than every name taken are free. -/
theorem exists_free
    (code : List Char)
    (taken : List (List Char))
    (exportName : List Char) :
    ∃ counter, Free code taken (candidate exportName counter) := by
  obtain ⟨counter, hlong⟩ :=
    candidate_long exportName (code.length + (taken.map List.length).sum)
  refine ⟨counter, decide_eq_false ?_, ?_⟩
  · intro hinfix
    have hle := hinfix.length_le
    omega
  · intro hmem
    have hle : (candidate exportName counter).length ≤ (taken.map List.length).sum :=
      List.single_le_sum (fun _ _ => Nat.zero_le _) _ (List.mem_map_of_mem hmem)
    omega

def freshName
    (code : List Char)
    (taken : List (List Char))
    (exportName : List Char) : List Char :=
  candidate exportName (Nat.find (exists_free code taken exportName))

def moduleKey (module : DsqlRenderModule) : List Char :=
  module.modulePath ++ '#' :: module.exportName

/-- The local names given so far by their keys. -/
abbrev LocalNames :=
  List (List Char × List Char)

def LocalNames.get? (names : LocalNames) (key : List Char) : Option (List Char) :=
  (names.find? (fun entry => entry.1 == key)).map Prod.snd

def localFor
    (code : List Char)
    (names : LocalNames)
    (module : DsqlRenderModule) : LocalNames × List Char :=
  match names.get? (moduleKey module) with
  | some existing => (names, existing)
  | none =>
      (names ++ [(moduleKey module,
          freshName code (names.map Prod.snd) module.exportName)],
        freshName code (names.map Prod.snd) module.exportName)

/-! ## Splices and imports -/

structure Collected where
  localNames : LocalNames
  used : List (List Char × DsqlRenderModule)
  splices : List (Edit UInt8)

/-- `Map.set`: a key that is there keeps its place. -/
def setUsed
    (key : List Char)
    (module : DsqlRenderModule) :
    List (List Char × DsqlRenderModule) → List (List Char × DsqlRenderModule)
  | [] => [(key, module)]
  | entry :: used =>
      if entry.1 = key then
        (key, module) :: used
      else
        entry :: setUsed key module used

def collectExpressions (options : RewriteOptions) :
    List CallsiteExpression → Collected → Except DsqlRewriteError Collected
  | [], collected => .ok collected
  | expression :: expressions, collected =>
      match options.modules expression.target with
      | none => .error (.missingMapping options.path expression.target)
      | some module =>
          let named := localFor options.code collected.localNames module
          collectExpressions options expressions
            { localNames := named.1
              used := setUsed (moduleKey module) module collected.used
              splices := collected.splices ++
                [⟨expression.range.start, expression.range.stop, utf8 named.2⟩] }

/-- Descending by start; equal starts keep their order. -/
def sortSplices (splices : List (Edit UInt8)) : List (Edit UInt8) :=
  sortBy (fun splice => OrderDual.toDual splice.start) splices

def applySplices (path : List Char) :
    List (Edit UInt8) → List UInt8 → Except DsqlRewriteError (List UInt8)
  | [], bytes => .ok bytes
  | splice :: splices, bytes =>
      if splice.stop > bytes.length ∨ splice.start > splice.stop then
        .error (.outOfBounds path splice.start splice.stop bytes.length)
      else
        applySplices path splices (splice.apply bytes)

def importLine
    (options : RewriteOptions)
    (names : LocalNames)
    (module : DsqlRenderModule) : List Char :=
  let localName := (localFor options.code names module).2
  let clause :=
    if localName = module.exportName then
      module.exportName
    else
      module.exportName ++ " as ".toList ++ localName
  "import \x7b ".toList ++ clause ++ " \x7d from ".toList ++
    jsonStringify (options.specifierFor module) ++ ";\n".toList

/-- One line for each used export, in the order of UTF-16 units. -/
def importBlock (options : RewriteOptions) (collected : Collected) : List Char :=
  (sortBy (fun line : List Char => line.flatMap utf16Units)
    (collected.used.map (fun entry =>
      importLine options collected.localNames entry.2))).flatten

/-- The bytes of the rewritten module; the source returns them decoded. -/
def rewriteCallsites
    (parser : Parser)
    (options : RewriteOptions) : Except DsqlRewriteError (List UInt8) :=
  if options.callsite.resolver ≠ "typescript".toList then
    .error (.unsupportedResolver options.path options.callsite.resolver)
  else do
    let collected ← collectExpressions options options.callsite.expressions ⟨[], [], []⟩
    if collected.splices.isEmpty then
      .ok (utf8 options.code)
    else
      let bytes ← applySplices options.path (sortSplices collected.splices)
        (utf8 options.code)
      let insertAt ← importInsertionByteOffset parser options.code options.path
      .ok (bytes.take insertAt ++ utf8 (importBlock options collected) ++
        bytes.drop insertAt)

end Rewrite
end Dsql
