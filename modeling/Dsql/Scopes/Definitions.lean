import Dsql.Check.Clause
import Dsql.Logic.Sorting
import Dsql.Scopes.Imports
import Mathlib.Data.List.Destutter
import Mathlib.Data.Prod.Lex
import Mathlib.Data.String.Basic
import Mathlib.Tactic

/-!
# Definitions and references to them

Queries and fragments live in the scope of their document.  A spread names a
fragment; it resolves when its scope sees exactly one of that name.  The
checks report the definitions of one name that one scope sees.
-/

namespace Dsql.Scopes

structure NameSpan where
  start : Nat
  stop : Nat
deriving DecidableEq, Repr

/-- `DefDecl` with the scope, path and `on` target of its document.  Entities
are numbered as the documents are loaded. -/
structure Definition where
  entity : Nat
  kind : DefKind
  name : String
  scope : String
  path : String
  nameSpan : NameSpan
  target : Option String
deriving DecidableEq, Repr

/-- `SpreadDecl`; the owner is the definition it is written in. -/
structure Spread where
  entity : Nat
  owner : Nat
  name : String
  scope : String
  path : String
  nameSpan : NameSpan
deriving DecidableEq, Repr

structure Program where
  imports : ScopeImports
  definitions : List Definition
  spreads : List Spread
  definitionsDistinct : (definitions.map Definition.entity).Nodup
  spreadsDistinct : (spreads.map Spread.entity).Nodup
  owned : ∀ spread ∈ spreads, ∃ definition ∈ definitions,
    definition.entity = spread.owner ∧ definition.scope = spread.scope

inductive ReportCode where
  | duplicateDefinition
  | unknownFragment
  | circularFragmentSpread
deriving DecidableEq, Repr

structure Report where
  path : String
  span : NameSpan
  severity : Severity
  code : ReportCode
  message : String
deriving DecidableEq, Repr

def DefKind.text : DefKind → String
  | .query => "query"
  | .fragment => "fragment"

def DefKind.noun : DefKind → String
  | .query => "operation"
  | .fragment => "fragment"

/-! ## Conflicts between definitions -/

/-- The definitions of one's own name and kind that one's scope sees. -/
def visibleDefinitionCandidates (program : Program) (consumer : Definition) : List Definition :=
  program.definitions.filter (fun provider =>
    decide (provider.kind = consumer.kind) && provider.name == consumer.name &&
      provider.entity != consumer.entity &&
        decide (provider.scope ∈ program.imports.visibleFrom consumer.scope))

def Definition.report (definition : Definition) (message : String) : Report :=
  ⟨definition.path, definition.nameSpan, .error, .duplicateDefinition, message⟩

/-- `check_definition_conflicts`. -/
def checkDefinitionConflicts (program : Program) (consumer : Definition) : List Report :=
  let candidates := sortBy (fun candidate => toLex (candidate.scope, candidate.entity))
    (visibleDefinitionCandidates program consumer)
  let duplicate := candidates.find? (fun candidate =>
    candidate.scope == consumer.scope && decide (candidate.entity < consumer.entity))
  let imported := candidates.find? (fun candidate => candidate.scope != consumer.scope)
  (duplicate.map (fun _ => consumer.report
    ("duplicate " ++ DefKind.noun consumer.kind ++ " `" ++ consumer.name ++ "`"))).toList ++
  (imported.map (fun imported => consumer.report
    (DefKind.text consumer.kind ++ " `" ++ consumer.name ++
      "` collides with a definition imported from scope `" ++ imported.scope ++ "`"))).toList

/-! ## Queries imported from several scopes -/

/-- The scopes that import both definitions. -/
def consumerScopes (program : Program) (provider consumer : Definition) : List String :=
  program.imports.keys.filter (fun scope =>
    decide (provider.scope ∈ program.imports.effectiveImports scope) &&
      decide (consumer.scope ∈ program.imports.effectiveImports scope))

/-- `bind_imported_query_peers`: a provider of the consumer's name with the
scopes that import both. -/
def bindImportedQueryPeer
    (program : Program)
    (consumer provider : Definition) :
    Option (Definition × List String) :=
  if provider.kind ≠ .query then
    none
  else if provider.entity = consumer.entity then
    none
  else
    let scopes := consumerScopes program provider consumer
    if scopes.isEmpty then none else some (provider, scopes)

def importedQueryPeers
    (program : Program)
    (consumer : Definition) :
    List (Definition × List String) :=
  (program.definitions.filter (fun provider =>
    decide (provider.kind = consumer.kind) && provider.name == consumer.name)).filterMap
      (bindImportedQueryPeer program consumer)

/-- `ImportedQueryProvider::order_key`. -/
def orderKey (definition : Definition) : String ×ₗ String ×ₗ Nat ×ₗ Nat :=
  toLex (definition.scope, toLex (definition.path,
    toLex (definition.nameSpan.start, definition.nameSpan.stop)))

/-- The peers that one consumer scope imports besides a definition. -/
def peersFor (program : Program) (context : Definition) (consumer : String) : List Definition :=
  ((importedQueryPeers program context).filter (fun peer =>
    decide (consumer ∈ peer.2))).map Prod.fst

/-- The report of one definition's site for one consumer scope. -/
def importAmbiguity
    (program : Program)
    (context : Definition)
    (consumer : String) :
    Option Report :=
  let peers := peersFor program context consumer
  if peers.isEmpty then
    none
  else
    let providers := (sortBy orderKey (peers ++ [context])).destutter
      (fun left right => left.entity ≠ right.entity)
    let distinct := sortBy id (providers.map Definition.scope).dedup
    if distinct.length < 2 then
      none
    else
      match providers.head? with
      | none => none
      | some first =>
          if orderKey first ≠ orderKey context then
            none
          else
            some (context.report ("query `" ++ context.name ++ "` is provided to scope `" ++
              consumer ++ "` by scopes `" ++ "`, `".intercalate distinct ++ "`"))

/-- `check_import_ambiguities`. -/
def checkImportAmbiguities (program : Program) (context : Definition) : List Report :=
  if context.kind != .query then
    []
  else
    program.imports.keys.filterMap (importAmbiguity program context)

/-! ## Spreads -/

structure SpreadTarget where
  definitionKey : Nat
  on : Option String
deriving DecidableEq, Repr

inductive SpreadResolution where
  | resolved (target : SpreadTarget)
  | missing
  | nonUnique (providerScopes : List String)
deriving DecidableEq, Repr

def visibleFragmentCandidates (program : Program) (spread : Spread) : List Definition :=
  program.definitions.filter (fun fragment =>
    decide (fragment.kind = .fragment) && fragment.name == spread.name &&
      decide (fragment.scope ∈ program.imports.visibleFrom spread.scope))

def Definition.asTarget (definition : Definition) : SpreadTarget :=
  ⟨definition.entity, definition.target⟩

def resolution : List Definition → SpreadResolution
  | [] => .missing
  | [target] => .resolved target.asTarget
  | candidates => .nonUnique (sortBy id (candidates.map Definition.scope)).dedup

/-- `resolve_spreads`. -/
def resolveSpread (program : Program) (spread : Spread) : SpreadResolution :=
  resolution (sortBy (fun candidate => toLex (candidate.scope, candidate.entity))
    (visibleFragmentCandidates program spread))

def Spread.report (spread : Spread) (message : String) : Report :=
  ⟨spread.path, spread.nameSpan, .error, .unknownFragment, message⟩

/-- `check_unknown_fragments`. -/
def checkUnknownFragments (program : Program) (spread : Spread) : Option Report :=
  match resolveSpread program spread with
  | .resolved _ => none
  | .missing => some (spread.report ("fragment `" ++ spread.name ++ "` not found"))
  | .nonUnique [_] => none
  | .nonUnique scopes => some (spread.report ("fragment `" ++ spread.name ++
      "` is ambiguous; provided by scopes " ++
        ", ".intercalate (scopes.map (fun scope => "`" ++ scope ++ "`"))))

end Dsql.Scopes
