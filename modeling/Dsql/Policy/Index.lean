import Dsql.Plan.Types

/-!
# Policy indices

Policy declarations as checks and planning see them: the catalog tables each
declaration matches, the scopes it is visible from, and, for filters, the
compiled guards of every matched table.
-/

namespace Dsql

/-- Import edges between scopes, in declaration order. -/
structure ScopeImports where
  edges : List (String × List String)

namespace ScopeImports

/-- The scopes that a scope imports. -/
def importsOf (graph : ScopeImports) (scope : String) : List String :=
  ((graph.edges.find? (fun edge => edge.1 == scope)).map Prod.snd).getD []

/-- Depth-first visit that skips scopes already seen.  The fuel bounds the
depth, which never exceeds the number of scopes with imports. -/
def collect
    (graph : ScopeImports) :
    Nat → List String → String → List String
  | 0, visible, scope =>
      if scope ∈ visible then visible else visible ++ [scope]
  | fuel + 1, visible, scope =>
      if scope ∈ visible then
        visible
      else
        (graph.importsOf scope).foldl (graph.collect fuel)
          (visible ++ [scope])

/-- The scope itself, then its recursive imports in declaration order. -/
def visibleFrom (graph : ScopeImports) (scope : String) : List String :=
  graph.collect graph.edges.length [] scope

theorem mem_collect_of_mem
    (graph : ScopeImports)
    {seen : String}
    (fuel : Nat)
    (visible : List String)
    (scope : String)
    (h : seen ∈ visible) :
    seen ∈ graph.collect fuel visible scope := by
  induction fuel generalizing visible scope with
  | zero =>
      unfold collect
      split
      · exact h
      · simp [h]
  | succ fuel ih =>
      unfold collect
      split
      · exact h
      · have hfold : ∀ (imports visible : List String), seen ∈ visible →
            seen ∈ imports.foldl (graph.collect fuel) visible := by
          intro imports
          induction imports with
          | nil =>
              intro visible hvisible
              exact hvisible
          | cons next rest ihrest =>
              intro visible hvisible
              exact ihrest _ (ih visible next hvisible)
        exact hfold _ _ (by simp [h])

/-- Every scope sees itself. -/
theorem mem_visibleFrom_self (graph : ScopeImports) (scope : String) :
    scope ∈ graph.visibleFrom scope := by
  unfold visibleFrom
  cases graph.edges.length with
  | zero => simp [collect]
  | succ fuel =>
      have hfold : ∀ (imports visible : List String), scope ∈ visible →
          scope ∈ imports.foldl (graph.collect fuel) visible := by
        intro imports
        induction imports with
        | nil =>
            intro visible hvisible
            exact hvisible
        | cons next rest ihrest =>
            intro visible hvisible
            exact ihrest _ (mem_collect_of_mem graph fuel visible next hvisible)
      simpa [collect] using hfold _ [scope] (by simp)

end ScopeImports

/-- What a policy is. -/
inductive PolicyKind where
  | filter
  | condition
deriving DecidableEq, Repr

/-- The identity of a declaration. -/
structure PolicyEntity where
  index : Nat
deriving DecidableEq, Repr

/-- A policy as scopes find it. -/
structure PolicyEntry where
  entity : PolicyEntity
  scope : String
  kind : PolicyKind
  name : String
  matchedTables : List TableId
  defaultActive : Bool
  alwaysEnforced : Bool
deriving DecidableEq, Repr

/-- Declarations by identity: no two of them share one. -/
structure PolicyIndex where
  entries : List PolicyEntry
  entities_nodup : (entries.map PolicyEntry.entity).Nodup

/-- The declarations of one name that a scope can see. -/
def PolicyIndex.visible
    (index : PolicyIndex)
    (scope : String)
    (kind : PolicyKind)
    (name : String)
    (imports : ScopeImports) : List PolicyEntry :=
  index.entries.filter (fun entry =>
    entry.kind == kind && entry.name == name &&
      (imports.visibleFrom scope).contains entry.scope)

theorem PolicyIndex.entity_injective
    (index : PolicyIndex)
    {left right : PolicyEntry}
    (hleft : left ∈ index.entries)
    (hright : right ∈ index.entries)
    (h : left.entity = right.entity) :
    left = right :=
  List.inj_on_of_nodup_map index.entities_nodup hleft hright h

theorem PolicyIndex.mem_visible
    {index : PolicyIndex}
    {scope name : String}
    {kind : PolicyKind}
    {imports : ScopeImports}
    {entry : PolicyEntry}
    (h : entry ∈ index.visible scope kind name imports) :
    entry ∈ index.entries ∧ entry.kind = kind ∧ entry.name = name ∧
      entry.scope ∈ imports.visibleFrom scope := by
  simpa [visible, and_assoc] using h

/-- One field rule: the guarded columns and relations and their condition. -/
structure CompiledPolicyFieldRule where
  fields : List PolicyFieldTarget
  condition : FilterExpr

/-- The rules of a filter at one table. -/
structure CompiledPolicyTarget where
  table : TableId
  enforcement : Option FilterExpr
  rowRule : Option FilterExpr
  fieldRules : List CompiledPolicyFieldRule
  context : List PolicyContextRequirement

/-- Name and scope of a declaration in audit data. -/
structure PolicyIdentity where
  scope : String
  name : String
deriving DecidableEq, Repr

/-- The rules of a filter at all its tables. -/
structure CompiledPolicyEntry where
  entity : PolicyEntity
  identity : PolicyIdentity
  defaultActive : Bool
  conditions : List PolicyIdentity
  targets : List CompiledPolicyTarget

/-- The compiled filters of a definition. -/
structure CompiledPolicyIndex where
  entries : List CompiledPolicyEntry

namespace CompiledPolicyIndex

/-- The rules of a filter. -/
def entry
    (index : CompiledPolicyIndex)
    (entity : PolicyEntity) : Option CompiledPolicyEntry :=
  index.entries.find? (fun entry => entry.entity == entity)

/-- The rules of a filter at a table. -/
def target
    (index : CompiledPolicyIndex)
    (entity : PolicyEntity)
    (table : TableId) : Option CompiledPolicyTarget :=
  (index.entry entity).bind (fun entry =>
    entry.targets.find? (fun target => target.table == table))

end CompiledPolicyIndex

end Dsql
