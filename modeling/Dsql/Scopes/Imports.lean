import Dsql.Logic.Traversal
import Dsql.Policy.Index
import Mathlib.Tactic

/-!
# The import graph

The scopes visible from a scope and the import cycles of a project.  Imports
are declared scope by scope; a scope without a declaration imports nothing.
-/

namespace Dsql

open Traversal

namespace ScopeImports

def keys (graph : ScopeImports) : List String :=
  graph.edges.map Prod.fst

/-- The effective recursive imports of a scope, without the scope itself. -/
def effectiveImports (graph : ScopeImports) (scope : String) : List String :=
  (graph.visibleFrom scope).drop 1

/-- `import_cycle`: the roots are the declared scopes in order. -/
def importCycle (graph : ScopeImports) : Option (List String) :=
  findCycle graph.importsOf graph.edges.length graph.keys

/-- A scope reaches another through imports. -/
abbrev Sees (graph : ScopeImports) : String → String → Prop :=
  Reaches graph.importsOf

theorem mem_keys_of_imports
    (graph : ScopeImports)
    (scope : String)
    (h : graph.importsOf scope ≠ []) :
    scope ∈ graph.keys := by
  unfold importsOf at h
  cases hfind : graph.edges.find? (fun edge => edge.1 == scope) with
  | none =>
      rw [hfind] at h
      exact absurd rfl h
  | some edge =>
      have hscope : edge.1 = scope := by simpa using List.find?_some hfind
      exact List.mem_map.mpr ⟨edge, List.mem_of_find?_eq_some hfind, hscope⟩

theorem collect_eq
    (graph : ScopeImports)
    (fuel : Nat) :
    graph.collect fuel = Traversal.collect graph.importsOf fuel := by
  induction fuel with
  | zero =>
      funext visible scope
      unfold ScopeImports.collect Traversal.collect
      rfl
  | succ fuel ih =>
      funext visible scope
      unfold ScopeImports.collect Traversal.collect
      rw [ih]

theorem length_keys (graph : ScopeImports) : graph.keys.length = graph.edges.length :=
  List.length_map ..

theorem visibleFrom_nodup (graph : ScopeImports) (scope : String) :
    (graph.visibleFrom scope).Nodup := by
  unfold visibleFrom
  rw [collect_eq]
  exact (collect_reaches graph.mem_keys_of_imports (Nat.le_of_eq graph.length_keys) scope).1

/-- The visible scopes are those reached through imports. -/
theorem mem_visibleFrom
    (graph : ScopeImports)
    (scope other : String) :
    other ∈ graph.visibleFrom scope ↔ graph.Sees scope other := by
  unfold visibleFrom
  rw [collect_eq]
  exact (collect_reaches graph.mem_keys_of_imports (Nat.le_of_eq graph.length_keys) scope).2.2 other

/-- What a visible scope sees is visible. -/
theorem visibleFrom_trans
    (graph : ScopeImports)
    {scope middle other : String}
    (hmiddle : middle ∈ graph.visibleFrom scope)
    (hother : other ∈ graph.visibleFrom middle) :
    other ∈ graph.visibleFrom scope := by
  rw [mem_visibleFrom] at hmiddle hother ⊢
  exact hmiddle.trans hother

/-- The scope itself comes first. -/
theorem visibleFrom_eq_cons (graph : ScopeImports) (scope : String) :
    graph.visibleFrom scope = scope :: graph.effectiveImports scope := by
  have hfront : [scope] <+: graph.visibleFrom scope := by
    unfold visibleFrom
    rw [collect_eq]
    exact (collect_reaches graph.mem_keys_of_imports (Nat.le_of_eq graph.length_keys) scope).2.1
  obtain ⟨rest, hrest⟩ := hfront
  rw [effectiveImports, ← hrest]
  rfl

theorem mem_effectiveImports
    (graph : ScopeImports)
    (scope other : String) :
    other ∈ graph.effectiveImports scope ↔ other ≠ scope ∧ graph.Sees scope other := by
  have hnodup := graph.visibleFrom_nodup scope
  rw [visibleFrom_eq_cons, List.nodup_cons] at hnodup
  rw [← mem_visibleFrom, visibleFrom_eq_cons, List.mem_cons]
  constructor
  · intro hmem
    refine ⟨?_, .inr hmem⟩
    rintro rfl
    exact hnodup.1 hmem
  · rintro ⟨hne, heq | hmem⟩
    · exact absurd heq hne
    · exact hmem

/-- A reported import cycle is one, and every cyclic graph has one reported. -/
theorem importCycle_isSome_iff (graph : ScopeImports) :
    graph.importCycle.isSome ↔ ∃ scope, Cyclic graph.importsOf scope := by
  obtain ⟨hsound, hcomplete⟩ :=
    findCycle_spec graph.mem_keys_of_imports (Nat.le_of_eq graph.length_keys)
  constructor
  · intro h
    obtain ⟨cycle, hcycle⟩ := Option.isSome_iff_exists.mp h
    exact (hsound cycle hcycle).cyclic
  · rintro ⟨scope, hscope⟩
    by_contra h
    rw [Option.not_isSome_iff_eq_none] at h
    exact hcomplete h scope hscope

end ScopeImports

end Dsql
