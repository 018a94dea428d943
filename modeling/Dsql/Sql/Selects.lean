import Dsql.Sql.Expressions

/-!
# Reading a `select`

The parts of a `select` stand in a fixed order: its source, conditions, orders
and bounds, the joins and the columns.  What it returns is read off from
these.
-/

namespace Dsql

namespace Postgres

open Logic

/-! ## Groups -/

section Groups

variable {α β κ : Type} [DecidableEq κ]

theorem groupsBy_map
    (key : β → κ)
    (f : α → β)
    (items : List α) :
    groupsBy key (items.map f) =
      (groupsBy (key ∘ f) items).map (List.map f) := by
  unfold groupsBy
  rw [List.map_map, List.map_map]
  refine List.map_congr_left fun sought _ => ?_
  rw [List.filter_map]
  rfl

/-- A group has an item. -/
theorem ne_nil_of_mem_groupsBy
    {key : α → κ}
    {items group : List α}
    (h : group ∈ groupsBy key items) : group ≠ [] := by
  obtain ⟨sought, hsought, rfl⟩ := List.mem_map.mp h
  obtain ⟨item, hitem, rfl⟩ := List.mem_map.mp (List.mem_dedup.mp hsought)
  refine List.ne_nil_of_mem (List.mem_filter.mpr ⟨hitem, ?_⟩)
  exact decide_eq_true rfl

end Groups

theorem takeAtMost_map
    {α β : Type}
    (limit : Option Nat)
    (f : α → β)
    (items : List α) :
    (takeAtMost limit items).map f = takeAtMost limit (items.map f) := by
  cases limit with
  | none => rfl
  | some limit => exact List.map_take

theorem takeAtMost_sublist
    {α : Type}
    (limit : Option Nat)
    (items : List α) : (takeAtMost limit items).Sublist items := by
  cases limit with
  | none => exact List.Sublist.refl items
  | some limit => exact List.take_sublist limit items

namespace SqlMeaning

variable {S : Type}

/-- The parts of a `select`. -/
structure SelectParts (S : Type) where
  source : Scope S → List (Scope S)
  conditions : List (Scope S → Bool)
  orders : List (Comparison (Scope S)) := []
  limits : List (Scope S → Option Nat) := []
  offsets : List (Scope S → Option Nat) := []
  joins : List (Scope S → List (Scope S)) := []
  /-- Columns that are grouped by the value beside them. -/
  keys : List ((Option String × SqlMeaning S) × (Scope S → Datum S)) := []
  columns : List (Option String × SqlMeaning S) := []

namespace SelectParts

variable (select : SelectParts S)

def keyParts
    (key : (Option String × SqlMeaning S) × (Scope S → Datum S)) :
    List (SqlMeaning S) :=
  [.field key.1.1 key.1.2, .grouped key.2]

def parts : List (SqlMeaning S) :=
  .source select.source :: (select.conditions.map .condition ++
    select.orders.map .order ++ select.limits.map .limitTo ++
    select.offsets.map .offsetBy ++ select.joins.map .source ++
    select.keys.flatMap keyParts ++
    select.columns.map (fun column => .field column.1 column.2))

/-- The parts before the joins. -/
def rowParts : List (SqlMeaning S) :=
  .source select.source :: (select.conditions.map .condition ++
    select.orders.map .order ++ select.limits.map .limitTo ++
    select.offsets.map .offsetBy)

theorem parts_eq (h : select.keys = []) :
    select.parts = select.rowParts ++ select.joins.map .source ++
      select.columns.map (fun column => .field column.1 column.2) := by
  simp [parts, rowParts, h]

/-- The bounds as they are read in a scope. -/
def cut {α : Type} (scope : Scope S) (items : List α) : List α :=
  takeAtMost (select.limits.findSome? (fun limit => limit scope))
    (items.drop
      ((select.offsets.findSome? (fun offset => offset scope)).getD 0))

theorem map_cut
    {α β : Type}
    (scope : Scope S)
    (f : α → β)
    (items : List α) :
    (select.cut scope items).map f = select.cut scope (items.map f) := by
  unfold cut
  rw [takeAtMost_map, List.map_drop]

theorem cut_of_nil
    (hlimits : select.limits = [])
    (hoffsets : select.offsets = [])
    {α : Type}
    (scope : Scope S)
    (items : List α) : select.cut scope items = items := by
  unfold cut
  rw [hlimits, hoffsets]
  rfl

/-- A row passes the conditions. -/
def passes (row : Scope S) : Bool :=
  select.conditions.all (fun condition => condition row)

/-- The rows that pass. -/
def rows (scope : Scope S) : List (Scope S) :=
  ((select.source scope).flatMap (scopes (select.joins.map .source))).filter
    select.passes

def outputs (group : List (Scope S)) (scope : Scope S) : Outputs S :=
  (select.keys.map Prod.fst ++ select.columns).map (fun column =>
    (column.1, column.2.read group scope))

theorem outputs_eq
    (h : select.keys = [])
    (group : List (Scope S))
    (scope : Scope S) :
    select.outputs group scope =
      select.columns.map (fun column => (column.1, column.2.read group scope)) := by
  unfold outputs
  rw [h]
  rfl

theorem scopes_parts (scope : Scope S) :
    scopes select.parts scope =
      (select.source scope).flatMap (scopes (select.joins.map .source)) := by
  have hclauses : ∀ row : Scope S, scopes (select.conditions.map .condition ++
      select.orders.map .order ++ select.limits.map .limitTo ++
      select.offsets.map .offsetBy) row = [row] := by
    refine scopes_of_joined ?_
    intro part hpart row
    simp only [List.mem_append, List.mem_map] at hpart
    rcases hpart with ((⟨_, -, rfl⟩ | ⟨_, -, rfl⟩) | ⟨_, -, rfl⟩) | ⟨_, -, rfl⟩
    all_goals rfl
  have houtputs : ∀ row : Scope S, scopes (select.keys.flatMap keyParts ++
      select.columns.map (fun column => .field column.1 column.2)) row =
        [row] := by
    refine scopes_of_joined ?_
    intro part hpart row
    simp only [List.mem_append, List.mem_flatMap, List.mem_map, keyParts,
      List.mem_cons, List.not_mem_nil, or_false] at hpart
    rcases hpart with ⟨_, -, rfl | rfl⟩ | ⟨_, -, rfl⟩
    all_goals rfl
  unfold parts
  rw [scopes_cons, source_joined]
  refine List.flatMap_congr fun row _ => ?_
  rw [List.append_assoc _ (select.keys.flatMap keyParts), scopes_append,
    funext houtputs, List.flatMap_singleton', scopes_append, hclauses,
    List.flatMap_singleton]

theorem passing_parts (scope : Scope S) :
    passing select.parts scope = select.rows scope := by
  unfold passing rows
  rw [scopes_parts]
  refine List.filter_congr fun row _ => ?_
  simp [passes, parts, keyParts, List.all_flatMap, Function.comp_def]

/-- A reading of the parts that skips the keys. -/
theorem flatMap_none {β : Type} :
    select.keys.flatMap (fun _ => ([] : List β)) = [] :=
  List.flatMap_eq_nil_iff.mpr (fun _ _ => rfl)

/-- Joins that do not change what the conditions read come after them. -/
theorem rows_eq
    {scope : Scope S}
    (h : ∀ row ∈ select.source scope,
      ∀ joined ∈ scopes (select.joins.map .source) row,
        select.passes joined = select.passes row) :
    select.rows scope = ((select.source scope).filter select.passes).flatMap
      (scopes (select.joins.map .source)) := by
  unfold rows
  generalize select.source scope = rows at h ⊢
  induction rows with
  | nil => rfl
  | cons row rest ih =>
      rw [List.flatMap_cons, List.filter_append,
        ih (fun other hother => h other (List.mem_cons_of_mem row hother))]
      have hrow := h row List.mem_cons_self
      cases hpasses : select.passes row with
      | true =>
          rw [List.filter_cons_of_pos hpasses, List.flatMap_cons,
            List.filter_eq_self.mpr (fun joined hjoined =>
              (hrow joined hjoined).trans hpasses)]
      | false =>
          rw [List.filter_cons_of_neg (by rw [hpasses]; exact Bool.false_ne_true),
            List.filter_eq_nil_iff.mpr (fun joined hjoined => by
              rw [hrow joined hjoined, hpasses]
              exact Bool.false_ne_true)]
          rfl

theorem sorting_parts : sorting select.parts = .lexAll select.orders := by
  simp [sorting, parts, keyParts, List.filterMap_flatMap, flatMap_none]

theorem outputs_parts (group : List (Scope S)) (scope : Scope S) :
    SqlMeaning.outputs select.parts group scope =
      select.outputs group scope := by
  simp [SqlMeaning.outputs, outputs, parts, keyParts, Function.comp_def,
    List.filterMap_flatMap, ← List.map_eq_flatMap]

theorem groupKey_parts (row : Scope S) :
    groupKey select.parts row = select.keys.map (fun key => key.2 row) := by
  simp [groupKey, parts, keyParts, List.filterMap_flatMap,
    ← List.map_eq_flatMap]

theorem window_parts {α : Type} (scope : Scope S) (items : List α) :
    window select.parts scope items = select.cut scope items := by
  have hlimits : select.parts.filterMap (fun part => part.limit scope) =
      select.limits.filterMap (fun limit => limit scope) := by
    simp [parts, keyParts, List.filterMap_flatMap, flatMap_none]
  have hoffsets : select.parts.filterMap (fun part => part.offset scope) =
      select.offsets.filterMap (fun offset => offset scope) := by
    simp [parts, keyParts, List.filterMap_flatMap, flatMap_none]
  unfold window cut
  rw [← List.head?_filterMap, ← List.head?_filterMap, hlimits, hoffsets,
    List.head?_filterMap, List.head?_filterMap]

theorem any_key_parts :
    select.parts.any (fun part => part.key.isSome) = !select.keys.isEmpty := by
  cases hkeys : select.keys with
  | nil => simp [parts, hkeys, Function.comp_def]
  | cons key keys => simp [parts, hkeys, keyParts]

theorem any_aggregated_parts (h : select.keys = []) :
    select.parts.any aggregated =
      select.columns.any (fun column => column.2.aggregated) := by
  have hplain : ∀ {β : Type} (items : List β),
      items.any (fun _ => false) = false :=
    fun items => List.any_eq_false.mpr (fun _ _ => Bool.false_ne_true)
  simp [parts, h, Function.comp_def, hplain]

variable [DecidableEq S]

/-- What a `select` without groups returns. -/
theorem select_parts (h : select.keys = []) (scope : Scope S) :
    SqlMeaning.select select.parts scope =
      select.cut scope
        (if select.columns.any (fun column => column.2.aggregated) then
          [⟨scope, select.outputs (select.rows scope) scope⟩]
        else
          ((Comparison.lexAll select.orders).sort (select.rows scope)).map
            (fun row => ⟨row, select.outputs [] row⟩)) := by
  unfold SqlMeaning.select projected
  rw [window_parts, any_key_parts, any_aggregated_parts select h, h,
    passing_parts, sorting_parts]
  simp only [outputs_parts, List.isEmpty_nil, Bool.not_true,
    Bool.false_eq_true, if_false]

/-- A `select` without aggregates returns its rows in order. -/
theorem select_rows
    (h : select.keys = [])
    (hplain : select.columns.any (fun column => column.2.aggregated) = false)
    (scope : Scope S) :
    (SqlMeaning.select select.parts scope).map ResultRow.outputs =
      select.cut scope
        (((Comparison.lexAll select.orders).sort (select.rows scope)).map
          (select.outputs [])) := by
  rw [select.select_parts h, hplain, map_cut]
  simp only [Bool.false_eq_true, if_false, List.map_map]
  rfl

/-- A `select` of one aggregate returns one row. -/
theorem select_aggregate
    (h : select.keys = [])
    {name : Option String}
    {part : SqlMeaning S}
    (hcolumns : select.columns = [(name, part)])
    (hpart : part.aggregated = true)
    (scope : Scope S) :
    (SqlMeaning.select select.parts scope).map ResultRow.outputs =
      select.cut scope [[(name, part.read (select.rows scope) scope)]] := by
  have hany : [(name, part)].any (fun column => column.2.aggregated) = true := by
    rw [List.any_cons, hpart]
    rfl
  have houtputs : select.outputs (select.rows scope) scope =
      [(name, part.read (select.rows scope) scope)] := by
    rw [select.outputs_eq h, hcolumns]
    rfl
  rw [select.select_parts h, hcolumns, if_pos hany, houtputs, map_cut]
  rfl

/-- What a `select` with groups returns. -/
theorem select_groups
    (h : select.keys ≠ [])
    (hlimits : select.limits = [])
    (hoffsets : select.offsets = [])
    (scope : Scope S) :
    SqlMeaning.select select.parts scope =
      (groupsBy (fun row => select.keys.map (fun key => key.2 row))
        (select.rows scope)).map (fun group =>
          ⟨scope, select.outputs group (group.headD scope)⟩) := by
  have hkeys : (!select.keys.isEmpty) = true := by simpa using h
  unfold SqlMeaning.select projected
  rw [window_parts, cut_of_nil select hlimits hoffsets, any_key_parts,
    if_pos hkeys, passing_parts, funext (groupKey_parts select)]
  simp only [outputs_parts]

end SelectParts

/-! ## Columns beside sources -/

section Sources

/-- A part that neither filters, orders, cuts nor groups rows. -/
structure IsPlain (part : SqlMeaning S) : Prop where
  aggregated : part.aggregated = false
  comparison : part.comparison = none
  holds : ∀ scope, part.holds scope = true
  limit : ∀ scope, part.limit scope = none
  offset : ∀ scope, part.offset scope = none
  key : part.key = none

theorem isPlain_source (scopes : Scope S → List (Scope S)) :
    (source scopes).IsPlain :=
  ⟨rfl, rfl, fun _ => rfl, fun _ => rfl, fun _ => rfl, rfl⟩

theorem isPlain_field
    {part : SqlMeaning S}
    (h : part.aggregated = false)
    (name : Option String) : (field name part).IsPlain :=
  ⟨h, rfl, fun _ => rfl, fun _ => rfl, fun _ => rfl, rfl⟩

theorem select_plain
    [DecidableEq S]
    {parts : List (SqlMeaning S)}
    (h : ∀ part ∈ parts, part.IsPlain)
    (scope : Scope S) :
    (select parts scope).map ResultRow.outputs =
      (scopes parts scope).map (outputs parts []) := by
  have hkey : parts.any (fun part => part.key.isSome) = false := by
    refine List.any_eq_false.mpr fun part hpart => ?_
    rw [(h part hpart).key]
    exact Bool.false_ne_true
  have haggregated : parts.any aggregated = false := by
    refine List.any_eq_false.mpr fun part hpart => ?_
    rw [(h part hpart).aggregated]
    exact Bool.false_ne_true
  have hpassing : passing parts scope = scopes parts scope :=
    List.filter_eq_self.mpr fun row _ =>
      List.all_eq_true.mpr fun part hpart => (h part hpart).holds row
  have hsorting : sorting parts = .trivial := by
    unfold sorting
    rw [List.filterMap_eq_nil_iff.mpr fun part hpart =>
      (h part hpart).comparison]
    rfl
  have hlimit : parts.findSome? (fun part => part.limit scope) = none :=
    List.findSome?_eq_none_iff.mpr fun part hpart => (h part hpart).limit scope
  have hoffset : parts.findSome? (fun part => part.offset scope) = none :=
    List.findSome?_eq_none_iff.mpr fun part hpart =>
      (h part hpart).offset scope
  unfold select window projected
  rw [hkey, haggregated, hpassing, hsorting, hlimit, hoffset,
    Comparison.sort_trivial]
  simp only [Bool.false_eq_true, if_false, Option.getD_none, List.drop_zero,
    takeAtMost, List.map_map]
  rfl

/-- Columns in front of a source. -/
def sourceParts
    (entry : List (Option String × SqlMeaning S) ×
      (Scope S → List (Scope S))) : List (SqlMeaning S) :=
  entry.1.map (fun column => .field column.1 column.2) ++ [.source entry.2]

variable (entries : List (List (Option String × SqlMeaning S) ×
  (Scope S → List (Scope S))))

theorem scopes_sourceParts (scope : Scope S) :
    scopes (entries.flatMap sourceParts) scope =
      scopes (entries.map (fun entry => .source entry.2)) scope := by
  induction entries generalizing scope with
  | nil => rfl
  | cons entry entries ih =>
      have hcolumns : ∀ row : Scope S, scopes (entry.1.map (fun column =>
          SqlMeaning.field column.1 column.2)) row = [row] := by
        refine scopes_of_joined ?_
        intro part hpart row
        obtain ⟨column, -, rfl⟩ := List.mem_map.mp hpart
        rfl
      rw [List.flatMap_cons, sourceParts, List.append_assoc, scopes_append,
        hcolumns, List.flatMap_singleton, List.singleton_append, scopes_cons,
        List.map_cons, scopes_cons, funext ih]

/-- Columns are read in the rows of all sources together. -/
theorem select_sources
    [DecidableEq S]
    (hplain : ∀ entry ∈ entries, ∀ column ∈ entry.1,
      column.2.aggregated = false)
    (scope : Scope S) :
    (select (entries.flatMap sourceParts) scope).map ResultRow.outputs =
      (scopes (entries.map (fun entry => .source entry.2)) scope).map
        (fun row => (entries.flatMap Prod.fst).map (fun column =>
          (column.1, column.2.read [] row))) := by
  have hparts : ∀ part ∈ entries.flatMap sourceParts, part.IsPlain := by
    intro part hpart
    obtain ⟨entry, hentry, hpart⟩ := List.mem_flatMap.mp hpart
    rcases List.mem_append.mp hpart with hfield | hsource
    · obtain ⟨column, hcolumn, rfl⟩ := List.mem_map.mp hfield
      exact isPlain_field (hplain entry hentry column hcolumn) column.1
    · obtain rfl := List.mem_singleton.mp hsource
      exact isPlain_source entry.2
  have houtputs : ∀ row, outputs (entries.flatMap sourceParts) [] row =
      (entries.flatMap Prod.fst).map (fun column =>
        (column.1, column.2.read [] row)) := by
    intro row
    unfold outputs
    rw [List.filterMap_flatMap, List.map_flatMap]
    refine List.flatMap_congr fun entry _ => ?_
    rw [sourceParts, List.filterMap_append, List.filterMap_map,
      ← List.filterMap_eq_map]
    exact List.append_nil _
  rw [select_plain hparts, scopes_sourceParts]
  exact List.map_congr_left fun row _ => houtputs row

end Sources

end SqlMeaning

end Postgres

end Dsql
