import Dsql.Results.Exactness
import Mathlib.Tactic

/-!
# Whole statements

A single root is the statement; several roots are joined and their columns
are referred to from outside.  Either way the statement returns one row of JSON
columns whose nodes are the published fields.
-/

namespace Dsql
namespace Results

open Dsql.Types

section Roots

variable {catalog : Catalog}

/-- A row of JSON columns. -/
def jsonRow (fields : List (String × JsonShape)) : List (ColumnName × SqlType) :=
  fields.map (fun field => (.output field.1, .json field.2))

theorem jsonRow_append
    (first second : List (String × JsonShape)) :
    jsonRow (first ++ second) = jsonRow first ++ jsonRow second :=
  List.map_append

theorem jsonColumns_jsonRow
    (fields : List (String × JsonShape)) :
    jsonColumns (jsonRow fields) = outputColumns fields := by
  unfold jsonColumns jsonRow outputColumns
  rw [List.map_map]
  rfl

theorem names_jsonRow
    (fields : List (String × JsonShape)) :
    (jsonRow fields).map Prod.fst = (fields.map Prod.fst).map ColumnName.output := by
  unfold jsonRow
  rw [List.map_map, List.map_map]
  rfl

/-- Columns of JSON are settled by their shapes. -/
theorem eq_jsonRow
    {columns : List (ColumnName × SqlType)}
    {fields : List (String × JsonShape)}
    (hshapes : jsonColumns columns = outputColumns fields)
    (hjson : AllJson columns) :
    columns = jsonRow fields := by
  induction columns generalizing fields with
  | nil =>
      cases fields with
      | nil => rfl
      | cons field fields => cases hshapes
  | cons column columns ih =>
      cases fields with
      | nil => cases hshapes
      | cons field fields =>
          obtain ⟨hhead, htail⟩ := List.cons_eq_cons.mp hshapes
          rw [jsonRow, List.map_cons, ← jsonRow,
            ← ih htail (fun other hmem => hjson other (List.mem_cons_of_mem _ hmem))]
          congr 1
          obtain ⟨hname, hshape⟩ := Prod.mk.inj hhead
          refine Prod.ext hname ?_
          rw [hjson column List.mem_cons_self]
          exact congrArg SqlType.json hshape

/-! ## References to the columns of a root -/

/-- Removing adjacent repetitions removes no name. -/
theorem mem_dedupAdjacent
    {name : String}
    {names : List String} :
    name ∈ dedupAdjacent names ↔ name ∈ names := by
  fun_induction dedupAdjacent names with
  | case1 => rfl
  | case2 only => rfl
  | case3 next names ih =>
      rw [ih]
      simp only [List.mem_cons, or_self_left]
  | case4 first next names hne ih =>
      rw [List.mem_cons, ih]
      exact List.mem_cons.symm

/-- Distinct names stay as they are. -/
theorem dedupAdjacent_of_nodup
    {names : List String}
    (h : names.Nodup) :
    dedupAdjacent names = names := by
  fun_induction dedupAdjacent names with
  | case1 => rfl
  | case2 only => rfl
  | case3 next names ih =>
      exact absurd List.mem_cons_self (List.nodup_cons.mp h).1
  | case4 first next names hne ih =>
      rw [ih (List.nodup_cons.mp h).2]

theorem exportedTypes_append
    {types : List (List (ColumnName × SqlType))}
    (first second : List (ColumnName × SqlExpr)) :
    exportedTypes types (first ++ second) =
      (exportedTypes types first).bind (fun columns =>
        (exportedTypes types second).map (fun others => columns ++ others)) := by
  induction first with
  | nil =>
      rw [List.nil_append, exportedTypes, Option.bind_some]
      exact Option.map_id'.symm
  | cons field fields ih =>
      obtain ⟨name, expression⟩ := field
      rw [List.cons_append, exportedTypes, exportedTypes, ih]
      cases typeOf types expression with
      | none => rfl
      | some type =>
          cases exportedTypes types fields with
          | none => rfl
          | some columns =>
              cases exportedTypes types second with
              | none => rfl
              | some others => rfl

section References

variable {types : List (List (ColumnName × SqlType))}
variable {source : Nat}
variable {fields : List (String × JsonShape)}

/-- What a row of JSON exports is JSON. -/
theorem resolveColumn_jsonRow
    {name : ColumnName}
    {type : SqlType}
    (h : resolveColumn (jsonRow fields) name = some type) :
    type = .json type.toJson := by
  unfold resolveColumn at h
  split at h
  · rename_i other found hfilter
    have hmem : (other, found) ∈ jsonRow fields :=
      List.mem_of_mem_filter (hfilter ▸ List.mem_singleton_self _)
    obtain ⟨field, -, heq⟩ := List.mem_map.mp hmem
    cases heq
    cases h
    rfl
  · cases h

/-- References that have types name columns of their source. -/
theorem exportedTypes_referenceColumns_mem
    (hsource : types[source]? = some (jsonRow fields))
    {names : List String}
    {columns : List (ColumnName × SqlType)}
    (h : exportedTypes types (referenceColumns source names) = some columns) :
    AllJson columns ∧
      ∀ name ∈ names, ∃ type,
        resolveColumn (jsonRow fields) (.output name) = some type := by
  induction names generalizing columns with
  | nil =>
      cases h
      exact ⟨fun column hmem => absurd hmem List.not_mem_nil,
        fun name hmem => absurd hmem List.not_mem_nil⟩
  | cons first names ih =>
      rw [referenceColumns, List.map_cons, ← referenceColumns, exportedTypes,
        typeOf_reference hsource] at h
      split at h
      · rename_i type others htype hothers
        cases h
        obtain ⟨hjson, hresolved⟩ := ih hothers
        constructor
        · intro column hmem
          rcases List.mem_cons.mp hmem with rfl | hmem
          · exact resolveColumn_jsonRow htype
          · exact hjson column hmem
        · intro name hmem
          rcases List.mem_cons.mp hmem with rfl | hmem
          · exact ⟨type, htype⟩
          · exact hresolved name hmem
      · cases h

/-- Resolved references show that no name is repeated. -/
theorem nodup_of_resolved
    (h : ∀ name ∈ fields.map Prod.fst, ∃ type,
      resolveColumn (jsonRow fields) (.output name) = some type) :
    (fields.map Prod.fst).Nodup := by
  have hnodup : ((jsonRow fields).map Prod.fst).Nodup := by
    refine List.nodup_iff_count_eq_one.mpr ?_
    intro column hmem
    rw [names_jsonRow] at hmem
    obtain ⟨name, hname, rfl⟩ := List.mem_map.mp hmem
    obtain ⟨type, htype⟩ := h name hname
    exact count_of_resolveColumn htype
  rw [names_jsonRow] at hnodup
  exact hnodup.of_map _

/-- The columns of a root are read back whole. -/
theorem exportedTypes_referenceColumns
    (hsource : types[source]? = some (jsonRow fields))
    {columns : List (ColumnName × SqlType)}
    (h : exportedTypes types
      (referenceColumns source (dedupAdjacent (fields.map Prod.fst))) =
        some columns) :
    columns = jsonRow fields := by
  obtain ⟨hjson, hresolved⟩ := exportedTypes_referenceColumns_mem hsource h
  have hnodup := nodup_of_resolved (fun name hmem =>
    hresolved name (mem_dedupAdjacent.mpr hmem))
  refine eq_jsonRow ?_ hjson
  rw [dedupAdjacent_of_nodup hnodup, referenceColumns_eq] at h
  have heq := exportedTypes_exportFields types ⟨true, none, true⟩
    (readBack source (fields.map Prod.fst))
  rw [h] at heq
  obtain ⟨shapes, hshapes, houtput⟩ := Option.map_eq_some_iff.mp heq.symm
  rw [typesOf_readBack_eq hsource (jsonColumns_jsonRow fields) hshapes] at houtput
  exact houtput.symm

/-- A source with distinct names can be referenced by all of them. -/
theorem exportedTypes_referenceColumns_isSome
    (hsource : types[source]? = some (jsonRow fields))
    (hnodup : (fields.map Prod.fst).Nodup) :
    ∃ columns, exportedTypes types
      (referenceColumns source (dedupAdjacent (fields.map Prod.fst))) =
        some columns := by
  rw [dedupAdjacent_of_nodup hnodup, referenceColumns_eq]
  exact exportedTypes_exportFields_some.mpr
    (typesOf_readBack_isSome hsource (jsonColumns_jsonRow fields) hnodup
      (List.Subset.refl _))

end References

/-! ## One root -/

/-- The root flattens no groups. -/
def QueryRootPlan.flattensRows (plan : QueryRootPlan) : Bool :=
  !(plan.flattened && plan.collection.result.isGrouped) &&
    plan.collection.result.flattensRows

/-- Flattened names are distinct within a root. -/
def QueryRootPlan.distinctNames (plan : QueryRootPlan) : Bool :=
  (!plan.flattened ||
      decide (collectCollectionOutputNames plan.collection.result).Nodup) &&
    plan.collection.result.distinctNames

/-- Flattened names are distinct within each root. -/
def QueryPlan.distinctNames (plan : QueryPlan) : Bool :=
  plan.roots.all QueryRootPlan.distinctNames

/-- The names that a root reads are those of its fields. -/
theorem QueryRootPlan.names
    {plan : QueryRootPlan}
    (h : plan.flattensRows = true) :
    rootOutputNames plan = dedupAdjacent ((rootFields catalog plan).map Prod.fst) := by
  obtain ⟨outputName, flattened, ⟨source, result⟩⟩ := plan
  obtain ⟨hplain, hresult⟩ := Bool.and_eq_true_iff.mp h
  cases flattened with
  | false => rfl
  | true =>
      have hgrouped : result.isGrouped = false := by
        rw [Bool.true_and, Bool.not_eq_true'] at hplain
        exact hplain
      exact congrArg dedupAdjacent (collectCollectionOutputNames_eq hgrouped hresult)

/-- The fields of a root have distinct names. -/
theorem QueryRootPlan.nodup
    {plan : QueryRootPlan}
    (h : plan.flattensRows = true)
    (hdistinct : plan.distinctNames = true) :
    ((rootFields catalog plan).map Prod.fst).Nodup := by
  obtain ⟨outputName, flattened, ⟨source, result⟩⟩ := plan
  obtain ⟨hplain, hresult⟩ := Bool.and_eq_true_iff.mp h
  obtain ⟨hflattened, -⟩ := Bool.and_eq_true_iff.mp hdistinct
  cases flattened with
  | false => exact List.nodup_singleton _
  | true =>
      have hgrouped : result.isGrouped = false := by
        rw [Bool.true_and, Bool.not_eq_true'] at hplain
        exact hplain
      have hnodup : (collectCollectionOutputNames result).Nodup :=
        of_decide_eq_true hflattened
      rw [collectCollectionOutputNames_eq hgrouped hresult] at hnodup
      exact hnodup

/-- What is proved of a generated root. -/
structure RootGenerated
    (catalog : Catalog)
    (plan : QueryRootPlan)
    (root : SelectStatement × List String) : Prop where
  names : root.2 = dedupAdjacent ((rootFields catalog plan).map Prod.fst)
  row : ∀ columns, root.1.columns = some columns →
    columns = jsonRow (rootFields catalog plan)
  accepted : plan.distinctNames = true → ∃ columns, root.1.columns = some columns

/-- The statement of a root's collection has the columns of its fields. -/
theorem generateCollection_root
    {plan : QueryRootPlan}
    (hrows : plan.flattensRows = true)
    {query : SelectStatement}
    (h : generateCollection catalog plan.collection
      ⟨false, some plan.outputName, plan.flattened⟩ = .ok query) :
    (∀ columns, query.columns = some columns →
      columns = jsonRow (rootFields catalog plan)) ∧
    (plan.distinctNames = true → ∃ columns, query.columns = some columns) := by
  obtain ⟨outputName, flattened, ⟨source, result⟩⟩ := plan
  obtain ⟨hplain, hresult⟩ := Bool.and_eq_true_iff.mp hrows
  have hflat : flattened = true → result.isGrouped = false := by
    rintro rfl
    rw [Bool.true_and, Bool.not_eq_true'] at hplain
    exact hplain
  obtain ⟨hcolumns, haccepted⟩ := generateCollection_columns hresult hflat h
  constructor
  · intro columns hfound
    obtain ⟨hshapes, hencoded⟩ := hcolumns columns hfound
    refine eq_jsonRow ?_ (hencoded rfl)
    rw [hshapes]
    cases flattened with
    | true => rfl
    | false => rfl
  · intro hdistinct
    exact haccepted (Bool.and_eq_true_iff.mp hdistinct).2

/-- A generated root has the columns of its fields. -/
theorem generateRootQuery_generated
    {plan : QueryRootPlan}
    (hrows : plan.flattensRows = true)
    {root : SelectStatement × List String}
    (h : generateRootQuery catalog plan = .ok root) :
    RootGenerated catalog plan root := by
  obtain ⟨query, hquery, h⟩ := except_bind_ok h
  obtain ⟨hrow, haccepted⟩ := generateCollection_root hrows hquery
  have hnames : rootOutputNames plan =
      dedupAdjacent ((rootFields catalog plan).map Prod.fst) := QueryRootPlan.names hrows
  split at h
  · cases h
    refine ⟨hnames, ?_, ?_⟩
    · intro columns hcolumns
      obtain ⟨types, hsources, hexported⟩ := columns_mk.mp hcolumns
      rw [sourceColumns, sourceColumns] at hsources
      split at hsources
      · rename_i inner others hinner hothers
        cases hsources
        cases hothers
        rw [hrow inner hinner, hnames] at hexported
        exact exportedTypes_referenceColumns rfl hexported
      · cases hsources
    · intro hdistinct
      obtain ⟨inner, hinner⟩ := haccepted hdistinct
      have hsource : [jsonRow (rootFields catalog plan)][0]? =
          some (jsonRow (rootFields catalog plan)) := rfl
      obtain ⟨columns, hcolumns⟩ := exportedTypes_referenceColumns_isSome hsource
        (QueryRootPlan.nodup hrows hdistinct)
      rw [← hnames] at hcolumns
      refine ⟨columns, columns_mk.mpr ⟨_, ?_, hcolumns⟩⟩
      rw [sourceColumns, sourceColumns, hinner, hrow inner hinner]
  · cases h
    exact ⟨hnames, hrow, haccepted⟩

/-! ## Several roots -/

section Combined

variable {roots : List QueryRootPlan}
variable {queries : List (SelectStatement × List String)}

/-- The columns of the roots, where they have types. -/
theorem sourceColumns_roots
    (hroots : List.Forall₂ (RootGenerated catalog) roots queries)
    {types : List (List (ColumnName × SqlType))}
    (h : sourceColumns (queries.map Prod.fst) = some types) :
    types = roots.map (fun root => jsonRow (rootFields catalog root)) := by
  induction hroots generalizing types with
  | nil =>
      cases h
      rfl
  | @cons root query roots queries hroot _ ih =>
      rw [List.map_cons, sourceColumns] at h
      split at h
      · rename_i columns others hcolumns hothers
        cases h
        rw [hroot.row columns hcolumns, ih hothers]
        rfl
      · cases h

/-- Generated roots with distinct names have types. -/
theorem sourceColumns_roots_isSome
    (hroots : List.Forall₂ (RootGenerated catalog) roots queries)
    (hdistinct : roots.all QueryRootPlan.distinctNames = true) :
    ∃ types, sourceColumns (queries.map Prod.fst) = some types := by
  induction hroots with
  | nil => exact ⟨[], rfl⟩
  | @cons root query roots queries hroot _ ih =>
      obtain ⟨hfirst, hrest⟩ := Bool.and_eq_true_iff.mp hdistinct
      obtain ⟨columns, hcolumns⟩ := hroot.accepted hfirst
      obtain ⟨others, hothers⟩ := ih hrest
      exact ⟨columns :: others, by
        rw [List.map_cons, sourceColumns, hcolumns, hothers]⟩

/-- Root `k` is read back from source `k`. -/
theorem exportedTypes_roots
    {types : List (List (ColumnName × SqlType))}
    {next : Nat}
    (hroots : List.Forall₂ (RootGenerated catalog) roots queries)
    (htypes : types.drop next =
      roots.map (fun root => jsonRow (rootFields catalog root)))
    {columns : List (ColumnName × SqlType)}
    (h : exportedTypes types ((queries.zipIdx next).flatMap (fun root =>
      referenceColumns root.2 root.1.2)) = some columns) :
    columns = jsonRow (roots.flatMap (rootFields catalog)) := by
  induction hroots generalizing next columns with
  | nil =>
      cases h
      rfl
  | @cons root query roots queries hroot _ ih =>
      obtain ⟨hsource, hdrop⟩ := getElem?_of_drop htypes
      rw [List.zipIdx_cons, List.flatMap_cons, exportedTypes_append, hroot.names] at h
      obtain ⟨first, hfirst, h⟩ := Option.bind_eq_some_iff.mp h
      obtain ⟨others, hothers, rfl⟩ := Option.map_eq_some_iff.mp h
      rw [exportedTypes_referenceColumns hsource hfirst, ih hdrop hothers,
        List.flatMap_cons, jsonRow_append]

/-- The references to all roots have types. -/
theorem exportedTypes_roots_isSome
    {types : List (List (ColumnName × SqlType))}
    {next : Nat}
    (hroots : List.Forall₂ (RootGenerated catalog) roots queries)
    (hrows : ∀ root ∈ roots, QueryRootPlan.flattensRows root = true)
    (hdistinct : roots.all QueryRootPlan.distinctNames = true)
    (htypes : types.drop next =
      roots.map (fun root => jsonRow (rootFields catalog root))) :
    ∃ columns, exportedTypes types ((queries.zipIdx next).flatMap (fun root =>
      referenceColumns root.2 root.1.2)) = some columns := by
  induction hroots generalizing next with
  | nil => exact ⟨[], rfl⟩
  | @cons root query roots queries hroot _ ih =>
      obtain ⟨hfirst, hrest⟩ := Bool.and_eq_true_iff.mp hdistinct
      obtain ⟨hsource, hdrop⟩ := getElem?_of_drop htypes
      obtain ⟨columns, hcolumns⟩ := exportedTypes_referenceColumns_isSome hsource
        (QueryRootPlan.nodup (hrows root List.mem_cons_self) hfirst)
      obtain ⟨others, hothers⟩ :=
        ih (fun other hmem => hrows other (List.mem_cons_of_mem _ hmem)) hrest hdrop
      refine ⟨columns ++ others, ?_⟩
      rw [List.zipIdx_cons, List.flatMap_cons, exportedTypes_append, hroot.names,
        hcolumns, hothers]
      rfl

/-- All generated roots have the columns of their fields. -/
theorem mapM_generateRootQuery
    (hrows : ∀ root ∈ roots, QueryRootPlan.flattensRows root = true)
    (h : roots.mapM (generateRootQuery catalog) = .ok queries) :
    List.Forall₂ (RootGenerated catalog) roots queries := by
  induction roots generalizing queries with
  | nil =>
      cases h
      exact .nil
  | cons root roots ih =>
      rw [List.mapM_cons] at h
      obtain ⟨first, hfirst, h⟩ := except_bind_ok h
      obtain ⟨rest, hrest, h⟩ := except_bind_ok h
      cases h
      exact .cons (generateRootQuery_generated (hrows root List.mem_cons_self) hfirst)
        (ih (fun other hmem => hrows other (List.mem_cons_of_mem _ hmem)) hrest)

/-- An accepted statement returns the promised row, and distinct names suffice
for it to be accepted. -/
theorem generateQuery_columns
    {plan : QueryPlan}
    (hrows : plan.flattensRows = true)
    {query : SelectStatement}
    (h : generateQuery catalog plan = .ok query) :
    (∀ columns, query.columns = some columns →
      columns = jsonRow (queryFields catalog plan)) ∧
    (plan.distinctNames = true → ∃ columns, query.columns = some columns) := by
  have hall : ∀ root ∈ plan.roots, QueryRootPlan.flattensRows root = true :=
    List.all_eq_true.mp hrows
  obtain ⟨queries, hqueries, h⟩ := except_bind_ok h
  have hroots := mapM_generateRootQuery hall hqueries
  unfold queryFields
  split at h
  · rename_i single names
    cases h
    generalize hplans : plan.roots = roots at hroots
    cases hroots with
    | @cons root _ roots _ hroot hnil =>
        cases hnil
        rw [List.flatMap_cons, List.flatMap_nil, List.append_nil]
        refine ⟨hroot.row, ?_⟩
        intro hdistinct
        rw [QueryPlan.distinctNames, hplans] at hdistinct
        exact hroot.accepted (Bool.and_eq_true_iff.mp hdistinct).1
  · unfold combineRootQueries at h
    split at h
    · cases h
    · cases h
      constructor
      · intro columns hcolumns
        obtain ⟨types, hsources, hexported⟩ := columns_mk.mp hcolumns
        have htypes : types.drop 0 = _ := sourceColumns_roots hroots hsources
        exact exportedTypes_roots hroots htypes hexported
      · intro hdistinct
        obtain ⟨types, hsources⟩ := sourceColumns_roots_isSome hroots hdistinct
        have htypes : types.drop 0 = _ := sourceColumns_roots hroots hsources
        obtain ⟨columns, hexported⟩ :=
          exportedTypes_roots_isSome hroots hall hdistinct htypes
        exact ⟨columns, columns_mk.mpr ⟨types, hsources, hexported⟩⟩

end Combined

/-! ## The metadata of a rendered statement -/

/-- A column that is generated has a result field. -/
theorem projectionResultField_ok
    {projection : Projection}
    {expression : SqlExpr}
    (h : maskedColumnExpression catalog projection.column = .ok expression)
    (parentPath : String)
    (access : ResultAccessContext) :
    ∃ field, projectionResultField catalog parentPath access projection =
      .ok field := by
  unfold maskedColumnExpression at h
  unfold projectionResultField
  cases hcolumn : catalog.columnById projection.column with
  | none =>
      rw [hcolumn] at h
      cases h
  | some column => exact ⟨_, rfl⟩

mutual

/-- A collection that is generated has result fields. -/
theorem collectCollectionChildren_ok :
    ∀ {source : CollectionSource} {result : CollectionResultPlan}
      {generation : SelectionGenerationContext} {query : SelectStatement},
      generateCollection catalog (.mk source result) generation = .ok query →
      ∀ (parentPath : String) (access : ResultAccessContext),
        ∃ fields, collectCollectionChildren catalog parentPath result access =
          .ok fields
  | source, .rows items, generation, query, h, parentPath, access => by
      rw [generateCollection] at h
      obtain ⟨children, hchildren, h⟩ := except_bind_ok h
      obtain ⟨fields, hfields, -⟩ := except_bind_ok h
      rw [collectCollectionChildren]
      exact collectResultItemFields_ok hchildren hfields parentPath access
  | source, .aggregate plan, generation, query, _, parentPath, access => by
      rw [collectCollectionChildren]
      exact ⟨_, rfl⟩

theorem collectResultItemFields_ok :
    ∀ {items : List SelectionPlanItem} {children : List SelectStatement}
      {next : Nat} {expressions : List (String × SqlExpr)},
      generateChildren catalog items = .ok children →
      selectionFieldExpressions catalog next items = .ok expressions →
      ∀ (parentPath : String) (access : ResultAccessContext),
        ∃ fields, collectResultItemFields catalog parentPath items access = .ok fields
  | [], _, _, _, _, _, parentPath, access => by
      rw [collectResultItemFields]
      exact ⟨[], rfl⟩
  | .projection projection :: items, _, _, _, hchildren, hfields, parentPath,
      access => by
      rw [generateChildren] at hchildren
      rw [selectionFieldExpressions] at hfields
      obtain ⟨expression, hexpression, hfields⟩ := except_bind_ok hfields
      obtain ⟨others, hothers, -⟩ := except_bind_ok hfields
      obtain ⟨field, hfield⟩ := projectionResultField_ok hexpression parentPath access
      obtain ⟨rest, hrest⟩ :=
        collectResultItemFields_ok hchildren hothers parentPath access
      rw [collectResultItemFields, hfield, hrest]
      exact ⟨_, rfl⟩
  | .relation outputName flattened relation (.mk source result) :: items, _, _, _,
      hchildren, hfields, parentPath, access => by
      rw [generateChildren] at hchildren
      rw [selectionFieldExpressions] at hfields
      obtain ⟨child, hchild, hchildren⟩ := except_bind_ok hchildren
      obtain ⟨others, hothers, -⟩ := except_bind_ok hchildren
      obtain ⟨expressions, hexpressions, -⟩ := except_bind_ok hfields
      obtain ⟨rest, hrest⟩ :=
        collectResultItemFields_ok hothers hexpressions parentPath access
      have hbelow := collectCollectionChildren_ok hchild
      rw [collectResultItemFields, hrest]
      cases flattened with
      | true =>
          obtain ⟨own, hown⟩ := hbelow parentPath
            ⟨(relationInherited access relation source result).1,
              (relationInherited access relation source result).2,
              source.policyNullableFields, actualFieldAccess source⟩
          simp only [if_true, hown]
          exact ⟨_, rfl⟩
      | false =>
          obtain ⟨own, hown⟩ := hbelow (joinPath parentPath outputName) source.ownAccess
          simp only [Bool.false_eq_true, if_false, hown]
          exact ⟨_, rfl⟩

end

/-- A root that is generated has result fields. -/
theorem collectRootResultFields_ok
    {plan : QueryRootPlan}
    {root : SelectStatement × List String}
    (h : generateRootQuery catalog plan = .ok root) :
    ∃ fields, collectRootResultFields catalog plan = .ok fields := by
  obtain ⟨query, hquery, -⟩ := except_bind_ok h
  obtain ⟨outputName, flattened, ⟨source, result⟩⟩ := plan
  have hbelow := collectCollectionChildren_ok hquery
  cases flattened with
  | true => exact hbelow "" _
  | false =>
      obtain ⟨children, hchildren⟩ := hbelow (joinPath "" outputName) source.ownAccess
      simp only [collectRootResultFields, Bool.false_eq_true, if_false, hchildren]
      exact ⟨_, rfl⟩

/-- Every rendered statement has metadata. -/
theorem resultShape_ok
    {plan : QueryPlan}
    {query : SelectStatement}
    (h : generateQuery catalog plan = .ok query) :
    ∃ fields, resultShape catalog plan = .ok fields := by
  obtain ⟨queries, hqueries, -⟩ := except_bind_ok h
  have hfields : ∀ root ∈ plan.roots, ∃ fields,
      collectRootResultFields catalog root = .ok fields := by
    intro root hmem
    obtain ⟨generated, hgenerated⟩ := mapM_ok_forall plan.roots hqueries root hmem
    exact collectRootResultFields_ok hgenerated
  obtain ⟨lists, hlists⟩ := mapM_ok_of_forall plan.roots hfields
  refine ⟨lists.flatten, ?_⟩
  rw [resultShape, hlists]
  rfl

/-- A rendered statement returns one row of JSON columns whose nodes, with the
representation of every scalar, are the fields that its metadata publishes. -/
theorem encoding_agrees
    (catalog : Catalog)
    (plan : QueryPlan)
    (hrows : plan.flattensRows = true)
    (query : SelectStatement)
    (hquery : generateQuery catalog plan = .ok query) :
    ∃ fields row, resultShape catalog plan = .ok fields ∧
      fields.map ResultField.node = fieldNodes "" row ∧
      (∀ columns, query.columns = some columns → columns = jsonRow row) ∧
      (plan.distinctNames = true → query.columns = some (jsonRow row)) := by
  obtain ⟨fields, hfields⟩ := resultShape_ok hquery
  obtain ⟨hrow, haccepted⟩ := generateQuery_columns hrows hquery
  refine ⟨fields, queryFields catalog plan, hfields, resultShape_nodes hfields, hrow, ?_⟩
  intro hdistinct
  obtain ⟨columns, hcolumns⟩ := haccepted hdistinct
  rw [hcolumns, hrow columns hcolumns]

end Roots

/-! ## A loaded catalog -/

/-- A tag array and a plain integer over the loaded tag types. -/
def tagColumns : List Column :=
  [⟨⟨0⟩, true⟩, ⟨⟨2⟩, true⟩]

theorem tagColumns_typed :
    ∀ column ∈ tagColumns, column.typeId.index < tagTypes.length := by
  decide +kernel

/-- A catalog with a text array and a 64-bit integer. -/
def tagCatalog : Catalog :=
  .loaded tagMetadata_builds tagColumns tagColumns_typed

/-- A source of that catalog without clauses. -/
def tagSource (cardinality : SelectionCardinality) : CollectionSource where
  table := ⟨0⟩
  shape := ⟨cardinality, true⟩
  clauses := .empty
  policyFilter := none
  fieldFilters := []
  policyNullableFields := []

/-- An array column, a flattened and a grouped aggregate, and a singular root.
-/
def tagPlan : QueryPlan where
  roots :=
    [⟨"posts", false, .mk (tagSource .collection) (.rows
        [.projection ⟨⟨0⟩, "tags"⟩,
          .relation "stats" true ⟨0⟩ (.mk (tagSource .collection) (.aggregate
            ⟨.ungrouped, [], [⟨.max, some ⟨1⟩, "latest", .bigInt, true⟩], fun _ => rfl⟩)),
          .relation "groups" false ⟨1⟩ (.mk (tagSource .collection) (.aggregate
            ⟨.grouped, [⟨⟨1⟩, "id", .bigInt, false⟩],
              [⟨.count, none, "total", .bigInt, false⟩], nofun⟩))])⟩,
      ⟨"post", true, .mk (tagSource .atMostOne) (.rows
        [.projection ⟨⟨1⟩, "id"⟩])⟩]

theorem encoding_agrees_tags :
    ∃ query fields row, generateQuery tagCatalog tagPlan = .ok query ∧
      resultShape tagCatalog tagPlan = .ok fields ∧
      fields.map ResultField.node = fieldNodes "" row ∧
      query.columns = some (jsonRow row) := by
  obtain ⟨query, hquery⟩ : ∃ query, generateQuery tagCatalog tagPlan = .ok query :=
    ⟨_, rfl⟩
  obtain ⟨fields, row, hfields, hnodes, -, hcolumns⟩ :=
    encoding_agrees tagCatalog tagPlan rfl query hquery
  exact ⟨query, fields, row, hquery, hfields, hnodes, hcolumns (by decide)⟩

end Results
end Dsql
