import Dsql.Sql.ResultColumns
import Mathlib.Data.List.Destutter

/-!
# Generated statements and result lists

By induction over the plan, every generated statement selects what results
encode the plan with.  Replaced directions leave what a statement selects.
-/

namespace Dsql

namespace Postgres

open Results

/-! ## Collections -/

section Collections

variable {typed : Results.Catalog} {catalog : Dsql.Catalog}
  {texts : Types.LiteralTexts} (options : PostgresSqlOptions)

/-- The output of rows is the one that is encoded. -/
theorem rowOutput_builds
    (source : CollectionSource)
    (view : SqlRowView)
    (generation : SelectionGenerationContext)
    {tables : List DerivedTable}
    {fields : List (String × Sql)}
    {encoded : List (String × Results.SqlExpr)}
    (h : EncodesAll typed tables fields encoded) :
    Builds (rowOutput catalog source view generation fields) (fun output =>
      output.filterMap derivedTable = [] ∧
        List.Forall₂ (Exports typed tables)
          (output.filterMap selectedField)
          (rowExports source generation.results encoded)) := by
  obtain ⟨hjoins, hexports⟩ := objectOrFields_exports generation h
  have harray : Builds
      (orderedJsonAgg catalog view (jsonBuildObject fields) source.clauses)
      (fun array => ∃ orders,
        array = .node .jsonAgg (jsonBuildObject fields :: orders)) :=
    (Builds.any _).map fun orders _ => ⟨_, rfl⟩
  have hflat : generation.results.flattened = generation.flattened := rfl
  unfold rowOutput rowExports rowExpression
  rw [hflat]
  cases hflattened : generation.flattened with
  | true =>
      rw [if_pos (.inl rfl)]
      rw [hflattened] at hexports
      exact Builds.pure ⟨hjoins, hexports⟩
  | false =>
      rw [hflattened] at hexports
      cases hcardinality : source.shape.cardinality with
      | atMostOne =>
          rw [if_pos (.inr rfl)]
          exact Builds.pure ⟨hjoins, hexports⟩
      | collection =>
          rw [if_neg (by simp)]
          refine harray.map ?_
          rintro _ ⟨orders, rfl⟩
          exact ⟨rfl, .cons ⟨rfl, .array (.object h)⟩ .nil⟩

mutual

/-- By induction over the plan: a generated collection selects what results
encode. -/
theorem generateCollection_builds
    (hcatalog : typed.ReadBy texts catalog)
    (plan : CollectionPlan)
    (path : List AliasSegment)
    (generation : SelectionGenerationContext) :
    BuildsSelect typed
      (generateCollection catalog options path generation plan)
      (Results.generateCollection typed plan generation.results) := by
  match plan with
  | .mk source (.aggregate aggregate) =>
      rw [generateCollection, Results.generateCollection]
      exact generateAggregate_builds hcatalog source aggregate path generation
  | .mk source (.rows items) =>
      rw [generateCollection]
      refine (Builds.any _).bind fun current _ => ?_
      refine (Builds.any _).bind fun correlation _ => ?_
      refine (Builds.any _).bind fun filters _ => ?_
      refine (rowSource_builds catalog _ options source current correlation
        filters).bind fun rows hrows => ?_
      refine (generateChildren_builds hcatalog items path _ _ []).bind ?_
      rintro children ⟨sources, hsources, hselects, htables, hnone⟩
      refine (selectionFieldExpressions_builds hcatalog [] [] items).bind ?_
      rintro fields ⟨encoded, hfields, hencodes⟩
      rw [List.nil_append, ← htables] at hencodes
      refine (rowOutput_builds source _ generation hencodes).map ?_
      rintro output ⟨hjoins, hexports⟩
      obtain ⟨hrowJoins, hrowFields⟩ := hrows.filterMap
      refine ⟨.mk sources (rowExports source generation.results encoded), ?_,
        selects_of _ ?_ ?_ (htables ▸ relatedTables_nodup [] items) hselects
          hexports⟩
      · rw [Results.generateCollection, hsources]
        simp only [List.length_nil] at hfields
        rw [hfields]
        rfl
      · simp only [List.filterMap_append, hrowJoins, hjoins, List.nil_append,
          List.append_nil]
      · simp only [List.filterMap_append, hrowFields, hnone, List.nil_append]

/-- The children select what is encoded of them, in order. -/
theorem generateChildren_builds
    (hcatalog : typed.ReadBy texts catalog)
    (items : List SelectionPlanItem)
    (path : List AliasSegment)
    (view root : SqlRowView)
    (before : List SelectionPlanItem) :
    Builds (generateChildren catalog options path view root before items)
      (fun parts => ∃ sources,
        Results.generateChildren typed items = .ok sources ∧
        SelectsAll typed (parts.filterMap derivedTable) sources ∧
        (parts.filterMap derivedTable).map Prod.fst =
          relatedTables path before items ∧
        parts.filterMap selectedField = []) := by
  match items with
  | [] =>
      rw [generateChildren]
      exact Builds.pure ⟨[], rfl, .nil, rfl, rfl⟩
  | .projection projection :: items =>
      rw [generateChildren]
      exact generateChildren_builds hcatalog items path view root _
  | .relation outputName flattened relationId collection :: items =>
      rw [generateChildren]
      refine (table_builds catalog collection.source.table).bind ?_
      rintro related hrelated
      refine (Builds.any _).bind fun relation _ => ?_
      rw [hrelated]
      refine (generateCollection_builds hcatalog collection _ _).bind ?_
      rintro child ⟨statement, hstatement, hchild⟩
      refine (generateChildren_builds hcatalog items path view root _).map ?_
      rintro children ⟨sources, hsources, hselects, htables, hnone⟩
      refine ⟨statement :: sources, ?_, .cons hchild hselects,
        congrArg (List.cons _) htables, hnone⟩
      have hnested : SelectionGenerationContext.results
          ⟨some (view, relation), some root, none, flattened⟩ =
            ⟨true, none, flattened⟩ := rfl
      rw [hnested] at hstatement
      rw [Results.generateChildren, hstatement, hsources]
      rfl

end

/-! ## Queries -/

theorem dedupAdjacent_cons (name : String) (names : List String) :
    dedupAdjacent (name :: names) = names.destutter' (· ≠ ·) name := by
  induction names generalizing name with
  | nil => rfl
  | cons next names ih =>
      rw [dedupAdjacent]
      by_cases hsame : name = next
      · subst hsame
        rw [if_pos rfl, ih, List.destutter'_cons_neg _ (by simp)]
      · rw [if_neg hsame, ih, List.destutter'_cons_pos _ hsame]

/-- Both sides leave adjacent repetitions out. -/
theorem dedupAdjacent_eq_destutter (names : List String) :
    dedupAdjacent names = names.destutter (· ≠ ·) := by
  cases names with
  | nil => rfl
  | cons name names => exact dedupAdjacent_cons name names

/-- Both sides name the outputs of a root alike. -/
theorem rootOutputNames_eq (plan : QueryRootPlan) :
    Results.rootOutputNames plan = rootOutputNames plan := by
  unfold Results.rootOutputNames rootOutputNames
  exact dedupAdjacent_eq_destutter _

/-- The columns of a root query, encoded from around it. -/
theorem rootFields_exports
    (typed : Results.Catalog)
    (tables : List DerivedTable)
    (index : Nat)
    (h : tables[index]? = some (.root index))
    (names : List String) :
    (rootFields index names).filterMap derivedTable = [] ∧
      List.Forall₂ (Exports typed tables)
        ((rootFields index names).filterMap selectedField)
        (referenceColumns index names) := by
  unfold rootFields referenceColumns
  induction names with
  | nil => exact ⟨rfl, .nil⟩
  | cons name names ih => exact ⟨ih.1, .cons ⟨rfl, .output h⟩ ih.2⟩

/-- A root query with the names that it exports. -/
def SelectsRoot
    (typed : Results.Catalog)
    (plan : QueryRootPlan)
    (root : Sql × List String) : Prop :=
  ∃ statement, Results.generateRootQuery typed plan = .ok (statement, root.2) ∧
    Selects typed root.1 statement

/-- A root selects what is encoded of it. -/
theorem generateRootQuery_builds
    (hcatalog : typed.ReadBy texts catalog)
    (plan : QueryRootPlan) :
    Builds (generateRootQuery catalog options plan)
      (SelectsRoot typed plan) := by
  unfold generateRootQuery
  refine (Builds.any _).bind fun root _ => ?_
  refine (generateCollection_builds options hcatalog plan.collection _ _).bind
    ?_
  rintro query ⟨statement, hstatement, hquery⟩
  have hroot : SelectionGenerationContext.results
      ⟨none, none, some plan.outputName, plan.flattened⟩ =
        ⟨false, some plan.outputName, plan.flattened⟩ := rfl
  rw [hroot] at hstatement
  have hnames := rootOutputNames_eq plan
  cases hresult : plan.collection.result with
  | aggregate aggregate =>
      rw [if_neg (by simp [CollectionResultPlan.isRows])]
      refine Builds.pure ⟨statement, ?_, hquery⟩
      rw [Results.generateRootQuery, hstatement]
      simp only [hresult, ← hnames]
      rfl
  | rows items =>
      cases hcardinality : plan.collection.source.shape.cardinality with
      | collection =>
          rw [if_neg (by simp)]
          refine Builds.pure ⟨statement, ?_, hquery⟩
          rw [Results.generateRootQuery, hstatement]
          simp only [hresult, hcardinality, ← hnames]
          rfl
      | atMostOne =>
          rw [if_pos ⟨rfl, rfl⟩]
          obtain ⟨hjoins, hexports⟩ := rootFields_exports typed
            [.root 0] 0 rfl (rootOutputNames plan)
          refine Builds.pure ⟨_, ?_, selects_of [(.root 0, query)]
            ?_ ?_ (List.nodup_singleton _) (.cons hquery .nil) hexports⟩
          · rw [Results.generateRootQuery, hstatement]
            simp only [hresult, hcardinality, hnames]
            rfl
          · rw [List.filterMap_append, hjoins]
            rfl
          · rw [List.filterMap_append]
            exact List.append_nil _

/-- Root queries beside each other, the first of them numbered `start`. -/
theorem combinedRoots_select
    {tables : List DerivedTable}
    {roots : List (Sql × List String)}
    {encoded : List (SelectStatement × List String)}
    (h : List.Forall₂ (fun root encoded =>
      root.2 = encoded.2 ∧ Selects typed root.1 encoded.1) roots encoded)
    (start : Nat)
    (htables : ∀ index, start ≤ index → index < start + roots.length →
      tables[index]? = some (.root index)) :
    let parts := (roots.zipIdx start).flatMap (fun root =>
      rootFields root.2 root.1.2 ++ [.node (.root root.2) [root.1.1]])
    (parts.filterMap derivedTable).map Prod.fst =
        (List.range' start roots.length).map DerivedTable.root ∧
      SelectsAll typed (parts.filterMap derivedTable)
        (encoded.map Prod.fst) ∧
      List.Forall₂ (Exports typed tables) (parts.filterMap selectedField)
        ((encoded.zipIdx start).flatMap (fun root =>
          referenceColumns root.2 root.1.2)) := by
  induction h generalizing start with
  | nil => exact ⟨rfl, .nil, .nil⟩
  | @cons root statement roots encoded hroot _ ih =>
      obtain ⟨hnames, hselects⟩ := hroot
      obtain ⟨hrest, hjoined, hexports⟩ := ih (start + 1)
        (fun index hlow hhigh => htables index (by omega) (by
          rw [List.length_cons]
          omega))
      have hself := htables start (Nat.le_refl _) (by
        rw [List.length_cons]
        omega)
      obtain ⟨hown, hfields⟩ := rootFields_exports typed tables start hself
        root.2
      simp only [List.zipIdx_cons, List.flatMap_cons, List.filterMap_append,
        hown, List.nil_append]
      refine ⟨congrArg (List.cons _) hrest, .cons hselects hjoined, ?_⟩
      rw [← hnames]
      exact List.rel_append (by
        rw [show ([.node (.root start) [root.1]] : List Sql).filterMap
          selectedField = [] from rfl, List.append_nil]
        exact hfields) hexports

/-- Every root that is generated is encoded. -/
theorem generateRootQueries_typed
    {plans : List QueryRootPlan}
    {roots : List (Sql × List String)}
    (h : List.Forall₂ (SelectsRoot typed) plans roots) :
    ∃ encoded, plans.mapM (Results.generateRootQuery typed) = .ok encoded ∧
      List.Forall₂ (fun root encoded =>
        root.2 = encoded.2 ∧ Selects typed root.1 encoded.1) roots
        encoded := by
  induction h with
  | nil => exact ⟨[], rfl, .nil⟩
  | @cons plan root plans roots hroot _ ih =>
      obtain ⟨statement, hstatement, hselects⟩ := hroot
      obtain ⟨encoded, hothers, hall⟩ := ih
      refine ⟨(statement, root.2) :: encoded, ?_, .cons ⟨rfl, hselects⟩ hall⟩
      rw [List.mapM_cons, hstatement, hothers]
      rfl

/-- Joined roots select what is encoded of them. -/
theorem combineRootQueries_builds
    {roots : List (Sql × List String)}
    {encoded : List (SelectStatement × List String)}
    (h : List.Forall₂ (fun root encoded =>
      root.2 = encoded.2 ∧ Selects typed root.1 encoded.1) roots encoded) :
    BuildsSelect typed (combineRootQueries roots)
      (Results.combineRootQueries encoded) := by
  unfold BuildsSelect combineRootQueries Results.combineRootQueries
  rw [show roots.isEmpty = encoded.isEmpty by cases h <;> rfl]
  split
  next => exact Builds.throw _
  next =>
    have htables (index : Nat) (hlow : 0 ≤ index)
        (hhigh : index < 0 + roots.length) :
        ((List.range' 0 roots.length).map DerivedTable.root)[index]? =
          some (.root index) := by
      simp [Nat.zero_add roots.length ▸ hhigh]
    obtain ⟨hnames, hjoined, hexports⟩ := combinedRoots_select h 0 htables
    refine Builds.pure ⟨_, rfl, selects_of _ rfl rfl ?_ hjoined ?_⟩
    · rw [hnames]
      exact List.Nodup.map (fun _ _ => DerivedTable.root.inj)
        (List.nodup_range' ..)
    · rw [hnames]
      exact hexports

/-- A generated statement selects what results encode the plan with. -/
theorem generateStatement_builds
    (hcatalog : typed.ReadBy texts catalog)
    (plan : QueryPlan) :
    BuildsSelect typed (generateStatement catalog options plan)
      (Results.generateQuery typed plan) := by
  unfold BuildsSelect generateStatement Results.generateQuery
  refine (Builds.mapM plan.roots fun root _ =>
    generateRootQuery_builds options hcatalog root).bind fun roots hroots => ?_
  obtain ⟨encoded, htyped, hall⟩ := generateRootQueries_typed hroots
  rw [htyped]
  match hall with
  | .nil => exact combineRootQueries_builds .nil
  | .cons hroot .nil => exact Builds.pure ⟨_, rfl, hroot.2⟩
  | .cons hroot (.cons hother hrest) =>
      exact combineRootQueries_builds (.cons hroot (.cons hother hrest))

end Collections

/-! ## Finished statements -/

namespace Sql

variable (replacements : List OrderReplacement)

/-- A construct is replaced in an `order by` only. -/
theorem replacedConstruct_cases (construct : SqlConstruct) (parts : List Sql) :
    replacedConstruct replacements construct parts = construct ∨
      ((construct = .orderBy .asc ∨ ∃ path, construct = .orderVariant path) ∧
        ∃ path, replacedConstruct replacements construct parts =
          .orderVariant path) := by
  unfold replacedConstruct
  cases horder : columnOrder construct parts with
  | none => exact .inl rfl
  | some order =>
      rw [Option.bind_some]
      cases replacements.find? (·.applies order) with
      | none => exact .inl rfl
      | some replacement =>
          refine .inr ⟨?_, replacement.path, rfl⟩
          cases construct with
          | orderBy direction =>
              cases direction with
              | asc => exact .inl rfl
              | desc => cases horder
          | orderVariant path => exact .inr ⟨path, rfl⟩
          | _ => cases horder

/-- Directions do not touch the joined tables. -/
theorem joinedTable_replaced (construct : SqlConstruct) (parts : List Sql) :
    joinedTable (replacedConstruct replacements construct parts) =
      joinedTable construct := by
  obtain hsame | ⟨rfl | ⟨path, rfl⟩, replaced, hreplaced⟩ :=
    replacedConstruct_cases replacements construct parts
  · rw [hsame]
  · rw [hreplaced]
    rfl
  · rw [hreplaced]
    rfl

/-- Directions do not touch the names of fields. -/
theorem fieldName_replaced (construct : SqlConstruct) (parts : List Sql) :
    fieldName (replacedConstruct replacements construct parts) =
      fieldName construct := by
  obtain hsame | ⟨rfl | ⟨path, rfl⟩, replaced, hreplaced⟩ :=
    replacedConstruct_cases replacements construct parts
  · rw [hsame]
  · rw [hreplaced]
    rfl
  · rw [hreplaced]
    rfl

theorem replaceAllDirections_eq_map (parts : List Sql) :
    replaceAllDirections replacements parts =
      parts.map (replaceDirections replacements) := by
  induction parts with
  | nil => rw [replaceAllDirections]; rfl
  | cons part parts ih => rw [replaceAllDirections, ih]; rfl

theorem derivedTable_replaceDirections (part : Sql) :
    derivedTable (part.replaceDirections replacements) =
      (derivedTable part).map (fun table =>
        (table.1, table.2.replaceDirections replacements)) := by
  cases part with
  | placeholder number textCast collection => rw [replaceDirections]; rfl
  | node construct parts =>
      rw [replaceDirections, replaceAllDirections_eq_map]
      match parts with
      | [] => rfl
      | [query] =>
          simp only [List.map_cons, List.map_nil, derivedTable,
            joinedTable_replaced, Option.map_map, Function.comp_def]
      | _ :: _ :: _ => rfl

theorem selectedField_replaceDirections (part : Sql) :
    selectedField (part.replaceDirections replacements) =
      (selectedField part).map (fun field =>
        (field.1, field.2.replaceDirections replacements)) := by
  cases part with
  | placeholder number textCast collection => rw [replaceDirections]; rfl
  | node construct parts =>
      rw [replaceDirections, replaceAllDirections_eq_map]
      match parts with
      | [] => rfl
      | [query] =>
          simp only [List.map_cons, List.map_nil, selectedField,
            fieldName_replaced, Option.map_map, Function.comp_def]
      | _ :: _ :: _ => rfl

/-- Directions do not touch which column is read. -/
theorem readsColumn_replaceDirections
    {value : Sql}
    {column : ColumnId}
    (h : value.readsColumn column = true) :
    (value.replaceDirections replacements).readsColumn column = true := by
  unfold readsColumn at h
  split at h
  next source read =>
    rw [replaceDirections, replaceAllDirections_eq_map]
    exact h
  next guard source read =>
    rw [replaceDirections, replaceAllDirections_eq_map, List.map_cons,
      List.map_singleton, replaceDirections, replaceAllDirections_eq_map]
    exact h
  next => cases h

/-- Directions do not touch which aggregate is read. -/
theorem readsAggregate_replaceDirections
    {value : Sql}
    {function : AggregateFunction}
    {operand : Option ColumnId}
    (h : value.readsAggregate function operand = true) :
    (value.replaceDirections replacements).readsAggregate function operand =
      true := by
  unfold readsAggregate at h
  split at h
  next =>
    rw [replaceDirections, replaceAllDirections_eq_map]
    exact h
  next =>
    rw [replaceDirections, replaceAllDirections_eq_map]
    exact h
  next applied argument =>
    rw [replaceDirections, replaceAllDirections_eq_map, List.map_singleton]
    rw [Bool.and_eq_true] at h
    refine Bool.and_eq_true_iff.mpr ⟨h.1, ?_⟩
    cases operand with
    | none => cases h.2
    | some column => exact readsColumn_replaceDirections replacements h.2
  next => cases h

end Sql

theorem replaceDirections_jsonBuildObject
    (replacements : List OrderReplacement)
    (fields : List (String × Sql)) :
    (jsonBuildObject fields).replaceDirections replacements =
      jsonBuildObject (fields.map (fun field =>
        (field.1, field.2.replaceDirections replacements))) := by
  unfold jsonBuildObject
  rw [Sql.replaceDirections, Sql.replaceAllDirections_eq_map, List.map_map,
    List.map_map, List.map_map]
  rfl

section Finished

variable {typed : Results.Catalog} {tables : List DerivedTable}
  (replacements : List OrderReplacement)

mutual

/-- Directions do not touch what an expression encodes. -/
theorem Encodes.replaceDirections
    {sql : Sql}
    {encoded : Results.SqlExpr}
    (h : Encodes typed tables sql encoded) :
    Encodes typed tables (sql.replaceDirections replacements) encoded := by
  match h with
  | .column hreads =>
      rw [Sql.replaceDirections, Sql.replaceAllDirections_eq_map]
      exact .column (Sql.readsColumn_replaceDirections replacements hreads)
  | .aggregate hreads =>
      rw [Sql.replaceDirections, Sql.replaceAllDirections_eq_map]
      exact .aggregate
        (Sql.readsAggregate_replaceDirections replacements hreads)
  | .output htable =>
      rw [Sql.replaceDirections, Sql.replaceAllDirections_eq_map]
      exact .output htable
  | .object hfields =>
      rw [replaceDirections_jsonBuildObject]
      exact .object hfields.replaceDirections
  | .wire hvalue =>
      rw [Sql.replaceDirections, Sql.replaceAllDirections_eq_map]
      exact .wire hvalue.replaceDirections
  | .array hrow =>
      rw [Sql.replaceDirections, Sql.replaceAllDirections_eq_map,
        List.map_singleton, Sql.replaceDirections,
        Sql.replaceAllDirections_eq_map]
      exact .array hrow.replaceDirections

theorem EncodesAll.replaceDirections
    {fields : List (String × Sql)}
    {encoded : List (String × Results.SqlExpr)}
    (h : EncodesAll typed tables fields encoded) :
    EncodesAll typed tables
      (fields.map (fun field =>
        (field.1, field.2.replaceDirections replacements))) encoded := by
  match h with
  | .nil => exact .nil
  | .cons head tail =>
      exact .cons head.replaceDirections tail.replaceDirections

end

/-- Directions do not touch what is exported. -/
theorem exports_replaceDirections
    {fields : List (Option String × Sql)}
    {exported : List (ColumnName × Results.SqlExpr)}
    (h : List.Forall₂ (Exports typed tables) fields exported) :
    List.Forall₂ (Exports typed tables)
      (fields.map (fun field =>
        (field.1, field.2.replaceDirections replacements))) exported := by
  rw [List.forall₂_map_left_iff]
  exact h.imp fun field exported hexports =>
    ⟨hexports.1, hexports.2.replaceDirections replacements⟩

theorem filterMap_replaceDirections
    {α : Type}
    {part : Sql → Option (α × Sql)}
    (hpart : ∀ sql, part (sql.replaceDirections replacements) =
      (part sql).map (fun found =>
        (found.1, found.2.replaceDirections replacements)))
    (parts : List Sql) :
    (parts.map (Sql.replaceDirections replacements)).filterMap part =
      (parts.filterMap part).map (fun found =>
        (found.1, found.2.replaceDirections replacements)) := by
  rw [List.filterMap_map, List.map_filterMap]
  exact congrFun (congrArg List.filterMap (funext hpart)) parts

mutual

/-- Replaced directions leave what a statement selects. -/
theorem Selects.replaceDirections
    {sql : Sql}
    {statement : SelectStatement}
    (h : Selects typed sql statement) :
    Selects typed (sql.replaceDirections replacements) statement := by
  match h with
  | @Selects.select _ parts _ _ distinct joined exports =>
      rw [Sql.replaceDirections, Sql.replaceAllDirections_eq_map]
      have htables : ((parts.filterMap derivedTable).map (fun found =>
          (found.1, found.2.replaceDirections replacements))).map Prod.fst =
            (parts.filterMap derivedTable).map Prod.fst := by
        rw [List.map_map]
        rfl
      refine selects_of _
        (filterMap_replaceDirections replacements
          (Sql.derivedTable_replaceDirections replacements) parts)
        (filterMap_replaceDirections replacements
          (Sql.selectedField_replaceDirections replacements) parts)
        ?_ joined.replaceDirections ?_
      · rw [htables]
        exact distinct
      · rw [htables]
        exact exports_replaceDirections replacements exports

/-- Directions do not touch what the sources select. -/
theorem SelectsAll.replaceDirections
    {found : List (DerivedTable × Sql)}
    {sources : List SelectStatement}
    (h : SelectsAll typed found sources) :
    SelectsAll typed
      (found.map (fun found =>
        (found.1, found.2.replaceDirections replacements))) sources := by
  match h with
  | .nil => exact .nil
  | .cons head tail =>
      exact .cons head.replaceDirections tail.replaceDirections

end

end Finished

/-- The statement of a plan selects what results encode the plan with. -/
theorem generatePostgresSql_selects
    {typed : Results.Catalog}
    {catalog : Dsql.Catalog}
    {texts : Types.LiteralTexts}
    (hcatalog : typed.ReadBy texts catalog)
    {options : PostgresSqlOptions}
    {plan : QueryPlan}
    {generated : GeneratedSql}
    (h : generatePostgresSql catalog options plan = .ok generated) :
    ∃ statement, Results.generateQuery typed plan = .ok statement ∧
      Selects typed generated.statement statement := by
  obtain ⟨⟨written, template⟩, hrun, hgenerated⟩ := except_bind_ok h
  cases hgenerated
  obtain ⟨statement, htyped, hselects⟩ :=
    generateStatement_builds options hcatalog plan .new written template hrun
  exact ⟨statement, htyped, hselects.replaceDirections template.replacements⟩

end Postgres

end Dsql
