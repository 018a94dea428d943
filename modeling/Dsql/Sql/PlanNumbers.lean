import Dsql.Sql.ParameterNumbers

/-!
# Parameter numbers of a query

The numbers of a generated query are those of its parameters, which are the
requested ones in the order of their first requests.  Postgres cannot infer the
type of a parameter whose number is written nowhere; these are the parameters
that occur in dropped renderings only.
-/

namespace Dsql

namespace Postgres

open Dsql.Numbering Results

section Collections

variable (catalog : Catalog) (options : PostgresSqlOptions)

/-- The place of a collection below another one. -/
theorem child_mentioned
    {view root : SqlRowView}
    {mentioned rootMentioned : MentionedView}
    (hview : view.Mentioned mentioned)
    (hroot : root.Mentioned rootMentioned)
    (relation : Relation)
    (publicResultAlias : Option String)
    (flattened : Bool) :
    (SelectionGenerationContext.mk (some (view, relation)) (some root)
        publicResultAlias flattened).Mentioned
      ⟨some (mentioned, relation.id), some rootMentioned, flattened⟩ := by
  refine ⟨nofun, ?_, nofun, ?_, rfl⟩
  · rintro _ _ ⟨⟩
    exact ⟨mentioned, rfl, hview⟩
  · rintro _ ⟨⟩
    exact ⟨rootMentioned, rfl, hroot⟩

theorem outermost_mentioned
    (publicResultAlias : Option String)
    (flattened : Bool) :
    (SelectionGenerationContext.mk none none publicResultAlias
        flattened).Mentioned ⟨none, none, flattened⟩ :=
  ⟨fun _ => rfl, nofun, fun _ => rfl, nofun, rfl⟩

mutual

/-- By induction over the plan: a collection leaves what it mentions, wherever
it stands. -/
theorem generateCollection_leaves
    (plan : CollectionPlan)
    (path : List AliasSegment)
    {generation : SelectionGenerationContext}
    {context : MentionedContext}
    (h : generation.Mentioned context) :
    Leaves (generateCollection catalog options path generation plan)
      (collectionMentions context plan) Sql.numbers := by
  match plan with
  | .mk source (.aggregate aggregate) =>
      rw [generateCollection]
      exact generateAggregate_leaves catalog source aggregate path h
  | .mk source (.rows items) =>
      have hview := readable_mentioned catalog ⟨path⟩ source.fieldFilters
      have hroot := root_mentioned h hview
      have hfilters := collectionFilters_leaves catalog source ⟨path⟩ h hview
        hroot
      have hchildren := generateChildren_leaves items path [] hview hroot
      have hfields := selectionFieldExpressions_leaves catalog hview path []
        items
      rw [generateCollection, collectionMentions]
      refine Silent.bind (table_silent catalog source.table) fun current => ?_
      refine Renders.congr (Leaves.bind (parentCondition_leaves catalog ⟨path⟩)
        fun correlation => hfilters.bind fun filters =>
          (rowSource_keeps catalog options source current hview correlation
            filters).bind fun rows => hchildren.bind fun children =>
          hfields.bind fun fields =>
            (rowOutput_keeps catalog source h hview fields).bind fun output =>
              Renders.pure ?_) ?_ ?_
      · rintro parameters ⟨ordered, hordered, houtput⟩ hfields hchildren
          ⟨bounds, hbounds, hrows⟩ hfilters hcorrelation
        refine (((((hcorrelation.append hfilters).append hbounds).append
          hchildren).append hfields).append hordered).congr ?_ ?_
        · intro number
          simp only [Sql.numbers_node, Sql.numbersOfAll_append,
            List.mem_append, hrows, houtput, or_assoc]
        · intro path
          simp [Mentions.empty]
      · simp [Mentions.empty]
      · simp [Mentions.empty]

theorem generateChildren_leaves
    (items : List SelectionPlanItem)
    (path : List AliasSegment)
    (before : List SelectionPlanItem)
    {view root : SqlRowView}
    {mentioned rootMentioned : MentionedView}
    (hview : view.Mentioned mentioned)
    (hroot : root.Mentioned rootMentioned) :
    Leaves (generateChildren catalog options path view root before items)
      (childMentions mentioned rootMentioned items) Sql.numbersOfAll := by
  match items with
  | [] =>
      rw [generateChildren, childMentions]
      exact Leaves.done Sql.numbersOfAll_nil
  | .projection projection :: items =>
      rw [generateChildren, childMentions]
      exact generateChildren_leaves items path _ hview hroot
  | .relation outputName flattened relationId collection :: items =>
      rw [generateChildren, childMentions]
      refine Silent.bind (table_silent catalog _) fun related => ?_
      unfold catalogRelation
      cases hrelation : catalog.relationById relationId with
      | none =>
          intro before value after hallotted hrun
          cases hrun
      | some relation =>
          rw [pure_bind, ← Catalog.relationById_id hrelation]
          have hchild := generateCollection_leaves collection
            (relationInstancePath before related.id outputName path)
            (child_mentioned hview hroot relation none flattened)
          refine hchild.both
            (generateChildren_leaves items path _ hview hroot) ?_
          intro child children number
          simp

end

/-! ## Queries -/

theorem numbersOfAll_rootFields (index : Nat) (names : List String) :
    Sql.numbersOfAll (rootFields index names) = [] := by
  unfold rootFields
  rw [Sql.numbersOfAll_eq, List.flatMap_map]
  simp

theorem numbers_singularRootEnvelope (names : List String) (query : Sql) :
    (singularRootEnvelope names query).numbers = query.numbers := by
  unfold singularRootEnvelope
  rw [Sql.numbers_node, Sql.numbersOfAll_append, numbersOfAll_rootFields]
  simp

theorem generateRootQuery_leaves (plan : QueryRootPlan) :
    Leaves (generateRootQuery catalog options plan) (rootMentions plan)
      (fun root => root.1.numbers) := by
  unfold generateRootQuery rootMentions
  refine Silent.bind (table_silent catalog _) fun root => ?_
  have hquery := generateCollection_leaves catalog options plan.collection
    [.selection root.id plan.outputName 0]
    (outermost_mentioned (some plan.outputName) plan.flattened)
  split
  · refine hquery.map ?_
    intro query number
    rw [numbers_singularRootEnvelope]
  · exact hquery.map (fun query number => Iff.rfl)

/-- Joined roots write the numbers of all of them. -/
theorem numbers_combinedRoots (roots : List (Sql × List String)) :
    Sql.numbersOfAll (roots.zipIdx.flatMap (fun root =>
        rootFields root.2 root.1.2 ++ [.node (.root root.2) [root.1.1]])) =
      roots.flatMap (fun root => root.1.numbers) := by
  have hroot : ∀ root : (Sql × List String) × Nat,
      (rootFields root.2 root.1.2 ++
          [Sql.node (.root root.2) [root.1.1]]).flatMap Sql.numbers =
        root.1.1.numbers := by
    intro root
    rw [← Sql.numbersOfAll_eq, Sql.numbersOfAll_append,
      numbersOfAll_rootFields]
    simp
  rw [Sql.numbersOfAll_eq, List.flatMap_assoc]
  simp only [hroot]
  rw [← List.flatMap_map (fun root : (Sql × List String) × Nat => root.1)
    (fun root => root.1.numbers), List.zipIdx_map_fst]

theorem combineRootQueries_keeps (roots : List (Sql × List String)) :
    Keeps (combineRootQueries roots)
      (roots.flatMap (fun root => root.1.numbers)) .empty Sql.numbers := by
  unfold combineRootQueries
  split
  · exact Renders.throw
  · refine Renders.pure fun parameters => ⟨[], .nil, ?_⟩
    intro number
    rw [Sql.numbers_node, numbers_combinedRoots]
    simp

theorem generateStatement_leaves (plan : QueryPlan) :
    Leaves (generateStatement catalog options plan) (planMentions plan)
      Sql.numbers := by
  have hroots := Leaves.mapM plan.roots
    (fun root _ => generateRootQuery_leaves catalog options root)
  unfold generateStatement planMentions
  rw [← Mentions.append_empty (.concat (plan.roots.map rootMentions))]
  refine hroots.keep fun roots => ?_
  split
  next query names =>
    refine Renders.pure fun parameters => ⟨[], .nil, ?_⟩
    intro number
    simp
  next => exact combineRootQueries_keeps _

end Collections

/-! ## Generated queries -/

namespace GeneratedSql

/-- The numbers in the statement and in the texts of its sites. -/
def writtenNumbers (sql : GeneratedSql) : List Nat :=
  sql.statement.numbers ++
    sql.template.dynamicSites.flatMap GeneratedDynamicInputSite.numbers

end GeneratedSql

section Generated

variable {catalog : Catalog} {options : PostgresSqlOptions}
  {plan : QueryPlan} {sql : GeneratedSql}

/-- What a generated query has requested and written. -/
theorem generatePostgresSql_spec
    (h : generatePostgresSql catalog options plan = .ok sql) :
    Allotted sql.template.parameters sql.template.requests ∧
      sql.template.requests.map Prod.fst = (planMentions plan).requested ∧
      Writes sql.template.parameters sql.writtenNumbers
        ((planMentions plan).placed ++ (planMentions plan).sited) := by
  obtain ⟨⟨statement, template⟩, hrun, hsql⟩ := except_bind_ok h
  cases hsql
  obtain ⟨hextends, hplaced⟩ := generateStatement_leaves catalog options plan
    .new statement template .nil hrun
  obtain ⟨asked, hasked, hpaths⟩ := hextends.requests
  obtain ⟨sites, hsites, hsited⟩ := hextends.sites
  refine ⟨hextends.allotted, ?_, ?_⟩
  · rw [hasked]
    exact hpaths
  · unfold GeneratedSql.writtenNumbers finalizeSqlTemplate
    rw [hsites, Sql.numbers_replaceDirections]
    exact hplaced.append hsited

/-- The parameters of a query are those that its plan requests, in the order of
their first requests.  The numbers handed out count them from one without a
gap, two requests share one exactly when they share their input path, and every
number that is written was handed out for a mentioned path. -/
theorem parameters_numbered
    (h : generatePostgresSql catalog options plan = .ok sql) :
    sql.template.parameters = (planMentions plan).requested.eraseDups ∧
      (∀ number, (∃ path, (path, number) ∈ sql.template.requests) ↔
        1 ≤ number ∧ number ≤ sql.template.parameters.length) ∧
      (∀ first ∈ sql.template.requests, ∀ second ∈ sql.template.requests,
        first.2 = second.2 ↔ first.1 = second.1) ∧
      ∀ number ∈ sql.writtenNumbers,
        ∃ path, (path, number) ∈ sql.template.requests ∧
          sql.template.parameters[number - 1]? = some path ∧
          path ∈ (planMentions plan).placed ++ (planMentions plan).sited := by
  obtain ⟨hallotted, hrequests, hwrites⟩ := generatePostgresSql_spec h
  refine ⟨?_, ?_, ?_, ?_⟩
  · rw [hallotted.order, hrequests]
    congr 1
    exact lawful_beq_subsingleton _ _
  · intro number
    rw [← hallotted.handed_iff number]
    constructor
    · rintro ⟨path, hasked⟩
      exact ⟨(path, number), hasked, rfl⟩
    · rintro ⟨⟨path, number⟩, hasked, rfl⟩
      exact ⟨path, hasked⟩
  · intro first hfirst second hsecond
    exact hallotted.share_iff hfirst hsecond
  · intro number hnumber
    obtain ⟨path, hpath, hnames⟩ := hwrites.named number hnumber
    obtain ⟨other, hasked⟩ := (hallotted.mem_iff path).mp hnames.mem
    obtain rfl := (hallotted.names _ hasked).number_eq hallotted.nodup hnames
    exact ⟨path, hasked, hnames.2, hpath⟩

/-! ## A masked column in an empty list

The guard of a column is dropped with the operand of a membership in an empty
list. -/

def emailType : CatalogType :=
  { key := ⟨"pg_catalog", "text"⟩
    dataType := .text
    readableType := "text"
    enumeration := none
    capabilities := builtinCapabilities .text }

def emailCatalog : Catalog :=
  { defaultSchema := "public"
    tables :=
      [{ id := ⟨0⟩, schema := "public", name := "user", visible := true
         columns := [⟨0⟩], primaryKey := [], uniqueConstraints := []
         indexes := [], relations := [] }]
    types := [emailType]
    columns := [⟨⟨0⟩, ⟨0⟩, "email", true, emailType, true⟩]
    relations := [] }

/-- `user(where: email in [], limit: $first)` with a policy on `email`. -/
def emailPlan : QueryPlan :=
  { roots :=
      [⟨"user", false, .mk
        { table := ⟨0⟩
          shape := ⟨.collection, false⟩
          clauses :=
            { filter := some
                (.membership (.column .current ⟨0⟩) (.list []) false)
              orderBy := []
              limit := some (.parameter ⟨["first"], none, false⟩)
              offset := none }
          policyFilter := none
          fieldFilters :=
            [⟨.column ⟨0⟩, .parameter ⟨["ctx", "staff"], none, false⟩, []⟩]
          policyNullableFields := [.column ⟨0⟩] }
        (.rows [])⟩] }

theorem parameters_numbered_email :
    ∃ sql, generatePostgresSql emailCatalog ⟨none⟩ emailPlan = .ok sql ∧
      sql.template.parameters = (planMentions emailPlan).requested.eraseDups ∧
      (∀ number, (∃ path, (path, number) ∈ sql.template.requests) ↔
        1 ≤ number ∧ number ≤ sql.template.parameters.length) ∧
      (∀ first ∈ sql.template.requests, ∀ second ∈ sql.template.requests,
        first.2 = second.2 ↔ first.1 = second.1) ∧
      ∀ number ∈ sql.writtenNumbers,
        ∃ path, (path, number) ∈ sql.template.requests ∧
          sql.template.parameters[number - 1]? = some path ∧
          path ∈ (planMentions emailPlan).placed ++
            (planMentions emailPlan).sited :=
  ⟨_, rfl, parameters_numbered
    (show generatePostgresSql emailCatalog ⟨none⟩ emailPlan = .ok _ from rfl)⟩

/-- Every parameter is written exactly when none is requested for dropped
renderings only. -/
theorem parameters_written_iff
    (h : generatePostgresSql catalog options plan = .ok sql) :
    (∀ number, 1 ≤ number → number ≤ sql.template.parameters.length →
        number ∈ sql.writtenNumbers) ↔
      ∀ path ∈ (planMentions plan).requested,
        path ∈ (planMentions plan).placed ++ (planMentions plan).sited := by
  obtain ⟨hallotted, hrequests, hwrites⟩ := generatePostgresSql_spec h
  rw [hwrites.total_iff hallotted.nodup, hallotted.order, hrequests]
  simp only [List.mem_eraseDups]

/-- The second parameter is the only one that is written. -/
theorem parameters_written_iff_email :
    ∃ sql, generatePostgresSql emailCatalog ⟨none⟩ emailPlan = .ok sql ∧
      sql.template.parameters = [["ctx", "staff"], ["first"]] ∧
      sql.writtenNumbers = [2] ∧
      ((∀ number, 1 ≤ number → number ≤ sql.template.parameters.length →
          number ∈ sql.writtenNumbers) ↔
        ∀ path ∈ (planMentions emailPlan).requested,
          path ∈ (planMentions emailPlan).placed ++
            (planMentions emailPlan).sited) :=
  ⟨_, rfl, by decide, by decide, parameters_written_iff
    (show generatePostgresSql emailCatalog ⟨none⟩ emailPlan = .ok _ from rfl)⟩

end Generated

end Postgres

end Dsql
