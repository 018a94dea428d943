import Dsql.Sql.PlanCaptures
import Dsql.Sql.PlanDirections
import Dsql.Sql.RowMeaning

/-!
# Generated queries answer their plans

By induction over a plan, the `select` of a collection answers with what the
collection stands for in every scope of its depth, and so do the queries that
join its relations and its roots.
-/

namespace Dsql

namespace Postgres

open Logic Results SqlMeaning

/-! ## Plans that can be read -/

mutual

/-- A collection whose filters and orders can be read at every depth. -/
def CollectionFits (cases : OfferedCases) : CollectionPlan → Prop
  | .mk source (.aggregate _) => SourceFits cases source
  | .mk source (.rows items) => SourceFits cases source ∧ SelectionFits cases items

def SelectionFits (cases : OfferedCases) : List SelectionPlanItem → Prop
  | [] => True
  | .projection _ :: items => SelectionFits cases items
  | .relation _ _ _ collection :: items =>
      CollectionFits cases collection ∧ SelectionFits cases items

end

/-! ## Collections -/

section Collections

variable {S : Type} [DecidableEq S] (server : Server S)
  (cases : OfferedCases) (catalog : Catalog) (options : PostgresSqlOptions)

/-- Joins of the relations of a row, under the aliases of their items. -/
def JoinsRelated
    (reading : Reading S)
    (children : List Sql)
    (path : List AliasSegment)
    (before items : List SelectionPlanItem)
    (depth : Nat)
    (related : Env S → List (List (Outputs S))) : Prop :=
  ∃ joins : List (Scope S → List (Scope S)),
    children.map (server.meaning reading) = joins.map SqlMeaning.source ∧
      ∀ scope, scope.rows.length = depth →
        scopes (joins.map .source) scope =
          (related scope.rows).map (fun joined =>
            scope.joinRelated path before items joined)

def YieldsJoins
    (rendering : Rendering (List Sql))
    (path : List AliasSegment)
    (before items : List SelectionPlanItem)
    (depth : Nat)
    (related : Env S → List (List (Outputs S))) : Prop :=
  Yields cases rendering (fun final children => ∀ reading,
    ReadsAs server final true reading →
      JoinsRelated server reading children path before items depth related)

variable {server cases}

omit [DecidableEq S] in
theorem scopes_source_cons
    (source : Scope S → List (Scope S))
    (parts : List (SqlMeaning S))
    (scope : Scope S) :
    scopes (.source source :: parts) scope =
      (source scope).flatMap (scopes parts) :=
  scopes_cons _ parts scope

/-- A relation is joined before those behind it. -/
theorem JoinsRelated.cons
    {reading : Reading S}
    {child : Sql}
    {children : List Sql}
    {path : List AliasSegment}
    {before items : List SelectionPlanItem}
    {outputName : String}
    {flattened : Bool}
    {relationId : RelationId}
    {collection : CollectionPlan}
    {depth : Nat}
    {answers : Env S → List (Outputs S)}
    {related : Env S → List (List (Outputs S))}
    (hchild : ∀ scope : Scope S, scope.rows.length = depth →
      ((server.meaning reading child).results scope).map ResultRow.outputs =
        answers scope.rows)
    (hchildren : JoinsRelated server reading children path
      (before ++ [.relation outputName flattened relationId collection]) items
      depth related) :
    JoinsRelated server reading
      (.node (.lateral ⟨relationInstancePath before collection.source.table
        outputName path⟩) [child] :: children) path before
      (.relation outputName flattened relationId collection :: items) depth
      (fun env => (orNulls (answers env)).flatMap (fun outputs =>
        (related env).map (fun joined => outputs :: joined))) := by
  obtain ⟨joins, hjoins, hscopes⟩ := hchildren
  refine ⟨leftJoined (server.meaning reading child)
    (.related ⟨relationInstancePath before collection.source.table outputName
      path⟩) :: joins, ?_, ?_⟩
  · rw [List.map_cons, List.map_cons, hjoins, Server.meaning_node]
    rfl
  · intro scope hdepth
    rw [List.map_cons, scopes_source_cons, leftJoined_eq, hchild scope hdepth,
      List.flatMap_map, List.map_flatMap]
    refine List.flatMap_congr fun outputs _ => ?_
    rw [hscopes (scope.join _ outputs) hdepth, List.map_map]
    rfl

mutual

/-- By induction over the plan, wherever a collection stands. -/
theorem generateCollection_means
    (plan : CollectionPlan)
    (hplan : CollectionFits cases plan)
    (path : List AliasSegment)
    {generation : SelectionGenerationContext}
    {position : SelectionPosition}
    (h : generation.Means server cases position)
    (depth : Nat) :
    YieldsAnswers server cases
      (generateCollection catalog options path generation plan) depth
      (fun env => server.collectionAnswers innermost catalog options env path position
        generation.publicResultAlias generation.flattened plan) := by
  match plan with
  | .mk source (.aggregate aggregate) =>
      rw [generateCollection]
      refine (generateAggregate_means catalog hplan h aggregate path
        depth).imp ?_
      rintro final sql hsql reading hreads scope rfl
      simp only [Server.collectionAnswers]
      exact hsql reading hreads scope rfl
  | .mk source (.rows items) =>
      obtain ⟨hsource, hitems⟩ := hplan
      have hview : SqlRowView.Means server cases
          (readable catalog ⟨path⟩ source.fieldFilters)
          (readableView catalog ⟨⟨path⟩, depth⟩ source.fieldFilters) :=
        readable_means catalog hsource.fields ⟨⟨path⟩, depth⟩
      have hchildren := generateChildren_means items hitems path [] hview
        (root_means h hview) (depth + 1)
      have hfields := selectionFieldExpressions_means catalog path hview items
        []
      rw [generateCollection]
      refine table_bind catalog fun current hcurrent => ?_
      refine Yields.bind (parentCondition_means catalog h ⟨⟨path⟩, depth⟩
        (depth + 1)) fun correlation => ?_
      refine Yields.bind (collectionFilters_means catalog hsource h
        ⟨⟨path⟩, depth⟩ hview (depth + 1)) fun filters => ?_
      refine Yields.bind (rowSource_means options catalog hview
        hsource.orders hcurrent correlation filters) fun rows => ?_
      refine Yields.bind hchildren fun children => ?_
      refine Yields.bind hfields fun fields => ?_
      refine Yields.map (rowOutput_means catalog hview hsource.orders
        generation fields) ?_
      rintro final output houtput hfields hchildren hrows hfilters
        hcorrelation reading hreads scope rfl
      obtain ⟨base, hbase, hreading⟩ := hrows reading hreads _
        (List.rel_append (hcorrelation reading hreads)
          (hfilters reading hreads))
      obtain ⟨joins, hjoins, hscopes⟩ := hchildren reading hreads
      simp only [Server.collectionAnswers]
      refine results_rows hbase hreading rfl hjoins ?_ ?_
        (hfields reading hreads) (houtput reading hreads)
      · intro row
        exact hscopes (scope.enter ⟨path⟩ row) List.length_cons
      · intro inner hinner joined hjoined
        rw [hscopes inner hinner] at hjoined
        obtain ⟨related, -, rfl⟩ := List.mem_map.mp hjoined
        exact Scope.rows_joinRelated path items [] related inner

theorem generateChildren_means
    (items : List SelectionPlanItem)
    (hitems : SelectionFits cases items)
    (path : List AliasSegment)
    (before : List SelectionPlanItem)
    {view root : SqlRowView}
    {lowered loweredRoot : Dsql.SqlRowView}
    (hview : view.Means server cases lowered)
    (hroot : root.Means server cases loweredRoot)
    (depth : Nat) :
    YieldsJoins server cases
      (generateChildren catalog options path view root before items) path
      before items depth
      (fun env => server.relatedAnswers innermost catalog options env path lowered
        loweredRoot before items) := by
  match items with
  | [] =>
      rw [generateChildren]
      refine Yields.done (fun final reading hreads => ⟨[], rfl, ?_⟩)
      intro scope hdepth
      simp only [Server.relatedAnswers]
      rfl
  | .projection projection :: items =>
      rw [generateChildren]
      have hchildren := generateChildren_means items hitems path
        (before ++ [.projection projection]) hview hroot depth
      simp only [Server.relatedAnswers]
      exact hchildren
  | .relation outputName flattened relationId collection :: items =>
      obtain ⟨hcollection, hitems⟩ := hitems
      rw [generateChildren]
      refine table_bind catalog fun current hcurrent => ?_
      rw [hcurrent]
      refine catalogRelation_bind catalog fun relation hrelation => ?_
      have hgeneration : SelectionGenerationContext.Means server cases
          { parent := some (view, relation)
            root := some root
            publicResultAlias := none
            flattened := flattened }
          (.below lowered loweredRoot relation) :=
        ⟨.some ⟨hview, rfl⟩, .some hroot⟩
      have hrest := generateChildren_means items hitems path
        (before ++ [.relation outputName flattened relationId collection])
        hview hroot depth
      refine Yields.bind (generateCollection_means collection hcollection
        (relationInstancePath before collection.source.table outputName path)
        hgeneration depth) fun child => Yields.map hrest ?_
      intro final children hchildren hchild reading hreads
      simp only [Server.relatedAnswers, hrelation]
      exact JoinsRelated.cons (hchild reading hreads)
        (hchildren reading hreads)

end

/-! ## Roots -/

section Roots

variable (server)

/-- The columns of a root, read where it is joined. -/
def rootColumns
    (reading : Reading S)
    (index : Nat)
    (names : List String) : List (Option String × SqlMeaning S) :=
  names.map (fun name =>
    (some name, server.meaning reading (.node (.output (.root index) (some name))
      [])))

theorem map_rootFields
    (reading : Reading S)
    (index : Nat)
    (names : List String) :
    (rootFields index names).map (server.meaning reading) =
      (rootColumns server reading index names).map (fun column =>
        .field column.1 column.2) := by
  unfold rootFields rootColumns
  rw [List.map_map, List.map_map]
  refine List.map_congr_left fun name _ => ?_
  rw [Function.comp_apply, Server.meaning_node]
  rfl

theorem rootColumns_plain
    (reading : Reading S)
    (index : Nat)
    (names : List String) :
    ∀ column ∈ rootColumns server reading index names,
      column.2.aggregated = false := by
  intro column hcolumn
  obtain ⟨name, -, rfl⟩ := List.mem_map.mp hcolumn
  rw [Server.meaning_node]
  rfl

/-- The columns of a root that was joined last. -/
theorem read_rootColumns
    (reading : Reading S)
    (index : Nat)
    (names : List String)
    {outputs : Outputs S}
    {scope : Scope S}
    (h : ∀ name, scope.output (.root index) name = outputs.value name) :
    (rootColumns server reading index names).map (fun column =>
        (column.1, column.2.read [] scope)) =
      objectOrColumns none true (namedColumns names outputs) := by
  unfold rootColumns objectOrColumns namedColumns
  rw [if_pos rfl, List.map_map, List.map_map]
  refine List.map_congr_left fun name _ => ?_
  rw [Function.comp_apply, Server.meaning_node]
  exact congrArg (Prod.mk (some name)) (h (some name))

/-- A query that answers a root wherever it is joined. -/
def AnswersRoot
    (reading : Reading S)
    (query : Sql)
    (answers : List (Outputs S)) : Prop :=
  ∀ scope : Scope S, scope.rows = [] →
    ((server.meaning reading query).results scope).map ResultRow.outputs =
      answers

variable {server}

/-- A root that answers with a row in any case. -/
theorem singularRootEnvelope_answers
    {reading : Reading S}
    {query : Sql}
    {answers : List (Outputs S)}
    (h : AnswersRoot server reading query answers)
    (names : List String) :
    AnswersRoot server reading (singularRootEnvelope names query)
      ((orNulls answers).map (fun outputs =>
        objectOrColumns none true (namedColumns names outputs))) := by
  intro scope hscope
  have hparts : (rootFields 0 names ++ [Sql.node .singleton [query]]).map
      (server.meaning reading) =
        [(rootColumns server reading 0 names,
          leftJoined (server.meaning reading query) (.root 0))].flatMap
            sourceParts := by
    rw [List.map_append, map_rootFields, List.map_singleton,
      Server.meaning_node, List.flatMap_singleton]
    rfl
  unfold singularRootEnvelope
  have hscopes : scopes ([(rootColumns server reading 0 names,
      leftJoined (server.meaning reading query) (.root 0))].map
        (fun entry => SqlMeaning.source entry.2)) scope =
      (orNulls answers).map (scope.join (.root 0)) := by
    rw [← h scope hscope, ← leftJoined_eq, List.map_singleton,
      scopes_source_cons]
    exact List.flatMap_singleton' _
  rw [results_select hparts, select_sources _ (List.forall_mem_singleton.mpr
    (rootColumns_plain server reading 0 names)), hscopes, List.map_map,
    List.flatMap_singleton]
  refine List.map_congr_left fun outputs _ => ?_
  exact read_rootColumns server reading 0 names
    (Scope.output_join scope (.root 0) outputs)

/-- The columns of the roots from an index on, each with its source. -/
def rootEntries
    (server : Server S)
    (reading : Reading S)
    (index : Nat)
    (roots : List (Sql × List String)) :
    List (List (Option String × SqlMeaning S) × (Scope S → List (Scope S))) :=
  (roots.zipIdx index).map (fun root =>
    (rootColumns server reading root.2 root.1.2,
      joinedResults (server.meaning reading root.1.1) (.root root.2)))

theorem rootEntries_cons
    (reading : Reading S)
    (index : Nat)
    (root : Sql × List String)
    (roots : List (Sql × List String)) :
    rootEntries server reading index (root :: roots) =
      (rootColumns server reading index root.2,
        joinedResults (server.meaning reading root.1) (.root index)) ::
        rootEntries server reading (index + 1) roots := rfl

/-- Roots do not hide the roots before them. -/
theorem output_rootEntries
    {reading : Reading S}
    {earlier : Nat}
    (roots : List (Sql × List String))
    {index : Nat}
    (h : earlier < index)
    (scope : Scope S) :
    ∀ row ∈ scopes ((rootEntries server reading index roots).map
        (fun entry => .source entry.2)) scope,
      ∀ name, row.output (.root earlier) name =
        scope.output (.root earlier) name := by
  induction roots generalizing index scope with
  | nil =>
      intro row hrow name
      rw [List.mem_singleton.mp hrow]
  | cons root roots ih =>
      intro row hrow name
      rw [rootEntries_cons, List.map_cons, scopes_source_cons] at hrow
      obtain ⟨joined, hjoined, hrow⟩ := List.mem_flatMap.mp hrow
      obtain ⟨result, -, rfl⟩ := List.mem_map.mp hjoined
      rw [ih (Nat.lt_succ_of_lt h) _ row hrow name]
      refine scope.output_join_of_ne ?_ _ name
      simpa using Nat.ne_of_gt h

/-- The rows of roots together are every combination of their answers. -/
theorem rows_rootEntries
    {reading : Reading S}
    {roots : List (Sql × List String)}
    {answers : List (List String × List (Outputs S))}
    (h : List.Forall₂ (fun root answer => root.2 = answer.1 ∧
      AnswersRoot server reading root.1 answer.2) roots answers)
    (index : Nat)
    {scope : Scope S}
    (hscope : scope.rows = []) :
    (scopes ((rootEntries server reading index roots).map
        (fun entry => .source entry.2)) scope).map (fun row =>
          ((rootEntries server reading index roots).flatMap Prod.fst).map
            (fun column => (column.1, column.2.read [] row))) =
      crossRows answers := by
  induction h generalizing index scope with
  | nil => rfl
  | @cons root answer roots answers hroot _ ih =>
      obtain ⟨query, names⟩ := root
      obtain ⟨names, rows⟩ := answer
      obtain ⟨rfl, hanswers⟩ := hroot
      obtain rfl : ((server.meaning reading query).results scope).map
          ResultRow.outputs = rows := hanswers scope hscope
      rw [rootEntries_cons, List.map_cons, scopes_source_cons, crossRows,
        List.map_flatMap, List.flatMap_map]
      show ((((server.meaning reading query).results scope).map _).flatMap _) =
        _
      rw [List.flatMap_map]
      refine List.flatMap_congr fun result _ => ?_
      have hjoined : (scope.join (.root index) result.outputs).rows = [] :=
        hscope
      rw [← ih (index + 1) hjoined, List.map_map]
      refine List.map_congr_left fun row hrow => ?_
      have hown : ∀ name, row.output (.root index) name =
          result.outputs.value name := by
        intro name
        rw [output_rootEntries roots (Nat.lt_succ_self index) _ row hrow name]
        exact Scope.output_join scope (.root index) result.outputs name
      rw [List.flatMap_cons, List.map_append,
        read_rootColumns server reading index names hown]
      rfl

variable (server) in
/-- Several roots answer with every combination of their rows. -/
theorem combineRootQueries_means
    (roots : List (Sql × List String)) :
    Yields cases (combineRootQueries roots) (fun _ sql =>
      ∀ (reading : Reading S) (answers : List (List String × List (Outputs S))),
        List.Forall₂ (fun root answer => root.2 = answer.1 ∧
          AnswersRoot server reading root.1 answer.2) roots answers →
        AnswersRoot server reading sql (crossRows answers)) := by
  unfold combineRootQueries
  split
  next => exact Yields.fails _
  next =>
    refine Yields.done (fun final reading answers h scope hscope => ?_)
    have hparts : (roots.zipIdx.flatMap (fun root =>
        rootFields root.2 root.1.2 ++
          [Sql.node (.root root.2) [root.1.1]])).map (server.meaning reading) =
        (rootEntries server reading 0 roots).flatMap sourceParts := by
      unfold rootEntries
      rw [List.map_flatMap, List.flatMap_map]
      refine List.flatMap_congr fun root _ => ?_
      rw [List.map_append, map_rootFields, List.map_singleton,
        Server.meaning_node]
      rfl
    have hplain : ∀ entry ∈ rootEntries server reading 0 roots,
        ∀ column ∈ entry.1, column.2.aggregated = false := by
      intro entry hentry
      obtain ⟨root, -, rfl⟩ := List.mem_map.mp hentry
      exact rootColumns_plain server reading root.2 root.1.2
    rw [results_select hparts, select_sources _ hplain]
    exact rows_rootEntries h 0 hscope

variable (server) in
theorem generateRootQuery_means
    (plan : QueryRootPlan)
    (hplan : CollectionFits cases plan.collection) :
    Yields cases (generateRootQuery catalog options plan)
      (fun final root => ∀ reading, ReadsAs server final true reading →
        root.2 = rootOutputNames plan ∧
          AnswersRoot server reading root.1
            (server.rootAnswers innermost catalog options plan)) := by
  have htop : SelectionGenerationContext.Means server cases
      { parent := none
        root := none
        publicResultAlias := some plan.outputName
        flattened := plan.flattened } .top := ⟨.none, .none⟩
  have hquery := generateCollection_means catalog options plan.collection hplan
    [.selection plan.collection.source.table plan.outputName 0] htop 0
  unfold generateRootQuery
  refine table_bind catalog fun current hcurrent => ?_
  rw [hcurrent]
  refine Yields.bind hquery fun query => ?_
  have hanswers : ∀ reading : Reading S,
      (∀ scope : Scope S, scope.rows.length = 0 →
        ((server.meaning reading query).results scope).map ResultRow.outputs =
          server.collectionAnswers innermost catalog options scope.rows
            [.selection plan.collection.source.table plan.outputName 0] .top
            (some plan.outputName) plan.flattened plan.collection) →
      AnswersRoot server reading query
        (server.collectionAnswers innermost catalog options []
          [.selection plan.collection.source.table plan.outputName 0] .top
          (some plan.outputName) plan.flattened plan.collection) := by
    intro reading h scope hscope
    rw [h scope (by rw [hscope]; rfl), hscope]
  split
  next hsingular =>
    refine Yields.done (fun final hquery reading hreads => ⟨rfl, ?_⟩)
    unfold Server.rootAnswers
    rw [if_pos hsingular]
    exact singularRootEnvelope_answers
      (hanswers reading (hquery reading hreads)) _
  next hsingular =>
    refine Yields.done (fun final hquery reading hreads => ⟨rfl, ?_⟩)
    unfold Server.rootAnswers
    rw [if_neg hsingular]
    exact hanswers reading (hquery reading hreads)

variable (server) in
theorem generateStatement_means
    (plan : QueryPlan)
    (hplan : ∀ root ∈ plan.roots, CollectionFits cases root.collection) :
    Yields cases (generateStatement catalog options plan)
      (fun final sql => ∀ reading, ReadsAs server final true reading →
        AnswersRoot server reading sql
          (server.planAnswers innermost catalog options plan)) := by
  obtain ⟨roots⟩ := plan
  have hroots := Yields.mapM roots (fun root hroot =>
    generateRootQuery_means server catalog options root (hplan root hroot))
  have hcombined : ∀ queries, Yields cases (combineRootQueries queries)
      (fun final sql =>
        List.Forall₂ (fun root query => ∀ reading,
          ReadsAs server final true reading →
            query.2 = rootOutputNames root ∧
              AnswersRoot server reading query.1
                (server.rootAnswers innermost catalog options root)) roots queries →
        ∀ reading, ReadsAs server final true reading →
          AnswersRoot server reading sql (crossRows (roots.map (fun root =>
            (rootOutputNames root,
              server.rootAnswers innermost catalog options root))))) := by
    intro queries
    refine (combineRootQueries_means server queries).imp ?_
    intro final sql hsql hqueries reading hreads
    refine hsql reading _ (List.forall₂_map_right_iff.mpr (.flip ?_))
    exact hqueries.imp fun root query hquery => hquery reading hreads
  unfold generateStatement
  refine Yields.bind hroots fun queries => ?_
  match queries with
  | [] =>
      refine (hcombined []).imp ?_
      intro final sql hsql hqueries
      cases hqueries
      exact hsql .nil
  | [(query, names)] =>
      refine Yields.done (fun final hqueries reading hreads => ?_)
      cases hqueries with
      | cons hquery hrest =>
          cases hrest
          exact (hquery reading hreads).2
  | first :: second :: rest =>
      refine (hcombined (first :: second :: rest)).imp ?_
      intro final sql hsql hqueries
      have hanswers := hsql hqueries
      cases hqueries with
      | cons _ hrest =>
          cases hrest
          exact hanswers

end Roots

/-- The generated query of a plan answers, on every server, with what the plan
stands for: the rows that are admitted, in their order and within their bounds,
each beside the rows of its relations at every depth.  Every reference of the
plan is read at the row source that it was planned for, and every order has the
direction that the plan names for it. -/
theorem answer_generatePostgresSql
    (server : Server S)
    {cases : OfferedCases}
    {plan : QueryPlan}
    (hplan : ∀ root ∈ plan.roots, CollectionFits cases root.collection)
    (hcaptures : plan.isUncaptured catalog = true)
    (hdirections : plan.DirectionsAgree)
    {sql : GeneratedSql}
    (h : generatePostgresSql catalog options plan = .ok sql) :
    server.answer sql = server.planAnswers intended catalog options plan := by
  obtain ⟨⟨statement, template⟩, hrun, hsql⟩ := except_bind_ok h
  cases hsql
  obtain ⟨-, -, hanswers⟩ := generateStatement_means server catalog options
    plan hplan .new statement template nofun hrun
  rw [finalizeSqlTemplate_eq_self hdirections hrun,
    ← server.planAnswers_alike catalog options hcaptures]
  exact hanswers template (.refl template) (server.reading template)
    (readsAs_reading server template) .outside rfl

end Collections

/-! ## Posts of the last users -/

def postType : CatalogType :=
  { key := ⟨"pg_catalog", "int8"⟩
    dataType := .bigInt
    readableType := "bigint"
    enumeration := none
    capabilities := builtinCapabilities .bigInt }

def postCatalog : Catalog :=
  { defaultSchema := "public"
    tables :=
      [{ id := ⟨0⟩, schema := "public", name := "user", visible := true
         columns := [⟨0⟩], primaryKey := [⟨0⟩], uniqueConstraints := []
         indexes := [], relations := [⟨0⟩] },
       { id := ⟨1⟩, schema := "public", name := "post", visible := true
         columns := [⟨1⟩, ⟨2⟩], primaryKey := [], uniqueConstraints := []
         indexes := [], relations := [] }]
    types := [postType]
    columns :=
      [⟨⟨0⟩, ⟨0⟩, "id", false, postType, true⟩,
       ⟨⟨1⟩, ⟨1⟩, "author", false, postType, true⟩,
       ⟨⟨2⟩, ⟨1⟩, "title", false, postType, true⟩]
    relations :=
      [⟨⟨0⟩, "post", "author", true, ⟨0⟩, ⟨1⟩, [⟨0⟩], [⟨1⟩], .collection,
        false⟩] }

/-- `user(order by id desc, limit 2) { id post(where: title == $title)
{ title } }`. -/
def postPlan : QueryPlan :=
  { roots :=
      [⟨"user", false, .mk
        { table := ⟨0⟩
          shape := ⟨.collection, false⟩
          clauses :=
            { filter := none
              orderBy := [.column ⟨0⟩ .desc]
              limit := some (.literal 2)
              offset := none }
          policyFilter := none
          fieldFilters := []
          policyNullableFields := [] }
        (.rows
          [.projection ⟨⟨0⟩, "id"⟩,
           .relation "post" false ⟨0⟩ (.mk
            { table := ⟨1⟩
              shape := ⟨.collection, false⟩
              clauses :=
                { filter := some (.binary (.column .current ⟨2⟩) .eq
                    (.parameter ⟨["title"], none, false⟩))
                  orderBy := []
                  limit := none
                  offset := none }
              policyFilter := none
              fieldFilters := []
              policyNullableFields := [] }
            (.rows [.projection ⟨⟨2⟩, "title"⟩]))])⟩] }

theorem postPlan_fits :
    ∀ root ∈ postPlan.roots,
      CollectionFits (fun _ => []) root.collection := by
  intro root hroot
  obtain rfl := List.mem_singleton.mp hroot
  have husers : ∀ order ∈ [OrderByPlan.column ⟨0⟩ .desc],
      OrderFits (fun _ => []) order := by
    intro order horder
    obtain rfl := List.mem_singleton.mp horder
    trivial
  exact ⟨⟨trivial, trivial, trivial, husers⟩,
    ⟨⟨trivial, trivial, ⟨trivial, trivial⟩, nofun⟩, trivial⟩, trivial⟩

def naturalOf : Datum Nat → Option Nat
  | .scalar number => some number
  | _ => none

/-- Three users of whom the first two have posts. -/
def postServer : Server Nat where
  engine := ⟨fun _ => 0, fun _ => 0, fun _ _ _ => false, id, fun _ _ => .null⟩
  inputs := ⟨fun _ => .scalar 7, fun _ => none, fun _ => "", fun _ _ => .unknown⟩
  database table :=
    if table = ⟨0⟩ then
      [1, 2, 3].map (fun id _ => .scalar id)
    else
      [(1, 7), (2, 7), (2, 8)].map (fun post column =>
        .scalar (if column = ⟨1⟩ then post.1 else post.2))
  ordering _ := []
  order direction :=
    let numbers : Comparison Nat := ⟨compare, inferInstance⟩
    (if direction = .desc then numbers.reverse else numbers).on
      (fun value => (naturalOf value).getD 0)
  natural := naturalOf
  natural_count _ := rfl
  publicColumn _ value := value
  publicAggregate _ _ value := value

theorem answer_generatePostgresSql_posts :
    ∃ sql, generatePostgresSql postCatalog ⟨none⟩ postPlan = .ok sql ∧
      postServer.answer sql =
        postServer.planAnswers intended postCatalog ⟨none⟩ postPlan ∧
      postServer.planAnswers intended postCatalog ⟨none⟩ postPlan =
        [[(some "user", .array
          [.object [("id", .datum (.scalar 3)), ("post", .array [])],
           .object [("id", .datum (.scalar 2)), ("post", .array
             [.object [("title", .datum (.scalar 7))]])]])]] :=
  ⟨_, rfl, answer_generatePostgresSql postCatalog ⟨none⟩ postServer
    postPlan_fits rfl (by decide)
    (show generatePostgresSql postCatalog ⟨none⟩ postPlan = .ok _ from rfl),
    rfl⟩

end Postgres

end Dsql
