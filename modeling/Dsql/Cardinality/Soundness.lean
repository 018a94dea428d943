import Dsql.Cardinality.Guarantees
import Dsql.Sql.PathExactness
import Dsql.Sql.Preservation

/-!
# Selections of at most one row

In a database that meets the keys of the catalog a selection with a
cardinality proof answers with at most one row: its predicate fixes a key of
its table, its relation joins unique columns, or its limit is one.
-/

namespace Dsql

/-! ## Keys -/

/-- No two rows agree on a key that both have values in. -/
def UniqueOn
    {S : Type}
    (key : List ColumnId)
    (rows : List (Row S)) : Prop :=
  rows.Pairwise (fun first second =>
    ¬ ∀ column ∈ key, first column = second column ∧ first column ≠ .null)

/-- A database that meets the keys of a catalog: the rows of a table are
unique on its keys, and those behind a singular relation on the columns that
the relation joins. -/
structure Database.Satisfies
    {S : Type}
    (database : Database S)
    (catalog : Catalog) : Prop where
  keys : ∀ table ∈ catalog.tables,
    ∀ key ∈ table.primaryKey :: table.uniqueConstraints, key ≠ [] →
      UniqueOn key (database table.id)
  relations : ∀ relation ∈ catalog.relations,
    relation.cardinality = .singular →
      UniqueOn
        ((relation.localColumns.zip relation.targetColumns).map Prod.snd)
        (database relation.toTable)

/-- Rows with the same values in a key are one row. -/
theorem length_filter_le_one
    {S : Type}
    {key : List ColumnId}
    {rows : List (Row S)}
    {admits : Row S → Bool}
    (hunique : UniqueOn key rows)
    (hfixed : ∀ column ∈ key, ∃ value, ∀ row, admits row = true →
      row column = value ∧ value ≠ .null) :
    (rows.filter admits).length ≤ 1 := by
  have hpairs := hunique.filter admits
  have hadmits : ∀ row ∈ rows.filter admits, admits row = true :=
    fun row hrow => (List.mem_filter.mp hrow).2
  match hrows : rows.filter admits with
  | [] => simp
  | [_] => simp
  | first :: second :: rest =>
      rw [hrows] at hpairs hadmits
      have hdiffer := (List.pairwise_cons.mp hpairs).1 second (by simp)
      exfalso
      refine hdiffer (fun column hcolumn => ?_)
      obtain ⟨value, hrow⟩ := hfixed column hcolumn
      obtain ⟨hfirst, hvalue⟩ := hrow first (hadmits first (by simp))
      obtain ⟨hsecond, -⟩ := hrow second (hadmits second (by simp))
      rw [hfirst, hsecond]
      exact ⟨rfl, hvalue⟩

namespace Cardinality

section Clauses

/-- The predicate of a shape is that of the last `where`. -/
theorem selectionShapeSyntax_predicate (clauses : List ClauseFact) :
    (selectionShapeSyntax clauses).predicate =
      (FilterSite.whereExprs clauses).getLast? := by
  have hfold (shape : SelectionShapeSyntax) :
      (clauses.foldl SelectionShapeSyntax.withClause shape).predicate =
        (FilterSite.whereExprs clauses).getLast?.or shape.predicate := by
    induction clauses generalizing shape with
    | nil => simp [FilterSite.whereExprs]
    | cons clause clauses ih =>
        rw [List.foldl_cons, ih]
        cases clause with
        | where_ expr =>
            cases hlast : (FilterSite.whereExprs clauses).getLast? <;>
              simp_all [FilterSite.whereExprs, List.getLast?_cons,
                SelectionShapeSyntax.withClause]
        | _ =>
            simp [FilterSite.whereExprs, SelectionShapeSyntax.withClause]
  simpa [selectionShapeSyntax] using hfold ⟨none, false, .none⟩

/-- A sign is no digit. -/
theorem parseDigits_minus (rest : List Char) :
    parseDigits ('-' :: rest) = none := by
  have hfold (rest : List Char) :
      rest.foldl
        (fun value digit =>
          if digit.isDigit then
            value.map (fun value => 10 * value + (digit.toNat - '0'.toNat))
          else
            none)
        none = (none : Option Nat) := by
    induction rest with
    | nil => rfl
    | cons digit rest ih =>
        simp only [List.foldl_cons, Option.map_none, ite_self]
        exact ih
  simp only [parseDigits, List.foldl_cons]
  exact hfold rest

/-- A literal limit reads the same number for the shape and for the plan. -/
theorem parsePaginationValue_one
    {value : String}
    (h : parseU64 value = some 1) :
    parsePaginationValue value = some 1 := by
  unfold parseU64 at h
  unfold parsePaginationValue parseI64
  split at h
  · next digits hdigits =>
      have hparsed : parseDigits digits = some 1 :=
        (Option.filter_eq_some_iff.mp h).1
      simp [hdigits, hparsed, Option.filter]
  · next digits hplus =>
      have hparsed : parseDigits value.toList = some 1 :=
        (Option.filter_eq_some_iff.mp h).1
      split
      · next rest hminus =>
          rw [hminus, parseDigits_minus] at hparsed
          cases hparsed
      · next rest hrest => exact absurd hrest (hplus rest)
      · simp [hparsed, Option.filter]

end Clauses

end Cardinality

namespace FilterSite

open Cardinality

section Limits

variable (site : FilterSite) (context : ClauseContext)
  (fields : DynamicSurfaceFields)

/-- A plan that keeps a limit of one, or whose page is invalid. -/
def KeepsLimitOne
    (shape : SelectionShapeSyntax)
    (planned : SelectionClauses × Bool) : Prop :=
  shape.limit = .literal 1 →
    planned.1.limit = some (.literal 1) ∨ planned.2 = true

theorem planPaginationValue_one
    {expr : Expr}
    (h : limitSyntax expr = .literal 1) :
    site.planPaginationValue .limit "limit" expr =
      .present (.literal 1) := by
  unfold limitSyntax at h
  split at h
  · next value =>
      split at h
      · next number hnumber =>
          cases h
          simp [planPaginationValue, parsePaginationValue_one hnumber]
      · cases h
  · cases h
  · cases h

theorem keepsLimitOne_planClause
    {shape : SelectionShapeSyntax}
    {planned : SelectionClauses × Bool}
    (h : KeepsLimitOne shape planned)
    (clause : ClauseFact) :
    KeepsLimitOne (shape.withClause clause)
      (site.planClause context fields planned clause) := by
  intro hlimit
  cases clause with
  | filterAssignment assignment => exact h hlimit
  | where_ expr => exact h hlimit
  | orderBy items => exact h hlimit
  | limit expr =>
      left
      simp [planClause, site.planPaginationValue_one hlimit]
  | offset expr =>
      have hkept := h hlimit
      cases hvalue : site.planPaginationValue .offset "offset" expr <;>
        simp [planClause, hvalue, hkept]

/-- A selection limited to one row is planned with at most one. -/
theorem planClauses_limitOne
    {clauses : List ClauseFact}
    (h : (selectionShapeSyntax clauses).limit = .literal 1) :
    ∃ limit ≤ 1,
      (site.planClauses context fields clauses).limit =
        some (.literal limit) := by
  have hfold (shape : SelectionShapeSyntax)
      (planned : SelectionClauses × Bool)
      (hkept : KeepsLimitOne shape planned) :
      KeepsLimitOne (clauses.foldl SelectionShapeSyntax.withClause shape)
        (clauses.foldl (site.planClause context fields) planned) := by
    clear h
    induction clauses generalizing shape planned with
    | nil => exact hkept
    | cons clause clauses ih =>
        exact ih _ _ (site.keepsLimitOne_planClause context fields hkept
          clause)
  have hkept := hfold ⟨none, false, .none⟩ (SelectionClauses.empty, false)
    (fun hlimit => by cases hlimit) h
  simp only [planClauses]
  split
  · exact ⟨0, by simp, rfl⟩
  · next hvalid =>
      rcases hkept with hlimit | hinvalid
      · exact ⟨1, le_refl 1, hlimit⟩
      · exact absurd hinvalid hvalid

end Limits

end FilterSite

namespace Postgres

open Cardinality Results

variable {S : Type} [DecidableEq S] (server : Server S)

/-- How a planned source stands to the selection it was planned from: one
table, one list of clauses with a predicate that planning supports, the inputs
that the header leaves required, and for a relation the row above it. -/
structure PlannedFrom
    (site : FilterSite)
    (refinements : List InputRefinement)
    (fields : DynamicSurfaceFields)
    (clauseContext : ClauseContext)
    (clauses : List ClauseFact)
    (target : SelectionTarget)
    (source : CollectionSource)
    (context : SelectionContext)
    (position : SelectionPosition) : Prop where
  table : target.childContext = some source.table
  current : clauseContext.table = source.table
  plan : source.clauses = site.planClauses clauseContext fields clauses
  supported : ∀ predicate,
    (selectionShapeSyntax clauses).predicate = some predicate →
      (site.planFilterExpr clauseContext false predicate).isSome
  named : ∀ predicate,
    (selectionShapeSyntax clauses).predicate = some predicate →
      namesColumnsFirst predicate = true
  present : ∀ predicate,
    (selectionShapeSyntax clauses).predicate = some predicate →
      RequiredInputsPresent site.planner.catalog refinements site
        server.inputs.isPresent clauseContext predicate
  parent : ∀ id relation,
    target = .relation id source.table →
      site.planner.catalog.relationById id = some relation →
        ∃ above, position.parent = some (above, relation) ∧
          relation.toTable = source.table ∧
          above.context.tableAlias ≠ context.tableAlias

section Rows

variable {server} {site : FilterSite} {refinements : List InputRefinement}
  {fields : DynamicSurfaceFields} {clauseContext : ClauseContext}
  {clauses : List ClauseFact} {target : SelectionTarget}
  {source : CollectionSource} {context : SelectionContext}
  {position : SelectionPosition}
  (hplanned : PlannedFrom server site refinements fields clauseContext
    clauses target source context position)

include hplanned

/-- An admitted row has the values of the equalities that its predicate
guarantees. -/
theorem admittedRow_fixed
    (env : Env S)
    {predicate : Expr}
    {entry : ColumnId × FixedValueIdentity}
    (hpredicate : (selectionShapeSyntax clauses).predicate =
      some predicate)
    (hentry : entry ∈ guaranteedEqualities site.planner.catalog
      source.table refinements [] predicate) :
    ∃ value, ∀ row,
      (server.session.evalAll ((context, row) :: env)
          (admittingConditions site.planner.catalog source context
            position) == .tt) = true →
        row entry.1 = value ∧ value ≠ .null := by
  obtain ⟨filter, hfilter⟩ :=
    Option.isSome_iff_exists.mp (hplanned.supported predicate hpredicate)
  have hclause : source.clauses.filter =
      some (attachDynamicFields fields filter) := by
    rw [hplanned.plan, FilterSite.planClauses_filter,
      ← selectionShapeSyntax_predicate, hpredicate]
    simp [FilterSite.planWhere, hfilter]
  rw [← hplanned.current] at hentry
  obtain ⟨value, -, hfixes⟩ := site.fixes_guaranteedEqualities
    server.session fields (hplanned.named predicate hpredicate)
    (hplanned.present predicate hpredicate) hentry hfilter
  refine ⟨value, fun row hrow => ?_⟩
  simp only [admittingConditions, beq_iff_eq, Session.evalAll_append,
    Logic.Truth.and_eq_tt, Session.evalAll_filterConditions, hclause,
    Option.bind_some] at hrow
  have hcolumn := hfixes _ _ _ hrow.2.2
  simpa [Session.column, Server.session, Server.bound, innermost,
    SelectionPosition.scope, readableView] using hcolumn

/-- A covered key leaves at most one row. -/
theorem admittedRows_uniqueKey
    (hdatabase : server.database.Satisfies site.planner.catalog)
    (env : Env S)
    {key : List ColumnId}
    (h : (selectionShapeSyntax clauses).predicate.bind
      (uniqueKeyForPredicate site.planner.catalog source.table
        refinements) = some key) :
    (server.admittedRows innermost site.planner.catalog env source context
      position).length ≤ 1 := by
  obtain ⟨predicate, hpredicate, hkey⟩ := Option.bind_eq_some_iff.mp h
  unfold uniqueKeyForPredicate at hkey
  obtain ⟨table, htable, hkey⟩ := Option.bind_eq_some_iff.mp hkey
  have hcovered : key ∈ table.primaryKey :: table.uniqueConstraints ∧
      (guaranteedEqualities site.planner.catalog source.table refinements
        [] predicate).cover key = true := by
    split at hkey
    · next hprimary =>
        cases hkey
        exact ⟨by simp, hprimary⟩
    · exact ⟨List.mem_cons_of_mem _ (List.mem_of_find?_eq_some hkey),
        List.find?_some hkey⟩
  obtain ⟨hmem, hcover⟩ := hcovered
  simp only [GuaranteedEqualities.cover, Bool.and_eq_true,
    Bool.not_eq_true', List.isEmpty_eq_false_iff, List.all_eq_true,
    List.any_eq_true, beq_iff_eq] at hcover
  have hunique := hdatabase.keys table
    (List.mem_of_find?_eq_some htable) key hmem hcover.1
  rw [Catalog.tableById_id htable] at hunique
  refine length_filter_le_one hunique (fun column hcolumn => ?_)
  obtain ⟨entry, hentry, rfl⟩ := hcover.2 column hcolumn
  exact admittedRow_fixed hplanned env hpredicate hentry

/-- A singular relation leads to at most one row. -/
theorem admittedRows_relation
    (hdatabase : server.database.Satisfies site.planner.catalog)
    (env : Env S)
    {id : RelationId}
    {relation : Relation}
    (htarget : target = .relation id source.table)
    (hrelation : site.planner.catalog.relationById id = some relation)
    (hsingular : relation.cardinality = .singular) :
    (server.admittedRows innermost site.planner.catalog env source context
      position).length ≤ 1 := by
  obtain ⟨above, hparent, htable, halias⟩ :=
    hplanned.parent id relation htarget hrelation
  have hunique := hdatabase.relations relation
    (List.mem_of_find?_eq_some hrelation) hsingular
  rw [htable] at hunique
  refine length_filter_le_one hunique (fun column hcolumn => ?_)
  obtain ⟨columns, hcolumns, rfl⟩ := List.mem_map.mp hcolumn
  refine ⟨(server.bound innermost).column env above.context columns.1,
    fun row hrow => ?_⟩
  simp only [admittingConditions, beq_iff_eq, Session.evalAll_append,
    Logic.Truth.and_eq_tt, hparent, Option.elim_some] at hrow
  have hcondition := (Server.Means.evalAll_eq_tt _ _ _).mp hrow.1 _
    (List.mem_map.mpr ⟨columns, hcolumns, rfl⟩)
  have hhead : (server.bound innermost).column ((context, row) :: env) context
      columns.2 = row columns.2 := by
    simp [Session.column, Server.bound]
  have htail : (server.bound innermost).column ((context, row) :: env) above.context
      columns.1 = (server.bound innermost).column env above.context columns.1 := by
    unfold Session.column
    simp only [Server.bound, innermost_tail env context row halias]
  simp only [Session.eval, hhead, htail, Engine.binary,
    Datum.truth_ofTruth] at hcondition
  obtain ⟨hequal, hvalue⟩ := Engine.compare_eq_tt _ hcondition
  exact ⟨hequal, hequal ▸ hvalue⟩

end Rows

/-! ## Answers -/

section Bounds

variable {α β : Type}

omit [DecidableEq S] in
/-- Bounds keep some of the items. -/
theorem length_bounded_le
    (clauses : SelectionClauses)
    (guard : Option Nat)
    (items : List α) :
    (server.bounded clauses guard items).length ≤ items.length := by
  unfold Server.bounded takeAtMost
  split
  · simp
  · simp only [List.length_take, List.length_drop]
    omega

omit [DecidableEq S] in
theorem length_bounded_limit
    {clauses : SelectionClauses}
    {limit : Nat}
    (h : clauses.limit = some (.literal limit))
    (items : List α) :
    (server.bounded clauses none items).length ≤ limit := by
  have hlimit : server.limit clauses none = some limit := by
    simp [Server.limit, h]
  unfold Server.bounded takeAtMost
  rw [hlimit]
  simp only [List.length_take]
  omega

end Bounds

section Answers

variable {server} {site : FilterSite} {refinements : List InputRefinement}
  {fields : DynamicSurfaceFields} {clauseContext : ClauseContext}
  {clauses : List ClauseFact} {target : SelectionTarget}
  {source : CollectionSource} {context : SelectionContext}
  {position : SelectionPosition}

/-- A proven selection has at most one row, or it is limited to one. -/
theorem rows_of_proof
    (hplanned : PlannedFrom server site refinements fields clauseContext
      clauses target source context position)
    (hdatabase : server.database.Satisfies site.planner.catalog)
    {above : Option TableId}
    {proven : ProvenSelectionShape}
    (hresolved : resolveSelectionShape site.planner.catalog
      (selectionShapeSyntax clauses) refinements above target = some proven)
    (hproof : proven.proof.isSome)
    (env : Env S) :
    (server.admittedRows innermost site.planner.catalog env source context
        position).length ≤ 1 ∨
      ∃ limit ≤ 1, source.clauses.limit = some (.literal limit) := by
  have htable := hplanned.table
  have hcases (relation : Option Relation)
      (hrelation : ∀ found, relation = some found → ∃ id,
        target = .relation id source.table ∧
          site.planner.catalog.relationById id = some found)
      (hsome : (cardinalityProof site.planner.catalog
        (selectionShapeSyntax clauses) refinements source.table
        relation).isSome) :
      (server.admittedRows innermost site.planner.catalog env source context
          position).length ≤ 1 ∨
        ∃ limit ≤ 1, source.clauses.limit = some (.literal limit) := by
    unfold cardinalityProof at hsome
    split at hsome
    · next hsingular =>
        cases hfound : relation with
        | none => simp [hfound] at hsingular
        | some found =>
            obtain ⟨id, htarget, hid⟩ := hrelation found hfound
            exact .inl (admittedRows_relation hplanned hdatabase env htarget
              hid (by simpa [hfound] using hsingular))
    · split at hsome
      · next key hkey =>
          exact .inl (admittedRows_uniqueKey hplanned hdatabase env hkey)
      · split at hsome
        · next hlimit =>
            rw [hplanned.plan]
            exact .inr (site.planClauses_limitOne clauseContext fields hlimit)
        · cases hsome
  cases target with
  | table table =>
      simp only [SelectionTarget.childContext, Option.some.injEq] at htable
      subst htable
      simp only [resolveSelectionShape, Option.some.injEq] at hresolved
      subst hresolved
      exact hcases none (fun _ h => by cases h) hproof
  | relation id table =>
      simp only [SelectionTarget.childContext, Option.some.injEq] at htable
      subst htable
      simp only [resolveSelectionShape, Option.some.injEq] at hresolved
      subst hresolved
      refine hcases _ (fun found h => ⟨id, rfl, ?_⟩) hproof
      obtain ⟨-, -, hfound⟩ := Option.bind_eq_some_iff.mp h
      exact hfound
  | column column => cases htable
  | unresolved => cases htable

/-- A proven shape is that of at most one row. -/
theorem cardinality_of_proof
    {catalog : Catalog}
    {shape : SelectionShapeSyntax}
    {above : Option TableId}
    {proven : ProvenSelectionShape}
    (hresolved : resolveSelectionShape catalog shape refinements above
      target = some proven)
    (hproof : proven.proof.isSome) :
    proven.shape.cardinality = .atMostOne := by
  cases target with
  | table table | relation id table =>
      simp only [resolveSelectionShape, Option.some.injEq] at hresolved
      subst hresolved
      exact if_pos hproof
  | column column => cases hresolved
  | unresolved => cases hresolved

/-- At most one row with at most one combination below it. -/
theorem length_flatMap_le_one
    {α β : Type}
    {items : List α}
    {f : α → List β}
    (hitems : items.length ≤ 1)
    (hf : ∀ item, (f item).length ≤ 1) :
    (items.flatMap f).length ≤ 1 := by
  match items, hitems with
  | [], _ => simp
  | [item], _ => simpa using hf item

/-- A selection with a cardinality proof answers with at most one row, if its
relations answer each row with at most one combination. -/
theorem length_collectionAnswers_le_one
    {env : Env S}
    {path : List AliasSegment}
    (hplanned : PlannedFrom server site refinements fields clauseContext
      clauses target source ⟨⟨path⟩, env.length⟩ position)
    (hdatabase : server.database.Satisfies site.planner.catalog)
    {above : Option TableId}
    {proven : ProvenSelectionShape}
    (hresolved : resolveSelectionShape site.planner.catalog
      (selectionShapeSyntax clauses) refinements above target = some proven)
    (hproof : proven.proof.isSome)
    (hshape : source.shape = proven.shape)
    (options : PostgresSqlOptions)
    (items : List SelectionPlanItem)
    (hrelated : ∀ row,
      let view := readableView site.planner.catalog ⟨⟨path⟩, env.length⟩
        source.fieldFilters
      (server.relatedAnswers innermost site.planner.catalog options
        ((⟨⟨path⟩, env.length⟩, row) :: env) path view
        (position.root.getD view) [] items).length ≤ 1)
    (name : Option String)
    (flattened : Bool) :
    (server.collectionAnswers innermost site.planner.catalog options env path position
      name flattened (.mk source (.rows items))).length ≤ 1 := by
  have hone : source.shape.cardinality = .atMostOne :=
    hshape ▸ cardinality_of_proof hresolved hproof
  have hseparate : source.separate options = false := by
    simp [CollectionSource.separate, hone]
  simp only [Server.collectionAnswers]
  unfold Server.rowAnswers
  rw [if_pos (Or.inr hone), List.length_map]
  simp only [Server.outerBounds, Server.joinedRows, Server.chosenRows,
    hseparate, Bool.false_eq_true, if_false]
  rcases rows_of_proof hplanned hdatabase hresolved hproof env with
    hrows | ⟨limit, hlimit, hliteral⟩
  · refine (length_bounded_le server _ _ _).trans ?_
    rw [(Comparison.sort_perm _ _).length_eq]
    exact length_flatMap_le_one hrows (fun row => by
      simpa using hrelated row)
  · exact (length_bounded_limit server hliteral _).trans hlimit

end Answers

end Postgres

/-! ## One user -/

namespace Postgres

open Cardinality Results

/-- The tables of the posts with every column visible. -/
def visibleCatalog : Catalog :=
  { postCatalog with
    columns := postCatalog.columns.map (fun column =>
      { column with visible := true }) }

def userIdIs (value : Expr) : Expr :=
  .binary (.comparison .eq)
    (.path ⟨.current, [⟨⟨none, "id"⟩, none⟩]⟩) value

/-- `where: id == %user or (id == %user and id == 3)`. -/
def userClauses : List ClauseFact :=
  let named : Expr := .variable ⟨.query, some "user", none⟩
  [.where_ (.binary .or (userIdIs named)
    (.binary .and (userIdIs named) (userIdIs (.literal (.number "3")))))]

def noFields : DynamicSurfaceFields := ⟨none, [], none, []⟩

def userPlanned : CollectionSource :=
  { table := ⟨0⟩
    shape := ⟨.atMostOne, true⟩
    clauses := (FilterSite.plain visibleCatalog).planClauses ⟨⟨0⟩, ⟨0⟩, none⟩
      noFields userClauses
    policyFilter := none
    fieldFilters := []
    policyNullableFields := [] }

def userSelection : SelectionContext :=
  ⟨⟨[.selection ⟨0⟩ "user" 0]⟩, 0⟩

/-- The posts of a request for the second user. -/
def secondUser : Server Nat :=
  { postServer with
    inputs := { postServer.inputs with value := fun _ => .scalar 2 } }

theorem secondUser_satisfies :
    secondUser.database.Satisfies visibleCatalog where
  keys := by
    intro table htable key hkey hne
    simp only [visibleCatalog, postCatalog, List.mem_cons, List.not_mem_nil,
      or_false] at htable
    rcases htable with rfl | rfl
    · simp only [List.mem_cons, List.not_mem_nil, or_false] at hkey
      subst hkey
      unfold UniqueOn
      decide
    · simp_all
  relations := by
    intro relation hrelation hsingular
    simp only [visibleCatalog, postCatalog, List.mem_singleton] at hrelation
    subst hrelation
    cases hsingular

theorem userPlanned_from :
    PlannedFrom secondUser (FilterSite.plain visibleCatalog) [] noFields
      ⟨⟨0⟩, ⟨0⟩, none⟩ userClauses (.table ⟨0⟩) userPlanned userSelection
      .top where
  table := rfl
  current := rfl
  plan := rfl
  supported := by
    intro predicate h
    cases h
    decide
  named := by
    intro predicate h
    cases h
    rfl
  present := by
    intro predicate h
    cases h
    exact ⟨fun _ => rfl, fun _ => rfl, fun _ => rfl⟩
  parent := by
    intro id relation h
    cases h

/-- What the selection of the second user answers. -/
def userAnswers : List (Outputs Nat) :=
  secondUser.collectionAnswers innermost visibleCatalog ⟨none⟩ []
    [.selection ⟨0⟩ "user" 0] .top none true
    (.mk userPlanned (.rows [.projection ⟨⟨0⟩, "id"⟩]))

theorem length_collectionAnswers_le_one_user :
    userAnswers.length ≤ 1 ∧
      userAnswers = [[(some "id", .datum (.scalar 2))]] :=
  ⟨length_collectionAnswers_le_one userPlanned_from secondUser_satisfies
    (show resolveSelectionShape visibleCatalog
        (selectionShapeSyntax userClauses) [] none (.table ⟨0⟩) = some _
      from rfl)
    rfl rfl ⟨none⟩ [.projection ⟨⟨0⟩, "id"⟩] (fun _ => le_refl 1) none true,
    rfl⟩

end Postgres

end Dsql
