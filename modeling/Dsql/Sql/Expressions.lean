import Dsql.Sql.Meaning

/-!
# Rendered expressions

A rendered expression means a lowered one when both have the same value in
every scope of some depth.  There is one lemma for every way to build an
expression; subqueries are read through the parts of their `select`.
-/

namespace Dsql

namespace Postgres

open Logic

namespace SqlMeaning

variable {S : Type}

/-! ## Parts of a `select` -/

@[simp] theorem scopes_nil (scope : Scope S) : scopes [] scope = [scope] := rfl

theorem foldl_joined
    (parts : List (SqlMeaning S))
    (rows : List (Scope S)) :
    parts.foldl (fun scopes part => scopes.flatMap part.joined) rows =
      rows.flatMap (scopes parts) := by
  induction parts generalizing rows with
  | nil => exact (List.flatMap_singleton' rows).symm
  | cons part parts ih =>
      rw [List.foldl_cons, ih, List.flatMap_assoc]
      refine congrArg (List.flatMap · rows) (funext fun row => ?_)
      unfold scopes
      rw [List.foldl_cons, List.flatMap_singleton, ih]
      rfl

@[simp] theorem scopes_cons
    (part : SqlMeaning S)
    (parts : List (SqlMeaning S))
    (scope : Scope S) :
    scopes (part :: parts) scope = (part.joined scope).flatMap (scopes parts) := by
  show parts.foldl _ ([scope].flatMap part.joined) = _
  rw [foldl_joined, List.flatMap_singleton]

/-- The sources of two parts are joined one after the other. -/
theorem scopes_append
    (first second : List (SqlMeaning S))
    (scope : Scope S) :
    scopes (first ++ second) scope =
      (scopes first scope).flatMap (scopes second) := by
  show (first ++ second).foldl _ _ = _
  rw [List.foldl_append, foldl_joined]
  rfl

/-- Parts that are no sources leave the scope as it is. -/
theorem scopes_of_joined
    {parts : List (SqlMeaning S)}
    (h : ∀ part ∈ parts, ∀ scope, part.joined scope = [scope])
    (scope : Scope S) : scopes parts scope = [scope] := by
  induction parts with
  | nil => rfl
  | cons part parts ih =>
      rw [scopes_cons, h part List.mem_cons_self, List.flatMap_singleton]
      exact ih (fun other hother => h other (List.mem_cons_of_mem part hother))

end SqlMeaning

namespace Server

variable {S : Type} [DecidableEq S] (server : Server S)

/-- The meanings of parts are the parts' meanings. -/
theorem meanings_eq_map (reading : Reading S) (parts : List Sql) :
    server.meanings reading parts = parts.map (server.meaning reading) := by
  induction parts with
  | nil => rfl
  | cons part parts ih =>
      rw [meanings, ih]
      rfl

/-- A construct means what is built from its parts. -/
@[simp] theorem meaning_node
    (reading : Reading S)
    (construct : SqlConstruct)
    (parts : List Sql) :
    server.meaning reading (.node construct parts) =
      server.build reading construct (parts.map (server.meaning reading)) := by
  rw [meaning, meanings_eq_map]

/-- A rendered expression stands for a lowered one inside of some row
sources. -/
structure Means
    (reading : Reading S)
    (sql : Sql)
    (expr : SqlExpr)
    (depth : Nat) : Prop where
  plain : (server.meaning reading sql).aggregated = false
  unordered : (server.meaning reading sql).comparison = none
  value : ∀ group scope, scope.rows.length = depth →
    (server.meaning reading sql).read group scope =
      .datum (server.session.eval scope.rows expr)

/-- A placeholder stands for its parameter. -/
def MeansParameter
    (reading : Reading S)
    (sql : Sql)
    (parameter : SqlParameter) : Prop :=
  server.meaning reading sql =
    { SqlMeaning.value false (fun _ _ =>
        .datum (server.inputs.value parameter.path)) with
      parameter := some (parameter.path, parameter.collection) }

variable {server} {reading : Reading S} {depth : Nat}

namespace Means

/-- A rendered expression is read as its lowering. -/
theorem datum
    {sql : Sql}
    {expr : SqlExpr}
    (h : server.Means reading sql expr depth)
    {scope : Scope S}
    (hdepth : scope.rows.length = depth) :
    (server.meaning reading sql).datum scope =
      server.session.eval scope.rows expr := by
  unfold SqlMeaning.datum
  rw [h.value [] scope hdepth]
  rfl

section Leaves

/-- A column means the column of the row at its level. -/
theorem column (name : Alias) (level : Nat) (column : ColumnId) :
    server.Means reading (.node (.column name column) [])
      (.column ⟨name, level⟩ column) depth := by
  refine ⟨by rw [meaning_node]; rfl, by rw [meaning_node]; rfl, ?_⟩
  intro group scope hdepth
  rw [meaning_node, Session.eval]
  rfl

/-- A literal means itself. -/
theorem literal (value : FilterLiteral) :
    server.Means reading (.node (.literal value) []) (.literal value) depth := by
  refine ⟨by rw [meaning_node]; rfl, by rw [meaning_node]; rfl, ?_⟩
  intro group scope hdepth
  rw [meaning_node, Session.eval]
  rfl

/-- The keywords mean the truth values. -/
theorem keyword (value : Bool) :
    server.Means reading
      (.node (.keyword (if value then "TRUE" else "FALSE")) [])
      (.literal (.bool value)) depth := by
  refine ⟨by rw [meaning_node]; rfl, by rw [meaning_node]; rfl, ?_⟩
  intro group scope hdepth
  rw [meaning_node, Session.eval]
  cases value <;> rfl

variable {sql : Sql} {parameter : SqlParameter}

/-- A placeholder means its parameter. -/
theorem placeholder (h : server.MeansParameter reading sql parameter) :
    server.Means reading sql (.parameter parameter) depth := by
  refine ⟨by rw [h]; rfl, by rw [h]; rfl, ?_⟩
  intro group scope hdepth
  rw [h, Session.eval]
  rfl

/-- The presence of a parameter. -/
theorem isPresent (h : server.MeansParameter reading sql parameter) :
    server.Means reading (.node .isPresent [sql]) (.isPresent parameter)
      depth := by
  refine ⟨?_, by rw [meaning_node]; rfl, ?_⟩
  · rw [meaning_node, List.map_singleton, h]
    rfl
  · intro group scope hdepth
    rw [meaning_node, List.map_singleton, h, Session.eval]
    rfl

end Leaves

section Operators

section Parts

variable {parts : List Sql} {partExprs : List SqlExpr}

/-- Rendered expressions are read at single rows. -/
theorem any_aggregated
    (h : List.Forall₂ (fun part partExpr =>
      server.Means reading part partExpr depth) parts partExprs) :
    (parts.map (server.meaning reading)).any SqlMeaning.aggregated = false := by
  induction h with
  | nil => rfl
  | cons hmeans _ ih =>
      rw [List.map_cons, List.any_cons, hmeans.plain, ih]
      rfl

theorem map_read
    (h : List.Forall₂ (fun part partExpr =>
      server.Means reading part partExpr depth) parts partExprs)
    {group : List (Scope S)}
    {scope : Scope S}
    (hdepth : scope.rows.length = depth) :
    (parts.map (server.meaning reading)).map
        (fun part => part.read group scope) =
      partExprs.map (fun part =>
        .datum (server.session.eval scope.rows part)) := by
  induction h with
  | nil => rfl
  | cons hmeans _ ih =>
      rw [List.map_cons, List.map_cons, ih, hmeans.value group scope hdepth]
      rfl

end Parts

/-- An operator means a lowered one when it makes the same of what its
operands mean. -/
theorem expression
    {construct : SqlConstruct}
    {parts : List Sql}
    {partExprs : List SqlExpr}
    {expr : SqlExpr}
    (hbuild : server.build reading construct
        (parts.map (server.meaning reading)) =
      .expression (parts.map (server.meaning reading))
        (server.operation reading construct))
    (hparts : List.Forall₂ (fun part partExpr =>
      server.Means reading part partExpr depth) parts partExprs)
    (hresult : ∀ env : Env S,
      server.operation reading construct (partExprs.map (fun part =>
        .datum (server.session.eval env part))) =
          .datum (server.session.eval env expr)) :
    server.Means reading (.node construct parts) expr depth := by
  refine ⟨?_, by rw [meaning_node, hbuild]; rfl, ?_⟩
  · rw [meaning_node, hbuild, SqlMeaning.aggregated_expression,
      any_aggregated hparts]
  · intro group scope hdepth
    rw [meaning_node, hbuild, SqlMeaning.read_expression,
      map_read hparts hdepth, hresult]

variable {left right operand : Sql} {leftExpr rightExpr operandExpr : SqlExpr}

/-- Operators mean operators. -/
theorem binary
    (op : FilterOp)
    (hleft : server.Means reading left leftExpr depth)
    (hright : server.Means reading right rightExpr depth) :
    server.Means reading (.node (.binary op) [left, right])
      (.binary leftExpr op rightExpr) depth := by
  refine expression rfl (.cons hleft (.cons hright .nil)) ?_
  intro env
  rw [Session.eval]
  rfl

/-- A negation means a negation. -/
theorem not_
    (h : server.Means reading operand operandExpr depth) :
    server.Means reading (.node .not [operand]) (.not operandExpr) depth := by
  refine expression rfl (.cons h .nil) ?_
  intro env
  rw [Session.eval]
  rfl

/-- A null test means a null test. -/
theorem isNull
    (h : server.Means reading operand operandExpr depth)
    (negated : Bool) :
    server.Means reading (.node (.isNull negated) [operand])
      (.isNull operandExpr negated) depth := by
  refine expression rfl (.cons h .nil) ?_
  intro env
  rw [Session.eval]
  rfl

/-- A guarded value means a guarded value. -/
theorem caseWhen
    (hguard : server.Means reading left leftExpr depth)
    (hvalue : server.Means reading right rightExpr depth) :
    server.Means reading (.node .caseWhen [left, right])
      (.caseWhen leftExpr rightExpr) depth := by
  refine expression rfl (.cons hguard (.cons hvalue .nil)) ?_
  intro env
  rw [Session.eval]
  exact (apply_ite Doc.datum _ _ _).symm

/-- A membership in a list means that membership. -/
theorem inList
    {items : List Sql}
    {itemExprs : List SqlExpr}
    (hoperand : server.Means reading operand operandExpr depth)
    (hitems : List.Forall₂ (fun item expr =>
      server.Means reading item expr depth) items itemExprs)
    (negated : Bool) :
    server.Means reading (.node (.inList negated) (operand :: items))
      (.inList operandExpr itemExprs negated) depth := by
  refine expression rfl (.cons hoperand hitems) ?_
  intro env
  have hvalues : (itemExprs.map (fun item =>
      Doc.datum (server.session.eval env item))).map Doc.toDatum =
        server.session.evalItems env itemExprs := by
    rw [List.map_map, Session.evalItems_eq_map]
    rfl
  rw [Session.eval, ← hvalues]
  rfl

/-- A membership in an array means that membership. -/
theorem anyOf
    {collection : Sql}
    {parameter : SqlParameter}
    (hoperand : server.Means reading operand operandExpr depth)
    (hcollection : server.MeansParameter reading collection parameter)
    (negated : Bool) :
    server.Means reading (.node (.anyOf negated) [operand, collection])
      (.anyOf operandExpr parameter negated) depth := by
  refine ⟨?_, by rw [meaning_node]; rfl, ?_⟩
  · rw [meaning_node]
    exact hoperand.plain
  · intro group scope hdepth
    have hvalue : ((server.meaning reading operand).read group scope).toDatum =
        server.session.eval scope.rows operandExpr := by
      rw [hoperand.value group scope hdepth]
      rfl
    rw [meaning_node, List.map_cons, List.map_singleton, hcollection,
      Session.eval, ← hvalue]
    rfl

/-- A comparison by variants means that comparison. -/
theorem «variant»
    (hleft : server.Means reading left leftExpr depth)
    (hright : server.Means reading right rightExpr depth)
    {path : InputPath}
    {variants : List SqlVariantCase}
    (hvariants : reading.variants path = variants) :
    server.Means reading (.node (.variant path) [left, right])
      (.variant leftExpr path variants rightExpr) depth := by
  refine expression rfl (.cons hleft (.cons hright .nil)) ?_
  intro env
  rw [Session.eval, ← hvariants]
  rfl

/-- A null test by variants means that null test. -/
theorem variantNull
    (h : server.Means reading operand operandExpr depth)
    {path : InputPath}
    {variants : List SqlVariantCase}
    (hvariants : reading.variants path = variants) :
    server.Means reading (.node (.variantNull path) [operand])
      (.variantNull operandExpr path variants) depth := by
  refine expression rfl (.cons h .nil) ?_
  intro env
  rw [Session.eval, ← hvariants]
  rfl

end Operators

/-! ## Related subqueries -/

/-- A conjunction is true where all its conditions are. -/
theorem evalAll_eq_tt
    (session : Session S)
    (env : Env S)
    (conditions : List SqlExpr) :
    session.evalAll env conditions = .tt ↔
      ∀ condition ∈ conditions, (session.eval env condition).truth = .tt := by
  induction conditions with
  | nil => simp
  | cons condition conditions ih => simp [ih]

section Related

variable {conditions : List Sql} {conditionExprs : List SqlExpr}

/-- Rendered conditions hold where the lowered ones do. -/
theorem all_conditions
    (h : List.Forall₂ (fun condition expr =>
      server.Means reading condition expr depth) conditions conditionExprs)
    {scope : Scope S}
    (hdepth : scope.rows.length = depth) :
    (conditions.map (fun condition =>
        server.meaning reading (.node .condition [condition]))).all
      (fun part => part.holds scope) =
        (server.session.evalAll scope.rows conditionExprs == .tt) := by
  rw [Bool.eq_iff_iff, beq_iff_eq, evalAll_eq_tt]
  have hholds : ∀ condition expr, server.Means reading condition expr depth →
      ((server.meaning reading (.node .condition [condition])).holds scope =
        true ↔ (server.session.eval scope.rows expr).truth = .tt) := by
    intro condition expr hmeans
    rw [meaning_node, List.map_singleton]
    show (((server.meaning reading condition).datum scope).truth == Truth.tt) =
      true ↔ _
    rw [hmeans.datum hdepth, beq_iff_eq]
  induction h with
  | nil => simp
  | cons hmeans _ ih =>
      rw [List.map_cons, List.all_cons, Bool.and_eq_true, List.forall_mem_cons]
      exact and_congr (hholds _ _ hmeans) ih

/-- The parts of a related subquery. -/
theorem map_relatedQuery
    {output : Sql}
    {aggregated : Bool}
    {read : List (Scope S) → Scope S → Doc S}
    (houtput : server.meaning reading output = .value aggregated read)
    (name : Alias)
    (table : TableId)
    (conditions : List Sql) :
    ([output] ++ Sql.node (.fromTable table name) [] ::
      conditions.map (fun condition => Sql.node .condition [condition])).map
        (server.meaning reading) =
      .value aggregated read ::
        .source (fun scope => (server.database table).map (scope.enter name)) ::
        conditions.map (fun condition =>
          server.meaning reading (.node .condition [condition])) := by
  simp only [List.singleton_append, List.map_cons, houtput, List.map_map]
  rw [meaning_node]
  rfl

/-- The rows of a related subquery. -/
theorem passing_relatedQuery
    (h : List.Forall₂ (fun condition expr =>
      server.Means reading condition expr (depth + 1)) conditions
        conditionExprs)
    {output : Sql}
    {aggregated : Bool}
    {read : List (Scope S) → Scope S → Doc S}
    (houtput : server.meaning reading output = .value aggregated read)
    (name : Alias)
    (table : TableId)
    {scope : Scope S}
    (hdepth : scope.rows.length = depth) :
    SqlMeaning.passing (([output] ++ .node (.fromTable table name) [] ::
        conditions.map (fun condition => Sql.node .condition [condition])).map
          (server.meaning reading)) scope =
      (server.session.rowsWhere scope.rows ⟨name, depth⟩ table
        conditionExprs).map (scope.enter name) := by
  have hconditions : ∀ row : Scope S,
      SqlMeaning.scopes (conditions.map (fun condition =>
        server.meaning reading (.node .condition [condition]))) row = [row] := by
    refine SqlMeaning.scopes_of_joined ?_
    intro part hpart row
    obtain ⟨condition, -, rfl⟩ := List.mem_map.mp hpart
    rw [meaning_node]
    rfl
  rw [map_relatedQuery houtput]
  unfold SqlMeaning.passing Session.rowsWhere
  rw [SqlMeaning.scopes_cons, SqlMeaning.value_joined,
    List.flatMap_singleton, SqlMeaning.scopes_cons, SqlMeaning.source_joined,
    funext hconditions, List.flatMap_singleton', List.filter_map]
  refine congrArg (List.map _) (List.filter_congr fun row _ => ?_)
  have hinner : (scope.enter name row).rows.length = depth + 1 := by
    simp [Scope.enter, hdepth]
  have hall := all_conditions h hinner
  rw [Function.comp_apply, List.all_cons, List.all_cons,
    SqlMeaning.value_holds, SqlMeaning.source_holds, Bool.true_and,
    Bool.true_and, hall, ← hdepth]
  rfl

/-- A subquery without limits and groups has a row for every one that passes,
or a single one under an aggregate. -/
theorem results_relatedQuery
    (conditions : List Sql)
    {output : Sql}
    {aggregated : Bool}
    {read : List (Scope S) → Scope S → Doc S}
    (houtput : server.meaning reading output = .value aggregated read)
    (name : Alias)
    (table : TableId)
    (scope : Scope S) :
    (server.meaning reading
        (relatedQuery name table [output] conditions)).results scope =
      let rows := SqlMeaning.passing (([output] ++
        .node (.fromTable table name) [] :: conditions.map (fun condition =>
          Sql.node .condition [condition])).map (server.meaning reading)) scope
      if aggregated then [⟨scope, [(none, read rows scope)]⟩]
      else rows.map (fun row => ⟨row, [(none, read [] row)]⟩) := by
  unfold relatedQuery
  rw [meaning_node]
  show SqlMeaning.select _ scope = _
  unfold SqlMeaning.select SqlMeaning.window SqlMeaning.projected
  generalize SqlMeaning.passing _ scope = rows
  have hnone : ∀ {β : Type} (items : List Sql),
      items.findSome? (fun _ => (none : Option β)) = none :=
    fun items => List.findSome?_eq_none_iff.mpr (fun _ _ => rfl)
  rw [map_relatedQuery houtput]
  simp [SqlMeaning.outputs, SqlMeaning.sorting, Function.comp_def, build,
    takeAtMost, List.findSome?_map, hnone]

variable
    (h : List.Forall₂ (fun condition expr =>
      server.Means reading condition expr (depth + 1)) conditions
        conditionExprs)
    (name : Alias)
    (table : TableId)

include h

/-- An `exists` means the existence of a row. -/
theorem exists_ :
    server.Means reading
      (.node .exists [relatedQuery name table [.node (.number 1) []] conditions])
      (.exists ⟨name, depth⟩ table conditionExprs) depth := by
  have hnumber : server.meaning reading (.node (.number 1) []) =
      .value false (fun _ _ => .datum (.scalar (server.engine.count 1))) :=
    meaning_node server reading _ _
  refine ⟨by rw [meaning_node]; rfl, by rw [meaning_node]; rfl, ?_⟩
  intro group scope hdepth
  rw [meaning_node, List.map_singleton, Session.eval_exists]
  show Doc.datum (.bool !((server.meaning reading
    (relatedQuery name table [.node (.number 1) []] conditions)).results
      scope).isEmpty) = _
  rw [results_relatedQuery conditions hnumber]
  have hpassing := passing_relatedQuery h hnumber name table hdepth
  simp only [Bool.false_eq_true, if_false, List.isEmpty_map, hpassing]

/-- An aggregate of related rows as a scalar. -/
theorem scalar_
    {output : Sql}
    {read : List (Scope S) → Scope S → Doc S}
    {expr : SqlExpr}
    (houtput : server.meaning reading output = .value true read)
    (hexpr : ∀ scope : Scope S, scope.rows.length = depth →
      read ((server.session.rowsWhere scope.rows ⟨name, depth⟩ table
          conditionExprs).map (scope.enter name)) scope =
        .datum (server.session.eval scope.rows expr)) :
    server.Means reading
      (.node .scalar [relatedQuery name table [output] conditions]) expr
      depth := by
  refine ⟨by rw [meaning_node]; rfl, by rw [meaning_node]; rfl, ?_⟩
  intro group scope hdepth
  rw [meaning_node, List.map_singleton]
  show ((((server.meaning reading
    (relatedQuery name table [output] conditions)).results
      scope).head?.bind (fun result =>
        result.outputs.head?.map Prod.snd)).getD (.datum .null)) = _
  rw [results_relatedQuery conditions houtput]
  have hpassing := passing_relatedQuery h houtput name table hdepth
  simp only [if_true, List.head?_cons, Option.bind_some, Option.map_some,
    Option.getD_some, hpassing]
  exact hexpr scope hdepth

/-- A count means the number of rows. -/
theorem countRows :
    server.Means reading
      (.node .scalar [relatedQuery name table [.node .countRows []] conditions])
      (.countRows ⟨name, depth⟩ table conditionExprs) depth := by
  refine scalar_ h name table (meaning_node server reading _ _) ?_
  intro scope hdepth
  rw [Session.eval_countRows, List.length_map]
  rfl

/-- An aggregate means the aggregate of the rows. -/
theorem aggregate
    {operand : Sql}
    {operandExpr : SqlExpr}
    (hoperand : server.Means reading operand operandExpr (depth + 1))
    (function : AggregateFunction) :
    server.Means reading
      (.node .scalar
        [relatedQuery name table [.node (.function function) [operand]]
          conditions])
      (.aggregate ⟨name, depth⟩ table conditionExprs function operandExpr)
      depth := by
  refine scalar_ h name table (meaning_node server reading _ _) ?_
  intro scope hdepth
  rw [Session.eval_aggregate, List.map_map]
  refine congrArg (fun values => Doc.datum
    (server.engine.aggregateValue function values)) ?_
  refine List.map_congr_left fun row _ => ?_
  have hinner : (scope.enter name row).rows.length = depth + 1 := by
    simp [Scope.enter, hdepth]
  rw [Function.comp_apply, hoperand.datum hinner, ← hdepth]
  rfl

end Related

end Means

end Server

end Postgres

end Dsql
