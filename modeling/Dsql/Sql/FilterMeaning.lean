import Dsql.Sql.Expressions
import Dsql.Sql.Filter
import Dsql.Sql.FilterNumbers

/-!
# The meaning of rendered filters

A rendered filter means its lowered form.  What a rendering hands out stays as
it is in every later template, so its value is read with the template at the
end.  All uses of one input as an operator must offer the same cases, since the
template keeps those of the first use.
-/

namespace Dsql

namespace Postgres

open Dsql.Numbering

/-! ## Renderings under the final template -/

/-- A template and a later one. -/
structure SqlTemplateContext.Before
    (before after : SqlTemplateContext) : Prop where
  parameters : before.parameters <+: after.parameters
  variants : before.variants <+: after.variants
  sites : before.dynamicSites <+: after.dynamicSites

namespace SqlTemplateContext.Before

variable {first second third : SqlTemplateContext}

theorem refl (template : SqlTemplateContext) : template.Before template :=
  ⟨List.prefix_refl _, List.prefix_refl _, List.prefix_refl _⟩

theorem trans
    (h : first.Before second)
    (h' : second.Before third) : first.Before third :=
  ⟨h.parameters.trans h'.parameters, h.variants.trans h'.variants,
    h.sites.trans h'.sites⟩

end SqlTemplateContext.Before

/-- The cases that are offered for the inputs that select an operator or a
direction. -/
abbrev OfferedCases : Type := InputPath → List SqlVariantCase

def SqlTemplateContext.Offers
    (template : SqlTemplateContext)
    (cases : OfferedCases) : Prop :=
  ∀ variant ∈ template.variants, variant.cases = cases variant.path

section Rules

variable {α β : Type} (cases : OfferedCases)

/-- A rendering whose value has a property under every later template. -/
def Yields
    (rendering : Rendering α)
    (property : SqlTemplateContext → α → Prop) : Prop :=
  ∀ before value after, before.Offers cases →
    rendering before = .ok (value, after) →
      before.Before after ∧ after.Offers cases ∧
        ∀ final, after.Before final → property final value

variable {cases}

/-- A value that needs no rendering. -/
theorem Yields.done
    {value : α}
    {property : SqlTemplateContext → α → Prop}
    (h : ∀ final, property final value) :
    Yields cases (pure value) property := by
  intro before found after hoffers hrun
  obtain ⟨rfl, rfl⟩ : value = found ∧ before = after := by
    cases hrun
    exact ⟨rfl, rfl⟩
  exact ⟨.refl before, hoffers, fun final _ => h final⟩

/-- A failure yields anything. -/
theorem Yields.fails
    (error : SqlGenerationError)
    {property : SqlTemplateContext → α → Prop} :
    Yields cases (throw error) property := by
  intro before value after hoffers hrun
  cases hrun

/-- One rendering after the other. -/
theorem Yields.bind
    {first : Rendering α}
    {second : α → Rendering β}
    {property : SqlTemplateContext → α → Prop}
    {property' : SqlTemplateContext → β → Prop}
    (hfirst : Yields cases first property)
    (hsecond : ∀ value, Yields cases (second value) (fun final result =>
      property final value → property' final result)) :
    Yields cases (first >>= second) property' := by
  intro before result after hoffers hrun
  have hsteps : (first before >>= fun found => second found.1 found.2) =
      .ok (result, after) := hrun
  obtain ⟨⟨value, middle⟩, hmiddle, hlast⟩ := except_bind_ok hsteps
  obtain ⟨hbefore, hoffered, hvalue⟩ :=
    hfirst before value middle hoffers hmiddle
  obtain ⟨hafter, hend, hresult⟩ :=
    hsecond value middle result after hoffered hlast
  exact ⟨hbefore.trans hafter, hend, fun final hfinal =>
    hresult final hfinal (hvalue final (hafter.trans hfinal))⟩

/-- What is yielded may be said less exactly. -/
theorem Yields.imp
    {rendering : Rendering α}
    {property property' : SqlTemplateContext → α → Prop}
    (h : Yields cases rendering property)
    (himp : ∀ final value, property final value → property' final value) :
    Yields cases rendering property' := by
  intro before value after hoffers hrun
  obtain ⟨hbefore, hoffered, hvalue⟩ := h before value after hoffers hrun
  exact ⟨hbefore, hoffered, fun final hfinal =>
    himp final value (hvalue final hfinal)⟩

/-- A value made of a rendered one. -/
theorem Yields.map
    {rendering : Rendering α}
    {make : α → β}
    {property : SqlTemplateContext → α → Prop}
    {property' : SqlTemplateContext → β → Prop}
    (h : Yields cases rendering property)
    (hmake : ∀ final value,
      property final value → property' final (make value)) :
    Yields cases (rendering >>= fun value => pure (make value)) property' :=
  h.bind fun value => Yields.done fun final => hmake final value

/-- Renderings of items yield results item by item. -/
theorem Yields.mapM
    {ι : Type}
    {render : ι → Rendering α}
    {property : SqlTemplateContext → ι → α → Prop}
    (items : List ι)
    (h : ∀ item ∈ items, Yields cases (render item) (fun final value =>
      property final item value)) :
    Yields cases (items.mapM render) (fun final values =>
      List.Forall₂ (property final) items values) := by
  induction items with
  | nil => exact Yields.done (fun final => .nil)
  | cons item items ih =>
      rw [List.mapM_cons]
      refine (h item List.mem_cons_self).bind fun value => ?_
      refine (ih (fun other hother =>
        h other (List.mem_cons_of_mem item hother))).map ?_
      intro final values hvalues hvalue
      exact .cons hvalue hvalues

end Rules

/-! ## Steps -/

section Steps

variable {cases : OfferedCases} (catalog : Catalog)

/-- A table that is read is the one that was asked for. -/
theorem table_bind
    {α : Type}
    {id : TableId}
    {next : Table → Rendering α}
    {property : SqlTemplateContext → α → Prop}
    (h : ∀ found, found.id = id → Yields cases (next found) property) :
    Yields cases (table catalog id >>= next) property := by
  unfold table
  cases hfound : catalog.tableById id with
  | none => exact Yields.fails _
  | some found =>
      rw [pure_bind]
      exact h found (Catalog.tableById_id hfound)

/-- A relation that is found is the one of the catalog. -/
theorem catalogRelation_bind
    {α : Type}
    {id : RelationId}
    {next : Relation → Rendering α}
    {property : SqlTemplateContext → α → Prop}
    (h : ∀ found, catalog.relationById id = some found →
      Yields cases (next found) property) :
    Yields cases (catalogRelation catalog id >>= next) property := by
  unfold catalogRelation
  cases hfound : catalog.relationById id with
  | none => exact Yields.fails _
  | some found =>
      rw [pure_bind]
      exact h found hfound

/-- A column that is found has its id. -/
theorem column_yields (id : ColumnId) :
    Yields cases (column catalog id) (fun _ column => column.id = id) := by
  unfold column
  cases hfound : catalog.columnById id with
  | none => exact Yields.fails _
  | some column =>
      exact Yields.done (fun _ => Catalog.columnById_id hfound)

theorem requirePolicyContext_yields
    (requirements : List PolicyContextRequirement) :
    Yields cases (SqlTemplateContext.requirePolicyContext requirements)
      (fun _ _ => True) := by
  intro before value after hoffers hrun
  cases hrun
  exact ⟨⟨List.prefix_refl _, List.prefix_refl _, List.prefix_refl _⟩, hoffers,
    fun _ _ => trivial⟩

/-- A placeholder names its parameter in every later template. -/
theorem parameter_yields (parameter : SqlParameter) :
    Yields cases (SqlTemplateContext.parameter parameter) (fun final sql =>
      ∃ number,
        sql = .placeholder number parameter.textCast parameter.collection ∧
          Names final.parameters number parameter.path) := by
  intro before value after hoffers hrun
  cases hrun
  refine ⟨⟨request_extends before.parameters parameter.path,
    List.prefix_refl _, List.prefix_refl _⟩, hoffers, fun final hfinal =>
      ⟨_, rfl, ?_⟩⟩
  exact (request_names before.parameters parameter.path).mono hfinal.parameters

/-- The variant of an input is the first one that was registered for it. -/
theorem variants_of_offers
    {S : Type}
    {template final : SqlTemplateContext}
    {path : InputPath}
    (hoffers : template.Offers cases)
    (hmem : template.variants.any (fun variant => variant.path == path) = true)
    (hfinal : template.variants <+: final.variants) :
    (Reading.static final : Reading S).variants path = cases path := by
  obtain ⟨rest, hrest⟩ := hfinal
  obtain ⟨found, hfound⟩ : ∃ found, template.variants.find?
      (fun variant => variant.path == path) = some found := by
    rw [← Option.isSome_iff_exists, List.find?_isSome]
    obtain ⟨variant, hvariant, hpath⟩ := List.any_eq_true.mp hmem
    exact ⟨variant, hvariant, hpath⟩
  have hpath : found.path = path := by simpa using List.find?_some hfound
  have hcases := hoffers found (List.mem_of_find?_eq_some hfound)
  show ((final.variants.find? (fun variant => variant.path == path)).map
    GeneratedSqlVariant.cases).getD [] = cases path
  rw [← hrest, List.find?_append, hfound]
  show found.cases = cases path
  rw [hcases, hpath]

/-- The variants of an input are those of the plan. -/
theorem variantWithNull_yields
    {S : Type}
    {path : InputPath}
    {variants : List SqlVariantCase}
    (hcases : variants = cases path)
    (nullText : Option String) :
    Yields cases (SqlTemplateContext.variantWithNull path variants nullText)
      (fun final _ =>
        (Reading.static final : Reading S).variants path = variants) := by
  intro before value after hoffers hrun
  obtain rfl : (if before.variants.any (fun variant => variant.path == path)
      then before
      else { before with
        variants := before.variants ++ [⟨path, variants, nullText⟩] }) =
          after := congrArg Prod.snd (Except.ok.inj hrun)
  split
  next hmem =>
    refine ⟨.refl before, hoffers, fun final hfinal => ?_⟩
    rw [hcases]
    exact variants_of_offers hoffers hmem hfinal.variants
  next =>
    have hafter : SqlTemplateContext.Offers { before with
        variants := before.variants ++ [⟨path, variants, nullText⟩] } cases := by
      intro «variant» hvariant
      rcases List.mem_append.mp hvariant with hold | hnew
      · exact hoffers _ hold
      · obtain rfl := List.mem_singleton.mp hnew
        exact hcases
    refine ⟨⟨List.prefix_refl _, List.prefix_append _ _, List.prefix_refl _⟩,
      hafter, fun final hfinal => ?_⟩
    rw [hcases]
    refine variants_of_offers hafter ?_ hfinal.variants
    simp

/-- The replaced direction has the variants of the plan. -/
theorem replaceOrderDirection_yields
    {S : Type}
    {path : InputPath}
    {variants : List SqlVariantCase}
    (hcases : variants = cases path)
    (source : Alias)
    (column : ColumnId) :
    Yields cases
      (SqlTemplateContext.replaceOrderDirection source column path variants)
      (fun final _ =>
        (Reading.static final : Reading S).variants path = variants) := by
  refine Yields.bind (variantWithNull_yields (S := S) hcases none) fun _ => ?_
  intro before value after hoffers hrun
  cases hrun
  exact ⟨⟨List.prefix_refl _, List.prefix_refl _, List.prefix_refl _⟩,
    hoffers, fun final _ hvariants => hvariants⟩

/-- A marker stands for the site that it was made for. -/
theorem dynamicSite_yields
    (path : InputPath)
    (kind : DynamicInputKind)
    (fields : List GeneratedDynamicInputSiteField) :
    Yields cases (SqlTemplateContext.dynamicSite path kind fields)
      (fun final sql => ∃ index, sql = .node (.marker index) [] ∧
        final.dynamicSites[index]? = some ⟨path, kind, fields⟩) := by
  intro before value after hoffers hrun
  cases hrun
  refine ⟨⟨List.prefix_refl _, List.prefix_refl _, List.prefix_append _ _⟩,
    hoffers, fun final hfinal => ⟨_, rfl, ?_⟩⟩
  obtain ⟨rest, hrest⟩ := hfinal.sites
  rw [← hrest, List.append_assoc, List.getElem?_append_right (Nat.le_refl _),
    Nat.sub_self]
  rfl

end Steps

/-! ## Readings of the final template -/

section Readings

variable {S : Type} [DecidableEq S] (server : Server S)

/-- A reading of a template, with its sites when markers may occur. -/
structure ReadsAs
    (final : SqlTemplateContext)
    (sites : Bool)
    (reading : Reading S) : Prop where
  parameters : reading.parameters = final.parameters
  variants : reading.variants = (Reading.static final : Reading S).variants
  markers : sites = true → reading.markers = (server.reading final).markers

/-- The server reads a statement after its rendering. -/
theorem readsAs_reading (final : SqlTemplateContext) :
    ReadsAs server final true (server.reading final) :=
  ⟨rfl, rfl, fun _ => rfl⟩

theorem readsAs_static (final : SqlTemplateContext) :
    ReadsAs server final false (.static final) :=
  ⟨rfl, rfl, nofun⟩

variable {server}

/-- What holds without sites holds with them. -/
theorem ReadsAs.static
    {final : SqlTemplateContext}
    {sites : Bool}
    {reading : Reading S}
    (h : ReadsAs server final sites reading) :
    ReadsAs server final false reading :=
  ⟨h.parameters, h.variants, nofun⟩

/-- A placeholder is read as its parameter. -/
theorem meansParameter_of_names
    {final : SqlTemplateContext}
    {sites : Bool}
    {reading : Reading S}
    (h : ReadsAs server final sites reading)
    {number : Nat}
    {parameter : SqlParameter}
    (hnames : Names final.parameters number parameter.path) :
    server.MeansParameter reading
      (.placeholder number parameter.textCast parameter.collection)
      parameter := by
  unfold Server.MeansParameter
  rw [Server.meaning, h.parameters, hnames.2]

end Readings

/-! ## Filters that can be read -/

mutual

/-- A filter that offers the same cases for one input everywhere, gives every
dynamic field an operator and holds no dynamic inputs in its policies. -/
@[grind =]
def FilterFits (cases : OfferedCases) (sites : Bool) : FilterExpr → Prop
  | .absent | .literal _ | .column _ _ | .parameter _ => True
  | .optional _ operand | .not operand | .nullTest operand _
  | .membership operand (.parameter _) _ => FilterFits cases sites operand
  | .dynamicPredicate _ _ fields =>
      sites = true ∧ ∀ field ∈ fields, field.operators ≠ []
  | .binary left _ right =>
      FilterFits cases sites left ∧ FilterFits cases sites right
  | .variantBinary left path variants right =>
      variants = cases path ∧ FilterFits cases sites left ∧
        FilterFits cases sites right
  | .membership operand (.list items) _ =>
      FilterFits cases sites operand ∧ ItemsFit cases sites items
  | .exists _ _ _ _ policyFilter fieldFilters filter =>
      OptionalFits cases false policyFilter ∧ FieldsFit cases fieldFilters ∧
        OptionalFits cases sites filter
  | .relationAggregate _ _ _ _ policyFilter fieldFilters =>
      OptionalFits cases false policyFilter ∧ FieldsFit cases fieldFilters

@[grind =]
def ItemsFit (cases : OfferedCases) (sites : Bool) : List FilterExpr → Prop
  | [] => True
  | item :: items =>
      FilterFits cases sites item ∧ ItemsFit cases sites items

@[grind =]
def OptionalFits (cases : OfferedCases) (sites : Bool) :
    Option FilterExpr → Prop
  | none => True
  | some filter => FilterFits cases sites filter

@[grind =]
def FieldsFit (cases : OfferedCases) :
    List (PolicyFieldFilter FilterExpr) → Prop
  | [] => True
  | ⟨_, filter, _⟩ :: fields =>
      FilterFits cases false filter ∧ FieldsFit cases fields

end

/-! ## Row sources -/

section Meanings

variable {S : Type} [DecidableEq S] (server : Server S)
  (cases : OfferedCases)

/-- A rendering means a lowered expression in every later template. -/
def YieldsExpr
    (sites : Bool)
    (rendering : Rendering Sql)
    (expr : SqlExpr)
    (depth : Nat) : Prop :=
  Yields cases rendering (fun final sql => ∀ reading,
    ReadsAs server final sites reading → server.Means reading sql expr depth)

/-- A row source whose guards mean the lowered ones, wherever they stand. -/
structure SqlRowView.Means
    (view : SqlRowView)
    (lowered : Dsql.SqlRowView) : Prop where
  context : view.context = lowered.context.tableAlias
  unguarded : ∀ target, view.policyFieldFilter target = none →
    ∀ depth, lowered.guard target depth = none
  guarded : ∀ target guard, view.policyFieldFilter target = some guard →
    ∀ depth, ∃ expr, lowered.guard target depth = some expr ∧
      YieldsExpr server cases false guard expr depth

structure FilterSqlScope.Means
    (scope : FilterSqlScope)
    (lowered : Dsql.FilterSqlScope) : Prop where
  current : scope.current.Means server cases lowered.current
  root : scope.root.Means server cases lowered.root
  predicateSource :
    scope.predicateSource.Means server cases lowered.predicateSource
  parent : ∀ view, scope.parent = some view →
    ∃ target, lowered.parent = some target ∧ view.Means server cases target
  noParent : scope.parent = none → lowered.parent = none

/-- A filter and its presence mean the lowered ones. -/
structure ConditionalFilter.Means
    (reading : Reading S)
    (rendered : ConditionalFilter)
    (lowered : Dsql.ConditionalFilter)
    (depth : Nat) : Prop where
  value : server.Means reading rendered.value lowered.value depth
  present : Option.Rel (fun sql expr => server.Means reading sql expr depth)
    rendered.present lowered.present

def YieldsFilter
    (sites : Bool)
    (rendering : Rendering ConditionalFilter)
    (lowered : Dsql.ConditionalFilter)
    (depth : Nat) : Prop :=
  Yields cases rendering (fun final rendered => ∀ reading,
    ReadsAs server final sites reading →
      rendered.Means server reading lowered depth)

/-- Conditions of a `where` mean the lowered ones. -/
def YieldsConditions
    (sites : Bool)
    (rendering : Rendering (List Sql))
    (lowered : List SqlExpr)
    (depth : Nat) : Prop :=
  Yields cases rendering (fun final conditions => ∀ reading,
    ReadsAs server final sites reading → List.Forall₂ (fun sql expr =>
      server.Means reading sql expr depth) conditions lowered)

variable {server cases}

/-- What holds without sites holds with them. -/
theorem YieldsExpr.static
    {rendering : Rendering Sql}
    {expr : SqlExpr}
    {depth : Nat}
    (h : YieldsExpr server cases false rendering expr depth)
    (sites : Bool) :
    YieldsExpr server cases sites rendering expr depth := by
  refine h.imp ?_
  intro final sql hmeans reading hreads
  exact hmeans reading hreads.static

theorem SqlRowView.raw_means (context : SelectionContext) :
    (SqlRowView.raw context.tableAlias).Means server cases (.raw context) :=
  ⟨rfl, fun _ _ _ => rfl, nofun⟩

namespace FilterSqlScope.Means

variable {scope : FilterSqlScope} {lowered : Dsql.FilterSqlScope}

theorem raw (context : SelectionContext) :
    (FilterSqlScope.raw context.tableAlias).Means server cases (.raw context) :=
  ⟨SqlRowView.raw_means context, SqlRowView.raw_means context,
    SqlRowView.raw_means context, nofun, fun _ => rfl⟩

/-- Every view of a scope means the planned view. -/
theorem columnSource
    (h : scope.Means server cases lowered)
    (columnScope : FilterColumnScope) :
    (scope.filterColumnSource columnScope).Means server cases
      (lowered.columnSource columnScope) := by
  cases columnScope with
  | current => exact h.current
  | root => exact h.root
  | predicateSource => exact h.predicateSource
  | parent =>
      unfold filterColumnSource Dsql.FilterSqlScope.columnSource
      cases hparent : scope.parent with
      | none =>
          rw [h.noParent hparent]
          exact h.current
      | some parent =>
          obtain ⟨target, htarget, hmeans⟩ := h.parent parent hparent
          rw [htarget]
          exact hmeans

/-- The scope of an `exists` means the planned scope. -/
theorem body
    (h : scope.Means server cases lowered)
    (kind : ExistsKind)
    {view source : SqlRowView}
    {loweredView loweredSource : Dsql.SqlRowView}
    (hview : view.Means server cases loweredView)
    (hsource : source.Means server cases loweredSource) :
    (bodyScope scope kind view source).Means server cases
      (Dsql.bodyScope lowered kind loweredView loweredSource) := by
  cases kind with
  | explicit =>
      refine ⟨hview, h.root, hview, ?_, nofun⟩
      rintro _ ⟨⟩
      exact ⟨loweredSource, rfl, hsource⟩
  | relationshipPredicate =>
      exact ⟨hview, h.root, h.predicateSource, h.parent, h.noParent⟩

end FilterSqlScope.Means

section Columns

variable (catalog : Catalog) {view : SqlRowView}
  {lowered : Dsql.SqlRowView} (depth : Nat)

/-- A bare column means that column. -/
theorem rawColumn_means
    (h : view.Means server cases lowered)
    (columnId : ColumnId) :
    YieldsExpr server cases false (rawColumn catalog view columnId)
      (.column lowered.context columnId) depth := by
  unfold rawColumn
  refine (column_yields catalog columnId).map ?_
  rintro final column rfl reading hreads
  rw [h.context]
  exact Server.Means.column lowered.context.tableAlias lowered.context.level _

/-- A guarded column means its mask. -/
theorem maskedColumnExpression_means
    (h : view.Means server cases lowered)
    (columnId : ColumnId) :
    YieldsExpr server cases false
      (maskedColumnExpression catalog view columnId)
      (lowered.maskedColumnExpression depth columnId) depth := by
  have hraw := rawColumn_means catalog depth h columnId
  unfold maskedColumnExpression Dsql.SqlRowView.maskedColumnExpression
  cases hguard : view.policyFieldFilter (.column columnId) with
  | none =>
      rw [h.unguarded _ hguard]
      exact hraw.map (fun final sql hmeans => hmeans)
  | some guard =>
      obtain ⟨expr, hexpr, hyields⟩ := h.guarded _ _ hguard depth
      rw [hexpr]
      refine Yields.bind hraw fun raw => ?_
      refine Yields.map hyields ?_
      intro final rendered hrendered hraw reading hreads
      exact (hrendered reading hreads).caseWhen (hraw reading hreads)

/-- A null test of a column stands beside its guard. -/
theorem nullTestExpr_means
    {scope : FilterSqlScope}
    {loweredScope : Dsql.FilterSqlScope}
    {sites : Bool}
    (hscope : scope.Means server cases loweredScope)
    (operand : FilterExpr)
    {rendered : Rendering Sql}
    {expr : SqlExpr}
    (h : YieldsExpr server cases sites rendered expr depth)
    (negated : Bool) :
    YieldsExpr server cases sites
      (nullTestExpr catalog scope operand rendered negated)
      (Dsql.nullTestExpr loweredScope depth operand expr negated) depth := by
  have hother : YieldsExpr server cases sites
      (rendered >>= fun operand =>
        pure (Sql.node (.isNull negated) [operand]))
      (.isNull expr negated) depth :=
    Yields.map h (fun final operand hmeans reading hreads =>
      (hmeans reading hreads).isNull negated)
  cases operand with
  | column columnScope columnId =>
      have hsource := hscope.columnSource columnScope
      have hraw := (rawColumn_means catalog depth hsource columnId).static sites
      simp only [nullTestExpr, Dsql.nullTestExpr]
      refine Yields.bind hraw fun raw => ?_
      cases hguard : (scope.filterColumnSource columnScope).policyFieldFilter
          (.column columnId) with
      | none =>
          rw [hsource.unguarded _ hguard]
          exact Yields.done (fun final hraw reading hreads =>
            (hraw reading hreads).isNull negated)
      | some guard =>
          obtain ⟨guardExpr, hguardExpr, hyields⟩ :=
            hsource.guarded _ _ hguard depth
          rw [hguardExpr]
          refine Yields.map (hyields.static sites) ?_
          intro final rendered hrendered hraw reading hreads
          exact (hrendered reading hreads).binary .and
            ((hraw reading hreads).isNull negated)
  | _ => exact hother

end Columns

end Meanings

end Postgres

end Dsql
