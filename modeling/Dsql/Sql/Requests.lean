import Dsql.Logic.Fallible
import Dsql.Sql.Mentions

/-!
# Requests of a rendering

A rendering extends the template: numbers that were handed out keep their
parameters, the requests follow those before them, and the texts of new sites
stand for the parameters that they mention.  The rules compose renderings step
by step.
-/

namespace Dsql

namespace Postgres

open Dsql.Numbering

/-- What a rendering adds to a template. -/
structure Extends
    (before after : SqlTemplateContext)
    (requested sited : List InputPath) : Prop where
  allotted : Allotted after.parameters after.requests
  parameters : before.parameters <+: after.parameters
  requests : ∃ asked, after.requests = before.requests ++ asked ∧
    asked.map Prod.fst = requested
  sites : ∃ sites, after.dynamicSites = before.dynamicSites ++ sites ∧
    Writes after.parameters
      (sites.flatMap GeneratedDynamicInputSite.numbers) sited

/-- A rendering with its requests, the parameters in the texts of its sites
and a property of its value under the parameters so far. -/
def Renders
    {α : Type}
    (rendering : Rendering α)
    (requested sited : List InputPath)
    (property : List InputPath → α → Prop) : Prop :=
  ∀ before value after, Allotted before.parameters before.requests →
    rendering before = .ok (value, after) →
      Extends before after requested sited ∧ property after.parameters value

/-- A rendering whose value leaves exactly the mentioned parameters. -/
def Leaves
    {α : Type}
    (rendering : Rendering α)
    (mentions : Mentions)
    (numbers : α → List Nat) : Prop :=
  Renders rendering mentions.requested mentions.sited (fun parameters value =>
    Writes parameters (numbers value) mentions.placed)

/-- A rendering around given parts, whose numbers stay in its value. -/
def Keeps
    {α : Type}
    (rendering : Rendering α)
    (kept : List Nat)
    (mentions : Mentions)
    (numbers : α → List Nat) : Prop :=
  Renders rendering mentions.requested mentions.sited (fun parameters value =>
    ∃ added, Writes parameters added mentions.placed ∧
      ∀ number, number ∈ numbers value ↔ number ∈ kept ∨ number ∈ added)

/-- Nothing has been requested. -/
theorem Extends.refl
    {template : SqlTemplateContext}
    (h : Allotted template.parameters template.requests) :
    Extends template template [] [] where
  allotted := h
  parameters := List.prefix_refl _
  requests := ⟨[], (List.append_nil _).symm, rfl⟩
  sites := ⟨[], (List.append_nil _).symm, .nil⟩

/-- Requests follow each other. -/
theorem Extends.trans
    {first second third : SqlTemplateContext}
    {requested sited requested' sited' : List InputPath}
    (h : Extends first second requested sited)
    (h' : Extends second third requested' sited') :
    Extends first third (requested ++ requested') (sited ++ sited') := by
  obtain ⟨asked, hasked, hpaths⟩ := h.requests
  obtain ⟨asked', hasked', hpaths'⟩ := h'.requests
  obtain ⟨sites, hsites, hwrites⟩ := h.sites
  obtain ⟨sites', hsites', hwrites'⟩ := h'.sites
  refine ⟨h'.allotted, h.parameters.trans h'.parameters,
    ⟨asked ++ asked', ?_, ?_⟩, ⟨sites ++ sites', ?_, ?_⟩⟩
  · rw [hasked', hasked, List.append_assoc]
  · rw [List.map_append, hpaths, hpaths']
  · rw [hsites', hsites, List.append_assoc]
  · rw [List.flatMap_append]
    exact (hwrites.mono h'.parameters).append hwrites'

section Rules

variable {α β : Type} {requested sited requested' sited' : List InputPath}

theorem Renders.pure
    {value : α}
    {property : List InputPath → α → Prop}
    (h : ∀ parameters, property parameters value) :
    Renders (pure value) [] [] property := by
  intro before found after hallotted hrun
  obtain ⟨rfl, rfl⟩ : value = found ∧ before = after := by
    cases hrun
    exact ⟨rfl, rfl⟩
  exact ⟨.refl hallotted, h before.parameters⟩

theorem Renders.throw
    {error : SqlGenerationError}
    {property : List InputPath → α → Prop} :
    Renders (throw error) requested sited property := by
  intro before value after hallotted hrun
  cases hrun

/-- The second rendering may rely on what the first one established, as far as
more parameters do not undo it. -/
theorem Renders.bind
    {first : Rendering α}
    {second : α → Rendering β}
    {property : List InputPath → α → Prop}
    {property' : List InputPath → β → Prop}
    (hfirst : Renders first requested sited property)
    (hmono : ∀ parameters more value, parameters <+: more →
      property parameters value → property more value)
    (hsecond : ∀ value, Renders (second value) requested' sited'
      (fun parameters result =>
        property parameters value → property' parameters result)) :
    Renders (first >>= second) (requested ++ requested') (sited ++ sited')
      property' := by
  intro before result after hallotted hrun
  have hsteps : (first before >>= fun found => second found.1 found.2) =
      .ok (result, after) := hrun
  obtain ⟨⟨value, middle⟩, hmiddle, hlast⟩ := except_bind_ok hsteps
  obtain ⟨hextends, hvalue⟩ := hfirst before value middle hallotted hmiddle
  obtain ⟨hrest, hproperty⟩ :=
    hsecond value middle result after hextends.allotted hlast
  exact ⟨hextends.trans hrest,
    hproperty (hmono _ _ value hrest.parameters hvalue)⟩

/-- What the first rendering leaves is known to the second. -/
theorem Leaves.bind
    {first : Rendering α}
    {second : α → Rendering β}
    {mentions : Mentions}
    {numbers : α → List Nat}
    {property : List InputPath → β → Prop}
    (hfirst : Leaves first mentions numbers)
    (hsecond : ∀ value, Renders (second value) requested sited
      (fun parameters result =>
        Writes parameters (numbers value) mentions.placed →
          property parameters result)) :
    Renders (first >>= second) (mentions.requested ++ requested)
      (mentions.sited ++ sited) property := by
  refine Renders.bind hfirst ?_ hsecond
  intro parameters more value hmore hwrites
  exact hwrites.mono hmore

/-- What the first rendering keeps is known to the second. -/
theorem Keeps.bind
    {first : Rendering α}
    {second : α → Rendering β}
    {kept : List Nat}
    {mentions : Mentions}
    {numbers : α → List Nat}
    {property : List InputPath → β → Prop}
    (hfirst : Keeps first kept mentions numbers)
    (hsecond : ∀ value, Renders (second value) requested sited
      (fun parameters result =>
        (∃ added, Writes parameters added mentions.placed ∧
          ∀ number, number ∈ numbers value ↔
            number ∈ kept ∨ number ∈ added) → property parameters result)) :
    Renders (first >>= second) (mentions.requested ++ requested)
      (mentions.sited ++ sited) property := by
  refine Renders.bind hfirst ?_ hsecond
  rintro parameters more value hmore ⟨added, hwrites, hnumbers⟩
  exact ⟨added, hwrites.mono hmore, hnumbers⟩

/-- A step that mentions nothing, such as a lookup. -/
def Silent (rendering : Rendering α) : Prop :=
  Leaves rendering .empty (fun _ => [])

/-- A silent rendering can go first. -/
theorem Silent.bind
    {first : Rendering α}
    {second : α → Rendering β}
    {property : List InputPath → β → Prop}
    (hfirst : Silent first)
    (hsecond : ∀ value, Renders (second value) requested sited property) :
    Renders (first >>= second) requested sited property := by
  refine Leaves.bind hfirst fun value => ?_
  intro before result after hallotted hrun
  obtain ⟨hextends, hproperty⟩ :=
    hsecond value before result after hallotted hrun
  exact ⟨hextends, fun _ => hproperty⟩

/-- What is rendered may be said less exactly. -/
theorem Renders.imp
    {rendering : Rendering α}
    {property property' : List InputPath → α → Prop}
    (h : Renders rendering requested sited property)
    (himp : ∀ parameters value,
      property parameters value → property' parameters value) :
    Renders rendering requested sited property' := by
  intro before value after hallotted hrun
  obtain ⟨hextends, hproperty⟩ := h before value after hallotted hrun
  exact ⟨hextends, himp _ _ hproperty⟩

/-- The sites count as a set, the requests in their order. -/
theorem Renders.congr
    {rendering : Rendering α}
    {property : List InputPath → α → Prop}
    (h : Renders rendering requested sited property)
    (hrequested : requested = requested')
    (hsited : ∀ path, path ∈ sited' ↔ path ∈ sited) :
    Renders rendering requested' sited' property := by
  intro before value after hallotted hrun
  obtain ⟨hextends, hproperty⟩ := h before value after hallotted hrun
  obtain ⟨sites, hsites, hwrites⟩ := hextends.sites
  exact ⟨{ hextends with
    requests := hrequested ▸ hextends.requests
    sites := ⟨sites, hsites, hwrites.congr (fun _ => Iff.rfl) hsited⟩ },
    hproperty⟩

/-- The items of a list are rendered one after the other. -/
theorem Leaves.mapM
    {ι : Type}
    {render : ι → Rendering α}
    {mentions : ι → Mentions}
    {numbers : α → List Nat}
    (items : List ι)
    (h : ∀ item ∈ items, Leaves (render item) (mentions item) numbers) :
    Leaves (items.mapM render) (.concat (items.map mentions))
      (fun values => values.flatMap numbers) := by
  induction items with
  | nil => exact Renders.pure (fun _ => .nil)
  | cons item items ih =>
      rw [List.mapM_cons]
      have hhead := h item List.mem_cons_self
      have htail := ih (fun other hother =>
        h other (List.mem_cons_of_mem item hother))
      refine Renders.congr (hhead.bind fun value =>
        htail.bind fun values => Renders.pure ?_) ?_ ?_
      · intro parameters hvalues hvalue
        exact hvalue.append hvalues
      · rw [List.append_nil]
        rfl
      · intro path
        rw [List.append_nil]
        rfl

end Rules

/-! ## Steps -/

theorem Silent.pure {α : Type} (value : α) :
    Silent (pure value : Rendering α) := by
  unfold Silent Leaves
  exact Renders.pure (fun _ => .nil)

theorem Silent.throw {α : Type} (error : SqlGenerationError) :
    Silent (throw error : Rendering α) := by
  unfold Silent Leaves
  exact Renders.throw

/-- A step that changes neither the parameters nor the sites. -/
theorem Silent.of_frame
    {α : Type}
    {rendering : Rendering α}
    (h : ∀ before value after, rendering before = .ok (value, after) →
      after.parameters = before.parameters ∧
        after.requests = before.requests ∧
        after.dynamicSites = before.dynamicSites) :
    Silent rendering := by
  intro before value after hallotted hrun
  obtain ⟨hparameters, hrequests, hsites⟩ := h before value after hrun
  refine ⟨⟨?_, ?_, ⟨[], ?_, rfl⟩, ⟨[], ?_, .nil⟩⟩, .nil⟩
  · rwa [hparameters, hrequests]
  · rw [hparameters]
  · rw [hrequests, List.append_nil]
  · rw [hsites, List.append_nil]

section Steps

variable (catalog : Catalog)

/-- Looking up requests nothing. -/
theorem table_silent (id : TableId) : Silent (table catalog id) := by
  unfold table
  cases catalog.tableById id with
  | none => exact Silent.throw _
  | some table => exact Silent.pure table

theorem column_silent (id : ColumnId) : Silent (column catalog id) := by
  unfold column
  cases catalog.columnById id with
  | none => exact Silent.throw _
  | some column => exact Silent.pure column

/-- Context requirements are not parameters. -/
theorem requirePolicyContext_silent
    (requirements : List PolicyContextRequirement) :
    Silent (SqlTemplateContext.requirePolicyContext requirements) := by
  refine Silent.of_frame fun before value after hrun => ?_
  cases hrun
  exact ⟨rfl, rfl, rfl⟩

/-- Variants are not parameters. -/
theorem variantWithNull_silent
    (path : InputPath)
    (cases : List SqlVariantCase)
    (nullText : Option String) :
    Silent (SqlTemplateContext.variantWithNull path cases nullText) := by
  refine Silent.of_frame fun before value after hrun => ?_
  obtain rfl : (if before.variants.any (fun variant => variant.path == path)
      then before
      else { before with
        variants := before.variants ++ [⟨path, cases, nullText⟩] }) = after :=
    congrArg Prod.snd (Except.ok.inj hrun)
  split
  · exact ⟨rfl, rfl, rfl⟩
  · exact ⟨rfl, rfl, rfl⟩

/-- Directions are not parameters. -/
theorem replaceOrderDirection_silent
    (source : Alias)
    (column : ColumnId)
    (path : InputPath)
    (cases : List SqlVariantCase) :
    Silent (SqlTemplateContext.replaceOrderDirection source column path
      cases) := by
  have hpush : Silent (modify (fun template : SqlTemplateContext =>
      { template with
        replacements := template.replacements ++ [⟨source, column, path⟩] }) :
      Rendering PUnit) := by
    refine Silent.of_frame fun before value after hrun => ?_
    cases hrun
    exact ⟨rfl, rfl, rfl⟩
  unfold SqlTemplateContext.replaceOrderDirection SqlTemplateContext.variant
  unfold Silent Leaves at hpush ⊢
  exact Silent.bind (variantWithNull_silent path cases none) fun _ => hpush

/-- A requested parameter stands where its placeholder does. -/
theorem parameter_leaves (parameter : SqlParameter) :
    Leaves (SqlTemplateContext.parameter parameter) (.parameter parameter)
      Sql.numbers := by
  intro before value after hallotted hrun
  cases hrun
  have hnames := request_names before.parameters parameter.path
  refine ⟨⟨hallotted.request parameter.path,
    request_extends before.parameters parameter.path, ⟨[_], rfl, rfl⟩,
    ⟨[], (List.append_nil _).symm, .nil⟩⟩, ?_⟩
  show Writes _ (Sql.numbers _) [parameter.path]
  rw [Sql.numbers_placeholder]
  exact .single hnames

/-- The numbers of the texts of some fields of a site. -/
def fieldNumbers (fields : List GeneratedDynamicInputSiteField) : List Nat :=
  Sql.numbersOfAll (fields.flatMap GeneratedDynamicInputSite.fieldTexts)

/-- What the fields leave goes into the texts of the site. -/
theorem dynamicSite_leaves
    {rendered : Rendering (List GeneratedDynamicInputSiteField)}
    {mentions : Mentions}
    (h : Leaves rendered mentions fieldNumbers)
    (path : InputPath)
    (kind : DynamicInputKind) :
    Leaves
      (rendered >>= fun fields =>
        SqlTemplateContext.dynamicSite path kind fields)
      (mentions.inSite true) Sql.numbers := by
  intro before value after hallotted hrun
  have hsteps : (rendered before >>= fun found =>
      SqlTemplateContext.dynamicSite path kind found.1 found.2) =
        .ok (value, after) := hrun
  obtain ⟨⟨fields, middle⟩, hmiddle, hlast⟩ := except_bind_ok hsteps
  obtain ⟨hextends, hwrites⟩ := h before fields middle hallotted hmiddle
  obtain ⟨sites, hsites, hothers⟩ := hextends.sites
  cases hlast
  refine ⟨⟨hextends.allotted, hextends.parameters, hextends.requests,
    ⟨sites ++ [⟨path, kind, fields⟩], ?_, ?_⟩⟩, ?_⟩
  · rw [hsites, List.append_assoc]
  · rw [List.flatMap_append, List.flatMap_singleton]
    exact hothers.append hwrites
  · show Writes _ (Sql.numbers _) []
    rw [Sql.numbers_node]
    exact .nil

end Steps

end Postgres

end Dsql
