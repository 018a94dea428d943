import Dsql.Runtime.DynamicOperands
import Dsql.Runtime.Envelopes
import Dsql.Runtime.Placeholders

/-!
# Isolation of the trusted context

Two runs of one operation whose bindings share the trusted context give every
context parameter the same value, and two runs that share the public bindings
give every public parameter the same value.
-/

namespace Dsql

/-- A path below the trusted context. -/
def isContextPath (path : String) : Bool :=
  (Text.dropPrefix "context." path).isSome

/-- The path leads to a parameter of the operation. -/
def isParamsPath (path : String) : Bool :=
  (Text.dropPrefix "params." path).isSome

/-- The path leads to a dynamic input. -/
def isInputPath (path : String) : Bool :=
  (Text.dropPrefix "input." path).isSome

/-- A path of the public variables. -/
def isPublicPath (path : String) : Bool :=
  isParamsPath path || isInputPath path

/-- The values of one run: those of the fixed parameters in their order, then
the operands of each dynamic input. -/
structure BoundValues (α : Type) where
  fixed : List α
  operands : List (List α)

/-- All values, in the order of their placeholders. -/
def BoundValues.values {α : Type} (bound : BoundValues α) : List α :=
  bound.fixed ++ bound.operands.flatten

/-- The parameters whose paths are chosen have the same values. -/
def SameAt
    {α : Type}
    (chosen : String → Bool)
    (parameters : List String)
    (inputs : List DynamicInputMetadata)
    (left right : BoundValues α) : Prop :=
  (∀ (index : Nat) (path : String), parameters[index]? = some path →
    chosen path = true → left.fixed[index]? = right.fixed[index]?) ∧
  (∀ (index : Nat) (input : DynamicInputMetadata),
    inputs[index]? = some input → chosen input.path = true →
      left.operands[index]? = right.operands[index]?)

/-! ## The native executor -/

namespace Execute

/-- The values of a run in their places. -/
def Binds
    (library : ExecutorLibrary)
    (operation : OperationMetadata)
    (bindings : ExecutionBindings)
    (bound : BoundValues BoundParameter)
    (result : MaterializedOperation) : Prop :=
  ∃ values sql placements,
    Materialized library operation bindings values sql bound.fixed placements
      result ∧
    bound.operands = placements.map InputPlacement.operands

/-- Every context parameter carries what its path finds in the trusted
context. -/
def TakenFromContext
    (operation : OperationMetadata)
    (bindings : ExecutionBindings)
    (bound : BoundValues BoundParameter) : Prop :=
  ∀ (index : Nat) (path rest : String),
    operation.sql.parameters[index]? = some path →
    Text.dropPrefix "context." path = some rest →
      ∃ parameter, bound.fixed[index]? = some parameter ∧
        lookupPath bindings.context rest path = .ok (some parameter.value)

/-- What a client binds changes no value that comes from the trusted context. -/
def ContextIsolated
    (library : ExecutorLibrary)
    (operation : OperationMetadata) : Prop :=
  ∀ bindings others result other,
    materialize library operation bindings = .ok result →
    materialize library operation others = .ok other →
      ∃ left right,
        Binds library operation bindings left result ∧
        Binds library operation others right other ∧
        result.parameters = left.values ∧
        other.parameters = right.values ∧
        TakenFromContext operation bindings left ∧
        (bindings.context = others.context →
          SameAt isContextPath operation.sql.parameters
            operation.dynamicInputs left right) ∧
        (bindings.«variables» = others.«variables» →
          SameAt isPublicPath operation.sql.parameters
            operation.dynamicInputs left right)

section Isolation

variable {library : ExecutorLibrary}

/-- A public path does not lead into the context. -/
theorem not_isContextPath_of_isPublicPath
    {path : String}
    (h : isPublicPath path = true) :
    isContextPath path = false := by
  cases hcontext : isContextPath path with
  | false => rfl
  | true =>
      obtain ⟨below, hbelow⟩ := Option.isSome_iff_exists.mp hcontext
      have hsplit := Text.split_of_dropPrefix "context" (by decide)
        hbelow
      rcases Bool.or_eq_true_iff.mp h with hparams | hinput
      · obtain ⟨rest, hrest⟩ := Option.isSome_iff_exists.mp hparams
        rw [Text.split_of_dropPrefix "params" (by decide) hrest]
          at hsplit
        simp at hsplit
      · obtain ⟨rest, hrest⟩ := Option.isSome_iff_exists.mp hinput
        rw [Text.split_of_dropPrefix "input" (by decide) hrest]
          at hsplit
        simp at hsplit

/-- A context value does not depend on the variables. -/
theorem boundValue_context
    {field : InputField}
    {bindings others : ExecutionBindings}
    (hcontext : bindings.context = others.context)
    (hpath : isContextPath field.path = true) :
    boundValue library field bindings = boundValue library field others := by
  unfold boundValue
  obtain ⟨rest, hrest⟩ := Option.isSome_iff_exists.mp hpath
  rw [hrest, hcontext]

/-- A public value does not depend on the context. -/
theorem boundValue_public
    {field : InputField}
    {bindings others : ExecutionBindings}
    (hvariables : bindings.«variables» = others.«variables»)
    (hpath : isPublicPath field.path = true) :
    boundValue library field bindings = boundValue library field others := by
  unfold boundValue
  have hcontext := not_isContextPath_of_isPublicPath hpath
  have hnone : Text.dropPrefix "context." field.path = none :=
    Option.isNone_iff_eq_none.mp (by simpa [isContextPath] using hcontext)
  rw [hnone, hvariables]

theorem lookup_cons_congr
    {α : Type}
    {values others : List (String × α)}
    {path : String}
    (entry : String × α)
    (h : values.lookup path = others.lookup path) :
    (entry :: values).lookup path = (entry :: others).lookup path := by
  rw [List.lookup_cons, List.lookup_cons, h]

theorem lookup_cons_of_ne
    {α : Type}
    {path : String}
    (entry : String × α)
    (values : List (String × α))
    (h : path ≠ entry.1) :
    (entry :: values).lookup path = values.lookup path := by
  rw [List.lookup_cons, beq_eq_false_iff_ne.mpr h]

/-- One field adds at most its own path. -/
theorem inputValues_cons
    {bindings : ExecutionBindings}
    {field : InputField}
    {rest : List InputField}
    {values result : InputValues}
    (h : inputValues library bindings (field :: rest) values = .ok result) :
    ∃ added : Option Json,
      inputValue library field bindings = .ok added ∧
      inputValues library bindings rest
        (added.toList.map (fun value => (field.path, value)) ++ values) =
          .ok result := by
  obtain ⟨added, hadded, h⟩ := except_bind_ok h
  cases added with
  | none => exact ⟨none, hadded, h⟩
  | some value => exact ⟨some value, hadded, h⟩

/-- Fields whose values are the same at the chosen paths. -/
theorem inputValues_agree
    {chosen : String → Bool}
    {bindings others : ExecutionBindings}
    (fields : List InputField)
    {values counterparts result other : InputValues}
    (hfields : ∀ field ∈ fields, chosen field.path = true →
      boundValue library field bindings = boundValue library field others)
    (hvalues : ∀ path, chosen path = true →
      values.lookup path = counterparts.lookup path)
    (hresult : inputValues library bindings fields values = .ok result)
    (hother : inputValues library others fields counterparts = .ok other) :
    ∀ path, chosen path = true → result.lookup path = other.lookup path := by
  induction fields generalizing values counterparts with
  | nil =>
      cases hresult
      cases hother
      exact hvalues
  | cons field rest ih =>
      obtain ⟨added, hadded, hresult⟩ := inputValues_cons hresult
      obtain ⟨found, hfound, hother⟩ := inputValues_cons hother
      refine ih (fun later hlater => hfields later
        (List.mem_cons_of_mem field hlater)) ?_ hresult hother
      intro path hpath
      by_cases hsame : path = field.path
      · have hbound := hfields field (List.mem_cons_self ..) (hsame ▸ hpath)
        have hinput : inputValue library field bindings =
            inputValue library field others := by
          unfold inputValue
          rw [hbound]
        rw [hinput, hfound] at hadded
        cases hadded
        cases added with
        | none => exact hvalues path hpath
        | some value => exact lookup_cons_congr _ (hvalues path hpath)
      · have hskip : ∀ (added : Option Json) (values : InputValues),
            (added.toList.map (fun value => (field.path, value)) ++
              values).lookup path = values.lookup path := by
          intro added values
          cases added with
          | none => rfl
          | some value => exact lookup_cons_of_ne _ values hsame
        rw [hskip, hskip]
        exact hvalues path hpath

/-- The operands of a placed input are those of its value. -/
theorem InputPlaced.operands_eq
    {values others : InputValues}
    {parameters counterparts : List BoundParameter}
    {placement other : InputPlacement}
    (h : InputPlaced library values parameters placement)
    (hother : InputPlaced library others counterparts other)
    (hinput : placement.input = other.input)
    (hlookup : values.lookup placement.input.path =
      others.lookup placement.input.path) :
    placement.operands = other.operands := by
  have hvalue : placement.value = other.value := by
    have hfound := h.value
    unfold dynamicValue materializedValue at hfound
    rw [hlookup, hinput] at hfound
    have hotherFound := hother.value
    unfold dynamicValue materializedValue at hotherFound
    rw [hfound] at hotherFound
    exact Except.ok.inj hotherFound
  have hsites := h.sites
  rw [hinput, ← hother.sites] at hsites
  unfold InputPlacement.operands
  cases hfirst : placement.placed with
  | nil =>
      rw [hfirst] at hsites
      rw [List.map_eq_nil_iff.mp hsites.symm]
  | cons first rest =>
      cases hotherFirst : other.placed with
      | nil =>
          rw [hfirst, hotherFirst] at hsites
          cases hsites
      | cons otherFirst others =>
          rw [hfirst, hotherFirst, List.map_cons, List.map_cons,
            List.cons.injEq] at hsites
          have hpieces := h.pieces first (by simp [hfirst])
          rw [hinput, hvalue, hsites.1, hother.pieces otherFirst
            (by simp [hotherFirst])] at hpieces
          have hsame : otherFirst.pieces = first.pieces :=
            Except.ok.inj hpieces
          simp [hsame]

theorem BoundValues.values_of_placements
    {fixed : List BoundParameter}
    {placements : List InputPlacement} :
    (BoundValues.mk fixed (placements.map InputPlacement.operands)).values =
      fixed ++ placements.flatMap InputPlacement.operands := by
  rw [BoundValues.values, List.flatMap_def]

/-- Runs whose fields have the same values at the chosen paths. -/
theorem Materialized.sameAt
    {operation : OperationMetadata}
    {bindings others : ExecutionBindings}
    {values counterparts : InputValues}
    {sql otherSql : String}
    {fixed otherFixed : List BoundParameter}
    {placements otherPlacements : List InputPlacement}
    {result other : MaterializedOperation}
    {chosen : String → Bool}
    (h : Materialized library operation bindings values sql fixed placements
      result)
    (hother : Materialized library operation others counterparts otherSql
      otherFixed otherPlacements other)
    (hfields : ∀ field ∈ declaredFields operation,
      chosen field.path = true →
        boundValue library field bindings =
          boundValue library field others) :
    SameAt chosen operation.sql.parameters operation.dynamicInputs
      ⟨fixed, placements.map InputPlacement.operands⟩
      ⟨otherFixed, otherPlacements.map InputPlacement.operands⟩ := by
  have hvalues := inputValues_agree _ hfields (fun _ _ => rfl) h.values_eq
    hother.values_eq
  refine ⟨?_, ?_⟩
  · intro index path hpath hchosen
    obtain ⟨parameter, hparameter, hget⟩ :=
      mapM_ok_getElem? _ h.fixed_eq hpath
    obtain ⟨found, hfound, hotherGet⟩ :=
      mapM_ok_getElem? _ hother.fixed_eq hpath
    have hsame : fixedParameter (declaredFields operation) values path =
        fixedParameter (declaredFields operation) counterparts path := by
      unfold fixedParameter materializedValue
      rw [hvalues path hchosen]
    rw [hsame, hfound] at hparameter
    cases hparameter
    exact hget.trans hotherGet.symm
  · intro index input hinput hchosen
    have hplacement := hinput
    rw [← h.inputs, List.getElem?_map, Option.map_eq_some_iff] at hplacement
    obtain ⟨placement, hplacement, rfl⟩ := hplacement
    rw [← hother.inputs, List.getElem?_map, Option.map_eq_some_iff] at hinput
    obtain ⟨counterpart, hcounterpart, hsame⟩ := hinput
    have hoperands := (h.placed placement
      (List.mem_of_getElem? hplacement)).operands_eq
        (hother.placed counterpart (List.mem_of_getElem? hcounterpart))
        hsame.symm (hvalues _ hchosen)
    simp only [List.getElem?_map, hplacement, hcounterpart, Option.map_some,
      hoperands]

/-- A context value is what its path finds in the trusted context. -/
theorem inputValue_context
    {field : InputField}
    {bindings : ExecutionBindings}
    {value : Json}
    {rest : String}
    (hpath : Text.dropPrefix "context." field.path = some rest)
    (h : inputValue library field bindings = .ok (some value)) :
    lookupPath bindings.context rest field.path = .ok (some value) := by
  obtain ⟨bound, hbound, h⟩ := except_bind_ok h
  unfold boundValue at hbound
  rw [hpath] at hbound
  obtain ⟨found, hfound, hbound⟩ := except_bind_ok hbound
  cases found with
  | none => cases hbound
  | some found =>
      cases hbound
      obtain ⟨valid, -, h⟩ := except_bind_ok h
      cases h
      exact hfound

/-- Values of trusted inputs depend on the context alone. -/
theorem inputValues_context
    {bindings : ExecutionBindings}
    (fields : List InputField)
    {values result : InputValues}
    (hvalues : ∀ path rest value,
      Text.dropPrefix "context." path = some rest →
      values.lookup path = some value →
        lookupPath bindings.context rest path = .ok (some value))
    (h : inputValues library bindings fields values = .ok result) :
    ∀ path rest value,
      Text.dropPrefix "context." path = some rest →
      result.lookup path = some value →
        lookupPath bindings.context rest path = .ok (some value) := by
  induction fields generalizing values with
  | nil =>
      cases h
      exact hvalues
  | cons field others ih =>
      obtain ⟨added, hadded, h⟩ := inputValues_cons h
      refine ih ?_ h
      intro path rest value hpath hlookup
      cases added with
      | none => exact hvalues path rest value hpath hlookup
      | some found =>
          by_cases hsame : path = field.path
          · subst hsame
            have hfound : found = value := by
              simpa using hlookup
            rw [← hfound]
            exact inputValue_context hpath hadded
          · have hskip := lookup_cons_of_ne (field.path, found) values hsame
            exact hvalues path rest value hpath (hskip.symm.trans hlookup)

/-- Trusted parameters are taken from the context. -/
theorem Materialized.takenFromContext
    {operation : OperationMetadata}
    {bindings : ExecutionBindings}
    {values : InputValues}
    {sql : String}
    {fixed : List BoundParameter}
    {placements : List InputPlacement}
    {result : MaterializedOperation}
    (h : Materialized library operation bindings values sql fixed placements
      result)
    (operands : List (List BoundParameter)) :
    TakenFromContext operation bindings ⟨fixed, operands⟩ := by
  intro index path rest hpath hrest
  obtain ⟨parameter, hparameter, hget⟩ := mapM_ok_getElem? _ h.fixed_eq hpath
  refine ⟨parameter, hget, ?_⟩
  obtain ⟨field, -, hvalue⟩ := except_bind_ok hparameter
  obtain ⟨value, hvalue, hparameter⟩ := except_bind_ok hvalue
  cases hparameter
  refine inputValues_context _ (fun _ _ _ _ hnil => by cases hnil)
    h.values_eq path rest value hrest ?_
  unfold materializedValue at hvalue
  split at hvalue
  · next found hfound =>
      cases hvalue
      exact hfound
  · cases hvalue

/-- The executor keeps the trusted context apart. -/
theorem contextIsolated
    (library : ExecutorLibrary)
    (operation : OperationMetadata) :
    ContextIsolated library operation := by
  intro bindings others result other hresult hother
  obtain ⟨values, sql, fixed, placements, h⟩ := materialize_ok hresult
  obtain ⟨counterparts, otherSql, otherFixed, otherPlacements, hothers⟩ :=
    materialize_ok hother
  refine ⟨⟨fixed, placements.map InputPlacement.operands⟩,
    ⟨otherFixed, otherPlacements.map InputPlacement.operands⟩,
    ⟨values, sql, placements, h, rfl⟩,
    ⟨counterparts, otherSql, otherPlacements, hothers, rfl⟩, ?_, ?_,
    h.takenFromContext _, ?_, ?_⟩
  · rw [h.parameters, BoundValues.values_of_placements]
  · rw [hothers.parameters, BoundValues.values_of_placements]
  · intro hcontext
    exact h.sameAt hothers (fun field _ => boundValue_context hcontext)
  · intro hvariables
    exact h.sameAt hothers (fun field _ => boundValue_public hvariables)

end Isolation

end Execute

/-! ## The TypeScript runtime -/

namespace Runtime

/-- The values of a run in their places. -/
def Binds
    (library : JsLibrary)
    (payload : DsqlExecutionPayload)
    (bindings context : JsValue)
    (bound : BoundValues JsValue)
    (result : DsqlMaterializedQuery) : Prop :=
  ∃ materialized sql dynamic,
    materializeAllBindings library payload bindings context =
      .ok materialized ∧
    bound.fixed = collectDsqlParameterValues payload.parameters materialized ∧
    applyDsqlVariants materialized payload.variants payload.sql = .ok sql ∧
    Appends library payload.parameters.length payload.dynamicInputContracts
      materialized payload.dynamicInputs ⟨sql, []⟩ bound.operands dynamic ∧
    result.sql = dynamic.sql

/-- The key of the trusted context. -/
def isContextRoot (key : String) : Bool :=
  key = "context"

/-- The field is read from the trusted context. -/
def isContextField (field : DsqlInputField) : Bool :=
  isContextRoot (pathRoot field.path)

/-- Every context parameter carries what the context fields make of the
trusted context alone. -/
def TakenFromContext
    (library : JsLibrary)
    (payload : DsqlExecutionPayload)
    (context : JsValue)
    (bound : BoundValues JsValue) : Prop :=
  ∃ trusted,
    materializeDsqlBindings library .host
      (payload.contextInputs.filter isContextField)
      (.object [("context", context)]) = .ok trusted ∧
    ∀ (index : Nat) (path : String),
      payload.parameters[index]? = some path →
      isContextPath path = true →
        bound.fixed[index]? = some (getDsqlPath trusted path)

/-- What a client binds changes no value that comes from the trusted context. -/
def ContextIsolated
    (library : JsLibrary)
    (payload : DsqlExecutionPayload) : Prop :=
  ∀ bindings others context otherContext result other,
    materializeDsqlQuery library payload bindings context = .ok result →
    materializeDsqlQuery library payload others otherContext = .ok other →
      ∃ left right,
        Binds library payload bindings context left result ∧
        Binds library payload others otherContext right other ∧
        result.values = left.values ∧
        other.values = right.values ∧
        TakenFromContext library payload context left ∧
        (context = otherContext →
          SameAt isContextPath payload.parameters payload.dynamicInputs left
            right) ∧
        (bindings = others →
          SameAt isPublicPath payload.parameters payload.dynamicInputs left
            right)

section Isolation

variable {library : JsLibrary}
variable {payload : DsqlExecutionPayload}

/-- A trusted path starts at the context. -/
theorem contextPath_root
    {path : String}
    (h : isContextPath path = true) :
    path ≠ "" ∧ pathRoot path = "context" := by
  obtain ⟨rest, hrest⟩ := Option.isSome_iff_exists.mp h
  have hsplit := Text.split_of_dropPrefix "context" (by decide) hrest
  refine ⟨?_, ?_⟩
  · rintro rfl
    cases hrest
  · rw [split_eq_pathRoot, List.cons.injEq] at hsplit
    exact hsplit.1

/-- A public path starts at the parameters or the inputs. -/
theorem publicPath_root
    {path : String}
    (h : isPublicPath path = true) :
    path ≠ "" ∧ (pathRoot path = "params" ∨ pathRoot path = "input") := by
  refine ⟨?_, ?_⟩
  · rintro rfl
    cases h
  rcases Bool.or_eq_true_iff.mp h with hparams | hinput
  · obtain ⟨rest, hrest⟩ := Option.isSome_iff_exists.mp hparams
    have hsplit := Text.split_of_dropPrefix "params" (by decide) hrest
    rw [split_eq_pathRoot, List.cons.injEq] at hsplit
    exact .inl hsplit.1
  · obtain ⟨rest, hrest⟩ := Option.isSome_iff_exists.mp hinput
    have hsplit := Text.split_of_dropPrefix "input" (by decide) hrest
    rw [split_eq_pathRoot, List.cons.injEq] at hsplit
    exact .inr hsplit.1

/-- The context is set whatever the public bindings hold at its key. -/
theorem setDsqlPath_context
    {value context result : JsValue}
    (h : setDsqlPath value "context" context = .ok result) :
    ∃ properties, value = .object properties ∧
      result = .object (JsValue.define "context" context properties) := by
  cases value with
  | object properties =>
      cases h
      exact ⟨properties, rfl, rfl⟩
  | _ => cases h

/-- The bindings of a run at the context key are those that the context
fields make of the context. -/
theorem materializeAllBindings_context
    {bindings context materialized : JsValue}
    (h : materializeAllBindings library payload bindings context =
      .ok materialized) :
    ∃ trusted,
      materializeDsqlBindings library .host
        (payload.contextInputs.filter isContextField)
        (.object [("context", context)]) = .ok trusted ∧
      AgreeOn isContextRoot materialized trusted := by
  obtain ⟨ordinary, -, h⟩ := except_bind_ok h
  obtain ⟨dynamic, -, h⟩ := except_bind_ok h
  obtain ⟨withContext, hset, h⟩ := except_bind_ok h
  obtain ⟨properties, -, rfl⟩ := setDsqlPath_context hset
  have hcontexts : AgreeOn isContextRoot
      (.object (JsValue.define "context" context properties))
      (.object [("context", context)]) := by
    refine .object ?_
    intro key hkey
    rw [of_decide_eq_true hkey, own_define, if_pos rfl]
    rfl
  have hkeys : isContextRoot "" = false := by decide
  exact materializeDsqlBindings_agree payload.contextInputs hkeys hcontexts h

/-- The properties of the root that public paths go through. -/
def isPublicRoot (key : String) : Bool :=
  key = "params" || key = "input"

/-- Two runs with the same public bindings agree on them in the end. -/
theorem materializeAllBindings_public
    {bindings context otherContext materialized other : JsValue}
    (h : materializeAllBindings library payload bindings context =
      .ok materialized)
    (hother : materializeAllBindings library payload bindings otherContext =
      .ok other) :
    AgreeOn isPublicRoot materialized other := by
  obtain ⟨ordinary, hordinary, h⟩ := except_bind_ok h
  obtain ⟨dynamic, hdynamic, h⟩ := except_bind_ok h
  obtain ⟨withContext, hset, h⟩ := except_bind_ok h
  obtain ⟨otherOrdinary, hotherOrdinary, hother⟩ := except_bind_ok hother
  obtain ⟨otherDynamic, hotherDynamic, hother⟩ := except_bind_ok hother
  obtain ⟨otherWith, hotherSet, hother⟩ := except_bind_ok hother
  rw [hordinary] at hotherOrdinary
  cases hotherOrdinary
  rw [hdynamic] at hotherDynamic
  cases hotherDynamic
  obtain ⟨properties, rfl, rfl⟩ := setDsqlPath_context hset
  obtain ⟨others, hproperties, rfl⟩ := setDsqlPath_context hotherSet
  cases hproperties
  have hcontexts : AgreeOn isPublicRoot
      (.object (JsValue.define "context" otherContext properties))
      (.object (JsValue.define "context" context properties)) := by
    refine .object ?_
    intro key hkey
    have hne : "context" ≠ key := by
      rintro rfl
      cases hkey
    rw [own_define, own_define, if_neg hne, if_neg hne]
  have hkeys : isPublicRoot "" = false := by decide
  -- The public fields make the same of both objects.
  obtain ⟨trusted, htrusted, hagree⟩ :=
    materializeDsqlBindings_agree payload.contextInputs hkeys
      (AgreeOn.refl _) h
  obtain ⟨counterpart, hcounterpart, hothers⟩ :=
    materializeDsqlBindings_agree payload.contextInputs hkeys hcontexts hother
  rw [htrusted] at hcounterpart
  cases hcounterpart
  exact hagree.trans hothers.symm

/-- Two runs whose bindings agree at the roots of the chosen paths. -/
theorem sameAt_of_agreeOn
    {chosen keys : String → Bool}
    {materialized other : JsValue}
    {left right : BoundValues JsValue}
    (hagree : AgreeOn keys materialized other)
    (hpaths : ∀ path, chosen path = true →
      path ≠ "" ∧ keys (pathRoot path) = true)
    (hleft : left.fixed =
      collectDsqlParameterValues payload.parameters materialized)
    (hright : right.fixed =
      collectDsqlParameterValues payload.parameters other)
    (hoperands : ∀ (index : Nat) (input : DynamicInputMetadata),
      payload.dynamicInputs[index]? = some input →
      getDsqlPath materialized input.path = getDsqlPath other input.path →
        left.operands[index]? = right.operands[index]?) :
    SameAt chosen payload.parameters payload.dynamicInputs left right := by
  have hget : ∀ path, chosen path = true →
      getDsqlPath materialized path = getDsqlPath other path := by
    intro path hpath
    exact hagree.getDsqlPath_eq (hpaths path hpath).1 (hpaths path hpath).2
  refine ⟨?_, ?_⟩
  · intro index path hindex hchosen
    simp only [hleft, hright, collectDsqlParameterValues, List.getElem?_map,
      hindex, Option.map_some, hget path hchosen]
  · intro index input hindex hchosen
    exact hoperands index input hindex (hget input.path hchosen)

/-- The runtime keeps the trusted context apart. -/
theorem contextIsolated
    (library : JsLibrary)
    (payload : DsqlExecutionPayload) :
    ContextIsolated library payload := by
  intro bindings others context otherContext result other hresult hother
  obtain ⟨materialized, hbindings, hresult⟩ := except_bind_ok hresult
  obtain ⟨sql, hsql, hresult⟩ := except_bind_ok hresult
  obtain ⟨dynamic, hdynamic, hresult⟩ := except_bind_ok hresult
  obtain ⟨otherMaterialized, hotherBindings, hother⟩ := except_bind_ok hother
  obtain ⟨otherSql, hotherSql, hother⟩ := except_bind_ok hother
  obtain ⟨otherDynamic, hotherDynamic, hother⟩ := except_bind_ok hother
  cases hresult
  cases hother
  have hlength : ∀ bindings : JsValue,
      (collectDsqlParameterValues payload.parameters bindings).length =
        payload.parameters.length := by
    intro bindings
    rw [collectDsqlParameterValues, List.length_map]
  rw [hlength] at hdynamic hotherDynamic
  obtain ⟨groups, counterparts, hgroups, hcounterparts, hoperands⟩ :=
    applyDsqlDynamicInputs_operands _ _ _ hdynamic hotherDynamic
  obtain ⟨trusted, htrusted, hagree⟩ :=
    materializeAllBindings_context hbindings
  have hcontextPaths : ∀ path, isContextPath path = true →
      path ≠ "" ∧ isContextRoot (pathRoot path) = true := by
    intro path hpath
    obtain ⟨hne, hroot⟩ := contextPath_root hpath
    exact ⟨hne, decide_eq_true hroot⟩
  have hpublicPaths : ∀ path, isPublicPath path = true →
      path ≠ "" ∧ isPublicRoot (pathRoot path) = true := by
    intro path hpath
    obtain ⟨hne, hroot⟩ := publicPath_root hpath
    exact ⟨hne, by simpa [isPublicRoot] using hroot⟩
  refine ⟨⟨_, groups⟩, ⟨_, counterparts⟩,
    ⟨materialized, sql, dynamic, hbindings, rfl, hsql, hgroups, rfl⟩,
    ⟨otherMaterialized, otherSql, otherDynamic, hotherBindings, rfl,
      hotherSql, hcounterparts, rfl⟩, ?_, ?_, ⟨trusted, htrusted, ?_⟩, ?_,
    ?_⟩
  · rw [BoundValues.values, hgroups.values, List.map_nil, List.nil_append]
    rfl
  · rw [BoundValues.values, hcounterparts.values, List.map_nil,
      List.nil_append]
    rfl
  · intro index path hindex hpath
    obtain ⟨hne, hroot⟩ := hcontextPaths path hpath
    simp only [List.getElem?_map, hindex, Option.map_some,
      hagree.getDsqlPath_eq hne hroot]
  · rintro rfl
    obtain ⟨counterpart, hcounterpart, hothers⟩ :=
      materializeAllBindings_context hotherBindings
    rw [htrusted] at hcounterpart
    cases hcounterpart
    exact sameAt_of_agreeOn (hagree.trans hothers.symm) hcontextPaths rfl rfl
      hoperands
  · rintro rfl
    exact sameAt_of_agreeOn
      (materializeAllBindings_public hbindings hotherBindings) hpublicPaths
      rfl rfl hoperands

end Isolation

end Runtime

/-! ## Both runtimes -/

/-- No public input reaches a context parameter and no context value reaches a
public one, natively and in TypeScript. -/
theorem context_isolated :
    (∀ (library : ExecutorLibrary) (operation : OperationMetadata),
      Execute.ContextIsolated library operation) ∧
    ∀ (library : JsLibrary) (payload : DsqlExecutionPayload),
      Runtime.ContextIsolated library payload :=
  ⟨Execute.contextIsolated, Runtime.contextIsolated⟩

section TenantQuery

/-- A required text input. -/
def plainField (path : String) : InputField :=
  { path := path
    dataType := "text"
    wire := ⟨.text, none⟩
    pattern := none
    collection := none
    closedValues := []
    required := true
    nullable := false
    default := none }

/-- The rows of a tenant with a given name. -/
def tenantOperation : OperationMetadata :=
  { kind := .query
    sql := ⟨"SELECT $1, $2", ["params.name", "context.tenant"], []⟩
    params := [plainField "params.name"]
    input := []
    context := [plainField "context.tenant"]
    dynamicInputs := [] }

/-- Public variables that bring a context of their own. -/
def hostileVariables : Json :=
  .object [("params", .object [("name", .string "x")]),
    ("context", .object [("tenant", .string "other")]),
    ("context.tenant", .string "other")]

example (library : ExecutorLibrary) :
    ((Execute.materialize library tenantOperation
      ⟨hostileVariables, .object [("tenant", .string "own")]⟩).toOption.map
        (fun result => result.parameters.map (fun parameter =>
          parameter.value.asString))) = some [some "x", some "own"] := by
  rfl

/-- A required text input of the runtime. -/
def plainInput (path : String) : DsqlInputField :=
  { path := path
    dataType := "text"
    encoding := .text
    pattern := none
    collection := none
    closedValues := []
    required := true
    nullable := false
    default := none
    serialize := none }

/-- An operation with a public and a trusted parameter. -/
def tenantPayload : DsqlExecutionPayload :=
  { inputs := [plainInput "params.name"]
    dynamicInputContracts := []
    sql := "SELECT $1, $2"
    parameters := ["params.name", "context.tenant"]
    variants := []
    dynamicInputs := []
    contextInputs := [plainInput "context.tenant"] }

/-- Bindings that try to replace the trusted context. -/
def hostileBindings : JsValue :=
  .object [("params", .object [("name", .string "x")]),
    ("context", .object [("tenant", .string "other")]),
    ("__proto__", .object [("context", .null)])]

example (library : JsLibrary) :
    ((Runtime.materializeDsqlQuery library tenantPayload hostileBindings
      (.object [("tenant", .string "own")])).toOption.map
        (fun result => result.values.map JsValue.asString)) =
      some [some "x", some "own"] := by
  rfl

end TenantQuery

end Dsql
