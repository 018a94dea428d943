import Dsql.Logic.Fallible
import Dsql.Runtime.TypeScript

/-!
# Operands of the TypeScript runtime

The operands that a dynamic input appends depend on its value alone, not on the
operands that other inputs appended before it.
-/

namespace Dsql

namespace Runtime

/-- Two programs that add the same operands to any operands before them. -/
def SameOperands {α β : Type} (left : Render α) (right : Render β) : Prop :=
  ∀ before others operands count content text result other,
    left ⟨before ++ operands, before.length + count⟩ =
        .ok (content, result) →
      right ⟨others ++ operands, others.length + count⟩ = .ok (text, other) →
        ∃ added next,
          result = ⟨before ++ added, before.length + next⟩ ∧
            other = ⟨others ++ added, others.length + next⟩

section Programs

variable {α β γ δ : Type}

theorem SameOperands.pure (content : α) (text : β) :
    SameOperands (Pure.pure content : Render α) (Pure.pure text) := by
  intro before others operands count _ _ result other hresult hother
  cases hresult
  cases hother
  exact ⟨operands, count, rfl, rfl⟩

theorem SameOperands.bind
    {left : Render α}
    {right : Render β}
    {next : α → Render γ}
    {following : β → Render δ}
    (h : SameOperands left right)
    (hnext : ∀ content text, SameOperands (next content) (following text)) :
    SameOperands (left >>= next) (right >>= following) := by
  intro before others operands count _ _ result other hresult hother
  obtain ⟨⟨content, middle⟩, hmiddle, hresult⟩ := except_bind_ok hresult
  obtain ⟨⟨text, between⟩, hbetween, hother⟩ := except_bind_ok hother
  obtain ⟨added, position, rfl, rfl⟩ := h _ _ _ _ _ _ _ _ hmiddle hbetween
  exact hnext content text _ _ _ _ _ _ _ _ hresult hother

theorem SameOperands.map
    {left : Render α}
    {right : Render β}
    (h : SameOperands left right)
    (f : α → γ)
    (g : β → δ) :
    SameOperands (f <$> left) (g <$> right) := by
  rw [map_eq_pure_bind, map_eq_pure_bind]
  exact h.bind (fun content text => SameOperands.pure (f content) (g text))

/-- A program that fails adds nothing. -/
theorem SameOperands.failed
    {left : Render α}
    {right : Render β}
    (h : ∀ state result, left state ≠ .ok result) :
    SameOperands left right := by
  intro before others operands count _ _ result other hresult
  exact absurd hresult (h _ _)

/-- A check in front of two programs. -/
theorem SameOperands.lift
    {check : Except String γ}
    {next : γ → Render α}
    (h : ∀ found, SameOperands (next found) (next found)) :
    SameOperands
      ((liftM check : Render γ) >>= next) ((liftM check : Render γ) >>= next) := by
  cases check with
  | error error =>
      refine SameOperands.failed ?_
      intro state result hresult
      cases hresult
  | ok found => exact h found

end Programs

theorem mem_insertEntry
    {α : Type}
    {entry other : String × α}
    {entries : List (String × α)}
    (h : entry ∈ JsValue.insertEntry other entries) :
    entry = other ∨ entry ∈ entries := by
  induction entries with
  | nil => exact .inl (List.mem_singleton.mp h)
  | cons first rest ih =>
      rw [JsValue.insertEntry] at h
      split at h
      · exact List.mem_cons.mp h
      · rcases List.mem_cons.mp h with rfl | hrest
        · exact .inr (List.mem_cons_self ..)
        · exact (ih hrest).imp_right (List.mem_cons_of_mem first)

theorem mem_sortEntries
    {α : Type}
    {entry : String × α}
    {entries : List (String × α)}
    (h : entry ∈ JsValue.sortEntries entries) :
    entry ∈ entries := by
  induction entries with
  | nil => cases h
  | cons first rest ih =>
      rcases mem_insertEntry h with rfl | hrest
      · exact List.mem_cons_self ..
      · exact List.mem_cons_of_mem first (ih hrest)

section Rendering

variable (library : JsLibrary)
variable (fixedParameterCount : Nat)

/-- An operand is appended, or found at its position. -/
theorem dsqlDynamicParameter_same (operand : String × JsValue) :
    SameOperands (dsqlDynamicParameter fixedParameterCount operand)
      (dsqlDynamicParameter fixedParameterCount operand) := by
  intro before others operands count content text result other hresult hother
  have hget : ∀ values : List (String × JsValue),
      (values ++ operands)[values.length + count]? = operands[count]? := by
    intro values
    rw [List.getElem?_append_right (Nat.le_add_right _ _),
      Nat.add_sub_cancel_left]
  have hend : ∀ values : List (String × JsValue),
      values.length + count = (values ++ operands).length ↔
        count = operands.length := by
    intro values
    rw [List.length_append]
    omega
  simp only [dsqlDynamicParameter, hget, hend] at hresult hother
  by_cases hcount : count = operands.length
  · rw [if_pos hcount] at hresult hother
    cases hresult
    cases hother
    exact ⟨operands ++ [operand], count + 1, by
      rw [List.append_assoc, Nat.add_assoc], by
      rw [List.append_assoc, Nat.add_assoc]⟩
  · rw [if_neg hcount] at hresult hother
    split at hresult
    · next hfound =>
        rw [if_pos hfound] at hother
        cases hresult
        cases hother
        exact ⟨operands, count + 1, by rw [Nat.add_assoc], by
          rw [Nat.add_assoc]⟩
    · cases hresult

theorem renderDsqlOperator_same
    (field : DynamicInputSiteField)
    (path : String)
    (entry : String × JsValue) :
    SameOperands
      (renderDsqlOperator library fixedParameterCount field path entry)
      (renderDsqlOperator library fixedParameterCount field path entry) := by
  unfold renderDsqlOperator
  split
  · exact SameOperands.failed (fun _ _ hresult => by cases hresult)
  · split
    · split
      · exact SameOperands.pure _ _
      · exact SameOperands.failed (fun _ _ hresult => by cases hresult)
    · split
      · exact SameOperands.pure _ _
      · split
        · exact SameOperands.failed (fun _ _ hresult => by cases hresult)
        · exact (dsqlDynamicParameter_same fixedParameterCount _).bind
            (fun _ _ => SameOperands.pure _ _)

theorem renderDsqlOperators_same
    (field : DynamicInputSiteField)
    (path : String)
    (entries : List (String × JsValue)) :
    SameOperands
      (renderDsqlOperators library fixedParameterCount field path entries)
      (renderDsqlOperators library fixedParameterCount field path
        entries) := by
  induction entries with
  | nil => exact SameOperands.pure _ _
  | cons entry rest ih =>
      exact (renderDsqlOperator_same library fixedParameterCount field path
        entry).bind (fun _ _ => ih.bind (fun _ _ => SameOperands.pure _ _))

theorem runEntries_same
    (entries : List (String × Render (List String)))
    (h : ∀ entry ∈ entries, SameOperands entry.2 entry.2) :
    SameOperands (runEntries entries) (runEntries entries) := by
  induction entries with
  | nil => exact SameOperands.pure _ _
  | cons entry rest ih =>
      have hfirst := h entry (List.mem_cons_self ..)
      have hrest := ih (fun other hother =>
        h other (List.mem_cons_of_mem entry hother))
      exact hfirst.bind (fun _ _ =>
        hrest.bind (fun _ _ => SameOperands.pure _ _))

variable (input : DynamicInputMetadata)
variable (site : DynamicInputSite)

theorem renderDsqlField_same (path key : String) (item : JsValue) :
    SameOperands
      (renderDsqlField library fixedParameterCount input site path key item)
      (renderDsqlField library fixedParameterCount input site path key
        item) := by
  refine SameOperands.lift ?_
  intro field
  split
  · exact SameOperands.failed (fun _ _ hresult => by cases hresult)
  · exact renderDsqlOperators_same library fixedParameterCount field _ _

mutual

theorem renderDsqlDynamicPredicate_same (path : String) :
    ∀ value : JsValue,
      SameOperands
        (renderDsqlDynamicPredicate library fixedParameterCount input site
          path value)
        (renderDsqlDynamicPredicate library fixedParameterCount input site
          path value)
  | .object properties => by
      rw [renderDsqlDynamicPredicate]
      refine (runEntries_same _ ?_).bind (fun _ _ => SameOperands.pure _ _)
      intro entry hentry
      exact renderDsqlEntries_same path properties entry
        (mem_sortEntries hentry)
  | .undefined | .null | .boolean _ | .number _ | .string _ | .array _
  | .host _ =>
      SameOperands.failed (fun _ _ hresult => by cases hresult)

theorem renderDsqlEntries_same (path : String) :
    ∀ (properties : List (String × JsValue)),
      ∀ entry ∈ renderDsqlEntries library fixedParameterCount input site path
        properties, SameOperands entry.2 entry.2
  | [], _, h => by cases h
  | (key, item) :: rest, entry, h => by
      rw [renderDsqlEntries] at h
      rcases List.mem_cons.mp h with rfl | hrest
      · dsimp only
        split
        · exact (renderDsqlArray_same _ item).map _ _
        split
        · exact (renderDsqlArray_same _ item).map _ _
        split
        · exact (renderDsqlDynamicPredicate_same _ item).map _ _
        · exact renderDsqlField_same library fixedParameterCount input site
            path key item
      · exact renderDsqlEntries_same path rest entry hrest

theorem renderDsqlArray_same (path : String) :
    ∀ value : JsValue,
      SameOperands
        (renderDsqlArray library fixedParameterCount input site path value)
        (renderDsqlArray library fixedParameterCount input site path value)
  | .array items => by
      rw [renderDsqlArray]
      exact renderDsqlChildren_same path 0 items
  | .undefined | .null | .boolean _ | .number _ | .string _ | .object _
  | .host _ =>
      SameOperands.failed (fun _ _ hresult => by cases hresult)

theorem renderDsqlChildren_same (path : String) (index : Nat) :
    ∀ items : List JsValue,
      SameOperands
        (renderDsqlChildren library fixedParameterCount input site path index
          items)
        (renderDsqlChildren library fixedParameterCount input site path index
          items)
  | [] => by
      rw [renderDsqlChildren]
      exact SameOperands.pure _ _
  | item :: rest => by
      rw [renderDsqlChildren]
      exact (renderDsqlDynamicPredicate_same _ item).bind (fun _ _ =>
        (renderDsqlChildren_same path (index + 1) rest).bind
          (fun _ _ => SameOperands.pure _ _))

end

theorem renderDsqlSite_same (value : JsValue) :
    SameOperands
      (renderDsqlSite library fixedParameterCount input site value)
      (renderDsqlSite library fixedParameterCount input site value) := by
  unfold renderDsqlSite
  split
  · exact (renderDsqlDynamicPredicate_same library fixedParameterCount input
      site _ value).bind (fun _ _ => SameOperands.pure _ _)
  · split
    · exact SameOperands.lift (fun _ => SameOperands.pure _ _)
    · exact SameOperands.failed (fun _ _ hresult => by cases hresult)

/-- The sites of one input in two operations with the same value. -/
theorem applyDsqlSites_operands
    (value : JsValue)
    (sites : List DynamicInputSite)
    {before others operands : List (String × JsValue)}
    {expected bound : Option Nat}
    {rendered other result outcome : RenderedSql}
    (hrendered : rendered.values = before ++ operands)
    (hother : other.values = others ++ operands)
    (hresult : applyDsqlSites library fixedParameterCount input value
      before.length sites expected rendered = .ok result)
    (houtcome : applyDsqlSites library fixedParameterCount input value
      others.length sites bound other = .ok outcome) :
    ∃ added, result.values = before ++ added ∧
      outcome.values = others ++ added := by
  induction sites generalizing operands expected bound rendered other with
  | nil =>
      cases hresult
      cases houtcome
      exact ⟨operands, hrendered, hother⟩
  | cons site rest ih =>
      obtain ⟨⟨text, state⟩, hsite, hresult⟩ := except_bind_ok hresult
      obtain ⟨checked, hend, hresult⟩ := except_bind_ok hresult
      obtain ⟨sql, hsql, hresult⟩ := except_bind_ok hresult
      obtain ⟨⟨content, next⟩, hnext, houtcome⟩ := except_bind_ok houtcome
      obtain ⟨otherChecked, hotherEnd, houtcome⟩ := except_bind_ok houtcome
      obtain ⟨otherSql, hotherSql, houtcome⟩ := except_bind_ok houtcome
      rw [hrendered] at hsite
      rw [hother] at hnext
      obtain ⟨added, count, rfl, rfl⟩ :=
        renderDsqlSite_same library fixedParameterCount input site value
          before others operands 0 _ _ _ _ hsite hnext
      exact ih rfl rfl hresult houtcome

/-- The operands that one input appends. -/
theorem applyDsqlDynamicInput_operands
    {contracts : List DsqlDynamicInputContract}
    {bindings others : JsValue}
    {rendered other result outcome : RenderedSql}
    (hbindings : getDsqlPath bindings input.path =
      getDsqlPath others input.path)
    (hresult : applyDsqlDynamicInput library fixedParameterCount contracts
      bindings input rendered = .ok result)
    (houtcome : applyDsqlDynamicInput library fixedParameterCount contracts
      others input other = .ok outcome) :
    ∃ added, result.values = rendered.values ++ added ∧
      outcome.values = other.values ++ added := by
  obtain ⟨value, hvalue, hresult⟩ := except_bind_ok hresult
  obtain ⟨found, hfound, houtcome⟩ := except_bind_ok houtcome
  have hsame : dynamicInputValue contracts input bindings =
      dynamicInputValue contracts input others := by
    unfold dynamicInputValue
    rw [hbindings]
  rw [hsame, hfound] at hvalue
  cases hvalue
  split at hresult
  · cases hresult
  next hsites =>
  rw [if_neg hsites] at houtcome
  exact applyDsqlSites_operands library fixedParameterCount input value
    input.sites (List.append_nil _).symm (List.append_nil _).symm hresult
    houtcome

end Rendering

/-- The operands that each dynamic input appends in its turn. -/
inductive Appends
    (library : JsLibrary)
    (fixedParameterCount : Nat)
    (contracts : List DsqlDynamicInputContract)
    (bindings : JsValue) :
    List DynamicInputMetadata → RenderedSql → List (List JsValue) →
      RenderedSql → Prop
  | nil (rendered : RenderedSql) :
      Appends library fixedParameterCount contracts bindings [] rendered []
        rendered
  | cons
      {input : DynamicInputMetadata}
      {rest : List DynamicInputMetadata}
      {rendered middle result : RenderedSql}
      {operands : List (String × JsValue)}
      {groups : List (List JsValue)}
      (step : applyDsqlDynamicInput library fixedParameterCount contracts
        bindings input rendered = .ok middle)
      (added : middle.values = rendered.values ++ operands)
      (others : Appends library fixedParameterCount contracts bindings rest
        middle groups result) :
      Appends library fixedParameterCount contracts bindings (input :: rest)
        rendered (operands.map Prod.snd :: groups) result

/-- Every input appends its own operands, the same ones in two runs that bind
the same value to it. -/
theorem applyDsqlDynamicInputs_operands
    (library : JsLibrary)
    (fixedParameterCount : Nat)
    {contracts : List DsqlDynamicInputContract}
    {bindings others : JsValue}
    (inputs : List DynamicInputMetadata)
    {rendered other result outcome : RenderedSql}
    (hresult : applyDsqlDynamicInputs library fixedParameterCount contracts
      bindings inputs rendered = .ok result)
    (houtcome : applyDsqlDynamicInputs library fixedParameterCount contracts
      others inputs other = .ok outcome) :
    ∃ groups counterparts,
      Appends library fixedParameterCount contracts bindings inputs rendered
        groups result ∧
      Appends library fixedParameterCount contracts others inputs other
        counterparts outcome ∧
      ∀ (index : Nat) (input : DynamicInputMetadata),
        inputs[index]? = some input →
        getDsqlPath bindings input.path = getDsqlPath others input.path →
        groups[index]? = counterparts[index]? := by
  induction inputs generalizing rendered other with
  | nil =>
      cases hresult
      cases houtcome
      exact ⟨[], [], .nil _, .nil _, fun _ _ _ _ => rfl⟩
  | cons input rest ih =>
      obtain ⟨middle, hinput, hresult⟩ := except_bind_ok hresult
      obtain ⟨between, hother, houtcome⟩ := except_bind_ok houtcome
      obtain ⟨groups, counterparts, hgroups, hcounterparts, hagree⟩ :=
        ih hresult houtcome
      obtain ⟨added, hadded, -⟩ := applyDsqlDynamicInput_operands library
        fixedParameterCount input rfl hinput hinput
      obtain ⟨found, hfound, -⟩ := applyDsqlDynamicInput_operands library
        fixedParameterCount input rfl hother hother
      refine ⟨_, _, .cons hinput hadded hgroups,
        .cons hother hfound hcounterparts, ?_⟩
      intro index candidate hindex hsame
      cases index with
      | zero =>
          cases hindex
          obtain ⟨both, hboth, hbothOther⟩ :=
            applyDsqlDynamicInput_operands library fixedParameterCount input
              hsame hinput hother
          rw [hadded] at hboth
          rw [hfound] at hbothOther
          rw [List.getElem?_cons_zero, List.getElem?_cons_zero,
            List.append_cancel_left hboth,
            List.append_cancel_left hbothOther]
      | succ index => exact hagree index candidate hindex hsame

/-- The values of all inputs are their operands in order. -/
theorem Appends.values
    {library : JsLibrary}
    {fixedParameterCount : Nat}
    {contracts : List DsqlDynamicInputContract}
    {bindings : JsValue}
    {inputs : List DynamicInputMetadata}
    {rendered result : RenderedSql}
    {groups : List (List JsValue)}
    (h : Appends library fixedParameterCount contracts bindings inputs rendered
      groups result) :
    result.values.map Prod.snd =
      rendered.values.map Prod.snd ++ groups.flatten := by
  induction h with
  | nil rendered => simp
  | cons step added others ih =>
      rw [ih, added, List.map_append, List.flatten_cons, List.append_assoc]

end Runtime

end Dsql
