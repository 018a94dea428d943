import Mathlib.Data.List.Basic

/-!
# Fallible programs

What a successful run of a sequence says about its steps.
-/

namespace Dsql

/-- A sequence that succeeds has succeeded in both parts. -/
theorem except_bind_ok
    {ε α β : Type}
    {first : Except ε α}
    {next : α → Except ε β}
    {result : β}
    (h : (first >>= next) = .ok result) :
    ∃ middle, first = .ok middle ∧ next middle = .ok result := by
  cases first with
  | error error => cases h
  | ok middle => exact ⟨middle, rfl, h⟩

/-- A sequence fails in its first or its second part. -/
theorem except_bind_error
    {ε α β : Type}
    {first : Except ε α}
    {next : α → Except ε β}
    {error : ε}
    (h : (first >>= next) = .error error) :
    first = .error error ∨
      ∃ middle, first = .ok middle ∧ next middle = .error error := by
  cases first with
  | error found =>
      cases h
      exact .inl rfl
  | ok middle => exact .inr ⟨middle, rfl, h⟩

/-- A mapped program that succeeds has succeeded. -/
theorem except_map_ok
    {ε α β : Type}
    {program : Except ε α}
    {f : α → β}
    {result : β}
    (h : f <$> program = .ok result) :
    ∃ middle, program = .ok middle ∧ f middle = result := by
  cases program with
  | error error => cases h
  | ok middle =>
      cases h
      exact ⟨middle, rfl, rfl⟩

/-- The error of a list of steps is the error of one of them. -/
theorem mapM_error
    {ε α β : Type}
    {f : α → Except ε β}
    (items : List α)
    {error : ε}
    (h : items.mapM f = .error error) :
    ∃ item ∈ items, f item = .error error := by
  induction items with
  | nil => cases h
  | cons first rest ih =>
      rw [List.mapM_cons] at h
      rcases except_bind_error h with hfirst | ⟨result, -, h⟩
      · exact ⟨first, List.mem_cons_self, hfirst⟩
      · rcases except_bind_error h with hrest | ⟨results, -, h⟩
        · obtain ⟨item, hitem, herror⟩ := ih hrest
          exact ⟨item, List.mem_cons_of_mem first hitem, herror⟩
        · cases h

/-- There is one result for each item. -/
theorem mapM_ok_length
    {ε α β : Type}
    {f : α → Except ε β}
    (items : List α)
    {results : List β}
    (h : items.mapM f = .ok results) :
    results.length = items.length := by
  induction items generalizing results with
  | nil =>
      cases h
      rfl
  | cons item rest ih =>
      rw [List.mapM_cons] at h
      obtain ⟨first, -, h⟩ := except_bind_ok h
      obtain ⟨others, hothers, h⟩ := except_bind_ok h
      cases h
      simp [ih hothers]

/-- The result at a position is that of the item there. -/
theorem mapM_ok_getElem?
    {ε α β : Type}
    {f : α → Except ε β}
    (items : List α)
    {results : List β}
    (h : items.mapM f = .ok results)
    {index : Nat}
    {item : α}
    (hitem : items[index]? = some item) :
    ∃ result, f item = .ok result ∧ results[index]? = some result := by
  induction items generalizing results index with
  | nil => cases hitem
  | cons first rest ih =>
      rw [List.mapM_cons] at h
      obtain ⟨result, hresult, h⟩ := except_bind_ok h
      obtain ⟨others, hothers, h⟩ := except_bind_ok h
      cases h
      cases index with
      | zero =>
          cases hitem
          exact ⟨result, hresult, rfl⟩
      | succ index => exact ih hothers hitem

/-- Every result comes from an item. -/
theorem mapM_ok_mem
    {ε α β : Type}
    {f : α → Except ε β}
    (items : List α)
    {results : List β}
    (h : items.mapM f = .ok results)
    (result : β) :
    result ∈ results ↔ ∃ item ∈ items, f item = .ok result := by
  induction items generalizing results with
  | nil =>
      cases h
      simp
  | cons first rest ih =>
      rw [List.mapM_cons] at h
      obtain ⟨found, hfound, h⟩ := except_bind_ok h
      obtain ⟨others, hothers, h⟩ := except_bind_ok h
      cases h
      rw [List.mem_cons, ih hothers]
      constructor
      · rintro (rfl | ⟨item, hitem, hresult⟩)
        · exact ⟨first, List.mem_cons_self, hfound⟩
        · exact ⟨item, List.mem_cons_of_mem first hitem, hresult⟩
      · rintro ⟨item, hitem, hresult⟩
        rcases List.mem_cons.mp hitem with rfl | hrest
        · rw [hfound] at hresult
          exact .inl (Except.ok.inj hresult).symm
        · exact .inr ⟨item, hrest, hresult⟩

/-- All items succeed when each of them does. -/
theorem mapM_ok_of_forall
    {ε α β : Type}
    {f : α → Except ε β}
    (items : List α)
    (h : ∀ item ∈ items, ∃ result, f item = .ok result) :
    ∃ results, items.mapM f = .ok results := by
  induction items with
  | nil => exact ⟨[], rfl⟩
  | cons first rest ih =>
      obtain ⟨result, hresult⟩ := h first List.mem_cons_self
      obtain ⟨results, hresults⟩ :=
        ih (fun item hitem => h item (List.mem_cons_of_mem first hitem))
      refine ⟨result :: results, ?_⟩
      rw [List.mapM_cons, hresult, hresults]
      rfl

/-- Every item has a result. -/
theorem mapM_ok_forall
    {ε α β : Type}
    {f : α → Except ε β}
    (items : List α)
    {results : List β}
    (h : items.mapM f = .ok results) :
    ∀ item ∈ items, ∃ result, f item = .ok result := by
  intro item hitem
  obtain ⟨index, hindex⟩ := List.mem_iff_getElem?.mp hitem
  obtain ⟨result, hresult, -⟩ := mapM_ok_getElem? items h hindex
  exact ⟨result, hresult⟩

/-- What every result keeps of its item, the list of results keeps. -/
theorem mapM_ok_map
    {ε α β γ : Type}
    {f : α → Except ε β}
    {before : α → γ}
    {after : β → γ}
    (hkeep : ∀ item result, f item = .ok result → after result = before item)
    (items : List α)
    {results : List β}
    (h : items.mapM f = .ok results) :
    results.map after = items.map before := by
  induction items generalizing results with
  | nil =>
      cases h
      rfl
  | cons first rest ih =>
      rw [List.mapM_cons] at h
      obtain ⟨result, hresult, h⟩ := except_bind_ok h
      obtain ⟨others, hothers, h⟩ := except_bind_ok h
      cases h
      rw [List.map_cons, List.map_cons, hkeep first result hresult, ih hothers]

/-- A list of steps that another list of steps follows. -/
theorem mapM_ok_follow
    {ε α β γ : Type}
    {f g : α → Except ε β}
    {view : β → γ}
    (items : List α)
    (h : ∀ item ∈ items, ∀ result, f item = .ok result →
      ∃ other, g item = .ok other ∧ view other = view result)
    {results : List β}
    (hresults : items.mapM f = .ok results) :
    ∃ others, items.mapM g = .ok others ∧
      others.map view = results.map view := by
  induction items generalizing results with
  | nil =>
      cases hresults
      exact ⟨[], rfl, rfl⟩
  | cons item rest ih =>
      rw [List.mapM_cons] at hresults
      obtain ⟨result, hresult, hresults⟩ := except_bind_ok hresults
      obtain ⟨later, hlater, hresults⟩ := except_bind_ok hresults
      cases hresults
      obtain ⟨other, hother, hview⟩ := h item List.mem_cons_self result hresult
      obtain ⟨others, hothers, hviews⟩ :=
        ih (fun next hnext => h next (List.mem_cons_of_mem item hnext)) hlater
      refine ⟨other :: others, ?_, ?_⟩
      · rw [List.mapM_cons, hother, hothers]
        rfl
      · rw [List.map_cons, List.map_cons, hview, hviews]

/-- Leaving out items leaves out their results. -/
theorem mapM_ok_filter
    {ε α β : Type}
    {f : α → Except ε β}
    {before : α → Bool}
    {after : β → Bool}
    (hkeep : ∀ item result, f item = .ok result → after result = before item)
    (items : List α)
    {results : List β}
    (h : items.mapM f = .ok results) :
    (items.filter before).mapM f = .ok (results.filter after) := by
  induction items generalizing results with
  | nil =>
      cases h
      rfl
  | cons item rest ih =>
      rw [List.mapM_cons] at h
      obtain ⟨result, hresult, h⟩ := except_bind_ok h
      obtain ⟨others, hothers, h⟩ := except_bind_ok h
      cases h
      rw [List.filter_cons, List.filter_cons, hkeep item result hresult]
      cases before item with
      | false => exact ih hothers
      | true =>
          rw [if_pos rfl, if_pos rfl, List.mapM_cons, hresult, ih hothers]
          rfl

/-! ## Forgetting the error -/

/-- A result is one whether errors are forgotten or not. -/
theorem toOption_eq_some
    {ε α : Type}
    {program : Except ε α}
    {result : α} :
    program.toOption = some result ↔ program = .ok result := by
  cases program with
  | error error => simp [Except.toOption]
  | ok value => simp [Except.toOption]

/-! ## Programs with a state

A program keeps the state it has reached when it fails. -/

section Stateful

variable {ε σ α β : Type}

/-- A sequence that succeeds has succeeded in both parts. -/
theorem estate_bind_ok
    {first : EStateM ε σ α}
    {next : α → EStateM ε σ β}
    {state after : σ}
    {result : β}
    (h : (first >>= next) state = .ok result after) :
    ∃ middle between, first state = .ok middle between ∧
      next middle between = .ok result after := by
  change EStateM.bind first next state = .ok result after at h
  unfold EStateM.bind at h
  split at h
  · rename_i middle between hfirst
    exact ⟨middle, between, hfirst, h⟩
  · cases h

/-- A sequence fails in its first step or in what comes after it. -/
theorem estate_bind_error
    {first : EStateM ε σ α}
    {next : α → EStateM ε σ β}
    {state after : σ}
    {error : ε}
    (h : (first >>= next) state = .error error after) :
    first state = .error error after ∨
      ∃ middle between, first state = .ok middle between ∧
        next middle between = .error error after := by
  change EStateM.bind first next state = .error error after at h
  unfold EStateM.bind at h
  split at h
  · rename_i middle between hfirst
    exact .inr ⟨middle, between, hfirst, h⟩
  · rename_i found between hfirst
    cases h
    exact .inl hfirst

/-- A loop that succeeds has succeeded at its first item. -/
theorem estate_forM_cons_ok
    {f : α → EStateM ε σ PUnit}
    {item : α}
    {rest : List α}
    {state after : σ}
    (h : (item :: rest).forM f state = .ok ⟨⟩ after) :
    ∃ between, f item state = .ok ⟨⟩ between ∧
      rest.forM f between = .ok ⟨⟩ after := by
  change (f item >>= fun _ => rest.forM f) state = .ok ⟨⟩ after at h
  obtain ⟨⟨⟩, between, hfirst, hrest⟩ := estate_bind_ok h
  exact ⟨between, hfirst, hrest⟩

theorem estate_forM_nil_ok
    {f : α → EStateM ε σ PUnit}
    {state after : σ}
    (h : ([] : List α).forM f state = .ok ⟨⟩ after) :
    after = state := by
  cases h
  rfl

/-- A run that fails has run the items before the one that failed. -/
theorem estate_forM_error
    {f : α → EStateM ε σ PUnit}
    {items : List α}
    {state after : σ}
    {error : ε}
    (h : items.forM f state = .error error after) :
    ∃ front item rest between, items = front ++ item :: rest ∧
      front.forM f state = .ok ⟨⟩ between ∧
      f item between = .error error after := by
  induction items generalizing state with
  | nil => cases h
  | cons first rest ih =>
      change (f first >>= fun _ => rest.forM f) state =
        .error error after at h
      rcases estate_bind_error h with hfirst | ⟨⟨⟩, between, hfirst, hrest⟩
      · exact ⟨[], first, rest, state, rfl, rfl, hfirst⟩
      · obtain ⟨front, item, others, last, rfl, hfront, hitem⟩ := ih hrest
        refine ⟨first :: front, item, others, last, rfl, ?_, hitem⟩
        change (f first >>= fun _ => front.forM f) state = .ok ⟨⟩ last
        change EStateM.bind (f first) (fun _ => front.forM f) state =
          .ok ⟨⟩ last
        unfold EStateM.bind
        rw [hfirst]
        exact hfront

/-- What every step keeps, a run keeps. -/
theorem estate_forM_ok
    {f : α → EStateM ε σ PUnit}
    (kept : σ → σ → Prop)
    (hrefl : ∀ state, kept state state)
    (htrans : ∀ first second third, kept first second → kept second third →
      kept first third)
    (items : List α)
    (hstep : ∀ item ∈ items, ∀ state after, f item state = .ok ⟨⟩ after →
      kept state after)
    {state after : σ}
    (h : items.forM f state = .ok ⟨⟩ after) :
    kept state after := by
  induction items generalizing state with
  | nil =>
      rw [estate_forM_nil_ok h]
      exact hrefl state
  | cons item rest ih =>
      obtain ⟨between, hfirst, hrest⟩ := estate_forM_cons_ok h
      refine htrans state between after
        (hstep item (List.mem_cons_self ..) state between hfirst)
        (ih (fun other hother =>
          hstep other (List.mem_cons_of_mem _ hother)) hrest)

end Stateful

end Dsql
