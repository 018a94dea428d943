import Dsql.Logic.Fallible
import Dsql.Runtime.TypeScript

/-!
# Bindings that agree on some keys

Every lookup and every replacement by path goes through one property of the
root object.  Two root objects that agree on some keys therefore give the same
values to the fields below these keys, and fields elsewhere do not disturb the
agreement.
-/

namespace Dsql

namespace Text

theorem split_ne_nil (separator : Char) (text : String) :
    split separator text ≠ [] := by
  simp [split, List.splitOn_ne_nil]

/-- The first part of a path that starts with a name and a dot. -/
theorem split_of_dropPrefix
    (name : String)
    {path rest : String}
    (hname : '.' ∉ name.toList)
    (h : dropPrefix (name ++ ".") path = some rest) :
    split '.' path = name :: split '.' rest := by
  obtain ⟨chars, hchars, rfl⟩ := Option.map_eq_some_iff.mp h
  have hpath : path.toList = name.toList ++ '.' :: chars := by
    obtain ⟨start, hstart, hbeq⟩ := List.dropPrefix?_eq_some_iff.mp hchars
    rw [hstart, eq_of_beq hbeq]
    simp
  unfold split
  rw [hpath, List.splitOn_append_cons_self_of_not_mem hname]
  simp

end Text

namespace Runtime

/-- The property of the root object that a path goes through. -/
def pathRoot (path : String) : String :=
  (Text.split '.' path).head (Text.split_ne_nil '.' path)

theorem split_eq_pathRoot (path : String) :
    Text.split '.' path = pathRoot path :: (Text.split '.' path).tail :=
  (List.cons_head_tail (Text.split_ne_nil '.' path)).symm

/-- Plain objects with the same own properties at some keys. -/
inductive AgreeOn (keys : String → Bool) : JsValue → JsValue → Prop
  | object
      {left right : List (String × JsValue)}
      (agree : ∀ key, keys key = true →
        JsValue.own left key = JsValue.own right key) :
      AgreeOn keys (.object left) (.object right)

/-- What a replacement below a root property makes of that property. -/
def replacedChild
    (replacement : JsValue)
    (path : String)
    (rest : List String)
    (found : JsValue) : Except String JsValue :=
  match rest with
  | [] => .ok replacement
  | rest =>
      let child := if found.isUndefined then .object [] else found
      match child.envelope with
      | none => throw ("cannot materialize dsql input at " ++ path)
      | some _ => setDsqlPathParts replacement path rest child

section Properties

theorem own_define
    (key : String)
    (value : JsValue)
    (properties : List (String × JsValue))
    (other : String) :
    JsValue.own (JsValue.define key value properties) other =
      if key = other then some value else JsValue.own properties other := by
  induction properties with
  | nil =>
      by_cases h : key = other
      · simp [JsValue.define, JsValue.own, h]
      · simp [JsValue.define, JsValue.own, h]
  | cons property rest ih =>
      obtain ⟨name, found⟩ := property
      rw [JsValue.define]
      by_cases hname : name = key
      · subst hname
        by_cases h : name = other
        · simp [JsValue.own, h]
        · simp [JsValue.own, h]
      · rw [if_neg hname]
        by_cases hother : name = other
        · have hkey : key ≠ other := fun hkey => hname (hother.trans hkey.symm)
          simp [JsValue.own, hother, hkey]
        · have hrest : ∀ found properties,
              JsValue.own ((name, found) :: properties) other =
                JsValue.own properties other := by
            intro found properties
            simp [JsValue.own, hother]
          rw [hrest, ih, hrest]

theorem property_congr
    {left right : List (String × JsValue)}
    {key : String}
    (h : JsValue.own left key = JsValue.own right key) :
    JsValue.property left key = JsValue.property right key := by
  unfold JsValue.property
  rw [h]

theorem setDsqlPath_object
    (path : String)
    (replacement : JsValue)
    (properties : List (String × JsValue)) :
    setDsqlPath (.object properties) path replacement =
      (fun child => .object (JsValue.define (pathRoot path) child properties))
        <$> replacedChild replacement path (Text.split '.' path).tail
          (JsValue.property properties (pathRoot path)) := by
  unfold setDsqlPath
  conv_lhs => rw [split_eq_pathRoot]
  cases (Text.split '.' path).tail with
  | nil => rfl
  | cons part rest =>
      rw [setDsqlPathParts]
      · simp only [JsValue.envelope, replacedChild]
        generalize (if (JsValue.property properties
          (pathRoot path)).isUndefined = true then JsValue.object [] else _) =
            child
        cases child with
        | object others => exact (map_eq_pure_bind _ _).symm
        | _ => rfl
      · simp

end Properties

section Steps

variable {keys : String → Bool}
variable {left right : JsValue}

theorem AgreeOn.refl (properties : List (String × JsValue)) :
    AgreeOn keys (.object properties) (.object properties) :=
  .object (fun _ _ => rfl)

theorem AgreeOn.symm (h : AgreeOn keys left right) :
    AgreeOn keys right left := by
  cases h with
  | object agree => exact .object (fun key hkey => (agree key hkey).symm)

theorem AgreeOn.trans
    {third : JsValue}
    (h : AgreeOn keys left right)
    (hthird : AgreeOn keys right third) :
    AgreeOn keys left third := by
  cases h with
  | object agree =>
      cases hthird with
      | object others =>
          exact .object (fun key hkey =>
            (agree key hkey).trans (others key hkey))

/-- A lookup below an agreed key. -/
theorem AgreeOn.lookupDsqlPath_eq
    {path : String}
    (h : AgreeOn keys left right)
    (hpath : path ≠ "")
    (hroot : keys (pathRoot path) = true) :
    lookupDsqlPath left path = lookupDsqlPath right path := by
  cases h with
  | object agree =>
      unfold lookupDsqlPath
      rw [if_neg hpath, if_neg hpath, split_eq_pathRoot]
      simp only [lookupParts, JsValue.envelope, agree _ hroot]

theorem AgreeOn.getDsqlPath_eq
    {path : String}
    (h : AgreeOn keys left right)
    (hpath : path ≠ "")
    (hroot : keys (pathRoot path) = true) :
    getDsqlPath left path = getDsqlPath right path := by
  unfold getDsqlPath
  rw [h.lookupDsqlPath_eq hpath hroot]

/-- A replacement below an agreed key keeps the agreement. -/
theorem AgreeOn.setDsqlPath_both
    {path : String}
    {replacement result : JsValue}
    (h : AgreeOn keys left right)
    (hroot : keys (pathRoot path) = true)
    (hset : setDsqlPath left path replacement = .ok result) :
    ∃ other, setDsqlPath right path replacement = .ok other ∧
      AgreeOn keys result other := by
  cases h with
  | @object leftProperties rightProperties agree =>
      rw [setDsqlPath_object] at hset
      obtain ⟨child, hchild, rfl⟩ := except_map_ok hset
      rw [property_congr (agree _ hroot)] at hchild
      refine ⟨.object (JsValue.define (pathRoot path) child rightProperties),
        by rw [setDsqlPath_object, hchild]; rfl, .object ?_⟩
      intro key hkey
      rw [own_define, own_define, agree key hkey]

/-- A replacement elsewhere keeps the agreement. -/
theorem AgreeOn.setDsqlPath_left
    {path : String}
    {replacement result : JsValue}
    (h : AgreeOn keys left right)
    (hroot : keys (pathRoot path) = false)
    (hset : setDsqlPath left path replacement = .ok result) :
    AgreeOn keys result right := by
  cases h with
  | object agree =>
      rw [setDsqlPath_object] at hset
      obtain ⟨child, hchild, rfl⟩ := except_map_ok hset
      refine .object ?_
      intro key hkey
      rw [own_define, if_neg ?_, agree key hkey]
      rintro rfl
      rw [hkey] at hroot
      cases hroot

end Steps

/-! ## Fields -/

/-- Two bindings of one field with the same value. -/
structure AgreeingFields
    (keys : String → Bool)
    (left right : FieldBinding) : Prop where
  value : left.value = right.value
  defaulted : left.defaulted = right.defaulted
  bindings : AgreeOn keys left.bindings right.bindings

section Fields

variable {library : JsLibrary}
variable {keys : String → Bool}
variable {representation : Representation}
variable {field : DsqlInputField}
variable {left right result : JsValue}

theorem bindField_both
    {bound : FieldBinding}
    (h : AgreeOn keys left right)
    (hpath : field.path ≠ "")
    (hroot : keys (pathRoot field.path) = true)
    (hbind : bindField library field left = .ok bound) :
    ∃ other, bindField library field right = .ok other ∧
      AgreeingFields keys bound other := by
  unfold bindField at hbind ⊢
  rw [← h.lookupDsqlPath_eq hpath hroot]
  split at hbind
  · cases hbind
  · next value hfound =>
      cases hbind
      exact ⟨_, rfl, rfl, rfl, h⟩
  · split at hbind
    · cases hbind
    next htrusted =>
    rw [if_neg htrusted]
    split at hbind
    · obtain ⟨value, hvalue, hrest⟩ := except_bind_ok hbind
      obtain ⟨bindings, hset, hrest⟩ := except_bind_ok hrest
      cases hrest
      obtain ⟨other, hother, hagree⟩ := h.setDsqlPath_both hroot hset
      exact ⟨⟨value, true, other⟩, by simp only [hvalue, bind, Except.bind,
        hother], rfl, rfl, hagree⟩
    · split at hbind
      · cases hbind
      · next hoptional =>
          cases hbind
          exact ⟨⟨.undefined, false, right⟩, if_neg hoptional, rfl, rfl, h⟩

theorem bindField_left
    {bound : FieldBinding}
    (h : AgreeOn keys left right)
    (hroot : keys (pathRoot field.path) = false)
    (hbind : bindField library field left = .ok bound) :
    AgreeOn keys bound.bindings right := by
  unfold bindField at hbind
  split at hbind
  · cases hbind
  · cases hbind
    exact h
  · split at hbind
    · cases hbind
    split at hbind
    · obtain ⟨value, hvalue, hrest⟩ := except_bind_ok hbind
      obtain ⟨bindings, hset, hrest⟩ := except_bind_ok hrest
      cases hrest
      exact h.setDsqlPath_left hroot hset
    · split at hbind
      · cases hbind
      · cases hbind
        exact h

theorem serializeField_both
    {bound serialized other : FieldBinding}
    (h : AgreeingFields keys bound other)
    (hroot : keys (pathRoot field.path) = true)
    (hserialize : serializeField field representation bound =
      .ok serialized) :
    ∃ others, serializeField field representation other = .ok others ∧
      AgreeingFields keys serialized others := by
  unfold serializeField at hserialize ⊢
  split at hserialize
  · cases hserialize
    exact ⟨other, rfl, h⟩
  · rw [← h.value, ← h.defaulted]
    split at hserialize
    · next hhost =>
        obtain ⟨value, hvalue, hrest⟩ := except_bind_ok hserialize
        obtain ⟨bindings, hset, hrest⟩ := except_bind_ok hrest
        cases hrest
        obtain ⟨replaced, hreplaced, hagree⟩ :=
          h.bindings.setDsqlPath_both hroot hset
        rw [if_pos hhost]
        exact ⟨⟨value, bound.defaulted, replaced⟩, by simp only [hvalue, bind,
          Except.bind, hreplaced], rfl, rfl, hagree⟩
    · next hwire =>
        cases hserialize
        rw [if_neg hwire]
        exact ⟨other, rfl, h⟩

theorem serializeField_left
    {bound serialized : FieldBinding}
    (h : AgreeOn keys bound.bindings right)
    (hroot : keys (pathRoot field.path) = false)
    (hserialize : serializeField field representation bound =
      .ok serialized) :
    AgreeOn keys serialized.bindings right := by
  unfold serializeField at hserialize
  split at hserialize
  · cases hserialize
    exact h
  · split at hserialize
    · obtain ⟨value, hvalue, hrest⟩ := except_bind_ok hserialize
      obtain ⟨bindings, hset, hrest⟩ := except_bind_ok hrest
      cases hrest
      exact h.setDsqlPath_left hroot hset
    · cases hserialize
      exact h

theorem identityField_both
    {bound other : FieldBinding}
    (h : AgreeingFields keys bound other)
    (hroot : keys (pathRoot field.path) = true)
    (hidentity : identityField field bound = .ok result) :
    ∃ others, identityField field other = .ok others ∧
      AgreeOn keys result others := by
  unfold identityField at hidentity ⊢
  rw [← h.value]
  split at hidentity
  · next hnull =>
      rw [if_pos hnull]
      exact h.bindings.setDsqlPath_both hroot hidentity
  · next hvalue =>
      cases hidentity
      rw [if_neg hvalue]
      exact ⟨other.bindings, rfl, h.bindings⟩

theorem identityField_left
    {bound : FieldBinding}
    (h : AgreeOn keys bound.bindings right)
    (hroot : keys (pathRoot field.path) = false)
    (hidentity : identityField field bound = .ok result) :
    AgreeOn keys result right := by
  unfold identityField at hidentity
  split at hidentity
  · exact h.setDsqlPath_left hroot hidentity
  · cases hidentity
    exact h

/-- A field below an agreed key takes the same value from both. -/
theorem materializeField_both
    (h : AgreeOn keys left right)
    (hpath : field.path ≠ "")
    (hroot : keys (pathRoot field.path) = true)
    (hfield : materializeField library representation field left =
      .ok result) :
    ∃ other, materializeField library representation field right =
      .ok other ∧ AgreeOn keys result other := by
  unfold materializeField at hfield
  obtain ⟨bound, hbind, hrest⟩ := except_bind_ok hfield
  obtain ⟨checked, hnull, hrest⟩ := except_bind_ok hrest
  obtain ⟨serialized, hserialize, hrest⟩ := except_bind_ok hrest
  obtain ⟨bindings, hidentity, hrest⟩ := except_bind_ok hrest
  obtain ⟨valid, hvalid, hrest⟩ := except_bind_ok hrest
  cases hrest
  obtain ⟨otherBound, hotherBind, hbound⟩ :=
    bindField_both h hpath hroot hbind
  obtain ⟨others, hothers, hserialized⟩ :=
    serializeField_both hbound hroot hserialize
  obtain ⟨other, hother, hagree⟩ :=
    identityField_both hserialized hroot hidentity
  rw [hbound.value] at hnull
  rw [hserialized.value] at hvalid
  refine ⟨other, ?_, hagree⟩
  simp only [materializeField, bind, Except.bind, hotherBind, hnull, hothers,
    hother, hvalid]

/-- A field elsewhere keeps the agreement. -/
theorem materializeField_left
    (h : AgreeOn keys left right)
    (hroot : keys (pathRoot field.path) = false)
    (hfield : materializeField library representation field left =
      .ok result) :
    AgreeOn keys result right := by
  unfold materializeField at hfield
  obtain ⟨bound, hbind, hrest⟩ := except_bind_ok hfield
  obtain ⟨checked, hnull, hrest⟩ := except_bind_ok hrest
  obtain ⟨serialized, hserialize, hrest⟩ := except_bind_ok hrest
  obtain ⟨bindings, hidentity, hrest⟩ := except_bind_ok hrest
  obtain ⟨valid, hvalid, hrest⟩ := except_bind_ok hrest
  cases hrest
  have hbound := bindField_left h hroot hbind
  have hserialized := serializeField_left hbound hroot hserialize
  exact identityField_left hserialized hroot hidentity

/-- What fields make of the agreed keys, the fields below these keys make of
any bindings that agree. -/
theorem materializeDsqlBindings_agree
    (fields : List DsqlInputField)
    {left right result : JsValue}
    (hkeys : keys "" = false)
    (h : AgreeOn keys left right)
    (hfields : materializeDsqlBindings library representation fields left =
      .ok result) :
    ∃ other,
      materializeDsqlBindings library representation
        (fields.filter (fun field => keys (pathRoot field.path))) right =
          .ok other ∧
      AgreeOn keys result other := by
  induction fields generalizing left right with
  | nil =>
      cases hfields
      exact ⟨right, rfl, h⟩
  | cons field rest ih =>
      rw [materializeDsqlBindings] at hfields
      obtain ⟨bindings, hfield, hrest⟩ := except_bind_ok hfields
      cases hroot : keys (pathRoot field.path) with
      | false =>
          obtain ⟨other, hother, hagree⟩ :=
            ih (materializeField_left h hroot hfield) hrest
          refine ⟨other, ?_, hagree⟩
          rw [List.filter_cons_of_neg (by simp [hroot])]
          exact hother
      | true =>
          have hpath : field.path ≠ "" := by
            intro hempty
            have hroot' : pathRoot field.path = "" := by
              rw [hempty]
              rfl
            rw [hroot', hkeys] at hroot
            cases hroot
          obtain ⟨middle, hmiddle, hagree⟩ :=
            materializeField_both h hpath hroot hfield
          obtain ⟨other, hother, hothers⟩ := ih hagree hrest
          refine ⟨other, ?_, hothers⟩
          rw [List.filter_cons_of_pos (by simp [hroot]),
            materializeDsqlBindings, hmiddle]
          exact hother

end Fields

end Runtime

end Dsql
