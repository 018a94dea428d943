import Mathlib.Tactic

/-!
# Memoized resolution with in-progress marks

Every entry of a table refers to at most one other entry, and its value is
built from the value of that entry.  The resolver marks an entry while it
works on the entry it refers to, so a reference back to a marked entry is
reported as a cycle.  Resolution of a whole table succeeds exactly when every
entry has a value by plain recursion, and then yields those values.
-/

namespace Dsql

inductive Mark (V : Type) where
  | pending
  | resolving
  | resolved (value : V)
deriving DecidableEq, Repr

def Mark.value? {V : Type} : Mark V → Option V
  | .resolved value => some value
  | .pending => none
  | .resolving => none

def Mark.isPending {V : Type} : Mark V → Bool
  | .pending => true
  | .resolving => false
  | .resolved _ => false

/-- How the entries of a table refer to each other.  `plan` runs before the
related entry is resolved and names it, `build` runs afterwards. -/
structure Resolver (E V : Type) where
  size : Nat
  plan : Nat → Except E (Option Nat)
  build : Nat → Option V → Except E V
  cyclic : Nat → E
  invalid : Nat → E

namespace Resolver

variable {E V : Type} (resolver : Resolver E V)

def valueAt (marks : List (Mark V)) (index : Nat) : Option V :=
  marks[index]?.bind Mark.value?

def finish
    (marks : List (Mark V))
    (index : Nat)
    (related : Option V) : Except E (List (Mark V)) := do
  let value ← resolver.build index related
  .ok (marks.set index (.resolved value))

/-- Resolves one entry and every entry it leads to.  A call spends one unit of
fuel for each entry it marks. -/
def resolve : Nat → List (Mark V) → Nat → Except E (List (Mark V))
  | 0, _, index => .error (resolver.invalid index)
  | fuel + 1, marks, index =>
      match marks[index]? with
      | none => .error (resolver.invalid index)
      | some (.resolved _) => .ok marks
      | some .resolving => .error (resolver.cyclic index)
      | some .pending =>
          match resolver.plan index with
          | .error error => .error error
          | .ok none => resolver.finish (marks.set index .resolving) index none
          | .ok (some next) =>
              match resolve fuel (marks.set index .resolving) next with
              | .error error => .error error
              | .ok marks => resolver.finish marks index (valueAt marks next)

def resolveAllWith (fuel : Nat) : Except E (List (Mark V)) :=
  (List.range resolver.size).foldlM
    (fun marks index => resolver.resolve fuel marks index)
    (List.replicate resolver.size .pending)

/-- Resolves the whole table; the recursion marks each entry at most once. -/
def resolveAll : Except E (List (Mark V)) :=
  resolver.resolveAllWith (resolver.size + 1)

/-! ## Plain recursion -/

/-- The value of an entry by plain recursion through `depth` references. -/
inductive Denotes : Nat → Nat → V → Prop where
  | leaf {index : Nat} {value : V} :
      index < resolver.size →
      resolver.plan index = .ok none →
      resolver.build index none = .ok value →
      Denotes 0 index value
  | step {depth index next : Nat} {related value : V} :
      index < resolver.size →
      resolver.plan index = .ok (some next) →
      Denotes depth next related →
      resolver.build index (some related) = .ok value →
      Denotes (depth + 1) index value

variable {resolver}

theorem Denotes.lt_size
    {depth index : Nat}
    {value : V}
    (h : resolver.Denotes depth index value) :
    index < resolver.size := by
  cases h with
  | leaf hlt _ _ => exact hlt
  | step hlt _ _ _ => exact hlt

/-- An index denotes one value, at one depth. -/
theorem Denotes.unique
    {depth depth' index : Nat}
    {value value' : V}
    (h : resolver.Denotes depth index value)
    (h' : resolver.Denotes depth' index value') :
    depth = depth' ∧ value = value' := by
  induction h generalizing depth' value' with
  | leaf _ hplan hbuild =>
      cases h' with
      | leaf _ _ hbuild' =>
          rw [hbuild] at hbuild'
          exact ⟨rfl, Except.ok.inj hbuild'⟩
      | step _ hplan' _ _ =>
          rw [hplan] at hplan'
          cases hplan'
  | step _ hplan _ hbuild ih =>
      cases h' with
      | leaf _ hplan' _ =>
          rw [hplan] at hplan'
          cases hplan'
      | step _ hplan' hrelated' hbuild' =>
          rw [hplan] at hplan'
          cases hplan'
          obtain ⟨hdepth, hvalue⟩ := ih hrelated'
          subst hvalue
          rw [hbuild] at hbuild'
          exact ⟨by omega, Except.ok.inj hbuild'⟩

/-! ## Soundness -/

/-- Resolved marks hold values of plain recursion. -/
def Sound (resolver : Resolver E V) (marks : List (Mark V)) : Prop :=
  marks.length = resolver.size ∧
    ∀ (index : Nat) (value : V), marks[index]? = some (.resolved value) →
      ∃ depth, resolver.Denotes depth index value

/-- Starting an index keeps the marks sound. -/
theorem Sound.set_resolving
    {marks : List (Mark V)}
    (h : resolver.Sound marks)
    (index : Nat) :
    resolver.Sound (marks.set index .resolving) := by
  refine ⟨by rw [List.length_set]; exact h.1, ?_⟩
  intro other value hother
  rw [List.getElem?_set] at hother
  split_ifs at hother with heq hlt
  · cases hother
  · exact h.2 other value hother

/-- A value that the index denotes keeps the marks sound. -/
theorem Sound.set_resolved
    {marks : List (Mark V)}
    (h : resolver.Sound marks)
    {depth index : Nat}
    {value : V}
    (hvalue : resolver.Denotes depth index value) :
    resolver.Sound (marks.set index (.resolved value)) := by
  refine ⟨by rw [List.length_set]; exact h.1, ?_⟩
  intro other found hother
  rw [List.getElem?_set] at hother
  split_ifs at hother with heq hlt
  · cases hother
    exact ⟨depth, heq ▸ hvalue⟩
  · exact h.2 other found hother

theorem valueAt_eq_some
    {marks : List (Mark V)}
    {index : Nat}
    {value : V} :
    valueAt marks index = some value ↔
      marks[index]? = some (.resolved value) := by
  unfold valueAt
  cases hmark : marks[index]? with
  | none => simp
  | some mark =>
      cases mark with
      | pending => simp [Mark.value?]
      | resolving => simp [Mark.value?]
      | resolved found => simp [Mark.value?]

/-- An index is finished with the value that is built for it. -/
theorem finish_eq_ok
    {marks next : List (Mark V)}
    {index : Nat}
    {related : Option V} :
    resolver.finish marks index related = .ok next ↔
      ∃ value, resolver.build index related = .ok value ∧
        next = marks.set index (.resolved value) := by
  unfold finish
  cases resolver.build index related with
  | error error =>
      constructor
      · intro h
        cases h
      · rintro ⟨value, hvalue, -⟩
        cases hvalue
  | ok value =>
      constructor
      · intro h
        exact ⟨value, rfl, (Except.ok.inj h).symm⟩
      · rintro ⟨_, hvalue, rfl⟩
        cases hvalue
        rfl

/-- A call that returns leaves sound marks and a value for its entry. -/
theorem resolve_sound
    (fuel : Nat)
    {marks next : List (Mark V)}
    {index : Nat}
    (hsound : resolver.Sound marks)
    (hrun : resolver.resolve fuel marks index = .ok next) :
    resolver.Sound next ∧ ∃ value, next[index]? = some (.resolved value) := by
  induction fuel generalizing marks next index with
  | zero => cases hrun
  | succ fuel ih =>
      unfold resolve at hrun
      cases hmark : marks[index]? with
      | none =>
          rw [hmark] at hrun
          cases hrun
      | some mark =>
          have hlt : index < marks.length := (List.getElem?_eq_some_iff.mp hmark).1
          have hsize : index < resolver.size := hsound.1 ▸ hlt
          rw [hmark] at hrun
          cases mark with
          | resolved value =>
              cases hrun
              exact ⟨hsound, value, hmark⟩
          | resolving => cases hrun
          | pending =>
              have hmarked := hsound.set_resolving index
              cases hplan : resolver.plan index with
              | error error =>
                  rw [hplan] at hrun
                  cases hrun
              | ok related =>
                  rw [hplan] at hrun
                  cases related with
                  | none =>
                      obtain ⟨value, hbuild, rfl⟩ := finish_eq_ok.mp hrun
                      refine ⟨hmarked.set_resolved (.leaf hsize hplan hbuild), value, ?_⟩
                      rw [List.getElem?_set_self (by rw [List.length_set]; exact hlt)]
                  | some other =>
                      cases hrest :
                          resolver.resolve fuel (marks.set index .resolving) other with
                      | error error =>
                          simp only [hrest] at hrun
                          cases hrun
                      | ok middle =>
                          simp only [hrest] at hrun
                          obtain ⟨hmiddle, found, hfound⟩ := ih hmarked hrest
                          obtain ⟨value, hbuild, rfl⟩ := finish_eq_ok.mp hrun
                          obtain ⟨depth, hdenotes⟩ := hmiddle.2 other found hfound
                          rw [valueAt_eq_some.mpr hfound] at hbuild
                          refine ⟨hmiddle.set_resolved
                            (.step hsize hplan hdenotes hbuild), value, ?_⟩
                          rw [List.getElem?_set_self (hmiddle.1 ▸ hsize)]

/-! ## Termination -/

def pendingCount (marks : List (Mark V)) : Nat :=
  marks.countP Mark.isPending

/-- Starting an index leaves fewer pending. -/
theorem pendingCount_set_resolving
    {marks : List (Mark V)}
    {index : Nat}
    (hpending : marks[index]? = some Mark.pending) :
    pendingCount (marks.set index .resolving) < pendingCount marks := by
  induction marks generalizing index with
  | nil => cases hpending
  | cons mark rest ih =>
      cases index with
      | zero =>
          cases hpending
          simp [pendingCount, List.countP_cons, Mark.isPending]
      | succ index =>
          have hrest := ih hpending
          unfold pendingCount at hrest ⊢
          rw [List.set_cons_succ, List.countP_cons, List.countP_cons]
          omega

/-- A call marks a pending entry before it calls itself, so more fuel than
pending entries changes nothing. -/
theorem resolve_eq_of_pending_lt
    (fuel : Nat)
    {more : Nat}
    {marks : List (Mark V)}
    {index : Nat}
    (hfuel : pendingCount marks < fuel)
    (hmore : fuel ≤ more) :
    resolver.resolve more marks index = resolver.resolve fuel marks index := by
  induction fuel generalizing more marks index with
  | zero => omega
  | succ fuel ih =>
      obtain ⟨more, rfl⟩ :=
        Nat.exists_eq_succ_of_ne_zero (Nat.ne_zero_of_lt hmore)
      cases hmark : marks[index]? with
      | none => simp only [resolve, hmark]
      | some mark =>
          cases mark with
          | resolved value => simp only [resolve, hmark]
          | resolving => simp only [resolve, hmark]
          | pending =>
              have hcount := pendingCount_set_resolving hmark
              cases hplan : resolver.plan index with
              | error error => simp only [resolve, hmark, hplan]
              | ok related =>
                  cases related with
                  | none => simp only [resolve, hmark, hplan]
                  | some next =>
                      have hrest := @ih more (marks.set index .resolving) next
                        (by omega) (by omega)
                      simp only [resolve, hmark, hplan, hrest]

theorem pendingCount_le_size
    {marks : List (Mark V)}
    (hsound : resolver.Sound marks) :
    pendingCount marks ≤ resolver.size :=
  hsound.1 ▸ List.countP_le_length

/-- With enough fuel more fuel changes nothing. -/
theorem foldlM_resolve_fuel
    (entries : List Nat)
    {fuel : Nat}
    (hfuel : resolver.size < fuel)
    {marks : List (Mark V)}
    (hsound : resolver.Sound marks) :
    entries.foldlM (fun marks index => resolver.resolve fuel marks index) marks =
      entries.foldlM (fun marks index =>
        resolver.resolve (resolver.size + 1) marks index) marks := by
  induction entries generalizing marks with
  | nil => rfl
  | cons index rest ih =>
      have hcount := pendingCount_le_size hsound
      have hstep : resolver.resolve fuel marks index =
          resolver.resolve (resolver.size + 1) marks index :=
        resolve_eq_of_pending_lt _ (by omega) (by omega)
      rw [List.foldlM_cons, List.foldlM_cons, hstep]
      cases hrun : resolver.resolve (resolver.size + 1) marks index with
      | error error => rfl
      | ok next => exact ih (resolve_sound _ hsound hrun).1

/-! ## Progress -/

/-- The entries that an entry leads to, itself included. -/
theorem Denotes.chain
    {depth index : Nat}
    {value : V}
    (h : resolver.Denotes depth index value) :
    ∃ chain : List Nat, chain.length = depth + 1 ∧ chain.Nodup ∧
      ∀ entry ∈ chain, ∃ (further : Nat) (found : V),
        further ≤ depth ∧ resolver.Denotes further entry found := by
  induction h with
  | @leaf index value hlt hplan hbuild =>
      refine ⟨[index], rfl, List.nodup_singleton index, ?_⟩
      intro entry hentry
      rw [List.mem_singleton] at hentry
      subst hentry
      exact ⟨0, value, le_refl 0, .leaf hlt hplan hbuild⟩
  | @step depth index next related value hlt hplan hrelated hbuild ih =>
      obtain ⟨chain, hlength, hnodup, hchain⟩ := ih
      have hdenotes : resolver.Denotes (depth + 1) index value :=
        .step hlt hplan hrelated hbuild
      have hfresh : index ∉ chain := by
        intro hmem
        obtain ⟨further, found, hle, hfound⟩ := hchain index hmem
        have := (hdenotes.unique hfound).1
        omega
      refine ⟨index :: chain, by simp [hlength],
        List.nodup_cons.mpr ⟨hfresh, hnodup⟩, ?_⟩
      intro entry hentry
      obtain rfl | hentry := List.mem_cons.mp hentry
      · exact ⟨depth + 1, value, le_refl _, hdenotes⟩
      · obtain ⟨further, found, hle, hfound⟩ := hchain entry hentry
        exact ⟨further, found, by omega, hfound⟩

/-- References never lead through more entries than there are. -/
theorem Denotes.depth_lt_size
    {depth index : Nat}
    {value : V}
    (h : resolver.Denotes depth index value) :
    depth < resolver.size := by
  obtain ⟨chain, hlength, hnodup, hchain⟩ := h.chain
  have hsubset : chain ⊆ List.range resolver.size := by
    intro entry hentry
    obtain ⟨further, found, -, hfound⟩ := hchain entry hentry
    exact List.mem_range.mpr hfound.lt_size
  have hle := (hnodup.subperm hsubset).length_le
  rw [List.length_range] at hle
  omega

/-- Every entry in progress leads further than `depth` references. -/
def Clear (resolver : Resolver E V) (marks : List (Mark V)) (depth : Nat) : Prop :=
  ∀ (index other : Nat) (value : V), marks[index]? = some .resolving →
    resolver.Denotes other index value → depth < other

/-- Resolved entries stay resolved and no entry stays in progress that was not
before. -/
structure Grows (marks next : List (Mark V)) : Prop where
  kept : ∀ (index : Nat) (value : V), marks[index]? = some (.resolved value) →
    next[index]? = some (.resolved value)
  settled : ∀ index : Nat, next[index]? = some Mark.resolving →
    marks[index]? = some Mark.resolving

theorem Grows.refl (marks : List (Mark V)) : Grows marks marks :=
  ⟨fun _ _ h => h, fun _ h => h⟩

/-- Values stay. -/
theorem Grows.trans
    {marks middle next : List (Mark V)}
    (h : Grows marks middle)
    (h' : Grows middle next) :
    Grows marks next :=
  ⟨fun index value hvalue => h'.kept index value (h.kept index value hvalue),
    fun index hmark => h.settled index (h'.settled index hmark)⟩

/-- Work on a pending entry ends with the entry resolved. -/
theorem Grows.of_pending
    {marks middle : List (Mark V)}
    {index : Nat}
    (value : V)
    (hpending : marks[index]? = some Mark.pending)
    (h : Grows (marks.set index .resolving) middle) :
    Grows marks (middle.set index (.resolved value)) := by
  constructor
  · intro other held hheld
    by_cases heq : index = other
    · subst heq
      rw [hpending] at hheld
      cases hheld
    · rw [List.getElem?_set_ne heq]
      apply h.kept
      rw [List.getElem?_set_ne heq]
      exact hheld
  · intro other hother
    by_cases heq : index = other
    · subst heq
      rw [List.getElem?_set_self'] at hother
      cases hheld : middle[index]? with
      | none =>
          rw [hheld] at hother
          cases hother
      | some mark =>
          rw [hheld] at hother
          cases hother
    · rw [List.getElem?_set_ne heq] at hother
      have hother := h.settled other hother
      rw [List.getElem?_set_ne heq] at hother
      exact hother

/-- Starting an index leaves the deeper ones clear. -/
theorem Clear.set_resolving
    {marks : List (Mark V)}
    {depth index : Nat}
    {value : V}
    (hclear : resolver.Clear marks (depth + 1))
    (hvalue : resolver.Denotes (depth + 1) index value) :
    resolver.Clear (marks.set index .resolving) depth := by
  intro position further found hposition hfound
  by_cases heq : index = position
  · subst heq
    have := (hvalue.unique hfound).1
    omega
  · rw [List.getElem?_set_ne heq] at hposition
    have := hclear position further found hposition hfound
    omega

/-- An entry of `depth` references resolves with one unit of fuel for each
of them. -/
theorem resolve_complete
    {depth index : Nat}
    {value : V}
    (hvalue : resolver.Denotes depth index value)
    {fuel : Nat}
    (hfuel : depth < fuel)
    {marks : List (Mark V)}
    (hsound : resolver.Sound marks)
    (hclear : resolver.Clear marks depth) :
    ∃ next, resolver.resolve fuel marks index = .ok next ∧ Grows marks next := by
  induction hvalue generalizing fuel marks with
  | @leaf index value hlt hplan hbuild =>
      obtain ⟨fuel, rfl⟩ := Nat.exists_eq_succ_of_ne_zero (Nat.ne_of_gt hfuel)
      obtain ⟨mark, hmark⟩ :
          ∃ mark, marks[index]? = some mark :=
        ⟨_, List.getElem?_eq_getElem (hsound.1 ▸ hlt)⟩
      unfold resolve
      rw [hmark]
      cases mark with
      | resolved found => exact ⟨marks, rfl, Grows.refl marks⟩
      | resolving =>
          have := hclear index 0 value hmark (.leaf hlt hplan hbuild)
          omega
      | pending =>
          simp only [hplan]
          exact ⟨_, finish_eq_ok.mpr ⟨value, hbuild, rfl⟩,
            Grows.of_pending value hmark (Grows.refl _)⟩
  | @step depth index other related value hlt hplan hrelated hbuild ih =>
      obtain ⟨fuel, rfl⟩ := Nat.exists_eq_succ_of_ne_zero (Nat.ne_zero_of_lt hfuel)
      have hdenotes : resolver.Denotes (depth + 1) index value :=
        .step hlt hplan hrelated hbuild
      obtain ⟨mark, hmark⟩ :
          ∃ mark, marks[index]? = some mark :=
        ⟨_, List.getElem?_eq_getElem (hsound.1 ▸ hlt)⟩
      unfold resolve
      rw [hmark]
      cases mark with
      | resolved found => exact ⟨marks, rfl, Grows.refl marks⟩
      | resolving =>
          have := hclear index (depth + 1) value hmark hdenotes
          omega
      | pending =>
          have hmarked := hsound.set_resolving index
          obtain ⟨middle, hmiddle, hgrows⟩ :=
            ih (Nat.lt_of_succ_lt_succ hfuel) hmarked (hclear.set_resolving hdenotes)
          obtain ⟨hsoundMiddle, found, hfound⟩ := resolve_sound fuel hmarked hmiddle
          obtain ⟨further, hfoundDenotes⟩ := hsoundMiddle.2 other found hfound
          have hsame : found = related := (hfoundDenotes.unique hrelated).2
          subst hsame
          simp only [hplan, hmiddle, valueAt_eq_some.mpr hfound]
          exact ⟨_, finish_eq_ok.mpr ⟨value, hbuild, rfl⟩,
            Grows.of_pending value hmark hgrows⟩

/-! ## The whole table -/

def Quiet (marks : List (Mark V)) : Prop :=
  ∀ index : Nat, marks[index]? ≠ some Mark.resolving

/-- Resolving leaves no index half done. -/
theorem resolve_quiet
    (fuel : Nat)
    {marks next : List (Mark V)}
    {index depth : Nat}
    {value : V}
    (hsound : resolver.Sound marks)
    (hquiet : Quiet marks)
    (hvalue : resolver.Denotes depth index value)
    (hfuel : depth < fuel)
    (hrun : resolver.resolve fuel marks index = .ok next) :
    Grows marks next ∧ Quiet next := by
  have hclear : resolver.Clear marks depth :=
    fun position _ _ hposition _ => absurd hposition (hquiet position)
  obtain ⟨found, hfound, hgrows⟩ :=
    resolve_complete hvalue hfuel hsound hclear
  rw [hrun] at hfound
  cases hfound
  exact ⟨hgrows, fun position hposition =>
    hquiet position (hgrows.settled position hposition)⟩

/-- Resolving entries one after the other. -/
theorem foldlM_resolve_sound
    (entries : List Nat)
    {marks next : List (Mark V)}
    (hsound : resolver.Sound marks)
    (hquiet : Quiet marks)
    (hrun :
      entries.foldlM (fun marks index =>
        resolver.resolve (resolver.size + 1) marks index) marks = .ok next) :
    resolver.Sound next ∧ Grows marks next ∧
      ∀ index ∈ entries, ∃ value, next[index]? = some (.resolved value) := by
  induction entries generalizing marks with
  | nil =>
      cases hrun
      exact ⟨hsound, Grows.refl _, fun _ hmem => nomatch hmem⟩
  | cons index rest ih =>
      rw [List.foldlM_cons] at hrun
      cases hstep : resolver.resolve (resolver.size + 1) marks index with
      | error error =>
          rw [hstep] at hrun
          cases hrun
      | ok middle =>
          rw [hstep] at hrun
          obtain ⟨hmiddle, value, hvalue⟩ := resolve_sound _ hsound hstep
          obtain ⟨depth, hdenotes⟩ := hmiddle.2 index value hvalue
          have hfuel : depth < resolver.size + 1 :=
            Nat.lt_succ_of_lt hdenotes.depth_lt_size
          obtain ⟨hgrows, hquiet⟩ :=
            resolve_quiet _ hsound hquiet hdenotes hfuel hstep
          obtain ⟨hnext, hrest, hall⟩ := ih hmiddle hquiet hrun
          refine ⟨hnext, hgrows.trans hrest, ?_⟩
          intro entry hentry
          obtain rfl | hentry := List.mem_cons.mp hentry
          · exact ⟨value, hrest.kept _ value hvalue⟩
          · exact hall entry hentry

/-- Indices that denote values are all resolved. -/
theorem foldlM_resolve_complete
    (entries : List Nat)
    {marks : List (Mark V)}
    (hsound : resolver.Sound marks)
    (hquiet : Quiet marks)
    (hvalues : ∀ index ∈ entries, ∃ (depth : Nat) (value : V),
      resolver.Denotes depth index value) :
    ∃ next, entries.foldlM (fun marks index =>
      resolver.resolve (resolver.size + 1) marks index) marks = .ok next := by
  induction entries generalizing marks with
  | nil => exact ⟨marks, rfl⟩
  | cons index rest ih =>
      obtain ⟨depth, value, hdenotes⟩ := hvalues index List.mem_cons_self
      have hfuel : depth < resolver.size + 1 :=
        Nat.lt_succ_of_lt hdenotes.depth_lt_size
      have hclear : resolver.Clear marks depth :=
        fun position _ _ hposition _ => absurd hposition (hquiet position)
      obtain ⟨middle, hstep, -⟩ := resolve_complete hdenotes hfuel hsound hclear
      obtain ⟨hmiddle, -⟩ := resolve_sound _ hsound hstep
      obtain ⟨-, hquiet⟩ := resolve_quiet _ hsound hquiet hdenotes hfuel hstep
      obtain ⟨next, hrest⟩ :=
        ih hmiddle hquiet (fun entry hentry =>
          hvalues entry (List.mem_cons_of_mem _ hentry))
      exact ⟨next, by rw [List.foldlM_cons, hstep]; exact hrest⟩

/-- At the start all marks are sound. -/
theorem sound_replicate :
    resolver.Sound (List.replicate resolver.size (Mark.pending : Mark V)) := by
  refine ⟨List.length_replicate, ?_⟩
  intro index value hmark
  have := List.eq_of_mem_replicate (List.mem_of_getElem? hmark)
  cases this

theorem quiet_replicate (count : Nat) :
    Quiet (List.replicate count (Mark.pending : Mark V)) := by
  intro index hmark
  have := List.eq_of_mem_replicate (List.mem_of_getElem? hmark)
  cases this

/-- Fuel beyond the size changes nothing. -/
theorem resolveAllWith_eq
    {fuel : Nat}
    (hfuel : resolver.size < fuel) :
    resolver.resolveAllWith fuel = resolver.resolveAll :=
  foldlM_resolve_fuel (List.range resolver.size) hfuel sound_replicate

/-- A resolved table holds the value of every entry by plain recursion. -/
theorem resolveAll_sound
    {marks : List (Mark V)}
    (hrun : resolver.resolveAll = .ok marks) :
    marks.length = resolver.size ∧
      ∀ index < resolver.size, ∃ (depth : Nat) (value : V),
        marks[index]? = some (.resolved value) ∧
          resolver.Denotes depth index value := by
  obtain ⟨hsound, -, hall⟩ :=
    foldlM_resolve_sound (List.range resolver.size) sound_replicate
      (quiet_replicate resolver.size) hrun
  refine ⟨hsound.1, ?_⟩
  intro index hindex
  obtain ⟨value, hvalue⟩ := hall index (List.mem_range.mpr hindex)
  obtain ⟨depth, hdenotes⟩ := hsound.2 index value hvalue
  exact ⟨depth, value, hvalue, hdenotes⟩

/-- A table resolves when plain recursion gives every entry a value. -/
theorem resolveAll_complete
    (hvalues : ∀ index < resolver.size, ∃ (depth : Nat) (value : V),
      resolver.Denotes depth index value) :
    ∃ marks, resolver.resolveAll = .ok marks :=
  foldlM_resolve_complete (List.range resolver.size) sound_replicate
    (quiet_replicate resolver.size)
    (fun index hindex => hvalues index (List.mem_range.mp hindex))

end Resolver

end Dsql
