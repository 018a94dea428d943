import Mathlib.Tactic

/-!
# Scheduled runs

A run of a partial step function under a schedule.  At every time the schedule
names an event, or none; an event that is not possible changes nothing.
-/

namespace Dsql

namespace Schedule

variable {State Event : Type}

/-- What becomes of a state. -/
def advance
    (step : State → Event → Option State)
    (state : State)
    (event : Option Event) : State :=
  (event.bind (step state)).getD state

/-- The state of a run at a time. -/
def stateAt
    (step : State → Event → Option State)
    (start : State)
    (schedule : Nat → Option Event) : Nat → State
  | 0 => start
  | time + 1 =>
      advance step (stateAt step start schedule time) (schedule time)

section Runs

variable
  (step : State → Event → Option State)
  (start : State)
  (schedule : Nat → Option Event)

/-- The event is scheduled and possible at the time. -/
def Takes (time : Nat) (event : Event) : Prop :=
  schedule time = some event ∧
    (step (stateAt step start schedule time) event).isSome = true

/-- Whenever one of these events is possible, one of them is taken later. -/
def Fair (own : Event → Prop) : Prop :=
  ∀ time,
    (∃ event, own event ∧
      (step (stateAt step start schedule time) event).isSome = true) →
    ∃ later event, time ≤ later ∧ own event ∧
      Takes step start schedule later event

end Runs

variable
  {step : State → Event → Option State}
  {start : State}
  {schedule : Nat → Option Event}

/-- A state stays, or takes the step that is scheduled. -/
theorem stateAt_succ (time : Nat) :
    stateAt step start schedule (time + 1) =
        stateAt step start schedule time ∨
      ∃ event, schedule time = some event ∧
        step (stateAt step start schedule time) event =
          some (stateAt step start schedule (time + 1)) := by
  rw [stateAt]
  unfold advance
  cases hevent : schedule time with
  | none => exact Or.inl rfl
  | some event =>
      rw [Option.bind_some]
      cases hstep : step (stateAt step start schedule time) event with
      | none => exact Or.inl rfl
      | some after => exact Or.inr ⟨event, rfl, hstep⟩

/-- The step of an event that is taken. -/
theorem Takes.step_eq
    {time : Nat}
    {event : Event}
    (h : Takes step start schedule time event) :
    step (stateAt step start schedule time) event =
      some (stateAt step start schedule (time + 1)) := by
  obtain ⟨after, hafter⟩ := Option.isSome_iff_exists.mp h.2
  have hnext : stateAt step start schedule (time + 1) = after := by
    simp [stateAt, advance, h.1, hafter]
  rw [hnext]
  exact hafter

/-- What the start has and every scheduled step keeps, every state of a run
has. -/
theorem invariant
    (keeps : State → Prop)
    (allowed : State → Event → Prop)
    (hstart : keeps start)
    (hstep : ∀ state event after, keeps state → allowed state event →
      step state event = some after → keeps after)
    (hallowed : ∀ time event, schedule time = some event →
      allowed (stateAt step start schedule time) event)
    (time : Nat) : keeps (stateAt step start schedule time) := by
  induction time with
  | zero => exact hstart
  | succ time ih =>
      rcases stateAt_succ time with hsame | ⟨event, hevent, htaken⟩
      · rw [hsame]
        exact ih
      · exact hstep _ event _ ih (hallowed time event hevent) htaken

/-- What a state has and every later step keeps, every later state has. -/
theorem persists
    (keeps : State → Prop)
    {time : Nat}
    (hkeeps : keeps (stateAt step start schedule time))
    (hstep : ∀ later event, time ≤ later →
      keeps (stateAt step start schedule later) →
      schedule later = some event →
      step (stateAt step start schedule later) event =
        some (stateAt step start schedule (later + 1)) →
      keeps (stateAt step start schedule (later + 1)))
    {later : Nat}
    (hlater : time ≤ later) : keeps (stateAt step start schedule later) := by
  induction later, hlater using Nat.le_induction with
  | base => exact hkeeps
  | succ later hlater ih =>
      rcases stateAt_succ later with hsame | ⟨event, hevent, htaken⟩
      · rw [hsame]
        exact ih
      · exact hstep later event hlater ih hevent htaken

/-- Events of which one is taken, and none is possible any more after that,
have their turn. -/
theorem fair_of_last
    {own : Event → Prop}
    {last : Nat}
    {event : Event}
    (hown : own event)
    (htakes : Takes step start schedule last event)
    (hnever : ∀ time, last < time → ∀ other, own other →
      (step (stateAt step start schedule time) other).isSome = false) :
    Fair step start schedule own := by
  rintro time ⟨other, hother, hpossible⟩
  have htime : time ≤ last := by
    by_contra hlater
    rw [hnever time (by omega) other hother] at hpossible
    cases hpossible
  exact ⟨last, event, htime, hown, htakes⟩

/-- Events that are never possible wait for nothing. -/
theorem fair_of_never
    {own : Event → Prop}
    (hnever : ∀ time event, own event →
      (step (stateAt step start schedule time) event).isSome = false) :
    Fair step start schedule own := by
  rintro time ⟨event, hown, hpossible⟩
  rw [hnever time event hown] at hpossible
  cases hpossible

/-- A schedule without further events stays in its last state. -/
theorem stateAt_ended
    {length time : Nat}
    (hnone : ∀ later, length ≤ later → schedule later = none)
    (htime : length ≤ time) :
    stateAt step start schedule time = stateAt step start schedule length := by
  induction time, htime using Nat.le_induction with
  | base => rfl
  | succ time htime ih =>
      rw [stateAt, hnone time htime, ← ih]
      rfl

/-- What holds from a time on until the schedule ends holds ever after. -/
theorem ever_after
    (keeps : State → Prop)
    {first length : Nat}
    (hnone : ∀ later, length ≤ later → schedule later = none)
    (hfirst : first ≤ length)
    (hkeeps : ∀ time < length + 1, first ≤ time →
      keeps (stateAt step start schedule time))
    {time : Nat}
    (htime : first ≤ time) : keeps (stateAt step start schedule time) := by
  rcases Nat.lt_or_ge time (length + 1) with hlt | hge
  · exact hkeeps time hlt htime
  · rw [stateAt_ended hnone (Nat.le_of_succ_le hge)]
    exact hkeeps length (Nat.lt_succ_self _) hfirst

/-- A rank that no step raises and some later step lowers, as long as the goal
is not reached, leads to the goal. -/
theorem reaches_of_rank
    (rank : State → Nat)
    (goal : State → Prop)
    {first : Nat}
    (hkept : ∀ time event, first ≤ time →
      ¬goal (stateAt step start schedule time) →
      schedule time = some event →
      step (stateAt step start schedule time) event =
        some (stateAt step start schedule (time + 1)) →
      goal (stateAt step start schedule (time + 1)) ∨
        rank (stateAt step start schedule (time + 1)) ≤
          rank (stateAt step start schedule time))
    (hlowered : ∀ time, first ≤ time →
      ¬goal (stateAt step start schedule time) →
      ∃ later, time ≤ later ∧
        (goal (stateAt step start schedule (later + 1)) ∨
          rank (stateAt step start schedule (later + 1)) <
            rank (stateAt step start schedule later))) :
    ∃ time, first ≤ time ∧ goal (stateAt step start schedule time) := by
  -- The rank at a later time, unless the goal was reached in between.
  have hbounded (time : Nat) (htime : first ≤ time) {later : Nat}
      (hlater : time ≤ later) :
      (∃ between, first ≤ between ∧
        goal (stateAt step start schedule between)) ∨
        rank (stateAt step start schedule later) ≤
          rank (stateAt step start schedule time) := by
    induction later, hlater using Nat.le_induction with
    | base => exact Or.inr (le_refl _)
    | succ later hlater ih =>
        rcases ih with hgoal | hrank
        · exact Or.inl hgoal
        · by_cases hgoal : goal (stateAt step start schedule later)
          · exact Or.inl ⟨later, htime.trans hlater, hgoal⟩
          · have hnext : _ ∨ _ :=
              @stateAt_succ State Event step start schedule later
            rcases hnext with hsame | ⟨event, hevent, htaken⟩
            · rw [hsame]
              exact Or.inr hrank
            · rcases hkept later event (htime.trans hlater) hgoal hevent
                htaken with hreached | hle
              · exact Or.inl ⟨later + 1, by omega, hreached⟩
              · exact Or.inr (hle.trans hrank)
  -- Induction on the rank.
  have hreach (bound : Nat) : ∀ time, first ≤ time →
      rank (stateAt step start schedule time) ≤ bound →
      ∃ between, first ≤ between ∧
        goal (stateAt step start schedule between) := by
    induction bound using Nat.strong_induction_on with
    | _ bound ih =>
        intro time htime hrank
        by_cases hgoal : goal (stateAt step start schedule time)
        · exact ⟨time, htime, hgoal⟩
        · obtain ⟨later, hlater, hreached | hlower⟩ :=
            hlowered time htime hgoal
          · exact ⟨later + 1, by omega, hreached⟩
          · rcases hbounded time htime hlater with hreached | hle
            · exact hreached
            · exact ih _ (by omega) (later + 1) (by omega) (le_refl _)
  exact hreach _ first (le_refl _) (le_refl _)

end Schedule

end Dsql
