import Dsql.Vite.Delivery
import Dsql.Logic.Schedule

/-!
# Runs of the Vite binding

Under a schedule of file events, hooks, transforms, answers, failures and
continuations in any order, every queued path is carried by a later request,
and nothing that was computed before an invalidation becomes ready after it.
Within an epoch the ready state does not go back, as long as renders end in
the order of the answers that they render.
-/

namespace Dsql

namespace Vite

namespace Binding

variable {binding : Binding}

/-- Nothing is swapped in and nothing is invalidated. -/
def Still (binding after : Binding) : Prop :=
  after.epoch = binding.epoch ∧ after.ready = binding.ready

theorem request_still (batch : Nat) (sent : Request) :
    binding.Still (binding.request batch sent) := by
  unfold request
  simp only
  split <;> exact ⟨rfl, rfl⟩

theorem settle_still (reply : Option Result) :
    binding.Still (binding.settle reply) := by
  unfold settle
  split <;> exact ⟨rfl, rfl⟩

theorem compileNow_still
    (batch : Nat)
    (paths : List String)
    (changed : Bool) :
    binding.Still (binding.compileNow batch paths changed) :=
  request_still batch (binding.requestFor paths changed)

theorem compileBatch_still (paths : List String) :
    binding.Still (binding.compileBatch paths) ∨
      binding.epoch < (binding.compileBatch paths).epoch := by
  unfold compileBatch
  simp only
  split
  · exact Or.inr (Nat.lt_succ_self _)
  · have hstill := @compileNow_still
      { binding with
        started := binding.started + 1
        batches := Function.update binding.batches binding.started
          ⟨paths, .finished .error⟩ } binding.started paths false
    exact Or.inl hstill

/-- The ready state changes by an invalidation, or by a render that ends in
the epoch in which its batch started. -/
theorem step_ready
    {ownedRoots : List String}
    {event : Event}
    {after : Binding}
    (hstep : binding.step ownedRoots event = some after) :
    binding.Still after ∨ binding.epoch < after.epoch ∨
      (after.epoch = binding.epoch ∧ ∃ batch result,
        event = .rendered batch true ∧
          (binding.batches batch).phase =
            .rendering binding.epoch result ∧
          after.ready = some result) := by
  have hsame : binding.Still binding := ⟨rfl, rfl⟩
  have hbatch {after : Binding} (paths : List String)
      (hafter : after.epoch = (binding.compileBatch paths).epoch ∧
        after.ready = (binding.compileBatch paths).ready) :
      binding.Still after ∨ binding.epoch < after.epoch := by
    unfold Still
    rw [hafter.1, hafter.2]
    exact compileBatch_still paths
  cases event with
  | watcher path =>
      obtain rfl := Option.some.inj hstep
      unfold Binding.watcher
      split
      · exact Or.inl hsame
      · split
        · exact Or.inl hsame
        · exact Or.inl ⟨rfl, rfl⟩
  | hotUpdate path =>
      obtain rfl := Option.some.inj hstep
      unfold Binding.hotUpdate
      split
      · exact Or.inl hsame
      · unfold outcomeFor
        split
        · exact Or.inl hsame
        · split
          · split
            · exact Or.inl hsame
            · exact Or.inl ⟨rfl, rfl⟩
          · exact Or.inl ⟨rfl, rfl⟩
  | ensureInitial =>
      obtain rfl := Option.some.inj hstep
      unfold Binding.ensureInitial
      split
      · exact Or.inl hsame
      · exact (hbatch [] ⟨rfl, rfl⟩).imp_right Or.inl
  | staleBuffer path =>
      simp only [Binding.step] at hstep
      split at hstep
      · obtain rfl := Option.some.inj hstep
        exact Or.inl ⟨rfl, rfl⟩
      · cases hstep
  | drain =>
      simp only [Binding.step, Binding.drain] at hstep
      split at hstep
      · obtain rfl := Option.some.inj hstep
        have hdrained := @compileBatch_still
          { binding with pendingPaths := [] } binding.pendingPaths
        exact hdrained.imp_right Or.inl
      · cases hstep
  | loopNext =>
      simp only [Binding.step, Binding.loopNext] at hstep
      split at hstep
      · split at hstep
        · obtain rfl := Option.some.inj hstep
          exact Or.inl ⟨rfl, rfl⟩
        · cases hstep
      · cases hstep
  | resume batch preflight =>
      refine Or.inl ?_
      simp only [Binding.step, Binding.resume] at hstep
      split at hstep
      · split at hstep
        · obtain ⟨reply, -, rfl⟩ := Option.map_eq_some_iff.mp hstep
          exact compileNow_still batch _ true
        · obtain ⟨reply, -, rfl⟩ := Option.map_eq_some_iff.mp hstep
          cases reply with
          | none => exact ⟨rfl, rfl⟩
          | some result =>
              unfold compiled
              simp only
              split
              · exact ⟨rfl, rfl⟩
              · cases preflight with
                | failed | clean => exact ⟨rfl, rfl⟩
                | drifted mismatches =>
                    exact request_still batch (.filesChanged mismatches)
        · obtain ⟨reply, -, rfl⟩ := Option.map_eq_some_iff.mp hstep
          cases reply with
          | none => exact ⟨rfl, rfl⟩
          | some result => cases preflight <;> exact ⟨rfl, rfl⟩
        · cases hstep
      · cases hstep
  | rendered batch written =>
      simp only [Binding.step, Binding.rendered] at hstep
      split at hstep
      · split at hstep
        · next startEpoch result hphase =>
            split at hstep <;> obtain rfl := Option.some.inj hstep
            · next hwritten =>
                unfold swap
                split
                · next hepoch =>
                    subst hepoch
                    exact Or.inr (Or.inr ⟨rfl, batch, result, by
                      rw [hwritten], hphase, rfl⟩)
                · exact Or.inl ⟨rfl, rfl⟩
            · exact Or.inl ⟨rfl, rfl⟩
        · cases hstep
      · cases hstep
  | initialized info =>
      obtain rfl := Option.some.inj hstep
      exact Or.inl ⟨rfl, rfl⟩
  | answered generationId changed =>
      simp only [Binding.step, Binding.answered] at hstep
      split at hstep
      · cases hstep
      · cases hstep
      · split at hstep
        · obtain rfl := Option.some.inj hstep
          exact Or.inl (settle_still _)
        · cases hstep
  | rejected =>
      simp only [Binding.step, Binding.rejected] at hstep
      split at hstep
      · cases hstep
      · cases hstep
      · obtain rfl := Option.some.inj hstep
        exact Or.inl (settle_still _)
  | restarted =>
      simp only [Binding.step, Binding.restarted] at hstep
      split at hstep
      · obtain rfl := Option.some.inj hstep
        exact Or.inl (settle_still none)
      · cases hstep
  | sessionFailed inFlight =>
      obtain rfl := Option.some.inj hstep
      refine Or.inr (Or.inl ?_)
      have hsettled := @settle_still { binding.invalidate with info := none }
        none
      unfold Binding.sessionFailed
      simp only
      split
      · exact Nat.lt_succ_self _
      · exact Nat.lt_succ_self _
      · split
        · exact Nat.lt_of_lt_of_eq (Nat.lt_succ_self _) hsettled.1.symm
        · exact Nat.lt_succ_self _

/-- A render that ends in its own epoch renders no older answer than the
ready state. -/
def InTurn (binding : Binding) : Event → Prop
  | .rendered batch true =>
      ∀ result, (binding.batches batch).phase =
          .rendering binding.epoch result →
        ∀ current, binding.ready = some current →
          current.arrival ≤ result.arrival
  | _ => True

section Runs

variable
  (ownedRoots : List String)
  (schedule : Nat → Option Event)

/-- The binding under a schedule. -/
def bindingAt (time : Nat) : Binding :=
  Schedule.stateAt (fun binding => binding.step ownedRoots) initialState
    schedule time

/-- Renders end in the order of the answers that they render. -/
def RendersInTurn : Prop :=
  ∀ time event, schedule time = some event →
    (bindingAt ownedRoots schedule time).InTurn event

/-- Continuations are run, renders end, and every call of the daemon client
is settled. -/
structure Prompt : Prop where
  drains : Schedule.Fair (fun binding => binding.step ownedRoots)
    initialState schedule (fun event => event = .drain)
  continues : Schedule.Fair (fun binding => binding.step ownedRoots)
    initialState schedule (fun event => event = .loopNext)
  resumes : ∀ batch,
    Schedule.Fair (fun binding => binding.step ownedRoots) initialState
      schedule (fun event => ∃ preflight, event = .resume batch preflight)
  renders : ∀ batch,
    Schedule.Fair (fun binding => binding.step ownedRoots) initialState
      schedule (fun event => ∃ written, event = .rendered batch written)
  answers : ∀ time call,
    call ∈ (bindingAt ownedRoots schedule time).waiting →
      ∃ later, time ≤ later ∧
        call ∉ (bindingAt ownedRoots schedule later).waiting

/-- The binding never goes back in time. -/
structure Forward : Prop where
  /-- Every path of a watcher event is carried by a later request. -/
  delivers : Prompt ownedRoots schedule → ∀ time path,
    schedule time = some (.watcher path) →
      (bindingAt ownedRoots schedule time).isExcluded ownedRoots path =
          false →
        ∃ later added, time ≤ later ∧
          (bindingAt ownedRoots schedule later).log =
              added ++ (bindingAt ownedRoots schedule time).log ∧
            Delivered path added
  /-- Between two invalidations generations do not shrink. -/
  grows : ∀ time later, time ≤ later →
    (bindingAt ownedRoots schedule later).epoch =
        (bindingAt ownedRoots schedule time).epoch →
      ∀ earlier current,
        (bindingAt ownedRoots schedule time).ready = some earlier →
          (bindingAt ownedRoots schedule later).ready = some current →
            earlier.generationId ≤ current.generationId
  /-- Nothing becomes ready that was computed before an invalidation. -/
  inTime : ∀ time, Throughout Notice.InTime
    (bindingAt ownedRoots schedule time).log

end Runs

variable {ownedRoots : List String} {schedule : Nat → Option Event}

/-- What holds of a binding at any time. -/
theorem reached (time : Nat) :
    (bindingAt ownedRoots schedule time).Sound ∧
      (bindingAt ownedRoots schedule time).Linked := by
  refine Schedule.invariant
    (fun binding : Binding => binding.Sound ∧ binding.Linked)
    (fun _ _ => True) ⟨initialState_sound, initialState_linked⟩ ?_
    (fun _ _ _ => trivial) time
  rintro binding event after ⟨hsound, hlinked⟩ - hstep
  exact ⟨hsound.step hstep, hlinked.step hsound.core hstep⟩

theorem epoch_le
    {time later : Nat}
    (hlater : time ≤ later) :
    (bindingAt ownedRoots schedule time).epoch ≤
      (bindingAt ownedRoots schedule later).epoch := by
  refine Schedule.persists (fun binding : Binding =>
    (bindingAt ownedRoots schedule time).epoch ≤ binding.epoch) (le_refl _)
    ?_ hlater
  intro between event _ hle _ hstep
  exact hle.trans ((reached between).1.step_extends hstep).epoch

theorem arrived_later
    {time later : Nat}
    (hlater : time ≤ later)
    {result : Result}
    (harrived : (bindingAt ownedRoots schedule time).Arrived result) :
    (bindingAt ownedRoots schedule later).Arrived result :=
  Schedule.persists (fun binding : Binding => binding.Arrived result) harrived
    (fun between _ _ hkept _ hstep =>
      ((reached between).1.step_extends hstep).arrived hkept) hlater

/-- Within an epoch the ready state is not replaced by an older answer. -/
theorem RendersInTurn.ready_le
    (h : RendersInTurn ownedRoots schedule)
    {time later : Nat}
    (hlater : time ≤ later)
    (hepoch : (bindingAt ownedRoots schedule later).epoch =
      (bindingAt ownedRoots schedule time).epoch)
    {earlier : Result}
    (hearlier : (bindingAt ownedRoots schedule time).ready =
      some earlier) :
    ∃ current, (bindingAt ownedRoots schedule later).ready = some current ∧
      earlier.arrival ≤ current.arrival := by
  induction later, hlater using Nat.le_induction with
  | base => exact ⟨earlier, hearlier, le_refl _⟩
  | succ later hlater ih =>
      have hfirst : (bindingAt ownedRoots schedule time).epoch ≤
          (bindingAt ownedRoots schedule later).epoch := epoch_le hlater
      have hnext : (bindingAt ownedRoots schedule later).epoch ≤
          (bindingAt ownedRoots schedule (later + 1)).epoch :=
        epoch_le (Nat.le_add_right later 1)
      obtain ⟨current, hcurrent, hle⟩ := ih (by omega)
      have hstay := @Schedule.stateAt_succ _ _
        (fun binding : Binding => binding.step ownedRoots) initialState
        schedule later
      rcases hstay with hsame | ⟨event, hevent, hstep⟩
      · exact ⟨current, by
          unfold bindingAt at hcurrent ⊢
          rw [hsame]
          exact hcurrent, hle⟩
      · rcases step_ready hstep with hstill | hlt |
          ⟨-, batch, result, rfl, hphase, hready⟩
        · exact ⟨current, hstill.2.trans hcurrent, hle⟩
        · have hlt : (bindingAt ownedRoots schedule later).epoch <
              (bindingAt ownedRoots schedule (later + 1)).epoch := hlt
          omega
        · exact ⟨result, hready,
            hle.trans (h later _ hevent result hphase current hcurrent)⟩

section Deliveries

variable {time first : Nat} {path : String}

/-- A request that carries the path was sent since a time. -/
def DeliveredSince
    (ownedRoots : List String)
    (schedule : Nat → Option Event)
    (time : Nat)
    (path : String)
    (binding : Binding) : Prop :=
  ∃ added, binding.log = added ++ (bindingAt ownedRoots schedule time).log ∧
    Delivered path added

theorem DeliveredSince.extend
    {after : Binding}
    (h : DeliveredSince ownedRoots schedule time path binding)
    (hextends : binding.Extends after) :
    DeliveredSince ownedRoots schedule time path after := by
  obtain ⟨added, hlog, batch, request, hmem, hcovers⟩ := h
  obtain ⟨more, hmore, -⟩ := hextends.log
  exact ⟨more ++ added, by rw [hmore, hlog, List.append_assoc], batch,
    request, List.mem_append_right _ hmem, hcovers⟩

/-- The log only grows. -/
theorem log_later
    {later : Nat}
    (hlater : time ≤ later) :
    ∃ added, (bindingAt ownedRoots schedule later).log =
      added ++ (bindingAt ownedRoots schedule time).log := by
  refine Schedule.persists (fun binding : Binding =>
    ∃ added, binding.log =
      added ++ (bindingAt ownedRoots schedule time).log) ⟨[], rfl⟩ ?_ hlater
  rintro between event _ ⟨added, hlog⟩ _ hstep
  obtain ⟨more, hmore, -⟩ := ((reached between).1.step_extends hstep).log
  have hlog : (bindingAt ownedRoots schedule between).log =
      added ++ (bindingAt ownedRoots schedule time).log := hlog
  exact ⟨more ++ added, by rw [hmore, List.append_assoc, ← hlog]⟩

/-- A step of a path that is on its way: a request, a lower rank, or nothing
that concerns the loop. -/
theorem carried_step
    (hfirst : time ≤ first)
    {event : Event}
    (hstep : (bindingAt ownedRoots schedule first).step ownedRoots event =
      some (bindingAt ownedRoots schedule (first + 1)))
    (hcarried : (bindingAt ownedRoots schedule first).Carried path) :
    DeliveredSince ownedRoots schedule time path
        (bindingAt ownedRoots schedule (first + 1)) ∨
      (bindingAt ownedRoots schedule (first + 1)).Carried path ∧
        ((bindingAt ownedRoots schedule (first + 1)).rank path <
            (bindingAt ownedRoots schedule first).rank path ∨
          (bindingAt ownedRoots schedule (first + 1)).rank path ≤
              (bindingAt ownedRoots schedule first).rank path ∧
            ¬(bindingAt ownedRoots schedule first).Moves event ∧
            (bindingAt ownedRoots schedule first).Aside
              (bindingAt ownedRoots schedule (first + 1))) := by
  obtain ⟨hsound, hlinked⟩ := @reached ownedRoots schedule first
  by_cases hmoves : (bindingAt ownedRoots schedule first).Moves event
  · rcases hlinked.step_moves hstep hmoves hcarried with
      ⟨added, hlog, hdelivered⟩ | ⟨hstill, hlt⟩
    · obtain ⟨earlier, hearlier⟩ := @log_later ownedRoots schedule time first
        hfirst
      obtain ⟨batch, request, hmem, hcovers⟩ := hdelivered
      exact Or.inl ⟨added ++ earlier, by
        rw [hlog, hearlier, List.append_assoc], batch, request,
        List.mem_append_left _ hmem, hcovers⟩
    · exact Or.inr ⟨hstill, Or.inl hlt⟩
  · have haside := hlinked.step_aside hstep hmoves
    obtain ⟨hstill, -, hle⟩ := haside.carried hlinked
      (hsound.step_extends hstep) hcarried
    exact Or.inr ⟨hstill, Or.inr ⟨hle, hmoves, haside⟩⟩

/-- A path stays on its way until its request is sent. -/
theorem carried_later
    (hfirst : time ≤ first)
    (hcarried : (bindingAt ownedRoots schedule first).Carried path)
    {later : Nat}
    (hlater : first ≤ later) :
    DeliveredSince ownedRoots schedule time path
        (bindingAt ownedRoots schedule later) ∨
      (bindingAt ownedRoots schedule later).Carried path := by
  refine Schedule.persists (fun binding : Binding =>
    DeliveredSince ownedRoots schedule time path binding ∨
      binding.Carried path) (Or.inr hcarried) ?_ hlater
  intro between event hbetween hkept _ hstep
  rcases hkept with hdelivered | hcarried
  · exact Or.inl (hdelivered.extend ((reached between).1.step_extends hstep))
  · exact (carried_step (hfirst.trans hbetween) hstep hcarried).imp_right
      And.left

/-- A path that is on its way comes closer to its request. -/
theorem Prompt.lowers
    (h : Prompt ownedRoots schedule)
    (hfirst : time ≤ first)
    (hcarried : (bindingAt ownedRoots schedule first).Carried path) :
    ∃ later, first ≤ later ∧
      (DeliveredSince ownedRoots schedule time path
          (bindingAt ownedRoots schedule (later + 1)) ∨
        (bindingAt ownedRoots schedule (later + 1)).rank path <
          (bindingAt ownedRoots schedule later).rank path) := by
  by_contra hnever
  -- Otherwise the loop and its batch stay as they are.
  have hquiet {later : Nat} (hlater : first ≤ later) {event : Event}
      (hstep : (bindingAt ownedRoots schedule later).step ownedRoots event =
        some (bindingAt ownedRoots schedule (later + 1))) :
      ¬(bindingAt ownedRoots schedule later).Moves event ∧
        (bindingAt ownedRoots schedule later).Aside
          (bindingAt ownedRoots schedule (later + 1)) := by
    rcases carried_later hfirst hcarried hlater with hdelivered | hstill
    · exact absurd ⟨later, hlater, Or.inl (hdelivered.extend
        ((reached later).1.step_extends hstep))⟩ hnever
    · rcases carried_step (hfirst.trans hlater) hstep hstill with
        hdelivered | ⟨-, hlt | ⟨-, hmoves, haside⟩⟩
      · exact absurd ⟨later, hlater, Or.inl hdelivered⟩ hnever
      · exact absurd ⟨later, hlater, Or.inr hlt⟩ hnever
      · exact ⟨hmoves, haside⟩
  have hloop : (bindingAt ownedRoots schedule first).loop ≠ .idle := by
    rcases hcarried with hpending | ⟨batch, hrunning, -⟩
    · exact (reached first).2.queued (List.ne_nil_of_mem hpending)
    · rw [hrunning]
      simp
  have hstay {later : Nat} (hlater : first ≤ later) :
      (bindingAt ownedRoots schedule later).loop =
          (bindingAt ownedRoots schedule first).loop ∧
        ∀ batch, (bindingAt ownedRoots schedule first).loop =
            .running batch →
          (bindingAt ownedRoots schedule later).batches batch =
            (bindingAt ownedRoots schedule first).batches batch := by
    refine Schedule.persists (fun binding : Binding =>
      binding.loop = (bindingAt ownedRoots schedule first).loop ∧
        ∀ batch, (bindingAt ownedRoots schedule first).loop =
            .running batch →
          binding.batches batch =
            (bindingAt ownedRoots schedule first).batches batch)
      ⟨rfl, fun _ _ => rfl⟩ ?_ hlater
    rintro between event hbetween ⟨hsame, hbatch⟩ _ hstep
    have haside := (hquiet hbetween hstep).2
    refine ⟨?_, ?_⟩
    · rcases haside.loop with hkept | ⟨hidle, -⟩
      · exact hkept.trans hsame
      · exact absurd (hsame.symm.trans hidle) hloop
    · intro batch hrunning
      exact (haside.batch batch (hsame.trans hrunning)).trans
        (hbatch batch hrunning)
  -- So none of the events that move the loop is ever possible.
  have hidle {own : Event → Prop}
      (hfair : Schedule.Fair (fun binding => binding.step ownedRoots)
        initialState schedule own)
      (hmoves : ∀ later event, first ≤ later → own event →
        (bindingAt ownedRoots schedule later).Moves event)
      {later : Nat} (hlater : first ≤ later) {event : Event}
      (hown : own event) :
      (bindingAt ownedRoots schedule later).step ownedRoots event = none := by
    by_contra hsome
    obtain ⟨taken, other, htaken, hother, htakes⟩ := hfair later
      ⟨event, hown, Option.ne_none_iff_isSome.mp hsome⟩
    exact (hquiet (hlater.trans htaken) htakes.step_eq).1
      (hmoves taken other (hlater.trans htaken) hother)
  cases hcurrent : (bindingAt ownedRoots schedule first).loop with
  | idle => exact hloop hcurrent
  | settling =>
      have hnone := hidle h.drains (by
        rintro later event hlater rfl
        trivial) (le_refl first) rfl
      simp [step, drain, hcurrent] at hnone
  | running batch =>
      have hbatch := (reached first).2.running batch hcurrent
      have hmoves {later : Nat} (hlater : first ≤ later) :
          (bindingAt ownedRoots schedule later).loop = .running batch :=
        (hstay hlater).1.trans hcurrent
      have hphase {later : Nat} (hlater : first ≤ later) :
          (bindingAt ownedRoots schedule later).batches batch =
            (bindingAt ownedRoots schedule first).batches batch :=
        (hstay hlater).2 batch hcurrent
      have hnext := hidle h.continues (by
        rintro later event hlater rfl
        trivial) (le_refl first) rfl
      have hrender := hidle (h.renders batch) (by
        rintro later event hlater ⟨written, rfl⟩
        exact hmoves hlater) (le_refl first) ⟨false, rfl⟩
      -- A call that the batch waits for is settled in the end.
      have hresume {call : Nat}
          (hcall : ((bindingAt ownedRoots schedule first).batches
            batch).phase.call = some call) : False := by
        have hsettled : ∃ later, first ≤ later ∧
            ((bindingAt ownedRoots schedule later).answers call).isSome =
              true := by
          have hbound := (reached first).2.calls_of batch call hcall
          by_cases hwaiting :
              call ∈ (bindingAt ownedRoots schedule first).waiting
          · obtain ⟨later, hlater, hgone⟩ := h.answers first call hwaiting
            refine ⟨later, hlater, (reached later).2.settled call ?_ hgone⟩
            refine (reached later).2.calls_of batch call ?_
            rw [hphase hlater]
            exact hcall
          · exact ⟨first, le_refl _,
              (reached first).2.settled call hbound hwaiting⟩
        obtain ⟨later, hlater, hanswer⟩ := hsettled
        obtain ⟨reply, hreply⟩ := Option.isSome_iff_exists.mp hanswer
        have hnone := hidle (h.resumes batch) (by
          rintro later event hlater ⟨preflight, rfl⟩
          exact hmoves hlater) hlater ⟨.clean, rfl⟩
        have hstarted := (reached later).2.running batch (hmoves hlater)
        rw [← hphase hlater] at hcall
        cases hat : ((bindingAt ownedRoots schedule later).batches
            batch).phase <;> rw [hat] at hcall <;> cases hcall <;>
          simp [step, resume, hstarted, hat, hreply] at hnone
      cases hat : ((bindingAt ownedRoots schedule first).batches
          batch).phase with
      | restarting call => exact hresume (by rw [hat]; rfl)
      | compiling startEpoch call => exact hresume (by rw [hat]; rfl)
      | refreshing startEpoch call => exact hresume (by rw [hat]; rfl)
      | rendering startEpoch result =>
          simp [step, rendered, hbatch, hat] at hrender
      | finished outcome => simp [step, loopNext, hcurrent, hat] at hnext

/-- The path of a watcher event is carried by a later request. -/
theorem Prompt.delivers
    (h : Prompt ownedRoots schedule)
    (hevent : schedule time = some (.watcher path))
    (hincluded : (bindingAt ownedRoots schedule time).isExcluded ownedRoots
      path = false) :
    ∃ later added, time ≤ later ∧
      (bindingAt ownedRoots schedule later).log =
          added ++ (bindingAt ownedRoots schedule time).log ∧
        Delivered path added := by
  have hqueued : (bindingAt ownedRoots schedule (time + 1)).Carried path := by
    refine Or.inl ?_
    have hnext : bindingAt ownedRoots schedule (time + 1) =
        (bindingAt ownedRoots schedule time).watcher ownedRoots path := by
      unfold bindingAt
      rw [Schedule.stateAt, hevent]
      rfl
    rw [hnext]
    unfold watcher
    rw [if_neg (by simp [hincluded])]
    split
    · assumption
    · next hnot =>
        simp only [enqueue, if_neg hnot]
        exact List.mem_append_right _ (List.mem_singleton_self path)
  have hcarried {between : Nat} (hbetween : time + 1 ≤ between)
      (hnot : ¬DeliveredSince ownedRoots schedule time path
        (bindingAt ownedRoots schedule between)) :
      (bindingAt ownedRoots schedule between).Carried path :=
    (carried_later (Nat.le_add_right time 1) hqueued hbetween).resolve_left
      hnot
  have hreaches := @Schedule.reaches_of_rank _ _
    (fun binding => binding.step ownedRoots) initialState schedule
    (fun binding : Binding => binding.rank path)
    (DeliveredSince ownedRoots schedule time path) (time + 1) ?_ ?_
  · obtain ⟨later, hlater, added, hlog, hdelivered⟩ := hreaches
    exact ⟨later, added, by omega, hlog, hdelivered⟩
  · intro between event hbetween hnot _ hstep
    have hbound : time ≤ between := by omega
    rcases carried_step hbound hstep (hcarried hbetween hnot) with
      hdelivered | ⟨-, hlt | ⟨hle, -⟩⟩
    · exact Or.inl hdelivered
    · exact Or.inr hlt.le
    · exact Or.inr hle
  · intro between hbetween hnot
    have hbound : time ≤ between := by omega
    exact h.lowers hbound (hcarried hbetween hnot)

end Deliveries

/-- The binding never goes back in time, under every schedule in which renders
end in turn. -/
theorem forward_of_rendersInTurn
    (ownedRoots : List String)
    (schedule : Nat → Option Event)
    (h : RendersInTurn ownedRoots schedule) :
    Forward ownedRoots schedule where
  delivers := fun hprompt _ _ hevent hincluded =>
    hprompt.delivers hevent hincluded
  grows := by
    intro time later hlater hepoch earlier current hearlier hcurrent
    obtain ⟨other, hother, hle⟩ := h.ready_le hlater hepoch hearlier
    rw [hcurrent] at hother
    obtain rfl := Option.some.inj hother
    have hfirst := (@reached ownedRoots schedule time).1.core.ready_arrived
      earlier hearlier
    have hcore := (@reached ownedRoots schedule later).1.core
    exact generationId_le hcore.sorted (arrived_later hlater hfirst)
      (hcore.ready_arrived current hcurrent) hle
  inTime := fun time => (reached time).1.core.inTime

/-- A project whose daemon has been initialized. -/
def projectInfo : Info := ⟨"dsql/dsql.toml", "dsql/build", []⟩

/-- The session dies under a file event; the event comes again, and a
transform compiles beside the loop.  Both renders end in turn. -/
def turnedEvents : List Event :=
  [.ensureInitial,
    .initialized projectInfo,
    .answered 1 true,
    .resume 0 .clean,
    .rendered 0 true,
    .watcher "a.ts",
    .drain,
    .sessionFailed true,
    .resume 1 .clean,
    .loopNext,
    .watcher "a.ts",
    .drain,
    .ensureInitial,
    .initialized projectInfo,
    .answered 2 true,
    .resume 2 .clean,
    .rendered 2 true,
    .answered 3 true,
    .resume 3 .clean,
    .rendered 3 true,
    .loopNext]

def renderedInTurn (time : Nat) : Option Event :=
  turnedEvents[time]?

theorem renderedInTurn_ended
    (time : Nat)
    (htime : 21 ≤ time) : renderedInTurn time = none :=
  List.getElem?_eq_none htime

/-- Which preflight a batch goes on with does not matter for whether it can
go on. -/
theorem step_resume_isSome (batch : Nat) (preflight : Preflight) :
    (binding.step [] (.resume batch preflight)).isSome =
      (binding.step [] (.resume batch .clean)).isSome := by
  simp only [step, resume]
  split
  · split <;> simp
  · rfl

theorem step_rendered_isSome (batch : Nat) (written : Bool) :
    (binding.step [] (.rendered batch written)).isSome =
      (binding.step [] (.rendered batch true)).isSome := by
  simp only [step, rendered]
  split
  · split
    · cases written <;> rfl
    · rfl
  · rfl

/-- A batch that is never started neither goes on nor renders. -/
theorem renderedInTurn_started (time : Nat) :
    (bindingAt [] renderedInTurn time).started ≤ 4 :=
  Schedule.ever_after (fun binding : Binding => binding.started ≤ 4)
    renderedInTurn_ended (Nat.zero_le 21) (by decide +kernel)
    (Nat.zero_le time)

/-- The last continuation of a batch. -/
theorem renderedInTurn_resumes
    (batch last : Nat)
    (hlast : last < 21)
    (hevent : renderedInTurn last = some (.resume batch .clean))
    (htakes : ((bindingAt [] renderedInTurn last).step []
      (.resume batch .clean)).isSome = true)
    (hnever : ∀ time < 22, last + 1 ≤ time →
      ((bindingAt [] renderedInTurn time).step []
        (.resume batch .clean)).isSome = false) :
    Schedule.Fair (fun binding => binding.step []) initialState
      renderedInTurn (fun event => ∃ preflight,
        event = .resume batch preflight) := by
  refine Schedule.fair_of_last ⟨.clean, rfl⟩ ⟨hevent, htakes⟩ ?_
  rintro time htime _ ⟨preflight, rfl⟩
  have hquiet := Schedule.ever_after
    (fun binding : Binding =>
      (binding.step [] (.resume batch .clean)).isSome = false)
    renderedInTurn_ended hlast hnever htime
  exact (step_resume_isSome batch preflight).trans hquiet

theorem renderedInTurn_renders
    (batch last : Nat)
    (hlast : last < 21)
    (hevent : renderedInTurn last = some (.rendered batch true))
    (htakes : ((bindingAt [] renderedInTurn last).step []
      (.rendered batch true)).isSome = true)
    (hnever : ∀ time < 22, last + 1 ≤ time →
      ((bindingAt [] renderedInTurn time).step []
        (.rendered batch true)).isSome = false) :
    Schedule.Fair (fun binding => binding.step []) initialState
      renderedInTurn (fun event => ∃ written,
        event = .rendered batch written) := by
  refine Schedule.fair_of_last ⟨true, rfl⟩ ⟨hevent, htakes⟩ ?_
  rintro time htime _ ⟨written, rfl⟩
  have hquiet := Schedule.ever_after
    (fun binding : Binding =>
      (binding.step [] (.rendered batch true)).isSome = false)
    renderedInTurn_ended hlast hnever htime
  exact (step_rendered_isSome batch written).trans hquiet

/-- Every continuation of the schedule is run, every render ends and every
call is settled. -/
theorem prompt_renderedInTurn : Prompt [] renderedInTurn where
  drains := by
    refine @Schedule.fair_of_last _ _ _ _ _ _ 11 _ rfl
      ⟨rfl, by decide +kernel⟩ ?_
    rintro time htime _ rfl
    exact Schedule.ever_after
      (fun binding : Binding => (binding.step [] .drain).isSome = false)
      renderedInTurn_ended (by decide) (by decide +kernel) htime
  continues := by
    refine @Schedule.fair_of_last _ _ _ _ _ _ 20 _ rfl
      ⟨rfl, by decide +kernel⟩ ?_
    rintro time htime _ rfl
    exact Schedule.ever_after
      (fun binding : Binding => (binding.step [] .loopNext).isSome = false)
      renderedInTurn_ended (by decide) (by decide +kernel) htime
  resumes := by
    intro batch
    match batch with
    | 0 =>
        exact renderedInTurn_resumes 0 3 (by decide) rfl (by decide +kernel)
          (by decide +kernel)
    | 1 =>
        exact renderedInTurn_resumes 1 8 (by decide) rfl (by decide +kernel)
          (by decide +kernel)
    | 2 =>
        exact renderedInTurn_resumes 2 15 (by decide) rfl (by decide +kernel)
          (by decide +kernel)
    | 3 =>
        exact renderedInTurn_resumes 3 18 (by decide) rfl (by decide +kernel)
          (by decide +kernel)
    | batch + 4 =>
        refine Schedule.fair_of_never ?_
        rintro time _ ⟨preflight, rfl⟩
        have hstarted := renderedInTurn_started time
        simp only [step]
        rw [if_neg (by unfold bindingAt at hstarted; omega)]
        rfl
  renders := by
    intro batch
    match batch with
    | 0 =>
        exact renderedInTurn_renders 0 4 (by decide) rfl (by decide +kernel)
          (by decide +kernel)
    | 1 =>
        refine Schedule.fair_of_never ?_
        rintro time _ ⟨written, rfl⟩
        have hquiet : ((bindingAt [] renderedInTurn time).step []
            (.rendered 1 true)).isSome = false := Schedule.ever_after
          (fun binding : Binding =>
            (binding.step [] (.rendered 1 true)).isSome = false)
          renderedInTurn_ended (Nat.zero_le 21) (by decide +kernel)
          (Nat.zero_le time)
        exact (step_rendered_isSome 1 written).trans hquiet
    | 2 =>
        exact renderedInTurn_renders 2 16 (by decide) rfl (by decide +kernel)
          (by decide +kernel)
    | 3 =>
        exact renderedInTurn_renders 3 19 (by decide) rfl (by decide +kernel)
          (by decide +kernel)
    | batch + 4 =>
        refine Schedule.fair_of_never ?_
        rintro time _ ⟨written, rfl⟩
        have hstarted := renderedInTurn_started time
        simp only [step]
        rw [if_neg (by unfold bindingAt at hstarted; omega)]
        rfl
  answers := by
    intro time call _
    have hsettled : (bindingAt [] renderedInTurn (max time 21)).waiting =
        [] :=
      Schedule.ever_after (fun binding : Binding => binding.waiting = [])
        renderedInTurn_ended (le_refl 21) (by decide +kernel)
        (le_max_right time 21)
    exact ⟨max time 21, le_max_left _ _, by rw [hsettled]; simp⟩

/-- Under this schedule the second and the third generation become ready one
after the other, and the file event under which the session died is carried
by the request of its batch. -/
theorem forward_renderedInTurn :
    Forward [] renderedInTurn ∧ Prompt [] renderedInTurn ∧
      (bindingAt [] renderedInTurn 17).ready = some ⟨2, true, 1⟩ ∧
      (bindingAt [] renderedInTurn 20).ready = some ⟨3, true, 2⟩ ∧
      (∃ later added, 5 ≤ later ∧
        (bindingAt [] renderedInTurn later).log =
          added ++ (bindingAt [] renderedInTurn 5).log ∧
            Delivered "a.ts" added) ∧
      Throughout Notice.InTime (bindingAt [] renderedInTurn 20).log := by
  have hforward := forward_of_rendersInTurn [] renderedInTurn (by
    intro time event hevent
    match time, hevent with
    | 0, rfl | 1, rfl | 2, rfl | 3, rfl | 5, rfl | 6, rfl | 7, rfl | 8, rfl
    | 9, rfl | 10, rfl | 11, rfl | 12, rfl | 13, rfl | 14, rfl | 15, rfl
    | 17, rfl | 18, rfl | 20, rfl => trivial
    | 4, rfl | 16, rfl =>
        intro result _ current hcurrent
        cases hcurrent
    | 19, rfl =>
        intro result hphase current hcurrent
        have hready : (bindingAt [] renderedInTurn 19).ready =
            some ⟨2, true, 1⟩ := by decide +kernel
        have hrendering : ((bindingAt [] renderedInTurn 19).batches 3).phase =
            .rendering 1 ⟨3, true, 2⟩ := by decide +kernel
        rw [hready] at hcurrent
        rw [hrendering] at hphase
        cases hcurrent
        cases hphase
        decide
    | time + 21, hnone => cases hnone)
  exact ⟨hforward, prompt_renderedInTurn, by decide +kernel,
    by decide +kernel,
    hforward.delivers prompt_renderedInTurn 5 "a.ts" rfl (by decide +kernel),
    hforward.inTime 20⟩

/-- The session dies; a file event and a transform both compile on the next
session, and the earlier answer takes longer to render. -/
def renderedOutOfTurn (time : Nat) : Option Event :=
  [.ensureInitial,
    .initialized projectInfo,
    .answered 1 true,
    .resume 0 .clean,
    .rendered 0 true,
    .sessionFailed false,
    .watcher "a.ts",
    .drain,
    .ensureInitial,
    .initialized projectInfo,
    .answered 2 true,
    .resume 1 .clean,
    .answered 3 true,
    .resume 2 .clean,
    .rendered 2 true,
    .rendered 1 true][time]?

/-- The third generation is replaced by the second. -/
theorem not_forward_renderedOutOfTurn :
    ¬Forward [] renderedOutOfTurn := by
  intro hforward
  have hle := hforward.grows 15 16 (by decide) (by decide +kernel)
    ⟨3, true, 2⟩ ⟨2, true, 1⟩ (by decide +kernel) (by decide +kernel)
  exact absurd hle (by decide)

end Binding

end Vite

end Dsql
