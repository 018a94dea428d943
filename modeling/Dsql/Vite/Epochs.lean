import Dsql.Vite.Binding
import Dsql.Logic.History

/-!
# Epochs of the Vite binding

A result is swapped in under the epoch in which its batch sent every one of
its requests.  Answers are numbered as they arrive, and their generations grow
with the numbers.
-/

namespace Dsql

namespace Vite

namespace Notice

/-- The batch has sent a request. -/
def Heard (batch : Nat) (log : List Notice) : Prop :=
  ∃ request, .requested batch request ∈ log

/-- Every request of the batch was sent since the last invalidation. -/
def Current (batch : Nat) : List Notice → Prop
  | [] => True
  | .invalidated :: earlier => ¬Heard batch earlier
  | _ :: earlier => Current batch earlier

/-- Nothing becomes ready that was computed before an invalidation. -/
def InTime : Notice → List Notice → Prop
  | .swapped batch _, earlier => Current batch earlier ∧ Heard batch earlier
  | _, _ => True

/-- A batch that nothing is known of is current. -/
theorem current_of_unheard
    {batch : Nat}
    {log : List Notice}
    (h : ¬Heard batch log) : Current batch log := by
  induction log with
  | nil => trivial
  | cons notice earlier ih =>
      have hearlier : ¬Heard batch earlier := by
        rintro ⟨request, hmem⟩
        exact h ⟨request, List.mem_cons_of_mem _ hmem⟩
      cases notice with
      | invalidated => exact hearlier
      | requested _ _ | swapped _ _ => exact ih hearlier

/-- A batch stays current until an invalidation. -/
theorem current_append
    {batch : Nat}
    {added log : List Notice}
    (h : Current batch log)
    (hadded : .invalidated ∉ added) : Current batch (added ++ log) := by
  induction added with
  | nil => exact h
  | cons notice added ih =>
      have hrest := ih (fun hmem => hadded (List.mem_cons_of_mem _ hmem))
      cases notice with
      | invalidated => exact absurd List.mem_cons_self hadded
      | requested _ _ | swapped _ _ => exact hrest

/-- What is known stays known. -/
theorem heard_append
    {batch : Nat}
    {log : List Notice}
    (h : Heard batch log)
    (added : List Notice) : Heard batch (added ++ log) := by
  obtain ⟨request, hmem⟩ := h
  exact ⟨request, List.mem_append_right _ hmem⟩

end Notice

namespace Binding

variable (binding : Binding)

/-- The result of an answer that has arrived. -/
def Arrived (result : Result) : Prop :=
  binding.generations[result.arrival]? = some result.generationId

/-- A request of the batch was sent, unless the call was rejected at once. -/
def Sent (batch call : Nat) : Prop :=
  binding.answers call = some none ∨ Notice.Heard batch binding.log

/-- The batch sends its requests in this epoch, or is out of date. -/
def Dated (batch startEpoch : Nat) : Prop :=
  startEpoch ≤ binding.epoch ∧
    (startEpoch = binding.epoch → Notice.Current batch binding.log)

def PhaseSound (batch : Nat) : Phase → Prop
  | .restarting _ => ¬Notice.Heard batch binding.log
  | .compiling startEpoch call | .refreshing startEpoch call =>
      binding.Dated batch startEpoch ∧ binding.Sent batch call
  | .rendering startEpoch result =>
      binding.Dated batch startEpoch ∧
        Notice.Heard batch binding.log ∧ binding.Arrived result
  | .finished _ => True

/-- What holds beside the batches. -/
structure Core (binding : Binding) : Prop where
  requested_lt : ∀ batch, Notice.Heard batch binding.log →
    batch < binding.started
  waiting_nodup : binding.waiting.Nodup
  waiting_open : ∀ call ∈ binding.waiting,
    call < binding.calls.length ∧ binding.answers call = none
  unanswered : ∀ call, binding.calls.length ≤ call →
    binding.answers call = none
  arrived : ∀ call result, binding.answers call = some (some result) →
    binding.Arrived result
  ready_arrived : ∀ result, binding.ready = some result →
    binding.Arrived result
  sorted : binding.generations.Pairwise (· ≤ ·)
  inTime : Throughout Notice.InTime binding.log

structure Sound (binding : Binding) : Prop where
  core : binding.Core
  phases : ∀ batch < binding.started,
    binding.PhaseSound batch (binding.batches batch).phase

variable {binding}

theorem initialState_sound : initialState.Sound := by
  refine ⟨?_, fun batch hbatch => absurd hbatch (Nat.not_lt_zero batch)⟩
  constructor <;> simp [initialState, Notice.Heard, Throughout]

/-- Later answers have no smaller generation. -/
theorem generationId_le
    (hsorted : binding.generations.Pairwise (· ≤ ·))
    {first second : Result}
    (hfirst : binding.Arrived first)
    (hsecond : binding.Arrived second)
    (harrival : first.arrival ≤ second.arrival) :
    first.generationId ≤ second.generationId := by
  obtain ⟨hbound, hget⟩ := List.getElem?_eq_some_iff.mp hfirst
  obtain ⟨hbound', hget'⟩ := List.getElem?_eq_some_iff.mp hsecond
  rcases Nat.lt_or_eq_of_le harrival with hlt | heq
  · have hle := List.pairwise_iff_getElem.mp hsorted first.arrival
      second.arrival hbound hbound' hlt
    rw [hget, hget'] at hle
    exact hle
  · unfold Arrived at hfirst hsecond
    rw [heq, hsecond] at hfirst
    exact (Option.some.inj hfirst).ge

/-- What a step leaves behind for the batches. -/
structure Extends (before after : Binding) : Prop where
  epoch : before.epoch ≤ after.epoch
  log : ∃ added, after.log = added ++ before.log ∧
    (after.epoch = before.epoch → .invalidated ∉ added)
  answers : ∀ call reply, before.answers call = some reply →
    after.answers call = some reply
  generations : before.generations <+: after.generations

namespace Extends

variable {before after : Binding}

@[refl] theorem refl (binding : Binding) : binding.Extends binding :=
  ⟨le_refl _, ⟨[], rfl, fun _ hmem => List.not_mem_nil hmem⟩,
    fun _ _ h => h, List.prefix_refl _⟩

/-- Answers stay. -/
theorem arrived
    (h : before.Extends after)
    {result : Result}
    (harrived : before.Arrived result) : after.Arrived result := by
  obtain ⟨added, hadded⟩ := h.generations
  unfold Arrived at harrived ⊢
  obtain ⟨hbound, -⟩ := List.getElem?_eq_some_iff.mp harrived
  rw [← hadded, List.getElem?_append_left hbound]
  exact harrived

/-- What is known stays known. -/
theorem heard
    (h : before.Extends after)
    {batch : Nat}
    (hheard : Notice.Heard batch before.log) :
    Notice.Heard batch after.log := by
  obtain ⟨added, hlog, -⟩ := h.log
  rw [hlog]
  exact Notice.heard_append hheard added

/-- The epoch of a batch stays. -/
theorem dated
    (h : before.Extends after)
    {batch startEpoch : Nat}
    (hdated : before.Dated batch startEpoch) :
    after.Dated batch startEpoch := by
  refine ⟨hdated.1.trans h.epoch, ?_⟩
  intro hsame
  obtain ⟨added, hlog, hadded⟩ := h.log
  have hepoch : after.epoch = before.epoch :=
    le_antisymm (hsame ▸ hdated.1) h.epoch
  rw [hlog]
  exact Notice.current_append (hdated.2 (hsame.trans hepoch)) (hadded hepoch)

/-- Requests stay. -/
theorem sent
    (h : before.Extends after)
    {batch call : Nat}
    (hsent : before.Sent batch call) : after.Sent batch call := by
  rcases hsent with hrejected | hheard
  · exact Or.inl (h.answers call none hrejected)
  · exact Or.inr (h.heard hheard)

/-- A batch that does not send anything stays where it is. -/
theorem phaseSound
    (h : before.Extends after)
    {batch : Nat}
    (hquiet : Notice.Heard batch after.log → Notice.Heard batch before.log)
    {phase : Phase}
    (hphase : before.PhaseSound batch phase) :
    after.PhaseSound batch phase := by
  cases phase with
  | restarting call => exact fun hheard => hphase (hquiet hheard)
  | compiling startEpoch call | refreshing startEpoch call =>
      exact ⟨h.dated hphase.1, h.sent hphase.2⟩
  | rendering startEpoch result =>
      exact ⟨h.dated hphase.1, h.heard hphase.2.1, h.arrived hphase.2.2⟩
  | finished outcome => trivial

end Extends

/-- Changes that leave requests, answers and results alone keep the core. -/
theorem Core.same
    (h : binding.Core)
    {after : Binding}
    (hlog : after.log = binding.log)
    (hstarted : binding.started ≤ after.started)
    (hwaiting : after.waiting = binding.waiting)
    (hcalls : after.calls = binding.calls)
    (hanswers : after.answers = binding.answers)
    (hready : after.ready = binding.ready)
    (hgenerations : after.generations = binding.generations) :
    after.Core := by
  have harrived (result : Result) :
      after.Arrived result ↔ binding.Arrived result := by
    unfold Arrived
    rw [hgenerations]
  refine ⟨?_, ?_, ?_, ?_, ?_, ?_, ?_, ?_⟩
  · rw [hlog]
    exact fun batch hheard => (h.requested_lt batch hheard).trans_le hstarted
  · exact hwaiting ▸ h.waiting_nodup
  · rw [hwaiting, hcalls, hanswers]
    exact h.waiting_open
  · rw [hcalls, hanswers]
    exact h.unanswered
  · intro call result
    rw [hanswers, harrived]
    exact h.arrived call result
  · intro result
    rw [hready, harrived]
    exact h.ready_arrived result
  · exact hgenerations ▸ h.sorted
  · exact hlog ▸ h.inTime

/-- What a call of a batch does to its binding. -/
structure Requested (before after : Binding) (batch call : Nat) : Prop where
  core : after.Core
  extends_ : before.Extends after
  sent : after.Sent batch call
  others : ∀ other, other ≠ batch →
    Notice.Heard other after.log → Notice.Heard other before.log
  batches : after.batches = before.batches
  started : after.started = before.started
  epoch : after.epoch = before.epoch

/-- A request gets the next call. -/
theorem Core.request
    (h : binding.Core)
    {batch : Nat}
    (hbatch : batch < binding.started)
    (sent : Request) :
    binding.Requested (binding.request batch sent) batch
      binding.calls.length := by
  have hopen := h.unanswered binding.calls.length (le_refl _)
  have hbeyond {call : Nat}
      (hcall : (binding.calls ++ [sent]).length ≤ call) :
      binding.calls.length < call := by
    simpa [Nat.succ_le_iff] using hcall
  unfold Binding.request
  simp only
  split
  · -- The client is closing.
    refine ⟨⟨h.requested_lt, h.waiting_nodup, ?_, ?_, ?_, h.ready_arrived,
      h.sorted, h.inTime⟩, ⟨le_refl _, ⟨[], rfl, by simp⟩, ?_,
        List.prefix_refl _⟩, ?_, fun _ _ hheard => hheard, rfl, rfl, rfl⟩
    · intro call hcall
      obtain ⟨hbound, hnone⟩ := h.waiting_open call hcall
      refine ⟨?_, ?_⟩
      · simp only [answer, List.length_append, List.length_cons]
        omega
      · simp only [answer]
        rw [Function.update_of_ne (by omega)]
        exact hnone
    · intro call hcall
      have hlt := hbeyond hcall
      simp only [answer]
      rw [Function.update_of_ne (by omega)]
      exact h.unanswered call hlt.le
    · intro call result hanswer
      simp only [answer] at hanswer
      by_cases hsame : call = binding.calls.length
      · rw [hsame, Function.update_self] at hanswer
        cases hanswer
      · rw [Function.update_of_ne hsame] at hanswer
        exact h.arrived call result hanswer
    · intro call reply hreply
      have hne : call ≠ binding.calls.length := by
        rintro rfl
        rw [hopen] at hreply
        cases hreply
      simp only [answer]
      rw [Function.update_of_ne hne]
      exact hreply
    · exact Or.inl (by simp [answer])
  · refine ⟨⟨?_, ?_, ?_, ?_, h.arrived, h.ready_arrived, h.sorted,
      ⟨trivial, h.inTime⟩⟩, ⟨le_refl _, ⟨[.requested batch sent], rfl,
        by simp⟩, fun _ _ hreply => hreply, List.prefix_refl _⟩,
      Or.inr ⟨sent, List.mem_cons_self⟩, ?_, rfl, rfl, rfl⟩
    · rintro other ⟨request, hmem⟩
      rcases List.mem_cons.mp hmem with heq | hold
      · obtain ⟨rfl, -⟩ := Notice.requested.inj heq
        exact hbatch
      · exact h.requested_lt other ⟨request, hold⟩
    · refine h.waiting_nodup.append (List.nodup_singleton _) ?_
      intro call hcall hnew
      obtain rfl := List.mem_singleton.mp hnew
      exact absurd (h.waiting_open _ hcall).1 (lt_irrefl _)
    · intro call hcall
      rcases List.mem_append.mp hcall with hold | hnew
      · obtain ⟨hbound, hnone⟩ := h.waiting_open call hold
        exact ⟨by simp; omega, hnone⟩
      · obtain rfl := List.mem_singleton.mp hnew
        exact ⟨by simp, hopen⟩
    · intro call hcall
      exact h.unanswered call (hbeyond hcall).le
    · rintro other hother ⟨request, hmem⟩
      rcases List.mem_cons.mp hmem with heq | hold
      · obtain ⟨rfl, -⟩ := Notice.requested.inj heq
        exact absurd rfl hother
      · exact ⟨request, hold⟩

/-- What holds of a binding, one batch apart. -/
structure Beside (binding : Binding) (batch : Nat) : Prop where
  core : binding.Core
  phases : ∀ other < binding.started, other ≠ batch →
    binding.PhaseSound other (binding.batches other).phase

theorem Sound.beside (h : binding.Sound) (batch : Nat) :
    binding.Beside batch :=
  ⟨h.core, fun other hother _ => h.phases other hother⟩

/-- Other batches are left as they were. -/
theorem Beside.extend
    {batch : Nat}
    (h : binding.Beside batch)
    {after : Binding}
    (hcore : after.Core)
    (hextends : binding.Extends after)
    (hquiet : ∀ other, other ≠ batch →
      Notice.Heard other after.log → Notice.Heard other binding.log)
    (hbatches : ∀ other, other ≠ batch →
      after.batches other = binding.batches other)
    (hstarted : ∀ other < after.started, other ≠ batch →
      other < binding.started) :
    after.Beside batch := by
  refine ⟨hcore, fun other hother hne => ?_⟩
  rw [hbatches other hne]
  exact hextends.phaseSound (hquiet other hne)
    (h.phases other (hstarted other hother hne) hne)

/-- The phase of one batch says nothing of the calls of another. -/
@[simp] theorem setPhase_phaseSound
    (batch other : Nat)
    (phase current : Phase) :
    (binding.setPhase batch phase).PhaseSound other current ↔
      binding.PhaseSound other current := by
  cases current <;> exact Iff.rfl

/-- A batch takes a phase that it may rely on. -/
theorem Beside.setPhase
    {batch : Nat}
    (h : binding.Beside batch)
    {phase : Phase}
    (hphase : binding.PhaseSound batch phase) :
    (binding.setPhase batch phase).Sound := by
  refine ⟨h.core.same rfl (le_refl _) rfl rfl rfl rfl rfl, ?_⟩
  intro other hother
  rw [setPhase_phaseSound]
  by_cases hsame : other = batch
  · subst hsame
    simpa [Binding.setPhase] using hphase
  · simpa [Binding.setPhase, hsame] using h.phases other hother hsame

/-- A batch sends its first request. -/
theorem Beside.compileNow
    {batch : Nat}
    (h : binding.Beside batch)
    (hbatch : batch < binding.started)
    (hunheard : ¬Notice.Heard batch binding.log)
    (paths : List String)
    (changed : Bool) :
    (binding.compileNow batch paths changed).Sound := by
  have hsent := h.core.request hbatch
    (binding.requestFor paths changed)
  have hbeside := h.extend hsent.core hsent.extends_ hsent.others
    (fun other _ => congrFun hsent.batches other)
    (fun other hother _ => hsent.started ▸ hother)
  refine hbeside.setPhase ⟨?_, hsent.sent⟩
  exact hsent.extends_.dated
    ⟨le_refl _, fun _ => Notice.current_of_unheard hunheard⟩

/-- An invalidation takes nothing back. -/
theorem Extends.invalidate (binding : Binding) :
    binding.Extends binding.invalidate := by
  refine ⟨Nat.le_succ _, ⟨[.invalidated], rfl, ?_⟩, fun _ _ h => h,
    List.prefix_refl _⟩
  intro hsame
  exact absurd hsame (Nat.succ_ne_self binding.epoch)

theorem invalidate_heard (batch : Nat) :
    Notice.Heard batch binding.invalidate.log ↔
      Notice.Heard batch binding.log := by
  simp [Notice.Heard, invalidate]

/-- An invalidation keeps the calls in order. -/
theorem Core.invalidate (h : binding.Core) : binding.invalidate.Core := by
  refine ⟨?_, h.waiting_nodup, h.waiting_open, h.unanswered, h.arrived, ?_,
    h.sorted, ⟨trivial, h.inTime⟩⟩
  · intro batch hheard
    exact h.requested_lt batch ((invalidate_heard batch).mp hheard)
  · intro result hready
    cases hready

/-- A restart waits behind the other calls. -/
theorem Core.restart (h : binding.Core) : binding.restart.Core := by
  refine ⟨h.requested_lt, ?_, ?_, ?_, h.arrived, h.ready_arrived, h.sorted,
    h.inTime⟩
  · refine h.waiting_nodup.append (List.nodup_singleton _) ?_
    intro call hcall hnew
    obtain rfl := List.mem_singleton.mp hnew
    exact absurd (h.waiting_open _ hcall).1 (lt_irrefl _)
  · intro call hcall
    have hlength : binding.restart.calls.length =
        binding.calls.length + 1 := by
      simp [Binding.restart]
    rw [hlength]
    rcases List.mem_append.mp hcall with hold | hnew
    · obtain ⟨hbound, hnone⟩ := h.waiting_open call hold
      exact ⟨Nat.lt_succ_of_lt hbound, hnone⟩
    · obtain rfl := List.mem_singleton.mp hnew
      exact ⟨Nat.lt_succ_self _, h.unanswered _ (le_refl _)⟩
  · intro call hcall
    have hlength : binding.restart.calls.length =
        binding.calls.length + 1 := by
      simp [Binding.restart]
    exact h.unanswered call (by omega)

/-- A new batch starts in the current epoch. -/
theorem Sound.compileBatch
    (h : binding.Sound)
    (paths : List String) : (binding.compileBatch paths).Sound := by
  let called : Binding :=
    { binding with
      started := binding.started + 1
      batches := Function.update binding.batches binding.started
        ⟨paths, .finished .error⟩ }
  have hextends : binding.Extends called :=
    ⟨le_refl _, ⟨[], rfl, by simp⟩, fun _ _ h => h, List.prefix_refl _⟩
  have hcalled : called.Beside binding.started := by
    refine (h.beside binding.started).extend
      (h.core.same rfl (Nat.le_succ _) rfl rfl rfl rfl rfl) hextends
      (fun _ _ hheard => hheard) ?_ ?_
    · intro other hne
      exact Function.update_of_ne hne _ _
    · intro other hother hne
      have hother : other < binding.started + 1 := hother
      omega
  have hunheard : ¬Notice.Heard binding.started binding.log :=
    fun hheard => lt_irrefl _ (h.core.requested_lt _ hheard)
  unfold Binding.compileBatch
  simp only
  split
  · refine Beside.setPhase (hcalled.extend hcalled.core.invalidate.restart
      ?_ (fun other _ => (invalidate_heard other).mp) (fun _ _ => rfl)
      (fun _ hother _ => hother)) ?_
    · obtain ⟨hepoch, hlog, hanswers, hgenerations⟩ :=
        Extends.invalidate called
      exact ⟨hepoch, hlog, hanswers, hgenerations⟩
    · exact fun hheard => hunheard ((invalidate_heard _).mp hheard)
  · exact hcalled.compileNow (Nat.lt_succ_self _) hunheard paths false

/-- The paths, the loop, the initial compile and the state of the client are of
no concern to the batches. -/
theorem Sound.arranged
    (h : binding.Sound)
    (pendingPaths : List String)
    (loop : Loop)
    (initial : Option Nat)
    (info : Option Info)
    (closing : Bool) :
    { binding with
      pendingPaths := pendingPaths
      loop := loop
      initial := initial
      info := info
      closing := closing }.Sound := by
  refine ⟨h.core.same rfl (le_refl _) rfl rfl rfl rfl rfl, ?_⟩
  intro batch hbatch
  have hextends : binding.Extends
      { binding with
        pendingPaths := pendingPaths
        loop := loop
        initial := initial
        info := info
        closing := closing } :=
    ⟨le_refl _, ⟨[], rfl, by simp⟩, fun _ _ h => h, List.prefix_refl _⟩
  exact hextends.phaseSound (fun hheard => hheard) (h.phases batch hbatch)

theorem Sound.enqueue (h : binding.Sound) (path : String) :
    (binding.enqueue path).Sound :=
  h.arranged _ _ binding.initial binding.info binding.closing

/-- Waiting for a path keeps all batches sound. -/
theorem Sound.outcomeFor (h : binding.Sound) (path : String) :
    (binding.outcomeFor path).Sound := by
  unfold Binding.outcomeFor
  split
  · exact h
  · split
    · split
      · exact h
      · exact h.enqueue path
    · exact h.enqueue path

theorem Sound.ensureInitial (h : binding.Sound) :
    binding.ensureInitial.Sound := by
  unfold Binding.ensureInitial
  split
  · exact h
  · exact (h.compileBatch []).arranged _ _ _ _ _

/-- Draining keeps all batches sound. -/
theorem Sound.drain
    (h : binding.Sound)
    {after : Binding}
    (hstep : binding.drain = some after) : after.Sound := by
  unfold Binding.drain at hstep
  split at hstep
  · obtain rfl := Option.some.inj hstep
    exact ((h.arranged [] binding.loop binding.initial binding.info
      binding.closing).compileBatch binding.pendingPaths).arranged _ _ _ _ _
  · cases hstep

/-- The next turn of the loop keeps all batches sound. -/
theorem Sound.loopNext
    (h : binding.Sound)
    {after : Binding}
    (hstep : binding.loopNext = some after) : after.Sound := by
  unfold Binding.loopNext at hstep
  split at hstep
  · split at hstep
    · obtain rfl := Option.some.inj hstep
      exact h.arranged _ _ _ _ _
    · cases hstep
  · cases hstep

section Going

variable (h : binding.Sound) {batch : Nat}

include h

theorem Sound.finish (outcome : Outcome) :
    (binding.setPhase batch (.finished outcome)).Sound :=
  (h.beside batch).setPhase trivial

/-- A refreshed result has arrived in the batch's epoch. -/
theorem Sound.refreshed
    {startEpoch call : Nat}
    (hbatch : batch < binding.started)
    (hphase : (binding.batches batch).phase = .refreshing startEpoch call)
    {result : Result}
    (hanswer : binding.answers call = some (some result))
    (preflight : Preflight) :
    (binding.refreshed batch startEpoch result preflight).Sound := by
  have hsound := h.phases batch hbatch
  rw [hphase] at hsound
  obtain ⟨hdated, hsent⟩ := hsound
  cases preflight with
  | failed | drifted mismatches => exact h.finish .error
  | clean =>
      refine (h.beside batch).setPhase ⟨hdated, ?_, h.core.arrived call result
        hanswer⟩
      refine hsent.resolve_left (fun hrejected => ?_)
      rw [hanswer] at hrejected
      cases hrejected

/-- A result has arrived in the batch's epoch. -/
theorem Sound.compiled
    {startEpoch call : Nat}
    (hbatch : batch < binding.started)
    (hphase : (binding.batches batch).phase = .compiling startEpoch call)
    {result : Result}
    (hanswer : binding.answers call = some (some result))
    (preflight : Preflight) :
    (binding.compiled batch startEpoch result preflight).Sound := by
  have hsound := h.phases batch hbatch
  rw [hphase] at hsound
  obtain ⟨hdated, hsent⟩ := hsound
  have hheard : Notice.Heard batch binding.log := by
    refine hsent.resolve_left (fun hrejected => ?_)
    rw [hanswer] at hrejected
    cases hrejected
  unfold Binding.compiled
  split
  · exact h.finish .unchanged
  · cases preflight with
    | failed => exact h.finish .error
    | drifted mismatches =>
        have hrefresh := h.core.request hbatch (.filesChanged mismatches)
        refine ((h.beside batch).extend hrefresh.core hrefresh.extends_
          hrefresh.others (fun other _ => congrFun hrefresh.batches other)
          (fun other hother _ => hrefresh.started ▸ hother)).setPhase ?_
        exact ⟨hrefresh.extends_.dated hdated, hrefresh.sent⟩
    | clean =>
        exact (h.beside batch).setPhase ⟨hdated, hheard,
          h.core.arrived call result hanswer⟩

/-- A batch that has not started waits for nothing. -/
theorem Sound.resume
    {preflight : Preflight}
    {after : Binding}
    (hbatch : batch < binding.started)
    (hstep : binding.resume batch preflight = some after) : after.Sound := by
  have hsound := h.phases batch hbatch
  unfold Binding.resume at hstep
  split at hstep
  · next call hphase =>
      obtain ⟨reply, -, rfl⟩ := Option.map_eq_some_iff.mp hstep
      rw [hphase] at hsound
      exact (h.beside batch).compileNow hbatch hsound _ true
  · next startEpoch call hphase =>
      obtain ⟨reply, hreply, rfl⟩ := Option.map_eq_some_iff.mp hstep
      cases reply with
      | none => exact h.finish .error
      | some result => exact h.compiled hbatch hphase hreply preflight
  · next startEpoch call hphase =>
      obtain ⟨reply, hreply, rfl⟩ := Option.map_eq_some_iff.mp hstep
      cases reply with
      | none => exact h.finish .error
      | some result => exact h.refreshed hbatch hphase hreply preflight
  · cases hstep

/-- A render swaps in what has arrived in its epoch alone. -/
theorem Sound.rendered
    {written : Bool}
    {after : Binding}
    (hbatch : batch < binding.started)
    (hstep : binding.rendered batch written = some after) : after.Sound := by
  have hsound := h.phases batch hbatch
  unfold Binding.rendered at hstep
  split at hstep
  · next startEpoch result hphase =>
      rw [hphase] at hsound
      obtain ⟨hdated, hheard, harrived⟩ := hsound
      split at hstep <;> obtain rfl := Option.some.inj hstep
      · unfold Binding.swap
        split
        · next hepoch =>
            -- Every request of the batch belongs to this epoch.
            have hfinished : (binding.setPhase batch
                (.finished .success)).Sound := h.finish .success
            have hextends : (binding.setPhase batch
                (.finished .success)).Extends
                { binding.setPhase batch (.finished .success) with
                  ready := some result
                  log := .swapped batch result :: binding.log } :=
              ⟨le_refl _, ⟨[.swapped batch result], rfl, by simp⟩,
                fun _ _ h => h, List.prefix_refl _⟩
            refine ⟨?_, ?_⟩
            · have hcore := hfinished.core
              refine ⟨?_, hcore.waiting_nodup, hcore.waiting_open,
                hcore.unanswered, hcore.arrived, ?_, hcore.sorted,
                ⟨⟨hdated.2 hepoch.symm, hheard⟩, hcore.inTime⟩⟩
              · rintro other ⟨request, hmem⟩
                exact hcore.requested_lt other
                  ⟨request, (List.mem_cons.mp hmem).resolve_left (by simp)⟩
              · intro ready hready
                obtain rfl := Option.some.inj hready
                exact harrived
            · intro other hother
              refine hextends.phaseSound ?_ (hfinished.phases other hother)
              rintro ⟨request, hmem⟩
              exact ⟨request,
                (List.mem_cons.mp hmem).resolve_left (by simp)⟩
        · exact h.finish .error
      · exact h.finish .error
  · cases hstep

end Going

/-- The call in flight is settled. -/
theorem Sound.settle
    (h : binding.Sound)
    (reply : Option Result)
    (hreply : ∀ result, reply = some result → binding.Arrived result) :
    (binding.settle reply).Sound ∧ binding.Extends (binding.settle reply) := by
  unfold Binding.settle
  split
  · exact ⟨h, Extends.refl binding⟩
  · next call waiting hwaiting =>
      have hnodup := h.core.waiting_nodup
      rw [hwaiting] at hnodup
      obtain ⟨hfirst, hrest⟩ := List.nodup_cons.mp hnodup
      obtain ⟨hbound, hopen⟩ := h.core.waiting_open call
        (hwaiting ▸ List.mem_cons_self)
      have hextends : binding.Extends
          (({ binding with waiting := waiting } : Binding).answer call
            reply) := by
        refine ⟨le_refl _, ⟨[], rfl, by simp⟩, ?_, List.prefix_refl _⟩
        intro other earlier hearlier
        have hne : other ≠ call := by
          rintro rfl
          rw [hopen] at hearlier
          cases hearlier
        simp only [answer]
        rw [Function.update_of_ne hne]
        exact hearlier
      refine ⟨⟨⟨h.core.requested_lt, hrest, ?_, ?_, ?_,
        h.core.ready_arrived, h.core.sorted, h.core.inTime⟩, ?_⟩, hextends⟩
      · intro other hother
        have hne : other ≠ call := by
          rintro rfl
          exact hfirst hother
        obtain ⟨hlt, hnone⟩ := h.core.waiting_open other
          (hwaiting ▸ List.mem_cons_of_mem _ hother)
        refine ⟨hlt, ?_⟩
        simp only [answer]
        rw [Function.update_of_ne hne]
        exact hnone
      · intro other hother
        have hother : binding.calls.length ≤ other := hother
        simp only [answer]
        rw [Function.update_of_ne (by omega)]
        exact h.core.unanswered other hother
      · intro other result hresult
        simp only [answer] at hresult
        by_cases hsame : other = call
        · rw [hsame, Function.update_self] at hresult
          exact hreply result (Option.some.inj hresult)
        · rw [Function.update_of_ne hsame] at hresult
          exact h.core.arrived other result hresult
      · intro other hother
        exact hextends.phaseSound (fun hheard => hheard)
          (h.phases other hother)

/-- A session that fails invalidates. -/
theorem Sound.invalidate (h : binding.Sound) : binding.invalidate.Sound :=
  ⟨h.core.invalidate, fun batch hbatch =>
    (Extends.invalidate binding).phaseSound (invalidate_heard batch).mp
      (h.phases batch hbatch)⟩

/-- A dying session starts a new epoch. -/
theorem Sound.sessionFailed (h : binding.Sound) (inFlight : Bool) :
    (binding.sessionFailed inFlight).Sound := by
  have hfailed := h.invalidate.arranged binding.pendingPaths binding.loop none
    none binding.closing
  unfold Binding.sessionFailed
  simp only
  split
  · exact hfailed
  · exact hfailed
  · split
    · exact (hfailed.settle none (by simp)).1
    · exact hfailed

/-- Steps follow each other. -/
theorem Extends.trans
    {first second third : Binding}
    (h : first.Extends second)
    (h' : second.Extends third) : first.Extends third := by
  obtain ⟨added, hlog, hadded⟩ := h.log
  obtain ⟨more, hmore, hquiet⟩ := h'.log
  refine ⟨h.epoch.trans h'.epoch, ⟨more ++ added, ?_, ?_⟩,
    fun call reply hreply => h'.answers call reply (h.answers call reply
      hreply), h.generations.trans h'.generations⟩
  · rw [hmore, hlog, List.append_assoc]
  · intro hsame hmem
    have hfirst : second.epoch = first.epoch :=
      le_antisymm (h'.epoch.trans hsame.le) h.epoch
    rcases List.mem_append.mp hmem with hnew | hold
    · exact hquiet (hsame.trans hfirst.symm) hnew
    · exact hadded hfirst hold

/-- Changes that leave the log, the answers and the epoch alone. -/
theorem Extends.same
    {before after : Binding}
    (hepoch : after.epoch = before.epoch)
    (hlog : after.log = before.log)
    (hanswers : after.answers = before.answers)
    (hgenerations : after.generations = before.generations) :
    before.Extends after := by
  refine ⟨hepoch.ge, ⟨[], hlog, by simp⟩, ?_, ?_⟩
  · rw [hanswers]
    exact fun _ _ h => h
  · rw [hgenerations]

/-- A new answer has the largest generation so far. -/
theorem Sound.answered
    (h : binding.Sound)
    {generationId : Nat}
    {changed : Bool}
    {after : Binding}
    (hstep : binding.answered generationId changed = some after) :
    after.Sound ∧ binding.Extends after := by
  have hextends : binding.Extends { binding with
      generations := binding.generations ++ [generationId] } :=
    ⟨le_refl _, ⟨[], rfl, by simp⟩, fun _ _ h => h, List.prefix_append _ _⟩
  have hgrown (hmax : ∀ earlier ∈ binding.generations,
      earlier ≤ generationId) :
      ({ binding with
        generations := binding.generations ++ [generationId] } :
          Binding).Sound := by
    refine ⟨⟨h.core.requested_lt, h.core.waiting_nodup, h.core.waiting_open,
      h.core.unanswered, ?_, ?_, ?_, h.core.inTime⟩, ?_⟩
    · intro call result hresult
      exact hextends.arrived (h.core.arrived call result hresult)
    · intro result hresult
      exact hextends.arrived (h.core.ready_arrived result hresult)
    · refine List.pairwise_append.mpr ⟨h.core.sorted,
        List.pairwise_singleton _ _, ?_⟩
      intro earlier hearlier last hlast
      obtain rfl := List.mem_singleton.mp hlast
      exact hmax earlier hearlier
    · intro batch hbatch
      exact hextends.phaseSound (fun hheard => hheard)
        (h.phases batch hbatch)
  have hsettled (hmax : ∀ earlier ∈ binding.generations,
      earlier ≤ generationId) :
      ({ binding.settle
          (some ⟨generationId, changed, binding.generations.length⟩) with
        generations := binding.generations ++ [generationId] } :
          Binding).Sound ∧
        binding.Extends { binding.settle
          (some ⟨generationId, changed, binding.generations.length⟩) with
          generations := binding.generations ++ [generationId] } := by
    obtain ⟨hsound, hsettled⟩ := (hgrown hmax).settle
      (some ⟨generationId, changed, binding.generations.length⟩) (by
        intro result hresult
        obtain rfl := Option.some.inj hresult
        simp [Arrived])
    have hboth := And.intro hsound (hextends.trans hsettled)
    unfold Binding.settle at hboth ⊢
    cases hwaiting : binding.waiting with
    | nil =>
        simp only [hwaiting] at hboth ⊢
        exact hboth
    | cons call waiting =>
        simp only [hwaiting] at hboth ⊢
        exact hboth
  unfold Binding.answered at hstep
  split at hstep
  · cases hstep
  · cases hstep
  · split at hstep
    · next hmax =>
        obtain rfl := Option.some.inj hstep
        exact hsettled hmax
    · cases hstep

/-- Every event keeps what holds of a binding. -/
theorem Sound.step
    (h : binding.Sound)
    {ownedRoots : List String}
    {event : Event}
    {after : Binding}
    (hstep : binding.step ownedRoots event = some after) : after.Sound := by
  cases event with
  | watcher path =>
      obtain rfl := Option.some.inj hstep
      unfold Binding.watcher
      split
      · exact h
      · split
        · exact h
        · exact h.enqueue path
  | hotUpdate path =>
      obtain rfl := Option.some.inj hstep
      unfold Binding.hotUpdate
      split
      · exact h
      · exact h.outcomeFor path
  | ensureInitial =>
      obtain rfl := Option.some.inj hstep
      exact h.ensureInitial
  | staleBuffer path =>
      simp only [Binding.step] at hstep
      split at hstep
      · obtain rfl := Option.some.inj hstep
        exact h.enqueue path
      · cases hstep
  | drain => exact h.drain hstep
  | loopNext => exact h.loopNext hstep
  | resume batch preflight =>
      simp only [Binding.step] at hstep
      split at hstep
      · next hbatch => exact h.resume hbatch hstep
      · cases hstep
  | rendered batch written =>
      simp only [Binding.step] at hstep
      split at hstep
      · next hbatch => exact h.rendered hbatch hstep
      · cases hstep
  | initialized info =>
      obtain rfl := Option.some.inj hstep
      exact h.arranged _ _ _ (some info) _
  | answered generationId changed => exact (h.answered hstep).1
  | rejected =>
      simp only [Binding.step, Binding.rejected] at hstep
      split at hstep
      · cases hstep
      · cases hstep
      · obtain rfl := Option.some.inj hstep
        exact (h.settle none (by simp)).1
  | restarted =>
      simp only [Binding.step, Binding.restarted] at hstep
      split at hstep
      · obtain rfl := Option.some.inj hstep
        exact (h.settle none (by simp)).1.arranged _ _ _ none false
      · cases hstep
  | sessionFailed inFlight =>
      obtain rfl := Option.some.inj hstep
      exact h.sessionFailed inFlight

/-- A batch that goes on to compile takes nothing back. -/
theorem Core.compileNow_extends
    (h : binding.Core)
    {batch : Nat}
    (hbatch : batch < binding.started)
    (paths : List String)
    (changed : Bool) :
    binding.Extends (binding.compileNow batch paths changed) :=
  (h.request hbatch (binding.requestFor paths changed)).extends_.trans
    (Extends.same rfl rfl rfl rfl)

/-- A new batch takes nothing back. -/
theorem Core.compileBatch_extends
    (h : binding.Core)
    (paths : List String) :
    binding.Extends (binding.compileBatch paths) := by
  let called : Binding :=
    { binding with
      started := binding.started + 1
      batches := Function.update binding.batches binding.started
        ⟨paths, .finished .error⟩ }
  have hcalled : binding.Extends called := Extends.same rfl rfl rfl rfl
  have hcored : called.Core := h.same rfl (Nat.le_succ _) rfl rfl rfl rfl rfl
  unfold compileBatch
  simp only
  split
  · exact (hcalled.trans (Extends.invalidate called)).trans
      (Extends.same rfl rfl rfl rfl)
  · exact hcalled.trans
      (hcored.compileNow_extends (Nat.lt_succ_self _) paths false)

/-- An answer takes nothing back. -/
theorem Sound.settle_extends
    (h : binding.Sound)
    (reply : Option Result)
    (hreply : ∀ result, reply = some result → binding.Arrived result) :
    binding.Extends (binding.settle reply) :=
  (h.settle reply hreply).2

theorem enqueue_extends (path : String) :
    binding.Extends (binding.enqueue path) :=
  Extends.same rfl rfl rfl rfl

theorem outcomeFor_extends (path : String) :
    binding.Extends (binding.outcomeFor path) := by
  unfold outcomeFor
  split
  · exact Extends.refl binding
  · split
    · split
      · exact Extends.refl binding
      · exact enqueue_extends path
    · exact enqueue_extends path

theorem setPhase_extends (batch : Nat) (phase : Phase) :
    binding.Extends (binding.setPhase batch phase) :=
  Extends.same rfl rfl rfl rfl

/-- A batch that goes on takes nothing back. -/
theorem Core.resume_extends
    (h : binding.Core)
    {batch : Nat}
    (hbatch : batch < binding.started)
    {preflight : Preflight}
    {after : Binding}
    (hstep : binding.resume batch preflight = some after) :
    binding.Extends after := by
  unfold resume at hstep
  split at hstep
  · obtain ⟨reply, -, rfl⟩ := Option.map_eq_some_iff.mp hstep
    exact h.compileNow_extends hbatch _ true
  · next startEpoch call hphase =>
      obtain ⟨reply, -, rfl⟩ := Option.map_eq_some_iff.mp hstep
      cases reply with
      | none => exact setPhase_extends batch _
      | some result =>
          unfold compiled
          simp only
          split
          · exact setPhase_extends batch _
          · cases preflight with
            | failed => exact setPhase_extends batch _
            | clean => exact setPhase_extends batch _
            | drifted mismatches =>
                exact (h.request hbatch
                  (.filesChanged mismatches)).extends_.trans
                    (setPhase_extends batch _)
  · obtain ⟨reply, -, rfl⟩ := Option.map_eq_some_iff.mp hstep
    cases reply with
    | none => exact setPhase_extends batch _
    | some result => cases preflight <;> exact setPhase_extends batch _
  · cases hstep

/-- The end of a render takes nothing back. -/
theorem rendered_extends
    {batch : Nat}
    {written : Bool}
    {after : Binding}
    (hstep : binding.rendered batch written = some after) :
    binding.Extends after := by
  unfold rendered at hstep
  split at hstep
  · next startEpoch result hphase =>
      split at hstep <;> obtain rfl := Option.some.inj hstep
      · unfold swap
        split
        · exact ⟨le_refl _, ⟨[.swapped batch result], rfl, by simp⟩,
            fun _ _ h => h, List.prefix_refl _⟩
        · exact setPhase_extends batch _
      · exact setPhase_extends batch _
  · cases hstep

/-- A step only adds to what is known of a run. -/
theorem Sound.step_extends
    (h : binding.Sound)
    {ownedRoots : List String}
    {event : Event}
    {after : Binding}
    (hstep : binding.step ownedRoots event = some after) :
    binding.Extends after := by
  cases event with
  | watcher path =>
      obtain rfl := Option.some.inj hstep
      unfold Binding.watcher
      split
      · exact Extends.refl binding
      · split
        · exact Extends.refl binding
        · exact enqueue_extends path
  | hotUpdate path =>
      obtain rfl := Option.some.inj hstep
      unfold Binding.hotUpdate
      split
      · exact Extends.refl binding
      · exact outcomeFor_extends path
  | ensureInitial =>
      obtain rfl := Option.some.inj hstep
      unfold Binding.ensureInitial
      split
      · exact Extends.refl binding
      · exact (h.core.compileBatch_extends []).trans
          (Extends.same rfl rfl rfl rfl)
  | staleBuffer path =>
      simp only [Binding.step] at hstep
      split at hstep
      · obtain rfl := Option.some.inj hstep
        exact enqueue_extends path
      · cases hstep
  | drain =>
      simp only [Binding.step, Binding.drain] at hstep
      split at hstep
      · obtain rfl := Option.some.inj hstep
        have hdrained : ({ binding with pendingPaths := [] } :
            Binding).Core :=
          h.core.same rfl (le_refl _) rfl rfl rfl rfl rfl
        have hemptied : binding.Extends { binding with pendingPaths := [] } :=
          Extends.same rfl rfl rfl rfl
        exact (hemptied.trans (hdrained.compileBatch_extends
          binding.pendingPaths)).trans (Extends.same rfl rfl rfl rfl)
      · cases hstep
  | loopNext =>
      simp only [Binding.step, Binding.loopNext] at hstep
      split at hstep
      · split at hstep
        · obtain rfl := Option.some.inj hstep
          exact Extends.same rfl rfl rfl rfl
        · cases hstep
      · cases hstep
  | resume batch preflight =>
      simp only [Binding.step] at hstep
      split at hstep
      · next hbatch => exact h.core.resume_extends hbatch hstep
      · cases hstep
  | rendered batch written =>
      simp only [Binding.step] at hstep
      split at hstep
      · exact rendered_extends hstep
      · cases hstep
  | initialized info =>
      obtain rfl := Option.some.inj hstep
      exact Extends.same rfl rfl rfl rfl
  | answered generationId changed => exact (h.answered hstep).2
  | rejected =>
      simp only [Binding.step, Binding.rejected] at hstep
      split at hstep
      · cases hstep
      · cases hstep
      · obtain rfl := Option.some.inj hstep
        exact h.settle_extends none (by simp)
  | restarted =>
      simp only [Binding.step, Binding.restarted] at hstep
      split at hstep
      · obtain rfl := Option.some.inj hstep
        exact (h.settle_extends none (by simp)).trans
          (Extends.same rfl rfl rfl rfl)
      · cases hstep
  | sessionFailed inFlight =>
      obtain rfl := Option.some.inj hstep
      have hfailed : binding.Extends
          { binding.invalidate with info := none } :=
        (Extends.invalidate binding).trans (Extends.same rfl rfl rfl rfl)
      have hsound := h.invalidate.arranged binding.pendingPaths binding.loop
        none none binding.closing
      unfold Binding.sessionFailed
      simp only
      split
      · exact hfailed
      · exact hfailed
      · split
        · exact hfailed.trans (hsound.settle_extends none (by simp))
        · exact hfailed

end Binding

end Vite

end Dsql
