import Dsql.Vite.Epochs

/-!
# Deliveries of the Vite binding

A path that was queued stays pending until the loop takes it, and a batch that
the loop has taken sends its request, at once or after a restart of the
session.
-/

namespace Dsql

namespace Vite

/-- The call that a phase waits for. -/
def Phase.call : Phase → Option Nat
  | .restarting call | .compiling _ call | .refreshing _ call => some call
  | .rendering _ _ | .finished _ => none

/-- A full compile reads every path. -/
def Request.Covers (path : String) : Request → Prop
  | .compile => True
  | .filesChanged paths => path ∈ paths
  | .restart => False

namespace Binding

/-- How the loop, its batch and the calls of the client belong together. -/
structure Linked (binding : Binding) : Prop where
  running : ∀ batch, binding.loop = .running batch → batch < binding.started
  queued : binding.pendingPaths ≠ [] → binding.loop ≠ .idle
  settled : ∀ call < binding.calls.length, call ∉ binding.waiting →
    (binding.answers call).isSome = true
  calls_of : ∀ batch call, (binding.batches batch).phase.call = some call →
    call < binding.calls.length
  restart : ∀ call, binding.calls[call]? = some .restart →
    binding.answers call = none →
      ∃ batch, binding.loop = .running batch ∧
        (binding.batches batch).phase = .restarting call
  closing : binding.closing = true →
    ∃ call, binding.calls[call]? = some .restart ∧
      binding.answers call = none

variable {binding : Binding}

theorem initialState_linked : initialState.Linked := by
  constructor <;> simp [initialState, Phase.call]

/-- The client takes requests, unless the running batch restarts it. -/
theorem Linked.not_closing
    (h : binding.Linked)
    (hloop : ∀ batch call, binding.loop = .running batch →
      (binding.batches batch).phase = .restarting call →
        (binding.answers call).isSome = true) :
    binding.closing = false := by
  by_contra hclosing
  obtain ⟨call, hrestart, hnone⟩ := h.closing (by simpa using hclosing)
  obtain ⟨batch, hrunning, hphase⟩ := h.restart call hrestart hnone
  have hsome := hloop batch call hrunning hphase
  rw [hnone] at hsome
  cases hsome

/-- A request keeps the calls linked. -/
theorem Linked.request
    (h : binding.Linked)
    (batch : Nat)
    (sent : Request)
    (hsent : sent ≠ .restart) :
    (binding.request batch sent).Linked := by
  have hcalls {call : Nat}
      (hcall : (binding.calls ++ [sent])[call]? = some .restart) :
      binding.calls[call]? = some .restart ∧
        call < binding.calls.length := by
    by_cases hbound : call < binding.calls.length
    · rw [List.getElem?_append_left hbound] at hcall
      exact ⟨hcall, hbound⟩
    · rw [List.getElem?_append_right (by omega)] at hcall
      have hmem := List.mem_of_getElem? hcall
      exact absurd (List.mem_singleton.mp hmem).symm hsent
  have hlength : (binding.calls ++ [sent]).length =
      binding.calls.length + 1 := by simp
  have hkept {call : Nat}
      (hcall : binding.calls[call]? = some .restart) :
      (binding.calls ++ [sent])[call]? = some .restart := by
    obtain ⟨hbound, -⟩ := List.getElem?_eq_some_iff.mp hcall
    rw [List.getElem?_append_left hbound]
    exact hcall
  unfold Binding.request
  simp only
  split
  · refine ⟨h.running, h.queued, ?_, ?_, ?_, ?_⟩
    · intro call hcall hwaiting
      have hcall : call < (binding.calls ++ [sent]).length := hcall
      simp only [answer]
      by_cases hsame : call = binding.calls.length
      · rw [hsame, Function.update_self]
        rfl
      · rw [Function.update_of_ne hsame]
        exact h.settled call (by omega) hwaiting
    · intro other call hcall
      exact Nat.lt_of_lt_of_eq (Nat.lt_succ_of_lt (h.calls_of other call
        hcall)) hlength.symm
    · intro call hcall hnone
      obtain ⟨hold, hbound⟩ := hcalls hcall
      simp only [answer] at hnone
      rw [Function.update_of_ne (by omega)] at hnone
      exact h.restart call hold hnone
    · intro hclosing
      obtain ⟨call, hcall, hnone⟩ := h.closing hclosing
      obtain ⟨hbound, -⟩ := List.getElem?_eq_some_iff.mp hcall
      refine ⟨call, hkept hcall, ?_⟩
      simp only [answer]
      rw [Function.update_of_ne (by omega)]
      exact hnone
  · refine ⟨h.running, h.queued, ?_, ?_, ?_, ?_⟩
    · intro call hcall hwaiting
      have hcall : call < (binding.calls ++ [sent]).length := hcall
      refine h.settled call ?_
        (fun hmem => hwaiting (List.mem_append_left _ hmem))
      have hne : call ≠ binding.calls.length := by
        rintro rfl
        exact hwaiting (List.mem_append_right _ (List.mem_singleton_self _))
      omega
    · intro other call hcall
      exact Nat.lt_of_lt_of_eq (Nat.lt_succ_of_lt (h.calls_of other call
        hcall)) hlength.symm
    · intro call hcall hnone
      exact h.restart call (hcalls hcall).1 hnone
    · intro hclosing
      obtain ⟨call, hcall, hnone⟩ := h.closing hclosing
      exact ⟨call, hkept hcall, hnone⟩

/-- A batch goes on, once the restart that it waited for has ended. -/
theorem Linked.setPhase
    (h : binding.Linked)
    {batch : Nat}
    {phase : Phase}
    (hcall : ∀ call, phase.call = some call → call < binding.calls.length)
    (hrestart : ∀ call, (binding.batches batch).phase = .restarting call →
      (binding.answers call).isSome = true) :
    (binding.setPhase batch phase).Linked := by
  refine ⟨h.running, h.queued, h.settled, ?_, ?_, h.closing⟩
  · intro other call hother
    by_cases hsame : other = batch
    · subst hsame
      exact hcall call (by simpa [Binding.setPhase] using hother)
    · exact h.calls_of other call (by
        simpa [Binding.setPhase, hsame] using hother)
  · intro call hreq hnone
    obtain ⟨other, hrunning, hphase⟩ := h.restart call hreq hnone
    have hne : other ≠ batch := by
      rintro rfl
      have hsome := hrestart call hphase
      have hnone : binding.answers call = none := hnone
      rw [hnone] at hsome
      cases hsome
    exact ⟨other, hrunning, by simpa [Binding.setPhase, hne] using hphase⟩

theorem requestFor_ne_restart (paths : List String) (changed : Bool) :
    binding.requestFor paths changed ≠ .restart := by
  unfold requestFor
  split <;> simp

theorem request_calls_length (batch : Nat) (sent : Request) :
    (binding.request batch sent).calls.length = binding.calls.length + 1 := by
  unfold request
  simp only
  split <;> simp [answer]

/-- A request leaves the batches and the loop alone. -/
theorem request_batches (batch : Nat) (sent : Request) :
    (binding.request batch sent).batches = binding.batches ∧
      (binding.request batch sent).loop = binding.loop ∧
        (binding.request batch sent).pendingPaths =
          binding.pendingPaths := by
  unfold request
  simp only
  split <;> exact ⟨rfl, rfl, rfl⟩

/-- A batch that goes on to compile keeps the calls linked. -/
theorem Linked.compileNow
    (h : binding.Linked)
    (hcore : binding.Core)
    {batch : Nat}
    (hbatch : batch < binding.started)
    (hrestart : ∀ call, (binding.batches batch).phase = .restarting call →
      (binding.answers call).isSome = true)
    (paths : List String)
    (changed : Bool) :
    (binding.compileNow batch paths changed).Linked := by
  have hsent := hcore.request hbatch (binding.requestFor paths changed)
  refine (h.request batch _
    (requestFor_ne_restart paths changed)).setPhase ?_ ?_
  · intro call hcall
    obtain rfl := Option.some.inj hcall
    rw [request_calls_length]
    exact Nat.lt_succ_self _
  · intro call hphase
    rw [(request_batches batch _).1] at hphase
    obtain ⟨reply, hreply⟩ :=
      Option.isSome_iff_exists.mp (hrestart call hphase)
    rw [hsent.extends_.answers call reply hreply]
    rfl

/-- A new batch that waits for nothing yet. -/
theorem Linked.opened
    (h : binding.Linked)
    (paths : List String) :
    ({ binding with
      started := binding.started + 1
      batches := Function.update binding.batches binding.started
        ⟨paths, .finished .error⟩ } : Binding).Linked := by
  refine ⟨?_, h.queued, h.settled, ?_, ?_, h.closing⟩
  · intro batch hrunning
    exact Nat.lt_succ_of_lt (h.running batch hrunning)
  · intro batch call hphase
    by_cases hsame : batch = binding.started
    · subst hsame
      simp [Phase.call] at hphase
    · exact h.calls_of batch call (by simpa [hsame] using hphase)
  · intro call hrestart hnone
    obtain ⟨batch, hrunning, hphase⟩ := h.restart call hrestart hnone
    have hne : batch ≠ binding.started :=
      (h.running batch hrunning).ne
    exact ⟨batch, hrunning, by simpa [hne] using hphase⟩

/-- A new batch keeps the numbering of batches. -/
theorem Core.opened
    (h : binding.Core)
    (paths : List String) :
    ({ binding with
      started := binding.started + 1
      batches := Function.update binding.batches binding.started
        ⟨paths, .finished .error⟩ } : Binding).Core :=
  h.same rfl (Nat.le_succ _) rfl rfl rfl rfl rfl

/-- A batch without the configuration keeps the calls linked. -/
theorem Linked.compileBatch
    (h : binding.Linked)
    (hcore : binding.Core)
    {paths : List String}
    (hconfig : binding.configChanged paths = false) :
    (binding.compileBatch paths).Linked := by
  unfold Binding.compileBatch
  simp only [hconfig, Bool.false_eq_true, if_false]
  refine (h.opened paths).compileNow (hcore.opened paths)
    (Nat.lt_succ_self _) ?_ paths false
  intro call hphase
  simp at hphase

/-- Every restart has ended. -/
def Restarted (binding : Binding) : Prop :=
  ∀ call, binding.calls[call]? = some .restart →
    (binding.answers call).isSome = true

/-- While the loop settles every restart has ended. -/
theorem Linked.restarted_of_settling
    (h : binding.Linked)
    (hloop : binding.loop = .settling) : binding.Restarted := by
  intro call hrestart
  by_contra hopen
  obtain ⟨batch, hrunning, -⟩ := h.restart call hrestart
    (by simpa using hopen)
  rw [hloop] at hrunning
  cases hrunning

/-- The loop runs a batch. -/
theorem Linked.run
    (h : binding.Linked)
    (hrestarted : binding.Restarted)
    {batch : Nat}
    (hbatch : batch < binding.started) :
    ({ binding with loop := .running batch } : Binding).Linked := by
  refine ⟨?_, ?_, h.settled, h.calls_of, ?_, h.closing⟩
  · intro other hrunning
    obtain rfl := Loop.running.inj hrunning
    exact hbatch
  · intro _ hidle
    cases hidle
  · intro call hrestart hnone
    have hsome := hrestarted call hrestart
    have hnone : binding.answers call = none := hnone
    rw [hnone] at hsome
    cases hsome

/-- The running batch restarts the session. -/
theorem Linked.restartBatch
    (h : binding.Linked)
    (hcore : binding.Core)
    (hrestarted : binding.Restarted)
    {batch : Nat}
    (hrunning : binding.loop = .running batch) :
    (binding.invalidate.restart.setPhase batch
      (.restarting binding.calls.length)).Linked := by
  have hlength : (binding.calls ++ [Request.restart]).length =
      binding.calls.length + 1 := by simp
  refine ⟨h.running, h.queued, ?_, ?_, ?_, ?_⟩
  · intro call hcall hwaiting
    have hcall : call < (binding.calls ++ [Request.restart]).length := hcall
    refine h.settled call ?_
      (fun hmem => hwaiting (List.mem_append_left _ hmem))
    have hne : call ≠ binding.calls.length := by
      rintro rfl
      exact hwaiting (List.mem_append_right _ (List.mem_singleton_self _))
    omega
  · intro other call hother
    have hgoal : call < (binding.calls ++ [Request.restart]).length := by
      rw [hlength]
      by_cases hsame : other = batch
      · subst hsame
        have hphase : Phase.call (.restarting binding.calls.length) =
            some call := by
          simpa [Binding.setPhase] using hother
        obtain rfl := Option.some.inj hphase
        exact Nat.lt_succ_self _
      · refine Nat.lt_succ_of_lt (h.calls_of other call ?_)
        simpa [Binding.setPhase, Binding.restart, Binding.invalidate,
          hsame] using hother
    exact hgoal
  · intro call hrestart hnone
    have hrestart : (binding.calls ++ [Request.restart])[call]? = some .restart :=
      hrestart
    have hnone : binding.answers call = none := hnone
    refine ⟨batch, hrunning, ?_⟩
    have hcall : call = binding.calls.length := by
      by_contra hne
      obtain ⟨hbound, -⟩ := List.getElem?_eq_some_iff.mp hrestart
      rw [List.getElem?_append_left (by omega)] at hrestart
      have hsome := hrestarted call hrestart
      rw [hnone] at hsome
      cases hsome
    subst hcall
    simp [Binding.setPhase]
  · intro _
    refine ⟨binding.calls.length, ?_, hcore.unanswered _ (le_refl _)⟩
    have hlast : (binding.calls ++ [Request.restart])[binding.calls.length]? =
        some Request.restart := by simp
    exact hlast

/-- The loop takes the pending paths. -/
theorem Linked.drain
    (h : binding.Linked)
    (hcore : binding.Core)
    {after : Binding}
    (hstep : binding.drain = some after) : after.Linked := by
  unfold Binding.drain at hstep
  split at hstep
  · next hloop =>
      obtain rfl := Option.some.inj hstep
      have hrestarted := h.restarted_of_settling hloop
      let called : Binding :=
        { binding with
          pendingPaths := []
          started := binding.started + 1
          batches := Function.update binding.batches binding.started
            ⟨binding.pendingPaths, .finished .error⟩ }
      have hcalled : called.Linked := by
        have hopened := h.opened binding.pendingPaths
        exact ⟨hopened.running, fun hne => absurd rfl hne, hopened.settled,
          hopened.calls_of, hopened.restart, hopened.closing⟩
      have hcored : called.Core :=
        hcore.same rfl (Nat.le_succ _) rfl rfl rfl rfl rfl
      have hbatch : binding.started < called.started := Nat.lt_succ_self _
      have hrunning := hcalled.run hrestarted hbatch
      unfold Binding.compileBatch
      simp only
      split
      · exact hrunning.restartBatch
          (hcored.same rfl (le_refl _) rfl rfl rfl rfl rfl) hrestarted rfl
      · have hsame : ({ called.compileNow binding.started
              binding.pendingPaths false with
            loop := .running binding.started } : Binding) =
            ({ called with loop := .running binding.started } :
              Binding).compileNow binding.started binding.pendingPaths
                false := by
          unfold Binding.compileNow Binding.request
          simp only
          split <;> rfl
        have hlinked := hrunning.compileNow
          (hcored.same rfl (le_refl _) rfl rfl rfl rfl rfl) hbatch (by
            intro call hphase
            simp [called] at hphase) binding.pendingPaths false
        exact hsame ▸ hlinked
  · cases hstep

/-- A queued path keeps the calls linked. -/
theorem Linked.enqueue
    (h : binding.Linked)
    (path : String) : (binding.enqueue path).Linked := by
  have hrunning {batch : Nat} :
      (binding.enqueue path).loop = .running batch ↔
        binding.loop = .running batch := by
    unfold Binding.enqueue
    simp only
    split
    · next hidle => simp [hidle]
    · exact Iff.rfl
  refine ⟨?_, ?_, h.settled, h.calls_of, ?_, h.closing⟩
  · intro batch hloop
    exact h.running batch (hrunning.mp hloop)
  · intro _
    unfold Binding.enqueue
    simp only
    split
    · simp
    · next hidle => exact hidle
  · intro call hrestart hnone
    obtain ⟨batch, hloop, hphase⟩ := h.restart call hrestart hnone
    exact ⟨batch, hrunning.mpr hloop, hphase⟩

theorem Linked.outcomeFor
    (h : binding.Linked)
    (path : String) : (binding.outcomeFor path).Linked := by
  unfold Binding.outcomeFor
  split
  · exact h
  · split
    · split
      · exact h
      · exact h.enqueue path
    · exact h.enqueue path

/-- The initial compile keeps the calls linked. -/
theorem Linked.ensureInitial
    (h : binding.Linked)
    (hcore : binding.Core) : binding.ensureInitial.Linked := by
  unfold Binding.ensureInitial
  split
  · exact h
  · have hconfig : binding.configChanged [] = false := by
      unfold configChanged
      split <;> rfl
    have hlinked := h.compileBatch hcore hconfig
    exact ⟨hlinked.running, hlinked.queued, hlinked.settled,
      hlinked.calls_of, hlinked.restart, hlinked.closing⟩

/-- The next turn of the loop keeps the calls linked. -/
theorem Linked.loopNext
    (h : binding.Linked)
    {after : Binding}
    (hstep : binding.loopNext = some after) : after.Linked := by
  unfold Binding.loopNext at hstep
  split at hstep
  · next batch hloop =>
      split at hstep
      · next outcome hphase =>
          obtain rfl := Option.some.inj hstep
          refine ⟨?_, ?_, h.settled, h.calls_of, ?_, h.closing⟩
          · intro other hrunning
            simp only at hrunning
            split at hrunning <;> cases hrunning
          · intro hne
            rw [if_neg (by simpa using hne)]
            simp
          · intro call hrestart hnone
            obtain ⟨other, hrunning, hrestarting⟩ :=
              h.restart call hrestart hnone
            rw [hloop] at hrunning
            obtain rfl := Loop.running.inj hrunning
            rw [hphase] at hrestarting
            cases hrestarting
      · cases hstep
  · cases hstep

/-- A batch that does not restart the session goes on. -/
theorem Linked.proceed
    (h : binding.Linked)
    {batch : Nat}
    (hphase : ∀ call, (binding.batches batch).phase ≠ .restarting call)
    {phase : Phase}
    (hcall : ∀ call, phase.call = some call → call < binding.calls.length) :
    (binding.setPhase batch phase).Linked :=
  h.setPhase hcall (fun call hrestart => absurd hrestart (hphase call))

/-- A result keeps the calls linked. -/
theorem Linked.compiled
    (h : binding.Linked)
    {batch : Nat}
    (hphase : ∀ call, (binding.batches batch).phase ≠ .restarting call)
    (startEpoch : Nat)
    (result : Result)
    (preflight : Preflight) :
    (binding.compiled batch startEpoch result preflight).Linked := by
  unfold Binding.compiled
  split
  · exact h.proceed hphase (by simp [Phase.call])
  · cases preflight with
    | failed => exact h.proceed hphase (by simp [Phase.call])
    | clean => exact h.proceed hphase (by simp [Phase.call])
    | drifted mismatches =>
        have hlinked := h.request batch
          (.filesChanged mismatches) (by simp)
        refine hlinked.proceed ?_ ?_
        · rw [(request_batches batch _).1]
          exact hphase
        · intro call hcall
          obtain rfl := Option.some.inj hcall
          rw [request_calls_length]
          exact Nat.lt_succ_self _

/-- A batch that goes on keeps the calls linked. -/
theorem Linked.resume
    (h : binding.Linked)
    (hcore : binding.Core)
    {batch : Nat}
    (hbatch : batch < binding.started)
    {preflight : Preflight}
    {after : Binding}
    (hstep : binding.resume batch preflight = some after) :
    after.Linked := by
  unfold Binding.resume at hstep
  split at hstep
  · next call hphase =>
      obtain ⟨reply, hreply, rfl⟩ := Option.map_eq_some_iff.mp hstep
      refine h.compileNow hcore hbatch ?_ _ true
      intro other hother
      rw [hphase] at hother
      obtain rfl := Phase.restarting.inj hother
      rw [hreply]
      rfl
  · next startEpoch call hphase =>
      have hnot (other : Nat) :
          (binding.batches batch).phase ≠ .restarting other := by
        rw [hphase]
        simp
      obtain ⟨reply, -, rfl⟩ := Option.map_eq_some_iff.mp hstep
      cases reply with
      | none => exact h.proceed hnot (by simp [Phase.call])
      | some result => exact h.compiled hnot startEpoch result preflight
  · next startEpoch call hphase =>
      have hnot (other : Nat) :
          (binding.batches batch).phase ≠ .restarting other := by
        rw [hphase]
        simp
      obtain ⟨reply, -, rfl⟩ := Option.map_eq_some_iff.mp hstep
      cases reply with
      | none => exact h.proceed hnot (by simp [Phase.call])
      | some result =>
          cases preflight <;> exact h.proceed hnot (by simp [Phase.call])
  · cases hstep

/-- The end of a render keeps the calls linked. -/
theorem Linked.rendered
    (h : binding.Linked)
    {batch : Nat}
    {written : Bool}
    {after : Binding}
    (hstep : binding.rendered batch written = some after) :
    after.Linked := by
  unfold Binding.rendered at hstep
  split at hstep
  · next startEpoch result hphase =>
      have hnot (other : Nat) :
          (binding.batches batch).phase ≠ .restarting other := by
        rw [hphase]
        simp
      have hfinished (outcome : Outcome) :
          (binding.setPhase batch (.finished outcome)).Linked :=
        h.proceed hnot (by simp [Phase.call])
      split at hstep <;> obtain rfl := Option.some.inj hstep
      · unfold Binding.swap
        split
        · have hlinked := hfinished .success
          exact ⟨hlinked.running, hlinked.queued, hlinked.settled,
            hlinked.calls_of, hlinked.restart, hlinked.closing⟩
        · exact hfinished .error
      · exact hfinished .error
  · cases hstep

/-- The call in flight is settled.  The client closes until the restart has
ended. -/
theorem Linked.settle
    (h : binding.Linked)
    (reply : Option Result)
    {closing : Bool}
    (hclosing : closing = true →
      binding.closing = true ∧ binding.inFlight ≠ some .restart) :
    ({ binding.settle reply with closing := closing } : Binding).Linked := by
  unfold Binding.settle
  cases hwaiting : binding.waiting with
  | nil =>
      refine ⟨h.running, h.queued, h.settled, h.calls_of, h.restart, ?_⟩
      exact fun hclosed => h.closing (hclosing hclosed).1
  | cons call waiting =>
      refine ⟨h.running, h.queued, ?_, h.calls_of, ?_, ?_⟩
      · intro other hother hnot
        simp only [answer]
        by_cases hsame : other = call
        · rw [hsame, Function.update_self]
          rfl
        · rw [Function.update_of_ne hsame]
          refine h.settled other hother ?_
          rw [hwaiting]
          exact List.not_mem_cons_of_ne_of_not_mem hsame hnot
      · intro other hrestart hnone
        simp only [answer] at hnone
        by_cases hsame : other = call
        · rw [hsame, Function.update_self] at hnone
          cases hnone
        · rw [Function.update_of_ne hsame] at hnone
          exact h.restart other hrestart hnone
      · intro hclosed
        obtain ⟨hwas, hflight⟩ := hclosing hclosed
        obtain ⟨other, hrestart, hnone⟩ := h.closing hwas
        have hne : other ≠ call := by
          rintro rfl
          refine hflight ?_
          unfold inFlight
          rw [hwaiting]
          exact hrestart
        refine ⟨other, hrestart, ?_⟩
        simp only [answer]
        rw [Function.update_of_ne hne]
        exact hnone

@[simp] theorem settle_closing (reply : Option Result) :
    (binding.settle reply).closing = binding.closing := by
  unfold settle
  split <;> rfl

/-- The call in flight is settled, and is no restart. -/
theorem Linked.settle_request
    (h : binding.Linked)
    (reply : Option Result)
    (hflight : binding.inFlight ≠ some .restart) :
    (binding.settle reply).Linked := by
  have hsettled : ({ binding.settle reply with
      closing := (binding.settle reply).closing } : Binding).Linked :=
    h.settle reply (fun hclosing =>
      ⟨settle_closing reply ▸ hclosing, hflight⟩)
  exact hsettled

/-- A dying session keeps the calls linked. -/
theorem Linked.sessionFailed
    (h : binding.Linked)
    (inFlight : Bool) : (binding.sessionFailed inFlight).Linked := by
  have hfailed : ({ binding.invalidate with info := none } :
      Binding).Linked :=
    ⟨h.running, h.queued, h.settled, h.calls_of, h.restart, h.closing⟩
  unfold Binding.sessionFailed
  simp only
  split
  · exact hfailed
  · exact hfailed
  · next hnot hflight =>
      split
      · refine hfailed.settle_request none (fun hrestart => ?_)
        have hrestart : binding.inFlight = some .restart := hrestart
        rw [hflight] at hrestart
        exact hnot (Option.some.inj hrestart)
      · exact hfailed

/-- Every event keeps the loop and the calls together. -/
theorem Linked.step
    (h : binding.Linked)
    (hcore : binding.Core)
    {ownedRoots : List String}
    {event : Event}
    {after : Binding}
    (hstep : binding.step ownedRoots event = some after) :
    after.Linked := by
  cases event with
  | watcher path =>
      obtain rfl := Option.some.inj hstep
      unfold Binding.watcher
      split
      · exact h
      · split
        · exact h
        · exact h.enqueue path
  | hotUpdate path =>
      obtain rfl := Option.some.inj hstep
      unfold Binding.hotUpdate
      split
      · exact h
      · exact h.outcomeFor path
  | ensureInitial =>
      obtain rfl := Option.some.inj hstep
      exact h.ensureInitial hcore
  | staleBuffer path =>
      simp only [Binding.step] at hstep
      split at hstep
      · obtain rfl := Option.some.inj hstep
        exact h.enqueue path
      · cases hstep
  | drain => exact h.drain hcore hstep
  | loopNext => exact h.loopNext hstep
  | resume batch preflight =>
      simp only [Binding.step] at hstep
      split at hstep
      · next hbatch => exact h.resume hcore hbatch hstep
      · cases hstep
  | rendered batch written =>
      simp only [Binding.step] at hstep
      split at hstep
      · exact h.rendered hstep
      · cases hstep
  | initialized info =>
      obtain rfl := Option.some.inj hstep
      exact ⟨h.running, h.queued, h.settled, h.calls_of, h.restart,
        h.closing⟩
  | answered generationId changed =>
      simp only [Binding.step, Binding.answered] at hstep
      split at hstep
      · cases hstep
      · cases hstep
      · next hnot hflight =>
          split at hstep
          · obtain rfl := Option.some.inj hstep
            have hlinked := h.settle_request
              (some ⟨generationId, changed, binding.generations.length⟩)
              (fun hrestart =>
                hnot (Option.some.inj (hflight.symm.trans hrestart)))
            exact ⟨hlinked.running, hlinked.queued, hlinked.settled,
              hlinked.calls_of, hlinked.restart, hlinked.closing⟩
          · cases hstep
  | rejected =>
      simp only [Binding.step, Binding.rejected] at hstep
      split at hstep
      · cases hstep
      · cases hstep
      · next hnot hflight =>
          obtain rfl := Option.some.inj hstep
          exact h.settle_request none (fun hrestart =>
            hnot (Option.some.inj (hflight.symm.trans hrestart)))
  | restarted =>
      simp only [Binding.step, Binding.restarted] at hstep
      split at hstep
      · obtain rfl := Option.some.inj hstep
        have hlinked : ({ binding.settle none with
            closing := false } : Binding).Linked :=
          h.settle none (by simp)
        exact ⟨hlinked.running, hlinked.queued, hlinked.settled,
          hlinked.calls_of, hlinked.restart, hlinked.closing⟩
      · cases hstep
  | sessionFailed inFlight =>
      obtain rfl := Option.some.inj hstep
      exact h.sessionFailed inFlight

/-- The log has a request that carries the path. -/
def Delivered (path : String) (log : List Notice) : Prop :=
  ∃ batch request, .requested batch request ∈ log ∧ request.Covers path

/-- The batch carries the path, behind a restart of the session. -/
def carries (binding : Binding) (path : String) (batch : Nat) : Bool :=
  match (binding.batches batch).phase with
  | .restarting _ => decide (path ∈ (binding.batches batch).paths)
  | _ => false

/-- The path is on its way. -/
def Carried (binding : Binding) (path : String) : Prop :=
  path ∈ binding.pendingPaths ∨
    ∃ batch, binding.loop = .running batch ∧
      binding.carries path batch = true

def waitsFor (binding : Binding) (call : Nat) : Nat :=
  if (binding.answers call).isSome then 0 else 1

/-- How far a phase is from the end of its batch. -/
def phaseRank (binding : Binding) : Phase → Nat
  | .restarting call => 8 + binding.waitsFor call
  | .compiling _ call => 6 + binding.waitsFor call
  | .refreshing _ call => 4 + binding.waitsFor call
  | .rendering _ _ => 3
  | .finished _ => 2

/-- How far a path that is on its way is from its request. -/
def rank (binding : Binding) (path : String) : Nat :=
  match binding.loop with
  | .idle => 0
  | .settling => 20
  | .running batch =>
      (if binding.carries path batch then 0 else 20) +
        binding.phaseRank (binding.batches batch).phase

/-- The event moves the loop, or the batch that it runs. -/
def Moves (binding : Binding) : Event → Prop
  | .drain | .loopNext => True
  | .resume batch _ | .rendered batch _ => binding.loop = .running batch
  | _ => False

/-- What the other events do to the loop. -/
structure Aside (binding after : Binding) : Prop where
  loop : after.loop = binding.loop ∨
    binding.loop = .idle ∧ after.loop = .settling
  pendingPaths : binding.pendingPaths ⊆ after.pendingPaths
  batch : ∀ batch, binding.loop = .running batch →
    after.batches batch = binding.batches batch

/-- Queueing leaves the batch of the loop alone. -/
theorem enqueue_aside (path : String) :
    binding.Aside (binding.enqueue path) := by
  unfold enqueue
  refine ⟨?_, ?_, fun _ _ => rfl⟩
  · simp only
    split
    · next hidle => exact Or.inr ⟨hidle, rfl⟩
    · exact Or.inl rfl
  · simp only
    split
    · exact List.Subset.refl _
    · exact List.subset_append_left _ _

theorem Aside.refl (binding : Binding) : binding.Aside binding :=
  ⟨Or.inl rfl, List.Subset.refl _, fun _ _ => rfl⟩

/-- A batch that the loop does not run takes another phase. -/
theorem setPhase_aside
    {batch : Nat}
    (hloop : binding.loop ≠ .running batch)
    (phase : Phase) : binding.Aside (binding.setPhase batch phase) := by
  refine ⟨Or.inl rfl, List.Subset.refl _, ?_⟩
  intro other hrunning
  refine Function.update_of_ne ?_ _ _
  rintro rfl
  exact hloop hrunning

/-- A batch beside the loop leaves the loop's batch alone. -/
theorem request_setPhase_aside
    {batch : Nat}
    (hloop : binding.loop ≠ .running batch)
    (sent : Request)
    (phase : Phase) :
    binding.Aside ((binding.request batch sent).setPhase batch phase) := by
  obtain ⟨hbatches, hsame, hpending⟩ :=
    @request_batches binding batch sent
  have haside := @setPhase_aside (binding.request batch sent) batch
    (hsame ▸ hloop) phase
  refine ⟨?_, ?_, ?_⟩
  · rw [← hsame]
    exact haside.loop
  · rw [← hpending]
    exact haside.pendingPaths
  · intro other hrunning
    rw [haside.batch other (hsame ▸ hrunning), hbatches]

/-- An answer leaves the phase of the loop's batch alone. -/
theorem settle_aside (reply : Option Result) :
    binding.Aside (binding.settle reply) := by
  unfold settle
  split <;> exact ⟨Or.inl rfl, List.Subset.refl _, fun _ _ => rfl⟩

/-- A new batch of another entry point. -/
theorem Linked.ensureInitial_aside (h : binding.Linked) :
    binding.Aside binding.ensureInitial := by
  unfold Binding.ensureInitial
  split
  · exact Aside.refl binding
  · have hconfig : binding.configChanged [] = false := by
      unfold configChanged
      split <;> rfl
    have hne : binding.loop ≠ .running binding.started := fun hrunning =>
      lt_irrefl _ (h.running _ hrunning)
    unfold Binding.compileBatch
    simp only [hconfig, Bool.false_eq_true, if_false]
    unfold Binding.compileNow
    let called : Binding :=
      { binding with
        started := binding.started + 1
        batches := Function.update binding.batches binding.started
          ⟨[], .finished .error⟩ }
    have haside : called.Aside (((called.request binding.started
        (called.requestFor [] false)).setPhase binding.started
          (.compiling called.epoch called.calls.length))) :=
      @request_setPhase_aside called binding.started hne _ _
    refine ⟨haside.loop, haside.pendingPaths, ?_⟩
    intro other hrunning
    refine (haside.batch other hrunning).trans ?_
    refine Function.update_of_ne ?_ _ _
    rintro rfl
    exact hne hrunning

/-- No other event moves the loop, or the batch that it runs. -/
theorem Linked.step_aside
    (h : binding.Linked)
    {ownedRoots : List String}
    {event : Event}
    {after : Binding}
    (hstep : binding.step ownedRoots event = some after)
    (hmoves : ¬binding.Moves event) : binding.Aside after := by
  cases event with
  | watcher path =>
      obtain rfl := Option.some.inj hstep
      unfold Binding.watcher
      split
      · exact Aside.refl binding
      · split
        · exact Aside.refl binding
        · exact enqueue_aside path
  | hotUpdate path =>
      obtain rfl := Option.some.inj hstep
      unfold Binding.hotUpdate Binding.outcomeFor
      split
      · exact Aside.refl binding
      · split
        · exact Aside.refl binding
        · split
          · split
            · exact Aside.refl binding
            · exact enqueue_aside path
          · exact enqueue_aside path
  | ensureInitial =>
      obtain rfl := Option.some.inj hstep
      exact h.ensureInitial_aside
  | staleBuffer path =>
      simp only [Binding.step] at hstep
      split at hstep
      · obtain rfl := Option.some.inj hstep
        exact enqueue_aside path
      · cases hstep
  | drain | loopNext => exact absurd trivial hmoves
  | resume batch preflight =>
      have hloop : binding.loop ≠ .running batch := hmoves
      simp only [Binding.step, Binding.resume] at hstep
      split at hstep
      · split at hstep
        · obtain ⟨reply, -, rfl⟩ := Option.map_eq_some_iff.mp hstep
          exact request_setPhase_aside hloop _ _
        · obtain ⟨reply, -, rfl⟩ := Option.map_eq_some_iff.mp hstep
          cases reply with
          | none => exact setPhase_aside hloop _
          | some result =>
              unfold Binding.compiled
              simp only
              split
              · exact setPhase_aside hloop _
              · cases preflight with
                | failed | clean => exact setPhase_aside hloop _
                | drifted mismatches =>
                    exact request_setPhase_aside hloop _ _
        · obtain ⟨reply, -, rfl⟩ := Option.map_eq_some_iff.mp hstep
          cases reply with
          | none => exact setPhase_aside hloop _
          | some result =>
              cases preflight <;> exact setPhase_aside hloop _
        · cases hstep
      · cases hstep
  | rendered batch written =>
      have hloop : binding.loop ≠ .running batch := hmoves
      have hphase := fun phase => @setPhase_aside binding batch hloop phase
      simp only [Binding.step, Binding.rendered] at hstep
      split at hstep
      · split at hstep
        · split at hstep <;> obtain rfl := Option.some.inj hstep
          · unfold Binding.swap
            split
            · have haside := hphase (.finished .success)
              exact ⟨haside.loop, haside.pendingPaths, haside.batch⟩
            · exact hphase _
          · exact hphase _
        · cases hstep
      · cases hstep
  | initialized info =>
      obtain rfl := Option.some.inj hstep
      exact ⟨Or.inl rfl, List.Subset.refl _, fun _ _ => rfl⟩
  | answered generationId changed =>
      simp only [Binding.step, Binding.answered] at hstep
      split at hstep
      · cases hstep
      · cases hstep
      · split at hstep
        · obtain rfl := Option.some.inj hstep
          have haside := @settle_aside binding
            (some ⟨generationId, changed, binding.generations.length⟩)
          exact ⟨haside.loop, haside.pendingPaths, haside.batch⟩
        · cases hstep
  | rejected =>
      simp only [Binding.step, Binding.rejected] at hstep
      split at hstep
      · cases hstep
      · cases hstep
      · obtain rfl := Option.some.inj hstep
        exact settle_aside none
  | restarted =>
      simp only [Binding.step, Binding.restarted] at hstep
      split at hstep
      · obtain rfl := Option.some.inj hstep
        have haside := @settle_aside binding none
        exact ⟨haside.loop, haside.pendingPaths, haside.batch⟩
      · cases hstep
  | sessionFailed inFlight =>
      obtain rfl := Option.some.inj hstep
      have haside := @settle_aside { binding.invalidate with info := none }
        none
      unfold Binding.sessionFailed
      simp only
      split
      · exact ⟨Or.inl rfl, List.Subset.refl _, fun _ _ => rfl⟩
      · exact ⟨Or.inl rfl, List.Subset.refl _, fun _ _ => rfl⟩
      · split
        · exact ⟨haside.loop, haside.pendingPaths, haside.batch⟩
        · exact ⟨Or.inl rfl, List.Subset.refl _, fun _ _ => rfl⟩

/-- Answers stay. -/
theorem Extends.waitsFor_le
    {after : Binding}
    (h : binding.Extends after)
    (call : Nat) : after.waitsFor call ≤ binding.waitsFor call := by
  unfold waitsFor
  cases hreply : binding.answers call with
  | none =>
      simp only [Option.isSome_none, Bool.false_eq_true, if_false]
      split <;> omega
  | some reply => simp [h.answers call reply hreply]

/-- Other steps bring no batch further from its end. -/
theorem Extends.phaseRank_le
    {after : Binding}
    (h : binding.Extends after)
    (phase : Phase) : after.phaseRank phase ≤ binding.phaseRank phase := by
  cases phase with
  | restarting call =>
      have hle := h.waitsFor_le call
      simp only [phaseRank]
      omega
  | compiling startEpoch call | refreshing startEpoch call =>
      have hle := h.waitsFor_le call
      simp only [phaseRank]
      omega
  | rendering startEpoch result => exact le_refl _
  | finished outcome => exact le_refl _

/-- Other events leave a path on its way, and no further from its request. -/
theorem Aside.carried
    (hlinked : binding.Linked)
    {after : Binding}
    (h : binding.Aside after)
    (hextends : binding.Extends after)
    {path : String}
    (hcarried : binding.Carried path) :
    after.Carried path ∧ after.loop = binding.loop ∧
      after.rank path ≤ binding.rank path := by
  have hloop : after.loop = binding.loop := by
    rcases h.loop with hsame | ⟨hidle, -⟩
    · exact hsame
    · rcases hcarried with hpending | ⟨batch, hrunning, -⟩
      · exact absurd hidle (hlinked.queued (List.ne_nil_of_mem hpending))
      · rw [hidle] at hrunning
        cases hrunning
  have hcarries {batch : Nat} (hrunning : binding.loop = .running batch) :
      after.carries path batch = binding.carries path batch := by
    unfold carries
    rw [h.batch batch hrunning]
  refine ⟨?_, hloop, ?_⟩
  · rcases hcarried with hpending | ⟨batch, hrunning, hbatch⟩
    · exact Or.inl (h.pendingPaths hpending)
    · exact Or.inr ⟨batch, hloop.trans hrunning,
        (hcarries hrunning).trans hbatch⟩
  · unfold rank
    rw [hloop]
    cases hrunning : binding.loop with
    | idle | settling => exact le_refl _
    | running batch =>
        simp only
        rw [hcarries hrunning, h.batch batch hrunning]
        exact Nat.add_le_add_left (hextends.phaseRank_le _) _

/-- The client takes a request that covers the path. -/
theorem compileNow_delivers
    (hclosing : binding.closing = false)
    (batch : Nat)
    {paths : List String}
    {changed : Bool}
    {path : String}
    (hcovers : (binding.requestFor paths changed).Covers path) :
    ∃ added, (binding.compileNow batch paths changed).log =
      added ++ binding.log ∧ Delivered path added := by
  refine ⟨[.requested batch (binding.requestFor paths changed)], ?_, batch,
    _, List.mem_singleton_self _, hcovers⟩
  unfold compileNow request
  simp [hclosing, setPhase]

/-- A request for paths covers each of them. -/
theorem requestFor_covers
    {paths : List String}
    {path : String}
    (hmem : path ∈ paths)
    (changed : Bool) :
    (binding.requestFor paths changed).Covers path := by
  unfold requestFor
  split
  · trivial
  · exact hmem

section Moving

variable {path : String} {batch : Nat}

theorem waitsFor_le_one (call : Nat) : binding.waitsFor call ≤ 1 := by
  unfold waitsFor
  split <;> omega

theorem phaseRank_finished (outcome : Outcome) :
    binding.phaseRank (.finished outcome) = 2 := rfl

theorem phaseRank_rendering (startEpoch : Nat) (result : Result) :
    binding.phaseRank (.rendering startEpoch result) = 3 := rfl

theorem phaseRank_refreshing_le (startEpoch call : Nat) :
    binding.phaseRank (.refreshing startEpoch call) ≤ 5 :=
  Nat.add_le_add_left (waitsFor_le_one call) 4

/-- A batch that carries the path restarts the session. -/
theorem rank_le_of_carries
    (hloop : binding.loop = .running batch)
    (hcarries : binding.carries path batch = true) :
    binding.rank path ≤ 9 := by
  unfold rank
  rw [hloop]
  simp only [hcarries, if_true]
  unfold carries at hcarries
  split at hcarries
  · next call hphase =>
      rw [hphase]
      have hle := @waitsFor_le_one binding call
      simp only [phaseRank]
      omega
  · cases hcarries

/-- The running batch comes closer to its end, with the path pending. -/
theorem setPhase_lowers
    (hloop : binding.loop = .running batch)
    (hpending : path ∈ binding.pendingPaths)
    (hcarries : binding.carries path batch = false)
    {mid : Binding}
    (hmid : mid.loop = binding.loop ∧
      mid.pendingPaths = binding.pendingPaths)
    {phase : Phase}
    (hphase : ∀ call, phase ≠ .restarting call)
    (hrank : mid.phaseRank phase <
      binding.phaseRank (binding.batches batch).phase) :
    (mid.setPhase batch phase).Carried path ∧
      (mid.setPhase batch phase).rank path < binding.rank path := by
  have hrunning : (mid.setPhase batch phase).loop = .running batch :=
    hmid.1.trans hloop
  have hcurrent : ((mid.setPhase batch phase).batches batch).phase =
      phase := by
    simp [Binding.setPhase]
  have hnot : (mid.setPhase batch phase).carries path batch = false := by
    unfold carries
    rw [hcurrent]
    cases phase with
    | restarting call => exact absurd rfl (hphase call)
    | _ => rfl
  have hsame : (mid.setPhase batch phase).phaseRank phase =
      mid.phaseRank phase := by
    cases phase <;> rfl
  refine ⟨Or.inl ?_, ?_⟩
  · have hmem : path ∈ mid.pendingPaths := hmid.2.symm ▸ hpending
    exact hmem
  · unfold rank
    rw [hrunning, hloop]
    simp only [hcurrent, hnot, hcarries, hsame, Bool.false_eq_true, if_false]
    omega

/-- A path that the running batch does not carry is pending. -/
theorem Carried.pending_of_not
    (h : binding.Carried path)
    (hloop : binding.loop = .running batch)
    (hcarries : binding.carries path batch = false) :
    path ∈ binding.pendingPaths := by
  rcases h with hpending | ⟨other, hrunning, hother⟩
  · exact hpending
  · rw [hloop] at hrunning
    obtain rfl := Loop.running.inj hrunning
    rw [hcarries] at hother
    cases hother

/-- Draining delivers the path or brings it closer. -/
theorem Linked.drain_moves
    (h : binding.Linked)
    (hcarried : binding.Carried path)
    {after : Binding}
    (hstep : binding.drain = some after) :
    (∃ added, after.log = added ++ binding.log ∧ Delivered path added) ∨
      (after.Carried path ∧ after.rank path < binding.rank path) := by
  unfold Binding.drain at hstep
  split at hstep
  · next hloop =>
      obtain rfl := Option.some.inj hstep
      have hpending : path ∈ binding.pendingPaths := by
        rcases hcarried with hpending | ⟨batch, hrunning, -⟩
        · exact hpending
        · rw [hloop] at hrunning
          cases hrunning
      have hclosing : binding.closing = false := h.not_closing (by
        intro batch call hrunning
        rw [hloop] at hrunning
        cases hrunning)
      have hrank : binding.rank path = 20 := by
        unfold rank
        rw [hloop]
      unfold Binding.compileBatch
      simp only
      split
      · refine Or.inr ?_
        have hcarries : ∀ after : Binding,
            after.batches binding.started = ⟨binding.pendingPaths,
              .restarting binding.calls.length⟩ →
            after.carries path binding.started = true := by
          intro after hbatch
          simp [carries, hbatch, hpending]
        have hbatch := hcarries
          { (({ binding with
                pendingPaths := []
                started := binding.started + 1
                batches := Function.update binding.batches binding.started
                  ⟨binding.pendingPaths, .finished .error⟩ } :
                Binding).invalidate.restart.setPhase binding.started
                  (.restarting binding.calls.length)) with
            loop := .running binding.started }
          (by simp [Binding.setPhase, Binding.restart, Binding.invalidate])
        refine ⟨Or.inr ⟨binding.started, rfl, hbatch⟩, ?_⟩
        rw [hrank]
        exact Nat.lt_of_le_of_lt (rank_le_of_carries rfl hbatch) (by decide)
      · refine Or.inl ?_
        exact @compileNow_delivers
          { binding with
            pendingPaths := []
            started := binding.started + 1
            batches := Function.update binding.batches binding.started
              ⟨binding.pendingPaths, .finished .error⟩ }
          hclosing binding.started binding.pendingPaths false path
          (requestFor_covers hpending false)
  · cases hstep

/-- The next turn of the loop brings the path closer. -/
theorem loopNext_moves
    (hcarried : binding.Carried path)
    {after : Binding}
    (hstep : binding.loopNext = some after) :
    after.Carried path ∧ after.rank path < binding.rank path := by
  unfold Binding.loopNext at hstep
  split at hstep
  · next batch hloop =>
      split at hstep
      · next outcome hphase =>
          obtain rfl := Option.some.inj hstep
          have hcarries : binding.carries path batch = false := by
            unfold carries
            rw [hphase]
          have hpending := hcarried.pending_of_not hloop hcarries
          have hne : binding.pendingPaths.isEmpty = false := by
            simpa using List.ne_nil_of_mem hpending
          refine ⟨Or.inl hpending, ?_⟩
          unfold rank
          simp only [hne, Bool.false_eq_true, if_false, hloop, hcarries,
            hphase, phaseRank]
          omega
      · cases hstep
  · cases hstep

/-- A batch that goes on delivers the path or brings it closer. -/
theorem Linked.resume_moves
    (h : binding.Linked)
    (hloop : binding.loop = .running batch)
    (hcarried : binding.Carried path)
    {preflight : Preflight}
    {after : Binding}
    (hstep : binding.resume batch preflight = some after) :
    (∃ added, after.log = added ++ binding.log ∧ Delivered path added) ∨
      (after.Carried path ∧ after.rank path < binding.rank path) := by
  have hcarries (hphase : ∀ call,
      (binding.batches batch).phase ≠ .restarting call) :
      binding.carries path batch = false := by
    unfold carries
    split
    · next call hrestarting => exact absurd hrestarting (hphase call)
    · rfl
  have hlowers {phase : Phase}
      (hphase : ∀ call, (binding.batches batch).phase ≠ .restarting call)
      (hnot : ∀ call, phase ≠ .restarting call)
      (hrank : binding.phaseRank phase <
        binding.phaseRank (binding.batches batch).phase) :
      (binding.setPhase batch phase).Carried path ∧
        (binding.setPhase batch phase).rank path < binding.rank path :=
    setPhase_lowers hloop
      (hcarried.pending_of_not hloop (hcarries hphase)) (hcarries hphase)
      ⟨rfl, rfl⟩ hnot hrank
  unfold Binding.resume at hstep
  split at hstep
  · next call hphase =>
      -- After its restart the batch compiles everything.
      obtain ⟨reply, hreply, rfl⟩ := Option.map_eq_some_iff.mp hstep
      refine Or.inl (compileNow_delivers (h.not_closing ?_) batch ?_)
      · intro other otherCall hrunning hother
        rw [hloop] at hrunning
        obtain rfl := Loop.running.inj hrunning
        rw [hphase] at hother
        obtain rfl := Phase.restarting.inj hother
        rw [hreply]
        rfl
      · simp [requestFor, Request.Covers]
  · next startEpoch call hphase =>
      have hnot (other : Nat) :
          (binding.batches batch).phase ≠ .restarting other := by
        rw [hphase]
        simp
      have hsix : 6 ≤ binding.phaseRank (binding.batches batch).phase := by
        rw [hphase]
        exact Nat.le_add_right _ _
      obtain ⟨reply, -, rfl⟩ := Option.map_eq_some_iff.mp hstep
      refine Or.inr ?_
      cases reply with
      | none =>
          exact hlowers hnot (by simp) (by rw [phaseRank_finished]; omega)
      | some result =>
          unfold Binding.compiled
          simp only
          split
          · exact hlowers hnot (by simp) (by rw [phaseRank_finished]; omega)
          · cases preflight with
            | failed =>
                exact hlowers hnot (by simp)
                  (by rw [phaseRank_finished]; omega)
            | clean =>
                exact hlowers hnot (by simp)
                  (by rw [phaseRank_rendering]; omega)
            | drifted mismatches =>
                obtain ⟨-, hsame, hpending⟩ :=
                  @request_batches binding batch (.filesChanged mismatches)
                refine setPhase_lowers hloop
                  (hcarried.pending_of_not hloop (hcarries hnot))
                  (hcarries hnot) ⟨hsame, hpending⟩ (by simp) ?_
                exact Nat.lt_of_le_of_lt (phaseRank_refreshing_le _ _) hsix
  · next startEpoch call hphase =>
      have hnot (other : Nat) :
          (binding.batches batch).phase ≠ .restarting other := by
        rw [hphase]
        simp
      have hfour : 4 ≤ binding.phaseRank (binding.batches batch).phase := by
        rw [hphase]
        exact Nat.le_add_right _ _
      obtain ⟨reply, -, rfl⟩ := Option.map_eq_some_iff.mp hstep
      refine Or.inr ?_
      cases reply with
      | none =>
          exact hlowers hnot (by simp) (by rw [phaseRank_finished]; omega)
      | some result =>
          cases preflight with
          | failed | drifted mismatches =>
              exact hlowers hnot (by simp)
                (by rw [phaseRank_finished]; omega)
          | clean =>
              exact hlowers hnot (by simp)
                (by rw [phaseRank_rendering]; omega)
  · cases hstep

/-- The end of a render brings the path closer. -/
theorem rendered_moves
    (hloop : binding.loop = .running batch)
    (hcarried : binding.Carried path)
    {written : Bool}
    {after : Binding}
    (hstep : binding.rendered batch written = some after) :
    after.Carried path ∧ after.rank path < binding.rank path := by
  unfold Binding.rendered at hstep
  split at hstep
  · next startEpoch result hphase =>
      have hcarries : binding.carries path batch = false := by
        unfold carries
        rw [hphase]
      have hlowers (outcome : Outcome) :
          (binding.setPhase batch (.finished outcome)).Carried path ∧
            (binding.setPhase batch (.finished outcome)).rank path <
              binding.rank path :=
        setPhase_lowers hloop (hcarried.pending_of_not hloop hcarries)
          hcarries ⟨rfl, rfl⟩ (by simp) (by
            rw [hphase]
            simp [phaseRank])
      split at hstep <;> obtain rfl := Option.some.inj hstep
      · unfold Binding.swap
        split
        · exact hlowers .success
        · exact hlowers .error
      · exact hlowers .error
  · cases hstep

/-- A step of the loop sends the request of a path, or brings the path closer
to it. -/
theorem Linked.step_moves
    (h : binding.Linked)
    {ownedRoots : List String}
    {event : Event}
    {after : Binding}
    (hstep : binding.step ownedRoots event = some after)
    (hmoves : binding.Moves event)
    (hcarried : binding.Carried path) :
    (∃ added, after.log = added ++ binding.log ∧ Delivered path added) ∨
      (after.Carried path ∧ after.rank path < binding.rank path) := by
  cases event with
  | drain => exact h.drain_moves hcarried hstep
  | loopNext => exact Or.inr (loopNext_moves hcarried hstep)
  | resume batch preflight =>
      simp only [Binding.step] at hstep
      split at hstep
      · exact h.resume_moves hmoves hcarried hstep
      · cases hstep
  | rendered batch written =>
      simp only [Binding.step] at hstep
      split at hstep
      · exact Or.inr (rendered_moves hmoves hcarried hstep)
      · cases hstep
  | _ => exact hmoves.elim

end Moving

end Binding

end Vite

end Dsql
