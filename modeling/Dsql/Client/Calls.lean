import Dsql.Client.Tasks

/-!
# Calls of the daemon client

Every call of a client has one place: it has ended, it runs, it waits on the
chain, or it is a restart that waits to be continued.  A call that has ended
stays so, and every task step brings the calls on the chain closer to their
end.
-/

namespace Dsql

namespace Client

variable {J : Type}

/-- The task steps of the chain. -/
def Event.OfChain : Event J → Prop
  | .start _ | .resume _ | .timer => True
  | _ => False

/-- How many steps a phase is away from the end of its task, at most. -/
def Phase.rank : Phase J → Nat
  | .backoff => 5
  | .initializing _ _ => 4
  | .ready _ => 3
  | .awaiting _ _ | .stopping _ _ => 2
  | .killing _ => 1

/-- A call is at most five turns from its end. -/
theorem Phase.rank_le (phase : Phase J) : phase.rank ≤ 5 := by
  cases phase <;> simp [Phase.rank]

namespace Transport

variable (transport : Transport J) (session : Nat)

theorem answer_uncaught (reply : Reply J) :
    (transport.answer session reply).uncaught = transport.uncaught := by
  unfold answer
  split <;> rfl

theorem freeSlot_uncaught :
    (transport.freeSlot session).uncaught = transport.uncaught := by
  unfold freeSlot
  split <;> rfl

theorem send_uncaught (method : Method) :
    (transport.send session method).1.uncaught = transport.uncaught := by
  unfold send
  simp only
  split_ifs <;> rfl

theorem abandon_uncaught (now : Nat) :
    (transport.abandon session now).uncaught = transport.uncaught := by
  unfold abandon
  simp only
  rw [freeSlot_uncaught]
  split <;> rfl

/-- Failing a session throws nothing. -/
theorem failSession_uncaught (error : SessionError) (now : Nat) :
    (transport.failSession session error now).uncaught =
      transport.uncaught := by
  unfold failSession
  simp only
  split
  · rfl
  · have hfreed := (freeSlot_uncaught _ session).trans
      (answer_uncaught ((transport.scheduleBackoff now).setSession session
        { transport.sessions session with failed := true, dead := true })
        session (.error (.session error)))
    split <;> exact hfreed

theorem exit_uncaught (reason : String) (now : Nat) :
    (transport.exit session reason now).uncaught = transport.uncaught := by
  unfold exit
  simp only
  split
  · rfl
  · exact failSession_uncaught _ session _ now

theorem deliver_uncaught
    (id : Nat)
    (response : ResponseId)
    (reply : Reply J) :
    (transport.deliver session id response reply).uncaught =
      transport.uncaught :=
  answer_uncaught transport session reply

/-- Reporting a breach throws where the id has no text. -/
theorem breach_uncaught (response : ResponseId) (now : Nat) :
    (transport.breach session response now).uncaught = true ↔
      transport.uncaught = true ∨ response.text = none := by
  unfold breach
  cases response.text with
  | none => simp [crash]
  | some text => simp [failSession_uncaught]

/-- An error throws where its message has no text. -/
theorem receiveError_uncaught
    (id : Nat)
    (response : ResponseId)
    (wire : WireError J)
    (now : Nat) :
    (transport.receiveError session id response wire now).uncaught = true ↔
      transport.uncaught = true ∨ wire.messageText = none := by
  unfold receiveError
  cases wire.messageText with
  | none => simp [crash]
  | some message =>
      simp only [reduceCtorEq, or_false]
      split
      · rw [failSession_uncaught, deliver_uncaught]
      · rw [deliver_uncaught]

/-- The listener of a live child's line throws as the line says. -/
theorem receive_uncaught
    (line : Line J)
    (now : Nat)
    (hdead : (transport.sessions session).dead = false) :
    (transport.receive session line now).uncaught = true ↔
      transport.uncaught = true ∨
        line.Throws (transport.sessions session).pending := by
  unfold receive
  simp only [hdead, Bool.false_eq_true, if_false]
  cases line with
  | blank => simp [Line.Throws]
  | malformed text => simp [Line.Throws, failSession_uncaught]
  | null => simp [Line.Throws, crash]
  | response response error result =>
      cases hpending : (transport.sessions session).pending with
      | none => simp [Line.Throws, breach_uncaught]
      | some id =>
          simp only [Line.Throws, Option.map_some, Option.some.injEq]
          split
          · next hid =>
              rw [if_pos hid.symm]
              cases error with
              | none => simp [deliver_uncaught]
              | some wire => simp [receiveError_uncaught]
          · next hid =>
              rw [if_neg (Ne.symm hid)]
              exact breach_uncaught transport session response now

/-- A failed write ends the process unless the session destroyed its input. -/
theorem writeFailed_uncaught
    (id : Nat)
    (message : String)
    (destroyed : Bool) :
    (transport.writeFailed session id message destroyed).uncaught = true ↔
      transport.uncaught = true ∨ destroyed = false := by
  unfold writeFailed
  cases destroyed with
  | false => simp [crash]
  | true =>
      simp only [if_true, Bool.true_eq_false, or_false]
      split
      · rw [answer_uncaught]
      · rfl

end Transport

namespace DaemonClient

variable (client : DaemonClient J)

/-- The calls that do not run. -/
def rest : List Nat :=
  client.outcomes.map Prod.fst ++ client.resuming ++ client.queue

/-- Where the calls are. -/
def ledger : List Nat :=
  (client.running.map Prod.fst).toList ++ client.rest

/-- Every call that was made has exactly one place. -/
def Accounted : Prop :=
  client.ledger.Perm (List.range client.calls.length)

/-- The rank of the running task. -/
def rank : Nat :=
  match client.running with
  | none => 0
  | some (_, phase) => phase.rank

/-- How many task steps a call on the chain is away from its end, at most. -/
def remaining (call : Nat) : Nat :=
  client.rank +
    6 * (if call ∈ client.queue then client.queue.idxOf call + 1 else 0)

/-- The call has ended. -/
def Settled (call : Nat) : Prop :=
  ∃ outcome, (call, outcome) ∈ client.outcomes

/-- The call has left the chain. -/
def Left (call : Nat) : Prop :=
  client.Settled call ∨ call ∈ client.resuming

/-- What a task step does to the calls: `call` runs on, below a rank, or has
left the chain. -/
structure Advanced
    (client after : DaemonClient J)
    (call bound : Nat) : Prop where
  calls : after.calls = client.calls
  queue : after.queue = client.queue
  outcomes : client.outcomes <:+ after.outcomes
  resuming : client.resuming ⊆ after.resuming
  ledger : after.ledger.Perm (call :: client.rest)
  rank : after.rank ≤ bound
  uncaught : after.transport.uncaught = client.transport.uncaught

variable {client}

/-- Before the first call nothing is owed. -/
theorem initial_accounted : (initial : DaemonClient J).Accounted := by
  simp [Accounted, ledger, rest, initial]

/-- A call has ended at most once. -/
theorem Accounted.nodup_outcomes
    (h : client.Accounted) : (client.outcomes.map Prod.fst).Nodup := by
  have hledger : client.ledger.Nodup := h.nodup_iff.mpr List.nodup_range
  unfold ledger rest at hledger
  exact (hledger.of_append_right.of_append_left).of_append_left

/-- A call that has not left the chain runs, or waits. -/
theorem Accounted.on_chain
    (h : client.Accounted)
    {call : Nat}
    (hcall : call < client.calls.length)
    (hleft : ¬client.Left call) :
    (∃ phase, client.running = some (call, phase)) ∨ call ∈ client.queue := by
  have hmem : call ∈ client.ledger :=
    h.mem_iff.mpr (List.mem_range.mpr hcall)
  unfold ledger rest at hmem
  rcases List.mem_append.mp hmem with hrunning | hrest
  · obtain ⟨⟨_, phase⟩, hsome, rfl⟩ :=
      Option.map_eq_some_iff.mp (Option.mem_toList.mp hrunning)
    exact Or.inl ⟨phase, hsome⟩
  · rcases List.mem_append.mp hrest with hdone | hqueue
    · rcases List.mem_append.mp hdone with hended | hresuming
      · obtain ⟨⟨_, outcome⟩, hsome, rfl⟩ := List.mem_map.mp hended
        exact absurd (Or.inl ⟨outcome, hsome⟩) hleft
      · exact absurd (Or.inr hresuming) hleft
    · exact Or.inr hqueue

/-- The running call waits nowhere. -/
theorem Accounted.running_not_mem
    (h : client.Accounted)
    {call : Nat}
    {phase : Phase J}
    (hrunning : client.running = some (call, phase)) :
    call ∉ client.rest := by
  have hledger : client.ledger.Nodup := h.nodup_iff.mpr List.nodup_range
  unfold ledger at hledger
  rw [hrunning] at hledger
  exact (List.nodup_cons.mp hledger).1

section Advancing

variable (call : Nat)

/-- The task goes on, with a phase of a lower rank. -/
theorem advanced_running
    (transport : Transport J)
    (fatal : Option (ClientError J))
    (phase : Phase J)
    {bound : Nat}
    (hphase : phase.rank ≤ bound)
    (hcalm : transport.uncaught = client.transport.uncaught) :
    client.Advanced
      { client with
        transport := transport
        fatal := fatal
        running := some (call, phase) }
      call bound :=
  ⟨rfl, rfl, List.suffix_refl _, List.Subset.refl _, List.Perm.refl _, hphase,
    hcalm⟩

/-- The task ends its call. -/
theorem advanced_finish
    (transport : Transport J)
    (fatal : Option (ClientError J))
    (outcome : Outcome J)
    (bound : Nat)
    (hcalm : transport.uncaught = client.transport.uncaught) :
    client.Advanced
      (({ client with transport := transport, fatal := fatal } :
        DaemonClient J).finish call outcome)
      call bound :=
  ⟨rfl, rfl, List.suffix_cons _ _, List.Subset.refl _, List.Perm.refl _,
    Nat.zero_le _, hcalm⟩

/-- A finished shutdown ends the call. -/
theorem advanced_finishShutdown
    (transport : Transport J)
    (bound : Nat)
    (hcalm : transport.uncaught = client.transport.uncaught) :
    client.Advanced
      (({ client with transport := transport } :
        DaemonClient J).finishShutdown call)
      call bound := by
  unfold finishShutdown
  split
  · refine ⟨rfl, rfl, List.suffix_refl _, ?_, ?_, Nat.zero_le _, hcalm⟩
    · exact List.subset_append_left _ _
    · simp only [ledger, rest, Option.map_none, Option.toList_none,
        List.nil_append]
      rw [← List.append_assoc, List.append_assoc]
      exact List.perm_middle.trans (by simp)
  · exact advanced_finish call transport client.fatal .done bound hcalm

/-- A new session leaves the call at its start. -/
theorem advanced_respawn
    (transport : Transport J)
    (now : Nat)
    (hcalm : transport.uncaught = client.transport.uncaught) :
    client.Advanced
      (({ client with transport := transport } :
        DaemonClient J).respawn call now)
      call 5 := by
  unfold respawn
  split
  · exact advanced_running call transport client.fatal .backoff (le_refl _)
      hcalm
  · exact advanced_running call _ client.fatal _ (Phase.rank_le _)
      ((Transport.send_uncaught _ _ _).trans hcalm)

/-- A call with its session goes on. -/
theorem advanced_ensureSession (now : Nat) :
    client.Advanced (client.ensureSession call now) call 5 := by
  unfold ensureSession
  split
  · next error _ =>
      exact advanced_finish call client.transport client.fatal
        (.failed error) 5 rfl
  · split
    · next session _ =>
        split
        · exact advanced_respawn call client.transport.clearSlot now rfl
        · exact advanced_running call client.transport client.fatal
            (.ready session) (Phase.rank_le _) rfl
    · exact advanced_respawn call client.transport.clearSlot now rfl

/-- A shutdown goes on. -/
theorem advanced_shutdownNow :
    client.Advanced (client.shutdownNow call) call 5 := by
  unfold shutdownNow
  split
  · exact advanced_finishShutdown call client.transport.clearSlot 5 rfl
  · simp only
    split
    · exact advanced_finishShutdown call client.transport.clearSlot 5 rfl
    · exact advanced_running call _ client.fatal _ (Phase.rank_le _)
        (Transport.send_uncaught _ _ _)

/-- A kill goes on. -/
theorem advanced_stopSession (session : Nat) :
    client.Advanced (client.stopSession call session) call 1 := by
  unfold stopSession
  split
  · exact advanced_finishShutdown call client.transport 1 rfl
  · exact advanced_running call client.transport client.fatal
      (.killing session) (le_refl _) rfl

/-- An answered call ends. -/
theorem advanced_answered (reply : Reply J) (bound : Nat) :
    client.Advanced (client.answered call reply) call bound := by
  unfold answered
  cases reply with
  | ok value =>
      exact advanced_finish call client.transport.resetBackoff client.fatal
        (.result value) bound rfl
  | error error =>
      simp only
      split
      · exact advanced_finish call client.transport.resetBackoff client.fatal
          (.failed error) bound rfl
      · exact advanced_finish call client.transport client.fatal
          (.failed error) bound rfl

end Advancing

/-- The next task takes its call off the chain. -/
theorem start_advanced
    {now : Nat}
    {after : DaemonClient J}
    (hstep : client.start now = some after) :
    client.running = none ∧ ∃ call queue, client.queue = call :: queue ∧
      ({ client with queue := queue } : DaemonClient J).Advanced after call
        5 := by
  unfold start at hstep
  split at hstep
  · next call queue hrunning hqueue =>
      refine ⟨hrunning, call, queue, hqueue, ?_⟩
      split at hstep <;> obtain rfl := Option.some.inj hstep
      · exact advanced_shutdownNow call
      · exact advanced_shutdownNow call
      · exact advanced_ensureSession call now
  · cases hstep

/-- A step of the running task lowers its rank. -/
theorem resume_advanced
    {now : Nat}
    {after : DaemonClient J}
    (hstep : client.resume now = some after) :
    ∃ call phase, client.running = some (call, phase) ∧
      client.Advanced after call (phase.rank - 1) := by
  unfold resume at hstep
  split at hstep
  · next call session promise hrunning =>
      refine ⟨call, _, hrunning, ?_⟩
      obtain ⟨reply, -, rfl⟩ := Option.map_eq_some_iff.mp hstep
      cases reply with
      | ok info => exact advanced_running call _ client.fatal _ (le_refl _) rfl
      | error error =>
          exact advanced_finish call _ _ (.failed error) _
            (Transport.abandon_uncaught _ _ _)
  · next call session hrunning =>
      refine ⟨call, _, hrunning, ?_⟩
      obtain rfl := Option.some.inj hstep
      exact advanced_running call _ client.fatal _ (le_refl _)
        (Transport.send_uncaught _ _ _)
  · next call session promise hrunning =>
      refine ⟨call, _, hrunning, ?_⟩
      obtain ⟨reply, -, rfl⟩ := Option.map_eq_some_iff.mp hstep
      exact advanced_answered call reply _
  · next call session promise hrunning =>
      refine ⟨call, _, hrunning, ?_⟩
      obtain ⟨reply, -, rfl⟩ := Option.map_eq_some_iff.mp hstep
      exact advanced_stopSession call session
  · next call session hrunning =>
      refine ⟨call, _, hrunning, ?_⟩
      split at hstep
      · obtain rfl := Option.some.inj hstep
        exact advanced_finishShutdown call client.transport _ rfl
      · cases hstep
  · cases hstep

/-- The timer brings the running call closer to its end. -/
theorem timer_advanced
    {after : DaemonClient J}
    (hstep : client.timer = some after) :
    ∃ call phase, client.running = some (call, phase) ∧
      client.Advanced after call (phase.rank - 1) := by
  unfold timer at hstep
  split at hstep
  · next call hrunning =>
      refine ⟨call, _, hrunning, ?_⟩
      obtain rfl := Option.some.inj hstep
      exact advanced_running call _ client.fatal _ (le_refl _)
        (Transport.send_uncaught _ _ _)
  · next call session promise hrunning =>
      refine ⟨call, _, hrunning, ?_⟩
      obtain rfl := Option.some.inj hstep
      exact advanced_stopSession call session
  · next call session hrunning =>
      refine ⟨call, _, hrunning, ?_⟩
      obtain rfl := Option.some.inj hstep
      exact advanced_finishShutdown call client.transport _ rfl
  · cases hstep

/-- What any event does to the calls of a client, the steps of its chain
apart: calls arrive, and restarts are continued. -/
structure Aside (client after : DaemonClient J) : Prop where
  running : after.running = client.running
  queue : ∃ added, after.queue = client.queue ++ added
  outcomes : client.outcomes <:+ after.outcomes
  calls : client.calls <+: after.calls
  resuming : ∀ call ∈ client.resuming,
    call ∈ after.resuming ∨ after.Settled call

/-- What happens to the transport leaves the calls alone. -/
theorem aside_transport (transport : Transport J) :
    client.Aside { client with transport := transport } :=
  ⟨rfl, ⟨[], (List.append_nil _).symm⟩, List.suffix_refl _,
    List.prefix_refl _, fun _ hmem => Or.inl hmem⟩

/-- What the child does leaves the calls alone. -/
theorem onChild_aside
    {session : Nat}
    {listener : Transport J → Transport J}
    {after : DaemonClient J}
    (hstep : client.onChild session listener = some after) :
    client.Aside after ∧ after.ledger = client.ledger ∧
      after.calls = client.calls := by
  unfold onChild at hstep
  split at hstep
  · obtain rfl := Option.some.inj hstep
    exact ⟨aside_transport _, rfl, rfl⟩
  · cases hstep

theorem accept_aside (call : Call) : client.Aside (client.accept call) := by
  cases call with
  | compile | filesChanged paths =>
      unfold accept
      simp only
      split
      · exact ⟨rfl, ⟨[], (List.append_nil _).symm⟩, List.suffix_cons _ _,
          List.prefix_append _ _, fun _ hmem => Or.inl hmem⟩
      · exact ⟨rfl, ⟨[_], rfl⟩, List.suffix_refl _, List.prefix_append _ _,
          fun _ hmem => Or.inl hmem⟩
  | shutdown | restart =>
      exact ⟨rfl, ⟨[_], rfl⟩, List.suffix_refl _, List.prefix_append _ _,
        fun _ hmem => Or.inl hmem⟩

/-- A new call is accounted for. -/
theorem accept_ledger (call : Call) :
    (client.accept call).calls.length = client.calls.length + 1 ∧
      (client.accept call).ledger.Perm
        (client.calls.length :: client.ledger) := by
  have hqueued (after : DaemonClient J)
      (hrunning : after.running = client.running)
      (houtcomes : after.outcomes = client.outcomes)
      (hresuming : after.resuming = client.resuming)
      (hqueue : after.queue = client.queue ++ [client.calls.length]) :
      after.ledger.Perm (client.calls.length :: client.ledger) := by
    have hadded := List.perm_append_singleton client.calls.length client.ledger
    unfold ledger rest at hadded ⊢
    rw [hrunning, houtcomes, hresuming, hqueue]
    simpa only [List.append_assoc] using hadded
  cases call with
  | compile | filesChanged paths =>
      unfold accept
      simp only
      split
      · refine ⟨by simp, ?_⟩
        simp only [ledger, rest, List.map_cons, List.cons_append]
        exact List.perm_middle
      · exact ⟨by simp, hqueued _ rfl rfl rfl rfl⟩
  | shutdown | restart =>
      exact ⟨by simp [accept], hqueued _ rfl rfl rfl rfl⟩

/-- A restart settles its call and leaves the others alone. -/
theorem restarted_aside
    {call : Nat}
    {after : DaemonClient J}
    (hstep : client.restarted call = some after) :
    client.Aside after ∧ after.Settled call ∧
      after.ledger.Perm client.ledger ∧ after.calls = client.calls := by
  unfold restarted at hstep
  split at hstep
  · next hmem =>
      obtain rfl := Option.some.inj hstep
      refine ⟨⟨rfl, ⟨[], (List.append_nil _).symm⟩, List.suffix_cons _ _,
        List.prefix_refl _, ?_⟩, ⟨.done, List.mem_cons_self⟩, ?_, rfl⟩
      · intro other hother
        by_cases hsame : other = call
        · rw [hsame]
          exact Or.inr ⟨.done, List.mem_cons_self⟩
        · exact Or.inl ((List.mem_erase_of_ne hsame).mpr hother)
      · unfold ledger rest
        simp only [List.map_cons, List.cons_append]
        refine List.Perm.append_left _ ?_
        rw [List.append_assoc, List.append_assoc]
        refine List.perm_middle.symm.trans (List.Perm.append_left _ ?_)
        exact (List.perm_cons_erase hmem).symm.append_right client.queue
  · cases hstep

section Steps

variable {event : Event J} {after : DaemonClient J}

/-- A step of the chain moves one call. -/
theorem step_chain
    (hstep : client.step event = some after)
    (hchain : event.OfChain) :
    (client.running = none ∧ ∃ call queue, client.queue = call :: queue ∧
      ({ client with queue := queue } : DaemonClient J).Advanced after call
        5) ∨
      ∃ call phase, client.running = some (call, phase) ∧
        client.Advanced after call (phase.rank - 1) := by
  unfold step at hstep
  split at hstep
  · cases hstep
  · cases event with
    | start now => exact Or.inl (start_advanced hstep)
    | resume now => exact Or.inr (resume_advanced hstep)
    | timer => exact Or.inr (timer_advanced hstep)
    | _ => exact absurd hchain (by simp [Event.OfChain])

/-- Events outside of the chain leave the running call alone. -/
theorem step_aside
    (hstep : client.step event = some after)
    (hchain : ¬event.OfChain) : client.Aside after := by
  unfold step at hstep
  split at hstep
  · cases hstep
  · cases event with
    | start now | resume now | timer =>
        exact absurd trivial hchain
    | call call =>
        obtain rfl := Option.some.inj hstep
        exact accept_aside call
    | restarted call => exact (restarted_aside hstep).1
    | _ => exact (onChild_aside hstep).1

/-- No event loses or repeats a call. -/
theorem Accounted.step
    (h : client.Accounted)
    (hstep : client.step event = some after) : after.Accounted := by
  by_cases hchain : event.OfChain
  · rcases step_chain hstep hchain with
      ⟨hrunning, call, queue, hqueue, hadvanced⟩ |
      ⟨call, phase, hrunning, hadvanced⟩
    · unfold Accounted at h ⊢
      rw [hadvanced.calls]
      refine hadvanced.ledger.trans (List.Perm.trans ?_ h)
      unfold ledger rest
      rw [hrunning, hqueue]
      exact List.perm_middle.symm
    · unfold Accounted at h ⊢
      rw [hadvanced.calls]
      refine hadvanced.ledger.trans (List.Perm.trans ?_ h)
      unfold ledger
      rw [hrunning]
      exact List.Perm.refl _
  · have hkept
        (hsame : after.ledger.Perm client.ledger ∧
          after.calls = client.calls) : after.Accounted := by
      unfold Accounted at h ⊢
      rw [hsame.2]
      exact hsame.1.trans h
    unfold DaemonClient.step at hstep
    split at hstep
    · cases hstep
    · cases event with
      | start now | resume now | timer => exact absurd trivial hchain
      | call call =>
          obtain rfl := Option.some.inj hstep
          obtain ⟨hlength, hledger⟩ := @accept_ledger J client call
          unfold Accounted at h ⊢
          rw [hlength, List.range_succ]
          exact hledger.trans ((List.Perm.cons _ h).trans
            (List.perm_append_singleton _ _).symm)
      | restarted call => exact hkept (restarted_aside hstep).2.2
      | _ =>
          obtain ⟨-, hledger, hcalls⟩ := onChild_aside hstep
          exact hkept ⟨hledger ▸ List.Perm.refl _, hcalls⟩

/-- A call that has ended stays so. -/
theorem step_outcomes
    (hstep : client.step event = some after) :
    client.outcomes <:+ after.outcomes := by
  by_cases hchain : event.OfChain
  · rcases step_chain hstep hchain with ⟨-, _, _, -, hadvanced⟩ |
      ⟨_, _, -, hadvanced⟩
    · exact hadvanced.outcomes
    · exact hadvanced.outcomes
  · exact (step_aside hstep hchain).outcomes

/-- Calls are only added. -/
theorem step_calls
    (hstep : client.step event = some after) :
    client.calls <+: after.calls := by
  by_cases hchain : event.OfChain
  · rcases step_chain hstep hchain with ⟨-, _, _, -, hadvanced⟩ |
      ⟨_, _, -, hadvanced⟩
    · rw [hadvanced.calls]
    · rw [hadvanced.calls]
  · exact (step_aside hstep hchain).calls

/-- A settled call stays settled. -/
theorem Settled.step
    {call : Nat}
    (h : client.Settled call)
    (hstep : client.step event = some after) : after.Settled call := by
  obtain ⟨outcome, hmem⟩ := h
  exact ⟨outcome, (step_outcomes hstep).subset hmem⟩

/-- A call that has left the chain stays off it. -/
theorem Left.step
    {call : Nat}
    (h : client.Left call)
    (hstep : client.step event = some after) : after.Left call := by
  rcases h with hsettled | hresuming
  · exact Or.inl (hsettled.step hstep)
  · by_cases hchain : event.OfChain
    · rcases step_chain hstep hchain with ⟨-, _, _, -, hadvanced⟩ |
        ⟨_, _, -, hadvanced⟩
      · exact Or.inr (hadvanced.resuming hresuming)
      · exact Or.inr (hadvanced.resuming hresuming)
    · rcases (step_aside hstep hchain).resuming call hresuming with
        hkept | hsettled
      · exact Or.inr hkept
      · exact Or.inl hsettled

variable {call : Nat}

/-- Every step of the chain brings the calls on it closer to their end. -/
theorem step_lowers
    (h : client.Accounted)
    (hstep : client.step event = some after)
    (hchain : event.OfChain)
    (hcall : (∃ phase, client.running = some (call, phase)) ∨
      call ∈ client.queue) :
    after.remaining call < client.remaining call := by
  have hledger : client.ledger.Nodup := h.nodup_iff.mpr List.nodup_range
  rcases step_chain hstep hchain with
    ⟨hrunning, first, queue, hqueue, hadvanced⟩ |
    ⟨runs, phase, hrunning, hadvanced⟩
  · have hbound : after.rank ≤ 5 := hadvanced.rank
    have hnext : after.queue = queue := hadvanced.queue
    have hwaits : call ∈ first :: queue := by
      rcases hcall with ⟨phase, hsome⟩ | hmem
      · rw [hrunning] at hsome
        cases hsome
      · rwa [hqueue] at hmem
    have hnodup : (first :: queue).Nodup := by
      unfold ledger rest at hledger
      rw [hqueue] at hledger
      exact hledger.of_append_right.of_append_right
    unfold remaining
    rw [hnext, hqueue, if_pos hwaits]
    by_cases hfirst : first = call
    · subst hfirst
      rw [if_neg (List.nodup_cons.mp hnodup).1, List.idxOf_cons_self]
      omega
    · rw [List.idxOf_cons_ne _ hfirst]
      split <;> omega
  · have hbound : after.rank ≤ phase.rank - 1 := hadvanced.rank
    have hrank : client.rank = phase.rank := by
      unfold DaemonClient.rank
      rw [hrunning]
    have hpositive : 0 < phase.rank := by
      cases phase <;> simp [Phase.rank]
    unfold remaining
    rw [hadvanced.queue]
    omega

/-- No other event moves a call away from its end. -/
theorem step_keeps_remaining
    (hstep : client.step event = some after)
    (hchain : ¬event.OfChain)
    (h : after.Accounted)
    (hcall : (∃ phase, client.running = some (call, phase)) ∨
      call ∈ client.queue) :
    after.remaining call = client.remaining call := by
  have haside := step_aside hstep hchain
  obtain ⟨added, hqueue⟩ := haside.queue
  have hrank : after.rank = client.rank := by
    unfold DaemonClient.rank
    rw [haside.running]
  unfold remaining
  rw [hrank]
  rcases hcall with ⟨phase, hrunning⟩ | hmem
  · -- A running call is not on the chain, before or after.
    have hafter : call ∉ after.queue := by
      have hnot := h.running_not_mem (haside.running.trans hrunning)
      unfold rest at hnot
      exact fun hmem => hnot (List.mem_append_right _ hmem)
    have hbefore : call ∉ client.queue := by
      intro hmem
      exact hafter (hqueue ▸ List.mem_append_left _ hmem)
    rw [if_neg hafter, if_neg hbefore]
  · have hafter : call ∈ after.queue :=
      hqueue ▸ List.mem_append_left _ hmem
    rw [if_pos hafter, if_pos hmem, hqueue, List.idxOf_append_of_mem hmem]

end Steps

end DaemonClient

end Client

end Dsql
