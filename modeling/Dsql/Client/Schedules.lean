import Dsql.Client.Calls
import Dsql.Logic.Schedule

/-!
# Runs of the daemon client

Under a schedule that names public calls, task steps and child events in any
order, a client keeps its promises as long as no event ends its process.  Every
call ends as well, once tasks are run, restarts continued and requests answered
in some way.
-/

namespace Dsql

namespace Client

variable {J : Type}

/-- The event ends the wait for a request: a line, or the end of the session
or of the write. -/
def Event.Concludes (session id : Nat) : Event J → Prop
  | .line other printed _ => other = session ∧ printed ≠ .blank
  | .stdoutClosed other _ | .exit other _ _ | .spawnError other _ _ =>
      other = session
  | .writeFailed other request _ _ => other = session ∧ request = id
  | _ => False

namespace Transport

/-- A request that the daemon has to answer. -/
def Owed (transport : Transport J) (session id : Nat) : Prop :=
  transport.InFlight session id ∧
    (transport.sessions session).closing = false

variable {transport : Transport J} {session id : Nat}

/-- An owed request is waited for by a live session. -/
theorem Sound.owed
    (h : transport.Sound)
    (howed : transport.Owed session id) :
    session < transport.spawned ∧
      (transport.sessions session).pending = some id ∧
        (transport.sessions session).dead = false ∧
          (transport.sessions session).failed = false := by
  obtain ⟨hflight, hclosing⟩ := howed
  have hpending := h.inFlight_pending session id hflight
  obtain ⟨⟨method, hsent⟩, -⟩ := hflight
  have hfailed : (transport.sessions session).failed = false := by
    by_contra hfailed
    have hquiet := h.failed_quiet session (by simpa using hfailed)
    rw [hpending] at hquiet
    cases hquiet.2
  have hdead : (transport.sessions session).dead = false := by
    by_contra hdead
    rcases h.dead_cases session (by simpa using hdead) with hyes | hyes
    · rw [hfailed] at hyes
      cases hyes
    · rw [hclosing] at hyes
      cases hyes
  exact ⟨(h.sent_lt session id method hsent).1, hpending, hdead, hfailed⟩

theorem answer_settled
    (hpending : (transport.sessions session).pending = some id)
    (reply : Reply J) :
    ((transport.answer session reply).replies id).isSome = true := by
  rw [answer_replies hpending, Function.update_self]
  rfl

/-- A failing session settles its request. -/
theorem failSession_settled
    (hpending : (transport.sessions session).pending = some id)
    (hfailed : (transport.sessions session).failed = false)
    (error : SessionError)
    (now : Nat) :
    ((transport.failSession session error now).replies id).isSome =
      true := by
  let failing := (transport.scheduleBackoff now).setSession session
    { transport.sessions session with failed := true, dead := true }
  have hsettled : ((failing.answer session
      (.error (.session error))).replies id).isSome = true :=
    answer_settled (by simpa [failing] using hpending) _
  unfold failSession
  simp only [hfailed, Bool.false_eq_true, if_false]
  split
  · rw [freeSlot_replies]
    exact hsettled
  · simp only [record, freeSlot_replies]
    exact hsettled

/-- An error response settles its request, if its error can be built. -/
theorem Sound.receiveError_settled
    (h : transport.Sound)
    (hpending : (transport.sessions session).pending = some id)
    {wire : WireError J}
    {message : String}
    (hmessage : wire.messageText = some message)
    (now : Nat) :
    ((transport.receiveError session id (.number id) wire now).replies
      id).isSome = true := by
  have hanswered := answer_settled hpending
    (.error (.daemon wire.codeText message wire.data))
  unfold receiveError
  simp only [hmessage]
  split
  · -- The session fails after its request was settled.
    obtain ⟨hsound, -⟩ := h.deliver hpending
      (.error (.daemon wire.codeText message wire.data))
    obtain ⟨reply, hreply⟩ := Option.isSome_iff_exists.mp hanswered
    have hkept := (hsound.quiet_failSession session (.internal message)
      now).replies id reply hreply
    rw [hkept]
    rfl
  · exact hanswered

/-- What concludes the wait for a request settles it. -/
theorem Sound.receive_settled
    (h : transport.Sound)
    (howed : transport.Owed session id)
    {line : Line J}
    (hblank : line ≠ .blank)
    (hcalm : ¬line.Throws (transport.sessions session).pending)
    (now : Nat) :
    ((transport.receive session line now).replies id).isSome = true := by
  obtain ⟨-, hpending, hdead, hfailed⟩ := h.owed howed
  unfold Transport.receive
  simp only [hdead, Bool.false_eq_true, if_false]
  cases line with
  | blank => exact absurd rfl hblank
  | null => exact absurd trivial hcalm
  | malformed text => exact failSession_settled hpending hfailed _ now
  | response response error result =>
      simp only [Line.Throws, hpending, Option.map_some,
        Option.some.injEq] at hcalm
      simp only [hpending]
      split
      · next hid =>
          subst hid
          rw [if_pos rfl] at hcalm
          cases error with
          | none => exact answer_settled hpending _
          | some wire =>
              cases hmessage : wire.messageText with
              | none => exact absurd ⟨wire, rfl, hmessage⟩ hcalm
              | some message =>
                  exact h.receiveError_settled hpending hmessage now
      · next hid =>
          rw [if_neg (Ne.symm hid)] at hcalm
          obtain ⟨text, htext⟩ := Option.ne_none_iff_exists'.mp hcalm
          unfold breach
          simp only [htext]
          exact failSession_settled hpending hfailed _ now

theorem Sound.exit_settled
    (h : transport.Sound)
    (howed : transport.Owed session id)
    (reason : String)
    (now : Nat) :
    ((transport.exit session reason now).replies id).isSome = true := by
  obtain ⟨-, hpending, -, hfailed⟩ := h.owed howed
  unfold Transport.exit
  simp only [howed.2, Bool.false_eq_true, if_false]
  exact failSession_settled (by simpa using hpending) (by simpa using hfailed)
    _ now

end Transport

namespace DaemonClient

variable (client : DaemonClient J)

/-- The running task waits for a request of a session. -/
def Awaits (session id : Nat) : Prop :=
  ∃ call phase, client.running = some (call, phase) ∧
    (phase = .initializing session (.request id) ∨
      phase = .awaiting session (.request id))

/-- A step of the chain is possible. -/
def Ready : Prop :=
  ∃ event : Event J, event.OfChain ∧ (client.step event).isSome = true

variable {client}

section Events

variable {event : Event J} {after : DaemonClient J}

/-- The process of the client ends with the events that crash it, and with no
others. -/
theorem step_uncaught
    (hstep : client.step event = some after) :
    after.transport.uncaught = true ↔ client.Crashes event := by
  have hcalm : client.transport.uncaught = false := by
    unfold step at hstep
    split at hstep
    · cases hstep
    · next hcalm => simpa using hcalm
  have hkept
      (hsame : after.transport.uncaught = client.transport.uncaught)
      (hsafe : ¬client.Crashes event) :
      after.transport.uncaught = true ↔ client.Crashes event := by
    rw [hsame, hcalm]
    exact iff_of_false Bool.false_ne_true hsafe
  by_cases hchain : event.OfChain
  · have hsafe : ¬client.Crashes event := by
      cases event with
      | start now | resume now | timer => exact fun hcrash => hcrash
      | _ => exact hchain.elim
    rcases step_chain hstep hchain with ⟨-, _, _, -, hadvanced⟩ |
      ⟨_, _, -, hadvanced⟩
    · exact hkept hadvanced.uncaught hsafe
    · exact hkept hadvanced.uncaught hsafe
  · have hlistener {session : Nat} {listener : Transport J → Transport J}
        (hchild : client.onChild session listener = some after)
        (hiff : session < client.transport.spawned →
          ((listener client.transport).uncaught = true ↔
            client.Crashes event)) :
        after.transport.uncaught = true ↔ client.Crashes event := by
      unfold onChild at hchild
      split at hchild
      · next hspawned =>
          obtain rfl := Option.some.inj hchild
          exact hiff hspawned
      · cases hchild
    unfold step at hstep
    rw [if_neg (by simp [hcalm])] at hstep
    cases event with
    | start now | resume now | timer => exact absurd trivial hchain
    | call call =>
        obtain rfl := Option.some.inj hstep
        refine hkept ?_ (fun hcrash => hcrash)
        cases call with
        | compile | filesChanged paths =>
            simp only [accept]
            split <;> rfl
        | shutdown | restart => rfl
    | restarted call =>
        simp only [restarted] at hstep
        split at hstep
        · obtain rfl := Option.some.inj hstep
          exact hkept rfl (fun hcrash => hcrash)
        · cases hstep
    | line session line now =>
        refine hlistener hstep (fun hspawned => ?_)
        cases hdead : (client.transport.sessions session).dead with
        | true =>
            have hsame : client.transport.receive session line now =
                client.transport := by
              simp [Transport.receive, hdead]
            simp [Crashes, hsame, hcalm, hdead]
        | false =>
            simp [Crashes, Transport.receive_uncaught, hspawned, hcalm, hdead]
    | stdoutClosed session now =>
        refine hlistener hstep (fun _ => ?_)
        simp only [Transport.closeStdout, Crashes, iff_false]
        split
        · simp [hcalm]
        · simp [Transport.failSession_uncaught, hcalm]
    | exit session reason now =>
        refine hlistener hstep (fun _ => ?_)
        simp [Crashes, Transport.exit_uncaught, hcalm]
    | spawnError session message now =>
        refine hlistener hstep (fun _ => ?_)
        simp [Crashes, Transport.failSession_uncaught, hcalm]
    | writeFailed session id message destroyed =>
        refine hlistener hstep (fun hspawned => ?_)
        simp [Crashes, Transport.writeFailed_uncaught, hspawned, hcalm]
    | unheard session =>
        refine hlistener hstep (fun hspawned => ?_)
        simp [Crashes, Transport.crash, hspawned]

/-- An event that concludes the wait for an owed request settles it. -/
theorem Sound.concludes
    (h : client.Sound)
    {session id : Nat}
    (howed : client.transport.Owed session id)
    (hconcludes : event.Concludes session id)
    (hcalm : client.transport.uncaught = false)
    (hsafe : ¬client.Crashes event) :
    ∃ after, client.step event = some after ∧
      (after.transport.replies id).isSome = true := by
  obtain ⟨hspawned, hpending, hdead, hfailed⟩ := h.sessions.owed howed
  have hchild (listener : Transport J → Transport J)
      (hsettled : ((listener client.transport).replies id).isSome = true) :
      ∃ after, client.onChild session listener = some after ∧
        (after.transport.replies id).isSome = true := by
    refine ⟨{ client with transport := listener client.transport }, ?_,
      hsettled⟩
    unfold DaemonClient.onChild
    exact if_pos hspawned
  unfold DaemonClient.step
  rw [if_neg (by simp [hcalm])]
  cases event with
  | line other line now =>
      obtain ⟨rfl, hblank⟩ := hconcludes
      exact hchild _ (h.sessions.receive_settled howed hblank
        (fun hthrows => hsafe ⟨hspawned, hdead, hthrows⟩) now)
  | stdoutClosed other now =>
      obtain rfl : other = session := hconcludes
      refine hchild _ ?_
      simp only [Transport.closeStdout, hdead, howed.2, Bool.or_self,
        Bool.false_eq_true, if_false]
      exact Transport.failSession_settled hpending hfailed _ now
  | exit other reason now =>
      obtain rfl : other = session := hconcludes
      exact hchild _ (h.sessions.exit_settled howed reason now)
  | spawnError other message now =>
      obtain rfl : other = session := hconcludes
      exact hchild _ (Transport.failSession_settled hpending hfailed _ now)
  | writeFailed other request message destroyed =>
      obtain ⟨rfl, rfl⟩ := hconcludes
      refine hchild _ ?_
      cases destroyed with
      | false => exact absurd ⟨hspawned, rfl⟩ hsafe
      | true =>
          simp only [Transport.writeFailed, hpending, if_true]
          exact Transport.answer_settled hpending _
  | _ => exact hconcludes.elim

end Events

/-- A promise is settled, or its request is in flight. -/
theorem promised_cases
    {session : Nat}
    {promise : Promise J}
    (hpromise : client.Promised session promise) :
    (∃ reply, client.transport.promised promise = some reply) ∨
      ∃ id, promise = .request id ∧ client.transport.InFlight session id := by
  cases promise with
  | rejected error => exact Or.inl ⟨.error error, rfl⟩
  | request id =>
      cases hreply : client.transport.replies id with
      | some reply => exact Or.inl ⟨reply, hreply⟩
      | none => exact Or.inr ⟨id, rfl, hpromise id rfl, hreply⟩

/-- While a call is on the chain, a step of the chain is possible, or the
running task waits for a request that the daemon has to answer. -/
theorem Sound.progress
    (h : client.Sound)
    (hcalm : client.transport.uncaught = false)
    {call : Nat}
    (hcall : (∃ phase, client.running = some (call, phase)) ∨
      call ∈ client.queue) :
    client.Ready ∨ ∃ session id, client.Awaits session id ∧
      client.transport.Owed session id := by
  have hcan (event : Event J) (hchain : event.OfChain)
      {after : DaemonClient J} (hstep : client.step event = some after) :
      client.Ready :=
    ⟨event, hchain, by rw [hstep]; rfl⟩
  have hresume {after : DaemonClient J}
      (hstep : client.resume 0 = some after) : client.Ready := by
    have hsame : client.step (.resume 0) = client.resume 0 := by
      unfold DaemonClient.step
      exact if_neg (by simp [hcalm])
    exact hcan (.resume 0) trivial (hsame.trans hstep)
  have htimer {after : DaemonClient J}
      (hstep : client.timer = some after) : client.Ready := by
    have hsame : client.step .timer = client.timer := by
      unfold DaemonClient.step
      exact if_neg (by simp [hcalm])
    exact hcan .timer trivial (hsame.trans hstep)
  cases hrunning : client.running with
  | none =>
      rcases hcall with ⟨phase, hsome⟩ | hmem
      · rw [hrunning] at hsome
        cases hsome
      · obtain ⟨first, queue, hqueue⟩ :=
          List.exists_cons_of_ne_nil (List.ne_nil_of_mem hmem)
        have hsame : client.step (.start 0) = client.start 0 := by
          unfold DaemonClient.step
          exact if_neg (by simp [hcalm])
        unfold DaemonClient.start at hsame
        rw [hrunning, hqueue] at hsame
        simp only at hsame
        split at hsame <;> exact Or.inl (hcan (.start 0) trivial hsame)
  | some task =>
      obtain ⟨runs, phase⟩ := task
      have hphase := h.phase runs phase hrunning
      have hwaits {session : Nat} {promise : Promise J}
          (hopen : client.Open session)
          (hpromised : client.Promised session promise)
          (hcases : phase = .initializing session promise ∨
            phase = .awaiting session promise) :
          (∃ reply, client.transport.promised promise = some reply) ∨
            ∃ session id, client.Awaits session id ∧
              client.transport.Owed session id := by
        rcases promised_cases hpromised with hsettled | ⟨id, rfl, hflight⟩
        · exact Or.inl hsettled
        · exact Or.inr ⟨session, id, ⟨runs, phase, hrunning, hcases⟩, hflight,
            hopen.2⟩
      unfold DaemonClient.resume at hresume
      unfold DaemonClient.timer at htimer
      rw [hrunning] at hresume htimer
      cases phase with
      | backoff => exact Or.inl (htimer rfl)
      | initializing session promise =>
          refine (hwaits hphase.1 hphase.2 (Or.inl rfl)).imp_left ?_
          rintro ⟨reply, hreply⟩
          simp only [hreply, Option.map_some] at hresume
          exact hresume rfl
      | ready session => exact Or.inl (hresume rfl)
      | awaiting session promise =>
          refine (hwaits hphase.1 hphase.2 (Or.inr rfl)).imp_left ?_
          rintro ⟨reply, hreply⟩
          simp only [hreply, Option.map_some] at hresume
          exact hresume rfl
      | stopping session promise => exact Or.inl (htimer rfl)
      | killing session => exact Or.inl (htimer rfl)

/-- A running task goes on once the request that it waits for is settled. -/
theorem ready_of_settled
    (hcalm : client.transport.uncaught = false)
    {session id : Nat}
    (hawaits : client.Awaits session id)
    (hsettled : (client.transport.replies id).isSome = true) :
    client.Ready := by
  obtain ⟨call, phase, hrunning, hphase⟩ := hawaits
  obtain ⟨reply, hreply⟩ := Option.isSome_iff_exists.mp hsettled
  refine ⟨.resume 0, trivial, ?_⟩
  unfold step
  rw [if_neg (by simp [hcalm])]
  rcases hphase with rfl | rfl
  · simp [resume, hrunning, Transport.promised, hreply]
  · simp [resume, hrunning, Transport.promised, hreply]

section Runs

variable (schedule : Nat → Option (Event J))

/-- The client under a schedule. -/
def clientAt (time : Nat) : DaemonClient J :=
  Schedule.stateAt step .initial schedule time

/-- No event ends the process of the client. -/
def CrashFree : Prop :=
  ∀ time event, schedule time = some event →
    ¬(clientAt schedule time).Crashes event

/-- Tasks are run, restarts are continued, and the daemon reacts to every
request: it prints a line, or its session ends. -/
structure Prompt : Prop where
  chain : Schedule.Fair step .initial schedule Event.OfChain
  restarts : ∀ call, Schedule.Fair step .initial schedule
    (fun event => event = .restarted call)
  daemon : ∀ time session id,
    (clientAt schedule time).transport.Owed session id →
      ∃ later event, time ≤ later ∧ schedule later = some event ∧
        event.Concludes session id

/-- What a client promises, whatever the order of events. -/
structure Safe : Prop where
  /-- One request is in flight per session. -/
  single : ∀ time session id other,
    (clientAt schedule time).transport.InFlight session id →
      (clientAt schedule time).transport.InFlight session other → id = other
  /-- A response settles the request with its id, of its session. -/
  delivered : ∀ time session id response reply,
    .delivered session id response reply ∈
        (clientAt schedule time).transport.log →
      response = .number id ∧
        (clientAt schedule time).transport.replies id = some reply ∧
          ∃ method, .sent session id method ∈
            (clientAt schedule time).transport.log
  /-- No call ends twice. -/
  once : ∀ time,
    ((clientAt schedule time).outcomes.map Prod.fst).Nodup
  /-- Every call ends. -/
  ends : Prompt schedule → ∀ time call,
    call < (clientAt schedule time).calls.length →
      ∃ later, time ≤ later ∧ (clientAt schedule later).Settled call
  /-- Nothing is pending on a session that has failed. -/
  failed : ∀ time session id,
    ((clientAt schedule time).transport.sessions session).failed = true →
      ¬(clientAt schedule time).transport.InFlight session id
  /-- The consumer is told once about a session, in time. -/
  inOrder : ∀ time,
    Throughout Observation.InOrder (clientAt schedule time).transport.log
  /-- Nothing is spawned after a version mismatch. -/
  matched : ∀ time,
    Throughout Observation.Matched (clientAt schedule time).transport.log

end Runs

variable {schedule : Nat → Option (Event J)}

/-- What holds of a client at any time, while its process runs. -/
structure Reached (client : DaemonClient J) : Prop where
  sound : client.Sound
  accounted : client.Accounted
  calm : client.transport.uncaught = false

theorem CrashFree.reached
    (h : CrashFree schedule)
    (time : Nat) : (clientAt schedule time).Reached := by
  refine Schedule.invariant Reached
    (fun client event => ¬client.Crashes event)
    ⟨initial_sound, initial_accounted, rfl⟩ ?_ h time
  intro client event after hreached hsafe hstep
  exact ⟨hreached.sound.step hsafe hstep, hreached.accounted.step hstep,
    eq_false_of_ne_true (fun hthrown =>
      hsafe ((step_uncaught hstep).mp hthrown))⟩

theorem Settled.later
    {time later call : Nat}
    (h : (clientAt schedule time).Settled call)
    (hlater : time ≤ later) : (clientAt schedule later).Settled call :=
  Schedule.persists (fun client : DaemonClient J => client.Settled call) h
    (fun _ _ _ hsettled _ hstep => hsettled.step hstep) hlater

theorem calls_later
    {time later : Nat}
    (hlater : time ≤ later) :
    (clientAt schedule time).calls.length ≤
      (clientAt schedule later).calls.length :=
  Schedule.persists
    (fun client : DaemonClient J => (clientAt schedule time).calls.length ≤
      client.calls.length) (le_refl _)
    (fun _ _ _ hle _ hstep => hle.trans (step_calls hstep).length_le) hlater

/-- From any time on a step of the chain is taken, unless the call has left
the chain. -/
theorem CrashFree.chain_step
    (h : CrashFree schedule)
    (hprompt : Prompt schedule)
    {time call : Nat}
    (hcall : call < (clientAt schedule time).calls.length)
    (hleft : ¬(clientAt schedule time).Left call) :
    ∃ later event, time ≤ later ∧ event.OfChain ∧
      Schedule.Takes step .initial schedule later event := by
  have hreached := h.reached time
  by_contra hnever
  have hready (later : Nat) (hlater : time ≤ later) :
      ¬(clientAt schedule later).Ready := by
    intro hready
    obtain ⟨taken, event, htaken, hchain, htakes⟩ :=
      hprompt.chain later hready
    exact hnever ⟨taken, event, hlater.trans htaken, hchain, htakes⟩
  -- Without a step of the chain the same task keeps running.
  have hrunning {later : Nat} (hlater : time ≤ later) :
      (clientAt schedule later).running =
        (clientAt schedule time).running := by
    refine Schedule.persists
      (fun client : DaemonClient J => client.running = (clientAt schedule time).running) rfl
      ?_ hlater
    intro between event hbetween hsame hevent hstep
    have hchain : ¬event.OfChain := by
      intro hchain
      exact hnever ⟨between, event, hbetween, hchain, hevent, by
        rw [hstep]
        rfl⟩
    exact (step_aside hstep hchain).running.trans hsame
  rcases hreached.sound.progress hreached.calm
    (hreached.accounted.on_chain hcall hleft) with
    hnow | ⟨session, id, hawaits, howed⟩
  · exact hready time (le_refl _) hnow
  · obtain ⟨later, event, hlater, hevent, hconcludes⟩ :=
      hprompt.daemon time session id howed
    have hsecond := h.reached later
    have hsame := hrunning hlater
    have hstill : (clientAt schedule later).Awaits session id := by
      obtain ⟨runs, phase, hruns, hphase⟩ := hawaits
      exact ⟨runs, phase, hsame.trans hruns, hphase⟩
    cases hreply : (clientAt schedule later).transport.replies id with
    | some reply =>
        exact hready later hlater
          (ready_of_settled hsecond.calm hstill (by rw [hreply]; rfl))
    | none =>
        -- The event concludes the wait.
        obtain ⟨runs, phase, hruns, hphase⟩ := hstill
        have hopen : (clientAt schedule later).Open session ∧
            (clientAt schedule later).Promised session (.request id) := by
          have hsound := hsecond.sound.phase runs phase hruns
          rcases hphase with rfl | rfl <;> exact hsound
        obtain ⟨after, hafter, hsettled⟩ := hsecond.sound.concludes
          ⟨⟨hopen.2 id rfl, hreply⟩, hopen.1.2⟩ hconcludes hsecond.calm
          (h later event hevent)
        have htakes : Schedule.Takes step .initial schedule later event :=
          ⟨hevent, by
            unfold clientAt at hafter
            rw [hafter]
            rfl⟩
        have hnext : clientAt schedule (later + 1) = after :=
          Option.some.inj (htakes.step_eq.symm.trans hafter)
        refine hready (later + 1) (by omega)
          (ready_of_settled (h.reached (later + 1)).calm
            ⟨runs, phase, (hrunning (by omega)).trans (hsame ▸ hruns),
              hphase⟩ ?_)
        rw [hnext]
        exact hsettled

/-- Every call leaves the chain. -/
theorem CrashFree.leaves
    (h : CrashFree schedule)
    (hprompt : Prompt schedule)
    {time call : Nat}
    (hcall : call < (clientAt schedule time).calls.length) :
    ∃ later, time ≤ later ∧ (clientAt schedule later).Left call := by
  refine Schedule.reaches_of_rank (fun client : DaemonClient J => client.remaining call)
    (fun client : DaemonClient J => client.Left call) ?_ ?_
  · intro between event hbetween hleft hevent hstep
    have hreached := h.reached between
    have hchain := hreached.accounted.on_chain
      (hcall.trans_le (calls_later hbetween)) hleft
    by_cases hown : event.OfChain
    · exact Or.inr (step_lowers hreached.accounted hstep hown hchain).le
    · exact Or.inr (step_keeps_remaining hstep hown
        (h.reached (between + 1)).accounted hchain).le
  · intro between hbetween hleft
    have hcall := hcall.trans_le (calls_later hbetween)
    obtain ⟨later, event, hlater, hown, htakes⟩ :=
      h.chain_step hprompt hcall hleft
    refine ⟨later, hlater, ?_⟩
    have hreached := h.reached later
    by_cases hgone : (clientAt schedule later).Left call
    · exact Or.inl (hgone.step htakes.step_eq)
    · exact Or.inr (step_lowers hreached.accounted htakes.step_eq hown
        (hreached.accounted.on_chain
          (hcall.trans_le (calls_later hlater)) hgone))

/-- Every call ends. -/
theorem CrashFree.ends
    (h : CrashFree schedule)
    (hprompt : Prompt schedule)
    {time call : Nat}
    (hcall : call < (clientAt schedule time).calls.length) :
    ∃ later, time ≤ later ∧ (clientAt schedule later).Settled call := by
  obtain ⟨left, htime, hsettled | hresuming⟩ := h.leaves hprompt hcall
  · exact ⟨left, htime, hsettled⟩
  · -- A restart that is continued.
    have hcalm := (h.reached left).calm
    obtain ⟨later, event, hlater, rfl, htakes⟩ := hprompt.restarts call left
      ⟨.restarted call, rfl, by
        have hstep : (clientAt schedule left).step (.restarted call) =
            (clientAt schedule left).restarted call := by
          unfold step
          exact if_neg (by simp [hcalm])
        unfold clientAt at hstep hresuming
        rw [hstep]
        unfold restarted
        rw [if_pos hresuming]
        rfl⟩
    refine ⟨later + 1, by omega, ?_⟩
    have hstep : (clientAt schedule later).step (.restarted call) =
        some (clientAt schedule (later + 1)) := htakes.step_eq
    unfold step at hstep
    rw [if_neg (by simp [(h.reached later).calm])] at hstep
    exact (restarted_aside hstep).2.1

/-- A client keeps its promises under every schedule that does not end its
process. -/
theorem safe_of_crashFree
    (schedule : Nat → Option (Event J))
    (h : CrashFree schedule) : Safe schedule where
  single := by
    intro time session id other hflight hother
    have hsessions := (h.reached time).sound.sessions
    have hid := hsessions.inFlight_pending session id hflight
    rw [hsessions.inFlight_pending session other hother] at hid
    exact (Option.some.inj hid).symm
  delivered := fun time session id response reply hmem =>
    (h.reached time).sound.sessions.delivered_sent session id response reply
      hmem
  once := fun time => (h.reached time).accounted.nodup_outcomes
  ends := fun hprompt _ _ hcall => h.ends hprompt hcall
  failed := by
    intro time session id hfailed hflight
    have hsessions := (h.reached time).sound.sessions
    have hpending := hsessions.inFlight_pending session id hflight
    rw [(hsessions.failed_quiet session hfailed).2] at hpending
    cases hpending
  inOrder := fun time => (h.reached time).sound.sessions.inOrder
  matched := fun time => (h.reached time).sound.matched

/-- A response without an error that carries a number does not throw. -/
theorem result_not_throws
    {pending : Option Nat}
    {id : Nat}
    {result : J} :
    ¬(Line.response (.number id) none result).Throws pending := by
  simp [Line.Throws, ResponseId.text]

/-- A daemon that stops while it compiles, and a second one that answers.  The
first prints a line after its end. -/
def recompiled (time : Nat) : Option (Event Nat) :=
  [.call .compile,
    .start 0,
    .line 0 (.response (.number 1) none 0) 0,
    .resume 0,
    .resume 0,
    .exit 0 "SIGTERM" 10,
    .resume 10,
    .call .compile,
    .start 20,
    .timer,
    .line 1 (.response (.number 3) none 0) 260,
    .resume 260,
    .resume 260,
    .line 0 (.response (.number 2) none 5) 270,
    .line 1 (.response (.number 4) none 7) 280,
    .resume 280][time]?

theorem recompiled_ended : ∀ later, 16 ≤ later → recompiled later = none :=
  fun _ hlater => List.getElem?_eq_none hlater

theorem recompiled_crashFree : CrashFree recompiled := by
  intro time event hevent hcrash
  have hmem := List.mem_of_getElem? hevent
  simp only [List.mem_cons, List.not_mem_nil, or_false] at hmem
  rcases hmem with rfl | rfl | rfl | rfl | rfl | rfl | rfl | rfl | rfl | rfl |
    rfl | rfl | rfl | rfl | rfl | rfl
  all_goals first
    | exact hcrash
    | exact result_not_throws hcrash.2.2

/-- What holds from a time on until the last event holds ever after. -/
theorem recompiled_ever
    (keeps : DaemonClient Nat → Prop)
    (first : Nat)
    (hfirst : first ≤ 16)
    (hkeeps : ∀ time < 17, first ≤ time → keeps (clientAt recompiled time))
    {time : Nat}
    (htime : first ≤ time) : keeps (clientAt recompiled time) :=
  Schedule.ever_after keeps recompiled_ended hfirst hkeeps htime

/-- A session that waits for nothing from a time on is not owed an answer
then. -/
theorem recompiled_waited
    (session first : Nat)
    (hfirst : first ≤ 16)
    (hidle : ∀ time < 17, first ≤ time →
      ((clientAt recompiled time).transport.sessions session).pending = none)
    {time id : Nat}
    (howed : (clientAt recompiled time).transport.Owed session id) :
    time < first := by
  by_contra htime
  have hpending := ((recompiled_crashFree.reached time).sound.sessions.owed
    howed).2.1
  have hnone := recompiled_ever
    (fun client => (client.transport.sessions session).pending = none) first
    hfirst hidle (Nat.le_of_not_lt htime)
  rw [hnone] at hpending
  cases hpending

theorem recompiled_prompt : Prompt recompiled where
  chain := by
    refine @Schedule.fair_of_last _ _ _ _ _ _ 15 (.resume 280) trivial
      ⟨rfl, by decide +kernel⟩ ?_
    intro time htime event hchain
    obtain ⟨hrunning, hqueue⟩ := recompiled_ever
      (fun client => client.running.isNone = true ∧ client.queue = []) 16
      (by decide) (by decide +kernel) htime
    have hcalm := (recompiled_crashFree.reached time).calm
    rw [Option.isNone_iff_eq_none] at hrunning
    unfold clientAt at hrunning hqueue hcalm
    cases event with
    | start now => simp [step, start, hcalm, hrunning, hqueue]
    | resume now => simp [step, resume, hcalm, hrunning]
    | timer => simp [step, timer, hcalm, hrunning]
    | _ => exact hchain.elim
  restarts := by
    intro call
    refine Schedule.fair_of_never ?_
    rintro time _ rfl
    have hresuming := recompiled_ever (fun client => client.resuming = []) 0
      (by decide) (by decide +kernel) (Nat.zero_le time)
    have hcalm := (recompiled_crashFree.reached time).calm
    unfold clientAt at hresuming hcalm
    simp [step, restarted, hcalm, hresuming]
  daemon := by
    intro time session id howed
    have hspawned := recompiled_ever (fun client => client.transport.spawned ≤ 2)
      0 (by decide) (by decide +kernel) (Nat.zero_le time)
    have hsession := ((recompiled_crashFree.reached time).sound.sessions.owed
      howed).1
    match session with
    | 0 =>
        have htime := recompiled_waited 0 6 (by decide) (by decide +kernel) howed
        exact ⟨5, .exit 0 "SIGTERM" 10, by omega, rfl, rfl⟩
    | 1 =>
        have htime := recompiled_waited 1 15 (by decide) (by decide +kernel)
          howed
        exact ⟨14, .line 1 (.response (.number 4) none 7) 280, by omega, rfl,
          rfl, by simp⟩
    | session + 2 => omega

theorem safe_recompiled : Prompt recompiled ∧ Safe recompiled :=
  ⟨recompiled_prompt, safe_of_crashFree recompiled recompiled_crashFree⟩

/-- A daemon that answers its initialization with the line `null`, and goes
away. -/
def printedNull : Nat → Option (Event Nat)
  | 0 => some (.call .compile)
  | 1 => some (.start 0)
  | 2 => some (.line 0 .null 0)
  | _ => some (.exit 0 "SIGTERM" 0)

/-- Nothing happens any more once the listener has thrown. -/
theorem printedNull_stuck (time : Nat) :
    clientAt printedNull (time + 3) = clientAt printedNull 3 := by
  induction time with
  | zero => rfl
  | succ time ih =>
      have hthrown : (clientAt printedNull (time + 3)).transport.uncaught =
          true := by
        rw [ih]
        rfl
      have hnext := @Schedule.stateAt_succ _ _ step .initial printedNull
        (time + 3)
      rcases hnext with hsame | ⟨event, -, hstep⟩
      · exact hsame.trans ih
      · have hnone : (clientAt printedNull (time + 3)).step event = none := by
          unfold step
          exact if_pos hthrown
        unfold clientAt at hnone
        rw [hnone] at hstep
        cases hstep

/-- What may happen, under the schedule, beside the call and its start. -/
theorem printedNull_idle
    {time : Nat}
    {event : Event Nat}
    (hown : event.OfChain ∨ ∃ call, event = .restarted call)
    (hstep : ((clientAt printedNull time).step event).isSome = true) :
    time = 1 ∧ event.OfChain := by
  match time with
  | 0 =>
      rcases hown with hchain | ⟨call, rfl⟩
      · cases event with
        | start now | resume now | timer => cases hstep
        | _ => exact hchain.elim
      · cases hstep
  | 1 =>
      rcases hown with hchain | ⟨call, rfl⟩
      · exact ⟨rfl, hchain⟩
      · cases hstep
  | 2 =>
      rcases hown with hchain | ⟨call, rfl⟩
      · cases event with
        | start now | resume now | timer => cases hstep
        | _ => exact hchain.elim
      · cases hstep
  | time + 3 =>
      rw [printedNull_stuck] at hstep
      have hnone : (clientAt printedNull 3).step event = none := by
        unfold step
        exact if_pos rfl
      rw [hnone] at hstep
      cases hstep

theorem printedNull_prompt : Prompt printedNull where
  chain := by
    rintro time ⟨event, hchain, hstep⟩
    obtain ⟨rfl, -⟩ := printedNull_idle (Or.inl hchain) hstep
    exact ⟨1, .start 0, le_refl _, trivial, rfl, rfl⟩
  restarts := by
    rintro call time ⟨event, rfl, hstep⟩
    exact (printedNull_idle (Or.inr ⟨call, rfl⟩) hstep).2.elim
  daemon := by
    rintro time session id ⟨⟨⟨method, hsent⟩, -⟩, -⟩
    have hsession {log : List (Observation Nat)}
        (hlog : log = [.sent 0 1 .initializeSession, .spawned 0])
        (hmem : .sent session id method ∈ log) : 0 = session := by
      rw [hlog] at hmem
      simp only [List.mem_cons, List.not_mem_nil, or_false,
        reduceCtorEq] at hmem
      exact (Observation.sent.inj hmem).1.symm
    match time with
    | 0 => cases hsent
    | 1 => cases hsent
    | 2 =>
        exact ⟨2, .line 0 .null 0, le_refl _, rfl, hsession rfl hsent,
          by simp⟩
    | time + 3 =>
        rw [printedNull_stuck] at hsent
        exact ⟨time + 3, .exit 0 "SIGTERM" 0, le_refl _, rfl,
          hsession rfl hsent⟩

/-- The listener throws, and the call that waits for the answer never
ends. -/
theorem not_safe_printedNull : ¬Safe printedNull := by
  intro hsafe
  obtain ⟨later, hlater, outcome, hmem⟩ :=
    hsafe.ends printedNull_prompt 3 0 (by decide)
  obtain ⟨time, rfl⟩ := Nat.exists_eq_add_of_le' hlater
  rw [printedNull_stuck time] at hmem
  cases hmem

end DaemonClient

end Client

end Dsql
