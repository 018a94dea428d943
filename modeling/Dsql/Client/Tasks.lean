import Dsql.Client.Sessions

/-!
# Tasks of the daemon client

What holds of a client after any events: the running task waits for a request
of a session in use, and nothing is spawned after a version mismatch.
-/

namespace Dsql

namespace Client

variable {J : Type}

namespace Observation

/-- An initialization was answered with a version mismatch. -/
def Mismatched (log : List (Observation J)) : Prop :=
  ∃ session id response error,
    .delivered session id response (.error error) ∈ log ∧
      error.isUnsupported = true ∧
        .sent session id .initializeSession ∈ log

/-- No session is spawned after a version mismatch. -/
def Matched : Observation J → List (Observation J) → Prop
  | .spawned _, earlier => ¬Mismatched earlier
  | _, _ => True

theorem throughout_append
    {log added : List (Observation J)}
    (h : Throughout Matched log)
    (hadded : ∀ session, .spawned session ∉ added) :
    Throughout Matched (added ++ log) := by
  induction added with
  | nil => exact h
  | cons observation added ih =>
      have hrest := ih (fun session hmem =>
        hadded session (List.mem_cons_of_mem _ hmem))
      refine ⟨?_, hrest⟩
      cases observation with
      | spawned session => exact absurd List.mem_cons_self (hadded session)
      | _ => trivial

end Observation

namespace DaemonClient

variable (client : DaemonClient J)

/-- The promise belongs to a request of the session. -/
def Promised (session : Nat) (promise : Promise J) : Prop :=
  ∀ id, promise = .request id →
    ∃ method, .sent session id method ∈ client.transport.log

/-- The session is open, as far as its client is concerned. -/
def Open (session : Nat) : Prop :=
  session < client.transport.spawned ∧
    (client.transport.sessions session).closing = false

/-- What the running task may rely on. -/
def PhaseSound : Phase J → Prop
  | .backoff => client.fatal = none ∧ client.transport.slot = none
  | .initializing session promise =>
      client.Open session ∧ client.Promised session promise
  | .ready session => client.Open session
  | .awaiting session promise =>
      client.Open session ∧ client.Promised session promise
  | .stopping session _ | .killing session =>
      session < client.transport.spawned

/-- The running task waits for a request that initializes a session. -/
def Opening (session id : Nat) : Prop :=
  ∃ call, client.running = some (call, .initializing session (.request id))

structure Sound (client : DaemonClient J) : Prop where
  sessions : client.transport.Sound
  phase : ∀ call phase, client.running = some (call, phase) →
    client.PhaseSound phase
  opening : ∀ session id,
    .sent session id .initializeSession ∈ client.transport.log →
      client.transport.replies id = none → client.Opening session id
  mismatch : ∀ session id response error,
    .delivered session id response (.error error) ∈ client.transport.log →
      error.isUnsupported = true →
        .sent session id .initializeSession ∈ client.transport.log →
          client.fatal.isSome = true ∨ client.Opening session id
  matched : Throughout Observation.Matched client.transport.log

variable {client}

theorem initial_sound : (initial : DaemonClient J).Sound := by
  refine ⟨Transport.initial_sound, ?_, ?_, ?_, trivial⟩ <;>
    simp [initial, Transport.initial]

/-- Without a task that initializes a session nothing is mismatched before a
fatal error. -/
theorem Sound.not_mismatched
    (h : client.Sound)
    (hfatal : client.fatal = none)
    (hopening : ∀ session id, ¬client.Opening session id) :
    ¬Observation.Mismatched client.transport.log := by
  rintro ⟨session, id, response, error, hmem, hunsupported, hsent⟩
  rcases h.mismatch session id response error hmem hunsupported hsent with
    hsome | hrunning
  · rw [hfatal] at hsome
    cases hsome
  · exact hopening session id hrunning

/-- Events of children keep what holds of a client. -/
theorem Sound.served
    (h : client.Sound)
    {after : Transport J}
    (hserved : client.transport.Served after) :
    { client with transport := after }.Sound := by
  obtain ⟨hsound, hquiet⟩ := hserved
  have hopen (session : Nat) (hopen : client.Open session) :
      { client with transport := after }.Open session := by
    refine ⟨?_, ?_⟩
    · rw [hquiet.spawned]
      exact hopen.1
    · rw [hquiet.closing]
      exact hopen.2
  have hpromised (session : Nat) (promise : Promise J)
      (hpromise : client.Promised session promise) :
      { client with transport := after }.Promised session promise := by
    intro id hid
    obtain ⟨method, hsent⟩ := hpromise id hid
    exact ⟨method, (hquiet.sent_iff session id method).mpr hsent⟩
  refine ⟨hsound, ?_, ?_, ?_, ?_⟩
  · intro call phase hrunning
    have hphase := h.phase call phase hrunning
    cases phase with
    | backoff =>
        refine ⟨hphase.1, ?_⟩
        rcases hquiet.slot with hsame | hnone
        · exact hsame.trans hphase.2
        · exact hnone
    | initializing session promise | awaiting session promise =>
        exact ⟨hopen session hphase.1, hpromised session promise hphase.2⟩
    | ready session => exact hopen session hphase
    | stopping session promise | killing session =>
        have hbound : session < client.transport.spawned := hphase
        rw [← hquiet.spawned] at hbound
        exact hbound
  · intro session id hsent hnone
    rw [hquiet.sent_iff] at hsent
    refine h.opening session id hsent ?_
    cases hreply : client.transport.replies id with
    | none => rfl
    | some reply =>
        rw [hquiet.replies id reply hreply] at hnone
        cases hnone
  · intro session id response error hmem hunsupported hsent
    rw [hquiet.sent_iff] at hsent
    obtain ⟨added, hlog, -, -, hdelivered⟩ := hquiet.log
    rw [hlog] at hmem
    rcases List.mem_append.mp hmem with hnew | hold
    · exact Or.inr (h.opening session id hsent
        (hdelivered session id response _ hnew))
    · exact h.mismatch session id response error hold hunsupported hsent
  · obtain ⟨added, hlog, hspawned, -, -⟩ := hquiet.log
    rw [hlog]
    exact Observation.throughout_append h.matched hspawned

/-- A task that goes on keeps what holds of its client, once a request that
it waited for to initialize a session is settled and a mismatch made fatal. -/
theorem Sound.proceed
    (h : client.Sound)
    {after : DaemonClient J}
    (hsettled : ∀ session id, client.Opening session id →
      ∃ reply, client.transport.replies id = some reply ∧
        ∀ error, reply = .error error → error.isUnsupported = true →
          after.fatal.isSome = true)
    (hfatal : client.fatal.isSome = true → after.fatal.isSome = true)
    (hsound : after.transport.Sound)
    (hreplies : after.transport.replies = client.transport.replies)
    (hlog : ∃ added, after.transport.log = added ++ client.transport.log ∧
      ∀ observation ∈ added, ∃ session id method,
        observation = .sent session id method ∧
          method ≠ .initializeSession)
    (hphase : ∀ call phase, after.running = some (call, phase) →
      after.PhaseSound phase) :
    after.Sound := by
  obtain ⟨added, hadded, hsent⟩ := hlog
  have hopens {session id : Nat}
      (hmem : .sent session id .initializeSession ∈ after.transport.log) :
      .sent session id .initializeSession ∈ client.transport.log := by
    rw [hadded] at hmem
    refine (List.mem_append.mp hmem).resolve_left (fun hnew => ?_)
    obtain ⟨s, i, method, heq, hother⟩ := hsent _ hnew
    exact hother (Observation.sent.inj heq).2.2.symm
  have hdelivered {session id : Nat} {response : ResponseId}
      {reply : Reply J}
      (hmem : .delivered session id response reply ∈ after.transport.log) :
      .delivered session id response reply ∈ client.transport.log := by
    rw [hadded] at hmem
    refine (List.mem_append.mp hmem).resolve_left (fun hnew => ?_)
    obtain ⟨s, i, method, heq, -⟩ := hsent _ hnew
    cases heq
  refine ⟨hsound, hphase, ?_, ?_, ?_⟩
  · intro session id hmem hnone
    rw [hreplies] at hnone
    obtain ⟨reply, hreply, -⟩ := hsettled session id
      (h.opening session id (hopens hmem) hnone)
    rw [hnone] at hreply
    cases hreply
  · intro session id response error hmem hunsupported hopened
    refine Or.inl ?_
    rcases h.mismatch session id response error (hdelivered hmem)
      hunsupported (hopens hopened) with hsome | hrunning
    · exact hfatal hsome
    · obtain ⟨reply, hreply, hmismatch⟩ := hsettled session id hrunning
      have hkept := (h.sessions.delivered_sent session id response _
        (hdelivered hmem)).2.1
      rw [hreply, Option.some.injEq] at hkept
      exact hmismatch error hkept hunsupported
  · rw [hadded]
    refine Observation.throughout_append h.matched (fun session hnew => ?_)
    obtain ⟨s, i, method, heq, -⟩ := hsent _ hnew
    cases heq

/-- A task that spawns a session waits for its initialization. -/
theorem Sound.spawnSession
    (h : client.Sound)
    (hfatal : client.fatal = none)
    (hslot : client.transport.slot = none)
    (hopening : ∀ session id, ¬client.Opening session id)
    (call : Nat) :
    (client.spawnSession call).Sound := by
  obtain ⟨opened, hspawned, hreplies, hlog, hclosing, hsent⟩ :=
    h.sessions.spawn hslot
  have hfresh := h.sessions.unspawned client.transport.spawned (le_refl _)
  have hmatched := h.not_mismatched hfatal hopening
  have hopened : Throughout Observation.Matched opened.log := by
    rw [hlog]
    exact ⟨hmatched, h.matched⟩
  have hlast : (client.spawnSession call).running =
      some (call, .initializing client.transport.spawned
        client.transport.spawn.2) := rfl
  -- Whether the first request was rejected at once or sent.
  have hadded : ∃ added, client.transport.spawn.1.log =
        added ++ client.transport.log ∧
      (∀ session id response reply,
        .delivered session id response reply ∉ added) ∧
      ∀ session id method, .sent session id method ∈ added →
        session = client.transport.spawned ∧
          client.transport.spawn.2 = .request id := by
    rcases hsent.outcome with ⟨error, -, hsame⟩ | ⟨id, hid, -, hnew⟩
    · refine ⟨[.spawned client.transport.spawned], ?_, by simp, by simp⟩
      rw [hsame, hlog]
      rfl
    · refine ⟨[.sent client.transport.spawned id .initializeSession,
        .spawned client.transport.spawned], ?_, by simp, ?_⟩
      · rw [hnew, hlog]
        rfl
      · intro s i m hmem
        have heq : Observation.sent s i m =
            (.sent client.transport.spawned id .initializeSession :
              Observation J) := by
          simpa using hmem
        obtain ⟨rfl, rfl, -⟩ := Observation.sent.inj heq
        exact ⟨rfl, hid⟩
  obtain ⟨added, hadd, hquiet, hrequest⟩ := hadded
  refine ⟨hsent.sound, ?_, ?_, ?_, ?_⟩
  · intro other phase hrunning
    obtain ⟨rfl, rfl⟩ := Prod.mk.inj (Option.some.inj (hlast ▸ hrunning))
    refine ⟨⟨?_, ?_⟩, ?_⟩
    · have hbound : (client.spawnSession call).transport.spawned =
          client.transport.spawned + 1 := hsent.spawned.trans hspawned
      omega
    · have hcurrent := (hsent.closing client.transport.spawned).trans
        (hclosing client.transport.spawned)
      rw [hfresh] at hcurrent
      exact hcurrent
    · intro id hid
      rcases hsent.outcome with ⟨error, herror, -⟩ | ⟨i, hi, -, hnew⟩
      · rw [herror] at hid
        cases hid
      · obtain rfl : i = id := by
          rw [hi] at hid
          exact Promise.request.inj hid
        refine ⟨.initializeSession, ?_⟩
        have hmem : (.sent client.transport.spawned i .initializeSession :
            Observation J) ∈ client.transport.spawn.1.log := by
          rw [hnew]
          exact List.mem_cons_self
        exact hmem
  · intro session id hmem hnone
    have hmem : .sent session id .initializeSession ∈
        client.transport.spawn.1.log := hmem
    have hnone : client.transport.spawn.1.replies id = none := hnone
    rw [hadd] at hmem
    rcases List.mem_append.mp hmem with hnew | hold
    · obtain ⟨rfl, hid⟩ := hrequest session id _ hnew
      exact ⟨call, by rw [hlast, hid]⟩
    · rw [hsent.replies, hreplies] at hnone
      exact absurd (h.opening session id hold hnone) (hopening session id)
  · intro session id response error hmem hunsupported hopened
    have hmem : .delivered session id response (.error error) ∈
        client.transport.spawn.1.log := hmem
    have hopened : .sent session id .initializeSession ∈
        client.transport.spawn.1.log := hopened
    rw [hadd] at hmem hopened
    have hold := (List.mem_append.mp hmem).resolve_left
      (hquiet session id response _)
    rcases List.mem_append.mp hopened with hnew | hearlier
    · obtain ⟨rfl, -⟩ := hrequest session id _ hnew
      obtain ⟨-, -, method, hsent'⟩ :=
        h.sessions.delivered_sent _ id response _ hold
      have hbound := (h.sessions.sent_lt _ id method hsent').1
      omega
    · exact absurd ⟨session, id, response, error, hold, hunsupported,
        hearlier⟩ hmatched
  · have hmore : Throughout Observation.Matched
        client.transport.spawn.1.log := by
      rcases hsent.outcome with ⟨error, -, hsame⟩ | ⟨id, -, -, hnew⟩
      · rw [hsame]
        exact hopened
      · rw [hnew]
        exact ⟨trivial, hopened⟩
    exact hmore

/-- Only the queue of calls changes. -/
theorem Sound.accept
    (h : client.Sound)
    (call : Call) : (client.accept call).Sound := by
  have hsame (after : DaemonClient J)
      (htransport : after.transport = client.transport)
      (hrunning : after.running = client.running)
      (hfatal : after.fatal = client.fatal) : after.Sound := by
    obtain ⟨transport, fatal, closing, calls, queue, running, resuming,
      outcomes⟩ := after
    simp only at htransport hrunning hfatal
    subst htransport hrunning hfatal
    refine ⟨h.sessions, ?_, h.opening, h.mismatch, h.matched⟩
    intro call phase hrunning
    have hphase := h.phase call phase hrunning
    cases phase <;> exact hphase
  cases call with
  | compile | filesChanged paths =>
      unfold DaemonClient.accept
      simp only
      split <;> exact hsame _ rfl rfl rfl
  | shutdown | restart => exact hsame _ rfl rfl rfl

theorem clearSlot_of_none
    (hslot : client.transport.slot = none) : client.clearSlot = client := by
  unfold clearSlot Transport.clearSlot
  rw [← hslot]

section Idle

variable
  (h : client.Sound)
  (hopening : ∀ session id, ¬client.Opening session id)

include h hopening

/-- A task that sends nothing, beside no initialization. -/
theorem Sound.quietly
    {after : DaemonClient J}
    (hfatal : after.fatal = client.fatal)
    (hsound : after.transport.Sound)
    (hreplies : after.transport.replies = client.transport.replies)
    (hlog : after.transport.log = client.transport.log)
    (hphase : ∀ call phase, after.running = some (call, phase) →
      after.PhaseSound phase) :
    after.Sound :=
  h.proceed (fun session id hrunning => absurd hrunning (hopening session id))
    (fun hsome => hfatal ▸ hsome) hsound hreplies
    ⟨[], by simpa using hlog, by simp⟩ hphase

theorem Sound.finish
    (call : Nat)
    (outcome : Outcome J) : (client.finish call outcome).Sound :=
  h.quietly hopening rfl h.sessions rfl rfl (by simp [DaemonClient.finish])

theorem Sound.finishShutdown (call : Nat) :
    (client.finishShutdown call).Sound := by
  unfold DaemonClient.finishShutdown
  split
  · exact h.quietly hopening rfl h.sessions rfl rfl (by simp)
  · exact h.finish hopening call .done

theorem Sound.respawn
    (hfatal : client.fatal = none)
    (hslot : client.transport.slot = none)
    (call now : Nat) : (client.respawn call now).Sound := by
  unfold DaemonClient.respawn
  split
  · refine h.quietly hopening rfl h.sessions rfl rfl ?_
    intro other phase hrunning
    obtain ⟨rfl, rfl⟩ := Prod.mk.inj (Option.some.inj hrunning)
    exact ⟨hfatal, hslot⟩
  · exact h.spawnSession hfatal hslot hopening call

theorem Sound.ensureSession
    (call now : Nat) : (client.ensureSession call now).Sound := by
  unfold DaemonClient.ensureSession
  cases hfatal : client.fatal with
  | some error => exact h.finish hopening call (.failed error)
  | none =>
      simp only
      cases hslot : client.transport.slot with
      | none =>
          simp only [clearSlot_of_none hslot]
          exact h.respawn hopening hfatal hslot call now
      | some session =>
          obtain ⟨hlast, hclosing, hdead⟩ := h.sessions.slot_last session hslot
          simp only [hdead, Bool.false_eq_true, if_false]
          refine h.quietly hopening rfl h.sessions rfl rfl ?_
          intro other phase hrunning
          obtain ⟨rfl, rfl⟩ := Prod.mk.inj (Option.some.inj hrunning)
          exact ⟨Nat.lt_of_lt_of_eq (Nat.lt_succ_self session) hlast, hclosing⟩

theorem Sound.stopSession
    {call session : Nat}
    (hspawned : session < client.transport.spawned) :
    (client.stopSession call session).Sound := by
  unfold DaemonClient.stopSession
  split
  · exact h.finishShutdown hopening call
  · refine h.quietly hopening rfl h.sessions rfl rfl ?_
    intro other phase hrunning
    obtain ⟨rfl, rfl⟩ := Prod.mk.inj (Option.some.inj hrunning)
    exact hspawned

theorem Sound.shutdownNow (call : Nat) :
    (client.shutdownNow call).Sound := by
  unfold DaemonClient.shutdownNow
  cases hslot : client.transport.slot with
  | none =>
      simp only [clearSlot_of_none hslot]
      exact h.finishShutdown hopening call
  | some session =>
      obtain ⟨hlast, -, hdead⟩ := h.sessions.slot_last session hslot
      simp only
      rw [if_neg (by simp [hdead])]
      have hbound : session < client.transport.spawned := by omega
      have hclosed := h.sessions.close hbound
      have hsame : (client.transport.setSession session
          { client.transport.sessions session with
              closing := true }).freeSlot session =
          client.transport.clearSlot.setSession session
            { client.transport.sessions session with closing := true } := by
        simp [Transport.freeSlot, Transport.clearSlot, Transport.setSession,
          hslot]
      rw [hsame] at hclosed
      have hsent := hclosed.send hbound .shutdown
      refine h.proceed (fun s id hrunning => absurd hrunning (hopening s id))
        (fun hsome => hsome) hsent.sound hsent.replies ?_ ?_
      · rcases hsent.outcome with ⟨error, -, hlog⟩ | ⟨id, -, -, hlog⟩
        · exact ⟨[], hlog, by simp⟩
        · exact ⟨[.sent session id .shutdown], hlog, by simp⟩
      · intro other phase hrunning
        obtain ⟨rfl, rfl⟩ := Prod.mk.inj (Option.some.inj hrunning)
        exact Nat.lt_of_lt_of_eq hbound hsent.spawned.symm

end Idle

/-- The next task of the chain. -/
theorem Sound.start
    (h : client.Sound)
    {now : Nat}
    {after : DaemonClient J}
    (hstep : client.start now = some after) : after.Sound := by
  unfold DaemonClient.start at hstep
  split at hstep
  · next call queue hrunning hqueue =>
      have hopening (session id : Nat) :
          ¬({ client with queue := queue } : DaemonClient J).Opening session
            id := by
        rintro ⟨other, hother⟩
        have hnone : client.running = none := hrunning
        rw [show client.running = some _ from hother] at hnone
        cases hnone
      have hstarted : ({ client with queue := queue } :
          DaemonClient J).Sound := by
        refine ⟨h.sessions, ?_, h.opening, h.mismatch, h.matched⟩
        intro other phase hother
        have hphase := h.phase other phase hother
        cases phase <;> exact hphase
      split at hstep <;> obtain rfl := Option.some.inj hstep
      · exact hstarted.shutdownNow hopening call
      · exact hstarted.shutdownNow hopening call
      · exact hstarted.ensureSession hopening call now
  · cases hstep

theorem Sound.timer
    (h : client.Sound)
    {after : DaemonClient J}
    (hstep : client.timer = some after) : after.Sound := by
  unfold DaemonClient.timer at hstep
  split at hstep
  · next call hrunning =>
      obtain rfl := Option.some.inj hstep
      obtain ⟨hfatal, hslot⟩ := h.phase call _ hrunning
      refine h.spawnSession hfatal hslot ?_ call
      rintro session id ⟨other, hother⟩
      rw [hrunning] at hother
      cases hother
  · next call session promise hrunning =>
      obtain rfl := Option.some.inj hstep
      refine h.stopSession ?_ (h.phase call _ hrunning)
      rintro other id ⟨_, hother⟩
      rw [hrunning] at hother
      cases hother
  · next call session hrunning =>
      obtain rfl := Option.some.inj hstep
      refine h.finishShutdown ?_ call
      rintro other id ⟨_, hother⟩
      rw [hrunning] at hother
      cases hother
  · cases hstep

theorem Sound.restarted
    (h : client.Sound)
    {call : Nat}
    {after : DaemonClient J}
    (hstep : client.restarted call = some after) : after.Sound := by
  unfold DaemonClient.restarted at hstep
  split at hstep
  · obtain rfl := Option.some.inj hstep
    refine ⟨h.sessions.timed _ _, ?_, h.opening, h.mismatch, h.matched⟩
    intro other phase hother
    have hphase := h.phase other phase hother
    cases phase <;> exact hphase
  · cases hstep

/-- A session that could not be initialized is given up. -/
theorem Sound.abandon
    (h : client.Sound)
    {session : Nat}
    (hspawned : session < client.transport.spawned)
    (now : Nat) :
    (client.transport.abandon session now).Sound := by
  unfold Transport.abandon
  simp only
  split
  · exact h.sessions.close hspawned
  · exact (h.sessions.scheduleBackoff now).close hspawned

theorem abandon_replies (transport : Transport J) (session now : Nat) :
    (transport.abandon session now).replies = transport.replies := by
  unfold Transport.abandon Transport.freeSlot
  simp only
  split <;> split <;> rfl

theorem abandon_log (transport : Transport J) (session now : Nat) :
    (transport.abandon session now).log = transport.log := by
  unfold Transport.abandon Transport.freeSlot
  simp only
  split <;> split <;> rfl

section Resuming

variable (h : client.Sound) {call session : Nat} {promise : Promise J}

include h

/-- A failed initialization ends its call; a mismatch is fatal. -/
theorem Sound.initializeFailed
    (hrunning : client.running = some (call, .initializing session promise))
    {error : ClientError J}
    (hreply : client.transport.promised promise = some (.error error))
    (now : Nat) :
    (client.initializeFailed call session error now).Sound := by
  obtain ⟨⟨hspawned, -⟩, -⟩ := h.phase call _ hrunning
  refine h.proceed ?_ ?_ (h.abandon hspawned now)
    (abandon_replies client.transport session now)
    ⟨[], abandon_log client.transport session now, by simp⟩
    (by simp [DaemonClient.initializeFailed, DaemonClient.finish])
  · rintro other id ⟨_, hother⟩
    rw [hrunning] at hother
    obtain ⟨rfl, rfl⟩ :=
      Phase.initializing.inj (Prod.mk.inj (Option.some.inj hother)).2
    refine ⟨.error error, hreply, ?_⟩
    rintro failure hfailure hunsupported
    obtain rfl := Except.error.inj hfailure
    simp [DaemonClient.initializeFailed, DaemonClient.finish, hunsupported]
  · intro hsome
    simp only [DaemonClient.initializeFailed, DaemonClient.finish]
    split
    · rfl
    · exact hsome

/-- An initialized session can take requests. -/
theorem Sound.initialized
    (hrunning : client.running = some (call, .initializing session promise))
    {info : J}
    (hreply : client.transport.promised promise = some (.ok info)) :
    { client with
      transport := client.transport.setSession session
        { client.transport.sessions session with info := some info }
      running := some (call, .ready session) }.Sound := by
  obtain ⟨⟨hspawned, hclosing⟩, -⟩ := h.phase call _ hrunning
  refine h.proceed ?_ (fun hsome => hsome)
    (h.sessions.setInfo hspawned (some info)) rfl ⟨[], rfl, by simp⟩ ?_
  · rintro other id ⟨_, hother⟩
    rw [hrunning] at hother
    obtain ⟨rfl, rfl⟩ :=
      Phase.initializing.inj (Prod.mk.inj (Option.some.inj hother)).2
    refine ⟨.ok info, hreply, ?_⟩
    intro failure hfailure
    cases hfailure
  · intro other phase hother
    obtain ⟨rfl, rfl⟩ := Prod.mk.inj (Option.some.inj hother)
    refine ⟨hspawned, ?_⟩
    simpa using hclosing

theorem Sound.answered
    (hopening : ∀ session id, ¬client.Opening session id)
    (call : Nat)
    (reply : Reply J) : (client.answered call reply).Sound := by
  have hreset : ({ client with
      transport := client.transport.resetBackoff } : DaemonClient J).Sound :=
    h.quietly hopening rfl (h.sessions.resetBackoff) rfl rfl (by
      intro other phase hother
      have hphase := h.phase other phase hother
      cases phase <;> exact hphase)
  cases reply with
  | ok value => exact hreset.finish hopening call (.result value)
  | error error =>
      simp only [DaemonClient.answered]
      split
      · exact hreset.finish hopening call (.failed error)
      · exact h.finish hopening call (.failed error)

/-- A task sends the request of its call. -/
theorem Sound.ready
    (hrunning : client.running = some (call, .ready session)) :
    { client with
      transport := (client.transport.send session (client.method call)).1
      running := some (call, .awaiting session
        (client.transport.send session (client.method call)).2) }.Sound := by
  obtain ⟨hspawned, hclosing⟩ := h.phase call _ hrunning
  have hsent := h.sessions.send hspawned (client.method call)
  have hmethod : client.method call ≠ .initializeSession := by
    unfold DaemonClient.method
    split <;> simp
  refine h.proceed ?_ (fun hsome => hsome) hsent.sound hsent.replies ?_ ?_
  · rintro other id ⟨_, hother⟩
    rw [hrunning] at hother
    cases hother
  · rcases hsent.outcome with ⟨error, -, hlog⟩ | ⟨id, -, -, hlog⟩
    · exact ⟨[], hlog, by simp⟩
    · exact ⟨[.sent session id (client.method call)], hlog,
        fun observation hmem => ⟨session, id, client.method call,
          List.mem_singleton.mp hmem, hmethod⟩⟩
  · intro other phase hother
    obtain ⟨rfl, rfl⟩ := Prod.mk.inj (Option.some.inj hother)
    refine ⟨⟨Nat.lt_of_lt_of_eq hspawned hsent.spawned.symm,
      (hsent.closing session).trans hclosing⟩, ?_⟩
    intro id hid
    rcases hsent.outcome with ⟨error, herror, -⟩ | ⟨i, hi, -, hlog⟩
    · rw [herror] at hid
      cases hid
    · obtain rfl : i = id := by
        rw [hi] at hid
        exact Promise.request.inj hid
      refine ⟨client.method call, ?_⟩
      rw [hlog]
      exact List.mem_cons_self

end Resuming

theorem Sound.resume
    (h : client.Sound)
    {now : Nat}
    {after : DaemonClient J}
    (hstep : client.resume now = some after) : after.Sound := by
  unfold DaemonClient.resume at hstep
  split at hstep
  · next call session promise hrunning =>
      obtain ⟨reply, hreply, rfl⟩ := Option.map_eq_some_iff.mp hstep
      cases reply with
      | ok info => exact h.initialized hrunning hreply
      | error error => exact h.initializeFailed hrunning hreply now
  · next call session hrunning =>
      obtain rfl := Option.some.inj hstep
      exact h.ready hrunning
  · next call session promise hrunning =>
      obtain ⟨reply, -, rfl⟩ := Option.map_eq_some_iff.mp hstep
      refine h.answered ?_ call reply
      rintro other id ⟨_, hother⟩
      rw [hrunning] at hother
      cases hother
  · next call session promise hrunning =>
      obtain ⟨reply, -, rfl⟩ := Option.map_eq_some_iff.mp hstep
      refine h.stopSession ?_ (h.phase call _ hrunning)
      rintro other id ⟨_, hother⟩
      rw [hrunning] at hother
      cases hother
  · next call session hrunning =>
      split at hstep
      · obtain rfl := Option.some.inj hstep
        refine h.finishShutdown ?_ call
        rintro other id ⟨_, hother⟩
        rw [hrunning] at hother
        cases hother
      · cases hstep
  · cases hstep

/-- A listener of a child that was spawned. -/
theorem Sound.onChild
    (h : client.Sound)
    {session : Nat}
    {listener : Transport J → Transport J}
    (hserved : session < client.transport.spawned →
      client.transport.Served (listener client.transport))
    {after : DaemonClient J}
    (hstep : client.onChild session listener = some after) :
    after.Sound := by
  unfold DaemonClient.onChild at hstep
  split at hstep
  · next hspawned =>
      obtain rfl := Option.some.inj hstep
      exact h.served (hserved hspawned)
  · cases hstep

/-- Every event keeps what holds of a client, unless its process ends. -/
theorem Sound.step
    (h : client.Sound)
    {event : Event J}
    {after : DaemonClient J}
    (hcalm : ¬client.Crashes event)
    (hstep : client.step event = some after) : after.Sound := by
  unfold DaemonClient.step at hstep
  split at hstep
  · cases hstep
  · cases event with
    | call call =>
        obtain rfl := Option.some.inj hstep
        exact h.accept call
    | start now => exact h.start hstep
    | resume now => exact h.resume hstep
    | timer => exact h.timer hstep
    | restarted call => exact h.restarted hstep
    | line session line now =>
        exact h.onChild (fun hspawned =>
          h.sessions.served_receive hspawned line now
            (fun hdead hthrows => hcalm ⟨hspawned, hdead, hthrows⟩)) hstep
    | stdoutClosed session now =>
        exact h.onChild (fun hspawned =>
          h.sessions.served_closeStdout hspawned now) hstep
    | exit session reason now =>
        exact h.onChild (fun hspawned =>
          h.sessions.served_exit hspawned reason now) hstep
    | spawnError session message now =>
        exact h.onChild (fun hspawned =>
          h.sessions.served_failSession hspawned (.startFailed message) now)
          hstep
    | writeFailed session id message destroyed =>
        refine h.onChild (fun hspawned => ?_) hstep
        cases destroyed with
        | false => exact absurd ⟨hspawned, rfl⟩ hcalm
        | true => exact h.sessions.served_writeFailed session id message
    | unheard session =>
        exact h.onChild (fun hspawned => absurd hspawned hcalm) hstep

end DaemonClient

end Client

end Dsql
