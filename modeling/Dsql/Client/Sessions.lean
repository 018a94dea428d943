import Dsql.Client.Connection
import Dsql.Logic.History

/-!
# Sessions of the daemon client

What holds of the sessions of a client at any time, and what the events of a
child leave alone.
-/

namespace Dsql

namespace Client

variable {J : Type}

namespace Observation

/-- The consumer is told once about a session, and before any response of a
later session. -/
def InOrder : Observation J → List (Observation J) → Prop
  | .invalidated session, earlier =>
      .invalidated session ∉ earlier ∧
        ∀ other id response reply,
          .delivered other id response reply ∈ earlier → other ≤ session
  | _, _ => True

end Observation

namespace Transport

/-- A request of a session that is not settled. -/
def InFlight
    (transport : Transport J)
    (session id : Nat) : Prop :=
  (∃ method, .sent session id method ∈ transport.log) ∧
    transport.replies id = none

structure Sound (transport : Transport J) : Prop where
  sent_lt : ∀ session id method,
    .sent session id method ∈ transport.log →
      session < transport.spawned ∧ id < transport.nextId
  sent_unique : ∀ session other id method otherMethod,
    .sent session id method ∈ transport.log →
      .sent other id otherMethod ∈ transport.log →
        session = other ∧ method = otherMethod
  pending_inFlight : ∀ session id,
    (transport.sessions session).pending = some id →
      transport.InFlight session id
  inFlight_pending : ∀ session id,
    transport.InFlight session id →
      (transport.sessions session).pending = some id
  unsent : ∀ id, transport.nextId ≤ id → transport.replies id = none
  failed_quiet : ∀ session,
    (transport.sessions session).failed = true →
      (transport.sessions session).dead = true ∧
        (transport.sessions session).pending = none
  dead_cases : ∀ session,
    (transport.sessions session).dead = true →
      (transport.sessions session).failed = true ∨
        (transport.sessions session).closing = true
  slot_last : ∀ session, transport.slot = some session →
    session + 1 = transport.spawned ∧
      (transport.sessions session).closing = false ∧
        (transport.sessions session).dead = false
  left : ∀ session, session < transport.spawned →
    transport.slot ≠ some session →
      (transport.sessions session).failed = true ∨
        (transport.sessions session).closing = true
  unspawned : ∀ session, transport.spawned ≤ session →
    transport.sessions session = .spawned J
  invalidated_failed : ∀ session,
    .invalidated session ∈ transport.log →
      (transport.sessions session).failed = true
  delivered_sent : ∀ session id response reply,
    .delivered session id response reply ∈ transport.log →
      response = .number id ∧ transport.replies id = some reply ∧
        ∃ method, .sent session id method ∈ transport.log
  inOrder : Throughout Observation.InOrder transport.log

/-- What an event of a child leaves alone. -/
structure Quiet (before after : Transport J) : Prop where
  spawned : after.spawned = before.spawned
  closing : ∀ session,
    (after.sessions session).closing = (before.sessions session).closing
  slot : after.slot = before.slot ∨ after.slot = none
  replies : ∀ id reply, before.replies id = some reply →
    after.replies id = some reply
  log : ∃ added, after.log = added ++ before.log ∧
    (∀ session, .spawned session ∉ added) ∧
    (∀ session id method, .sent session id method ∉ added) ∧
    ∀ session id response reply,
      .delivered session id response reply ∈ added →
        before.replies id = none

variable {transport : Transport J}

/-- Before the first session nothing is out of order. -/
theorem initial_sound : (initial : Transport J).Sound := by
  constructor <;> simp [initial, InFlight, Throughout, DaemonSession.spawned]

namespace Quiet

@[refl] theorem refl (transport : Transport J) : transport.Quiet transport :=
  ⟨rfl, fun _ => rfl, Or.inl rfl, fun _ _ h => h, [], by simp⟩

theorem trans
    {first second third : Transport J}
    (h : first.Quiet second)
    (h' : second.Quiet third) : first.Quiet third := by
  obtain ⟨added, hlog, hspawned, hsent, hdelivered⟩ := h.log
  obtain ⟨more, hmore, hspawned', hsent', hdelivered'⟩ := h'.log
  refine ⟨h'.spawned.trans h.spawned,
    fun session => (h'.closing session).trans (h.closing session), ?_,
    fun id reply hreply => h'.replies id reply (h.replies id reply hreply),
    more ++ added, by rw [hmore, hlog, List.append_assoc], ?_, ?_, ?_⟩
  · rcases h'.slot with hsame | hnone
    · rw [hsame]
      exact h.slot
    · exact Or.inr hnone
  · intro session hmem
    rcases List.mem_append.mp hmem with hnew | hold
    · exact hspawned' session hnew
    · exact hspawned session hold
  · intro session id method hmem
    rcases List.mem_append.mp hmem with hnew | hold
    · exact hsent' session id method hnew
    · exact hsent session id method hold
  · intro session id response reply hmem
    rcases List.mem_append.mp hmem with hnew | hold
    · have hnone := hdelivered' session id response reply hnew
      cases hreply : first.replies id with
      | none => rfl
      | some earlier =>
          rw [h.replies id earlier hreply] at hnone
          cases hnone
    · exact hdelivered session id response reply hold

/-- Requests are sent by tasks only. -/
theorem sent_iff
    {before after : Transport J}
    (h : before.Quiet after)
    (session id : Nat)
    (method : Method) :
    .sent session id method ∈ after.log ↔
      .sent session id method ∈ before.log := by
  obtain ⟨added, hlog, -, hsent, -⟩ := h.log
  rw [hlog, List.mem_append]
  exact ⟨fun hmem => hmem.resolve_left (hsent session id method), Or.inr⟩

end Quiet

@[simp] theorem setSession_sessions
    (session : Nat)
    (value : DaemonSession J) :
    (transport.setSession session value).sessions =
      Function.update transport.sessions session value := rfl

/-- Settling the request of a session after changing its flags. -/
theorem answer_setSession
    (session : Nat)
    (value : DaemonSession J)
    (hpending : value.pending = (transport.sessions session).pending)
    (reply : Reply J) :
    (transport.setSession session value).answer session reply =
      (transport.answer session reply).setSession session
        { value with pending := none } := by
  unfold answer
  simp only [setSession_sessions, Function.update_self, hpending]
  cases hcurrent : (transport.sessions session).pending with
  | none =>
      have hsame : { value with pending := none } = value := by
        cases value
        simp_all
      rw [hsame]
  | some id => simp [setSession, settle]

/-- An answered session waits for nothing. -/
theorem answer_pending
    (session : Nat)
    (reply : Reply J) :
    ((transport.answer session reply).sessions session).pending = none := by
  unfold answer
  cases hpending : (transport.sessions session).pending <;>
    simp [hpending, settle, setSession]

/-- Apart from its request a session keeps its state. -/
theorem answer_session
    (session : Nat)
    (reply : Reply J) :
    (transport.answer session reply).sessions session =
      { transport.sessions session with pending := none } := by
  unfold answer
  cases hpending : (transport.sessions session).pending with
  | none => 
      cases hsession : transport.sessions session
      simp_all
  | some id => simp [settle, setSession]

@[simp] theorem answer_slot (session : Nat) (reply : Reply J) :
    (transport.answer session reply).slot = transport.slot := by
  unfold answer
  split <;> rfl

@[simp] theorem answer_spawned (session : Nat) (reply : Reply J) :
    (transport.answer session reply).spawned = transport.spawned := by
  unfold answer
  split <;> rfl

@[simp] theorem answer_nextId (session : Nat) (reply : Reply J) :
    (transport.answer session reply).nextId = transport.nextId := by
  unfold answer
  split <;> rfl

@[simp] theorem answer_log (session : Nat) (reply : Reply J) :
    (transport.answer session reply).log = transport.log := by
  unfold answer
  split <;> rfl

section Flags

variable (session other : Nat) (reply : Reply J)

@[simp] theorem answer_dead :
    ((transport.answer session reply).sessions other).dead =
      (transport.sessions other).dead := by
  by_cases hother : other = session
  · rw [hother, answer_session]
  · unfold answer
    split <;> simp [settle, setSession, hother]

@[simp] theorem answer_failed :
    ((transport.answer session reply).sessions other).failed =
      (transport.sessions other).failed := by
  by_cases hother : other = session
  · rw [hother, answer_session]
  · unfold answer
    split <;> simp [settle, setSession, hother]

@[simp] theorem answer_closing :
    ((transport.answer session reply).sessions other).closing =
      (transport.sessions other).closing := by
  by_cases hother : other = session
  · rw [hother, answer_session]
  · unfold answer
    split <;> simp [settle, setSession, hother]

end Flags

/-- An answer settles the request that was pending. -/
theorem answer_replies
    {session id : Nat}
    (hpending : (transport.sessions session).pending = some id)
    (reply : Reply J) :
    (transport.answer session reply).replies =
      Function.update transport.replies id (some reply) := by
  simp [answer, hpending, settle, setSession]

/-- Other sessions are left alone. -/
theorem answer_other
    {session other : Nat}
    (hother : other ≠ session)
    (reply : Reply J) :
    (transport.answer session reply).sessions other =
      transport.sessions other := by
  unfold answer
  split <;> simp [settle, setSession, hother]

/-- Settling the request of a session keeps what holds of sessions. -/
theorem Sound.answer
    (h : transport.Sound)
    (session : Nat)
    (reply : Reply J) : (transport.answer session reply).Sound := by
  cases hpending : (transport.sessions session).pending with
  | none =>
      have hsame : transport.answer session reply = transport := by
        simp [Transport.answer, hpending]
      rw [hsame]
      exact h
  | some id =>
      have hreplies := answer_replies hpending reply
      obtain ⟨⟨method, hsent⟩, hopen⟩ :=
        h.pending_inFlight session id hpending
      have hlt := (h.sent_lt session id method hsent).2
      have hother {other id' : Nat} (hne : other ≠ session)
          (hflight : transport.InFlight other id') : id' ≠ id := by
        rintro rfl
        obtain ⟨⟨method', hsent'⟩, -⟩ := hflight
        exact hne (h.sent_unique _ _ _ _ _ hsent' hsent).1
      constructor
      case sent_lt =>
        intro s i m hmem
        rw [answer_log] at hmem
        have hbound := h.sent_lt s i m hmem
        rw [answer_spawned, answer_nextId]
        exact hbound
      case sent_unique =>
        simpa using h.sent_unique
      case pending_inFlight =>
        intro s i hs
        by_cases hsame : s = session
        · rw [hsame, answer_pending] at hs
          cases hs
        · rw [answer_other hsame] at hs
          have hflight := h.pending_inFlight s i hs
          have hne := hother hsame hflight
          refine ⟨by simpa using hflight.1, ?_⟩
          rw [hreplies, Function.update_of_ne hne]
          exact hflight.2
      case inFlight_pending =>
        rintro s i ⟨⟨m, hmem⟩, hnone⟩
        rw [answer_log] at hmem
        rw [hreplies] at hnone
        have hne : i ≠ id := by
          rintro rfl
          simp at hnone
        rw [Function.update_of_ne hne] at hnone
        have hold := h.inFlight_pending s i ⟨⟨m, hmem⟩, hnone⟩
        have hsame : s ≠ session := by
          rintro rfl
          rw [hpending, Option.some.injEq] at hold
          exact hne hold.symm
        rw [answer_other hsame]
        exact hold
      case unsent =>
        intro i hi
        rw [answer_nextId] at hi
        rw [hreplies, Function.update_of_ne (by omega)]
        exact h.unsent i hi
      case failed_quiet =>
        intro s hs
        rw [answer_failed] at hs
        obtain ⟨hdead, hnone⟩ := h.failed_quiet s hs
        refine ⟨by simpa using hdead, ?_⟩
        by_cases hsame : s = session
        · rw [hsame, answer_pending]
        · rw [answer_other hsame, hnone]
      case dead_cases => simpa using h.dead_cases
      case slot_last => simpa using h.slot_last
      case left => simpa using h.left
      case unspawned =>
        intro s hs
        rw [answer_spawned] at hs
        have hsame : s ≠ session := by
          rintro rfl
          have hbound := (h.sent_lt s id method hsent).1
          omega
        rw [answer_other hsame]
        exact h.unspawned s hs
      case invalidated_failed => simpa using h.invalidated_failed
      case delivered_sent =>
        intro s i response earlier hmem
        rw [answer_log] at hmem ⊢
        obtain ⟨hid, hreply, hsent'⟩ := h.delivered_sent s i response earlier
          hmem
        refine ⟨hid, ?_, hsent'⟩
        have hne : i ≠ id := by
          rintro rfl
          rw [hopen] at hreply
          cases hreply
        rw [hreplies, Function.update_of_ne hne]
        exact hreply
      case inOrder => simpa using h.inOrder

/-- The backoff is of no concern to the sessions. -/
theorem Sound.timed
    (h : transport.Sound)
    (backoffMs restartNotBefore : Nat) :
    { transport with
      backoffMs := backoffMs
      restartNotBefore := restartNotBefore }.Sound :=
  ⟨h.sent_lt, h.sent_unique, h.pending_inFlight, h.inFlight_pending, h.unsent,
    h.failed_quiet, h.dead_cases, h.slot_last, h.left, h.unspawned,
    h.invalidated_failed, h.delivered_sent, h.inOrder⟩

theorem Sound.scheduleBackoff
    (h : transport.Sound)
    (now : Nat) : (transport.scheduleBackoff now).Sound :=
  h.timed _ _

theorem Sound.resetBackoff
    (h : transport.Sound) : transport.resetBackoff.Sound :=
  h.timed _ _

@[simp] theorem freeSlot_sessions (session : Nat) :
    (transport.freeSlot session).sessions = transport.sessions := by
  unfold freeSlot
  split <;> rfl

@[simp] theorem freeSlot_spawned (session : Nat) :
    (transport.freeSlot session).spawned = transport.spawned := by
  unfold freeSlot
  split <;> rfl

@[simp] theorem freeSlot_nextId (session : Nat) :
    (transport.freeSlot session).nextId = transport.nextId := by
  unfold freeSlot
  split <;> rfl

@[simp] theorem freeSlot_replies (session : Nat) :
    (transport.freeSlot session).replies = transport.replies := by
  unfold freeSlot
  split <;> rfl

@[simp] theorem freeSlot_log (session : Nat) :
    (transport.freeSlot session).log = transport.log := by
  unfold freeSlot
  split <;> rfl

/-- The slot that is left after a session was dropped from it. -/
theorem freeSlot_slot {session other : Nat} :
    (transport.freeSlot session).slot = some other ↔
      transport.slot = some other ∧ other ≠ session := by
  unfold freeSlot clearSlot
  split
  · next hslot => simp_all
  · next hslot =>
      refine ⟨fun h => ⟨h, ?_⟩, And.left⟩
      rintro rfl
      exact hslot h

/-- A session that is out of use leaves the slot. -/
theorem Sound.drop
    (h : transport.Sound)
    {session : Nat}
    (hspawned : session < transport.spawned)
    (value : DaemonSession J)
    (hquiet : value.failed = true →
      value.dead = true ∧ value.pending = none)
    (hpending : value.pending = (transport.sessions session).pending)
    (hgone : value.failed = true ∨ value.closing = true)
    (hinvalidated : (transport.sessions session).failed = true →
      value.failed = true) :
    ((transport.setSession session value).freeSlot session).Sound := by
  have hsame (other : Nat) :
      (Function.update transport.sessions session value other).pending =
        (transport.sessions other).pending := by
    by_cases hother : other = session
    · rw [hother, Function.update_self, hpending]
    · rw [Function.update_of_ne hother]
  have hflight (other id : Nat) :
      ((transport.setSession session value).freeSlot session).InFlight other
        id ↔ transport.InFlight other id := by
    simp [InFlight, setSession]
  constructor
  case sent_lt => simpa [setSession] using h.sent_lt
  case sent_unique => simpa [setSession] using h.sent_unique
  case pending_inFlight =>
    intro s i hs
    rw [hflight]
    rw [freeSlot_sessions, setSession_sessions, hsame] at hs
    exact h.pending_inFlight s i hs
  case inFlight_pending =>
    intro s i hs
    rw [hflight] at hs
    rw [freeSlot_sessions, setSession_sessions, hsame]
    exact h.inFlight_pending s i hs
  case unsent => simpa [setSession] using h.unsent
  case failed_quiet =>
    intro s hs
    rw [freeSlot_sessions, setSession_sessions] at hs ⊢
    by_cases hother : s = session
    · rw [hother, Function.update_self] at hs ⊢
      exact hquiet hs
    · rw [Function.update_of_ne hother] at hs ⊢
      exact h.failed_quiet s hs
  case dead_cases =>
    intro s hs
    rw [freeSlot_sessions, setSession_sessions] at hs ⊢
    by_cases hother : s = session
    · rw [hother, Function.update_self]
      exact hgone
    · rw [Function.update_of_ne hother] at hs ⊢
      exact h.dead_cases s hs
  case slot_last =>
    intro s hs
    obtain ⟨hslot, hother⟩ := freeSlot_slot.mp hs
    rw [freeSlot_sessions, setSession_sessions, freeSlot_spawned,
      Function.update_of_ne hother]
    exact h.slot_last s hslot
  case left =>
    intro s hs hslot
    rw [freeSlot_sessions, setSession_sessions]
    rw [freeSlot_spawned] at hs
    by_cases hother : s = session
    · rw [hother, Function.update_self]
      exact hgone
    · rw [Function.update_of_ne hother]
      exact h.left s hs (fun heq => hslot (freeSlot_slot.mpr ⟨heq, hother⟩))
  case unspawned =>
    intro s hs
    rw [freeSlot_spawned] at hs
    have hs : transport.spawned ≤ s := hs
    rw [freeSlot_sessions, setSession_sessions,
      Function.update_of_ne (by omega)]
    exact h.unspawned s hs
  case invalidated_failed =>
    intro s hs
    rw [freeSlot_log] at hs
    have hfailed := h.invalidated_failed s hs
    rw [freeSlot_sessions, setSession_sessions]
    by_cases hother : s = session
    · rw [hother, Function.update_self]
      rw [hother] at hfailed
      exact hinvalidated hfailed
    · rw [Function.update_of_ne hother]
      exact hfailed
  case delivered_sent => simpa [setSession] using h.delivered_sent
  case inOrder => simpa [setSession] using h.inOrder

/-- The consumer is told about the last session, for the first time. -/
theorem Sound.invalidate
    (h : transport.Sound)
    {session : Nat}
    (hlast : session + 1 = transport.spawned)
    (hfailed : (transport.sessions session).failed = true)
    (hnew : .invalidated session ∉ transport.log) :
    (transport.record (.invalidated session)).Sound := by
  constructor
  case sent_lt => simpa [record] using h.sent_lt
  case sent_unique => simpa [record] using h.sent_unique
  case pending_inFlight =>
    simpa [record, InFlight] using h.pending_inFlight
  case inFlight_pending =>
    simpa [record, InFlight] using h.inFlight_pending
  case unsent => exact h.unsent
  case failed_quiet => exact h.failed_quiet
  case dead_cases => exact h.dead_cases
  case slot_last => exact h.slot_last
  case left => exact h.left
  case unspawned => exact h.unspawned
  case invalidated_failed =>
    intro s hs
    rcases List.mem_cons.mp hs with heq | hold
    · obtain rfl := Observation.invalidated.inj heq
      exact hfailed
    · exact h.invalidated_failed s hold
  case delivered_sent => simpa [record] using h.delivered_sent
  case inOrder =>
    refine ⟨⟨hnew, ?_⟩, h.inOrder⟩
    intro other id response reply hmem
    obtain ⟨-, -, method, hsent⟩ :=
      h.delivered_sent other id response reply hmem
    have hbound := (h.sent_lt other id method hsent).1
    omega

/-- How a session fails whose flags have just been set to `value`. -/
theorem failSession_setSession
    (session : Nat)
    (value : DaemonSession J)
    (hpending : value.pending = (transport.sessions session).pending)
    (hfailed : value.failed = false)
    (error : SessionError)
    (now : Nat) :
    (transport.setSession session value).failSession session error now =
      let freed :=
        (((transport.scheduleBackoff now).answer session
          (.error (.session error))).setSession session
            { value with failed := true, dead := true,
                         pending := none }).freeSlot session
      if value.closing then
        freed
      else
        freed.record (.invalidated session) := by
  have hmarked : (((transport.setSession session value).scheduleBackoff
      now).setSession session
        { value with failed := true, dead := true }) =
      (transport.scheduleBackoff now).setSession session
        { value with failed := true, dead := true } := by
    simp [scheduleBackoff, setSession]
  have hkept : value.pending =
      ((transport.scheduleBackoff now).sessions session).pending := hpending
  have hanswer : ((transport.scheduleBackoff now).setSession session
      { value with failed := true, dead := true }).answer session
        (.error (.session error)) =
      ((transport.scheduleBackoff now).answer session
        (.error (.session error))).setSession session
          { value with failed := true, dead := true, pending := none } :=
    answer_setSession session { value with failed := true, dead := true }
      hkept _
  unfold failSession
  simp only [setSession_sessions, Function.update_self, hfailed,
    Bool.false_eq_true, if_false]
  rw [hmarked, hanswer]

/-- A failure that has not happened yet keeps what holds of sessions. -/
theorem Sound.failing
    (h : transport.Sound)
    {session : Nat}
    (hspawned : session < transport.spawned)
    (value : DaemonSession J)
    (hpending : value.pending = (transport.sessions session).pending)
    (hclosing : value.closing = (transport.sessions session).closing)
    (hfailed : value.failed = false)
    (hcurrent : (transport.sessions session).failed = false)
    (error : SessionError)
    (now : Nat) :
    ((transport.setSession session value).failSession session error
      now).Sound := by
  rw [failSession_setSession session value hpending hfailed]
  have hanswered := (h.scheduleBackoff now).answer session
    (.error (.session error))
  have hbound : session < ((transport.scheduleBackoff now).answer session
      (.error (.session error))).spawned := by
    rw [answer_spawned]
    exact hspawned
  have hdropped := hanswered.drop hbound
    { value with failed := true, dead := true, pending := none }
    (fun _ => ⟨rfl, rfl⟩) (answer_pending session _).symm (Or.inl rfl)
    (fun _ => rfl)
  have hmarked : (((((transport.scheduleBackoff now).answer session
      (.error (.session error))).setSession session
        { value with failed := true, dead := true, pending := none }).freeSlot
          session).sessions session).failed = true := by
    simp
  simp only
  by_cases hvalue : value.closing = true
  · rw [if_pos hvalue]
    exact hdropped
  · have hopen : (transport.sessions session).closing = false := by
      rw [← hclosing]
      simpa using hvalue
    -- A session that neither failed nor is closing is the one in use.
    have hslot : transport.slot = some session := by
      by_contra hslot
      rcases h.left session hspawned hslot with hfailed | hclosing
      · rw [hcurrent] at hfailed
        cases hfailed
      · rw [hopen] at hclosing
        cases hclosing
    have hnew : .invalidated session ∉ transport.log := by
      intro hmem
      have hfailed := h.invalidated_failed session hmem
      rw [hcurrent] at hfailed
      cases hfailed
    rw [if_neg hvalue]
    refine hdropped.invalidate ?_ hmarked ?_
    · rw [freeSlot_spawned]
      exact (answer_spawned session _).symm ▸ (h.slot_last session hslot).1
    · rw [freeSlot_log]
      exact (answer_log session _).symm ▸ hnew

/-- A failed session leaves nothing pending. -/
theorem Sound.failSession
    (h : transport.Sound)
    {session : Nat}
    (hspawned : session < transport.spawned)
    (error : SessionError)
    (now : Nat) : (transport.failSession session error now).Sound := by
  cases hfailed : (transport.sessions session).failed with
  | true =>
      have hsame : transport.failSession session error now = transport := by
        simp [Transport.failSession, hfailed]
      rw [hsame]
      exact h
  | false =>
      have hself : transport.setSession session (transport.sessions session) =
          transport := by
        simp [setSession]
      have hfailing := h.failing hspawned (transport.sessions session) rfl rfl
        hfailed hfailed error now
      rw [hself] at hfailing
      exact hfailing

theorem Quiet.scheduleBackoff (transport : Transport J) (now : Nat) :
    transport.Quiet (transport.scheduleBackoff now) :=
  ⟨rfl, fun _ => rfl, Or.inl rfl, fun _ _ h => h, [], by
    simp [Transport.scheduleBackoff]⟩

/-- A session may change as long as it closes no sooner. -/
theorem Quiet.setSession
    (session : Nat)
    (value : DaemonSession J)
    (hclosing : value.closing = (transport.sessions session).closing) :
    transport.Quiet (transport.setSession session value) := by
  refine ⟨rfl, fun other => ?_, Or.inl rfl, fun _ _ h => h, [], by
    simp [Transport.setSession]⟩
  by_cases hother : other = session
  · rw [hother, setSession_sessions, Function.update_self, hclosing]
  · rw [setSession_sessions, Function.update_of_ne hother]

theorem Quiet.freeSlot (transport : Transport J) (session : Nat) :
    transport.Quiet (transport.freeSlot session) := by
  refine ⟨by simp, by simp, ?_, by simp, [], by simp⟩
  unfold Transport.freeSlot
  split
  · exact Or.inr rfl
  · exact Or.inl rfl

/-- An answer closes no session. -/
theorem Sound.quiet_answer
    (h : transport.Sound)
    (session : Nat)
    (reply : Reply J) :
    transport.Quiet (transport.answer session reply) := by
  refine ⟨by simp, by simp, Or.inl (by simp), ?_, [], by simp⟩
  intro id earlier hearlier
  cases hpending : (transport.sessions session).pending with
  | none => simpa [Transport.answer, hpending] using hearlier
  | some pending =>
      have hopen := (h.pending_inFlight session pending hpending).2
      have hne : id ≠ pending := by
        rintro rfl
        rw [hopen] at hearlier
        cases hearlier
      rw [answer_replies hpending, Function.update_of_ne hne]
      exact hearlier

/-- Failing closes no session. -/
theorem Sound.quiet_failing
    (h : transport.Sound)
    (session : Nat)
    (value : DaemonSession J)
    (hpending : value.pending = (transport.sessions session).pending)
    (hclosing : value.closing = (transport.sessions session).closing)
    (hfailed : value.failed = false)
    (error : SessionError)
    (now : Nat) :
    transport.Quiet
      ((transport.setSession session value).failSession session error
        now) := by
  rw [failSession_setSession session value hpending hfailed]
  have hanswered := (Quiet.scheduleBackoff transport now).trans
    ((h.scheduleBackoff now).quiet_answer session (.error (.session error)))
  have hfreed := (hanswered.trans (Quiet.setSession session
    { value with failed := true, dead := true, pending := none }
    (by rw [answer_closing]; exact hclosing))).trans (Quiet.freeSlot _ session)
  simp only
  split
  · exact hfreed
  · refine hfreed.trans ⟨rfl, fun _ => rfl, Or.inl rfl, fun _ _ h => h,
      [.invalidated session], rfl, by simp, by simp, by simp⟩

/-- Failing a session closes none. -/
theorem Sound.quiet_failSession
    (h : transport.Sound)
    (session : Nat)
    (error : SessionError)
    (now : Nat) :
    transport.Quiet (transport.failSession session error now) := by
  cases hfailed : (transport.sessions session).failed with
  | true =>
      have hsame : transport.failSession session error now = transport := by
        simp [Transport.failSession, hfailed]
      rw [hsame]
  | false =>
      have hself : transport.setSession session (transport.sessions session) =
          transport := by
        simp [Transport.setSession]
      have hquiet := h.quiet_failing session (transport.sessions session) rfl
        rfl hfailed error now
      rw [hself] at hquiet
      exact hquiet

/-- The response to the request in flight. -/
theorem Sound.deliver
    (h : transport.Sound)
    {session id : Nat}
    (hpending : (transport.sessions session).pending = some id)
    (reply : Reply J) :
    (transport.deliver session id (.number id) reply).Sound ∧
      transport.Quiet (transport.deliver session id (.number id) reply) := by
  unfold Transport.deliver
  obtain ⟨⟨method, hsent⟩, hopen⟩ := h.pending_inFlight session id hpending
  have hanswered := h.answer session reply
  have hquiet := h.quiet_answer session reply
  refine ⟨?_, ⟨hquiet.spawned, hquiet.closing, hquiet.slot, hquiet.replies,
    [.delivered session id (.number id) reply], by simp [record], by simp,
    by simp, ?_⟩⟩
  · constructor
    case sent_lt => simpa [record] using hanswered.sent_lt
    case sent_unique => simpa [record] using hanswered.sent_unique
    case pending_inFlight =>
      simpa [record, InFlight] using hanswered.pending_inFlight
    case inFlight_pending =>
      simpa [record, InFlight] using hanswered.inFlight_pending
    case unsent => exact hanswered.unsent
    case failed_quiet => exact hanswered.failed_quiet
    case dead_cases => exact hanswered.dead_cases
    case slot_last => exact hanswered.slot_last
    case left => exact hanswered.left
    case unspawned => exact hanswered.unspawned
    case invalidated_failed =>
      simpa [record] using hanswered.invalidated_failed
    case delivered_sent =>
      intro s i response earlier hmem
      rcases List.mem_cons.mp hmem with heq | hold
      · obtain ⟨rfl, rfl, rfl, rfl⟩ := Observation.delivered.inj heq
        refine ⟨rfl, ?_, method, ?_⟩
        · have hreplies := answer_replies hpending earlier
          simp [record, hreplies]
        · exact List.mem_cons_of_mem _ (by rw [answer_log]; exact hsent)
      · obtain ⟨hid, hreply, hsent'⟩ :=
          hanswered.delivered_sent s i response earlier hold
        exact ⟨hid, hreply, by simpa [record] using hsent'⟩
    case inOrder => exact ⟨trivial, hanswered.inOrder⟩
  · intro s i response earlier hmem
    obtain ⟨rfl, rfl, rfl, rfl⟩ :=
      Observation.delivered.inj (List.mem_singleton.mp hmem)
    exact hopen

/-- What a listener does to the sessions of a client. -/
def Served (transport after : Transport J) : Prop :=
  after.Sound ∧ transport.Quiet after

section Listeners

variable (h : transport.Sound) {session : Nat}

include h

/-- Failing a session keeps the others in order. -/
theorem Sound.served_failSession
    (hspawned : session < transport.spawned)
    (error : SessionError)
    (now : Nat) :
    transport.Served (transport.failSession session error now) :=
  ⟨h.failSession hspawned error now, h.quiet_failSession session error now⟩

/-- The end of the output keeps the others in order. -/
theorem Sound.served_closeStdout
    (hspawned : session < transport.spawned)
    (now : Nat) :
    transport.Served (transport.closeStdout session now) := by
  unfold closeStdout
  simp only
  split
  · exact ⟨h, Quiet.refl transport⟩
  · exact h.served_failSession hspawned .closedStdout now

/-- The callback of a write to a stream that is destroyed. -/
theorem Sound.served_writeFailed (session id : Nat) (message : String) :
    transport.Served (transport.writeFailed session id message true) := by
  unfold writeFailed
  simp only [if_true]
  split
  · exact ⟨h.answer session _, h.quiet_answer session _⟩
  · exact ⟨h, Quiet.refl transport⟩

/-- An error response whose error can be built. -/
theorem Sound.served_receiveError
    (hspawned : session < transport.spawned)
    {id : Nat}
    (hpending : (transport.sessions session).pending = some id)
    {wire : WireError J}
    {message : String}
    (hmessage : wire.messageText = some message)
    (now : Nat) :
    transport.Served
      (transport.receiveError session id (.number id) wire now) := by
  obtain ⟨hsound, hquiet⟩ := h.deliver hpending
    (.error (.daemon wire.codeText message wire.data))
  unfold receiveError
  simp only [hmessage]
  split
  · obtain ⟨hfailed, hsilent⟩ := hsound.served_failSession
      (hspawned.trans_eq hquiet.spawned.symm) (.internal message) now
    exact ⟨hfailed, hquiet.trans hsilent⟩
  · exact ⟨hsound, hquiet⟩

/-- A response whose id can be reported. -/
theorem Sound.served_breach
    (hspawned : session < transport.spawned)
    {response : ResponseId}
    {text : String}
    (htext : response.text = some text)
    (now : Nat) :
    transport.Served (transport.breach session response now) := by
  unfold breach
  simp only [htext]
  exact h.served_failSession hspawned _ now

/-- A line whose listener does not throw. -/
theorem Sound.served_receive
    (hspawned : session < transport.spawned)
    (line : Line J)
    (now : Nat)
    (hcalm : (transport.sessions session).dead = false →
      ¬line.Throws (transport.sessions session).pending) :
    transport.Served (transport.receive session line now) := by
  unfold receive
  simp only
  split
  · exact ⟨h, Quiet.refl transport⟩
  · next hdead =>
      replace hcalm := hcalm (by simpa using hdead)
      cases line with
      | blank => exact ⟨h, Quiet.refl transport⟩
      | malformed text => exact h.served_failSession hspawned _ now
      | null => exact absurd trivial hcalm
      | response response error result =>
          simp only [Line.Throws] at hcalm
          cases hpending : (transport.sessions session).pending with
          | none =>
              simp only [hpending, Option.map_none, reduceCtorEq,
                if_false] at hcalm
              obtain ⟨text, htext⟩ := Option.ne_none_iff_exists'.mp hcalm
              exact h.served_breach hspawned htext now
          | some id =>
              simp only [hpending, Option.map_some,
                Option.some.injEq] at hcalm
              simp only
              split
              · next hid =>
                  subst hid
                  rw [if_pos rfl] at hcalm
                  cases error with
                  | none => exact h.deliver hpending _
                  | some wire =>
                      cases hmessage : wire.messageText with
                      | none => exact absurd ⟨wire, rfl, hmessage⟩ hcalm
                      | some message =>
                          exact h.served_receiveError hspawned hpending
                            hmessage now
              · next hid =>
                  rw [if_neg (Ne.symm hid)] at hcalm
                  obtain ⟨text, htext⟩ := Option.ne_none_iff_exists'.mp hcalm
                  exact h.served_breach hspawned htext now

/-- The end of the process keeps the others in order. -/
theorem Sound.served_exit
    (hspawned : session < transport.spawned)
    (reason : String)
    (now : Nat) :
    transport.Served (transport.exit session reason now) := by
  let current := transport.sessions session
  let value : DaemonSession J := { current with dead := true, exited := true }
  have hquiet : transport.Quiet (transport.setSession session value) :=
    Quiet.setSession session value rfl
  -- A session out of use only learns that its child is gone.
  have hgone (hgone : current.failed = true ∨ current.closing = true) :
      transport.Served (transport.setSession session value) := by
    have hslot : transport.slot ≠ some session := by
      intro hslot
      obtain ⟨-, hclosing, hdead⟩ := h.slot_last session hslot
      rcases hgone with hfailed | hclosed
      · have hdied := (h.failed_quiet session hfailed).1
        rw [hdead] at hdied
        cases hdied
      · rw [hclosing] at hclosed
        cases hclosed
    have hdropped := h.drop hspawned value
      (fun hfailed => ⟨rfl, (h.failed_quiet session hfailed).2⟩) rfl hgone
      (fun hfailed => hfailed)
    have hsame : (transport.setSession session value).freeSlot session =
        transport.setSession session value := by
      simp [freeSlot, setSession, hslot]
    rw [hsame] at hdropped
    exact ⟨hdropped, hquiet⟩
  unfold exit
  simp only
  split
  · next hclosing => exact hgone (Or.inr hclosing)
  · by_cases hfailed : current.failed = true
    · have hsame : (transport.setSession session value).failSession session
          (.stopped reason) now = transport.setSession session value := by
        unfold Transport.failSession
        simp only [setSession_sessions, Function.update_self]
        exact if_pos hfailed
      exact hsame.symm ▸ hgone (Or.inl hfailed)
    · have hopen : current.failed = false := by simpa using hfailed
      exact ⟨h.failing hspawned value rfl rfl hopen hopen _ now,
        h.quiet_failing session value rfl rfl hopen _ now⟩

end Listeners

/-- What sending a request does: nothing, if it is rejected at once. -/
structure Sent
    (transport after : Transport J)
    (session : Nat)
    (method : Method)
    (promise : Promise J) : Prop where
  sound : after.Sound
  spawned : after.spawned = transport.spawned
  slot : after.slot = transport.slot
  replies : after.replies = transport.replies
  closing : ∀ other,
    (after.sessions other).closing = (transport.sessions other).closing
  outcome :
    (∃ error, promise = .rejected error ∧ after.log = transport.log) ∨
      ∃ id, promise = .request id ∧ transport.replies id = none ∧
        after.log = .sent session id method :: transport.log

/-- A request that is sent is the only one of its session. -/
theorem Sound.send
    (h : transport.Sound)
    {session : Nat}
    (hspawned : session < transport.spawned)
    (method : Method) :
    transport.Sent (transport.send session method).1 session method
      (transport.send session method).2 := by
  have hrejected (error : ClientError J) :
      transport.Sent transport session method (.rejected error) :=
    ⟨h, rfl, rfl, rfl, fun _ => rfl, Or.inl ⟨error, rfl, rfl⟩⟩
  unfold Transport.send
  simp only
  split
  · exact hrejected _
  · next hdead =>
      split
      · exact hrejected _
      · next hpending =>
          split
          · exact hrejected _
          · next hexhausted =>
              have hidle : (transport.sessions session).pending = none := by
                simpa using hpending
              have hnew := h.unsent transport.nextId (le_refl _)
              refine ⟨?_, rfl, rfl, rfl, fun other => ?_,
                Or.inr ⟨transport.nextId, rfl, hnew, rfl⟩⟩
              · constructor
                case sent_lt =>
                  intro s i m hmem
                  rcases List.mem_cons.mp hmem with heq | hold
                  · obtain ⟨rfl, rfl, rfl⟩ := Observation.sent.inj heq
                    exact ⟨hspawned, Nat.lt_succ_self _⟩
                  · obtain ⟨hs, hi⟩ := h.sent_lt s i m hold
                    exact ⟨hs, Nat.lt_succ_of_lt hi⟩
                case sent_unique =>
                  intro s other i m m' hmem hmem'
                  rcases List.mem_cons.mp hmem with heq | hold <;>
                    rcases List.mem_cons.mp hmem' with heq' | hold'
                  · obtain ⟨rfl, rfl, rfl⟩ := Observation.sent.inj heq
                    obtain ⟨rfl, -, rfl⟩ := Observation.sent.inj heq'
                    exact ⟨rfl, rfl⟩
                  · obtain ⟨rfl, rfl, rfl⟩ := Observation.sent.inj heq
                    have := (h.sent_lt _ _ _ hold').2
                    omega
                  · obtain ⟨rfl, rfl, rfl⟩ := Observation.sent.inj heq'
                    have := (h.sent_lt _ _ _ hold).2
                    omega
                  · exact h.sent_unique s other i m m' hold hold'
                case pending_inFlight =>
                  intro s i hs
                  by_cases hsame : s = session
                  · subst hsame
                    obtain rfl : transport.nextId = i := by
                      simpa [record, setSession] using hs
                    exact ⟨⟨method, List.mem_cons_self⟩, hnew⟩
                  · have hold : (transport.sessions s).pending = some i := by
                      simpa [record, setSession, hsame] using hs
                    obtain ⟨⟨m, hmem⟩, hnone⟩ :=
                      h.pending_inFlight s i hold
                    exact ⟨⟨m, List.mem_cons_of_mem _ hmem⟩, hnone⟩
                case inFlight_pending =>
                  rintro s i ⟨⟨m, hmem⟩, hnone⟩
                  rcases List.mem_cons.mp hmem with heq | hold
                  · obtain ⟨rfl, rfl, rfl⟩ := Observation.sent.inj heq
                    simp [record, setSession]
                  · have hkept := h.inFlight_pending s i ⟨⟨m, hold⟩, hnone⟩
                    have hsame : s ≠ session := by
                      rintro rfl
                      rw [hidle] at hkept
                      cases hkept
                    simpa [record, setSession, hsame] using hkept
                case unsent =>
                  intro i hi
                  exact h.unsent i (Nat.le_of_succ_le hi)
                case failed_quiet =>
                  intro s hs
                  by_cases hsame : s = session
                  · subst hsame
                    have hfailed : (transport.sessions s).failed = true := by
                      simpa [record, setSession] using hs
                    exact absurd (h.failed_quiet s hfailed).1 hdead
                  · simpa [record, setSession, hsame] using
                      h.failed_quiet s (by simpa [record, setSession, hsame]
                        using hs)
                case dead_cases =>
                  intro s hs
                  by_cases hsame : s = session
                  · subst hsame
                    exact absurd (by simpa [record, setSession] using hs) hdead
                  · simpa [record, setSession, hsame] using
                      h.dead_cases s (by simpa [record, setSession, hsame]
                        using hs)
                case slot_last =>
                  intro s hs
                  by_cases hsame : s = session
                  · subst hsame
                    simpa [record, setSession] using h.slot_last s hs
                  · simpa [record, setSession, hsame] using h.slot_last s hs
                case left =>
                  intro s hs hslot
                  by_cases hsame : s = session
                  · subst hsame
                    simpa [record, setSession] using h.left s hs hslot
                  · simpa [record, setSession, hsame] using h.left s hs hslot
                case unspawned =>
                  intro s hs
                  have hs : transport.spawned ≤ s := hs
                  have hsame : s ≠ session := by omega
                  simpa [record, setSession, hsame] using h.unspawned s hs
                case invalidated_failed =>
                  intro s hs
                  have hold : .invalidated s ∈ transport.log :=
                    (List.mem_cons.mp hs).resolve_left (by simp)
                  by_cases hsame : s = session
                  · subst hsame
                    simpa [record, setSession] using
                      h.invalidated_failed s hold
                  · simpa [record, setSession, hsame] using
                      h.invalidated_failed s hold
                case delivered_sent =>
                  intro s i response reply hmem
                  have hold : .delivered s i response reply ∈
                      transport.log :=
                    (List.mem_cons.mp hmem).resolve_left (by simp)
                  obtain ⟨hid, hreply, m, hsent⟩ :=
                    h.delivered_sent s i response reply hold
                  exact ⟨hid, hreply, m, List.mem_cons_of_mem _ hsent⟩
                case inOrder => exact ⟨trivial, h.inOrder⟩
              · by_cases hsame : other = session
                · subst hsame
                  simp [record, setSession]
                · simp [record, setSession, hsame]

/-- The result of an initialization is of no concern to the others. -/
theorem Sound.setInfo
    (h : transport.Sound)
    {session : Nat}
    (hspawned : session < transport.spawned)
    (info : Option J) :
    (transport.setSession session
      { transport.sessions session with info := info }).Sound := by
  have hflags (s : Nat) :
      let value := Function.update transport.sessions session
        { transport.sessions session with info := info } s
      value.pending = (transport.sessions s).pending ∧
        value.closing = (transport.sessions s).closing ∧
        value.dead = (transport.sessions s).dead ∧
        value.failed = (transport.sessions s).failed := by
    by_cases hsame : s = session
    · rw [hsame]
      simp
    · simp [hsame]
  have hflight (s i : Nat) :
      (transport.setSession session
        { transport.sessions session with info := info }).InFlight s i ↔
          transport.InFlight s i := Iff.rfl
  constructor
  case sent_lt => exact h.sent_lt
  case sent_unique => exact h.sent_unique
  case pending_inFlight =>
    intro s i hs
    rw [setSession_sessions, (hflags s).1] at hs
    exact h.pending_inFlight s i hs
  case inFlight_pending =>
    intro s i hs
    rw [setSession_sessions, (hflags s).1]
    exact h.inFlight_pending s i hs
  case unsent => exact h.unsent
  case failed_quiet =>
    intro s
    rw [setSession_sessions, (hflags s).1, (hflags s).2.2.1,
      (hflags s).2.2.2]
    exact h.failed_quiet s
  case dead_cases =>
    intro s
    rw [setSession_sessions, (hflags s).2.1, (hflags s).2.2.1,
      (hflags s).2.2.2]
    exact h.dead_cases s
  case slot_last =>
    intro s
    rw [setSession_sessions, (hflags s).2.1, (hflags s).2.2.1]
    exact h.slot_last s
  case left =>
    intro s
    rw [setSession_sessions, (hflags s).2.1, (hflags s).2.2.2]
    exact h.left s
  case unspawned =>
    intro s hs
    have hs : transport.spawned ≤ s := hs
    rw [setSession_sessions, Function.update_of_ne (by omega)]
    exact h.unspawned s hs
  case invalidated_failed =>
    intro s
    rw [setSession_sessions, (hflags s).2.2.2]
    exact h.invalidated_failed s
  case delivered_sent => exact h.delivered_sent
  case inOrder => exact h.inOrder

/-- A new session takes the empty slot. -/
theorem Sound.spawn
    (h : transport.Sound)
    (hslot : transport.slot = none) :
    ∃ opened : Transport J,
      opened.spawned = transport.spawned + 1 ∧
        opened.replies = transport.replies ∧
        opened.log = .spawned transport.spawned :: transport.log ∧
        (∀ other, (opened.sessions other).closing =
          (transport.sessions other).closing) ∧
        opened.Sent transport.spawn.1 transport.spawned .initializeSession
          transport.spawn.2 := by
  have hfresh := h.unspawned transport.spawned (le_refl _)
  let opened : Transport J :=
    (({ transport with
        spawned := transport.spawned + 1
        slot := some transport.spawned }).setSession transport.spawned
          (.spawned J)).record (.spawned transport.spawned)
  have hsessions : opened.sessions = transport.sessions := by
    funext s
    by_cases hsame : s = transport.spawned
    · rw [hsame, hfresh]
      simp [opened, record]
    · simp [opened, record, hsame]
  have hopened : opened.Sound := by
    constructor
    case sent_lt =>
      intro s i m hmem
      have hold : .sent s i m ∈ transport.log :=
        (List.mem_cons.mp hmem).resolve_left (by simp)
      obtain ⟨hs, hi⟩ := h.sent_lt s i m hold
      exact ⟨Nat.lt_succ_of_lt hs, hi⟩
    case sent_unique =>
      intro s other i m m' hmem hmem'
      exact h.sent_unique s other i m m'
        ((List.mem_cons.mp hmem).resolve_left (by simp))
        ((List.mem_cons.mp hmem').resolve_left (by simp))
    case pending_inFlight =>
      intro s i hs
      rw [hsessions] at hs
      obtain ⟨⟨m, hmem⟩, hnone⟩ := h.pending_inFlight s i hs
      exact ⟨⟨m, List.mem_cons_of_mem _ hmem⟩, hnone⟩
    case inFlight_pending =>
      rintro s i ⟨⟨m, hmem⟩, hnone⟩
      rw [hsessions]
      exact h.inFlight_pending s i
        ⟨⟨m, (List.mem_cons.mp hmem).resolve_left (by simp)⟩, hnone⟩
    case unsent => exact h.unsent
    case failed_quiet =>
      rw [hsessions]
      exact h.failed_quiet
    case dead_cases =>
      rw [hsessions]
      exact h.dead_cases
    case slot_last =>
      intro s hs
      obtain rfl : transport.spawned = s := Option.some.inj hs
      rw [hsessions, hfresh]
      exact ⟨rfl, rfl, rfl⟩
    case left =>
      intro s hs hne
      have hs : s < transport.spawned + 1 := hs
      have hsame : s ≠ transport.spawned := by
        rintro rfl
        exact hne rfl
      rw [hsessions]
      exact h.left s (by omega) (by simp [hslot])
    case unspawned =>
      intro s hs
      have hs : transport.spawned + 1 ≤ s := hs
      rw [hsessions]
      exact h.unspawned s (by omega)
    case invalidated_failed =>
      intro s hmem
      rw [hsessions]
      exact h.invalidated_failed s
        ((List.mem_cons.mp hmem).resolve_left (by simp))
    case delivered_sent =>
      intro s i response reply hmem
      obtain ⟨hid, hreply, m, hsent⟩ := h.delivered_sent s i response reply
        ((List.mem_cons.mp hmem).resolve_left (by simp))
      exact ⟨hid, hreply, m, List.mem_cons_of_mem _ hsent⟩
    case inOrder => exact ⟨trivial, h.inOrder⟩
  refine ⟨opened, rfl, rfl, rfl, fun other => by rw [hsessions], ?_⟩
  exact hopened.send (Nat.lt_succ_self _) .initializeSession

/-- A session that is closed by the client. -/
theorem Sound.close
    (h : transport.Sound)
    {session : Nat}
    (hspawned : session < transport.spawned) :
    ((transport.setSession session
      { transport.sessions session with closing := true }).freeSlot
        session).Sound :=
  h.drop hspawned _ (h.failed_quiet session) rfl (Or.inr rfl)
    (fun hfailed => hfailed)

end Transport

end Client

end Dsql
