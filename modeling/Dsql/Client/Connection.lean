import Mathlib.Tactic

/-!
# The daemon client

The client of the build daemon as a state machine.  Callers are serialized on
one chain of tasks; a task sends requests to a child process, whose lines,
exits and failures arrive as events at any time.  A continuation of a task and
a timer are events as well, so that every order of them is a run.

A promise of a request is settled through `replies`.  What an observer of the
client sees is recorded in a log, the newest entry first.
-/

namespace Dsql

namespace Client

/-- The methods of the protocol. -/
inductive Method where
  | initializeSession
  | compile
  | filesChanged (paths : List String)
  | shutdown
deriving DecidableEq, Repr

/-- Why a session cannot answer a request. -/
inductive SessionError where
  | startFailed (message : String)
  | stopped (reason : String)
  | closedStdout
  | malformed (line : String)
  | outOfOrder (id : String)
  | internal (message : String)
  | closed
  | overlapping
  | exhausted
  | shutDown
deriving DecidableEq, Repr

/-- The UTF-16 code units of a character. -/
def codeUnits (character : Char) : List Nat :=
  let point := character.toNat
  if point < 0x10000 then
    [point]
  else
    [0xd800 + (point - 0x10000) / 0x400, 0xdc00 + (point - 0x10000) % 0x400]

/-- A text as the client holds it.  A cut may leave half a character. -/
def utf16 (text : String) : List Nat :=
  text.toList.flatMap codeUnits

/-- A long line is cut for a message. -/
def truncate (line : List Nat) : List Nat :=
  if 200 < line.length then line.take 200 ++ utf16 "…" else line

/-- The message of a session error, in code units. -/
def SessionError.message : SessionError → List Nat
  | .startFailed message => utf16 ("failed to start dsql daemon: " ++ message)
  | .stopped reason => utf16 ("dsql daemon stopped with " ++ reason)
  | .closedStdout => utf16 "dsql daemon closed its stdout"
  | .malformed line =>
      utf16 "dsql daemon sent malformed JSON: " ++ truncate (utf16 line)
  | .outOfOrder id =>
      utf16 ("dsql daemon answered id " ++ id ++ " out of order")
  | .internal message =>
      utf16 ("dsql daemon reported an internal error: " ++ message)
  | .closed => utf16 "dsql daemon session is closed"
  | .overlapping => utf16 "dsql daemon client sent overlapping requests"
  | .exhausted => utf16 "dsql request ids exhausted"
  | .shutDown => utf16 "dsql daemon client is shut down"

/-- The id that a line carries: a number, or anything else by the text that it
converts to.  An object need not convert. -/
inductive ResponseId where
  | number (id : Nat)
  | other (text : Option String)
deriving DecidableEq, Repr

/-- The text of an id, where turning it into text does not throw. -/
def ResponseId.text : ResponseId → Option String
  | .number id => some (toString id)
  | .other text => text

/-- What a line carries where the protocol has a string: one, or another value
by the text that it converts to, if it does. -/
inductive WireText where
  | string (text : String)
  | other (text : Option String)
deriving DecidableEq, Repr

/-- The text of a value, where turning it into text does not throw. -/
def WireText.text : WireText → Option String
  | .string text => some text
  | .other text => text

section Values

-- The JSON values of results and of error data.
variable (J : Type)

/-- What a call is rejected with. -/
inductive ClientError where
  | daemon (code : WireText) (message : String) (data : Option J)
  | session (error : SessionError)
  | write (message : String)

/-- What a request is settled with. -/
abbrev Reply := Except (ClientError J) J

/-- The `error` of a response, as far as it is an object. -/
structure WireError where
  code : Option WireText
  message : Option WireText
  data : Option J

/-- A line that a child prints.  The JSON value `null` parses, but has no
properties to read. -/
inductive Line where
  | blank
  | malformed (text : String)
  | null
  | response (id : ResponseId) (error : Option (WireError J)) (result : J)

/-- One spawn of the daemon. -/
structure DaemonSession where
  info : Option J
  pending : Option Nat
  closing : Bool
  dead : Bool
  failed : Bool
  /-- The child has emitted `exit`. -/
  exited : Bool

/-- A session whose process has been started. -/
def DaemonSession.spawned : DaemonSession J :=
  ⟨none, none, false, false, false, false⟩

/-- What is seen of a run. -/
inductive Observation where
  | spawned (session : Nat)
  | sent (session id : Nat) (method : Method)
  | delivered (session id : Nat) (response : ResponseId) (reply : Reply J)
  | invalidated (session : Nat)

/-- The sessions of a client, with the slot of the one in use. -/
structure Transport where
  sessions : Nat → DaemonSession J
  spawned : Nat
  slot : Option Nat
  nextId : Nat
  replies : Nat → Option (Reply J)
  backoffMs : Nat
  restartNotBefore : Nat
  /-- A listener has thrown, or no listener has heard an error. -/
  uncaught : Bool
  log : List (Observation J)

/-- What a task waits for: the answer to a request, or a rejection. -/
inductive Promise where
  | rejected (error : ClientError J)
  | request (id : Nat)

/-- Where the running task stands. -/
inductive Phase where
  | backoff
  | initializing (session : Nat) (promise : Promise J)
  | ready (session : Nat)
  | awaiting (session : Nat) (promise : Promise J)
  | stopping (session : Nat) (promise : Promise J)
  | killing (session : Nat)

/-- The public calls. -/
inductive Call where
  | compile
  | filesChanged (paths : List String)
  | shutdown
  | restart
deriving DecidableEq, Repr

/-- How a call ends. -/
inductive Outcome where
  | result (value : J)
  | done
  | failed (error : ClientError J)

/-- The client.  A call is named by its position in `calls`; its task waits on
the chain, runs, or, after a restart, waits to be continued. -/
structure DaemonClient where
  transport : Transport J
  fatal : Option (ClientError J)
  closing : Bool
  calls : List Call
  queue : List Nat
  running : Option (Nat × Phase J)
  resuming : List Nat
  outcomes : List (Nat × Outcome J)

/-- What can happen to the client. -/
inductive Event where
  | call (call : Call)
  | start (now : Nat)
  | resume (now : Nat)
  | timer
  | restarted (call : Nat)
  | line (session : Nat) (line : Line J) (now : Nat)
  | stdoutClosed (session now : Nat)
  | exit (session : Nat) (reason : String) (now : Nat)
  | spawnError (session : Nat) (message : String) (now : Nat)
  /-- The stream of the write is destroyed already, or about to be. -/
  | writeFailed (session id : Nat) (message : String) (destroyed : Bool)
  /-- An `error` of the child or of its streams that has no listener. -/
  | unheard (session : Nat)

end Values

/-- The first delay of a restart. -/
def backoffInitialMs : Nat := 250

/-- The greatest delay of a restart. -/
def backoffMaxMs : Nat := 8000

/-- The greatest integer that JavaScript keeps exact. -/
def maxSafeInteger : Nat := 9007199254740991

/-- The code of a refused protocol version. -/
def unsupportedProtocolVersion : WireText :=
  .string "UnsupportedProtocolVersion"

/-- The code of an internal error. -/
def internalCode : WireText := .string "Internal"

variable {J : Type}

/-- The daemon refused the protocol version. -/
def ClientError.isUnsupported : ClientError J → Bool
  | .daemon code _ _ => code == unsupportedProtocolVersion
  | _ => false

/-- An error response, other than one about the daemon's own state, shows a
responsive daemon. -/
def ClientError.isResponsive : ClientError J → Bool
  | .daemon code _ _ => code != internalCode
  | _ => false

/-- The code of an error; a missing one is unknown. -/
def WireError.codeText (wire : WireError J) : WireText :=
  wire.code.getD (.string "Unknown")

/-- The message of the error, unless its code or its text does not convert. -/
def WireError.messageText (wire : WireError J) : Option String :=
  match wire.codeText.text,
    (wire.message.getD (.string "dsql daemon error")).text with
  | some code, some message => some (code ++ ": " ++ message)
  | _, _ => none

/-- The listener of a line throws: nothing can be read of the value `null`, an
id that does not convert cannot be reported, and neither can an error. -/
def Line.Throws (pending : Option Nat) : Line J → Prop
  | .null => True
  | .response id error _ =>
      if pending.map ResponseId.number = some id then
        ∃ wire, error = some wire ∧ wire.messageText = none
      else
        id.text = none
  | _ => False

namespace Transport

variable (transport : Transport J)

/-- No session has been spawned. -/
def initial : Transport J where
  sessions := fun _ => .spawned J
  spawned := 0
  slot := none
  nextId := 1
  replies := fun _ => none
  backoffMs := backoffInitialMs
  restartNotBefore := 0
  uncaught := false
  log := []

/-- Replaces the state of a session. -/
def setSession (session : Nat) (value : DaemonSession J) : Transport J :=
  { transport with
    sessions := Function.update transport.sessions session value }

/-- Adds to what is seen. -/
def record (observation : Observation J) : Transport J :=
  { transport with log := observation :: transport.log }

/-- Settles the promise of a request. -/
def settle (id : Nat) (reply : Reply J) : Transport J :=
  { transport with
    replies := Function.update transport.replies id (some reply) }

/-- The next restart waits twice as long, up to the limit. -/
def scheduleBackoff (now : Nat) : Transport J :=
  { transport with
    restartNotBefore := now + transport.backoffMs
    backoffMs := min (transport.backoffMs * 2) backoffMaxMs }

/-- The next restart waits for the first delay. -/
def resetBackoff : Transport J :=
  { transport with backoffMs := backoffInitialMs }

/-- No session is current. -/
def clearSlot : Transport J :=
  { transport with slot := none }

/-- The session is current no more. -/
def freeSlot (session : Nat) : Transport J :=
  if transport.slot = some session then
    transport.clearSlot
  else
    transport

/-- Takes the request in flight of a session, and settles it. -/
def answer (session : Nat) (reply : Reply J) : Transport J :=
  match (transport.sessions session).pending with
  | none => transport
  | some id =>
      (transport.setSession session
        { transport.sessions session with pending := none }).settle id reply

/-- Kills a session, rejects its request and tells the consumer.  A session
fails once; one that is closing fails silently. -/
def failSession (session : Nat) (error : SessionError) (now : Nat) :
    Transport J :=
  let current := transport.sessions session
  if current.failed then
    transport
  else
    let failing :=
      ((transport.scheduleBackoff now).setSession session
        { current with failed := true, dead := true }).answer session
          (.error (.session error))
    let freed := failing.freeSlot session
    if current.closing then
      freed
    else
      freed.record (.invalidated session)

/-- Writes a request, one at a time, while the session lives. -/
def send (session : Nat) (method : Method) : Transport J × Promise J :=
  let current := transport.sessions session
  if current.dead then
    (transport, .rejected (.session .closed))
  else if current.pending.isSome then
    (transport, .rejected (.session .overlapping))
  else if maxSafeInteger ≤ transport.nextId then
    (transport, .rejected (.session .exhausted))
  else
    let id := transport.nextId
    ((({ transport with nextId := id + 1 }).setSession session
        { current with pending := some id }).record (.sent session id method),
      .request id)

/-- An exception leaves a listener, or an error finds none. -/
def crash : Transport J :=
  { transport with uncaught := true }

/-- Settles the request in flight with a response. -/
def deliver
    (session id : Nat)
    (response : ResponseId)
    (reply : Reply J) : Transport J :=
  (transport.answer session reply).record
    (.delivered session id response reply)

/-- An error response.  Its request is taken before the error is built. -/
def receiveError
    (session id : Nat)
    (response : ResponseId)
    (wire : WireError J)
    (now : Nat) : Transport J :=
  match wire.messageText with
  | none =>
      (transport.setSession session
        { transport.sessions session with pending := none }).crash
  | some message =>
      let delivered := transport.deliver session id response
        (.error (.daemon wire.codeText message wire.data))
      -- The daemon's own state is not trustworthy any more.
      if wire.codeText = internalCode then
        delivered.failSession session (.internal message) now
      else
        delivered

/-- A response to another request than the one in flight. -/
def breach (session : Nat) (response : ResponseId) (now : Nat) :
    Transport J :=
  match response.text with
  | none => transport.crash
  | some text => transport.failSession session (.outOfOrder text) now

/-- The listener of a child's lines. -/
def receive (session : Nat) (line : Line J) (now : Nat) : Transport J :=
  let current := transport.sessions session
  if current.dead then
    transport
  else
    match line with
    | .blank => transport
    | .malformed text => transport.failSession session (.malformed text) now
    | .null => transport.crash
    | .response response error result =>
        match current.pending with
        | none => transport.breach session response now
        | some id =>
            if response = .number id then
              match error with
              | none => transport.deliver session id response (.ok result)
              | some wire => transport.receiveError session id response wire now
            else
              transport.breach session response now

/-- The end of the output fails a session that is not closing. -/
def closeStdout (session now : Nat) : Transport J :=
  let current := transport.sessions session
  if current.dead || current.closing then
    transport
  else
    transport.failSession session .closedStdout now

/-- The listener of a child's exit. -/
def exit (session : Nat) (reason : String) (now : Nat) : Transport J :=
  let current := transport.sessions session
  let exited := transport.setSession session
    { current with dead := true, exited := true }
  if current.closing then
    exited
  else
    exited.failSession session (.stopped reason) now

/-- The callback of a write that fails.  A stream that is not destroyed yet
then emits its `error`, which has no listener. -/
def writeFailed
    (session id : Nat)
    (message : String)
    (destroyed : Bool) : Transport J :=
  let called :=
    if (transport.sessions session).pending = some id then
      transport.answer session (.error (.write message))
    else
      transport
  if destroyed then called else called.crash

/-- The settlement of a promise. -/
def promised : Promise J → Option (Reply J)
  | .rejected error => some (.error error)
  | .request id => transport.replies id

/-- A new session, with the request that initializes it. -/
def spawn : Transport J × Promise J :=
  let session := transport.spawned
  ((({ transport with
      spawned := session + 1
      slot := some session }).setSession session (.spawned J)).record
        (.spawned session)).send session
          .initializeSession

/-- The error path of a session that could not be initialized. -/
def abandon (session now : Nat) : Transport J :=
  let current := transport.sessions session
  let scheduled :=
    if current.failed then transport else transport.scheduleBackoff now
  (scheduled.setSession session { current with closing := true }).freeSlot
    session

end Transport

namespace DaemonClient

variable (client : DaemonClient J)

/-- The client before its first call. -/
def initial : DaemonClient J where
  transport := .initial
  fatal := none
  closing := false
  calls := []
  queue := []
  running := none
  resuming := []
  outcomes := []

/-- Ends a call. -/
def finish (call : Nat) (outcome : Outcome J) : DaemonClient J :=
  { client with
    running := none
    outcomes := (call, outcome) :: client.outcomes }

/-- A public call.  Work that arrives after a shutdown is rejected. -/
def accept (call : Call) : DaemonClient J :=
  let id := client.calls.length
  let called := { client with calls := client.calls ++ [call] }
  match call with
  | .compile | .filesChanged _ =>
      if client.closing then
        { called with
          outcomes :=
            (id, .failed (.session .shutDown)) :: client.outcomes }
      else
        { called with queue := client.queue ++ [id] }
  | .shutdown | .restart =>
      { called with closing := true, queue := client.queue ++ [id] }

/-- The call goes on in a phase. -/
def runIn (call : Nat) (phase : Phase J) : DaemonClient J :=
  { client with running := some (call, phase) }

/-- No session is current. -/
def clearSlot : DaemonClient J :=
  { client with transport := client.transport.clearSlot }

/-- Starts a process and asks it to initialize. -/
def spawnSession (call : Nat) : DaemonClient J :=
  let spawned := client.transport.spawn
  { client with
    transport := spawned.1
    running :=
      some (call, .initializing client.transport.spawned spawned.2) }

/-- The next spawn waits for its deadline. -/
def respawn (call now : Nat) : DaemonClient J :=
  if now < client.transport.restartNotBefore then
    client.runIn call .backoff
  else
    client.spawnSession call

/-- The current session, or a new one once the delay has passed. -/
def ensureSession (call now : Nat) : DaemonClient J :=
  match client.fatal with
  | some error => client.finish call (.failed error)
  | none =>
      match client.transport.slot with
      | some session =>
          if (client.transport.sessions session).dead then
            client.clearSlot.respawn call now
          else
            client.runIn call (.ready session)
      | none => client.clearSlot.respawn call now

/-- The end of a shutdown: a restart goes on from here. -/
def finishShutdown (call : Nat) : DaemonClient J :=
  if client.calls[call]? = some .restart then
    { client with running := none, resuming := client.resuming ++ [call] }
  else
    client.finish call .done

/-- Asks the current session to shut down. -/
def shutdownNow (call : Nat) : DaemonClient J :=
  match client.transport.slot with
  | none => client.clearSlot.finishShutdown call
  | some session =>
      let current := client.transport.sessions session
      if current.dead then
        client.clearSlot.finishShutdown call
      else
        let sent :=
          (client.transport.clearSlot.setSession session
            { current with closing := true }).send session .shutdown
        { client with
          transport := sent.1
          running := some (call, .stopping session sent.2) }

/-- Kills a session that is still alive. -/
def stopSession (call session : Nat) : DaemonClient J :=
  if (client.transport.sessions session).dead then
    client.finishShutdown call
  else
    client.runIn call (.killing session)

/-- The request of a call. -/
def method (call : Nat) : Method :=
  match client.calls[call]? with
  | some (.filesChanged paths) => .filesChanged paths
  | _ => .compile

/-- The chain starts its next task. -/
def start (now : Nat) : Option (DaemonClient J) :=
  match client.running, client.queue with
  | none, call :: queue =>
      let started := { client with queue := queue }
      match client.calls[call]? with
      | some .shutdown | some .restart => some (started.shutdownNow call)
      | _ => some (started.ensureSession call now)
  | _, _ => none

/-- A failed initialization. -/
def initializeFailed
    (call session : Nat)
    (error : ClientError J)
    (now : Nat) : DaemonClient J :=
  { client with
    transport := client.transport.abandon session now
    fatal := if error.isUnsupported then some error else client.fatal }.finish
      call (.failed error)

/-- The end of a request. -/
def answered (call : Nat) (reply : Reply J) : DaemonClient J :=
  match reply with
  | .ok value =>
      { client with transport := client.transport.resetBackoff }.finish call
        (.result value)
  | .error error =>
      let heard :=
        if error.isResponsive then
          { client with transport := client.transport.resetBackoff }
        else
          client
      heard.finish call (.failed error)

/-- The running task goes on with what it waited for. -/
def resume (now : Nat) : Option (DaemonClient J) :=
  match client.running with
  | some (call, .initializing session promise) =>
      (client.transport.promised promise).map (fun reply =>
        match reply with
        | .ok info =>
            let current := client.transport.sessions session
            { client with
              transport := client.transport.setSession session
                { current with info := some info }
              running := some (call, .ready session) }
        | .error error => client.initializeFailed call session error now)
  | some (call, .ready session) =>
      let sent := client.transport.send session (client.method call)
      some { client with
        transport := sent.1
        running := some (call, .awaiting session sent.2) }
  | some (call, .awaiting _ promise) =>
      (client.transport.promised promise).map (client.answered call)
  | some (call, .stopping session promise) =>
      (client.transport.promised promise).map (fun _ =>
        client.stopSession call session)
  | some (call, .killing session) =>
      if (client.transport.sessions session).exited then
        some (client.finishShutdown call)
      else
        none
  | _ => none

/-- The timer of the running task fires. -/
def timer : Option (DaemonClient J) :=
  match client.running with
  | some (call, .backoff) => some (client.spawnSession call)
  | some (call, .stopping session _) => some (client.stopSession call session)
  | some (call, .killing _) => some (client.finishShutdown call)
  | _ => none

/-- A restart goes on after its shutdown. -/
def restarted (call : Nat) : Option (DaemonClient J) :=
  if call ∈ client.resuming then
    some { client with
      transport :=
        { client.transport with
          restartNotBefore := 0
          backoffMs := backoffInitialMs }
      closing := false
      resuming := client.resuming.erase call
      outcomes := (call, .done) :: client.outcomes }
  else
    none

/-- An event of a child that was spawned. -/
def onChild
    (session : Nat)
    (listener : Transport J → Transport J) : Option (DaemonClient J) :=
  if session < client.transport.spawned then
    some { client with transport := listener client.transport }
  else
    none

/-- One event; after an uncaught exception there are none. -/
def step (event : Event J) : Option (DaemonClient J) :=
  if client.transport.uncaught then
    none
  else
    match event with
    | .call call => some (client.accept call)
    | .start now => client.start now
    | .resume now => client.resume now
    | .timer => client.timer
    | .restarted call => client.restarted call
    | .line session line now =>
        client.onChild session (·.receive session line now)
    | .stdoutClosed session now =>
        client.onChild session (·.closeStdout session now)
    | .exit session reason now =>
        client.onChild session (·.exit session reason now)
    | .spawnError session message now =>
        client.onChild session (·.failSession session (.startFailed message)
          now)
    | .writeFailed session id message destroyed =>
        client.onChild session (·.writeFailed session id message destroyed)
    | .unheard session => client.onChild session (·.crash)

/-- The event ends the process of the client: the listener of a live child's
line throws, or an `error` of a child has no listener. -/
def Crashes : Event J → Prop
  | .line session line _ =>
      session < client.transport.spawned ∧
        (client.transport.sessions session).dead = false ∧
          line.Throws (client.transport.sessions session).pending
  | .writeFailed session _ _ destroyed =>
      session < client.transport.spawned ∧ destroyed = false
  | .unheard session => session < client.transport.spawned
  | _ => False

end DaemonClient

end Client

end Dsql
