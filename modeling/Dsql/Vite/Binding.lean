import Mathlib.Tactic

/-!
# The Vite binding

The binding of the build daemon to a dev server as a state machine.  Watcher
events, hot-update hooks and transforms arrive at any time; so do the answers
of the daemon, failures of its session, and the ends of renders.  Every
continuation of an asynchronous function is an event of its own.

The daemon client appears by its contract: calls wait on a queue, and each of
them is answered once, with a result or an error.
-/

namespace Dsql

namespace Vite

/-- What the live session reports about its project. -/
structure Info where
  configPath : String
  buildDir : String
  generatorOutputs : List String

/-- The calls of the daemon client. -/
inductive Request where
  | compile
  | filesChanged (paths : List String)
  | restart
deriving DecidableEq, Repr

/-- The result of a compilation.  Answers are numbered as they arrive. -/
structure Result where
  generationId : Nat
  changed : Bool
  arrival : Nat
deriving DecidableEq, Repr

inductive Outcome where
  | success
  | unchanged
  | error
deriving DecidableEq, Repr

/-- Where a compile batch stands, with the epoch that it started in. -/
inductive Phase where
  | restarting (call : Nat)
  | compiling (startEpoch call : Nat)
  | refreshing (startEpoch call : Nat)
  | rendering (startEpoch : Nat) (result : Result)
  | finished (outcome : Outcome)
deriving DecidableEq, Repr

structure Batch where
  paths : List String
  phase : Phase

/-- The coalescing loop: it settles for a moment before it takes the pending
paths, and waits for their batch. -/
inductive Loop where
  | idle
  | settling
  | running (batch : Nat)
deriving DecidableEq, Repr

/-- What becomes known of a run. -/
inductive Notice where
  | invalidated
  | requested (batch : Nat) (request : Request)
  | swapped (batch : Nat) (result : Result)
deriving DecidableEq, Repr

/-- What the render preflight finds. -/
inductive Preflight where
  | failed
  | drifted (mismatches : List String)
  | clean

inductive Event where
  | watcher (path : String)
  | hotUpdate (path : String)
  | ensureInitial
  /-- A transform whose buffer differs from the compiled file. -/
  | staleBuffer (path : String)
  | drain
  | loopNext
  | resume (batch : Nat) (preflight : Preflight)
  | rendered (batch : Nat) (written : Bool)
  | initialized (info : Info)
  | answered (generationId : Nat) (changed : Bool)
  | rejected
  | restarted
  | sessionFailed (inFlight : Bool)

/-- The binding.  The log has the newest notice first. -/
structure Binding where
  epoch : Nat
  ready : Option Result
  initial : Option Nat
  pendingPaths : List String
  loop : Loop
  batches : Nat → Batch
  started : Nat
  /-- The daemon client. -/
  info : Option Info
  closing : Bool
  calls : List Request
  waiting : List Nat
  answers : Nat → Option (Option Result)
  /-- The generations of the answers, as they arrived. -/
  generations : List Nat
  log : List Notice

def withoutTrailingSlashes (root : String) : String :=
  String.ofList (root.toList.reverse.dropWhile (· == '/')).reverse

def includesText (path part : String) : Bool :=
  decide (part.toList <:+: path.toList)

def startsWithText (path part : String) : Bool :=
  part.toList.isPrefixOf path.toList

namespace Binding

variable (ownedRoots : List String) (binding : Binding)

def initialState : Binding where
  epoch := 0
  ready := none
  initial := none
  pendingPaths := []
  loop := .idle
  batches := fun _ => ⟨[], .finished .error⟩
  started := 0
  info := none
  closing := false
  calls := []
  waiting := []
  answers := fun _ => none
  generations := []
  log := []

def exclusions : List String :=
  (ownedRoots ++
    [match binding.info with
      | some info => info.buildDir
      | none => "dsql/build"] ++
    (match binding.info with
      | some info => info.generatorOutputs
      | none => [])).map withoutTrailingSlashes

def isExcluded (path : String) : Bool :=
  if startsWithText path "node_modules/" ||
      includesText path "/node_modules/" then
    true
  else if startsWithText path ".git/" || includesText path "/.git/" then
    true
  else
    (binding.exclusions ownedRoots).any (fun root =>
      path == root || startsWithText path (root ++ "/"))

/-- Cached results are not trustworthy any more. -/
def invalidate : Binding :=
  { binding with
    epoch := binding.epoch + 1
    ready := none
    initial := none
    log := .invalidated :: binding.log }

def setPhase (batch : Nat) (phase : Phase) : Binding :=
  { binding with
    batches := Function.update binding.batches batch
      { binding.batches batch with phase := phase } }

def answer (call : Nat) (reply : Option Result) : Binding :=
  { binding with
    answers := Function.update binding.answers call (some reply) }

/-- A call of the daemon client, for a batch.  Work that arrives while the
client is closing is rejected.  The log notes the call; a session that cannot
be started rejects it later. -/
def request (batch : Nat) (request : Request) : Binding :=
  let called := { binding with calls := binding.calls ++ [request] }
  if binding.closing then
    called.answer binding.calls.length none
  else
    { called with
      waiting := binding.waiting ++ [binding.calls.length]
      log := .requested batch request :: binding.log }

/-- The request for the paths of a batch. -/
def requestFor (paths : List String) (configChanged : Bool) : Request :=
  if paths.isEmpty || configChanged || binding.info.isNone then
    .compile
  else
    .filesChanged paths

/-- Sends the request of a batch, under the epoch of this moment. -/
def compileNow
    (batch : Nat)
    (paths : List String)
    (configChanged : Bool) : Binding :=
  (binding.request batch (binding.requestFor paths configChanged)).setPhase
    batch (.compiling binding.epoch binding.calls.length)

def configChanged (paths : List String) : Bool :=
  match binding.info with
  | some info => paths.any (· == info.configPath)
  | none => false

/-- Only a new session reports a fresh project: the old one is shut down
behind the calls that wait. -/
def restart : Binding :=
  { binding with
    calls := binding.calls ++ [.restart]
    waiting := binding.waiting ++ [binding.calls.length]
    closing := true }

/-- Starts a compile for `paths`; no paths stand for the initial full
compile. -/
def compileBatch (paths : List String) : Binding :=
  let batch := binding.started
  let called :=
    { binding with
      started := batch + 1
      batches := Function.update binding.batches batch
        ⟨paths, .finished .error⟩ }
  if binding.configChanged paths then
    called.invalidate.restart.setPhase batch
      (.restarting binding.calls.length)
  else
    called.compileNow batch paths false

/-- Queues a path. -/
def enqueue (path : String) : Binding :=
  { binding with
    pendingPaths :=
      if path ∈ binding.pendingPaths then
        binding.pendingPaths
      else
        binding.pendingPaths ++ [path]
    loop := if binding.loop = .idle then .settling else binding.loop }

def activeBatch : Option (List String) :=
  match binding.loop with
  | .running batch => some (binding.batches batch).paths
  | _ => none

/-- Joins the batch that carries the path, or queues it. -/
def outcomeFor (path : String) : Binding :=
  if path ∈ binding.pendingPaths then
    binding
  else
    match binding.activeBatch with
    | some paths =>
        if path ∈ paths then binding else binding.enqueue path
    | none => binding.enqueue path

def ensureInitial : Binding :=
  match binding.initial with
  | some _ => binding
  | none =>
      { binding.compileBatch [] with initial := some binding.started }

/-- A path that is still pending needs no second delivery. -/
def watcher (path : String) : Binding :=
  if binding.isExcluded ownedRoots path then
    binding
  else if path ∈ binding.pendingPaths then
    binding
  else
    binding.enqueue path

def hotUpdate (path : String) : Binding :=
  if binding.isExcluded ownedRoots path then
    binding
  else
    binding.outcomeFor path

/-- The loop takes the pending paths. -/
def drain : Option Binding :=
  if binding.loop = .settling then
    some { ({ binding with pendingPaths := [] } : Binding).compileBatch
        binding.pendingPaths with
      loop := .running binding.started }
  else
    none

/-- The loop goes on after a batch. -/
def loopNext : Option Binding :=
  match binding.loop with
  | .running batch =>
      match (binding.batches batch).phase with
      | .finished _ =>
          some { binding with
            loop :=
              if binding.pendingPaths.isEmpty then .idle else .settling }
      | _ => none
  | _ => none

/-- Renders a result, after one refresh of the files that drifted. -/
def renderAndIndex
    (batch startEpoch : Nat)
    (result : Result) : Preflight → Binding
  | .failed => binding.setPhase batch (.finished .error)
  | .drifted mismatches =>
      (binding.request batch (.filesChanged mismatches)).setPhase batch
        (.refreshing startEpoch binding.calls.length)
  | .clean => binding.setPhase batch (.rendering startEpoch result)

/-- The refreshed result of a render has to be free of drift. -/
def refreshed
    (batch startEpoch : Nat)
    (result : Result) : Preflight → Binding
  | .clean => binding.setPhase batch (.rendering startEpoch result)
  | _ => binding.setPhase batch (.finished .error)

/-- The result of a compilation. -/
def compiled
    (batch startEpoch : Nat)
    (result : Result)
    (preflight : Preflight) : Binding :=
  if result.changed = false ∧ binding.ready.isSome = true then
    binding.setPhase batch (.finished .unchanged)
  else
    binding.renderAndIndex batch startEpoch result preflight

/-- A batch goes on with the answer that it waited for.  The preflight reads
its hosts without awaiting anything, so it belongs to the same turn. -/
def resume (batch : Nat) (preflight : Preflight) : Option Binding :=
  match (binding.batches batch).phase with
  | .restarting call =>
      (binding.answers call).map (fun _ =>
        binding.compileNow batch (binding.batches batch).paths true)
  | .compiling startEpoch call =>
      (binding.answers call).map (fun reply =>
        match reply with
        | none => binding.setPhase batch (.finished .error)
        | some result => binding.compiled batch startEpoch result preflight)
  | .refreshing startEpoch call =>
      (binding.answers call).map (fun reply =>
        match reply with
        | none => binding.setPhase batch (.finished .error)
        | some result => binding.refreshed batch startEpoch result preflight)
  | _ => none

/-- Swaps a rendered result in, unless it belongs to an older epoch. -/
def swap (batch startEpoch : Nat) (result : Result) : Binding :=
  if binding.epoch = startEpoch then
    { binding.setPhase batch (.finished .success) with
      ready := some result
      log := .swapped batch result :: binding.log }
  else
    binding.setPhase batch (.finished .error)

/-- The end of a render. -/
def rendered (batch : Nat) (written : Bool) : Option Binding :=
  match (binding.batches batch).phase with
  | .rendering startEpoch result =>
      if written then
        some (binding.swap batch startEpoch result)
      else
        some (binding.setPhase batch (.finished .error))
  | _ => none

/-- Takes the call that is in flight. -/
def settle (reply : Option Result) : Binding :=
  match binding.waiting with
  | [] => binding
  | call :: waiting =>
      ({ binding with waiting := waiting } : Binding).answer call reply

/-- The call that is in flight. -/
def inFlight : Option Request :=
  match binding.waiting with
  | [] => none
  | call :: _ => binding.calls[call]?

/-- The daemon answers the call in flight.  Its generations only grow. -/
def answered (generationId : Nat) (changed : Bool) : Option Binding :=
  match binding.inFlight with
  | some .restart => none
  | none => none
  | some _ =>
      if ∀ earlier ∈ binding.generations, earlier ≤ generationId then
        some { binding.settle
            (some ⟨generationId, changed, binding.generations.length⟩) with
          generations := binding.generations ++ [generationId] }
      else
        none

/-- The call in flight fails by itself. -/
def rejected : Option Binding :=
  match binding.inFlight with
  | some .restart => none
  | none => none
  | some _ => some (binding.settle none)

/-- The session has been shut down. -/
def restarted : Option Binding :=
  match binding.inFlight with
  | some .restart =>
      some { binding.settle none with closing := false, info := none }
  | _ => none

/-- The session dies, with the call in flight, or idle. -/
def sessionFailed (inFlight : Bool) : Binding :=
  let failed := { binding.invalidate with info := none }
  match binding.inFlight with
  | some .restart => failed
  | none => failed
  | some _ => if inFlight then failed.settle none else failed

def step (event : Event) : Option Binding :=
  match event with
  | .watcher path => some (binding.watcher ownedRoots path)
  | .hotUpdate path => some (binding.hotUpdate ownedRoots path)
  | .ensureInitial => some binding.ensureInitial
  | .staleBuffer path =>
      if binding.ready.isSome then some (binding.enqueue path) else none
  | .drain => binding.drain
  | .loopNext => binding.loopNext
  | .resume batch preflight =>
      if batch < binding.started then
        binding.resume batch preflight
      else
        none
  | .rendered batch written =>
      if batch < binding.started then
        binding.rendered batch written
      else
        none
  | .initialized info => some { binding with info := some info }
  | .answered generationId changed => binding.answered generationId changed
  | .rejected => binding.rejected
  | .restarted => binding.restarted
  | .sessionFailed inFlight => some (binding.sessionFailed inFlight)

end Binding

end Vite

end Dsql
