import IviSdk.StreamClients

/-!
`IVIClientManagerAsync`: one pass over a completion queue, the recovery that
follows a failed completion, `Poll`, and the reinitialisation of the clients.
What `AsyncNext` answers is an input: each pass is given the completions it
will be handed and the answer that ends it, and an answer the queue cannot give
is one that never comes.
-/

namespace IviSdk.ClientManager

open Checks CompletionQueues Streams ManagerWorld Interaction StreamClients

structure Runtime extends Env where
  admits : CompletionQueue Tag → QueueAnswer Tag → Bool

def grpc (env : Env) : Runtime where
  toEnv := env
  admits := grpcRules

/-- The answers to one pass: `last` is `none` while `AsyncNext` still waits. -/
structure Pass where
  events : List Completion := []
  last : Option NextStatus := some .timeout

/-! ## One pass -/

def asyncNext (runtime : Runtime) (unary : Bool) (completion : Completion) : Manager Unit :=
  fun world =>
    if runtime.admits (world.queues (world.queueOf unary)) (.gotEvent completion.tag) then
      .returned () (world.deliver unary completion)
    else .stopped .waiting world

/-- `AsyncNext` answers something else. `ok` and `tag` keep their values. -/
def asyncNextLast (runtime : Runtime) (unary : Bool) (last : Option NextStatus) :
    Manager NextStatus := fun world =>
  match last with
  | some status =>
      if runtime.admits (world.queues (world.queueOf unary)) status.answer then
        .returned status world
      else .stopped .waiting world
  | none => .stopped .waiting world

/-- One turn of the loop in `processQueue`: only the unary instantiation deletes
the tag it dispatched. -/
def processEvent (runtime : Runtime) (unary : Bool) (completion : Completion) : Manager Unit := do
  asyncNext runtime unary completion
  dispatch runtime.toEnv completion
  onlyIf unary (note (.deleted completion.tag))

def processEvents (runtime : Runtime) (unary : Bool) :
    List Completion → (callShutdown : Bool) → Manager Bool
  | [], callShutdown => pure callShutdown
  | completion :: rest, callShutdown => do
      processEvent runtime unary completion
      processEvents runtime unary rest (callShutdown || !completion.ok)

structure PassResult where
  callShutdown : Bool
  nextStatus : NextStatus
  deriving DecidableEq

def processQueue (runtime : Runtime) (unary : Bool) (pass : Pass) : Manager PassResult := do
  let callShutdown ← processEvents runtime unary pass.events false
  let nextStatus ← asyncNextLast runtime unary pass.last
  pure ⟨callShutdown, nextStatus⟩

/-! ## Recovery -/

def finishStream : Manager Unit := each finish StreamKind.all

def isStreamFinished (world : World) : Bool := StreamKind.all.all (isFinished world)

def finishAgain : Manager Unit := do
  note .finishAgain
  finishStream

/-- The loop after `Shutdown`. The counter is incremented behind `!Unary &&`,
so the unary instantiation never counts. -/
def drain (runtime : Runtime) (unary : Bool) :
    List Pass → NextStatus → (pollCount : Nat) → Manager Nat
  | [], nextStatus, pollCount => do
      let world ← read
      if (nextStatus ≠ .shutdown ∨ isStreamFinished world = false) ∧
          pollCount < runtime.configuration.errorLoopMax then
        stop .unfinished
      else pure pollCount
  | pass :: passes, nextStatus, pollCount => do
      let world ← read
      if (nextStatus ≠ .shutdown ∨ isStreamFinished world = false) ∧
          pollCount < runtime.configuration.errorLoopMax then do
        note (.draining unary)
        let drained ← processQueue runtime unary pass
        if unary then drain runtime unary passes drained.nextStatus pollCount
        else do
          onlyIf (pollCount + 1 == runtime.configuration.errorLoopMax / 2) finishAgain
          drain runtime unary passes drained.nextStatus (pollCount + 1)
      else pure pollCount

def shutdownQueue (unary : Bool) : Manager Unit :=
  modify fun world => world.shutdown (world.queueOf unary)

def recover (runtime : Runtime) (unary : Bool) (passes : List Pass) : Manager Unit := do
  onlyIf (!unary) finishStream
  match passes with
  | [] => stop .unfinished
  | pass :: passes => do
      let polled ← processQueue runtime unary pass
      shutdownQueue unary
      let pollCount ← drain runtime unary passes polled.nextStatus 0
      note (.verdict unary (pollCount < runtime.configuration.errorLoopMax))

/-- `PollUnary` and `PollStream`. -/
def pollQueue (runtime : Runtime) (unary : Bool) : List Pass → Manager Bool
  | [] => stop .unfinished
  | pass :: passes => do
      let polled ← processQueue runtime unary pass
      onlyIf polled.callShutdown (recover runtime unary passes)
      pure polled.callShutdown

/-! ## Reinitialisation -/

def newQueue : Manager QueueId := do
  let queue ← fresh
  modify (·.setQueue queue {})
  pure queue

/-- A unary client is destroyed and constructed in place: its constructor runs
its checks and makes a new stub. -/
def reinitializeUnaryClient (env : Env) (client : UnaryClient) : Manager Unit := do
  checked (clientChecks env)
  let stub ← fresh
  modify fun world => { world with stubs := Function.update world.stubs client stub }

def reinitializeUnary (env : Env) : Manager Unit := do
  let queue ← newQueue
  modify fun world => { world with connection := { world.connection with unaryQueue := queue } }
  -- The order client is not among the clients rebuilt.
  each (reinitializeUnaryClient env) [.item, .itemType, .payment, .player]

def reinitializeStreamClient (env : Env) (kind : StreamKind) : Manager Unit := do
  let world ← read
  constructStream env kind (world.streams kind).callback

def reinitializeStream (env : Env) : Manager Unit := do
  let queue ← newQueue
  modify fun world => { world with connection := { world.connection with streamQueue := queue } }
  each (reinitializeStreamClient env) StreamKind.all

/-! ## Poll -/

/-- `GetState(false)`: only one of the states matters here. -/
inductive ChannelState where
  | other
  | shutdown
  deriving DecidableEq

def poll (runtime : Runtime) (channelState : ChannelState) (unaryPasses streamPasses : List Pass) :
    Manager Bool := do
  checked (check runtime.build runtime.configuration.autoconfirmStreamUpdates)
  let unaryShutdown ← pollQueue runtime true unaryPasses
  let streamShutdown ← pollQueue runtime false streamPasses
  if unaryShutdown || streamShutdown then
    if channelState = .shutdown then pure false
    else do
      onlyIf unaryShutdown (reinitializeUnary runtime.toEnv)
      onlyIf streamShutdown (reinitializeStream runtime.toEnv)
      pure true
  else pure true

/-! ## Construction -/

abbrev IVIStreamCallbacks := StreamKind → Option CallbackId

inductive Member where
  | streamQueue
  | unaryQueue
  deriving DecidableEq

/-- The sanity check compares the addresses of the two members of the
connection, not the queues they point to. -/
def sanityCheck (env : Env) : Manager Unit :=
  checked (check env.build (Member.unaryQueue != Member.streamQueue))

def construct (env : Env) (callbacks : IVIStreamCallbacks) : Manager Unit := do
  each (reinitializeUnaryClient env) [.item, .itemType, .order, .payment, .player]
  each (fun kind => constructStream env kind (callbacks kind)) StreamKind.all
  sanityCheck env

/-- The world before the constructor runs: a connection nobody has used yet. -/
def World.before (connection : IVIConnection) : World where
  connection := connection
  queues := fun _ => {}
  streams := fun _ => { callback := none, state := { subscription := 0 } }
  stubs := fun _ => 0
  next := max connection.streamQueue connection.unaryQueue + 1
  log := []

/-- `DefaultConnection` and `InsecureConnection` make a queue for each member. -/
def newConnection : IVIConnection where
  streamQueue := 0
  unaryQueue := 1

/-! ## Destruction -/

def asyncNextTag (runtime : Runtime) (unary : Bool) (tag : Tag) : Manager Unit := fun world =>
  if runtime.admits (world.queues (world.queueOf unary)) (.gotEvent tag) then
    .returned () ((world.take (world.queueOf unary) tag).note (.collected unary tag))
  else .stopped .waiting world

/-- One turn of the loop in `drainQueue`: the tag is not dispatched, and one of
the unary queue is deleted. -/
def collect (runtime : Runtime) (unary : Bool) (tag : Tag) : Manager Unit := do
  asyncNextTag runtime unary tag
  onlyIf unary (note (.deleted tag))

/-- `drainQueue` in the destructor, which asks without waiting until the answer
is not an event. -/
def drainQueue (runtime : Runtime) (unary : Bool) (tags : List Tag) (last : Option NextStatus) :
    Manager NextStatus := do
  shutdownQueue unary
  each (collect runtime unary) tags
  asyncNextLast runtime unary last

structure Collection where
  unaryTags : List Tag
  unaryLast : Option NextStatus
  streamTags : List Tag
  streamLast : Option NextStatus

/-- The body of `~IVIClientManagerAsync` and the last answer of each drain. -/
def destroy (runtime : Runtime) (collection : Collection) : Manager (NextStatus × NextStatus) := do
  let unaryStatus ← drainQueue runtime true collection.unaryTags collection.unaryLast
  finishStream -- calls Finish
  finishStream -- calls TryCancel
  let streamStatus ← drainQueue runtime false collection.streamTags collection.streamLast
  pure (unaryStatus, streamStatus)

/-! ## Runs -/

inductive Action where
  | call (call : ApiCall)
  | poll (channelState : ChannelState) (unaryPasses streamPasses : List Pass)
  | pollUnary (passes : List Pass)
  | pollStream (passes : List Pass)
  | reinitializeUnary
  | reinitializeStream

inductive Reply where
  | done
  | polled (result : Bool)
  | queuePolled (result : Bool)
  | threw
  deriving DecidableEq

def act (runtime : Runtime) : Action → Manager Reply
  | .call call => do
      apiCall runtime.toEnv .direct call
      pure .done
  | .poll channelState unaryPasses streamPasses => do
      let result ← poll runtime channelState unaryPasses streamPasses
      pure (.polled result)
  | .pollUnary passes => do
      let result ← pollQueue runtime true passes
      pure (.queuePolled result)
  | .pollStream passes => do
      let result ← pollQueue runtime false passes
      pure (.queuePolled result)
  | .reinitializeUnary => do
      ClientManager.reinitializeUnary runtime.toEnv
      pure .done
  | .reinitializeStream => do
      ClientManager.reinitializeStream runtime.toEnv
      pure .done

/-- The application goes on after an action that came back, also when an
exception came out of it. -/
def resume : Outcome World Halt Reply → Option (Reply × World)
  | .returned reply world => some (reply, world)
  | .stopped .threw world => some (.threw, world)
  | .stopped _ _ => none

/-- The replies to a sequence of actions that all came back, last one first. -/
def run (runtime : Runtime) : List Action → List Reply → World → Option (List Reply × World)
  | [], replies, world => some (replies, world)
  | action :: rest, replies, world =>
      match resume (act runtime action world) with
      | some (reply, after) => run runtime rest (reply :: replies) after
      | none => none

end IviSdk.ClientManager
