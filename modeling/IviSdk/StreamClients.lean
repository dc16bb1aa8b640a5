import IviSdk.ManagerWorld
import IviSdk.Interaction

/-!
`IVIStreamClientT` and the asynchronous half of `IVIClientT`, as programs over
the manager's world: the tags they put on the queues and what they do when a
tag comes back.
-/

namespace IviSdk.StreamClients

open Checks Messages Results UnaryCalls CompletionQueues Streams ManagerWorld Interaction

/-- Why control does not reach the end of a piece of code: an exception left
it, a failed check ended the process, `AsyncNext` has not answered, it wants to
poll again and the answers considered are used up, or C++ gives it no meaning. -/
inductive Halt where
  | threw
  | exited
  | waiting
  | unfinished
  | undefined
  deriving DecidableEq

abbrev Manager (Value : Type) := Program World Halt Value

variable {Value : Type}

def checked : Checked Value → Manager Value
  | .ok value => pure value
  | .error .exited => stop .exited
  | .error (.threw _) => stop .threw

def note (event : Event) : Manager Unit := modify (·.note event)

def fresh : Manager Nat := fun world =>
  .returned world.next { world with next := world.next + 1 }

def start (queue : QueueId) (tag : Tag) : Manager Unit := modify (·.put queue tag)

def setState (kind : StreamKind) (change : StreamState kind → StreamState kind) : Manager Unit :=
  modify (·.setState kind change)

def update (kind : StreamKind) (value : Update kind) : Manager Unit :=
  modify fun world => world.note (.update kind (world.state kind).subscription value)

/-- `updateReader->X(.., tag)`: the reader puts its tags on the queue the stream
was subscribed with. -/
def throughReader (kind : StreamKind) (slot : Slot) : Manager Unit := fun world =>
  match (world.state kind).updateReader with
  | some queue => start queue (world.tagOf kind slot) world
  | none => stop .undefined world

section Rules
variable {normal : Unit → World → Prop} {abrupt : Halt → World → Prop} {world : World}

theorem wp_checked {normal : Value → World → Prop} (result : Checked Value) :
    wp (checked result) normal abrupt world ↔
      match result with
      | .ok value => normal value world
      | .error .exited => abrupt .exited world
      | .error (.threw _) => abrupt .threw world := by
  cases result with
  | ok value => exact Iff.rfl
  | error stop => cases stop <;> exact Iff.rfl

theorem wp_client_checks (env : Env) (passed : normal () world)
    (exited : clientChecks env ≠ .ok () → abrupt .exited world) :
    wp (checked (clientChecks env)) normal abrupt world := by
  rw [wp_checked]
  rcases client_checks_cases env with fine | failed
  · rw [fine]
    exact passed
  · rw [failed]
    exact exited (by simp [failed])

@[simp] theorem wp_note (event : Event) :
    wp (note event) normal abrupt world ↔ normal () (world.note event) := Iff.rfl

@[simp] theorem wp_fresh {normal : Nat → World → Prop} :
    wp fresh normal abrupt world ↔
      normal world.next { world with next := world.next + 1 } := Iff.rfl

@[simp] theorem wp_start (queue : QueueId) (tag : Tag) :
    wp (start queue tag) normal abrupt world ↔ normal () (world.put queue tag) := Iff.rfl

@[simp] theorem wp_set_state (kind : StreamKind) (change : StreamState kind → StreamState kind) :
    wp (setState kind change) normal abrupt world ↔ normal () (world.setState kind change) :=
  Iff.rfl

@[simp] theorem wp_update (kind : StreamKind) (value : Update kind) :
    wp (update kind value) normal abrupt world ↔
      normal () (world.note (.update kind (world.state kind).subscription value)) := Iff.rfl

theorem wp_through_reader (kind : StreamKind) (slot : Slot) :
    wp (throughReader kind slot) normal abrupt world ↔
      match (world.state kind).updateReader with
      | some queue => normal () (world.put queue (world.tagOf kind slot))
      | none => abrupt .undefined world := by
  cases reader : (world.state kind).updateReader with
  | some queue =>
      simp only [throughReader, wp, reader]
      exact Iff.rfl
  | none =>
      simp only [throughReader, wp, reader]
      exact Iff.rfl

end Rules

/-! ## Unary calls -/

/-- Which queue a call goes to is read from the shared connection when it is
made. The tag is allocated here. -/
def callUnaryAsync (origin : Origin) : Manager Unit := do
  let id ← fresh
  let world ← read
  start world.connection.unaryQueue (.unary origin id)

/-- The result status the tag of a unary call hands to its callback. -/
def passedStatus (env : Env) (completion : UnaryCompletion) : Checked IVIResultStatus := do
  if ← checkOkUnaryAsync env.build completion.ok completion.context completion.status then
    if completion.parserExits then .error .exited else .ok .success
  else translateGrpcError completion.context completion.status

/-! ## Stream calls -/

def logStreamFailure (env : Env) (context : ClientContext) : Manager Unit :=
  checked (logFailure env.build context)

def startCallback (env : Env) (kind : StreamKind) (ok : Bool) (context : ClientContext) :
    Manager Unit := do
  setState kind ({ · with startReceived := true })
  onlyIf (!ok) (logStreamFailure env context)

def initMetadataCallback (env : Env) (kind : StreamKind) (ok : Bool) (context : ClientContext) :
    Manager Unit := do
  setState kind ({ · with initMetadataReceived := true })
  onlyIf (!ok) (logStreamFailure env context)

def finishCallback (env : Env) (kind : StreamKind) (ok : Bool) (context : ClientContext) :
    Manager Unit := do
  setState kind ({ · with finishResponded := true })
  onlyIf (!ok) (logStreamFailure env context)

def finish (kind : StreamKind) : Manager Unit := do
  let world ← read
  if (world.state kind).finishResponded then pure ()
  else if !(world.state kind).initMetadataReceived || (world.state kind).finishCalled then do
    note (.tryCancel kind (world.state kind).subscription)
    setState kind ({ · with finishResponded := true })
  else do
    throughReader kind .finish
    setState kind ({ · with finishCalled := true })

def isFinished (world : World) (kind : StreamKind) : Bool := (world.state kind).finishResponded

def readNext (kind : StreamKind) : Manager Unit := do
  update kind .issued
  throughReader kind .read

/-- `Subscribe` on a stream state that was just created. -/
def subscribe (env : Env) (kind : StreamKind) : Manager Unit := do
  let world ← read
  setState kind ({ · with updateReader := some world.connection.streamQueue })
  note (.subscribed kind (world.state kind).subscription
    { environmentId := env.configuration.environmentId })
  throughReader kind .start
  throughReader kind .initMetadata
  readNext kind

def confirm (env : Env) (kind : StreamKind) (arguments : ConfirmArguments kind) :
    Manager Unit := do
  update kind (.confirmed
    (setEnvironmentId env.configuration.environmentId (requestCreator arguments)))
  callUnaryAsync .confirm

def sendConfirm (env : Env) (kind : StreamKind) : Manager Unit := do
  let world ← read
  confirm env kind (confirmArguments kind (world.state kind).updateResponse)

/-- A call the application makes on one of the manager's clients. A request is one
that gets to `CallUnaryAsync`: the checks made before that are `ServiceClients`', and
a request that fails one where that exits is left out. -/
def apiCall (env : Env) (origin : Origin) (call : ApiCall) : Manager Unit := do
  modify fun world => world.note (.called call world.unaryShut)
  match call with
  | .request _ => callUnaryAsync origin
  | .confirm kind arguments => confirm env kind arguments
  | .finish kind => finish kind

/-- One run of an application callback. -/
def react (env : Env) (reaction : Reaction) : Manager Unit := do
  each (apiCall env .nested) reaction.calls
  onlyIf reaction.throws (stop .threw)

/-- `OnCallback` on the current message. -/
def onCallback (env : Env) (kind : StreamKind) (reaction : Reaction) : Manager Unit := do
  let world ← read
  update kind (.invoked (fromProto kind (world.state kind).updateResponse))
  react env reaction
  update kind .returned

def processNext (env : Env) (kind : StreamKind) (completion : StreamCompletion kind) :
    Manager Unit :=
  if !completion.ok then do
    update kind .failed
    logStreamFailure env completion.context
  else do
    onCallback env kind completion.reaction
    onlyIf env.configuration.autoconfirmStreamUpdates (sendConfirm env kind)
    readNext kind

/-! ## A tag comes back -/

/-- The members of a stream state that was replaced are gone. -/
def dispatchStream (env : Env) (kind : StreamKind) (completion : StreamCompletion kind) :
    Manager Unit := do
  let world ← read
  if completion.subscription ≠ (world.state kind).subscription then stop .undefined
  else match completion.slot with
    | .start => startCallback env kind completion.ok completion.context
    | .initMetadata => initMetadataCallback env kind completion.ok completion.context
    | .read => processNext env kind completion
    | .finish => finishCallback env kind completion.ok completion.context

/-- `Confirm` gives `CallUnaryAsync` a callback of its own that only logs. -/
def dispatchUnary (env : Env) (completion : UnaryCompletion) : Manager Unit := do
  let status ← checked (passedStatus env completion)
  note (.completed (.unary completion.origin completion.id) status)
  onlyIf (completion.origin != .confirm) (react env completion.reaction)

/-- `(*cb)(ok)`. -/
def dispatch (env : Env) : Completion → Manager Unit
  | .stream kind completion => dispatchStream env kind completion
  | .unary completion => dispatchUnary env completion

/-! ## Construction -/

/-- The `IVIStreamClientT` constructor: the client's storage holds a new state,
and a client without a callback counts as finished. -/
def constructStream (env : Env) (kind : StreamKind) (callback : Option CallbackId) :
    Manager Unit := do
  checked (clientChecks env)
  let subscription ← fresh
  modify (·.setClient kind { callback := callback, state := { subscription := subscription } })
  if callback.isSome then subscribe env kind
  else setState kind ({ · with finishResponded := true })

end IviSdk.StreamClients
