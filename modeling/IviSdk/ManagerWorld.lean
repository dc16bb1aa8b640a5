import Mathlib.Logic.Function.Basic
import IviSdk.Streams
import IviSdk.UnaryCalls
import IviSdk.CompletionQueues

/-!
Everything an `IVIClientManagerAsync` can reach: the two queues of its
connection, the state of its four stream clients, the stubs of its five unary
clients, and a log of what it did. Queue objects, stream states and
heap-allocated callbacks are told apart by numbers from one counter, so a queue
or a state that was replaced is never mistaken for its successor.
-/

namespace IviSdk.ManagerWorld

open Checks Messages Results UnaryCalls CompletionQueues Streams

abbrev QueueId := Nat

/-! ## Tags and completions -/

/-- The four `AsyncCallback` members a stream call uses as tags. -/
inductive Slot where
  | start
  | initMetadata
  | read
  | finish
  deriving DecidableEq

/-- Who made a unary call: the application between two polls, the application
from inside one of its callbacks, or `Confirm`. -/
inductive Origin where
  | direct
  | nested
  | confirm
  deriving DecidableEq

/-- A tag is a member of one stream state or was allocated by one unary call. -/
inductive Tag where
  | stream (kind : StreamKind) (subscription : Nat) (slot : Slot)
  | unary (origin : Origin) (id : Nat)
  deriving DecidableEq

inductive UnaryClient where
  | item
  | itemType
  | order
  | payment
  | player
  deriving DecidableEq

/-- What application code can ask of the clients of a manager, between two polls or
in a callback. A callback that calls the manager itself (`Poll`, `PollStream`,
`PollUnary`, `ReinitializeStream`, `ReinitializeUnary`) is left out. -/
inductive ApiCall where
  | request (client : UnaryClient)
  | confirm (kind : StreamKind) (arguments : ConfirmArguments kind)
  | finish (kind : StreamKind)

/-- What one run of an application callback does. -/
structure Reaction where
  calls : List ApiCall := []
  throws : Bool := false

/-- One completed operation of a stream call. `message` and `reaction` only
matter for a read. -/
structure StreamCompletion (kind : StreamKind) where
  subscription : Nat
  slot : Slot
  ok : Bool
  message : MessageT kind := default
  context : ClientContext := {}
  reaction : Reaction := {}

/-- A completed unary call. `parserExits` says that a check inside the response
parser fails in a build that exits on it. -/
structure UnaryCompletion where
  origin : Origin
  id : Nat
  ok : Bool
  context : ClientContext := {}
  status : Status := {}
  parserExits : Bool := false
  reaction : Reaction := {}

inductive Completion where
  | stream (kind : StreamKind) (completion : StreamCompletion kind)
  | unary (completion : UnaryCompletion)

def Completion.tag : Completion → Tag
  | .stream kind completion => .stream kind completion.subscription completion.slot
  | .unary completion => .unary completion.origin completion.id

def Completion.ok : Completion → Bool
  | .stream _ completion => completion.ok
  | .unary completion => completion.ok

/-! ## The log -/

/-- What happens to the messages of one subscription. -/
inductive Update (kind : StreamKind) where
  | issued
  | received (message : MessageT kind)
  | failed
  | invoked (parsed : ParsedMessageT kind)
  | returned
  | confirmed (request : ConfirmRequestT kind)

inductive Event where
  | called (call : ApiCall) (unaryShut : Bool)
  | subscribed (kind : StreamKind) (subscription : Nat) (request : Subscribe)
  | started (queue : QueueId) (shut : Bool) (tag : Tag)
  | delivered (unary : Bool) (completion : Completion) (streamShut unaryShut : Bool)
  | update (kind : StreamKind) (subscription : Nat) (update : Update kind)
  | completed (tag : Tag) (status : IVIResultStatus)
  | deleted (tag : Tag)
  | collected (unary : Bool) (tag : Tag)
  | shutdown (queue : QueueId)
  | tryCancel (kind : StreamKind) (subscription : Nat)
  | draining (unary : Bool)
  | finishAgain
  | verdict (unary graceful : Bool)

/-! ## The world -/

structure IVIConnection where
  streamQueue : QueueId
  unaryQueue : QueueId

/-- An application callback: the model only needs to tell them apart. -/
abbrev CallbackId := Nat

structure StreamState (kind : StreamKind) where
  subscription : Nat
  updateResponse : MessageT kind := default
  updateReader : Option QueueId := none
  startReceived : Bool := false
  initMetadataReceived : Bool := false
  finishCalled : Bool := false
  finishResponded : Bool := false

structure StreamClient (kind : StreamKind) where
  callback : Option CallbackId
  state : StreamState kind

structure World where
  connection : IVIConnection
  queues : QueueId → CompletionQueue Tag
  streams : (kind : StreamKind) → StreamClient kind
  stubs : UnaryClient → Nat
  next : Nat
  log : List Event

namespace World

variable (world : World)

def queueOf (unary : Bool) : QueueId :=
  if unary then world.connection.unaryQueue else world.connection.streamQueue

def streamShut : Bool := (world.queues world.connection.streamQueue).shut

def unaryShut : Bool := (world.queues world.connection.unaryQueue).shut

def pending (queue : QueueId) : List Tag := (world.queues queue).pending

def state (kind : StreamKind) : StreamState kind := (world.streams kind).state

def tagOf (kind : StreamKind) (slot : Slot) : Tag :=
  .stream kind (world.state kind).subscription slot

/-! ### Changes -/

def note (event : Event) : World := { world with log := event :: world.log }

def setQueue (queue : QueueId) (value : CompletionQueue Tag) : World :=
  { world with queues := Function.update world.queues queue value }

def setClient (kind : StreamKind) (client : StreamClient kind) : World :=
  { world with streams := Function.update world.streams kind client }

/-- Starts an operation on a queue, as it stands at that moment. -/
def put (queue : QueueId) (tag : Tag) : World :=
  (world.setQueue queue
    { world.queues queue with pending := tag :: (world.queues queue).pending }).note
      (.started queue (world.queues queue).shut tag)

def take (queue : QueueId) (tag : Tag) : World :=
  world.setQueue queue
    { world.queues queue with pending := (world.queues queue).pending.erase tag }

def shutdown (queue : QueueId) : World :=
  (world.setQueue queue { world.queues queue with shut := true }).note (.shutdown queue)

def setState (kind : StreamKind) (change : StreamState kind → StreamState kind) : World :=
  world.setClient kind { world.streams kind with state := change (world.streams kind).state }

/-- The message of a read lands in the buffer of the stream state that asked. -/
def fillBuffer : Completion → World
  | .stream kind completion =>
      if completion.slot = .read ∧ completion.ok = true ∧
          completion.subscription = (world.state kind).subscription then
        (world.setState kind ({ · with updateResponse := completion.message })).note
          (.update kind completion.subscription (.received completion.message))
      else world
  | .unary _ => world

/-- The queue hands out the tag of a completed operation. -/
def deliver (unary : Bool) (completion : Completion) : World :=
  ((world.take (world.queueOf unary) completion.tag).note
    (.delivered unary completion world.streamShut world.unaryShut)).fillBuffer completion

end World

/-! ### What a change leaves alone -/

section Frames
variable (world : World) (queue : QueueId) (tag : Tag) (kind : StreamKind)
  (client : StreamClient kind) (event : Event) (value : CompletionQueue Tag)
  (change : StreamState kind → StreamState kind)

@[simp] theorem note_connection : (world.note event).connection = world.connection := rfl
@[simp] theorem note_queues : (world.note event).queues = world.queues := rfl
@[simp] theorem note_streams : (world.note event).streams = world.streams := rfl
@[simp] theorem note_next : (world.note event).next = world.next := rfl
@[simp] theorem note_log : (world.note event).log = event :: world.log := rfl

@[simp] theorem put_connection : (world.put queue tag).connection = world.connection := rfl
@[simp] theorem put_streams : (world.put queue tag).streams = world.streams := rfl
@[simp] theorem put_next : (world.put queue tag).next = world.next := rfl
@[simp] theorem put_log : (world.put queue tag).log =
    .started queue (world.queues queue).shut tag :: world.log := rfl

@[simp] theorem take_connection : (world.take queue tag).connection = world.connection := rfl
@[simp] theorem take_streams : (world.take queue tag).streams = world.streams := rfl
@[simp] theorem take_next : (world.take queue tag).next = world.next := rfl
@[simp] theorem take_log : (world.take queue tag).log = world.log := rfl

@[simp] theorem shutdown_connection : (world.shutdown queue).connection = world.connection := rfl
@[simp] theorem shutdown_streams : (world.shutdown queue).streams = world.streams := rfl
@[simp] theorem shutdown_next : (world.shutdown queue).next = world.next := rfl
@[simp] theorem shutdown_log : (world.shutdown queue).log = .shutdown queue :: world.log := rfl

@[simp] theorem set_state_connection :
    (world.setState kind change).connection = world.connection := rfl
@[simp] theorem set_state_queues : (world.setState kind change).queues = world.queues := rfl
@[simp] theorem set_state_next : (world.setState kind change).next = world.next := rfl
@[simp] theorem set_state_log : (world.setState kind change).log = world.log := rfl

theorem put_pending (other : QueueId) : (world.put queue tag).pending other =
    if other = queue then tag :: world.pending queue else world.pending other := by
  by_cases same : other = queue
  · subst other
    simp [World.put, World.setQueue, World.pending]
  · simp [World.put, World.setQueue, World.pending, same]

@[simp] theorem put_shut (other : QueueId) :
    ((world.put queue tag).queues other).shut = (world.queues other).shut := by
  by_cases same : other = queue
  · subst other
    simp [World.put, World.setQueue]
  · simp [World.put, World.setQueue, same]

theorem take_pending (other : QueueId) : (world.take queue tag).pending other =
    if other = queue then (world.pending queue).erase tag else world.pending other := by
  by_cases same : other = queue
  · subst other
    simp [World.take, World.setQueue, World.pending]
  · simp [World.take, World.setQueue, World.pending, same]

@[simp] theorem take_shut (other : QueueId) :
    ((world.take queue tag).queues other).shut = (world.queues other).shut := by
  by_cases same : other = queue
  · subst other
    simp [World.take, World.setQueue]
  · simp [World.take, World.setQueue, same]

@[simp] theorem shutdown_pending (other : QueueId) :
    (world.shutdown queue).pending other = world.pending other := by
  by_cases same : other = queue
  · subst other
    simp [World.shutdown, World.setQueue, World.pending]
  · simp [World.shutdown, World.setQueue, World.pending, same]

theorem shutdown_shut (other : QueueId) : ((world.shutdown queue).queues other).shut =
    if other = queue then true else (world.queues other).shut := by
  by_cases same : other = queue
  · subst other
    simp [World.shutdown, World.setQueue]
  · simp [World.shutdown, World.setQueue, same]

@[simp] theorem set_state_same :
    (world.setState kind change).state kind = change (world.state kind) := by
  simp [World.setState, World.setClient, World.state]

theorem set_state_other (other : StreamKind) (differs : other ≠ kind) :
    (world.setState kind change).streams other = world.streams other := by
  simp [World.setState, World.setClient, differs]

@[simp] theorem set_state_callback (other : StreamKind) :
    ((world.setState kind change).streams other).callback = (world.streams other).callback := by
  by_cases same : other = kind
  · subst other
    simp [World.setState, World.setClient]
  · simp [set_state_other world kind change other same]

end Frames

/-! ### Reading the log -/

/-- What of the log is seen through a view, first event first. -/
def observed {Seen : Type} (view : Event → Option Seen) (log : List Event) : List Seen :=
  (log.filterMap view).reverse

theorem observed_cons {Seen : Type} (view : Event → Option Seen) (event : Event)
    (log : List Event) :
    observed view (event :: log) = observed view log ++ (view event).toList := by
  unfold observed
  cases seen : view event with
  | none => simp [seen]
  | some one => simp [seen]

theorem observed_none {Seen : Type} {view : Event → Option Seen} {event : Event}
    (unseen : view event = none) (log : List Event) :
    observed view (event :: log) = observed view log := by
  rw [observed_cons, unseen]
  exact List.append_nil _

theorem observed_some {Seen : Type} {view : Event → Option Seen} {event : Event} {one : Seen}
    (seen : view event = some one) (log : List Event) :
    observed view (event :: log) = observed view log ++ [one] := by
  rw [observed_cons, seen]
  rfl

/-- A count over what is seen of the log is a count over the log. -/
theorem count_observed {Seen : Type} (view : Event → Option Seen) (counted : Seen → Bool)
    (log : List Event) :
    (observed view log).countP counted = log.countP fun event => (view event).any counted := by
  unfold observed
  rw [List.countP_reverse, List.countP_filterMap]
  refine List.countP_congr fun event _ => ?_
  cases view event <;> rfl

end IviSdk.ManagerWorld
