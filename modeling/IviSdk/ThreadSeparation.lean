import IviSdk.Interleavings
import IviSdk.PairedRuns
import IviSdk.FinishMoves

/-!
One thread reads the stream queue, others read the unary queue and make requests.
Without automatic confirmation and with callbacks that leave the other side's calls
to its threads, the two sides of a manager share nothing that decides what they do:
whatever the interleaving of their calls and completions, each side fares as if it
ran alone. A poll only picks the moves of its own side, though the drain of the unary
queue goes on while a stream is unfinished. A reinitialisation is between such stretches.
-/

namespace IviSdk.ThreadSeparation

open Checks Results CompletionQueues Streams ManagerWorld Interaction StreamClients ClientManager
open CallbackRules PollRules ManagerRuns QueueWiring FinishMoves PairedPrograms Interleavings
open PairedRuns (checked_agrees)

/-! ## The two sides -/

/-- Which side an API call is made on: `true` is the unary one. -/
def callSide : ApiCall → Bool
  | .request _ | .confirm _ _ => true
  | .finish _ => false

def moveSide : Move → Bool
  | .call _ call => callSide call
  | .event unary _ => unary
  | .collect unary _ => unary
  | .shutdown unary => unary

def Reaction.KeepsTo (side : Bool) (reaction : Reaction) : Prop :=
  ∀ call ∈ reaction.calls, callSide call = side

/-- What a callback does is left to the threads of its own side. -/
def Marshalled : Move → Prop
  | .event false (.stream _ completion) => Reaction.KeepsTo false completion.reaction
  | .event true (.unary completion) => Reaction.KeepsTo true completion.reaction
  | .event .. => False
  | _ => True

/-- Which side an event of the log is about. -/
def eventSide (unaryQueue : QueueId) : Event → Bool
  | .called call _ => callSide call
  | .started _ _ (.unary _ _) => true
  | .started _ _ (.stream _ _ _) => false
  | .delivered unary _ _ _ => unary
  | .update _ _ (.confirmed _) => true
  | .update _ _ _ => false
  | .completed _ _ => true
  | .deleted _ => true
  | .collected unary _ => unary
  | .shutdown queue => decide (queue = unaryQueue)
  | .draining unary => unary
  | .verdict unary _ => unary
  | .subscribed _ _ _ | .tryCancel _ _ | .finishAgain => false

/-- An event without what the log noted of the other side. -/
def withoutOther : Event → Event
  | .called (.finish kind) _ => .called (.finish kind) false
  | .delivered true completion _ unaryShut => .delivered true completion false unaryShut
  | .delivered false completion streamShut _ => .delivered false completion streamShut false
  | .update kind _ (.confirmed request) => .update kind 0 (.confirmed request)
  | event => event

def seenBy (unaryQueue : QueueId) (side : Bool) (event : Event) : Option Event :=
  if eventSide unaryQueue event = side then some (withoutOther event) else none

/-- The two worlds are the same to one side: its queue, its clients and what happened
on it. -/
structure Shared (side : Bool) (world twin : World) : Prop where
  connection : twin.connection = world.connection
  queue : twin.queues (world.queueOf side) = world.queues (world.queueOf side)
  stubs : side = true → twin.stubs = world.stubs
  next : side = true → twin.next = world.next
  streams : side = false → twin.streams = world.streams
  seen : observed (seenBy world.connection.unaryQueue side) twin.log =
    observed (seenBy world.connection.unaryQueue side) world.log

namespace Shared

variable {side : Bool} {world twin third : World}

theorem refl (side : Bool) (world : World) : Shared side world world :=
  ⟨rfl, rfl, fun _ => rfl, fun _ => rfl, fun _ => rfl, rfl⟩

theorem queueOf (shared : Shared side world twin) (unary : Bool) :
    twin.queueOf unary = world.queueOf unary := by
  rw [World.queueOf, World.queueOf, shared.connection]

theorem symm (shared : Shared side world twin) : Shared side twin world where
  connection := shared.connection.symm
  queue := by rw [shared.queueOf, shared.queue]
  stubs own := (shared.stubs own).symm
  next own := (shared.next own).symm
  streams own := (shared.streams own).symm
  seen := by rw [shared.connection, shared.seen]

theorem trans (first : Shared side world twin) (second : Shared side twin third) :
    Shared side world third where
  connection := second.connection.trans first.connection
  queue := by
    have same := second.queue
    rw [first.queueOf] at same
    exact same.trans first.queue
  stubs own := (second.stubs own).trans (first.stubs own)
  next own := (second.next own).trans (first.next own)
  streams own := (second.streams own).trans (first.streams own)
  seen := by
    have same := second.seen
    rw [first.connection] at same
    exact same.trans first.seen

end Shared

/-- Two runs of one side in surroundings of their own: they are the same to that
side, and neither has been noticed by the other side since it began. -/
structure Beside (side : Bool) (start twinStart world twin : World) : Prop where
  shared : Shared side world twin
  aside : Shared (!side) start world
  twinAside : Shared (!side) twinStart twin
  distinct : world.connection.streamQueue ≠ world.connection.unaryQueue
  readers : ∀ kind queue, (world.state kind).updateReader = some queue →
    queue = world.connection.streamQueue

theorem Beside.refl {side : Bool} {world twin : World} (shared : Shared side world twin)
    (wired : Wired world) : Beside side world twin world twin where
  shared := shared
  aside := Shared.refl (!side) world
  twinAside := Shared.refl (!side) twin
  distinct := wired.distinct
  readers kind queue reader := wired.readers kind queue trivial reader

/-! ## Single changes -/

section Changes
variable {side : Bool} {start twinStart world twin : World}

theorem queue_of_other (distinct : world.connection.streamQueue ≠ world.connection.unaryQueue)
    (side : Bool) : world.queueOf (!side) ≠ world.queueOf side := by
  cases side with
  | true => exact distinct
  | false => exact distinct.symm

theorem Shared.note (shared : Shared side world twin) {event twinEvent : Event}
    (same : seenBy world.connection.unaryQueue side twinEvent =
      seenBy world.connection.unaryQueue side event) :
    Shared side (world.note event) (twin.note twinEvent) :=
  { shared with
    seen := by rw [note_log, note_log, note_connection, observed_cons, observed_cons, same,
      shared.seen] }

/-- The other side does not notice an event that is not about it. -/
theorem Shared.noteAside (shared : Shared side start world) {event : Event}
    (other : eventSide world.connection.unaryQueue event ≠ side) :
    Shared side start (world.note event) :=
  { shared with
    seen := by
      rw [note_log, observed_none, shared.seen]
      rw [← shared.connection, seenBy, if_neg other] }

theorem Shared.setQueue (shared : Shared side world twin) (value : CompletionQueue Tag) :
    Shared side (world.setQueue (world.queueOf side) value)
      (twin.setQueue (world.queueOf side) value) :=
  { shared with
    queue := by
      change Function.update twin.queues (world.queueOf side) value (world.queueOf side) =
        Function.update world.queues (world.queueOf side) value (world.queueOf side)
      rw [Function.update_self, Function.update_self] }

theorem Shared.setQueueAside (shared : Shared side start world)
    (distinct : world.connection.streamQueue ≠ world.connection.unaryQueue)
    (value : CompletionQueue Tag) :
    Shared side start (world.setQueue (world.queueOf (!side)) value) :=
  { shared with
    queue := by
      rw [← shared.queueOf]
      change Function.update world.queues _ value _ = _
      rw [Function.update_of_ne (queue_of_other distinct side).symm, shared.queueOf, shared.queue] }

namespace Beside

variable (beside : Beside side start twinStart world twin)
include beside

theorem twinDistinct : twin.connection.streamQueue ≠ twin.connection.unaryQueue := by
  rw [beside.shared.connection]
  exact beside.distinct

theorem note {event twinEvent : Event}
    (own : eventSide world.connection.unaryQueue event = side)
    (twinOwn : eventSide world.connection.unaryQueue twinEvent = side)
    (same : withoutOther twinEvent = withoutOther event) :
    Beside side start twinStart (world.note event) (twin.note twinEvent) where
  shared := beside.shared.note (by rw [seenBy, seenBy, if_pos own, if_pos twinOwn, same])
  aside := beside.aside.noteAside (by
    rw [own]
    exact (Bool.eq_not_self side).mp)
  twinAside := beside.twinAside.noteAside (by
    rw [beside.shared.connection, twinOwn]
    exact (Bool.eq_not_self side).mp)
  distinct := beside.distinct
  readers := beside.readers

theorem setQueue (value : CompletionQueue Tag) :
    Beside side start twinStart (world.setQueue (world.queueOf side) value)
      (twin.setQueue (twin.queueOf side) value) where
  shared := by
    rw [beside.shared.queueOf]
    exact beside.shared.setQueue value
  aside := by
    have apart := beside.aside.setQueueAside beside.distinct value
    rwa [Bool.not_not] at apart
  twinAside := by
    have apart := beside.twinAside.setQueueAside beside.twinDistinct value
    rwa [Bool.not_not] at apart
  distinct := beside.distinct
  readers := beside.readers

theorem sameQueue : twin.queues (twin.queueOf side) = world.queues (world.queueOf side) := by
  rw [beside.shared.queueOf]
  exact beside.shared.queue

/-- A tag of the side is put on its queue. -/
theorem put {tag : Tag}
    (own : ∀ queue shut, eventSide world.connection.unaryQueue (.started queue shut tag) = side) :
    Beside side start twinStart (world.put (world.queueOf side) tag)
      (twin.put (twin.queueOf side) tag) := by
  unfold World.put
  rw [beside.sameQueue]
  exact (beside.setQueue _).note (own _ _) (own _ _) (by rw [beside.shared.queueOf])

theorem take (tag : Tag) :
    Beside side start twinStart (world.take (world.queueOf side) tag)
      (twin.take (twin.queueOf side) tag) := by
  unfold World.take
  rw [beside.sameQueue]
  exact beside.setQueue _

theorem shutdown :
    Beside side start twinStart (world.shutdown (world.queueOf side))
      (twin.shutdown (twin.queueOf side)) := by
  have own : eventSide world.connection.unaryQueue (.shutdown (world.queueOf side)) = side := by
    cases side with
    | true => exact decide_eq_true rfl
    | false => exact decide_eq_false beside.distinct
  unfold World.shutdown
  rw [beside.sameQueue]
  refine (beside.setQueue _).note own ?_ ?_
  · rw [beside.shared.queueOf]
    exact own
  · rw [beside.shared.queueOf]

end Beside

/-! ### Stream clients and unary tags -/

theorem Beside.setState (beside : Beside false start twinStart world twin) (kind : StreamKind)
    (change : StreamState kind → StreamState kind)
    (reader : ∀ state, (change state).updateReader = state.updateReader) :
    Beside false start twinStart (world.setState kind change) (twin.setState kind change) where
  shared := { beside.shared with
    streams := fun own => by
      change Function.update twin.streams kind _ = Function.update world.streams kind _
      rw [beside.shared.streams own] }
  aside := { beside.aside with streams := fun never => by cases never }
  twinAside := { beside.twinAside with streams := fun never => by cases never }
  distinct := beside.distinct
  readers other queue holds := by
    apply beside.readers other queue
    by_cases same : other = kind
    · subst other
      rw [set_state_same, reader] at holds
      exact holds
    · rwa [World.state, set_state_other world kind change other same] at holds

theorem Beside.state (beside : Beside false start twinStart world twin) (kind : StreamKind) :
    twin.state kind = world.state kind := by
  rw [World.state, World.state, beside.shared.streams rfl]

theorem Beside.allocate (beside : Beside true start twinStart world twin) (origin : Origin) :
    Beside true start twinStart (CallbackRules.allocate origin world)
      (CallbackRules.allocate origin twin) := by
  have counted : Beside true start twinStart ({ world with next := world.next + 1 } : World)
      ({ twin with next := world.next + 1 } : World) := by
    constructor
    · exact { beside.shared with next := fun _ => rfl }
    · exact { beside.aside with next := fun never => by cases never }
    · exact { beside.twinAside with next := fun never => by cases never }
    · exact beside.distinct
    · exact beside.readers
  have made := counted.put (fun _ _ => rfl : ∀ queue shut,
    eventSide world.connection.unaryQueue (.started queue shut (.unary origin world.next)) = true)
  unfold CallbackRules.allocate
  rw [beside.shared.next rfl]
  exact made

end Changes

/-! ## The programs of one side -/

section Programs
variable {side : Bool} {start twinStart : World}

theorem note_agrees {event : Event}
    (own : ∀ unaryQueue, eventSide unaryQueue event = side) :
    Agree (Beside side start twinStart) (note event) (note event) :=
  agree_modify fun world _ beside =>
    beside.note (own world.connection.unaryQueue) (own world.connection.unaryQueue) rfl

theorem collect_agrees (env : Env) (tag : Tag) :
    Agree (Beside side start twinStart) (collect (grpc env) side tag)
      (collect (grpc env) side tag) := by
  apply agree_bind
  · intro world twin beside
    unfold asyncNextTag
    rw [beside.sameQueue]
    split
    · exact .returned () ((beside.take tag).note rfl rfl rfl)
    · exact .stopped Halt.waiting beside
  · intro _
    apply agree_only_if
    rintro rfl
    exact note_agrees fun _ => rfl

theorem shutdown_queue_agrees :
    Agree (Beside side start twinStart) (shutdownQueue side) (shutdownQueue side) :=
  agree_modify fun _ _ beside => beside.shutdown

/-! ### Streams -/

theorem set_state_agrees (kind : StreamKind) (change : StreamState kind → StreamState kind)
    (reader : ∀ state, (change state).updateReader = state.updateReader) :
    Agree (Beside false start twinStart) (setState kind change) (setState kind change) :=
  agree_modify fun _ _ beside => beside.setState kind change reader

theorem stream_update_agrees (kind : StreamKind) (value : Update kind)
    (own : ∀ unaryQueue subscription, eventSide unaryQueue (.update kind subscription value) = false) :
    Agree (Beside false start twinStart) (update kind value) (update kind value) := by
  apply agree_modify
  intro world twin beside
  rw [beside.state kind]
  exact beside.note (own _ _) (own _ _) rfl

theorem through_reader_agrees (kind : StreamKind) (slot : Slot) :
    Agree (Beside false start twinStart) (throughReader kind slot) (throughReader kind slot) := by
  intro world twin beside
  unfold throughReader World.tagOf
  rw [beside.state kind]
  split
  · next queue reader =>
      rw [beside.readers kind queue reader]
      have put := beside.put (fun _ _ => rfl : ∀ queue shut,
        eventSide world.connection.unaryQueue
          (.started queue shut (.stream kind (world.state kind).subscription slot)) = false)
      rw [beside.shared.queueOf] at put
      exact .returned () put
  · exact .stopped Halt.undefined beside

theorem finish_agrees (kind : StreamKind) :
    Agree (Beside false start twinStart) (finish kind) (finish kind) := by
  apply agree_read
  intro world twin beside
  rw [beside.state kind]
  refine agree_ite Iff.rfl (agree_pure ()) (agree_ite Iff.rfl ?_ ?_) world twin beside
  · exact agree_bind (note_agrees fun _ => rfl) fun _ => set_state_agrees kind _ fun _ => rfl
  · exact agree_bind (through_reader_agrees kind .finish) fun _ =>
      set_state_agrees kind _ fun _ => rfl

theorem read_next_agrees (kind : StreamKind) :
    Agree (Beside false start twinStart) (readNext kind) (readNext kind) :=
  agree_bind (stream_update_agrees kind .issued fun _ _ => rfl) fun _ =>
    through_reader_agrees kind .read

/-! ### Unary calls -/

theorem call_unary_async_agrees (origin : Origin) :
    Agree (Beside true start twinStart) (callUnaryAsync origin) (callUnaryAsync origin) :=
  fun _ _ beside => .returned () (beside.allocate origin)

theorem confirm_agrees (env : Env) (kind : StreamKind) (arguments : ConfirmArguments kind) :
    Agree (Beside true start twinStart) (confirm env kind arguments)
      (confirm env kind arguments) := by
  apply agree_bind
  · exact agree_modify fun _ _ beside => beside.note rfl rfl rfl
  · exact fun _ => call_unary_async_agrees .confirm

/-! ### Calls and callbacks -/

/-- The log notes of a unary call whether its own queue was shut. -/
theorem called_alike {call : ApiCall} {world twin : World}
    (beside : Beside (callSide call) start twinStart world twin) :
    withoutOther (.called call twin.unaryShut) = withoutOther (.called call world.unaryShut) := by
  cases call with
  | finish kind => rfl
  | request client =>
      have same : twin.unaryShut = world.unaryShut := congrArg CompletionQueue.shut beside.sameQueue
      rw [same]
  | confirm kind arguments =>
      have same : twin.unaryShut = world.unaryShut := congrArg CompletionQueue.shut beside.sameQueue
      rw [same]

theorem api_call_agrees (env : Env) (origin : Origin) (call : ApiCall)
    (own : callSide call = side) :
    Agree (Beside side start twinStart) (apiCall env origin call) (apiCall env origin call) := by
  subst own
  apply agree_bind (agree_modify fun _ _ beside => beside.note rfl rfl (called_alike beside))
  intro _
  cases call with
  | request client => exact call_unary_async_agrees origin
  | confirm kind arguments => exact confirm_agrees env kind arguments
  | finish kind => exact finish_agrees kind

theorem react_agrees (env : Env) (reaction : Reaction) (keeps : Reaction.KeepsTo side reaction) :
    Agree (Beside side start twinStart) (react env reaction) (react env reaction) := by
  apply agree_bind
  · exact agree_each fun call member => api_call_agrees env .nested call (keeps call member)
  · exact fun _ => agree_only_if fun _ => agree_stop Halt.threw

/-! ### Completions -/

/-- A message lands in the buffer of a stream state, which only its side sees. -/
theorem deliver_agrees (env : Env) (completion : Completion)
    (own : ∀ kind received, completion = .stream kind received → side = false) :
    Agree (Beside side start twinStart) (asyncNext (grpc env) side completion)
      (asyncNext (grpc env) side completion) := by
  intro world twin beside
  unfold asyncNext
  rw [beside.sameQueue]
  split
  · apply Matches.returned
    have taken : Beside side start twinStart
        ((world.take (world.queueOf side) completion.tag).note
          (.delivered side completion world.streamShut world.unaryShut))
        ((twin.take (twin.queueOf side) completion.tag).note
          (.delivered side completion twin.streamShut twin.unaryShut)) := by
      refine (beside.take _).note rfl rfl ?_
      cases side with
      | true =>
          have same : twin.unaryShut = world.unaryShut :=
            congrArg CompletionQueue.shut beside.sameQueue
          simp only [withoutOther, same]
      | false =>
          have same : twin.streamShut = world.streamShut :=
            congrArg CompletionQueue.shut beside.sameQueue
          simp only [withoutOther, same]
    unfold World.deliver World.fillBuffer
    cases completion with
    | unary received => exact taken
    | stream kind received =>
        cases own kind received rfl
        dsimp only
        rw [taken.state kind]
        split
        · exact (taken.setState kind ({ · with updateResponse := received.message })
            fun _ => rfl).note rfl rfl rfl
        · exact taken
  · exact .stopped Halt.waiting beside

theorem mark_agrees (env : Env) (kind : StreamKind) (ok : Bool) (context : ClientContext)
    (change : StreamState kind → StreamState kind)
    (reader : ∀ state, (change state).updateReader = state.updateReader) :
    Agree (Beside false start twinStart)
      (setState kind change >>= fun _ => onlyIf (!ok) (logStreamFailure env context))
      (setState kind change >>= fun _ => onlyIf (!ok) (logStreamFailure env context)) :=
  agree_bind (set_state_agrees kind change reader) fun _ =>
    agree_only_if fun _ => checked_agrees _

theorem on_callback_agrees (env : Env) (kind : StreamKind) (reaction : Reaction)
    (keeps : Reaction.KeepsTo false reaction) :
    Agree (Beside false start twinStart) (onCallback env kind reaction)
      (onCallback env kind reaction) := by
  apply agree_read
  intro world twin beside
  rw [beside.state kind]
  refine agree_bind (stream_update_agrees kind _ fun _ _ => rfl) (fun _ => ?_) world twin beside
  exact agree_bind (react_agrees env reaction keeps) fun _ =>
    stream_update_agrees kind .returned fun _ _ => rfl

theorem process_next_agrees (env : Env)
    (manual : env.configuration.autoconfirmStreamUpdates = false) (kind : StreamKind)
    (completion : StreamCompletion kind) (keeps : Reaction.KeepsTo false completion.reaction) :
    Agree (Beside false start twinStart) (processNext env kind completion)
      (processNext env kind completion) := by
  unfold processNext
  apply agree_ite Iff.rfl
  · exact agree_bind (stream_update_agrees kind .failed fun _ _ => rfl) fun _ => checked_agrees _
  · apply agree_bind (on_callback_agrees env kind completion.reaction keeps)
    intro _
    rw [manual]
    exact agree_bind (agree_pure ()) fun _ => read_next_agrees kind

theorem dispatch_stream_agrees (env : Env)
    (manual : env.configuration.autoconfirmStreamUpdates = false) (kind : StreamKind)
    (completion : StreamCompletion kind) (keeps : Reaction.KeepsTo false completion.reaction) :
    Agree (Beside false start twinStart) (dispatchStream env kind completion)
      (dispatchStream env kind completion) := by
  apply agree_read
  intro world twin beside
  rw [beside.state kind]
  refine agree_ite Iff.rfl (agree_stop Halt.undefined) ?_ world twin beside
  cases completion.slot with
  | start => exact mark_agrees env kind completion.ok completion.context _ fun _ => rfl
  | initMetadata => exact mark_agrees env kind completion.ok completion.context _ fun _ => rfl
  | read => exact process_next_agrees env manual kind completion keeps
  | finish => exact mark_agrees env kind completion.ok completion.context _ fun _ => rfl

theorem dispatch_unary_agrees (env : Env) (completion : UnaryCompletion)
    (keeps : Reaction.KeepsTo true completion.reaction) :
    Agree (Beside true start twinStart) (dispatchUnary env completion)
      (dispatchUnary env completion) := by
  apply agree_bind (checked_agrees _)
  intro status
  apply agree_bind (note_agrees fun _ => rfl)
  exact fun _ => agree_only_if fun _ => react_agrees env completion.reaction keeps

/-- Every move is one side's own. -/
theorem move_agrees (env : Env) (manual : env.configuration.autoconfirmStreamUpdates = false)
    (move : Move) (marshalled : Marshalled move) :
    Agree (Beside (moveSide move) start twinStart) (Move.run env move) (Move.run env move) := by
  cases move with
  | call origin call => exact api_call_agrees env origin call rfl
  | collect unary tag => exact collect_agrees env tag
  | shutdown unary => exact shutdown_queue_agrees
  | event unary completion =>
      have delivered : ∀ kind received, completion = .stream kind received → unary = false := by
        rintro kind received rfl
        cases unary with
        | true => exact marshalled.elim
        | false => rfl
      apply agree_bind (deliver_agrees env completion delivered)
      intro _
      cases unary with
      | true =>
          cases completion with
          | stream kind received => exact marshalled.elim
          | unary received =>
              exact agree_bind (dispatch_unary_agrees env received marshalled) fun _ =>
                note_agrees fun _ => rfl
      | false =>
          cases completion with
          | stream kind received =>
              exact agree_bind (dispatch_stream_agrees env manual kind received marshalled)
                fun _ => agree_pure ()
          | unary received => exact marshalled.elim

end Programs

/-! ## Any interleaving -/

/-- A thread goes on after a move that came back, perhaps with an exception. -/
def makeMove (env : Env) (move : Move) (world : World) : Option World :=
  match Move.run env move world with
  | .returned _ after => some after
  | .stopped .threw after => some after
  | .stopped _ _ => none

theorem make_move_matches {env : Env} {move : Move} {side : Bool} {start twinStart : World}
    {world twin after : World}
    (ended : Matches (Beside side start twinStart) (Move.run env move world)
      (Move.run env move twin)) (made : makeMove env move world = some after) :
    ∃ twinAfter, makeMove env move twin = some twinAfter ∧
      Beside side start twinStart after twinAfter := by
  unfold makeMove at made ⊢
  generalize Move.run env move world = outcome at ended made
  generalize Move.run env move twin = other at ended
  cases ended with
  | returned value ends =>
      cases made
      exact ⟨_, rfl, ends⟩
  | stopped reason ends =>
      cases reason with
      | threw =>
          cases made
          exact ⟨_, rfl, ends⟩
      | _ => cases made

theorem collect_wired (env : Env) (unary : Bool) (tag : Tag) :
    Keeps Wired (fun _ => Wired) (collect (grpc env) unary tag) := by
  intro world wired
  refine wp_collect (grpc env) unary tag wired fun _ => ?_
  rw [wp_only_if]
  split
  · exact ((wired.take _ _).note _).note _
  · exact (wired.take _ _).note _

theorem make_move_wired {env : Env} {move : Move} {world after : World} (wired : Wired world)
    (made : makeMove env move world = some after) : Wired after := by
  have kept : wp (Move.run env move) (fun _ => Wired) (fun _ => Wired) world := by
    cases move with
    | call origin call => exact call_wired env origin call world wired
    | event unary completion => exact event_wired env unary completion world wired
    | collect unary tag => exact collect_wired env unary tag world wired
    | shutdown unary => exact wired.shutdown _
  unfold makeMove at made
  split at made
  · next returned =>
      cases made
      have holds := wp_returned kept returned
      exact holds
  · next threw =>
      cases made
      have holds := wp_stopped kept threw
      exact holds
  · cases made

theorem sides_separated (env : Env)
    (manual : env.configuration.autoconfirmStreamUpdates = false) :
    Separated (makeMove env) moveSide Marshalled Wired Shared where
  refl := Shared.refl
  symm _ _ _ shared := shared.symm
  trans _ _ _ _ first second := first.trans second
  keeps _ _ _ _ wired made := make_move_wired wired made
  own move marshalled world twin wired _ shared after made := by
    obtain ⟨twinAfter, twinMade, ends⟩ := make_move_matches
      (move_agrees env manual move marshalled world twin (Beside.refl shared wired)) made
    exact ⟨twinAfter, twinMade, ends.shared⟩
  unseen move marshalled world after wired made side other := by
    obtain ⟨_, _, ends⟩ := make_move_matches
      (move_agrees env manual move marshalled world world
        (Beside.refl (Shared.refl _ world) wired)) made
    have aside : side = !moveSide move := by
      cases side <;> cases own : moveSide move <;> simp_all
    rw [aside]
    exact ends.aside

/-- Without automatic confirmation the stream thread and the unary threads of a
manager do not interfere. From any reached state, an interleaving of their calls and
completions can be made exactly when each side could make its own alone, and then
each side ends with the queue, the clients and the history it would have alone. -/
theorem threads_do_not_interfere (env : Env)
    (manual : env.configuration.autoconfirmStreamUpdates = false) (connection : IVIConnection)
    (distinct : connection.streamQueue ≠ connection.unaryQueue) (callbacks : IVIStreamCallbacks)
    (actions : List Action) (replies : List Reply) (world : World)
    (reached : Reached (grpc env) connection callbacks actions replies world)
    (moves : List Move) (marshalled : ∀ move ∈ moves, Marshalled move) :
    ((runMoves (makeMove env) moves world).isSome = true ↔
      ∀ side, (runMoves (makeMove env) (ownMoves moveSide side moves) world).isSome = true) ∧
    ∀ after, runMoves (makeMove env) moves world = some after → ∀ side,
      ∃ alone, runMoves (makeMove env) (ownMoves moveSide side moves) world = some alone ∧
        Shared side after alone := by
  have wired := reached_wired distinct reached
  have separated := sides_separated env manual
  constructor
  · exact separated.possible_iff marshalled wired
  · intro after ran side
    exact separated.alone marshalled wired wired (Shared.refl side world) ran

/-! ### Two threads -/

/-- `defaultEnv` with messages left to the application to confirm. -/
def manualEnv : Env :=
  { defaultEnv with
    configuration := { defaultEnv.configuration with autoconfirmStreamUpdates := false } }

/-- A message arrives between a request and its answer, which arrives before the
message is confirmed. -/
def interleaved : List Move :=
  [.call .direct (.request .item),
    .event false (.stream .item { subscription := 7, slot := .read, ok := true }),
    .event true (.unary { origin := .direct, id := 11, ok := true }),
    .call .direct (.confirm .item (confirmArguments .item default)),
    .event false (.stream .item { subscription := 7, slot := .start, ok := true })]

theorem interleaved_threads_separate :
    manualEnv.configuration.autoconfirmStreamUpdates = false ∧
    newConnection.streamQueue ≠ newConnection.unaryQueue ∧
    (∀ move ∈ interleaved, Marshalled move) ∧
    ∃ world, Reached (grpc manualEnv) newConnection itemCallbacks [] [] world ∧
      ∃ after, runMoves (makeMove manualEnv) interleaved world = some after ∧ ∀ side,
        ∃ alone, runMoves (makeMove manualEnv) (ownMoves moveSide side interleaved) world =
            some alone ∧ Shared side after alone := by
  have marshalled : ∀ move ∈ interleaved, Marshalled move := by
    simp [interleaved, Marshalled, Reaction.KeepsTo]
  have reached : Reached (grpc manualEnv) newConnection itemCallbacks [] [] _ :=
    ⟨_, Outcome.eq_returned (by decide +kernel), rfl⟩
  have separate := threads_do_not_interfere manualEnv rfl newConnection new_connection_distinct
    itemCallbacks [] [] _ reached interleaved marshalled
  obtain ⟨after, ran⟩ := Option.isSome_iff_exists.mp (show
    (runMoves (makeMove manualEnv) interleaved
      (construct manualEnv itemCallbacks (World.before newConnection)).world).isSome = true
        by decide +kernel)
  exact ⟨rfl, new_connection_distinct, marshalled, _, reached, after, ran, separate.2 after ran⟩

end IviSdk.ThreadSeparation
