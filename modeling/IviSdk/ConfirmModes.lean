import IviSdk.PairedRuns
import IviSdk.EnumWidths

/-!
`autoconfirmStreamUpdates = false` asks the application to call `Confirm` itself
and to poll by hand. An application whose stream callbacks end with the `Confirm`
of the update they were handed, and which polls as `Poll` does behind its check,
has the same runs as one that leaves confirming to the SDK.
-/

namespace IviSdk.ConfirmModes

open Checks CompletionQueues Streams Messages Models ManagerWorld Interaction StreamClients
open ClientManager CallbackRules QueueWiring UpdateOrder EnumWidths PairedPrograms PairedRuns

def withAutoconfirm (autoconfirm : Bool) (env : Env) : Env :=
  { env with configuration :=
      { env.configuration with autoconfirmStreamUpdates := autoconfirm } }

/-! ## Confirming by hand -/

/-- What an application knows of an update is enough to confirm it. -/
def confirmUpdate : (kind : StreamKind) → ParsedMessageT kind → ConfirmArguments kind
  | .item => fun (update : IVIItemStatusUpdate) =>
      .item update.gameInventoryId update.trackingId update.itemState
  | .itemType => fun (update : IVIItemTypeStatusUpdate) =>
      .itemType update.gameItemTypeId update.trackingId update.itemTypeState
  | .order => fun (update : IVIOrderStatusUpdate) => .order update.orderId update.orderState
  | .player => fun (update : IVIPlayerStatusUpdate) =>
      .player update.playerId update.trackingId update.playerState

theorem confirm_update_parsed (kind : StreamKind) (message : MessageT kind) :
    confirmUpdate kind (fromProto kind message) = confirmArguments kind message := by
  cases kind <;> rfl

/-- The callback of a message that also confirms it, unless it throws. -/
def confirmingReaction (kind : StreamKind) (completion : StreamCompletion kind) : Reaction :=
  if completion.reaction.throws then completion.reaction
  else { calls := completion.reaction.calls ++
    [.confirm kind (confirmUpdate kind (fromProto kind completion.message))] }

def confirmingReactionOf : Completion → Reaction
  | .stream kind completion => confirmingReaction kind completion
  | .unary completion => completion.reaction

def confirming (completion : Completion) : Completion :=
  withReaction (confirmingReactionOf completion) completion

/-- What the two ways have in common: everything but who asked for a confirmation
and when the callback returned. -/
def shown : Event → Option Event
  | .called (.confirm _ _) _ => none
  | .update _ _ .returned => none
  | .delivered unary completion streamShut unaryShut =>
      some (.delivered unary (withReaction {} completion) streamShut unaryShut)
  | event => some event

theorem shown_delivered (completion : Completion) (reaction : Reaction)
    (unary streamShut unaryShut : Bool) :
    shown (.delivered unary (withReaction reaction completion) streamShut unaryShut) =
      shown (.delivered unary completion streamShut unaryShut) := by
  cases completion <;> rfl

/-! ## A message, either way -/

section Message
variable {env : Env} {kind : StreamKind}

/-- The message in the buffer is handed to the callback. -/
def handMessage (kind : StreamKind) : Manager Unit := do
  let world ← read
  update kind (.invoked (fromProto kind (world.state kind).updateResponse))

theorem hand_message_agrees (kind : StreamKind) :
    Agree (Alike shown) (handMessage kind) (handMessage kind) := by
  refine agree_read fun world twin alike => ?_
  rw [alike.state kind]
  exact update_agrees kind _ world twin alike

theorem hand_message_keeps (kind : StreamKind) (subscription : Nat) (message : MessageT kind) :
    Keeps (InBuffer kind subscription message) (fun _ _ => True) (handMessage kind) :=
  fun _ inBuffer => ⟨inBuffer.current, inBuffer.buffer⟩

/-- `ProcessNext` on a message, as one sequence. -/
theorem process_message_eq (env : Env) (completion : StreamCompletion kind)
    (ok : completion.ok = true) :
    processNext env kind completion = (do
      handMessage kind
      each (apiCall env .nested) completion.reaction.calls
      onlyIf completion.reaction.throws (stop .threw)
      update kind .returned
      onlyIf env.configuration.autoconfirmStreamUpdates (sendConfirm env kind)
      readNext kind) := by
  simp only [processNext, ok, onCallback, react, handMessage, program_bind_assoc, Bool.not_true,
    Bool.false_eq_true, ↓reduceIte]

theorem automatic_counterparts (env : Env) :
    Counterparts shown (withAutoconfirm true env) (withAutoconfirm false env) where
  environmentId := rfl
  errorLoopMax := rfl
  clientChecks := checked_agrees (clientChecks env)

/-- The world after a message was confirmed. -/
def confirmed (env : Env) (kind : StreamKind) (message : MessageT kind) (world : World) : World :=
  allocate .confirm (world.note
    (.update kind (world.state kind).subscription (.confirmed (confirmation env kind message))))

theorem confirmed_alike {world twin : World} (alike : Alike shown world twin)
    (message : MessageT kind) :
    Alike shown (confirmed env kind message world) (confirmed env kind message twin) := by
  unfold confirmed
  rw [alike.state kind]
  exact (alike.note rfl).allocate .confirm

/-- The confirmation the SDK sends after the callback is the one the callback
asks for as its last call. -/
theorem confirmation_matches {subscription : Nat} {message : MessageT kind}
    {world twin : World} (alike : Alike shown world twin)
    (inBuffer : InBuffer kind subscription message world) :
    Matches (Alike shown)
      ((do
        update kind .returned
        sendConfirm (withAutoconfirm true env) kind
        readNext kind : Manager Unit) world)
      ((do
        each (apiCall (withAutoconfirm false env) .nested)
          [.confirm kind (confirmUpdate kind (fromProto kind message))]
        update kind .returned
        readNext kind : Manager Unit) twin) := by
  rw [confirm_update_parsed]
  let call := ApiCall.confirm kind (confirmArguments kind message)
  have automatic : (update kind .returned >>= fun _ =>
      sendConfirm (withAutoconfirm true env) kind) world = .returned () (confirmed env kind message
        (world.note (.update kind (world.state kind).subscription .returned))) := by
    rw [← inBuffer.buffer]
    rfl
  have manual : (each (apiCall (withAutoconfirm false env) .nested) [call] >>= fun _ =>
      update kind .returned) twin = .returned () ((confirmed env kind message
        (twin.note (.called call twin.unaryShut))).note
          (.update kind (twin.state kind).subscription .returned)) := rfl
  have notes : Alike shown (world.note (.update kind (world.state kind).subscription .returned))
      (twin.note (.called call twin.unaryShut)) := (alike.noteLeft rfl).noteRight rfl
  rw [← program_bind_assoc, ← program_bind_assoc, bind_of_returned automatic,
    bind_of_returned manual]
  exact read_next_agrees kind _ _ ((confirmed_alike notes message).noteRight rfl)

/-- Up to the calls of the callback both ways do the same, and the message stays
in the buffer. -/
theorem message_matches (completion : StreamCompletion kind) (ok : completion.ok = true)
    {world twin : World} (alike : Alike shown world twin)
    (inBuffer : InBuffer kind completion.subscription completion.message world) :
    Matches (Alike shown) (processNext (withAutoconfirm true env) kind completion world)
      (processNext (withAutoconfirm false env) kind
        { completion with reaction := confirmingReaction kind completion } twin) := by
  have settings := automatic_counterparts env
  have calls : Agree (Alike shown)
      (each (apiCall (withAutoconfirm true env) .nested) completion.reaction.calls)
      (each (apiCall (withAutoconfirm false env) .nested) completion.reaction.calls) :=
    agree_each fun call _ => api_call_agrees settings .nested call
  rw [process_message_eq _ completion ok, process_message_eq (withAutoconfirm false env)
    { completion with reaction := confirmingReaction kind completion } ok]
  refine (hand_message_agrees kind _ _ alike).bind fun _ after twinAfter handed alike => ?_
  have inBuffer := wp_returned (hand_message_keeps kind _ _ world inBuffer) handed
  cases throws : completion.reaction.throws with
  | true =>
      have same : confirmingReaction kind completion = completion.reaction := if_pos throws
      rw [same, throws]
      exact (calls _ _ alike).bind fun _ _ _ _ alike => .stopped Halt.threw alike
  | false =>
      have more : confirmingReaction kind completion = { calls := completion.reaction.calls ++
          [.confirm kind (confirmUpdate kind (fromProto kind completion.message))] } :=
        if_neg (by simp [throws])
      rw [more]
      dsimp only
      rw [each_append, program_bind_assoc]
      refine (calls _ _ alike).bind fun _ last _ called alike => ?_
      have stays : Keeps (InBuffer kind completion.subscription completion.message)
          (fun _ _ => True) (each (apiCall (withAutoconfirm true env) .nested)
            completion.reaction.calls) :=
        keeps_each fun call _ => call_in_buffer _ .nested call
      have inBuffer := wp_returned (stays after inBuffer) called
      exact confirmation_matches alike inBuffer

end Message

/-! ## Runs, either way -/

theorem events_agree (env : Env) :
    EventsAgree shown (fun _ => True) confirming (grpc (withAutoconfirm true env))
      (grpc (withAutoconfirm false env)) where
  settings := automatic_counterparts env
  admits := rfl
  ok completion := by cases completion <;> rfl
  event unary completion _ := by
    have agrees := @event_agrees _ shown (grpc (withAutoconfirm true env))
      (grpc (withAutoconfirm false env)) rfl unary completion (confirmingReactionOf completion)
      (shown_delivered completion _ unary)
    refine agrees ?_
    intro before twinAfter alike
    cases completion with
    | unary completion =>
        exact dispatch_unary_agrees (automatic_counterparts env) completion (checked_agrees _) _ _
          alike
    | stream kind completion =>
        refine dispatch_stream_matches alike (confirmingReaction kind completion)
          (fun _ => checked_agrees _) fun slot ok current => ?_
        have before : completion.subscription = (before.state kind).subscription := by
          rw [current]
          exact (deliver_frame unary (.stream kind completion) before).subscriptions kind
        exact message_matches completion ok alike
          (delivered_in_buffer unary completion slot ok _ before)

/-- Confirming by hand makes no difference: an application whose stream callbacks
confirm the update they were handed as their last call, and which polls both
queues and reinitialises as `Poll` does, gets the same replies, sends the same
requests and confirmations in the same order and finds the same queues and clients
as one that leaves confirming to the SDK. -/
theorem manual_confirmation_equivalent (env : Env) (callbacks : IVIStreamCallbacks)
    (connection : IVIConnection) :
    construct (withAutoconfirm false env) callbacks (World.before connection) =
      construct (withAutoconfirm true env) callbacks (World.before connection) ∧
    ∀ (actions : List Action) (first : World),
      Option.Rel (SameReplies shown) (run (grpc (withAutoconfirm true env)) actions [] first)
        (runWith (actWith (pollQueues (grpc (withAutoconfirm false env)))
          (grpc (withAutoconfirm false env))) (actions.map (translateAction confirming)) []
            first) := by
  refine ⟨rfl, fun actions first => ?_⟩
  have rules := events_agree env
  have polls : poll (grpc (withAutoconfirm true env)) =
      pollQueues (grpc (withAutoconfirm true env)) := rfl
  rw [← run_with_act, ← act_with_poll, polls]
  refine runs_agree (fun action meets => act_agrees rules ?_ action meets) actions ?_ []
    (alike_refl shown first)
  · exact fun channelState unaryPasses streamPasses => poll_queues_agrees rules channelState
  · intro action _
    cases action <;> simp [ActionMeets, PassesMeet]

end IviSdk.ConfirmModes
