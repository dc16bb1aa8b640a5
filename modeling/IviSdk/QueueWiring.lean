import IviSdk.ManagerRuns

/-!
How tags, readers and queues hang together while the connection has two queues.
The unary queue holds tags of unary calls, each once; the stream queue holds
tags of the current subscriptions; and every reader was made for the stream
queue the connection has now. The constructor establishes this and every action
keeps it.
-/

namespace IviSdk.QueueWiring

open Checks CompletionQueues Streams ManagerWorld Interaction StreamClients ClientManager
open CallbackRules PollRules ManagerRuns

/-- The wiring, with the stream clients built so far. -/
structure WiredFor (ready : StreamKind → Prop) (world : World) : Prop where
  distinct : world.connection.streamQueue ≠ world.connection.unaryQueue
  streamKnown : world.connection.streamQueue < world.next
  unaryKnown : world.connection.unaryQueue < world.next
  unaryOwned : ∀ tag ∈ world.pending world.connection.unaryQueue,
    ∃ origin id, tag = .unary origin id ∧ id < world.next
  unaryOnce : (world.pending world.connection.unaryQueue).Nodup
  streamOwned : ∀ tag ∈ world.pending world.connection.streamQueue, ∃ kind slot,
    ready kind ∧ tag = world.tagOf kind slot ∧ (world.state kind).updateReader.isSome = true
  readers : ∀ kind queue, ready kind → (world.state kind).updateReader = some queue →
    queue = world.connection.streamQueue
  metadata : ∀ kind, ready kind → (world.state kind).initMetadataReceived = true →
    (world.state kind).updateReader.isSome = true

/-- The wiring of a manager all of whose stream clients are built. -/
abbrev Wired (world : World) : Prop := WiredFor (fun _ => True) world

variable {ready : StreamKind → Prop} {world : World}

/-! ## Single changes -/

theorem WiredFor.note (wired : WiredFor ready world) (event : Event) :
    WiredFor ready (world.note event) := { wired with }

theorem WiredFor.shutdown (wired : WiredFor ready world) (queue : QueueId) :
    WiredFor ready (world.shutdown queue) where
  distinct := wired.distinct
  streamKnown := wired.streamKnown
  unaryKnown := wired.unaryKnown
  unaryOwned tag := by
    rw [shutdown_pending]
    exact wired.unaryOwned tag
  unaryOnce := by
    rw [shutdown_pending]
    exact wired.unaryOnce
  streamOwned tag := by
    rw [shutdown_pending]
    exact wired.streamOwned tag
  readers := wired.readers
  metadata := wired.metadata

theorem take_subset (queue other : QueueId) (taken tag : Tag)
    (member : tag ∈ (world.take queue taken).pending other) : tag ∈ world.pending other := by
  rw [take_pending] at member
  split at member
  · next same =>
      rw [same]
      exact List.mem_of_mem_erase member
  · exact member

theorem WiredFor.take (wired : WiredFor ready world) (queue : QueueId) (tag : Tag) :
    WiredFor ready (world.take queue tag) where
  distinct := wired.distinct
  streamKnown := wired.streamKnown
  unaryKnown := wired.unaryKnown
  unaryOwned other member := wired.unaryOwned other (take_subset _ _ _ _ member)
  unaryOnce := by
    rw [take_pending]
    split
    · next same =>
        rw [← same]
        exact wired.unaryOnce.erase tag
    · exact wired.unaryOnce
  streamOwned other member := wired.streamOwned other (take_subset _ _ _ _ member)
  readers := wired.readers
  metadata := wired.metadata

/-- A change of flags or of the message buffer. Initial metadata arrives only
through a reader. -/
theorem WiredFor.setState (wired : WiredFor ready world) (kind : StreamKind)
    (change : StreamState kind → StreamState kind)
    (subscription : ∀ state, (change state).subscription = state.subscription)
    (reader : ∀ state, (change state).updateReader = state.updateReader)
    (metadata : (change (world.state kind)).initMetadataReceived = true →
      (world.state kind).initMetadataReceived = true ∨
        (world.state kind).updateReader.isSome = true) :
    WiredFor ready (world.setState kind change) := by
  have framed := (Frame.refl world).setState kind change subscription reader
  have tags : ∀ other slot, (world.setState kind change).tagOf other slot =
      world.tagOf other slot := by
    intro other slot
    unfold World.tagOf
    rw [framed.subscriptions]
  refine ⟨wired.distinct, wired.streamKnown, wired.unaryKnown, wired.unaryOwned,
    wired.unaryOnce, ?_, ?_, ?_⟩
  · intro tag member
    obtain ⟨other, slot, built, own, readable⟩ := wired.streamOwned tag member
    exact ⟨other, slot, built, by rw [tags, own], by rwa [framed.readers]⟩
  · intro other queue built
    rw [framed.readers]
    exact wired.readers other queue built
  · intro other built received
    rw [framed.readers]
    by_cases equal : other = kind
    · subst other
      rw [set_state_same] at received
      rcases metadata received with before | readable
      · exact wired.metadata _ built before
      · exact readable
    · unfold World.state at received
      rw [set_state_other world kind change other equal] at received
      exact wired.metadata other built received

theorem WiredFor.putStream (wired : WiredFor ready world) {kind : StreamKind} {queue : QueueId}
    (slot : Slot) (built : ready kind) (reader : (world.state kind).updateReader = some queue) :
    WiredFor ready (world.put queue (world.tagOf kind slot)) := by
  have known : queue = world.connection.streamQueue := wired.readers kind queue built reader
  have elsewhere : (world.put queue (world.tagOf kind slot)).pending world.connection.unaryQueue =
      world.pending world.connection.unaryQueue := by
    rw [put_pending, if_neg (by rw [known]; exact wired.distinct.symm)]
  refine ⟨wired.distinct, wired.streamKnown, wired.unaryKnown, ?_, ?_, ?_, wired.readers,
    wired.metadata⟩
  · intro tag member
    exact wired.unaryOwned tag (elsewhere ▸ member)
  · exact elsewhere ▸ wired.unaryOnce
  · intro tag member
    rw [put_connection, put_pending, if_pos known.symm] at member
    rcases List.mem_cons.mp member with new | old
    · exact ⟨kind, slot, built, new, by
        change (world.state kind).updateReader.isSome = true
        rw [reader]
        rfl⟩
    · exact wired.streamOwned tag (known ▸ old)

theorem WiredFor.allocate (wired : WiredFor ready world) (origin : Origin) :
    WiredFor ready (allocate origin world) := by
  refine ⟨wired.distinct, Nat.lt_succ_of_lt wired.streamKnown,
    Nat.lt_succ_of_lt wired.unaryKnown, ?_, ?_, ?_, wired.readers, wired.metadata⟩
  · intro tag member
    rw [allocate_connection, allocate_pending, if_pos rfl] at member
    rcases List.mem_cons.mp member with new | old
    · exact ⟨origin, world.next, new, Nat.lt_succ_self _⟩
    · obtain ⟨other, id, own, earlier⟩ := wired.unaryOwned tag old
      exact ⟨other, id, own, Nat.lt_succ_of_lt earlier⟩
  · rw [allocate_connection, allocate_pending, if_pos rfl]
    refine List.nodup_cons.mpr ⟨?_, wired.unaryOnce⟩
    intro member
    obtain ⟨other, id, own, earlier⟩ := wired.unaryOwned _ member
    cases own
    exact absurd earlier (Nat.lt_irrefl _)
  · intro tag member
    rw [allocate_connection, allocate_pending, if_neg wired.distinct] at member
    exact wired.streamOwned tag member

/-! ## Callbacks -/

theorem finish_wired (kind : StreamKind) : Keeps Wired (fun _ => Wired) (finish kind) := by
  intro world wired
  apply finish_rule kind
  · exact fun _ => wired
  · intro _ _
    exact (wired.note _).setState kind _ (fun _ => rfl) (fun _ => rfl) .inl
  · intro _ queue reader
    exact (wired.putStream .finish trivial reader).setState kind _ (fun _ => rfl) (fun _ => rfl)
      .inl
  · exact fun _ _ => wired

theorem call_wired (env : Env) (origin : Origin) (call : ApiCall) :
    Keeps Wired (fun _ => Wired) (apiCall env origin call) := by
  intro world wired
  have called := wired.note (.called call world.unaryShut)
  apply api_call_rule env origin call
  · exact fun _ _ => called.allocate origin
  · exact fun _ _ _ _ => (called.note _).allocate .confirm
  · exact fun kind _ => finish_wired kind _ called

/-- The tag of a stream call is in hand, so its reader exists. -/
def Heard (completion : Completion) (world : World) : Prop :=
  ∀ kind received, completion = .stream kind received →
    (world.state kind).updateReader.isSome = true

theorem Heard.frame {completion : Completion} {before after : World}
    (heard : Heard completion before) (framed : Frame before after) : Heard completion after := by
  intro kind received same
  rw [framed.readers]
  exact heard kind received same

theorem call_wired_heard (env : Env) (completion : Completion) (call : ApiCall) :
    Keeps (fun world => Wired world ∧ Heard completion world) (fun _ => Wired)
      (apiCall env .nested call) :=
  fun world both => wp_mono (wp_and (call_wired env .nested call world both.1)
    (api_call_frame env world .nested call world (Frame.refl world)))
    (fun _ _ kept => ⟨kept.1, both.2.frame kept.2⟩) fun _ _ kept => kept.1

theorem mark_wired_heard {completion : Completion} {kind : StreamKind}
    {received : StreamCompletion kind} (same : completion = .stream kind received)
    (change : StreamState kind → StreamState kind)
    (subscription : ∀ state, (change state).subscription = state.subscription)
    (reader : ∀ state, (change state).updateReader = state.updateReader)
    (both : Wired world ∧ Heard completion world) :
    Wired (world.setState kind change) ∧ Heard completion (world.setState kind change) :=
  ⟨both.1.setState kind change subscription reader fun _ => .inr (both.2 kind received same),
    both.2.frame ((Frame.refl world).setState kind change subscription reader)⟩

theorem dispatch_wired (env : Env) (completion : Completion) :
    DispatchKept env anyManners completion (fun world => Wired world ∧ Heard completion world)
      (fun _ => Wired) where
  threw _ _ both := both.1
  exited _ both := both.1
  undefined _ both := both.1
  call call _ := call_wired_heard env completion call
  update _ _ _ _ _ _ _ both := ⟨both.1.note _, both.2⟩
  completed _ _ _ _ both := ⟨both.1.note _, both.2⟩
  startReceived _ _ same _ _ both := mark_wired_heard same _ (fun _ => rfl) (fun _ => rfl) both
  initMetadataReceived _ _ same _ _ both :=
    mark_wired_heard same _ (fun _ => rfl) (fun _ => rfl) both
  finishResponded _ _ same _ _ both := mark_wired_heard same _ (fun _ => rfl) (fun _ => rfl) both
  confirms _ _ _ _ _ _ _ both := ⟨both.1.allocate _, both.2⟩
  reads _ _ _ _ _ _ _ both reader := ⟨both.1.putStream .read trivial reader, both.2⟩

/-! ## Events -/

theorem deliver_wired (unary : Bool) (completion : Completion) (wired : Wired world) :
    Wired (world.deliver unary completion) :=
  deliver_rule unary completion world Wired ((wired.take _ _).note _)
    fun kind received _ wired _ =>
      (wired.setState kind ({ · with updateResponse := received.message }) (fun _ => rfl)
        (fun _ => rfl) .inl).note _

theorem deliver_frame (unary : Bool) (completion : Completion) (world : World) :
    Frame world (world.deliver unary completion) := by
  refine deliver_rule unary completion world (Frame world ·)
    (((Frame.refl world).take _ _).note _) ?_
  exact fun kind received _ framed _ =>
    (framed.setState kind ({ · with updateResponse := received.message }) (fun _ => rfl)
      fun _ => rfl).note _

/-- One event replaces and shuts no queue and rebuilds no client. -/
theorem event_frame (runtime : Runtime) (unary : Bool) (completion : Completion) (world : World) :
    wp (processEvent runtime unary completion) (fun _ => Frame world) (fun _ => Frame world)
      world := by
  exact event_keeps (frame_dispatch runtime.toEnv completion world) (any_manners_allow completion)
    (Frame.refl world) (fun _ => deliver_frame unary completion world)
    fun _ framed => framed.note _

/-- Nor does `Poll<Unary>` when its first pass sees no failure. -/
theorem poll_queue_frame (runtime : Runtime) (unary : Bool) (passes : List Pass) (world : World) :
    wp (pollQueue runtime unary passes) (fun failed after => failed = false → Frame world after)
      (fun _ _ => True) world := by
  cases passes with
  | nil => trivial
  | cons pass rest =>
      have event : ∀ completion ∈ pass.events,
          Keeps (Frame world) (fun _ _ => True) (processEvent runtime unary completion) := by
        intro completion _ after framed
        exact wp_partial (event_frame runtime unary completion after)
          fun _ _ next => framed.trans next
      rw [pollQueue, wp_bind]
      apply wp_partial (process_queue_lifts (fun _ _ => trivial) event world (Frame.refl world))
      intro polled after framed
      rw [wp_bind, wp_only_if]
      split
      · next failed =>
          apply wp_partial (wp_true _ after)
          intro _ _ _ fine
          exact absurd failed (by simp [fine])
      · intro _
        exact framed

/-- The unary queue hands out no tag of a stream call. -/
theorem stream_tag_on_unary {env : Env} {kind : StreamKind} {received : StreamCompletion kind}
    {normal : Unit → World → Prop} {abrupt : Halt → World → Prop} (wired : Wired world)
    (waits : abrupt .waiting world) :
    wp (processEvent (grpc env) true (.stream kind received)) normal abrupt world := by
  refine absent_event (fun pending => ?_) waits
  obtain ⟨origin, id, own, _⟩ := wired.unaryOwned _ pending
  cases own

/-- The stream queue hands out no tag of a unary call. -/
theorem unary_tag_on_stream {env : Env} {received : UnaryCompletion}
    {normal : Unit → World → Prop} {abrupt : Halt → World → Prop} (wired : Wired world)
    (waits : abrupt .waiting world) :
    wp (processEvent (grpc env) false (.unary received)) normal abrupt world := by
  refine absent_event (fun pending => ?_) waits
  obtain ⟨kind, slot, _, own, _⟩ := wired.streamOwned _ pending
  cases own

theorem deliver_heard {env : Env} {unary : Bool} {completion : Completion} (wired : Wired world)
    (admitted : (grpc env).admits (world.queues (world.queueOf unary))
      (.gotEvent completion.tag) = true) :
    Heard completion (world.deliver unary completion) := by
  refine Heard.frame ?_ (deliver_frame unary completion world)
  intro kind received same
  have pending := admitted_pending admitted
  subst same
  cases unary with
  | true =>
      obtain ⟨origin, id, own, _⟩ := wired.unaryOwned _ pending
      cases own
  | false =>
      obtain ⟨other, slot, _, own, readable⟩ := wired.streamOwned _ pending
      simp only [Completion.tag, World.tagOf, Tag.stream.injEq] at own
      rw [own.1]
      exact readable

theorem event_wired (env : Env) (unary : Bool) (completion : Completion) :
    Keeps Wired (fun _ => Wired) (processEvent (grpc env) unary completion) := by
  intro world wired
  refine wp_mono (event_keeps (dispatch_wired env completion) (any_manners_allow completion) wired
    ?_ ?_) (fun _ _ both => both.1) fun _ _ stopped => stopped
  · exact fun admitted => ⟨deliver_wired unary completion wired, deliver_heard wired admitted⟩
  · exact fun _ both => ⟨both.1.note _, both.2⟩

/-- One event in a wired manager. While the tag is in hand and after it was
dispatched, properties of their own hold. -/
theorem event_rule_wired {env : Env} {unary : Bool} {completion : Completion}
    {kept inHand dispatched : World → Prop} {abrupt : Halt → World → Prop}
    (waits : ∀ world, kept world → abrupt .waiting world)
    (taken : ∀ world, Wired world → kept world →
      completion.tag ∈ world.pending (world.queueOf unary) →
      inHand (world.deliver unary completion))
    (dispatches : ∀ world, Wired world → Heard completion world → Announced completion world →
      inHand world → wp (dispatch env completion) (fun _ => dispatched) abrupt world)
    (deleted : unary = true → ∀ world, Wired world → dispatched world →
      kept (world.note (.deleted completion.tag)))
    (ended : unary = false → ∀ world, dispatched world → kept world)
    (world : World) (wired : Wired world) (holds : kept world) :
    wp (processEvent (grpc env) unary completion) (fun _ => kept) abrupt world := by
  rw [processEvent, wp_bind]
  refine wp_async_next (grpc env) unary completion (waits world holds) fun admitted => ?_
  have announced := deliver_announces unary completion world
  have delivered := deliver_wired unary completion wired
  have heard := deliver_heard wired admitted
  rw [wp_bind]
  refine wp_mono (wp_and (dispatch_keeps (dispatch_wired env completion)
    (any_manners_allow completion) announced ⟨delivered, heard⟩)
    (dispatches _ delivered heard announced (taken world wired holds (admitted_pending admitted))))
    ?_ fun _ _ stopped => stopped.2
  rintro _ after ⟨⟨wired, _⟩, holds⟩
  -- The unary instantiation deletes what it dispatched.
  rw [wp_only_if]
  cases side : unary with
  | true => exact deleted side after wired holds
  | false => exact ended side after holds

/-- The same when one property holds from the delivery to the end of the dispatch. -/
theorem event_over_wired {env : Env} {manners : Manners} {unary : Bool} {completion : Completion}
    {kept inHand : World → Prop} {abrupt : Halt → World → Prop}
    (polite : manners.Allows completion)
    (waits : ∀ world, kept world → abrupt .waiting world)
    (taken : ∀ world, Wired world → kept world →
      completion.tag ∈ world.pending (world.queueOf unary) →
      inHand (world.deliver unary completion))
    (rules : DispatchKeptOver env manners completion
      (fun world => Wired world ∧ Heard completion world) inHand abrupt)
    (deleted : unary = true → ∀ world, Wired world → inHand world →
      kept (world.note (.deleted completion.tag)))
    (ended : unary = false → ∀ world, inHand world → kept world)
    (world : World) (wired : Wired world) (holds : kept world) :
    wp (processEvent (grpc env) unary completion) (fun _ => kept) abrupt world := by
  refine event_rule_wired waits taken ?_ deleted ended world wired holds
  intro after wired heard announced holds
  exact wp_mono (dispatch_keeps (((dispatch_wired env completion).restrict manners).over rules)
    polite announced ⟨⟨wired, heard⟩, holds⟩) (fun _ _ both => both.2) fun _ _ stopped => stopped.2

theorem queue_wired (env : Env) (unary : Bool) :
    QueueKept (grpc env) unary anyManners Wired (fun _ => Wired) where
  waiting _ wired := wired
  unfinished _ wired := wired
  event completion _ := event_wired env unary completion
  finish _ kind := finish_wired kind
  shutdown _ wired _ := wired.shutdown _
  draining _ wired := wired.note _
  finishAgain _ wired := wired.note _
  verdict _ _ wired := wired.note _

/-! ## Building clients -/

/-- A process that exits while clients are rebuilt leaves them half built. -/
def UnlessExited (kept : World → Prop) (reason : Halt) (world : World) : Prop :=
  reason ≠ .exited → kept world

theorem new_queue_pending (world : World) (queue : QueueId) (value : CompletionQueue Tag)
    (other : QueueId) : (world.setQueue queue value).pending other =
      if other = queue then value.pending else world.pending other := by
  by_cases same : other = queue
  · subst other
    simp [World.setQueue, World.pending]
  · simp [World.setQueue, World.pending, same]

@[simp] theorem wp_new_queue {normal : QueueId → World → Prop} {abrupt : Halt → World → Prop} :
    wp newQueue normal abrupt world ↔
      normal world.next
        (({ world with next := world.next + 1 } : World).setQueue world.next {}) := by
  simp [newQueue]

/-- The world in which the connection has just been given a new unary queue. -/
def renewUnary (world : World) : World :=
  { (({ world with next := world.next + 1 } : World).setQueue world.next {}) with
    connection := { world.connection with unaryQueue := world.next } }

/-- The same for the stream queue. -/
def renewStream (world : World) : World :=
  { (({ world with next := world.next + 1 } : World).setQueue world.next {}) with
    connection := { world.connection with streamQueue := world.next } }

theorem WiredFor.renewUnary (wired : WiredFor ready world) :
    WiredFor ready (renewUnary world) := by
  refine ⟨Nat.ne_of_lt wired.streamKnown, Nat.lt_succ_of_lt wired.streamKnown,
    Nat.lt_succ_self _, ?_, ?_, ?_, wired.readers, wired.metadata⟩
  · intro tag member
    change tag ∈ (World.setQueue _ world.next {}).pending world.next at member
    rw [new_queue_pending, if_pos rfl] at member
    cases member
  · change ((World.setQueue _ world.next {}).pending world.next).Nodup
    rw [new_queue_pending, if_pos rfl]
    exact List.nodup_nil
  · intro tag member
    change tag ∈ (World.setQueue _ world.next {}).pending world.connection.streamQueue at member
    rw [new_queue_pending, if_neg (Nat.ne_of_lt wired.streamKnown)] at member
    exact wired.streamOwned tag member

/-- Nothing is known of the stream clients while they still have the old queue. -/
theorem WiredFor.renewStream (wired : WiredFor ready world) :
    WiredFor (fun _ => False) (renewStream world) := by
  refine ⟨(Nat.ne_of_lt wired.unaryKnown).symm, Nat.lt_succ_self _,
    Nat.lt_succ_of_lt wired.unaryKnown, ?_, ?_, ?_, fun _ _ never => never.elim,
    fun _ never => never.elim⟩
  · intro tag member
    change tag ∈ (World.setQueue _ world.next {}).pending world.connection.unaryQueue at member
    rw [new_queue_pending, if_neg (Nat.ne_of_lt wired.unaryKnown)] at member
    obtain ⟨origin, id, own, earlier⟩ := wired.unaryOwned tag member
    exact ⟨origin, id, own, Nat.lt_succ_of_lt earlier⟩
  · change ((World.setQueue _ world.next {}).pending world.connection.unaryQueue).Nodup
    rw [new_queue_pending, if_neg (Nat.ne_of_lt wired.unaryKnown)]
    exact wired.unaryOnce
  · intro tag member
    change tag ∈ (World.setQueue _ world.next {}).pending world.next at member
    rw [new_queue_pending, if_pos rfl] at member
    cases member

theorem new_client_state (kind other : StreamKind) (callback : Option CallbackId)
    (differs : other ≠ kind) : (newClient kind callback world).streams other =
      world.streams other := by
  simp [newClient, World.setClient, differs]

theorem new_client_same (kind : StreamKind) (callback : Option CallbackId) :
    (newClient kind callback world).streams kind =
      { callback := callback, state := { subscription := world.next } } := by
  simp [newClient, World.setClient]

theorem WiredFor.newClient (wired : WiredFor ready world) {kind : StreamKind}
    (unbuilt : ¬ ready kind) (callback : Option CallbackId) :
    WiredFor (fun other => ready other ∨ other = kind) (newClient kind callback world) := by
  refine ⟨wired.distinct, Nat.lt_succ_of_lt wired.streamKnown,
    Nat.lt_succ_of_lt wired.unaryKnown, ?_, wired.unaryOnce, ?_, ?_, ?_⟩
  · intro tag member
    obtain ⟨origin, id, own, earlier⟩ := wired.unaryOwned tag member
    exact ⟨origin, id, own, Nat.lt_succ_of_lt earlier⟩
  · intro tag member
    obtain ⟨other, slot, built, own, readable⟩ := wired.streamOwned tag member
    have differs : other ≠ kind := by
      intro same
      exact unbuilt (same ▸ built)
    refine ⟨other, slot, .inl built, ?_, ?_⟩
    · rw [own, World.tagOf, World.tagOf, World.state, World.state,
        new_client_state kind other callback differs]
    · rwa [World.state, new_client_state kind other callback differs]
  · intro other queue built reader
    by_cases same : other = kind
    · subst other
      rw [World.state, new_client_same] at reader
      cases reader
    · rw [World.state, new_client_state kind other callback same] at reader
      exact wired.readers other queue (built.resolve_right same) reader
  · intro other built received
    by_cases same : other = kind
    · subst other
      rw [World.state, new_client_same] at received
      cases received
    · rw [World.state, new_client_state kind other callback same] at received ⊢
      exact wired.metadata other (built.resolve_right same) received

theorem WiredFor.setReader (wired : WiredFor ready world) (kind : StreamKind) :
    WiredFor ready (world.setState kind
      ({ · with updateReader := some world.connection.streamQueue })) := by
  have tags : ∀ other slot, (world.setState kind
      ({ · with updateReader := some world.connection.streamQueue })).tagOf other slot =
        world.tagOf other slot := by
    intro other slot
    by_cases same : other = kind
    · subst other
      rw [World.tagOf, set_state_same, World.tagOf]
    · rw [World.tagOf, World.tagOf, World.state, set_state_other _ _ _ _ same, World.state]
  refine ⟨wired.distinct, wired.streamKnown, wired.unaryKnown, wired.unaryOwned,
    wired.unaryOnce, ?_, ?_, ?_⟩
  · intro tag member
    obtain ⟨other, slot, built, own, readable⟩ := wired.streamOwned tag member
    refine ⟨other, slot, built, by rw [tags, own], ?_⟩
    by_cases same : other = kind
    · subst other
      rw [set_state_same]
      rfl
    · rwa [World.state, set_state_other _ _ _ _ same]
  · intro other queue built reader
    by_cases same : other = kind
    · subst other
      rw [set_state_same] at reader
      cases reader
      rfl
    · rw [World.state, set_state_other _ _ _ _ same] at reader
      exact wired.readers other queue built reader
  · intro other built received
    by_cases same : other = kind
    · subst other
      rw [set_state_same]
      rfl
    · rw [World.state, set_state_other _ _ _ _ same] at received ⊢
      exact wired.metadata other built received

theorem WiredFor.subscribed (wired : WiredFor ready world) (env : Env) {kind : StreamKind}
    (built : ready kind) : WiredFor ready (subscribed env kind world) := by
  have reader : ((world.setState kind
      ({ · with updateReader := some world.connection.streamQueue })).state kind).updateReader =
        some world.connection.streamQueue := by
    rw [set_state_same]
  have tag : ∀ slot, (world.setState kind
      ({ · with updateReader := some world.connection.streamQueue })).tagOf kind slot =
        .stream kind (world.state kind).subscription slot := by
    intro slot
    rw [World.tagOf, set_state_same]
  have told := (wired.setReader kind).note
    (.subscribed kind (world.state kind).subscription
      { environmentId := env.configuration.environmentId })
  -- Notes and started operations leave the stream clients, and so the tags, as they are.
  have started := told.putStream .start built reader
  have metadata := started.putStream .initMetadata built reader
  have issued := (metadata.note (.update kind (world.state kind).subscription .issued)).putStream
    .read built reader
  simp only [World.tagOf, World.state, note_streams, put_streams] at issued tag
  simp only [tag] at issued
  exact issued

/-- A stream client is built, with or without a callback. -/
theorem construct_stream_wired (env : Env) {kind : StreamKind} (callback : Option CallbackId)
    (unbuilt : ¬ ready kind) (wired : WiredFor ready world) :
    wp (constructStream env kind callback)
      (fun _ => WiredFor fun other => ready other ∨ other = kind) (UnlessExited Wired) world := by
  have built := wired.newClient unbuilt callback
  refine wp_construct_stream env kind callback (fun _ same => absurd rfl same) ?_ ?_
  · intro _
    exact built.subscribed env (.inr rfl)
  · intro _
    exact built.setState kind _ (fun _ => rfl) (fun _ => rfl) .inl

/-- All four stream clients, one after the other. -/
theorem each_stream_wired (env : Env) (build : StreamKind → Manager Unit)
    (callback : StreamKind → World → Option CallbackId)
    (builds : ∀ kind world normal abrupt,
      wp (constructStream env kind (callback kind world)) normal abrupt world →
        wp (build kind) normal abrupt world)
    (wired : WiredFor (fun _ => False) world) :
    wp (each build StreamKind.all) (fun _ => Wired) (UnlessExited Wired) world := by
  refine wp_each (fun done => WiredFor (· ∈ done)) StreamKind.all world ?_ ?_ ?_
  · simpa using wired
  · intro earlier kind later order before wired
    have unbuilt : kind ∉ earlier := all_once order
    apply wp_then (builds kind before _ _
      (construct_stream_wired env (callback kind before) unbuilt wired))
    intro _ after wired
    simpa using wired
  · intro after wired
    have every : (fun kind => kind ∈ StreamKind.all) = fun _ : StreamKind => True := by
      funext kind
      simp
    rwa [every] at wired

/-! ## Actions and construction -/

theorem reinitialize_unary_client_wired (env : Env) (client : UnaryClient)
    {ready : StreamKind → Prop} :
    Keeps (WiredFor ready) (fun reason _ => reason = .exited)
      (reinitializeUnaryClient env client) := by
  intro world wired
  rw [reinitializeUnaryClient, wp_bind]
  refine wp_client_checks env ?_ fun _ => rfl
  simp only [wp_bind, wp_fresh, wp_modify]
  exact { wired with
    streamKnown := Nat.lt_succ_of_lt wired.streamKnown
    unaryKnown := Nat.lt_succ_of_lt wired.unaryKnown
    unaryOwned := fun tag member => by
      obtain ⟨origin, id, own, earlier⟩ := wired.unaryOwned tag member
      exact ⟨origin, id, own, Nat.lt_succ_of_lt earlier⟩ }

theorem reinitialize_unary_wired (env : Env) :
    Keeps Wired (UnlessExited Wired) (reinitializeUnary env) := by
  intro world wired
  rw [reinitializeUnary, wp_bind, wp_new_queue, wp_bind, wp_modify]
  exact keeps_weaken (keeps_each fun client _ => reinitialize_unary_client_wired env client)
    (fun reason _ exited other => absurd exited other) _ wired.renewUnary

theorem reinitialize_stream_wired (env : Env) :
    Keeps Wired (UnlessExited Wired) (reinitializeStream env) := by
  intro world wired
  rw [reinitializeStream, wp_bind, wp_new_queue, wp_bind, wp_modify]
  refine each_stream_wired env _ (fun kind world => (world.streams kind).callback) ?_
    wired.renewStream
  intro kind before normal abrupt built
  rwa [reinitializeStreamClient, wp_bind, wp_read]

theorem actions_wired (env : Env) :
    ActionsKept (grpc env) anyManners Wired (UnlessExited Wired) where
  queue unary := (queue_wired env unary).weaken fun _ _ wired _ => wired
  call call _ := keeps_weaken (call_wired env .direct call) fun _ _ wired _ => wired
  reinitializeUnary := reinitialize_unary_wired env
  reinitializeStream := reinitialize_stream_wired env
  exited _ _ other := absurd rfl other
  resumes _ interrupted := interrupted (fun same => Halt.noConfusion same)

theorem before_wired (connection : IVIConnection)
    (distinct : connection.streamQueue ≠ connection.unaryQueue) :
    WiredFor (fun _ => False) (World.before connection) where
  distinct := distinct
  streamKnown := Nat.lt_succ_of_le (Nat.le_max_left _ _)
  unaryKnown := Nat.lt_succ_of_le (Nat.le_max_right _ _)
  unaryOwned _ member := by cases member
  unaryOnce := List.nodup_nil
  streamOwned _ member := by cases member
  readers _ _ never := never.elim
  metadata _ never := never.elim

/-- The constructor wires the manager when the connection has two queues. -/
theorem construct_wired (env : Env) (callbacks : IVIStreamCallbacks) (connection : IVIConnection)
    (distinct : connection.streamQueue ≠ connection.unaryQueue) :
    wp (construct env callbacks) (fun _ => Wired) (UnlessExited Wired)
      (World.before connection) := by
  rw [construct, wp_bind]
  refine wp_mono (keeps_each (fun client _ => reinitialize_unary_client_wired env client) _
    (before_wired connection distinct)) ?_ fun _ _ exited other => absurd exited other
  intro _ world wired
  rw [wp_bind]
  apply wp_then (each_stream_wired env _ (fun kind _ => callbacks kind)
    (fun _ _ _ _ built => built) wired)
  intro _ after wired
  exact wired

/-- Every state an application can act in is wired. -/
theorem reached_wired {env : Env} {connection : IVIConnection} {callbacks : IVIStreamCallbacks}
    {actions : List Action} {replies : List Reply} {world : World}
    (distinct : connection.streamQueue ≠ connection.unaryQueue)
    (reached : Reached (grpc env) connection callbacks actions replies world) : Wired world := by
  obtain ⟨first, constructed, ran⟩ := reached.ran
  have start := wp_returned (construct_wired env callbacks connection distinct) constructed
  exact run_keeps (actions_wired env) actions (fun action _ => any_action_allowed action) start ran

/-- A property that the constructor establishes and that survives every action
while the manager is wired. -/
theorem reached_over_wired {env : Env} {manners : Manners} {more : World → Prop}
    {abrupt abrupt' : Halt → World → Prop} {connection : IVIConnection}
    {callbacks : IVIStreamCallbacks} {actions : List Action} {replies : List Reply} {world : World}
    (distinct : connection.streamQueue ≠ connection.unaryQueue)
    (constructs : wp (construct env callbacks) (fun _ => more) abrupt (World.before connection))
    (rules : ActionsKeptOver (grpc env) manners Wired more abrupt')
    (allowed : ∀ action ∈ actions, ActionAllowed manners action)
    (reached : Reached (grpc env) connection callbacks actions replies world) :
    Wired world ∧ more world := by
  obtain ⟨first, constructed, ran⟩ := reached.ran
  have wired := wp_returned (construct_wired env callbacks connection distinct) constructed
  have holds := wp_returned constructs constructed
  exact run_keeps (((actions_wired env).restrict manners).over rules) actions allowed
    ⟨wired, holds⟩ ran

theorem act_over_wired {env : Env} {manners : Manners} {more : World → Prop}
    {abrupt : Halt → World → Prop} (rules : ActionsKeptOver (grpc env) manners Wired more abrupt)
    {action : Action} (allowed : ActionAllowed manners action) {world : World}
    (wired : Wired world) (holds : more world) :
    wp (act (grpc env) action) (fun _ => more) abrupt world :=
  wp_mono (act_keeps (((actions_wired env).restrict manners).over rules) allowed world
    ⟨wired, holds⟩) (fun _ _ both => both.2) fun _ _ both => both.2

/-! ## Rebuilding clients -/

/-- The connection has two queues. -/
def Distinct (world : World) : Prop := world.connection.streamQueue ≠ world.connection.unaryQueue

/-- A property that survives what building clients does, in order: a number is
used up, a client is replaced, its state changes, it subscribes, it starts an
operation on the stream queue. -/
structure BuildKept (kept : World → Prop) (abrupt : Halt → World → Prop) : Prop where
  exited : ∀ world, kept world → abrupt .exited world
  counted : ∀ stubs world, kept world →
    kept { world with next := world.next + 1, stubs := stubs }
  client : ∀ kind callback world, kept world → kept (newClient kind callback world)
  state : ∀ kind change world, kept world → kept (world.setState kind change)
  told : ∀ kind subscription request world, kept world →
    kept (world.note (.subscribed kind subscription request))
  issued : ∀ kind subscription world, kept world →
    kept (world.note (.update kind subscription .issued))
  starts : ∀ kind subscription slot world, Distinct world → kept world →
    kept (world.put world.connection.streamQueue (.stream kind subscription slot))

section Building
variable {env : Env} {kept : World → Prop} {abrupt : Halt → World → Prop}
  (rules : BuildKept kept abrupt)
include rules

theorem reinitialize_unary_client_keeps (client : UnaryClient) :
    Keeps (fun world => Distinct world ∧ kept world) abrupt
      (reinitializeUnaryClient env client) := by
  rintro world ⟨distinct, holds⟩
  rw [reinitializeUnaryClient, wp_bind]
  refine wp_client_checks env ?_ fun _ => rules.exited world holds
  simp only [wp_bind, wp_fresh, wp_modify]
  exact ⟨distinct, rules.counted _ world holds⟩

theorem construct_stream_keeps (kind : StreamKind) (callback : Option CallbackId) :
    Keeps (fun world => Distinct world ∧ kept world) abrupt
      (constructStream env kind callback) := by
  rintro world ⟨distinct, holds⟩
  have built := rules.client kind callback world holds
  apply wp_construct_stream env kind callback (fun _ => rules.exited world holds)
  · intro _
    have apart : Distinct (subscribed env kind (newClient kind callback world)) := by
      unfold Distinct
      rw [subscribed_connection]
      exact distinct
    refine ⟨apart, subscribed_rule env kind _ ?_ ?_ ?_⟩
    · exact rules.told kind _ _ _ (rules.state kind _ _ built)
    · intro slot after same holds
      rw [← same]
      refine rules.starts kind _ slot after ?_ holds
      unfold Distinct
      rw [same]
      exact distinct
    · exact rules.issued kind _
  · intro _
    exact ⟨distinct, rules.state kind _ _ built⟩

theorem reinitialize_unary_keeps {world : World} (distinct : Distinct (renewUnary world))
    (renewed : kept (renewUnary world)) :
    wp (reinitializeUnary env) (fun _ => kept) abrupt world := by
  rw [reinitializeUnary, wp_bind, wp_new_queue, wp_bind, wp_modify]
  apply wp_then (keeps_each (fun client _ => reinitialize_unary_client_keeps rules client)
    (renewUnary world) ⟨distinct, renewed⟩)
  intro _ after both
  exact both.2

theorem reinitialize_stream_keeps {world : World} (distinct : Distinct (renewStream world))
    (renewed : kept (renewStream world)) :
    wp (reinitializeStream env) (fun _ => kept) abrupt world := by
  rw [reinitializeStream, wp_bind, wp_new_queue, wp_bind, wp_modify]
  have build : ∀ kind, Keeps (fun world => Distinct world ∧ kept world) abrupt
      (reinitializeStreamClient env kind) := fun kind => by
    refine keeps_read fun before both => ?_
    exact construct_stream_keeps rules kind _ before both
  apply wp_then (keeps_each (fun kind _ => build kind) (renewStream world) ⟨distinct, renewed⟩)
  intro _ after both
  exact both.2

theorem construct_builds {callbacks : IVIStreamCallbacks} {connection : IVIConnection}
    (distinct : connection.streamQueue ≠ connection.unaryQueue)
    (before : kept (World.before connection)) :
    wp (construct env callbacks) (fun _ => kept) abrupt (World.before connection) := by
  have built := @construct_keeps _ abrupt env callbacks (reinitialize_unary_client_keeps rules)
    fun kind => construct_stream_keeps rules kind (callbacks kind)
  apply wp_then (built (World.before connection) ⟨distinct, before⟩)
  intro _ after both
  exact both.2

end Building

/-! ## Destruction -/

section Destruction
variable {env : Env} {kept : World → Prop} {abrupt : Halt → World → Prop}
  (waits : ∀ world, kept world → abrupt .waiting world)
  (collects : ∀ unary tag world, Wired world → kept world →
    tag ∈ world.pending (world.queueOf unary) →
    wp (onlyIf unary (note (.deleted tag))) (fun _ => kept) abrupt
      ((world.take (world.queueOf unary) tag).note (.collected unary tag)))
include waits collects

theorem collect_over_wired (unary : Bool) (tag : Tag) :
    Keeps (fun world => Wired world ∧ kept world) abrupt (collect (grpc env) unary tag) := by
  intro world both
  refine wp_collect (grpc env) unary tag (waits world both.2) fun admitted => ?_
  have wired : Wired ((world.take (world.queueOf unary) tag).note (.collected unary tag)) :=
    (both.1.take _ _).note _
  refine wp_mono (wp_and (?_ : wp _ (fun _ => Wired) (fun _ _ => True) _)
    (collects unary tag world both.1 both.2 ((grpc_event_iff _ _).mp admitted)))
    (fun _ _ kept => kept) fun _ _ stopped => stopped.2
  rw [wp_only_if]
  split
  · exact wired.note _
  · exact wired

theorem drain_queue_over_wired (unary : Bool) (tags : List Tag) (last : Option NextStatus)
    {world : World} (wired : Wired world) (shut : kept (world.shutdown (world.queueOf unary))) :
    wp (drainQueue (grpc env) unary tags last) (fun _ world => Wired world ∧ kept world) abrupt
      world := by
  rw [drainQueue, wp_bind, shutdownQueue, wp_modify]
  refine keeps_bind (keeps_each fun tag _ => collect_over_wired waits collects unary tag)
    (fun _ world both => ?_) _ ⟨wired.shutdown _, shut⟩
  exact wp_async_next_last (grpc env) unary last (waits world both.2) fun _ _ => both

/-- A property that survives the parts of the destructor while the manager is
wired. Both rounds of `Finish` come before the stream queue is shut. -/
theorem destroy_over_wired {collection : Collection}
    (shuts : ∀ unary world, Wired world → kept world → (unary = false → AllSettled world) →
      kept (world.shutdown (world.queueOf unary)))
    (finishes : ∀ kind world, Wired world → kept world →
      wp (finish kind) (fun _ => kept) abrupt world)
    {world : World} (wired : Wired world) (holds : kept world) :
    wp (destroy (grpc env) collection) (fun _ => kept) abrupt world := by
  have round : Keeps (fun world => Wired world ∧ kept world) abrupt finishStream :=
    keeps_each fun kind _ world both =>
      wp_mono (wp_and (finish_wired kind world both.1) (finishes kind world both.1 both.2))
        (fun _ _ after => after) fun _ _ stopped => stopped.2
  rw [destroy, wp_bind]
  apply wp_then (drain_queue_over_wired waits collects true _ _ wired
    (shuts true world wired holds fun same => nomatch same))
  intro unaryStatus world both
  rw [wp_bind]
  apply wp_then (round world both)
  intro _ world both
  rw [wp_bind]
  refine wp_mono (wp_and (round world both) (finish_stream_settles world)) ?_
    fun _ _ stopped => stopped.1
  rintro _ world ⟨⟨wired, holds⟩, settled⟩
  rw [wp_bind]
  apply wp_then (drain_queue_over_wired waits collects false _ _ wired
    (shuts false world wired holds fun _ => settled))
  intro streamStatus after both
  exact both.2

end Destruction

/-- The connections the SDK makes by itself have two queues. -/
theorem new_connection_distinct : newConnection.streamQueue ≠ newConnection.unaryQueue := by
  decide

end IviSdk.QueueWiring
