import IviSdk.QueueWiring

/-!
Whether a subscribed stream stays alive. Between two calls of `Poll` every
subscribed client has one read on the queue of the connection and was never told
to finish; the dispatch of a message takes the read and puts it back. A failure
may leave anything behind on the old queue, but then `Poll` rebuilds all stream
clients on a new one, with the callbacks they had.
-/

namespace IviSdk.LiveStreams

open Checks CompletionQueues Streams ManagerWorld Interaction StreamClients ClientManager
open CallbackRules PollRules ManagerRuns QueueWiring

/-- How often a tag is on a queue. -/
def copies (world : World) (queue : QueueId) (tag : Tag) : Nat := (world.pending queue).count tag

/-- A stream completion that was handed out with `ok = false`. -/
def failedDelivery : Event → Bool
  | .delivered false completion _ _ => !completion.ok
  | _ => false

def failures (log : List Event) : Nat := log.countP failedDelivery

/-- A subscribed client with this many reads on the queue of the connection. -/
structure Live (reads : Nat) (kind : StreamKind) (world : World) : Prop where
  uncalled : (world.state kind).finishCalled = false
  unresponded : (world.state kind).finishResponded = false
  reads : ∀ queue, copies world queue (world.tagOf kind .read) =
    if queue = world.connection.streamQueue then reads else 0
  unfinished : ∀ queue, copies world queue (world.tagOf kind .finish) = 0
  told : ∃ request, .subscribed kind (world.state kind).subscription request ∈ world.log

/-- What holds even while a queue is recovered, of the clients that are built.
Tags and clients have numbers below the next one, which has come to `base`. -/
structure Steady (base : Nat) (callbacks : IVIStreamCallbacks) (ready : StreamKind → Prop)
    (world : World) : Prop where
  come : base ≤ world.next
  known : ∀ queue kind subscription slot,
    0 < copies world queue (.stream kind subscription slot) → subscription < world.next
  unsubscribed : ∀ kind, callbacks kind = none → ∀ queue subscription slot,
    copies world queue (.stream kind subscription slot) = 0
  own : ∀ kind, ready kind → (world.streams kind).callback = callbacks kind
  current : ∀ kind, ready kind → (world.state kind).subscription < world.next
  idle : ∀ kind, ready kind → callbacks kind = none →
    (world.state kind).finishResponded = true ∧ (world.state kind).updateReader = none

/-- The stream queue is open and every subscribed client that is built is alive;
the one whose message is in hand awaits its next read. -/
structure Healthy (callbacks : IVIStreamCallbacks) (ready : StreamKind → Prop)
    (held : Option StreamKind) (world : World) : Prop where
  unshut : world.streamShut = false
  live : ∀ kind, ready kind → (callbacks kind).isSome = true →
    Live (if held = some kind then 0 else 1) kind world

/-- All clients are built. -/
abbrev everyKind : StreamKind → Prop := fun _ => True

variable {world before after : World} {base : Nat}

/-! ## Copies -/

theorem copies_put (queue other : QueueId) (tag one : Tag) :
    copies (world.put queue tag) other one =
      copies world other one + if other = queue ∧ tag = one then 1 else 0 := by
  unfold copies
  rw [put_pending]
  by_cases here : other = queue
  · by_cases same : tag = one
    · simp [here, same]
    · simp [here, same, List.count_cons_of_ne same]
  · simp [here]

theorem copies_take (queue other : QueueId) (tag one : Tag) :
    copies (world.take queue tag) other one =
      copies world other one - if other = queue ∧ tag = one then 1 else 0 := by
  unfold copies
  rw [take_pending]
  by_cases here : other = queue
  · by_cases same : tag = one
    · simp [here, same, List.count_erase_self]
    · simp [here, same, List.count_erase_of_ne (Ne.symm same)]
  · simp [here]

theorem copies_allocate (origin : Origin) (queue : QueueId) (kind : StreamKind)
    (subscription : Nat) (slot : Slot) :
    copies (allocate origin world) queue (.stream kind subscription slot) =
      copies world queue (.stream kind subscription slot) := by
  unfold copies
  rw [allocate_pending]
  split
  · next here =>
      rw [here]
      exact List.count_cons_of_ne (by simp)
  · rfl

/-! ## What a change leaves alone -/

/-- No stream tag is started, and no client is rebuilt or forgets that it finished. -/
structure Lesser (before after : World) : Prop where
  fewer : ∀ queue kind subscription slot,
    copies after queue (.stream kind subscription slot) ≤
      copies before queue (.stream kind subscription slot)
  grows : before.next ≤ after.next
  callbacks : ∀ kind, (after.streams kind).callback = (before.streams kind).callback
  subscriptions : ∀ kind, (after.state kind).subscription = (before.state kind).subscription
  readers : ∀ kind, (after.state kind).updateReader = (before.state kind).updateReader
  responded : ∀ kind, (before.state kind).finishResponded = true →
    (after.state kind).finishResponded = true

/-- Besides, the stream queue stays as it is, reads stay on it, no client is told
to finish, and no failure is handed out. -/
structure Undisturbed (before after : World) : Prop extends Lesser before after where
  queue : after.connection.streamQueue = before.connection.streamQueue
  shut : after.streamShut = before.streamShut
  stays : ∀ kind subscription,
    copies after before.connection.streamQueue (.stream kind subscription .read) =
      copies before before.connection.streamQueue (.stream kind subscription .read)
  called : ∀ kind, (after.state kind).finishCalled = (before.state kind).finishCalled
  answered : ∀ kind, (after.state kind).finishResponded = (before.state kind).finishResponded
  log : ∀ event ∈ before.log, event ∈ after.log
  failures : failures after.log = failures before.log

theorem Lesser.refl (world : World) : Lesser world world :=
  ⟨fun _ _ _ _ => Nat.le_refl _, Nat.le_refl _, fun _ => rfl, fun _ => rfl, fun _ => rfl,
    fun _ responded => responded⟩

theorem Lesser.trans {middle : World} (first : Lesser before middle)
    (second : Lesser middle after) : Lesser before after where
  fewer queue kind subscription slot := Nat.le_trans (second.fewer queue kind subscription slot)
    (first.fewer queue kind subscription slot)
  grows := Nat.le_trans first.grows second.grows
  callbacks kind := (second.callbacks kind).trans (first.callbacks kind)
  subscriptions kind := (second.subscriptions kind).trans (first.subscriptions kind)
  readers kind := (second.readers kind).trans (first.readers kind)
  responded kind responded := second.responded kind (first.responded kind responded)

theorem Lesser.note (lesser : Lesser before world) (event : Event) :
    Lesser before (world.note event) :=
  lesser.trans ⟨fun _ _ _ _ => Nat.le_refl _, Nat.le_refl _, fun _ => rfl, fun _ => rfl,
    fun _ => rfl, fun _ responded => responded⟩

theorem Lesser.take (lesser : Lesser before world) (queue : QueueId) (tag : Tag) :
    Lesser before (world.take queue tag) := by
  refine lesser.trans ⟨?_, Nat.le_refl _, fun _ => rfl, fun _ => rfl, fun _ => rfl,
    fun _ responded => responded⟩
  intro other kind subscription slot
  rw [copies_take]
  exact Nat.sub_le _ _

theorem Lesser.shutdown (lesser : Lesser before world) (queue : QueueId) :
    Lesser before (world.shutdown queue) := by
  refine lesser.trans ⟨?_, Nat.le_refl _, fun _ => rfl, fun _ => rfl, fun _ => rfl,
    fun _ responded => responded⟩
  intro other kind subscription slot
  exact Nat.le_of_eq (congrArg (List.count _) (shutdown_pending world queue other))

theorem Lesser.allocate (lesser : Lesser before world) (origin : Origin) :
    Lesser before (allocate origin world) := by
  refine lesser.trans ⟨?_, Nat.le_succ _, fun _ => rfl, fun _ => rfl, fun _ => rfl,
    fun _ responded => responded⟩
  intro queue kind subscription slot
  exact Nat.le_of_eq (copies_allocate origin queue kind subscription slot)

theorem Lesser.setState (lesser : Lesser before world) (kind : StreamKind)
    (change : StreamState kind → StreamState kind)
    (subscription : ∀ state, (change state).subscription = state.subscription)
    (reader : ∀ state, (change state).updateReader = state.updateReader)
    (responded : ∀ state, state.finishResponded = true → (change state).finishResponded = true) :
    Lesser before (world.setState kind change) := by
  have framed := (Frame.refl world).setState kind change subscription reader
  refine lesser.trans ⟨fun _ _ _ _ => Nat.le_refl _, Nat.le_refl _, framed.callbacks,
    framed.subscriptions, framed.readers, ?_⟩
  intro other was
  by_cases same : other = kind
  · subst other
    rw [set_state_same]
    exact responded _ was
  · rw [World.state, set_state_other world kind change other same]
    exact was

theorem Undisturbed.refl (world : World) : Undisturbed world world :=
  { Lesser.refl world with
    queue := rfl
    shut := rfl
    stays := fun _ _ => rfl
    called := fun _ => rfl
    answered := fun _ => rfl
    log := fun _ member => member
    failures := rfl }

theorem Undisturbed.trans {middle : World} (first : Undisturbed before middle)
    (second : Undisturbed middle after) : Undisturbed before after :=
  { first.toLesser.trans second.toLesser with
    queue := second.queue.trans first.queue
    shut := second.shut.trans first.shut
    stays := fun kind subscription => by
      have later := second.stays kind subscription
      rw [first.queue] at later
      exact later.trans (first.stays kind subscription)
    called := fun kind => (second.called kind).trans (first.called kind)
    answered := fun kind => (second.answered kind).trans (first.answered kind)
    log := fun event member => second.log event (first.log event member)
    failures := second.failures.trans first.failures }

theorem Undisturbed.note (same : Undisturbed before world) {event : Event}
    (fine : failedDelivery event = false) : Undisturbed before (world.note event) :=
  same.trans
    { (Lesser.refl world).note event with
      queue := rfl
      shut := rfl
      stays := fun _ _ => rfl
      called := fun _ => rfl
      answered := fun _ => rfl
      log := fun _ member => List.mem_cons_of_mem event member
      failures := List.countP_cons_of_neg (by simp [fine]) }

theorem Undisturbed.allocate (same : Undisturbed before world) (origin : Origin) :
    Undisturbed before (allocate origin world) := by
  refine same.trans
    { (Lesser.refl world).allocate origin with
      queue := rfl
      shut := ?_
      stays := fun kind subscription => copies_allocate origin _ kind subscription .read
      called := fun _ => rfl
      answered := fun _ => rfl
      log := fun _ member => List.mem_cons_of_mem _ member
      failures := List.countP_cons_of_neg (by simp [failedDelivery]) }
  unfold World.streamShut
  rw [allocate_connection, allocate_shut]

theorem Undisturbed.setState (undisturbed : Undisturbed before world) (kind : StreamKind)
    (change : StreamState kind → StreamState kind)
    (subscription : ∀ state, (change state).subscription = state.subscription)
    (reader : ∀ state, (change state).updateReader = state.updateReader)
    (called : ∀ state, (change state).finishCalled = state.finishCalled)
    (responded : ∀ state, (change state).finishResponded = state.finishResponded) :
    Undisturbed before (world.setState kind change) := by
  refine undisturbed.trans
    { (Lesser.refl world).setState kind change subscription reader
        (fun state was => (responded state).trans was) with
      queue := rfl
      shut := rfl
      stays := fun _ _ => rfl
      called := ?_
      answered := ?_
      log := fun _ member => member
      failures := rfl }
  · intro other
    by_cases same : other = kind
    · subst other
      rw [set_state_same, called]
    · rw [World.state, set_state_other world kind change other same, World.state]
  · intro other
    by_cases same : other = kind
    · subst other
      rw [set_state_same, responded]
    · rw [World.state, set_state_other world kind change other same, World.state]

theorem Undisturbed.take (undisturbed : Undisturbed before world) (queue : QueueId) (tag : Tag)
    (other : ∀ kind subscription, tag ≠ .stream kind subscription .read) :
    Undisturbed before (world.take queue tag) := by
  refine undisturbed.trans
    { (Lesser.refl world).take queue tag with
      queue := rfl
      shut := ?_
      stays := ?_
      called := fun _ => rfl
      answered := fun _ => rfl
      log := fun _ member => member
      failures := rfl }
  · unfold World.streamShut
    rw [take_connection, take_shut]
  · intro kind subscription
    rw [copies_take, if_neg (fun both => other kind subscription both.2), Nat.sub_zero]

theorem Undisturbed.shutdownUnary (undisturbed : Undisturbed before world)
    (distinct : world.connection.streamQueue ≠ world.connection.unaryQueue) :
    Undisturbed before (world.shutdown world.connection.unaryQueue) := by
  refine undisturbed.trans
    { (Lesser.refl world).shutdown _ with
      queue := rfl
      shut := ?_
      stays := ?_
      called := fun _ => rfl
      answered := fun _ => rfl
      log := fun _ member => List.mem_cons_of_mem _ member
      failures := List.countP_cons_of_neg (by simp [failedDelivery]) }
  · unfold World.streamShut
    rw [shutdown_connection, shutdown_shut, if_neg distinct]
  · intro kind subscription
    unfold copies
    rw [shutdown_pending]

variable {callbacks : IVIStreamCallbacks} {ready : StreamKind → Prop} {held : Option StreamKind}

theorem Steady.transport (steady : Steady base callbacks ready before)
    (lesser : Lesser before after) :
    Steady base callbacks ready after where
  come := Nat.le_trans steady.come lesser.grows
  known queue kind subscription slot present := by
    have less := lesser.fewer queue kind subscription slot
    exact Nat.lt_of_lt_of_le (steady.known queue kind subscription slot
      (Nat.lt_of_lt_of_le present less)) lesser.grows
  unsubscribed kind none queue subscription slot := by
    have less := lesser.fewer queue kind subscription slot
    rw [steady.unsubscribed kind none] at less
    exact Nat.le_zero.mp less
  own kind built := (lesser.callbacks kind).trans (steady.own kind built)
  current kind built := by
    rw [lesser.subscriptions]
    exact Nat.lt_of_lt_of_le (steady.current kind built) lesser.grows
  idle kind built none := by
    obtain ⟨responded, reader⟩ := steady.idle kind built none
    exact ⟨lesser.responded kind responded, (lesser.readers kind).trans reader⟩

theorem Undisturbed.tag (same : Undisturbed before after) (kind : StreamKind) (slot : Slot) :
    after.tagOf kind slot = before.tagOf kind slot := by
  unfold World.tagOf
  rw [same.subscriptions]

theorem Live.transport {reads : Nat} {kind : StreamKind} (live : Live reads kind before)
    (same : Undisturbed before after) : Live reads kind after where
  uncalled := (same.called kind).trans live.uncalled
  unresponded := (same.answered kind).trans live.unresponded
  reads queue := by
    rw [same.tag, same.queue]
    have pending := live.reads queue
    -- Reads stay on the stream queue and can only get fewer elsewhere.
    by_cases here : queue = before.connection.streamQueue
    · rw [here] at pending ⊢
      exact (same.stays kind _).trans pending
    · have less := same.fewer queue kind (before.state kind).subscription .read
      rw [if_neg here] at pending ⊢
      exact Nat.le_zero.mp (pending ▸ less)
  unfinished queue := by
    rw [same.tag]
    have less := same.fewer queue kind (before.state kind).subscription .finish
    exact Nat.le_zero.mp (live.unfinished queue ▸ less)
  told := by
    obtain ⟨request, member⟩ := live.told
    refine ⟨request, ?_⟩
    rw [same.subscriptions]
    exact same.log _ member

theorem Healthy.transport (healthy : Healthy callbacks ready held before)
    (same : Undisturbed before after) : Healthy callbacks ready held after where
  unshut := same.shut.trans healthy.unshut
  live kind built subscribed := (healthy.live kind built subscribed).transport same

/-! ## Recovery keeps the manager steady -/

/-- A reader of a steady manager belongs to a subscribed client. -/
theorem Steady.putReader (steady : Steady base callbacks everyKind world) {kind : StreamKind}
    {queue : QueueId} (reader : (world.state kind).updateReader = some queue) (slot : Slot) :
    Steady base callbacks everyKind (world.put queue (world.tagOf kind slot)) where
  come := steady.come
  known other one subscription position present := by
    rw [copies_put] at present
    by_cases new : other = queue ∧ world.tagOf kind slot = .stream one subscription position
    · obtain ⟨_, same⟩ := new
      simp only [World.tagOf, Tag.stream.injEq] at same
      obtain ⟨rfl, rfl, _⟩ := same
      exact steady.current kind trivial
    · rw [if_neg new, Nat.add_zero] at present
      exact steady.known other one subscription position present
  unsubscribed one none other subscription position := by
    -- An idle client has no reader to put a tag through.
    have differs : kind ≠ one := by
      rintro rfl
      rw [(steady.idle kind trivial none).2] at reader
      cases reader
    rw [copies_put, steady.unsubscribed one none, if_neg]
    rintro ⟨_, same⟩
    simp only [World.tagOf, Tag.stream.injEq] at same
    exact differs same.1
  own := steady.own
  current := steady.current
  idle := steady.idle

/-- How an action with polite callbacks may be left early. -/
def Calm (reason : Halt) (_ : World) : Prop := reason ≠ .threw

theorem calm {reason : Halt} (calm : reason ≠ .threw) (world : World) : Calm reason world := calm

theorem finish_steady (kind : StreamKind) :
    Keeps (Steady base callbacks everyKind) Calm (finish kind) := by
  intro world steady
  apply finish_rule kind
  · exact fun _ => steady
  · intro _ _
    refine steady.transport (((Lesser.refl world).note _).setState kind _ ?_ ?_ ?_)
    all_goals first | exact fun _ => rfl | exact fun _ _ => rfl
  · intro _ queue reader
    refine (steady.putReader reader .finish).transport
      ((Lesser.refl _).setState kind _ ?_ ?_ ?_)
    all_goals first | exact fun _ => rfl | exact fun _ was => was
  · exact fun _ _ => calm Halt.noConfusion world

theorem call_undisturbed (env : Env) (origin : Origin) (call : ApiCall)
    (polite : goodManners.mayCall call) (same : Undisturbed before world) :
    wp (apiCall env origin call) (fun _ => Undisturbed before) (fun _ _ => False) world := by
  have called : Undisturbed before (world.note (.called call world.unaryShut)) := same.note rfl
  apply api_call_rule env origin call
  · exact fun _ _ => called.allocate origin
  · exact fun _ _ _ _ => (called.note rfl).allocate .confirm
  · rintro kind rfl
    exact polite.elim

theorem dispatch_steady (env : Env) (completion : Completion) :
    DispatchKeptOver env goodManners completion
      (fun world => Wired world ∧ Heard completion world) (Steady base callbacks everyKind)
      Calm where
  threw never := never.elim False.elim False.elim
  exited world _ _ := calm Halt.noConfusion world
  undefined world _ _ := calm Halt.noConfusion world
  call call polite world _ steady :=
    wp_mono (call_undisturbed env .nested call polite (Undisturbed.refl world))
      (fun _ _ same => steady.transport same.toLesser) fun _ _ never => never.elim
  update _ _ _ _ _ _ world steady := steady.transport ((Lesser.refl world).note _)
  completed _ _ _ world steady := steady.transport ((Lesser.refl world).note _)
  startReceived kind _ _ _ world steady := steady.transport ((Lesser.refl world).setState kind _
    (fun _ => rfl) (fun _ => rfl) fun _ was => was)
  initMetadataReceived kind _ _ _ world steady := steady.transport
    ((Lesser.refl world).setState kind _ (fun _ => rfl) (fun _ => rfl) fun _ was => was)
  finishResponded kind _ _ _ world steady := steady.transport
    ((Lesser.refl world).setState kind _ (fun _ => rfl) (fun _ => rfl) fun _ _ => rfl)
  confirms _ _ _ _ _ world _ _ steady := steady.transport ((Lesser.refl world).allocate .confirm)
  reads _ _ _ _ _ _ _ _ steady reader := steady.putReader reader .read

theorem deliver_lesser (unary : Bool) (completion : Completion) (world : World) :
    Lesser world (world.deliver unary completion) := by
  refine deliver_rule unary completion world (Lesser world)
    (((Lesser.refl world).take _ _).note _) ?_
  intro kind received after lesser _
  exact (lesser.setState kind ({ · with updateResponse := received.message }) (fun _ => rfl)
    (fun _ => rfl) fun _ was => was).note _

theorem queue_steady (env : Env) (unary : Bool) :
    QueueKeptOver (grpc env) unary goodManners Wired (Steady base callbacks everyKind) Calm where
  waiting world _ _ := calm Halt.noConfusion world
  unfinished world _ _ := calm Halt.noConfusion world
  event completion polite world wired steady := by
    have rules : DispatchKeptOver env goodManners completion
        (fun world => Wired world ∧ Heard completion world) (Steady base callbacks everyKind)
        Calm :=
      dispatch_steady env completion
    refine event_over_wired polite (fun world _ => calm Halt.noConfusion world) ?_ rules ?_ ?_
      world wired steady
    · intro before _ steady _
      exact steady.transport (deliver_lesser unary completion before)
    · intro _ after _ steady
      exact steady.transport ((Lesser.refl after).note _)
    · intro _ after steady
      exact steady
  finish _ kind world _ steady := finish_steady kind world steady
  shutdown world _ steady _ := steady.transport ((Lesser.refl world).shutdown _)
  draining world steady := steady.transport ((Lesser.refl world).note _)
  finishAgain world steady := steady.transport ((Lesser.refl world).note _)
  verdict _ world steady := steady.transport ((Lesser.refl world).note _)

/-- Polling the stream queue neither shuts nor opens the unary queue. -/
theorem queue_unary_shut (env : Env) (shut : Bool) :
    QueueKeptOver (grpc env) false goodManners Wired (fun world => world.unaryShut = shut)
      (fun _ _ => True) where
  waiting _ _ _ := trivial
  unfinished _ _ _ := trivial
  event completion _ world _ same :=
    wp_partial (event_frame (grpc env) false completion world)
      fun _ _ framed => framed.unaryShut.trans same
  finish _ kind world _ same :=
    wp_partial (finish_frame world kind world (Frame.refl world))
      fun _ _ framed => framed.unaryShut.trans same
  shutdown world wired same _ := by
    unfold World.unaryShut
    rw [shutdown_connection, shutdown_shut, if_neg (by exact wired.distinct.symm)]
    exact same
  draining _ same := same
  finishAgain _ same := same
  verdict _ _ same := same

/-! ## A message in hand -/

theorem Live.stateless {reads : Nat} {kind : StreamKind} (live : Live reads kind before)
    (queue : after.connection.streamQueue = before.connection.streamQueue)
    (state : after.state kind = before.state kind)
    (copied : ∀ queue slot, copies after queue (before.tagOf kind slot) =
      copies before queue (before.tagOf kind slot))
    (log : ∀ event ∈ before.log, event ∈ after.log) : Live reads kind after := by
  have tag : ∀ slot, after.tagOf kind slot = before.tagOf kind slot := by
    intro slot
    unfold World.tagOf
    rw [state]
  obtain ⟨request, member⟩ := live.told
  refine ⟨state ▸ live.uncalled, state ▸ live.unresponded, ?_, ?_, request,
    state ▸ log _ member⟩
  · intro other
    rw [tag, copied, queue]
    exact live.reads other
  · intro other
    rw [tag, copied]
    exact live.unfinished other

/-- Its read is delivered, and the client awaits the next one. -/
theorem Healthy.takeRead (healthy : Healthy callbacks everyKind none world) (kind : StreamKind) :
    Healthy callbacks everyKind (some kind)
      (world.take world.connection.streamQueue (world.tagOf kind .read)) := by
  constructor
  · unfold World.streamShut
    rw [take_connection, take_shut]
    exact healthy.unshut
  · intro other _ subscribed
    have live : Live 1 other world := healthy.live other trivial subscribed
    by_cases same : kind = other
    · subst other
      rw [if_pos rfl]
      refine ⟨live.uncalled, live.unresponded, ?_, ?_, live.told⟩
      · intro queue
        change copies (world.take _ (world.tagOf kind .read)) queue (world.tagOf kind .read) = _
        rw [copies_take, live.reads queue]
        by_cases here : queue = world.connection.streamQueue
        · simp [here]
        · simp [here]
      · intro queue
        change copies (world.take _ (world.tagOf kind .read)) queue (world.tagOf kind .finish) = _
        rw [copies_take, live.unfinished queue, Nat.zero_sub]
    · rw [if_neg (by simp [same])]
      refine live.stateless rfl rfl (fun queue slot => ?_) fun _ member => member
      rw [copies_take, if_neg, Nat.sub_zero]
      rintro ⟨_, tag⟩
      simp only [World.tagOf, Tag.stream.injEq] at tag
      exact same tag.1

/-- The next read is started on the stream queue. -/
theorem Healthy.putRead {kind : StreamKind}
    (healthy : Healthy callbacks everyKind (some kind) world) :
    Healthy callbacks everyKind none
      (world.put world.connection.streamQueue (world.tagOf kind .read)) := by
  constructor
  · unfold World.streamShut
    rw [put_connection, put_shut]
    exact healthy.unshut
  · intro other _ subscribed
    have live := healthy.live other trivial subscribed
    by_cases same : kind = other
    · subst other
      rw [if_pos rfl] at live
      refine ⟨live.uncalled, live.unresponded, ?_, ?_, ?_⟩
      · intro queue
        change copies (world.put _ (world.tagOf kind .read)) queue (world.tagOf kind .read) = _
        rw [copies_put, live.reads queue]
        simp
      · intro queue
        change copies (world.put _ (world.tagOf kind .read)) queue (world.tagOf kind .finish) = _
        rw [copies_put, live.unfinished queue]
        simp [World.tagOf]
      · obtain ⟨request, member⟩ := live.told
        exact ⟨request, List.mem_cons_of_mem _ member⟩
    · rw [if_neg (by simp [same])] at live
      refine live.stateless rfl rfl (fun queue slot => ?_) fun _ member =>
        List.mem_cons_of_mem _ member
      rw [copies_put, if_neg, Nat.add_zero]
      rintro ⟨_, tag⟩
      simp only [World.tagOf, Tag.stream.injEq] at tag
      exact same tag.1

theorem fill_buffer_undisturbed (completion : Completion) (same : Undisturbed before world) :
    Undisturbed before (world.fillBuffer completion) := by
  unfold World.fillBuffer
  split
  · split
    · refine Undisturbed.note (same.setState _ _ ?_ ?_ ?_ ?_) ?_
      all_goals intros; rfl
    · exact same
  · exact same

/-- No failure was handed out since. -/
def Thriving (callbacks : IVIStreamCallbacks) (held : Option StreamKind) (seen : Nat)
    (world : World) : Prop :=
  Healthy callbacks everyKind held world ∧ failures world.log = seen

theorem Thriving.transport {seen : Nat} (thriving : Thriving callbacks held seen before)
    (same : Undisturbed before after) : Thriving callbacks held seen after :=
  ⟨thriving.1.transport same, same.failures.trans thriving.2⟩

theorem dispatch_undisturbed (env : Env) (completion : Completion)
    (other : ∀ kind (received : StreamCompletion kind), completion = .stream kind received →
      received.slot ≠ .read ∧ received.slot ≠ .finish) (before : World) :
    DispatchKeptOver env goodManners completion
      (fun world => Wired world ∧ Heard completion world) (Undisturbed before) Calm where
  threw never := never.elim False.elim False.elim
  exited world _ _ := calm Halt.noConfusion world
  undefined world _ _ := calm Halt.noConfusion world
  call call polite _ _ same :=
    wp_mono (call_undisturbed env .nested call polite same) (fun _ _ same => same)
      fun _ _ never => never.elim
  update kind received equal _ noted := absurd noted.1 (other kind received equal).1
  completed _ _ _ _ same := same.note rfl
  startReceived kind _ _ _ _ same :=
    same.setState kind _ (fun _ => rfl) (fun _ => rfl) (fun _ => rfl) fun _ => rfl
  initMetadataReceived kind _ _ _ _ same :=
    same.setState kind _ (fun _ => rfl) (fun _ => rfl) (fun _ => rfl) fun _ => rfl
  finishResponded kind received equal slot := absurd slot (other kind received equal).2
  confirms _ _ _ _ _ _ _ _ same := same.allocate .confirm
  reads kind received equal good := absurd good.slot (other kind received equal).1

/-! ## Events of a healthy manager -/

/-- Only subscribed clients have tags on a queue. -/
theorem Steady.subscribed (steady : Steady base callbacks ready world) {kind : StreamKind}
    {queue : QueueId} {subscription : Nat} {slot : Slot}
    (pending : Tag.stream kind subscription slot ∈ world.pending queue) :
    (callbacks kind).isSome = true := by
  cases given : callbacks kind with
  | some id => rfl
  | none =>
      have present : 0 < copies world queue (.stream kind subscription slot) :=
        List.count_pos_iff.mpr pending
      exact absurd (steady.unsubscribed kind given queue subscription slot) (Nat.ne_of_gt present)

theorem message_thrives (env : Env) {kind : StreamKind} (received : StreamCompletion kind)
    (slot : received.slot = .read) (ok : received.ok = true)
    (polite : goodManners.Follows received.context received.reaction) (seen : Nat)
    (wired : Wired world) (thriving : Thriving callbacks none seen world) :
    wp (processEvent (grpc env) false (.stream kind received))
      (fun _ => Thriving callbacks none seen) Calm world := by
  refine @event_rule_wired env false (.stream kind received) (Thriving callbacks none seen)
    (Thriving callbacks (some kind) seen) (Thriving callbacks none seen) Calm
    (fun world _ => calm Halt.noConfusion world) ?_ ?_ (fun never => by cases never)
    (fun _ _ thriving => thriving) world wired thriving
  · intro before wired thriving pending
    obtain ⟨other, otherSlot, _, own, _⟩ := wired.streamOwned _ pending
    simp only [Completion.tag, World.tagOf, Tag.stream.injEq] at own
    obtain ⟨rfl, current, _⟩ := own
    have tag : (Completion.stream kind received).tag = before.tagOf kind .read := by
      rw [Completion.tag, slot, current]
      rfl
    have taken := thriving.1.takeRead kind
    rw [← tag] at taken
    -- Taking the message takes the read; the client awaits its next one from here on.
    have handed : Thriving callbacks (some kind) seen
        ((before.take (before.queueOf false) (Completion.stream kind received).tag).note
          (.delivered false (.stream kind received) before.streamShut before.unaryShut)) := by
      refine ⟨taken.transport ((Undisturbed.refl _).note ?_), ?_⟩
      · simp [failedDelivery, Completion.ok, ok]
      · rw [← thriving.2]
        exact List.countP_cons_of_neg (by simp [failedDelivery, Completion.ok, ok])
    exact handed.transport (fill_buffer_undisturbed _ (Undisturbed.refl _))
  · intro before wired heard _ thriving
    simp only [dispatch, dispatchStream, wp_bind, wp_read, wp_ite, wp_stop, slot]
    split
    · exact calm Halt.noConfusion before
    · let kept : World → Prop := fun world =>
        Wired world ∧ Thriving callbacks (some kind) seen world
      refine @process_message_rule kept Calm env goodManners kind received before
        (Thriving callbacks none seen) ok polite ?_ ?_ (fun never => never.elim)
        (fun world _ _ => calm Halt.noConfusion world) ?_ ?_ ⟨wired, thriving⟩
      · intro value subscription world both
        exact ⟨both.1.note _, both.2.transport ((Undisturbed.refl world).note rfl)⟩
      · intro call may world both
        refine wp_mono (wp_and (call_wired env .nested call world both.1)
          (call_undisturbed env .nested call may (Undisturbed.refl world))) ?_
            fun _ _ never => never.2.elim
        rintro _ after ⟨wired, same⟩
        exact ⟨wired, both.2.transport same⟩
      · intro _ _ world both
        exact ⟨both.1.allocate .confirm,
          both.2.transport ((Undisturbed.refl world).allocate .confirm)⟩
      · intro _ world queue both reader
        rw [both.1.readers kind queue trivial reader]
        refine ⟨both.2.1.putRead, ?_⟩
        rw [← both.2.2]
        exact List.countP_cons_of_neg (by simp [failedDelivery])

/-- A completion with `ok = true` leaves every subscribed stream alive. -/
theorem good_event_thrives (env : Env) (completion : Completion) (ok : completion.ok = true)
    (polite : goodManners.Allows completion) (seen : Nat) (wired : Wired world)
    (steady : Steady base callbacks everyKind world)
    (thriving : Thriving callbacks none seen world) :
    wp (processEvent (grpc env) false completion) (fun _ => Thriving callbacks none seen) Calm
      world := by
  by_cases pending : completion.tag ∈ world.pending world.connection.streamQueue
  · obtain ⟨kind, slot, _, own, _⟩ := wired.streamOwned _ pending
    cases completion with
    | unary received => cases own
    | stream other received =>
        simp only [Completion.tag, World.tagOf, Tag.stream.injEq] at own
        obtain ⟨rfl, current, same⟩ := own
        have live : Live 1 other world :=
          thriving.1.live other trivial (steady.subscribed pending)
        -- No `Finish` pends for a live stream, so the tag is one of the other three.
        have unfinished : received.slot ≠ .finish := by
          intro finished
          have present :
              0 < copies world world.connection.streamQueue (world.tagOf other .finish) := by
            refine List.count_pos_iff.mpr ?_
            rw [Completion.tag, finished, current] at pending
            exact pending
          exact absurd (live.unfinished _) (Nat.ne_of_gt present)
        by_cases read : received.slot = .read
        · exact message_thrives env received read ok polite seen wired thriving
        · refine @event_rule_wired env false (.stream other received)
            (Thriving callbacks none seen) (Thriving callbacks none seen)
            (Thriving callbacks none seen) Calm (fun world _ => calm Halt.noConfusion world)
            ?_ ?_ (fun never => by cases never) (fun _ _ thriving => thriving) world wired thriving
          · intro before wired thriving _
            refine thriving.transport (fill_buffer_undisturbed _ (Undisturbed.note
              ((Undisturbed.refl before).take _ _ ?_) ?_))
            · intro kind subscription tag
              simp only [Completion.tag, Tag.stream.injEq] at tag
              exact read tag.2.2
            · simp [failedDelivery, ok]
          · intro before wired heard announced thriving
            have rules := dispatch_undisturbed env (.stream other received) (by
              rintro kind again equal
              cases equal
              exact ⟨read, unfinished⟩) before
            refine wp_mono (dispatch_keeps (((dispatch_wired env _).restrict goodManners).over
              rules) polite announced ⟨⟨wired, heard⟩, Undisturbed.refl before⟩) ?_
                fun _ _ stopped => stopped.2
            rintro _ after ⟨_, same⟩
            exact thriving.transport same
  · exact absent_event pending (calm Halt.noConfusion world)

/-! ## Polling a queue -/

theorem queue_undisturbed (env : Env) (before : World) :
    QueueKeptOver (grpc env) true goodManners Wired (Undisturbed before) Calm where
  waiting world _ _ := calm Halt.noConfusion world
  unfinished world _ _ := calm Halt.noConfusion world
  event completion polite world wired same := by
    cases completion with
    | stream kind received =>
        exact stream_tag_on_unary wired (calm Halt.noConfusion world)
    | unary received =>
        have rules := dispatch_undisturbed env (.unary received)
          (fun kind _ equal => by cases equal) before
        refine event_over_wired polite (fun world _ => calm Halt.noConfusion world) ?_ rules ?_
          (fun never => by cases never) world wired same
        · intro middle _ same _
          exact (same.take _ _ fun _ _ tag => by cases tag).note rfl
        · intro _ after _ same
          exact same.note rfl
  finish never := by cases never
  shutdown world wired same _ := same.shutdownUnary wired.distinct
  draining _ same := same.note rfl
  finishAgain _ same := same.note rfl
  verdict _ _ same := same.note rfl

/-- A `Poll<false>` whose first pass sees no failure leaves every stream alive. -/
theorem poll_stream_thrives (env : Env) {passes : List Pass}
    (polite : PassesAllowed goodManners passes) (seen : Nat) (wired : Wired world)
    (steady : Steady base callbacks everyKind world)
    (thriving : Thriving callbacks none seen world) :
    wp (pollQueue (grpc env) false passes)
      (fun failed after => failed = false → Thriving callbacks none seen after)
      (fun _ _ => True) world := by
  cases passes with
  | nil => trivial
  | cons pass rest =>
      have rules := ((queue_wired env false).restrict goodManners).over
        (@queue_steady base callbacks env false)
      let kept : Bool → World → Prop := fun failed after =>
        (Wired after ∧ Steady base callbacks everyKind after) ∧
          (failed = false → Thriving callbacks none seen after)
      have events : ∀ completion ∈ pass.events, ∀ callShutdown after, kept callShutdown after →
          wp (processEvent (grpc env) false completion)
            (fun _ => kept (callShutdown || !completion.ok)) (fun _ _ => True) after := by
        rintro completion member callShutdown after ⟨⟨wired, steady⟩, thrives⟩
        have allowed := polite pass List.mem_cons_self completion member
        refine wp_mono (wp_and (rules.event completion allowed after ⟨wired, steady⟩)
          (?_ : wp _ (fun _ last => (callShutdown || !completion.ok) = false →
            Thriving callbacks none seen last) (fun _ _ => True) after))
          (fun _ _ both => both) fun _ _ _ => trivial
        -- After a failure nothing is claimed: the clients will be rebuilt.
        by_cases fine : callShutdown = false ∧ completion.ok = true
        · exact wp_partial (good_event_thrives env completion fine.2 allowed seen wired steady
            (thrives fine.1)) fun _ _ thriving _ => thriving
        · apply wp_partial (wp_true _ after)
          intro _ _ _ still
          rw [Bool.or_eq_false_iff, Bool.not_eq_false'] at still
          exact absurd still fine
      rw [pollQueue, wp_bind]
      apply wp_partial (process_queue_rule (grpc env) false kept pass (fun _ _ _ => trivial) events
        world ⟨⟨wired, steady⟩, fun _ => thriving⟩)
      rintro polled after ⟨⟨_, thrives⟩, _⟩
      rw [wp_bind, wp_only_if]
      split
      · next failed =>
          apply wp_partial (wp_true _ after)
          intro _ _ _ fine
          exact absurd failed (by simp [fine])
      · intro fine
        exact thrives fine

/-! ## Building clients -/

theorem copies_note (event : Event) (queue : QueueId) (tag : Tag) :
    copies (world.note event) queue tag = copies world queue tag := rfl

theorem copies_set_state (kind : StreamKind) (change : StreamState kind → StreamState kind)
    (queue : QueueId) (tag : Tag) :
    copies (world.setState kind change) queue tag = copies world queue tag := rfl

theorem copies_subscribed (env : Env) (kind : StreamKind) (queue : QueueId) (tag : Tag) :
    copies (subscribed env kind world) queue tag = copies world queue tag +
      (if queue = world.connection.streamQueue ∧
        .stream kind (world.state kind).subscription .start = tag then 1 else 0) +
      (if queue = world.connection.streamQueue ∧
        .stream kind (world.state kind).subscription .initMetadata = tag then 1 else 0) +
      (if queue = world.connection.streamQueue ∧
        .stream kind (world.state kind).subscription .read = tag then 1 else 0) := by
  simp only [subscribed, copies_put, copies_note, copies_set_state]

theorem subscribed_state (env : Env) (kind : StreamKind) :
    (subscribed env kind world).state kind =
      { world.state kind with updateReader := some world.connection.streamQueue } :=
  set_state_same world kind ({ · with updateReader := some world.connection.streamQueue })

theorem subscribed_other (env : Env) (kind other : StreamKind) (differs : other ≠ kind) :
    (subscribed env kind world).streams other = world.streams other :=
  set_state_other world kind ({ · with updateReader := some world.connection.streamQueue }) other
    differs

theorem subscribed_shut (env : Env) (kind : StreamKind) (queue : QueueId) :
    ((subscribed env kind world).queues queue).shut = (world.queues queue).shut := by
  simp only [subscribed, put_shut, note_queues, set_state_queues]

theorem subscribed_callback (env : Env) (kind other : StreamKind) :
    ((subscribed env kind world).streams other).callback = (world.streams other).callback :=
  set_state_callback world kind ({ · with updateReader := some world.connection.streamQueue }) other

/-- What the construction of one client does to the rest. -/
structure Built (kind : StreamKind) (before after : World) : Prop where
  others : ∀ other, other ≠ kind → after.streams other = before.streams other
  own : (after.state kind).subscription = before.next
  grows : before.next ≤ after.next
  unary : after.unaryShut = before.unaryShut

theorem subscribed_built (env : Env) (kind : StreamKind) (callback : Option CallbackId)
    (world : World) : Built kind world (subscribed env kind (newClient kind callback world)) where
  others other differs := by
    rw [subscribed_other env kind other differs, new_client_state kind other callback differs]
  own := by
    rw [subscribed_state, World.state, new_client_same]
  grows := Nat.le_succ _
  unary := subscribed_shut env kind world.connection.unaryQueue

theorem idle_built (kind : StreamKind) (callback : Option CallbackId) (world : World) :
    Built kind world ((newClient kind callback world).setState kind
      ({ · with finishResponded := true })) where
  others other differs := by
    rw [set_state_other _ kind _ other differs, new_client_state kind other callback differs]
  own := by
    rw [set_state_same, World.state, new_client_same]
  grows := Nat.le_succ _
  unary := rfl

/-- A subscription has a number no tag had before. -/
theorem Steady.fresh (steady : Steady base callbacks ready world) (queue : QueueId)
    (kind : StreamKind) (slot : Slot) : copies world queue (.stream kind world.next slot) = 0 := by
  refine Nat.eq_zero_of_not_pos fun present => ?_
  exact absurd (steady.known queue kind world.next slot present) (Nat.lt_irrefl _)

theorem Steady.built {kind : StreamKind} (steady : Steady base callbacks ready before)
    (built : Built kind before after)
    (known : ∀ queue one subscription slot, 0 < copies after queue (.stream one subscription slot) →
      subscription < after.next)
    (unsubscribed : ∀ one, callbacks one = none → ∀ queue subscription slot,
      copies after queue (.stream one subscription slot) = 0)
    (callback : (after.streams kind).callback = callbacks kind) (number : before.next < after.next)
    (idle : callbacks kind = none → (after.state kind).finishResponded = true ∧
      (after.state kind).updateReader = none) :
    Steady base callbacks (fun other => ready other ∨ other = kind) after where
  come := Nat.le_trans steady.come built.grows
  known := known
  unsubscribed := unsubscribed
  own other ready := by
    by_cases same : other = kind
    · rw [same]
      exact callback
    · rw [built.others other same]
      exact steady.own other (ready.resolve_right same)
  current other ready := by
    by_cases same : other = kind
    · rw [same, built.own]
      exact number
    · rw [World.state, built.others other same]
      exact Nat.lt_of_lt_of_le (steady.current other (ready.resolve_right same)) built.grows
  idle other ready none := by
    by_cases same : other = kind
    · subst same
      exact idle none
    · rw [World.state, built.others other same]
      exact steady.idle other (ready.resolve_right same) none

/-- A subscribed client that was just built has one of each of its tags. -/
theorem copies_built (env : Env) (kind : StreamKind) (callback : Option CallbackId)
    (queue : QueueId) (tag : Tag) :
    copies (subscribed env kind (newClient kind callback world)) queue tag =
      copies world queue tag +
        (if queue = world.connection.streamQueue ∧ .stream kind world.next .start = tag
          then 1 else 0) +
        (if queue = world.connection.streamQueue ∧ .stream kind world.next .initMetadata = tag
          then 1 else 0) +
        (if queue = world.connection.streamQueue ∧ .stream kind world.next .read = tag
          then 1 else 0) := by
  have number : ((newClient kind callback world).state kind).subscription = world.next := by
    rw [World.state, new_client_same]
  rw [copies_subscribed, number]
  rfl

theorem subscribed_steady (env : Env) {kind : StreamKind}
    (steady : Steady base callbacks ready world) (subscribes : (callbacks kind).isSome = true) :
    Steady base callbacks (fun other => ready other ∨ other = kind)
      (subscribed env kind (newClient kind (callbacks kind) world)) := by
  refine steady.built (subscribed_built env kind (callbacks kind) world) ?_ ?_ ?_
    (Nat.lt_succ_self _) ?_
  · intro queue one subscription slot present
    change subscription < world.next + 1
    by_contra later
    -- A tag with a number that is not yet in use would have to be one of the new ones.
    have none : copies world queue (.stream one subscription slot) = 0 := by
      refine Nat.eq_zero_of_not_pos fun old => later ?_
      exact Nat.lt_succ_of_lt (steady.known queue one subscription slot old)
    have differs : world.next ≠ subscription := by omega
    simp [copies_built, none, differs] at present
  · intro one none queue subscription slot
    have differs : kind ≠ one := by
      rintro rfl
      rw [none] at subscribes
      cases subscribes
    simp [copies_built, steady.unsubscribed one none, differs]
  · rw [subscribed_callback, new_client_same]
  · intro none
    rw [none] at subscribes
    cases subscribes

/-- The new client waits for its first message. -/
theorem subscribed_live (env : Env) (kind : StreamKind) (callback : Option CallbackId)
    (steady : Steady base callbacks ready world) :
    Live 1 kind (subscribed env kind (newClient kind callback world)) := by
  have state := @subscribed_state (newClient kind callback world) env kind
  have client : (newClient kind callback world).state kind = { subscription := world.next } := by
    rw [World.state, new_client_same]
  have tag : ∀ slot, (subscribed env kind (newClient kind callback world)).tagOf kind slot =
      .stream kind world.next slot := by
    intro slot
    rw [World.tagOf, (subscribed_built env kind callback world).own]
  refine ⟨?_, ?_, ?_, ?_, ?_⟩
  · rw [state, client]
  · rw [state, client]
  · intro queue
    rw [tag, copies_built, steady.fresh]
    simp
    rfl
  · intro queue
    rw [tag, copies_built, steady.fresh]
    simp
  · refine ⟨{ environmentId := env.configuration.environmentId }, ?_⟩
    rw [state, client]
    simp [subscribed, client]

/-- The clients built before still wait for theirs. -/
theorem Live.subscribed {other : StreamKind} (live : Live 1 other world) (env : Env)
    {kind : StreamKind} (callback : Option CallbackId) (differs : other ≠ kind) :
    Live 1 other (subscribed env kind (newClient kind callback world)) := by
  have built := subscribed_built env kind callback world
  refine live.stateless rfl ?_ ?_ ?_
  · rw [World.state, built.others other differs, World.state]
  · intro queue slot
    simp [copies_built, World.tagOf, differs.symm]
  · intro event member
    simp only [CallbackRules.subscribed, put_log, note_log, List.mem_cons]
    repeat right
    exact member

theorem idle_steady (kind : StreamKind) (steady : Steady base callbacks ready world) :
    Steady base callbacks (fun other => ready other ∨ other = kind)
      ((newClient kind (callbacks kind) world).setState kind
        ({ · with finishResponded := true })) := by
  refine steady.built (idle_built kind (callbacks kind) world) ?_ steady.unsubscribed ?_
    (Nat.lt_succ_self _) ?_
  · intro queue one subscription slot present
    exact Nat.lt_succ_of_lt (steady.known queue one subscription slot present)
  · rw [set_state_callback, new_client_same]
  · intro _
    rw [set_state_same, World.state, new_client_same]
    exact ⟨rfl, rfl⟩

theorem construct_stream_builds (env : Env) (kind : StreamKind)
    (steady : Steady base callbacks ready world) (healthy : Healthy callbacks ready none world) :
    wp (constructStream env kind (callbacks kind))
      (fun _ after => Steady base callbacks (fun other => ready other ∨ other = kind) after ∧
        Healthy callbacks (fun other => ready other ∨ other = kind) none after ∧
        Built kind world after) Calm world := by
  have earlier : ∀ other, ready other ∨ other = kind → other ≠ kind →
      (callbacks other).isSome = true → Live 1 other world := by
    intro other ready differs given
    exact healthy.live other (ready.resolve_right differs) given
  apply wp_construct_stream env kind (callbacks kind) (fun _ => calm Halt.noConfusion world)
  · intro subscribes
    refine ⟨subscribed_steady env steady subscribes, ⟨?_, ?_⟩, subscribed_built env kind _ world⟩
    · exact (subscribed_shut env kind world.connection.streamQueue).trans healthy.unshut
    · intro other ready given
      rw [if_neg (fun never => by cases never)]
      by_cases same : other = kind
      · subst same
        exact subscribed_live env other _ steady
      · exact (earlier other ready same given).subscribed env _ same
  · intro idles
    have built := idle_built kind (callbacks kind) world
    refine ⟨idle_steady kind steady, ⟨healthy.unshut, ?_⟩, built⟩
    intro other ready given
    have differs : other ≠ kind := by
      rintro rfl
      rw [idles] at given
      cases given
    rw [if_neg (fun never => by cases never)]
    refine (earlier other ready differs given).stateless rfl ?_ (fun _ _ => rfl)
      fun _ member => member
    rw [World.state, built.others other differs, World.state]

/-- The stream clients that are built so far, all since `start`. -/
structure Rebuilt (base : Nat) (callbacks : IVIStreamCallbacks) (start : World)
    (done : List StreamKind) (world : World) : Prop where
  steady : Steady base callbacks (· ∈ done) world
  healthy : Healthy callbacks (· ∈ done) none world
  later : ∀ kind, kind ∉ done → world.streams kind = start.streams kind
  anew : ∀ kind, kind ∈ done → start.next ≤ (world.state kind).subscription
  grows : start.next ≤ world.next
  unary : world.unaryShut = start.unaryShut

theorem Rebuilt.start (steady : Steady base callbacks (fun _ => False) world)
    (healthy : Healthy callbacks (fun _ => False) none world) :
    Rebuilt base callbacks world [] world where
  steady :=
    { steady with
      own := fun _ never => by cases never
      current := fun _ never => by cases never
      idle := fun _ never => by cases never }
  healthy := ⟨healthy.unshut, fun _ never => by cases never⟩
  later _ _ := rfl
  anew _ never := by cases never
  grows := Nat.le_refl _
  unary := rfl

theorem Rebuilt.built {start : World} {done : List StreamKind} {kind : StreamKind}
    (rebuilt : Rebuilt base callbacks start done before)
    (steady : Steady base callbacks (fun other => other ∈ done ∨ other = kind) after)
    (healthy : Healthy callbacks (fun other => other ∈ done ∨ other = kind) none after)
    (built : Built kind before after) :
    Rebuilt base callbacks start (done ++ [kind]) after where
  steady := by simpa using steady
  healthy := by simpa using healthy
  later other absent := by
    rw [List.mem_append, List.mem_singleton, not_or] at absent
    rw [built.others other absent.2, rebuilt.later other absent.1]
  anew other member := by
    rw [List.mem_append, List.mem_singleton] at member
    by_cases same : other = kind
    · rw [same, built.own]
      exact rebuilt.grows
    · rw [World.state, built.others other same]
      exact rebuilt.anew other (member.resolve_right same)
  grows := Nat.le_trans rebuilt.grows built.grows
  unary := built.unary.trans rebuilt.unary

/-- All four stream clients are built, one after the other. -/
theorem each_stream_builds (env : Env) (build : StreamKind → Manager Unit)
    (builds : ∀ kind before, before.streams kind = world.streams kind → ∀ normal abrupt,
      wp (constructStream env kind (callbacks kind)) normal abrupt before →
        wp (build kind) normal abrupt before)
    (steady : Steady base callbacks (fun _ => False) world)
    (healthy : Healthy callbacks (fun _ => False) none world) :
    wp (each build StreamKind.all)
      (fun _ after => Steady base callbacks everyKind after ∧
        Healthy callbacks everyKind none after ∧
        (∀ kind, world.next ≤ (after.state kind).subscription) ∧
        after.unaryShut = world.unaryShut) Calm world := by
  refine wp_each (Rebuilt base callbacks world) StreamKind.all world
    (Rebuilt.start steady healthy) ?_ ?_
  · intro earlier kind later order before rebuilt
    have unbuilt : kind ∉ earlier := all_once order
    apply builds kind before (rebuilt.later kind unbuilt) _ _
    apply wp_then (construct_stream_builds env kind rebuilt.steady rebuilt.healthy)
    rintro _ after ⟨steady, healthy, built⟩
    exact rebuilt.built steady healthy built
  · intro after rebuilt
    have every : (fun kind => kind ∈ StreamKind.all) = everyKind := by
      funext kind
      simp
    refine ⟨every ▸ rebuilt.steady, every ▸ rebuilt.healthy, ?_, rebuilt.unary⟩
    intro kind
    exact rebuilt.anew kind (by simp)

/-! ## Construction and reinitialisation -/

theorem reinitialize_unary_client_undisturbed (env : Env) (client : UnaryClient) :
    Keeps (Undisturbed before) Calm (reinitializeUnaryClient env client) := by
  intro world same
  rw [reinitializeUnaryClient, wp_bind]
  refine wp_client_checks env ?_ fun _ => calm Halt.noConfusion world
  simp only [wp_bind, wp_fresh, wp_modify]
  exact same.trans ⟨⟨fun _ _ _ _ => Nat.le_refl _, Nat.le_succ _, fun _ => rfl, fun _ => rfl,
    fun _ => rfl, fun _ was => was⟩, rfl, rfl, fun _ _ => rfl, fun _ => rfl, fun _ => rfl,
    fun _ member => member, rfl⟩

theorem reinitialize_unary_client_shut (env : Env) (client : UnaryClient) :
    Keeps (fun world => world.unaryShut = false) (fun _ _ => True)
      (reinitializeUnaryClient env client) := by
  intro world unshut
  rw [reinitializeUnaryClient, wp_bind]
  refine wp_client_checks env ?_ fun _ => trivial
  simp only [wp_bind, wp_fresh, wp_modify]
  exact unshut

theorem copies_renewed (world : World) (queue : QueueId) (tag : Tag) :
    ((World.setQueue { world with next := world.next + 1 } world.next {}).pending queue).count
      tag = if queue = world.next then 0 else copies world queue tag := by
  rw [new_queue_pending]
  split
  · rfl
  · rfl

/-- A new unary queue is not the stream queue. -/
theorem renew_unary_undisturbed (wired : Wired world) : Undisturbed world (renewUnary world) where
  fewer queue kind subscription slot := by
    apply Nat.le_trans (Nat.le_of_eq (copies_renewed world queue _))
    split
    · exact Nat.zero_le _
    · exact Nat.le_refl _
  grows := Nat.le_succ _
  callbacks _ := rfl
  subscriptions _ := rfl
  readers _ := rfl
  responded _ was := was
  queue := rfl
  shut := by
    unfold World.streamShut renewUnary World.setQueue
    simp only [Function.update_of_ne (Nat.ne_of_lt wired.streamKnown)]
  stays kind subscription := by
    apply (copies_renewed world _ _).trans
    rw [if_neg (Nat.ne_of_lt wired.streamKnown)]
  called _ := rfl
  answered _ := rfl
  log _ member := member
  failures := rfl

theorem reinitialize_unary_undisturbed (env : Env) (wired : Wired world) :
    wp (reinitializeUnary env) (fun _ after => Undisturbed world after ∧ after.unaryShut = false)
      Calm world := by
  rw [reinitializeUnary, wp_bind, wp_new_queue, wp_bind, wp_modify]
  have unshut : (renewUnary world).unaryShut = false := by
    simp [World.unaryShut, renewUnary, World.setQueue]
  refine wp_mono (wp_and
    (keeps_each (fun client _ => reinitialize_unary_client_undisturbed env client) _
      (renew_unary_undisturbed wired))
    (keeps_each (fun client _ => reinitialize_unary_client_shut env client) _ unshut))
    (fun _ _ both => both) fun _ _ stopped => stopped.1

/-- Rebuilding the stream clients on a new queue brings back all that were
subscribed, as new subscriptions. -/
theorem reinitialize_stream_thrives (env : Env) (wired : Wired world)
    (steady : Steady base callbacks everyKind world) :
    wp (reinitializeStream env)
      (fun _ after => Steady base callbacks everyKind after ∧
        Healthy callbacks everyKind none after ∧
        (∀ kind, world.next ≤ (after.state kind).subscription) ∧
        after.unaryShut = world.unaryShut) Calm world := by
  rw [reinitializeStream, wp_bind, wp_new_queue, wp_bind, wp_modify]
  have shut : (renewStream world).unaryShut = world.unaryShut := by
    unfold World.unaryShut renewStream World.setQueue
    simp only [Function.update_of_ne (Nat.ne_of_lt wired.unaryKnown)]
  have fewer : ∀ queue tag, copies (renewStream world) queue tag ≤ copies world queue tag := by
    intro queue tag
    apply Nat.le_trans (Nat.le_of_eq (copies_renewed world queue tag))
    split
    · exact Nat.zero_le _
    · exact Nat.le_refl _
  have renewed : Steady base callbacks (fun _ => False) (renewStream world) := by
    refine ⟨Nat.le_succ_of_le steady.come, ?_, ?_, fun _ never => never.elim,
      fun _ never => never.elim, fun _ never => never.elim⟩
    · intro queue kind subscription slot present
      exact Nat.lt_succ_of_lt (steady.known queue kind subscription slot
        (Nat.lt_of_lt_of_le present (fewer queue _)))
    · intro kind none queue subscription slot
      have less := fewer queue (.stream kind subscription slot)
      rw [steady.unsubscribed kind none] at less
      exact Nat.le_zero.mp less
  have healthy : Healthy callbacks (fun _ => False) none (renewStream world) := by
    refine ⟨?_, fun _ never => never.elim⟩
    simp [World.streamShut, renewStream, World.setQueue]
  refine wp_then (each_stream_builds env _ ?_ renewed healthy) ?_
  · intro kind before unbuilt normal abrupt built
    -- The client not yet rebuilt still has the callback it was given.
    have callback : (before.streams kind).callback = callbacks kind := by
      rw [unbuilt]
      exact steady.own kind trivial
    rwa [reinitializeStreamClient, wp_bind, wp_read, callback]
  · rintro _ after ⟨steady, healthy, anew, unary⟩
    exact ⟨steady, healthy, fun kind => Nat.le_of_succ_le (anew kind), unary.trans shut⟩

/-- The constructor subscribes every client that was given a callback. -/
theorem construct_thrives (env : Env) (connection : IVIConnection) :
    wp (construct env callbacks)
      (fun _ after => Steady 0 callbacks everyKind after ∧ Healthy callbacks everyKind none after ∧
        after.unaryShut = false) Calm (World.before connection) := by
  rw [construct, wp_bind]
  have steady : Steady 0 callbacks (fun _ => False) (World.before connection) :=
    ⟨Nat.zero_le _, fun _ _ _ _ present => absurd present (Nat.lt_irrefl 0),
      fun _ _ _ _ _ => rfl, fun _ never => never.elim, fun _ never => never.elim,
      fun _ never => never.elim⟩
  have healthy : Healthy callbacks (fun _ => False) none (World.before connection) :=
    ⟨rfl, fun _ never => never.elim⟩
  refine wp_mono (wp_and
    (keeps_each (fun client _ => reinitialize_unary_client_undisturbed env client) _
      (Undisturbed.refl (World.before connection)))
    (keeps_each (fun client _ => reinitialize_unary_client_shut env client) _
      (rfl : (World.before connection).unaryShut = false))) ?_ fun _ _ stopped => stopped.1
  rintro _ world ⟨same, unshut⟩
  rw [wp_bind]
  apply wp_then (each_stream_builds env _ (fun _ _ _ _ _ built => built)
    (steady.transport same.toLesser) (healthy.transport same))
  rintro _ after ⟨steady, healthy, _, unary⟩
  rw [sanity_check_passes, wp_pure]
  exact ⟨steady, healthy, unary.trans unshut⟩

/-! ## Poll -/

/-- What a `Poll` that returns true leaves, given the state it began in. -/
structure Recovered (callbacks : IVIStreamCallbacks) (start world : World) : Prop where
  healthy : Healthy callbacks everyKind none world
  unary : world.unaryShut = false
  anew : failures start.log < failures world.log →
    ∀ kind, start.next ≤ (world.state kind).subscription

theorem Steady.since (steady : Steady base callbacks ready world) {least : Nat}
    (come : least ≤ world.next) : Steady least callbacks ready world := { steady with come := come }

theorem Thriving.recovered {start : World}
    (thriving : Thriving callbacks none (failures start.log) world)
    (unary : world.unaryShut = false) : Recovered callbacks start world :=
  ⟨thriving.1, unary, fun more => absurd thriving.2 (Nat.ne_of_gt more)⟩

/-- The reinitialisations at the end of `Poll`. A queue that saw no failure is
as it was, the other one is replaced. -/
theorem reinitialize_recovers (env : Env) {start : World} (unaryShutdown streamShutdown : Bool)
    (wired : Wired world) (steady : Steady start.next callbacks everyKind world)
    (unary : unaryShutdown = false → world.unaryShut = false)
    (stream : streamShutdown = false → Thriving callbacks none (failures start.log) world) :
    wp (do
        onlyIf unaryShutdown (reinitializeUnary env)
        onlyIf streamShutdown (reinitializeStream env)
        pure true : Manager Bool)
      (fun _ after => Steady start.next callbacks everyKind after ∧
        Recovered callbacks start after) Calm world := by
  have renewed : wp (onlyIf unaryShutdown (reinitializeUnary env))
      (fun _ after => Wired after ∧ Undisturbed world after ∧ after.unaryShut = false) Calm
        world := by
    rw [wp_only_if]
    split
    · exact wp_mono (wp_and (reinitialize_unary_wired env world wired)
        (reinitialize_unary_undisturbed env wired)) (fun _ _ both => both)
          fun _ _ stopped => stopped.2
    · next fine =>
        exact ⟨wired, Undisturbed.refl world, unary (by simpa using fine)⟩
  rw [wp_bind]
  apply wp_then renewed
  rintro _ middle ⟨wired, same, unshut⟩
  have steady : Steady start.next callbacks everyKind middle := steady.transport same.toLesser
  rw [wp_bind, wp_only_if]
  split
  · apply wp_then (reinitialize_stream_thrives env wired steady)
    rintro _ after ⟨again, healthy, anew, shut⟩
    exact ⟨again, healthy, shut.trans unshut,
      fun _ kind => Nat.le_trans steady.come (anew kind)⟩
  · next fine =>
      have thriving : Thriving callbacks none (failures start.log) middle :=
        (stream (by simpa using fine)).transport same
      exact ⟨steady, thriving.recovered unshut⟩

theorem poll_recovers (env : Env) (channelState : ChannelState)
    {unaryPasses streamPasses : List Pass} (unaryPolite : PassesAllowed goodManners unaryPasses)
    (streamPolite : PassesAllowed goodManners streamPasses) (wired : Wired world)
    (steady : Steady world.next callbacks everyKind world)
    (healthy : Healthy callbacks everyKind none world) (unshut : world.unaryShut = false) :
    wp (poll (grpc env) channelState unaryPasses streamPasses)
      (fun result after => result = true → Steady world.next callbacks everyKind after ∧
        Recovered callbacks world after) Calm world := by
  have passed := @check_keeps (fun after => after = world) Calm
    (fun after _ => calm Halt.noConfusion after) env.build
    env.configuration.autoconfirmStreamUpdates world rfl
  rw [poll, wp_bind]
  apply wp_then passed
  rintro _ after same
  rw [same, wp_bind]
  -- No pass over the unary queue disturbs the streams.
  have unaryRules := ((queue_wired env true).restrict goodManners).over
    (queue_undisturbed env world)
  refine wp_mono (wp_and (poll_queue_keeps unaryRules unaryPolite world
    ⟨wired, Undisturbed.refl world⟩) (poll_queue_frame (grpc env) true unaryPasses world)) ?_
      fun _ _ stopped => stopped.1.2
  rintro unaryShutdown middle ⟨⟨wired, same⟩, framed⟩
  have thriving : Thriving callbacks none (failures world.log) middle :=
    Thriving.transport ⟨healthy, rfl⟩ same
  have steady : Steady world.next callbacks everyKind middle := steady.transport same.toLesser
  rw [wp_bind]
  -- The pass over the stream queue keeps them alive, or fails and keeps what a rebuild
  -- needs.
  have steadyRules := ((queue_wired env false).restrict goodManners).over
    (@queue_steady world.next callbacks env false)
  have shutRules := ((queue_wired env false).restrict goodManners).over
    (queue_unary_shut env middle.unaryShut)
  refine wp_mono (wp_and (poll_queue_keeps steadyRules streamPolite middle ⟨wired, steady⟩)
    (wp_and (poll_queue_keeps shutRules streamPolite middle ⟨wired, rfl⟩)
      (poll_stream_thrives env streamPolite (failures world.log) wired steady thriving))) ?_
        fun _ _ stopped => stopped.1.2
  rintro streamShutdown after ⟨⟨wired, steady⟩, ⟨_, shut⟩, thrives⟩
  have unary : unaryShutdown = false → after.unaryShut = false := by
    intro fine
    rw [shut, (framed fine).unaryShut, unshut]
  rw [wp_ite]
  split
  · rw [wp_ite]
    split
    · intro never
      cases never
    · refine wp_then (reinitialize_recovers env unaryShutdown streamShutdown wired steady unary
        thrives) fun _ _ both _ => both
  · next fine =>
      simp only [Bool.or_eq_true, not_or, Bool.not_eq_true] at fine
      intro _
      exact ⟨steady, (thrives fine.2).recovered (unary fine.1)⟩

/-! ## Runs -/

/-- The state between two actions, unless a `Poll` gave up. -/
structure Thrives (callbacks : IVIStreamCallbacks) (world : World) : Prop where
  wired : Wired world
  steady : Steady 0 callbacks everyKind world
  healthy : Healthy callbacks everyKind none world
  unary : world.unaryShut = false

theorem Thrives.steady_now (thrives : Thrives callbacks world) :
    Steady world.next callbacks everyKind world := thrives.steady.since (Nat.le_refl _)

theorem act_thrives (env : Env) (action : Action) (polite : PoliteUse action)
    (thrives : Thrives callbacks world) :
    wp (act (grpc env) action)
      (fun reply after => reply ≠ .polled false → Thrives callbacks after) Calm world := by
  have wires := act_keeps (actions_wired env) (any_action_allowed action) world thrives.wired
  obtain ⟨simple, allowed⟩ := polite
  cases action with
  | call call =>
      rw [act, wp_bind] at wires ⊢
      have called := wp_and (call_undisturbed env .direct call allowed (Undisturbed.refl world))
        (api_call_frame env world .direct call world (Frame.refl world))
      refine wp_mono (wp_and wires called) ?_ fun _ _ never => never.2.1.elim
      rintro _ after ⟨wired, same, framed⟩ _
      exact ⟨wired, thrives.steady.transport same.toLesser, thrives.healthy.transport same,
        framed.unaryShut.trans thrives.unary⟩
  | poll channelState unaryPasses streamPasses =>
      rw [act, wp_bind] at wires ⊢
      refine wp_mono (wp_and wires (poll_recovers env channelState allowed.1 allowed.2
        thrives.wired thrives.steady_now thrives.healthy thrives.unary)) ?_
          fun _ _ stopped => stopped.2
      rintro result after ⟨wired, recovers⟩ honest
      have fine : result = true := by
        cases result with
        | true => rfl
        | false => exact absurd rfl honest
      obtain ⟨steady, recovered⟩ := recovers fine
      exact ⟨wired, steady.since (Nat.zero_le _), recovered.healthy, recovered.unary⟩
  | pollUnary passes => exact simple.elim
  | pollStream passes => exact simple.elim
  | reinitializeUnary => exact simple.elim
  | reinitializeStream => exact simple.elim

theorem reached_thrives {env : Env} {connection : IVIConnection} {actions : List Action}
    {replies : List Reply} (distinct : connection.streamQueue ≠ connection.unaryQueue)
    (polite : ∀ action ∈ actions, PoliteUse action) (honest : .polled false ∉ replies)
    (reached : Reached (grpc env) connection callbacks actions replies world) :
    Thrives callbacks world := by
  obtain ⟨first, constructed, ran⟩ := reached.ran
  have wired := wp_returned (construct_wired env callbacks connection distinct) constructed
  obtain ⟨steady, healthy, unary⟩ := wp_returned (construct_thrives env connection) constructed
  refine run_rule PoliteUse
    (fun replies world => .polled false ∉ replies → Thrives callbacks world) ?_ actions polite
    (fun _ => ⟨wired, steady, healthy, unary⟩) ran honest
  intro action replies world reply after allowed thrives resumed honest
  rw [List.mem_cons, not_or] at honest
  have acted := act_thrives env action allowed (thrives honest.2)
  rcases resume_rule resumed with returned | ⟨_, threw⟩
  · have thrives := wp_returned acted returned
    exact thrives (Ne.symm honest.1)
  · exact absurd rfl (wp_stopped acted threw)

/-- What a subscribed client looks like between two polls. -/
structure SubscribedClient (kind : StreamKind) (callback : CallbackId) (world : World) : Prop where
  holds : (world.streams kind).callback = some callback
  finishUncalled : (world.state kind).finishCalled = false
  finishUnresponded : (world.state kind).finishResponded = false
  reading : (world.pending world.connection.streamQueue).count (world.tagOf kind .read) = 1
  elsewhere : ∀ queue, queue ≠ world.connection.streamQueue →
    world.tagOf kind .read ∉ world.pending queue

/-- The client has a newer subscription than before. -/
structure Resubscribed (kind : StreamKind) (start world : World) : Prop where
  newer : (start.state kind).subscription < (world.state kind).subscription
  told : ∃ request, .subscribed kind (world.state kind).subscription request ∈ world.log

theorem Live.client {kind : StreamKind} {callback : CallbackId} (live : Live 1 kind world)
    (holds : (world.streams kind).callback = some callback) :
    SubscribedClient kind callback world where
  holds := holds
  finishUncalled := live.uncalled
  finishUnresponded := live.unresponded
  reading := (live.reads _).trans (if_pos rfl)
  elsewhere queue other := List.count_eq_zero.mp ((live.reads queue).trans (if_neg other))

/-- No stream dies silently. Whenever `Poll` returns true, both queues are open,
each client with a callback has it and waits for one message on the stream queue,
and one without has nothing to wait for. If anything on the stream queue failed
meanwhile, every subscribed stream was subscribed anew. -/
theorem no_stream_dies (env : Env) (connection : IVIConnection)
    (distinct : connection.streamQueue ≠ connection.unaryQueue) (callbacks : IVIStreamCallbacks)
    (actions : List Action) (polite : ∀ action ∈ actions, PoliteUse action)
    (replies : List Reply) (honest : .polled false ∉ replies) (world : World)
    (reached : Reached (grpc env) connection callbacks actions replies world)
    (channelState : ChannelState) (unaryPasses streamPasses : List Pass)
    (next : PoliteUse (.poll channelState unaryPasses streamPasses)) (after : World)
    (polled : act (grpc env) (.poll channelState unaryPasses streamPasses) world =
      .returned (.polled true) after) :
    after.streamShut = false ∧ after.unaryShut = false ∧
    (∀ kind callback, callbacks kind = some callback → SubscribedClient kind callback after) ∧
    (∀ kind, callbacks kind = none → ∀ queue subscription slot,
      .stream kind subscription slot ∉ after.pending queue) ∧
    (failures world.log < failures after.log →
      ∀ kind, (callbacks kind).isSome = true → Resubscribed kind world after) := by
  have thrives := reached_thrives distinct polite honest reached
  have polls := poll_recovers env channelState next.2.1 next.2.2 thrives.wired
    thrives.steady_now thrives.healthy thrives.unary
  have acted : wp (act (grpc env) (.poll channelState unaryPasses streamPasses))
      (fun reply after => reply = .polled true → Steady world.next callbacks everyKind after ∧
        Recovered callbacks world after) Calm world := by
    rw [act, wp_bind]
    apply wp_then polls
    rintro result after recovers same
    exact recovers (by simpa using same)
  have recovers := wp_returned acted polled
  obtain ⟨steady, recovered⟩ := recovers rfl
  have live : ∀ kind, (callbacks kind).isSome = true → Live 1 kind after :=
    fun kind subscribed => recovered.healthy.live kind trivial subscribed
  refine ⟨recovered.healthy.unshut, recovered.unary, ?_, ?_, ?_⟩
  · intro kind callback given
    apply (live kind (by rw [given]; rfl)).client
    rw [steady.own kind trivial, given]
  · intro kind none queue subscription slot
    exact List.count_eq_zero.mp (steady.unsubscribed kind none queue subscription slot)
  · intro failed kind subscribed
    exact ⟨Nat.lt_of_lt_of_le (thrives.steady.current kind trivial) (recovered.anew failed kind),
      (live kind subscribed).told⟩

/-- The item stream is refused and winds up before the queue is replaced. -/
def refusedPasses : List Pass :=
  [{ events := [.stream .item { subscription := 7, slot := .initMetadata, ok := false }] },
    { events := [.stream .item { subscription := 7, slot := .start, ok := false },
      .stream .item { subscription := 7, slot := .read, ok := false },
      .stream .item { subscription := 7, slot := .finish, ok := true }] },
    { last := some .shutdown }]

/-- It is subscribed again when `Poll` returns. -/
theorem refused_stream_lives : newConnection.streamQueue ≠ newConnection.unaryQueue ∧
    PoliteUse (.poll .other [{}] refusedPasses) ∧
    ∃ world after, Reached (grpc defaultEnv) newConnection itemCallbacks [] [] world ∧
      act (grpc defaultEnv) (.poll .other [{}] refusedPasses) world =
        .returned (.polled true) after ∧
      after.streamShut = false ∧ after.unaryShut = false ∧
      SubscribedClient .item 0 after ∧ Resubscribed .item world after := by
  have polite : PoliteUse (.poll .other [{}] refusedPasses) := by
    simp [refusedPasses, PoliteUse, PollsAndCalls, ActionAllowed, PassesAllowed, Pass.Allowed,
      Manners.Allows]
  have reached : Reached (grpc defaultEnv) newConnection itemCallbacks [] [] _ :=
    ⟨_, Outcome.eq_returned (by decide +kernel), rfl⟩
  obtain ⟨stream, unary, clients, _, anew⟩ := no_stream_dies defaultEnv newConnection
    new_connection_distinct itemCallbacks [] (fun _ never => by cases never) []
    (fun never => by cases never) _ reached .other [{}] refusedPasses polite _
    (Outcome.eq_returned (by decide +kernel))
  exact ⟨new_connection_distinct, polite, _, _, reached, Outcome.eq_returned (by decide +kernel),
    stream, unary, clients .item 0 rfl, anew (by decide +kernel) .item rfl⟩

end IviSdk.LiveStreams
