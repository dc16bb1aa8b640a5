import IviSdk.ClientManager

/-!
Rules for the code a tag runs. What an application callback can do is said once,
as a frame: queues are neither replaced nor shut while it runs. A property that
survives the few things a dispatched tag does survives `(*cb)(ok)`.
-/

namespace IviSdk.CallbackRules

open Checks Results CompletionQueues Streams ManagerWorld Interaction StreamClients
open ClientManager

variable {kept : World → Prop} {abrupt : Halt → World → Prop}

/-! ## Allocation of a unary call -/

/-- What `CallUnaryAsync` does to the world. -/
def allocate (origin : Origin) (world : World) : World :=
  ({ world with next := world.next + 1 } : World).put world.connection.unaryQueue
    (.unary origin world.next)

@[simp] theorem wp_call_unary_async {normal : Unit → World → Prop} {world : World}
    (origin : Origin) :
    wp (callUnaryAsync origin) normal abrupt world ↔ normal () (allocate origin world) := by
  simp [callUnaryAsync, allocate]

@[simp] theorem allocate_connection (origin : Origin) (world : World) :
    (allocate origin world).connection = world.connection := rfl

@[simp] theorem allocate_streams (origin : Origin) (world : World) :
    (allocate origin world).streams = world.streams := rfl

@[simp] theorem allocate_next (origin : Origin) (world : World) :
    (allocate origin world).next = world.next + 1 := rfl

@[simp] theorem allocate_log (origin : Origin) (world : World) :
    (allocate origin world).log = .started world.connection.unaryQueue world.unaryShut
      (.unary origin world.next) :: world.log := rfl

@[simp] theorem allocate_shut (origin : Origin) (world : World) (queue : QueueId) :
    ((allocate origin world).queues queue).shut = (world.queues queue).shut := by
  unfold allocate
  rw [put_shut]

theorem allocate_pending (origin : Origin) (world : World) (queue : QueueId) :
    (allocate origin world).pending queue =
      if queue = world.connection.unaryQueue then
        .unary origin world.next :: world.pending world.connection.unaryQueue
      else world.pending queue := by
  unfold allocate
  rw [put_pending]
  rfl

/-! ## Calls on a client -/

/-- `Finish` goes to the reader: the call has not ended, its initial metadata
came, and the reader was not asked before. -/
structure AsksReader (kind : StreamKind) (world : World) : Prop where
  unanswered : (world.state kind).finishResponded = false
  metadata : (world.state kind).initMetadataReceived = true
  uncalled : (world.state kind).finishCalled = false

/-- Everything `Finish` can do. -/
theorem finish_rule {normal : World → Prop} {world : World} (kind : StreamKind)
    (answered : (world.state kind).finishResponded = true → normal world)
    (cancels : (world.state kind).finishResponded = false → ¬ AsksReader kind world →
      normal ((world.note (.tryCancel kind (world.state kind).subscription)).setState kind
        ({ · with finishResponded := true })))
    (asks : AsksReader kind world → ∀ queue, (world.state kind).updateReader = some queue →
      normal ((world.put queue (world.tagOf kind .finish)).setState kind
        ({ · with finishCalled := true })))
    (missing : AsksReader kind world → (world.state kind).updateReader = none →
      abrupt .undefined world) :
    wp (finish kind) (fun _ => normal) abrupt world := by
  simp only [finish, wp_bind, wp_read, wp_ite, wp_note, wp_set_state, wp_pure, wp_through_reader]
  split
  · next responded => exact answered responded
  · next unanswered =>
      rw [Bool.not_eq_true] at unanswered
      split
      · next early =>
          refine cancels unanswered fun asking => ?_
          simp [asking.metadata, asking.uncalled] at early
      · next direct =>
          simp only [Bool.or_eq_true, Bool.not_eq_true', not_or, Bool.not_eq_false,
            Bool.not_eq_true] at direct
          have asking : AsksReader kind world := ⟨unanswered, direct.1, direct.2⟩
          split
          · next queue reader => exact asks asking queue reader
          · next reader => exact missing asking reader

/-- A call starts a unary call, possibly with a note of what it confirms, or is
a call of `Finish`. -/
theorem api_call_rule {normal : World → Prop} {world : World} (env : Env) (origin : Origin)
    (call : ApiCall)
    (requests : ∀ client, call = .request client →
      normal (allocate origin (world.note (.called call world.unaryShut))))
    (confirms : ∀ kind arguments, call = .confirm kind arguments → ∀ value,
      normal (allocate .confirm ((world.note (.called call world.unaryShut)).note
        (.update kind (world.state kind).subscription value))))
    (finishes : ∀ kind, call = .finish kind →
      wp (finish kind) (fun _ => normal) abrupt (world.note (.called call world.unaryShut))) :
    wp (apiCall env origin call) (fun _ => normal) abrupt world := by
  unfold apiCall
  rw [wp_bind, wp_modify]
  cases call with
  | request client =>
      rw [wp_call_unary_async]
      exact requests client rfl
  | confirm kind arguments =>
      simp only [confirm, wp_bind, wp_update, wp_call_unary_async]
      exact confirms kind arguments rfl _
  | finish kind => exact finishes kind rfl

/-! ## Construction of a stream client -/

/-- A client that was just constructed, with a state of its own. -/
def newClient (kind : StreamKind) (callback : Option CallbackId) (world : World) : World :=
  ({ world with next := world.next + 1 } : World).setClient kind
    { callback := callback, state := { subscription := world.next } }

/-- What `Subscribe` does to the world. -/
def subscribed (env : Env) (kind : StreamKind) (world : World) : World :=
  let queue := world.connection.streamQueue
  let subscription := (world.state kind).subscription
  let reading := world.setState kind ({ · with updateReader := some queue })
  let told := reading.note
    (.subscribed kind subscription { environmentId := env.configuration.environmentId })
  let started := (told.put queue (.stream kind subscription .start)).put queue
    (.stream kind subscription .initMetadata)
  (started.note (.update kind subscription .issued)).put queue (.stream kind subscription .read)

/-- A property that survives the parts of `Subscribe`, up to its first read. -/
theorem subscribed_read_rule {kept final : World → Prop} (env : Env) (kind : StreamKind)
    (world : World)
    (told : kept ((world.setState kind
      ({ · with updateReader := some world.connection.streamQueue })).note
      (.subscribed kind (world.state kind).subscription
        { environmentId := env.configuration.environmentId })))
    (starts : ∀ slot after, slot ≠ .read → after.connection = world.connection → kept after →
      kept (after.put world.connection.streamQueue
        (.stream kind (world.state kind).subscription slot)))
    (issues : ∀ after, kept after →
      kept (after.note (.update kind (world.state kind).subscription .issued)))
    (reads : ∀ after, after.connection = world.connection → kept after →
      final (after.put world.connection.streamQueue
        (.stream kind (world.state kind).subscription .read))) :
    final (subscribed env kind world) := by
  refine reads _ ?_ (issues _ (starts .initMetadata _ (by decide) ?_
    (starts .start _ (by decide) ?_ told)))
  all_goals rfl

/-- A property that survives the parts of `Subscribe`. -/
theorem subscribed_rule {kept : World → Prop} (env : Env) (kind : StreamKind) (world : World)
    (told : kept ((world.setState kind
      ({ · with updateReader := some world.connection.streamQueue })).note
      (.subscribed kind (world.state kind).subscription
        { environmentId := env.configuration.environmentId })))
    (starts : ∀ slot after, after.connection = world.connection → kept after →
      kept (after.put world.connection.streamQueue
        (.stream kind (world.state kind).subscription slot)))
    (issues : ∀ after, kept after →
      kept (after.note (.update kind (world.state kind).subscription .issued))) :
    kept (subscribed env kind world) :=
  subscribed_read_rule env kind world told (fun slot after _ => starts slot after) issues
    (starts .read)

theorem subscribed_connection (env : Env) (kind : StreamKind) (world : World) :
    (subscribed env kind world).connection = world.connection := by
  apply @subscribed_rule (fun after => after.connection = world.connection)
  · rw [note_connection, set_state_connection]
  · exact fun _ _ _ same => same
  · exact fun _ same => same

theorem wp_subscribe {normal : Unit → World → Prop} {world : World} (env : Env)
    (kind : StreamKind) :
    wp (subscribe env kind) normal abrupt world ↔ normal () (subscribed env kind world) := by
  have reader : ((world.setState kind
      ({ · with updateReader := some world.connection.streamQueue })).state kind).updateReader =
        some world.connection.streamQueue := by
    rw [set_state_same]
  have same : ((world.setState kind
      ({ · with updateReader := some world.connection.streamQueue })).state kind).subscription =
        (world.state kind).subscription := by
    rw [set_state_same]
  simp only [subscribe, readNext, wp_bind, wp_read, wp_set_state, wp_note, wp_update,
    wp_through_reader, World.state, note_streams, put_streams]
  simp only [World.state] at reader same
  simp only [reader, World.tagOf, World.state, note_streams, put_streams, same]
  rfl

theorem wp_construct_stream {normal : Unit → World → Prop} {world : World} (env : Env)
    (kind : StreamKind) (callback : Option CallbackId)
    (exited : clientChecks env ≠ .ok () → abrupt .exited world)
    (subscribes : callback.isSome = true →
      normal () (subscribed env kind (newClient kind callback world)))
    (idles : callback = none → normal () ((newClient kind callback world).setState kind
      ({ · with finishResponded := true }))) :
    wp (constructStream env kind callback) normal abrupt world := by
  rw [constructStream, wp_bind]
  refine wp_client_checks env ?_ exited
  simp only [wp_bind, wp_fresh, wp_modify, wp_ite]
  cases callback with
  | some id =>
      simp only [Option.isSome_some, ↓reduceIte, wp_subscribe]
      exact subscribes rfl
  | none =>
      simp only [Option.isSome_none, Bool.false_eq_true, ↓reduceIte, wp_set_state]
      exact idles rfl

/-! ## Frames -/

/-- Queues are neither replaced nor shut, stream clients are not rebuilt, and
nothing is taken out of the log. -/
structure Frame (before after : World) : Prop where
  connection : after.connection = before.connection
  shut : ∀ queue, (after.queues queue).shut = (before.queues queue).shut
  callbacks : ∀ kind, (after.streams kind).callback = (before.streams kind).callback
  subscriptions : ∀ kind, (after.state kind).subscription = (before.state kind).subscription
  readers : ∀ kind, (after.state kind).updateReader = (before.state kind).updateReader
  log : ∀ event ∈ before.log, event ∈ after.log

namespace Frame

variable {before middle after world : World}

theorem refl (world : World) : Frame world world :=
  ⟨rfl, fun _ => rfl, fun _ => rfl, fun _ => rfl, fun _ => rfl, fun _ member => member⟩

theorem trans (first : Frame before middle) (second : Frame middle after) :
    Frame before after where
  connection := second.connection.trans first.connection
  shut queue := (second.shut queue).trans (first.shut queue)
  callbacks kind := (second.callbacks kind).trans (first.callbacks kind)
  subscriptions kind := (second.subscriptions kind).trans (first.subscriptions kind)
  readers kind := (second.readers kind).trans (first.readers kind)
  log event member := second.log event (first.log event member)

theorem note (framed : Frame before world) (event : Event) : Frame before (world.note event) :=
  framed.trans ⟨rfl, fun _ => rfl, fun _ => rfl, fun _ => rfl, fun _ => rfl,
    fun _ member => List.mem_cons_of_mem _ member⟩

theorem put (framed : Frame before world) (queue : QueueId) (tag : Tag) :
    Frame before (world.put queue tag) :=
  framed.trans ⟨rfl, fun _ => put_shut _ _ _ _, fun _ => rfl, fun _ => rfl, fun _ => rfl,
    fun _ member => List.mem_cons_of_mem _ member⟩

theorem take (framed : Frame before world) (queue : QueueId) (tag : Tag) :
    Frame before (world.take queue tag) :=
  framed.trans ⟨rfl, fun _ => take_shut _ _ _ _, fun _ => rfl, fun _ => rfl, fun _ => rfl,
    fun _ member => member⟩

theorem setState (framed : Frame before world) (kind : StreamKind)
    (change : StreamState kind → StreamState kind)
    (subscription : ∀ state, (change state).subscription = state.subscription)
    (reader : ∀ state, (change state).updateReader = state.updateReader) :
    Frame before (world.setState kind change) := by
  refine framed.trans ⟨rfl, fun _ => rfl, fun _ => set_state_callback _ _ _ _, ?_, ?_,
    fun _ member => member⟩
  · intro other
    by_cases same : other = kind
    · subst other
      rw [set_state_same, subscription]
    · rw [World.state, set_state_other world kind change other same, World.state]
  · intro other
    by_cases same : other = kind
    · subst other
      rw [set_state_same, reader]
    · rw [World.state, set_state_other world kind change other same, World.state]

theorem allocate (framed : Frame before world) (origin : Origin) :
    Frame before (allocate origin world) :=
  framed.trans ⟨rfl, fun _ => allocate_shut _ _ _, fun _ => rfl, fun _ => rfl, fun _ => rfl,
    fun _ member => List.mem_cons_of_mem _ member⟩

theorem streamShut (framed : Frame before after) : after.streamShut = before.streamShut := by
  unfold World.streamShut
  rw [framed.connection, framed.shut]

theorem unaryShut (framed : Frame before after) : after.unaryShut = before.unaryShut := by
  unfold World.unaryShut
  rw [framed.connection, framed.shut]

end Frame

theorem finish_frame (before : World) (kind : StreamKind) :
    Keeps (Frame before) (fun _ => Frame before) (finish kind) := by
  intro world framed
  apply finish_rule kind
  · exact fun _ => framed
  · intro _ _
    exact (framed.note _).setState _ _ (fun _ => rfl) fun _ => rfl
  · intro _ queue _
    exact (framed.put _ _).setState _ _ (fun _ => rfl) fun _ => rfl
  · exact fun _ _ => framed

theorem api_call_frame (env : Env) (before : World) (origin : Origin) (call : ApiCall) :
    Keeps (Frame before) (fun _ => Frame before) (apiCall env origin call) := by
  intro world framed
  have called := framed.note (.called call world.unaryShut)
  apply api_call_rule env origin call
  · exact fun _ _ => called.allocate origin
  · exact fun _ _ _ _ => (called.note _).allocate .confirm
  · exact fun kind _ => finish_frame before kind _ called

/-- A callback that throws does not return. -/
theorem react_frame (env : Env) (before world : World) (reaction : Reaction)
    (framed : Frame before world) :
    wp (react env reaction) (fun _ after => Frame before after ∧ reaction.throws = false)
      (fun _ => Frame before) world := by
  rw [react, wp_bind]
  apply wp_then (keeps_each (fun call _ => api_call_frame env before .nested call) world framed)
  intro _ after framed
  cases throws : reaction.throws with
  | true => simpa [throws] using framed
  | false => simpa [throws] using framed

/-! ## Dispatching a tag -/

/-- The two sides of a completion: what the application's callback may call and
whether it may throw, and whether a broken `httpcode` may make the SDK throw. -/
structure Manners where
  mayCall : ApiCall → Prop
  mayThrow : Prop
  mayBreak : Prop

/-- Any `ApiCall`s of a callback, and any trailers. -/
def anyManners : Manners where
  mayCall _ := True
  mayThrow := True
  mayBreak := True

/-- Callbacks that return normally and make unary calls only, and trailers in
which any `httpcode` is an `int`. -/
def goodManners : Manners where
  mayCall
    | .finish _ => False
    | _ => True
  mayThrow := False
  mayBreak := False

structure Manners.Follows (manners : Manners) (context : ClientContext) (reaction : Reaction) :
    Prop where
  calls : ∀ call ∈ reaction.calls, manners.mayCall call
  throws : reaction.throws = true → manners.mayThrow
  parses : manners.mayBreak ∨ HttpCodeParses context

def Manners.Allows (manners : Manners) : Completion → Prop
  | .stream _ completion => manners.Follows completion.context completion.reaction
  | .unary completion => manners.Follows completion.context completion.reaction

theorem any_manners_allow (completion : Completion) : anyManners.Allows completion := by
  cases completion with
  | stream kind completion => exact ⟨fun _ _ => trivial, fun _ => trivial, .inl trivial⟩
  | unary completion => exact ⟨fun _ _ => trivial, fun _ => trivial, .inl trivial⟩

/-- A callback that does nothing, and no trailers. -/
@[simp] theorem silent_follows (manners : Manners) : manners.Follows {} {} where
  calls _ member := by cases member
  throws never := by cases never
  parses := .inr fun _ found => by cases found

variable {env : Env} {manners : Manners}

theorem react_keeps {reaction : Reaction} {context : ClientContext}
    (polite : manners.Follows context reaction)
    (call : ∀ call, manners.mayCall call → Keeps kept abrupt (apiCall env .nested call))
    (threw : manners.mayThrow → ∀ world, kept world → abrupt .threw world) :
    Keeps kept abrupt (react env reaction) :=
  keeps_bind (keeps_each fun one member => call one (polite.calls one member))
    fun _ => keeps_only_if fun throws => keeps_stop (threw (polite.throws throws))

/-- The same with the frame: what was true of the queues and in the log when the
callback was entered still is when it returns. -/
theorem react_keeps_framed {reaction : Reaction} {context : ClientContext} {before world : World}
    (polite : manners.Follows context reaction)
    (call : ∀ call, manners.mayCall call → Keeps kept abrupt (apiCall env .nested call))
    (threw : manners.mayThrow → ∀ world, kept world → abrupt .threw world)
    (framed : Frame before world) (holds : kept world) :
    wp (react env reaction)
      (fun _ after => kept after ∧ Frame before after ∧ reaction.throws = false) abrupt world :=
  wp_mono (wp_and (react_keeps polite call threw world holds)
    (react_frame env before world reaction framed)) (fun _ _ both => both)
    fun _ _ stopped => stopped.1

theorem log_stream_failure_keeps {reaction : Reaction} {context : ClientContext}
    (polite : manners.Follows context reaction)
    (threw : manners.mayBreak → ∀ world, kept world → abrupt .threw world) :
    Keeps kept abrupt (logStreamFailure env context) := by
  intro world holds
  rw [logStreamFailure, wp_checked]
  rcases log_failure_cases env.build context with logged | ⟨problem, logged⟩
  · rw [logged]
    exact holds
  · rcases polite.parses with may | parses
    · rw [logged]
      exact threw may world holds
    · rw [log_failure_parses env.build context parses]
      exact holds

/-- Only a broken `httpcode` makes the tag of a unary call throw by itself. -/
theorem passed_status_parses (env : Env) (completion : UnaryCompletion)
    (parses : HttpCodeParses completion.context) (exception : CppException) :
    passedStatus env completion ≠ .error (.threw exception) := by
  obtain ⟨translated, fails, _⟩ :=
    translate_grpc_error_parses completion.context completion.status parses
  unfold passedStatus UnaryCalls.checkOkUnaryAsync
  rw [log_failure_parses env.build completion.context parses, fails]
  cases completion.ok <;> cases completion.status.ok <;> cases completion.parserExits <;>
    simp [bind, Except.bind]

/-- The tag being dispatched was delivered while the queues were as they are. -/
def Announced (completion : Completion) (world : World) : Prop :=
  ∃ unary, Event.delivered unary completion world.streamShut world.unaryShut ∈ world.log

theorem Announced.frame {completion : Completion} {before after : World}
    (announced : Announced completion before) (framed : Frame before after) :
    Announced completion after := by
  obtain ⟨unary, member⟩ := announced
  refine ⟨unary, ?_⟩
  rw [framed.streamShut, framed.unaryShut]
  exact framed.log _ member

/-- A read that brought a message whose callback returns. -/
structure GoodRead {kind : StreamKind} (completion : StreamCompletion kind) : Prop where
  slot : completion.slot = .read
  ok : completion.ok = true
  returns : completion.reaction.throws = false

/-- What the client may note of its own read: of one that failed, only that. -/
def Noted {kind : StreamKind} (completion : StreamCompletion kind) (value : Update kind) : Prop :=
  completion.slot = .read ∧ (completion.ok = false → value = .failed)

/-- A property of the manager that survives whatever the tag of this completion
does when it is dispatched. -/
structure DispatchKept (env : Env) (manners : Manners) (completion : Completion)
    (kept : World → Prop) (abrupt : Halt → World → Prop) : Prop where
  threw : manners.mayThrow ∨ manners.mayBreak → ∀ world, kept world → abrupt .threw world
  exited : ∀ world, kept world → abrupt .exited world
  undefined : ∀ world, kept world → abrupt .undefined world
  call : ∀ call, manners.mayCall call → Keeps kept abrupt (apiCall env .nested call)
  update : ∀ kind (received : StreamCompletion kind), completion = .stream kind received →
    ∀ value, Noted received value → ∀ subscription world, kept world →
    kept (world.note (.update kind subscription value))
  completed : ∀ unary, completion = .unary unary → ∀ status world, kept world →
    kept (world.note (.completed completion.tag status))
  startReceived : ∀ kind (received : StreamCompletion kind), completion = .stream kind received →
    received.slot = .start → ∀ world, kept world →
    kept (world.setState kind ({ · with startReceived := true }))
  initMetadataReceived : ∀ kind (received : StreamCompletion kind),
    completion = .stream kind received → received.slot = .initMetadata → ∀ world, kept world →
    kept (world.setState kind ({ · with initMetadataReceived := true }))
  finishResponded : ∀ kind (received : StreamCompletion kind), completion = .stream kind received →
    received.slot = .finish → ∀ world, kept world →
    kept (world.setState kind ({ · with finishResponded := true }))
  confirms : ∀ kind (received : StreamCompletion kind), completion = .stream kind received →
    GoodRead received → env.configuration.autoconfirmStreamUpdates = true →
    ∀ world, Announced completion world → kept world → kept (allocate .confirm world)
  reads : ∀ kind (received : StreamCompletion kind), completion = .stream kind received →
    GoodRead received → ∀ world queue, Announced completion world → kept world →
    (world.state kind).updateReader = some queue → kept (world.put queue (world.tagOf kind .read))

/-- Rules for any callback are rules for polite ones. -/
theorem DispatchKept.restrict {completion : Completion}
    (rules : DispatchKept env anyManners completion kept abrupt) (manners : Manners) :
    DispatchKept env manners completion kept abrupt :=
  { rules with
    threw := fun _ => rules.threw (.inl trivial)
    call := fun call _ => rules.call call trivial }

/-- The same for a property that survives while a base property holds. -/
structure DispatchKeptOver (env : Env) (manners : Manners) (completion : Completion)
    (base kept : World → Prop) (abrupt : Halt → World → Prop) : Prop where
  threw : manners.mayThrow ∨ manners.mayBreak → ∀ world, base world → kept world →
    abrupt .threw world
  exited : ∀ world, base world → kept world → abrupt .exited world
  undefined : ∀ world, base world → kept world → abrupt .undefined world
  call : ∀ call, manners.mayCall call → ∀ world, base world → kept world →
    wp (apiCall env .nested call) (fun _ => kept) abrupt world
  update : ∀ kind (received : StreamCompletion kind), completion = .stream kind received →
    ∀ value, Noted received value → ∀ subscription world, kept world →
    kept (world.note (.update kind subscription value))
  completed : ∀ unary, completion = .unary unary → ∀ status world, kept world →
    kept (world.note (.completed completion.tag status))
  startReceived : ∀ kind (received : StreamCompletion kind), completion = .stream kind received →
    received.slot = .start → ∀ world, kept world →
    kept (world.setState kind ({ · with startReceived := true }))
  initMetadataReceived : ∀ kind (received : StreamCompletion kind),
    completion = .stream kind received → received.slot = .initMetadata → ∀ world, kept world →
    kept (world.setState kind ({ · with initMetadataReceived := true }))
  finishResponded : ∀ kind (received : StreamCompletion kind), completion = .stream kind received →
    received.slot = .finish → ∀ world, kept world →
    kept (world.setState kind ({ · with finishResponded := true }))
  confirms : ∀ kind (received : StreamCompletion kind), completion = .stream kind received →
    GoodRead received → env.configuration.autoconfirmStreamUpdates = true →
    ∀ world, Announced completion world → base world → kept world →
    kept (allocate .confirm world)
  reads : ∀ kind (received : StreamCompletion kind), completion = .stream kind received →
    GoodRead received → ∀ world queue, Announced completion world → base world → kept world →
    (world.state kind).updateReader = some queue → kept (world.put queue (world.tagOf kind .read))

theorem DispatchKept.over {completion : Completion} {more : World → Prop}
    {abrupt' : Halt → World → Prop} (rules : DispatchKept env manners completion kept abrupt)
    (rest : DispatchKeptOver env manners completion kept more abrupt') :
    DispatchKept env manners completion (fun world => kept world ∧ more world)
      (fun reason world => abrupt reason world ∧ abrupt' reason world) where
  threw may world both := ⟨rules.threw may world both.1, rest.threw may world both.1 both.2⟩
  exited world both := ⟨rules.exited world both.1, rest.exited world both.1 both.2⟩
  undefined world both := ⟨rules.undefined world both.1, rest.undefined world both.1 both.2⟩
  call call may world both :=
    wp_and (rules.call call may world both.1) (rest.call call may world both.1 both.2)
  update kind received same value noted subscription world both :=
    ⟨rules.update kind received same value noted subscription world both.1,
      rest.update kind received same value noted subscription world both.2⟩
  completed unary same status world both :=
    ⟨rules.completed unary same status world both.1,
      rest.completed unary same status world both.2⟩
  startReceived kind received same slot world both :=
    ⟨rules.startReceived kind received same slot world both.1,
      rest.startReceived kind received same slot world both.2⟩
  initMetadataReceived kind received same slot world both :=
    ⟨rules.initMetadataReceived kind received same slot world both.1,
      rest.initMetadataReceived kind received same slot world both.2⟩
  finishResponded kind received same slot world both :=
    ⟨rules.finishResponded kind received same slot world both.1,
      rest.finishResponded kind received same slot world both.2⟩
  confirms kind received same good auto world announced both :=
    ⟨rules.confirms kind received same good auto world announced both.1,
      rest.confirms kind received same good auto world announced both.1 both.2⟩
  reads kind received same good world queue announced both reader :=
    ⟨rules.reads kind received same good world queue announced both.1 reader,
      rest.reads kind received same good world queue announced both.1 both.2 reader⟩

section Dispatch

/-- `ProcessNext` on a message: whatever is kept until the read is rearmed, and
what holds from then on. -/
theorem process_message_rule {kind : StreamKind} {completion : StreamCompletion kind}
    {world : World} {final : World → Prop} (ok : completion.ok = true)
    (polite : manners.Follows completion.context completion.reaction)
    (update : ∀ value subscription world, kept world →
      kept (world.note (.update kind subscription value)))
    (call : ∀ call, manners.mayCall call → Keeps kept abrupt (apiCall env .nested call))
    (threw : manners.mayThrow → ∀ world, kept world → abrupt .threw world)
    (undefined : ∀ world, kept world → (world.state kind).updateReader = none →
      abrupt .undefined world)
    (confirms : completion.reaction.throws = false →
      env.configuration.autoconfirmStreamUpdates = true →
      ∀ world, kept world → kept (allocate .confirm world))
    (reads : completion.reaction.throws = false → ∀ world queue, kept world →
      (world.state kind).updateReader = some queue →
      final (world.put queue (world.tagOf kind .read)))
    (holds : kept world) :
    wp (processNext env kind completion) (fun _ => final) abrupt world := by
  unfold processNext
  simp only [ok, Bool.not_true, Bool.false_eq_true, ↓reduceIte, onCallback, wp_bind, wp_read,
    wp_update]
  apply wp_then (react_keeps_framed polite call threw (Frame.refl _) (update _ _ _ holds))
  rintro _ after ⟨holds, _, returns⟩
  replace holds := update .returned (after.state kind).subscription after holds
  -- With or without a confirmation the read is rearmed last.
  have rearms : ∀ last, kept last → wp (readNext kind) (fun _ => final) abrupt last := by
    intro last holds
    rw [readNext, wp_bind, wp_update, wp_through_reader]
    have issued := update .issued (last.state kind).subscription last holds
    split
    · next queue reader => exact reads returns _ queue issued reader
    · next missing => exact undefined _ issued missing
  rw [wp_only_if]
  split
  · next auto =>
      simp only [sendConfirm, confirm, wp_bind, wp_read, wp_update, wp_call_unary_async]
      exact rearms _ (confirms returns auto _ (update _ _ _ holds))
  · exact rearms _ holds

theorem process_next_keeps {kind : StreamKind} {completion : StreamCompletion kind} {world : World}
    (rules : DispatchKept env manners (.stream kind completion) kept abrupt)
    (polite : manners.Follows completion.context completion.reaction)
    (slot : completion.slot = .read) (announced : Announced (.stream kind completion) world)
    (holds : kept world) :
    wp (processNext env kind completion) (fun _ => kept) abrupt world := by
  cases ok : completion.ok with
  | false =>
      simp only [processNext, ok, Bool.not_false, ↓reduceIte, wp_bind, wp_update]
      exact log_stream_failure_keeps polite (fun may => rules.threw (.inr may)) _
        (rules.update kind completion rfl .failed ⟨slot, fun _ => rfl⟩ _ _ holds)
  | true =>
      have noted : ∀ value, Noted completion value :=
        fun value => ⟨slot, fun failed => absurd ok (by simp [failed])⟩
      -- Everything runs inside a frame, so the delivery stays announced.
      let framed : World → Prop := fun after => kept after ∧ Frame world after
      have stays : ∀ after, framed after → Announced (.stream kind completion) after :=
        fun after both => announced.frame both.2
      refine @process_message_rule framed abrupt env manners kind completion world kept ok polite
        ?_ ?_ ?_ ?_ ?_ ?_ ⟨holds, Frame.refl world⟩
      · intro value subscription after both
        exact ⟨rules.update kind completion rfl value (noted value) subscription after both.1,
          both.2.note _⟩
      · intro call may after both
        exact wp_mono (wp_and (rules.call call may after both.1)
          (api_call_frame env world .nested call after both.2)) (fun _ _ after => after)
          fun _ _ stopped => stopped.1
      · intro may after both
        exact rules.threw (.inl may) after both.1
      · intro after both _
        exact rules.undefined after both.1
      · intro returns auto after both
        exact ⟨rules.confirms kind completion rfl ⟨slot, ok, returns⟩ auto after (stays after both)
          both.1, both.2.allocate _⟩
      · intro returns after queue both reader
        exact rules.reads kind completion rfl ⟨slot, ok, returns⟩ after queue (stays after both)
          both.1 reader

theorem dispatch_stream_keeps {kind : StreamKind} {completion : StreamCompletion kind}
    {world : World} (rules : DispatchKept env manners (.stream kind completion) kept abrupt)
    (polite : manners.Follows completion.context completion.reaction)
    (announced : Announced (.stream kind completion) world) (holds : kept world) :
    wp (dispatchStream env kind completion) (fun _ => kept) abrupt world := by
  have fails : ∀ after, kept after →
      wp (onlyIf (!completion.ok) (logStreamFailure env completion.context)) (fun _ => kept)
        abrupt after :=
    fun after => keeps_only_if (fun _ => log_stream_failure_keeps polite fun may =>
      rules.threw (.inr may)) after
  -- The tag is a member of the state it was made for, so an old one is gone with it.
  simp only [dispatchStream, wp_bind, wp_read, wp_ite, wp_stop]
  split
  · exact rules.undefined world holds
  · cases slot : completion.slot with
    | start => exact fails _ (rules.startReceived kind completion rfl slot world holds)
    | initMetadata =>
        exact fails _ (rules.initMetadataReceived kind completion rfl slot world holds)
    | read => exact process_next_keeps rules polite slot announced holds
    | finish => exact fails _ (rules.finishResponded kind completion rfl slot world holds)

/-- The tag of a unary call: its callback is told a status, and then runs. -/
theorem dispatch_unary_rule {completion : UnaryCompletion} {world : World}
    (polite : manners.Follows completion.context completion.reaction)
    (exited : abrupt .exited world) (fails : manners.mayBreak → abrupt .threw world)
    (completed : ∀ status,
      kept (world.note (.completed (.unary completion.origin completion.id) status)))
    (call : ∀ call, manners.mayCall call → Keeps kept abrupt (apiCall env .nested call))
    (threw : manners.mayThrow → ∀ world, kept world → abrupt .threw world) :
    wp (dispatchUnary env completion) (fun _ => kept) abrupt world := by
  rw [dispatchUnary, wp_bind]
  have passed : wp (checked (passedStatus env completion)) (fun _ after => after = world) abrupt
      world := by
    rw [wp_checked]
    cases outcome : passedStatus env completion with
    | ok status => rfl
    | error stop =>
        cases stop with
        | exited => exact exited
        | threw exception =>
            -- Nothing but a broken `httpcode` throws here.
            rcases polite.parses with may | parses
            · exact fails may
            · exact absurd outcome (passed_status_parses env completion parses exception)
  apply wp_then passed
  intro status after same
  rw [wp_bind, wp_note, same]
  exact keeps_only_if (fun _ => react_keeps polite call threw) _ (completed status)

theorem dispatch_unary_keeps {completion : UnaryCompletion}
    (rules : DispatchKept env manners (.unary completion) kept abrupt)
    (polite : manners.Follows completion.context completion.reaction) :
    Keeps kept abrupt (dispatchUnary env completion) := fun world holds =>
  dispatch_unary_rule polite (rules.exited world holds)
    (fun may => rules.threw (.inr may) world holds)
    (fun status => rules.completed completion rfl status world holds) rules.call
    fun may => rules.threw (.inl may)

theorem dispatch_keeps {completion : Completion} {world : World}
    (rules : DispatchKept env manners completion kept abrupt)
    (polite : manners.Allows completion) (announced : Announced completion world)
    (holds : kept world) : wp (dispatch env completion) (fun _ => kept) abrupt world := by
  cases completion with
  | stream kind completion => exact dispatch_stream_keeps rules polite announced holds
  | unary completion => exact dispatch_unary_keeps rules polite world holds

/-- No tag replaces or shuts a queue, or rebuilds a stream client. -/
theorem frame_dispatch (env : Env) (completion : Completion) (before : World) :
    DispatchKept env anyManners completion (Frame before) (fun _ => Frame before) where
  threw _ _ framed := framed
  exited _ framed := framed
  undefined _ framed := framed
  call call _ := api_call_frame env before .nested call
  update _ _ _ _ _ _ _ framed := framed.note _
  completed _ _ _ _ framed := framed.note _
  startReceived kind _ _ _ _ framed := framed.setState kind _ (fun _ => rfl) fun _ => rfl
  initMetadataReceived kind _ _ _ _ framed := framed.setState kind _ (fun _ => rfl) fun _ => rfl
  finishResponded kind _ _ _ _ framed := framed.setState kind _ (fun _ => rfl) fun _ => rfl
  confirms _ _ _ _ _ _ _ framed := framed.allocate _
  reads _ _ _ _ _ _ _ framed _ := framed.put _ _

theorem dispatch_frame (env : Env) (completion : Completion) (world : World)
    (announced : Announced completion world) :
    wp (dispatch env completion) (fun _ => Frame world) (fun _ => Frame world) world :=
  dispatch_keeps (frame_dispatch env completion world) (any_manners_allow completion) announced
    (Frame.refl world)

end Dispatch

end IviSdk.CallbackRules
