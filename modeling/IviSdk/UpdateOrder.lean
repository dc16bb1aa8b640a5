import IviSdk.QueueWiring

/-!
What one subscription does with its messages. A stream state has a single buffer
that every read overwrites and that is read twice for each message, by the
callback and by the confirmation. A read is pending or a message is being
handled, never both, so both see the message that was delivered.
-/

namespace IviSdk.UpdateOrder

open Checks Messages CompletionQueues Streams ManagerWorld Interaction StreamClients ClientManager
open CallbackRules PollRules ManagerRuns QueueWiring

/-! ## One subscription in the log -/

def readTag (kind : StreamKind) (subscription : Nat) : Tag := .stream kind subscription .read

def ofKind (kind : StreamKind) {other : StreamKind} (value : Update other) :
    Option (Update kind) :=
  if same : other = kind then some (same ▸ value) else none

/-- The reads of a subscription as they are started and completed, and what its
client does in between. -/
def observe (kind : StreamKind) (subscription : Nat) : Event → Option (Update kind)
  | .started _ _ tag => if tag = readTag kind subscription then some .issued else none
  | .delivered _ (.stream _ completion) _ _ =>
      if completion.subscription = subscription ∧ completion.slot = .read then
        ofKind kind (if completion.ok then .received completion.message else .failed)
      else none
  | .update other number value =>
      if number = subscription then
        match value with
        | .issued | .received _ | .failed => none
        | .invoked parsed => ofKind kind (.invoked parsed : Update other)
        | .returned => ofKind kind (.returned : Update other)
        | .confirmed request => ofKind kind (.confirmed request : Update other)
      else none
  | _ => none

def trace (kind : StreamKind) (subscription : Nat) : List Event → List (Update kind) :=
  observed (observe kind subscription)

/-- The request that confirms a message. -/
def confirmation (env : Env) (kind : StreamKind) (message : MessageT kind) :
    ConfirmRequestT kind :=
  setEnvironmentId env.configuration.environmentId (requestCreator (confirmArguments kind message))

/-- A message is delivered, handed to the callback, and confirmed before the next
read is issued. -/
def cycle (env : Env) (kind : StreamKind) (message : MessageT kind) : List (Update kind) :=
  [.received message, .invoked (fromProto kind message), .returned,
    .confirmed (confirmation env kind message), .issued]

/-- A subscription that handled these messages. -/
def handled (env : Env) (kind : StreamKind) (messages : List (MessageT kind)) :
    List (Update kind) :=
  .issued :: messages.flatMap (cycle env kind)

/-- No queue holds the tag, discarded ones included. -/
def Nowhere (tag : Tag) (world : World) : Prop :=
  ∀ queue, (world.pending queue).count tag = 0

/-- At most one queue holds the tag, and holds it once. -/
def AtMostOnce (tag : Tag) (world : World) : Prop :=
  ∃ place, ∀ queue, (world.pending queue).count tag ≤ if queue = place then 1 else 0

/-- Where a subscription stands between two events. -/
inductive Told (env : Env) (kind : StreamKind) (subscription : Nat) (world : World) : Prop where
  | silent (nothing : trace kind subscription world.log = [])
      (unread : Nowhere (readTag kind subscription) world)
  | reading (messages : List (MessageT kind))
      (sofar : trace kind subscription world.log = handled env kind messages)
      (once : AtMostOnce (readTag kind subscription) world)
  | ended (messages : List (MessageT kind))
      (all : trace kind subscription world.log = handled env kind messages ++ [.failed])
      (unread : Nowhere (readTag kind subscription) world)

structure Updates (env : Env) (world : World) : Prop where
  told : ∀ kind subscription, Told env kind subscription world
  fresh : ∀ kind subscription, world.next ≤ subscription → trace kind subscription world.log = []

variable {env : Env} {world before after : World}

/-! ## What leaves every subscription alone -/

def Unseen (event : Event) : Prop := ∀ kind subscription, observe kind subscription event = none

/-- No read was started or completed, and no message handled. -/
structure Quiet (before after : World) : Prop where
  traces : ∀ kind subscription, trace kind subscription after.log =
    trace kind subscription before.log
  reads : ∀ kind subscription queue, (after.pending queue).count (readTag kind subscription) ≤
    (before.pending queue).count (readTag kind subscription)
  grows : before.next ≤ after.next

namespace Quiet

theorem refl (world : World) : Quiet world world :=
  ⟨fun _ _ => rfl, fun _ _ _ => Nat.le_refl _, Nat.le_refl _⟩

theorem trans {middle : World} (first : Quiet before middle) (second : Quiet middle after) :
    Quiet before after where
  traces kind subscription :=
    (second.traces kind subscription).trans (first.traces kind subscription)
  reads kind subscription queue :=
    Nat.le_trans (second.reads kind subscription queue) (first.reads kind subscription queue)
  grows := Nat.le_trans first.grows second.grows

theorem note (quiet : Quiet before world) {event : Event} (unseen : Unseen event) :
    Quiet before (world.note event) :=
  quiet.trans ⟨fun kind subscription => observed_none (unseen kind subscription) world.log,
    fun _ _ _ => Nat.le_refl _, Nat.le_refl _⟩

theorem setState (quiet : Quiet before world) (kind : StreamKind)
    (change : StreamState kind → StreamState kind) :
    Quiet before (world.setState kind change) :=
  quiet.trans ⟨fun _ _ => rfl, fun _ _ _ => Nat.le_refl _, Nat.le_refl _⟩

theorem shutdown (quiet : Quiet before world) (queue : QueueId) :
    Quiet before (world.shutdown queue) := by
  refine quiet.trans ⟨fun _ _ => observed_none rfl world.log, ?_, Nat.le_refl _⟩
  intro kind subscription other
  exact Nat.le_of_eq (congrArg _ (shutdown_pending _ _ _))

theorem take (quiet : Quiet before world) (queue : QueueId) (tag : Tag) :
    Quiet before (world.take queue tag) := by
  refine quiet.trans ⟨fun _ _ => rfl, ?_, Nat.le_refl _⟩
  intro kind subscription other
  rw [take_pending]
  split
  · next same =>
      rw [same]
      exact List.Sublist.count_le _ List.erase_sublist
  · exact Nat.le_refl _

theorem put (quiet : Quiet before world) (queue : QueueId) (tag : Tag)
    (unread : ∀ kind subscription, tag ≠ readTag kind subscription) :
    Quiet before (world.put queue tag) := by
  refine quiet.trans ⟨?_, ?_, Nat.le_refl _⟩
  · intro kind subscription
    refine observed_none ?_ world.log
    simp [observe, unread]
  · intro kind subscription other
    rw [put_pending]
    split
    · next same =>
        rw [same]
        exact Nat.le_of_eq (List.count_cons_of_ne (unread kind subscription))
    · exact Nat.le_refl _

theorem allocate (quiet : Quiet before world) (origin : Origin) :
    Quiet before (allocate origin world) := by
  refine quiet.trans ⟨?_, ?_, Nat.le_succ _⟩
  · intro kind subscription
    exact observed_none rfl world.log
  · intro kind subscription queue
    rw [allocate_pending]
    split
    · next same =>
        rw [same]
        exact Nat.le_of_eq (List.count_cons_of_ne (by simp [readTag]))
    · exact Nat.le_refl _

end Quiet

theorem Nowhere.transport {tag : Tag} (unread : Nowhere tag before)
    (less : ∀ queue, (after.pending queue).count tag ≤ (before.pending queue).count tag) :
    Nowhere tag after := by
  intro queue
  have bound := less queue
  rw [unread queue] at bound
  exact Nat.le_zero.mp bound

theorem AtMostOnce.transport {tag : Tag} (once : AtMostOnce tag before)
    (less : ∀ queue, (after.pending queue).count tag ≤ (before.pending queue).count tag) :
    AtMostOnce tag after := by
  obtain ⟨place, bound⟩ := once
  exact ⟨place, fun queue => Nat.le_trans (less queue) (bound queue)⟩

theorem Nowhere.once {tag : Tag} (unread : Nowhere tag world) : AtMostOnce tag world :=
  ⟨0, fun queue => by rw [unread queue]; exact Nat.zero_le _⟩

theorem Told.transport {kind : StreamKind} {subscription : Nat}
    (told : Told env kind subscription before)
    (same : trace kind subscription after.log = trace kind subscription before.log)
    (less : ∀ queue, (after.pending queue).count (readTag kind subscription) ≤
      (before.pending queue).count (readTag kind subscription)) :
    Told env kind subscription after := by
  cases told with
  | silent nothing unread => exact .silent (same.trans nothing) (unread.transport less)
  | reading messages sofar once => exact .reading messages (same.trans sofar) (once.transport less)
  | ended messages all unread => exact .ended messages (same.trans all) (unread.transport less)

theorem Updates.transport (updates : Updates env before) (quiet : Quiet before after) :
    Updates env after where
  told kind subscription := (updates.told kind subscription).transport
    (quiet.traces kind subscription) (quiet.reads kind subscription)
  fresh kind subscription unknown := (quiet.traces kind subscription).trans
    (updates.fresh kind subscription (Nat.le_trans quiet.grows unknown))

/-- Between events every subscription has at most one read pending. -/
theorem Updates.once (updates : Updates env world) (kind : StreamKind) (subscription : Nat) :
    AtMostOnce (readTag kind subscription) world := by
  cases updates.told kind subscription with
  | silent nothing unread => exact unread.once
  | reading messages sofar once => exact once
  | ended messages all unread => exact unread.once

/-! ## One message -/

/-- The read of one subscription is not pending: what was seen of it so far is
`sofar`, and all other subscriptions are as between events. -/
structure Between (env : Env) (kind : StreamKind) (subscription : Nat)
    (sofar : List (Update kind)) (world : World) : Prop where
  others : ∀ other number, readTag other number ≠ readTag kind subscription →
    Told env other number world
  own : trace kind subscription world.log = sofar
  unread : Nowhere (readTag kind subscription) world
  known : subscription < world.next
  fresh : ∀ other number, world.next ≤ number → trace other number world.log = []

variable {kind : StreamKind} {subscription : Nat} {sofar : List (Update kind)}

theorem Between.transport (between : Between env kind subscription sofar before)
    (quiet : Quiet before after) : Between env kind subscription sofar after where
  others other number differs := (between.others other number differs).transport
    (quiet.traces other number) (quiet.reads other number)
  own := (quiet.traces kind subscription).trans between.own
  unread := between.unread.transport (quiet.reads kind subscription)
  known := Nat.lt_of_lt_of_le between.known quiet.grows
  fresh other number unknown := (quiet.traces other number).trans
    (between.fresh other number (Nat.le_trans quiet.grows unknown))

theorem of_kind_same (value : Update kind) : ofKind kind value = some value := by
  simp [ofKind]

theorem of_kind_other {other : StreamKind} (value : Update other) (differs : other ≠ kind) :
    ofKind kind value = none := by
  simp [ofKind, differs]

/-- An event that only this subscription sees. -/
theorem Between.note (between : Between env kind subscription sofar world) {event : Event}
    {value : Update kind} (own : observe kind subscription event = some value)
    (only : ∀ other number, readTag other number ≠ readTag kind subscription →
      observe other number event = none) :
    Between env kind subscription (sofar ++ [value]) (world.note event) := by
  have unseen : ∀ other number, readTag other number ≠ readTag kind subscription →
      trace other number (event :: world.log) = trace other number world.log :=
    fun other number differs => observed_none (only other number differs) world.log
  refine ⟨?_, ?_, between.unread, between.known, ?_⟩
  · intro other number differs
    exact (between.others other number differs).transport (unseen other number differs)
      fun _ => Nat.le_refl _
  · rw [← between.own]
    exact observed_some own world.log
  · intro other number unknown
    have differs : readTag other number ≠ readTag kind subscription := by
      intro same
      cases same
      exact absurd between.known (Nat.not_lt.mpr unknown)
    exact (unseen other number differs).trans (between.fresh other number unknown)

/-- The next read is issued once the messages so far are handled. -/
theorem Between.read {messages : List (MessageT kind)}
    (between : Between env kind subscription sofar world)
    (complete : sofar ++ [.issued] = handled env kind messages) (queue : QueueId) :
    Updates env (world.put queue (readTag kind subscription)) := by
  have others : ∀ other number, readTag other number ≠ readTag kind subscription →
      trace other number (world.put queue (readTag kind subscription)).log =
        trace other number world.log := by
    intro other number differs
    refine observed_none ?_ world.log
    simp [observe, differs.symm]
  have own : trace kind subscription (world.put queue (readTag kind subscription)).log =
      handled env kind messages := by
    rw [← complete, ← between.own]
    refine observed_some ?_ world.log
    simp [observe]
  constructor
  · intro other number
    -- The new read is the only one of its subscription, as none was left.
    by_cases same : readTag other number = readTag kind subscription
    · cases same
      refine .reading messages own ⟨queue, fun place => ?_⟩
      rw [put_pending]
      split
      · rw [List.count_cons_self]
        exact Nat.le_of_eq (congrArg (· + 1) (between.unread queue))
      · exact Nat.le_of_eq (between.unread place)
    · refine (between.others other number same).transport (others other number same) fun place => ?_
      rw [put_pending]
      split
      · next here =>
          rw [here]
          exact Nat.le_of_eq (List.count_cons_of_ne (Ne.symm same))
      · exact Nat.le_refl _
  · intro other number unknown
    have differs : readTag other number ≠ readTag kind subscription := by
      intro same
      cases same
      exact absurd between.known (Nat.not_lt.mpr unknown)
    exact (others other number differs).trans (between.fresh other number unknown)

/-! ## Delivery -/

/-- A pending read is the only one of its subscription. -/
theorem Updates.taken (updates : Updates env world) {queue : QueueId}
    (pending : readTag kind subscription ∈ world.pending queue) :
    ∃ messages, Between env kind subscription (handled env kind messages)
      (world.take queue (readTag kind subscription)) := by
  have present : 0 < (world.pending queue).count (readTag kind subscription) :=
    List.count_pos_iff.mpr pending
  have awaited : ∃ messages, trace kind subscription world.log = handled env kind messages ∧
      AtMostOnce (readTag kind subscription) world := by
    cases updates.told kind subscription with
    | silent nothing unread => exact absurd (unread queue) (Nat.ne_of_gt present)
    | reading messages sofar once => exact ⟨messages, sofar, once⟩
    | ended messages all unread => exact absurd (unread queue) (Nat.ne_of_gt present)
  obtain ⟨messages, sofar, place, bound⟩ := awaited
  have quiet := (Quiet.refl world).take queue (readTag kind subscription)
  refine ⟨messages, ⟨?_, (quiet.traces kind subscription).trans sofar, ?_, ?_, ?_⟩⟩
  · intro other number _
    exact (updates.told other number).transport (quiet.traces other number)
      (quiet.reads other number)
  · intro other
    rw [take_pending]
    -- Only one queue holds the tag, so it is the one it is taken from.
    have here : queue = place := by
      by_cases same : queue = place
      · exact same
      · have none := bound queue
        rw [if_neg same] at none
        omega
    split
    · have one := bound queue
      rw [if_pos here] at one
      rw [List.count_erase_self]
      omega
    · next elsewhere =>
        have none := bound other
        rw [if_neg (by rw [← here]; exact elsewhere)] at none
        exact Nat.le_zero.mp none
  · refine Nat.lt_of_not_le fun unknown => ?_
    have nothing := updates.fresh kind subscription unknown
    rw [sofar] at nothing
    cases nothing
  · intro other number unknown
    exact (quiet.traces other number).trans (updates.fresh other number unknown)

/-- What the buffer of a stream client holds while a message is handled. -/
structure InBuffer (kind : StreamKind) (subscription : Nat) (message : MessageT kind)
    (world : World) : Prop where
  current : (world.state kind).subscription = subscription
  buffer : (world.state kind).updateResponse = message

theorem fill_buffer_quiet (completion : Completion) (quiet : Quiet before world) :
    Quiet before (world.fillBuffer completion) := by
  unfold World.fillBuffer
  split
  · next kind received =>
      split
      · refine (quiet.setState kind _).note fun other number => ?_
        simp [observe]
      · exact quiet
  · exact quiet

/-- The delivery of a read is seen by its subscription alone. -/
theorem deliver_read (updates : Updates env world) (received : StreamCompletion kind)
    (slot : received.slot = .read)
    (pending : (Completion.stream kind received).tag ∈ world.pending (world.queueOf false)) :
    ∃ messages, Between env kind received.subscription
      (handled env kind messages ++
        [if received.ok then .received received.message else .failed])
      (world.deliver false (.stream kind received)) := by
  have tag : (Completion.stream kind received).tag = readTag kind received.subscription := by
    rw [Completion.tag, slot, readTag]
  rw [tag] at pending
  obtain ⟨messages, taken⟩ := updates.taken pending
  have own : observe kind received.subscription
      (.delivered false (.stream kind received) world.streamShut world.unaryShut) =
        some (if received.ok then .received received.message else .failed) := by
    simp [observe, slot, of_kind_same]
  have only : ∀ other number, readTag other number ≠ readTag kind received.subscription →
      observe other number
        (.delivered false (.stream kind received) world.streamShut world.unaryShut) = none := by
    intro other number differs
    simp only [observe, slot, and_true]
    split
    · next same =>
        refine of_kind_other _ fun equal => ?_
        subst equal
        exact differs (congrArg (readTag kind) same.symm)
    · rfl
  refine ⟨messages, ?_⟩
  unfold World.deliver
  rw [tag]
  exact (taken.note own only).transport (fill_buffer_quiet _ (Quiet.refl _))

theorem deliver_in_buffer (wired : Wired world) (received : StreamCompletion kind)
    (slot : received.slot = .read) (ok : received.ok = true)
    (pending : (Completion.stream kind received).tag ∈ world.pending (world.queueOf false)) :
    InBuffer kind received.subscription received.message
      (world.deliver false (.stream kind received)) := by
  obtain ⟨other, otherSlot, _, own, _⟩ := wired.streamOwned _ pending
  have current : received.subscription = (world.state kind).subscription := by
    simp only [Completion.tag, World.tagOf, Tag.stream.injEq] at own
    obtain ⟨rfl, same, _⟩ := own
    exact same
  let taken := (world.take (world.queueOf false) (Completion.stream kind received).tag).note
    (.delivered false (.stream kind received) world.streamShut world.unaryShut)
  have filled : world.deliver false (.stream kind received) =
      (taken.setState kind ({ · with updateResponse := received.message })).note
        (.update kind received.subscription (.received received.message)) :=
    if_pos ⟨slot, ok, current⟩
  have same := set_state_same taken kind ({ · with updateResponse := received.message })
  rw [filled]
  constructor
  · exact (congrArg StreamState.subscription same).trans current.symm
  · exact congrArg StreamState.updateResponse same

/-! ## Dispatching a tag -/

/-- Callbacks that return and confirm nothing by themselves. -/
def calmManners : Manners where
  mayCall
    | .confirm _ _ => False
    | _ => True
  mayThrow := False
  mayBreak := True

/-- In a wired manager `Finish` finds a reader when it needs one. -/
theorem finish_quiet (kind : StreamKind) (wired : Wired world) (quiet : Quiet before world) :
    wp (finish kind) (fun _ => Quiet before) (fun _ _ => False) world := by
  apply finish_rule kind
  · exact fun _ => quiet
  · intro _ _
    have told : Quiet before (world.note (.tryCancel kind (world.state kind).subscription)) :=
      quiet.note fun _ _ => rfl
    exact told.setState kind _
  · intro _ queue _
    refine (quiet.put queue _ ?_).setState kind _
    intro other number same
    cases same
  · intro asking missing
    -- The missing reader contradicts the metadata that came through one.
    have present := wired.metadata kind trivial asking.metadata
    rw [missing] at present
    cases present

theorem call_quiet (env : Env) (origin : Origin) (call : ApiCall)
    (calm : calmManners.mayCall call) (wired : Wired world) (quiet : Quiet before world) :
    wp (apiCall env origin call) (fun _ => Quiet before) (fun _ _ => False) world := by
  have called : Quiet before (world.note (.called call world.unaryShut)) :=
    quiet.note fun _ _ => rfl
  apply api_call_rule env origin call
  · exact fun _ _ => called.allocate origin
  · rintro kind arguments rfl
    exact calm.elim
  · exact fun kind _ => finish_quiet kind (wired.note _) called

theorem finish_in_buffer {message : MessageT kind} (other : StreamKind) :
    Keeps (InBuffer kind subscription message) (fun _ _ => True) (finish other) := by
  have flag : ∀ world (change : StreamState other → StreamState other),
      (∀ state, (change state).subscription = state.subscription) →
      (∀ state, (change state).updateResponse = state.updateResponse) →
      InBuffer kind subscription message world →
      InBuffer kind subscription message (world.setState other change) := by
    intro world change keepsSubscription keepsBuffer holds
    by_cases same : kind = other
    · subst same
      constructor
      · rw [set_state_same, keepsSubscription]
        exact holds.current
      · rw [set_state_same, keepsBuffer]
        exact holds.buffer
    · have unchanged := set_state_other world other change kind same
      constructor
      · rw [World.state, unchanged]
        exact holds.current
      · rw [World.state, unchanged]
        exact holds.buffer
  intro world holds
  apply finish_rule other
  · exact fun _ => holds
  · intro _ _
    exact flag _ _ (fun _ => rfl) (fun _ => rfl) ⟨holds.current, holds.buffer⟩
  · intro _ _ _
    exact flag _ _ (fun _ => rfl) (fun _ => rfl) ⟨holds.current, holds.buffer⟩
  · exact fun _ _ => trivial

theorem call_in_buffer (env : Env) (origin : Origin) (call : ApiCall) {message : MessageT kind} :
    Keeps (InBuffer kind subscription message) (fun _ _ => True) (apiCall env origin call) := by
  intro world holds
  have called : InBuffer kind subscription message
      (world.note (.called call world.unaryShut)) := ⟨holds.current, holds.buffer⟩
  apply api_call_rule env origin call
  · exact fun _ _ => ⟨holds.current, holds.buffer⟩
  · exact fun _ _ _ _ => ⟨holds.current, holds.buffer⟩
  · exact fun other _ => finish_in_buffer other _ called

/-- A message in hand: it is in the buffer, and these steps of its cycle are done. -/
structure Handling (env : Env) (kind : StreamKind) (subscription : Nat) (message : MessageT kind)
    (sofar : List (Update kind)) (world : World) : Prop where
  wired : Wired world
  reader : (world.state kind).updateReader.isSome = true
  between : Between env kind subscription sofar world
  inBuffer : InBuffer kind subscription message world

variable {message : MessageT kind}

/-- A callback that is running does not touch the message. -/
theorem call_handling (env : Env) (call : ApiCall) (calm : calmManners.mayCall call) :
    Keeps (Handling env kind subscription message sofar) (fun _ _ => False)
      (apiCall env .nested call) := by
  intro world handling
  have framed := api_call_frame env world .nested call world (Frame.refl world)
  refine wp_mono (wp_and (wp_and (call_wired env .nested call world handling.wired) framed)
    (wp_and (call_quiet env .nested call calm handling.wired (Quiet.refl world))
      (call_in_buffer env .nested call world handling.inBuffer))) ?_ ?_
  · rintro _ after ⟨⟨wired, framed⟩, quiet, inBuffer⟩
    refine ⟨wired, ?_, handling.between.transport quiet, inBuffer⟩
    rw [framed.readers]
    exact handling.reader
  · rintro _ _ ⟨_, never, _⟩
    exact never

/-- The client notes a step of the message's cycle. -/
theorem Handling.note (handling : Handling env kind subscription message sofar world)
    (value : Update kind)
    (seen : observe kind subscription (.update kind subscription value) = some value) :
    Handling env kind subscription message (sofar ++ [value])
      (world.note (.update kind subscription value)) := by
  refine ⟨handling.wired.note _, handling.reader, handling.between.note seen ?_,
    ⟨handling.inBuffer.current, handling.inBuffer.buffer⟩⟩
  intro other number differs
  simp only [observe]
  split
  · next same =>
      have unlike : kind ≠ other := by
        intro equal
        subst equal
        exact differs (congrArg (readTag kind) same.symm)
      cases value <;> simp [ofKind, unlike]
  · rfl

theorem Handling.allocate (handling : Handling env kind subscription message sofar world) :
    Handling env kind subscription message sofar (allocate .confirm world) :=
  ⟨handling.wired.allocate .confirm, handling.reader,
    handling.between.transport ((Quiet.refl world).allocate .confirm),
    ⟨handling.inBuffer.current, handling.inBuffer.buffer⟩⟩

theorem read_next_updates {messages : List (MessageT kind)}
    (handling : Handling env kind subscription message sofar world)
    (complete : sofar ++ [.issued] = handled env kind messages) :
    wp (readNext kind) (fun _ => Updates env) (fun _ _ => False) world := by
  obtain ⟨queue, reader⟩ := Option.isSome_iff_exists.mp handling.reader
  let issued := world.note (.update kind (world.state kind).subscription .issued)
  have quiet : Quiet world issued := by
    refine (Quiet.refl world).note fun other number => ?_
    simp [observe]
  have tag : issued.tagOf kind .read = readTag kind subscription :=
    congrArg (readTag kind) handling.inBuffer.current
  have same : (issued.state kind).updateReader = some queue := reader
  rw [readNext, wp_bind, wp_update, wp_through_reader, same]
  have read := (handling.between.transport quiet).read complete queue
  rw [← tag] at read
  exact read

/-- A delivered message goes through its whole cycle. -/
theorem dispatch_message (auto : env.configuration.autoconfirmStreamUpdates = true)
    (received : StreamCompletion kind) (slot : received.slot = .read) (ok : received.ok = true)
    (calm : calmManners.Follows received.context received.reaction)
    {messages : List (MessageT kind)}
    (handling : Handling env kind received.subscription received.message
      (handled env kind messages ++ [.received received.message]) world) :
    wp (dispatch env (.stream kind received)) (fun _ => Updates env) (fun _ _ => False) world := by
  simp only [dispatch, dispatchStream, wp_bind, wp_read, wp_ite, handling.inBuffer.current, ne_eq,
    not_true_eq_false, ↓reduceIte, slot, processNext, ok, Bool.not_true, Bool.false_eq_true,
    onCallback, wp_update, handling.inBuffer.buffer]
  have invoked := handling.note (.invoked (fromProto kind received.message))
    (by simp [observe, of_kind_same])
  apply wp_then (react_keeps calm (fun call may => call_handling env call may)
    (fun never => never.elim) _ invoked)
  intro _ after handling
  have returned := handling.note .returned (by simp [observe, of_kind_same])
  rw [handling.inBuffer.current, wp_only_if, if_pos auto, sendConfirm, wp_bind, wp_read, confirm,
    wp_bind, wp_update, wp_call_unary_async, returned.inBuffer.current, returned.inBuffer.buffer]
  have confirmed := (returned.note (.confirmed (confirmation env kind received.message))
    (by simp [observe, of_kind_same])).allocate
  have complete : handled env kind messages ++ [.received received.message] ++
      [.invoked (fromProto kind received.message)] ++ [.returned] ++
      [.confirmed (confirmation env kind received.message)] ++ [.issued] =
      handled env kind (messages ++ [received.message]) := by
    simp [handled, cycle]
  exact read_next_updates confirmed complete

/-- Every other tag, and a read that failed, is dispatched without a word to any
subscription. -/
theorem dispatch_quiet (env : Env) (completion : Completion) (before : World)
    (quietly : ∀ kind (received : StreamCompletion kind), completion = .stream kind received →
      received.slot = .read → received.ok = false) :
    DispatchKeptOver env calmManners completion
      (fun world => Wired world ∧ Heard completion world) (Quiet before)
      (fun _ => Quiet before) where
  threw _ _ _ quiet := quiet
  exited _ _ quiet := quiet
  undefined _ _ quiet := quiet
  call call calm _ base quiet :=
    wp_mono (call_quiet env .nested call calm base.1 quiet) (fun _ _ quiet => quiet)
      fun _ _ never => never.elim
  update kind received same value noted _ _ quiet := by
    rw [noted.2 (quietly kind received same noted.1)]
    exact quiet.note fun other number => by simp [observe]
  completed _ _ _ _ quiet := quiet.note fun _ _ => rfl
  startReceived kind _ _ _ _ quiet := quiet.setState kind _
  initMetadataReceived kind _ _ _ _ quiet := quiet.setState kind _
  finishResponded kind _ _ _ _ quiet := quiet.setState kind _
  confirms _ _ same good _ _ _ _ _ := absurd good.ok (by simp [quietly _ _ same good.slot])
  reads _ _ same good _ _ _ _ _ _ := absurd good.ok (by simp [quietly _ _ same good.slot])

/-! ## Events -/

theorem message_event (auto : env.configuration.autoconfirmStreamUpdates = true)
    (received : StreamCompletion kind) (slot : received.slot = .read) (ok : received.ok = true)
    (calm : calmManners.Follows received.context received.reaction) (wired : Wired world)
    (updates : Updates env world) :
    wp (processEvent (grpc env) false (.stream kind received)) (fun _ => Updates env)
      (fun _ => Updates env) world := by
  let InHand : World → Prop := fun world =>
    (∃ messages, Between env kind received.subscription
      (handled env kind messages ++ [.received received.message]) world) ∧
    InBuffer kind received.subscription received.message world
  refine @event_rule_wired env false (.stream kind received) (Updates env) InHand (Updates env)
    (fun _ => Updates env) (fun _ updates => updates) ?_ ?_ (fun never => by cases never)
    (fun _ _ updates => updates) world wired updates
  · intro before wired updates pending
    obtain ⟨messages, between⟩ := deliver_read updates received slot pending
    rw [if_pos ok] at between
    exact ⟨⟨messages, between⟩, deliver_in_buffer wired received slot ok pending⟩
  · rintro before wired heard _ ⟨⟨messages, between⟩, inBuffer⟩
    have handling : Handling env kind received.subscription received.message
        (handled env kind messages ++ [.received received.message]) before :=
      ⟨wired, heard kind received rfl, between, inBuffer⟩
    exact wp_mono (dispatch_message auto received slot ok calm handling)
      (fun _ _ updates => updates) fun _ _ never => never.elim

/-- A failed read ends its subscription. -/
theorem Between.end {messages : List (MessageT kind)}
    (between : Between env kind subscription (handled env kind messages ++ [.failed]) world) :
    Updates env world := by
  refine ⟨?_, between.fresh⟩
  intro other number
  by_cases same : readTag other number = readTag kind subscription
  · cases same
    exact .ended messages between.own between.unread
  · exact between.others other number same

theorem other_event (unary : Bool) (completion : Completion)
    (quietly : ∀ kind (received : StreamCompletion kind), completion = .stream kind received →
      received.slot = .read → received.ok = false)
    (calm : calmManners.Allows completion) (wired : Wired world) (updates : Updates env world) :
    wp (processEvent (grpc env) unary completion) (fun _ => Updates env) (fun _ => Updates env)
      world := by
  refine @event_rule_wired env unary completion (Updates env) (Updates env) (Updates env)
    (fun _ => Updates env) (fun _ updates => updates) ?_ ?_ ?_ (fun _ _ updates => updates) world
    wired updates
  · intro before wired updates pending
    have unheard : Unseen (.delivered unary completion before.streamShut before.unaryShut) →
        Updates env (before.deliver unary completion) := fun unseen =>
      updates.transport (fill_buffer_quiet completion
        (((Quiet.refl before).take _ _).note unseen))
    cases completion with
    | unary received => exact unheard fun _ _ => rfl
    | stream kind received =>
        by_cases slot : received.slot = .read
        · cases unary with
          | true =>
              obtain ⟨origin, id, own, _⟩ := wired.unaryOwned _ pending
              cases own
          | false =>
              obtain ⟨messages, between⟩ := deliver_read updates received slot pending
              rw [if_neg (by simp [quietly kind received rfl slot])] at between
              exact between.end
        · exact unheard fun other number => by simp [observe, slot]
  · intro before wired heard announced updates
    refine wp_mono (dispatch_keeps (((dispatch_wired env completion).restrict calmManners).over
      (dispatch_quiet env completion before quietly)) calm announced
      ⟨⟨wired, heard⟩, Quiet.refl before⟩) ?_ ?_
    · rintro _ after ⟨_, quiet⟩
      exact updates.transport quiet
    · rintro _ after ⟨_, quiet⟩
      exact updates.transport quiet
  · intro _ after _ updates
    exact updates.transport ((Quiet.refl after).note fun _ _ => rfl)

theorem event_updates (auto : env.configuration.autoconfirmStreamUpdates = true) (unary : Bool)
    (completion : Completion) (calm : calmManners.Allows completion) (wired : Wired world)
    (updates : Updates env world) :
    wp (processEvent (grpc env) unary completion) (fun _ => Updates env) (fun _ => Updates env)
      world := by
  by_cases message : ∃ (kind : StreamKind) (received : StreamCompletion kind),
      completion = .stream kind received ∧ received.slot = .read ∧ received.ok = true
  · obtain ⟨kind, received, rfl, slot, ok⟩ := message
    cases unary with
    | false => exact message_event auto received slot ok calm wired updates
    | true => exact stream_tag_on_unary wired updates
  · refine other_event unary completion ?_ calm wired updates
    intro kind received same slot
    by_contra ok
    exact message ⟨kind, received, same, slot, by simpa using ok⟩

/-! ## Runs -/

theorem queue_updates (auto : env.configuration.autoconfirmStreamUpdates = true) (unary : Bool) :
    QueueKeptOver (grpc env) unary calmManners Wired (Updates env) (fun _ => Updates env) where
  waiting _ _ updates := updates
  unfinished _ _ updates := updates
  event completion calm _ wired updates := event_updates auto unary completion calm wired updates
  finish _ kind world wired updates :=
    wp_mono (finish_quiet kind wired (Quiet.refl world))
      (fun _ _ quiet => updates.transport quiet) fun _ _ never => never.elim
  shutdown world _ updates _ := updates.transport ((Quiet.refl world).shutdown _)
  draining world updates := updates.transport ((Quiet.refl world).note fun _ _ => rfl)
  finishAgain world updates := updates.transport ((Quiet.refl world).note fun _ _ => rfl)
  verdict _ world updates := updates.transport ((Quiet.refl world).note fun _ _ => rfl)

theorem new_queue_quiet (world : World) :
    Quiet world (({ world with next := world.next + 1 } : World).setQueue world.next {}) := by
  refine ⟨fun _ _ => rfl, ?_, Nat.le_succ _⟩
  intro kind subscription queue
  rw [new_queue_pending]
  split
  · exact Nat.zero_le _
  · exact Nat.le_refl _

theorem renew_unary_quiet (world : World) : Quiet world (renewUnary world) :=
  ⟨(new_queue_quiet world).traces, (new_queue_quiet world).reads, (new_queue_quiet world).grows⟩

theorem renew_stream_quiet (world : World) : Quiet world (renewStream world) :=
  ⟨(new_queue_quiet world).traces, (new_queue_quiet world).reads, (new_queue_quiet world).grows⟩

theorem reinitialize_unary_client_updates (env : Env) (client : UnaryClient) :
    Keeps (Updates env) (fun _ => Updates env) (reinitializeUnaryClient env client) := by
  intro world updates
  rw [reinitializeUnaryClient, wp_bind]
  refine wp_client_checks env ?_ fun _ => updates
  simp only [wp_bind, wp_fresh, wp_modify]
  exact updates.transport ⟨fun _ _ => rfl, fun _ _ _ => Nat.le_refl _, Nat.le_succ _⟩

theorem reinitialize_unary_updates (env : Env) :
    Keeps (Updates env) (fun _ => Updates env) (reinitializeUnary env) := by
  intro world updates
  rw [reinitializeUnary, wp_bind, wp_new_queue, wp_bind, wp_modify]
  exact keeps_each (fun client _ => reinitialize_unary_client_updates env client)
    (renewUnary world) (updates.transport (renew_unary_quiet world))

/-- A new subscription starts with one read. -/
theorem construct_stream_updates (env : Env) (kind : StreamKind) (callback : Option CallbackId) :
    Keeps (Updates env) (fun _ => Updates env) (constructStream env kind callback) := by
  intro world updates
  have built : Quiet world (newClient kind callback world) :=
    ⟨fun _ _ => rfl, fun _ _ _ => Nat.le_refl _, Nat.le_succ _⟩
  apply wp_construct_stream env kind callback (fun _ => updates)
  · intro _
    have number : ((newClient kind callback world).state kind).subscription = world.next := by
      rw [World.state, new_client_same]
    -- The number of the subscription is new: no queue and no trace knows it.
    have nothing := updates.fresh kind world.next (Nat.le_refl _)
    have unread : Nowhere (readTag kind world.next) world := by
      cases updates.told kind world.next with
      | silent _ unread => exact unread
      | reading messages sofar _ =>
          rw [nothing] at sofar
          cases sofar
      | ended messages all _ =>
          rw [nothing] at all
          cases all
    have between : Between env kind world.next [] (newClient kind callback world) := by
      refine ⟨?_, nothing, unread.transport (built.reads kind world.next), Nat.lt_succ_self _, ?_⟩
      · intro other number _
        exact (updates.transport built).told other number
      · exact (updates.transport built).fresh
    refine @subscribed_read_rule (Between env kind world.next []) (Updates env) env kind
      (newClient kind callback world) ?_ ?_ ?_ ?_
    · exact between.transport (((Quiet.refl _).setState kind _).note fun _ _ => rfl)
    · intro slot after start _ between
      refine between.transport ((Quiet.refl after).put _ _ fun other number same => ?_)
      cases same
      exact start rfl
    · intro after between
      exact between.transport ((Quiet.refl after).note fun _ _ => by simp [observe])
    · intro after _ between
      rw [number]
      have first : ([] : List (Update kind)) ++ [.issued] = handled env kind [] := rfl
      exact between.read first _
  · intro _
    exact updates.transport (built.setState kind _)

theorem reinitialize_stream_updates (env : Env) :
    Keeps (Updates env) (fun _ => Updates env) (reinitializeStream env) := by
  intro world updates
  rw [reinitializeStream, wp_bind, wp_new_queue, wp_bind, wp_modify]
  exact keeps_each (fun kind _ => keeps_read fun after updates =>
    construct_stream_updates env kind _ after updates) (renewStream world)
      (updates.transport (renew_stream_quiet world))

theorem actions_updates (auto : env.configuration.autoconfirmStreamUpdates = true) :
    ActionsKeptOver (grpc env) calmManners Wired (Updates env) (fun _ => Updates env) where
  queue unary := queue_updates auto unary
  call call calm world wired updates :=
    wp_mono (call_quiet env .direct call calm wired (Quiet.refl world))
      (fun _ _ quiet => updates.transport quiet) fun _ _ never => never.elim
  reinitializeUnary world _ updates := reinitialize_unary_updates env world updates
  reinitializeStream world _ updates := reinitialize_stream_updates env world updates
  exited _ updates := updates
  resumes _ updates := updates

theorem construct_updates (env : Env) (callbacks : IVIStreamCallbacks)
    (connection : IVIConnection) :
    wp (construct env callbacks) (fun _ => Updates env) (fun _ => Updates env)
      (World.before connection) :=
  construct_keeps (reinitialize_unary_client_updates env)
    (fun kind => construct_stream_updates env kind (callbacks kind)) (World.before connection)
    ⟨fun _ _ => .silent rfl fun _ => rfl, fun _ _ _ => rfl⟩

/-- The confirmation carries the ids and the tracking id of the message. -/
def SameMessage : (kind : StreamKind) → MessageT kind → ConfirmRequestT kind → Prop
  | .item => fun (message : ItemStatusUpdate) (request : ItemStatusConfirmRequest) =>
      request.gameInventoryId = message.gameInventoryId ∧ request.trackingId = message.trackingId
  | .itemType => fun (message : ItemTypeStatusUpdate) (request : ItemTypeStatusConfirmRequest) =>
      request.gameItemTypeId = message.gameItemTypeId ∧ request.trackingId = message.trackingId
  | .order => fun (message : OrderStatusUpdate) (request : OrderStatusConfirmRequest) =>
      request.orderId = message.orderId
  | .player => fun (message : PlayerStatusUpdate) (request : PlayerStatusConfirmRequest) =>
      request.playerId = message.playerId ∧ request.trackingId = message.trackingId

theorem confirmation_same_message (env : Env) (kind : StreamKind) (message : MessageT kind) :
    SameMessage kind message (confirmation env kind message) := by
  cases kind with
  | item => exact ⟨rfl, rfl⟩
  | itemType => exact ⟨rfl, rfl⟩
  | order => exact rfl
  | player => exact ⟨rfl, rfl⟩

/-- For every run in which nobody else confirms and every callback returns, while
an action runs and however it ends: what a subscription did is one read, a cycle
for each message delivered to it, and at most a failed read as the last; each
confirmation is built from its message; and at most one read is pending. -/
theorem updates_delivered_in_order (env : Env)
    (auto : env.configuration.autoconfirmStreamUpdates = true) (connection : IVIConnection)
    (distinct : connection.streamQueue ≠ connection.unaryQueue) (callbacks : IVIStreamCallbacks)
    (actions : List Action) (calm : ∀ action ∈ actions, ActionAllowed calmManners action)
    (replies : List Reply) (world : World)
    (reached : Reached (grpc env) connection callbacks actions replies world) (action : Action)
    (next : ActionAllowed calmManners action) (kind : StreamKind) (subscription : Nat) :
    (trace kind subscription (act (grpc env) action world).world.log = [] ∨
      ∃ (messages : List (MessageT kind)) (rest : List (Update kind)),
        (rest = [] ∨ rest = [.failed]) ∧
        trace kind subscription (act (grpc env) action world).world.log =
          .issued :: messages.flatMap (cycle env kind) ++ rest) ∧
    (∀ message, SameMessage kind message (confirmation env kind message)) ∧
    AtMostOnce (readTag kind subscription) (act (grpc env) action world).world := by
  obtain ⟨wired, updates⟩ := reached_over_wired distinct
    (construct_updates env callbacks connection) (actions_updates auto) calm reached
  have after : Updates env (act (grpc env) action world).world :=
    wp_world (act_over_wired (actions_updates auto) next wired updates)
  refine ⟨?_, confirmation_same_message env kind, after.once kind subscription⟩
  cases after.told kind subscription with
  | silent nothing _ => exact .inl nothing
  | reading messages sofar _ =>
      rw [sofar]
      exact .inr ⟨messages, [], .inl rfl, (List.append_nil _).symm⟩
  | ended messages all _ => exact .inr ⟨messages, [.failed], .inr rfl, all⟩

def swordArrives : StreamCompletion .item where
  subscription := 7
  slot := .read
  ok := true
  message := ({ gameInventoryId := "sword", trackingId := "t1" } : ItemStatusUpdate)

/-- A message arrives on the item stream, and then its read fails. -/
def lastMessage : Action :=
  .poll .other [{}] [{ events := [.stream .item swordArrives,
    .stream .item { subscription := 7, slot := .read, ok := false }] }]

theorem last_message_in_order : defaultEnv.configuration.autoconfirmStreamUpdates = true ∧
    newConnection.streamQueue ≠ newConnection.unaryQueue ∧
    ActionAllowed calmManners lastMessage ∧
    ∃ world, Reached (grpc defaultEnv) newConnection itemCallbacks [] [] world ∧
      ((trace .item 7 (act (grpc defaultEnv) lastMessage world).world.log = [] ∨
          ∃ (messages : List (MessageT .item)) (rest : List (Update .item)),
            (rest = [] ∨ rest = [.failed]) ∧
            trace .item 7 (act (grpc defaultEnv) lastMessage world).world.log =
              .issued :: messages.flatMap (cycle defaultEnv .item) ++ rest) ∧
        (∀ message, SameMessage .item message (confirmation defaultEnv .item message)) ∧
        AtMostOnce (readTag .item 7) (act (grpc defaultEnv) lastMessage world).world) := by
  have calm : ActionAllowed calmManners lastMessage := by
    simp [lastMessage, swordArrives, ActionAllowed, PassesAllowed, Pass.Allowed, Manners.Allows]
  obtain ⟨world, reached⟩ :=
    @reached_of_replies (grpc defaultEnv) newConnection itemCallbacks [] [] (by decide +kernel)
      (by decide +kernel)
  refine ⟨rfl, new_connection_distinct, calm, world, reached, ?_⟩
  exact updates_delivered_in_order defaultEnv rfl newConnection new_connection_distinct
    itemCallbacks [] (fun _ never => by cases never) [] world reached lastMessage calm .item 7

end IviSdk.UpdateOrder
