import IviSdk.CallOutcomes
import IviSdk.StepRules

/-!
The tags of unary calls, seen through the operations they were made for. The manager
only knows a tag, a status and whether a check in the parser fails; here the tag is
the callback of an operation, and what its completion passes on is what the
synchronous client would have returned for the same request and reply.
-/

namespace IviSdk.AsyncResults

open Checks Messages Models Results UnaryCalls ServiceClients EntryPoints CallOutcomes
open CompletionQueues Streams ManagerWorld Interaction StreamClients ClientManager
open CallbackRules ManagerRuns QueueWiring StepRules

variable {Struct Value Result Item : Type}

/-! ## Parsers do not throw -/

def NeverThrows (result : Checked Value) : Prop :=
  ∀ exception, result ≠ .error (.threw exception)

namespace NeverThrows

theorem done (value : Value) : NeverThrows (.ok value : Checked Value) := by
  intro exception never
  cases never

theorem of_check (build : Build) (expr : Bool) : NeverThrows (check build expr) := by
  intro exception threw
  rcases check_cases build expr with fine | failed
  · rw [fine] at threw
    cases threw
  · rw [failed] at threw
    cases threw

theorem bind {first : Checked Value} {next : Value → Checked Result} (calm : NeverThrows first)
    (later : ∀ value, NeverThrows (next value)) : NeverThrows (first >>= next) := by
  cases first with
  | ok value => exact later value
  | error stopped =>
      intro exception threw
      cases stopped with
      | exited => cases threw
      | threw other => exact calm other rfl

theorem mapM {body : Item → Checked Result} (step : ∀ item, NeverThrows (body item))
    (items : List Item) : NeverThrows (items.mapM body) := by
  induction items with
  | nil => exact done []
  | cons item rest ih =>
      rw [List.mapM_cons]
      exact (step item).bind fun _ => ih.bind fun _ => done _

end NeverThrows

section Parsers
variable (build : Build) (json : JsonUtil Struct)

theorem json_string_calm (protoStruct : Struct) :
    NeverThrows (googleStructToJsonString build json protoStruct) :=
  (NeverThrows.of_check build _).bind fun _ => .done _

theorem metadata_calm (metadata : Metadata Struct) :
    NeverThrows (IVIMetadata.fromProto build json metadata) :=
  (json_string_calm build json _).bind fun _ => .done _

theorem item_calm (item : Messages.Item Struct) : NeverThrows (IVIItem.fromProto build json item) :=
  (metadata_calm build json _).bind fun _ => .done _

theorem item_type_calm (itemType : ItemType Struct) :
    NeverThrows (IVIItemType.fromProto build json itemType) :=
  (metadata_calm build json _).bind fun _ => .done _

theorem order_calm (order : Order Struct) : NeverThrows (IVIOrder.fromProto build json order) := by
  unfold IVIOrder.fromProto
  dsimp only
  split
  · refine (json_string_calm build json _).bind fun _ => ?_
    split
    · exact (json_string_calm build json _).bind fun _ => .done _
    · exact .done _
  · refine (NeverThrows.done "").bind fun _ => ?_
    split
    · exact (json_string_calm build json _).bind fun _ => .done _
    · exact .done _

theorem token_calm (token : Token) : NeverThrows (IVIToken.fromProto build token) := by
  have exits : NeverThrows (exitFailure build) := by
    intro exception threw
    unfold exitFailure at threw
    split at threw <;> cases threw
  cases token with
  | braintree value => exact .done _
  | notSet => exact exits.bind fun _ => .done _
  | other _ => exact exits.bind fun _ => .done _

end Parsers

theorem parser_calm (env : Env) (json : JsonUtil Struct) (op : Operation)
    (response : op.Response Struct) : NeverThrows ((op.plan env json).parser response) := by
  cases op with
  | getItem inventory history => exact item_calm env.build json response
  | getItemNoHistory inventory => exact item_calm env.build json response
  | getItems created size order finalized => exact .mapM (item_calm env.build json) _
  | getItemType type => exact .mapM (item_type_calm env.build json) _
  | getItemTypes types => exact .mapM (item_type_calm env.build json) _
  | getAllItemTypes => exact .mapM (item_type_calm env.build json) _
  | getOrder order => exact order_calm env.build json response
  | createPrimaryOrder => exact order_calm env.build json response
  | getToken id player => exact token_calm env.build response
  | _ => exact .done _

/-! ## One asynchronous call -/

/-- What an asynchronous call is about: the operation it was made for and what the
server left for it. -/
structure Exchange (Struct : Type) where
  op : Operation
  reply : ServerReply (op.Response Struct)

namespace Exchange

section Call
variable (env : Env) (json : JsonUtil Struct) (exchange : Exchange Struct)

/-- The checks of the request passed, so the stub was handed a request. -/
def Made : Prop := ∃ request, (exchange.op.plan env json).make = .ok request

/-- What the queue hands out for it. -/
def completion (origin : Origin) (id : Nat) (ok : Bool) (reaction : Reaction) :
    UnaryCompletion where
  origin := origin
  id := id
  ok := ok
  context := exchange.reply.context
  status := exchange.reply.status
  parserExits := match (exchange.op.plan env json).parser exchange.reply.response with
    | .error .exited => true
    | _ => false
  reaction := reaction

/-- What the callback of the asynchronous client is passed. -/
def passed (ok : Bool) : Checked (IVIResultT exchange.op.Payload) := do
  let started ← exchange.op.async env json (some .ok)
  started.complete ok exchange.reply

/-- What the synchronous client returns. -/
def returned : Checked (IVIResultT exchange.op.Payload) := do
  let call ← exchange.op.sync env json
  call.receive exchange.reply

/-- What the template's callback is passed, before the operation's last step. -/
def treated (ok : Bool) : Checked (IVIResultT (exchange.op.plan env json).Parsed) := do
  if ← checkOkUnaryAsync env.build ok exchange.reply.context exchange.reply.status then
    makeSuccessResult (exchange.op.plan env json).parser exchange.reply.response
  else failureResult exchange.reply

end Call

section Treatment
variable {env : Env} {json : JsonUtil Struct} {exchange : Exchange Struct}

/-- The manager's `passedStatus` is the status of what the operation's tag computes. -/
theorem status_passed (origin : Origin) (id : Nat) (ok : Bool) (reaction : Reaction) :
    passedStatus env (exchange.completion env json origin id ok reaction) =
      (exchange.treated env json ok).map IVIResultT.status := by
  unfold passedStatus treated
  change (checkOkUnaryAsync env.build ok exchange.reply.context exchange.reply.status >>= _) = _
  cases checkOkUnaryAsync env.build ok exchange.reply.context exchange.reply.status with
  | error stopped => rfl
  | ok accepted =>
      cases accepted with
      | false =>
          change translateGrpcError exchange.reply.context exchange.reply.status =
            (failureResult exchange.reply).map IVIResultT.status
          unfold failureResult
          cases translateGrpcError exchange.reply.context exchange.reply.status <;> rfl
      | true =>
          have calm := parser_calm env json exchange.op exchange.reply.response
          change (if (exchange.completion env json origin id ok reaction).parserExits
            then _ else _) = (makeSuccessResult (exchange.op.plan env json).parser
              exchange.reply.response).map IVIResultT.status
          unfold completion makeSuccessResult
          cases parsed : (exchange.op.plan env json).parser exchange.reply.response with
          | ok payload => rfl
          | error stopped =>
              cases stopped with
              | exited => rfl
              | threw exception => exact absurd parsed (calm exception)

theorem passed_of_treated (made : exchange.Made env json) (ok : Bool) :
    exchange.passed env json ok =
      (exchange.treated env json ok).map (exchange.op.plan env json).finish := by
  obtain ⟨request, built⟩ := made
  unfold passed treated
  rw [async_plan, Plan.async, built]
  change (checkOkUnaryAsync env.build ok exchange.reply.context exchange.reply.status >>= _) = _
  cases checkOkUnaryAsync env.build ok exchange.reply.context exchange.reply.status with
  | error stopped => rfl
  | ok accepted =>
      cases accepted with
      | false =>
          change ((failureResult exchange.reply :
            Checked (IVIResultT (exchange.op.plan env json).Parsed)) >>= _) =
              (failureResult exchange.reply).map _
          cases (failureResult exchange.reply :
            Checked (IVIResultT (exchange.op.plan env json).Parsed)) <;> rfl
      | true =>
          change (makeSuccessResult (exchange.op.plan env json).parser
            exchange.reply.response >>= _) = (makeSuccessResult _ _).map _
          cases makeSuccessResult (exchange.op.plan env json).parser
            exchange.reply.response <;> rfl

theorem returned_of_passed : exchange.returned env json = exchange.passed env json true := by
  have same := plan_same_outcome env (exchange.op.plan env json) (.ok :
    IVIResultT exchange.op.Payload → Checked (IVIResultT exchange.op.Payload))
  unfold returned passed
  rw [sync_plan, async_plan]
  cases sent : (exchange.op.plan env json).sync env with
  | error stopped =>
      cases started : (exchange.op.plan env json).async env .ok with
      | error other =>
          rw [sent, started] at same
          exact congrArg Except.error same
      | ok tag =>
          rw [sent, started] at same
          cases same
  | ok call =>
      cases started : (exchange.op.plan env json).async env .ok with
      | error other =>
          rw [sent, started] at same
          cases same
      | ok tag =>
          rw [sent, started] at same
          obtain ⟨_, _, completes⟩ := same
          change call.receive exchange.reply = tag.complete true exchange.reply
          rw [completes]
          cases call.receive exchange.reply <;> rfl

/-- The template passes on a parsed response or a failure without a payload. -/
theorem treated_cases {ok : Bool} {result : IVIResultT (exchange.op.plan env json).Parsed}
    (treated : exchange.treated env json ok = .ok result) :
    (∃ parsed, (exchange.op.plan env json).parser exchange.reply.response = .ok parsed ∧
      result = ⟨.success, parsed⟩) ∨
    ∃ status, status ≠ .success ∧ result = .ofStatus status := by
  unfold Exchange.treated at treated
  obtain ⟨accepted, _, treated⟩ := ok_of_bind treated
  cases accepted with
  | true =>
      obtain ⟨parsed, read, built⟩ := ok_of_bind treated
      cases built
      exact .inl ⟨parsed, read, rfl⟩
  | false =>
      obtain ⟨translated, translates, built⟩ := ok_of_bind treated
      cases built
      exact .inr ⟨translated, translate_grpc_error_not_success _ _ translated translates, rfl⟩

/-- The last step of `GetItemType` finds nothing in an empty list. No other step says
anything else than the template. -/
theorem finish_status {ok : Bool} {result : IVIResultT (exchange.op.plan env json).Parsed}
    (treated : exchange.treated env json ok = .ok result) :
    if result.status = .success ∧
        Operation.lacksElement exchange.op exchange.reply.response = true then
      (exchange.op.plan env json).finish result = ⟨.notFound, default⟩
    else ((exchange.op.plan env json).finish result).status = result.status := by
  rcases treated_cases treated with ⟨parsed, read, rfl⟩ | ⟨status, failed, rfl⟩
  · cases lacks : Operation.lacksElement exchange.op exchange.reply.response with
    | true =>
        have missing := finish_missing env json exchange.op exchange.reply.response lacks
        rw [read] at missing
        rw [if_pos ⟨rfl, rfl⟩]
        exact Except.ok.inj missing
    | false =>
        rw [if_neg fun both => Bool.false_ne_true both.2]
        exact finish_success env json exchange.op exchange.reply.response lacks parsed read
  · rw [if_neg fun both => failed both.1]
    exact congrArg IVIResultT.status (finish_failure env json exchange.op status failed)

theorem failure_of_treated {result : IVIResultT (exchange.op.plan env json).Parsed}
    (treated : exchange.treated env json false = .ok result) :
    result.status ≠ .success ∧
      (exchange.op.plan env json).finish result = .ofStatus result.status := by
  unfold Exchange.treated at treated
  obtain ⟨accepted, checked, treated⟩ := ok_of_bind treated
  obtain ⟨_, _, rejected⟩ := ok_of_bind checked
  cases rejected
  obtain ⟨translated, translates, built⟩ := ok_of_bind treated
  cases built
  have failed := translate_grpc_error_not_success _ _ translated translates
  exact ⟨failed, finish_failure env json exchange.op translated failed⟩

end Treatment

end Exchange

/-! ## Every call of every run -/

/-- What the log's word on a call says about the result its callback was passed: the
template's status, but for a `GetItemType` whose list is empty. -/
structure Answered (env : Env) (json : JsonUtil Struct) (exchange : Exchange Struct) (ok : Bool)
    (status : IVIResultStatus) (result : IVIResultT exchange.op.Payload) : Prop where
  passed : exchange.passed env json ok = .ok result
  returned : ok = true → exchange.returned env json = .ok result
  failed : ok = false → status ≠ .success ∧ result = .ofStatus status
  status : if status = .success ∧
      Operation.lacksElement exchange.op exchange.reply.response = true then
    result = ⟨.notFound, default⟩ else result.status = status

namespace Exchange

/-- What the server left for the call is what the queue hands out. -/
def LeftFor (env : Env) (json : JsonUtil Struct) (exchange : Exchange Struct)
    (completion : UnaryCompletion) : Prop :=
  completion =
    exchange.completion env json completion.origin completion.id completion.ok completion.reaction

theorem answers {env : Env} {json : JsonUtil Struct} {exchange : Exchange Struct}
    {completion : UnaryCompletion} {status : IVIResultStatus} (made : exchange.Made env json)
    (left : exchange.LeftFor env json completion)
    (passed : passedStatus env completion = .ok status) :
    ∃ result, Answered env json exchange completion.ok status result := by
  rw [left, status_passed] at passed
  cases treatment : exchange.treated env json completion.ok with
  | error stopped =>
      rw [treatment] at passed
      cases passed
  | ok treated =>
      rw [treatment] at passed
      cases passed
      have answer := passed_of_treated made completion.ok
      rw [treatment] at answer
      refine ⟨(exchange.op.plan env json).finish treated, ?_⟩
      constructor
      · exact answer
      · intro accepted
        rw [returned_of_passed, ← accepted]
        exact answer
      · intro rejected
        rw [rejected] at treatment
        exact failure_of_treated treatment
      · exact finish_status treatment

end Exchange

/-- What was handed out stays so. -/
theorem handed_logs {completion : Completion} {before after : World} {event : Event}
    (handed : Handed completion before) (logged : after.log = event :: before.log) :
    Handed completion after := by
  obtain ⟨unary, streamShut, unaryShut, member⟩ := handed
  refine ⟨unary, streamShut, unaryShut, ?_⟩
  rw [logged]
  exact List.mem_cons_of_mem _ member

/-- A callback was only run for a completion that a queue handed out. -/
def Traced (env : Env) (world : World) : Prop :=
  ∀ tag status, .completed tag status ∈ world.log → ∃ completion : UnaryCompletion,
    Handed (.unary completion) world ∧ (Completion.unary completion).tag = tag ∧
      passedStatus env completion = .ok status

/-- One more event is logged, and it is no callback. -/
theorem Traced.logs {env : Env} {before after : World} (traced : Traced env before)
    {event : Event} (logged : after.log = event :: before.log)
    (other : ∀ tag status, event ≠ .completed tag status) : Traced env after := by
  intro tag status member
  rw [logged] at member
  rcases List.mem_cons.mp member with same | member
  · exact absurd same.symm (other tag status)
  · obtain ⟨completion, handed, answers⟩ := traced tag status member
    exact ⟨completion, handed_logs handed logged, answers⟩

theorem traced_steps (env : Env) : StepsKept env (Traced env) where
  note event world routine traced := by
    apply traced.logs rfl
    rintro tag status rfl
    exact routine
  state _ _ _ _ _ traced := traced
  reader _ _ traced := traced
  client _ _ _ traced := traced
  counted _ _ traced := traced
  renewUnary _ traced := traced
  renewStream _ traced := traced
  starts _ _ _ _ _ traced := traced.logs rfl fun _ _ => nofun
  calls _ _ traced := traced.logs rfl fun _ _ => nofun
  delivers unary completion world _ traced := by
    apply PollRules.deliver_rule unary completion world (Traced env)
    · exact traced.logs rfl fun _ _ => nofun
    · exact fun _ _ _ traced _ => traced.logs rfl fun _ _ => nofun
  completes completion status world handed passed traced := by
    intro tag other member
    rcases List.mem_cons.mp member with same | member
    · cases same
      exact ⟨completion, handed_logs handed rfl, rfl, passed⟩
    · obtain ⟨earlier, handed, answers⟩ := traced tag other member
      exact ⟨earlier, handed_logs handed rfl, answers⟩
  collects _ _ _ _ traced := traced.logs rfl fun _ _ => nofun
  shuts _ _ traced := traced.logs rfl fun _ _ => nofun

/-- The asynchronous client answers as the synchronous one would have: at every moment
of the life of a manager, in whatever order its calls complete and whatever its
callbacks request, confirm and finish, each callback that ran was passed, for the
completion a queue handed out, the result of the call's operation for the reply the
server left. -/
theorem async_results_are_sync_results (env : Env) (json : JsonUtil Struct)
    (connection : IVIConnection) (callbacks : IVIStreamCallbacks) :
    Always env connection callbacks fun world =>
      ∀ tag status, .completed tag status ∈ world.log → ∃ completion : UnaryCompletion,
        Handed (.unary completion) world ∧ (Completion.unary completion).tag = tag ∧
        ∀ exchange : Exchange Struct, exchange.Made env json →
          exchange.LeftFor env json completion →
            ∃ result, Answered env json exchange completion.ok status result := by
  apply always_of_steps (traced_steps env)
  · exact fun tag status never => nomatch never
  · intro world traced tag status member
    obtain ⟨completion, handed, same, passed⟩ := traced tag status member
    exact ⟨completion, handed, same, fun exchange made left => Exchange.answers made left passed⟩

/-! ### An item type that does not exist -/

/-- The server knows no such item type: it answers with an empty list. -/
def unknownItemType : Exchange Unit where
  op := .getItemType "sword"
  reply := ⟨{}, {}, { itemTypes := [] }⟩

def emptyListArrives : UnaryCompletion :=
  unknownItemType.completion defaultEnv noStructs .direct 11 true {}

def itemTypeAsked : World :=
  (act (grpc defaultEnv) (.call (.request .itemType))
    (construct defaultEnv itemCallbacks (World.before newConnection)).world).world

/-- The poll that is handed the list. -/
def emptyListPoll : Action := .pollUnary [{ events := [.unary emptyListArrives] }]

def itemTypeAnswered : World := (act (grpc defaultEnv) emptyListPoll itemTypeAsked).world

/-- No failed call and no reply with a trailer was handed out. -/
def handsOutPlain : Event → Bool
  | .delivered _ (.unary completion) _ _ =>
      completion.ok && completion.context.serverTrailingMetadata.isEmpty &&
        completion.status.errorCode == 0 && completion.status.errorMessage == "" &&
        !completion.parserExits
  | _ => true

theorem plain_left_for_it {completion : UnaryCompletion}
    (handed : Handed (.unary completion) itemTypeAnswered) :
    completion.ok = true ∧ unknownItemType.LeftFor defaultEnv noStructs completion := by
  have plain : itemTypeAnswered.log.all handsOutPlain = true := by decide +kernel
  obtain ⟨unary, streamShut, unaryShut, member⟩ := handed
  have fields := List.all_eq_true.mp plain _ member
  obtain ⟨origin, id, ok, ⟨metadata⟩, ⟨code, text⟩, parserExits, reaction⟩ := completion
  simp only [handsOutPlain, Bool.and_eq_true, List.isEmpty_iff, beq_iff_eq, Bool.not_eq_true']
    at fields
  obtain ⟨⟨⟨⟨rfl, rfl⟩, rfl⟩, rfl⟩, rfl⟩ := fields
  exact ⟨rfl, rfl⟩

def told : Event → Option (Tag × IVIResultStatus)
  | .completed tag status => some (tag, status)
  | _ => none

theorem item_type_completed : .completed (.unary .direct 11) .success ∈ itemTypeAnswered.log := by
  have member : (.unary .direct 11, .success) ∈ itemTypeAnswered.log.filterMap told := by
    decide +kernel
  obtain ⟨event, logged, same⟩ := List.mem_filterMap.mp member
  cases event with
  | completed tag status =>
      cases same
      exact logged
  | _ => cases same

theorem item_type_answered_reached :
    Reached (grpc defaultEnv) newConnection itemCallbacks
      [.call (.request .itemType), emptyListPoll] [.queuePolled false, .done] itemTypeAnswered := by
  have asked : act (grpc defaultEnv) (.call (.request .itemType))
      (construct defaultEnv itemCallbacks (World.before newConnection)).world =
        .returned .done itemTypeAsked := Outcome.eq_returned (by decide +kernel)
  have answered : act (grpc defaultEnv) emptyListPoll itemTypeAsked =
      .returned (.queuePolled false) itemTypeAnswered := Outcome.eq_returned (by decide +kernel)
  refine ⟨_, Outcome.eq_returned (by decide +kernel), ?_⟩
  simp only [run, grpc] at asked answered ⊢
  rw [asked]
  simp only [resume, answered]

theorem unknown_item_type_answered :
    Reached (grpc defaultEnv) newConnection itemCallbacks
      [.call (.request .itemType), emptyListPoll] [.queuePolled false, .done] itemTypeAnswered ∧
    .completed (.unary .direct 11) .success ∈ itemTypeAnswered.log ∧
    unknownItemType.Made defaultEnv noStructs ∧
    ∃ completion, Handed (.unary completion) itemTypeAnswered ∧
      unknownItemType.LeftFor defaultEnv noStructs completion ∧
      ∃ result, Answered defaultEnv noStructs unknownItemType true .success result ∧
        result.status = .notFound := by
  have made : unknownItemType.Made defaultEnv noStructs := ⟨_, rfl⟩
  obtain ⟨completion, handed, _, tells⟩ := (async_results_are_sync_results defaultEnv noStructs
    newConnection itemCallbacks).reached _ _ _ item_type_answered_reached _ _ item_type_completed
  obtain ⟨ok, left⟩ := plain_left_for_it handed
  obtain ⟨result, answered⟩ := tells unknownItemType made left
  rw [ok] at answered
  have status := answered.status
  rw [if_pos ⟨rfl, rfl⟩] at status
  exact ⟨item_type_answered_reached, item_type_completed, made, completion, handed, left, result,
    answered, congrArg IVIResultT.status status⟩

end IviSdk.AsyncResults
