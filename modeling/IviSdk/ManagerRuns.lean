import IviSdk.PollRules

/-!
Runs of a manager: the constructor, then any actions of the application, each
after the one before it came back. A property that survives every action holds
in every state an application can act in.
-/

namespace IviSdk.ManagerRuns

open Checks CompletionQueues Streams ManagerWorld Interaction StreamClients ClientManager
open CallbackRules PollRules

variable {kept : World → Prop} {abrupt : Halt → World → Prop} {manners : Manners}
  {runtime : Runtime}

def PassesAllowed (manners : Manners) (passes : List Pass) : Prop :=
  ∀ pass ∈ passes, Pass.Allowed manners pass

/-- The callbacks that an action runs keep to the manners. -/
def ActionAllowed (manners : Manners) : Action → Prop
  | .call call => manners.mayCall call
  | .poll _ unaryPasses streamPasses =>
      PassesAllowed manners unaryPasses ∧ PassesAllowed manners streamPasses
  | .pollUnary passes | .pollStream passes => PassesAllowed manners passes
  | .reinitializeUnary | .reinitializeStream => True

theorem any_passes_allowed (passes : List Pass) : PassesAllowed anyManners passes :=
  fun _ _ completion _ => any_manners_allow completion

theorem any_action_allowed (action : Action) : ActionAllowed anyManners action := by
  cases action with
  | call call => trivial
  | poll channelState unaryPasses streamPasses =>
      exact ⟨any_passes_allowed unaryPasses, any_passes_allowed streamPasses⟩
  | pollUnary passes => exact any_passes_allowed passes
  | pollStream passes => exact any_passes_allowed passes
  | reinitializeUnary => trivial
  | reinitializeStream => trivial

/-- `Poll` and requests: the simple use of the manager. -/
def PollsAndCalls : Action → Prop
  | .call _ | .poll .. => True
  | _ => False

/-- Polls and requests, with polite callbacks. -/
def PoliteUse (action : Action) : Prop := PollsAndCalls action ∧ ActionAllowed goodManners action

/-- A state in which the application can act: the constructor returned and so
did every action since. -/
structure Reached (runtime : Runtime) (connection : IVIConnection)
    (callbacks : IVIStreamCallbacks) (actions : List Action) (replies : List Reply)
    (world : World) : Prop where
  ran : ∃ first, construct runtime.toEnv callbacks (World.before connection) = .returned () first ∧
    run runtime actions [] first = some (replies, world)

theorem reached_of_replies {connection : IVIConnection} {callbacks : IVIStreamCallbacks}
    {actions : List Action} {replies : List Reply}
    (constructed : (construct runtime.toEnv callbacks (World.before connection)).value? = some ())
    (replied : (run runtime actions []
      (construct runtime.toEnv callbacks (World.before connection)).world).map Prod.fst =
        some replies) :
    ∃ world, Reached runtime connection callbacks actions replies world := by
  obtain ⟨⟨later, world⟩, ran, same⟩ := Option.map_eq_some_iff.mp replied
  subst same
  exact ⟨world, ⟨_, Outcome.eq_returned constructed, ran⟩⟩

/-- The sanity check of the constructor holds of every connection. -/
theorem sanity_check_passes (env : Env) : sanityCheck env = pure () := rfl

theorem construct_keeps {env : Env} {callbacks : IVIStreamCallbacks}
    (unary : ∀ client, Keeps kept abrupt (reinitializeUnaryClient env client))
    (stream : ∀ kind, Keeps kept abrupt (constructStream env kind (callbacks kind))) :
    Keeps kept abrupt (construct env callbacks) := by
  refine keeps_bind (keeps_each fun client _ => unary client) fun _ => ?_
  refine keeps_bind (keeps_each fun kind _ => stream kind) fun _ => ?_
  rw [sanity_check_passes]
  exact keeps_pure ()

/-- An application that subscribed to item updates only. -/
def itemCallbacks : IVIStreamCallbacks
  | .item => some 0
  | _ => none

/-! ## Rules for actions and runs -/

/-- A property of the manager that survives every action. -/
structure ActionsKept (runtime : Runtime) (manners : Manners) (kept : World → Prop)
    (abrupt : Halt → World → Prop) : Prop where
  queue : ∀ unary, QueueKept runtime unary manners kept abrupt
  call : ∀ call, manners.mayCall call → Keeps kept abrupt (apiCall runtime.toEnv .direct call)
  reinitializeUnary : Keeps kept abrupt (reinitializeUnary runtime.toEnv)
  reinitializeStream : Keeps kept abrupt (reinitializeStream runtime.toEnv)
  exited : ∀ world, kept world → abrupt .exited world
  resumes : ∀ world, abrupt .threw world → kept world

theorem ActionsKept.restrict (rules : ActionsKept runtime anyManners kept abrupt)
    (manners : Manners) : ActionsKept runtime manners kept abrupt :=
  { rules with
    queue := fun unary => (rules.queue unary).restrict manners
    call := fun call _ => rules.call call trivial }

/-- The same for a property that survives while a base property holds. -/
structure ActionsKeptOver (runtime : Runtime) (manners : Manners) (base kept : World → Prop)
    (abrupt : Halt → World → Prop) : Prop where
  queue : ∀ unary, QueueKeptOver runtime unary manners base kept abrupt
  call : ∀ call, manners.mayCall call → ∀ world, base world → kept world →
    wp (apiCall runtime.toEnv .direct call) (fun _ => kept) abrupt world
  reinitializeUnary : ∀ world, base world → kept world →
    wp (ClientManager.reinitializeUnary runtime.toEnv) (fun _ => kept) abrupt world
  reinitializeStream : ∀ world, base world → kept world →
    wp (ClientManager.reinitializeStream runtime.toEnv) (fun _ => kept) abrupt world
  exited : ∀ world, kept world → abrupt .exited world
  resumes : ∀ world, abrupt .threw world → kept world

theorem ActionsKept.over {more : World → Prop} {abrupt' : Halt → World → Prop}
    (rules : ActionsKept runtime manners kept abrupt)
    (rest : ActionsKeptOver runtime manners kept more abrupt') :
    ActionsKept runtime manners (fun world => kept world ∧ more world)
      (fun reason world => abrupt reason world ∧ abrupt' reason world) where
  queue unary := (rules.queue unary).over (rest.queue unary)
  call call allowed world both :=
    wp_and (rules.call call allowed world both.1) (rest.call call allowed world both.1 both.2)
  reinitializeUnary world both :=
    wp_and (rules.reinitializeUnary world both.1) (rest.reinitializeUnary world both.1 both.2)
  reinitializeStream world both :=
    wp_and (rules.reinitializeStream world both.1) (rest.reinitializeStream world both.1 both.2)
  exited world both := ⟨rules.exited world both.1, rest.exited world both.2⟩
  resumes world both := ⟨rules.resumes world both.1, rest.resumes world both.2⟩

theorem check_keeps (exited : ∀ world, kept world → abrupt .exited world) (build : Build)
    (expr : Bool) : Keeps kept abrupt (checked (check build expr)) := by
  intro world holds
  rw [wp_checked]
  unfold check exitFailure
  cases expr with
  | true => exact holds
  | false =>
      cases build.enableExitOnFailCheck with
      | true => exact exited world holds
      | false => exact holds

theorem poll_keeps (rules : ActionsKept runtime manners kept abrupt) (channelState : ChannelState)
    {unaryPasses streamPasses : List Pass} (unary : PassesAllowed manners unaryPasses)
    (stream : PassesAllowed manners streamPasses) :
    Keeps kept abrupt (poll runtime channelState unaryPasses streamPasses) := by
  refine keeps_bind (check_keeps rules.exited _ _) fun _ => ?_
  refine keeps_bind (poll_queue_keeps (rules.queue true) unary) fun unaryShutdown => ?_
  refine keeps_bind (poll_queue_keeps (rules.queue false) stream) fun streamShutdown => ?_
  refine keeps_ite (keeps_ite (keeps_pure false) ?_) (keeps_pure true)
  exact keeps_bind (keeps_only_if fun _ => rules.reinitializeUnary) fun _ =>
    keeps_bind (keeps_only_if fun _ => rules.reinitializeStream) fun _ => keeps_pure true

theorem act_keeps (rules : ActionsKept runtime manners kept abrupt) {action : Action}
    (allowed : ActionAllowed manners action) : Keeps kept abrupt (act runtime action) := by
  cases action with
  | call call => exact keeps_bind (rules.call call allowed) fun _ => keeps_pure Reply.done
  | poll channelState unaryPasses streamPasses =>
      exact keeps_bind (poll_keeps rules channelState allowed.1 allowed.2) fun _ => keeps_pure _
  | pollUnary passes =>
      exact keeps_bind (poll_queue_keeps (rules.queue true) allowed) fun _ => keeps_pure _
  | pollStream passes =>
      exact keeps_bind (poll_queue_keeps (rules.queue false) allowed) fun _ => keeps_pure _
  | reinitializeUnary => exact keeps_bind rules.reinitializeUnary fun _ => keeps_pure Reply.done
  | reinitializeStream => exact keeps_bind rules.reinitializeStream fun _ => keeps_pure Reply.done

/-- An action the application goes on after returned or threw. -/
theorem resume_rule {outcome : Outcome World Halt Reply} {reply : Reply} {after : World}
    (resumed : resume outcome = some (reply, after)) :
    outcome = .returned reply after ∨ (reply = .threw ∧ outcome = .stopped .threw after) := by
  unfold resume at resumed
  split at resumed
  · next returned world =>
      rw [Option.some.injEq, Prod.mk.injEq] at resumed
      rw [resumed.1, resumed.2]
      exact .inl rfl
  · next world =>
      rw [Option.some.injEq, Prod.mk.injEq] at resumed
      rw [resumed.2]
      exact .inr ⟨resumed.1.symm, rfl⟩
  · cases resumed

/-- A run of one action, which may have thrown. -/
theorem reached_after_one {runtime : Runtime} {connection : IVIConnection}
    {callbacks : IVIStreamCallbacks} {action : Action} {reply : Reply}
    (constructed : (construct runtime.toEnv callbacks (World.before connection)).value? = some ())
    (replied : (resume (act runtime action
      (construct runtime.toEnv callbacks (World.before connection)).world)).map Prod.fst =
        some reply) :
    Reached runtime connection callbacks [action] [reply]
      (act runtime action
        (construct runtime.toEnv callbacks (World.before connection)).world).world := by
  obtain ⟨⟨told, after⟩, resumed, same⟩ := Option.map_eq_some_iff.mp replied
  subst same
  have last : after = (act runtime action
      (construct runtime.toEnv callbacks (World.before connection)).world).world := by
    rcases resume_rule resumed with returned | ⟨_, threw⟩
    · exact (congrArg Outcome.world returned).symm
    · exact (congrArg Outcome.world threw).symm
  refine ⟨_, Outcome.eq_returned constructed, ?_⟩
  simp only [run, resumed, last]

/-- The induction over a run: a property of the replies and the world that every
action carries from one state to the next. -/
theorem run_rule (allowed : Action → Prop) (kept : List Reply → World → Prop)
    (step : ∀ action replies world reply after, allowed action → kept replies world →
      resume (act runtime action world) = some (reply, after) → kept (reply :: replies) after)
    (actions : List Action) (every : ∀ action ∈ actions, allowed action)
    {replies later : List Reply} {world after : World} (holds : kept replies world)
    (ran : run runtime actions replies world = some (later, after)) : kept later after := by
  -- Over the actions; the world and the replies so far vary.
  induction actions generalizing replies world with
  | nil =>
      simp only [run, Option.some.injEq, Prod.mk.injEq] at ran
      rw [← ran.1, ← ran.2]
      exact holds
  | cons action rest ih =>
      simp only [run] at ran
      split at ran
      · next reply middle resumed =>
          exact ih (fun one member => every one (List.mem_cons_of_mem action member))
            (step action replies world reply middle (every action List.mem_cons_self) holds
              resumed) ran
      · cases ran

theorem run_keeps (rules : ActionsKept runtime manners kept abrupt) (actions : List Action)
    (allowed : ∀ action ∈ actions, ActionAllowed manners action) {replies later : List Reply}
    {world after : World} (holds : kept world)
    (ran : run runtime actions replies world = some (later, after)) : kept after := by
  refine run_rule (ActionAllowed manners) (fun _ => kept) ?_ actions allowed holds ran
  intro action _ world reply after allowed holds resumed
  have acted := act_keeps rules allowed world holds
  rcases resume_rule resumed with returned | ⟨_, threw⟩
  · exact wp_returned acted returned
  · exact rules.resumes after (wp_stopped acted threw)

end IviSdk.ManagerRuns
