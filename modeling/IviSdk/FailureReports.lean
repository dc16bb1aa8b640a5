import IviSdk.ManagerRuns

/-!
What `Poll` answers once the channel is in `GRPC_CHANNEL_SHUTDOWN`. The failing
call returns before anything is reinitialised, and nothing else remembers it:
a later call looks only at the completions of its own first passes.
-/

namespace IviSdk.FailureReports

open Checks CompletionQueues Streams ManagerWorld Interaction StreamClients ClientManager
open CallbackRules PollRules ManagerRuns

def FirstPassFails : List Pass → Prop
  | [] => False
  | pass :: _ => ∃ completion ∈ pass.events, completion.ok = false

theorem poll_queue_answer (runtime : Runtime) (unary : Bool) (passes : List Pass) (world : World) :
    wp (pollQueue runtime unary passes)
      (fun failed _ => failed = true ↔ FirstPassFails passes) (fun _ _ => True) world := by
  cases passes with
  | nil => trivial
  | cons pass rest =>
      simp only [pollQueue, processQueue, wp_bind, wp_pure]
      apply wp_partial (process_events_saw runtime unary pass.events false world)
      intro saw after exact
      apply wp_partial (wp_true _ after)
      intro nextStatus last _
      apply wp_partial (wp_true _ last)
      intro _ _ _
      simpa [FirstPassFails] using exact

theorem poll_answer (runtime : Runtime) (channelState : ChannelState)
    (unaryPasses streamPasses : List Pass) (world : World) :
    wp (poll runtime channelState unaryPasses streamPasses)
      (fun result _ => result = false ↔
        channelState = .shutdown ∧ (FirstPassFails unaryPasses ∨ FirstPassFails streamPasses))
      (fun _ _ => True) world := by
  simp only [poll, wp_bind]
  apply wp_partial (wp_true _ world)
  intro _ checked _
  apply wp_partial (poll_queue_answer runtime true unaryPasses checked)
  intro unaryShutdown middle unary
  apply wp_partial (poll_queue_answer runtime false streamPasses middle)
  intro streamShutdown after stream
  rw [← unary, ← stream, wp_ite]
  split
  · next failed =>
      rw [wp_ite]
      split
      · next down => simpa [down] using failed
      · next up =>
          rw [wp_bind]
          apply wp_partial (wp_true _ after)
          intro _ rebuilt _
          rw [wp_bind]
          apply wp_partial (wp_true _ rebuilt)
          intro _ _ _
          simp [up]
  · next fine =>
      simp only [Bool.or_eq_true, not_or, Bool.not_eq_true] at fine
      simp [fine]

/-! ## Runs -/

def Answered : Action → Reply → Prop
  | .poll channelState unaryPasses streamPasses, reply =>
      reply = .threw ∨ ∃ result, reply = .polled result ∧ (result = false ↔
        channelState = .shutdown ∧ (FirstPassFails unaryPasses ∨ FirstPassFails streamPasses))
  | _, reply => ∀ result, reply ≠ .polled result

theorem act_answered (runtime : Runtime) (action : Action) {world after : World} {reply : Reply}
    (resumed : resume (act runtime action world) = some (reply, after)) :
    Answered action reply := by
  have acted : wp (act runtime action) (fun reply _ => Answered action reply) (fun _ _ => True)
      world := by
    cases action with
    | poll channelState unaryPasses streamPasses =>
        simp only [act, wp_bind, wp_pure]
        exact wp_partial (poll_answer runtime channelState unaryPasses streamPasses world)
          fun result _ answer => .inr ⟨result, rfl, answer⟩
    | call call | pollUnary passes | pollStream passes | reinitializeUnary
      | reinitializeStream =>
        simp only [act, wp_bind, wp_pure]
        apply wp_partial (wp_true _ world)
        intro _ _ _ result same
        cases same
  rcases resume_rule resumed with returned | ⟨threw, _⟩
  · have answered := wp_returned acted returned
    exact answered
  · subst threw
    cases action with
    | poll channelState unaryPasses streamPasses => exact .inl rfl
    | call call | pollUnary passes | pollStream passes | reinitializeUnary
      | reinitializeStream =>
        intro result same
        cases same

theorem run_answered (runtime : Runtime) (actions : List Action) {replies later : List Reply}
    {world after : World} (ran : run runtime actions replies world = some (later, after)) :
    ∃ answers, later = answers.reverse ++ replies ∧
      ∀ pair ∈ actions.zip answers, Answered pair.1 pair.2 := by
  induction actions generalizing replies world with
  | nil =>
      simp only [run, Option.some.injEq, Prod.mk.injEq] at ran
      exact ⟨[], by simp [ran.1], by simp⟩
  | cons action rest ih =>
      simp only [run] at ran
      split at ran
      · next reply middle resumed =>
          obtain ⟨answers, split, answered⟩ := ih ran
          refine ⟨reply :: answers, by simp [split], ?_⟩
          intro pair member
          rw [List.zip_cons_cons] at member
          rcases List.mem_cons.mp member with first | member
          · subst first
            exact act_answered runtime action resumed
          · exact answered pair member
      · cases ran

def Unrecoverable : Action × Reply → Prop
  | (.poll .shutdown _ _, reply) => reply = .polled false
  | _ => False

/-- No `Poll` after an unrecoverable failure returns true. -/
def StaysReported : List (Action × Reply) → Prop
  | [] => True
  | first :: rest =>
      (Unrecoverable first → ∀ later ∈ rest, later.2 ≠ .polled true) ∧ StaysReported rest

/-- A `Poll` that is left by an exception, or whose first pass over one of the
queues sees a failure of its own. -/
def FailsAgain : Action × Reply → Prop
  | (.poll _ unaryPasses streamPasses, reply) =>
      reply = .threw ∨ FirstPassFails unaryPasses ∨ FirstPassFails streamPasses
  | _ => True

def KeepsFailing : List (Action × Reply) → Prop
  | [] => True
  | first :: rest => (Unrecoverable first → ∀ later ∈ rest, FailsAgain later) ∧ KeepsFailing rest

/-- A channel never leaves `GRPC_CHANNEL_SHUTDOWN`. -/
def ChannelStaysDown : List Action → Prop
  | [] => True
  | .poll .shutdown _ _ :: rest =>
      (∀ channelState unaryPasses streamPasses,
        .poll channelState unaryPasses streamPasses ∈ rest → channelState = .shutdown) ∧
      ChannelStaysDown rest
  | _ :: rest => ChannelStaysDown rest

theorem reported_iff_fails_again {action : Action} {reply : Reply}
    (answered : Answered action reply)
    (down : ∀ channelState unaryPasses streamPasses,
      action = .poll channelState unaryPasses streamPasses → channelState = .shutdown) :
    reply ≠ .polled true ↔ FailsAgain (action, reply) := by
  cases action with
  | poll channelState unaryPasses streamPasses =>
      rcases answered with threw | ⟨result, told, answer⟩
      · subst threw
        simp [FailsAgain]
      · subst told
        simp only [down _ _ _ rfl, true_and] at answer
        cases result with
        | true =>
            simp only [Bool.true_eq_false, false_iff] at answer
            simp [FailsAgain, answer]
        | false =>
            simp only [true_iff] at answer
            simp [FailsAgain, answer]
  | call call | pollUnary passes | pollStream passes | reinitializeUnary | reinitializeStream =>
      simpa [FailsAgain] using answered true

theorem stays_reported_iff_keeps_failing (actions : List Action) (answers : List Reply)
    (answered : ∀ pair ∈ actions.zip answers, Answered pair.1 pair.2)
    (down : ChannelStaysDown actions) :
    StaysReported (actions.zip answers) ↔ KeepsFailing (actions.zip answers) := by
  induction actions generalizing answers with
  | nil => simp [StaysReported, KeepsFailing]
  | cons action rest ih =>
      cases answers with
      | nil => simp [StaysReported, KeepsFailing]
      | cons reply answers =>
          rw [List.zip_cons_cons] at answered ⊢
          have later : ∀ pair ∈ rest.zip answers, Answered pair.1 pair.2 :=
            fun pair member => answered pair (List.mem_cons_of_mem _ member)
          simp only [StaysReported, KeepsFailing]
          refine and_congr (imp_congr_right fun failed => ?_) (ih answers later ?_)
          · refine forall₂_congr fun pair member => ?_
            apply reported_iff_fails_again (later pair member)
            intro channelState unaryPasses streamPasses same
            match action, failed with
            | .poll .shutdown _ _, _ =>
                exact down.1 _ _ _ (same ▸ (List.of_mem_zip member).1)
          · match action, down with
            | .poll .shutdown _ _, down => exact down.2
            | .poll .other _ _, down => exact down
            | .call _, down | .pollUnary _, down | .pollStream _, down
              | .reinitializeUnary, down | .reinitializeStream, down => exact down

/-- For every run of the manager over a channel that stays down: an unrecoverable
failure stays reported exactly when every later `Poll` fails again. -/
theorem unrecoverable_stays_reported_iff (runtime : Runtime) (connection : IVIConnection)
    (callbacks : IVIStreamCallbacks) (actions : List Action) (replies : List Reply)
    (world : World) (reached : Reached runtime connection callbacks actions replies world)
    (down : ChannelStaysDown actions) :
    StaysReported (actions.zip replies.reverse) ↔ KeepsFailing (actions.zip replies.reverse) := by
  obtain ⟨first, _, ran⟩ := reached.ran
  obtain ⟨answers, split, answered⟩ := run_answered runtime actions ran
  rw [split, List.append_nil, List.reverse_reverse]
  exact stays_reported_iff_keeps_failing actions answers answered down

/-- The item stream breaks, the manager recovers its queue, and the channel turns
out to be shut down. The next `Poll` finds nothing on either queue. -/
def brokenChannel : List Action :=
  [.poll .shutdown [{}]
      [{ events := [.stream .item { subscription := 7, slot := .read, ok := false }] },
       { events := [.stream .item { subscription := 7, slot := .start, ok := false },
          .stream .item { subscription := 7, slot := .initMetadata, ok := false }] },
       { last := some .shutdown }],
    .poll .shutdown [{}] [{ last := some .shutdown }]]

theorem broken_channel_stays_down : ChannelStaysDown brokenChannel := by
  refine ⟨?_, ?_, trivial⟩
  · intro channelState unaryPasses streamPasses member
    rw [List.mem_singleton] at member
    cases member
    rfl
  · intro channelState unaryPasses streamPasses member
    cases member

theorem broken_channel_reports_health :
    ∃ replies world, Reached (grpc defaultEnv) newConnection itemCallbacks brokenChannel replies
        world ∧
      ChannelStaysDown brokenChannel ∧ ¬ StaysReported (brokenChannel.zip replies.reverse) := by
  obtain ⟨world, reached⟩ :=
    @reached_of_replies (grpc defaultEnv) newConnection itemCallbacks brokenChannel
      [.polled true, .polled false] (by decide +kernel) (by decide +kernel)
  refine ⟨_, world, reached, broken_channel_stays_down, ?_⟩
  intro reported
  exact reported.1 rfl _ List.mem_cons_self rfl

theorem broken_channel_reported_iff : ChannelStaysDown brokenChannel ∧
    ∃ replies world, Reached (grpc defaultEnv) newConnection itemCallbacks brokenChannel replies
        world ∧
      (StaysReported (brokenChannel.zip replies.reverse) ↔
        KeepsFailing (brokenChannel.zip replies.reverse)) := by
  obtain ⟨world, reached⟩ :=
    @reached_of_replies (grpc defaultEnv) newConnection itemCallbacks brokenChannel
      [.polled true, .polled false] (by decide +kernel) (by decide +kernel)
  exact ⟨broken_channel_stays_down, _, world, reached,
    unrecoverable_stays_reported_iff _ _ _ _ _ _ reached broken_channel_stays_down⟩

end IviSdk.FailureReports
