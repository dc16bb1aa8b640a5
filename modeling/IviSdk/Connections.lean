import IviSdk.BuildVariants
import IviSdk.QueueOwnership
import IviSdk.StreamHealing

/-!
`ivi-config.cpp` and the constructors of the two managers. A connection comes with a
queue for each member. A manager made on it either exits before an operation was
started, or has every stream with a callback subscribed and nothing else pending. The
channel, its credentials and its arguments go to gRPC and are not read again.
-/

namespace IviSdk.Connections

open Checks CompletionQueues Streams ManagerWorld Interaction StreamClients ClientManager
open CallbackRules ManagerRuns QueueWiring LiveStreams BuildVariants StreamHealing

/-! ## Connections -/

/-- The branch on `WaitForConnected`: whether the channel connected in time. -/
def waitForConnected (build : Build) (connected : Bool) : Checked Unit :=
  if connected then .ok () else exitFailure build

def defaultConnection (env : Env) (connected : Bool) : Checked IVIConnection := do
  check env.build (env.configuration.apiKey != "")
  check env.build (env.configuration.environmentId != "")
  check env.build (env.configuration.host != "")
  waitForConnected env.build connected
  .ok newConnection

def insecureConnection (build : Build) (privateHost : String) : Checked IVIConnection := do
  check build (privateHost != defaultHost)
  .ok newConnection

/-! ## Constructors -/

/-- The constructor of the asynchronous manager that is only given a configuration. -/
def defaultManagerAsync (env : Env) (connected : Bool) (callbacks : IVIStreamCallbacks) :
    Checked (Outcome World Halt Unit) := do
  let connection ← defaultConnection env connected
  .ok (construct env callbacks (World.before connection))

/-- The constructor of the synchronous manager: five clients, on whatever connection. -/
def constructSync (env : Env) : Checked Unit := do
  clientChecks env
  clientChecks env
  clientChecks env
  clientChecks env
  clientChecks env

def defaultManagerSync (env : Env) (connected : Bool) : Checked Unit := do
  let _connection ← defaultConnection env connected
  constructSync env

/-! ## What is checked -/

theorem checked_then_ok_iff {Value : Type} (build : Build) (expr : Bool)
    (next : Unit → Checked Value) (value : Value) :
    (check build expr >>= next) = .ok value ↔
      (expr = true ∨ build.enableExitOnFailCheck = false) ∧ next () = .ok value := by
  unfold check exitFailure
  cases expr <;> cases build.enableExitOnFailCheck <;> simp [bind, Except.bind]

theorem check_ok_iff (build : Build) (expr : Bool) :
    check build expr = .ok () ↔ expr = true ∨ build.enableExitOnFailCheck = false := by
  unfold check exitFailure
  cases expr <;> cases build.enableExitOnFailCheck <;> simp

theorem client_checks_ok_iff (env : Env) :
    clientChecks env = .ok () ↔
      WellConfigured env.configuration ∨ env.build.enableExitOnFailCheck = false := by
  unfold clientChecks
  rw [checked_then_ok_iff, checked_then_ok_iff, check_ok_iff]
  simp only [bne_iff_ne]
  constructor
  · rintro ⟨host | logs, apiKey | logs, environmentId | logs⟩
    · exact .inl ⟨host, apiKey, environmentId⟩
    all_goals exact .inr logs
  · rintro (configured | logs)
    · exact ⟨.inl configured.host, .inl configured.apiKey, .inl configured.environmentId⟩
    · exact ⟨.inr logs, .inr logs, .inr logs⟩

theorem checked_then_cases {Value : Type} (build : Build) (expr : Bool)
    {next : Unit → Checked Value} {value : Value}
    (later : next () = .ok value ∨ next () = .error .exited) :
    (check build expr >>= next) = .ok value ∨ (check build expr >>= next) = .error .exited := by
  rcases check_cases build expr with passed | failed
  · rw [passed]
    exact later
  · rw [failed]
    exact .inr rfl

theorem wait_for_connected (build : Build) (connected : Bool) :
    waitForConnected build connected = check build connected := by
  cases connected <;> rfl

theorem default_connection_cases (env : Env) (connected : Bool) :
    defaultConnection env connected = .ok newConnection ∨
      defaultConnection env connected = .error .exited := by
  unfold defaultConnection
  rw [wait_for_connected]
  apply checked_then_cases
  apply checked_then_cases
  apply checked_then_cases
  apply checked_then_cases
  exact .inl rfl

theorem default_connection_ok_iff (env : Env) (connected : Bool) (connection : IVIConnection) :
    defaultConnection env connected = .ok connection ↔
      connection = newConnection ∧
        (WellConfigured env.configuration ∧ connected = true ∨
          env.build.enableExitOnFailCheck = false) := by
  unfold defaultConnection
  rw [wait_for_connected, checked_then_ok_iff, checked_then_ok_iff, checked_then_ok_iff,
    checked_then_ok_iff]
  simp only [bne_iff_ne, Except.ok.injEq]
  constructor
  · rintro ⟨apiKey | logs, environmentId | logs, host | logs, arrived | logs, rfl⟩
    · exact ⟨rfl, .inl ⟨⟨host, apiKey, environmentId⟩, arrived⟩⟩
    all_goals exact ⟨rfl, .inr logs⟩
  · rintro ⟨rfl, ⟨configured, arrived⟩ | logs⟩
    · exact ⟨.inl configured.apiKey, .inl configured.environmentId, .inl configured.host,
        .inl arrived, rfl⟩
    · exact ⟨.inr logs, .inr logs, .inr logs, .inr logs, rfl⟩

theorem insecure_connection_ok_iff (build : Build) (privateHost : String)
    (connection : IVIConnection) :
    insecureConnection build privateHost = .ok connection ↔
      connection = newConnection ∧
        (privateHost ≠ defaultHost ∨ build.enableExitOnFailCheck = false) := by
  unfold insecureConnection
  rw [checked_then_ok_iff, bne_iff_ne, Except.ok.injEq, and_comm]
  constructor
  · rintro ⟨rfl, allowed⟩
    exact ⟨rfl, allowed⟩
  · rintro ⟨rfl, allowed⟩
    exact ⟨rfl, allowed⟩

/-! ## What a constructor leaves -/

section Started
variable {env : Env} {callbacks : IVIStreamCallbacks} {connection : IVIConnection}

/-- A manager as its constructor leaves it: the streams subscribed that have a
callback, and no call under way. -/
structure Started (callbacks : IVIStreamCallbacks) (connection : IVIConnection) (world : World) :
    Prop where
  own : world.connection = connection
  unshut : world.streamShut = false
  subscribed : ∀ kind callback, callbacks kind = some callback →
    SubscribedClient kind callback world
  idle : ∀ kind, callbacks kind = none → ∀ queue subscription slot,
    .stream kind subscription slot ∉ world.pending queue
  unused : Unused world

/-- Subscribing puts nothing on the unary queue. -/
theorem construct_unused (distinct : connection.streamQueue ≠ connection.unaryQueue) :
    wp (construct env callbacks) (fun _ after => after.connection = connection ∧ Unused after)
      (fun _ _ => True) (World.before connection) := by
  let kept : World → Prop := fun world => world.connection = connection ∧ Unused world
  have unary : ∀ client, Keeps kept (fun _ _ => True) (reinitializeUnaryClient env client) := by
    intro client before holds
    rw [reinitializeUnaryClient, wp_bind]
    exact wp_client_checks env holds fun _ => trivial
  have stream : ∀ kind callback, Keeps kept (fun _ _ => True)
      (constructStream env kind callback) := by
    intro kind callback before holds
    apply wp_construct_stream env kind callback (fun _ => trivial)
    · intro _
      apply @subscribed_rule kept env kind
      · exact holds
      · rintro slot after _ ⟨same, unshut, empty⟩
        have other : after.connection.unaryQueue ≠ before.connection.streamQueue := by
          rw [same, holds.1]
          exact distinct.symm
        constructor
        · exact same
        · constructor
          · exact (put_shut _ _ _ _).trans unshut
          · rw [put_connection, put_pending]
            exact (if_neg other).trans empty
      · exact fun _ holds => holds
    · exact fun _ => holds
  exact construct_keeps unary (fun kind => stream kind (callbacks kind)) _ ⟨rfl, rfl, rfl⟩

/-- A constructor starts everything it should or exits before it started anything. -/
theorem construct_starts_or_exits (env : Env) (callbacks : IVIStreamCallbacks)
    (distinct : connection.streamQueue ≠ connection.unaryQueue) :
    (clientChecks env = .ok () ∧ ∃ world,
      construct env callbacks (World.before connection) = .returned () world ∧
        Started callbacks connection world) ∨
    (clientChecks env = .error .exited ∧
      construct env callbacks (World.before connection) =
        .stopped .exited (World.before connection)) := by
  rcases client_checks_cases env with passes | fails
  · obtain ⟨world, returned, own⟩ :=
      QueueOwnership.construct_returns env passes connection callbacks
    have thrives := wp_returned (@construct_thrives callbacks env connection) returned
    have unused := wp_returned (construct_unused distinct) returned
    obtain ⟨steady, healthy, _⟩ := thrives
    refine .inl ⟨passes, world, returned, ?_⟩
    constructor
    · exact own
    · exact healthy.unshut
    · intro kind callback given
      have live : Live 1 kind world := healthy.live kind trivial (by rw [given]; rfl)
      apply live.client
      rw [steady.own kind trivial, given]
    · intro kind none queue subscription slot
      exact List.count_eq_zero.mp (steady.unsubscribed kind none queue subscription slot)
    · exact unused.2
  · refine .inr ⟨fails, ?_⟩
    have first : checked (clientChecks env) (World.before connection) =
        .stopped .exited (World.before connection) := by
      rw [fails]
      rfl
    unfold construct each reinitializeUnaryClient
    simp only [bind, first]

/-- A manager that is only given a configuration comes to be exactly if the fields are
given and the channel connects, or failed checks are only logged, and then it is
started on a connection with two queues. Otherwise the process exits at once, in the
synchronous manager as in the asynchronous one. -/
theorem default_managers_start (env : Env) (connected : Bool) (callbacks : IVIStreamCallbacks) :
    newConnection.streamQueue ≠ newConnection.unaryQueue ∧
    (WellConfigured env.configuration ∧ connected = true ∨
        env.build.enableExitOnFailCheck = false →
      defaultManagerSync env connected = .ok () ∧
      ∃ world, defaultManagerAsync env connected callbacks = .ok (.returned () world) ∧
        Started callbacks newConnection world) ∧
    (¬ (WellConfigured env.configuration ∧ connected = true ∨
        env.build.enableExitOnFailCheck = false) →
      defaultManagerSync env connected = .error .exited ∧
      defaultManagerAsync env connected callbacks = .error .exited) := by
  refine ⟨new_connection_distinct, ?_, ?_⟩
  · intro allowed
    have connects := (default_connection_ok_iff env connected newConnection).mpr ⟨rfl, allowed⟩
    have passes := (client_checks_ok_iff env).mpr (allowed.imp_left And.left)
    rcases construct_starts_or_exits env callbacks new_connection_distinct with started | exited
    · obtain ⟨_, world, returned, started⟩ := started
      refine ⟨?_, world, ?_, started⟩
      · unfold defaultManagerSync constructSync
        rw [connects, passes]
        rfl
      · unfold defaultManagerAsync
        rw [connects, ← returned]
        rfl
    · rw [exited.1] at passes
      cases passes
  · intro refused
    rcases default_connection_cases env connected with connects | exits
    · exact absurd ((default_connection_ok_iff env connected newConnection).mp connects).2 refused
    · constructor
      · unfold defaultManagerSync
        rw [exits]
        rfl
      · unfold defaultManagerAsync
        rw [exits]
        rfl

/-- A manager on a connection without credentials is started exactly if that was not
made for the default host and the fields are given, or failed checks are only logged. -/
theorem insecure_manager_starts (env : Env) (privateHost : String)
    (callbacks : IVIStreamCallbacks) (connection : IVIConnection) :
    (insecureConnection env.build privateHost = .ok connection ∧ ∃ world,
      construct env callbacks (World.before connection) = .returned () world ∧
        Started callbacks connection world) ↔
      connection = newConnection ∧ (privateHost ≠ defaultHost ∧ WellConfigured env.configuration ∨
        env.build.enableExitOnFailCheck = false) := by
  rw [insecure_connection_ok_iff]
  constructor
  · rintro ⟨⟨rfl, allowed⟩, world, returned, _⟩
    refine ⟨rfl, ?_⟩
    rcases construct_starts_or_exits env callbacks new_connection_distinct with started | exited
    · rcases (client_checks_ok_iff env).mp started.1 with configured | logs
      · exact allowed.imp_left fun elsewhere => ⟨elsewhere, configured⟩
      · exact .inr logs
    · rw [exited.2] at returned
      cases returned
  · rintro ⟨rfl, allowed⟩
    refine ⟨⟨rfl, allowed.imp_left And.left⟩, ?_⟩
    have passes := (client_checks_ok_iff env).mpr (allowed.imp_left And.right)
    rcases construct_starts_or_exits env callbacks new_connection_distinct with started | exited
    · exact started.2
    · rw [exited.1] at passes
      cases passes

end Started

end IviSdk.Connections
