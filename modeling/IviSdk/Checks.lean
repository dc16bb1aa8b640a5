import IviSdk.CText

/-!
`ivi-util.h` and `ivi-config.h`: the preprocessor settings a build fixes, the
check macro, and the configuration record shared by every client. Log output
is not modelled; what is kept is whether a failed check or a C++ exception
stops the code that follows it.
-/

namespace IviSdk.Checks

/-- `IVI_ENABLE_EXIT_ON_FAIL_CHECK` and `IVI_LOGGING_LEVEL`. -/
structure Build where
  enableExitOnFailCheck : Bool := true
  loggingLevel : Nat := 4

inductive CppException where
  | conversion (problem : CText.ConversionError)
  | badFunctionCall
  deriving DecidableEq

/-- Why a piece of straight-line code did not run to its end. -/
inductive Stop where
  | exited
  | threw (exception : CppException)
  deriving DecidableEq

abbrev Checked := Except Stop

/-- `IVI_EXIT_FAILURE`: expands to nothing when the exit is disabled. -/
def exitFailure (build : Build) : Checked Unit :=
  if build.enableExitOnFailCheck then .error .exited else .ok ()

/-- `IVI_CHECK`: a failed check is logged and then either exits or goes on. -/
def check (build : Build) (expr : Bool) : Checked Unit :=
  if !expr then exitFailure build else .ok ()

@[simp] theorem check_true (build : Build) : check build true = .ok () := rfl

theorem ok_of_bind {First Second : Type} {first : Checked First}
    {next : First → Checked Second} {result : Second} (finished : (first >>= next) = .ok result) :
    ∃ value, first = .ok value ∧ next value = .ok result := by
  cases first with
  | error stop => cases finished
  | ok value => exact ⟨value, rfl, finished⟩

structure IVIConfiguration where
  environmentId : String
  apiKey : String
  host : String
  defaultTimeoutSecs : Nat
  errorTimeoutSecs : Nat
  errorLoopMax : Nat
  autoconfirmStreamUpdates : Bool

def defaultHost : String := "sdk-api.iviengine.com:443"

def defaultConfiguration (environmentId apiKey host : String) : IVIConfiguration where
  environmentId := environmentId
  apiKey := apiKey
  host := host
  defaultTimeoutSecs := 0
  errorTimeoutSecs := 2
  errorLoopMax := 10
  autoconfirmStreamUpdates := true

/-- What the compiled library and its configuration fix for a whole run. -/
structure Env where
  build : Build
  configuration : IVIConfiguration

/-- A build with the defaults of the project and `DefaultConfiguration`. -/
def defaultEnv : Env where
  build := {}
  configuration := defaultConfiguration "environment" "key" defaultHost

/-- The checks of the `IVIClient` constructor. -/
def clientChecks (env : Env) : Checked Unit := do
  check env.build (env.configuration.host != "")
  check env.build (env.configuration.apiKey != "")
  check env.build (env.configuration.environmentId != "")

theorem check_cases (build : Build) (expr : Bool) :
    check build expr = .ok () ∨ check build expr = .error .exited := by
  unfold check exitFailure
  cases expr <;> cases build.enableExitOnFailCheck <;> simp

theorem client_checks_cases (env : Env) :
    clientChecks env = .ok () ∨ clientChecks env = .error .exited := by
  unfold clientChecks
  rcases check_cases env.build (env.configuration.host != "") with host | host
  · rcases check_cases env.build (env.configuration.apiKey != "") with key | key
    · rw [host, key]
      exact check_cases env.build (env.configuration.environmentId != "")
    · rw [host, key]
      exact .inr rfl
  · rw [host]
    exact .inr rfl

end IviSdk.Checks
