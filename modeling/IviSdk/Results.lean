import IviSdk.Checks

/-!
`IVIResultT` and the translation of a failed call into an `IVIResultStatus`.
Status codes and HTTP codes are open sets, so both are integers compared with
the named constants.
-/

namespace IviSdk.Results

open CText Checks

inductive IVIResultStatus where
  | success
  | invalidArgument
  | notFound
  | permissionDenied
  | unimplemented
  | unauthenticated
  | unavailable
  | resourceExhausted
  | aborted
  | badRequest
  | conflict
  | serverError
  | notAuthorized
  | forbidden
  | timeout
  | unprocessableEntity
  | unknownError
  deriving DecidableEq

/-- `IVIResultT<void>` is `IVIResultT Unit`. -/
structure IVIResultT (Payload : Type) where
  status : IVIResultStatus
  payload : Payload
  deriving DecidableEq

/-- The constructor from a status alone value-initialises the payload. -/
def IVIResultT.ofStatus {Payload : Type} [Inhabited Payload] (status : IVIResultStatus) :
    IVIResultT Payload := ⟨status, default⟩

def IVIResultT.succeeded {Payload : Type} (result : IVIResultT Payload) : Bool :=
  result.status == .success

/-! ## Status and trailing metadata of a call -/

/-- `grpc::string_ref`: a pointer into a larger buffer, given by the bytes from
the pointer on, and a length that no terminator marks. -/
structure StringRef where
  memory : List UInt8
  length : Nat

/-- The part of `grpc::ClientContext` the SDK reads: the trailing metadata. -/
structure ClientContext where
  serverTrailingMetadata : List (String × StringRef) := []

structure Status where
  errorCode : Int := 0
  errorMessage : String := ""

def Status.ok (status : Status) : Bool := status.errorCode == 0

def httpCodeKey : String := "httpcode"

def findHttpCode (context : ClientContext) : Option StringRef :=
  context.serverTrailingMetadata.lookup httpCodeKey

/-- `TryGetHttpCode`: `data()` alone is passed on, so the number is read up to
a NUL and not up to the reference's length. -/
def tryGetHttpCode (context : ClientContext) : Checked (Option Int) :=
  match findHttpCode context with
  | some value =>
      match stoi (cString value.memory) with
      | .ok httpCode => .ok (some httpCode)
      | .error problem => .error (.threw (.conversion problem))
  | none => .ok none

/-- The cases of the switch in `TranslateHttpError`. -/
def httpErrorCases : List (Int × IVIResultStatus) :=
  [(400, .badRequest), (401, .notAuthorized), (403, .forbidden), (404, .notFound),
   (409, .conflict), (408, .timeout), (422, .unprocessableEntity)]

def httpStatus (httpCode : Int) : IVIResultStatus :=
  (httpErrorCases.lookup httpCode).getD .unknownError

/-- `TranslateHttpError`: `success` stands for "no HTTP code". -/
def translateHttpError (context : ClientContext) : Checked IVIResultStatus := do
  match ← tryGetHttpCode context with
  | some httpCode => .ok (httpStatus httpCode)
  | none => .ok .success

/-- The cases of the switch in `TranslateGrpcError`, by the value of the named
`grpc::StatusCode`. -/
def grpcErrorCases : List (Int × IVIResultStatus) :=
  [(3, .invalidArgument),      -- INVALID_ARGUMENT
   (5, .notFound),             -- NOT_FOUND
   (7, .permissionDenied),     -- PERMISSION_DENIED
   (12, .unimplemented),       -- UNIMPLEMENTED
   (16, .unauthenticated),     -- UNAUTHENTICATED
   (14, .unavailable),         -- UNAVAILABLE
   (8, .resourceExhausted),    -- RESOURCE_EXHAUSTED
   (10, .aborted),             -- ABORTED
   (4, .badRequest),           -- DEADLINE_EXCEEDED
   (9, .badRequest),           -- FAILED_PRECONDITION
   (11, .badRequest),          -- OUT_OF_RANGE
   (6, .conflict),             -- ALREADY_EXISTS
   (15, .serverError),         -- DATA_LOSS
   (13, .serverError),         -- INTERNAL
   (2, .serverError)]          -- UNKNOWN

def translateGrpcError (context : ClientContext) (status : Status) : Checked IVIResultStatus :=
  match grpcErrorCases.lookup status.errorCode with
  | some translated => .ok translated
  | none => do
      let contextError ← translateHttpError context
      if contextError = .success then .ok .unknownError else .ok contextError

/-- `IVIClientT::LogFailure`: from logging level 3 up it parses the HTTP code
for the log line, and the parse may throw. -/
def logFailure (build : Build) (context : ClientContext) : Checked Unit :=
  if 3 ≤ build.loggingLevel then do
    let _httpCode ← tryGetHttpCode context
    .ok ()
  else .ok ()

/-! ## The translation never answers success -/

/-- Any `httpcode` trailer parses as an `int`. -/
def HttpCodeParses (context : ClientContext) : Prop :=
  ∀ value, findHttpCode context = some value → ∃ code, stoi (cString value.memory) = .ok code

theorem try_get_http_code_parses (context : ClientContext) (parses : HttpCodeParses context) :
    ∃ httpCode, tryGetHttpCode context = .ok httpCode := by
  unfold tryGetHttpCode
  cases found : findHttpCode context with
  | none => exact ⟨none, rfl⟩
  | some value =>
      obtain ⟨code, parsed⟩ := parses value found
      exact ⟨some code, by simp only [parsed]⟩

theorem log_failure_parses (build : Build) (context : ClientContext)
    (parses : HttpCodeParses context) : logFailure build context = .ok () := by
  obtain ⟨httpCode, found⟩ := try_get_http_code_parses context parses
  unfold logFailure
  split
  · rw [found]; rfl
  · rfl

/-- Reading the HTTP code is the only way a failure line can fail to be logged. -/
theorem log_failure_cases (build : Build) (context : ClientContext) :
    logFailure build context = .ok () ∨
      ∃ problem, logFailure build context = .error (.threw problem) := by
  unfold logFailure
  split
  · unfold tryGetHttpCode
    cases findHttpCode context with
    | none => exact .inl rfl
    | some value =>
        dsimp only
        cases stoi (cString value.memory) with
        | ok code => exact .inl rfl
        | error problem => exact .inr ⟨_, rfl⟩
  · exact .inl rfl

theorem lookup_not_success (cases : List (Int × IVIResultStatus))
    (failures : ∀ entry ∈ cases, entry.2 ≠ .success) (code : Int) (status : IVIResultStatus)
    (listed : cases.lookup code = some status) : status ≠ .success := by
  induction cases with
  | nil => simp at listed
  | cons entry rest ih =>
      rw [List.lookup_cons] at listed
      split at listed
      · cases listed
        exact failures entry List.mem_cons_self
      · exact ih (fun e member => failures e (List.mem_cons_of_mem entry member)) listed

theorem http_status_not_success (httpCode : Int) : httpStatus httpCode ≠ .success := by
  unfold httpStatus
  cases listed : httpErrorCases.lookup httpCode with
  | none => decide
  | some status => exact lookup_not_success httpErrorCases (by decide) httpCode status listed

/-- Whatever the status object says, a translated failure is a failure. -/
theorem translate_grpc_error_not_success (context : ClientContext) (status : Status)
    (translated : IVIResultStatus) (result : translateGrpcError context status = .ok translated) :
    translated ≠ .success := by
  unfold translateGrpcError at result
  cases listed : grpcErrorCases.lookup status.errorCode with
  | some known =>
      simp only [listed, Except.ok.injEq] at result
      subst known
      exact lookup_not_success grpcErrorCases (by decide) _ _ listed
  | none =>
      simp only [listed] at result
      cases fallback : translateHttpError context with
      | error stop => simp [fallback, bind, Except.bind] at result
      | ok contextError =>
          by_cases absent : contextError = .success
          · have unknown : IVIResultStatus.unknownError = translated := by
              simpa [fallback, absent, bind, Except.bind] using result
            rw [← unknown]
            decide
          · have same : contextError = translated := by
              simpa [fallback, absent, bind, Except.bind] using result
            rwa [← same]

theorem translate_grpc_error_parses (context : ClientContext) (status : Status)
    (parses : HttpCodeParses context) :
    ∃ translated, translateGrpcError context status = .ok translated ∧
      translated ≠ .success := by
  have total : ∃ translated, translateGrpcError context status = .ok translated := by
    unfold translateGrpcError
    cases grpcErrorCases.lookup status.errorCode with
    | some known => exact ⟨known, rfl⟩
    | none =>
        obtain ⟨httpCode, found⟩ := try_get_http_code_parses context parses
        cases httpCode with
        | none => exact ⟨.unknownError, by simp [translateHttpError, found, bind, Except.bind]⟩
        | some code =>
            exact ⟨httpStatus code, by
              simp [translateHttpError, found, bind, Except.bind, http_status_not_success]⟩
  obtain ⟨translated, result⟩ := total
  exact ⟨translated, result, translate_grpc_error_not_success context status translated result⟩

end IviSdk.Results
