import Mathlib.Data.List.TakeWhile
import Mathlib.Tactic.Ring
import IviSdk.Results

/-!
The `httpcode` trailer as bytes. Its value is a pointer and a length into a
larger buffer, and only the pointer reaches `stoi`, which reads on while it finds
digits. What follows the value in memory therefore matters exactly when it goes
on with digits that change the number.
-/

namespace IviSdk.TrailerValues

open CText Checks Results

/-! ## Runs of digits -/

theorem digit_bounds {byte : UInt8} (digit : isDigit byte = true) :
    48 ≤ byte.toNat ∧ byte.toNat ≤ 57 := by
  simpa [isDigit, UInt8.le_iff_toNat_le] using digit

theorem digit_not_space {byte : UInt8} (digit : isDigit byte = true) : isSpace byte = false := by
  have bounds := digit_bounds digit
  simp only [isSpace, Bool.or_eq_false_iff, beq_eq_false_iff_ne, Bool.and_eq_false_iff,
    decide_eq_false_iff_not, UInt8.le_iff_toNat_le, ne_eq, ← UInt8.toNat_inj]
  constructor
  · change byte.toNat ≠ 32
    omega
  · change ¬ 9 ≤ byte.toNat ∨ ¬ byte.toNat ≤ 13
    omega

theorem digit_not_sign {byte : UInt8} (digit : isDigit byte = true) :
    byte ≠ 0 ∧ byte ≠ 43 ∧ byte ≠ 45 := by
  have bounds := digit_bounds digit
  refine ⟨?_, ?_, ?_⟩
  all_goals
    intro same
    subst same
    revert bounds
    decide

/-- More digits shift the number to the left. -/
theorem digits_value_append (front back : List UInt8) :
    digitsValue (front ++ back) = digitsValue front * 10 ^ back.length + digitsValue back := by
  have shifted : ∀ start : Nat,
      back.foldl (fun total digit => total * 10 + (digit.toNat - 48)) start =
        start * 10 ^ back.length + digitsValue back := by
    unfold digitsValue
    induction back with
    | nil => simp
    | cons digit rest ih =>
        intro start
        rw [List.foldl_cons, List.foldl_cons, ih, ih (0 * 10 + (digit.toNat - 48)),
          List.length_cons, Nat.pow_succ]
        ring
  rw [digitsValue, List.foldl_append]
  exact shifted _

/-- The number stays the same when there are no more digits, or all are zeros. -/
theorem digits_value_append_eq_iff (front back : List UInt8) :
    digitsValue (front ++ back) = digitsValue front ↔
      back = [] ∨ (digitsValue front = 0 ∧ digitsValue back = 0) := by
  rw [digits_value_append]
  cases back with
  | nil => simp [digitsValue]
  | cons digit rest =>
      have grows : 10 ≤ 10 ^ (digit :: rest).length := by
        rw [List.length_cons, Nat.pow_succ]
        have positive : 0 < 10 ^ rest.length := Nat.pow_pos (by decide)
        omega
      simp only [reduceCtorEq, false_or]
      constructor
      · intro same
        have shifted : digitsValue front * 10 ≤ digitsValue front * 10 ^ (digit :: rest).length :=
          Nat.mul_le_mul_left _ grows
        omega
      · rintro ⟨front, back⟩
        rw [front, back]
        omega

/-- The C string that starts with the digits goes on to the first NUL; its
leading digits go on to the first byte that is none. -/
theorem c_string_digits (digits rest : List UInt8) (all : ∀ byte ∈ digits, isDigit byte = true) :
    (cString (digits ++ rest)).takeWhile isDigit = digits ++ rest.takeWhile isDigit := by
  have visible : ∀ byte, isDigit byte = true → (byte != 0) = true := by
    intro byte digit
    simp [(digit_not_sign digit).1]
  rw [cString, List.takeWhile_append_of_pos fun byte member => visible byte (all byte member),
    List.takeWhile_append_of_pos all, List.takeWhile_takeWhile]
  congr 2
  funext byte
  by_cases digit : isDigit byte = true
  · simp [digit, visible byte digit]
  · simp [digit]

theorem strtol_digits (digits rest : List UInt8) (some_digit : digits ≠ [])
    (all : ∀ byte ∈ digits, isDigit byte = true) :
    strtol (cString (digits ++ rest)) =
      some (digitsValue (digits ++ rest.takeWhile isDigit) : Int) := by
  have leading := c_string_digits digits rest all
  cases digits with
  | nil => exact absurd rfl some_digit
  | cons first others =>
      have digit := all first List.mem_cons_self
      obtain ⟨notNul, notPlus, notMinus⟩ := digit_not_sign digit
      have text : cString (first :: others ++ rest) = first :: cString (others ++ rest) := by
        simp [cString, notNul]
      -- The text starts with a digit: nothing to skip, and no sign.
      rw [text] at leading ⊢
      simp only [strtol, List.dropWhile_cons, digit_not_space digit, Bool.false_eq_true,
        ↓reduceIte, List.head?_cons, Option.some_beq_some, Bool.or_self,
        beq_eq_false_iff_ne.mpr notPlus, beq_eq_false_iff_ne.mpr notMinus]
      rw [leading]
      simp

/-! ## The trailer -/

/-- An `httpcode` trailer whose value is a run of decimal digits denoting the
`int` `code`, followed in memory by `rest`, where a NUL occurs. -/
structure DigitTrailer (context : ClientContext) (digits rest : List UInt8) (code : Nat) :
    Prop where
  found : findHttpCode context = some ⟨digits ++ rest, digits.length⟩
  someDigit : digits ≠ []
  all : ∀ byte ∈ digits, isDigit byte = true
  denotes : digitsValue digits = code
  int : code ≤ 2147483647
  terminated : 0 ∈ rest

/-- The code that is read is the one the value denotes, and so is the status it
is translated to where the status code falls through to the HTTP code. -/
structure ReadsCode (context : ClientContext) (code : Nat) : Prop where
  read : tryGetHttpCode context = .ok (some (code : Int))
  http : translateHttpError context = .ok (httpStatus code)
  grpc : ∀ status : Status, grpcErrorCases.lookup status.errorCode = none →
    translateGrpcError context status = .ok (httpStatus code)

theorem reads_code_iff (context : ClientContext) (code : Nat) :
    ReadsCode context code ↔ tryGetHttpCode context = .ok (some (code : Int)) := by
  constructor
  · exact ReadsCode.read
  · intro read
    have http : translateHttpError context = .ok (httpStatus code) := by
      simp only [translateHttpError, read, bind, Except.bind]
    refine ⟨read, http, ?_⟩
    intro status falls
    simp only [translateGrpcError, falls, http, bind, Except.bind, http_status_not_success,
      ↓reduceIte]

/-- Memory does not go on with digits that change the number. -/
def EndsCode (code : Nat) (rest : List UInt8) : Prop :=
  rest.takeWhile isDigit = [] ∨ (code = 0 ∧ digitsValue (rest.takeWhile isDigit) = 0)

theorem stoi_digits_iff (digits rest : List UInt8) (some_digit : digits ≠ [])
    (all : ∀ byte ∈ digits, isDigit byte = true) (int : digitsValue digits ≤ 2147483647) :
    stoi (cString (digits ++ rest)) = .ok (digitsValue digits : Int) ↔
      EndsCode (digitsValue digits) rest := by
  unfold EndsCode
  rw [← digits_value_append_eq_iff]
  unfold stoi
  rw [strtol_digits digits rest some_digit all]
  dsimp only
  split
  · rw [Except.ok.injEq]
    exact Int.natCast_inj
  · next tooLarge =>
      constructor
      · intro never
        cases never
      · intro same
        exact absurd (by omega) tooLarge

/-- The HTTP code is that of the trailer's value exactly when the memory behind
the value does not continue the number. -/
theorem http_code_of_value_iff (context : ClientContext) (digits rest : List UInt8) (code : Nat)
    (trailer : DigitTrailer context digits rest code) :
    ReadsCode context code ↔ EndsCode code rest := by
  have parsed := stoi_digits_iff digits rest trailer.someDigit trailer.all
    (trailer.denotes ▸ trailer.int)
  rw [trailer.denotes] at parsed
  rw [reads_code_iff, ← parsed, tryGetHttpCode, trailer.found]
  dsimp only
  cases stoi (cString (digits ++ rest)) with
  | ok value => simp
  | error problem => simp

def httpCodeTrailer (memory : List UInt8) (length : Nat) : ClientContext where
  serverTrailingMetadata := [(httpCodeKey, ⟨memory, length⟩)]

theorem http_code_trailer_found (memory : List UInt8) (length : Nat) :
    findHttpCode (httpCodeTrailer memory length) = some ⟨memory, length⟩ := by
  simp [findHttpCode, httpCodeTrailer]

/-- The value 404 with a NUL behind it. -/
theorem not_found_trailer :
    DigitTrailer (httpCodeTrailer [52, 48, 52, 0] 3) [52, 48, 52] [0] 404 where
  found := http_code_trailer_found _ _
  someDigit := by decide
  all := by simp [isDigit]
  denotes := by decide
  int := by decide
  terminated := by decide

/-- The same value with the digit 7 behind it. -/
theorem continued_trailer :
    DigitTrailer (httpCodeTrailer [52, 48, 52, 55, 0] 3) [52, 48, 52] [55, 0] 404 where
  found := http_code_trailer_found _ _
  someDigit := by decide
  all := by simp [isDigit]
  denotes := by decide
  int := by decide
  terminated := by decide

theorem not_found_read : DigitTrailer (httpCodeTrailer [52, 48, 52, 0] 3) [52, 48, 52] [0] 404 ∧
    ReadsCode (httpCodeTrailer [52, 48, 52, 0] 3) 404 :=
  ⟨not_found_trailer,
    (http_code_of_value_iff _ _ _ _ not_found_trailer).mpr (.inl (by decide))⟩

/-- A value of 404 is read as 4047 when the next byte in memory is a 7. -/
theorem continued_code_misread :
    ¬ ∀ (context : ClientContext) (digits rest : List UInt8) (code : Nat),
      DigitTrailer context digits rest code → ReadsCode context code := by
  intro reads
  have read := (reads _ _ _ _ continued_trailer).read
  have misread : tryGetHttpCode (httpCodeTrailer [52, 48, 52, 55, 0] 3) =
      .ok (some (4047 : Int)) := by
    rw [tryGetHttpCode, http_code_trailer_found]
    rfl
  rw [misread, Except.ok.injEq, Option.some.injEq] at read
  exact absurd read (by decide)

end IviSdk.TrailerValues
