import Mathlib.Init

/-!
C strings and the C++ conversion of a C string to an `int`, over bytes. A
pointer is given by the bytes that lie in memory from it on.
-/

namespace IviSdk.CText

/-- The text a `const char*` denotes: the bytes up to the first NUL. -/
def cString (memory : List UInt8) : List UInt8 := memory.takeWhile (· != 0)

/-- `isspace` in the C locale. -/
def isSpace (byte : UInt8) : Bool := byte == 32 || (9 ≤ byte && byte ≤ 13)

def isDigit (byte : UInt8) : Bool := 48 ≤ byte && byte ≤ 57

def digitsValue (digits : List UInt8) : Nat :=
  digits.foldl (fun total digit => total * 10 + (digit.toNat - 48)) 0

/-- `strtol` in base ten without its range check: leading white space, an
optional sign, then digits. Whatever follows the digits is ignored, and `none`
means that there was no digit to convert. -/
def strtol (text : List UInt8) : Option Int :=
  let unpadded := text.dropWhile isSpace
  let negative := unpadded.head? == some 45
  let body := if unpadded.head? == some 45 || unpadded.head? == some 43 then
      unpadded.drop 1
    else unpadded
  let digits := body.takeWhile isDigit
  if digits.isEmpty then none
  else some (if negative then -(digitsValue digits : Int) else digitsValue digits)

inductive ConversionError where
  | invalidArgument
  | outOfRange
  deriving DecidableEq

/-- `std::stoi` with its default arguments. -/
def stoi (text : List UInt8) : Except ConversionError Int :=
  match strtol text with
  | none => .error .invalidArgument
  | some value =>
      if -2147483648 ≤ value ∧ value ≤ 2147483647 then .ok value else .error .outOfRange

end IviSdk.CText
