/-!
# Integers on the command line

Reading a 32-bit number. The digits are read as a signed 64-bit number first, one after another,
and the first digit that is none or that makes the number too large is reported.
-/

set_option autoImplicit false
set_option relaxedAutoImplicit false

namespace Coffer.CommandLine

/-- Why a text is not an integer. -/
inductive IntegerError
  | empty | invalidDigit | tooLarge | tooSmall
  deriving DecidableEq, Repr

/-- What is said about a text that is not an integer. -/
def IntegerError.message : IntegerError → String
  | empty => "cannot parse integer from empty string"
  | invalidDigit => "invalid digit found in string"
  | tooLarge => "number too large to fit in target type"
  | tooSmall => "number too small to fit in target type"

namespace Integer

def digit? (c : Char) : Option Nat := if c.isDigit then some (c.toNat - '0'.toNat) else none

/-- Refuses numbers that do not fit into 64 bits. -/
def fit (n : Int) : Except IntegerError Int :=
  if n < -0x8000000000000000 then .error .tooSmall
  else if 0x8000000000000000 ≤ n then .error .tooLarge
  else .ok n

/-- Goes on reading digits after a number, each of which counts with the given sign. -/
def readDigits (sign n : Int) : List Char → Except IntegerError Int
  | [] => .ok n
  | c :: rest =>
    match digit? c with
    | none => .error .invalidDigit
    | some d => do
      let shifted ← fit (n * 10)
      let sum ← fit (shifted + sign * d)
      readDigits sign sum rest

def read : List Char → Except IntegerError Int
  | [] => .error .empty
  | ['+'] | ['-'] => .error .invalidDigit
  | '+' :: rest => readDigits 1 0 rest
  | '-' :: rest => readDigits (-1) 0 rest
  | cs => readDigits 1 0 cs

/-- The 32-bit number that a text stands for, or the reason why there is none. -/
def readWord (s : String) : Except String UInt32 :=
  match read s.toList with
  | .error e => .error e.message
  | .ok n =>
    if 0 ≤ n ∧ n < 0x100000000 then .ok (UInt32.ofNat n.toNat)
    else .error s!"{n} is not in 0..=4294967295"

end Integer

end Coffer.CommandLine
