import Coffer.CommandLine.Integer
import Coffer.Text.Blank
import Coffer.Text.Quoted

/-!
# Sizes of memory

A size is a decimal number and a unit: bytes, or bits, or thousands of them or powers of 1024.
Decimal numbers have at most 28 decimals and a mantissa of 96 bits, beyond which they are
rounded to the nearest, and halfway to the even one. A size is rounded up to whole bytes and
then down to whole KiB.
-/

set_option autoImplicit false
set_option relaxedAutoImplicit false

namespace Coffer.CommandLine

/-- Why a text is no size. -/
inductive SizeError
  | noValue
  | notANumber (c : Char)
  | tooLong
  | tooLarge (value : String)
  | unexpected (c : Char) (expected : String)
  deriving DecidableEq, Repr

def SizeError.message : SizeError → String
  | noValue => "no value can be found"
  | notANumber c => s!"the character {Text.quoteChar c} is not a number"
  | tooLong => "value number is too long"
  | tooLarge value => s!"the value {value} exceeds the valid range"
  | unexpected c expected => s!"the character {Text.quoteChar c} is incorrect ({expected})"

/-- The mantissa divided by as many tens as there are decimals. -/
structure Decimal where
  mantissa : Nat
  decimals : Nat
  deriving DecidableEq, Repr

namespace Decimal

/-- The mantissas that can be held are below this limit. -/
def limit : Nat := 1 <<< 96

def scale (x : Decimal) : Nat := Nat.pow 10 x.decimals

def maxDecimals : Nat := 28

/-- A quotient rounded to the nearest number, and halfway to the even one. -/
def divideToNearest (n d : Nat) : Nat :=
  let q := n / d
  let r := n % d
  if 2 * r < d then q
  else if 2 * r > d then q + 1
  else if q % 2 = 0 then q else q + 1

/-- Drops as few decimals as are needed to hold the mantissa. -/
def fit? (x : Decimal) : Option Decimal :=
  (List.range (x.decimals + 1)).findSome? fun dropped =>
    let mantissa := divideToNearest x.mantissa (Nat.pow 10 dropped)
    if mantissa < limit then some ⟨mantissa, x.decimals - dropped⟩ else none

def addDecimal (x : Decimal) (place digit : Nat) : Option Decimal :=
  if digit = 0 then some x
  else
    let decimals := max x.decimals place
    fit? ⟨x.mantissa * Nat.pow 10 (decimals - x.decimals) + digit * Nat.pow 10 (decimals - place),
      decimals⟩

/-- The least whole number that is not below. -/
def ceil (x : Decimal) : Nat := (x.mantissa + x.scale - 1) / x.scale

/-- The number with all of its decimals. -/
def toText (x : Decimal) : String :=
  let whole := toString (x.mantissa / x.scale)
  let digits := (toString (x.mantissa % x.scale)).toList
  let fraction := List.replicate (x.decimals - digits.length) '0' ++ digits
  if x.decimals = 0 then whole else whole ++ "." ++ String.ofList fraction

end Decimal

/-- A unit: how many bytes, or bits, it is. -/
structure SizeUnit where
  factor : Nat := 1
  inBits : Bool := false
  deriving DecidableEq, Repr

namespace SizeUnit

def exponent? (c : Char) : Option Nat :=
  match c.toUpper with
  | 'K' => some 1
  | 'M' => some 2
  | 'G' => some 3
  | 'T' => some 4
  | 'P' => some 5
  | 'E' => some 6
  | _ => none

/-- Whether a character is a letter, in either case. -/
def isLetter (letter c : Char) : Bool := c.toUpper == letter

/-- Reads what may follow the letter for bytes: "it" or "its", which make it bits. -/
def readBits (factor : Nat) : List Char → Except SizeError SizeUnit
  | [] => .ok ⟨factor, false⟩
  | i :: rest =>
    if !isLetter 'I' i then .error (.unexpected i "'i' or no character is expected")
    else
      match rest with
      | [] => .error (.unexpected 'i' "no character is expected")
      | t :: rest =>
        if !isLetter 'T' t then .error (.unexpected t "'t' is expected")
        else
          match rest with
          | [] => .ok ⟨factor, true⟩
          | s :: rest =>
            if !isLetter 'S' s then .error (.unexpected s "'s' or no character is expected")
            else
              match rest with
              | [] => .ok ⟨factor, true⟩
              | c :: _ => .error (.unexpected c "no character is expected")

/-- Reads what may follow the letter for a power: a letter for bytes. -/
def readBytes (factor : Nat) : List Char → Except SizeError SizeUnit
  | [] => .ok ⟨factor, false⟩
  | b :: rest =>
    if isLetter 'B' b then readBits factor rest
    else .error (.unexpected b "'B' or no character is expected")

def read : List Char → Except SizeError SizeUnit
  | [] => .ok {}
  | c :: rest =>
    if isLetter 'B' c then readBits 1 rest
    else
      match exponent? c with
      | none =>
        .error (.unexpected c
          "'B', 'K', 'M', 'G', 'T', 'P' or 'E' or no character is expected")
      | some e =>
        match rest with
        | i :: more =>
          if isLetter 'I' i then readBytes (Nat.pow 1024 e) more
          else readBytes (Nat.pow 1000 e) rest
        | [] => .ok ⟨Nat.pow 1000 e, false⟩

/-- How many whole bytes a number of units is, rounded up, if that number can be held. -/
def bytes? (u : SizeUnit) (x : Decimal) : Option Nat :=
  if u.inBits ∧ u.factor = 1 then some ((x.ceil + 7) / 8)
  else
    let factor := if u.inBits then u.factor / 8 else u.factor
    (Decimal.fit? ⟨x.mantissa * factor, x.decimals⟩).map Decimal.ceil

end SizeUnit

namespace MemorySize

/-- Goes on reading the decimals of a number; the next one is at the given place. -/
def readDecimals (x : Decimal) (place : Nat) : List Char → Except SizeError (Decimal × List Char)
  | [] => .ok (x, [])
  | c :: rest =>
    match Integer.digit? c with
    | none => .ok (x, c :: rest)
    | some d =>
      if Decimal.maxDecimals < place then .error .tooLong
      else
        match x.addDecimal place d with
        | none => .error .tooLong
        | some x => readDecimals x (place + 1) rest

/-- Goes on reading a number of which the first digits are known. -/
def readNumber (n : Nat) : List Char → Except SizeError (Decimal × List Char)
  | [] => .ok (⟨n, 0⟩, [])
  | '.' :: rest =>
    match rest with
    | [] => .error (.notANumber '.')
    | c :: _ =>
      if (Integer.digit? c).isNone then .error (.notANumber c) else readDecimals ⟨n, 0⟩ 1 rest
  | c :: rest =>
    match Integer.digit? c with
    | none => .ok (⟨n, 0⟩, c :: rest)
    | some d => if n * 10 + d < Decimal.limit then readNumber (n * 10 + d) rest else .error .tooLong

def readBytes (s : String) : Except SizeError Nat := do
  match Text.trim s.toList with
  | [] => throw .noValue
  | c :: rest =>
    match Integer.digit? c with
    | none => throw (.notANumber c)
    | some d =>
      let (x, rest) ← readNumber d rest
      let unit ← SizeUnit.read (rest.dropWhile (· == ' '))
      match unit.bytes? x with
      | some bytes => if bytes < UInt64.size then return bytes else throw (.tooLarge x.toText)
      | none => throw (.tooLarge x.toText)

def least : Nat := 8

/-- The size in KiB that a text stands for, or the reason why there is none. -/
def read (s : String) : Except String UInt32 :=
  match readBytes s with
  | .error e => .error e.message
  | .ok bytes =>
    let kib := bytes / 1024
    if least ≤ kib ∧ kib < UInt32.size then .ok (UInt32.ofNat kib)
    else .error s!"{s} is not in 8 KiB..=4294967295 KiB"

end MemorySize

end Coffer.CommandLine
