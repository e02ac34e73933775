import Coffer.Text.Digits
import Coffer.Text.Invisible
import Coffer.Text.Utf8

/-!
# Quoted text

Characters and byte strings between quotes, with every invisible character and every stray byte
written by its number.
-/

set_option autoImplicit false
set_option relaxedAutoImplicit false

namespace Coffer.Text

/-- The characters that stand for a character between the given quotes. -/
def escape (quote c : Char) : String :=
  if c = '\x00' then "\\0"
  else if c = '\t' then "\\t"
  else if c = '\n' then "\\n"
  else if c = '\r' then "\\r"
  else if c = '\\' ∨ c = quote then String.ofList ['\\', c]
  else if isInvisible c then "\\u\x7b" ++ hexadecimal c.toNat ++ "\x7d"
  else String.singleton c

def quoteChar (c : Char) : String := "'" ++ escape '\'' c ++ "'"

/-- A stray byte, in two hexadecimal digits. -/
def escapeByte (b : UInt8) : String :=
  "\\x" ++ (hexadecimal (b.toNat / 16) ++ hexadecimal (b.toNat % 16)).toUpper

/-- The characters that stand for a piece between double quotes. -/
def escapePiece : Utf8.Piece → String
  | .char c => escape '"' c
  | .stray b => String.join (b.map escapeByte)

def quoteBytes (b : Bytes) : String := "\"" ++ String.join ((Utf8.pieces b).map escapePiece) ++ "\""

end Coffer.Text
