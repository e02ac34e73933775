import Coffer.Text.Alphanumeric

/-!
# Patterns

Which texts are regular expressions, for expressions without counted repetition, look-around and
the classes of whole properties. A text is first cut into tokens, so that what is escaped is told
from what has a meaning, and the tokens are then read one after another.
-/

set_option autoImplicit false
set_option relaxedAutoImplicit false

namespace Coffer.Text.Pattern

/-- A part of a pattern. -/
inductive Token
  /-- A character as it is written. -/
  | plain (c : Char)
  /-- A character that stands for itself. -/
  | escaped (c : Char)
  /-- The beginning or the end of the text. -/
  | edge
  deriving DecidableEq, Repr

def Token.char? : Token → Option Char
  | plain c | escaped c => some c
  | edge => none

/-- The value of a hexadecimal digit, in either case. -/
def hexadecimalDigit? (c : Char) : Option Nat :=
  let n := c.toNat
  if 0x30 ≤ n ∧ n ≤ 0x39 then some (n - 0x30)
  else if 0x41 ≤ n ∧ n ≤ 0x46 then some (n - 0x37)
  else if 0x61 ≤ n ∧ n ≤ 0x66 then some (n - 0x57)
  else none

/-- The character of the number that hexadecimal digits stand for. -/
def ofDigits? (digits : List Char) : Option Token :=
  match digits.mapM hexadecimalDigit? with
  | none => none
  | some values =>
    let n := values.foldl (fun n d => n * 16 + d) 0
    if n.isValidChar then some (.escaped (Char.ofNat n)) else none

/-- The letters that stand for a control character after a backslash. -/
def controls : List (Char × Char) :=
  [('a', '\x07'), ('f', '\x0c'), ('n', '\n'), ('r', '\r'), ('t', '\t'), ('v', '\x0b')]

/-- What a character stands for after a backslash. -/
def escape? (c : Char) : Option Token :=
  if c = 'A' ∨ c = 'z' then some .edge
  else
    match controls.lookup c with
    | some control => some (.escaped control)
    | none =>
      if 0x80 ≤ c.toNat ∨ c.isAlphanum ∨ c = '<' ∨ c = '>' then none else some (.escaped c)

/-- The tokens of a text, if every backslash begins an escape. -/
def tokens? : List Char → Option (List Token)
  | [] => some []
  | '\\' :: 'x' :: a :: b :: rest => do return (← ofDigits? [a, b]) :: (← tokens? rest)
  | '\\' :: 'u' :: a :: b :: c :: d :: rest => do
    return (← ofDigits? [a, b, c, d]) :: (← tokens? rest)
  | '\\' :: 'U' :: a :: b :: c :: d :: e :: f :: g :: h :: rest => do
    return (← ofDigits? [a, b, c, d, e, f, g, h]) :: (← tokens? rest)
  | '\\' :: c :: rest => do return (← escape? c) :: (← tokens? rest)
  | ['\\'] => none
  | c :: rest => do return .plain c :: (← tokens? rest)

/-- Whether two tokens between them span no character. -/
def isReversed (first last : Token) : Bool :=
  match first.char?, last.char? with
  | some a, some b => b.toNat < a.toNat
  | _, _ => true

/-- How far a class of characters has been read: a closing bracket or dashes at its beginning
are members. -/
inductive ClassPart
  | beginning | negated | dashes | members
  deriving DecidableEq, Repr

mutual

/-- Whether the tokens are a pattern within open groups; something to repeat may have been read. -/
def readsOn (groups : Nat) (repeatable : Bool) : List Token → Bool
  | [] => groups == 0
  | .plain '(' :: .plain '?' :: .plain 'P' :: .plain '<' :: rest => readsName groups true rest
  | .plain '(' :: .plain '?' :: .plain '<' :: rest => readsName groups true rest
  | .plain '(' :: .plain '?' :: rest => readsFlags groups [] rest
  | .plain '(' :: rest => readsOn (groups + 1) false rest
  | .plain ')' :: rest => groups != 0 && readsOn (groups - 1) true rest
  | .plain '|' :: rest => readsOn groups false rest
  | .plain '[' :: rest => readsClass groups 0 .beginning rest
  | .plain c :: rest =>
    if c = '*' ∨ c = '+' ∨ c = '?' then repeatable && readsOn groups true rest
    else c != '\x7b' && readsOn groups true rest
  | _ :: rest => readsOn groups true rest

/-- Whether the tokens go on with the name of a group. -/
def readsName (groups : Nat) (first : Bool) : List Token → Bool
  | .plain c :: rest =>
    if c = '>' then !first && readsOn (groups + 1) false rest
    else
      (c == '_' || (if first then isAlphanumeric c && !c.isDigit
        else isAlphanumeric c || c == '.' || c == '[' || c == ']')) && readsName groups false rest
  | _ => false

/-- Whether the tokens go on with flags, of which some have been read. -/
def readsFlags (groups : Nat) (seen : List Char) : List Token → Bool
  | .plain c :: rest =>
    if c = ')' then seen.head? != none && seen.head? != some '-' && readsOn groups false rest
    else if c = ':' then seen.head? != some '-' && readsOn (groups + 1) false rest
    else
      ((c == '-' || c == 'm' || c == 's' || c == 'R' || c == 'U' || c == 'u' || c == 'x' ||
        (c == 'i' && seen.contains '-')) && !seen.contains c) && readsFlags groups (c :: seen) rest
  | _ => false

/-- Whether the tokens go on with a class of characters that is itself within others. -/
def readsClass (groups classes : Nat) : ClassPart → List Token → Bool
  | _, [] => false
  | .beginning, .plain '^' :: rest => readsClass groups classes .negated rest
  | .beginning, .plain ']' :: rest => readsClass groups classes .members rest
  | .beginning, .plain '-' :: rest => readsClass groups classes .dashes rest
  | .negated, .plain ']' :: rest => readsClass groups classes .members rest
  | .negated, .plain '-' :: rest => readsClass groups classes .dashes rest
  | .dashes, .plain '-' :: rest => readsClass groups classes .dashes rest
  | _, .plain '-' :: .plain '-' :: rest => readsClass groups classes .members rest
  | _, .plain '&' :: .plain '&' :: rest => readsClass groups classes .members rest
  | _, .plain '~' :: .plain '~' :: rest => readsClass groups classes .members rest
  | _, .plain '[' :: rest => readsClass groups (classes + 1) .beginning rest
  | _, .plain ']' :: rest =>
    if classes = 0 then readsOn groups true rest
    else readsClass groups (classes - 1) .members rest
  | _, first :: .plain '-' :: last :: rest =>
    if last = .plain ']' ∨ last = .plain '-' then
      first.char?.isSome && readsClass groups classes .members (.plain '-' :: last :: rest)
    else !isReversed first last && readsClass groups classes .members rest
  | _, first :: rest => first.char?.isSome && readsClass groups classes .members rest

end

def isPattern (cs : List Char) : Bool :=
  match tokens? cs with
  | some tokens => readsOn 0 false tokens
  | none => false

end Coffer.Text.Pattern
