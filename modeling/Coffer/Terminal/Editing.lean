import Coffer.Terminal
import Coffer.Text.Utf8

/-!
# Lines that are edited while they are typed

A reader of lines that lets a line be edited: some characters take back what was typed before them,
and the sequences that keys send which move the cursor are left out. A line has to be a text.
-/

set_option autoImplicit false
set_option relaxedAutoImplicit false

namespace Coffer.Terminal

/-- What the next character that is typed belongs to. -/
inductive Typing
  | entry
  /-- A sequence that an escape character has begun. -/
  | escape
  /-- A sequence that ends with a letter or a sign from at to tilde. -/
  | sequence
  /-- A sequence of one more character. -/
  | single
  deriving DecidableEq, Repr

/-- A line while it is typed, and the entry so far, the last character first. -/
structure Line where
  typing : Typing := .entry
  typed : List Char := []

/-- Whether a character controls how the line is typed. -/
def isControl (c : Char) : Bool := c.toNat < 0x20 || (0x7f ≤ c.toNat && c.toNat ≤ 0x9f)

namespace Line

/-- Goes on with a character of the entry, or one that takes back what was typed before it: the
last character, or all of the line. Other control characters do nothing. -/
def enter (l : Line) (c : Char) : Line :=
  if c = '\x1b' then { l with typing := .escape }
  else if c = '\x08' ∨ c = '\x7f' then { l with typed := l.typed.tail }
  else if c = '\x15' then { l with typed := [] }
  else if isControl c then l
  else { l with typed := c :: l.typed }

/-- Goes on with a character; sequences, as keys that move the cursor send them, are left out. -/
def type (l : Line) (c : Char) : Line :=
  match l.typing with
  | .entry => l.enter c
  | .escape =>
    { l with typing := if c = '[' then .sequence else if c = 'O' then .single else .entry }
  | .sequence => if 0x40 ≤ c.toNat ∧ c.toNat ≤ 0x7e then { l with typing := .entry } else l
  | .single => { l with typing := .entry }

end Line

/-- The entry that is left of a text. -/
def edit (text : String) : String :=
  String.ofList (text.toList.foldl Line.type {}).typed.reverse

/-- The reader that lets a line be edited. -/
def editing : Reader where
  entry line :=
    match Utf8.decode? line with
    | some text => .ok (Utf8.encode (edit text))
    | none => .error "stream did not contain valid UTF-8"
  ended := "unexpected end of file"

theorem entry_editing {line : Bytes} {text : String} (decoded : Utf8.decode? line = some text) :
    editing.entry line = .ok (Utf8.encode (edit text)) := by
  unfold editing
  dsimp only
  rw [decoded]

end Coffer.Terminal
