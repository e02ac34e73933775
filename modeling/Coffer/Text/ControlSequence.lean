import Coffer.Text.Utf8

/-!
# Control sequences

A control sequence tells a terminal how to show what follows; it begins with an escape character
and has no shape of its own. Where a text is not shown by a terminal its control sequences, and
its control characters other than blanks, are left out. A sequence may be broken off by another,
or not end at all.
-/

set_option autoImplicit false
set_option relaxedAutoImplicit false

namespace Coffer.Text.ControlSequence

/-- What a byte belongs to. -/
inductive State
  | ground
  /-- An escape character has been read. -/
  | escape
  /-- The rest of a sequence that ends with its first byte that is no intermediate one. -/
  | intermediate
  /-- The parameters of a sequence. -/
  | parameters
  /-- The beginning of a message to the device. -/
  | device
  /-- The parameters of a message to the device. -/
  | deviceParameters
  /-- The intermediate bytes of a message to the device. -/
  | deviceIntermediate
  /-- A string that the terminal keeps to itself. -/
  | string
  /-- A command to the system that the terminal runs on. -/
  | systemCommand
  deriving DecidableEq, Repr

namespace State

def within (least greatest b : UInt8) : Bool := least ≤ b && b ≤ greatest

/-- The state that the byte after an escape character leads to. -/
def afterEscape (b : UInt8) : State :=
  if within 0x20 0x2f b then intermediate
  else if b = 0x5b then parameters
  else if b = 0x5d then systemCommand
  else if b = 0x50 then device
  else if b = 0x58 ∨ b = 0x5e ∨ b = 0x5f then string
  else if within 0x30 0x7e b then ground
  else escape

/-- The state that a byte leads to: an escape character begins a sequence anywhere. -/
def next (s : State) (b : UInt8) : State :=
  if b = 0x18 ∨ b = 0x1a then ground
  else if b = 0x1b then escape
  else
    match s with
    | ground => ground
    | escape => afterEscape b
    | intermediate => if within 0x30 0x7e b then ground else intermediate
    | parameters => if within 0x40 0x7e b then ground else parameters
    | device =>
      if within 0x40 0x7e b ∨ b = 0x3a then string
      else if within 0x20 0x2f b then deviceIntermediate
      else if within 0x30 0x3f b then deviceParameters
      else device
    | deviceParameters =>
      if within 0x40 0x7e b ∨ b = 0x3a ∨ within 0x3c 0x3f b then string
      else if within 0x20 0x2f b then deviceIntermediate
      else deviceParameters
    | deviceIntermediate => if within 0x30 0x7e b then string else deviceIntermediate
    | string => if b = 0x9c then ground else string
    | systemCommand => if b = 0x07 then ground else systemCommand

def after (s : State) (c : Char) : State := (Utf8.encode (String.singleton c)).foldl next s

/-- Whether a control character counts as a blank. -/
def isBlankControl (c : Char) : Bool := c == '\t' || c == '\n' || c == '\x0c' || c == '\r'

/-- Whether a character is shown: within sequences, only blanks that interrupt them are. -/
def shows (s : State) (c : Char) : Bool :=
  match s with
  | ground => isBlankControl c || (0x20 ≤ c.toNat && c.toNat != 0x7f)
  | escape | intermediate | parameters => isBlankControl c
  | _ => false

end State

/-- Leaves out what is not shown. While characters are shown they are taken to lie outside of
sequences; only a character that is not shown is looked at in the state that the last sequence has
been left in. -/
def stripFrom (s : State) (showing : Bool) : List Char → List Char
  | [] => []
  | c :: rest =>
    if (if showing then State.ground else s).shows c then
      c :: stripFrom (if c.toNat < 0x80 then s else .ground) true rest
    else stripFrom (s.after c) false rest

def strip (s : String) : String := String.ofList (stripFrom .ground true s.toList)

end Coffer.Text.ControlSequence
