import Coffer.CommandLine.Flag
import Coffer.Text.ControlSequence

/-!
# Errors of usage

What can be wrong with a command line, and the line that is shown for it. Parts of a message are
emphasized, which only a terminal can show.
-/

set_option autoImplicit false
set_option relaxedAutoImplicit false

namespace Coffer.CommandLine

/-- What is wrong with a command line. -/
inductive UsageError
  | unexpectedArgument (argument : String)
  | unrecognizedSubcommand (name : String)
  | missingSubcommand
  | missingValue (f : Flag)
  | unexpectedValue (value : String) (f : Flag)
  | repeated (f : Flag)
  | conflict (f : Flag) (others : List Flag)
  | notAlone (f : Flag)
  | invalidValue (value : String) (f : Flag) (reason : Option String)
  | invalidUtf8
  deriving DecidableEq, Repr

/-- How a part of a message stands out. -/
inductive Emphasis
  /-- What kind of message it is. -/
  | heading
  /-- What is meant to be written as it is. -/
  | proper
  /-- What is wrong. -/
  | wrong
  deriving DecidableEq, Repr

/-- The text between the control sequences that begin and end its emphasis. -/
def Emphasis.apply (e : Emphasis) (s : String) : String :=
  let begins := match e with
    | heading => "\x1b[1m\x1b[31m"
    | proper => "\x1b[1m"
    | wrong => "\x1b[33m"
  begins ++ s ++ "\x1b[0m"

namespace UsageError

def wrongly (f : Flag) : String := Emphasis.wrong.apply f.display

def wrongFor (value : String) (f : Flag) : String :=
  s!"'{Emphasis.wrong.apply value}' for '{Emphasis.proper.apply f.display}'"

def message : UsageError → String
  | unexpectedArgument argument => s!"unexpected argument '{Emphasis.wrong.apply argument}' found"
  | unrecognizedSubcommand name => s!"unrecognized subcommand '{Emphasis.wrong.apply name}'"
  | missingSubcommand => "a subcommand is required"
  | missingValue f => s!"a value is required for '{wrongly f}' but none was supplied"
  | unexpectedValue value f => s!"unexpected value {wrongFor value f} found; no more were expected"
  | repeated f => s!"the argument '{wrongly f}' cannot be used multiple times"
  | conflict f [other] => s!"the argument '{wrongly f}' cannot be used with '{wrongly other}'"
  | conflict f _ => s!"the argument '{wrongly f}' cannot be used with:"
  | notAlone f =>
    s!"the argument '{wrongly f}' cannot be used with one or more of the other specified arguments"
  | invalidValue value f (some reason) => s!"invalid value {wrongFor value f}: {reason}"
  | invalidValue value f none => s!"invalid value {wrongFor value f}"
  | invalidUtf8 => "invalid UTF-8 was detected in one or more arguments"

/-- The line that is shown for the error, with or without emphasis. Without it no control sequence
is shown, also none that is part of what the user has written. -/
def line (emphasized : Bool) (e : UsageError) : String :=
  let heading := Emphasis.heading.apply "error:"
  let text := s!"{heading} {e.message}\n"
  if emphasized then text else Text.ControlSequence.strip text

end UsageError

end Coffer.CommandLine
