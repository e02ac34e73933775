/-!
# Failures of the operating system

The failures that operations on files, terminals and streams report, with the texts and numbers
under which they are known.
-/

set_option autoImplicit false
set_option relaxedAutoImplicit false

namespace Coffer

/-- Why the operating system refused an operation. -/
inductive SystemError
  | noEntry | noDevice | busy | alreadyExists | notDirectory | isDirectory | invalidArgument
  | noSpace | nameTooLong
  /-- A zero byte in a path, which the system cannot be told. -/
  | zeroInPath
  /-- A failure that is known by its text alone. -/
  | other (text : String)
  deriving DecidableEq, Repr

namespace SystemError

def text : SystemError → String
  | noEntry => "No such file or directory (os error 2)"
  | noDevice => "No such device or address (os error 6)"
  | busy => "Device or resource busy (os error 16)"
  | alreadyExists => "File exists (os error 17)"
  | notDirectory => "Not a directory (os error 20)"
  | isDirectory => "Is a directory (os error 21)"
  | invalidArgument => "Invalid argument (os error 22)"
  | noSpace => "No space left on device (os error 28)"
  | nameTooLong => "File name too long (os error 36)"
  | zeroInPath => "file name contained an unexpected NUL byte"
  | other text => text

/-- The failure of a number, with a description for those that have no name here. -/
def ofNumber : Nat → String → SystemError
  | 2, _ => noEntry
  | 6, _ => noDevice
  | 16, _ => busy
  | 17, _ => alreadyExists
  | 20, _ => notDirectory
  | 21, _ => isDirectory
  | 22, _ => invalidArgument
  | 28, _ => noSpace
  | 36, _ => nameTooLong
  | number, description => other s!"{description} (os error {number})"

end SystemError

end Coffer
