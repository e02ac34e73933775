import Coffer.Stream
import Coffer.Surroundings

/-!
# Sources of passphrases

A passphrase is a byte string. It is given outright, or it is a line of a stream or of the standard
input, the value of an environment variable, the first line of a file, or typed at the terminal.
-/

set_option autoImplicit false
set_option relaxedAutoImplicit false

namespace Coffer

/-- Where a passphrase comes from. -/
inductive PassphraseSource
  | given (passphrase : Bytes)
  | stream (s : Stream)
  | input
  | environment (name : Bytes)
  | file (path : Path)
  | terminal (confirm : Bool)
  deriving DecidableEq, Repr

namespace PassphraseSource

/-- The failure of a stream that a passphrase is read from. -/
def streamFailure (text : String) : Error :=
  .failure .internal .inputOutput "error reading passphrase" (some (.plain text))

def notSet (name : Bytes) : Error :=
  .failure .user .passphraseUnavailable s!"environment variable {Utf8.lossy name} is not set" none

/-- The failure to read a file that a passphrase is read from. -/
def fileFailure (path : Path) (e : SystemError) : Error :=
  .failure .user .passphraseUnavailable s!"could not read passphrase from {path.display}"
    (some (.plain e.text))

/-- The failure of a terminal that a passphrase is typed at. -/
def terminalFailure (text : String) : Error :=
  .failure .user .passphraseUnavailable "could not read passphrase from terminal"
    (some (.plain text))

def firstLine (content : Bytes) : Bytes := content.takeWhile (· != Stream.lineFeed)

/-- The passphrase that the content of a file gives. -/
def ofContent (content : Bytes) : Bytes := Stream.stripEnd (firstLine content)

variable {m : Type → Type} [Monad m] [Surroundings m]

/-- Reads a passphrase; what is left of the source can be read from again. -/
def read : PassphraseSource → m (Except Error Bytes × PassphraseSource)
  | given passphrase => return (.ok passphrase, given passphrase)
  | stream s =>
    let (line, rest) := s.readLine
    return (line.mapError streamFailure, stream rest)
  | input => do return ((← Surroundings.readInputLine).mapError streamFailure, input)
  | environment name => do
    match ← Surroundings.environment? name with
    | some value => return (.ok value, environment name)
    | none => return (.error (notSet name), environment name)
  | file path => do
    return (((← Surroundings.readFile path).mapError (fileFailure path)).map ofContent, file path)
  | terminal confirm => do
    return ((← Surroundings.ask confirm).mapError terminalFailure, terminal confirm)

end PassphraseSource

end Coffer
