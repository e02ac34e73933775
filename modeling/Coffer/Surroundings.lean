import Coffer.Abort
import Coffer.Encryption
import Coffer.Path

/-!
# Surroundings

What the operations on files and the command line ask of the system around them: files, standard
streams, the terminal, the environment and randomness.
-/

set_option autoImplicit false
set_option relaxedAutoImplicit false

namespace Coffer

/-- What is done to a new file, one after the other, until it is complete. -/
inductive FileStep
  | write
  | flush
  | sync
  /-- Sees to it that only its owner may use the file. -/
  | protect
  deriving DecidableEq, Repr

/-- A system that files can be read from and written to. -/
class Surroundings (m : Type → Type) where
  /-- The value of an environment variable, if it is set. -/
  environment? : Bytes → m (Option Bytes)
  /-- The absolute path of the working directory. -/
  workingDirectory : m Path
  /-- What an encryption draws at random. -/
  draw : m Draw
  /-- Random names for a temporary file, to be tried in order. -/
  temporaryNames : m (List Bytes)
  /-- The content of a file. -/
  readFile : Path → m (Except SystemError Bytes)
  /-- Makes an empty file that only its owner may use, where nothing is yet. -/
  createFile : Path → m (Except SystemError Unit)
  /-- Takes a step to make the bytes the content of a new file. -/
  fillFile : FileStep → Path → Bytes → m (Except SystemError Unit)
  /-- Moves a file, instead of a file that may be at its new path. -/
  rename : Path → Path → m (Except SystemError Unit)
  /-- Takes away a file. -/
  removeFile : Path → m Unit
  /-- All bytes of the standard input. -/
  readInput : m (Except String Bytes)
  /-- The next line of the standard input. -/
  readInputLine : m (Except String Bytes)
  /-- A passphrase typed at the terminal, once or twice. -/
  ask : Bool → m (Except String Bytes)
  /-- Writes to the standard output. -/
  writeOutput : Bytes → m (Except SystemError Unit)
  /-- Writes to the standard error output. -/
  report : String → m Unit
  /-- What an abort tells about the program that runs. -/
  runtime : m Runtime

end Coffer
