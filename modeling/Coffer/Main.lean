import Coffer.CommandLine.Run
import Coffer.Stream
import Coffer.Terminal.Editing

/-!
# The program

The system that the program runs on: files, standard streams, the terminal, the environment and
random bytes. What the program does with them is decided elsewhere.
-/

set_option autoImplicit false
set_option relaxedAutoImplicit false

namespace Coffer.Main

/-- The text of a byte string, as the system's own operations want it. -/
def textOf (b : Bytes) : String := Utf8.lossy b

/-- The number and the description that the system gives to a failure, if it is one of its own. -/
def numbered? (e : IO.Error) : Option (Nat × String) :=
  match e with
  | .alreadyExists _ number text | .interrupted _ number text | .noFileOrDirectory _ number text
  | .invalidArgument _ number text | .permissionDenied _ number text
  | .resourceExhausted _ number text | .inappropriateType _ number text
  | .noSuchThing _ number text => some (number.toNat, text)
  | .otherError number text | .resourceBusy number text | .resourceVanished number text
  | .unsupportedOperation number text | .hardwareFault number text
  | .unsatisfiedConstraints number text | .illegalOperation number text
  | .protocolError number text | .timeExpired number text => some (number.toNat, text)
  | .unexpectedEof | .userError _ => none

def systemError (e : IO.Error) : SystemError :=
  match numbered? e with
  | some (number, text) => .ofNumber number text
  | none => .other (toString e)

def attempt {α : Type} (action : IO α) : IO (Except SystemError α) := do
  match ← action.toBaseIO with
  | .ok a => return .ok a
  | .error e => return .error (systemError e)

/-- Bytes that cannot be foreseen. -/
def randomOctets (n : Nat) : IO (Octets n) := do
  return (Octets.ofBytes? n (← IO.getRandomBytes n.toUSize).toList).getD default

def nameCharacters : List Char :=
  "ABCDEFGHIJKLMNOPQRSTUVWXYZabcdefghijklmnopqrstuvwxyz0123456789".toList

/-- A name for a temporary file that cannot be foreseen. -/
def temporaryName : IO Bytes := do
  let drawn := (← IO.getRandomBytes 6).toList
  let letters := drawn.map fun b => nameCharacters.getD (b.toNat % nameCharacters.length) 'A'
  return Utf8.encode (".tmp" ++ String.ofList letters)

/-- Reads until the input ends, or until a line feed has been read. -/
partial def readUntil (lineOnly : Bool) (taken : ByteArray) : IO ByteArray := do
  let chunk ← (← IO.getStdin).read Stream.callSize.toUSize
  let all := taken ++ chunk
  if chunk.isEmpty || (lineOnly && chunk.toList.contains Stream.lineFeed) then return all
  readUntil lineOnly all

/-- The line at the front of what has been read. -/
def firstLine (b : Bytes) : Bytes :=
  Stream.stripEnd (if b.contains Stream.lineFeed then Stream.throughLineFeed b else b)

/-- Lets a passphrase be typed. -/
partial def converse (terminal : IO.FS.Handle) (confirm : Bool) (d : Dialogue) :
    IO (Except String Bytes) := do
  match d with
  | .settled passphrase => return .ok passphrase
  | d => do
    IO.eprint d.prompt
    let line ← terminal.getLine
    if line.endsWith "\n" then
      match Terminal.editing.entry (Utf8.encode line).dropLast with
      | .ok entry => do
        let (next, notice) := d.enter confirm entry
        IO.eprint notice
        converse terminal confirm next
      | .error text => return .error text
    else return .error Terminal.editing.ended

/-- Opens the terminal and lets a passphrase be typed. -/
def ask (confirm : Bool) : IO (Except String Bytes) := do
  match ← attempt (IO.FS.Handle.mk "/dev/tty" .read) with
  | .ok terminal => converse terminal confirm .asking
  | .error e => do
    IO.eprint Dialogue.asking.prompt
    return .error e.text

/-- Takes a step on a new file; what has been written is not held back, and a disk is not waited
for. -/
def fillFile (step : FileStep) (p : Path) (content : Bytes) : IO Unit :=
  match step with
  | .write => IO.FS.writeBinFile (textOf p) (ByteArray.mk content.toArray)
  | .flush | .sync => return ()
  | .protect => IO.setAccessRights (textOf p) { user := { read := true, write := true } }

instance : Surroundings IO where
  environment? name := return (← IO.getEnv (textOf name)).map Utf8.encode
  workingDirectory := return Utf8.encode (← IO.currentDir).toString
  draw := return { salt := ← randomOctets 32, nonce := ← randomOctets 24 }
  temporaryNames := (List.range 64).mapM fun _ => temporaryName
  readFile p := attempt do
    let file ← IO.FS.Handle.mk (textOf p) .read
    return (← file.readBinToEnd).toList
  createFile p := attempt do
    let _ ← IO.FS.Handle.mk (textOf p) .writeNew
    IO.setAccessRights (textOf p) { user := { read := true, write := true } }
  fillFile step p content := attempt (fillFile step p content)
  rename p q := attempt (IO.FS.rename (textOf p) (textOf q))
  removeFile p := do
    let _ ← attempt (IO.FS.removeFile (textOf p))
  readInput := do
    return ((← attempt (readUntil false .empty)).map ByteArray.toList).mapError SystemError.text
  readInputLine := do
    let taken ← attempt (readUntil true .empty)
    return (taken.map fun b => firstLine b.toList).mapError SystemError.text
  ask confirm := ask confirm
  writeOutput content := attempt do
    let output ← IO.getStdout
    output.write (ByteArray.mk content.toArray)
    output.flush
  report text := IO.eprint text
  runtime := return {}

end Coffer.Main

def main (arguments : List String) : IO UInt32 := do
  let ending : Coffer.CommandLine.Ending ←
    Coffer.CommandLine.run (arguments.map Coffer.Utf8.encode)
  return ending.status
