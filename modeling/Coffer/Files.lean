import Coffer.Event
import Coffer.Header.Inspection
import Coffer.Passphrase
import Coffer.Text.Quoted

/-!
# Operations on files

Encrypting, decrypting and inspecting files. Without a path, the standard streams are used. An
output file is written under a temporary name in the directory of its path and then renamed, so
its old content remains until the new one is complete.
-/

set_option autoImplicit false
set_option relaxedAutoImplicit false

namespace Coffer

/-- Why an operation failed, and the temporary file that it has left, if any. -/
structure FileFailure where
  error : Error
  leftover? : Option Path := none
  deriving DecidableEq

namespace Files

variable {m : Type → Type} [Monad m] [Surroundings m]

/-- An operation that may fail and leave a temporary file. -/
abbrev Operation (m : Type → Type) := ExceptT FileFailure m

def refuse {α : Type} (e : Error) : Operation m α := throw { error := e }

/-- The failure to read a file: a missing one is for the user to look for. -/
def readFailure (path : Path) (e : SystemError) : Error :=
  .failure (if e = .noEntry then .user else .internal) .inputOutput
    s!"could not read data from {path.display}" (some (.plain e.text))

def inputFailure (text : String) : Error :=
  .failure .internal .inputOutput "failed to read from stdin" (some (.plain text))

def outputFailure (e : SystemError) : Error :=
  .failure .internal .inputOutput "failed to write to stdout" (some (.plain e.text))

def createFailure (directory : Path) (text : String) : Error :=
  .failure .user .inputOutput s!"failed to create tempfile in {directory.display}"
    (some (.plain text))

/-- The failure to give a temporary file its final name. -/
def renameFailure (path : Path) (e : SystemError) : Error :=
  .failure .internal .inputOutput s!"failed to rename to target file {path.display}"
    (some (.because s!"failed to persist temporary file: {e.text}" (.plain e.text)))

def textAt (text : String) (path : Path) : String := text ++ " at path " ++ Text.quoteBytes path

/-- The failure to complete a temporary file. The path is named only by the steps that are taken
with the temporary file itself, not with the open file below it. -/
def fillFailure (temporary : Path) (step : FileStep) (e : SystemError) : Error :=
  let (text, cause) := match step with
    | .write => ("failed to write to tempfile", textAt e.text temporary)
    | .flush => ("failed to flush tempfile", textAt e.text temporary)
    | .sync => ("failed to sync file prior to rename", e.text)
    | .protect => ("failed to set tempfile permissions", e.text)
  .failure .internal .inputOutput text (some (.plain cause))

/-- Reads the input, from a path or from the standard input. -/
def readInput : Option Path → Operation m Bytes
  | some path => do
    match ← (Surroundings.readFile path : m _) with
    | .ok content => return content
    | .error e => refuse (readFailure path e)
  | none => do
    match ← (Surroundings.readInput : m _) with
    | .ok content => return content
    | .error text => refuse (inputFailure text)

/-- Makes a temporary file under the first name that is not taken. -/
def createTemporary (directory absolute : Path) : List Bytes → Operation m Path
  | [] => refuse (createFailure directory (textAt "too many temporary files exist" absolute))
  | name :: names => do
    let path := Path.under absolute name
    match ← (Surroundings.createFile path : m _) with
    | .ok () => return path
    | .error .alreadyExists => createTemporary directory absolute names
    | .error e => refuse (createFailure directory (textAt e.text path))

/-- Takes steps to make the bytes the content of a temporary file, which is taken away if one of
them fails. -/
def fill (temporary : Path) (content : Bytes) : List FileStep → Operation m Unit
  | [] => return ()
  | step :: steps => do
    match ← (Surroundings.fillFile step temporary content : m _) with
    | .ok () => fill temporary content steps
    | .error e => do
      (Surroundings.removeFile temporary : m _)
      refuse (fillFailure temporary step e)

/-- Gives a temporary file its final name. -/
def persist (path temporary : Path) : Operation m Unit := do
  match ← (Surroundings.rename temporary path : m _) with
  | .ok () => return ()
  | .error e => throw { error := renameFailure path e, leftover? := some temporary }

/-- Completes a temporary file before it gets its final name. -/
def finish (path temporary : Path) (content : Bytes) : Operation m Unit := do
  fill temporary content [.write, .flush, .sync, .protect]
  persist path temporary

/-- Writes a file under a temporary name and renames it. -/
def replaceFile (path : Path) (content : Bytes) : Operation m Unit := do
  let directory := path.directory
  let absolute := Path.under (← (Surroundings.workingDirectory : m _)) directory
  let temporary ← createTemporary directory absolute (← (Surroundings.temporaryNames : m _))
  finish path temporary content

/-- The failure to write a file, seen from outside. -/
def writeFailure (path : Path) (failure : FileFailure) : FileFailure :=
  { failure with error := failure.error.withContext s!"failed to write to {path.display}" }

/-- Writes the output, to a path or to the standard output. -/
def writeOutput (log : Event → m Unit) (output : Option Path) (content : Bytes) :
    Operation m Unit :=
  match output with
  | some path => do
    ExceptT.adapt (writeFailure path) (replaceFile path content)
    log (.wroteFile path content.length)
  | none => do
    match ← (Surroundings.writeOutput content : m _) with
    | .ok () => return ()
    | .error e => refuse (outputFailure e)

/-- What is said when encryption fails. -/
def encryptionContext : String := "the plaintext could not be encrypted"

/-- What is said when an inspected input is no container. -/
def inspectionContext : String := "data you specified is not a valid abcrypt encrypted data"

/-- What is said when decryption fails with a given kind of error. -/
def decryptionContext (k : Kind) : String :=
  if k = .wrongHeaderMac then "passphrase is incorrect"
  else if k = .wrongTag then "the encrypted data is corrupted"
  else if k.isStructural then "the header in the encrypted data is invalid"
  else "the encrypted data could not be decrypted"

/-- The failure of decryption, as it is reported. -/
def decryptionFailure (e : Error) : Error := e.withContext (decryptionContext e.kind)

/-- Makes the container of a plaintext. -/
def makeContainer (log : Event → m Unit) (scheme : Scheme) (plaintext passphrase : Bytes) :
    Operation m (Bytes × Unit) := do
  let draw ← (Surroundings.draw : m _)
  log (.derivingKeys scheme)
  match encryptWith scheme draw plaintext passphrase with
  | .ok container => do
    log (.encryptedPayload plaintext.length)
    return (container, ())
  | .error e => refuse (e.withContext encryptionContext)

/-- Takes the plaintext out of a container, and the costs that the container was made at. -/
def openContainer (log : Event → m Unit) (data passphrase : Bytes) :
    Operation m (Bytes × Costs) := do
  match Container.ofBytes data with
  | .error e => refuse (decryptionFailure e)
  | .ok container => do
    log (.derivingKeys container.header.scheme)
    match Decryptor.prepare data passphrase with
    | .error e => refuse (decryptionFailure e)
    | .ok decryptor =>
      match decryptor.toBytes with
      | .error e => refuse (decryptionFailure e)
      | .ok plaintext => do
        log (.decryptedPayload plaintext.length)
        return (plaintext, decryptor.costs)

/-- Reads the input and then a passphrase, and makes something of both. The reader of passphrases
is given back as the call, if there was one, has left it. -/
def compose {R α : Type} (read : R → m (Except Error Bytes × R)) (input : Option Path)
    (make : Bytes → Bytes → Operation m α) (reader : R) : m (Except FileFailure α × R) := do
  match ← (readInput input).run with
  | .error failure => return (.error failure, reader)
  | .ok data => do
    let (passphrase, reader) ← read reader
    match passphrase with
    | .error e => return (.error { error := e }, reader)
    | .ok passphrase => return (← (make data passphrase).run, reader)

/-- Writes what is made of the input and a passphrase to the output, once it is complete. -/
def transform {R α : Type} (read : R → m (Except Error Bytes × R)) (log : Event → m Unit)
    (input output : Option Path) (make : Bytes → Bytes → Operation m (Bytes × α)) (reader : R) :
    m (Except FileFailure α × R) := do
  let (made, reader) ← compose read input make reader
  match made with
  | .error failure => return (.error failure, reader)
  | .ok (content, answer) => do
    match ← (writeOutput log output content).run with
    | .error failure => return (.error failure, reader)
    | .ok () => return (.ok answer, reader)

/-- Encrypts the input under a scheme and writes the container to the output. -/
def encrypt (log : Event → m Unit) (input output : Option Path) (scheme : Scheme)
    (source : PassphraseSource) : Operation m Unit :=
  .mk do
    return (← transform PassphraseSource.read log input output (makeContainer log scheme) source).1

/-- Decrypts the input, writes the plaintext to the output and gives the costs that the container
was made at. -/
def decrypt (log : Event → m Unit) (input output : Option Path) (source : PassphraseSource) :
    Operation m Costs :=
  .mk do
    return (← transform PassphraseSource.read log input output (openContainer log) source).1

/-- Reads the input and inspects it as a container. -/
def inspectInput {α : Type} (part : Bytes → Except Error α) (input : Option Path) :
    Operation m α := do
  match part (← readInput input) with
  | .ok a => return a
  | .error e => refuse (e.withContext inspectionContext)

/-- The costs that the header of the input names. -/
def readCosts : Option Path → Operation m Costs := inspectInput Costs.ofContainer

/-- The scheme that the header of the input names. -/
def readScheme : Option Path → Operation m Scheme := inspectInput Scheme.ofContainer

/-- Drops a failure, and with it the temporary file that was left. -/
def discard {α : Type} : Except FileFailure α → m (Except Error α)
  | .ok a => return .ok a
  | .error failure => do
    match failure.leftover? with
    | some path => Surroundings.removeFile path
    | none => pure ()
    return .error failure.error

/-- Does what `transform` does for a caller who drops a failure. -/
def transact {R α : Type} (read : R → m (Except Error Bytes × R)) (log : Event → m Unit)
    (input output : Option Path) (make : Bytes → Bytes → Operation m (Bytes × α)) (reader : R) :
    m (Except Error α × R) := do
  let (result, reader) ← transform read log input output make reader
  return (← discard result, reader)

/-- Runs an operation and takes away the temporary file that it may leave. -/
def settle {α : Type} (operation : Operation m α) : m (Except Error α) := do
  discard (← operation.run)

end Files

end Coffer
