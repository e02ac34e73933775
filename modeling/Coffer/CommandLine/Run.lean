import Coffer.CommandLine.Command
import Coffer.CommandLine.Help
import Coffer.CommandLine.LogFilter
import Coffer.Files

/-!
# Running the program

The program reads its command line, does what is asked and ends with a status. What goes wrong is
reported in one line; a temporary file that a failed operation has left is not taken away.
-/

set_option autoImplicit false
set_option relaxedAutoImplicit false

namespace Coffer.CommandLine

/-- How the program ends. -/
inductive Ending
  | success
  | failure
  | usage
  /-- The standard output could not be written to where that is not foreseen. -/
  | aborted
  deriving DecidableEq, Repr

def Ending.status : Ending → UInt32
  | success => 0
  | failure => 1
  | usage => 2
  | aborted => 101

variable {m : Type → Type} [Monad m] [Surroundings m]

/-- Lets an event be seen if the filter shows it. -/
def observe (filter : LogFilter) (e : Event) : m Unit :=
  if filter.showsEvent e then Surroundings.report e.line else pure ()

/-- Ends the program where it cannot go on, and reports that. -/
def abort (report : Runtime → Trace → String) : m Ending := do
  let trace := Trace.ofVariable (← Surroundings.environment? (Utf8.encode "RUST_BACKTRACE"))
  Surroundings.report (report (← Surroundings.runtime) trace)
  return .aborted

/-- A line, and what prints it. -/
structure PrintedLine where
  printer : Printer
  text : String

def print : List PrintedLine → m Ending
  | [] => return .success
  | line :: more => do
    match ← Surroundings.writeOutput (Utf8.encode line.text) with
    | .ok () => print more
    | .error e => abort fun runtime trace => runtime.printReport trace line.printer e

/-- Writes the script that completes command lines. -/
def complete (shell : Shell) : m Ending := do
  match ← Surroundings.writeOutput (Utf8.encode shell.script) with
  | .ok () => return .success
  | .error e => abort fun runtime trace => runtime.scriptReport trace e

/-- Prints an explanation, whether or not it can be read. -/
def explain (text : String) : m Ending := do
  let _ ← Surroundings.writeOutput (Utf8.encode text)
  return .success

def showCosts (verbose : Bool) (c : Costs) : m Unit :=
  if verbose then Surroundings.report (c.describe ++ "\n") else pure ()

/-- Encrypts as asked: the costs are checked first, then where the passphrase comes from. -/
def encrypt (filter : LogFilter) (e : Encryption) : Files.Operation m Unit :=
  match Costs.ofTriple e.memory e.time e.lanes with
  | .error error => Files.refuse error
  | .ok costs =>
    match e.sources.choose e.input true with
    | .error error => Files.refuse error
    | .ok source => do
      (showCosts e.verbose costs : m _)
      Files.encrypt (observe filter) e.input e.output
        { variant := e.variant, version := e.version, costs } source

def decrypt (filter : LogFilter) (d : Decryption) : Files.Operation m Unit :=
  match d.sources.choose d.input false with
  | .error error => Files.refuse error
  | .ok source => do
    let costs ← Files.decrypt (observe filter) d.input d.output source
    (showCosts d.verbose costs : m _)

/-- What is printed about costs. -/
def costsLines (json : Bool) (c : Costs) : List PrintedLine :=
  [⟨.costs json, (if json then c.toJson else c.describe) ++ "\n"⟩]

/-- What is printed about a type and a version of Argon2. -/
def schemeLines (s : Scheme) : List PrintedLine :=
  [⟨.variant, s!"Type: {s.variant.name}\n"⟩, ⟨.version, s!"Version: {s.version.name}\n"⟩]

/-- Prints what has been read. -/
def inspect {α : Type} (reading : Files.Operation m α) (lines : α → List PrintedLine) :
    Files.Operation m Ending := do
  let a ← reading
  (print (lines a) : m _)

/-- Does what a command asks for; a failure is not reported yet. -/
def execute (filter : LogFilter) : Command → Files.Operation m Ending
  | .completion shell => (complete shell : m _)
  | .encrypt e => do
    encrypt filter e
    return .success
  | .decrypt d => do
    decrypt filter d
    return .success
  | .information input json => inspect (Files.readCosts input) (costsLines json)
  | .argon2 input => inspect (Files.readScheme input) schemeLines

def fail (e : Error) : m Ending := do
  Surroundings.report s!"Error: {e.render}\n"
  return .failure

/-- Does what a command asks for, and reports a failure. The temporary file of a failed operation
is left where it is. -/
def perform (filter : LogFilter) (c : Command) : m Ending := do
  match ← (execute filter c).run with
  | .ok ending => return ending
  | .error failure => fail failure.error

/-- Whether an environment variable is set to a value that is not empty. -/
def isGiven (name : String) : m Bool := do
  return ((← Surroundings.environment? (Utf8.encode name)).getD []) != []

/-- Whether emphasis is asked for where there is no terminal to show it. -/
def forcesEmphasis : m Bool := do
  let refused ← isGiven "NO_COLOR"
  let forced ← isGiven "CLICOLOR_FORCE"
  return forced && !refused

def halt : Stop → m Ending
  | .usage e => do
    Surroundings.report (e.line (← forcesEmphasis))
    return .usage
  | .help l => explain l.help
  | .version => explain versionLine
  | .nothingGiven => do
    Surroundings.report Level.top.help
    return .usage

/-- Runs the program on its arguments. -/
def run (arguments : List Bytes) : m Ending := do
  let filter := LogFilter.ofVariable (← Surroundings.environment? (Utf8.encode "ABCRYPT_LOG"))
  let fallback : CostVariables := {
    memory := ← Surroundings.environment? (Utf8.encode "ABCRYPT_MEMORY_COST")
    time := ← Surroundings.environment? (Utf8.encode "ABCRYPT_TIME_COST")
    lanes := ← Surroundings.environment? (Utf8.encode "ABCRYPT_PARALLELISM") }
  match Command.read fallback arguments with
  | .ok command => perform filter command
  | .error stop => halt stop

end Coffer.CommandLine
