import Coffer.FileTree
import Coffer.Stream
import Coffer.Surroundings
import Coffer.Terminal.Editing

/-!
# Sessions

A session is a system held in memory: a tree of files, what the standard input will deliver,
what will be typed, and all that has been written so far. Operations that run in it are pure
functions of it.
-/

set_option autoImplicit false
set_option relaxedAutoImplicit false

namespace Coffer

/-- A refusal of the system; a write that is refused has taken some bytes before. -/
structure Fault where
  error : SystemError
  taken : Nat := 0

/-- A system held in memory. -/
structure Session where
  tree : FileTree := {}
  /-- The place of the working directory. -/
  here : Location := []
  environment : List (Bytes × Bytes) := []
  input : Stream := {}
  /-- The lines that will be typed, or nothing if there is no terminal. -/
  typed : Option (List Bytes) := none
  /-- How these lines are read. -/
  reader : Terminal.Reader := Terminal.editing
  /-- The steps on new files that are refused. -/
  fault? : FileStep → Option Fault := fun _ => none
  /-- Whether the standard output takes no more bytes. -/
  outputFull : Bool := false
  output : Bytes := []
  reports : String := ""
  draw : Draw
  temporaryNames : List Bytes := []
  runtime : Runtime := {}

namespace Session

/-- The sign between the name of an environment variable and its value. -/
def equals : UInt8 := 0x3d

def pathOf : Location → Path
  | [] => [Path.slash]
  | l => l.flatMap (Path.slash :: ·)

/-- The value of an environment variable. Each variable is kept as its name, an equals sign and
its value, and the first of which the front is the name and an equals sign is taken. -/
def valueOf? (environment : List (Bytes × Bytes)) (name : Bytes) : Option Bytes :=
  let front := name ++ [equals]
  if name = [] then none
  else
    environment.findSome? fun (key, value) =>
      let kept := key ++ equals :: value
      if front.isPrefixOf kept then some (kept.drop front.length) else none

/-- A computation in a session. -/
abbrev Run := StateM Session

/-- What a change of the tree leads to. -/
def change (f : FileTree → Location → Except SystemError FileTree) :
    Run (Except SystemError Unit) :=
  fun s =>
    match f s.tree s.here with
    | .ok tree => (.ok (), { s with tree })
    | .error e => (.error e, s)

/-- What a step changes in the tree. -/
def fill (step : FileStep) (p : Path) (content : Bytes) (t : FileTree) (here : Location) :
    Except SystemError FileTree :=
  match step with
  | .write => t.write here p content
  | .flush | .sync => return t
  | .protect => t.protect here p

/-- Takes a step on a new file, unless the system refuses it. -/
def fillFile (step : FileStep) (p : Path) (content : Bytes) : Run (Except SystemError Unit) :=
  fun s =>
    match s.fault? step with
    | none => change (fill step p content) s
    | some fault =>
      (.error fault.error,
        if step = .write then (change (fill step p (content.take fault.taken)) s).2 else s)

def takeInput (f : Stream → Except String Bytes × Stream) : Run (Except String Bytes) := fun s =>
  let (taken, input) := f s.input
  (taken, { s with input })

/-- Has a passphrase typed. -/
def converse (confirm : Bool) : Run (Except String Bytes) := fun s =>
  match s.typed with
  | none =>
    (.error SystemError.noDevice.text,
      { s with reports := s.reports ++ Dialogue.asking.prompt })
  | some lines =>
    let t := s.reader.ask confirm lines
    (t.outcome, { s with typed := some t.remaining, reports := s.reports ++ t.shown })

instance : Surroundings Run where
  environment? name := fun s => (valueOf? s.environment name, s)
  workingDirectory := fun s => (pathOf s.here, s)
  draw := fun s => (s.draw, s)
  temporaryNames := fun s => (s.temporaryNames, s)
  readFile p := fun s => (s.tree.read s.here p, s)
  createFile p := change fun t here => t.create here p
  fillFile := fillFile
  rename p q := change fun t here => t.rename here p q
  removeFile p := fun s => ((), { s with tree := s.tree.remove s.here p })
  readInput := takeInput Stream.readAll
  readInputLine := takeInput Stream.readLine
  ask := converse
  writeOutput content := fun s =>
    if s.outputFull ∧ content ≠ [] then (.error .noSpace, s)
    else (.ok (), { s with output := s.output ++ content })
  report text := fun s => ((), { s with reports := s.reports ++ text })
  runtime := fun s => (s.runtime, s)

end Session

end Coffer
