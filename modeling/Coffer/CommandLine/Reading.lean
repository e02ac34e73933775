import Coffer.CommandLine.Options

/-!
# Reading the command line

The arguments are read one after another. An option that waits for its value, and an option or
file whose value has been read, are taken up before the next one, so the first fault is the one
that is reported. What follows the name of a command is read and checked before what stands in
front of it is.
-/

set_option autoImplicit false
set_option relaxedAutoImplicit false

namespace Coffer.CommandLine

/-- Why reading ends before there is a command to run. -/
inductive Stop
  | usage (e : UsageError)
  | help (l : Level)
  | version
  | nothingGiven
  deriving DecidableEq, Repr

/-- What an argument looks like. -/
inductive Argument
  /-- The two dashes after which there are no options. -/
  | separator
  /-- A long option, and the value that is attached to it. -/
  | long (name : Bytes) (value : Option Bytes)
  /-- One or more options of one letter each. -/
  | short (letters : Bytes)
  | plain
  deriving DecidableEq, Repr

namespace Argument

def dash : UInt8 := 0x2d
def equals : UInt8 := 0x3d

/-- The bytes before the first equals sign, and those after it. -/
def splitEquals (b : Bytes) : Bytes × Option Bytes :=
  match b.dropWhile (· != equals) with
  | _ :: value => (b.takeWhile (· != equals), some value)
  | [] => (b, none)

def classify : Bytes → Argument
  | [d, e] =>
    if d = dash ∧ e = dash then separator else if d = dash then short [e] else plain
  | d :: e :: rest =>
    if d = dash ∧ e = dash then
      let (name, value) := splitEquals rest
      long name value
    else if d = dash then short (e :: rest)
    else plain
  | _ => plain

end Argument

/-- An option or file that has been read and is to be taken up. -/
structure Pending where
  flag : Flag
  value : Option Bytes
  deriving DecidableEq, Repr

/-- How far a level of the command line has been read. -/
structure Progress where
  options : Options := {}
  pending : Option Pending := none
  /-- Whether options can no longer follow. -/
  trailing : Bool := false
  /-- Whether the input has been read. -/
  inputSeen : Bool := false

namespace Progress

def awaiting? (p : Progress) : Option Flag :=
  match p.pending with
  | some ⟨f, none⟩ => some f
  | _ => none

/-- Takes up what is pending. -/
def resolve (p : Progress) : Except Stop Progress :=
  match p.pending with
  | none => .ok p
  | some ⟨f, value⟩ => do
    let options ← (p.options.take f value).mapError .usage
    return { p with options, pending := none }

/-- Takes up what is pending, and then another option. -/
def react (l : Level) (p : Progress) (f : Flag) (value : Option Bytes) : Except Stop Progress := do
  let p ← p.resolve
  match f with
  | .help => throw (.help l)
  | .version => throw .version
  | _ => do
    let options ← (p.options.take f value).mapError .usage
    return { p with options }

/-- Takes up what is pending, and lets something else wait to be taken up. -/
def postpone (p : Progress) (f : Flag) (value : Option Bytes) : Except Stop Progress := do
  let p ← p.resolve
  return { p with pending := some ⟨f, value⟩ }

def long (l : Level) (p : Progress) (name : Bytes) (value : Option Bytes) :
    Except Stop Progress :=
  match (Utf8.decode? name).bind l.ofLong? with
  | none => .error (.usage (.unexpectedArgument ("--" ++ Utf8.lossy name)))
  | some f =>
    match f.takesValue, value with
    | true, none => p.postpone f none
    | false, some value => .error (.usage (.unexpectedValue (Utf8.lossy value) f))
    | _, value => react l p f value

/-- The value that is attached to a letter; an equals sign before it does not count. -/
def attached? : Bytes → Option Bytes
  | [] => none
  | b :: rest => some (if b = Argument.equals then rest else b :: rest)

/-- Goes on with options of one letter each; the first that takes a value ends them. -/
def short (l : Level) (p : Progress) : Bytes → Except Stop Progress
  | [] => .ok p
  | lead :: rest =>
    match (Utf8.next lead rest).1 with
    | .stray _ => .error (.usage (.unexpectedArgument ("-" ++ Utf8.lossy (lead :: rest))))
    | .char c =>
      match l.ofShort? c with
      | none => .error (.usage (.unexpectedArgument ("-" ++ String.singleton c)))
      | some f =>
        if f.takesValue then
          match attached? (Utf8.next lead rest).2 with
          | none => p.postpone f none
          | some value => react l p f (some value)
        else
          match react l p f none with
          | .ok p => short l p (Utf8.next lead rest).2
          | .error stop => .error stop
termination_by b => b.length
decreasing_by
  have := Utf8.length_next_le lead rest
  simp only [List.length_cons]
  omega

end Progress

/-- What may be called by its name before any options are left to read. -/
inductive Callee
  | help
  | command (l : Level)
  deriving DecidableEq, Repr

def callee? (argument : Bytes) : Option Callee :=
  match Utf8.decode? argument with
  | none => none
  | some "help" => some .help
  | some name => (Level.ofName? name).map .command

namespace Progress

/-- Goes on with an argument that is no option: the input, unless that has been read. -/
def plain (l : Level) (p : Progress) (argument : Bytes) : Except Stop Progress :=
  if l.flags.contains .input ∧ ¬p.inputSeen then do
    let p ← p.postpone .input (some argument)
    return { p with inputSeen := true }
  else if l = .top ∧ ¬(p.trailing ∧ (callee? argument).isSome) then
    .error (.usage (.unrecognizedSubcommand (Utf8.lossy argument)))
  else .error (.usage (.unexpectedArgument (Utf8.lossy argument)))

/-- The callee that an argument names, where one can be named. -/
def called? (l : Level) (p : Progress) (argument : Bytes) : Option Callee :=
  if l = .top ∧ p.trailing = false ∧ p.awaiting? = none then callee? argument else none

/-- Goes on with an argument that names no callee. -/
def advance (l : Level) (p : Progress) (argument : Bytes) : Except Stop Progress :=
  if p.trailing then p.plain l argument
  else
    match Argument.classify argument with
    | .separator => .ok { p with trailing := true }
    | .long name value => p.long l name value
    | .short letters => p.short l letters
    | .plain =>
      match p.awaiting? with
      | some f => .ok { p with pending := some ⟨f, some argument⟩ }
      | none => p.plain l argument

end Progress

/-- The help that is asked for by the names after the word for it. -/
def helpFor (l : Level) : List Bytes → Stop
  | [] => .help l
  | name :: rest =>
    match l, callee? name with
    | .top, some (.command c) => helpFor c rest
    | .top, some .help =>
      match rest with
      | [] => .help .top
      | name :: _ => .usage (.unrecognizedSubcommand (Utf8.lossy name))
    | _, _ => .usage (.unrecognizedSubcommand (Utf8.lossy name))

/-- A level that has been read up to its end, or up to the name of a command. -/
structure Scan where
  progress : Progress
  /-- The command that was named, and the arguments after its name. -/
  command? : Option (Level × List Bytes) := none

def scan (l : Level) (p : Progress) : List Bytes → Except Stop Scan
  | [] => .ok { progress := p }
  | argument :: rest =>
    match p.called? l argument with
    | some .help => .error (helpFor .top rest)
    | some (.command c) => .ok { progress := p, command? := some (c, rest) }
    | none =>
      match p.advance l argument with
      | .ok p => scan l p rest
      | .error stop => .error stop

/-- The environment variables that costs are taken from, where they are set. -/
structure CostVariables where
  memory : Option Bytes := none
  time : Option Bytes := none
  lanes : Option Bytes := none

/-- Reads and checks what follows the name of a command. -/
def readCommandOptions (fallback : CostVariables) (l : Level) (arguments : List Bytes) :
    Except Stop Options := do
  let scanned ← scan l {} arguments
  let options := (← scanned.progress.resolve).options
  let completed : Except UsageError Options :=
    if l = .encrypt then do
      let options ← options.fallBack .memoryCost fallback.memory
      let options ← options.fallBack .timeCost fallback.time
      options.fallBack .parallelism fallback.lanes
    else .ok options
  let options ← completed.mapError .usage
  options.checkConflicts.mapError .usage
  return options

/-- Checks what stands in front of the name of a command. -/
def checkTop (o : Options) : Except UsageError Unit :=
  if o.has .generateCompletion ∧ 1 < o.given.length then .error (.notAlone .generateCompletion)
  else o.checkConflicts

/-- A command line that has been read. -/
structure Invocation where
  /-- What stands in front of the name of the command. -/
  top : Options
  /-- The command, and what follows its name. -/
  command? : Option (Level × Options)

/-- Reads all arguments. -/
def readArguments (fallback : CostVariables) (arguments : List Bytes) :
    Except Stop Invocation := do
  let scanned ← scan .top {} arguments
  let command? ← match scanned.command? with
    | some (l, rest) => do pure (some (l, ← readCommandOptions fallback l rest))
    | none => pure none
  let top := (← scanned.progress.resolve).options
  if command?.isNone ∧ top.given = [] then throw .nothingGiven
  (checkTop top).mapError .usage
  return { top, command? }

end Coffer.CommandLine
