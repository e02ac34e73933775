import Coffer.CommandLine.MemorySize
import Coffer.CommandLine.UsageError
import Coffer.Path
import Coffer.Scheme

/-!
# Values of options

What has been given at one level of the command line. A value is checked when it is taken up: no
option may be given twice, and its value has to be readable.
-/

set_option autoImplicit false
set_option relaxedAutoImplicit false

namespace Coffer.CommandLine

/-- The shells for which completion can be generated. -/
inductive Shell
  | bash | elvish | fish | powershell | zsh
  deriving DecidableEq, Repr

namespace Shell

def name : Shell → String
  | bash => "bash"
  | elvish => "elvish"
  | fish => "fish"
  | powershell => "powershell"
  | zsh => "zsh"

def all : List Shell := [bash, elvish, fish, powershell, zsh]

end Shell

/-- The options given at one level, with their values. -/
structure Options where
  /-- The options that were given, in the order in which they were taken up. -/
  given : List Flag := []
  shell? : Option Shell := none
  passphraseVariable? : Option Bytes := none
  passphraseFile? : Option Path := none
  output? : Option Path := none
  input? : Option Path := none
  memoryCost? : Option UInt32 := none
  memorySize? : Option UInt32 := none
  timeCost? : Option UInt32 := none
  parallelism? : Option UInt32 := none
  variant? : Option Argon2.Variant := none
  version? : Option Argon2.Version := none

namespace Options

def has (o : Options) (f : Flag) : Bool := o.given.contains f

/-- The value that the bytes name, out of a list of values. -/
def choose {α : Type} (f : Flag) (name : α → String) (values : List α) (value : Bytes) :
    Except UsageError α :=
  if value = [] then .error (.missingValue f)
  else
    match (Utf8.decode? value).bind fun s => values.find? fun a => name a == s with
    | some a => .ok a
    | none => .error (.invalidValue (Utf8.lossy value) f none)

/-- The value that a reader of texts makes of the bytes. -/
def readText {α : Type} (f : Flag) (read : String → Except String α) (value : Bytes) :
    Except UsageError α :=
  match Utf8.decode? value with
  | none => .error .invalidUtf8
  | some s => (read s).mapError fun reason => .invalidValue s f (some reason)

def readPath (f : Flag) (value : Bytes) : Except UsageError Path :=
  if value = [] then .error (.missingValue f) else .ok value

def set (o : Options) (f : Flag) (value : Bytes) : Except UsageError Options :=
  match f with
  | .generateCompletion =>
    return { o with shell? := some (← choose f Shell.name Shell.all value) }
  | .passphraseFromEnv => return { o with passphraseVariable? := some value }
  | .passphraseFromFile => return { o with passphraseFile? := some (← readPath f value) }
  | .output => return { o with output? := some (← readPath f value) }
  | .input => return { o with input? := some (← readPath f value) }
  | .memoryCost => return { o with memoryCost? := some (← readText f Integer.readWord value) }
  | .memorySize => return { o with memorySize? := some (← readText f MemorySize.read value) }
  | .timeCost => return { o with timeCost? := some (← readText f Integer.readWord value) }
  | .parallelism => return { o with parallelism? := some (← readText f Integer.readWord value) }
  | .argon2Type =>
    return { o with variant? := some (← choose f Argon2.Variant.identifier
      [.argon2d, .argon2i, .argon2id] value) }
  | .argon2Version =>
    return { o with version? := some (← choose f Argon2.Version.name [.v0x10, .v0x13] value) }
  | _ => return o

/-- Takes up an option that was given, with the value that stands for it. -/
def take (o : Options) (f : Flag) (value : Option Bytes) : Except UsageError Options :=
  match f.takesValue, value with
  | true, none => .error (.missingValue f)
  | _, _ =>
    if o.has f then .error (.repeated f)
    else do
      let o ← o.set f (value.getD [])
      return { o with given := o.given ++ [f] }

/-- Takes the value of an option from an environment variable, unless the option was given. -/
def fallBack (o : Options) (f : Flag) (value : Option Bytes) : Except UsageError Options :=
  match value with
  | some value => if o.has f then .ok o else o.set f value
  | none => .ok o

/-- The other options that say where the passphrase comes from. -/
def rivals (o : Options) (f : Flag) : List Flag :=
  o.given.filter fun g => g.isPassphrase && g != f

/-- Checks that options that exclude each other were not given together. -/
def checkConflicts (o : Options) : Except UsageError Unit :=
  match o.given.find? (·.isPassphrase) with
  | none => .ok ()
  | some f => if o.rivals f = [] then .ok () else .error (.conflict f (o.rivals f))

end Options

end Coffer.CommandLine
