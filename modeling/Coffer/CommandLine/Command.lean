import Coffer.CommandLine.Reading
import Coffer.Passphrase

/-!
# Commands

What a command line asks for, with a value for everything that was left out. An option about the
passphrase may stand in front of the name of the command or after it; what stands after it wins.
-/

set_option autoImplicit false
set_option relaxedAutoImplicit false

namespace Coffer.CommandLine

/-- Where a passphrase is to come from; the terminal if nothing was said. -/
structure Sources where
  input : Bool := false
  typedOnce : Bool := false
  environment? : Option Bytes := none
  file? : Option Path := none
  deriving DecidableEq

/-- What was said on both sides of the name of a command. -/
def Sources.ofOptions (outer inner : Options) : Sources where
  input := outer.has .passphraseStdin || inner.has .passphraseStdin
  typedOnce := outer.has .passphraseFromTtyOnce || inner.has .passphraseFromTtyOnce
  environment? := inner.passphraseVariable? <|> outer.passphraseVariable?
  file? := inner.passphraseFile? <|> outer.passphraseFile?

/-- The failure to take both the passphrase and the data from the standard input. -/
def bothFromInput : Error :=
  .failure .user .passphraseUnavailable "cannot read both passphrase and input data from stdin" none

/-- The source of the passphrase for an input; typed at the terminal, it may have to be
confirmed. -/
def Sources.choose (s : Sources) (input : Option Path) (confirm : Bool) :
    Except Error PassphraseSource :=
  if s.input then if input.isNone then .error bothFromInput else .ok .input
  else
    match s.environment?, s.file? with
    | some name, _ => .ok (.environment name)
    | none, some path => .ok (.file path)
    | none, none => .ok (.terminal (confirm && !s.typedOnce))

/-- How something is to be encrypted. -/
structure Encryption where
  input : Option Path
  output : Option Path
  memory : UInt32
  time : UInt32
  lanes : UInt32
  variant : Argon2.Variant
  version : Argon2.Version
  verbose : Bool
  sources : Sources
  deriving DecidableEq

/-- How something is to be decrypted. -/
structure Decryption where
  input : Option Path
  output : Option Path
  verbose : Bool
  sources : Sources
  deriving DecidableEq

/-- What is to be done. -/
inductive Command
  | completion (s : Shell)
  | encrypt (e : Encryption)
  | decrypt (d : Decryption)
  | information (input : Option Path) (json : Bool)
  | argon2 (input : Option Path)
  deriving DecidableEq

namespace Command

/-- The encryption that options ask for; a size of memory wins over a cost. -/
def encryption (outer inner : Options) : Encryption where
  input := inner.input?
  output := inner.output?
  memory := (inner.memorySize? <|> inner.memoryCost?).getD (default : Costs).memory
  time := inner.timeCost?.getD (default : Costs).time
  lanes := inner.parallelism?.getD (default : Costs).lanes
  variant := inner.variant?.getD default
  version := inner.version?.getD default
  verbose := inner.has .verbose
  sources := .ofOptions outer inner

def decryption (outer inner : Options) : Decryption where
  input := inner.input?
  output := inner.output?
  verbose := inner.has .verbose
  sources := .ofOptions outer inner

def ofInvocation (i : Invocation) : Except Stop Command :=
  match i.top.shell?, i.command? with
  | some shell, _ => .ok (.completion shell)
  | none, some (.encrypt, options) => .ok (.encrypt (encryption i.top options))
  | none, some (.decrypt, options) => .ok (.decrypt (decryption i.top options))
  | none, some (.information, options) => .ok (.information options.input? (options.has .json))
  | none, some (.argon2, options) => .ok (.argon2 options.input?)
  | none, _ => .error (.usage .missingSubcommand)

/-- Reads a command line. -/
def read (fallback : CostVariables) (arguments : List Bytes) : Except Stop Command := do
  ofInvocation (← readArguments fallback arguments)

end Command

end Coffer.CommandLine
