/-!
# Options of the command line

The options, how they are written and how they are shown, and where each of them may be given:
before the name of a command, or after the names of some commands.
-/

set_option autoImplicit false
set_option relaxedAutoImplicit false

namespace Coffer.CommandLine

/-- A part of the command line: what stands before the name of a command, or what follows it. -/
inductive Level
  | top | encrypt | decrypt | information | argon2
  deriving DecidableEq, Repr

/-- An option, or the file that a command reads. -/
inductive Flag
  | generateCompletion | passphraseStdin | passphraseFromTtyOnce | passphraseFromEnv
  | passphraseFromFile | help | version | output | memoryCost | memorySize | timeCost
  | parallelism | argon2Type | argon2Version | verbose | json | input
  deriving DecidableEq, Repr

namespace Flag

/-- The long name, which is written after two dashes; the input has none. -/
def long? : Flag → Option String
  | generateCompletion => some "generate-completion"
  | passphraseStdin => some "passphrase-stdin"
  | passphraseFromTtyOnce => some "passphrase-from-tty-once"
  | passphraseFromEnv => some "passphrase-from-env"
  | passphraseFromFile => some "passphrase-from-file"
  | help => some "help"
  | version => some "version"
  | output => some "output"
  | memoryCost => some "memory-cost"
  | memorySize => some "memory-size"
  | timeCost => some "time-cost"
  | parallelism => some "parallelism"
  | argon2Type => some "argon2-type"
  | argon2Version => some "argon2-version"
  | verbose => some "verbose"
  | json => some "json"
  | input => none

def short? : Flag → Option Char
  | help => some 'h'
  | version => some 'V'
  | output => some 'o'
  | memoryCost => some 'm'
  | timeCost => some 't'
  | parallelism => some 'p'
  | verbose => some 'v'
  | json => some 'j'
  | _ => none

/-- What the value of the option is called, if it takes one. -/
def valueName? : Flag → Option String
  | generateCompletion => some "SHELL"
  | passphraseFromEnv => some "VAR"
  | passphraseFromFile | output | input => some "FILE"
  | memoryCost => some "KiB"
  | memorySize => some "BYTE"
  | timeCost | parallelism => some "NUM"
  | argon2Type => some "TYPE"
  | argon2Version => some "VERSION"
  | _ => none

def takesValue (f : Flag) : Bool := f.valueName?.isSome

def display (f : Flag) : String :=
  match f.long?, f.valueName? with
  | some name, some value => "--" ++ name ++ " <" ++ value ++ ">"
  | some name, none => "--" ++ name
  | none, some value => "[" ++ value ++ "]"
  | none, none => ""

def purpose : Flag → String
  | generateCompletion => "Generate shell completion to stdout"
  | passphraseStdin => "Read the passphrase from the first line of stdin"
  | passphraseFromTtyOnce => "Read the passphrase from the terminal without asking for confirmation"
  | passphraseFromEnv => "Read the passphrase from the environment variable"
  | passphraseFromFile => "Read the passphrase from the first line of the file"
  | help => "Print help"
  | version => "Print version"
  | output => "Output the result to a file"
  | memoryCost => "Set the memory size in KiB"
  | memorySize => "Set the memory size in bytes, with an optional unit"
  | timeCost => "Set the number of iterations"
  | parallelism => "Set the degree of parallelism"
  | argon2Type => "Set the Argon2 type"
  | argon2Version => "Set the Argon2 version"
  | verbose => "Print the encryption parameters"
  | json => "Output the encryption parameters as JSON"
  | input => "Input file; stdin if omitted"

/-- The options that say where the passphrase comes from; at most one of them may be given. -/
def passphraseFlags : List Flag :=
  [passphraseStdin, passphraseFromTtyOnce, passphraseFromEnv, passphraseFromFile]

/-- Whether the option says where the passphrase comes from. -/
def isPassphrase (f : Flag) : Bool := passphraseFlags.contains f

end Flag

namespace Level

/-- The names of a command, the proper one first. -/
def names : Level → List String
  | top => []
  | encrypt => ["encrypt", "enc", "e"]
  | decrypt => ["decrypt", "dec", "d"]
  | information => ["information", "info", "i"]
  | argon2 => ["argon2"]

def commands : List Level := [encrypt, decrypt, information, argon2]

def ofName? (name : String) : Option Level := commands.find? (·.names.contains name)

def purpose : Level → String
  | top => "Passphrase-based file encryption."
  | encrypt => "Encrypt files"
  | decrypt => "Decrypt files"
  | information => "Provides information about the encryption parameters"
  | argon2 => "Detect the Argon2 type and version of an encrypted file"

def flags : Level → List Flag
  | top => .generateCompletion :: Flag.passphraseFlags ++ [.help, .version]
  | encrypt =>
    [.output, .memoryCost, .memorySize, .timeCost, .parallelism, .argon2Type, .argon2Version,
      .verbose, .input] ++ Flag.passphraseFlags ++ [.help]
  | decrypt => [.output, .verbose, .input] ++ Flag.passphraseFlags ++ [.help]
  | information => [.json, .input] ++ Flag.passphraseFlags ++ [.help]
  | argon2 => [.input] ++ Flag.passphraseFlags ++ [.help]

def ofLong? (l : Level) (name : String) : Option Flag := l.flags.find? (·.long? == some name)

def ofShort? (l : Level) (letter : Char) : Option Flag := l.flags.find? (·.short? == some letter)

end Level

end Coffer.CommandLine
