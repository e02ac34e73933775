import Coffer.CommandLine.Options

/-!
# Help

The texts that explain the command line, and the scripts that let shells complete the names
of commands.
-/

set_option autoImplicit false
set_option relaxedAutoImplicit false

namespace Coffer.CommandLine

def programName : String := "abcrypt"

def versionLine : String := programName ++ " 0.1.0\n"

namespace Level

def usage : Level → String
  | top => s!"Usage: {programName} [OPTIONS] [COMMAND]\n"
  | l => s!"Usage: {programName} {l.names.headD programName} [OPTIONS] [FILE]\n"

def flagLine (f : Flag) : String := s!"  {f.display}  {f.purpose}\n"

def commandLine (l : Level) : String := s!"  {l.names.headD programName}  {l.purpose}\n"

def help (l : Level) : String :=
  s!"{l.purpose}\n\n" ++ l.usage ++
    (if l = top then "\nCommands:\n" ++ String.join (commands.map commandLine) else "") ++
    "\nOptions:\n" ++ String.join (l.flags.map flagLine)

end Level

namespace Shell

/-- The words that may follow the name of the program. -/
def words : String := " ".intercalate (Level.commands.flatMap Level.names ++ ["help"])

/-- The script that lets a shell complete the names of commands. -/
def script : Shell → String
  | bash => s!"complete -W \"{words}\" {programName}\n"
  | elvish =>
    s!"set edit:completion:arg-completer[{programName}] = " ++
      "\x7b|@args| put " ++ words ++ " \x7d\n"
  | fish => s!"complete -c {programName} -f -a \"{words}\"\n"
  | powershell =>
    s!"Register-ArgumentCompleter -Native -CommandName {programName} -ScriptBlock " ++
      "\x7b \"" ++ words ++ "\" -split \" \" \x7d\n"
  | zsh => s!"#compdef {programName}\ncompadd {words}\n"

end Shell

end Coffer.CommandLine
