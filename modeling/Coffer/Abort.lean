import Coffer.SystemError
import Coffer.Text.Utf8

/-!
# Aborting

The program aborts where it prints and its standard output takes no bytes. It reports why and where,
and as many of the calls that led there as the environment asks for.
-/

set_option autoImplicit false
set_option relaxedAutoImplicit false

namespace Coffer

/-- What is printed. -/
inductive Printer
  | costs (json : Bool)
  | variant
  | version
  deriving DecidableEq, Repr

/-- How many of the calls that led to an abort are reported. -/
inductive Trace
  | withheld
  | brief
  | full
  deriving DecidableEq, Repr

namespace Trace

/-- What the value of the environment variable asks for, if it is set. -/
def ofVariable : Option Bytes → Trace
  | none => withheld
  | some value =>
    if value = Utf8.encode "0" then withheld
    else if value = Utf8.encode "full" then full
    else brief

def describe (calls : String) : Trace → String
  | withheld => "note: run with `RUST_BACKTRACE=1` environment variable to display a backtrace\n"
  | brief => "stack backtrace:\n" ++ calls ++ "note: Some details are omitted, " ++
      "run with `RUST_BACKTRACE=full` for a verbose backtrace.\n"
  | full => "stack backtrace:\n" ++ calls

end Trace

/-- What an abort tells about the program that runs, beyond what the program itself decides. -/
structure Runtime where
  /-- The number of the thread, which the system chooses. -/
  thread : Nat := 0
  /-- Where the routine stands that prints. -/
  place : String := ""
  /-- The calls that led to a printer. -/
  calls : Trace → Printer → String := fun _ _ => ""
  /-- What is reported if a completion script cannot be written. -/
  scriptReport : Trace → SystemError → String := fun _ _ => ""

namespace Runtime

/-- What is reported if a printer cannot write. -/
def printReport (r : Runtime) (trace : Trace) (printer : Printer) (e : SystemError) : String :=
  s!"\nthread 'main' ({r.thread}) panicked at {r.place}:\n" ++
    s!"failed printing to stdout: {e.text}\n" ++ trace.describe (r.calls trace printer)

end Runtime

end Coffer
