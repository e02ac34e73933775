import Coffer.Error

/-!
# Costs

The three costs of key derivation as a container states them. Only costs within the limits of Argon2
can be stated, so that deriving a key never fails on account of them.
-/

set_option autoImplicit false
set_option relaxedAutoImplicit false

namespace Coffer

/-- Memory in KiB, passes over the memory, and lanes, within the limits of Argon2. -/
structure Costs where
  memory : UInt32
  time : UInt32
  lanes : UInt32
  admissible : Argon2.firstBroken? memory time lanes = none
  deriving DecidableEq, Repr

namespace Costs

def ofSettings (s : Argon2.Settings) : Costs := ⟨s.memory, s.time, s.lanes, s.within_limits⟩

/-- The settings of Argon2 for the costs, whose limits are checked anew. -/
def toSettings (c : Costs) : Except Error Argon2.Settings :=
  (Argon2.Settings.ofCosts c.memory c.time c.lanes).mapError .inadmissibleCosts

/-- The triple as costs, unless it breaks a limit. -/
def ofTriple (memory time lanes : UInt32) : Except Error Costs :=
  ((Argon2.Settings.ofCosts memory time lanes).map ofSettings).mapError .inadmissibleCosts

instance : Inhabited Costs := ⟨ofSettings default⟩

def toJson (c : Costs) : String :=
  "\x7b\"memoryCost\":" ++ toString c.memory.toNat ++ ",\"timeCost\":" ++ toString c.time.toNat ++
    ",\"parallelism\":" ++ toString c.lanes.toNat ++ "\x7d"

def describe (c : Costs) : String :=
  s!"Parameters used: memoryCost = {c.memory.toNat}; timeCost = {c.time.toNat}; " ++
    s!"parallelism = {c.lanes.toNat};"

end Costs

end Coffer
