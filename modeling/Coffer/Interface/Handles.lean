import Coffer.Header.Inspection
import Coffer.Interface.Code

/-!
# Handles on costs

Callers hold costs by handles: numbers that are given out in order and never reused. A handle holds
the default costs until costs have been read into it, and holds nothing once it is released.
-/

set_option autoImplicit false
set_option relaxedAutoImplicit false

namespace Coffer.Interface

/-- What each handle holds, by its number. -/
structure Handles where
  slots : List (Option Costs) := []

namespace Handles

def get? (hs : Handles) (handle : Nat) : Option Costs := hs.slots[handle]?.join

/-- A new handle, which holds the default costs. -/
def create (hs : Handles) : Nat × Handles :=
  (hs.slots.length, { slots := hs.slots ++ [some default] })

/-- Releases a handle; a missing one is ignored. -/
def release (hs : Handles) : Option Nat → Handles
  | none => hs
  | some handle => { slots := hs.slots.set handle none }

/-- Reads the costs of a container into a handle. -/
def read (hs : Handles) (data : Option Bytes) (handle : Option Nat) : Code × Handles :=
  match data, handle with
  | some data, some handle =>
    match Costs.ofContainer data with
    | .ok costs => (.ok, { slots := hs.slots.set handle (some costs) })
    | .error e => (.ofError e, hs)
  | _, _ => (.error, hs)

/-- What an accessor gives of the costs that a handle holds, and for a missing handle zero. -/
def value (hs : Handles) (part : Costs → UInt32) (handle : Option Nat) : UInt32 :=
  ((handle.bind hs.get?).map part).getD 0

def memory (hs : Handles) (handle : Option Nat) : UInt32 := hs.value Costs.memory handle

def time (hs : Handles) (handle : Option Nat) : UInt32 := hs.value Costs.time handle

def lanes (hs : Handles) (handle : Option Nat) : UInt32 := hs.value Costs.lanes handle

end Handles

end Coffer.Interface
