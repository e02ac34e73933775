import Coffer.Header.Reading

/-!
# Inspecting a container

What the header of a container names as its costs and as its kind of Argon2. No passphrase is
needed for that, and neither the authentication code nor the payload is looked at.
-/

set_option autoImplicit false
set_option relaxedAutoImplicit false

namespace Coffer

/-- The type and version of Argon2, without costs. -/
structure Argon2.Algorithm where
  variant : Argon2.Variant
  version : Argon2.Version
  deriving DecidableEq, Repr

def Scheme.algorithm (s : Scheme) : Argon2.Algorithm := ⟨s.variant, s.version⟩

/-- The costs that the header of a container names. -/
def Costs.ofContainer (data : Bytes) : Except Error Costs :=
  (Header.parse data).map (·.scheme.costs)

/-- The scheme that the header of a container names. -/
def Scheme.ofContainer (data : Bytes) : Except Error Scheme := (Header.parse data).map (·.scheme)

/-- The costs of a container, by themselves. -/
def inspectCosts (data : Bytes) : Except Error Costs := Costs.ofContainer data

/-- The type and version of Argon2 that the header of a container names. -/
def Argon2.Algorithm.ofContainer (data : Bytes) : Except Error Argon2.Algorithm :=
  (Header.parse data).map (·.scheme.algorithm)

end Coffer
