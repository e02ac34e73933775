import Coffer.Costs

/-!
# Schemes

A scheme says how keys are derived from a passphrase: with which type and version of Argon2, and at
which costs. Given as numbers, the type is checked before the version and the version before the
costs.
-/

set_option autoImplicit false
set_option relaxedAutoImplicit false

namespace Coffer

def variantOfNumber (n : UInt32) : Except Error Argon2.Variant :=
  match Argon2.Variant.ofNumber? n with
  | some v => .ok v
  | none => .error (.unknownVariant n)

def argon2VersionOfNumber (n : UInt32) : Except Error Argon2.Version :=
  match Argon2.Version.ofNumber? n with
  | some v => .ok v
  | none => .error (.unknownArgon2Version n)

/-- The type, version and costs of Argon2 under which keys are derived. -/
structure Scheme where
  variant : Argon2.Variant := default
  version : Argon2.Version := default
  costs : Costs := default
  deriving DecidableEq

instance : Inhabited Scheme := ⟨{}⟩

/-- The scheme given by five numbers, the first fault of which is reported. -/
def Scheme.ofNumbers (variant version memory time lanes : UInt32) : Except Error Scheme := do
  let variant ← variantOfNumber variant
  let version ← argon2VersionOfNumber version
  let costs ← Costs.ofTriple memory time lanes
  return { variant, version, costs }

end Coffer
