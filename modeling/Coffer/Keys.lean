import Coffer.Argon2.Hash
import Coffer.Scheme

/-!
# Derived keys

One run of Argon2 gives 96 bytes for a passphrase and a salt: the first 32 key the payload cipher,
the other 64 the header's authentication code.
-/

set_option autoImplicit false
set_option relaxedAutoImplicit false

namespace Coffer

/-- The keys of a container. -/
structure Keys where
  /-- The key of the payload cipher. -/
  payload : Octets 32
  /-- The key of the header's authentication code. -/
  header : Octets 64
  deriving DecidableEq

namespace Keys

abbrev payloadLength : Nat := 32

abbrev derivedLength : Nat := 96

def ofBytes (b : Octets derivedLength) : Keys where
  payload := ⟨b.val.take payloadLength, by simp [payloadLength, derivedLength]⟩
  header := ⟨b.val.drop payloadLength, by simp [payloadLength, derivedLength]⟩

def redacted : String :=
  "DerivedKey \x7b encrypt: \"[REDACTED]\", mac: \"[REDACTED]\" \x7d"

/-- The keys for a passphrase and a salt. -/
def derive (scheme : Scheme) (passphrase : Bytes) (salt : Octets 32) : Except Error Keys := do
  let settings ← scheme.costs.toSettings
  let bytes ← (Argon2.hash scheme.variant scheme.version settings derivedLength passphrase
    salt.val).mapError .derivationFailed
  return ofBytes bytes

end Keys

end Coffer
