import Coffer.Blake2b
import Coffer.Header.Basic

/-!
# Signing a header

The header carries a keyed BLAKE2b code over its first 84 bytes. Signing replaces the code, and
verifying compares it with the one for the key.
-/

set_option autoImplicit false
set_option relaxedAutoImplicit false

namespace Coffer.Header

/-- The authentication code of a header's covered bytes. -/
def macOf (key : Octets 64) (covered : Bytes) : Octets 64 := Blake2b.mac key covered

/-- Checks the authentication code of covered bytes. -/
def checkMac (key : Octets 64) (covered : Bytes) (mac : Octets 64) : Except Error Unit :=
  if macOf key covered = mac then .ok () else .error (.ofKind .wrongHeaderMac)

/-- The header with the authentication code for the key. -/
def sign (h : Header) (key : Octets 64) : Header := { h with mac := macOf key h.authenticatedBytes }

def verify (h : Header) (key : Octets 64) : Except Error Unit :=
  checkMac key h.authenticatedBytes h.mac

end Coffer.Header
