import Coffer.Bytes.Basic

/-!
# Poly1305

The one-time authenticator Poly1305: the message is read as a polynomial with one coefficient for
each 16 bytes, which is evaluated modulo a prime at a point that is part of the key.
-/

set_option autoImplicit false
set_option relaxedAutoImplicit false

namespace Coffer.Poly1305

def modulus : Nat := (1 <<< 130) - 5

/-- The point of evaluation: 22 bits of the first half of the key are cleared. -/
def point (key : Bytes) : Nat :=
  ofLittleEndian (key.take 16) &&& 0x0ffffffc0ffffffc0ffffffc0fffffff

/-- The coefficient for a piece of the message: a one stands above its bytes. -/
def coefficient (piece : Bytes) : Nat := ofLittleEndian (piece ++ [1])

/-- The value of the message polynomial at a point. -/
def evaluate (point : Nat) (message : Bytes) : Nat :=
  (chunks 16 message).foldl (fun sum piece => (sum + coefficient piece) * point % modulus) 0

/-- The 16-byte tag of a message under a one-time key of 32 bytes. -/
def tag (key message : Bytes) : Octets 16 :=
  ⟨littleEndian 16 (evaluate (point key) message + ofLittleEndian (key.drop 16)),
    length_littleEndian 16 _⟩

end Coffer.Poly1305
