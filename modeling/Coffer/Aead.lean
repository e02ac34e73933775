import Coffer.Buffer
import Coffer.ChaCha20
import Coffer.Poly1305

/-!
# Authenticated encryption of a payload

XChaCha20-Poly1305 with a detached tag and without associated data. A payload is opened only if its
tag is the one computed from it; otherwise the buffer is cleared.
-/

set_option autoImplicit false
set_option relaxedAutoImplicit false

namespace Coffer.Aead

/-- What is authenticated beside the ciphertext: nothing. -/
def associated : Bytes := []

/-- The text under the tag: associated data and ciphertext, padded, and their lengths. -/
def authenticated (ciphertext : Bytes) : Bytes :=
  padTo 16 associated ++ padTo 16 ciphertext ++
    littleEndian 8 associated.length ++ littleEndian 8 ciphertext.length

def tag (key : Octets 32) (nonce : Octets 24) (ciphertext : Bytes) : Octets 16 :=
  Poly1305.tag ((ChaCha20.longBlock key nonce 0).take 32) (authenticated ciphertext)

/-- Whether the cipher can take that many bytes. -/
def Fits (length : Nat) : Prop := length / 64 < UInt32.size - 1

instance (length : Nat) : Decidable (Fits length) :=
  inferInstanceAs (Decidable (length / 64 < UInt32.size - 1))

/-- Encrypts the buffer in place and gives the tag. -/
def sealInPlace (key : Octets 32) (nonce : Octets 24) (buffer : Bytes) : Buffered (Octets 16) :=
  if Fits buffer.length then
    let ciphertext := ChaCha20.apply key nonce buffer
    ⟨ciphertext, .ok (tag key nonce ciphertext)⟩
  else ⟨buffer, .error .payloadTooLong⟩

/-- Decrypts the buffer in place if the tag is right, and clears it otherwise. -/
def openInPlace (key : Octets 32) (nonce : Octets 24) (t : Octets 16) (buffer : Bytes) :
    Buffered Unit :=
  if Fits buffer.length ∧ tag key nonce buffer = t then
    ⟨ChaCha20.apply key nonce buffer, .ok ()⟩
  else ⟨List.replicate buffer.length 0, .error (.ofKind .wrongTag)⟩

def encrypt (key : Octets 32) (nonce : Octets 24) (plaintext : Bytes) :
    Except Error (Bytes × Octets 16) :=
  let sealed := sealInPlace key nonce plaintext
  sealed.outcome.map fun t => (sealed.buffer, t)

/-- The plaintext of a ciphertext whose tag is right. -/
def decrypt (key : Octets 32) (nonce : Octets 24) (t : Octets 16) (ciphertext : Bytes) :
    Except Error Bytes :=
  let opened := openInPlace key nonce t ciphertext
  opened.outcome.map fun _ => opened.buffer

end Coffer.Aead
