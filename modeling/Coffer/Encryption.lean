import Coffer.Aead
import Coffer.Container
import Coffer.Header.Mac
import Coffer.Keys

/-!
# Encryption and decryption

An encryptor derives the keys and signs the header once, and then writes the same container as often
as it is asked to. A decryptor reads the header, derives the keys and checks the header's
authentication code before it looks at the payload, so a wrong passphrase is told apart from a
damaged payload.
-/

set_option autoImplicit false
set_option relaxedAutoImplicit false

namespace Coffer

/-- What an encryption draws at random. -/
structure Draw where
  salt : Octets 32
  nonce : Octets 24
  deriving DecidableEq

/-- A plaintext that is ready to be encrypted. -/
structure Encryptor where
  /-- The signed header. -/
  header : Header
  keys : Keys
  plaintext : Bytes

namespace Encryptor

def prepare (header : Header) (plaintext passphrase : Bytes) : Except Error Encryptor := do
  let keys ← Keys.derive header.scheme passphrase header.salt
  return { header := header.sign keys.header, keys, plaintext }

/-- Prepares under a fresh header. -/
def new (scheme : Scheme) (draw : Draw) (plaintext passphrase : Bytes) : Except Error Encryptor :=
  prepare (.unsigned scheme draw.salt draw.nonce) plaintext passphrase

def length (e : Encryptor) : Nat := Container.lengthFor e.plaintext.length

/-- Writes the container into a buffer, which has to be as long as the container. -/
def writeInto (e : Encryptor) (buffer : Bytes) : Buffered Unit :=
  match checkLength buffer.length e.length with
  | .error error => ⟨buffer, .error error⟩
  | .ok () =>
    match Aead.encrypt e.keys.payload e.header.nonce e.plaintext with
    | .error error => ⟨buffer, .error error⟩
    | .ok (ciphertext, tag) => Container.writeInto { header := e.header, ciphertext, tag } buffer

def toBytes (e : Encryptor) : Except Error Bytes :=
  let written := e.writeInto (List.replicate e.length 0)
  written.outcome.map fun _ => written.buffer

end Encryptor

/-- A container whose header is known to be authentic. -/
structure Decryptor where
  container : Container
  keys : Keys

namespace Decryptor

/-- Reads the container, derives the keys and checks the header's authentication code. -/
def prepare (data passphrase : Bytes) : Except Error Decryptor := do
  let container ← Container.ofBytes data
  let keys ← Keys.derive container.header.scheme passphrase container.header.salt
  container.header.verify keys.header
  return { container, keys }

def length (d : Decryptor) : Nat := d.container.ciphertext.length

/-- The costs that the keys were derived at. -/
def costs (d : Decryptor) : Costs := d.container.header.scheme.costs

def load? (d : Decryptor) (buffer : Bytes) : Option Bytes := buffer.replace? d.container.ciphertext

/-- Writes the plaintext into a buffer, which has to be as long as the plaintext; a payload that
is not authentic leaves zeros. -/
def writeInto (d : Decryptor) (buffer : Bytes) : Buffered Unit :=
  if h : buffer.length = d.length then
    Aead.openInPlace d.keys.payload d.container.header.nonce d.container.tag
      ((d.load? buffer).get (by rw [load?, Bytes.replace?_of_length h.symm]; rfl))
  else ⟨buffer, .error (.wrongBufferLength buffer.length d.length)⟩

def toBytes (d : Decryptor) : Except Error Bytes :=
  let written := d.writeInto (List.replicate d.length 0)
  written.outcome.map fun _ => written.buffer

end Decryptor

/-- Encrypts under a given header, which is signed. -/
def encryptUnder (header : Header) (plaintext passphrase : Bytes) : Except Error Bytes := do
  let encryptor ← Encryptor.prepare header plaintext passphrase
  encryptor.toBytes

/-- Encrypts under a scheme with what was drawn at random. -/
def encryptWith (scheme : Scheme) (draw : Draw) (plaintext passphrase : Bytes) :
    Except Error Bytes := do
  let encryptor ← Encryptor.new scheme draw plaintext passphrase
  encryptor.toBytes

/-- Encrypts at the given costs under Argon2id, version 0x13. -/
def encryptAt (costs : Costs) (draw : Draw) (plaintext passphrase : Bytes) : Except Error Bytes :=
  encryptWith { costs } draw plaintext passphrase

/-- Encrypts under the default scheme. -/
def encrypt (draw : Draw) (plaintext passphrase : Bytes) : Except Error Bytes :=
  encryptWith default draw plaintext passphrase

/-- Encrypts at the given costs under Argon2id, version 0x13, with a given salt and nonce. -/
def encryptDeterministic (costs : Costs) (salt : Octets 32) (nonce : Octets 24)
    (plaintext passphrase : Bytes) : Except Error Bytes :=
  encryptUnder (.unsigned { costs } salt nonce) plaintext passphrase

/-- Decrypts a container. -/
def decrypt (data passphrase : Bytes) : Except Error Bytes := do
  let decryptor ← Decryptor.prepare data passphrase
  decryptor.toBytes

end Coffer
