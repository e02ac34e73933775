import Coffer.Encryption
import Coffer.Interface.Code

/-!
# Calls with raw buffers

Encryption, decryption and messages for callers that hand over buffers of their own, any of which
may be missing. A call answers with a code and what the output buffer holds afterwards; a missing
buffer is an error, and nothing is written before all checks have passed.
-/

set_option autoImplicit false
set_option relaxedAutoImplicit false

namespace Coffer.Interface

/-- The code of a call, and the output buffer after it. -/
structure Reply where
  code : Code
  output : Option Bytes
  deriving DecidableEq

/-- The reply to a call on buffers that are all present. -/
def Reply.ofBuffered (b : Buffered Unit) : Reply := ⟨.ofOutcome b.outcome, some b.buffer⟩

/-- The scheme of a call: type, version and three costs of Argon2 as numbers. -/
structure Numbers where
  variant : UInt32 := (default : Argon2.Variant).number
  version : UInt32 := (default : Argon2.Version).number
  memory : UInt32 := (default : Costs).memory
  time : UInt32 := (default : Costs).time
  lanes : UInt32 := (default : Costs).lanes

namespace Numbers

def scheme (n : Numbers) : Except Error Scheme :=
  Scheme.ofNumbers n.variant n.version n.memory n.time n.lanes

end Numbers

/-- Encrypts into a buffer under the scheme that the numbers stand for. -/
def encryptInto (numbers : Numbers) (draw : Draw) (plaintext passphrase buffer : Bytes) :
    Buffered Unit :=
  match numbers.scheme with
  | .error e => ⟨buffer, .error e⟩
  | .ok scheme =>
    match Encryptor.new scheme draw plaintext passphrase with
    | .error e => ⟨buffer, .error e⟩
    | .ok encryptor => encryptor.writeInto buffer

/-- What the calls for encryption have in common, which differ in the numbers that they take. -/
def encrypt (numbers : Numbers) (draw : Draw) (plaintext passphrase output : Option Bytes) :
    Reply :=
  match plaintext, passphrase, output with
  | some plaintext, some passphrase, some buffer =>
    .ofBuffered (encryptInto numbers draw plaintext passphrase buffer)
  | _, _, output => ⟨.error, output⟩

/-- Encrypts at the default costs under the default kind of Argon2. -/
def encryptByDefault (draw : Draw) (plaintext passphrase output : Option Bytes) : Reply :=
  encrypt {} draw plaintext passphrase output

/-- Encrypts at the costs of the caller under the default kind of Argon2. -/
def encryptAtCosts (memory time lanes : UInt32) (draw : Draw)
    (plaintext passphrase output : Option Bytes) : Reply :=
  encrypt { memory, time, lanes } draw plaintext passphrase output

/-- Encrypts under a scheme of which the caller gives every number. -/
def encryptUnderScheme (variant version memory time lanes : UInt32) (draw : Draw)
    (plaintext passphrase output : Option Bytes) : Reply :=
  encrypt { variant, version, memory, time, lanes } draw plaintext passphrase output

def decryptInto (data passphrase buffer : Bytes) : Buffered Unit :=
  match Decryptor.prepare data passphrase with
  | .error e => ⟨buffer, .error e⟩
  | .ok decryptor => decryptor.writeInto buffer

def decrypt (data passphrase output : Option Bytes) : Reply :=
  match data, passphrase, output with
  | some data, some passphrase, some buffer => .ofBuffered (decryptInto data passphrase buffer)
  | _, _, output => ⟨.error, output⟩

/-- The message of a code, and the zero byte that ends it. -/
def terminated (c : Code) : Bytes := c.message.toUTF8.toList ++ [0]

/-- The length of the buffer that the message of a code needs. -/
def messageLength (c : Code) : Nat := (terminated c).length

/-- Writes the message of a code into the caller's buffer. -/
def writeMessage (c : Code) (output : Option Bytes) : Reply :=
  match output with
  | none => ⟨.error, none⟩
  | some buffer =>
    if buffer.length = messageLength c then ⟨.ok, some (terminated c)⟩ else ⟨.error, some buffer⟩

end Coffer.Interface
