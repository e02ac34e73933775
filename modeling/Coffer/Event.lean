import Coffer.Path
import Coffer.Scheme

/-!
# Events

What the operations on files let an observer know about their progress. Nothing secret
is part of it.
-/

set_option autoImplicit false
set_option relaxedAutoImplicit false

namespace Coffer

/-- A step that has been taken, or is about to be taken. -/
inductive Event
  | derivingKeys (scheme : Scheme)
  | encryptedPayload (length : Nat)
  | decryptedPayload (length : Nat)
  | wroteFile (path : Path) (length : Nat)
  deriving DecidableEq

namespace Event

/-- The part of the program that the event is from. -/
def target : Event → String
  | derivingKeys _ => "abcrypt::kdf"
  | encryptedPayload _ | decryptedPayload _ => "abcrypt::secretcrypt"
  | wroteFile _ _ => "abcrypt::file_ops"

def fields : Event → List String
  | derivingKeys _ =>
    ["message", "argon2_type", "argon2_version", "memory_cost", "time_cost", "parallelism"]
  | encryptedPayload _ | decryptedPayload _ => ["message", "plaintext_len"]
  | wroteFile _ _ => ["message", "path", "len"]

def message : Event → String
  | derivingKeys scheme =>
    s!"deriving keys argon2_type={scheme.variant.name} argon2_version={scheme.version.name} " ++
      s!"memory_cost={scheme.costs.memory.toNat} time_cost={scheme.costs.time.toNat} " ++
      s!"parallelism={scheme.costs.lanes.toNat}"
  | encryptedPayload length => s!"encrypted payload plaintext_len={length}"
  | decryptedPayload length => s!"decrypted payload plaintext_len={length}"
  | wroteFile path length => s!"wrote output file path={path.display} len={length}"

def line (e : Event) : String := s!"DEBUG {e.target}: {e.message}\n"

end Event

end Coffer
