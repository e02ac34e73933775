import Coffer.Bytes.Access
import Coffer.Error

/-!
# Caller's buffers

Operations that write into a buffer of the caller report how they ended and what the buffer holds
afterwards. The buffer has to have exactly the length of the result.
-/

set_option autoImplicit false
set_option relaxedAutoImplicit false

namespace Coffer

/-- What a call leaves in the caller's buffer, and how it ended. -/
structure Buffered (α : Type) where
  buffer : Bytes
  outcome : Except Error α

/-- Refuses a buffer that has another length than the result. -/
def checkLength (actual expected : Nat) : Except Error Unit :=
  if actual = expected then .ok () else .error (.wrongBufferLength actual expected)

end Coffer
