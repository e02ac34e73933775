/-!
# Digits

The digits of natural numbers in bases up to sixteen, in lower case and without leading zeros.
-/

set_option autoImplicit false
set_option relaxedAutoImplicit false

namespace Coffer.Text

def hexadecimal (n : Nat) : String := String.ofList (Nat.toDigits 16 n)

end Coffer.Text
