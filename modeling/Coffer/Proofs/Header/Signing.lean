import Coffer.Header.Mac

/-!
# Signed headers

Signing touches nothing but the authentication code, and a header passes the check under a key
exactly if signing it with that key would change nothing.
-/

set_option autoImplicit false
set_option relaxedAutoImplicit false

namespace Coffer.Header

@[simp] theorem scheme_sign (h : Header) (key : Octets 64) : (h.sign key).scheme = h.scheme := rfl

@[simp] theorem salt_sign (h : Header) (key : Octets 64) : (h.sign key).salt = h.salt := rfl

@[simp] theorem nonce_sign (h : Header) (key : Octets 64) : (h.sign key).nonce = h.nonce := rfl

@[simp] theorem authenticatedBytes_sign (h : Header) (key : Octets 64) :
    (h.sign key).authenticatedBytes = h.authenticatedBytes := rfl

theorem verify_eq_ok_iff {h : Header} {key : Octets 64} :
    h.verify key = .ok () ↔ h.sign key = h := by
  unfold verify checkMac sign
  constructor
  · intro verified
    split at verified
    · rename_i same
      rw [same]
    · cases verified
  · intro signed
    exact if_pos (congrArg mac signed)

theorem verify_of_mac_eq {h : Header} {key : Octets 64}
    (own : h.mac = macOf key h.authenticatedBytes) : h.verify key = .ok () :=
  if_pos own.symm

theorem verify_of_mac_ne {h : Header} {key : Octets 64}
    (foreign : h.mac ≠ macOf key h.authenticatedBytes) :
    h.verify key = .error (.ofKind .wrongHeaderMac) :=
  if_neg foreign.symm

theorem verify_sign (h : Header) (key : Octets 64) : (h.sign key).verify key = .ok () :=
  verify_eq_ok_iff.2 rfl

/-- The code that a header carried before it was signed is lost. -/
theorem sign_unsigned (h : Header) (key : Octets 64) :
    (unsigned h.scheme h.salt h.nonce).sign key = h.sign key := rfl

end Coffer.Header
