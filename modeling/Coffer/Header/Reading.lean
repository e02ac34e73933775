import Coffer.Header.Basic

/-!
# Reading a header

A header is read from the front of a container, field by field; the first fault is reported. Every
access to the container is checked, and none of them is out of bounds.
-/

set_option autoImplicit false
set_option relaxedAutoImplicit false

namespace Coffer.Header

/-- Reads a header, checking one thing after another; no value stands for a byte out of bounds. -/
def read (data : Bytes) : Bytes.Checked Error Header := do
  Bytes.Checked.require (Layout.headerLength + Layout.tagLength ≤ data.length) (.ofKind .tooShort)
  let magic ← Layout.magic.read? data
  Bytes.Checked.require (magic = magicNumber) (.ofKind .wrongMagic)
  let version ← data.byte? Layout.version.start
  let format ← FormatVersion.ofNumber version
  Bytes.Checked.require (format = .current) (.unsupportedVersion format.number)
  let variantNumber ← Layout.variant.readWord? data
  let variant ← variantOfNumber variantNumber
  let argon2Number ← Layout.argon2Version.readWord? data
  let argon2Version ← argon2VersionOfNumber argon2Number
  let memory ← Layout.memory.readWord? data
  let time ← Layout.time.readWord? data
  let lanes ← Layout.lanes.readWord? data
  let costs ← Costs.ofTriple memory time lanes
  let salt ← Layout.salt.readOctets? 32 data
  let nonce ← Layout.nonce.readOctets? 24 data
  let mac ← Layout.mac.readOctets? 64 data
  return { scheme := { variant, version := argon2Version, costs }, salt, nonce, mac }

open Bytes.Checked in
/-- No byte out of bounds is asked for. -/
theorem inBounds_read (data : Bytes) : (read data).InBounds := by
  refine inBounds_require_bind fun long => ?_
  have octets {s : Span} {n : Nat} (h₁ : s.start ≤ s.stop) (h₂ : s.stop ≤ 148)
      (h₃ : s.stop - s.start = n) :
      (liftM (s.readOctets? n data) : Bytes.Checked Error (Octets n)).InBounds :=
    inBounds_access (Span.readOctets?_eq h₁ (Nat.le_trans h₂ (Nat.le_trans (by decide) long)) h₃)
  have word {s : Span} (h₁ : s.start ≤ s.stop) (h₂ : s.stop ≤ 148) (h₃ : s.stop - s.start = 4) :
      (liftM (s.readWord? data) : Bytes.Checked Error UInt32).InBounds :=
    inBounds_access (Span.readWord?_eq h₁ (Nat.le_trans h₂ (Nat.le_trans (by decide) long)) h₃)
  refine (inBounds_access (Span.read?_eq (by decide)
    (Nat.le_trans (by decide : 7 ≤ 164) long))).bind fun _ => ?_
  refine inBounds_require_bind fun _ => ?_
  refine (inBounds_access (List.getElem?_eq_getElem
    (Nat.lt_of_lt_of_le (by decide : 7 < 164) long))).bind fun _ => ?_
  refine (inBounds_refusal _).bind fun _ => ?_
  refine inBounds_require_bind fun _ => ?_
  refine (word (by decide) (by decide) (by decide)).bind fun _ => ?_
  refine (inBounds_refusal _).bind fun _ => ?_
  refine (word (by decide) (by decide) (by decide)).bind fun _ => ?_
  refine (inBounds_refusal _).bind fun _ => ?_
  refine (word (by decide) (by decide) (by decide)).bind fun _ => ?_
  refine (word (by decide) (by decide) (by decide)).bind fun _ => ?_
  refine (word (by decide) (by decide) (by decide)).bind fun _ => ?_
  refine (inBounds_refusal _).bind fun _ => ?_
  refine (octets (by decide) (by decide) (by decide)).bind fun _ => ?_
  refine (octets (by decide) (by decide) (by decide)).bind fun _ => ?_
  refine (octets (by decide) (by decide) (by decide)).bind fun _ => ?_
  exact inBounds_pure _

/-- The header at the front of a container. -/
def parse (data : Bytes) : Except Error Header := (read data).result (inBounds_read data)

end Coffer.Header
