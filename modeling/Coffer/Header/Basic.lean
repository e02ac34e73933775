import Coffer.Header.Layout
import Coffer.Scheme

/-!
# The header of a container

The header names the format version, the type, version and costs of Argon2, a salt and a nonce, and
carries an authentication code over all of these. Its bytes are its fields, one after another.
-/

set_option autoImplicit false
set_option relaxedAutoImplicit false

namespace Coffer

/-- The versions of the container format that are known. -/
inductive FormatVersion
  | v0 | v1
  deriving DecidableEq, Repr

namespace FormatVersion

/-- The only version that is read and written. -/
def current : FormatVersion := v1

instance : Inhabited FormatVersion := ⟨current⟩

def number : FormatVersion → UInt8
  | v0 => 0
  | v1 => 1

def ofNumber (n : UInt8) : Except Error FormatVersion :=
  match n with
  | 0 => .ok v0
  | 1 => .ok v1
  | n => .error (.unknownVersion n)

end FormatVersion

/-- The seven bytes at the start of every container: the letters "abcrypt". -/
def magicNumber : Bytes := [0x61, 0x62, 0x63, 0x72, 0x79, 0x70, 0x74]

/-- The header of a container. -/
structure Header where
  scheme : Scheme
  salt : Octets 32
  nonce : Octets 24
  /-- The authentication code; zeros as long as the header is not signed. -/
  mac : Octets 64
  deriving DecidableEq

namespace Header

/-- The version of the format that the header is written in. -/
def formatVersion (_ : Header) : FormatVersion := .current

/-- The header with the given fields, not yet signed. -/
def unsigned (scheme : Scheme) (salt : Octets 32) (nonce : Octets 24) : Header :=
  { scheme, salt, nonce, mac := .zero 64 }

/-- The fields that the authentication code covers, each at its place. -/
def authenticatedFields (h : Header) : List (Span × Bytes) :=
  [(Layout.magic, magicNumber),
    (Layout.version, [h.formatVersion.number]),
    (Layout.variant, wordBytes h.scheme.variant.number),
    (Layout.argon2Version, wordBytes h.scheme.version.number),
    (Layout.memory, wordBytes h.scheme.costs.memory),
    (Layout.time, wordBytes h.scheme.costs.time),
    (Layout.lanes, wordBytes h.scheme.costs.lanes),
    (Layout.salt, h.salt.val),
    (Layout.nonce, h.nonce.val)]

theorem place?_authenticatedFields (h : Header) :
    Layout.place? h.authenticatedFields (List.replicate Layout.authenticatedLength 0) =
      some (h.authenticatedFields.flatMap Prod.snd) := by
  have length : (h.authenticatedFields.flatMap Prod.snd).length = 84 := by
    simp [authenticatedFields, magicNumber]
  have placed := @Layout.place?_eq h.authenticatedFields []
    (List.replicate Layout.authenticatedLength 0)
    (by simp [authenticatedFields, Layout.Adjacent, Layout.magic, Layout.version, Layout.variant,
      Layout.argon2Version, Layout.memory, Layout.time, Layout.lanes, Layout.salt, Layout.nonce,
      magicNumber])
    (by simp [length, Layout.authenticatedLength])
  simpa [length, Layout.authenticatedLength] using placed

/-- The 84 bytes that the authentication code covers. -/
def authenticatedBytes (h : Header) : Bytes :=
  (Layout.place? h.authenticatedFields (List.replicate Layout.authenticatedLength 0)).get
    (by rw [place?_authenticatedFields]; rfl)

/-- The covered bytes are the fields, one after another. -/
theorem authenticatedBytes_eq (h : Header) :
    h.authenticatedBytes = h.authenticatedFields.flatMap Prod.snd :=
  Option.get_of_eq_some _ (place?_authenticatedFields h)

@[simp] theorem length_authenticatedBytes (h : Header) : h.authenticatedBytes.length = 84 := by
  simp [authenticatedBytes_eq, authenticatedFields, magicNumber]

/-- The covered bytes and the authentication code, each at its place. -/
def fields (h : Header) : List (Span × Bytes) :=
  [(⟨0, Layout.authenticatedLength⟩, h.authenticatedBytes), (Layout.mac, h.mac.val)]

theorem place?_fields (h : Header) :
    Layout.place? h.fields (List.replicate Layout.headerLength 0) =
      some (h.authenticatedBytes ++ h.mac.val) := by
  have placed := @Layout.place?_eq h.fields [] (List.replicate Layout.headerLength 0)
    (by simp [fields, Layout.Adjacent, Layout.authenticatedLength, Layout.mac])
    (by simp [fields, Layout.headerLength])
  simpa [fields, Layout.headerLength] using placed

/-- The 148 bytes of the header. -/
def toBytes (h : Header) : Bytes :=
  (Layout.place? h.fields (List.replicate Layout.headerLength 0)).get
    (by rw [place?_fields]; rfl)

/-- The header is its covered bytes and the authentication code. -/
theorem toBytes_eq (h : Header) : h.toBytes = h.authenticatedBytes ++ h.mac.val :=
  Option.get_of_eq_some _ (place?_fields h)

@[simp] theorem length_toBytes (h : Header) : h.toBytes.length = 148 := by
  simp [toBytes_eq]

end Header

end Coffer
