import Coffer.Argon2.Settings
import Coffer.Text.Digits

/-!
# Errors

What can go wrong, how it is said, and who can do something about it. An error is a failure with any
number of contexts around it; each context names the error inside it as its source. Contexts keep
the kind and the category of the failure.
-/

set_option autoImplicit false
set_option relaxedAutoImplicit false

namespace Coffer

/-- Who can act on an error: the user, or nobody outside of the program. -/
inductive Category
  | internal | user
  deriving DecidableEq, Repr

/-- What went wrong. -/
inductive Kind
  | tooShort | wrongMagic | unsupportedVersion | unknownVersion
  | unknownVariant | unknownArgon2Version | inadmissibleCosts | derivationFailed
  | wrongHeaderMac | wrongTag | passphraseUnavailable | inputOutput | general
  deriving DecidableEq, Repr

namespace Kind

/-- The general description of a kind. -/
def detail : Kind → String
  | tooShort => "encrypted data is shorter than 164 bytes"
  | wrongMagic => "invalid magic number"
  | unsupportedVersion => "unsupported version number"
  | unknownVersion => "unknown version number"
  | unknownVariant => "invalid Argon2 type"
  | unknownArgon2Version => "invalid Argon2 version"
  | inadmissibleCosts => "invalid Argon2 parameters"
  | derivationFailed => "invalid Argon2 context"
  | wrongHeaderMac => "invalid header MAC"
  | wrongTag => "invalid ciphertext MAC"
  | passphraseUnavailable => "passphrase unavailable"
  | inputOutput => "I/O error"
  | general => "general error"

/-- The category of an error of which nothing but the kind is known. -/
def category : Kind → Category
  | derivationFailed | inputOutput | general => .internal
  | _ => .user

/-- Whether the header itself is at fault, so that no passphrase could help. -/
def isStructural : Kind → Bool
  | tooShort | wrongMagic | unsupportedVersion | unknownVersion
  | unknownVariant | unknownArgon2Version | inadmissibleCosts => true
  | _ => false

end Kind

/-- A reason from outside of the library, which may have a reason of its own. -/
inductive Cause
  | plain (text : String)
  | because (text : String) (source : Cause)
  deriving DecidableEq, Repr

/-- A failure, or an error seen in the context of what was being done. -/
inductive Error
  | failure (category : Category) (kind : Kind) (message : String) (cause : Option Cause)
  | context (message : String) (inner : Error)
  deriving DecidableEq, Repr

/-- What an error may be put down to. -/
inductive Source
  | error (e : Error)
  | cause (c : Cause)
  deriving DecidableEq, Repr

namespace Cause

def text : Cause → String
  | plain text => text
  | because text _ => text

/-- All texts, from the reason itself to the last one behind it. -/
def texts : Cause → List String
  | plain text => [text]
  | because text source => text :: source.texts

end Cause

namespace Error

/-- The error of which nothing but the kind is known. -/
def ofKind (k : Kind) : Error := .failure k.category k k.detail none

def kind : Error → Kind
  | failure _ kind _ _ => kind
  | context _ inner => inner.kind

def category : Error → Category
  | failure category _ _ _ => category
  | context _ inner => inner.category

/-- What the error itself says. -/
def message : Error → String
  | failure _ _ message _ => message
  | context message _ => message

/-- What the error is put down to. -/
def source : Error → Option Source
  | failure _ _ _ cause => cause.map .cause
  | context _ inner => some (.error inner)

def withContext (e : Error) (message : String) : Error := .context message e

/-- What the error says, and everything that it is put down to, outermost first. -/
def texts : Error → List String
  | failure _ _ message none => [message]
  | failure _ _ message (some cause) => message :: cause.texts
  | context message inner => message :: inner.texts

/-- Everything that the error is put down to, nearest first. -/
def chain (e : Error) : List String := e.texts.tail

def render (e : Error) : String := e.chain.foldl (fun line text => line ++ ": " ++ text) e.message

@[simp] theorem kind_withContext (e : Error) (m : String) : (e.withContext m).kind = e.kind := rfl

@[simp] theorem category_withContext (e : Error) (m : String) :
    (e.withContext m).category = e.category := rfl

@[simp] theorem message_withContext (e : Error) (m : String) :
    (e.withContext m).message = m := rfl

@[simp] theorem texts_withContext (e : Error) (m : String) :
    (e.withContext m).texts = m :: e.texts := rfl

end Error

namespace Source

def text : Source → String
  | error e => e.message
  | cause c => c.text

def next : Source → Option Source
  | error e => e.source
  | cause (.plain _) => none
  | cause (.because _ source) => some (.cause source)

/-- The texts of the source and of all behind it. -/
def texts : Source → List String
  | error e => e.texts
  | cause c => c.texts

end Source

namespace Error

/-! ### The failures of the library -/

def unknownVersion (n : UInt8) : Error :=
  .failure .user .unknownVersion s!"unknown version number `{n.toNat}`" none

/-- The number is a version of the format that is no longer read. -/
def unsupportedVersion (n : UInt8) : Error :=
  .failure .user .unsupportedVersion s!"unsupported version number `{n.toNat}`" none

def unknownVariant (n : UInt32) : Error :=
  .failure .user .unknownVariant s!"invalid Argon2 type `{n.toNat}`" none

def unknownArgon2Version (n : UInt32) : Error :=
  .failure .user .unknownArgon2Version
    s!"invalid Argon2 version `0x{Text.hexadecimal n.toNat}`" none

def inadmissibleCosts (r : Argon2.Refusal) : Error :=
  .failure .user .inadmissibleCosts Kind.inadmissibleCosts.detail (some (.plain r.message))

def derivationFailed (r : Argon2.Refusal) : Error :=
  .failure .internal .derivationFailed Kind.derivationFailed.detail (some (.plain r.message))

/-- The payload exceeds what the cipher can take. -/
def payloadTooLong : Error :=
  .failure .internal .general "payload too long to encrypt" none

/-- The caller's buffer has another length than the result. -/
def wrongBufferLength (actual expected : Nat) : Error :=
  .failure .user .general s!"output buffer is {actual} bytes, expected {expected}" none

end Error

end Coffer
