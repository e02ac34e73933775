import Coffer.Error

/-!
# Result codes

The codes that callers from other languages see. Each kind of error has a code of its own, except
for the three that are reported as an error of no particular kind.
-/

set_option autoImplicit false
set_option relaxedAutoImplicit false

namespace Coffer.Interface

/-- How a call ended. -/
inductive Code
  | ok | error | tooShort | wrongMagic | unsupportedVersion | unknownVersion | unknownVariant
  | unknownArgon2Version | inadmissibleCosts | derivationFailed | wrongHeaderMac | wrongTag
  deriving DecidableEq, Repr

namespace Code

def all : List Code :=
  [ok, error, tooShort, wrongMagic, unsupportedVersion, unknownVersion, unknownVariant,
    unknownArgon2Version, inadmissibleCosts, derivationFailed, wrongHeaderMac, wrongTag]

def number : Code → Nat
  | ok => 0
  | error => 1
  | tooShort => 2
  | wrongMagic => 3
  | unsupportedVersion => 4
  | unknownVersion => 5
  | unknownVariant => 6
  | unknownArgon2Version => 7
  | inadmissibleCosts => 8
  | derivationFailed => 9
  | wrongHeaderMac => 10
  | wrongTag => 11

def ofNumber? (n : Nat) : Option Code := all[n]?

@[simp] theorem ofNumber?_number (c : Code) : ofNumber? c.number = some c := by
  cases c <;> rfl

def ofKind : Kind → Code
  | .tooShort => tooShort
  | .wrongMagic => wrongMagic
  | .unsupportedVersion => unsupportedVersion
  | .unknownVersion => unknownVersion
  | .unknownVariant => unknownVariant
  | .unknownArgon2Version => unknownArgon2Version
  | .inadmissibleCosts => inadmissibleCosts
  | .derivationFailed => derivationFailed
  | .wrongHeaderMac => wrongHeaderMac
  | .wrongTag => wrongTag
  | .passphraseUnavailable | .inputOutput | .general => error

def ofError (e : Error) : Code := ofKind e.kind

def ofOutcome : Except Error Unit → Code
  | .ok () => ok
  | .error e => ofError e

def message : Code → String
  | ok => "everything is ok"
  | error => Kind.general.detail
  | tooShort => Kind.tooShort.detail
  | wrongMagic => Kind.wrongMagic.detail
  | unsupportedVersion => Kind.unsupportedVersion.detail
  | unknownVersion => Kind.unknownVersion.detail
  | unknownVariant => Kind.unknownVariant.detail
  | unknownArgon2Version => Kind.unknownArgon2Version.detail
  | inadmissibleCosts => Kind.inadmissibleCosts.detail
  | derivationFailed => Kind.derivationFailed.detail
  | wrongHeaderMac => Kind.wrongHeaderMac.detail
  | wrongTag => Kind.wrongTag.detail

end Code

end Coffer.Interface
