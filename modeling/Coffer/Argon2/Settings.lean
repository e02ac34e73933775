/-!
# Settings of Argon2

The three types and two versions of Argon2, and the limits on its three costs. Limits are checked
in a fixed order, so a triple of costs that breaks several of them is refused for the first.
-/

set_option autoImplicit false
set_option relaxedAutoImplicit false

namespace Coffer.Argon2

/-- How memory is addressed: by the data, independently of it, or first the one and then
the other. -/
inductive Variant
  | argon2d | argon2i | argon2id
  deriving DecidableEq, Repr

namespace Variant

def number : Variant → UInt32
  | argon2d => 0
  | argon2i => 1
  | argon2id => 2

def ofNumber? : UInt32 → Option Variant
  | 0 => some argon2d
  | 1 => some argon2i
  | 2 => some argon2id
  | _ => none

/-- The name for people. -/
def name : Variant → String
  | argon2d => "Argon2d"
  | argon2i => "Argon2i"
  | argon2id => "Argon2id"

/-- The identifier in hash strings and on command lines. -/
def identifier : Variant → String
  | argon2d => "argon2d"
  | argon2i => "argon2i"
  | argon2id => "argon2id"

instance : Inhabited Variant := ⟨argon2id⟩

@[simp] theorem ofNumber?_number (v : Variant) : ofNumber? v.number = some v := by
  cases v <;> rfl

theorem ofNumber?_eq_some_iff {n : UInt32} {v : Variant} :
    ofNumber? n = some v ↔ n = v.number := by
  constructor
  · intro h
    unfold ofNumber? at h
    split at h <;> cases h <;> rfl
  · rintro rfl
    exact ofNumber?_number v

end Variant

/-- The older version overwrites memory on every pass, the newer one adds to it after the first. -/
inductive Version
  | v0x10 | v0x13
  deriving DecidableEq, Repr

namespace Version

def number : Version → UInt32
  | v0x10 => 0x10
  | v0x13 => 0x13

def ofNumber? : UInt32 → Option Version
  | 0x10 => some v0x10
  | 0x13 => some v0x13
  | _ => none

/-- The number in hexadecimal. -/
def name : Version → String
  | v0x10 => "0x10"
  | v0x13 => "0x13"

instance : Inhabited Version := ⟨v0x13⟩

@[simp] theorem ofNumber?_number (v : Version) : ofNumber? v.number = some v := by
  cases v <;> rfl

theorem ofNumber?_eq_some_iff {n : UInt32} {v : Version} :
    ofNumber? n = some v ↔ n = v.number := by
  constructor
  · intro h
    unfold ofNumber? at h
    split at h <;> cases h <;> rfl
  · rintro rfl
    exact ofNumber?_number v

end Version

/-- Why an input is refused. -/
inductive Refusal
  | memoryTooSmall | timeTooSmall | tooFewThreads | tooManyThreads | passwordTooLong
  deriving DecidableEq, Repr

def Refusal.message : Refusal → String
  | memoryTooSmall => "memory cost is too small"
  | timeTooSmall => "time cost is too small"
  | tooFewThreads => "not enough threads"
  | tooManyThreads => "too many threads"
  | passwordTooLong => "password is too long"

def maxLanes : Nat := 0xffffff

def maxPasswordLength : Nat := UInt32.size - 1

/-- The first limit that a triple of costs breaks. -/
def firstBroken? (memory time lanes : UInt32) : Option Refusal :=
  if memory.toNat < 8 ∨ memory.toNat < 8 * lanes.toNat then some .memoryTooSmall
  else if time.toNat < 1 then some .timeTooSmall
  else if lanes.toNat < 1 then some .tooFewThreads
  else if maxLanes < lanes.toNat then some .tooManyThreads
  else none

/-- The costs of a hash: memory in KiB, passes over the memory, and lanes, all within
their limits. -/
structure Settings where
  memory : UInt32
  time : UInt32
  lanes : UInt32
  within_limits : firstBroken? memory time lanes = none
  deriving Repr

/-- The costs as settings, unless they break a limit. -/
def Settings.ofCosts (memory time lanes : UInt32) : Except Refusal Settings :=
  match h : firstBroken? memory time lanes with
  | some refusal => .error refusal
  | none => .ok { memory, time, lanes, within_limits := h }

/-- The recommended costs: 19 MiB, two passes, one lane. -/
instance : Inhabited Settings :=
  ⟨{ memory := 19456, time := 2, lanes := 1, within_limits := by decide }⟩

end Coffer.Argon2
