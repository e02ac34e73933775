import Coffer.Proofs.Header.Codec

/-!
# The faults of a header

Nine things can be wrong with a byte string that is read as a header, and they are looked for in a
fixed order: the length, the magic number, the versions and the type, and the limits of the costs.
Reading succeeds exactly if nothing is wrong, and otherwise it fails with the error of the first
fault, whatever stands behind it.
-/

set_option autoImplicit false
set_option relaxedAutoImplicit false

namespace Coffer.Header

/-- The number that `width` bytes stand for, least significant first. -/
def numberAt (data : Bytes) (start width : Nat) : Nat :=
  ofLittleEndian ((data.drop start).take width)

/-- What can be wrong with a header, in the order in which it is looked for. -/
inductive Fault
  | length | magic | version | variant | argon2Version
  | memoryTooSmall | timeTooSmall | tooFewThreads | tooManyThreads
  deriving DecidableEq, Repr

namespace Fault

def all : List Fault :=
  [length, magic, version, variant, argon2Version,
    memoryTooSmall, timeTooSmall, tooFewThreads, tooManyThreads]

/-- Whether a byte string has a fault. -/
def Stands (data : Bytes) : Fault → Prop
  | length => data.length < 164
  | magic => data.take 7 ≠ magicNumber
  | version => numberAt data 7 1 ≠ 1
  | variant => 2 < numberAt data 8 4
  | argon2Version => numberAt data 12 4 ≠ 0x10 ∧ numberAt data 12 4 ≠ 0x13
  | memoryTooSmall => numberAt data 16 4 < 8 ∨ numberAt data 16 4 < 8 * numberAt data 24 4
  | timeTooSmall => numberAt data 20 4 < 1
  | tooFewThreads => numberAt data 24 4 < 1
  | tooManyThreads => 0xffffff < numberAt data 24 4

instance (data : Bytes) : DecidablePred (Stands data)
  | length => inferInstanceAs (Decidable (_ < _))
  | magic => inferInstanceAs (Decidable (_ ≠ _))
  | version => inferInstanceAs (Decidable (_ ≠ _))
  | variant => inferInstanceAs (Decidable (_ < _))
  | argon2Version => inferInstanceAs (Decidable (_ ∧ _))
  | memoryTooSmall => inferInstanceAs (Decidable (_ ∨ _))
  | timeTooSmall => inferInstanceAs (Decidable (_ < _))
  | tooFewThreads => inferInstanceAs (Decidable (_ < _))
  | tooManyThreads => inferInstanceAs (Decidable (_ < _))

/-- The first fault of a byte string. -/
def first? (data : Bytes) : Option Fault := all.find? (Stands data ·)

def kind (data : Bytes) : Fault → Kind
  | length => .tooShort
  | magic => .wrongMagic
  | version => if numberAt data 7 1 = 0 then .unsupportedVersion else .unknownVersion
  | variant => .unknownVariant
  | argon2Version => .unknownArgon2Version
  | memoryTooSmall | timeTooSmall | tooFewThreads | tooManyThreads => .inadmissibleCosts

/-- What is said about a fault: a version of the format and a type are named in decimal, a version
of Argon2 in hexadecimal. -/
def message (data : Bytes) : Fault → String
  | length => "encrypted data is shorter than 164 bytes"
  | magic => "invalid magic number"
  | version =>
    if numberAt data 7 1 = 0 then "unsupported version number `0`"
    else s!"unknown version number `{numberAt data 7 1}`"
  | variant => s!"invalid Argon2 type `{numberAt data 8 4}`"
  | argon2Version => s!"invalid Argon2 version `0x{Text.hexadecimal (numberAt data 12 4)}`"
  | memoryTooSmall | timeTooSmall | tooFewThreads | tooManyThreads => "invalid Argon2 parameters"

/-- The limit that is broken. -/
def cause? : Fault → Option Cause
  | length | magic | version | variant | argon2Version => none
  | memoryTooSmall => some (.plain "memory cost is too small")
  | timeTooSmall => some (.plain "time cost is too small")
  | tooFewThreads => some (.plain "not enough threads")
  | tooManyThreads => some (.plain "too many threads")

/-- The error for a fault. -/
def error (data : Bytes) (f : Fault) : Error :=
  .failure .user (kind data f) (message data f) f.cause?

variable {data : Bytes} {f : Fault}

theorem mem_all (f : Fault) : f ∈ all := by
  cases f <;> decide

theorem first?_eq_none_iff : first? data = none ↔ ∀ f, ¬ Stands data f := by
  unfold first?
  simp only [List.find?_eq_none, decide_eq_true_eq, mem_all, forall_const]

theorem first?_eq_some_iff :
    first? data = some f ↔ Stands data f ∧ ∀ g ∈ all.takeWhile (· ≠ f), ¬ Stands data g := by
  unfold first?
  rw [find?_eq_some_iff_takeWhile]
  exact and_iff_right (mem_all f)

/-- Every error is about the header itself and one that the user can do something about. -/
theorem isStructural_error (data : Bytes) (f : Fault) :
    (f.error data).kind.isStructural = true ∧ (f.error data).category = .user := by
  refine ⟨?_, rfl⟩
  cases f with
  | version =>
    change Kind.isStructural (if _ then .unsupportedVersion else .unknownVersion) = true
    split <;> rfl
  | _ => rfl

end Fault

variable {data : Bytes}

/-! ### Fields as numbers -/

theorem numberAt_eq (s : Span) (data : Bytes) :
    numberAt data s.start (s.stop - s.start) = ofLittleEndian (s.of data) := by
  rw [numberAt, Span.of, List.drop_take]

/-- A field of four bytes is the word of the number at its place. -/
theorem toNat_wordAt {s : Span} (long : 164 ≤ data.length) (inside : s.stop ≤ 164)
    (width : s.stop - s.start = 4) :
    (wordOfBytes (s.of data)).toNat = numberAt data s.start 4 := by
  have bound := ofLittleEndian_lt (s.of data)
  rw [Span.length_of (Nat.le_trans inside long), width] at bound
  rw [← width, numberAt_eq, wordOfBytes, UInt32.toNat_ofNat']
  exact Nat.mod_eq_of_lt bound

/-- The version is the number of its byte. -/
theorem numberAt_version (long : 164 ≤ data.length) :
    numberAt data 7 1 = (data.get ⟨7, Nat.lt_of_lt_of_le (by decide) long⟩).toNat := by
  have stands : numberAt data 7 1 = ofLittleEndian (Layout.version.of data) :=
    numberAt_eq Layout.version data
  rw [stands, Layout.version_of_eq long]
  rfl

/-! ### Reading -/

/-- Behind the right magic number and version, the scheme decides. -/
theorem parse_eq_map (long : 164 ≤ data.length) (magic : data.take 7 = magicNumber)
    (version : numberAt data 7 1 = 1) :
    parse data = (schemeOf data).map (complete data long) := by
  have byte : data.get ⟨7, Nat.lt_of_lt_of_le (by decide) long⟩ = 1 :=
    UInt8.toNat_inj.1 ((numberAt_version long).symm.trans version)
  have letters : Layout.magic.of data = magicNumber := magic
  have current : FormatVersion.ofNumber 1 = .ok .current := rfl
  rw [parse_of_long long, stated_eq_map long, statedScheme, if_pos letters, byte, current, ok_bind,
    if_pos rfl]

namespace Fault

variable {f : Fault}

/-- Nothing is wrong with what stands before the scheme. -/
structure FrontClear (data : Bytes) : Prop where
  length : ¬ Stands data length
  magic : ¬ Stands data magic
  version : ¬ Stands data version

theorem FrontClear.long (front : FrontClear data) : 164 ≤ data.length :=
  Nat.le_of_not_lt front.length

theorem FrontClear.parse_eq_map (front : FrontClear data) :
    parse data = (schemeOf data).map (complete data front.long) :=
  Header.parse_eq_map front.long (Decidable.of_not_not front.magic)
    (Decidable.of_not_not front.version)

theorem FrontClear.parse_of_error {e : Error} (front : FrontClear data)
    (refused : schemeOf data = .error e) : parse data = .error e := by
  rw [front.parse_eq_map, refused]
  rfl

/-- Of the foreign versions, zero is no longer supported, and the others are not known. -/
theorem parse_of_version (long : 164 ≤ data.length) (letters : ¬ Stands data magic)
    (foreign : Stands data version) : parse data = .error (error data version) := by
  have number := numberAt_version long
  have refused := parse_of_foreign_version long (Decidable.of_not_not letters)
    (Layout.version_of_eq long) fun current => foreign (number.trans (congrArg UInt8.toNat current))
  refine refused.trans ?_
  unfold FormatVersion.refusal error kind message
  rw [number]
  by_cases zero : data.get ⟨7, Nat.lt_of_lt_of_le (by decide) long⟩ = 0
  · rw [if_pos zero, zero]
    rfl
  · have positive : (data.get ⟨7, Nat.lt_of_lt_of_le (by decide) long⟩).toNat ≠ 0 :=
      fun none => zero (UInt8.toNat_inj.1 none)
    rw [if_neg zero, if_neg positive, if_neg positive]
    rfl

theorem known_of_clear (long : 164 ≤ data.length) (clear : ¬ Stands data variant) :
    (wordOfBytes (Layout.variant.of data)).toNat ≤ 2 := by
  rw [toNat_wordAt long (by decide) rfl]
  exact Nat.le_of_not_lt clear

theorem current_of_clear (long : 164 ≤ data.length) (clear : ¬ Stands data argon2Version) :
    (wordOfBytes (Layout.argon2Version.of data)).toNat = 0x10 ∨
      (wordOfBytes (Layout.argon2Version.of data)).toNat = 0x13 := by
  rw [toNat_wordAt long (by decide) rfl]
  exact Decidable.or_iff_not_not_and_not.2 clear

/-- The limits are looked at in the order of their faults. -/
theorem firstBroken?_eq (long : 164 ≤ data.length) :
    Argon2.firstBroken? (wordOfBytes (Layout.memory.of data)) (wordOfBytes (Layout.time.of data))
        (wordOfBytes (Layout.lanes.of data)) =
      if Stands data memoryTooSmall then some .memoryTooSmall
      else if Stands data timeTooSmall then some .timeTooSmall
      else if Stands data tooFewThreads then some .tooFewThreads
      else if Stands data tooManyThreads then some .tooManyThreads
      else none := by
  unfold Argon2.firstBroken?
  rw [toNat_wordAt (s := Layout.memory) long (by decide) rfl,
    toNat_wordAt (s := Layout.time) long (by decide) rfl,
    toNat_wordAt (s := Layout.lanes) long (by decide) rfl]
  rfl

/-- The limit that a fault breaks. -/
def limit? : Fault → Option Argon2.Refusal
  | length | magic | version | variant | argon2Version => none
  | memoryTooSmall => some .memoryTooSmall
  | timeTooSmall => some .timeTooSmall
  | tooFewThreads => some .tooFewThreads
  | tooManyThreads => some .tooManyThreads

theorem firstBroken?_of_first {refusal : Argon2.Refusal} (long : 164 ≤ data.length)
    (first : first? data = some f) (limit : f.limit? = some refusal) :
    Argon2.firstBroken? (wordOfBytes (Layout.memory.of data)) (wordOfBytes (Layout.time.of data))
      (wordOfBytes (Layout.lanes.of data)) = some refusal := by
  obtain ⟨stands, clear⟩ := first?_eq_some_iff.1 first
  rw [firstBroken?_eq long]
  cases f with
  | length | magic | version | variant | argon2Version => cases limit
  | memoryTooSmall => exact (if_pos stands).trans limit
  | timeTooSmall =>
    rw [if_neg (clear .memoryTooSmall (by decide)), if_pos stands]
    exact limit
  | tooFewThreads =>
    rw [if_neg (clear .memoryTooSmall (by decide)), if_neg (clear .timeTooSmall (by decide)),
      if_pos stands]
    exact limit
  | tooManyThreads =>
    rw [if_neg (clear .memoryTooSmall (by decide)), if_neg (clear .timeTooSmall (by decide)),
      if_neg (clear .tooFewThreads (by decide)), if_pos stands]
    exact limit

/-- A byte string is refused for its first fault. -/
theorem parse_of_first (first : first? data = some f) : parse data = .error (f.error data) := by
  obtain ⟨stands, clear⟩ := first?_eq_some_iff.1 first
  have front (late : ∀ g ∈ [length, magic, version], g ∈ all.takeWhile (· ≠ f)) :
      FrontClear data :=
    ⟨clear _ (late _ (by decide)), clear _ (late _ (by decide)), clear _ (late _ (by decide))⟩
  -- What is listed before the fault is absent, so the checks before it are passed.
  cases f with
  | length => exact parse_of_short stands
  | magic => exact parse_of_foreign_magic (Nat.le_of_not_lt (clear .length (by decide))) stands
  | version =>
    exact parse_of_version (Nat.le_of_not_lt (clear .length (by decide)))
      (clear .magic (by decide)) stands
  | variant =>
    have front := front (by decide)
    have number := toNat_wordAt (s := Layout.variant) front.long (by decide) rfl
    refine (front.parse_of_error (Scheme.ofNumbers_of_variant (number ▸ stands))).trans ?_
    rw [Error.unknownVariant, number]
    rfl
  | argon2Version =>
    have front := front (by decide)
    have number := toNat_wordAt (s := Layout.argon2Version) front.long (by decide) rfl
    have known := known_of_clear front.long (clear .variant (by decide))
    refine (front.parse_of_error (Scheme.ofNumbers_of_version known (number ▸ stands))).trans ?_
    rw [Error.unknownArgon2Version, number]
    rfl
  | memoryTooSmall | timeTooSmall | tooFewThreads | tooManyThreads =>
    have front := front (by decide)
    have known := known_of_clear front.long (clear .variant (by decide))
    have current := current_of_clear front.long (clear .argon2Version (by decide))
    exact front.parse_of_error
      (Scheme.ofNumbers_of_broken known current (firstBroken?_of_first front.long first rfl))

/-- A byte string without a fault is read. -/
theorem exists_parse_of_clear (clear : ∀ f, ¬ Stands data f) : ∃ h, parse data = .ok h := by
  have front : FrontClear data := ⟨clear length, clear magic, clear version⟩
  have kept := firstBroken?_eq front.long
  rw [if_neg (clear memoryTooSmall), if_neg (clear timeTooSmall), if_neg (clear tooFewThreads),
    if_neg (clear tooManyThreads)] at kept
  obtain ⟨scheme, taken⟩ := Scheme.exists_ofNumbers (known_of_clear front.long (clear variant))
    (current_of_clear front.long (clear argon2Version)) kept
  refine ⟨complete data front.long scheme, front.parse_eq_map.trans ?_⟩
  exact congrArg (Except.map (complete data front.long)) taken

theorem parse_eq_error_iff {e : Error} :
    parse data = .error e ↔ ∃ f, first? data = some f ∧ e = f.error data := by
  constructor
  · intro refused
    cases first : first? data with
    | none =>
      obtain ⟨h, parsed⟩ := exists_parse_of_clear (first?_eq_none_iff.1 first)
      exact absurd (parsed.symm.trans refused) nofun
    | some f => exact ⟨f, rfl, Except.error.inj (refused.symm.trans (parse_of_first first))⟩
  · rintro ⟨f, first, rfl⟩
    exact parse_of_first first

theorem exists_parse_iff : (∃ h, parse data = .ok h) ↔ ∀ f, ¬ Stands data f := by
  constructor
  · rintro ⟨h, parsed⟩
    refine first?_eq_none_iff.1 ?_
    cases first : first? data with
    | none => rfl
    | some f => exact absurd (parsed.symm.trans (parse_of_first first)) nofun
  · exact exists_parse_of_clear

end Fault

/-- A header is read exactly if it has none of the nine faults. Otherwise it is refused with the
error of the one that is listed first, whatever other faults there are, and this error is about the
header itself and one that the user can do something about. -/
theorem refused_for_first_fault (data : Bytes) :
    ((∃ h, parse data = .ok h) ↔ ∀ f, ¬ Fault.Stands data f) ∧
    (∀ e, parse data = .error e ↔
      ∃ f, Fault.Stands data f ∧
        (∀ g ∈ Fault.all.takeWhile (· ≠ f), ¬ Fault.Stands data g) ∧ e = f.error data) ∧
    ∀ f : Fault, (f.error data).kind.isStructural = true ∧ (f.error data).category = .user := by
  refine ⟨Fault.exists_parse_iff, fun e => ?_, Fault.isStructural_error data⟩
  rw [Fault.parse_eq_error_iff]
  simp only [Fault.first?_eq_some_iff, and_assoc]

/-- Behind a version that is not known, nothing else is looked at. -/
example : Fault.first? (magicNumber ++ List.replicate 157 255) = some .version := by
  decide +kernel

end Coffer.Header
