import Coffer.Header.Reading
import Coffer.Proofs.Refusal

/-!
# Reading by spans

A byte string that is long enough is read without any access out of bounds, so reading it comes
down to checks on the bytes of its spans. The spans end at byte 148, and no byte behind them has an
influence on what is read. The checks end at byte 28, and no byte behind that has an influence on
the scheme or the refusal.
-/

set_option autoImplicit false
set_option relaxedAutoImplicit false

namespace Coffer

/-- A span sees nothing of what stands behind it. -/
theorem Span.of_eq_of_take_eq {s : Span} {a b : Bytes} {n : Nat} (inside : s.stop ≤ n)
    (same : a.take n = b.take n) : s.of a = s.of b := by
  have cut (c : Bytes) : c.take s.stop = (c.take n).take s.stop := by
    rw [List.take_take, Nat.min_eq_left inside]
  unfold Span.of
  rw [cut a, cut b, same]

theorem Layout.version_of_eq {data : Bytes} (long : 164 ≤ data.length) :
    Layout.version.of data = [data.get ⟨7, Nat.lt_of_lt_of_le (by decide) long⟩] := by
  rw [Span.of, Layout.version, List.drop_take, List.drop_eq_getElem_cons]
  rfl

/-- Why a version of the format other than the current one is refused. -/
def FormatVersion.refusal (n : UInt8) : Error :=
  if n = 0 then .unsupportedVersion 0 else .unknownVersion n

namespace Header

/-- The octets at a span. -/
def octetsAt (s : Span) (n : Nat) (data : Bytes) (width : s.stop - s.start = n)
    (inside : s.stop ≤ data.length) : Octets n :=
  ⟨s.of data, by rw [Span.length_of inside, width]⟩

/-- The header that stands in a byte string of sufficient length. -/
def stated (data : Bytes) (long : 164 ≤ data.length) : Except Error Header :=
  if Layout.magic.of data = magicNumber then do
    let format ← FormatVersion.ofNumber (data.get ⟨7, Nat.lt_of_lt_of_le (by decide) long⟩)
    if format = .current then do
      let variant ← variantOfNumber (wordOfBytes (Layout.variant.of data))
      let version ← argon2VersionOfNumber (wordOfBytes (Layout.argon2Version.of data))
      let costs ← Costs.ofTriple (wordOfBytes (Layout.memory.of data))
        (wordOfBytes (Layout.time.of data)) (wordOfBytes (Layout.lanes.of data))
      return {
        scheme := { variant, version, costs }
        salt := octetsAt Layout.salt 32 data (by decide) (Nat.le_trans (by decide) long)
        nonce := octetsAt Layout.nonce 24 data (by decide) (Nat.le_trans (by decide) long)
        mac := octetsAt Layout.mac 64 data (by decide) (Nat.le_trans (by decide) long) }
    else .error (.unsupportedVersion format.number)
  else .error (.ofKind .wrongMagic)

open Bytes.Checked in
theorem run_read_of_long {data : Bytes} (long : 164 ≤ data.length) :
    (read data).run = some (stated data long) := by
  have word {s : Span} (h₁ : s.start ≤ s.stop) (h₂ : s.stop ≤ 164) (h₃ : s.stop - s.start = 4) :
      s.readWord? data = some (wordOfBytes (s.of data)) :=
    Span.readWord?_eq h₁ (Nat.le_trans h₂ long) h₃
  have octets {s : Span} {n : Nat} (h₁ : s.start ≤ s.stop) (h₂ : s.stop ≤ data.length)
      (h₃ : s.stop - s.start = n) : s.readOctets? n data = some (octetsAt s n data h₃ h₂) :=
    Span.readOctets?_eq h₁ h₂ h₃
  have magic : Layout.magic.read? data = some (Layout.magic.of data) :=
    Span.read?_eq (by decide) (Nat.le_trans (by decide) long)
  have version : data.byte? Layout.version.start =
      some (data.get ⟨7, Nat.lt_of_lt_of_le (by decide) long⟩) :=
    List.getElem?_eq_getElem (Nat.lt_of_lt_of_le (by decide : 7 < 164) long)
  have enough : Layout.headerLength + Layout.tagLength ≤ data.length := long
  unfold read
  rw [run_require_bind (r := stated data long), if_pos enough]
  intro _
  refine run_access_bind magic (run_require_bind fun _ => ?_)
  refine run_access_bind version (run_refusal_bind fun format _ => ?_)
  refine run_require_bind fun _ => ?_
  refine run_access_bind (word (by decide) (by decide) rfl) (run_refusal_bind fun variant _ => ?_)
  refine run_access_bind (word (by decide) (by decide) rfl) (run_refusal_bind fun version _ => ?_)
  refine run_access_bind (word (by decide) (by decide) rfl) ?_
  refine run_access_bind (word (by decide) (by decide) rfl) ?_
  refine run_access_bind (word (by decide) (by decide) rfl) (run_refusal_bind fun costs _ => ?_)
  refine run_access_bind (octets (by decide) (Nat.le_trans (by decide) long) rfl) ?_
  refine run_access_bind (octets (by decide) (Nat.le_trans (by decide) long) rfl) ?_
  refine run_access_bind (octets (by decide) (Nat.le_trans (by decide) long) rfl) ?_
  rfl

theorem parse_of_long {data : Bytes} (long : 164 ≤ data.length) :
    parse data = stated data long :=
  Bytes.Checked.result_eq_of_run (run_read_of_long long) _

theorem parse_of_short {data : Bytes} (short : data.length < 164) :
    parse data = .error (.ofKind .tooShort) := by
  have missing : ¬ Layout.headerLength + Layout.tagLength ≤ data.length := Nat.not_le.2 short
  refine Bytes.Checked.result_eq_of_run ?_ _
  unfold read
  rw [Bytes.Checked.run_require_bind (r := .error (.ofKind .tooShort)), if_neg missing]
  intro enough
  exact absurd enough missing

theorem parse_of_foreign_magic {data : Bytes} (long : 164 ≤ data.length)
    (foreign : Layout.magic.of data ≠ magicNumber) : parse data = .error (.ofKind .wrongMagic) := by
  rw [parse_of_long long]
  exact if_neg foreign

theorem parse_of_foreign_version {data : Bytes} {n : UInt8} (long : 164 ≤ data.length)
    (magic : Layout.magic.of data = magicNumber) (version : Layout.version.of data = [n])
    (foreign : n ≠ FormatVersion.current.number) :
    parse data = .error (FormatVersion.refusal n) := by
  have byte : data.get ⟨7, Nat.lt_of_lt_of_le (by decide) long⟩ = n :=
    List.head_eq_of_cons_eq ((Layout.version_of_eq long).symm.trans version)
  rw [parse_of_long long, stated, if_pos magic, byte]
  unfold FormatVersion.ofNumber FormatVersion.refusal
  split
  · rfl
  · exact absurd rfl foreign
  · rename_i unsupported _
    rw [if_neg unsupported]
    rfl

theorem le_length_of_parse {data : Bytes} {h : Header} (parsed : parse data = .ok h) :
    164 ≤ data.length := by
  rcases Nat.lt_or_ge data.length 164 with short | long
  · rw [parse_of_short short] at parsed
    cases parsed
  · exact long

/-! ### What the scheme depends on -/

/-- The scheme that the fields of a byte string state. -/
def schemeOf (data : Bytes) : Except Error Scheme :=
  Scheme.ofNumbers (wordOfBytes (Layout.variant.of data))
    (wordOfBytes (Layout.argon2Version.of data)) (wordOfBytes (Layout.memory.of data))
    (wordOfBytes (Layout.time.of data)) (wordOfBytes (Layout.lanes.of data))

/-- The scheme that stands in a byte string of sufficient length. -/
def statedScheme (data : Bytes) (long : 164 ≤ data.length) : Except Error Scheme :=
  if Layout.magic.of data = magicNumber then do
    let format ← FormatVersion.ofNumber (data.get ⟨7, Nat.lt_of_lt_of_le (by decide) long⟩)
    if format = .current then schemeOf data
    else .error (.unsupportedVersion format.number)
  else .error (.ofKind .wrongMagic)

/-- The header of a scheme and of what stands behind the scheme. -/
def complete (data : Bytes) (long : 164 ≤ data.length) (scheme : Scheme) : Header where
  scheme
  salt := octetsAt Layout.salt 32 data (by decide) (Nat.le_trans (by decide) long)
  nonce := octetsAt Layout.nonce 24 data (by decide) (Nat.le_trans (by decide) long)
  mac := octetsAt Layout.mac 64 data (by decide) (Nat.le_trans (by decide) long)

/-- Whether there is a header is decided by the scheme, and by what stands before it. -/
theorem stated_eq_map {data : Bytes} (long : 164 ≤ data.length) :
    stated data long = (statedScheme data long).map (complete data long) := by
  unfold stated statedScheme
  split
  · cases FormatVersion.ofNumber (data.get ⟨7, Nat.lt_of_lt_of_le (by decide) long⟩) with
    | error e => rfl
    | ok format =>
      rw [ok_bind, ok_bind]
      split
      · unfold schemeOf Scheme.ofNumbers
        cases variantOfNumber (wordOfBytes (Layout.variant.of data)) with
        | error e => rfl
        | ok variant =>
          cases argon2VersionOfNumber (wordOfBytes (Layout.argon2Version.of data)) with
          | error e => rfl
          | ok version =>
            cases Costs.ofTriple (wordOfBytes (Layout.memory.of data))
                (wordOfBytes (Layout.time.of data)) (wordOfBytes (Layout.lanes.of data)) with
            | error e => rfl
            | ok costs => rfl
      · rfl
  · rfl

theorem map_scheme_parse {data : Bytes} (long : 164 ≤ data.length) :
    (parse data).map (·.scheme) = statedScheme data long := by
  rw [parse_of_long long, stated_eq_map long]
  cases statedScheme data long with
  | error e => rfl
  | ok scheme => rfl

section Congruence

variable {a b : Bytes} (longA : 164 ≤ a.length) (longB : 164 ≤ b.length)
include longA longB

theorem statedScheme_congr (same : a.take 28 = b.take 28) :
    statedScheme a longA = statedScheme b longB := by
  have spans {s : Span} (inside : s.stop ≤ 28) : s.of a = s.of b :=
    Span.of_eq_of_take_eq inside same
  have version : a.get ⟨7, Nat.lt_of_lt_of_le (by decide) longA⟩ =
      b.get ⟨7, Nat.lt_of_lt_of_le (by decide) longB⟩ := by
    have both : Layout.version.of a = Layout.version.of b := spans (by decide)
    rw [Layout.version_of_eq longA, Layout.version_of_eq longB] at both
    exact List.head_eq_of_cons_eq both
  unfold statedScheme schemeOf
  rw [version, spans (s := Layout.magic) (by decide), spans (s := Layout.variant) (by decide),
    spans (s := Layout.argon2Version) (by decide), spans (s := Layout.memory) (by decide),
    spans (s := Layout.time) (by decide), spans (s := Layout.lanes) (by decide)]

/-- The scheme, or the error, depends on the first 28 bytes only. -/
theorem map_scheme_congr (same : a.take 28 = b.take 28) :
    (parse a).map (·.scheme) = (parse b).map (·.scheme) := by
  rw [map_scheme_parse longA, map_scheme_parse longB]
  exact statedScheme_congr longA longB same

/-- What is read depends on the first 148 bytes only. -/
theorem parse_congr (same : a.take 148 = b.take 148) : parse a = parse b := by
  have octets {s : Span} {n : Nat} (width : s.stop - s.start = n) (inside : s.stop ≤ 148) :
      octetsAt s n a width (Nat.le_trans inside (Nat.le_trans (by decide) longA)) =
        octetsAt s n b width (Nat.le_trans inside (Nat.le_trans (by decide) longB)) :=
    Subtype.ext (Span.of_eq_of_take_eq inside same)
  have front : a.take 28 = b.take 28 := by
    have cut := congrArg (List.take 28) same
    rwa [List.take_take, List.take_take] at cut
  have rest : complete a longA = complete b longB := by
    funext scheme
    unfold complete
    rw [octets (s := Layout.salt) (n := 32) (by decide) (by decide),
      octets (s := Layout.nonce) (n := 24) (by decide) (by decide),
      octets (s := Layout.mac) (n := 64) (by decide) (by decide)]
  rw [parse_of_long longA, parse_of_long longB, stated_eq_map longA, stated_eq_map longB,
    statedScheme_congr longA longB front, rest]

end Congruence

end Header

end Coffer
