import Coffer.Header.Inspection
import Coffer.Proofs.Encryption

/-!
# Costs within the limits

Whichever way costs come about, they come from three numbers that keep the limits of Argon2, and
they hold exactly these numbers. So they are settings of Argon2, and settings of Argon2 are costs,
without loss; and nothing but a passphrase that is too long stands in the way of deriving keys.
-/

set_option autoImplicit false
set_option relaxedAutoImplicit false

namespace Coffer

namespace Costs

/-- The limits of Argon2 on memory, passes and lanes. -/
structure Limits (memory time lanes : UInt32) : Prop where
  some_memory : 8 ≤ memory.toNat
  memory_per_lane : 8 * lanes.toNat ≤ memory.toNat
  some_pass : 1 ≤ time.toNat
  some_lane : 1 ≤ lanes.toNat
  lanes_le : lanes.toNat ≤ 0xffffff

/-- The ways in which costs come about, each with the three numbers that the costs are taken from:
those that are given, the recommended ones, those in a header, however that is inspected, and those
in settings of Argon2. -/
inductive Origin : UInt32 → UInt32 → UInt32 → Costs → Prop
  | triple {memory time lanes : UInt32} {c : Costs} (taken : ofTriple memory time lanes = .ok c) :
    Origin memory time lanes c
  | recommended : Origin 19456 2 1 default
  | header {data : Bytes} {h : Header} (parsed : Header.parse data = .ok h) :
    Origin (wordOfBytes (Layout.memory.of data)) (wordOfBytes (Layout.time.of data))
      (wordOfBytes (Layout.lanes.of data)) h.scheme.costs
  | container {data : Bytes} {c : Costs} (inspected : ofContainer data = .ok c) :
    Origin (wordOfBytes (Layout.memory.of data)) (wordOfBytes (Layout.time.of data))
      (wordOfBytes (Layout.lanes.of data)) c
  | settings (s : Argon2.Settings) : Origin s.memory s.time s.lanes (ofSettings s)

variable {memory time lanes : UInt32} {c : Costs}

theorem limits_iff : Limits memory time lanes ↔ Argon2.firstBroken? memory time lanes = none := by
  rw [Argon2.firstBroken?_eq_none_iff]
  constructor
  · rintro ⟨someMemory, perLane, somePass, someLane, most⟩
    exact ⟨someMemory, perLane, somePass, someLane, most⟩
  · rintro ⟨someMemory, perLane, somePass, someLane, most⟩
    exact ⟨someMemory, perLane, somePass, someLane, most⟩

/-- A triple is taken as costs exactly if it keeps the limits. -/
theorem exists_ofTriple_iff :
    (∃ c, ofTriple memory time lanes = .ok c) ↔ Limits memory time lanes := by
  rw [limits_iff]
  constructor
  · rintro ⟨c, taken⟩
    obtain ⟨rfl, rfl, rfl⟩ := ofTriple_eq_ok_iff.1 taken
    exact c.admissible
  · intro kept
    exact ⟨_, ofTriple_of_kept kept⟩

/-- The costs of a header are those of the three words at their places. -/
theorem ofTriple_of_parse {data : Bytes} {h : Header} (parsed : Header.parse data = .ok h) :
    ofTriple (wordOfBytes (Layout.memory.of data)) (wordOfBytes (Layout.time.of data))
      (wordOfBytes (Layout.lanes.of data)) = .ok h.scheme.costs := by
  have word {s : Span} {w : UInt32} (member : (s, wordBytes w) ∈ h.authenticatedFields) :
      wordOfBytes (s.of data) = w := by
    rw [Header.field_of_parse parsed member]
    exact wordOfBytes_wordBytes w
  refine ofTriple_eq_ok_iff.2 ⟨word ?_, word ?_, word ?_⟩
  · simp [Header.authenticatedFields]
  · simp [Header.authenticatedFields]
  · simp [Header.authenticatedFields]

/-- Every way comes down to the conversion of its three numbers. -/
theorem Origin.ofTriple (origin : Origin memory time lanes c) :
    Costs.ofTriple memory time lanes = .ok c := by
  cases origin with
  | triple taken => exact taken
  | recommended => exact ofTriple_eq_ok_iff.2 ⟨rfl, rfl, rfl⟩
  | header parsed => exact ofTriple_of_parse parsed
  | container inspected =>
    obtain ⟨h, parsed, rfl⟩ := map_eq_ok_iff.1 inspected
    exact ofTriple_of_parse parsed
  | settings s => exact ofTriple_eq_ok_iff.2 ⟨rfl, rfl, rfl⟩

/-- Costs are settings of Argon2 and come back from them unchanged. -/
theorem exists_toSettings (c : Costs) :
    ∃ s, c.toSettings = .ok s ∧ s.memory = c.memory ∧ s.time = c.time ∧ s.lanes = c.lanes ∧
      ofSettings s = c :=
  ⟨_, c.toSettings_eq, rfl, rfl, rfl, rfl⟩

end Costs

/-- Argon2 refuses admissible costs never, and a passphrase only if its length is no word. -/
theorem Keys.derive_eq_error_iff {scheme : Scheme} {passphrase : Bytes} {salt : Octets 32}
    {e : Error} :
    derive scheme passphrase salt = .error e ↔
      0xffffffff < passphrase.length ∧ e = .derivationFailed .passwordTooLong := by
  have bound : Argon2.maxPasswordLength = 0xffffffff := rfl
  rcases Nat.lt_or_ge Argon2.maxPasswordLength passphrase.length with long | short
  · rw [derive_of_long scheme salt long, Except.error.injEq]
    rw [bound] at long
    constructor
    · rintro rfl
      exact ⟨long, rfl⟩
    · rintro ⟨_, rfl⟩
      rfl
  · rw [derive_of_short scheme salt short]
    rw [bound] at short
    constructor
    · intro refused
      cases refused
    · rintro ⟨long, _⟩
      exact absurd short (Nat.not_le.2 long)

/-- The triples that are taken as costs are those within the limits. Costs of any origin are the
three numbers that they come from, are within the limits, and are settings of Argon2 without loss.
Under such costs, whatever the type, the version, the salt and the passphrase, deriving keys is
never refused for the costs, and is refused for the passphrase alone, if its length is no word. -/
theorem Costs.limits_of_origin :
    (∀ memory time lanes : UInt32,
      (∃ c, ofTriple memory time lanes = .ok c) ↔ Limits memory time lanes) ∧
    ∀ (memory time lanes : UInt32) (c : Costs), Origin memory time lanes c →
      (c.memory = memory ∧ c.time = time ∧ c.lanes = lanes) ∧
      Limits c.memory c.time c.lanes ∧
      (∃ s, c.toSettings = .ok s ∧ s.memory = c.memory ∧ s.time = c.time ∧ s.lanes = c.lanes ∧
        ofSettings s = c) ∧
      ∀ (variant : Argon2.Variant) (version : Argon2.Version) (salt : Octets 32)
        (passphrase : Bytes),
        (∀ e, Keys.derive ⟨variant, version, c⟩ passphrase salt = .error e →
          e.kind ≠ .inadmissibleCosts ∧ e.kind = .derivationFailed ∧
            0xffffffff < passphrase.length) ∧
        (passphrase.length ≤ 0xffffffff →
          ∃ keys, Keys.derive ⟨variant, version, c⟩ passphrase salt = .ok keys) := by
  refine ⟨fun memory time lanes => exists_ofTriple_iff, ?_⟩
  intro memory time lanes c origin
  have numbers : c.memory = memory ∧ c.time = time ∧ c.lanes = lanes := by
    obtain ⟨rfl, rfl, rfl⟩ := ofTriple_eq_ok_iff.1 origin.ofTriple
    exact ⟨rfl, rfl, rfl⟩
  refine ⟨numbers, limits_iff.2 c.admissible, c.exists_toSettings, ?_⟩
  intro variant version salt passphrase
  constructor
  · intro e refused
    obtain ⟨long, rfl⟩ := Keys.derive_eq_error_iff.1 refused
    exact ⟨nofun, rfl, long⟩
  · intro short
    exact Keys.exists_derive _ salt short

/-- The least costs with four lanes but twice the memory, and an empty passphrase. -/
theorem Costs.limits_of_origin_four_lanes :
    Origin 64 3 4 ⟨64, 3, 4, by decide⟩ ∧ Limits 64 3 4 ∧
      ([] : Bytes).length ≤ 0xffffffff ∧
      ∃ keys, Keys.derive ⟨.argon2d, .v0x10, ⟨64, 3, 4, by decide⟩⟩ [] (.zero 32) = .ok keys := by
  have origin : Origin 64 3 4 ⟨64, 3, 4, by decide⟩ :=
    .triple (ofTriple_of_kept (by decide))
  obtain ⟨_, limits, _, derives⟩ := limits_of_origin.2 64 3 4 _ origin
  obtain ⟨_, succeeds⟩ := derives .argon2d .v0x10 (.zero 32) []
  exact ⟨origin, limits, by decide, succeeds (by decide)⟩

end Coffer
