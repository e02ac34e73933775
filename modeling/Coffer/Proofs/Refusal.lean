import Coffer.Scheme
import Mathlib.Tactic.SplitIfs

/-!
# Steps that may be refused

A sequence of steps succeeds exactly if each of them does. The conversions of numbers into types,
versions and costs are refused exactly for the numbers that stand for none.
-/

set_option autoImplicit false
set_option relaxedAutoImplicit false

namespace Coffer

section Steps

variable {ε δ α β : Type}

theorem bind_eq_ok_iff {x : Except ε α} {f : α → Except ε β} {b : β} :
    x >>= f = .ok b ↔ ∃ a, x = .ok a ∧ f a = .ok b := by
  constructor
  · intro success
    cases x with
    | error e => cases success
    | ok a => exact ⟨a, rfl, success⟩
  · rintro ⟨a, rfl, success⟩
    exact success

/-- A sequence of steps is refused for its first step, or for a later one after that. -/
theorem bind_eq_error_iff {x : Except ε α} {f : α → Except ε β} {e : ε} :
    x >>= f = .error e ↔ x = .error e ∨ ∃ a, x = .ok a ∧ f a = .error e := by
  cases x with
  | error reason =>
    constructor
    · intro failure
      exact .inl (congrArg Except.error (Except.error.inj failure))
    · rintro (failure | ⟨a, success, _⟩)
      · exact congrArg Except.error (Except.error.inj failure)
      · cases success
  | ok a =>
    constructor
    · intro failure
      exact .inr ⟨a, rfl, failure⟩
    · rintro (failure | ⟨b, success, failure⟩)
      · cases failure
      · cases success
        exact failure

theorem error_bind (e : ε) (f : α → Except ε β) :
    (.error e : Except ε α) >>= f = .error e := rfl

theorem ok_bind (a : α) (f : α → Except ε β) : (.ok a : Except ε α) >>= f = f a := rfl

theorem require_eq_ok_iff {p : Prop} [Decidable p] {x : Except ε α} {e : ε} {a : α} :
    (if p then x else .error e) = .ok a ↔ p ∧ x = .ok a := by
  split
  · rename_i holds
    exact ⟨fun success => ⟨holds, success⟩, fun both => both.2⟩
  · rename_i fails
    constructor
    · intro success
      cases success
    · rintro ⟨holds, _⟩
      exact absurd holds fails

/-- Steps go on behind a check only if what is checked for does not hold. -/
theorem guard_eq_ok_iff {p : Prop} [Decidable p] {x : Except ε α} {e : ε} {f : β → Except ε α}
    {a : α} : (if p then throw e >>= f else x) = .ok a ↔ ¬ p ∧ x = .ok a := by
  split
  · rename_i holds
    constructor
    · intro success
      cases success
    · rintro ⟨fails, _⟩
      exact absurd holds fails
  · rename_i fails
    exact ⟨fun success => ⟨fails, success⟩, fun both => both.2⟩

/-- What succeeds under a condition and fails without it. -/
theorem eq_ok_iff_of_cases {p : Prop} {x : Except ε α} {e : ε} {a b : α}
    (success : p → x = .ok a) (failure : ¬ p → x = .error e) : x = .ok b ↔ p ∧ b = a := by
  by_cases holds : p
  · rw [success holds]
    constructor
    · intro same
      exact ⟨holds, (Except.ok.inj same).symm⟩
    · rintro ⟨_, same⟩
      exact congrArg Except.ok same.symm
  · rw [failure holds]
    constructor
    · intro same
      cases same
    · rintro ⟨enough, _⟩
      exact absurd enough holds

theorem eq_ok_of_toOption {x : Except ε α} {a : α} (found : x.toOption = some a) : x = .ok a := by
  cases x with
  | error e => cases found
  | ok b => exact congrArg Except.ok (Option.some.inj found)

/-- The error, if there is one. -/
def refusal? : Except ε α → Option ε
  | .error e => some e
  | .ok _ => none

theorem eq_error_of_refusal? {x : Except ε α} {e : ε} (found : refusal? x = some e) :
    x = .error e := by
  cases x with
  | error d => exact congrArg Except.error (Option.some.inj found)
  | ok a => cases found

theorem map_eq_ok_iff {x : Except ε α} {f : α → β} {b : β} :
    x.map f = .ok b ↔ ∃ a, x = .ok a ∧ f a = b := by
  cases x with
  | error e => simp [Except.map]
  | ok a => simp [Except.map]

theorem map_eq_error_iff {x : Except ε α} {f : α → β} {e : ε} :
    x.map f = .error e ↔ x = .error e := by
  cases x with
  | error d => simp [Except.map]
  | ok a => simp [Except.map]

theorem map_map {γ : Type} (x : Except ε α) (f : α → β) (g : β → γ) :
    (x.map f).map g = x.map fun a => g (f a) := by
  cases x with
  | error e => rfl
  | ok a => rfl

theorem mapError_eq_ok_iff {x : Except ε α} {f : ε → δ} {a : α} :
    x.mapError f = .ok a ↔ x = .ok a := by
  cases x with
  | error e =>
    constructor
    · intro success
      cases success
    · intro success
      cases success
  | ok b =>
    constructor
    · intro success
      exact congrArg Except.ok (Except.ok.inj success)
    · intro success
      exact congrArg Except.ok (Except.ok.inj success)

end Steps

section First

variable {α : Type} [DecidableEq α] {p : α → Prop} [DecidablePred p] {xs : List α} {a : α}

/-- The first match is a match, and nothing that stands before it is one. -/
theorem find?_eq_some_iff_takeWhile :
    xs.find? (p ·) = some a ↔ a ∈ xs ∧ p a ∧ ∀ b ∈ xs.takeWhile (· ≠ a), ¬ p b := by
  induction xs with
  | nil => simp
  | cons x xs ih =>
    by_cases here : x = a
    · subst here
      by_cases holds : p x
      · simp [holds]
      · simp only [List.find?_cons, holds, decide_false, ih]
        simp
    · have later : a ∈ x :: xs ↔ a ∈ xs := by
        rw [List.mem_cons]
        exact or_iff_right fun same => here same.symm
      have before : (x :: xs).takeWhile (· ≠ a) = x :: xs.takeWhile (· ≠ a) :=
        List.takeWhile_cons_of_pos (decide_eq_true here)
      rw [later, before, List.forall_mem_cons]
      by_cases holds : p x
      · simp [holds, here]
      · rw [List.find?_cons_of_neg (by simpa using holds), ih]
        simp [holds]

end First
theorem variantOfNumber_eq_ok_iff {n : UInt32} {v : Argon2.Variant} :
    variantOfNumber n = .ok v ↔ n = v.number := by
  rw [← Argon2.Variant.ofNumber?_eq_some_iff]
  unfold variantOfNumber
  split
  · rename_i found
    simp [found]
  · rename_i missing
    simp [missing]

theorem argon2VersionOfNumber_eq_ok_iff {n : UInt32} {v : Argon2.Version} :
    argon2VersionOfNumber n = .ok v ↔ n = v.number := by
  rw [← Argon2.Version.ofNumber?_eq_some_iff]
  unfold argon2VersionOfNumber
  split
  · rename_i found
    simp [found]
  · rename_i missing
    simp [missing]

theorem variantOfNumber_of_gt {n : UInt32} (foreign : 2 < n.toNat) :
    variantOfNumber n = .error (.unknownVariant n) := by
  unfold variantOfNumber
  split
  · rename_i v found
    rw [Argon2.Variant.ofNumber?_eq_some_iff.1 found] at foreign
    cases v <;> exact absurd foreign (by decide)
  · rfl

theorem exists_variantOfNumber {n : UInt32} (known : n.toNat ≤ 2) :
    ∃ v, variantOfNumber n = .ok v := by
  have number : n = 0 ∨ n = 1 ∨ n = 2 := by
    simp only [← UInt32.toNat_inj, UInt32.reduceToNat]
    omega
  rcases number with rfl | rfl | rfl
  · exact ⟨.argon2d, rfl⟩
  · exact ⟨.argon2i, rfl⟩
  · exact ⟨.argon2id, rfl⟩

theorem argon2VersionOfNumber_of_ne {n : UInt32} (foreign : n.toNat ≠ 0x10 ∧ n.toNat ≠ 0x13) :
    argon2VersionOfNumber n = .error (.unknownArgon2Version n) := by
  unfold argon2VersionOfNumber
  split
  · rename_i v found
    rw [Argon2.Version.ofNumber?_eq_some_iff.1 found] at foreign
    cases v <;> exact absurd foreign (by decide)
  · rfl

theorem exists_argon2VersionOfNumber {n : UInt32} (known : n.toNat = 0x10 ∨ n.toNat = 0x13) :
    ∃ v, argon2VersionOfNumber n = .ok v := by
  have number : n = 0x10 ∨ n = 0x13 := by
    simpa only [← UInt32.toNat_inj, UInt32.reduceToNat] using known
  rcases number with rfl | rfl
  · exact ⟨.v0x10, rfl⟩
  · exact ⟨.v0x13, rfl⟩

theorem isStructural_of_variant_error {n : UInt32} {e : Error}
    (refused : variantOfNumber n = .error e) : e.kind.isStructural := by
  unfold variantOfNumber at refused
  split at refused
  · cases refused
  · cases refused
    rfl

theorem isStructural_of_version_error {n : UInt32} {e : Error}
    (refused : argon2VersionOfNumber n = .error e) : e.kind.isStructural := by
  unfold argon2VersionOfNumber at refused
  split at refused
  · cases refused
  · cases refused
    rfl

/-- No limit is broken exactly if all of them are kept. -/
theorem Argon2.firstBroken?_eq_none_iff {memory time lanes : UInt32} :
    firstBroken? memory time lanes = none ↔
      8 ≤ memory.toNat ∧ 8 * lanes.toNat ≤ memory.toNat ∧ 1 ≤ time.toNat ∧ 1 ≤ lanes.toNat ∧
        lanes.toNat ≤ maxLanes := by
  unfold firstBroken?
  split_ifs with small short few many
  · exact iff_of_false nofun (by omega)
  · exact iff_of_false nofun (by omega)
  · exact iff_of_false nofun (by omega)
  · exact iff_of_false nofun (by omega)
  · exact iff_of_true rfl (by omega)

theorem Argon2.Settings.ofCosts_eq_ok_iff {memory time lanes : UInt32} {s : Argon2.Settings} :
    Argon2.Settings.ofCosts memory time lanes = .ok s ↔
      memory = s.memory ∧ time = s.time ∧ lanes = s.lanes := by
  unfold ofCosts
  split
  · rename_i refusal broken
    constructor
    · intro success
      cases success
    · rintro ⟨rfl, rfl, rfl⟩
      have within := s.within_limits
      rw [broken] at within
      cases within
  · constructor
    · intro success
      cases success
      exact ⟨rfl, rfl, rfl⟩
    · rintro ⟨rfl, rfl, rfl⟩
      rfl

/-- A triple is taken as costs exactly if it is the triple of some costs. -/
theorem Costs.ofTriple_eq_ok_iff {memory time lanes : UInt32} {c : Costs} :
    Costs.ofTriple memory time lanes = .ok c ↔
      memory = c.memory ∧ time = c.time ∧ lanes = c.lanes := by
  unfold ofTriple
  rw [mapError_eq_ok_iff, map_eq_ok_iff]
  constructor
  · rintro ⟨s, taken, rfl⟩
    exact Argon2.Settings.ofCosts_eq_ok_iff.1 taken
  · intro same
    exact ⟨⟨c.memory, c.time, c.lanes, c.admissible⟩,
      Argon2.Settings.ofCosts_eq_ok_iff.2 same, rfl⟩

theorem Costs.ofTriple_of_broken {memory time lanes : UInt32} {refusal : Argon2.Refusal}
    (broken : Argon2.firstBroken? memory time lanes = some refusal) :
    Costs.ofTriple memory time lanes = .error (.inadmissibleCosts refusal) := by
  have refused : Argon2.Settings.ofCosts memory time lanes = .error refusal := by
    unfold Argon2.Settings.ofCosts
    split
    · rename_i reason found
      cases broken.symm.trans found
      rfl
    · rename_i kept
      cases broken.symm.trans kept
  rw [ofTriple, refused]
  rfl

theorem Costs.ofTriple_of_kept {memory time lanes : UInt32}
    (kept : Argon2.firstBroken? memory time lanes = none) :
    Costs.ofTriple memory time lanes = .ok ⟨memory, time, lanes, kept⟩ :=
  ofTriple_eq_ok_iff.2 ⟨rfl, rfl, rfl⟩

theorem Costs.isStructural_of_error {memory time lanes : UInt32} {e : Error}
    (refused : Costs.ofTriple memory time lanes = .error e) : e.kind.isStructural := by
  cases broken : Argon2.firstBroken? memory time lanes with
  | some refusal =>
    rw [ofTriple_of_broken broken] at refused
    cases refused
    rfl
  | none =>
    rw [ofTriple_of_kept broken] at refused
    cases refused

namespace Scheme

variable {variant version memory time lanes : UInt32}

theorem ofNumbers_of_variant (foreign : 2 < variant.toNat) :
    ofNumbers variant version memory time lanes = .error (.unknownVariant variant) := by
  unfold ofNumbers
  rw [variantOfNumber_of_gt foreign, error_bind]

theorem ofNumbers_of_version (known : variant.toNat ≤ 2)
    (foreign : version.toNat ≠ 0x10 ∧ version.toNat ≠ 0x13) :
    ofNumbers variant version memory time lanes = .error (.unknownArgon2Version version) := by
  obtain ⟨v, known⟩ := exists_variantOfNumber known
  unfold ofNumbers
  rw [known, ok_bind, argon2VersionOfNumber_of_ne foreign, error_bind]

theorem ofNumbers_of_broken {refusal : Argon2.Refusal} (known : variant.toNat ≤ 2)
    (current : version.toNat = 0x10 ∨ version.toNat = 0x13)
    (broken : Argon2.firstBroken? memory time lanes = some refusal) :
    ofNumbers variant version memory time lanes = .error (.inadmissibleCosts refusal) := by
  obtain ⟨v, known⟩ := exists_variantOfNumber known
  obtain ⟨w, current⟩ := exists_argon2VersionOfNumber current
  unfold ofNumbers
  rw [known, ok_bind, current, ok_bind, Costs.ofTriple_of_broken broken, error_bind]

theorem exists_ofNumbers (known : variant.toNat ≤ 2)
    (current : version.toNat = 0x10 ∨ version.toNat = 0x13)
    (kept : Argon2.firstBroken? memory time lanes = none) :
    ∃ scheme, ofNumbers variant version memory time lanes = .ok scheme := by
  obtain ⟨v, known⟩ := exists_variantOfNumber known
  obtain ⟨w, current⟩ := exists_argon2VersionOfNumber current
  refine ⟨⟨v, w, ⟨memory, time, lanes, kept⟩⟩, ?_⟩
  unfold ofNumbers
  rw [known, ok_bind, current, ok_bind, Costs.ofTriple_of_kept kept, ok_bind]
  rfl

end Scheme

/-- Costs are settings of Argon2, since no limit is broken. -/
theorem Costs.toSettings_eq (c : Costs) :
    c.toSettings = .ok ⟨c.memory, c.time, c.lanes, c.admissible⟩ := by
  unfold toSettings
  rw [mapError_eq_ok_iff]
  exact Argon2.Settings.ofCosts_eq_ok_iff.2 ⟨rfl, rfl, rfl⟩

end Coffer
