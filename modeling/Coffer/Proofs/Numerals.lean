import Coffer.CommandLine.Integer
import Coffer.Proofs.Refusal

/-!
# Numerals

A cost is written as a decimal numeral, with a sign in front of it or without. Its digits are read
as a signed number of 64 bits, one after another. The numbers on the way never exceed the whole, so
every numeral of a number that fits into 32 bits is read, and as that number.
-/

set_option autoImplicit false
set_option relaxedAutoImplicit false

namespace Coffer.CommandLine

/-- There is at least one character, and each of them is a decimal digit. -/
structure Digits (cs : List Char) : Prop where
  some : cs ≠ []
  digit : ∀ c ∈ cs, c.isDigit = true

/-- The text is a decimal numeral of the number; a minus sign can stand in front of nothing only. -/
inductive Numeral : List Char → Nat → Prop
  | plain {digits : List Char} (made : Digits digits) :
    Numeral digits (Nat.ofDigitChars 10 digits 0)
  | plus {digits : List Char} (made : Digits digits) :
    Numeral ('+' :: digits) (Nat.ofDigitChars 10 digits 0)
  | minus {digits : List Char} (made : Digits digits) (nothing : Nat.ofDigitChars 10 digits 0 = 0) :
    Numeral ('-' :: digits) 0

/-- A number is shown as a numeral of its own. -/
theorem numeral_toString (n : Nat) : Numeral (toString n).toList n := by
  have made : Digits (Nat.toDigits 10 n) :=
    ⟨Nat.toDigits_ne_nil, fun c => Nat.isDigit_of_mem_toDigits (by decide) (by decide)⟩
  have numeral := Numeral.plain made
  rw [Nat.ofDigitChars_ten_toDigits] at numeral
  rwa [Nat.toString_eq_repr, Nat.toList_repr]

namespace Integer

variable {c : Char} {cs : List Char} {n d : Nat} {sign m k : Int}

/-! ### Digits -/

theorem digit?_eq_some_iff : digit? c = some d ↔ c.isDigit = true ∧ d = c.toNat - '0'.toNat := by
  unfold digit?
  split
  · rename_i digit
    rw [Option.some.injEq]
    exact ⟨fun same => ⟨digit, same.symm⟩, fun both => both.2.symm⟩
  · rename_i other
    exact iff_of_false nofun fun both => other both.1

/-- A number does not become smaller through more digits. -/
theorem le_ofDigitChars (n : Nat) (cs : List Char) : n ≤ Nat.ofDigitChars 10 cs n := by
  induction cs generalizing n with
  | nil => exact Nat.le_refl n
  | cons c cs ih =>
    have later := ih (10 * n + (c.toNat - '0'.toNat))
    rw [Nat.ofDigitChars_cons]
    omega

theorem fit_eq_ok (fitted : fit k = .ok m) : m = k := by
  unfold fit at fitted
  split at fitted
  · cases fitted
  · split at fitted
    · cases fitted
    · exact (Except.ok.inj fitted).symm

theorem fit_of_small (small : k.natAbs < 0x8000000000000000) : fit k = .ok k := by
  rw [fit, if_neg (by omega), if_neg (by omega)]

/-- What has been read of digits is the number that they stand for, with the sign. -/
theorem of_readDigits (success : readDigits sign (sign * n) cs = .ok m) :
    (∀ c ∈ cs, c.isDigit = true) ∧ m = sign * Nat.ofDigitChars 10 cs n := by
  induction cs generalizing n with
  | nil =>
    cases success
    exact ⟨nofun, rfl⟩
  | cons c cs ih =>
    unfold readDigits at success
    split at success
    · cases success
    · rename_i d found
      obtain ⟨digit, rfl⟩ := digit?_eq_some_iff.1 found
      obtain ⟨shifted, first, added⟩ := bind_eq_ok_iff.1 success
      obtain ⟨sum, second, rest⟩ := bind_eq_ok_iff.1 added
      have next : sum = sign * ((10 * n + (c.toNat - '0'.toNat) : Nat) : Int) := by
        rw [fit_eq_ok second, fit_eq_ok first, Int.natCast_add, Nat.mul_comm, Int.natCast_mul,
          Int.mul_add, Int.mul_assoc]
        rfl
      rw [next] at rest
      obtain ⟨digits, whole⟩ := ih rest
      exact ⟨List.forall_mem_cons.2 ⟨digit, digits⟩, whole⟩

/-- Digits are read if the number that they stand for fits, since no number on the way is larger. -/
theorem readDigits_of_digits (unit : sign.natAbs = 1) (digits : ∀ c ∈ cs, c.isDigit = true)
    (small : Nat.ofDigitChars 10 cs n < 0x8000000000000000) :
    readDigits sign (sign * n) cs = .ok (sign * Nat.ofDigitChars 10 cs n) := by
  induction cs generalizing n with
  | nil => rfl
  | cons c cs ih =>
    obtain ⟨digit, digits⟩ := List.forall_mem_cons.1 digits
    have bound := le_ofDigitChars (10 * n + (c.toNat - '0'.toNat)) cs
    rw [Nat.ofDigitChars_cons] at small ⊢
    have shifted : sign * (n : Int) * 10 = sign * ((10 * n : Nat) : Int) := by
      rw [Nat.mul_comm, Int.natCast_mul, Int.mul_assoc]
      rfl
    have sum : sign * ((10 * n : Nat) : Int) + sign * ((c.toNat - '0'.toNat : Nat) : Int) =
        sign * ((10 * n + (c.toNat - '0'.toNat) : Nat) : Int) := by
      rw [Int.natCast_add, Int.mul_add]
    have fits (k : Nat) (below : k ≤ 10 * n + (c.toNat - '0'.toNat)) :
        fit (sign * (k : Int)) = .ok (sign * (k : Int)) := by
      apply fit_of_small
      rw [Int.natAbs_mul, unit, Nat.one_mul, Int.natAbs_natCast]
      omega
    rw [readDigits, digit?_eq_some_iff.2 ⟨digit, rfl⟩]
    dsimp only
    rw [shifted, fits _ (Nat.le_add_right _ _), ok_bind, sum, fits _ (Nat.le_refl _), ok_bind]
    exact ih digits small

/-! ### Numerals -/

theorem read_of_digits (made : Digits cs) : read cs = readDigits 1 0 cs := by
  cases cs with
  | nil => exact absurd rfl made.some
  | cons c cs =>
    have digit := made.digit c (List.mem_cons_self ..)
    have unsigned : c ≠ '+' ∧ c ≠ '-' := by
      constructor <;> intro same <;> rw [same] at digit <;> cases digit
    simp [read, unsigned]

/-- What is read is the number of a numeral, unless it is below zero. -/
theorem numeral_of_read (success : read cs = .ok m) (least : 0 ≤ m) : Numeral cs m.toNat := by
  have signed (sign : Int) {digits : List Char} (read : readDigits sign 0 digits = .ok m) :
      (∀ c ∈ digits, c.isDigit = true) ∧ m = sign * Nat.ofDigitChars 10 digits 0 := by
    apply of_readDigits (n := 0)
    rwa [Int.natCast_zero, Int.mul_zero]
  unfold read at success
  split at success
  · cases success
  · cases success
  · cases success
  · rename_i digits alone
    obtain ⟨all, rfl⟩ := signed 1 success
    rw [Int.one_mul, Int.toNat_natCast]
    exact .plus ⟨fun none => by simp [none] at alone, all⟩
  · rename_i digits alone
    obtain ⟨all, rfl⟩ := signed (-1) success
    have nothing : Nat.ofDigitChars 10 digits 0 = 0 := by omega
    rw [nothing]
    exact .minus ⟨fun none => by simp [none] at alone, all⟩ nothing
  · rename_i some _ _ _ _
    obtain ⟨all, rfl⟩ := signed 1 success
    rw [Int.one_mul, Int.toNat_natCast]
    exact .plain ⟨some, all⟩

theorem read_of_numeral (numeral : Numeral cs n) (small : n < 0x8000000000000000) :
    read cs = .ok n := by
  have signed (sign : Int) (unit : sign.natAbs = 1) {digits : List Char} (made : Digits digits)
      (small : Nat.ofDigitChars 10 digits 0 < 0x8000000000000000) :
      readDigits sign 0 digits = .ok (sign * Nat.ofDigitChars 10 digits 0) := by
    have whole := readDigits_of_digits (n := 0) unit made.digit small
    rwa [Int.natCast_zero, Int.mul_zero] at whole
  cases numeral with
  | plain made => rw [read_of_digits made, signed 1 rfl made small, Int.one_mul]
  | @plus digits made =>
    have unsigned : read ('+' :: digits) = readDigits 1 0 digits := by
      cases digits with
      | nil => exact absurd rfl made.some
      | cons c digits => rfl
    rw [unsigned, signed 1 rfl made small, Int.one_mul]
  | @minus digits made nothing =>
    have unsigned : read ('-' :: digits) = readDigits (-1) 0 digits := by
      cases digits with
      | nil => exact absurd rfl made.some
      | cons c digits => rfl
    rw [unsigned, signed (-1) rfl made (by omega), nothing]
    rfl

/-- A text is read as a number of 32 bits exactly if it is a numeral of that number. -/
theorem readWord_eq_ok_iff {text : String} {w : UInt32} :
    readWord text = .ok w ↔ Numeral text.toList w.toNat := by
  unfold readWord
  constructor
  · intro success
    split at success
    · cases success
    · rename_i m found
      split at success
      · rename_i within
        cases success
        have exact : (UInt32.ofNat m.toNat).toNat = m.toNat := by
          rw [UInt32.toNat_ofNat']
          apply Nat.mod_eq_of_lt
          omega
        rw [exact]
        exact numeral_of_read found within.1
      · cases success
  · intro numeral
    have bound := w.toNat_lt
    rw [read_of_numeral numeral (by omega)]
    dsimp only
    rw [if_pos (by omega), Int.toNat_natCast, UInt32.ofNat_toNat]

end Integer

end Coffer.CommandLine
