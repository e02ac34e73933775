import Coffer.CommandLine.MemorySize
import Coffer.Proofs.Refusal

/-!
# Accepted sizes of memory

A size of memory is read without regard to small and capital letters. It is accepted exactly if it
is no less than 8 KiB and its KiB fit into 32 bits, so that none of them are lost.
-/

set_option autoImplicit false
set_option relaxedAutoImplicit false

namespace Coffer.CommandLine

/-! ### Letters -/

def smallLetters : List Char :=
  ['a', 'b', 'c', 'd', 'e', 'f', 'g', 'h', 'i', 'j', 'k', 'l', 'm', 'n', 'o', 'p', 'q', 'r', 's',
    't', 'u', 'v', 'w', 'x', 'y', 'z']

/-- The characters with capital letters instead of small ones. -/
def capitals (cs : List Char) : List Char := cs.map Char.toUpper

variable {c : Char} {cs : List Char}

theorem toUpper_eq_or_mem (c : Char) : c.toUpper = c ∨ c ∈ smallLetters := by
  by_cases small : 'a'.val ≤ c.val ∧ c.val ≤ 'z'.val
  · have letters : ∀ n < 123, 97 ≤ n → Char.ofNat n ∈ smallLetters := by decide
    have least : 97 ≤ c.toNat := UInt32.le_iff_toNat_le.1 small.1
    have greatest : c.toNat ≤ 122 := UInt32.le_iff_toNat_le.1 small.2
    have letter := letters c.toNat (Nat.lt_succ_of_le greatest) least
    rw [Char.ofNat_toNat] at letter
    exact .inr letter
  · exact .inl (dif_neg small)

/-- What is the same for small and capital letters does not change when letters are made capital. -/
theorem apply_toUpper {α : Type} (f : Char → α)
    (same : smallLetters.map (fun c => f c.toUpper) = smallLetters.map f) (c : Char) :
    f c.toUpper = f c := by
  rcases toUpper_eq_or_mem c with other | small
  · rw [other]
  · exact List.map_inj_left.1 same c small

theorem toUpper_toUpper (c : Char) : c.toUpper.toUpper = c.toUpper :=
  apply_toUpper Char.toUpper (by decide) c

theorem digit?_toUpper (c : Char) : Integer.digit? c.toUpper = Integer.digit? c :=
  apply_toUpper Integer.digit? (by decide) c

theorem isBlank_toUpper (c : Char) : Text.isBlank c.toUpper = Text.isBlank c :=
  apply_toUpper Text.isBlank (by decide) c

theorem toUpper_eq_iff {d : Char} (small : d ∉ smallLetters) (capital : d ∉ capitals smallLetters)
    (c : Char) : c.toUpper = d ↔ c = d := by
  rcases toUpper_eq_or_mem c with other | letter
  · rw [other]
  · have letter' : c.toUpper ∈ capitals smallLetters := List.mem_map_of_mem letter
    exact iff_of_false (fun same => capital (same ▸ letter')) fun same => small (same ▸ letter)

theorem dropWhile_capitals {p : Char → Bool} (same : ∀ c, p c.toUpper = p c) (cs : List Char) :
    (capitals cs).dropWhile p = capitals (cs.dropWhile p) := by
  induction cs with
  | nil => rfl
  | cons c cs ih =>
    have first : capitals (c :: cs) = c.toUpper :: capitals cs := rfl
    rw [first, List.dropWhile_cons, List.dropWhile_cons, same c, ih]
    split
    · rfl
    · rfl

theorem trim_capitals (cs : List Char) : Text.trim (capitals cs) = capitals (Text.trim cs) := by
  have turned (cs : List Char) : (capitals cs).reverse = capitals cs.reverse :=
    List.map_reverse.symm
  unfold Text.trim
  rw [dropWhile_capitals isBlank_toUpper, turned, dropWhile_capitals isBlank_toUpper, turned]

theorem toOption_bind {ε α β : Type} (x : Except ε α) (f : α → Except ε β) :
    (x >>= f).toOption = x.toOption.bind fun a => (f a).toOption := by
  cases x with
  | ok a => rfl
  | error e => rfl

/-! ### Units -/

namespace SizeUnit

theorem isLetter_toUpper (letter c : Char) : isLetter letter c.toUpper = isLetter letter c := by
  rw [isLetter, toUpper_toUpper, isLetter]

theorem exponent?_toUpper (c : Char) : exponent? c.toUpper = exponent? c := by
  rw [exponent?, toUpper_toUpper, exponent?]

theorem readBits_capitals (factor : Nat) (cs : List Char) :
    (readBits factor (capitals cs)).toOption = (readBits factor cs).toOption := by
  fun_cases readBits factor cs <;> simp_all [readBits, capitals, isLetter_toUpper, Except.toOption]

theorem readBytes_capitals (factor : Nat) (cs : List Char) :
    (readBytes factor (capitals cs)).toOption = (readBytes factor cs).toOption := by
  cases cs with
  | nil => rfl
  | cons b rest =>
    have first : capitals (b :: rest) = b.toUpper :: capitals rest := rfl
    rw [first, readBytes, readBytes, isLetter_toUpper]
    split
    · exact readBits_capitals factor rest
    · rfl

theorem read_capitals (cs : List Char) : (read (capitals cs)).toOption = (read cs).toOption := by
  cases cs with
  | nil => rfl
  | cons c rest =>
    have first : capitals (c :: rest) = c.toUpper :: capitals rest := rfl
    rw [first, read, read, isLetter_toUpper, exponent?_toUpper]
    split
    · exact readBits_capitals 1 rest
    · cases exponent? c with
      | none => rfl
      | some e =>
        cases rest with
        | nil => rfl
        | cons i more =>
          have second : capitals (i :: more) = i.toUpper :: capitals more := rfl
          have whole := readBytes_capitals (Nat.pow 1000 e) (i :: more)
          rw [second] at whole ⊢
          dsimp only
          rw [isLetter_toUpper]
          split
          · exact readBytes_capitals _ more
          · exact whole

end SizeUnit

/-! ### Numbers -/

namespace MemorySize

theorem readDecimals_capitals (x : Decimal) (place : Nat) (cs : List Char) :
    (readDecimals x place (capitals cs)).toOption =
      (readDecimals x place cs).toOption.map fun read => (read.1, capitals read.2) := by
  induction cs generalizing x place with
  | nil => rfl
  | cons c rest ih =>
    have first : capitals (c :: rest) = c.toUpper :: capitals rest := rfl
    rw [first, readDecimals, readDecimals, digit?_toUpper]
    cases Integer.digit? c with
    | none => rfl
    | some d =>
      dsimp only
      split
      · rfl
      · cases x.addDecimal place d with
        | none => rfl
        | some x => exact ih x (place + 1)

theorem readNumber_capitals (n : Nat) (cs : List Char) :
    (readNumber n (capitals cs)).toOption =
      (readNumber n cs).toOption.map fun read => (read.1, capitals read.2) := by
  induction cs generalizing n with
  | nil => rfl
  | cons c rest ih =>
    have first : capitals (c :: rest) = c.toUpper :: capitals rest := rfl
    by_cases point : c = '.'
    · rw [point]
      cases rest with
      | nil => rfl
      | cons c more =>
        have decimals := readDecimals_capitals ⟨n, 0⟩ 1 (c :: more)
        have second : capitals ('.' :: c :: more) = '.' :: c.toUpper :: capitals more := rfl
        rw [second, readNumber, readNumber, digit?_toUpper]
        split
        · rfl
        · exact decimals
    · have point' : c.toUpper ≠ '.' := fun same => point ((toUpper_eq_iff (by decide) (by decide) c).1 same)
      rw [first, readNumber, readNumber, digit?_toUpper]
      · cases Integer.digit? c with
        | none => rfl
        | some d =>
          dsimp only
          split
          · exact ih _
          · rfl
      · exact point
      · exact point'

/-- A size is the same in small and in capital letters. -/
theorem readBytes_capitals (text : String) :
    (readBytes (String.ofList (capitals text.toList))).toOption = (readBytes text).toOption := by
  unfold readBytes
  rw [String.toList_ofList, trim_capitals]
  cases Text.trim text.toList with
  | nil => rfl
  | cons c rest =>
    have first : capitals (c :: rest) = c.toUpper :: capitals rest := rfl
    rw [first]
    dsimp only
    rw [digit?_toUpper]
    cases Integer.digit? c with
    | none => rfl
    | some d =>
      have blank (c : Char) : (c.toUpper == ' ') = (c == ' ') :=
        apply_toUpper (· == ' ') (by decide) c
      dsimp only
      rw [toOption_bind, toOption_bind, readNumber_capitals]
      cases (readNumber d rest).toOption with
      | none => rfl
      | some read =>
        rw [Option.map_some, Option.bind_some, Option.bind_some]
        dsimp only
        rw [toOption_bind, toOption_bind, dropWhile_capitals blank, SizeUnit.read_capitals]

theorem readBytes_congr {text text' : String}
    (alike : capitals text.toList = capitals text'.toList) :
    (readBytes text).toOption = (readBytes text').toOption := by
  rw [← readBytes_capitals text, alike, readBytes_capitals]

/-! ### Limits -/

/-- A size of so many bytes is accepted exactly if it lies within the limits, and all of its whole
KiB are kept. -/
theorem read_eq_ok_iff {text : String} {kib : UInt32} :
    read text = .ok kib ↔ ∃ bytes, readBytes text = .ok bytes ∧
      8192 ≤ bytes ∧ bytes < 1 <<< 42 ∧ kib.toNat = bytes / 1024 := by
  have limit : 1 <<< 42 = 4398046511104 := by decide
  have size : UInt32.size = 4294967296 := rfl
  rw [limit]
  unfold read least
  rw [size]
  constructor
  · intro accepted
    split at accepted
    · cases accepted
    · rename_i bytes found
      dsimp only at accepted
      split at accepted
      · cases accepted
        refine ⟨bytes, found, by omega, by omega, ?_⟩
        rw [UInt32.toNat_ofNat']
        apply Nat.mod_eq_of_lt
        omega
      · cases accepted
  · intro within
    obtain ⟨bytes, found, least, greatest, exact⟩ := within
    rw [found]
    dsimp only
    rw [if_pos (by omega), ← exact, UInt32.ofNat_toNat]

theorem accepts_iff {text : String} {bytes : Nat} (found : readBytes text = .ok bytes) :
    (∃ kib, read text = .ok kib) ↔ 8192 ≤ bytes ∧ bytes < 1 <<< 42 := by
  constructor
  · intro accepted
    obtain ⟨kib, accepted⟩ := accepted
    obtain ⟨_, found', least, greatest, _⟩ := read_eq_ok_iff.1 accepted
    cases found.symm.trans found'
    exact ⟨least, greatest⟩
  · intro within
    have limit : 1 <<< 42 = 4398046511104 := by decide
    refine ⟨UInt32.ofNat (bytes / 1024), read_eq_ok_iff.2
      ⟨bytes, found, within.1, within.2, ?_⟩⟩
    rw [UInt32.toNat_ofNat']
    apply Nat.mod_eq_of_lt
    have below := within.2
    omega

/-- The largest size that is accepted, and the next one. -/
example : (read "4398046511103").toOption = some 4294967295 ∧
    (read "4TiB").toOption = none := by
  decide +kernel

end MemorySize

end Coffer.CommandLine
