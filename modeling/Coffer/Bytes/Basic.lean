/-!
# Byte strings

Byte strings, byte strings of a fixed length, and the little-endian encoding of natural numbers.
Reading back what was written gives the number modulo the width, and writing what was read gives
the bytes.
-/

set_option autoImplicit false
set_option relaxedAutoImplicit false

namespace Coffer

/-- A byte string. -/
abbrev Bytes := List UInt8

/-- Byte strings of exactly `n` bytes. -/
abbrev Octets (n : Nat) := { b : Bytes // b.length = n }

namespace Octets

variable {n : Nat}

/-- The bytes themselves, provided that there are `n` of them. -/
def ofBytes? (n : Nat) (b : Bytes) : Option (Octets n) :=
  if h : b.length = n then some ⟨b, h⟩ else none

def zero (n : Nat) : Octets n := ⟨List.replicate n 0, List.length_replicate⟩

instance : Inhabited (Octets n) := ⟨zero n⟩

@[simp] theorem length_val (b : Octets n) : b.val.length = n := b.property

@[simp] theorem ofBytes?_val (b : Octets n) : ofBytes? n b.val = some b := by
  simp [ofBytes?, b.property]

theorem ofBytes?_eq_some_iff {b : Bytes} {o : Octets n} : ofBytes? n b = some o ↔ o.val = b := by
  constructor
  · intro h
    unfold ofBytes? at h
    split at h
    · cases h; rfl
    · cases h
  · rintro rfl
    exact ofBytes?_val o

theorem ofBytes?_of_length {b : Bytes} (h : b.length = n) : ofBytes? n b = some ⟨b, h⟩ := by
  simp [ofBytes?, h]

end Octets

/-- The `width` low bytes of `n`, least significant first. -/
def littleEndian : Nat → Nat → Bytes
  | 0, _ => []
  | width + 1, n => UInt8.ofNat (n % 256) :: littleEndian width (n / 256)

/-- The number whose bytes are given, least significant first. -/
def ofLittleEndian : Bytes → Nat
  | [] => 0
  | b :: rest => b.toNat + 256 * ofLittleEndian rest

@[simp] theorem length_littleEndian (width n : Nat) : (littleEndian width n).length = width := by
  induction width generalizing n with
  | zero => rfl
  | succ width ih => simp [littleEndian, ih]

private theorem one_shiftLeft_byte (width : Nat) :
    1 <<< (8 * (width + 1)) = 256 * 1 <<< (8 * width) := by
  rw [Nat.one_shiftLeft, Nat.one_shiftLeft, Nat.mul_add, Nat.pow_add]
  exact Nat.mul_comm _ _

/-- Reading drops what did not fit into the width, and nothing else. -/
theorem ofLittleEndian_littleEndian (width n : Nat) :
    ofLittleEndian (littleEndian width n) = n % (1 <<< (8 * width)) := by
  induction width generalizing n with
  | zero => simp [littleEndian, ofLittleEndian, Nat.mod_one]
  | succ width ih =>
    have low : (UInt8.ofNat (n % 256)).toNat = n % 256 := by
      simp [UInt8.toNat_ofNat']
    rw [littleEndian, ofLittleEndian, ih, low, one_shiftLeft_byte, Nat.mod_mul]

theorem ofLittleEndian_lt (b : Bytes) : ofLittleEndian b < 1 <<< (8 * b.length) := by
  induction b with
  | nil => simp [ofLittleEndian]
  | cons x rest ih =>
    have := x.toNat_lt
    rw [ofLittleEndian, List.length_cons, one_shiftLeft_byte]
    omega

/-- Writing what was read restores the bytes. -/
theorem littleEndian_ofLittleEndian (b : Bytes) :
    littleEndian b.length (ofLittleEndian b) = b := by
  induction b with
  | nil => rfl
  | cons x rest ih =>
    have bound : x.toNat < 256 := x.toNat_lt
    have low : (x.toNat + 256 * ofLittleEndian rest) % 256 = x.toNat := by omega
    have high : (x.toNat + 256 * ofLittleEndian rest) / 256 = ofLittleEndian rest := by omega
    rw [List.length_cons, littleEndian, ofLittleEndian, low, high, ih, UInt8.ofNat_toNat]

/-- The four bytes of a 32-bit word, least significant first. -/
def wordBytes (w : UInt32) : Bytes := littleEndian 4 w.toNat

/-- The 32-bit word whose bytes are given, least significant first. -/
def wordOfBytes (b : Bytes) : UInt32 := UInt32.ofNat (ofLittleEndian b)

@[simp] theorem length_wordBytes (w : UInt32) : (wordBytes w).length = 4 := by
  simp [wordBytes]

@[simp] theorem wordOfBytes_wordBytes (w : UInt32) : wordOfBytes (wordBytes w) = w := by
  have bound : w.toNat < 1 <<< (8 * 4) := w.toNat_lt
  rw [wordOfBytes, wordBytes, ofLittleEndian_littleEndian, Nat.mod_eq_of_lt bound,
    UInt32.ofNat_toNat]

theorem wordBytes_wordOfBytes {b : Bytes} (h : b.length = 4) : wordBytes (wordOfBytes b) = b := by
  have bound := ofLittleEndian_lt b
  rw [h] at bound
  have back : (wordOfBytes b).toNat = ofLittleEndian b := by
    simp only [wordOfBytes, UInt32.toNat_ofNat']
    omega
  rw [wordBytes, back, ← h, littleEndian_ofLittleEndian]

/-- Consecutive pieces of `size` bytes; the last one may be shorter. -/
def chunks (size : Nat) (b : Bytes) : List Bytes :=
  if _h : b = [] ∨ size = 0 then [] else b.take size :: chunks size (b.drop size)
termination_by b.length
decreasing_by
  have : 0 < b.length := List.length_pos_iff.2 (by simp_all)
  simp only [List.length_drop]
  omega

/-- Pads with zeros up to a length that is a multiple of `size`. -/
def padTo (size : Nat) (b : Bytes) : Bytes :=
  b ++ List.replicate ((size - b.length % size) % size) 0

end Coffer
