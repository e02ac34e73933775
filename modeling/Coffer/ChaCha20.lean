import Coffer.Bytes.Basic
import Coffer.Words

/-!
# ChaCha20

The block function of ChaCha20, the derivation of a subkey from the first part of a long nonce, and
the keystream of XChaCha20. Applying a keystream twice restores the data.
-/

set_option autoImplicit false
set_option relaxedAutoImplicit false

namespace Coffer.ChaCha20

abbrev State := Vector UInt32 16

def quarterRound (s : State) (i j k l : Fin 16) : State :=
  let a := s.get i + s.get j
  let d := rotateLeft32 (s.get l ^^^ a) 16
  let c := s.get k + d
  let b := rotateLeft32 (s.get j ^^^ c) 12
  let a := a + b
  let d := rotateLeft32 (d ^^^ a) 8
  let c := c + d
  let b := rotateLeft32 (b ^^^ c) 7
  (((s.set i a).set j b).set k c).set l d

/-- The place of the word in a row and a column; columns are counted round. -/
def place (row : Fin 4) (column : Nat) : Fin 16 := ⟨4 * row.val + column % 4, by omega⟩

/-- Mixes the words that start at a column of the first row, each row turned against the
one before. -/
def mixFrom (turn : Nat) (s : State) (column : Nat) : State :=
  quarterRound s (place 0 column) (place 1 (column + turn)) (place 2 (column + 2 * turn))
    (place 3 (column + 3 * turn))

/-- A round on the columns and a round on the diagonals. -/
def doubleRound (s : State) : State :=
  (List.range 4).foldl (mixFrom 1) ((List.range 4).foldl (mixFrom 0) s)

/-- Twenty rounds. -/
def permute (s : State) : State :=
  (List.range 10).foldl (fun s _ => doubleRound s) s

/-- The word at index `i` of a byte string; missing bytes count as zeros. -/
def wordAt (b : Bytes) (i : Nat) : UInt32 := wordOfBytes ((b.drop (4 * i)).take 4)

/-- The state that starts from the constants, a key of 32 bytes and 16 further bytes. -/
def start (key tail : Bytes) : State :=
  #v[0x61707865, 0x3320646e, 0x79622d32, 0x6b206574,
    wordAt key 0, wordAt key 1, wordAt key 2, wordAt key 3,
    wordAt key 4, wordAt key 5, wordAt key 6, wordAt key 7,
    wordAt tail 0, wordAt tail 1, wordAt tail 2, wordAt tail 3]

/-- The 64 bytes of keystream at a block counter, under a nonce of 12 bytes. -/
def block (key nonce : Bytes) (counter : Nat) : Bytes :=
  let s := start key (littleEndian 4 counter ++ nonce)
  (Vector.zipWith (· + ·) s (permute s)).toList.flatMap wordBytes

/-- The subkey for a key and the first 16 bytes of a long nonce. -/
def subkey (key head : Bytes) : Bytes :=
  let s := permute (start key head)
  [s[0], s[1], s[2], s[3], s[12], s[13], s[14], s[15]].flatMap wordBytes

private theorem length_flatMap_wordBytes (l : List UInt32) :
    (l.flatMap wordBytes).length = 4 * l.length := by
  induction l with
  | nil => rfl
  | cons w rest ih =>
    rw [List.flatMap_cons, List.length_append, length_wordBytes, ih, List.length_cons]
    omega

@[simp] theorem length_block (key nonce : Bytes) (counter : Nat) :
    (block key nonce counter).length = 64 := by
  simp only [block, length_flatMap_wordBytes, Vector.length_toList]

/-- The block of keystream at a block counter, under a key of 32 bytes and a nonce of 24 bytes. -/
def longBlock (key : Octets 32) (nonce : Octets 24) : Nat → Bytes :=
  let inner := subkey key.val (nonce.val.take 16)
  let rest := List.replicate 4 0 ++ nonce.val.drop 16
  fun counter => block inner rest counter

@[simp] theorem length_longBlock (key : Octets 32) (nonce : Octets 24) (counter : Nat) :
    (longBlock key nonce counter).length = 64 := length_block _ _ _

/-- The first `length` bytes of the keystream that starts at block counter 1. -/
def keystream (key : Octets 32) (nonce : Octets 24) (length : Nat) : Bytes :=
  let block := longBlock key nonce
  ((List.range ((length + 63) / 64)).flatMap fun i => block (i + 1)).take length

private theorem length_flatMap_block (key : Octets 32) (nonce : Octets 24) (l : List Nat) :
    (l.flatMap fun i => longBlock key nonce (i + 1)).length = 64 * l.length := by
  induction l with
  | nil => rfl
  | cons i rest ih =>
    rw [List.flatMap_cons, List.length_append, length_longBlock, ih, List.length_cons]
    omega

@[simp] theorem length_keystream (key : Octets 32) (nonce : Octets 24) (length : Nat) :
    (keystream key nonce length).length = length := by
  simp only [keystream, List.length_take, length_flatMap_block, List.length_range]
  omega

/-- Adds the keystream to the data without carry. -/
def apply (key : Octets 32) (nonce : Octets 24) (data : Bytes) : Bytes :=
  List.zipWith (· ^^^ ·) data (keystream key nonce data.length)

@[simp] theorem length_apply (key : Octets 32) (nonce : Octets 24) (data : Bytes) :
    (apply key nonce data).length = data.length := by
  simp [apply]

private theorem zipWith_xor_xor (a k : Bytes) (h : a.length ≤ k.length) :
    List.zipWith (· ^^^ ·) (List.zipWith (· ^^^ ·) a k) k = a := by
  induction a generalizing k with
  | nil => simp
  | cons x rest ih =>
    cases k with
    | nil => simp at h
    | cons y k => simpa [UInt8.xor_assoc] using ih k (by simpa using h)

/-- Applying the keystream twice restores the data. -/
@[simp] theorem apply_apply (key : Octets 32) (nonce : Octets 24) (data : Bytes) :
    apply key nonce (apply key nonce data) = data := by
  unfold apply
  rw [List.length_zipWith, length_keystream, Nat.min_self]
  exact zipWith_xor_xor _ _ (by simp)

end Coffer.ChaCha20
