import Coffer.Bytes.Basic
import Coffer.Words

/-!
# BLAKE2b

The hash function BLAKE2b with any digest length up to 64 bytes, with and without a key. The keyed
form is a message authentication code.
-/

set_option autoImplicit false
set_option relaxedAutoImplicit false

namespace Coffer.Blake2b

def initial : Vector UInt64 8 :=
  #v[0x6a09e667f3bcc908, 0xbb67ae8584caa73b, 0x3c6ef372fe94f82b, 0xa54ff53a5f1d36f1,
    0x510e527fade682d1, 0x9b05688c2b3e6c1f, 0x1f83d9abfb41bd6b, 0x5be0cd19137e2179]

/-- The order in which each of the twelve rounds takes the sixteen words of a message block. -/
def schedule : List (Vector (Fin 16) 16) :=
  [#v[0, 1, 2, 3, 4, 5, 6, 7, 8, 9, 10, 11, 12, 13, 14, 15],
    #v[14, 10, 4, 8, 9, 15, 13, 6, 1, 12, 0, 2, 11, 7, 5, 3],
    #v[11, 8, 12, 0, 5, 2, 15, 13, 10, 14, 3, 6, 7, 1, 9, 4],
    #v[7, 9, 3, 1, 13, 12, 11, 14, 2, 6, 5, 10, 4, 0, 15, 8],
    #v[9, 0, 5, 7, 2, 4, 10, 15, 14, 1, 11, 12, 6, 8, 3, 13],
    #v[2, 12, 6, 10, 0, 11, 8, 3, 4, 13, 7, 5, 15, 14, 1, 9],
    #v[12, 5, 1, 15, 14, 13, 4, 10, 0, 7, 6, 3, 9, 2, 8, 11],
    #v[13, 11, 7, 14, 12, 1, 3, 9, 5, 0, 15, 4, 8, 6, 2, 10],
    #v[6, 15, 14, 9, 11, 3, 0, 8, 12, 2, 13, 7, 1, 4, 10, 5],
    #v[10, 2, 8, 4, 7, 6, 1, 5, 15, 11, 9, 14, 3, 12, 13, 0],
    #v[0, 1, 2, 3, 4, 5, 6, 7, 8, 9, 10, 11, 12, 13, 14, 15],
    #v[14, 10, 4, 8, 9, 15, 13, 6, 1, 12, 0, 2, 11, 7, 5, 3]]

/-- Mixes two message words into four state words. -/
@[inline] def mix (x y a b c d : UInt64) : Quad :=
  let a := a + b + x
  let d := rotateRight64 (d ^^^ a) 32
  let c := c + d
  let b := rotateRight64 (b ^^^ c) 24
  let a := a + b + y
  let d := rotateRight64 (d ^^^ a) 16
  let c := c + d
  let b := rotateRight64 (b ^^^ c) 63
  ⟨a, b, c, d⟩

abbrev Chain := Vector UInt64 8

/-- Takes one block of sixteen words into the chain; `count` bytes have been taken with it. -/
def compress (h : Chain) (m : Vector UInt64 16) (count : Nat) (last : Bool) : Chain :=
  let start : Square :=
    ⟨h[0], h[1], h[2], h[3], h[4], h[5], h[6], h[7],
      initial[0], initial[1], initial[2], initial[3],
      initial[4] ^^^ UInt64.ofNat count, initial[5] ^^^ UInt64.ofNat (count / UInt64.size),
      if last then ~~~initial[6] else initial[6], initial[7]⟩
  let s := schedule.foldl
    (fun s row => s.round fun i a b c d =>
      mix (m.get (row.get ⟨2 * i.val, by omega⟩)) (m.get (row.get ⟨2 * i.val + 1, by omega⟩))
        a b c d)
    start
  #v[h[0] ^^^ s.w0 ^^^ s.w8, h[1] ^^^ s.w1 ^^^ s.w9, h[2] ^^^ s.w2 ^^^ s.w10,
    h[3] ^^^ s.w3 ^^^ s.w11, h[4] ^^^ s.w4 ^^^ s.w12, h[5] ^^^ s.w5 ^^^ s.w13,
    h[6] ^^^ s.w6 ^^^ s.w14, h[7] ^^^ s.w7 ^^^ s.w15]

/-- The sixteen little-endian words of a message block; a short block counts as filled up
with zeros. -/
def words (block : Bytes) : Vector UInt64 16 :=
  Vector.ofFn fun i => UInt64.ofNat (ofLittleEndian ((block.drop (8 * i.val)).take 8))

/-- Takes message blocks into the chain, the last of them marked as such. -/
def absorb (h : Chain) (count : Nat) : List Bytes → Chain
  | [] => h
  | [block] => compress h (words block) (count + block.length) true
  | block :: rest => absorb (compress h (words block) (count + 128) false) (count + 128) rest

/-- The message blocks of a hash: the key fills a block of its own, and there is always a block. -/
def blocks (key data : Bytes) : List Bytes :=
  let all := if key.isEmpty then data else key ++ List.replicate (128 - key.length) 0 ++ data
  if all.isEmpty then [[]] else chunks 128 all

/-- The chain before the first block, which depends on the digest length and the key length. -/
def start (length keyLength : Nat) : Chain :=
  initial.set 0
    (initial[0] ^^^ (0x01010000 : UInt64) ^^^ (UInt64.ofNat keyLength <<< 8) ^^^
      UInt64.ofNat length)

/-- The digest of `length` bytes of `data` under a key of at most 64 bytes; no key is the
empty one. -/
def hash (length : Nat) (key data : Bytes) : Bytes :=
  let h := absorb (start length key.length) 0 (blocks key data)
  (h.toList.flatMap fun w => littleEndian 8 w.toNat).take length

private theorem length_flatMap_words (l : List UInt64) :
    (l.flatMap fun w => littleEndian 8 w.toNat).length = 8 * l.length := by
  induction l with
  | nil => rfl
  | cons w rest ih =>
    rw [List.flatMap_cons, List.length_append, length_littleEndian, ih, List.length_cons]
    omega

theorem length_hash {length : Nat} (h : length ≤ 64) (key data : Bytes) :
    (hash length key data).length = length := by
  simp only [hash, List.length_take, length_flatMap_words, Vector.length_toList]
  omega

/-- The 64-byte authentication code of `data` under a 64-byte key. -/
def mac (key : Octets 64) (data : Bytes) : Octets 64 :=
  ⟨hash 64 key.val data, length_hash (by omega) _ _⟩

end Coffer.Blake2b
