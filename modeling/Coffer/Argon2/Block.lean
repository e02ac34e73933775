import Coffer.Bytes.Basic
import Coffer.Words

/-!
# Blocks of Argon2

A block is 1024 bytes, held as eight rows of sixteen 64-bit words. Two blocks are compressed into
one by adding them without carry and mixing first the rows and then the columns of the sum.
-/

set_option autoImplicit false
set_option relaxedAutoImplicit false

namespace Coffer.Argon2

/-- Eight rows of sixteen words. -/
structure Block where
  r0 : Square
  r1 : Square
  r2 : Square
  r3 : Square
  r4 : Square
  r5 : Square
  r6 : Square
  r7 : Square

namespace Block

def zero : Block := ⟨.zero, .zero, .zero, .zero, .zero, .zero, .zero, .zero⟩

instance : Inhabited Block := ⟨zero⟩

def words (b : Block) : List UInt64 :=
  b.r0.toList ++ b.r1.toList ++ b.r2.toList ++ b.r3.toList ++
    b.r4.toList ++ b.r5.toList ++ b.r6.toList ++ b.r7.toList

/-- The 1024 bytes, each word least significant byte first. -/
def toBytes (b : Block) : Bytes := b.words.flatMap fun w => littleEndian 8 w.toNat

def xor (a b : Block) : Block :=
  ⟨a.r0.xor b.r0, a.r1.xor b.r1, a.r2.xor b.r2, a.r3.xor b.r3,
    a.r4.xor b.r4, a.r5.xor b.r5, a.r6.xor b.r6, a.r7.xor b.r7⟩

@[inline] def mapRows (f : Square → Square) (b : Block) : Block :=
  ⟨f b.r0, f b.r1, f b.r2, f b.r3, f b.r4, f b.r5, f b.r6, f b.r7⟩

/-- Exchanges rows and columns, two words at a time. -/
def transpose (b : Block) : Block :=
  ⟨⟨b.r0.w0, b.r0.w1, b.r1.w0, b.r1.w1, b.r2.w0, b.r2.w1, b.r3.w0, b.r3.w1,
        b.r4.w0, b.r4.w1, b.r5.w0, b.r5.w1, b.r6.w0, b.r6.w1, b.r7.w0, b.r7.w1⟩,
      ⟨b.r0.w2, b.r0.w3, b.r1.w2, b.r1.w3, b.r2.w2, b.r2.w3, b.r3.w2, b.r3.w3,
        b.r4.w2, b.r4.w3, b.r5.w2, b.r5.w3, b.r6.w2, b.r6.w3, b.r7.w2, b.r7.w3⟩,
      ⟨b.r0.w4, b.r0.w5, b.r1.w4, b.r1.w5, b.r2.w4, b.r2.w5, b.r3.w4, b.r3.w5,
        b.r4.w4, b.r4.w5, b.r5.w4, b.r5.w5, b.r6.w4, b.r6.w5, b.r7.w4, b.r7.w5⟩,
      ⟨b.r0.w6, b.r0.w7, b.r1.w6, b.r1.w7, b.r2.w6, b.r2.w7, b.r3.w6, b.r3.w7,
        b.r4.w6, b.r4.w7, b.r5.w6, b.r5.w7, b.r6.w6, b.r6.w7, b.r7.w6, b.r7.w7⟩,
      ⟨b.r0.w8, b.r0.w9, b.r1.w8, b.r1.w9, b.r2.w8, b.r2.w9, b.r3.w8, b.r3.w9,
        b.r4.w8, b.r4.w9, b.r5.w8, b.r5.w9, b.r6.w8, b.r6.w9, b.r7.w8, b.r7.w9⟩,
      ⟨b.r0.w10, b.r0.w11, b.r1.w10, b.r1.w11, b.r2.w10, b.r2.w11, b.r3.w10, b.r3.w11,
        b.r4.w10, b.r4.w11, b.r5.w10, b.r5.w11, b.r6.w10, b.r6.w11, b.r7.w10, b.r7.w11⟩,
      ⟨b.r0.w12, b.r0.w13, b.r1.w12, b.r1.w13, b.r2.w12, b.r2.w13, b.r3.w12, b.r3.w13,
        b.r4.w12, b.r4.w13, b.r5.w12, b.r5.w13, b.r6.w12, b.r6.w13, b.r7.w12, b.r7.w13⟩,
      ⟨b.r0.w14, b.r0.w15, b.r1.w14, b.r1.w15, b.r2.w14, b.r2.w15, b.r3.w14, b.r3.w15,
        b.r4.w14, b.r4.w15, b.r5.w14, b.r5.w15, b.r6.w14, b.r6.w15, b.r7.w14, b.r7.w15⟩⟩

/-- The sum of two words and twice the product of their low halves. -/
@[inline] def mulAdd (x y : UInt64) : UInt64 :=
  x + y + 2 * ((x &&& 0xffffffff) * (y &&& 0xffffffff))

/-- Mixes four words; multiplications take the place of message words. -/
@[inline] def mix (a b c d : UInt64) : Quad :=
  let a := mulAdd a b
  let d := rotateRight64 (d ^^^ a) 32
  let c := mulAdd c d
  let b := rotateRight64 (b ^^^ c) 24
  let a := mulAdd a b
  let d := rotateRight64 (d ^^^ a) 16
  let c := mulAdd c d
  let b := rotateRight64 (b ^^^ c) 63
  ⟨a, b, c, d⟩

def mixRow (s : Square) : Square := s.round fun _ a b c d => mix a b c d

/-- Compresses two blocks into one. -/
def compress (a b : Block) : Block :=
  let sum := a.xor b
  ((((sum.mapRows mixRow).transpose).mapRows mixRow).transpose).xor sum

/-- The row that holds the sixteen words whose bytes are given; missing bytes count as zeros. -/
def rowOfBytes (b : Bytes) : Square :=
  let w (i : Nat) : UInt64 := UInt64.ofNat (ofLittleEndian ((b.drop (8 * i)).take 8))
  ⟨w 0, w 1, w 2, w 3, w 4, w 5, w 6, w 7, w 8, w 9, w 10, w 11, w 12, w 13, w 14, w 15⟩

/-- The block whose bytes are given; missing bytes count as zeros. -/
def ofBytes (b : Bytes) : Block :=
  let row (i : Nat) : Square := rowOfBytes ((b.drop (128 * i)).take 128)
  ⟨row 0, row 1, row 2, row 3, row 4, row 5, row 6, row 7⟩

end Block

end Coffer.Argon2
