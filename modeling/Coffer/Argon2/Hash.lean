import Coffer.Argon2.Memory
import Coffer.Blake2b

/-!
# Argon2

The memory-hard hash of a password and a salt. `hash` has as many bytes as were asked for, and it is
refused only for a password that is too long.
-/

set_option autoImplicit false
set_option relaxedAutoImplicit false

namespace Coffer.Argon2

/-- The 64-byte digests that overlapping halves of a long hash are taken from. -/
def digestChain (v : Bytes) : Nat → List Bytes
  | 0 => []
  | n + 1 => v :: digestChain (Blake2b.hash 64 [] v) n

def digestAfter (v : Bytes) : Nat → Bytes
  | 0 => v
  | n + 1 => digestAfter (Blake2b.hash 64 [] v) n

/-- A hash of any length: a short one is a digest, a long one is put together from halves
of digests. -/
def longHash (length : Nat) (data : Bytes) : Bytes :=
  let input := littleEndian 4 length ++ data
  if length ≤ 64 then Blake2b.hash length [] input
  else
    let halves := (length + 31) / 32 - 2
    let first := Blake2b.hash 64 [] input
    (digestChain first halves).flatMap (·.take 32) ++
      Blake2b.hash (length - 32 * halves) [] (digestAfter first (halves - 1))

def prefixed (b : Bytes) : Bytes := littleEndian 4 b.length ++ b

/-- The digest of all inputs, from which the memory is filled. -/
def seed (variant : Variant) (version : Version) (c : Settings) (length : Nat)
    (password salt : Bytes) : Bytes :=
  Blake2b.hash 64 [] <|
    wordBytes c.lanes ++ littleEndian 4 length ++ wordBytes c.memory ++ wordBytes c.time ++
      wordBytes version.number ++ wordBytes variant.number ++
      prefixed password ++ prefixed salt ++ prefixed [] ++ prefixed []

/-- The block at the start of a lane that comes from the seed. -/
def firstBlock (seed : Bytes) (lane index : Nat) : Block :=
  .ofBytes (longHash 1024 (seed ++ littleEndian 4 index ++ littleEndian 4 lane))

/-- The memory before filling: two blocks of each lane stand. -/
def Memory.start (s : Shape) (seed : Bytes) : Memory :=
  (List.range s.lanes).foldl
    (fun m lane =>
      (m.setIfInBounds (lane * s.laneLength) (firstBlock seed lane 0)).setIfInBounds
        (lane * s.laneLength + 1) (firstBlock seed lane 1))
    (Array.replicate s.size .zero)

def Memory.lastBlocks (s : Shape) (m : Memory) : Block :=
  (List.range s.lanes).foldl
    (fun sum lane => sum.xor (m.getD (lane * s.laneLength + s.laneLength - 1) .zero)) .zero

/-- The `length` bytes that Argon2 gives for a password of any length. -/
def digest (variant : Variant) (version : Version) (c : Settings) (length : Nat)
    (password salt : Bytes) : Bytes :=
  let shape := Shape.ofSettings variant version c
  let seed := seed variant version c length password salt
  longHash length (((Memory.start shape seed).fill shape).lastBlocks shape).toBytes

theorem length_digestChain_halves {v : Bytes} (h : v.length = 64) (n : Nat) :
    ((digestChain v n).flatMap (·.take 32)).length = 32 * n := by
  induction n generalizing v with
  | zero => rfl
  | succ n ih =>
    rw [digestChain, List.flatMap_cons, List.length_append,
      ih (Blake2b.length_hash (by omega) _ _), List.length_take, h]
    omega

theorem length_longHash (length : Nat) (data : Bytes) : (longHash length data).length = length := by
  unfold longHash
  split
  · exact Blake2b.length_hash ‹_› _ _
  · have bound : length - 32 * ((length + 31) / 32 - 2) ≤ 64 := by omega
    simp only [List.length_append, Blake2b.length_hash bound]
    rw [length_digestChain_halves (Blake2b.length_hash (by omega) _ _)]
    omega

theorem length_digest (variant : Variant) (version : Version) (c : Settings) (length : Nat)
    (password salt : Bytes) : (digest variant version c length password salt).length = length :=
  length_longHash _ _

/-- The hash of a password and a salt, refused for a password that is too long. -/
def hash (variant : Variant) (version : Version) (c : Settings) (length : Nat)
    (password salt : Bytes) : Except Refusal (Octets length) :=
  if maxPasswordLength < password.length then .error .passwordTooLong
  else .ok ⟨digest variant version c length password salt, length_digest _ _ _ _ _ _⟩

end Coffer.Argon2
