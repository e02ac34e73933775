import Coffer.Argon2.Block
import Coffer.Argon2.Settings

/-!
# Memory of Argon2

The memory is a matrix of blocks, one row for each lane, cut into four slices. It is filled slice by
slice: every new block is compressed from the block before it and from an earlier block, which is
chosen by a 64-bit number. That number comes from the block before or from an address block.
-/

set_option autoImplicit false
set_option relaxedAutoImplicit false

namespace Coffer.Argon2

/-- The shape of the memory, and the way in which it is filled. -/
structure Shape where
  variant : Variant
  version : Version
  /-- The number of passes. -/
  passes : Nat
  /-- The number of lanes. -/
  lanes : Nat
  /-- The number of blocks of a lane in one slice. -/
  segment : Nat

namespace Shape

def laneLength (s : Shape) : Nat := 4 * s.segment

def size (s : Shape) : Nat := s.lanes * s.laneLength

/-- The shape for given costs; the memory is rounded down to whole segments. -/
def ofSettings (variant : Variant) (version : Version) (c : Settings) : Shape where
  variant := variant
  version := version
  passes := c.time.toNat
  lanes := c.lanes.toNat
  segment := c.memory.toNat / (4 * c.lanes.toNat)

end Shape

/-- The blocks of all lanes, lane after lane. -/
abbrev Memory := Array Block

/-- The part of a lane that is filled in one slice of one pass. -/
structure Segment where
  pass : Nat
  slice : Nat
  lane : Nat

namespace Segment

variable (s : Shape) (g : Segment)

/-- Whether the blocks to refer to are chosen independently of the data. -/
def independent : Bool :=
  match s.variant with
  | .argon2d => false
  | .argon2i => true
  | .argon2id => g.pass == 0 && g.slice < 2

def addressBlock (counter : Nat) : Block :=
  let number (n : Nat) : UInt64 := UInt64.ofNat n
  let input : Block :=
    { Block.zero with
      r0 := { Square.zero with
        w0 := number g.pass
        w1 := number g.lane
        w2 := number g.slice
        w3 := number s.size
        w4 := number s.passes
        w5 := number s.variant.number.toNat
        w6 := number counter } }
  Block.compress .zero (Block.compress .zero input)

/-- The numbers that choose blocks independently of the data, one for each block of the segment. -/
def addresses : Array UInt64 :=
  (List.range ((s.segment + 127) / 128)).foldl
    (fun all i => (addressBlock s g (i + 1)).words.foldl Array.push all) #[]

/-- How many blocks may be referred to from the block at `index`. -/
def reachable (index : Nat) (sameLane : Bool) : Nat :=
  let finished := if g.pass = 0 then g.slice * s.segment else s.laneLength - s.segment
  if sameLane then finished + index - 1
  else if index = 0 then finished - 1
  else finished

/-- The lane and position of the block that the number `choice` refers to. -/
def reference (index : Nat) (choice : UInt64) : Nat × Nat :=
  let low := (choice &&& 0xffffffff).toNat
  let high := (choice >>> 32).toNat
  let lane := if g.pass = 0 ∧ g.slice = 0 then g.lane else high % s.lanes
  let area := reachable s g index (lane == g.lane)
  let distance := area * (low * low / UInt32.size) / UInt32.size
  let first := if g.pass = 0 ∨ g.slice = 3 then 0 else (g.slice + 1) * s.segment
  (lane, (first + (area - 1 - distance)) % s.laneLength)

def step (choices : Option (Array UInt64)) (m : Memory) (index : Nat) : Memory :=
  let base := g.lane * s.laneLength
  let position := g.slice * s.segment + index
  let previous := m.getD (base + (position + s.laneLength - 1) % s.laneLength) .zero
  let choice :=
    match choices with
    | some all => all.getD index 0
    | none => previous.r0.w0
  let target := reference s g index choice
  let other := m.getD (target.1 * s.laneLength + target.2) .zero
  let fresh := previous.compress other
  let kept :=
    if g.pass = 0 ∨ s.version = .v0x10 then fresh
    else fresh.xor (m.getD (base + position) .zero)
  m.setIfInBounds (base + position) kept

/-- Fills the segment; the first two blocks of a lane stand already. -/
def fill (m : Memory) : Memory :=
  let choices := if independent s g then some (addresses s g) else none
  let first := if g.pass = 0 ∧ g.slice = 0 then 2 else 0
  (List.range' first (s.segment - first)).foldl (step s g choices) m

end Segment

/-- The segments in the order in which they are filled. -/
def Shape.segments (s : Shape) : List Segment :=
  (List.range s.passes).flatMap fun pass =>
    (List.range 4).flatMap fun slice =>
      (List.range s.lanes).map fun lane => ⟨pass, slice, lane⟩

/-- Fills the whole memory, of which the first two blocks of each lane stand already. -/
def Memory.fill (s : Shape) (m : Memory) : Memory :=
  s.segments.foldl (fun m g => g.fill s m) m

end Coffer.Argon2
