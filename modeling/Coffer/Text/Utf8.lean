import Coffer.Bytes.Basic

/-!
# UTF-8

Cutting a byte string into characters and stray bytes. A stray piece is the longest beginning of a
character that is not completed, or a single byte that begins none; a text is a byte string without
stray pieces.
-/

set_option autoImplicit false
set_option relaxedAutoImplicit false

namespace Coffer.Utf8

def encode (s : String) : Bytes := s.toUTF8.toList

/-- A character, or bytes that belong to no character. -/
inductive Piece
  | char (c : Char)
  | stray (b : Bytes)
  deriving DecidableEq, Repr

/-- The ranges in which the bytes after a lead byte lie; some bytes lead no character. -/
def followers? (lead : UInt8) : Option (List (UInt8 × UInt8)) :=
  if lead ≤ 0x7f then some []
  else if 0xc2 ≤ lead ∧ lead ≤ 0xdf then some [(0x80, 0xbf)]
  else if lead = 0xe0 then some [(0xa0, 0xbf), (0x80, 0xbf)]
  else if lead = 0xed then some [(0x80, 0x9f), (0x80, 0xbf)]
  else if 0xe1 ≤ lead ∧ lead ≤ 0xef then some [(0x80, 0xbf), (0x80, 0xbf)]
  else if lead = 0xf0 then some [(0x90, 0xbf), (0x80, 0xbf), (0x80, 0xbf)]
  else if 0xf1 ≤ lead ∧ lead ≤ 0xf3 then some [(0x80, 0xbf), (0x80, 0xbf), (0x80, 0xbf)]
  else if lead = 0xf4 then some [(0x80, 0x8f), (0x80, 0xbf), (0x80, 0xbf)]
  else none

/-- The bytes from the front that lie in their ranges, and the rest. -/
def spanRanges : List (UInt8 × UInt8) → Bytes → Bytes × Bytes
  | (least, greatest) :: ranges, b :: rest =>
    if least ≤ b ∧ b ≤ greatest then
      let (inside, rest) := spanRanges ranges rest
      (b :: inside, rest)
    else ([], b :: rest)
  | _, b => ([], b)

theorem length_spanRanges_le (ranges : List (UInt8 × UInt8)) (b : Bytes) :
    (spanRanges ranges b).2.length ≤ b.length := by
  fun_induction spanRanges ranges b with
  | case1 _ _ _ b rest _ inside left h ih =>
    simp only [h] at ih
    exact Nat.le_succ_of_le ih
  | case2 => exact Nat.le_refl _
  | case3 => exact Nat.le_refl _

/-- The code point of a lead byte and the bytes after it. -/
def codePoint (lead : UInt8) (tail : Bytes) : Nat :=
  let high := match tail.length with
    | 0 => lead.toNat
    | 1 => lead.toNat % 32
    | 2 => lead.toNat % 16
    | _ => lead.toNat % 8
  tail.foldl (fun n b => n * 64 + b.toNat % 64) high

/-- The piece that a byte begins, and the bytes after it. -/
def next (lead : UInt8) (rest : Bytes) : Piece × Bytes :=
  match followers? lead with
  | none => (.stray [lead], rest)
  | some ranges =>
    let (tail, rest) := spanRanges ranges rest
    if tail.length = ranges.length then (.char (Char.ofNat (codePoint lead tail)), rest)
    else (.stray (lead :: tail), rest)

theorem length_next_le (lead : UInt8) (rest : Bytes) : (next lead rest).2.length ≤ rest.length := by
  unfold next
  split
  · exact Nat.le_refl _
  · rename_i ranges _
    have := length_spanRanges_le ranges rest
    dsimp only
    split <;> exact this

def pieces : Bytes → List Piece
  | [] => []
  | lead :: rest => (next lead rest).1 :: pieces (next lead rest).2
termination_by b => b.length
decreasing_by
  have := length_next_le lead rest
  simp only [List.length_cons]
  omega

def Piece.char? : Piece → Option Char
  | char c => some c
  | stray _ => none

/-- The text that the bytes are, if they are one. -/
def decode? (b : Bytes) : Option String := ((pieces b).mapM Piece.char?).map String.ofList

/-- The text of the bytes, with a replacement character for each stray piece. -/
def lossy (b : Bytes) : String :=
  String.ofList ((pieces b).map fun piece => piece.char?.getD '\ufffd')

end Coffer.Utf8
