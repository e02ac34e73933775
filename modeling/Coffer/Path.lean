import Coffer.Text.Utf8

/-!
# Paths

A path is a byte string of names between slashes. Empty pieces, and dots that are not in front, do
not matter when a path is cut into a directory and a last name.
-/

set_option autoImplicit false
set_option relaxedAutoImplicit false

namespace Coffer

/-- The path of a file, as it is written. -/
abbrev Path := Bytes

namespace Path

def slash : UInt8 := 0x2f

def dot : Bytes := [0x2e]

/-- The name in a directory of the directory above it. -/
def dotDot : Bytes := [0x2e, 0x2e]

/-- The pieces between the slashes; there is always one more than there are slashes. -/
def pieces : Path → List Bytes
  | [] => [[]]
  | b :: rest =>
    if b = slash then [] :: pieces rest
    else
      match pieces rest with
      | piece :: more => (b :: piece) :: more
      | [] => [[b]]

def join : List Bytes → Path
  | [] => []
  | [piece] => piece
  | piece :: more => piece ++ slash :: join more

theorem pieces_ne_nil (p : Path) : pieces p ≠ [] := by
  cases p with
  | nil => simp [pieces]
  | cons b rest =>
    unfold pieces
    split
    · simp
    · split <;> simp

/-- Cutting a path and joining its pieces gives the path. -/
theorem join_pieces (p : Path) : join (pieces p) = p := by
  induction p with
  | nil => rfl
  | cons b rest ih =>
    have some_piece := pieces_ne_nil rest
    unfold pieces
    split
    · rename_i h
      cases shape : pieces rest with
      | nil => exact absurd shape some_piece
      | cons piece more =>
        change slash :: join (piece :: more) = b :: rest
        rw [← shape, ih, h]
    · cases shape : pieces rest with
      | nil => exact absurd shape some_piece
      | cons piece more =>
        rw [shape] at ih
        cases more with
        | nil => simpa [join] using ih
        | cons next more =>
          simp only [join] at ih ⊢
          rw [← ih]
          rfl

def isAbsolute (p : Path) : Bool := p.head? == some slash

def display (p : Path) : String := Utf8.lossy p

/-- Whether a piece, other than the first, does not matter. -/
def isIdle (piece : Bytes) : Bool := piece == [] || piece == dot

/-- The pieces without the last one that matters, and without idle ones at the end. -/
def butLast (ps : List Bytes) : List Bytes :=
  (((ps.reverse.dropWhile isIdle).drop 1).dropWhile isIdle).reverse

/-- The directory that the last name of the path is in. -/
def directory (p : Path) : Path :=
  let parent :=
    if p.isAbsolute then
      let ps := pieces p.tail
      if ps.all isIdle then [] else slash :: join (butLast ps)
    else
      match pieces p with
      | first :: more =>
        if first = dot then
          if more.all isIdle then [] else join (first :: butLast more)
        else join (butLast (first :: more))
      | [] => []
  if parent = [] then dot else parent

/-- The path of something that is below a directory, unless it is absolute. -/
def under (directory p : Path) : Path :=
  if p.isAbsolute then p
  else if directory.getLast? = some slash then directory ++ p
  else directory ++ slash :: p

end Path

end Coffer
