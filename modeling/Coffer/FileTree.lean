import Coffer.Path
import Coffer.SystemError

/-!
# Trees of files

A tree of files maps locations, which are lists of names from the root, to files and
directories. A path is walked piece by piece from a working directory; every piece needs a
directory to start from.
-/

set_option autoImplicit false
set_option relaxedAutoImplicit false

namespace Coffer

/-- The names from the root to a place in the tree. -/
abbrev Location := List Bytes

/-- What is at a place in the tree. -/
inductive Entry
  | directory
  /-- A file, which only its owner may read or which others may read too. -/
  | file (content : Bytes) (isPrivate : Bool)
  deriving DecidableEq

/-- The files and directories below the root. -/
structure FileTree where
  entries : List (Location × Entry) := []
  deriving DecidableEq

namespace FileTree

/-- What is at a place; the root is a directory. -/
def find? (t : FileTree) (l : Location) : Option Entry :=
  if l = [] then some .directory else t.entries.lookup l

def erase (t : FileTree) (l : Location) : FileTree := ⟨t.entries.filter (·.1 != l)⟩

/-- Puts an entry at a place, instead of what was there. -/
def put (t : FileTree) (l : Location) (e : Entry) : FileTree :=
  ⟨(l, e) :: t.entries.filter (·.1 != l)⟩

private theorem lookup_filter_ne {l k : Location} (h : k ≠ l) (es : List (Location × Entry)) :
    (es.filter (·.1 != l)).lookup k = es.lookup k := by
  induction es with
  | nil => rfl
  | cons e es ih =>
    obtain ⟨place, entry⟩ := e
    by_cases here : place = l
    · subst here
      have other : (k == place) = false := by simpa using h
      simp [List.lookup_cons, ih, other]
    · simp [here, List.lookup_cons, ih]

theorem find?_put_self {t : FileTree} {l : Location} {e : Entry} (h : l ≠ []) :
    (t.put l e).find? l = some e := by
  simp [find?, put, h]

theorem find?_put_of_ne {t : FileTree} {l k : Location} {e : Entry} (h : k ≠ l) :
    (t.put l e).find? k = t.find? k := by
  have other : (k == l) = false := by simpa using h
  simp [find?, put, List.lookup_cons, other, lookup_filter_ne h]

theorem find?_erase_self {t : FileTree} {l : Location} (h : l ≠ []) :
    (t.erase l).find? l = none := by
  simp only [find?, erase, h, if_false]
  induction t.entries with
  | nil => rfl
  | cons e es ih =>
    obtain ⟨place, entry⟩ := e
    by_cases here : place = l
    · simpa [here] using ih
    · have other : (l == place) = false := by simpa using Ne.symm here
      simpa [here, List.lookup_cons, other] using ih

theorem find?_erase_of_ne {t : FileTree} {l k : Location} (h : k ≠ l) :
    (t.erase l).find? k = t.find? k := by
  simp [find?, erase, lookup_filter_ne h]

def maxNameLength : Nat := 255

/-- The least length of a path that is too long. -/
def pathLimit : Nat := 4096

/-- Goes from a directory to what a piece of a path names there. -/
def step (t : FileTree) (l : Location) (piece : Bytes) : Except SystemError Location :=
  match t.find? l with
  | none => .error .noEntry
  | some (.file _ _) => .error .notDirectory
  | some .directory =>
    if Path.isIdle piece then .ok l
    else if piece = Path.dotDot then .ok l.dropLast
    else if maxNameLength < piece.length then .error .nameTooLong
    else if (t.find? (l ++ [piece])).isSome then .ok (l ++ [piece])
    else .error .noEntry

/-- Where a path starts. -/
def start (here : Location) (p : Path) : Location := if p.isAbsolute then [] else here

def checkPath (p : Path) : Except SystemError Unit :=
  if p.contains 0 then .error .zeroInPath
  else if p = [] then .error .noEntry
  else if pathLimit ≤ p.length then .error .nameTooLong
  else .ok ()

def locate (t : FileTree) (here : Location) (p : Path) : Except SystemError Location := do
  checkPath p
  (Path.pieces p).foldlM (step t) (start here p)

/-- The last name of a path, in its directory. -/
structure Target where
  directory : Location
  /-- The last piece, unless it is idle or leads upwards. -/
  name? : Option Bytes
  /-- Whether a slash follows the last piece. -/
  slashed : Bool
  deriving DecidableEq

/-- Walks to the directory of the path's last piece. -/
def target (t : FileTree) (here : Location) (p : Path) : Except SystemError Target := do
  match (Path.pieces p).reverse.dropWhile (· == []) with
  | [] => return { directory := start here p, name? := none, slashed := true }
  | last :: before =>
    let directory ← before.reverse.foldlM (step t) (start here p)
    match t.find? directory with
    | some .directory =>
      return {
        directory
        name? := if last = Path.dot ∨ last = Path.dotDot then none else some last
        slashed := p.getLast? == some Path.slash }
    | some (.file _ _) => throw .notDirectory
    | none => throw .noEntry

/-- The content of the file that a path leads to. -/
def read (t : FileTree) (here : Location) (p : Path) : Except SystemError Bytes := do
  match t.find? (← t.locate here p) with
  | some (.file content _) => return content
  | some .directory => throw .isDirectory
  | none => throw .noEntry

/-- Makes an empty private file where nothing is yet. -/
def create (t : FileTree) (here : Location) (p : Path) : Except SystemError FileTree := do
  checkPath p
  let target ← t.target here p
  match target.name? with
  | none => throw .alreadyExists
  | some name =>
    if maxNameLength < name.length then throw .nameTooLong
    if (t.find? (target.directory ++ [name])).isSome then throw .alreadyExists
    if target.slashed then throw .isDirectory
    return t.put (target.directory ++ [name]) (.file [] true)

/-- Changes the content of a file and whether it is private. -/
def alter (t : FileTree) (here : Location) (p : Path) (f : Bytes → Bool → Bytes × Bool) :
    Except SystemError FileTree := do
  let place ← t.locate here p
  match t.find? place with
  | some (.file content isPrivate) =>
    let (content, isPrivate) := f content isPrivate
    return t.put place (.file content isPrivate)
  | some .directory => throw .isDirectory
  | none => throw .noEntry

/-- Replaces the content of a file, which remains as private as it was. -/
def write (t : FileTree) (here : Location) (p : Path) (content : Bytes) :
    Except SystemError FileTree :=
  t.alter here p fun _ isPrivate => (content, isPrivate)

/-- Makes a file private. -/
def protect (t : FileTree) (here : Location) (p : Path) : Except SystemError FileTree :=
  t.alter here p fun content _ => (content, true)

/-- Moves a file to where another path leads, instead of a file that may be there. -/
def rename (t : FileTree) (here : Location) (p q : Path) : Except SystemError FileTree := do
  if p.contains 0 ∨ q.contains 0 then throw .invalidArgument
  checkPath p
  checkPath q
  let source ← t.target here p
  let goal ← t.target here q
  match source.name?, goal.name? with
  | some sourceName, some goalName =>
    let old := source.directory ++ [sourceName]
    let new := goal.directory ++ [goalName]
    match t.find? old with
    | some (.file content isPrivate) =>
      if maxNameLength < goalName.length then throw .nameTooLong
      if source.slashed ∨ goal.slashed then throw .notDirectory
      if t.find? new = some .directory then throw .isDirectory
      return (t.erase old).put new (.file content isPrivate)
    | some .directory => throw .isDirectory
    | none => throw .noEntry
  | _, _ => throw .busy

def remove (t : FileTree) (here : Location) (p : Path) : FileTree :=
  match t.locate here p with
  | .ok place => t.erase place
  | .error _ => t

end FileTree

end Coffer
