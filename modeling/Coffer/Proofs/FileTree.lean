import Coffer.FileTree
import Coffer.Proofs.Refusal
import Mathlib.Tactic.SplitIfs

/-!
# Files and the paths that lead to them

A path admits a file at a location if the file can be made there or moved there. What is done to a
file through such a path changes the entry at that location and no other, and a file at a location
where no directory is changes nothing about what any path admits.
-/

set_option autoImplicit false
set_option relaxedAutoImplicit false

namespace Coffer

namespace Path

/-- The last piece is empty exactly if a path ends with a slash, or is empty itself. -/
theorem getLast?_pieces_eq_nil_iff (p : Path) :
    (pieces p).getLast? = some [] ↔ p = [] ∨ p.getLast? = some slash := by
  induction p with
  | nil => simp [pieces]
  | cons b rest ih =>
    unfold pieces
    split
    · rename_i isSlash
      rw [List.getLast?_cons_of_ne_nil (pieces_ne_nil rest), ih]
      by_cases more : rest = []
      · simp [more, isSlash]
      · simp [more, List.getLast?_cons_of_ne_nil more]
    · rename_i noSlash
      cases shape : pieces rest with
      | nil => exact absurd shape (pieces_ne_nil rest)
      | cons piece others =>
        rw [shape] at ih
        by_cases more : rest = []
        · subst more
          cases shape
          simpa using noSlash
        · rw [List.getLast?_cons_of_ne_nil more]
          cases others with
          | nil =>
            -- A single piece is the whole of the rest, so it is not empty.
            have whole : piece = rest := by
              rw [← join_pieces rest, shape, join]
            simp [whole, more] at ih
            simp [ih]
          | cons next others => simpa [more] using ih

/-- Without a slash at the end, the last piece that is not empty is the last one. -/
theorem pieces_of_dropWhile {p : Path} {last : Bytes} {before : List Bytes}
    (rest : (pieces p).reverse.dropWhile (· == []) = last :: before)
    (unslashed : p.getLast? ≠ some slash) : pieces p = before.reverse ++ [last] ∧ last ≠ [] := by
  cases shape : (pieces p).reverse with
  | nil =>
    rw [shape] at rest
    cases rest
  | cons piece others =>
    have cut : pieces p = others.reverse ++ [piece] := by
      simpa using congrArg List.reverse shape
    have nonempty : piece ≠ [] := by
      rintro rfl
      rcases (getLast?_pieces_eq_nil_iff p).1 (by simp [cut]) with rfl | slashed
      · cases rest
      · exact unslashed slashed
    have same : piece :: others = last :: before := by
      rw [← rest, shape, List.dropWhile_cons_of_neg (by simpa using nonempty)]
    cases same
    exact ⟨cut, nonempty⟩

end Path

namespace FileTree

variable {t t' : FileTree} {here d d' k l : Location} {p q : Path} {piece name : Bytes}
  {e f : Entry} {ps : List Bytes} {content : Bytes} {isPrivate : Bool}

theorem ne_nil_of_find?_ne_directory (free : t.find? l ≠ some .directory) : l ≠ [] := by
  rintro rfl
  exact free rfl

private theorem filter_eq_self_of_find?_eq_none (fresh : t.find? l = none) :
    t.entries.filter (·.1 != l) = t.entries := by
  have free : t.find? l ≠ some .directory := by simp [fresh]
  rw [find?, if_neg (ne_nil_of_find?_ne_directory free), List.lookup_eq_none_iff] at fresh
  refine List.filter_eq_self.2 fun entry member => ?_
  have other := fresh entry member
  simp only [bne_iff_ne, ne_eq] at other ⊢
  exact Ne.symm other

/-- Taking away what was put where nothing was before leaves the tree as it was. -/
theorem erase_put (fresh : t.find? l = none) : (t.put l e).erase l = t := by
  have rest := filter_eq_self_of_find?_eq_none fresh
  simp [put, erase, rest]

theorem put_put : (t.put l e).put l f = t.put l f := by
  simp [put]

/-- A file that is put where no directory is makes and hides no directory. -/
theorem find?_put_eq_directory_iff (free : t.find? k ≠ some .directory) :
    (t.put k (.file content isPrivate)).find? l = some .directory ↔
      t.find? l = some .directory := by
  by_cases same : l = k
  · subst same
    rw [find?_put_self (ne_nil_of_find?_ne_directory free)]
    exact iff_of_false (by simp) free
  · rw [find?_put_of_ne same]

/-! ### Walks -/

/-- Everything that a step can do. -/
theorem step_eq_ok_iff :
    t.step d piece = .ok l ↔
      t.find? d = some .directory ∧
        if Path.isIdle piece then l = d
        else if piece = Path.dotDot then l = d.dropLast
        else piece.length ≤ maxNameLength ∧ l = d ++ [piece] ∧ (t.find? l).isSome := by
  unfold step
  split
  · rename_i missing
    simp [missing]
  · rename_i found
    simp [found]
  · rename_i found
    rw [found]
    split_ifs with idle upwards long taken
    · simp [eq_comm]
    · simp [eq_comm]
    · simp only [true_and]
      refine iff_of_false (by simp) ?_
      rintro ⟨short, _⟩
      omega
    · simp only [Except.ok.injEq, true_and]
      constructor
      · rintro rfl
        exact ⟨Nat.le_of_not_lt long, rfl, taken⟩
      · rintro ⟨_, rfl, _⟩
        rfl
    · simp only [true_and]
      refine iff_of_false (by simp) ?_
      rintro ⟨_, rfl, there⟩
      exact taken there

/-- A step that leads to another place than the new file's is the same with that file. -/
theorem step_put_iff (free : t.find? k ≠ some .directory) (other : l ≠ k) :
    (t.put k (.file content isPrivate)).step d piece = .ok l ↔ t.step d piece = .ok l := by
  rw [step_eq_ok_iff, step_eq_ok_iff, find?_put_eq_directory_iff free, find?_put_of_ne other]

/-- No walk to a directory is lost or won by a file where no directory is: what stands on the way is
a directory. -/
theorem walk_put_iff (free : t.find? k ≠ some .directory) :
    (ps.foldlM (t.put k (.file content isPrivate)).step d = .ok l ∧
        (t.put k (.file content isPrivate)).find? l = some .directory) ↔
      (ps.foldlM t.step d = .ok l ∧ t.find? l = some .directory) := by
  rw [find?_put_eq_directory_iff free]
  refine and_congr_left fun goal => ?_
  induction ps generalizing d with
  | nil => rfl
  | cons piece ps ih =>
    rw [List.foldlM_cons, List.foldlM_cons, bind_eq_ok_iff, bind_eq_ok_iff]
    refine exists_congr fun next => ?_
    rw [ih]
    refine and_congr_left fun rest => ?_
    refine step_put_iff free ?_
    rintro rfl
    -- Nothing leads on from the place of the file, which is not the goal either.
    cases ps with
    | nil =>
      cases rest
      exact free goal
    | cons piece ps =>
      rw [List.foldlM_cons, bind_eq_ok_iff] at rest
      obtain ⟨_, stepped, _⟩ := rest
      exact free (step_eq_ok_iff.1 stepped).1

/-! ### Names of files -/

/-- The last piece of a path is a name, and those before it lead to a directory. -/
structure Names (t : FileTree) (here : Location) (p : Path) (d : Location) (name : Bytes) :
    Prop where
  allowed : checkPath p = .ok ()
  walk : ∃ before, Path.pieces p = before ++ [name] ∧ before.foldlM t.step (start here p) = .ok d
  directory : t.find? d = some .directory
  isName : Path.isIdle name = false ∧ name ≠ Path.dotDot
  short : name.length ≤ maxNameLength

theorem Names.zeroless (n : Names t here p d name) : ¬ p.contains 0 := by
  intro zero
  have allowed := n.allowed
  rw [checkPath, if_pos zero] at allowed
  cases allowed

/-- The walk to the last piece is the walk to the target's directory. -/
theorem Names.target (n : Names t here p d name) :
    t.target here p = .ok { directory := d, name? := some name, slashed := false } := by
  obtain ⟨before, cut, walk⟩ := n.walk
  have isName : name ≠ [] ∧ name ≠ Path.dot := by simpa [Path.isIdle] using n.isName.1
  have last : (Path.pieces p).getLast? = some name := by simp [cut]
  have unslashed : (p.getLast? == some Path.slash) = false := by
    rw [beq_eq_false_iff_ne]
    intro slashed
    rw [(Path.getLast?_pieces_eq_nil_iff p).2 (.inr slashed)] at last
    exact isName.1 (Option.some.inj last).symm
  have rest : (Path.pieces p).reverse.dropWhile (· == []) = name :: before.reverse := by
    simp [cut, isName.1]
  unfold FileTree.target
  rw [rest]
  simp only [List.reverse_reverse, walk, ok_bind, n.directory, isName.2, n.isName.2, or_self,
    if_false, unslashed]
  rfl

/-- A target with a name and without a slash behind it is found through the last piece. -/
theorem names_of_target (allowed : checkPath p = .ok ())
    (found : t.target here p = .ok { directory := d, name? := some name, slashed := false })
    (short : name.length ≤ maxNameLength) : Names t here p d name := by
  unfold FileTree.target at found
  split at found
  · cases found
  · rename_i last before rest
    obtain ⟨directory, walk, found⟩ := bind_eq_ok_iff.1 found
    split at found
    · rename_i isDirectory
      injection found with found
      injection found with same name? slashed
      subst same
      split at name?
      · cases name?
      · rename_i proper
        cases name?
        obtain ⟨cut, nonempty⟩ := Path.pieces_of_dropWhile rest (by simpa using slashed)
        exact {
          allowed
          walk := ⟨_, cut, walk⟩
          directory := isDirectory
          isName := ⟨by simp [Path.isIdle, nonempty, (not_or.1 proper).1], (not_or.1 proper).2⟩
          short }
    · cases found
    · cases found

/-- The directory and the last name of a path are its own. -/
theorem Names.unique {other : Bytes} (n : Names t here p d name) (n' : Names t here p d' other) :
    d = d' ∧ name = other := by
  have same := n.target.symm.trans n'.target
  injection same with same
  injection same with directory name?
  exact ⟨directory, Option.some.inj name?⟩

/-- A file that is put where no directory is changes the directory and the name of no path. -/
theorem names_put_iff (free : t.find? k ≠ some .directory) :
    Names (t.put k (.file content isPrivate)) here p d name ↔ Names t here p d name := by
  constructor
  · intro n
    obtain ⟨before, cut, walk⟩ := n.walk
    have walked := (walk_put_iff free).1 ⟨walk, n.directory⟩
    exact { n with walk := ⟨before, cut, walked.1⟩, directory := walked.2 }
  · intro n
    obtain ⟨before, cut, walk⟩ := n.walk
    have walked : _ ∧ (t.put k (.file content isPrivate)).find? d = some .directory :=
      (walk_put_iff free).2 ⟨walk, n.directory⟩
    exact { n with walk := ⟨before, cut, walked.1⟩, directory := walked.2 }

/-- The path leads to what its last piece names, if that is there. -/
theorem Names.locate (n : Names t here p d name) (there : (t.find? (d ++ [name])).isSome) :
    t.locate here p = .ok (d ++ [name]) := by
  obtain ⟨before, cut, walk⟩ := n.walk
  unfold FileTree.locate
  rw [n.allowed, ok_bind, cut, List.foldlM_append, walk, ok_bind, List.foldlM_cons,
    step_eq_ok_iff.2 ⟨n.directory, ?_⟩, ok_bind, List.foldlM_nil]
  · rfl
  · simp [n.isName, n.short, there]

/-- The path leads nowhere but to what its last piece names. -/
theorem Names.eq_of_locate (n : Names t here p d name) (located : t.locate here p = .ok l) :
    l = d ++ [name] := by
  obtain ⟨before, cut, walk⟩ := n.walk
  unfold FileTree.locate at located
  rw [n.allowed, ok_bind, cut, List.foldlM_append, walk, ok_bind, List.foldlM_cons,
    bind_eq_ok_iff] at located
  obtain ⟨place, stepped, same⟩ := located
  cases same
  have arrived := (step_eq_ok_iff.1 stepped).2
  rw [if_neg (by simp [n.isName.1]), if_neg n.isName.2] at arrived
  exact arrived.2.1

/-! ### Places for files -/

/-- A file can be put at the location through the path: its last piece names the location, and no
directory is there. -/
def Admits (t : FileTree) (here : Location) (p : Path) (l : Location) : Prop :=
  ∃ d name, Names t here p d name ∧ l = d ++ [name] ∧ t.find? l ≠ some .directory

theorem Admits.unique (a : Admits t here p k) (b : Admits t here p l) : k = l := by
  obtain ⟨d, name, n, rfl, _⟩ := a
  obtain ⟨d', name', n', rfl, _⟩ := b
  obtain ⟨rfl, rfl⟩ := n.unique n'
  rfl

theorem Admits.free (a : Admits t here p l) : t.find? l ≠ some .directory := by
  obtain ⟨_, _, _, _, free⟩ := a
  exact free

theorem admits_put_iff (free : t.find? k ≠ some .directory) :
    Admits (t.put k (.file content isPrivate)) here p l ↔ Admits t here p l := by
  unfold Admits
  simp only [names_put_iff free, ne_eq, find?_put_eq_directory_iff free]

theorem Admits.ne_nil (a : Admits t here p l) : l ≠ [] :=
  ne_nil_of_find?_ne_directory a.free

theorem Admits.locate (a : Admits t here p l) (there : (t.find? l).isSome) :
    t.locate here p = .ok l := by
  obtain ⟨d, name, n, rfl, _⟩ := a
  exact n.locate there

/-- A file is made exactly where one is admitted and nothing is yet. -/
theorem create_eq_ok_iff :
    t.create here p = .ok t' ↔
      ∃ l, Admits t here p l ∧ t.find? l = none ∧ t' = t.put l (.file [] true) := by
  unfold create
  rw [bind_eq_ok_iff]
  constructor
  · rintro ⟨_, allowed, made⟩
    obtain ⟨⟨d, name?, slashed⟩, found, made⟩ := bind_eq_ok_iff.1 made
    cases name? with
    | none => cases made
    | some name =>
      simp only [guard_eq_ok_iff] at made
      obtain ⟨short, free, unslashed, made⟩ := made
      have nothing : t.find? (d ++ [name]) = none := by simpa using free
      have names : Names t here p d name := by
        refine names_of_target allowed ?_ (Nat.le_of_not_lt short)
        simpa [unslashed] using found
      refine ⟨_, ⟨d, name, names, rfl, ?_⟩, nothing, (Except.ok.inj made).symm⟩
      simp [nothing]
  · rintro ⟨_, ⟨d, name, n, rfl, _⟩, nothing, rfl⟩
    refine ⟨(), n.allowed, ?_⟩
    rw [n.target, ok_bind]
    simp only [guard_eq_ok_iff]
    exact ⟨Nat.not_lt_of_le n.short, by simp [nothing], by simp, rfl⟩

theorem read_of_admits (a : Admits t here p l)
    (there : t.find? l = some (.file content isPrivate)) : t.read here p = .ok content := by
  unfold read
  rw [a.locate (by simp [there]), ok_bind, there]
  rfl

/-- What is read through a path that admits a file is the file at that location. -/
theorem Admits.file_of_read (a : Admits t here p l) (present : t.read here p = .ok content) :
    ∃ isPrivate, t.find? l = some (.file content isPrivate) := by
  obtain ⟨d, name, n, rfl, _⟩ := a
  unfold read at present
  obtain ⟨place, located, present⟩ := bind_eq_ok_iff.1 present
  cases n.eq_of_locate located
  split at present
  · rename_i found
    cases present
    exact ⟨_, found⟩
  · cases present
  · cases present

theorem remove_of_admits (a : Admits t here p l) (there : (t.find? l).isSome) :
    t.remove here p = t.erase l := by
  unfold remove
  rw [a.locate there]

/-- A file is moved exactly to where a file is admitted. -/
theorem rename_eq_ok_iff (a : Admits t here p k)
    (there : t.find? k = some (.file content isPrivate)) :
    t.rename here p q = .ok t' ↔
      ∃ l, Admits t here q l ∧ t' = (t.erase k).put l (.file content isPrivate) := by
  obtain ⟨d, name, n, rfl, _⟩ := a
  unfold rename
  simp only [guard_eq_ok_iff, bind_eq_ok_iff]
  constructor
  · rintro ⟨_, _, _, _, allowed, _, source, ⟨goal, name?, slashed⟩, found, moved⟩
    rw [n.target] at source
    cases source
    cases name? with
    | none => cases moved
    | some goalName =>
      simp only [there, guard_eq_ok_iff] at moved
      obtain ⟨short, unslashed, free, moved⟩ := moved
      have names : Names t here q goal goalName := by
        refine names_of_target allowed ?_ (Nat.le_of_not_lt short)
        simpa [not_or.1 unslashed] using found
      exact ⟨_, ⟨goal, goalName, names, rfl, free⟩, (Except.ok.inj moved).symm⟩
  · rintro ⟨_, ⟨goal, goalName, g, rfl, free⟩, rfl⟩
    refine ⟨?_, (), n.allowed, (), g.allowed, _, n.target, _, g.target, ?_⟩
    · rw [not_or]
      exact ⟨n.zeroless, g.zeroless⟩
    · simp only [there, guard_eq_ok_iff]
      exact ⟨Nat.not_lt_of_le g.short, by simp, free, rfl⟩

/-! ### New files -/

section New

variable {old : Bytes}

theorem alter_put (a : Admits t here p l) (f : Bytes → Bool → Bytes × Bool) :
    (t.put l (.file old isPrivate)).alter here p f =
      .ok (t.put l (.file (f old isPrivate).1 (f old isPrivate).2)) := by
  have there : (t.put l (.file old isPrivate)).find? l = _ := find?_put_self a.ne_nil
  unfold alter
  rw [((admits_put_iff a.free).2 a).locate (by simp [there]), ok_bind, there]
  exact congrArg Except.ok put_put

theorem write_put (a : Admits t here p l) :
    (t.put l (.file old isPrivate)).write here p content =
      .ok (t.put l (.file content isPrivate)) :=
  alter_put a _

theorem protect_put (a : Admits t here p l) :
    (t.put l (.file content isPrivate)).protect here p = .ok (t.put l (.file content true)) :=
  alter_put a _

/-- A new file is moved exactly to where a file was admitted without it, and nothing else is left
of it. -/
theorem rename_put_eq_ok_iff (a : Admits t here p k) (fresh : t.find? k = none) :
    (t.put k (.file content isPrivate)).rename here p q = .ok t' ↔
      ∃ l, Admits t here q l ∧ t' = t.put l (.file content isPrivate) := by
  rw [rename_eq_ok_iff ((admits_put_iff a.free).2 a) (find?_put_self a.ne_nil), erase_put fresh]
  simp only [admits_put_iff a.free]

theorem remove_put (a : Admits t here p l) (fresh : t.find? l = none) :
    (t.put l (.file content isPrivate)).remove here p = t := by
  have there : ((t.put l (.file content isPrivate)).find? l).isSome := by
    simp [find?_put_self a.ne_nil]
  rw [remove_of_admits ((admits_put_iff a.free).2 a) there, erase_put fresh]

end New

end FileTree

end Coffer
