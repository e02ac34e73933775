import Coffer.Files
import Coffer.Proofs.Session

/-!
# Runs side by side

Two sessions are similar if nothing but the contents of files, the streams and what is drawn at
random tells them apart. Steps that treat similar sessions alike can be put one behind the other:
each of them comes to related results, or fails for one reason, and leaves similar sessions.
-/

set_option autoImplicit false
set_option relaxedAutoImplicit false

namespace Coffer

/-! ### Attempts -/

/-- Both attempts come to related results, or both fail for the same reason. -/
inductive Agree {ε α β : Type} (r : α → β → Prop) : Except ε α → Except ε β → Prop
  | ok {a : α} {b : β} (related : r a b) : Agree r (.ok a) (.ok b)
  | error (e : ε) : Agree r (.error e) (.error e)

namespace Agree

variable {ε α β γ δ : Type} {r : α → β → Prop} {q : γ → δ → Prop}

theorem bind {x : Except ε α} {y : Except ε β} {f : α → Except ε γ} {g : β → Except ε δ}
    (first : Agree r x y) (second : ∀ a b, r a b → Agree q (f a) (g b)) :
    Agree q (x >>= f) (y >>= g) := by
  cases first with
  | ok related => exact second _ _ related
  | error e => exact .error e

/-- A step that is the same in both attempts leads to the same place. -/
theorem bind_same (x : Except ε α) {f : α → Except ε γ} {g : α → Except ε δ}
    (second : ∀ a, Agree q (f a) (g a)) : Agree q (x >>= f) (x >>= g) := by
  cases x with
  | ok a => exact second a
  | error e => exact .error e

/-- Both attempts stop at a check, or neither does. -/
theorem guard {p : Prop} [Decidable p] {e : ε} {f : α → Except ε γ} {g : β → Except ε δ}
    {x : Except ε γ} {y : Except ε δ} (rest : ¬ p → Agree q x y) :
    Agree q (if p then throw e >>= f else x) (if p then throw e >>= g else y) := by
  split
  · exact .error e
  · rename_i passes
    exact rest passes

end Agree

/-! ### Trees -/

namespace FileTree

/-- Nothing that is in either place tells them apart, but what is in files. -/
inductive Alike : Option Entry → Option Entry → Prop
  | missing : Alike none none
  | directory : Alike (some .directory) (some .directory)
  | file (old new : Bytes) (isPrivate : Bool) :
    Alike (some (.file old isPrivate)) (some (.file new isPrivate))

/-- The trees differ in the contents of files at most. -/
def SameOutline (t u : FileTree) : Prop := ∀ l, Alike (t.find? l) (u.find? l)

variable {t u : FileTree} {here l : Location} {e f : Entry}

theorem Alike.isSome_eq {x y : Option Entry} (alike : Alike x y) : x.isSome = y.isSome := by
  cases alike <;> rfl

theorem Alike.directory_iff {x y : Option Entry} (alike : Alike x y) :
    x = some .directory ↔ y = some .directory := by
  cases alike with
  | missing => exact .rfl
  | directory => exact .rfl
  | file old new isPrivate => exact iff_of_false nofun nofun

namespace SameOutline

theorem refl (t : FileTree) : SameOutline t t := by
  intro l
  rcases t.find? l with _ | _ | ⟨content, isPrivate⟩
  · exact .missing
  · exact .directory
  · exact .file _ _ _

/-- What both trees have at a place. -/
theorem cases (same : SameOutline t u) (l : Location) :
    (t.find? l = none ∧ u.find? l = none) ∨
      (t.find? l = some .directory ∧ u.find? l = some .directory) ∨
      ∃ old new isPrivate, t.find? l = some (.file old isPrivate) ∧
        u.find? l = some (.file new isPrivate) := by
  have alike := same l
  generalize t.find? l = x at alike
  generalize u.find? l = y at alike
  cases alike with
  | missing => exact .inl ⟨rfl, rfl⟩
  | directory => exact .inr (.inl ⟨rfl, rfl⟩)
  | file old new isPrivate => exact .inr (.inr ⟨old, new, isPrivate, rfl, rfl⟩)

theorem put (same : SameOutline t u) (alike : Alike (some e) (some f)) :
    SameOutline (t.put l e) (u.put l f) := by
  intro k
  by_cases root : k = []
  · subst root
    exact .directory
  · by_cases there : k = l
    · subst there
      rw [find?_put_self root, find?_put_self root]
      exact alike
    · rw [find?_put_of_ne there, find?_put_of_ne there]
      exact same k

theorem erase (same : SameOutline t u) : SameOutline (t.erase l) (u.erase l) := by
  intro k
  by_cases root : k = []
  · subst root
    exact .directory
  · by_cases there : k = l
    · subst there
      rw [find?_erase_self root, find?_erase_self root]
      exact .missing
    · rw [find?_erase_of_ne there, find?_erase_of_ne there]
      exact same k

/-- Every path is walked alike. -/
theorem step_eq (same : SameOutline t u) : t.step = u.step := by
  funext d piece
  have goal := (same (d ++ [piece])).isSome_eq
  unfold step
  rw [goal]
  obtain ⟨old, new⟩ | ⟨old, new⟩ | ⟨_, _, _, old, new⟩ := same.cases d
  · rw [old, new]
  · rw [old, new]
  · rw [old, new]

theorem locate_eq (same : SameOutline t u) (here : Location) (p : Path) :
    t.locate here p = u.locate here p := by
  unfold locate
  rw [same.step_eq]

theorem target_eq (same : SameOutline t u) (here : Location) (p : Path) :
    t.target here p = u.target here p := by
  unfold target
  rw [same.step_eq]
  split
  · rfl
  · refine bind_congr fun d => ?_
    obtain ⟨old, new⟩ | ⟨old, new⟩ | ⟨_, _, _, old, new⟩ := same.cases d
    · rw [old, new]
    · rw [old, new]
    · rw [old, new]

theorem create (same : SameOutline t u) (here : Location) (p : Path) :
    Agree SameOutline (t.create here p) (u.create here p) := by
  unfold FileTree.create
  rw [same.target_eq]
  refine .bind_same _ fun _ => .bind_same _ fun target => ?_
  cases target.name? with
  | none => exact .error _
  | some name =>
    dsimp only
    rw [(same (target.directory ++ [name])).isSome_eq]
    refine .guard fun _ => .guard fun _ => .guard fun _ => ?_
    exact .ok (same.put (.file _ _ _))

/-- Changes that make the same files private leave the same outline. -/
theorem alter (same : SameOutline t u) (here : Location) (p : Path)
    {f g : Bytes → Bool → Bytes × Bool}
    (alike : ∀ old new isPrivate, (f old isPrivate).2 = (g new isPrivate).2) :
    Agree SameOutline (t.alter here p f) (u.alter here p g) := by
  unfold FileTree.alter
  rw [same.locate_eq]
  refine .bind_same _ fun place => ?_
  obtain ⟨old, new⟩ | ⟨old, new⟩ | ⟨content, content', isPrivate, old, new⟩ := same.cases place
  · rw [old, new]
    exact .error _
  · rw [old, new]
    exact .error _
  · rw [old, new]
    dsimp only
    rw [alike content content' isPrivate]
    exact .ok (same.put (.file _ _ _))

theorem fill (same : SameOutline t u) (step : FileStep) (here : Location) (p : Path)
    (old new : Bytes) :
    Agree SameOutline (Session.fill step p old t here) (Session.fill step p new u here) := by
  unfold Session.fill FileTree.write FileTree.protect
  cases step with
  | write => exact same.alter here p fun _ _ _ => rfl
  | flush => exact .ok same
  | sync => exact .ok same
  | protect => exact same.alter here p fun _ _ _ => rfl

theorem rename (same : SameOutline t u) (here : Location) (p q : Path) :
    Agree SameOutline (t.rename here p q) (u.rename here p q) := by
  unfold FileTree.rename
  rw [same.target_eq, same.target_eq]
  refine .guard fun _ => .bind_same _ fun _ => .bind_same _ fun _ => ?_
  refine .bind_same _ fun source => .bind_same _ fun goal => ?_
  cases source.name? with
  | none => exact .error _
  | some sourceName =>
    cases goal.name? with
    | none => exact .error _
    | some goalName =>
      dsimp only
      obtain ⟨old, new⟩ | ⟨old, new⟩ | ⟨_, _, _, old, new⟩ :=
        same.cases (source.directory ++ [sourceName])
      · rw [old, new]
        exact .error _
      · rw [old, new]
        exact .error _
      · have replaced := (same (goal.directory ++ [goalName])).directory_iff
        rw [old, new]
        simp only [replaced]
        refine .guard fun _ => .guard fun _ => .guard fun _ => ?_
        exact .ok (same.erase.put (.file _ _ _))

theorem remove (same : SameOutline t u) (here : Location) (p : Path) :
    SameOutline (t.remove here p) (u.remove here p) := by
  unfold FileTree.remove
  rw [same.locate_eq]
  split
  · exact same.erase
  · exact same

end SameOutline

end FileTree

/-! ### Sessions -/

namespace Session

variable {α β γ δ : Type} {r : α → β → Prop} {q : γ → δ → Prop} {s t : Session}

/-- What can be observed of both sessions from outside is the same, apart from what has been written
to files and to the standard output. -/
structure Similar (s t : Session) : Prop where
  reports : s.reports = t.reports
  here : s.here = t.here
  outputFull : s.outputFull = t.outputFull
  fault? : s.fault? = t.fault?
  temporaryNames : s.temporaryNames = t.temporaryNames
  tree : s.tree.SameOutline t.tree

/-- Quiet steps that report the same leave similar sessions. -/
theorem Similar.of_untouched {s' t' : Session} (similar : Similar s t) (quiet : Untouched s s')
    (quiet' : Untouched t t') (reports : s'.reports = t'.reports) : Similar s' t' where
  reports := reports
  here := by rw [quiet.here, quiet'.here, similar.here]
  outputFull := by rw [quiet.outputFull, quiet'.outputFull, similar.outputFull]
  fault? := by rw [quiet.fault?, quiet'.fault?, similar.fault?]
  temporaryNames := by
    rw [quiet.temporaryNames, quiet'.temporaryNames, similar.temporaryNames]
  tree := by
    rw [quiet.tree, quiet'.tree]
    exact similar.tree

/-- Related answers in similar sessions. -/
def Parallel (r : α → β → Prop) (x : α × Session) (y : β × Session) : Prop :=
  r x.1 y.1 ∧ Similar x.2 y.2

/-- Computations that answer similar sessions alike and leave them similar. -/
def Matched (r : α → β → Prop) (x : Run α) (y : Run β) : Prop :=
  ∀ s t, Similar s t → Parallel r (x s) (y t)

theorem matched_pure {a : α} {b : β} (related : r a b) : Matched r (pure a) (pure b) :=
  fun _ _ similar => ⟨related, similar⟩

theorem Parallel.bind {x : Run α} {y : Run β} {f : α → Run γ} {g : β → Run δ}
    (first : Parallel r (x s) (y t)) (second : ∀ a b, r a b → Matched q (f a) (g b)) :
    Parallel q ((x >>= f) s) ((y >>= g) t) :=
  second _ _ first.1 _ _ first.2

theorem Matched.bind {x : Run α} {y : Run β} {f : α → Run γ} {g : β → Run δ}
    (first : Matched r x y) (second : ∀ a b, r a b → Matched q (f a) (g b)) :
    Matched q (x >>= f) (y >>= g) :=
  fun s t similar => (first s t similar).bind second

theorem matched_workingDirectory :
    Matched Eq (Surroundings.workingDirectory : Run Path) Surroundings.workingDirectory :=
  fun _ _ similar => ⟨congrArg pathOf similar.here, similar⟩

theorem matched_temporaryNames :
    Matched Eq (Surroundings.temporaryNames : Run (List Bytes)) Surroundings.temporaryNames :=
  fun _ _ similar => ⟨similar.temporaryNames, similar⟩

/-- Whatever both sessions draw at random. -/
theorem matched_draw :
    Matched (fun _ _ => True) (Surroundings.draw : Run Draw) Surroundings.draw :=
  fun _ _ similar => ⟨trivial, similar⟩

theorem matched_report (text : String) :
    Matched Eq (Surroundings.report text : Run Unit) (Surroundings.report text) :=
  fun _ _ similar => ⟨rfl, { similar with reports := congrArg (· ++ text) similar.reports }⟩

theorem matched_change {f g : FileTree → Location → Except SystemError FileTree}
    (agree : ∀ t u here, FileTree.SameOutline t u →
      Agree FileTree.SameOutline (f t here) (g u here)) :
    Matched Eq (change f) (change g) := by
  intro s t similar
  have changed := agree s.tree t.tree s.here similar.tree
  generalize first : f s.tree s.here = x at changed
  generalize second : g t.tree s.here = y at changed
  rw [similar.here] at second
  cases changed with
  | ok same =>
    rw [change_of_ok first, change_of_ok second]
    exact ⟨rfl, { similar with tree := same }⟩
  | error e =>
    rw [change_of_error first, change_of_error second]
    exact ⟨rfl, similar⟩

theorem matched_createFile (p : Path) :
    Matched Eq (Surroundings.createFile p : Run _) (Surroundings.createFile p) :=
  matched_change fun _ _ here same => same.create here p

/-- The same steps are refused, whatever the contents are. -/
theorem matched_fillFile (step : FileStep) (p : Path) (old new : Bytes) :
    Matched Eq (Surroundings.fillFile step p old : Run _) (Surroundings.fillFile step p new) := by
  have changed (old new : Bytes) :
      Matched Eq (change (fill step p old)) (change (fill step p new)) :=
    matched_change fun _ _ here same => same.fill step here p old new
  intro s t similar
  show Parallel Eq (fillFile step p old s) (fillFile step p new t)
  unfold fillFile
  rw [similar.fault?]
  cases t.fault? step with
  | none => exact changed old new s t similar
  | some fault =>
    refine ⟨rfl, ?_⟩
    dsimp only
    split
    · exact (changed _ _ s t similar).2
    · exact similar

theorem matched_rename (p q : Path) :
    Matched Eq (Surroundings.rename p q : Run _) (Surroundings.rename p q) :=
  matched_change fun _ _ here same => same.rename here p q

theorem matched_removeFile (p : Path) :
    Matched Eq (Surroundings.removeFile p : Run Unit) (Surroundings.removeFile p) := by
  intro s t similar
  refine ⟨rfl, { similar with tree := ?_ }⟩
  show (s.tree.remove s.here p).SameOutline (t.tree.remove t.here p)
  rw [← similar.here]
  exact similar.tree.remove s.here p

/-- A full output takes no content but an empty one, whatever else the content is. -/
theorem matched_writeOutput {old new : Bytes} (length : old.length = new.length) :
    Matched Eq (Surroundings.writeOutput old : Run _) (Surroundings.writeOutput new) := by
  intro s t similar
  have empty : old = [] ↔ new = [] := by
    rw [← List.length_eq_zero_iff, length, List.length_eq_zero_iff]
  by_cases full : s.outputFull ∧ old ≠ []
  · have other : t.outputFull ∧ new ≠ [] := by
      rw [← similar.outputFull, ne_eq, ← empty]
      exact full
    rw [writeOutput_of_full full, writeOutput_of_full other]
    exact ⟨rfl, similar⟩
  · have other : ¬ (t.outputFull ∧ new ≠ []) := by
      rw [← similar.outputFull, ne_eq, ← empty]
      exact full
    rw [writeOutput_of_room full, writeOutput_of_room other]
    exact ⟨rfl, ⟨similar.reports, similar.here, similar.outputFull, similar.fault?,
      similar.temporaryNames, similar.tree⟩⟩

end Session

/-! ### Operations on files -/

namespace Files

open Session

variable {α β γ δ : Type} {r : α → β → Prop} {q : γ → δ → Prop} {log : Event → Run Unit}

/-- Operations that come to related results in similar sessions, or fail in the same way. -/
abbrev Corresponds (r : α → β → Prop) (x : Operation Run α) (y : Operation Run β) : Prop :=
  Matched (Agree r) x.run y.run

theorem corresponds_pure {a : α} {b : β} (related : r a b) :
    Corresponds r (pure a : Operation Run α) (pure b : Operation Run β) :=
  matched_pure (.ok related)

theorem corresponds_refuse (e : Error) :
    Corresponds r (refuse e : Operation Run α) (refuse e : Operation Run β) :=
  matched_pure (.error _)

theorem parallel_bind {x : Operation Run α} {y : Operation Run β} {f : α → Operation Run γ}
    {g : β → Operation Run δ} {s t : Session} (first : Parallel (Agree r) (x.run s) (y.run t))
    (second : ∀ a b, r a b → Corresponds q (f a) (g b)) :
    Parallel (Agree q) ((x >>= f).run s) ((y >>= g).run t) := by
  rcases ran : x.run s with ⟨a, mid⟩
  rcases ran' : y.run t with ⟨b, mid'⟩
  rw [ran, ran'] at first
  obtain ⟨agree, similar⟩ := first
  cases agree with
  | ok related =>
    rw [run_bind_of_ok ran, run_bind_of_ok ran']
    exact second _ _ related _ _ similar
  | error e =>
    rw [run_bind_of_error ran, run_bind_of_error ran']
    exact ⟨.error e, similar⟩

theorem Corresponds.bind {x : Operation Run α} {y : Operation Run β} {f : α → Operation Run γ}
    {g : β → Operation Run δ} (first : Corresponds r x y)
    (second : ∀ a b, r a b → Corresponds q (f a) (g b)) : Corresponds q (x >>= f) (y >>= g) :=
  fun s t similar => parallel_bind (first s t similar) second

theorem corresponds_lift {x : Run α} {y : Run β} (matched : Matched r x y) :
    Corresponds r (liftM x : Operation Run α) (liftM y : Operation Run β) := by
  intro s t similar
  have start := matched s t similar
  exact ⟨.ok start.1, start.2⟩

/-- A step that cannot fail comes first. -/
theorem corresponds_lift_bind {x : Run α} {y : Run β} {f : α → Operation Run γ}
    {g : β → Operation Run δ} (first : Matched r x y)
    (second : ∀ a b, r a b → Corresponds q (f a) (g b)) :
    Corresponds q ((liftM x : Operation Run α) >>= f) ((liftM y : Operation Run β) >>= g) :=
  first.bind second

theorem corresponds_createTemporary (directory absolute : Path) (names : List Bytes) :
    Corresponds Eq (createTemporary directory absolute names : Operation Run Path)
      (createTemporary directory absolute names) := by
  induction names with
  | nil => exact corresponds_refuse _
  | cons name names ih =>
    rw [createTemporary]
    refine corresponds_lift_bind (matched_createFile _) ?_
    rintro created _ rfl
    cases created with
    | ok made => exact corresponds_pure rfl
    | error e =>
      cases e with
      | alreadyExists => exact ih
      | _ => exact corresponds_refuse _

theorem corresponds_fill (temporary : Path) (old new : Bytes) (steps : List FileStep) :
    Corresponds Eq (Files.fill temporary old steps : Operation Run Unit)
      (Files.fill temporary new steps) := by
  induction steps with
  | nil => exact corresponds_pure rfl
  | cons step steps ih =>
    unfold Files.fill
    refine corresponds_lift_bind (matched_fillFile step temporary old new) ?_
    rintro filled _ rfl
    cases filled with
    | ok done => exact ih
    | error e =>
      refine corresponds_lift_bind (matched_removeFile temporary) ?_
      rintro _ _ rfl
      exact corresponds_refuse _

theorem corresponds_persist (path temporary : Path) :
    Corresponds Eq (persist path temporary : Operation Run Unit) (persist path temporary) := by
  unfold persist
  refine corresponds_lift_bind (matched_rename temporary path) ?_
  rintro moved _ rfl
  cases moved with
  | ok done => exact corresponds_pure rfl
  | error e => exact matched_pure (.error _)

theorem corresponds_replaceFile (path : Path) (old new : Bytes) :
    Corresponds Eq (replaceFile path old : Operation Run Unit) (replaceFile path new) := by
  unfold replaceFile
  refine corresponds_lift_bind matched_workingDirectory ?_
  rintro directory _ rfl
  refine corresponds_lift_bind matched_temporaryNames ?_
  rintro names _ rfl
  refine (corresponds_createTemporary _ _ names).bind ?_
  rintro temporary _ rfl
  refine (corresponds_fill temporary old new _).bind ?_
  rintro _ _ rfl
  exact corresponds_persist path temporary

theorem Corresponds.in_context {x y : Operation Run α} (same : Corresponds Eq x y)
    (f : FileFailure → FileFailure) :
    Corresponds Eq (ExceptT.adapt f x) (ExceptT.adapt f y) := by
  intro s t similar
  have start := same s t similar
  show Parallel (Agree Eq) ((x.run s).1.mapError f, (x.run s).2)
    ((y.run t).1.mapError f, (y.run t).2)
  obtain ⟨agree, still⟩ := start
  refine ⟨?_, still⟩
  generalize (x.run s).1 = a at agree ⊢
  generalize (y.run t).1 = b at agree ⊢
  cases agree with
  | ok related => exact .ok related
  | error e => exact .error _

/-- Contents of one length are written alike, whatever they are. -/
theorem corresponds_writeOutput (observed : ∀ e, Matched Eq (log e) (log e))
    (output : Option Path) {old new : Bytes} (length : old.length = new.length) :
    Corresponds Eq (writeOutput log output old : Operation Run Unit)
      (writeOutput log output new) := by
  cases output with
  | some path =>
    refine ((corresponds_replaceFile path old new).in_context _).bind ?_
    rintro _ _ rfl
    rw [length]
    exact corresponds_lift (observed _)
  | none =>
    refine corresponds_lift_bind (matched_writeOutput length) ?_
    rintro written _ rfl
    cases written with
    | ok done => exact corresponds_pure rfl
    | error e => exact corresponds_refuse _

end Files

end Coffer
