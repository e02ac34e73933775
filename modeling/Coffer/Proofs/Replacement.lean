import Coffer.Proofs.FileTree
import Coffer.Proofs.Session

/-!
# Replacing a file

A file is written under a temporary name and then renamed. Either the complete file stands at the
place that its path admits, and everything else is as before, or no temporary file can be made and
nothing has changed at all, or the path admits no place and the complete file remains under its
temporary name.
-/

set_option autoImplicit false
set_option relaxedAutoImplicit false

namespace Coffer.Files

open Session FileTree

variable {α β : Type} {s mid after : Session} {output : Option Path} {path temporary : Path}
  {content : Bytes} {made : Bytes → α → Prop} {x : Except FileFailure α × Session}

/-- The content is where the output is: in a private file, which is the one change of the tree, or
behind what was written to the standard output before. -/
def Written (output : Option Path) (content : Bytes) (before after : Session) : Prop :=
  after.here = before.here ∧
    match output with
    | some path =>
      ∃ l, Admits before.tree before.here path l ∧
        after.tree = before.tree.put l (.file content true) ∧ after.output = before.output
    | none => after.tree = before.tree ∧ after.output = before.output ++ content

/-- What has been written to a path is one entry of the tree, and is read through that path. -/
theorem Written.read (written : Written (some path) content s after) :
    after.tree.read after.here path = .ok content ∧
      ∃ l, after.tree.find? l = some (.file content true) ∧
        ∀ k, k ≠ l → after.tree.find? k = s.tree.find? k := by
  obtain ⟨here, l, place, tree, _⟩ := written
  have there := find?_put_self (t := s.tree) (e := .file content true) place.ne_nil
  rw [here, tree]
  refine ⟨read_of_admits ((admits_put_iff place.free).2 place) there, l, there, ?_⟩
  exact fun k other => find?_put_of_ne other

/-- The first of the names that is not taken can be used for a temporary file. -/
inductive Usable (s : Session) (absolute : Path) : List Bytes → Prop
  | now {name : Bytes} {names : List Bytes} {t : FileTree}
    (made : s.tree.create s.here (Path.under absolute name) = .ok t) :
    Usable s absolute (name :: names)
  | later {name : Bytes} {names : List Bytes}
    (taken : s.tree.create s.here (Path.under absolute name) = .error .alreadyExists)
    (rest : Usable s absolute names) : Usable s absolute (name :: names)

/-- A temporary file can be made next to the path, and no step to complete it is refused. -/
def Creatable (path : Path) (s : Session) : Prop :=
  Usable s (Path.under (pathOf s.here) path.directory) s.temporaryNames ∧
    ∀ step, s.fault? step = none

/-- There is room for the content: a temporary file can be completed next to the path, or the
standard output takes all of it. -/
def Room (output : Option Path) (content : Bytes) (s : Session) : Prop :=
  match output with
  | some path => Creatable path s
  | none => ¬ (s.outputFull ∧ content ≠ [])

/-- The content can be written to the output: there is room for it, and the path admits a file. -/
def Writable (output : Option Path) (content : Bytes) (s : Session) : Prop :=
  Room output content s ∧ ∀ path, output = some path → ∃ l, Admits s.tree s.here path l

/-- The content is in a private file at the temporary path, where nothing was before, because the
path itself admits no file. -/
structure Left (path temporary : Path) (content : Bytes) (before after : Session) : Prop where
  nowhere : ∀ l, ¬ Admits before.tree before.here path l
  creatable : Creatable path before
  here : after.here = before.here
  output : after.output = before.output
  entry : ∃ l, Admits before.tree before.here temporary l ∧ before.tree.find? l = none ∧
    after.tree = before.tree.put l (.file content true)

theorem Left.not_writable {other : Bytes} (left : Left path temporary content s after) :
    ¬ Writable (some path) other s := by
  rintro ⟨_, admitted⟩
  obtain ⟨l, place⟩ := admitted path rfl
  exact left.nowhere l place

/-- Everything that an operation can come to which makes a content and writes it to the output. -/
inductive Outcome (s : Session) (output : Option Path) (made : Bytes → α → Prop) :
    Except FileFailure α × Session → Prop
  | failed {e : Error} {after : Session} (same : Untouched s after)
    (hindered : ∀ content a, made content a → ¬ Room output content s) :
    Outcome s output made (.error { error := e }, after)
  /-- The temporary file is complete, but could not be renamed. -/
  | stuck {e : Error} {path temporary : Path} {content : Bytes} {a : α} {after : Session}
    (result : made content a) (goal : output = some path)
    (left : Left path temporary content s after) :
    Outcome s output made (.error { error := e, leftover? := some temporary }, after)
  | written {content : Bytes} {a : α} {after : Session} (result : made content a)
    (writable : Writable output content s) (written : Written output content s after) :
    Outcome s output made (.ok a, after)

section Frames

theorem Written.of_untouched (first : Untouched s mid) (rest : Written output content mid after) :
    Written output content s after := by
  cases output with
  | some path => simpa [Written, first.tree, first.here, first.output] using rest
  | none => simpa [Written, first.tree, first.here, first.output] using rest

theorem Written.then_untouched {final : Session} (first : Written output content s mid)
    (rest : Untouched mid final) : Written output content s final := by
  cases output with
  | some path => simpa [Written, rest.tree, rest.here, rest.output] using first
  | none => simpa [Written, rest.tree, rest.here, rest.output] using first

private theorem usable_of_untouched {absolute : Path} {names : List Bytes}
    (first : Untouched s mid) (usable : Usable s absolute names) : Usable mid absolute names := by
  induction usable with
  | now made => exact .now (by rwa [first.tree, first.here])
  | later taken _ ih => exact .later (by rwa [first.tree, first.here]) ih

theorem creatable_of_untouched (first : Untouched s mid) (creatable : Creatable path s) :
    Creatable path mid := by
  unfold Creatable
  rw [first.here, first.temporaryNames, first.fault?]
  exact ⟨usable_of_untouched first creatable.1, creatable.2⟩

theorem room_of_untouched (first : Untouched s mid) (room : Room output content s) :
    Room output content mid := by
  cases output with
  | some path => exact creatable_of_untouched first room
  | none => simpa [Room, first.outputFull] using room

theorem writable_of_untouched (first : Untouched s mid) (writable : Writable output content s) :
    Writable output content mid := by
  refine ⟨room_of_untouched first writable.1, ?_⟩
  rw [first.tree, first.here]
  exact writable.2

theorem Left.of_untouched (first : Untouched s mid)
    (rest : Left path temporary content mid after) : Left path temporary content s after where
  nowhere := by
    rw [← first.tree, ← first.here]
    exact rest.nowhere
  creatable := creatable_of_untouched first.symm rest.creatable
  here := rest.here.trans first.here
  output := rest.output.trans first.output
  entry := by
    rw [← first.tree, ← first.here]
    exact rest.entry

/-- What happens before an operation, and changes no file, does not matter to its outcome. -/
theorem Outcome.of_untouched (first : Untouched s mid) (rest : Outcome mid output made x) :
    Outcome s output made x := by
  cases rest with
  | failed same hindered =>
    exact .failed (first.trans same) fun content a result room =>
      hindered content a result (room_of_untouched first room)
  | stuck result goal left => exact .stuck result goal (left.of_untouched first)
  | written result writable written =>
    exact .written result (writable_of_untouched first.symm writable) (written.of_untouched first)

theorem Outcome.congr {answered : Bytes → α → Prop} (o : Outcome s output made x)
    (same : ∀ content a, made content a ↔ answered content a) :
    Outcome s output answered x := by
  have equal : made = answered := funext fun content => funext fun a => propext (same content a)
  rwa [← equal]

end Frames

/-- What the attempt to make a temporary file comes to. -/
inductive Created (s : Session) (absolute : Path) (names : List Bytes) :
    Except FileFailure Path × Session → Prop
  | refused (e : Error) (unusable : ¬ Usable s absolute names) :
    Created s absolute names (.error { error := e }, s)
  | made {temporary : Path} {l : Location} (usable : Usable s absolute names)
    (place : Admits s.tree s.here temporary l) (free : s.tree.find? l = none) :
    Created s absolute names (.ok temporary, s.withFile l [])

/-- A name that is taken is passed over. -/
theorem Created.later {absolute : Path} {name : Bytes} {names : List Bytes}
    {x : Except FileFailure Path × Session}
    (taken : s.tree.create s.here (Path.under absolute name) = .error .alreadyExists)
    (created : Created s absolute names x) : Created s absolute (name :: names) x := by
  cases created with
  | refused e unusable =>
    refine .refused e fun usable => ?_
    cases usable with
    | now made => cases taken.symm.trans made
    | later _ rest => exact unusable rest
  | made usable place free => exact .made (.later taken usable) place free

theorem created_createTemporary (directory absolute : Path) (names : List Bytes) :
    Created s absolute names
      ((createTemporary directory absolute names : Operation Run Path).run s) := by
  -- A taken name changes nothing, so the remaining names are tried in the same session.
  induction names with
  | nil => exact .refused _ (by rintro ⟨⟩)
  | cons name names ih =>
    rw [createTemporary, run_bind_lift]
    cases created : s.tree.create s.here (Path.under absolute name) with
    | ok tree =>
      have step : (Surroundings.createFile (Path.under absolute name) : Run _) s =
          (.ok (), { s with tree }) := change_of_ok created
      have usable : Usable s absolute (name :: names) := .now created
      obtain ⟨l, place, free, rfl⟩ := create_eq_ok_iff.1 created
      rw [step]
      exact .made usable place free
    | error e =>
      have step : (Surroundings.createFile (Path.under absolute name) : Run _) s = (.error e, s) :=
        change_of_error created
      have unusable (other : e ≠ .alreadyExists) : ¬ Usable s absolute (name :: names) := by
        intro usable
        cases usable with
        | now made => cases created.symm.trans made
        | later taken _ => exact other (Except.error.inj (created.symm.trans taken))
      rw [step]
      cases e with
      | alreadyExists => exact ih.later created
      | _ => exact .refused _ (unusable nofun)

section Filling

variable {l : Location} {step : FileStep}

/-- What a new file holds after a step. -/
def contentAfter (content old : Bytes) : FileStep → Bytes
  | .write => content
  | .flush | .sync | .protect => old

/-- A step that is granted leaves the new file where it is. -/
theorem fillFile_of_granted (place : Admits s.tree s.here temporary l)
    (granted : s.fault? step = none) (content old : Bytes) :
    (Surroundings.fillFile step temporary content : Run _) (s.withFile l old) =
      (.ok (), s.withFile l (contentAfter content old step)) := by
  have granted' : (s.withFile l old).fault? step = none := granted
  show Session.fillFile step temporary content (s.withFile l old) = _
  unfold Session.fillFile
  rw [granted']
  have written : (s.tree.put l (.file old true)).write s.here temporary content = _ :=
    write_put place
  have secured : (s.tree.put l (.file old true)).protect s.here temporary = _ :=
    protect_put place
  cases step with
  | write => exact change_of_ok written
  | flush => rfl
  | sync => rfl
  | protect => exact change_of_ok secured

/-- A step that is refused leaves the new file where it is, whatever it has written. -/
theorem fillFile_of_refused {fault : Fault} (place : Admits s.tree s.here temporary l)
    (refused : s.fault? step = some fault) (content old : Bytes) :
    ∃ part, (Surroundings.fillFile step temporary content : Run _) (s.withFile l old) =
      (.error fault.error, s.withFile l part) := by
  have refused' : (s.withFile l old).fault? step = some fault := refused
  show ∃ part, Session.fillFile step temporary content (s.withFile l old) = _
  unfold Session.fillFile
  rw [refused']
  dsimp only
  by_cases writes : step = .write
  · subst writes
    have written : Session.fill .write temporary (content.take fault.taken)
        (s.withFile l old).tree (s.withFile l old).here =
          .ok (s.tree.put l (.file (content.take fault.taken) true)) := write_put place
    rw [if_pos rfl, change_of_ok written]
    exact ⟨_, rfl⟩
  · rw [if_neg writes]
    exact ⟨old, rfl⟩

/-- Without the temporary file, the session is the one in which it was made. -/
theorem removeFile_withFile (place : Admits s.tree s.here temporary l)
    (free : s.tree.find? l = none) (content : Bytes) :
    (Surroundings.removeFile temporary : Run Unit) (s.withFile l content) = ((), s) := by
  show ((), { s with tree := (s.tree.put l (.file content true)).remove s.here temporary }) = _
  rw [remove_put place free]

/-- What the steps on a new file come to: all of them are granted, or the file is gone. -/
inductive Filled (s : Session) (l : Location) (steps : List FileStep) (content : Bytes) :
    Except FileFailure Unit × Session → Prop
  | refused (e : Error) (fault : ∃ step, s.fault? step ≠ none) :
    Filled s l steps content (.error { error := e }, s)
  | complete (granted : ∀ step ∈ steps, s.fault? step = none) :
    Filled s l steps content (.ok (), s.withFile l content)

theorem filled_fill (place : Admits s.tree s.here temporary l) (free : s.tree.find? l = none)
    (content : Bytes) (steps : List FileStep) (old : Bytes) :
    Filled s l steps (steps.foldl (contentAfter content) old)
      ((fill temporary content steps : Operation Run Unit).run (s.withFile l old)) := by
  -- Until a step is refused, the session differs by the new file alone.
  induction steps generalizing old with
  | nil => exact .complete nofun
  | cons step steps ih =>
    unfold Files.fill
    rw [run_bind_lift]
    cases fault : s.fault? step with
    | some refusal =>
      obtain ⟨part, refused⟩ := fillFile_of_refused place fault content old
      rw [refused]
      dsimp only
      rw [run_bind_lift, removeFile_withFile place free]
      exact .refused _ ⟨step, by simp [fault]⟩
    | none =>
      rw [fillFile_of_granted place fault]
      dsimp only
      have rest := ih (contentAfter content old step)
      generalize (fill temporary content steps : Operation Run Unit).run
        (s.withFile l (contentAfter content old step)) = x at rest
      cases rest with
      | refused e fault => exact .refused e fault
      | complete granted => exact .complete (List.forall_mem_cons.2 ⟨fault, granted⟩)

end Filling

/-- A new temporary file is filled, and moved if its path admits a file. -/
theorem outcome_finish {l : Location} (place : Admits s.tree s.here temporary l)
    (free : s.tree.find? l = none)
    (usable : Usable s (Path.under (pathOf s.here) path.directory) s.temporaryNames)
    (content : Bytes) :
    Outcome s (some path) (fun written _ => written = content)
      ((finish path temporary content : Operation Run Unit).run (s.withFile l [])) := by
  have filled : Filled s l [.write, .flush, .sync, .protect] content _ :=
    filled_fill place free content _ []
  unfold finish
  rcases ran : (fill temporary content [.write, .flush, .sync, .protect] :
    Operation Run Unit).run (s.withFile l []) with ⟨outcome, mid⟩
  rw [ran] at filled
  cases filled with
  | refused e fault =>
    obtain ⟨step, refused⟩ := fault
    rw [run_bind_of_error ran]
    exact .failed (.refl s) fun _ _ _ room => refused (room.2 step)
  | complete granted =>
    have creatable : Creatable path s :=
      ⟨usable, fun step => granted step (by cases step <;> decide)⟩
    rw [run_bind_of_ok ran]
    unfold persist
    rw [run_bind_lift]
    cases moved : (s.withFile l content).tree.rename s.here temporary path with
    | ok tree =>
      have step : (Surroundings.rename temporary path : Run _) (s.withFile l content) =
          (.ok (), { s with tree }) := change_of_ok moved
      obtain ⟨goal, admitted, rfl⟩ := (rename_put_eq_ok_iff place free).1 moved
      rw [step]
      refine .written rfl ⟨creatable, ?_⟩ ⟨rfl, goal, admitted, rfl, rfl⟩
      rintro _ ⟨⟩
      exact ⟨goal, admitted⟩
    | error e =>
      have step : (Surroundings.rename temporary path : Run _) (s.withFile l content) =
          (.error e, s.withFile l content) := change_of_error moved
      rw [step]
      refine .stuck (a := ()) rfl rfl ⟨?_, creatable, rfl, rfl, l, place, free, rfl⟩
      intro goal admitted
      rw [withFile, (rename_put_eq_ok_iff place free).2 ⟨goal, admitted, rfl⟩] at moved
      cases moved

theorem outcome_replaceFile (path : Path) (content : Bytes) (s : Session) :
    Outcome s (some path) (fun written _ => written = content)
      ((replaceFile path content : Operation Run Unit).run s) := by
  have created := created_createTemporary path.directory
    (Path.under (pathOf s.here) path.directory) s.temporaryNames (s := s)
  unfold replaceFile
  rw [run_bind_lift, workingDirectory_eq, run_bind_lift, temporaryNames_eq]
  dsimp only
  rcases attempt : (createTemporary path.directory (Path.under (pathOf s.here) path.directory)
    s.temporaryNames : Operation Run Path).run s with ⟨outcome, mid⟩
  rw [attempt] at created
  cases created with
  | refused e unusable =>
    rw [run_bind_of_error attempt]
    exact .failed (.refl s) fun _ _ _ room => unusable room.1
  | made usable place free =>
    rw [run_bind_of_ok attempt]
    exact outcome_finish place free usable content

/-- The context that a failure to write is seen in changes nothing else. -/
theorem Outcome.in_context {x : Operation Run α} (o : Outcome s output made (x.run s))
    (path : Path) : Outcome s output made ((ExceptT.adapt (writeFailure path) x).run s) := by
  have step : (ExceptT.adapt (writeFailure path) x).run s =
      ((x.run s).1.mapError (writeFailure path), (x.run s).2) := rfl
  rw [step]
  generalize x.run s = result at o
  cases o with
  | failed same hindered => exact .failed same hindered
  | stuck result goal left => exact .stuck result goal left
  | written result writable written => exact .written result writable written

/-- What follows an operation, cannot fail and changes no file does not matter to its outcome. -/
theorem Outcome.bind {x : Operation Run α} {f : α → Operation Run β} {answered : Bytes → β → Prop}
    (o : Outcome s output made (x.run s))
    (same : ∀ content, (∃ a, made content a) ↔ ∃ b, answered content b)
    (rest : ∀ content a, made content a → ∀ mid, ∃ b after,
      (f a).run mid = (.ok b, after) ∧ Untouched mid after ∧ answered content b) :
    Outcome s output answered ((x >>= f).run s) := by
  rcases first : x.run s with ⟨outcome, mid⟩
  rw [first] at o
  cases o with
  | failed untouched hindered =>
    rw [run_bind_of_error first]
    refine .failed untouched fun content b answer => ?_
    obtain ⟨a, result⟩ := (same content).2 ⟨b, answer⟩
    exact hindered content a result
  | @stuck _ _ _ content a _ result goal left =>
    obtain ⟨b, answer⟩ := (same content).1 ⟨a, result⟩
    rw [run_bind_of_error first]
    exact .stuck answer goal left
  | written result writable written =>
    obtain ⟨b, after, last, untouched, answer⟩ := rest _ _ result mid
    rw [run_bind_of_ok first, last]
    exact .written answer writable (written.then_untouched untouched)

theorem outcome_writeOutput {log : Event → Run Unit} (quietLog : ∀ e, Quiet (log e))
    (output : Option Path) (content : Bytes) (s : Session) :
    Outcome s output (fun written _ => written = content)
      ((writeOutput log output content : Operation Run Unit).run s) := by
  cases output with
  | some path =>
    refine ((outcome_replaceFile path content s).in_context path).bind (fun _ => .rfl) ?_
    exact fun _ _ result mid => ⟨(), _, rfl, quietLog _ mid, result⟩
  | none =>
    unfold writeOutput
    dsimp only
    rw [run_bind_lift]
    by_cases full : s.outputFull ∧ content ≠ []
    · rw [writeOutput_of_full full]
      refine .failed (.refl s) ?_
      rintro _ _ rfl room
      exact room full
    · rw [writeOutput_of_room full]
      exact .written rfl ⟨full, nofun⟩ ⟨rfl, rfl, rfl⟩

end Coffer.Files
