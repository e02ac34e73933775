import Coffer.Files
import Coffer.Session

/-!
# Steps that leave files alone

Most of what is asked of a session changes neither its files, nor what has been written to its
standard output, nor what will be drawn at random. Sequences of such steps do not either.
-/

set_option autoImplicit false
set_option relaxedAutoImplicit false

namespace Coffer

namespace Session

variable {α β : Type} {s mid after : Session}

/-- The files, the standard output, the system's refusals and what is drawn at random are the same
in both sessions. -/
structure Untouched (before after : Session) : Prop where
  tree : after.tree = before.tree
  here : after.here = before.here
  output : after.output = before.output
  outputFull : after.outputFull = before.outputFull
  fault? : after.fault? = before.fault?
  draw : after.draw = before.draw
  temporaryNames : after.temporaryNames = before.temporaryNames

theorem Untouched.refl (s : Session) : Untouched s s := ⟨rfl, rfl, rfl, rfl, rfl, rfl, rfl⟩

theorem Untouched.trans (first : Untouched s mid) (second : Untouched mid after) :
    Untouched s after where
  tree := second.tree.trans first.tree
  here := second.here.trans first.here
  output := second.output.trans first.output
  outputFull := second.outputFull.trans first.outputFull
  fault? := second.fault?.trans first.fault?
  draw := second.draw.trans first.draw
  temporaryNames := second.temporaryNames.trans first.temporaryNames

theorem Untouched.symm (same : Untouched s after) : Untouched after s where
  tree := same.tree.symm
  here := same.here.symm
  output := same.output.symm
  outputFull := same.outputFull.symm
  fault? := same.fault?.symm
  draw := same.draw.symm
  temporaryNames := same.temporaryNames.symm

/-- The session with a private file at a place, instead of what was there. -/
def withFile (s : Session) (l : Location) (content : Bytes) : Session :=
  { s with tree := s.tree.put l (.file content true) }

/-- A computation that leaves files, standard output and random draws alone in every session. -/
def Quiet (x : Run α) : Prop := ∀ s, Untouched s (x s).2

theorem bind_eq (x : Run α) (f : α → Run β) (s : Session) :
    (x >>= f) s = f (x s).1 (x s).2 := rfl

theorem quiet_pure (a : α) : Quiet (pure a : Run α) := Untouched.refl

theorem Quiet.bind {x : Run α} {f : α → Run β} (first : Quiet x) (second : ∀ a, Quiet (f a)) :
    Quiet (x >>= f) :=
  fun s => (first s).trans (second _ _)

theorem quiet_environment? (name : Bytes) :
    Quiet (Surroundings.environment? name : Run (Option Bytes)) := Untouched.refl

theorem quiet_draw : Quiet (Surroundings.draw : Run Draw) := Untouched.refl

theorem quiet_readFile (p : Path) :
    Quiet (Surroundings.readFile p : Run (Except SystemError Bytes)) := Untouched.refl

theorem quiet_readInput : Quiet (Surroundings.readInput : Run (Except String Bytes)) :=
  fun _ => ⟨rfl, rfl, rfl, rfl, rfl, rfl, rfl⟩

theorem quiet_readInputLine : Quiet (Surroundings.readInputLine : Run (Except String Bytes)) :=
  fun _ => ⟨rfl, rfl, rfl, rfl, rfl, rfl, rfl⟩

theorem quiet_ask (confirm : Bool) :
    Quiet (Surroundings.ask confirm : Run (Except String Bytes)) := by
  intro s
  change Untouched s (converse confirm s).2
  unfold converse
  split
  · exact ⟨rfl, rfl, rfl, rfl, rfl, rfl, rfl⟩
  · exact ⟨rfl, rfl, rfl, rfl, rfl, rfl, rfl⟩

theorem quiet_report (text : String) : Quiet (Surroundings.report text : Run Unit) :=
  fun _ => ⟨rfl, rfl, rfl, rfl, rfl, rfl, rfl⟩

theorem environment?_eq (name : Bytes) :
    (Surroundings.environment? name : Run (Option Bytes)) s = (valueOf? s.environment name, s) :=
  rfl

theorem draw_eq : (Surroundings.draw : Run Draw) s = (s.draw, s) := rfl

theorem workingDirectory_eq :
    (Surroundings.workingDirectory : Run Path) s = (pathOf s.here, s) := rfl

theorem temporaryNames_eq :
    (Surroundings.temporaryNames : Run (List Bytes)) s = (s.temporaryNames, s) := rfl

/-! ### Writing to the standard output -/

theorem writeOutput_of_full {content : Bytes} (full : s.outputFull ∧ content ≠ []) :
    (Surroundings.writeOutput content : Run (Except SystemError Unit)) s = (.error .noSpace, s) :=
  if_pos full

theorem writeOutput_of_room {content : Bytes} (room : ¬ (s.outputFull ∧ content ≠ [])) :
    (Surroundings.writeOutput content : Run (Except SystemError Unit)) s =
      (.ok (), { s with output := s.output ++ content }) :=
  if_neg room

/-! ### Changes of the tree -/

section Changes

variable {f : FileTree → Location → Except SystemError FileTree}

theorem change_of_ok {t : FileTree} (changed : f s.tree s.here = .ok t) :
    change f s = (.ok (), { s with tree := t }) := by
  rw [change, changed]

theorem change_of_error {e : SystemError} (refused : f s.tree s.here = .error e) :
    change f s = (.error e, s) := by
  rw [change, refused]

end Changes

end Session

open Session

/-- To obtain a passphrase changes no file, and writes nothing to the standard output. -/
theorem PassphraseSource.quiet_read (source : PassphraseSource) :
    Quiet (source.read : Run (Except Error Bytes × PassphraseSource)) := by
  cases source with
  | given passphrase => exact quiet_pure _
  | stream s => exact quiet_pure _
  | input => exact quiet_readInputLine.bind fun _ => quiet_pure _
  | environment name =>
    refine (quiet_environment? name).bind fun value? => ?_
    cases value? with
    | some value => exact quiet_pure _
    | none => exact quiet_pure _
  | file path => exact (quiet_readFile path).bind fun _ => quiet_pure _
  | terminal confirm => exact (quiet_ask confirm).bind fun _ => quiet_pure _

namespace Files

variable {α β : Type} {s after : Session}

section Results

variable {x : Operation Run α} {f : α → Operation Run β}

theorem run_bind_of_ok {a : α} (first : x.run s = (.ok a, after)) :
    (x >>= f).run s = (f a).run after := by
  have step : (x >>= f).run s = ExceptT.bindCont f (x.run s).1 (x.run s).2 := rfl
  rw [step, first]
  rfl

theorem run_bind_of_error {failure : FileFailure} (first : x.run s = (.error failure, after)) :
    (x >>= f).run s = (.error failure, after) := by
  have step : (x >>= f).run s = ExceptT.bindCont f (x.run s).1 (x.run s).2 := rfl
  rw [step, first]
  rfl

/-- An operation in two steps succeeds exactly if both of them do. -/
theorem run_bind_eq_ok_iff {b : β} :
    (x >>= f).run s = (.ok b, after) ↔
      ∃ a mid, x.run s = (.ok a, mid) ∧ (f a).run mid = (.ok b, after) := by
  constructor
  · intro success
    rcases first : x.run s with ⟨outcome, mid⟩
    cases outcome with
    | error failure =>
      rw [run_bind_of_error first] at success
      cases success
    | ok a =>
      rw [run_bind_of_ok first] at success
      exact ⟨a, mid, rfl, success⟩
  · rintro ⟨a, mid, first, success⟩
    rw [run_bind_of_ok first]
    exact success

/-- If what follows an operation cannot fail, then a failure is that of the operation. -/
theorem error_of_bind {failure : FileFailure}
    (rest : ∀ a mid, ∃ b last, (f a).run mid = (.ok b, last))
    (failed : (x >>= f).run s = (.error failure, after)) : x.run s = (.error failure, after) := by
  rcases first : x.run s with ⟨outcome, mid⟩
  cases outcome with
  | error reason =>
    rw [run_bind_of_error first] at failed
    cases failed
    rfl
  | ok a =>
    obtain ⟨b, last, success⟩ := rest a mid
    rw [run_bind_of_ok first, success] at failed
    cases failed

theorem run_bind_lift {x : Run β} {f : β → Operation Run α} :
    ((liftM x : Operation Run β) >>= f).run s = (f (x s).1).run (x s).2 := rfl

end Results

/-- An operation that is quiet and, if it fails, has left no temporary file. -/
structure Harmless (x : Operation Run α) : Prop where
  quiet : Quiet x.run
  clean : ∀ s failure after, x.run s = (.error failure, after) → failure.leftover? = none

theorem harmless_pure (a : α) : Harmless (pure a : Operation Run α) where
  quiet := quiet_pure _
  clean := by
    intro s failure after failed
    cases failed

theorem harmless_refuse (e : Error) : Harmless (refuse e : Operation Run α) where
  quiet := quiet_pure _
  clean := by
    intro s failure after failed
    cases failed
    rfl

theorem Harmless.bind {x : Operation Run α} {f : α → Operation Run β} (first : Harmless x)
    (second : ∀ a, Harmless (f a)) : Harmless (x >>= f) where
  quiet := by
    intro s
    have start := first.quiet s
    rcases ran : x.run s with ⟨outcome, mid⟩
    rw [ran] at start
    cases outcome with
    | error failure =>
      change Untouched s ((x >>= f).run s).2
      rw [run_bind_of_error ran]
      exact start
    | ok a =>
      change Untouched s ((x >>= f).run s).2
      rw [run_bind_of_ok ran]
      exact start.trans ((second a).quiet mid)
  clean := by
    intro s failure after failed
    rcases ran : x.run s with ⟨outcome, mid⟩
    cases outcome with
    | error reason =>
      rw [run_bind_of_error ran] at failed
      cases failed
      exact first.clean s _ _ ran
    | ok a =>
      rw [run_bind_of_ok ran] at failed
      exact (second a).clean mid _ _ failed

theorem harmless_lift {x : Run α} (quiet : Quiet x) : Harmless (liftM x : Operation Run α) where
  quiet := quiet
  clean := by
    intro s failure after failed
    cases failed

theorem harmless_readInput (input : Option Path) :
    Harmless (readInput input : Operation Run Bytes) := by
  cases input with
  | some path =>
    refine (harmless_lift (quiet_readFile path)).bind fun content => ?_
    cases content with
    | ok content => exact harmless_pure content
    | error e => exact harmless_refuse _
  | none =>
    refine (harmless_lift quiet_readInput).bind fun content => ?_
    cases content with
    | ok content => exact harmless_pure content
    | error text => exact harmless_refuse _

/-- What the input holds in a session, if it can be read. -/
def contentOf : Option Path → Session → Except Error Bytes
  | some path, s => (s.tree.read s.here path).mapError (readFailure path)
  | none, s => s.input.readAll.1.mapError inputFailure

/-- The session once the input has been read. -/
def afterInput : Option Path → Session → Session
  | some _, s => s
  | none, s => { s with input := s.input.readAll.2 }

theorem readInput_eq (input : Option Path) (s : Session) :
    (readInput input : Operation Run Bytes).run s =
      ((contentOf input s).mapError fun error => { error }, afterInput input s) := by
  cases input with
  | some path =>
    have step : (Surroundings.readFile path : Run _) s = (s.tree.read s.here path, s) := rfl
    unfold readInput contentOf
    dsimp only
    rw [run_bind_lift, step]
    cases s.tree.read s.here path with
    | ok content => rfl
    | error e => rfl
  | none =>
    have step : (Surroundings.readInput : Run _) s =
        (s.input.readAll.1, { s with input := s.input.readAll.2 }) := rfl
    unfold readInput contentOf
    dsimp only
    rw [run_bind_lift, step]
    cases s.input.readAll.1 with
    | ok content => rfl
    | error e => rfl

theorem contentOf_with_reports (input : Option Path) (s : Session) (reports : String) :
    contentOf input { s with reports } = contentOf input s := by
  cases input with
  | some path => rfl
  | none => rfl

end Files

end Coffer
