import Coffer.Proofs.Arguments
import Coffer.Proofs.CommandLine

/-!
# Options that exclude each other

Two different sources of a passphrase on one side of the name of a command are refused before
anything is read, asked for or written. Each side is checked on its own, so a source in front of the
name and another one behind it are both taken, and one of them wins without a word.
-/

set_option autoImplicit false
set_option relaxedAutoImplicit false

namespace Coffer.CommandLine

open Argument Progress

/-- Two different sources of a passphrase are written among the arguments. -/
def Conflicting (arguments : List Bytes) : Prop :=
  ∃ f ∈ sourcesIn arguments, ∃ g ∈ sourcesIn arguments, f ≠ g

theorem not_conflicting_of_nil {arguments : List Bytes} (silent : sourcesIn arguments = []) :
    ¬ Conflicting arguments := by
  rintro ⟨f, named, _⟩
  rw [silent] at named
  cases named

theorem not_conflicting_iff {arguments : List Bytes} :
    ¬ Conflicting arguments ↔
      ∀ f ∈ sourcesIn arguments, ∀ g ∈ sourcesIn arguments, f = g := by
  simp [Conflicting]

/-! ### One side -/

/-- The options are those that are written among the arguments, and they do not exclude each
other. -/
structure Heeds (arguments : List Bytes) (o : Options) : Prop where
  sources : o.sources = sourcesIn arguments
  consistent : o.Consistent
  compatible : ¬ Conflicting arguments

/-- Why a side may be refused, other than for a single argument. -/
def sideReasons (arguments : List Bytes) : Reasons where
  conflict := Conflicting arguments
  explanation := askedIn arguments

section Side

variable {arguments : List Bytes} {l : Level} {o : Options}

theorem consistent_default : ({} : Options).Consistent := ⟨rfl, rfl⟩

/-- What the arguments of a side say is gained, one after another. -/
theorem answers_foldlM (l : Level) (arguments : List Bytes) :
    Answers (sideReasons arguments)
      (Gained {} (sourcesIn arguments) (arguments.any (classify · == .separator)))
      (arguments.foldlM (advance l) {}) :=
  Answers.mono (takes_foldlM l arguments rfl) (fun _ => id) False.elim id False.elim

/-- All options of a side, once the last of them is taken up, are those that are written there. -/
theorem answers_resolve {q : Progress} {trailing : Bool}
    (gained : Gained {} (sourcesIn arguments) trailing q) :
    Answers (sideReasons arguments)
      (fun r => r.options.sources = sourcesIn arguments ∧ r.options.Consistent) q.resolve := by
  refine (takes_resolve q (askedIn arguments)).and_eq.mono ?_ False.elim id False.elim
  rintro r ⟨gained', resolved⟩
  refine ⟨?_, gained'.consistent (gained.consistent consistent_default)⟩
  have sources := gained'.sources
  rw [gained.sources] at sources
  simpa [Progress.sources, collected, pending_of_resolve resolved, Options.sources] using sources

theorem answers_checkConflicts (sources : o.sources = sourcesIn arguments) :
    Answers (sideReasons arguments) (fun _ => ¬ Conflicting arguments)
      (o.checkConflicts.mapError .usage) := by
  have alone : o.checkConflicts = .ok () ↔ ¬ Conflicting arguments := by
    rw [Options.checkConflicts_eq_ok_iff, not_conflicting_iff, sources]
  cases checked : o.checkConflicts with
  | ok done => exact .ok (alone.1 checked)
  | error e =>
    refine .usage fun _ => Classical.byContradiction fun compatible => ?_
    cases checked.symm.trans (alone.2 compatible)

/-- The options of a command, with the costs of the environment where none were given. -/
def completed (fallback : CostVariables) (l : Level) (o : Options) : Except UsageError Options :=
  if l = .encrypt then do
    let options ← o.fallBack .memoryCost fallback.memory
    let options ← options.fallBack .timeCost fallback.time
    options.fallBack .parallelism fallback.lanes
  else .ok o

theorem gains_completed (fallback : CostVariables) (l : Level) (o : Options) :
    Options.Gains o [] (completed fallback l o) := by
  unfold completed
  split
  · refine (Options.gains_fallBack o rfl _).bind_of_silent fun o => ?_
    refine (Options.gains_fallBack o rfl _).bind_of_silent fun o => ?_
    exact Options.gains_fallBack o rfl _
  · exact .ok (by simp) id

/-- What follows the name of a command is heeded. -/
theorem answers_readCommandOptions (fallback : CostVariables) (below : l ≠ .top)
    (arguments : List Bytes) :
    Answers (sideReasons arguments) (Heeds arguments)
      (readCommandOptions fallback l arguments) := by
  unfold readCommandOptions
  rw [scan_of_uncalled arguments (.inl below)]
  have scanned : Answers (sideReasons arguments)
      (fun scanned : Scan => Gained {} (sourcesIn arguments) _ scanned.progress)
      (arguments.foldlM (advance l) {} >>= fun q => .ok { progress := q }) :=
    (answers_foldlM l arguments).bind fun q _ gained => .ok gained
  refine scanned.bind fun scanned _ gained => ?_
  refine (answers_resolve gained).bind ?_
  rintro q _ ⟨sources, consistent⟩
  refine ((gains_completed fallback l q.options).answers _).bind ?_
  rintro o _ ⟨given, still⟩
  have sources' : o.sources = sourcesIn arguments := by
    rw [← sources, Options.sources, given, List.append_nil, Options.sources]
  exact (answers_checkConflicts sources').bind fun _ _ compatible =>
    .ok ⟨sources', still consistent, compatible⟩

theorem answers_checkTop (sources : o.sources = sourcesIn arguments) :
    Answers (sideReasons arguments) (fun _ => ¬ Conflicting arguments)
      ((checkTop o).mapError .usage) := by
  unfold checkTop
  split
  · exact .usage nofun
  · exact answers_checkConflicts sources

end Side

/-! ### Both sides -/

/-- Why a command line may be refused, other than for a single argument. -/
def reasons (s : Sides) : Reasons where
  conflict := Conflicting s.front ∨ Conflicting s.back
  explanation := askedIn s.front ∨ askedIn s.back ∨ s.callee? = some .help
  silence := sourcesIn s.front = [] ∧ sourcesIn s.back = []

section Both

variable {s : Sides} {q : Progress} {α : Type} {good : α → Prop} {x : Except Stop α}

theorem Answers.of_front (answers : Answers (sideReasons s.front) good x) :
    Answers (reasons s) good x :=
  answers.mono (fun _ => id) .inl .inl False.elim

theorem Answers.of_back (answers : Answers (sideReasons s.back) good x) :
    Answers (reasons s) good x :=
  answers.mono (fun _ => id) .inr (.inr ∘ .inl) False.elim

theorem answers_helpFor {r : Reasons} (explains : r.explanation) (l : Level)
    (names : List Bytes) : Answers r good (.error (helpFor l names)) := by
  fun_induction helpFor l names with
  | case1 => exact .help explains
  | case2 _ _ _ _ ih => exact ih
  | case3 => exact .help explains
  | case4 => exact .usage nofun
  | case5 => exact .usage nofun

/-- What stands on either side of the name of a command is heeded. -/
structure Invoked (s : Sides) (i : Invocation) : Prop where
  front : Heeds s.front i.top
  back : ∀ l o, i.command? = some (l, o) → Heeds s.back o
  compatible : ¬ Conflicting s.back

/-- The command that was named, and what follows its name. -/
def readCalled (fallback : CostVariables) (scanned : Scan) :
    Except Stop (Option (Level × Options)) :=
  match scanned.command? with
  | some (l, rest) => do return some (l, ← readCommandOptions fallback l rest)
  | none => .ok none

/-- Takes up and checks what stands in front of the name of the command. -/
def conclude (q : Progress) (command? : Option (Level × Options)) : Except Stop Invocation := do
  let top := (← q.resolve).options
  if command?.isNone ∧ top.given = [] then throw .nothingGiven
  (checkTop top).mapError .usage
  return { top, command? }

theorem readArguments_eq (fallback : CostVariables) (arguments : List Bytes) :
    readArguments fallback arguments = scan .top {} arguments >>= fun scanned =>
      readCalled fallback scanned >>= conclude scanned.progress := by
  unfold readArguments readCalled
  cases scan .top {} arguments with
  | error stop => rfl
  | ok scanned =>
    obtain ⟨progress, command?⟩ := scanned
    cases command? with
    | none => rfl
    | some both =>
      obtain ⟨l, rest⟩ := both
      cases read : readCommandOptions fallback l rest with
      | error stop =>
        simp only [ok_bind, read]
        rfl
      | ok options =>
        simp only [ok_bind, read]
        rfl

/-- The command behind the callee has been found. -/
structure Scanned (s : Sides) (scanned : Scan) : Prop where
  gained : Gained {} (sourcesIn s.front) (s.front.any (classify · == .separator)) scanned.progress
  none_iff : s.callee? = none ↔ scanned.command? = none
  command : ∀ l rest, scanned.command? = some (l, rest) →
    rest = s.back ∧ s.callee? = some (.command l)

theorem answers_close (gained : Gained {} (sourcesIn s.front)
    (s.front.any (classify · == .separator)) q) : Answers (reasons s) (Scanned s) (s.close q) := by
  unfold Sides.close
  split
  · rename_i uncalled
    exact .ok ⟨gained, by simp [uncalled], nofun⟩
  · rename_i helped
    exact answers_helpFor (r := reasons s) (.inr (.inr helped)) .top s.back
  · rename_i l called
    refine .ok ⟨gained, by simp [called], ?_⟩
    rintro _ _ ⟨⟩
    exact ⟨rfl, called⟩

theorem answers_readCalled (fallback : CostVariables) {scanned : Scan} (found : Scanned s scanned)
    (below : ∀ l, s.callee? = some (.command l) → l ≠ .top)
    (alone : s.callee? = none → s.back = []) :
    Answers (reasons s) (fun command? => ¬ Conflicting s.back ∧
        (∀ l o, command? = some (l, o) → Heeds s.back o) ∧
        (command? = none → sourcesIn s.back = []))
      (readCalled fallback scanned) := by
  unfold readCalled
  split
  · rename_i l rest command
    obtain ⟨rfl, called⟩ := found.command l rest command
    refine (answers_readCommandOptions fallback (below l called) s.back).of_back.bind ?_
    intro o _ heeds
    refine .ok ⟨heeds.compatible, ?_, nofun⟩
    rintro _ _ ⟨⟩
    exact heeds
  · rename_i nothing
    have silent : sourcesIn s.back = [] := by
      rw [alone (found.none_iff.2 nothing)]
      rfl
    refine .ok ⟨not_conflicting_of_nil silent, ?_, fun _ => silent⟩
    rintro _ _ ⟨⟩

theorem answers_conclude {command? : Option (Level × Options)}
    (gained : Gained {} (sourcesIn s.front) (s.front.any (classify · == .separator)) q)
    (compatible : ¬ Conflicting s.back)
    (back : ∀ l o, command? = some (l, o) → Heeds s.back o)
    (silent : command? = none → sourcesIn s.back = []) :
    Answers (reasons s) (Invoked s) (conclude q command?) := by
  unfold conclude
  refine (answers_resolve gained).of_front.bind ?_
  rintro r _ ⟨sources, consistent⟩
  dsimp only
  split
  · rename_i nothing
    refine .nothingGiven ⟨?_, silent (Option.isNone_iff_eq_none.1 nothing.1)⟩
    rw [← sources, Options.sources, nothing.2]
    rfl
  · exact (answers_checkTop sources).of_front.bind fun _ _ alone =>
      .ok ⟨⟨sources, consistent, alone⟩, back, compatible⟩

theorem answers_readArguments (fallback : CostVariables) (arguments : List Bytes) :
    Answers (reasons (sides false arguments)) (Invoked (sides false arguments))
      (readArguments fallback arguments) := by
  have read : scan .top {} arguments =
      (sides false arguments).front.foldlM (advance .top) {} >>= (sides false arguments).close :=
    scan_top arguments rfl
  have below (l : Level) (called : (sides false arguments).callee? = some (.command l)) :
      l ≠ .top := by
    obtain ⟨argument, named⟩ := callee?_of_sides called
    exact ne_top_of_callee? named
  have alone : (sides false arguments).callee? = none → (sides false arguments).back = [] :=
    back_of_callee?_eq_none
  rw [readArguments_eq, read]
  generalize sides false arguments = s at below alone
  have front := (answers_foldlM .top s.front).of_front
  refine (front.bind fun q _ gained => answers_close gained).bind ?_
  intro scanned _ found
  refine (answers_readCalled fallback found below alone).bind ?_
  rintro command? _ ⟨compatible, back, silent⟩
  exact answers_conclude found.gained compatible back silent

end Both

/-! ### Commands -/

/-- Whether the option is one of those that said where the passphrase is to come from. -/
def Sources.AsksFor (s : Sources) : Flag → Prop
  | .passphraseStdin => s.input = true
  | .passphraseFromTtyOnce => s.typedOnce = true
  | .passphraseFromEnv => s.environment?.isSome = true
  | .passphraseFromFile => s.file?.isSome = true
  | _ => False

/-- The sources of a passphrase that a command goes by, if it needs a passphrase. -/
def Command.sources? : Command → Option Sources
  | .encrypt e => some e.sources
  | .decrypt d => some d.sources
  | _ => none

theorem has_iff_mem {arguments : List Bytes} {o : Options} (heeds : Heeds arguments o) {f : Flag}
    (isSource : f.isPassphrase) : o.has f = true ↔ f ∈ sourcesIn arguments := by
  rw [← heeds.sources, Options.sources, List.mem_filter, Options.has, List.contains_iff_mem]
  exact (and_iff_left isSource).symm

theorem isPassphrase_of_mem {arguments : List Bytes} {f : Flag}
    (named : f ∈ sourcesIn arguments) : f.isPassphrase := by
  obtain ⟨argument, _, source⟩ := List.mem_filterMap.1 named
  unfold source? at source
  split at source
  · obtain ⟨text, _, named⟩ := Option.bind_eq_some_iff.1 source
    exact (Flag.passphraseNamed?_eq_some_iff.1 named).1
  · cases source

/-- What was said on both sides counts. -/
theorem asksFor_ofOptions {front back : List Bytes} {outer inner : Options}
    (before : Heeds front outer) (behind : Heeds back inner) (f : Flag) :
    (Sources.ofOptions outer inner).AsksFor f ↔ f ∈ sourcesIn front ∨ f ∈ sourcesIn back := by
  have either {α : Type} (x y : Option α) : (x <|> y).isSome = true ↔ y.isSome ∨ x.isSome := by
    cases x <;> cases y <;> simp
  cases f with
  | passphraseStdin =>
    rw [← has_iff_mem before rfl, ← has_iff_mem behind rfl]
    exact Bool.or_eq_true_iff
  | passphraseFromTtyOnce =>
    rw [← has_iff_mem before rfl, ← has_iff_mem behind rfl]
    exact Bool.or_eq_true_iff
  | passphraseFromEnv =>
    rw [← has_iff_mem before rfl, ← has_iff_mem behind rfl, ← before.consistent.inEnvironment,
      ← behind.consistent.inEnvironment]
    exact either _ _
  | passphraseFromFile =>
    rw [← has_iff_mem before rfl, ← has_iff_mem behind rfl, ← before.consistent.inFile,
      ← behind.consistent.inFile]
    exact either _ _
  | _ =>
    refine iff_of_false id ?_
    rintro (named | named)
    · exact absurd (isPassphrase_of_mem named) (by decide)
    · exact absurd (isPassphrase_of_mem named) (by decide)

/-- The command goes by what is written on both sides of its name. -/
structure Follows (s : Sides) (c : Command) : Prop where
  front : ¬ Conflicting s.front
  back : ¬ Conflicting s.back
  sources : ∀ sources, c.sources? = some sources →
    ∀ f, sources.AsksFor f ↔ f ∈ sourcesIn s.front ∨ f ∈ sourcesIn s.back

theorem answers_read (fallback : CostVariables) (arguments : List Bytes) :
    Answers (reasons (sides false arguments)) (Follows (sides false arguments))
      (Command.read fallback arguments) := by
  unfold Command.read
  refine (answers_readArguments fallback arguments).bind fun i _ invoked => ?_
  generalize sides false arguments = s at invoked
  obtain ⟨front, back, compatible⟩ := invoked
  obtain ⟨top, command?⟩ := i
  have other (c : Command) (none : c.sources? = none) : Follows s c :=
    ⟨front.compatible, compatible, by simp [none]⟩
  have needs (l : Level) (o : Options) (named : command? = some (l, o)) (c : Command)
      (sources : c.sources? = some (.ofOptions top o)) : Follows s c := by
    refine ⟨front.compatible, compatible, ?_⟩
    rw [sources]
    rintro _ ⟨⟩
    exact asksFor_ofOptions front (back l o named)
  unfold Command.ofInvocation
  dsimp only at front back ⊢
  cases top.shell? with
  | some shell => exact .ok (other _ rfl)
  | none =>
    cases command? with
    | none => exact .usage nofun
    | some named =>
      obtain ⟨l, o⟩ := named
      cases l with
      | top => exact .usage nofun
      | encrypt => exact .ok (needs _ o rfl _ rfl)
      | decrypt => exact .ok (needs _ o rfl _ rfl)
      | information => exact .ok (other _ rfl)
      | argon2 => exact .ok (other _ rfl)

/-! ### Runs -/

open Session Files

/-- The run ends with the line for an error of usage, and nothing else has happened. -/
def Refused (before : Session) (ended : Ending × Session) : Prop :=
  ∃ (e : UsageError) (emphasized : Bool), ended =
    (.usage, { before with reports := before.reports ++ e.line emphasized })

/-- The run does no more than to print an explanation. -/
def Explained (before : Session) (ended : Ending × Session) : Prop :=
  ∃ text, ended = (explain text : Run Ending) before

/-- Two different sources of a passphrase on one side of the name of a command are refused, unless
the run only explains something because it is asked to. A conflict is found in no other case, and a
command that is run goes by the sources on both sides. -/
theorem sources_exclude_each_other_on_one_side (arguments : List Bytes) (s : Session) :
    (Conflicting (sides false arguments).front ∨ Conflicting (sides false arguments).back →
      Refused s ((run arguments : Run Ending) s) ∨
        (askedIn (sides false arguments).front ∨ askedIn (sides false arguments).back ∨
            (sides false arguments).callee? = some .help) ∧
          Explained s ((run arguments : Run Ending) s)) ∧
    (∀ f others, Command.read (costVariables s) arguments = .error (.usage (.conflict f others)) →
      Conflicting (sides false arguments).front ∨ Conflicting (sides false arguments).back) ∧
    ∀ c sources, Command.read (costVariables s) arguments = .ok c →
      c.sources? = some sources → ∀ f, sources.AsksFor f ↔
        f ∈ sourcesIn (sides false arguments).front ∨
          f ∈ sourcesIn (sides false arguments).back := by
  have answers := answers_read (costVariables s) arguments
  generalize sides false arguments = d at answers
  refine ⟨fun conflict => ?_, fun f others readAs => ?_, fun c sources readAs named => ?_⟩
  · generalize readAs : Command.read (costVariables s) arguments = result at answers
    cases answers with
    | ok follows =>
      rcases conflict with front | back
      · exact absurd front follows.front
      · exact absurd back follows.back
    | usage _ =>
      rw [run_of_stop readAs]
      exact .inl ⟨_, _, rfl⟩
    | help asks =>
      rw [run_of_stop readAs]
      exact .inr ⟨asks, _, rfl⟩
    | version asks =>
      rw [run_of_stop readAs]
      exact .inr ⟨asks, _, rfl⟩
    | nothingGiven silent =>
      rcases conflict with front | back
      · exact absurd front (not_conflicting_of_nil silent.1)
      · exact absurd back (not_conflicting_of_nil silent.2)
  · rw [readAs] at answers
    cases answers with
    | usage cause => exact cause rfl
  · rw [readAs] at answers
    cases answers with
    | ok follows => exact follows.sources sources named

section Examples

/-- The option "--passphrase-stdin". -/
def stdinOption : Bytes :=
  [45, 45, 112, 97, 115, 115, 112, 104, 114, 97, 115, 101, 45, 115, 116, 100, 105, 110]

/-- The option "--passphrase-from-file". -/
def fileOption : Bytes :=
  [45, 45, 112, 97, 115, 115, 112, 104, 114, 97, 115, 101, 45, 102, 114, 111, 109, 45, 102, 105,
    108, 101]

/-- Both sources in front of the name of the command. -/
def inFront : List Bytes := [stdinOption, fileOption, [107], [101], [105]]

/-- A source on either side of the name of the command. -/
def around : List Bytes := [stdinOption, [101], fileOption, [107], [105]]

/-- A session without any files. -/
def bare : Session where
  draw := ⟨default, default⟩

/-- The encryption that has a source of the passphrase on either side of its name. -/
def fromBothSides : Encryption where
  input := some [105]
  output := none
  memory := 19456
  time := 2
  lanes := 1
  variant := .argon2id
  version := .v0x13
  verbose := false
  sources := { input := true, file? := some [107] }

theorem read_inFront : Command.read (costVariables bare) inFront =
    .error (.usage (.conflict .passphraseStdin [.passphraseFromFile])) := by
  rw [costVariables_of_nil rfl]
  exact eq_error_of_refusal? (by decide +kernel)

theorem read_around :
    Command.read (costVariables bare) around = .ok (.encrypt fromBothSides) := by
  rw [costVariables_of_nil rfl]
  exact eq_ok_of_toOption (by decide +kernel)

/-- Both sources in front of the name are refused, as a conflict; with one of them behind the name,
the command goes by both. -/
theorem sources_exclude_each_other_in_front :
    Refused bare ((run inFront : Run Ending) bare) ∧
      (Conflicting (sides false inFront).front ∨ Conflicting (sides false inFront).back) ∧
      fromBothSides.sources.AsksFor .passphraseStdin ∧
      fromBothSides.sources.AsksFor .passphraseFromFile := by
  have conflict := (sources_exclude_each_other_on_one_side inFront bare).2.1 _ _ read_inFront
  have unasked : ¬ (askedIn (sides false inFront).front ∨ askedIn (sides false inFront).back ∨
      (sides false inFront).callee? = some .help) := by
    decide +kernel
  have follows := (sources_exclude_each_other_on_one_side around bare).2.2 _ _ read_around rfl
  refine ⟨?_, conflict, (follows _).2 (.inl (by decide +kernel)),
    (follows _).2 (.inr (by decide +kernel))⟩
  rcases (sources_exclude_each_other_on_one_side inFront bare).1 conflict with
    refused | ⟨asked, _⟩
  · exact refused
  · exact absurd asked unasked

/-- A command that is run does not end as an error of usage. -/
theorem run_ne_usage {arguments : List Bytes} {s : Session} {c : Command}
    (readAs : Command.read (costVariables s) arguments = .ok c)
    (other : ∀ shell, c ≠ .completion shell) :
    ((run arguments : Run Ending) s).1 ≠ .usage := by
  have ends := ends_execute (logFilter s) other s
  rw [run_of_command readAs]
  rcases executed : (execute (logFilter s) c : Operation Run Ending).run s with ⟨result, after⟩
  rw [executed] at ends
  cases ends with
  | failed =>
    rw [perform_of_error executed]
    simp
  | stuck =>
    rw [perform_of_error executed]
    simp
  | written | printed | aborted =>
    rw [perform_of_ok executed]
    simp

/-- Sources on different sides do not exclude each other. -/
theorem not_every_conflict_is_refused :
    ¬ ∀ (arguments : List Bytes) (s : Session),
      Conflicting ((sides false arguments).front ++ (sides false arguments).back) →
        ((run arguments : Run Ending) s).1 = .usage := by
  intro claimed
  have conflict : Conflicting ((sides false around).front ++ (sides false around).back) :=
    ⟨.passphraseStdin, by decide +kernel, .passphraseFromFile, by decide +kernel, by decide⟩
  exact run_ne_usage read_around (by simp) (claimed _ bare conflict)

end Examples

end Coffer.CommandLine
