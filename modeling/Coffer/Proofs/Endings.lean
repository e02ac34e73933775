import Coffer.Proofs.Reports
import Coffer.Proofs.RoundTrip

/-!
# How the program ends

A failed run reports its error. It leaves all files as they were, except that the complete result
remains under a temporary name if the path of the output admits no file. A run succeeds exactly if
its output can be made and delivered, and has then delivered all of it. The commands that only print
end neither way on a full standard output: they abort.
-/

set_option autoImplicit false
set_option relaxedAutoImplicit false

namespace Coffer.CommandLine

open Session Files

variable {c : Command} {arguments : List Bytes} {s : Session}

/-! ### What is left behind -/

/-- The command makes the content and finds room for it next to the path of its output, but that
path admits no file. -/
def Command.Strands (c : Command) (s : Session) (content : Bytes) : Prop :=
  c.Makes s content ∧ ∃ path, c.output? = some path ∧ Creatable path s ∧
    ∀ l, ¬ s.tree.Admits s.here path l

/-- A content that the command strands is in a private file where nothing was before. -/
def LeavesTemporary (c : Command) (before after : Session) : Prop :=
  ∃ content l, c.Strands before content ∧ before.tree.find? l = none ∧
    after.tree = before.tree.put l (.file content true)

theorem LeavesTemporary.tree_ne {after : Session} (leaves : LeavesTemporary c s after) :
    after.tree ≠ s.tree := by
  obtain ⟨content, l, _, free, tree⟩ := leaves
  intro same
  have place : l ≠ [] := FileTree.ne_nil_of_find?_ne_directory (t := s.tree) (by simp [free])
  have entry := FileTree.find?_put_self (t := s.tree) (e := .file content true) place
  rw [← tree, same, free] at entry
  cases entry

/-- What is left of a refused renaming is stranded. -/
theorem LeavesTemporary.of_left {after : Session} {path temporary : Path} {content : Bytes}
    (made : c.Makes s content) (goal : c.output? = some path)
    (left : Left path temporary content s after) : LeavesTemporary c s after := by
  obtain ⟨l, _, free, tree⟩ := left.entry
  exact ⟨content, l, ⟨made, path, goal, left.creatable, left.nowhere⟩, free, tree⟩

/-- A command that strands a content fails and leaves it. -/
theorem stranded_run {content : Bytes}
    (readAs : Command.read (costVariables s) arguments = .ok c) (strands : c.Strands s content) :
    ((run arguments : Run Ending) s).1 = .failure ∧
      LeavesTemporary c s ((run arguments : Run Ending) s).2 := by
  obtain ⟨made, path, goal, creatable, nowhere⟩ := strands
  have other (shell : Shell) : c ≠ .completion shell := by
    rintro rfl
    exact made
  rw [run_of_command readAs]
  have ends := ends_execute (logFilter s) other s
  rcases executed : (execute (logFilter s) c : Operation Run Ending).run s with ⟨result, mid⟩
  rw [executed] at ends
  cases ends with
  | failed same hindered _ =>
    have blocked := hindered content made
    rw [goal] at blocked
    exact absurd creatable blocked
  | stuck made goal left =>
    have leaves := LeavesTemporary.of_left made goal left
    rw [perform_of_error executed]
    exact ⟨rfl, leaves⟩
  | written _ writable _ =>
    obtain ⟨l, place⟩ := writable.2 path goal
    exact absurd place (nowhere l)
  | printed prints _ _ _ => exact absurd prints made.silent
  | aborted prints _ _ _ => exact absurd prints made.silent

/-- A failed run changes no file, unless its command strands a content: then this remains in a
private file where nothing was before, and the run does fail. -/
theorem failed_run_leaves (arguments : List Bytes) (s : Session) :
    (((run arguments : Run Ending) s).1 ≠ .success →
      ((run arguments : Run Ending) s).2.tree = s.tree ∨
        ∃ c, Command.read (costVariables s) arguments = .ok c ∧
          LeavesTemporary c s ((run arguments : Run Ending) s).2) ∧
    ∀ c content, Command.read (costVariables s) arguments = .ok c → c.Strands s content →
      ((run arguments : Run Ending) s).1 = .failure ∧
        LeavesTemporary c s ((run arguments : Run Ending) s).2 := by
  refine ⟨fun failed => ?_, fun c content readAs strands => stranded_run readAs strands⟩
  cases readAs : Command.read (costVariables s) arguments with
  | error stop =>
    rw [run_of_stop readAs]
    exact .inl (tree_halt stop)
  | ok c =>
    rw [run_of_command readAs] at failed ⊢
    by_cases completes : ∃ shell, c = .completion shell
    · obtain ⟨shell, rfl⟩ := completes
      exact .inl (tree_complete shell)
    · have ends := ends_execute (logFilter s) (not_exists.1 completes) s
      rcases executed : (execute (logFilter s) c : Operation Run Ending).run s with ⟨result, mid⟩
      rw [executed] at ends
      cases ends with
      | failed same _ _ =>
        rw [perform_of_error executed]
        exact .inl same.tree
      | stuck made goal left =>
        have leaves := LeavesTemporary.of_left made goal left
        rw [perform_of_error executed]
        exact .inr ⟨c, rfl, leaves⟩
      | written _ _ _ =>
        rw [perform_of_ok executed] at failed
        exact absurd rfl failed
      | printed _ _ _ _ =>
        rw [perform_of_ok executed] at failed
        exact absurd rfl failed
      | aborted _ _ same _ =>
        rw [perform_of_ok executed]
        exact .inl same.tree

section IntoDirectory

/-- A session with a file of five bytes, in which an empty passphrase will be typed twice. -/
def waiting : Session where
  tree := { entries := [([[105]], .file [104, 101, 108, 108, 111] false)] }
  typed := some [[], []]
  draw := ⟨default, default⟩
  temporaryNames := [[116]]

/-- The file is to be encrypted to a path that names the working directory. -/
def intoDirectory : Encryption where
  input := some [105]
  output := some [46]
  memory := 19456
  time := 2
  lanes := 1
  variant := .argon2id
  version := .v0x13
  verbose := false
  sources := {}

/-- The command line of that encryption. -/
def directoryArguments : List Bytes := [[101], [45, 111], [46], [105]]

private theorem read_directoryArguments :
    Command.read (costVariables waiting) directoryArguments = .ok (.encrypt intoDirectory) := by
  rw [costVariables_of_nil rfl]
  exact eq_ok_of_toOption (by decide +kernel)

private theorem given_waiting :
    ((PassphraseSource.read (.terminal true) : Run _) waiting).1.1 = .ok [] := by
  have typed : (Terminal.editing.ask true [[], []]).outcome = .ok [] :=
    eq_ok_of_toOption (by decide +kernel)
  change (Terminal.editing.ask true [[], []]).outcome.mapError _ = _
  rw [typed]
  rfl

/-- No file is admitted where the working directory is. -/
private theorem not_admits_waiting (l : Location) : ¬ waiting.tree.Admits waiting.here [46] l := by
  rintro ⟨d, name, names, _⟩
  have idle : waiting.tree.target waiting.here [46] = .ok ⟨[], none, false⟩ := rfl
  cases idle.symm.trans names.target

private theorem strands_waiting :
    ∃ content, (Command.encrypt intoDirectory).Strands waiting content := by
  obtain ⟨content, made⟩ := exists_encryptUnder
    (.unsigned default waiting.draw.salt waiting.draw.nonce) [104, 101, 108, 108, 111] []
    (by decide) (by decide)
  have readIn : (readInput (some [105]) : Operation Run Bytes).run waiting =
      (.ok [104, 101, 108, 108, 111], waiting) := rfl
  refine ⟨content, ⟨default, .terminal true, rfl, rfl, _, _, _, readIn, given_waiting, made⟩,
    [46], rfl, ?_, not_admits_waiting⟩
  exact ⟨.now (t := waiting.tree.put [[116]] (.file [] true)) rfl, fun _ => rfl⟩

/-- The encryption to the working directory fails, and leaves the container. -/
theorem failed_run_leaves_container :
    ((run directoryArguments : Run Ending) waiting).1 = .failure ∧
      LeavesTemporary (.encrypt intoDirectory) waiting
        ((run directoryArguments : Run Ending) waiting).2 := by
  obtain ⟨content, strands⟩ := strands_waiting
  exact (failed_run_leaves directoryArguments waiting).2 _ content read_directoryArguments strands

/-- Not every failed encryption leaves all files as they were. -/
theorem not_every_failed_run_is_clean :
    ¬ ∀ (e : Encryption) (arguments : List Bytes) (s : Session),
      Command.read (costVariables s) arguments = .ok (.encrypt e) →
        ((run arguments : Run Ending) s).1 ≠ .success →
          ((run arguments : Run Ending) s).2.tree = s.tree := by
  intro clean
  obtain ⟨content, strands⟩ := strands_waiting
  obtain ⟨status, leaves⟩ := stranded_run read_directoryArguments strands
  refine leaves.tree_ne (clean _ _ _ read_directoryArguments ?_)
  rw [status]
  decide

end IntoDirectory

/-! ### Status and reports -/

/-- The failure of the command is the last that is reported, behind what may precede it. -/
def Reported (c : Command) (before : Session) (ended : Ending × Session) : Prop :=
  ∃ failure mid earlier, (execute (logFilter before) c : Operation Run Ending).run before =
      (.error failure, mid) ∧ Precedes c earlier ∧
    ended = (.failure, { mid with
      reports := before.reports ++ earlier ++ s!"Error: {failure.error.render}\n" })

/-- What was added to the reports ends with a line that shows an error. -/
def EndsWithError (before after : Session) : Prop :=
  ∃ earlier chain : String, EndsIn lineEnds earlier ∧
    after.reports = before.reports ++ earlier ++ s!"Error: {chain}\n"

/-- Where no passphrase is typed, the failure is reported in a line of its own. -/
theorem Reported.endsWithError {ended : Ending × Session} (reported : Reported c s ended)
    (untyped : ∀ confirm, ¬ c.TakesFrom (.terminal confirm)) : EndsWithError s ended.2 := by
  obtain ⟨failure, mid, earlier, _, precedes, rfl⟩ := reported
  obtain lines | ⟨confirm, takes, _⟩ := precedes
  · exact ⟨earlier, failure.error.render, lines, rfl⟩
  · exact absurd takes (untyped confirm)

/-- There was no room for the first line that the command is to print. It is reported that and where
printing has failed, with the calls that led there as far as the environment asks for them. -/
def Aborted (c : Command) (before : Session) (ended : Ending × Session) : Prop :=
  ∃ line more after, c.Prints before (line :: more) ∧ ended = (.aborted, after) ∧
    Untouched before after ∧ after.reports = before.reports ++ abortReport before line

/-- A command ends with a report of its failure, or in success once its output is complete, or it
aborts and reports that. It succeeds exactly if there is something to write or to print, and that is
possible; it aborts exactly if it has something to print for which there is no room. The report of a
failure is a line of its own unless the passphrase is typed, since the prompt ends no line. -/
theorem run_ends (arguments : List Bytes) (s : Session)
    (readAs : Command.read (costVariables s) arguments = .ok c)
    (other : ∀ shell, c ≠ .completion shell) :
    (Reported c s ((run arguments : Run Ending) s) ∨
      (∃ after, (run arguments : Run Ending) s = (.success, after) ∧ c.Delivered s after) ∨
      Aborted c s ((run arguments : Run Ending) s)) ∧
    (((run arguments : Run Ending) s).1 = .success ↔
      (∃ content, c.Makes s content ∧ Writable c.output? content s) ∨
        s.outputFull = false ∧ ∃ lines, c.Prints s lines) ∧
    (((run arguments : Run Ending) s).1 = .aborted ↔
      s.outputFull = true ∧ ∃ lines, c.Prints s lines) ∧
    (((run arguments : Run Ending) s).1 = .failure →
      (∀ confirm, ¬ c.TakesFrom (.terminal confirm)) →
      EndsWithError s ((run arguments : Run Ending) s).2) := by
  rw [run_of_command readAs]
  have ends := ends_execute (logFilter s) other s
  rcases executed : (execute (logFilter s) c : Operation Run Ending).run s with ⟨result, mid⟩
  rw [executed] at ends
  rw [← ends.eq_success_iff, ← ends.eq_aborted_iff]
  cases result with
  | error failure =>
    obtain ⟨earlier, reports, precedes⟩ := exists_precedes_of_failure other executed
    have reported := perform_of_error executed
    rw [reports] at reported
    have ended : Reported c s (.failure, { mid with
        reports := s.reports ++ earlier ++ s!"Error: {failure.error.render}\n" }) :=
      ⟨failure, mid, earlier, executed, precedes, rfl⟩
    rw [reported]
    exact ⟨.inl ended, by simp, by simp, fun _ untyped => ended.endsWithError untyped⟩
  | ok ending =>
    rw [perform_of_ok executed]
    refine ⟨.inr ?_, by simp, by simp, fun failed => ?_⟩
    · cases ends with
      | written made writable written => exact .inl ⟨mid, rfl, .inl ⟨_, made, written⟩⟩
      | printed prints _ tree output => exact .inl ⟨mid, rfl, .inr ⟨_, prints, tree, output⟩⟩
      | aborted prints _ same reports => exact .inr ⟨_, _, mid, prints, rfl, same, reports⟩
    · cases ends with
      | written | printed | aborted => cases failed

/-- The command line that asks for the type and the version that a file names. -/
def argon2Arguments : List Bytes := [[97, 114, 103, 111, 110, 50], [99]]

private theorem read_argon2Arguments {s : Session} (empty : s.environment = []) :
    Command.read (costVariables s) argon2Arguments = .ok (.argon2 (some [99])) := by
  rw [costVariables_of_nil empty]
  exact eq_ok_of_toOption (by decide +kernel)

/-- A file that does not exist is reported in a line of its own. -/
theorem run_ends_missing_file :
    Reported (.argon2 (some [99])) waiting ((run argon2Arguments : Run Ending) waiting) ∧
      EndsWithError waiting ((run argon2Arguments : Run Ending) waiting).2 := by
  have readAs := read_argon2Arguments (s := waiting) rfl
  have status : ((run argon2Arguments : Run Ending) waiting).1 = .failure := by
    rw [run_of_command readAs]
    rfl
  obtain ⟨ends, _, _, shown⟩ := run_ends argon2Arguments waiting readAs (by simp)
  rcases ends with reported | ⟨after, ended, _⟩ | ⟨_, _, after, _, ended, _⟩
  · exact ⟨reported, shown status fun _ takes => by cases takes⟩
  · rw [ended] at status
    cases status
  · rw [ended] at status
    cases status

/-- A session whose standard output is full, with a file that begins with a header. -/
def fullSession : Session where
  tree := {
    entries := [([[99]],
      .file ((Header.unsigned default default default).toBytes ++ List.replicate 16 0) false)] }
  outputFull := true
  draw := ⟨default, default⟩

/-- There is no room for the type and the version that the file names. -/
private theorem aborted_fullSession :
    ((run argon2Arguments : Run Ending) fullSession).1 = .aborted := by
  have readAs := read_argon2Arguments (s := fullSession) rfl
  have prints : (Command.argon2 (some [99])).Prints fullSession (schemeLines default) := by
    refine ⟨default, ⟨_, fullSession, _, rfl, Header.parse_toBytes_append _ ?_, rfl⟩, rfl⟩
    exact Nat.le_of_eq List.length_replicate.symm
  have ends := ends_execute (c := .argon2 (some [99])) (logFilter fullSession) (by simp) fullSession
  rcases executed : (execute (logFilter fullSession) (.argon2 (some [99])) :
    Operation Run Ending).run fullSession with ⟨result, after⟩
  rw [executed] at ends
  cases ends.eq_aborted_iff.2 ⟨rfl, _, prints⟩
  rw [run_of_command readAs, perform_of_ok executed]

/-- A session without a terminal, with an empty file. -/
def remote : Session where
  tree := { entries := [([[99]], .file [] false)] }
  draw := ⟨default, default⟩

/-- The command line that asks for the file to be decrypted. -/
def decryptionArguments : List Bytes := [[100], [99]]

private theorem read_decryptionArguments :
    Command.read (costVariables remote) decryptionArguments =
      .ok (.decrypt { input := some [99], output := none, verbose := false, sources := {} }) := by
  rw [costVariables_of_nil rfl]
  exact eq_ok_of_toOption (by decide +kernel)

/-- The only line that is then reported. -/
def remoteReport : String :=
  "Enter passphrase: Error: could not read passphrase from terminal: " ++
    "No such device or address (os error 6)\n"

private theorem run_remote :
    ((run decryptionArguments : Run Ending) remote).1 = .failure ∧
      ((run decryptionArguments : Run Ending) remote).2.reports = remoteReport := by
  decide +kernel

/-- The error stands behind the prompt. -/
private theorem not_endsWithError_remote :
    ¬ EndsWithError remote ((run decryptionArguments : Run Ending) remote).2 := by
  rintro ⟨earlier, chain, ends, reports⟩
  have empty : remote.reports = "" := rfl
  have line : s!"Error: {chain}\n" = "Error: " ++ (chain ++ "\n") := String.append_assoc ..
  rw [run_remote.2, empty, line, String.empty_append] at reports
  obtain rfl | ⟨front, ending, member, rfl⟩ := ends
  · have letters : "Error: ".toList = ['E', 'r', 'r', 'o', 'r', ':', ' '] := by decide +kernel
    have prompted : remoteReport.toList[1]? = some 'n' := by decide +kernel
    rw [reports, String.empty_append, String.toList_append, letters] at prompted
    cases prompted
  · have feed : List.count '\n' "\n".toList = 1 := by decide +kernel
    have alone : List.count '\n' remoteReport.toList = 1 := by decide +kernel
    rw [reports, List.mem_singleton.1 member] at alone
    simp only [String.toList_append, List.count_append, feed] at alone
    omega

/-- Not every run of a command fails or succeeds, and not every failed one reports its error in a
line of its own. -/
theorem not_every_run_reports :
    (¬ ∀ (c : Command) (arguments : List Bytes) (s : Session),
      Command.read (costVariables s) arguments = .ok c → (∀ shell, c ≠ .completion shell) →
        ((run arguments : Run Ending) s).1 = .failure ∨
          ((run arguments : Run Ending) s).1 = .success) ∧
      ¬ ∀ (c : Command) (arguments : List Bytes) (s : Session),
        Command.read (costVariables s) arguments = .ok c → (∀ shell, c ≠ .completion shell) →
          ((run arguments : Run Ending) s).1 = .failure →
            EndsWithError s ((run arguments : Run Ending) s).2 := by
  constructor
  · intro claimed
    have status := claimed _ _ _ (read_argon2Arguments (s := fullSession) rfl) (by simp)
    rw [aborted_fullSession] at status
    rcases status with failed | succeeded
    · cases failed
    · cases succeeded
  · intro claimed
    exact not_endsWithError_remote (claimed _ _ _ read_decryptionArguments (by simp) run_remote.1)

end Coffer.CommandLine
