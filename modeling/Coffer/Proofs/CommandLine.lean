import Coffer.CommandLine.Run
import Coffer.Proofs.FileOperations
import Coffer.Proofs.Utf8

/-!
# Runs of the program

What a run of the program does to the files, what it writes, and how it ends. A failed command is
reported and leaves the files alone, but for a temporary file that could not be renamed. A full
standard output makes the commands that only print abort the run.
-/

set_option autoImplicit false
set_option relaxedAutoImplicit false

namespace Coffer

open Session Files

/-- A line has at least the character that ends it. -/
theorem Utf8.encode_line_ne_nil (text : String) : Utf8.encode (text ++ "\n") ≠ [] := by
  intro none
  have characters := pieces_encode (text ++ "\n")
  rw [none, pieces, String.toList_append, List.map_append] at characters
  exact List.append_ne_nil_of_right_ne_nil _ (List.cons_ne_nil _ _) characters.symm

namespace CommandLine

variable {s mid after : Session} {c : Command} {arguments : List Bytes} {filter : LogFilter}

theorem quiet_observe (filter : LogFilter) (e : Event) : Quiet (observe filter e : Run Unit) := by
  unfold observe
  split
  · exact quiet_report _
  · exact quiet_pure ()

theorem quiet_showCosts (verbose : Bool) (c : Costs) :
    Quiet (showCosts verbose c : Run Unit) := by
  cases verbose with
  | true => exact quiet_report _
  | false => exact quiet_pure ()

/-! ### Printing -/

/-- The bytes of the lines. -/
def bytesOf (lines : List PrintedLine) : Bytes := lines.flatMap fun line => Utf8.encode line.text

/-- What is reported if there is no room for a line. -/
def abortReport (s : Session) (line : PrintedLine) : String :=
  s.runtime.printReport
    (.ofVariable (valueOf? s.environment (Utf8.encode "RUST_BACKTRACE"))) line.printer .noSpace

theorem abort_eq (report : Runtime → Trace → String) (s : Session) :
    (abort report : Run Ending) s = (.aborted, { s with
      reports := s.reports ++ report s.runtime
        (.ofVariable (valueOf? s.environment (Utf8.encode "RUST_BACKTRACE"))) }) :=
  rfl

theorem print_of_room (lines : List PrintedLine) (room : s.outputFull = false) :
    (print lines : Run Ending) s = (.success, { s with output := s.output ++ bytesOf lines }) := by
  induction lines generalizing s with
  | nil =>
    rw [bytesOf, List.flatMap_nil, List.append_nil]
    rfl
  | cons line more ih =>
    unfold print
    rw [bind_eq, writeOutput_of_room (by simp [room])]
    refine (ih (s := { s with output := s.output ++ Utf8.encode line.text }) room).trans ?_
    rw [bytesOf, bytesOf, List.flatMap_cons, List.append_assoc]

theorem print_of_full (line : PrintedLine) (more : List PrintedLine) (full : s.outputFull = true)
    (some : Utf8.encode line.text ≠ []) :
    (print (line :: more) : Run Ending) s =
      (.aborted, { s with reports := s.reports ++ abortReport s line }) := by
  unfold print
  rw [bind_eq, writeOutput_of_full ⟨full, some⟩]
  exact abort_eq _ s

/-- To write a completion script changes no file. -/
theorem tree_complete (shell : Shell) : ((complete shell : Run Ending) s).2.tree = s.tree := by
  unfold complete
  rw [bind_eq]
  by_cases full : s.outputFull ∧ Utf8.encode shell.script ≠ []
  · rw [writeOutput_of_full full]
    rfl
  · rw [writeOutput_of_room full]
    rfl

/-! ### What commands make and print -/

def Command.output? : Command → Option Path
  | .encrypt e => e.output
  | .decrypt d => d.output
  | _ => none

/-- The command takes its passphrase from the source. -/
def Command.TakesFrom (c : Command) (source : PassphraseSource) : Prop :=
  match c with
  | .encrypt e => e.sources.choose e.input true = .ok source
  | .decrypt d => d.sources.choose d.input false = .ok source
  | _ => False

/-- The content is what the command is to write, made of its input and the passphrase that it is to
take, once it has shown the costs that it is to show. -/
def Command.Makes (c : Command) (s : Session) (content : Bytes) : Prop :=
  match c with
  | .encrypt e =>
    ∃ costs source, Costs.ofTriple e.memory e.time e.lanes = .ok costs ∧
      e.sources.choose e.input true = .ok source ∧
      MadeFrom PassphraseSource.read e.input source
        (IsContainer { variant := e.variant, version := e.version, costs })
        ((showCosts e.verbose costs : Run Unit) s).2 content ()
  | .decrypt d =>
    ∃ source costs, d.sources.choose d.input false = .ok source ∧
      MadeFrom PassphraseSource.read d.input source IsPlaintext s content costs
  | _ => False

/-- The input can be read, and its header names the scheme. -/
def NamesScheme (input : Option Path) (s : Session) (scheme : Scheme) : Prop :=
  ∃ data mid header, (readInput input : Operation Run Bytes).run s = (.ok data, mid) ∧
    Header.parse data = .ok header ∧ header.scheme = scheme

/-- The lines are what the command is to print about the header of its input. -/
def Command.Prints (c : Command) (s : Session) (lines : List PrintedLine) : Prop :=
  match c with
  | .information input json =>
    ∃ scheme, NamesScheme input s scheme ∧ lines = costsLines json scheme.costs
  | .argon2 input => ∃ scheme, NamesScheme input s scheme ∧ lines = schemeLines scheme
  | _ => False

/-- The commands that print something are not those that write something else. -/
theorem Command.Makes.silent {content : Bytes} {lines : List PrintedLine}
    (made : c.Makes s content) :
    ¬ c.Prints s lines := by
  intro prints
  cases c with
  | encrypt e => cases prints
  | decrypt d => cases prints
  | _ => cases made

/-- A command makes no more than one content in a session. -/
theorem Command.Makes.unique {content content' : Bytes} (made : c.Makes s content)
    (again : c.Makes s content') : content = content' := by
  have quietLog (_ : Event) : Quiet (pure () : Run Unit) := quiet_pure ()
  cases c with
  | encrypt e =>
    obtain ⟨costs, source, priced, chosen, made⟩ := made
    obtain ⟨_, _, priced', chosen', again⟩ := again
    cases priced.symm.trans priced'
    cases chosen.symm.trans chosen'
    exact made.unique (makes_makeContainer quietLog _) again
  | decrypt d =>
    obtain ⟨source, costs, chosen, made⟩ := made
    obtain ⟨_, _, chosen', again⟩ := again
    cases chosen.symm.trans chosen'
    exact made.unique (makes_openContainer quietLog) again
  | _ => cases made

theorem NamesScheme.unique {input : Option Path} {scheme scheme' : Scheme}
    (named : NamesScheme input s scheme) (again : NamesScheme input s scheme') :
    scheme = scheme' := by
  obtain ⟨_, _, _, readIn, parsed, rfl⟩ := named
  obtain ⟨_, _, _, readIn', parsed', rfl⟩ := again
  cases readIn.symm.trans readIn'
  cases parsed.symm.trans parsed'
  rfl

theorem Command.Prints.unique {lines lines' : List PrintedLine} (prints : c.Prints s lines)
    (again : c.Prints s lines') : lines = lines' := by
  cases c with
  | information input json | argon2 input =>
    obtain ⟨scheme, named, rfl⟩ := prints
    obtain ⟨scheme', named', rfl⟩ := again
    rw [named.unique named']
  | _ => cases prints

/-- The complete output of the command has been written. -/
def Command.Delivered (c : Command) (before after : Session) : Prop :=
  (∃ content, c.Makes before content ∧ Written c.output? content before after) ∨
    ∃ lines, c.Prints before lines ∧ after.tree = before.tree ∧
      after.output = before.output ++ bytesOf lines

/-! ### Commands that write -/

theorem outcome_encrypt (filter : LogFilter) (e : Encryption) (s : Session) :
    Outcome s e.output (fun content _ => (Command.encrypt e).Makes s content)
      ((encrypt filter e : Operation Run Unit).run s) := by
  unfold encrypt
  cases priced : Costs.ofTriple e.memory e.time e.lanes with
  | error error =>
    refine .failed (.refl s) ?_
    rintro _ _ ⟨_, _, priced', _⟩
    cases priced.symm.trans priced'
  | ok costs =>
    cases chosen : e.sources.choose e.input true with
    | error error =>
      refine .failed (.refl s) ?_
      rintro _ _ ⟨_, _, _, chosen', _⟩
      cases chosen.symm.trans chosen'
    | ok source =>
      dsimp only
      rw [run_bind_lift]
      refine Outcome.of_untouched (quiet_showCosts e.verbose costs s)
        ((outcome_of_source (quiet_observe filter)
          (makes_makeContainer (quiet_observe filter) _) e.input e.output source _).congr ?_)
      intro content _
      constructor
      · exact fun made => ⟨costs, source, priced, chosen, made⟩
      · rintro ⟨_, _, priced', chosen', made⟩
        cases priced.symm.trans priced'
        cases chosen.symm.trans chosen'
        exact made

theorem outcome_decrypt (filter : LogFilter) (d : Decryption) (s : Session) :
    Outcome s d.output (fun content _ => (Command.decrypt d).Makes s content)
      ((decrypt filter d : Operation Run Unit).run s) := by
  unfold decrypt
  cases chosen : d.sources.choose d.input false with
  | error error =>
    refine .failed (.refl s) ?_
    rintro _ _ ⟨_, _, chosen', _⟩
    cases chosen.symm.trans chosen'
  | ok source =>
    refine (outcome_of_source (quiet_observe filter) (makes_openContainer (quiet_observe filter))
      d.input d.output source s).bind (fun content => ⟨?_, ?_⟩) ?_
    · rintro ⟨costs, made⟩
      exact ⟨(), source, costs, chosen, made⟩
    · rintro ⟨_, _, costs, chosen', made⟩
      cases chosen.symm.trans chosen'
      exact ⟨costs, made⟩
    · intro content costs made mid
      exact ⟨(), _, rfl, quiet_showCosts d.verbose costs mid, source, costs, chosen, made⟩

/-! ### Commands that print -/

section Inspections

variable {α : Type} {part : Bytes → Except Error α} {a : α} {input : Option Path} {data : Bytes}
  {mid : Session}

theorem harmless_inspectInput (part : Bytes → Except Error α) (input : Option Path) :
    Harmless (inspectInput part input : Operation Run α) := by
  refine (harmless_readInput input).bind fun data => ?_
  cases part data with
  | ok a => exact harmless_pure a
  | error e => exact harmless_refuse _

/-- What an inspection of a file makes of what is found in the header. -/
def inspected {α : Type} (found : Except Error α) : Except FileFailure α :=
  found.mapError fun e => { error := e.withContext inspectionContext }

theorem inspectInput_of_readInput
    (readIn : (readInput input : Operation Run Bytes).run s = (.ok data, mid)) :
    (inspectInput part input : Operation Run α).run s = (inspected (part data), mid) := by
  unfold inspectInput
  rw [run_bind_of_ok readIn]
  cases part data with
  | error e => rfl
  | ok a => rfl

theorem readScheme_of_readInput
    (readIn : (readInput input : Operation Run Bytes).run s = (.ok data, mid)) :
    (readScheme input : Operation Run Scheme).run s =
      (inspected ((Header.parse data).map (·.scheme)), mid) :=
  inspectInput_of_readInput readIn

theorem readCosts_of_readInput
    (readIn : (readInput input : Operation Run Bytes).run s = (.ok data, mid)) :
    (readCosts input : Operation Run Costs).run s = (inspected (Costs.ofContainer data), mid) :=
  inspectInput_of_readInput readIn

/-- The costs that are read are those of the scheme that is read. -/
theorem readCosts_eq (input : Option Path) :
    (readCosts input : Operation Run Costs) = do return (← readScheme input).costs := by
  refine funext fun s => ?_
  show (readCosts input : Operation Run Costs).run s =
    (readScheme input >>= fun scheme => pure scheme.costs : Operation Run Costs).run s
  rcases readIn : (readInput input : Operation Run Bytes).run s with ⟨result, mid⟩
  cases result with
  | error failure =>
    have unnamed : (readScheme input : Operation Run Scheme).run s = (.error failure, mid) :=
      run_bind_of_error readIn
    rw [run_bind_of_error unnamed]
    exact run_bind_of_error readIn
  | ok data =>
    have named := readScheme_of_readInput readIn
    rw [readCosts_of_readInput readIn, Costs.ofContainer]
    cases parsed : Header.parse data with
    | error e =>
      rw [parsed] at named
      rw [run_bind_of_error named]
      rfl
    | ok header =>
      rw [parsed] at named
      rw [run_bind_of_ok named]
      rfl

theorem readScheme_eq_ok_iff {scheme : Scheme} :
    (∃ mid, (readScheme input : Operation Run Scheme).run s = (.ok scheme, mid)) ↔
      NamesScheme input s scheme := by
  constructor
  · rintro ⟨after, success⟩
    obtain ⟨data, mid, readIn, _⟩ := run_bind_eq_ok_iff.1 success
    obtain ⟨found, _⟩ := Prod.mk.inj ((readScheme_of_readInput readIn).symm.trans success)
    obtain ⟨header, parsed, named⟩ := map_eq_ok_iff.1 (mapError_eq_ok_iff.1 found)
    exact ⟨data, mid, header, readIn, parsed, named⟩
  · rintro ⟨data, mid, header, readIn, parsed, rfl⟩
    refine ⟨mid, (readScheme_of_readInput readIn).trans ?_⟩
    rw [parsed]
    rfl

theorem readCosts_eq_ok_iff {costs : Costs} :
    (∃ mid, (readCosts input : Operation Run Costs).run s = (.ok costs, mid)) ↔
      ∃ scheme, NamesScheme input s scheme ∧ scheme.costs = costs := by
  rw [readCosts_eq]
  simp only [← readScheme_eq_ok_iff]
  constructor
  · rintro ⟨after, success⟩
    obtain ⟨scheme, mid, named, success⟩ := run_bind_eq_ok_iff.1 success
    cases success
    exact ⟨scheme, ⟨_, named⟩, rfl⟩
  · rintro ⟨scheme, ⟨mid, named⟩, rfl⟩
    exact ⟨mid, run_bind_eq_ok_iff.2 ⟨scheme, mid, named, rfl⟩⟩

/-- An inspection uses up what it reads of the standard input, and changes nothing else. -/
theorem eq_afterInput_of_inspectInput
    (ran : (inspectInput part input : Operation Run α).run s = (.ok a, mid)) :
    mid = afterInput input s := by
  obtain ⟨data, after, readIn, _⟩ := run_bind_eq_ok_iff.1 ran
  have inspection : (inspectInput part input : Operation Run α).run s = (inspected _, after) :=
    inspectInput_of_readInput readIn
  have reading := (readInput_eq input s).symm.trans readIn
  exact (congrArg Prod.snd (ran.symm.trans inspection)).trans (congrArg Prod.snd reading).symm

theorem abortReport_afterInput (input : Option Path) (line : PrintedLine) :
    (afterInput input s).reports ++ abortReport (afterInput input s) line =
      s.reports ++ abortReport s line := by
  cases input with
  | some path => rfl
  | none => rfl

end Inspections

theorem prints_information_iff {input : Option Path} {json : Bool} {lines : List PrintedLine} :
    (Command.information input json).Prints s lines ↔
      ∃ costs mid, (readCosts input : Operation Run Costs).run s = (.ok costs, mid) ∧
        lines = costsLines json costs := by
  constructor
  · rintro ⟨scheme, named, rfl⟩
    obtain ⟨mid, ran⟩ := readCosts_eq_ok_iff.2 ⟨scheme, named, rfl⟩
    exact ⟨_, mid, ran, rfl⟩
  · rintro ⟨costs, mid, ran, rfl⟩
    obtain ⟨scheme, named, rfl⟩ := readCosts_eq_ok_iff.1 ⟨mid, ran⟩
    exact ⟨scheme, named, rfl⟩

theorem prints_argon2_iff {input : Option Path} {lines : List PrintedLine} :
    (Command.argon2 input).Prints s lines ↔
      ∃ scheme mid, (readScheme input : Operation Run Scheme).run s = (.ok scheme, mid) ∧
        lines = schemeLines scheme := by
  constructor
  · rintro ⟨scheme, named, rfl⟩
    obtain ⟨mid, ran⟩ := readScheme_eq_ok_iff.2 named
    exact ⟨scheme, mid, ran, rfl⟩
  · rintro ⟨scheme, mid, ran, rfl⟩
    exact ⟨scheme, readScheme_eq_ok_iff.1 ⟨mid, ran⟩, rfl⟩

/-- Everything that a command can come to which does not complete command lines. -/
inductive Ends (c : Command) (s : Session) : Except FileFailure Ending × Session → Prop
  | failed {e : Error} {after : Session} (same : Untouched s after)
    (hindered : ∀ content, c.Makes s content → ¬ Room c.output? content s)
    (silent : ∀ lines, ¬ c.Prints s lines) : Ends c s (.error { error := e }, after)
  | stuck {e : Error} {path temporary : Path} {content : Bytes} {after : Session}
    (made : c.Makes s content) (goal : c.output? = some path)
    (left : Left path temporary content s after) :
    Ends c s (.error { error := e, leftover? := some temporary }, after)
  | written {content : Bytes} {after : Session} (made : c.Makes s content)
    (writable : Writable c.output? content s) (written : Written c.output? content s after) :
    Ends c s (.ok .success, after)
  | printed {lines : List PrintedLine} {after : Session} (prints : c.Prints s lines)
    (room : s.outputFull = false) (tree : after.tree = s.tree)
    (output : after.output = s.output ++ bytesOf lines) : Ends c s (.ok .success, after)
  /-- There is no room for the first line. -/
  | aborted {line : PrintedLine} {more : List PrintedLine} {after : Session}
    (prints : c.Prints s (line :: more)) (full : s.outputFull = true) (same : Untouched s after)
    (reports : after.reports = s.reports ++ abortReport s line) : Ends c s (.ok .aborted, after)

section Endings

variable {result : Except FileFailure Ending}

theorem Ends.eq_success_iff (ends : Ends c s (result, after)) :
    result = .ok .success ↔
      (∃ content, c.Makes s content ∧ Writable c.output? content s) ∨
        s.outputFull = false ∧ ∃ lines, c.Prints s lines := by
  cases ends with
  | failed same hindered silent =>
    refine iff_of_false nofun ?_
    rintro (⟨content, made, writable⟩ | ⟨_, lines, prints⟩)
    · exact hindered content made writable.1
    · exact silent lines prints
  | stuck made goal left =>
    refine iff_of_false nofun ?_
    rintro (⟨content, _, writable⟩ | ⟨_, lines, prints⟩)
    · rw [goal] at writable
      exact left.not_writable writable
    · exact made.silent prints
  | written made writable _ => exact iff_of_true rfl (.inl ⟨_, made, writable⟩)
  | printed prints room _ _ => exact iff_of_true rfl (.inr ⟨room, _, prints⟩)
  | aborted prints full _ _ =>
    refine iff_of_false nofun ?_
    rintro (⟨content, made, _⟩ | ⟨room, _⟩)
    · exact made.silent prints
    · cases room.symm.trans full

/-- Only what is to be printed, and finds no room, aborts. -/
theorem Ends.eq_aborted_iff (ends : Ends c s (result, after)) :
    result = .ok .aborted ↔ s.outputFull = true ∧ ∃ lines, c.Prints s lines := by
  cases ends with
  | failed same hindered silent =>
    exact iff_of_false nofun fun ⟨_, lines, prints⟩ => silent lines prints
  | stuck made goal left =>
    exact iff_of_false nofun fun ⟨_, lines, prints⟩ => made.silent prints
  | written made _ _ => exact iff_of_false nofun fun ⟨_, lines, prints⟩ => made.silent prints
  | printed _ room _ _ =>
    refine iff_of_false nofun fun ⟨full, _⟩ => ?_
    cases room.symm.trans full
  | aborted prints full _ _ => exact iff_of_true rfl ⟨full, _, prints⟩

theorem Ends.delivered (ends : Ends c s (.ok .success, after)) : c.Delivered s after := by
  cases ends with
  | written made _ written => exact .inl ⟨_, made, written⟩
  | printed prints _ tree output => exact .inr ⟨_, prints, tree, output⟩

end Endings

theorem ends_of_outcome {x : Operation Run Unit} (silent : ∀ lines, ¬ c.Prints s lines)
    (o : Outcome s c.output? (fun content _ => c.Makes s content) (x.run s)) :
    Ends c s ((do x; return .success : Operation Run Ending).run s) := by
  rcases ran : x.run s with ⟨outcome, after⟩
  rw [ran] at o
  cases o with
  | failed same hindered =>
    rw [run_bind_of_error ran]
    exact .failed same (fun content made => hindered content () made) silent
  | stuck made goal left =>
    rw [run_bind_of_error ran]
    exact .stuck made goal left
  | written made writable written =>
    rw [run_bind_of_ok ran]
    exact .written made writable written

section Inspection

variable {α : Type} {part : Bytes → Except Error α} {input : Option Path}
  {lines : α → List PrintedLine} {a : α}

theorem inspect_of_room
    (ran : (inspectInput part input : Operation Run α).run s = (.ok a, mid))
    (room : mid.outputFull = false) :
    (inspect (inspectInput part input) lines : Operation Run Ending).run s =
      (.ok .success, { mid with output := mid.output ++ bytesOf (lines a) }) := by
  unfold inspect
  rw [run_bind_of_ok ran]
  exact congrArg (Prod.map Except.ok id) (print_of_room (lines a) room)

theorem inspect_of_full {line : PrintedLine} {more : List PrintedLine}
    (ran : (inspectInput part input : Operation Run α).run s = (.ok a, mid))
    (shape : lines a = line :: more) (some : Utf8.encode line.text ≠ [])
    (full : mid.outputFull = true) :
    (inspect (inspectInput part input) lines : Operation Run Ending).run s =
      (.ok .aborted, { mid with reports := mid.reports ++ abortReport mid line }) := by
  unfold inspect
  rw [run_bind_of_ok ran, shape]
  exact congrArg (Prod.map Except.ok id) (print_of_full line more full some)

/-- What is read is printed whole if there is room for it, and otherwise the first line aborts. -/
theorem ends_inspect (idle : ∀ content, ¬ c.Makes s content)
    (someLine : ∀ a, ∃ line more, lines a = line :: more ∧ Utf8.encode line.text ≠ [])
    (prints_iff : ∀ {printed}, c.Prints s printed ↔
      ∃ a mid, (inspectInput part input : Operation Run α).run s = (.ok a, mid) ∧
        printed = lines a) :
    Ends c s ((inspect (inspectInput part input) lines : Operation Run Ending).run s) := by
  have harmless := harmless_inspectInput part input
  have first := harmless.quiet s
  rcases ran : (inspectInput part input : Operation Run α).run s with ⟨outcome, mid⟩
  rw [ran] at first
  cases outcome with
  | error failure =>
    obtain ⟨e, leftover?⟩ := failure
    cases harmless.clean s _ _ ran
    unfold inspect
    rw [run_bind_of_error ran]
    refine .failed first (fun content made => absurd made (idle content)) fun printed prints => ?_
    obtain ⟨a, _, success, _⟩ := prints_iff.1 prints
    cases ran.symm.trans success
  | ok a =>
    have prints : c.Prints s (lines a) := prints_iff.2 ⟨a, mid, ran, rfl⟩
    cases room : s.outputFull with
    | false =>
      rw [inspect_of_room ran (first.outputFull.trans room)]
      refine .printed prints room first.tree ?_
      rw [← first.output]
    | true =>
      obtain ⟨line, more, shape, some⟩ := someLine a
      rw [inspect_of_full ran shape some (first.outputFull.trans room)]
      rw [shape] at prints
      refine .aborted prints room (first.trans ⟨rfl, rfl, rfl, rfl, rfl, rfl, rfl⟩) ?_
      rw [eq_afterInput_of_inspectInput ran]
      exact abortReport_afterInput input line

end Inspection

theorem costsLines_ne_nil (json : Bool) (costs : Costs) :
    ∃ line more, costsLines json costs = line :: more ∧ Utf8.encode line.text ≠ [] :=
  ⟨_, _, rfl, Utf8.encode_line_ne_nil _⟩

theorem schemeLines_ne_nil (scheme : Scheme) :
    ∃ line more, schemeLines scheme = line :: more ∧ Utf8.encode line.text ≠ [] :=
  ⟨_, _, rfl, Utf8.encode_line_ne_nil _⟩

/-- Executing a command comes to one of the ends. -/
theorem ends_execute (filter : LogFilter) (other : ∀ shell, c ≠ .completion shell) (s : Session) :
    Ends c s ((execute filter c : Operation Run Ending).run s) := by
  cases c with
  | completion shell => exact absurd rfl (other shell)
  | encrypt e => exact ends_of_outcome (fun _ prints => prints) (outcome_encrypt filter e s)
  | decrypt d => exact ends_of_outcome (fun _ prints => prints) (outcome_decrypt filter d s)
  | information input json =>
    exact ends_inspect (fun _ made => made) (costsLines_ne_nil json) prints_information_iff
  | argon2 input =>
    exact ends_inspect (fun _ made => made) schemeLines_ne_nil prints_argon2_iff

/-! ### Runs -/

/-- The filter of events that a session asks for. -/
def logFilter (s : Session) : LogFilter :=
  .ofVariable (valueOf? s.environment (Utf8.encode "ABCRYPT_LOG"))

/-- The costs that a session asks for where the command line does not. -/
def costVariables (s : Session) : CostVariables where
  memory := valueOf? s.environment (Utf8.encode "ABCRYPT_MEMORY_COST")
  time := valueOf? s.environment (Utf8.encode "ABCRYPT_TIME_COST")
  lanes := valueOf? s.environment (Utf8.encode "ABCRYPT_PARALLELISM")

theorem valueOf?_nil (name : Bytes) : valueOf? [] name = none := by
  unfold valueOf?
  split
  · rfl
  · rfl

theorem costVariables_of_nil (empty : s.environment = []) : costVariables s = {} := by
  rw [costVariables, empty, valueOf?_nil, valueOf?_nil, valueOf?_nil]

theorem run_of_command (readAs : Command.read (costVariables s) arguments = .ok c) :
    (run arguments : Run Ending) s = (perform (logFilter s) c : Run Ending) s := by
  unfold costVariables at readAs
  unfold run
  simp only [bind_eq, environment?_eq, readAs]
  rfl

theorem run_of_stop {stop : Stop}
    (readAs : Command.read (costVariables s) arguments = .error stop) :
    (run arguments : Run Ending) s = (halt stop : Run Ending) s := by
  unfold costVariables at readAs
  unfold run
  simp only [bind_eq, environment?_eq, readAs]

theorem perform_of_ok {ending : Ending}
    (executed : (execute filter c : Operation Run Ending).run s = (.ok ending, after)) :
    (perform filter c : Run Ending) s = (ending, after) := by
  unfold perform
  rw [bind_eq, executed]
  rfl

theorem perform_of_error {failure : FileFailure}
    (executed : (execute filter c : Operation Run Ending).run s = (.error failure, mid)) :
    (perform filter c : Run Ending) s = (.failure, { mid with
      reports := mid.reports ++ s!"Error: {failure.error.render}\n" }) := by
  unfold perform
  rw [bind_eq, executed]
  rfl

/-- A command that is run succeeds exactly if it has something to write or to print, and can. -/
theorem run_eq_success_iff (readAs : Command.read (costVariables s) arguments = .ok c)
    (other : ∀ shell, c ≠ .completion shell) :
    ((run arguments : Run Ending) s).1 = .success ↔
      (∃ content, c.Makes s content ∧ Writable c.output? content s) ∨
        s.outputFull = false ∧ ∃ lines, c.Prints s lines := by
  have ends := ends_execute (logFilter s) other s
  rcases executed : (execute (logFilter s) c : Operation Run Ending).run s with ⟨result, mid⟩
  rw [executed] at ends
  rw [← ends.eq_success_iff, run_of_command readAs]
  cases result with
  | error failure =>
    rw [perform_of_error executed]
    exact iff_of_false nofun nofun
  | ok ending =>
    rw [perform_of_ok executed]
    exact ⟨congrArg Except.ok, Except.ok.inj⟩

theorem delivered_of_run (readAs : Command.read (costVariables s) arguments = .ok c)
    (other : ∀ shell, c ≠ .completion shell)
    (success : ((run arguments : Run Ending) s).1 = .success) :
    c.Delivered s ((run arguments : Run Ending) s).2 := by
  have ends := ends_execute (logFilter s) other s
  rw [run_of_command readAs] at success ⊢
  rcases executed : (execute (logFilter s) c : Operation Run Ending).run s with ⟨result, mid⟩
  rw [executed] at ends
  cases result with
  | error failure =>
    rw [perform_of_error executed] at success
    cases success
  | ok ending =>
    rw [perform_of_ok executed] at success ⊢
    cases success
    exact ends.delivered

/-- Help, versions and complaints about the command line change no file. -/
theorem tree_halt (stop : Stop) : ((halt stop : Run Ending) s).2.tree = s.tree := by
  have explained (text : String) : ((explain text : Run Ending) s).2.tree = s.tree := by
    unfold explain
    rw [bind_eq]
    by_cases full : s.outputFull ∧ Utf8.encode text ≠ []
    · rw [writeOutput_of_full full]
      rfl
    · rw [writeOutput_of_room full]
      rfl
  cases stop with
  | usage e => rfl
  | help l => exact explained _
  | version => exact explained _
  | nothingGiven => rfl

end CommandLine

end Coffer
