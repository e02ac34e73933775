import Coffer.Proofs.Confirmation
import Coffer.Proofs.FileRoundTrip
import Coffer.Proofs.MemorySizes
import Coffer.Proofs.Numerals
import Coffer.Proofs.Reports
import Coffer.Proofs.Settings

/-!
# Requested costs

The costs that an encryption is asked for on the command line are the costs in the header that it
writes, and those that are shown of that header later. A size of memory wins over a cost, an option
over its environment variable, and this over the default; nothing is rounded but a size, which is
cut down to whole KiB.
-/

set_option autoImplicit false
set_option relaxedAutoImplicit false

namespace Coffer.CommandLine

open Session Files Argument Progress

variable {fallback : CostVariables} {arguments : List Bytes} {e : Encryption} {o : Options}
  {s t : Session} {content : Bytes} {input : Option Path}

/-! ### Requests -/

/-- The number is the one that the text is a numeral of, or the default if there is no text. -/
def Denotes : Option Bytes → Nat → Nat → Prop
  | some text, _, n => ∃ s, Utf8.decode? text = some s ∧ Numeral s.toList n
  | none, default, n => n = default

/-- The scheme is the one that the settings ask for, with the variables of the environment behind
them. -/
structure Requested (settings : List Setting) (fallback : CostVariables) (scheme : Scheme) :
    Prop where
  size : ∀ text, valueIn settings .memorySize = some text →
    ∃ s bytes, Utf8.decode? text = some s ∧ MemorySize.readBytes s = .ok bytes ∧
      8192 ≤ bytes ∧ bytes < 1 <<< 42 ∧ scheme.costs.memory.toNat = bytes / 1024
  memory : valueIn settings .memorySize = none →
    Denotes (valueIn settings .memoryCost <|> fallback.memory) 19456 scheme.costs.memory.toNat
  time : Denotes (valueIn settings .timeCost <|> fallback.time) 2 scheme.costs.time.toNat
  lanes : Denotes (valueIn settings .parallelism <|> fallback.lanes) 1 scheme.costs.lanes.toNat
  variant : (valueIn settings .argon2Type).elim (scheme.variant = .argon2id)
    fun text => Utf8.decode? text = some scheme.variant.identifier
  version : (valueIn settings .argon2Version).elim (scheme.version = .v0x13)
    fun text => Utf8.decode? text = some scheme.version.name

/-- The texts are numerals of the costs. -/
structure NumeralsOf (c : Costs) (memory time lanes : String) : Prop where
  memory : Numeral memory.toList c.memory.toNat
  time : Numeral time.toList c.time.toNat
  lanes : Numeral lanes.toList c.lanes.toNat

/-- The line that shows costs with these numerals, as JSON or not. -/
def costsLine (json : Bool) (memory time lanes : String) : String :=
  if json then
    "\x7b\"memoryCost\":" ++ memory ++ ",\"timeCost\":" ++ time ++ ",\"parallelism\":" ++ lanes ++
      "\x7d" ++ "\n"
  else
    "Parameters used: memoryCost = " ++ memory ++ "; timeCost = " ++ time ++ "; parallelism = " ++
      lanes ++ ";" ++ "\n"

/-- What the arguments set behind the name of the command. -/
def encryptionSettings (arguments : List Bytes) : List Setting :=
  settingsIn .encrypt (sides false arguments).back

/-! ### Values -/

theorem exists_text {α : Type} {read : String → Except String α} {text : Bytes} {a : α}
    (found : Options.textual read text = some a) :
    ∃ s, Utf8.decode? text = some s ∧ read s = .ok a := by
  obtain ⟨s, decoded, success⟩ := Option.bind_eq_some_iff.1 found
  exact ⟨s, decoded, eq_ok_of_toOption success⟩

theorem eq_of_named {α : Type} {name : α → String} {values : List α} {text : Bytes} {a : α}
    (found : Options.named name values text = some a) : Utf8.decode? text = some (name a) := by
  obtain ⟨s, decoded, success⟩ := Option.bind_eq_some_iff.1 found
  have same := List.find?_some success
  rw [decoded, eq_of_beq same]

theorem denotes_of_settled {given : Option Bytes} {after : Option UInt32}
    (settled : Settled (Options.textual Integer.readWord) none given after) (d : UInt32) :
    Denotes given d.toNat (after.getD d).toNat := by
  cases given with
  | none =>
    have unset : after = none := settled
    rw [unset]
    rfl
  | some text =>
    obtain ⟨w, found, rfl⟩ := settled
    obtain ⟨s, decoded, read⟩ := exists_text found
    exact ⟨s, decoded, Integer.readWord_eq_ok_iff.1 read⟩

theorem named_of_settled {α : Type} {name : α → String} {values : List α} {given : Option Bytes}
    {after : Option α} (settled : Settled (Options.named name values) none given after) (d : α) :
    given.elim (after.getD d = d) fun text => Utf8.decode? text = some (name (after.getD d)) := by
  cases given with
  | none =>
    have unset : after = none := settled
    rw [unset]
    rfl
  | some text =>
    obtain ⟨a, found, rfl⟩ := settled
    exact eq_of_named found

/-- A size is taken as the value of its option exactly if it lies within the limits. -/
theorem set_memorySize_iff {value : Bytes} {text : String} {bytes : Nat} (o : Options)
    (decoded : Utf8.decode? value = some text) (read : MemorySize.readBytes text = .ok bytes) :
    (∃ o', o.set .memorySize value = .ok o') ↔ 8192 ≤ bytes ∧ bytes < 1 <<< 42 := by
  rw [← MemorySize.accepts_iff read]
  constructor
  · intro accepted
    obtain ⟨o', wrote⟩ := accepted
    obtain ⟨kib, found, _⟩ := Options.field_memorySize.own wrote
    obtain ⟨s, decoded', success⟩ := exists_text found
    cases decoded.symm.trans decoded'
    exact ⟨kib, success⟩
  · intro accepted
    obtain ⟨kib, success⟩ := accepted
    have found : Options.readText .memorySize MemorySize.read value = .ok kib := by
      rw [Options.readText, decoded]
      exact mapError_eq_ok_iff.2 success
    refine ⟨{ o with memorySize? := some kib }, ?_⟩
    rw [Options.set, found]
    rfl

/-! ### The command line -/

/-- What stands behind the name of a command has been read if it is to be carried out. -/
theorem exists_options_of_invoked {i : Invocation} {l : Level}
    (read : readArguments fallback arguments = .ok i) (called : i.command? = some (l, o)) :
    readCommandOptions fallback l (sides false arguments).back = .ok o := by
  have divided : scan .top {} arguments =
      (sides false arguments).front.foldlM (advance .top) {} >>= (sides false arguments).close :=
    scan_top arguments rfl
  rw [readArguments_eq, divided] at read
  obtain ⟨scanned, scans, read⟩ := bind_eq_ok_iff.1 read
  obtain ⟨q, _, closed⟩ := bind_eq_ok_iff.1 scans
  obtain ⟨command?, behind, concluded⟩ := bind_eq_ok_iff.1 read
  have kept : i.command? = command? := by
    unfold conclude at concluded
    obtain ⟨_, _, concluded⟩ := bind_eq_ok_iff.1 concluded
    dsimp only at concluded
    split at concluded
    · cases concluded
    · obtain ⟨_, _, concluded⟩ := bind_eq_ok_iff.1 concluded
      cases concluded
      rfl
  rw [← kept, called] at behind
  unfold readCalled at behind
  split at behind
  · rename_i l' rest named
    obtain ⟨options, success, same⟩ := bind_eq_ok_iff.1 behind
    cases same
    unfold Sides.close at closed
    split at closed
    · cases closed
      cases named
    · cases closed
    · cases closed
      cases named
      exact success
  · cases behind

/-- A command line that asks for an encryption has been read on both sides of the name. -/
theorem exists_options_of_read (readAs : Command.read fallback arguments = .ok (.encrypt e)) :
    ∃ top o, readCommandOptions fallback .encrypt (sides false arguments).back = .ok o ∧
      e = Command.encryption top o := by
  obtain ⟨i, read, named⟩ := bind_eq_ok_iff.1 readAs
  unfold Command.ofInvocation at named
  split at named
  · cases named
  · rename_i o _ called
    cases named
    exact ⟨i.top, o, exists_options_of_invoked read called, rfl⟩
  · cases named
  · cases named
  · cases named
  · cases named

/-- What is set on the command line is completed by the variables of the environment. -/
theorem exists_stages (read : readCommandOptions fallback .encrypt arguments = .ok o) :
    ∃ start first second, Options.takeAll {} (settingsIn .encrypt arguments) = .ok start ∧
      start.fallBack .memoryCost fallback.memory = .ok first ∧
      first.fallBack .timeCost fallback.time = .ok second ∧
      second.fallBack .parallelism fallback.lanes = .ok o := by
  unfold readCommandOptions at read
  rw [scan_of_uncalled arguments (.inl (by decide))] at read
  obtain ⟨scanned, scans, read⟩ := bind_eq_ok_iff.1 read
  obtain ⟨q, read₁, same⟩ := bind_eq_ok_iff.1 scans
  cases same
  obtain ⟨r, resolved, read⟩ := bind_eq_ok_iff.1 read
  obtain ⟨o', completed, read⟩ := bind_eq_ok_iff.1 read
  obtain ⟨_, _, same⟩ := bind_eq_ok_iff.1 read
  cases same
  have taken : Options.takeAll {} (settingsIn .encrypt arguments) = .ok r.options :=
    takeAll_of_foldlM rfl read₁ resolved
  have finished := mapError_eq_ok_iff.1 completed
  rw [if_pos rfl] at finished
  obtain ⟨first, memory, finished⟩ := bind_eq_ok_iff.1 finished
  obtain ⟨second, time, lanes⟩ := bind_eq_ok_iff.1 finished
  exact ⟨r.options, first, second, taken, memory, time, lanes⟩

/-- The values that a command goes by are read from the settings, with the variables of the
environment behind them. -/
structure Completed (settings : List Setting) (fallback : CostVariables) (o : Options) : Prop where
  size : Settled (Options.textual MemorySize.read) none (valueIn settings .memorySize) o.memorySize?
  memory : Settled (Options.textual Integer.readWord) none
    (valueIn settings .memoryCost <|> fallback.memory) o.memoryCost?
  time : Settled (Options.textual Integer.readWord) none
    (valueIn settings .timeCost <|> fallback.time) o.timeCost?
  lanes : Settled (Options.textual Integer.readWord) none
    (valueIn settings .parallelism <|> fallback.lanes) o.parallelism?
  variant : Settled (Options.named Argon2.Variant.identifier [.argon2d, .argon2i, .argon2id]) none
    (valueIn settings .argon2Type) o.variant?
  version : Settled (Options.named Argon2.Version.name [.v0x10, .v0x13]) none
    (valueIn settings .argon2Version) o.version?
  verbose : o.has .verbose = true ↔ .verbose ∈ settings.map Prod.fst

open Options in
theorem completed_of_read (read : readCommandOptions fallback .encrypt arguments = .ok o) :
    Completed (settingsIn .encrypt arguments) fallback o := by
  obtain ⟨start, first, second, taken, memory, time, lanes⟩ := exists_stages read
  have had (f : Flag) (valued : f.takesValue = true) :
      start.has f = (valueIn (settingsIn .encrypt arguments) f).isSome :=
    has_of_takeAll valued taken
  have had₁ (f : Flag) : first.has f = start.has f := by
    rw [has, given_of_fallBack memory, has]
  have had₂ (f : Flag) : second.has f = start.has f := by
    rw [has, given_of_fallBack time, ← had₁, has]
  have untouched {α : Type} {f : Flag} {get : Options → Option α} {read : Bytes → Option α}
      (field : Field f get read) (other : f ≠ .memoryCost ∧ f ≠ .timeCost ∧ f ≠ .parallelism) :
      get o = get start := by
    rw [field.fallBack_other other.2.2.symm lanes, field.fallBack_other other.2.1.symm time,
      field.fallBack_other other.1.symm memory]
  refine ⟨?_, ?_, ?_, ?_, ?_, ?_, ?_⟩
  · rw [untouched field_memorySize (by decide)]
    exact field_memorySize.takeAll taken
  · rw [field_memoryCost.fallBack_other (by decide) lanes,
      field_memoryCost.fallBack_other (by decide) time]
    exact field_memoryCost.settled_fallBack memory (had _ rfl) (field_memoryCost.takeAll taken)
  · rw [field_timeCost.fallBack_other (by decide) lanes]
    refine field_timeCost.settled_fallBack time ((had₁ _).trans (had _ rfl)) ?_
    rw [field_timeCost.fallBack_other (by decide) memory]
    exact field_timeCost.takeAll taken
  · refine field_parallelism.settled_fallBack lanes ((had₂ _).trans (had _ rfl)) ?_
    rw [field_parallelism.fallBack_other (by decide) time,
      field_parallelism.fallBack_other (by decide) memory]
    exact field_parallelism.takeAll taken
  · rw [untouched field_argon2Type (by decide)]
    exact field_argon2Type.takeAll taken
  · rw [untouched field_argon2Version (by decide)]
    exact field_argon2Version.takeAll taken
  · rw [has, given_of_fallBack lanes, given_of_fallBack time, given_of_fallBack memory,
      given_of_takeAll taken, List.nil_append, List.contains_iff_mem]

/-- The scheme of an encryption is the one that the command line asks for. -/
theorem requested_of_completed {settings : List Setting} {top : Options} {costs : Costs}
    (completed : Completed settings fallback o) (same : e = Command.encryption top o)
    (priced : Costs.ofTriple e.memory e.time e.lanes = .ok costs) :
    Requested settings fallback { variant := e.variant, version := e.version, costs } := by
  obtain ⟨memory, time, lanes⟩ := Costs.ofTriple_eq_ok_iff.1 priced
  rw [same] at memory time lanes ⊢
  have cost := denotes_of_settled completed.memory (default : Costs).memory
  refine ⟨?_, ?_, ?_, ?_, named_of_settled completed.variant _,
    named_of_settled completed.version _⟩
  · intro text given
    have settled := completed.size
    rw [given] at settled
    obtain ⟨kib, found, whole⟩ := settled
    obtain ⟨s, decoded, read⟩ := exists_text found
    obtain ⟨bytes, readAs, least, greatest, exact⟩ := MemorySize.read_eq_ok_iff.1 read
    have chosen : (o.memorySize? <|> o.memoryCost?).getD (default : Costs).memory = kib := by
      rw [whole]
      rfl
    refine ⟨s, bytes, decoded, readAs, least, greatest, ?_⟩
    rw [← exact, ← chosen]
    exact congrArg UInt32.toNat memory.symm
  · intro missing
    have settled := completed.size
    rw [missing] at settled
    have unset : o.memorySize? = none := settled
    have chosen : (o.memorySize? <|> o.memoryCost?).getD (default : Costs).memory =
        o.memoryCost?.getD (default : Costs).memory := by
      rw [unset]
      rfl
    rw [← chosen] at cost
    rw [← memory]
    exact cost
  · rw [← time]
    exact denotes_of_settled completed.time (default : Costs).time
  · rw [← lanes]
    exact denotes_of_settled completed.lanes (default : Costs).lanes

/-! ### What is written and shown -/

/-- The numbers that are shown of costs are the costs. -/
theorem exists_numerals (c : Costs) : ∃ memory time lanes, NumeralsOf c memory time lanes ∧
    c.describe ++ "\n" = costsLine false memory time lanes ∧
    ∀ json, costsLines json c = [⟨.costs json, costsLine json memory time lanes⟩] := by
  have between : "; parallelism = " = "; " ++ "parallelism = " := rfl
  have described : c.describe ++ "\n" = costsLine false (toString c.memory.toNat)
      (toString c.time.toNat) (toString c.lanes.toNat) := by
    unfold Costs.describe costsLine
    rw [if_neg Bool.false_ne_true]
    simp only [between, String.append_assoc]
    rfl
  refine ⟨_, _, _, ⟨numeral_toString _, numeral_toString _, numeral_toString _⟩, described, ?_⟩
  intro json
  cases json with
  | true => rfl
  | false => exact congrArg ([PrintedLine.mk (.costs false) ·]) described

section Runs

variable {c : Command} {costs : Costs} {source : PassphraseSource} {header : Header}
  {lines : List PrintedLine} {d : Decryption}

theorem header_of_makes (made : (Command.encrypt e).Makes s content) :
    ∃ costs header, Costs.ofTriple e.memory e.time e.lanes = .ok costs ∧
      Header.parse content = .ok header ∧
      header.scheme = { variant := e.variant, version := e.version, costs } := by
  obtain ⟨costs, _, priced, _, _, _, _, _, _, made⟩ := made
  obtain ⟨key, parsed⟩ := parse_of_encryptUnder made
  exact ⟨costs, _, priced, parsed, rfl⟩

/-- A run that succeeds has carried out its command. -/
theorem execute_of_run (readAs : Command.read (costVariables s) arguments = .ok c)
    (success : ((run arguments : Run Ending) s).1 = .success) :
    (execute (logFilter s) c : Operation Run Ending).run s =
      (.ok .success, ((run arguments : Run Ending) s).2) := by
  rw [run_of_command readAs] at success ⊢
  rcases executed : (execute (logFilter s) c : Operation Run Ending).run s with ⟨result, mid⟩
  cases result with
  | error failure =>
    rw [perform_of_error executed] at success
    cases success
  | ok ending =>
    rw [perform_of_ok executed] at success ⊢
    cases success
    rfl

/-- The costs are the first that an encryption shows. -/
theorem reports_of_encrypt (priced : Costs.ofTriple e.memory e.time e.lanes = .ok costs)
    (chosen : e.sources.choose e.input true = .ok source) (verbose : e.verbose = true)
    (filter : LogFilter) (s : Session) :
    ∃ more, ((encrypt filter e : Operation Run Unit).run s).2.reports =
      s.reports ++ (costs.describe ++ "\n") ++ more := by
  unfold encrypt
  rw [priced]
  dsimp only
  rw [chosen]
  dsimp only
  rw [run_bind_lift, verbose]
  obtain ⟨more, reports, _⟩ := adds_encrypt (appending_observe filter) e.input e.output source
    { variant := e.variant, version := e.version, costs } ((showCosts true costs : Run Unit) s).2
  exact ⟨more, reports⟩

theorem reports_of_run (readAs : Command.read (costVariables s) arguments = .ok (.encrypt e))
    (success : ((run arguments : Run Ending) s).1 = .success)
    (made : (Command.encrypt e).Makes s content) (verbose : e.verbose = true)
    (priced : Costs.ofTriple e.memory e.time e.lanes = .ok costs) :
    ∃ more, ((run arguments : Run Ending) s).2.reports =
      s.reports ++ (costs.describe ++ "\n") ++ more := by
  obtain ⟨_, source, _, chosen, _⟩ := made
  obtain ⟨more, shown⟩ := reports_of_encrypt priced chosen verbose (logFilter s) s
  obtain ⟨_, mid, ran, ended⟩ := run_bind_eq_ok_iff.1 (execute_of_run readAs success)
  cases ended
  rw [ran] at shown
  exact ⟨more, shown⟩

/-- What a command is to print is printed, if there is room for it. -/
theorem output_of_prints (readAs : Command.read (costVariables t) arguments = .ok c)
    (other : ∀ shell, c ≠ .completion shell) (prints : c.Prints t lines)
    (room : t.outputFull = false) :
    ((run arguments : Run Ending) t).1 = .success ∧
      ((run arguments : Run Ending) t).2.output = t.output ++ bytesOf lines := by
  have success := (run_eq_success_iff readAs other).2 (.inr ⟨room, lines, prints⟩)
  refine ⟨success, ?_⟩
  rcases delivered_of_run readAs other success with ⟨content, made, _⟩ | ⟨_, again, _, output⟩
  · exact absurd prints made.silent
  · rw [output, again.unique prints]

/-- The costs are the last that a decryption shows. -/
theorem reports_of_decrypt (readAs : Command.read (costVariables t) arguments = .ok (.decrypt d))
    (success : ((run arguments : Run Ending) t).1 = .success) (verbose : d.verbose = true)
    (provided : Provides d.input t content) (parsed : Header.parse content = .ok header) :
    ∃ earlier, ((run arguments : Run Ending) t).2.reports =
      earlier ++ (header.scheme.costs.describe ++ "\n") := by
  obtain ⟨_, mid, ran, ended⟩ := run_bind_eq_ok_iff.1 (execute_of_run readAs success)
  cases ended
  unfold decrypt at ran
  split at ran
  · cases ran
  · rename_i source chosen
    obtain ⟨costs, last, opened, shown⟩ := run_bind_eq_ok_iff.1 ran
    have outcome := outcome_of_source (quiet_observe (logFilter t))
      (makes_openContainer (quiet_observe (logFilter t))) d.input d.output source t
    unfold Files.decrypt at opened
    rw [opened] at outcome
    cases outcome with
    | written result _ _ =>
      obtain ⟨data, _, _, readIn, _, _, header', parsed', rfl⟩ := result
      obtain ⟨_, readIn'⟩ := provided
      cases readIn.symm.trans readIn'
      cases parsed.symm.trans parsed'
      rw [verbose] at shown
      exact ⟨last.reports, (congrArg (·.2.reports) shown).symm⟩

end Runs

/-- The costs, the type and the version that an encryption is asked for on the command line, or else
in the environment, or else by default, are those in the header that it writes. Numerals of the same
costs are shown by a verbose encryption before all else, by a verbose decryption in the end, and by
the inspections, as text and as JSON. A size of memory is taken exactly if it lies within the
limits, and it is read without regard to small and capital letters. -/
theorem requested_costs_are_written :
    (∀ (arguments : List Bytes) (s : Session) (e : Encryption),
      Command.read (costVariables s) arguments = .ok (.encrypt e) →
      ((run arguments : Run Ending) s).1 = .success →
      ∃ content header, Written e.output content s ((run arguments : Run Ending) s).2 ∧
        Header.parse content = .ok header ∧
        Requested (encryptionSettings arguments) (costVariables s) header.scheme ∧
        (∀ path, e.output = some path →
          Provides (some path) ((run arguments : Run Ending) s).2 content) ∧
        ∃ memory time lanes, NumeralsOf header.scheme.costs memory time lanes ∧
          (.verbose ∈ (encryptionSettings arguments).map Prod.fst →
            ∃ more, ((run arguments : Run Ending) s).2.reports =
              s.reports ++ costsLine false memory time lanes ++ more) ∧
          ∀ (t : Session) (input : Option Path) (later : List Bytes), Provides input t content →
            (∀ json, t.outputFull = false →
              Command.read (costVariables t) later = .ok (.information input json) →
              ((run later : Run Ending) t).1 = .success ∧
                ((run later : Run Ending) t).2.output =
                  t.output ++ Utf8.encode (costsLine json memory time lanes)) ∧
            (t.outputFull = false →
              Command.read (costVariables t) later = .ok (.argon2 input) →
              ((run later : Run Ending) t).1 = .success ∧
                ((run later : Run Ending) t).2.output = t.output ++
                  Utf8.encode ("Type: " ++ header.scheme.variant.name ++ "\n") ++
                  Utf8.encode ("Version: " ++ header.scheme.version.name ++ "\n")) ∧
            ∀ d, Command.read (costVariables t) later = .ok (.decrypt d) → d.input = input →
              d.verbose = true → ((run later : Run Ending) t).1 = .success →
              ∃ earlier, ((run later : Run Ending) t).2.reports =
                earlier ++ costsLine false memory time lanes) ∧
    (∀ (o : Options) (value : Bytes) (text : String) (bytes : Nat),
      Utf8.decode? value = some text → MemorySize.readBytes text = .ok bytes →
      ((∃ o', o.set .memorySize value = .ok o') ↔ 8192 ≤ bytes ∧ bytes < 1 <<< 42)) ∧
    ∀ text text' : String, capitals text.toList = capitals text'.toList →
      (MemorySize.readBytes text).toOption = (MemorySize.readBytes text').toOption := by
  refine ⟨?_, fun o value text bytes => set_memorySize_iff o, fun text text' =>
    MemorySize.readBytes_congr⟩
  intro arguments s e readAs success
  obtain ⟨content, made, written⟩ := written_of_run readAs success
  obtain ⟨costs, header, priced, parsed, scheme⟩ := header_of_makes made
  obtain ⟨top, o, read, same⟩ := exists_options_of_read readAs
  have completed := completed_of_read read
  obtain ⟨memory, time, lanes, numerals, described, printed⟩ := exists_numerals header.scheme.costs
  refine ⟨content, header, written, parsed, ?_, ?_, memory, time, lanes, numerals, ?_, ?_⟩
  · rw [scheme]
    exact requested_of_completed completed same priced
  · intro path goal
    rw [goal] at written
    exact ⟨_, readInput_path_eq_ok_iff.2 ⟨written.read.1, rfl⟩⟩
  · intro given
    have verbose : e.verbose = true := by
      rw [same]
      exact completed.verbose.2 given
    rw [← described, scheme]
    exact reports_of_run readAs success made verbose priced
  · intro t input later provided
    have named : NamesScheme input t header.scheme := by
      obtain ⟨mid, readIn⟩ := provided
      exact ⟨content, mid, header, readIn, parsed, rfl⟩
    refine ⟨?_, ?_, ?_⟩
    · intro json room readLater
      obtain ⟨success, output⟩ := output_of_prints readLater (by simp) ⟨_, named, rfl⟩ room
      rw [printed json, bytesOf, List.flatMap_singleton] at output
      exact ⟨success, output⟩
    · intro room readLater
      obtain ⟨success, output⟩ := output_of_prints readLater (by simp) ⟨_, named, rfl⟩ room
      rw [schemeLines, bytesOf, List.flatMap_cons, List.flatMap_singleton,
        ← List.append_assoc] at output
      exact ⟨success, output⟩
    · intro d readLater source verbose success
      rw [← described]
      exact reports_of_decrypt readLater success verbose (source ▸ provided) parsed

section OneMebibyte

/-- The size "1mib". -/
def oneMebibyte : Bytes := [49, 109, 105, 98]

/-- A file is to be encrypted with a size of "1mib" and, besides, a cost of 64. -/
def sizedArguments : List Bytes :=
  [[101], [45, 118],
    [45, 45, 109, 101, 109, 111, 114, 121, 45, 115, 105, 122, 101, 61] ++ oneMebibyte,
    [45, 109], [54, 52], [45, 111], [111], [105]]

/-- In the environment, the number of passes is three. -/
def threePasses : Session := { mistyped with
  environment := [(Utf8.encode "ABCRYPT_TIME_COST", [51])] }

def sizedEncryption : Encryption := { toFile with memory := 1024, time := 3 }

private theorem read_sizedArguments :
    Command.read (costVariables threePasses) sizedArguments = .ok (.encrypt sizedEncryption) :=
  eq_ok_of_toOption (by decide +kernel)

private theorem types_threePasses : threePasses.Types [[112], [113], [112], [112], [120]] :=
  ⟨rfl, verbatim_mistyped⟩

private theorem success_threePasses :
    ((run sizedArguments : Run Ending) threePasses).1 = .success := by
  have priced : ∃ costs, Costs.ofTriple sizedEncryption.memory sizedEncryption.time
      sizedEncryption.lanes = .ok costs := ⟨_, rfl⟩
  obtain ⟨costs, priced⟩ := priced
  have found : contentOf sizedEncryption.input threePasses =
      .ok [104, 101, 108, 108, 111] := rfl
  have untouched : Untouched mistyped threePasses := ⟨rfl, rfl, rfl, rfl, rfl, rfl, rfl⟩
  exact success_of_settles read_sizedArguments rfl types_threePasses settles_mistyped priced found
    (by decide +kernel) (by decide)
    fun content => writable_of_untouched untouched (writable_mistyped content)

/-- The size "4TiB". -/
def fourTebibytes : Bytes := [52, 84, 105, 66]

/-- The costs of a file are to be printed as JSON. -/
def printingArguments : List Bytes := [[105], [45, 106], [111]]

/-- The size wins over the cost, and the variable over the default. What is in the header is printed
of the file later on. A size of four tebibytes is too large, and "1MiB" is the same as "1mib". -/
theorem requested_costs_are_written_one_mebibyte :
    Command.read (costVariables threePasses) sizedArguments = .ok (.encrypt sizedEncryption) ∧
      ((run sizedArguments : Run Ending) threePasses).1 = .success ∧
      (∃ content header,
        Written (some [111]) content threePasses
          ((run sizedArguments : Run Ending) threePasses).2 ∧
        Header.parse content = .ok header ∧ header.scheme.costs.memory.toNat = 1024 ∧
        header.scheme.costs.time.toNat = 3 ∧ header.scheme.costs.lanes.toNat = 1 ∧
        ∃ memory time lanes, NumeralsOf header.scheme.costs memory time lanes ∧
        ∃ t : Session, t.outputFull = false ∧ Provides (some [111]) t content ∧
          ((run printingArguments : Run Ending) t).2.output =
            t.output ++ Utf8.encode (costsLine true memory time lanes)) ∧
      (¬ ∃ o', ({} : Options).set .memorySize fourTebibytes = .ok o') ∧
      (MemorySize.readBytes "1mib").toOption = (MemorySize.readBytes "1MiB").toOption := by
  obtain ⟨runs, accepted, alike⟩ := requested_costs_are_written
  obtain ⟨content, header, written, parsed, requested, provided, memory, time, lanes, numerals, _,
    later⟩ := runs sizedArguments threePasses sizedEncryption read_sizedArguments
      success_threePasses
  refine ⟨read_sizedArguments, success_threePasses,
    ⟨content, header, written, parsed, ?_, ?_, ?_, memory, time, lanes, numerals, ?_⟩, ?_,
    alike _ _ (by decide)⟩
  · have given : valueIn (encryptionSettings sizedArguments) .memorySize = some oneMebibyte := by
      decide +kernel
    have read : MemorySize.readBytes "1mib" = .ok 1048576 := eq_ok_of_toOption (by decide +kernel)
    have text : Utf8.decode? oneMebibyte = some "1mib" := by decide +kernel
    obtain ⟨s, bytes, decoded, size, -, -, exact⟩ := requested.size _ given
    cases text.symm.trans decoded
    cases read.symm.trans size
    exact exact
  · have given : (valueIn (encryptionSettings sizedArguments) .timeCost <|>
        (costVariables threePasses).time) = some [51] := by
      decide +kernel
    have read : Integer.readWord "3" = .ok 3 := eq_ok_of_toOption (by decide +kernel)
    have text : Utf8.decode? [51] = some "3" := by decide +kernel
    have time := requested.time
    rw [given] at time
    obtain ⟨s, decoded, numeral⟩ := time
    cases text.symm.trans decoded
    rw [← Except.ok.inj (read.symm.trans (Integer.readWord_eq_ok_iff.2 numeral))]
    rfl
  · have missing : (valueIn (encryptionSettings sizedArguments) .parallelism <|>
        (costVariables threePasses).lanes) = none := by
      decide +kernel
    have lanes := requested.lanes
    rw [missing] at lanes
    exact lanes
  · obtain ⟨_, readIn⟩ := provided [111] rfl
    have content := (readInput_path_eq_ok_iff.1 readIn).1
    generalize ((run sizedArguments : Run Ending) threePasses).2 = after at content
    have reread : Provides (some [111]) { bare with tree := after.tree, here := after.here } _ :=
      ⟨_, readInput_path_eq_ok_iff.2 ⟨content, rfl⟩⟩
    have readAs : Command.read
        (costVariables { bare with tree := after.tree, here := after.here }) printingArguments =
        .ok (.information (some [111]) true) := by
      rw [costVariables_of_nil rfl]
      exact eq_ok_of_toOption (by decide +kernel)
    exact ⟨_, rfl, reread, ((later _ _ _ reread).1 true rfl readAs).2⟩
  · have text : Utf8.decode? fourTebibytes = some "4TiB" := by decide +kernel
    have read : MemorySize.readBytes "4TiB" = .ok 4398046511104 :=
      eq_ok_of_toOption (by decide +kernel)
    rw [accepted {} _ _ _ text read]
    decide

end OneMebibyte

end Coffer.CommandLine
