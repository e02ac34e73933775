import Coffer.Proofs.FileRoundTrip
import Coffer.Proofs.Lines
import Coffer.Proofs.PassphraseOptions
import Coffer.Proofs.Secrecy

/-!
# Passphrases from lines

A stream gives the bytes before its first line feed, without a carriage return before that, however
its bytes are cut into chunks. A file gives the same bytes unless there is such a carriage return:
then it gives one byte more.
-/

set_option autoImplicit false
set_option relaxedAutoImplicit false

namespace Coffer

namespace Stream

/-- The stream delivers the bytes, in chunks of any size but none, and may be interrupted. -/
inductive Delivers : Stream → Bytes → Prop
  | ended : Delivers {} []
  | data {chunk content : Bytes} {rest : List Event} (some : chunk ≠ [])
    (more : Delivers ⟨rest⟩ content) : Delivers ⟨.data chunk :: rest⟩ (chunk ++ content)
  | interrupted {content : Bytes} {rest : List Event} (more : Delivers ⟨rest⟩ content) :
    Delivers ⟨.interrupted :: rest⟩ content

variable {s : Stream} {content : Bytes}

theorem Delivers.brings (delivers : s.Delivers content) : s.Brings content := by
  induction delivers with
  | ended => exact ⟨rfl, failsBehindLine_nil⟩
  | @data chunk content rest some more ih =>
    have goes : Event.data chunk ≠ .data [] := fun same => some (Event.data.inj same)
    obtain ⟨rfl, unfailing⟩ := ih
    constructor
    · dsimp only
      rw [untilEnd_cons goes]
      rfl
    · dsimp only
      rw [untilEnd_cons goes]
      exact failsBehindLine_cons_iff.2 ⟨nofun, .inr unfailing⟩
  | @interrupted content rest more ih =>
    obtain ⟨rfl, unfailing⟩ := ih
    constructor
    · dsimp only
      rw [untilEnd_cons (by simp)]
      rfl
    · dsimp only
      rw [untilEnd_cons (by simp)]
      exact failsBehindLine_cons_iff.2 ⟨nofun, .inr unfailing⟩

/-- A stream gives the first line of what it delivers, whichever way that is cut into chunks. -/
theorem readLine_of_delivers (delivers : s.Delivers content) :
    s.readLine.1 = .ok (lineOf content) :=
  readLine_of_brings delivers.brings

end Stream

/-! ### Sources -/

namespace PassphraseSource

open Session Coffer.Stream

variable {s : Session} {content : Bytes}

/-- A file gives the carriage return as well. -/
theorem firstLine_eq (content : Bytes) :
    firstLine content =
      if EndsInReturn content then lineOf content ++ [carriageReturn] else lineOf content := by
  unfold lineOf
  split
  · rename_i turned
    obtain ⟨front, split⟩ := List.getLast?_eq_some_iff.1 turned.2
    rw [firstLine, split, List.dropLast_concat]
  · rfl

/-- No line feed is left in what a file gives, so no end of a line can be taken off it. -/
theorem stripEnd_firstLine (content : Bytes) :
    stripEnd (firstLine content) = firstLine content := by
  refine if_neg fun last => ?_
  have passed := List.all_eq_true.1 List.all_takeWhile _ (List.mem_of_getLast? last)
  simp at passed

theorem ofContent_eq (content : Bytes) : ofContent content = firstLine content :=
  stripEnd_firstLine content

theorem answer_stream_of_delivers {stream : Coffer.Stream} (delivers : stream.Delivers content) :
    (((PassphraseSource.stream stream).read : Run _) s).1.1 = .ok (lineOf content) :=
  answer_stream_of_brings delivers.brings

theorem Offers.answer {source : PassphraseSource} {passphrase : Bytes}
    (offers : Offers s source passphrase) :
    ((source.read : Run _) s).1.1 = .ok passphrase := by
  obtain ⟨after, asked, _⟩ := offers.read
  exact congrArg (·.1.1) asked

theorem offers_input_of_delivers (delivers : s.input.Delivers content) :
    Offers s .input (lineOf content) :=
  .line (readLine_of_delivers delivers)

end PassphraseSource

/-! ### Commands -/

namespace CommandLine

open Session Files PassphraseSource Coffer.Stream

variable {e : Encryption} {d : Decryption} {s t : Session} {content container plaintext : Bytes}
  {path : Path} {scheme : Scheme}

theorem eq_input_of_choose {sources : Sources} {input : Option Path} {confirm : Bool}
    {source : PassphraseSource} (asks : sources.input = true)
    (chosen : sources.choose input confirm = .ok source) : source = .input := by
  rw [Sources.choose, if_pos asks] at chosen
  split at chosen
  · cases chosen
  · exact (Except.ok.inj chosen).symm

/-- An encryption with the passphrase from the standard input makes a container under the first
line there. -/
theorem isContainer_of_makes (asks : e.sources.input = true) (delivers : s.input.Delivers content)
    (made : (Command.encrypt e).Makes s container) :
    ∃ costs draw plaintext, contentOf e.input s = .ok plaintext ∧
      IsContainer { variant := e.variant, version := e.version, costs } draw plaintext
        (lineOf content) container () := by
  obtain ⟨costs, source, priced, chosen, plaintext, mid, passphrase, readIn, given, made⟩ := made
  obtain rfl := eq_input_of_choose asks chosen
  obtain ⟨reports, shown⟩ := showCosts_eq e.verbose costs s
  rw [shown, readInput_eq, contentOf_with_reports] at readIn
  obtain ⟨read, rfl⟩ := Prod.mk.inj readIn
  have offers : Offers (afterInput e.input { s with reports }) .input (lineOf content) :=
    Offers.after_input ((offers_input_of_delivers delivers).with_reports reports)
      fun _ => isSome_of_choose chosen
  cases offers.answer.symm.trans given
  exact ⟨costs, _, plaintext, mapError_eq_ok_iff.1 read, made⟩

/-- A decryption with the passphrase from a file makes the plaintext, if the file has the same
first line. -/
theorem makes_of_isContainer {draw : Draw}
    (made : IsContainer scheme draw plaintext (firstLine content) container ())
    (chosen : d.sources.choose d.input false = .ok (.file path))
    (stored : t.tree.read t.here path = .ok content)
    (provided : contentOf d.input t = .ok container) :
    (Command.decrypt d).Makes t plaintext := by
  rw [← ofContent_eq] at made
  have offers : Offers (afterInput d.input t) (.file path) (ofContent content) :=
    Offers.after_input (.file stored) nofun
  refine ⟨_, scheme.costs, chosen, container, afterInput d.input t, ofContent content, ?_,
    offers.answer, isPlaintext_of_isContainer made⟩
  rw [readInput_eq, provided]
  rfl

/-- A stream and the standard input give the first line of the bytes that they deliver, in whatever
chunks. A file with these bytes gives the same line, and a carriage return behind it if there is one
before the first line feed, which no longer is an end of the line that could be taken off. If there
is none, then what has been encrypted with the passphrase from the standard input is decrypted with
the passphrase from the file. -/
theorem file_gives_line_of_stream (content : Bytes) :
    (∀ (stream : Coffer.Stream) (s : Session), stream.Delivers content →
      (((PassphraseSource.stream stream).read : Run _) s).1.1 = .ok (lineOf content)) ∧
    (∀ s : Session, s.input.Delivers content →
      ((PassphraseSource.input.read : Run _) s).1.1 = .ok (lineOf content)) ∧
    (∀ (s : Session) (path : Path), s.tree.read s.here path = .ok content →
      (((PassphraseSource.file path).read : Run _) s).1.1 = .ok
        (if EndsInReturn content then lineOf content ++ [carriageReturn] else lineOf content)) ∧
    stripEnd (firstLine content) = firstLine content ∧
    ∀ (arguments : List Bytes) (e : Encryption) (s : Session),
      Command.read (costVariables s) arguments = .ok (.encrypt e) → e.sources.input = true →
      s.input.Delivers content → ((run arguments : Run Ending) s).1 = .success →
      ∃ plaintext container, contentOf e.input s = .ok plaintext ∧
        Written e.output container s ((run arguments : Run Ending) s).2 ∧
        (¬ EndsInReturn content →
          ∀ (later : List Bytes) (d : Decryption) (t : Session) (path : Path),
            Command.read (costVariables t) later = .ok (.decrypt d) →
            d.sources.choose d.input false = .ok (.file path) →
            t.tree.read t.here path = .ok content → contentOf d.input t = .ok container →
            Writable d.output plaintext t →
            ((run later : Run Ending) t).1 = .success ∧
              Written d.output plaintext t ((run later : Run Ending) t).2) := by
  refine ⟨fun _ _ => answer_stream_of_delivers, fun s delivers =>
    (offers_input_of_delivers delivers).answer, fun s path stored => ?_, stripEnd_firstLine content,
    fun arguments e s readAs asks delivers success => ?_⟩
  · rw [← firstLine_eq, ← ofContent_eq]
    exact (Offers.file stored).answer
  · obtain ⟨container, made, written⟩ := written_of_run readAs success
    obtain ⟨costs, draw, plaintext, read, made⟩ := isContainer_of_makes asks delivers made
    refine ⟨plaintext, container, read, written, ?_⟩
    intro plain later d t path readAs' chosen stored provided writable
    have same : firstLine content = lineOf content := (firstLine_eq content).trans (if_neg plain)
    rw [← same] at made
    have makes := makes_of_isContainer made chosen stored provided
    have success' := (run_eq_success_iff readAs' (by simp)).2 (.inl ⟨plaintext, makes, writable⟩)
    refine ⟨success', ?_⟩
    rcases delivered_of_run readAs' (by simp) success' with ⟨_, makes', written'⟩ | ⟨_, prints, _⟩
    · rw [makes.unique makes']
      exact written'
    · cases prints

section TwoPieces

/-- A session with a file of five bytes, in which a line of one letter arrives in two pieces. -/
def listening : Session where
  tree := ({} : FileTree).put [[105]] (.file [104, 101, 108, 108, 111] false)
  input := ⟨[.data [112], .interrupted, .data [10]]⟩
  draw := ⟨default, default⟩

/-- A session with a container, and the same line in a file. -/
def storing (container : Bytes) : Session where
  tree := (({} : FileTree).put [[99]] (.file container true)).put [[107]] (.file [112, 10] false)
  draw := ⟨default, default⟩

/-- The file is to be encrypted with the passphrase from the standard input. -/
def underLine : Encryption where
  input := some [105]
  output := none
  memory := 19456
  time := 2
  lanes := 1
  variant := .argon2id
  version := .v0x13
  verbose := false
  sources := { input := true }

/-- The command line of that encryption. -/
def lineArguments : List Bytes := [stdinOption, [101], [105]]

/-- The container is to be decrypted with the passphrase from the file. -/
def withFile : Decryption where
  input := some [99]
  output := none
  verbose := false
  sources := { file? := some [107] }

/-- The command line of that decryption. -/
def storedArguments : List Bytes := [fileOption, [107], [100], [99]]

private theorem read_lineArguments :
    Command.read (costVariables listening) lineArguments = .ok (.encrypt underLine) := by
  rw [costVariables_of_nil rfl]
  exact eq_ok_of_toOption (by decide +kernel)

private theorem read_storedArguments (container : Bytes) :
    Command.read (costVariables (storing container)) storedArguments = .ok (.decrypt withFile) := by
  rw [costVariables_of_nil rfl]
  exact eq_ok_of_toOption (by decide +kernel)

private theorem delivers_listening : listening.input.Delivers [112, 10] := by
  have last : Stream.Delivers ⟨[.data [10]]⟩ [10] := .data (List.cons_ne_nil _ _) .ended
  exact .data (List.cons_ne_nil _ _) (.interrupted last)

private theorem success_listening : ((run lineArguments : Run Ending) listening).1 = .success := by
  obtain ⟨container, made⟩ := exists_encryptUnder
    (.unsigned default listening.draw.salt listening.draw.nonce) [104, 101, 108, 108, 111]
    (lineOf [112, 10]) (by decide) (by decide)
  have readIn : (readInput (some [105]) : Operation Run Bytes).run listening =
      (.ok [104, 101, 108, 108, 111], listening) := rfl
  have makes : (Command.encrypt underLine).Makes listening container :=
    ⟨default, .input, rfl, rfl, _, listening, _, readIn,
      (offers_input_of_delivers delivers_listening).answer, made⟩
  exact (run_eq_success_iff read_lineArguments (by simp)).2
    (.inl ⟨container, makes, fun full => absurd full.1 nofun, nofun⟩)

/-- A file is encrypted with the line that arrives, and decrypted with the line that is stored. -/
theorem file_gives_line_of_stream_in_two_pieces :
    listening.input.Delivers [112, 10] ∧ ¬ EndsInReturn [112, 10] ∧
      ((run lineArguments : Run Ending) listening).1 = .success ∧
      ∃ container,
        Written none container listening ((run lineArguments : Run Ending) listening).2 ∧
        ((run storedArguments : Run Ending) (storing container)).1 = .success ∧
        Written none [104, 101, 108, 108, 111] (storing container)
          ((run storedArguments : Run Ending) (storing container)).2 := by
  have plain : ¬ EndsInReturn [112, 10] := by decide
  obtain ⟨plaintext, container, read, written, decrypts⟩ :=
    (file_gives_line_of_stream [112, 10]).2.2.2.2 _ _ _ read_lineArguments rfl delivers_listening
      success_listening
  cases read
  obtain ⟨success, restored⟩ := decrypts plain _ _ (storing container) [107]
    (read_storedArguments container) rfl rfl rfl ⟨fun full => absurd full.1 nofun, nofun⟩
  exact ⟨delivers_listening, plain, success_listening, container, written, success, restored⟩

/-- A file with a carriage return before its first line feed gives another passphrase than a stream
of the same bytes. -/
theorem not_every_file_gives_line_of_stream :
    ¬ ∀ (content : Bytes) (stream : Coffer.Stream) (s : Session) (path : Path),
      stream.Delivers content → s.tree.read s.here path = .ok content →
        (((PassphraseSource.file path).read : Run _) s).1.1 =
          (((PassphraseSource.stream stream).read : Run _) s).1.1 := by
  intro claimed
  have delivers : (⟨[.data [112, 119, 13, 10]]⟩ : Coffer.Stream).Delivers [112, 119, 13, 10] :=
    .data (List.cons_ne_nil _ _) .ended
  have stored : ({ bare with
      tree := ({} : FileTree).put [[107]] (.file [112, 119, 13, 10] false) } : Session).tree.read
        [] [107] = .ok [112, 119, 13, 10] := rfl
  have same := claimed _ _ _ _ delivers stored
  rw [answer_stream_of_delivers delivers, (Offers.file stored).answer] at same
  cases same

end TwoPieces

end CommandLine

end Coffer
