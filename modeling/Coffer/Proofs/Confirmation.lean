import Coffer.Proofs.PassphraseOptions
import Coffer.Proofs.Secrecy
import Coffer.Proofs.Utf8

/-!
# Confirming a passphrase

A passphrase that has to be confirmed is typed in rounds of two lines, until the lines of one round
are equal. How far the dialogue gets, what it shows and whether it comes to a passphrase is told by
the rounds alone: lines of different rounds never meet. All of this is about any reader of lines
that takes them as they were typed.
-/

set_option autoImplicit false
set_option relaxedAutoImplicit false

namespace Coffer

namespace Terminal

/-- The lines are taken as they were typed. -/
def Reader.Verbatim (r : Reader) (lines : List Bytes) : Prop :=
  ∀ line ∈ lines, r.entry line = .ok line

/-- After `k` rounds of two different lines, the passphrase is typed twice. -/
structure SettlesAfter (k : Nat) (lines : List Bytes) (passphrase : Bytes) : Prop where
  first : lines[2 * k]? = some passphrase
  second : lines[2 * k + 1]? = some passphrase
  before : ∀ i < k, lines[2 * i]? ≠ lines[2 * i + 1]?

/-- The rounds with two equal lines are the same. -/
structure RoundsAlike (lines lines' : List Bytes) : Prop where
  length : lines'.length = lines.length
  rounds : ∀ i, 2 * i + 1 < lines.length →
    (lines'[2 * i]? = lines'[2 * i + 1]? ↔ lines[2 * i]? = lines[2 * i + 1]?)

/-- What is shown in as many rounds that come to nothing. -/
def attempts : Nat → String
  | 0 => ""
  | k + 1 => Dialogue.round ++ Dialogue.mismatch ++ attempts k

/-- What is shown when the lines run out, after the first one of a round or before it. -/
def lastPrompts (count : Nat) : String :=
  if count % 2 = 0 then Dialogue.asking.prompt else Dialogue.round

/-! ### Rounds -/

section Rounds

variable {k : Nat} {first second passphrase : Bytes} {lines lines' : List Bytes}

theorem settlesAfter_zero_iff :
    SettlesAfter 0 (first :: second :: lines) passphrase ↔
      first = passphrase ∧ second = passphrase := by
  constructor
  · intro settles
    exact ⟨Option.some.inj settles.first, Option.some.inj settles.second⟩
  · intro same
    exact ⟨congrArg some same.1, congrArg some same.2, fun i before => absurd before (by omega)⟩

/-- After a first round that came to nothing, the dialogue starts again. -/
theorem settlesAfter_succ_iff :
    SettlesAfter (k + 1) (first :: second :: lines) passphrase ↔
      first ≠ second ∧ SettlesAfter k lines passphrase := by
  constructor
  · intro settles
    have apart := settles.before 0 (Nat.succ_pos k)
    refine ⟨fun same => apart (congrArg some same), settles.first, settles.second, ?_⟩
    intro i before
    exact settles.before (i + 1) (Nat.succ_lt_succ before)
  · intro both
    obtain ⟨apart, settles⟩ := both
    refine ⟨settles.first, settles.second, ?_⟩
    intro i before
    cases i with
    | zero => exact fun same => apart (Option.some.inj same)
    | succ i => exact settles.before i (Nat.lt_of_succ_lt_succ before)

/-- The dialogue is settled by one round and with one passphrase only. -/
theorem SettlesAfter.unique {k' : Nat} {passphrase' : Bytes}
    (settles : SettlesAfter k lines passphrase) (again : SettlesAfter k' lines passphrase') :
    k' = k ∧ passphrase' = passphrase := by
  have same : lines[2 * k]? = lines[2 * k + 1]? := settles.first.trans settles.second.symm
  have same' : lines[2 * k']? = lines[2 * k' + 1]? := again.first.trans again.second.symm
  have turn : k' = k := by
    rcases Nat.lt_trichotomy k' k with earlier | equal | later
    · exact absurd same' (settles.before k' earlier)
    · exact equal
    · exact absurd same (again.before k later)
  refine ⟨turn, ?_⟩
  have both := again.first
  rw [turn, settles.first] at both
  exact (Option.some.inj both).symm

theorem SettlesAfter.le_length (settles : SettlesAfter k lines passphrase) :
    2 * k + 2 ≤ lines.length :=
  (List.getElem?_eq_some_iff.1 settles.second).1

theorem RoundsAlike.symm (alike : RoundsAlike lines lines') : RoundsAlike lines' lines :=
  ⟨alike.length.symm, fun i inside => (alike.rounds i (alike.length ▸ inside)).symm⟩

/-- Whether two lines belong to one round and are equal is all that the dialogue goes by. -/
theorem SettlesAfter.congr (settles : SettlesAfter k lines passphrase)
    (alike : RoundsAlike lines lines') :
    ∃ passphrase', SettlesAfter k lines' passphrase' := by
  have room := settles.le_length
  have both := (alike.rounds k room).2 (settles.first.trans settles.second.symm)
  have inside : 2 * k + 1 < lines'.length := alike.length ▸ room
  have last : lines'[2 * k + 1]? = some lines'[2 * k + 1] := List.getElem?_eq_getElem inside
  refine ⟨lines'[2 * k + 1], both.trans last, last, ?_⟩
  intro i before same
  exact settles.before i before ((alike.rounds i (by omega)).1 same)

end Rounds

/-! ### The dialogue -/

namespace Reader

variable {r : Reader} {k : Nat} {line passphrase : Bytes} {lines lines' : List Bytes}

theorem exists_round (long : 2 ≤ lines.length) :
    ∃ line again rest, lines = line :: again :: rest := by
  cases lines with
  | nil => exact absurd long (by decide)
  | cons line lines =>
    cases lines with
    | nil => exact absurd long (by simp)
    | cons again rest => exact ⟨line, again, rest, rfl⟩

theorem verbatim_cons_iff :
    r.Verbatim (line :: lines) ↔ r.entry line = .ok line ∧ r.Verbatim lines :=
  List.forall_mem_cons

/-- Texts without control characters are taken as they were typed, also where lines are edited. -/
theorem verbatim_editing {texts : List String}
    (plain : ∀ text ∈ texts, ∀ c ∈ text.toList, isControl c = false) :
    editing.Verbatim (texts.map Utf8.encode) := by
  intro line member
  obtain ⟨text, listed, rfl⟩ := List.mem_map.1 member
  exact entry_editing_of_plain (plain text listed)

/-- The dialogue goes on until two lines of one round are equal, and no further. -/
theorem converse_of_settles (verbatim : r.Verbatim lines)
    (settles : SettlesAfter k lines passphrase) (shown : String) :
    r.converse true shown .asking lines =
      ⟨.ok passphrase, lines.drop (2 * k + 2), shown ++ (attempts k ++ Dialogue.round)⟩ := by
  induction k generalizing lines shown with
  | zero =>
    obtain ⟨line, again, rest, rfl⟩ := exists_round settles.le_length
    obtain ⟨rfl, rfl⟩ := settlesAfter_zero_iff.1 settles
    obtain ⟨entered, _⟩ := verbatim_cons_iff.1 verbatim
    rw [converse_of_same entered entered, attempts, String.empty_append]
    rfl
  | succ k ih =>
    obtain ⟨line, again, rest, rfl⟩ :=
      exists_round (Nat.le_trans (Nat.le_add_left 2 _) settles.le_length)
    obtain ⟨apart, later⟩ := settlesAfter_succ_iff.1 settles
    obtain ⟨first, others⟩ := verbatim_cons_iff.1 verbatim
    obtain ⟨second, others⟩ := verbatim_cons_iff.1 others
    rw [converse_of_other first second apart.symm, ih others later, attempts]
    simp only [String.append_assoc]
    rfl

/-- Without two equal lines in one round, the dialogue goes on until the lines run out. -/
theorem converse_of_unsettled (verbatim : r.Verbatim lines)
    (unsettled : ∀ k passphrase, ¬ SettlesAfter k lines passphrase) (shown : String) :
    r.converse true shown .asking lines =
      ⟨.error r.ended, [], shown ++ (attempts (lines.length / 2) ++ lastPrompts lines.length)⟩ := by
  induction count : lines.length / 2 generalizing lines shown with
  | zero =>
    cases lines with
    | nil =>
      rw [converse_nil rfl]
      rfl
    | cons line lines =>
      obtain ⟨first, _⟩ := verbatim_cons_iff.1 verbatim
      cases lines with
      | nil =>
        rw [converse_of_first first, converse_nil rfl, String.append_assoc]
        rfl
      | cons again rest =>
        rw [List.length_cons, List.length_cons] at count
        omega
  | succ k ih =>
    have long : 2 ≤ lines.length := by omega
    obtain ⟨line, again, rest, rfl⟩ := exists_round long
    obtain ⟨first, others⟩ := verbatim_cons_iff.1 verbatim
    obtain ⟨second, others⟩ := verbatim_cons_iff.1 others
    have apart : again ≠ line := by
      intro same
      exact unsettled 0 line (settlesAfter_zero_iff.2 ⟨rfl, same⟩)
    have later : ∀ k passphrase, ¬ SettlesAfter k rest passphrase := by
      intro k passphrase settles
      exact unsettled (k + 1) passphrase (settlesAfter_succ_iff.2 ⟨apart.symm, settles⟩)
    have length : (line :: again :: rest).length = rest.length + 2 := rfl
    have parity : lastPrompts (line :: again :: rest).length = lastPrompts rest.length := by
      rw [length, lastPrompts, Nat.add_mod_right, lastPrompts]
    rw [converse_of_other first second apart, ih others later _ (by omega), parity, attempts]
    simp only [String.append_assoc]

/-- Two dialogues with equal lines in the same rounds take the same course. -/
theorem ask_congr (verbatim : r.Verbatim lines) (verbatim' : r.Verbatim lines')
    (alike : RoundsAlike lines lines') :
    (r.ask true lines').outcome.isOk = (r.ask true lines).outcome.isOk ∧
      (r.ask true lines').remaining.length = (r.ask true lines).remaining.length ∧
      (r.ask true lines').shown = (r.ask true lines).shown := by
  unfold ask
  by_cases settled : ∃ k passphrase, SettlesAfter k lines passphrase
  · obtain ⟨k, passphrase, settles⟩ := settled
    obtain ⟨passphrase', settles'⟩ := settles.congr alike
    rw [converse_of_settles verbatim settles, converse_of_settles verbatim' settles',
      List.length_drop, List.length_drop, alike.length]
    exact ⟨rfl, rfl, rfl⟩
  · have unsettled : ∀ k passphrase, ¬ SettlesAfter k lines passphrase := by
      intro k passphrase settles
      exact settled ⟨k, passphrase, settles⟩
    have unsettled' : ∀ k passphrase, ¬ SettlesAfter k lines' passphrase := by
      intro k passphrase settles
      obtain ⟨other, back⟩ := settles.congr alike.symm
      exact unsettled k other back
    rw [converse_of_unsettled verbatim unsettled, converse_of_unsettled verbatim' unsettled',
      alike.length]
    exact ⟨rfl, rfl, rfl⟩

end Reader

end Terminal

open Session Files PassphraseSource Terminal

/-! ### Sources -/

/-- The lines will be typed in the session, and are taken as they were typed. -/
structure Session.Types (s : Session) (lines : List Bytes) : Prop where
  typed : s.typed = some lines
  verbatim : s.reader.Verbatim lines

section Typed

variable {s : Session} {lines : List Bytes} {k : Nat} {passphrase : Bytes}

theorem Session.Types.after_input (types : s.Types lines) (input : Option Path) (reports : String) :
    (afterInput input { s with reports }).Types lines := by
  cases input with
  | some path => exact ⟨types.typed, types.verbatim⟩
  | none => exact ⟨types.typed, types.verbatim⟩

theorem read_of_settles (types : s.Types lines) (settles : SettlesAfter k lines passphrase) :
    ((PassphraseSource.terminal true).read : Run _) s = ((.ok passphrase, .terminal true),
      { s with
        typed := some (lines.drop (2 * k + 2))
        reports := s.reports ++ (attempts k ++ Dialogue.round) }) := by
  have asked : s.reader.ask true lines = _ := Reader.converse_of_settles types.verbatim settles ""
  rw [String.empty_append] at asked
  exact read_terminal types.typed asked

theorem read_of_unsettled (types : s.Types lines)
    (unsettled : ∀ k passphrase, ¬ SettlesAfter k lines passphrase) :
    ((PassphraseSource.terminal true).read : Run _) s =
      ((.error (terminalFailure s.reader.ended), .terminal true),
        { s with
          typed := some []
          reports := s.reports ++ (attempts (lines.length / 2) ++ lastPrompts lines.length) }) := by
  have asked : s.reader.ask true lines = _ :=
    Reader.converse_of_unsettled types.verbatim unsettled ""
  rw [String.empty_append] at asked
  exact read_terminal types.typed asked

/-- A reader that asks for confirmation gives a passphrase exactly if the dialogue is settled. -/
theorem read_eq_ok_iff (types : s.Types lines) :
    (((PassphraseSource.terminal true).read : Run _) s).1.1 = .ok passphrase ↔
      ∃ k, SettlesAfter k lines passphrase := by
  constructor
  · intro given
    refine Classical.byContradiction fun missing => ?_
    by_cases settled : ∃ k other, SettlesAfter k lines other
    · obtain ⟨k, other, settles⟩ := settled
      rw [read_of_settles types settles] at given
      cases given
      exact missing ⟨k, settles⟩
    · have unsettled : ∀ k other, ¬ SettlesAfter k lines other := by
        intro k other settles
        exact settled ⟨k, other, settles⟩
      rw [read_of_unsettled types unsettled] at given
      cases given
  · intro settled
    obtain ⟨k, settles⟩ := settled
    rw [read_of_settles types settles]

/-- A reader that does not ask for confirmation takes the first line. -/
theorem read_first {line : Bytes} {rest : List Bytes} (typed : s.typed = some (line :: rest))
    (entered : s.reader.entry line = .ok line) :
    ((PassphraseSource.terminal false).read : Run _) s = ((.ok line, .terminal false),
      { s with typed := some rest, reports := s.reports ++ Dialogue.asking.prompt }) := by
  have asked : s.reader.ask false (line :: rest) = ⟨.ok line, rest, Dialogue.asking.prompt⟩ := by
    rw [Reader.ask, Reader.converse_of_entry rfl entered]
    exact Reader.converse_settled line rest
  exact read_terminal typed asked

theorem read_first_of_nil (typed : s.typed = some []) :
    ((PassphraseSource.terminal false).read : Run _) s =
      ((.error (terminalFailure s.reader.ended), .terminal false),
        { s with typed := some [], reports := s.reports ++ Dialogue.asking.prompt }) := by
  have asked : s.reader.ask false [] = ⟨.error s.reader.ended, [], Dialogue.asking.prompt⟩ :=
    Reader.converse_nil rfl
  exact read_terminal typed asked

end Typed

namespace CommandLine

open Argument

/-! ### Commands -/

/-- Nothing about the passphrase is written on either side of the name of the command. -/
def Silent (d : Sides) : Prop :=
  sourcesIn d.front = [] ∧ sourcesIn d.back = []

section Sources

variable {sources : Sources} {input : Option Path} {confirm : Bool} {c : Command} {d : Sides}

/-- The passphrase is typed twice if a confirmation is called for and nothing was said. -/
theorem choose_eq_terminal_iff :
    sources.choose input confirm = .ok (.terminal true) ↔
      confirm = true ∧ ∀ f, ¬ sources.AsksFor f := by
  obtain ⟨stdin, once, environment?, file?⟩ := sources
  constructor
  · intro chosen
    cases stdin with
    | true => cases input <;> cases chosen
    | false =>
      cases environment? with
      | some name => cases chosen
      | none =>
        cases file? with
        | some path => cases chosen
        | none =>
          cases once with
          | true => cases confirm <;> cases chosen
          | false =>
            cases confirm with
            | false => cases chosen
            | true => exact ⟨rfl, fun f asked => by cases f <;> simp [Sources.AsksFor] at asked⟩
  · intro both
    obtain ⟨rfl, unasked⟩ := both
    have input := unasked .passphraseStdin
    have once := unasked .passphraseFromTtyOnce
    have environment := unasked .passphraseFromEnv
    have file := unasked .passphraseFromFile
    simp only [Sources.AsksFor, Bool.not_eq_true, Option.isSome_eq_false_iff,
      Option.isNone_iff_eq_none] at input once environment file
    simp [Sources.choose, input, once, environment, file]

/-- A command asks for no source exactly if none is written. -/
theorem Follows.silent_iff (follows : Follows d c) (goes : c.sources? = some sources) :
    (∀ f, ¬ sources.AsksFor f) ↔ Silent d := by
  constructor
  · intro unasked
    constructor
    · refine List.eq_nil_iff_forall_not_mem.2 fun f named => ?_
      exact unasked f ((follows.sources sources goes f).2 (.inl named))
    · refine List.eq_nil_iff_forall_not_mem.2 fun f named => ?_
      exact unasked f ((follows.sources sources goes f).2 (.inr named))
  · intro silent f asked
    rcases (follows.sources sources goes f).1 asked with front | back
    · rw [silent.1] at front
      cases front
    · rw [silent.2] at back
      cases back

/-- The confirming reader is for encryptions without any word about the passphrase. -/
theorem takesFrom_terminal_iff (follows : Follows d c) :
    c.TakesFrom (.terminal true) ↔ (∃ e, c = .encrypt e) ∧ Silent d := by
  cases c with
  | encrypt e =>
    have silent : (∀ f, ¬ e.sources.AsksFor f) ↔ Silent d := follows.silent_iff rfl
    rw [← silent]
    constructor
    · intro takes
      exact ⟨⟨e, rfl⟩, (choose_eq_terminal_iff.1 takes).2⟩
    · intro both
      exact choose_eq_terminal_iff.2 ⟨rfl, both.2⟩
  | decrypt d' =>
    constructor
    · intro takes
      cases (choose_eq_terminal_iff.1 takes).1
    · intro both
      obtain ⟨⟨e, other⟩, _⟩ := both
      cases other
  | completion shell | information input json | argon2 input =>
    constructor
    · intro takes
      cases takes
    · intro both
      obtain ⟨⟨e, other⟩, _⟩ := both
      cases other

end Sources

theorem follows_of_read {fallback : CostVariables} {arguments : List Bytes} {c : Command}
    (readAs : Command.read fallback arguments = .ok c) : Follows (sides false arguments) c := by
  have answers := answers_read fallback arguments
  rw [readAs] at answers
  cases answers with
  | ok follows => exact follows

section Runs

variable {s : Session} {e : Encryption} {lines : List Bytes} {content : Bytes}

/-- What an encryption makes whose passphrase is confirmed at the terminal is a container under the
passphrase that the dialogue comes to. -/
theorem makes_of_takesFrom_terminal (takes : (Command.encrypt e).TakesFrom (.terminal true))
    (types : s.Types lines) (made : (Command.encrypt e).Makes s content) :
    ∃ k passphrase costs data, SettlesAfter k lines passphrase ∧
      Costs.ofTriple e.memory e.time e.lanes = .ok costs ∧ contentOf e.input s = .ok data ∧
      encryptWith { variant := e.variant, version := e.version, costs } s.draw data passphrase =
        .ok content := by
  obtain ⟨costs, source, priced, chosen, data, mid, passphrase, readIn, given, made⟩ := made
  obtain ⟨reports, shown⟩ := showCosts_eq e.verbose costs s
  cases chosen.symm.trans takes
  rw [shown] at readIn made
  rw [readInput_eq, contentOf_with_reports] at readIn
  obtain ⟨found, rfl⟩ := Prod.mk.inj readIn
  obtain ⟨k, settles⟩ := (read_eq_ok_iff (types.after_input e.input reports)).1 given
  exact ⟨k, passphrase, costs, data, settles, priced, mapError_eq_ok_iff.1 found, made⟩

/-- An encryption succeeds whose passphrase is settled at the terminal, if it has something to
encrypt and its output can be written. -/
theorem success_of_settles {arguments : List Bytes} {k : Nat} {passphrase data : Bytes}
    {costs : Costs} (readAs : Command.read (costVariables s) arguments = .ok (.encrypt e))
    (takes : (Command.encrypt e).TakesFrom (.terminal true)) (types : s.Types lines)
    (settles : SettlesAfter k lines passphrase)
    (priced : Costs.ofTriple e.memory e.time e.lanes = .ok costs)
    (found : contentOf e.input s = .ok data) (short : passphrase.length < 1 <<< 32)
    (fits : data.length < 1 <<< 37) (writable : ∀ content, Writable e.output content s) :
    ((run arguments : Run Ending) s).1 = .success := by
  obtain ⟨reports, shown⟩ := showCosts_eq e.verbose costs s
  obtain ⟨content, made⟩ := exists_encryptUnder
    (.unsigned { variant := e.variant, version := e.version, costs } s.draw.salt s.draw.nonce)
    data passphrase short fits
  have readIn : (readInput e.input : Operation Run Bytes).run { s with reports } =
      (.ok data, afterInput e.input { s with reports }) := by
    rw [readInput_eq, contentOf_with_reports, found]
    rfl
  have makes : (Command.encrypt e).Makes s content := by
    refine ⟨costs, .terminal true, priced, takes, ?_⟩
    rw [shown]
    have given := read_of_settles (types.after_input e.input reports) settles
    exact ⟨data, _, passphrase, readIn, congrArg (·.1.1) given, made⟩
  exact (run_eq_success_iff readAs (by simp)).2 (.inl ⟨content, makes, writable content⟩)

end Runs

/-- Where lines are taken as they were typed, a passphrase that has to be confirmed is the one whose
two lines in one round are equal for the first time. All that has been typed up to there is used up,
nothing behind it is, and a mismatch is reported for every round before that one. If there is no
such round, then all lines are used up, and there is no passphrase. A passphrase that does not have
to be confirmed is the first line. Lines of different rounds never meet. Exactly the encryptions
that say nothing about the passphrase have it confirmed at the terminal, and what they write is made
with it. -/
theorem confirmed_at_terminal (arguments : List Bytes) (s : Session) (lines : List Bytes)
    (typed : s.typed = some lines) (verbatim : s.reader.Verbatim lines) :
    (∀ passphrase, (((PassphraseSource.terminal true).read : Run _) s).1.1 = .ok passphrase ↔
      ∃ k, SettlesAfter k lines passphrase) ∧
    (∀ k passphrase, SettlesAfter k lines passphrase →
      ((PassphraseSource.terminal true).read : Run _) s = ((.ok passphrase, .terminal true),
        { s with
          typed := some (lines.drop (2 * k + 2))
          reports := s.reports ++ (attempts k ++ Dialogue.round) }) ∧
      2 * k + 2 ≤ lines.length ∧
      ∀ k' passphrase', SettlesAfter k' lines passphrase' →
        k' = k ∧ passphrase' = passphrase) ∧
    ((∀ k passphrase, ¬ SettlesAfter k lines passphrase) →
      ∃ error, error.kind = .passphraseUnavailable ∧
        ((PassphraseSource.terminal true).read : Run _) s = ((.error error, .terminal true),
          { s with
            typed := some []
            reports :=
              s.reports ++ (attempts (lines.length / 2) ++ lastPrompts lines.length) })) ∧
    (∀ line rest, lines = line :: rest →
      ((PassphraseSource.terminal false).read : Run _) s =
        ((.ok line, .terminal false),
          { s with typed := some rest, reports := s.reports ++ Dialogue.asking.prompt })) ∧
    (lines = [] → ∃ error, error.kind = .passphraseUnavailable ∧
      (((PassphraseSource.terminal false).read : Run _) s).1.1 = .error error) ∧
    (∀ lines' : List Bytes, s.reader.Verbatim lines' → RoundsAlike lines lines' →
      (s.reader.ask true lines').outcome.isOk = (s.reader.ask true lines).outcome.isOk ∧
        (s.reader.ask true lines').remaining.length = (s.reader.ask true lines).remaining.length ∧
        (s.reader.ask true lines').shown = (s.reader.ask true lines).shown) ∧
    ∀ c, Command.read (costVariables s) arguments = .ok c →
      (c.TakesFrom (.terminal true) ↔ (∃ e, c = .encrypt e) ∧ Silent (sides false arguments)) ∧
      ∀ e, c = .encrypt e → Silent (sides false arguments) →
        ((run arguments : Run Ending) s).1 = .success →
        ∃ k passphrase costs data content, SettlesAfter k lines passphrase ∧
          Costs.ofTriple e.memory e.time e.lanes = .ok costs ∧ contentOf e.input s = .ok data ∧
          encryptWith { variant := e.variant, version := e.version, costs } s.draw data
            passphrase = .ok content ∧
          Written e.output content s ((run arguments : Run Ending) s).2 := by
  have types : s.Types lines := ⟨typed, verbatim⟩
  refine ⟨fun passphrase => read_eq_ok_iff types, ?_, ?_, ?_, ?_,
    fun lines' verbatim' alike => Reader.ask_congr verbatim verbatim' alike, ?_⟩
  · intro k passphrase settles
    exact ⟨read_of_settles types settles, settles.le_length,
      fun k' passphrase' again => settles.unique again⟩
  · intro unsettled
    exact ⟨_, rfl, read_of_unsettled types unsettled⟩
  · rintro line rest rfl
    exact read_first typed (Reader.verbatim_cons_iff.1 verbatim).1
  · rintro rfl
    exact ⟨_, rfl, congrArg (·.1.1) (read_first_of_nil typed)⟩
  · intro c readAs
    have takes := takesFrom_terminal_iff (follows_of_read readAs)
    refine ⟨takes, fun e encrypts silent success => ?_⟩
    rw [encrypts] at readAs takes
    obtain ⟨content, made, written⟩ := written_of_run readAs success
    obtain ⟨k, passphrase, costs, data, settles, priced, found, whole⟩ :=
      makes_of_takesFrom_terminal (takes.2 ⟨⟨e, rfl⟩, silent⟩) types made
    exact ⟨k, passphrase, costs, data, content, settles, priced, found, whole, written⟩

/-- Equal lines of different rounds do not settle anything. -/
example : (Terminal.editing.ask true [[112], [113], [113], [112]]).outcome.isOk = false := by
  decide +kernel

section Mistyped

/-- The passphrase "p" is typed, then "q", and then "p" twice; a line that is left is not needed. -/
def mistyped : Session := { hello with typed := some [[112], [113], [112], [112], [120]] }

private theorem read_mistyped :
    Command.read (costVariables mistyped) fileArguments = .ok (.encrypt toFile) := by
  rw [costVariables_of_nil rfl]
  exact eq_ok_of_toOption (by decide +kernel)

theorem settles_mistyped : SettlesAfter 1 [[112], [113], [112], [112], [120]] [112] :=
  settlesAfter_succ_iff.2 ⟨by decide, settlesAfter_zero_iff.2 ⟨rfl, rfl⟩⟩

theorem verbatim_mistyped : mistyped.reader.Verbatim [[112], [113], [112], [112], [120]] := by
  have encoded : ["p", "q", "p", "p", "x"].map Utf8.encode =
      [[112], [113], [112], [112], [120]] := by
    decide +kernel
  have plain : ∀ text ∈ ["p", "q", "p", "p", "x"], text.toList.any isControl = false := by decide
  rw [← encoded]
  exact Reader.verbatim_editing fun text listed c member =>
    Bool.eq_false_iff.2 (List.any_eq_false.1 (plain text listed) c member)

theorem types_mistyped : mistyped.Types [[112], [113], [112], [112], [120]] :=
  ⟨rfl, verbatim_mistyped⟩

theorem writable_mistyped (content : Bytes) :
    Writable (some [111]) content mistyped := by
  have created : mistyped.tree.create mistyped.here [111] =
      .ok (mistyped.tree.put [[111]] (.file [] true)) := rfl
  obtain ⟨l, place, _, _⟩ := FileTree.create_eq_ok_iff.1 created
  refine ⟨⟨.now (t := mistyped.tree.put [[116]] (.file [] true)) rfl, fun _ => rfl⟩, ?_⟩
  intro path same
  cases same
  exact ⟨l, place⟩

private theorem success_mistyped : ((run fileArguments : Run Ending) mistyped).1 = .success := by
  have priced : Costs.ofTriple toFile.memory toFile.time toFile.lanes = .ok default := rfl
  have found : contentOf toFile.input mistyped = .ok [104, 101, 108, 108, 111] := rfl
  exact success_of_settles read_mistyped rfl types_mistyped settles_mistyped priced found
    (by decide +kernel) (by decide) writable_mistyped

/-- After one round that comes to nothing, "hello" is encrypted under the passphrase "p". -/
theorem confirmed_at_terminal_mistyped :
    mistyped.typed = some [[112], [113], [112], [112], [120]] ∧
      mistyped.reader.Verbatim [[112], [113], [112], [112], [120]] ∧
      SettlesAfter 1 [[112], [113], [112], [112], [120]] [112] ∧
      ((PassphraseSource.terminal true).read : Run _) mistyped = ((.ok [112], .terminal true),
        { mistyped with
          typed := some [[120]]
          reports := mistyped.reports ++ (attempts 1 ++ Dialogue.round) }) ∧
      (Command.encrypt toFile).TakesFrom (.terminal true) ∧
      ((run fileArguments : Run Ending) mistyped).1 = .success ∧
      ∃ content, Written (some [111]) content mistyped ((run fileArguments : Run Ending) mistyped).2
        ∧ encryptWith default mistyped.draw [104, 101, 108, 108, 111] [112] = .ok content := by
  have silent : Silent (sides false fileArguments) := by
    constructor
    · decide +kernel
    · decide +kernel
  obtain ⟨-, settled, -, -, -, -, command⟩ :=
    confirmed_at_terminal fileArguments mistyped _ rfl verbatim_mistyped
  obtain ⟨takes, runs⟩ := command _ read_mistyped
  obtain ⟨k, passphrase, costs, data, content, settles, priced, found, whole, written⟩ :=
    runs toFile rfl silent success_mistyped
  obtain ⟨rfl, rfl⟩ := (settled 1 [112] settles_mistyped).2.2 k passphrase settles
  cases found
  cases priced
  exact ⟨rfl, verbatim_mistyped, settles, (settled _ _ settles).1,
    takes.2 ⟨⟨toFile, rfl⟩, silent⟩, success_mistyped, content, written, whole⟩

end Mistyped

end CommandLine

end Coffer
