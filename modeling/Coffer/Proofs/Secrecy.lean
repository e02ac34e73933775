import Coffer.Proofs.CommandLine
import Coffer.Proofs.Composition
import Coffer.Proofs.Similarity

/-!
# Secrets stay secret

How an encryption ends, and what it reports on the way, does not depend on the passphrase, nor on
the plaintext beyond its length. What it writes has the length and the front that the scheme and the
length of the plaintext determine.
-/

set_option autoImplicit false
set_option relaxedAutoImplicit false

namespace Coffer

/-! ### Containers -/

/-- What stands in front of the salt: the seven letters, the version of the format and the numbers
of the scheme. -/
def preamble (scheme : Scheme) : Bytes :=
  magicNumber ++ [1] ++ wordBytes scheme.variant.number ++ wordBytes scheme.version.number ++
    wordBytes scheme.costs.memory ++ wordBytes scheme.costs.time ++ wordBytes scheme.costs.lanes

theorem length_preamble (scheme : Scheme) : (preamble scheme).length = 28 := by
  simp [preamble, magicNumber]

section Containers

variable {scheme : Scheme} {draw draw' : Draw} {plaintext plaintext' passphrase passphrase' : Bytes}

/-- A container begins with the preamble of its scheme. -/
theorem take_encryptWith {data : Bytes}
    (made : encryptWith scheme draw plaintext passphrase = .ok data) :
    data.take 28 = preamble scheme := by
  obtain ⟨encryptor, made, written⟩ := bind_eq_ok_iff.1 made
  obtain ⟨_, rfl⟩ := Encryptor.new_eq_ok_iff.1 made
  have shape := (Encryptor.toBytes_eq_ok_iff.1 written).2
  rw [Encryptor.toBytes_keyed] at shape
  have front : ∃ rest, data = preamble scheme ++ rest := by
    rw [shape]
    simp only [regions, coveredBytes, preamble, List.append_assoc]
    exact ⟨_, rfl⟩
  obtain ⟨rest, rfl⟩ := front
  exact List.take_left' (length_preamble scheme)

/-- Neither the passphrase nor the draw decides whether there is a container, and its length is that
of the plaintext and 164 bytes more. -/
theorem agree_encryptWith (length : plaintext.length = plaintext'.length)
    (short : passphrase.length ≤ Argon2.maxPasswordLength)
    (short' : passphrase'.length ≤ Argon2.maxPasswordLength) :
    Agree (fun c d : Bytes => c.length = d.length)
      (encryptWith scheme draw plaintext passphrase)
      (encryptWith scheme draw' plaintext' passphrase') := by
  by_cases fits : Aead.Fits plaintext.length
  · obtain ⟨c, made⟩ : ∃ c, encryptWith scheme draw plaintext passphrase = .ok c := by
      rw [encryptWith_eq_composed, composed_of_fits _ _ short fits]
      exact ⟨_, rfl⟩
    obtain ⟨d, made'⟩ : ∃ d, encryptWith scheme draw' plaintext' passphrase' = .ok d := by
      rw [encryptWith_eq_composed, composed_of_fits _ _ short' (length ▸ fits)]
      exact ⟨_, rfl⟩
    have long : c.length = _ := length_encryptUnder made
    have long' : d.length = _ := length_encryptUnder made'
    rw [made, made']
    refine .ok ?_
    rw [long, long', length]
  · rw [encryptWith_eq_composed, encryptWith_eq_composed, composed, composed,
      if_neg (Nat.not_lt.2 short), if_neg (Nat.not_lt.2 short'), if_neg fits,
      if_neg (length ▸ fits)]
    exact .error _

end Containers

/-! ### Passphrases -/

namespace PassphraseSource

open Session

variable {source : PassphraseSource} {s : Session} {passphrase : Bytes}

/-- The program can take the passphrase from the source, at a terminal without another attempt. -/
inductive Offers (s : Session) : PassphraseSource → Bytes → Prop
  | line {passphrase : Bytes} (given : s.input.readLine.1 = .ok passphrase) :
    Offers s .input passphrase
  | value {name passphrase : Bytes} (given : valueOf? s.environment name = some passphrase) :
    Offers s (.environment name) passphrase
  | file {path : Path} {content : Bytes} (given : s.tree.read s.here path = .ok content) :
    Offers s (.file path) (ofContent content)
  | typed {line passphrase : Bytes} {rest : List Bytes} (given : s.typed = some (line :: rest))
    (entered : s.reader.entry line = .ok passphrase) : Offers s (.terminal false) passphrase
  | typedTwice {line again passphrase : Bytes} {rest : List Bytes}
    (given : s.typed = some (line :: again :: rest))
    (entered : s.reader.entry line = .ok passphrase)
    (same : s.reader.entry again = .ok passphrase) : Offers s (.terminal true) passphrase

theorem Offers.with_reports (offers : Offers s source passphrase) (reports : String) :
    Offers { s with reports } source passphrase := by
  cases offers with
  | line given => exact .line given
  | value given => exact .value given
  | file given => exact .file given
  | typed given entered => exact .typed given entered
  | typedTwice given entered same => exact .typedTwice given entered same

theorem Offers.with_input (offers : Offers s source passphrase) (input : Stream)
    (other : source ≠ .input) : Offers { s with input } source passphrase := by
  cases offers with
  | line given => exact absurd rfl other
  | value given => exact .value given
  | file given => exact .file given
  | typed given entered => exact .typed given entered
  | typedTwice given entered same => exact .typedTwice given entered same

/-- What is shown while a passphrase is taken from a source that offers it. -/
def prompts : PassphraseSource → String
  | terminal false => Dialogue.asking.prompt
  | terminal true => Dialogue.round
  | _ => ""

/-- A dialogue gives what it has come to, and has shown what belongs to it. -/
theorem read_terminal {confirm : Bool} {lines : List Bytes} {t : Terminal.Transcript}
    (typed : s.typed = some lines) (asked : s.reader.ask confirm lines = t) :
    ((terminal confirm).read : Run _) s =
      ((t.outcome.mapError terminalFailure, .terminal confirm),
        { s with typed := some t.remaining, reports := s.reports ++ t.shown }) := by
  have answer : (Surroundings.ask confirm : Run _) s = (t.outcome,
      { s with typed := some t.remaining, reports := s.reports ++ t.shown }) := by
    show converse confirm s = _
    unfold converse
    rw [typed]
    dsimp only
    rw [asked]
  unfold PassphraseSource.read
  dsimp only
  rw [bind_eq, answer]
  rfl

/-- To take a passphrase that is offered changes no file, and shows the prompts. -/
theorem Offers.read (offers : Offers s source passphrase) :
    ∃ after, (source.read : Run _) s = ((.ok passphrase, source), after) ∧ Untouched s after ∧
      after.reports = s.reports ++ source.prompts := by
  cases offers with
  | line given =>
    refine ⟨{ s with input := s.input.readLine.2 }, ?_, ⟨rfl, rfl, rfl, rfl, rfl, rfl, rfl⟩,
      by simp [prompts]⟩
    show ((s.input.readLine.1.mapError streamFailure, PassphraseSource.input), _) = _
    rw [given]
    rfl
  | value given =>
    refine ⟨s, ?_, .refl s, by simp [prompts]⟩
    unfold PassphraseSource.read
    dsimp only
    rw [bind_eq, environment?_eq, given]
    rfl
  | @file path content given =>
    refine ⟨s, ?_, .refl s, by simp [prompts]⟩
    show ((((s.tree.read s.here path).mapError (fileFailure path)).map ofContent,
      PassphraseSource.file path), s) = _
    rw [given]
    rfl
  | @typed line _ rest given entered =>
    have asked : s.reader.ask false (line :: rest) =
        ⟨.ok passphrase, rest, prompts (.terminal false)⟩ := by
      rw [Terminal.Reader.ask, Terminal.Reader.converse_of_entry rfl entered]
      exact Terminal.Reader.converse_settled passphrase rest
    exact ⟨_, read_terminal given asked, ⟨rfl, rfl, rfl, rfl, rfl, rfl, rfl⟩, rfl⟩
  | @typedTwice line again _ rest given entered same =>
    have asked : s.reader.ask true (line :: again :: rest) = _ :=
      Terminal.Reader.converse_of_same entered same rest
    exact ⟨_, read_terminal given asked, ⟨rfl, rfl, rfl, rfl, rfl, rfl, rfl⟩, rfl⟩

end PassphraseSource

/-! ### Operations -/

namespace Files

open Session PassphraseSource

variable {input : Option Path} {source : PassphraseSource} {s t : Session}
  {passphrase passphrase' : Bytes} {log : Event → Run Unit} {scheme : Scheme}

theorem Offers.after_input (offers : Offers s source passphrase)
    (apart : source = .input → input.isSome) : Offers (afterInput input s) source passphrase := by
  cases input with
  | some path => exact offers
  | none =>
    refine offers.with_input _ fun same => ?_
    have := apart same
    cases this

theorem similar_afterInput (similar : Similar s t) (input : Option Path) :
    Similar (afterInput input s) (afterInput input t) := by
  cases input with
  | some path => exact similar
  | none => exact ⟨similar.reports, similar.here, similar.outputFull, similar.fault?,
      similar.temporaryNames, similar.tree⟩

theorem corresponds_makeContainer (observed : ∀ e, Matched Eq (log e) (log e)) (scheme : Scheme)
    {plaintext plaintext' : Bytes} (length : plaintext.length = plaintext'.length)
    (short : passphrase.length ≤ Argon2.maxPasswordLength)
    (short' : passphrase'.length ≤ Argon2.maxPasswordLength) :
    Corresponds (fun c d => c.1.length = d.1.length)
      (makeContainer log scheme plaintext passphrase : Operation Run (Bytes × Unit))
      (makeContainer log scheme plaintext' passphrase') := by
  unfold makeContainer
  refine corresponds_lift_bind matched_draw fun draw draw' _ => ?_
  refine corresponds_lift_bind (observed _) fun _ _ _ => ?_
  have made : Agree (fun c d : Bytes => c.length = d.length)
      (encryptWith scheme draw plaintext passphrase)
      (encryptWith scheme draw' plaintext' passphrase') :=
    agree_encryptWith length short short'
  generalize encryptWith scheme draw plaintext passphrase = x at made
  generalize encryptWith scheme draw' plaintext' passphrase' = y at made
  cases made with
  | error e => exact corresponds_refuse _
  | ok related =>
    rw [length]
    exact corresponds_lift_bind (observed _) fun _ _ _ => corresponds_pure related

theorem parallel_compose (observed : ∀ e, Matched Eq (log e) (log e)) (scheme : Scheme)
    (similar : Similar s t)
    (plaintexts : Agree (fun p q : Bytes => p.length = q.length) (contentOf input s)
      (contentOf input t))
    (offers : Offers s source passphrase) (offers' : Offers t source passphrase')
    (apart : source = .input → input.isSome)
    (short : passphrase.length ≤ Argon2.maxPasswordLength)
    (short' : passphrase'.length ≤ Argon2.maxPasswordLength) :
    Parallel (fun x y => Agree (fun c d => c.1.length = d.1.length) x.1 y.1)
      (compose PassphraseSource.read input (makeContainer log scheme) source s)
      (compose PassphraseSource.read input (makeContainer log scheme) source t) := by
  have readIn := readInput_eq input s
  have readIn' := readInput_eq input t
  have still := similar_afterInput similar input
  generalize contentOf input s = x at plaintexts readIn
  generalize contentOf input t = y at plaintexts readIn'
  cases plaintexts with
  | error e =>
    rw [compose_of_unread readIn, compose_of_unread readIn']
    exact ⟨.error _, still⟩
  | ok length =>
    obtain ⟨last, asked, quiet, shown⟩ := (Offers.after_input offers apart).read
    obtain ⟨last', asked', quiet', shown'⟩ := (Offers.after_input offers' apart).read
    rw [compose_of_asked readIn asked, compose_of_asked readIn' asked']
    have similar' : Similar last last' :=
      still.of_untouched quiet quiet' (by rw [shown, shown', still.reports])
    exact corresponds_makeContainer observed scheme length short short' last last' similar'

/-- An encryption ends in the same way, and reports the same, whatever the passphrases are and
whatever the plaintexts of one length are. -/
theorem parallel_encrypt (observed : ∀ e, Matched Eq (log e) (log e)) (scheme : Scheme)
    (similar : Similar s t)
    (plaintexts : Agree (fun p q : Bytes => p.length = q.length) (contentOf input s)
      (contentOf input t))
    (offers : Offers s source passphrase) (offers' : Offers t source passphrase')
    (apart : source = .input → input.isSome)
    (short : passphrase.length ≤ Argon2.maxPasswordLength)
    (short' : passphrase'.length ≤ Argon2.maxPasswordLength) (output : Option Path) :
    Parallel (Agree Eq) ((encrypt log input output scheme source : Operation Run Unit).run s)
      ((encrypt log input output scheme source : Operation Run Unit).run t) := by
  have composed := parallel_compose observed scheme similar plaintexts offers offers' apart short
    short'
  unfold encrypt transform
  rw [ExceptT.run_mk]
  refine Parallel.bind (r := fun x y => Agree Eq x.1 y.1) (composed.bind ?_) ?_
  · rintro ⟨made, _⟩ ⟨made', _⟩ agree
    cases agree with
    | error e => exact matched_pure (.error e)
    | @ok c d length =>
      refine Matched.bind (corresponds_writeOutput observed output length) ?_
      intro written written' agree
      cases agree with
      | error e => exact matched_pure (.error e)
      | ok _ => exact matched_pure (.ok rfl)
  · rintro ⟨answer, _⟩ ⟨answer', _⟩ agree
    exact matched_pure agree

end Files

/-! ### Runs -/

namespace CommandLine

open Session Files PassphraseSource

variable {e : Encryption} {s t : Session}

theorem matched_observe (filter : LogFilter) (event : Event) :
    Matched Eq (observe filter event : Run Unit) (observe filter event) := by
  unfold observe
  split
  · exact matched_report _
  · exact matched_pure rfl

theorem matched_showCosts (verbose : Bool) (costs : Costs) :
    Matched Eq (showCosts verbose costs : Run Unit) (showCosts verbose costs) := by
  cases verbose with
  | true => exact matched_report _
  | false => exact matched_pure rfl

/-- To show the costs does nothing but report them. -/
theorem showCosts_eq (verbose : Bool) (costs : Costs) (s : Session) :
    ∃ reports, (showCosts verbose costs : Run Unit) s = ((), { s with reports }) := by
  cases verbose with
  | true => exact ⟨_, rfl⟩
  | false => exact ⟨_, rfl⟩

theorem isSome_of_choose {sources : Sources} {input : Option Path} {confirm : Bool}
    (chosen : sources.choose input confirm = .ok .input) : input.isSome := by
  cases input with
  | some path => rfl
  | none =>
    unfold Sources.choose at chosen
    split at chosen
    · cases chosen
    · split at chosen <;> cases chosen

/-- The sessions provide an encryption with plaintexts of one length, or with none for the same
reason, and with passphrases that keys can be derived from. -/
structure AlikeInSecrets (e : Encryption) (s t : Session) : Prop where
  plaintexts : Agree (fun p q : Bytes => p.length = q.length) (contentOf e.input s)
    (contentOf e.input t)
  passphrases : ∀ source, e.sources.choose e.input true = .ok source → ∃ p q : Bytes,
    Offers s source p ∧ Offers t source q ∧
      p.length ≤ Argon2.maxPasswordLength ∧ q.length ≤ Argon2.maxPasswordLength

theorem parallel_command (filter : LogFilter) (similar : Similar s t)
    (secrets : AlikeInSecrets e s t) :
    Parallel (Agree Eq) ((encrypt filter e : Operation Run Unit).run s)
      ((encrypt filter e : Operation Run Unit).run t) := by
  unfold encrypt
  cases Costs.ofTriple e.memory e.time e.lanes with
  | error error => exact corresponds_refuse error s t similar
  | ok costs =>
    cases chosen : e.sources.choose e.input true with
    | error error => exact corresponds_refuse error s t similar
    | ok source =>
      obtain ⟨passphrase, passphrase', offers, offers', short, short'⟩ :=
        secrets.passphrases source chosen
      have apart : source = .input → e.input.isSome := by
        rintro rfl
        exact isSome_of_choose chosen
      have shown := matched_showCosts e.verbose costs s t similar
      obtain ⟨reports, first⟩ := showCosts_eq e.verbose costs s
      obtain ⟨reports', first'⟩ := showCosts_eq e.verbose costs t
      dsimp only
      rw [run_bind_lift, run_bind_lift]
      rw [first, first'] at shown ⊢
      refine parallel_encrypt (matched_observe filter) _ shown.2 ?_ (offers.with_reports reports)
        (offers'.with_reports reports') apart short short' e.output
      dsimp only
      rw [contentOf_with_reports e.input s, contentOf_with_reports e.input t]
      exact secrets.plaintexts

theorem matched_explain (text : String) :
    Matched Eq (explain text : Run Ending) (explain text) := by
  unfold explain
  exact (matched_writeOutput rfl).bind fun _ _ _ => matched_pure rfl

theorem matched_fail (error : Error) : Matched Eq (fail error : Run Ending) (fail error) := by
  unfold fail
  exact (matched_report _).bind fun _ _ _ => matched_pure rfl

theorem parallel_perform (filter : LogFilter) (similar : Similar s t)
    (secrets : AlikeInSecrets e s t) :
    Parallel Eq ((perform filter (.encrypt e) : Run Ending) s)
      ((perform filter (.encrypt e) : Run Ending) t) := by
  have executed : Parallel (Agree Eq)
      ((execute filter (.encrypt e) : Operation Run Ending).run s)
      ((execute filter (.encrypt e) : Operation Run Ending).run t) :=
    parallel_bind (parallel_command filter similar secrets) fun _ _ _ => corresponds_pure rfl
  unfold perform
  refine executed.bind fun result result' agree => ?_
  cases agree with
  | ok same =>
    cases same
    exact matched_pure rfl
  | error failure => exact matched_fail failure.error

/-- The environment variables that the program itself looks at. -/
def interpreted : List String :=
  ["ABCRYPT_LOG", "ABCRYPT_MEMORY_COST", "ABCRYPT_TIME_COST", "ABCRYPT_PARALLELISM", "NO_COLOR",
    "CLICOLOR_FORCE"]

/-- The sessions are similar, and the program finds the same in its own variables. -/
structure AlikeOutside (s t : Session) : Prop extends Similar s t where
  environment : ∀ name ∈ interpreted, valueOf? s.environment (Utf8.encode name) =
    valueOf? t.environment (Utf8.encode name)

theorem AlikeOutside.costVariables_eq (alike : AlikeOutside s t) :
    costVariables s = costVariables t := by
  unfold costVariables
  rw [alike.environment _ (by decide), alike.environment _ (by decide),
    alike.environment _ (by decide)]

theorem AlikeOutside.logFilter_eq (alike : AlikeOutside s t) : logFilter s = logFilter t := by
  unfold logFilter
  rw [alike.environment _ (by decide)]

theorem AlikeOutside.isGiven_eq (alike : AlikeOutside s t) (name : String)
    (known : name ∈ interpreted) :
    ((isGiven name : Run Bool) s).1 = ((isGiven name : Run Bool) t).1 :=
  congrArg (fun value : Option Bytes => value.getD [] != []) (alike.environment name known)

theorem AlikeOutside.emphasis (alike : AlikeOutside s t) :
    Parallel Eq ((forcesEmphasis : Run Bool) s) ((forcesEmphasis : Run Bool) t) := by
  have refused := alike.isGiven_eq "NO_COLOR" (by decide)
  have forced := alike.isGiven_eq "CLICOLOR_FORCE" (by decide)
  refine ⟨?_, alike.toSimilar⟩
  show (((isGiven "CLICOLOR_FORCE" : Run Bool) s).1 && !((isGiven "NO_COLOR" : Run Bool) s).1) =
    (((isGiven "CLICOLOR_FORCE" : Run Bool) t).1 && !((isGiven "NO_COLOR" : Run Bool) t).1)
  rw [refused, forced]

theorem parallel_halt (alike : AlikeOutside s t) (stop : Stop) :
    Parallel Eq ((halt stop : Run Ending) s) ((halt stop : Run Ending) t) := by
  cases stop with
  | usage error =>
    refine alike.emphasis.bind ?_
    rintro emphasized _ rfl
    exact (matched_report _).bind fun _ _ _ => matched_pure rfl
  | help l => exact matched_explain _ s t alike.toSimilar
  | version => exact matched_explain _ s t alike.toSimilar
  | nothingGiven =>
    exact (matched_report _).bind (fun _ _ _ => matched_pure rfl) s t alike.toSimilar

theorem parallel_run (arguments : List Bytes) (alike : AlikeOutside s t)
    (encrypts : ∀ c, Command.read (costVariables s) arguments = .ok c →
      ∃ e, c = .encrypt e ∧ AlikeInSecrets e s t) :
    Parallel Eq ((run arguments : Run Ending) s) ((run arguments : Run Ending) t) := by
  have fallback := alike.costVariables_eq
  cases readAs : Command.read (costVariables s) arguments with
  | error stop =>
    rw [run_of_stop readAs, run_of_stop (fallback ▸ readAs)]
    exact parallel_halt alike stop
  | ok c =>
    obtain ⟨e, rfl, secrets⟩ := encrypts c readAs
    rw [run_of_command readAs, run_of_command (fallback ▸ readAs), alike.logFilter_eq]
    exact parallel_perform _ alike.toSimilar secrets

/-- What an encryption makes has the length of the plaintext and 164 bytes more, and begins with the
preamble of its scheme. -/
theorem Command.Makes.shape {content : Bytes} (made : (Command.encrypt e).Makes s content) :
    ∃ costs data, Costs.ofTriple e.memory e.time e.lanes = .ok costs ∧
      contentOf e.input s = .ok data ∧ content.length = data.length + 164 ∧
      content.take 28 = preamble { variant := e.variant, version := e.version, costs } := by
  obtain ⟨costs, source, priced, _, data, mid, passphrase, readIn, _, made⟩ := made
  obtain ⟨reports, shown⟩ := showCosts_eq e.verbose costs s
  rw [shown] at readIn
  dsimp only at readIn
  rw [readInput_eq, contentOf_with_reports] at readIn
  refine ⟨costs, data, priced, ?_, length_encryptUnder made, take_encryptWith made⟩
  have readIn := congrArg Prod.fst readIn
  exact mapError_eq_ok_iff.1 readIn

/-- A successful encryption has written what it makes. -/
theorem written_of_run {arguments : List Bytes}
    (readAs : Command.read (costVariables s) arguments = .ok (.encrypt e))
    (success : ((run arguments : Run Ending) s).1 = .success) :
    ∃ content, (Command.encrypt e).Makes s content ∧
      Written e.output content s ((run arguments : Run Ending) s).2 := by
  rcases delivered_of_run readAs (by simp) success with ⟨content, made, written⟩ | ⟨_, prints, _⟩
  · exact ⟨content, made, written⟩
  · cases prints

/-- Contents that are made of plaintexts of one length are alike in length and front. -/
theorem AlikeInSecrets.shape_eq (secrets : AlikeInSecrets e s t) {c d : Bytes}
    (made : (Command.encrypt e).Makes s c) (made' : (Command.encrypt e).Makes t d) :
    c.length = d.length ∧ c.take 28 = d.take 28 := by
  obtain ⟨costs, data, priced, content, length, front⟩ := made.shape
  obtain ⟨_, data', priced', content', length', front'⟩ := made'.shape
  cases priced.symm.trans priced'
  have plaintexts := secrets.plaintexts
  rw [content, content'] at plaintexts
  cases plaintexts with
  | ok same =>
    constructor
    · rw [length, length', same]
    · rw [front, front']

/-- Two runs of an encryption that differ in the passphrase, in the plaintext but not its length,
and in what they draw at random end with the same status and report the same. They leave the same
files, up to what is in them, and if they succeed, then their outputs have the same length and the
same first 28 bytes. -/
theorem encryption_keeps_secrets (arguments : List Bytes) (alike : AlikeOutside s t)
    (encrypts : ∀ c, Command.read (costVariables s) arguments = .ok c →
      ∃ e, c = .encrypt e ∧ AlikeInSecrets e s t) :
    ((run arguments : Run Ending) s).1 = ((run arguments : Run Ending) t).1 ∧
      ((run arguments : Run Ending) s).2.reports = ((run arguments : Run Ending) t).2.reports ∧
      ((run arguments : Run Ending) s).2.tree.SameOutline
        ((run arguments : Run Ending) t).2.tree ∧
      ∀ e, Command.read (costVariables s) arguments = .ok (.encrypt e) →
        ((run arguments : Run Ending) s).1 = .success →
          ∃ c d, Written e.output c s ((run arguments : Run Ending) s).2 ∧
            Written e.output d t ((run arguments : Run Ending) t).2 ∧
            c.length = d.length ∧ c.take 28 = d.take 28 := by
  obtain ⟨status, similar⟩ := parallel_run arguments alike encrypts
  refine ⟨status, similar.reports, similar.tree, fun e readAs success => ?_⟩
  obtain ⟨_, same, secrets⟩ := encrypts _ readAs
  cases same
  have readAs' : Command.read (costVariables t) arguments = .ok (.encrypt e) := by
    rw [← alike.costVariables_eq]
    exact readAs
  have success' : ((run arguments : Run Ending) t).1 = .success := status ▸ success
  obtain ⟨c, made, written⟩ := written_of_run readAs success
  obtain ⟨d, made', written'⟩ := written_of_run readAs' success'
  exact ⟨c, d, written, written', secrets.shape_eq made made'⟩

section TwoFiles

/-- A session with a file, in which the passphrase will be typed twice. -/
def holding (content passphrase : Bytes) (draw : Draw) : Session where
  tree := ({} : FileTree).put [[105]] (.file content false)
  typed := some [passphrase, passphrase]
  draw
  temporaryNames := [[116]]

/-- The word "hello", and the passphrase "p". -/
def hello : Session := holding [104, 101, 108, 108, 111] [112] ⟨default, default⟩

/-- The word "world", and the passphrase "word". -/
def world : Session :=
  holding [119, 111, 114, 108, 100] [119, 111, 114, 100]
    ⟨⟨List.replicate 32 1, List.length_replicate⟩, ⟨List.replicate 24 2, List.length_replicate⟩⟩

/-- The file is to be encrypted to another path. -/
def toFile : Encryption where
  input := some [105]
  output := some [111]
  memory := 19456
  time := 2
  lanes := 1
  variant := .argon2id
  version := .v0x13
  verbose := true
  sources := {}

/-- The command line of that encryption. -/
def fileArguments : List Bytes := [[101], [45, 118], [45, 111], [111], [105]]

private theorem read_fileArguments :
    Command.read (costVariables hello) fileArguments = .ok (.encrypt toFile) := by
  rw [costVariables_of_nil rfl]
  exact eq_ok_of_toOption (by decide +kernel)

private theorem alike_hello_world : AlikeOutside hello world where
  reports := rfl
  here := rfl
  outputFull := rfl
  fault? := rfl
  temporaryNames := rfl
  tree := (FileTree.SameOutline.refl {}).put (.file _ _ _)
  environment _ _ := rfl

private theorem offers_hello : Offers hello (.terminal true) [112] :=
  have entered : Terminal.editing.entry [112] = .ok [112] := eq_ok_of_toOption (by decide +kernel)
  .typedTwice rfl entered entered

private theorem offers_world : Offers world (.terminal true) [119, 111, 114, 100] :=
  have entered : Terminal.editing.entry [119, 111, 114, 100] = .ok [119, 111, 114, 100] :=
    eq_ok_of_toOption (by decide +kernel)
  .typedTwice rfl entered entered

private theorem secrets_hello_world : AlikeInSecrets toFile hello world where
  plaintexts := .ok (a := [104, 101, 108, 108, 111]) (b := [119, 111, 114, 108, 100]) rfl
  passphrases := by
    intro source chosen
    cases chosen
    exact ⟨_, _, offers_hello, offers_world, by decide, by decide⟩

private theorem writable_hello (content : Bytes) : Writable (some [111]) content hello := by
  have created : hello.tree.create hello.here [111] =
      .ok (hello.tree.put [[111]] (.file [] true)) := rfl
  obtain ⟨l, place, _, _⟩ := FileTree.create_eq_ok_iff.1 created
  refine ⟨⟨.now (t := hello.tree.put [[116]] (.file [] true)) rfl, fun _ => rfl⟩, ?_⟩
  rintro _ ⟨⟩
  exact ⟨l, place⟩

private theorem success_hello : ((run fileArguments : Run Ending) hello).1 = .success := by
  obtain ⟨reports, shown⟩ := showCosts_eq true default hello
  obtain ⟨content, made⟩ := exists_encryptUnder (.unsigned default hello.draw.salt hello.draw.nonce)
    [104, 101, 108, 108, 111] [112] (by decide) (by decide)
  obtain ⟨after, asked, _⟩ := (offers_hello.with_reports reports).read
  have makes : (Command.encrypt toFile).Makes hello content := by
    refine ⟨default, .terminal true, rfl, rfl, _, { hello with reports }, _, ?_,
      congrArg (·.1.1) asked, made⟩
    show (readInput (some [105]) : Operation Run Bytes).run
      ((showCosts true default : Run Unit) hello).2 = _
    rw [shown]
    rfl
  exact (run_eq_success_iff read_fileArguments (by simp)).2
    (.inl ⟨content, makes, writable_hello content⟩)

/-- Encrypting "hello" and encrypting "world" look the same. -/
theorem encryption_keeps_secrets_hello_world :
    ((run fileArguments : Run Ending) hello).1 = .success ∧
      ((run fileArguments : Run Ending) world).1 = .success ∧
      ((run fileArguments : Run Ending) hello).2.reports =
        ((run fileArguments : Run Ending) world).2.reports ∧
      ∃ c d, Written (some [111]) c hello ((run fileArguments : Run Ending) hello).2 ∧
        Written (some [111]) d world ((run fileArguments : Run Ending) world).2 ∧
        c.length = d.length ∧ c.take 28 = d.take 28 := by
  have encrypts : ∀ c, Command.read (costVariables hello) fileArguments = .ok c →
      ∃ e, c = .encrypt e ∧ AlikeInSecrets e hello world := by
    intro c readAs
    cases read_fileArguments.symm.trans readAs
    exact ⟨toFile, rfl, secrets_hello_world⟩
  obtain ⟨status, reports, _, written⟩ :=
    encryption_keeps_secrets fileArguments alike_hello_world encrypts
  exact ⟨success_hello, status ▸ success_hello, reports,
    written toFile read_fileArguments success_hello⟩

end TwoFiles

end CommandLine

end Coffer
