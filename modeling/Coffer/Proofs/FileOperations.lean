import Coffer.Proofs.Replacement
import Coffer.Proofs.RoundTrip

/-!
# Operations on files as a whole

The input is read, a passphrase is asked for, something is made of both, and the result is written.
This fails only if nothing can be made or the result cannot be written, and a failure, whichever
step it is from, leaves all files as they were, once the temporary file is gone that a refused
renaming leaves.
-/

set_option autoImplicit false
set_option relaxedAutoImplicit false

namespace Coffer.Files

open Session

variable {R α : Type} {read : R → Run (Except Error Bytes × R)} {log : Event → Run Unit}
  {input output : Option Path} {make : Bytes → Bytes → Operation Run (Bytes × α)}
  {spec : Draw → Bytes → Bytes → Bytes → α → Prop} {made : Bytes → α → Prop} {reader reader' : R}
  {data passphrase : Bytes} {s origin mid last after : Session}

/-! ### What is made of the input -/

/-- What is made of an input and a passphrase, with what is drawn at random, is as specified, and
no file is needed for it. -/
structure Makes (make : Bytes → Bytes → Operation Run (Bytes × α))
    (spec : Draw → Bytes → Bytes → Bytes → α → Prop) : Prop where
  harmless : ∀ data passphrase, Harmless (make data passphrase)
  made_iff : ∀ {data passphrase s content a},
    (∃ after, (make data passphrase).run s = (.ok (content, a), after)) ↔
      spec s.draw data passphrase content a

theorem Makes.unique (maker : Makes make spec) {data passphrase content content' : Bytes}
    {a a' : α} (made : spec s.draw data passphrase content a)
    (again : spec s.draw data passphrase content' a') : content = content' ∧ a = a' := by
  obtain ⟨_, first⟩ := maker.made_iff.2 made
  obtain ⟨_, second⟩ := maker.made_iff.2 again
  cases first.symm.trans second
  exact ⟨rfl, rfl⟩

/-- What an attempt comes to: something is made, or that is impossible, and nothing is left. -/
inductive Attempt (made : Bytes → α → Prop) : Except FileFailure (Bytes × α) → Prop
  | made {content : Bytes} {a : α} (result : made content a) : Attempt made (.ok (content, a))
  | impossible {e : Error} (unmade : ∀ content a, ¬ made content a) :
    Attempt made (.error { error := e })

theorem Attempt.congr {answered : Bytes → α → Prop} {x : Except FileFailure (Bytes × α)}
    (attempt : Attempt made x) (same : ∀ content a, made content a ↔ answered content a) :
    Attempt answered x := by
  cases attempt with
  | made result => exact .made ((same _ _).1 result)
  | impossible unmade => exact .impossible fun content a answer => unmade _ _ ((same _ _).2 answer)

theorem Makes.attempt (maker : Makes make spec) (data passphrase : Bytes) (s : Session) :
    Attempt (spec s.draw data passphrase) ((make data passphrase).run s).1 := by
  rcases tried : (make data passphrase).run s with ⟨result, after⟩
  cases result with
  | error failure =>
    obtain ⟨e, leftover?⟩ := failure
    cases (maker.harmless data passphrase).clean s _ _ tried
    refine .impossible fun content a possible => ?_
    obtain ⟨_, success⟩ := maker.made_iff.2 possible
    cases tried.symm.trans success
  | ok both => exact .made (maker.made_iff.1 ⟨after, tried⟩)

/-- The content is the container of the plaintext under the scheme that is made with the draw. -/
def IsContainer (scheme : Scheme) (draw : Draw) (plaintext passphrase content : Bytes)
    (_ : Unit) : Prop :=
  encryptWith scheme draw plaintext passphrase = .ok content

/-- The content is the plaintext of the container, which was made at the costs. -/
def IsPlaintext (_ : Draw) (data passphrase content : Bytes) (costs : Costs) : Prop :=
  Coffer.decrypt data passphrase = .ok content ∧
    ∃ header, Header.parse data = .ok header ∧ header.scheme.costs = costs

theorem makes_makeContainer (quietLog : ∀ e, Quiet (log e)) (scheme : Scheme) :
    Makes (makeContainer log scheme) (IsContainer scheme) where
  harmless data passphrase := by
    refine (harmless_lift quiet_draw).bind fun draw => ?_
    refine (harmless_lift (quietLog _)).bind fun _ => ?_
    cases encryptWith scheme draw data passphrase with
    | ok container => exact (harmless_lift (quietLog _)).bind fun _ => harmless_pure _
    | error e => exact harmless_refuse _
  made_iff {data passphrase s content a} := by
    unfold makeContainer IsContainer
    rw [run_bind_lift, draw_eq, run_bind_lift]
    cases encryptWith scheme s.draw data passphrase with
    | ok container =>
      constructor
      · rintro ⟨after, made⟩
        cases made
        rfl
      · rintro same
        cases same
        exact ⟨_, rfl⟩
    | error e =>
      constructor
      · rintro ⟨after, made⟩
        cases made
      · rintro ⟨⟩

/-- A plaintext is what a decryptor gives, whose costs are those in the header. -/
theorem isPlaintext_iff {draw : Draw} {data passphrase content : Bytes} {costs : Costs} :
    IsPlaintext draw data passphrase content costs ↔
      ∃ d, Decryptor.prepare data passphrase = .ok d ∧ d.toBytes = .ok content ∧
        d.costs = costs := by
  constructor
  · rintro ⟨opened, header, parsed, rfl⟩
    obtain ⟨d, prepared, opened⟩ := bind_eq_ok_iff.1 opened
    cases parsed.symm.trans (Decryptor.parse_of_prepare prepared)
    exact ⟨d, prepared, opened, rfl⟩
  · rintro ⟨d, prepared, opened, rfl⟩
    exact ⟨bind_eq_ok_iff.2 ⟨d, prepared, opened⟩, _, Decryptor.parse_of_prepare prepared, rfl⟩

theorem makes_openContainer (quietLog : ∀ e, Quiet (log e)) :
    Makes (openContainer log) IsPlaintext where
  harmless data passphrase := by
    unfold openContainer
    cases Container.ofBytes data with
    | error e => exact harmless_refuse _
    | ok container =>
      refine (harmless_lift (quietLog _)).bind fun _ => ?_
      cases Decryptor.prepare data passphrase with
      | error e => exact harmless_refuse _
      | ok decryptor =>
        dsimp only
        cases decryptor.toBytes with
        | error e => exact harmless_refuse _
        | ok plaintext => exact (harmless_lift (quietLog _)).bind fun _ => harmless_pure _
  made_iff {data passphrase s content costs} := by
    rw [isPlaintext_iff]
    unfold openContainer
    constructor
    · rintro ⟨after, made⟩
      cases cut : Container.ofBytes data with
      | error e =>
        rw [cut] at made
        cases made
      | ok container =>
        rw [cut] at made
        dsimp only at made
        rw [run_bind_lift] at made
        cases prepared : Decryptor.prepare data passphrase with
        | error e =>
          rw [prepared] at made
          cases made
        | ok decryptor =>
          rw [prepared] at made
          dsimp only at made
          cases opened : decryptor.toBytes with
          | error e =>
            rw [opened] at made
            cases made
          | ok plaintext =>
            rw [opened] at made
            cases made
            exact ⟨decryptor, rfl, opened, rfl⟩
    · rintro ⟨d, prepared, opened, rfl⟩
      have cut : Container.ofBytes data = .ok d.container :=
        Container.ofBytes_eq_ok_iff.2 (Decryptor.prepare_eq_ok_iff.1 prepared).1
      rw [cut]
      dsimp only
      rw [run_bind_lift, prepared]
      dsimp only
      rw [opened]
      exact ⟨_, rfl⟩

/-! ### Reading and asking -/

/-- The content and the answer are made of the input and of the passphrase that the reader gives
once the input has been read. -/
def MadeFrom (read : R → Run (Except Error Bytes × R)) (input : Option Path) (reader : R)
    (spec : Draw → Bytes → Bytes → Bytes → α → Prop) (s : Session) (content : Bytes) (a : α) :
    Prop :=
  ∃ data mid passphrase, (readInput input : Operation Run Bytes).run s = (.ok data, mid) ∧
    (read reader mid).1.1 = .ok passphrase ∧ spec s.draw data passphrase content a

/-- The input is read, and the reader gives a passphrase after that. -/
def Obtains (read : R → Run (Except Error Bytes × R)) (input : Option Path) (reader : R)
    (s : Session) (data passphrase : Bytes) (reader' : R) (last : Session) : Prop :=
  ∃ mid, (readInput input : Operation Run Bytes).run s = (.ok data, mid) ∧
    read reader mid = ((.ok passphrase, reader'), last)

theorem madeFrom_iff (obtained : Obtains read input reader s data passphrase reader' last)
    {content : Bytes} {a : α} :
    MadeFrom read input reader spec s content a ↔ spec s.draw data passphrase content a := by
  obtain ⟨mid, readIn, asked⟩ := obtained
  constructor
  · rintro ⟨_, _, _, readIn', given, result⟩
    cases readIn.symm.trans readIn'
    rw [asked] at given
    cases given
    exact result
  · intro result
    exact ⟨data, mid, passphrase, readIn, congrArg (·.1.1) asked, result⟩

theorem MadeFrom.unique (maker : Makes make spec) {content content' : Bytes} {a a' : α}
    (made : MadeFrom read input reader spec s content a)
    (again : MadeFrom read input reader spec s content' a') : content = content' := by
  obtain ⟨data, mid, passphrase, readIn, given, result⟩ := made
  obtain ⟨_, _, _, readIn', given', result'⟩ := again
  cases readIn.symm.trans readIn'
  cases given.symm.trans given'
  exact (maker.unique result result').1

/-- What becomes of the reader: it is called once if the input can be read, otherwise not at all. -/
def readerAfter (read : R → Run (Except Error Bytes × R)) (input : Option Path) (reader : R)
    (s : Session) : R :=
  match (readInput input : Operation Run Bytes).run s with
  | (.ok _, mid) => (read reader mid).1.2
  | (.error _, _) => reader

theorem compose_of_unread {failure : FileFailure}
    (unread : (readInput input : Operation Run Bytes).run s = (.error failure, mid)) :
    compose read input make reader s = ((.error failure, reader), mid) := by
  unfold compose
  rw [bind_eq, unread]
  rfl

theorem compose_of_refused {data : Bytes} {e : Error}
    (readIn : (readInput input : Operation Run Bytes).run s = (.ok data, mid))
    (asked : read reader mid = ((.error e, reader'), last)) :
    compose read input make reader s = ((.error { error := e }, reader'), last) := by
  unfold compose
  rw [bind_eq, readIn]
  dsimp only
  rw [bind_eq, asked]
  rfl

theorem compose_of_asked {α : Type} {make : Bytes → Bytes → Operation Run α}
    (readIn : (readInput input : Operation Run Bytes).run s = (.ok data, mid))
    (asked : read reader mid = ((.ok passphrase, reader'), last)) :
    compose read input make reader s =
      ((((make data passphrase).run last).1, reader'), ((make data passphrase).run last).2) := by
  unfold compose
  rw [bind_eq, readIn]
  dsimp only
  rw [bind_eq, asked]
  rfl

/-- Once there is a passphrase, what it and the input are made into decides. -/
theorem compose_of_obtained (maker : Makes make spec)
    (obtained : Obtains read input reader s data passphrase reader' last) :
    ∃ result after, compose read input make reader s = ((result, reader'), after) ∧
      Untouched last after ∧ Attempt (spec last.draw data passphrase) result := by
  obtain ⟨mid, readIn, asked⟩ := obtained
  exact ⟨_, _, compose_of_asked readIn asked, (maker.harmless data passphrase).quiet last,
    maker.attempt data passphrase last⟩

/-- The reader is called in time, no file is changed before there is something to write, and
something is made unless that is impossible. -/
theorem compose_spec (quietRead : ∀ r, Quiet (read r)) (maker : Makes make spec) :
    ∃ result after, compose read input make reader s =
        ((result, readerAfter read input reader s), after) ∧ Untouched s after ∧
      Attempt (MadeFrom read input reader spec s) result := by
  have harmless := harmless_readInput input
  have first := harmless.quiet s
  rcases readIn : (readInput input : Operation Run Bytes).run s with ⟨outcome, mid⟩
  rw [readIn] at first
  cases outcome with
  | error failure =>
    obtain ⟨e, leftover?⟩ := failure
    cases harmless.clean s _ _ readIn
    refine ⟨.error { error := e }, mid, ?_, first, .impossible ?_⟩
    · rw [compose_of_unread readIn, readerAfter, readIn]
    · rintro content a ⟨data, _, passphrase, success, _⟩
      cases readIn.symm.trans success
  | ok data =>
    have second := quietRead reader mid
    rcases asked : read reader mid with ⟨⟨answer, reader'⟩, last⟩
    have called : readerAfter read input reader s = reader' := by
      rw [readerAfter, readIn]
      exact congrArg (·.1.2) asked
    rw [asked] at second
    rw [called]
    cases answer with
    | error e =>
      refine ⟨_, _, compose_of_refused readIn asked, first.trans second, .impossible ?_⟩
      rintro content a ⟨_, _, passphrase, success, given, _⟩
      cases readIn.symm.trans success
      rw [asked] at given
      cases given
    | ok passphrase =>
      have obtained : Obtains read input reader s data passphrase reader' last :=
        ⟨mid, readIn, asked⟩
      -- Nothing has been drawn so far, so the draw is that of the start.
      have drawn : last.draw = s.draw := (first.trans second).draw
      obtain ⟨result, after, composed, third, attempt⟩ := compose_of_obtained maker obtained
      rw [drawn] at attempt
      exact ⟨result, after, composed, (first.trans second).trans third,
        attempt.congr fun _ _ => (madeFrom_iff obtained).symm⟩

/-! ### Writing -/

theorem transform_of_refusal {α : Type} {make : Bytes → Bytes → Operation Run (Bytes × α)}
    {failure : FileFailure}
    (refused : compose read input make reader s = ((.error failure, reader'), mid)) :
    transform read log input output make reader s = ((.error failure, reader'), mid) := by
  unfold transform
  rw [bind_eq, refused]
  rfl

theorem transform_of_composed {α : Type} {make : Bytes → Bytes → Operation Run (Bytes × α)}
    {content : Bytes} {a : α}
    (composed : compose read input make reader s = ((.ok (content, a), reader'), mid)) :
    transform read log input output make reader s =
      ((((writeOutput log output content : Operation Run Unit).run mid).1.map fun _ => a, reader'),
        ((writeOutput log output content : Operation Run Unit).run mid).2) := by
  unfold transform
  rw [bind_eq, composed]
  dsimp only
  rw [bind_eq]
  cases ((writeOutput log output content : Operation Run Unit).run mid).1 with
  | error failure => rfl
  | ok _ => rfl

/-- What has been made is written, in one way only. -/
theorem outcome_of_attempt (quietLog : ∀ e, Quiet (log e)) {result : Except FileFailure (Bytes × α)}
    (composed : compose read input make reader s = ((result, reader'), mid))
    (first : Untouched origin mid) (attempt : Attempt made result)
    (unique : ∀ {content content' a a'}, made content a → made content' a' → content = content') :
    ∃ answer after, transform read log input output make reader s = ((answer, reader'), after) ∧
      Outcome origin output made (answer, after) := by
  cases attempt with
  | impossible unmade =>
    exact ⟨_, _, transform_of_refusal composed,
      .failed first fun content a result => absurd result (unmade content a)⟩
  | @made content a result =>
    rw [transform_of_composed composed]
    have wrote := outcome_writeOutput quietLog output content mid
    rcases writing : (writeOutput log output content : Operation Run Unit).run mid with
      ⟨outcome, after⟩
    rw [writing] at wrote
    have whole := wrote.of_untouched first
    cases whole with
    | failed same hindered =>
      refine ⟨_, _, rfl, .failed same fun content' a' again => ?_⟩
      cases unique result again
      exact hindered content () rfl
    | stuck same goal left =>
      cases same
      exact ⟨_, _, rfl, .stuck result goal left⟩
    | written same writable written =>
      cases same
      exact ⟨_, _, rfl, .written result writable written⟩

/-- What an operation on files comes to, while a failure of it may still be looked at. -/
theorem outcome_transform (quietRead : ∀ r, Quiet (read r)) (quietLog : ∀ e, Quiet (log e))
    (maker : Makes make spec) (input output : Option Path) (reader : R) (s : Session) :
    ∃ result after, transform read log input output make reader s =
        ((result, readerAfter read input reader s), after) ∧
      Outcome s output (MadeFrom read input reader spec s) (result, after) := by
  obtain ⟨result, mid, composed, first, attempt⟩ := compose_spec quietRead maker
  exact outcome_of_attempt quietLog composed first attempt fun made again => made.unique maker again

/-- The operations that know where the passphrase comes from do not give the reader back. -/
theorem outcome_of_source (quietLog : ∀ e, Quiet (log e)) (maker : Makes make spec)
    (input output : Option Path) (source : PassphraseSource) (s : Session) :
    Outcome s output (MadeFrom PassphraseSource.read input source spec s)
      ((.mk do return (← transform PassphraseSource.read log input output make source).1 :
        Operation Run α).run s) := by
  obtain ⟨result, after, transformed, outcome⟩ :=
    outcome_transform PassphraseSource.quiet_read quietLog maker input output source s
  rw [ExceptT.run_mk, bind_eq, transformed]
  exact outcome

/-- Nothing has changed, because there is nothing to write or it cannot be written, or the whole of
what was to be made has been written. -/
def AllOrNothing (s : Session) (output : Option Path) (made : Bytes → α → Prop) :
    Except Error α × Session → Prop
  | (.error _, after) => after.tree = s.tree ∧ after.output = s.output ∧
      ∀ content a, made content a → ¬ Writable output content s
  | (.ok a, after) => ∃ content, made content a ∧ Written output content s after

/-- To drop a failure takes away the temporary file that it has left. -/
theorem Outcome.discard {made : Bytes → α → Prop} {result : Except FileFailure α}
    (o : Outcome s output made (result, mid)) :
    AllOrNothing s output made ((Files.discard result : Run (Except Error α)) mid) := by
  cases o with
  | failed same hindered =>
    exact ⟨same.tree, same.output, fun content a made writable =>
      hindered content a made writable.1⟩
  | @stuck e path temporary content a _ result goal left =>
    subst goal
    refine ⟨?_, left.output, fun _ _ _ => left.not_writable⟩
    obtain ⟨l, place, free, tree⟩ := left.entry
    change mid.tree.remove mid.here temporary = s.tree
    rw [left.here, tree, FileTree.remove_put place free]
  | written result writable written => exact ⟨_, result, written⟩

theorem transact_of_outcome {result : Except FileFailure α}
    (transformed : transform read log input output make reader s = ((result, reader'), mid))
    (outcome : Outcome origin output made (result, mid)) :
    ∃ answer after, transact read log input output make reader s = ((answer, reader'), after) ∧
      AllOrNothing origin output made (answer, after) := by
  refine ⟨_, _, ?_, outcome.discard⟩
  unfold transact
  rw [bind_eq, transformed]
  rfl

theorem transact_spec (quietRead : ∀ r, Quiet (read r)) (quietLog : ∀ e, Quiet (log e))
    (maker : Makes make spec) (input output : Option Path) (reader : R) (s : Session) :
    ∃ result after, transact read log input output make reader s =
        ((result, readerAfter read input reader s), after) ∧
      AllOrNothing s output (MadeFrom read input reader spec s) (result, after) := by
  obtain ⟨result, mid, transformed, outcome⟩ :=
    outcome_transform quietRead quietLog maker input output reader s
  exact transact_of_outcome transformed outcome

/-- With the sources of passphrases that the program knows, the operations are those of it, if a
failure is dropped. -/
theorem settle_encrypt (log : Event → Run Unit) (input output : Option Path) (scheme : Scheme)
    (source : PassphraseSource) (s : Session) :
    (settle (encrypt log input output scheme source) : Run (Except Error Unit)) s =
      Prod.map Prod.fst id
        (transact PassphraseSource.read log input output (makeContainer log scheme) source s) := rfl

theorem settle_decrypt (log : Event → Run Unit) (input output : Option Path)
    (source : PassphraseSource) (s : Session) :
    (settle (decrypt log input output source) : Run (Except Error Costs)) s =
      Prod.map Prod.fst id
        (transact PassphraseSource.read log input output (openContainer log) source s) := rfl

/-- The input can be read. -/
def Readable (input : Option Path) (s : Session) : Prop :=
  ∃ data mid, (readInput input : Operation Run Bytes).run s = (.ok data, mid)

/-- A reader that counts its calls has been called once, or not at all. -/
theorem calls_readerAfter {calls : R → Nat} (counts : ∀ r s, calls (read r s).1.2 = calls r + 1) :
    (Readable input s ∧ calls (readerAfter read input reader s) = calls reader + 1) ∨
      (¬ Readable input s ∧ calls (readerAfter read input reader s) = calls reader) := by
  unfold readerAfter
  rcases readIn : (readInput input : Operation Run Bytes).run s with ⟨outcome, mid⟩
  cases outcome with
  | ok data => exact .inl ⟨⟨data, mid, readIn⟩, counts reader mid⟩
  | error failure =>
    refine .inr ⟨?_, rfl⟩
    rintro ⟨data, last, success⟩
    rw [readIn] at success
    cases success

/-- To encrypt and to decrypt files is all or nothing, and asks for a passphrase once, if the input
can be read, or not at all. -/
theorem transact_all_or_nothing (quietRead : ∀ r, Quiet (read r)) (quietLog : ∀ e, Quiet (log e))
    (input output : Option Path) (reader : R) (s : Session) :
    (∀ scheme, ∃ result after,
      transact read log input output (makeContainer log scheme) reader s =
          ((result, readerAfter read input reader s), after) ∧
        AllOrNothing s output (MadeFrom read input reader (IsContainer scheme) s)
          (result, after)) ∧
      (∃ result after, transact read log input output (openContainer log) reader s =
          ((result, readerAfter read input reader s), after) ∧
        AllOrNothing s output (MadeFrom read input reader IsPlaintext s) (result, after)) ∧
      ∀ calls : R → Nat, (∀ r s, calls (read r s).1.2 = calls r + 1) →
        (Readable input s ∧ calls (readerAfter read input reader s) = calls reader + 1) ∨
          (¬ Readable input s ∧ calls (readerAfter read input reader s) = calls reader) :=
  ⟨fun scheme => transact_spec quietRead quietLog (makes_makeContainer quietLog scheme)
      input output reader s,
    transact_spec quietRead quietLog (makes_openContainer quietLog) input output reader s,
    fun _ counts => calls_readerAfter counts⟩

/-- A reader that always gives the same passphrase, and counts its calls. -/
def counting (passphrase : Bytes) (calls : Nat) : Run (Except Error Bytes × Nat) :=
  pure (.ok passphrase, calls + 1)

/-- A session with one file, of five bytes. -/
def oneFile : Session where
  tree := { entries := [([[105]], .file [104, 101, 108, 108, 111] false)] }
  draw := ⟨default, default⟩
  temporaryNames := [[116]]

private theorem writable_oneFile (content : Bytes) : Writable (some [111]) content oneFile := by
  have created : oneFile.tree.create oneFile.here [111] =
      .ok (oneFile.tree.put [[111]] (.file [] true)) := rfl
  obtain ⟨l, place, _, _⟩ := FileTree.create_eq_ok_iff.1 created
  refine ⟨⟨.now (t := oneFile.tree.put [[116]] (.file [] true)) rfl, fun _ => rfl⟩, ?_⟩
  rintro _ ⟨⟩
  exact ⟨l, place⟩

/-- Five bytes are no container, which is found after the reader has been called, but they can be
encrypted. -/
theorem transact_all_or_nothing_five_bytes :
    (∃ e after, transact (counting [112, 119]) (fun _ => pure ()) (some [105]) (some [111])
        (openContainer fun _ => pure ()) 0 oneFile = ((.error e, 1), after) ∧
      after.tree = oneFile.tree ∧ after.output = []) ∧
    ∃ content after, transact (counting [112, 119]) (fun _ => pure ()) (some [105]) (some [111])
        (makeContainer (fun _ => pure ()) default) 0 oneFile = ((.ok (), 1), after) ∧
      encryptWith default oneFile.draw [104, 101, 108, 108, 111] [112, 119] = .ok content ∧
      after.tree.read after.here [111] = .ok content := by
  have quietRead (calls : Nat) : Quiet (counting [112, 119] calls) := quiet_pure _
  have quietLog (_ : Event) : Quiet (pure () : Run Unit) := quiet_pure _
  have readIn : (readInput (some [105]) : Operation Run Bytes).run oneFile =
      (.ok [104, 101, 108, 108, 111], oneFile) := rfl
  have calls : readerAfter (counting [112, 119]) (some [105]) 0 oneFile = 1 := rfl
  obtain ⟨encrypting, ⟨result, after, ran, ended⟩, _⟩ :=
    transact_all_or_nothing quietRead quietLog (some [105]) (some [111]) 0 oneFile
  rw [calls] at ran
  constructor
  · have refused : (transact (counting [112, 119]) (fun _ => pure ()) (some [105]) (some [111])
        (openContainer fun _ => pure ()) 0 oneFile).1.1 =
          .error (decryptionFailure (.ofKind .tooShort)) := rfl
    rw [ran] at refused
    cases refused
    exact ⟨_, after, ran, ended.1, ended.2.1⟩
  · obtain ⟨result, after, ran, ended⟩ := encrypting default
    rw [calls] at ran
    obtain ⟨content, made⟩ := exists_encryptUnder
      (.unsigned default oneFile.draw.salt oneFile.draw.nonce) [104, 101, 108, 108, 111] [112, 119]
      (by decide) (by decide)
    have asIntended : MadeFrom (counting [112, 119]) (some [105]) 0 (IsContainer default) oneFile
        content () := ⟨_, _, _, readIn, rfl, made⟩
    cases result with
    | error e => exact absurd (writable_oneFile content) (ended.2.2 content () asIntended)
    | ok _ =>
      obtain ⟨content', made', written⟩ := ended
      cases asIntended.unique (makes_makeContainer quietLog default) made'
      exact ⟨content, after, ran, made, written.read.1⟩

end Coffer.Files
