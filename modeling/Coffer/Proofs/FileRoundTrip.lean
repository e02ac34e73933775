import Coffer.Proofs.CommandLine

/-!
# Files that are encrypted and decrypted

What an encryption has delivered is decrypted whenever it is read again: by any operation that
obtains the same passphrase, from wherever it reads and to wherever it can write. The inspections
name the scheme of the encryption. A file that is encrypted and decrypted in place is restored.
-/

set_option autoImplicit false
set_option relaxedAutoImplicit false

namespace Coffer.Files

open Session FileTree CommandLine

variable {R α : Type} {read : R → Run (Except Error Bytes × R)} {log : Event → Run Unit}
  {input output : Option Path} {make : Bytes → Bytes → Operation Run (Bytes × α)}
  {spec : Draw → Bytes → Bytes → Bytes → α → Prop} {reader reader' : R} {scheme : Scheme}
  {plaintext passphrase container data : Bytes} {path : Path} {s last after : Session}

/-- What is read from the input in a session. -/
def Provides (input : Option Path) (s : Session) (data : Bytes) : Prop :=
  ∃ mid, (readInput input : Operation Run Bytes).run s = (.ok data, mid)

theorem readInput_path_eq_ok_iff {mid : Session} :
    (readInput (some path) : Operation Run Bytes).run s = (.ok data, mid) ↔
      s.tree.read s.here path = .ok data ∧ mid = s := by
  have step : (Surroundings.readFile path : Run _) s = (s.tree.read s.here path, s) := rfl
  unfold readInput
  dsimp only
  rw [run_bind_lift, step]
  cases s.tree.read s.here path with
  | error e =>
    constructor
    · intro success
      cases success
    · rintro ⟨success, _⟩
      cases success
  | ok content =>
    constructor
    · intro success
      cases success
      exact ⟨rfl, rfl⟩
    · rintro ⟨same, rfl⟩
      cases same
      rfl

theorem provides_path (present : s.tree.read s.here path = .ok data) :
    Provides (some path) s data :=
  ⟨s, readInput_path_eq_ok_iff.2 ⟨present, rfl⟩⟩

/-! ### Operations that have their passphrase -/

/-- With a passphrase, an operation is all or nothing from there on, whatever the reader has done
before. -/
theorem transact_of_obtained (quietLog : ∀ e, Quiet (log e)) (maker : Makes make spec)
    (output : Option Path)
    (obtained : Obtains read input reader s data passphrase reader' last) :
    ∃ result after, transact read log input output make reader s = ((result, reader'), after) ∧
      AllOrNothing last output (spec last.draw data passphrase) (result, after) := by
  obtain ⟨result, mid, composed, first, attempt⟩ := compose_of_obtained maker obtained
  obtain ⟨answer, _, transformed, outcome⟩ :=
    outcome_of_attempt quietLog composed first attempt fun made again => (maker.unique made again).1
  exact transact_of_outcome transformed outcome

theorem transact_of_refusal {failure : FileFailure} {mid : Session}
    (refused : compose read input make reader s = ((.error failure, reader'), mid)) :
    ∃ after, transact read log input output make reader s =
      ((.error failure.error, reader'), after) := by
  obtain ⟨e, leftover?⟩ := failure
  unfold transact
  rw [bind_eq, transform_of_refusal refused]
  cases leftover? with
  | none => exact ⟨_, rfl⟩
  | some temporary => exact ⟨_, rfl⟩

/-- Nothing succeeds without an input and a passphrase, and what succeeds has been written. -/
theorem obtained_of_transact (quietLog : ∀ e, Quiet (log e)) (maker : Makes make spec) {a : α}
    (done : transact read log input output make reader s = ((.ok a, reader'), after)) :
    ∃ data passphrase last content, Obtains read input reader s data passphrase reader' last ∧
      spec last.draw data passphrase content a ∧ Written output content last after := by
  rcases readIn : (readInput input : Operation Run Bytes).run s with ⟨outcome, mid⟩
  cases outcome with
  | error failure =>
    obtain ⟨_, failed⟩ := transact_of_refusal (compose_of_unread readIn)
    cases failed.symm.trans done
  | ok data =>
    rcases asked : read reader mid with ⟨⟨answer, asker⟩, last⟩
    cases answer with
    | error e =>
      obtain ⟨_, failed⟩ := transact_of_refusal (compose_of_refused readIn asked)
      cases failed.symm.trans done
    | ok passphrase =>
      have obtained : Obtains read input reader s data passphrase asker last :=
        ⟨mid, readIn, asked⟩
      -- The operation is a function, so its one run is the successful one.
      obtain ⟨_, _, ran, ended⟩ := transact_of_obtained quietLog maker output obtained
      cases ran.symm.trans done
      obtain ⟨content, result, written⟩ := ended
      exact ⟨data, passphrase, last, content, obtained, result, written⟩

/-- What can be made is made and written, if there is a place for it. -/
theorem transact_of_made (quietLog : ∀ e, Quiet (log e)) (maker : Makes make spec)
    (obtained : Obtains read input reader s data passphrase reader' last) {content : Bytes} {a : α}
    (made : spec last.draw data passphrase content a) (writable : Writable output content last) :
    ∃ after, transact read log input output make reader s = ((.ok a, reader'), after) ∧
      Written output content last after := by
  obtain ⟨result, after, ran, ended⟩ := transact_of_obtained quietLog maker output obtained
  cases result with
  | error e => exact absurd writable (ended.2.2 content a made)
  | ok answer =>
    obtain ⟨content', made', written⟩ := ended
    obtain ⟨rfl, rfl⟩ := maker.unique made made'
    exact ⟨after, ran, written⟩

/-! ### Encryption and what follows it -/

/-- The plaintext of what has been made under a scheme, and the costs of the scheme, are what is
made of it under the same passphrase. -/
theorem isPlaintext_of_isContainer {draw later : Draw}
    (made : IsContainer scheme draw plaintext passphrase container ()) :
    IsPlaintext later container passphrase plaintext scheme.costs := by
  obtain ⟨key, parsed⟩ := parse_of_encryptUnder made
  exact ⟨decrypt_encryptUnder made, _, parsed, rfl⟩

theorem namesScheme_of_isContainer {draw : Draw}
    (made : IsContainer scheme draw plaintext passphrase container ())
    (provided : Provides input s container) : NamesScheme input s scheme := by
  obtain ⟨mid, readIn⟩ := provided
  obtain ⟨key, parsed⟩ := parse_of_encryptUnder made
  exact ⟨container, mid, _, readIn, parsed, rfl⟩

/-- What follows an encryption, wherever its container is read from later: the inspections name the
scheme, and every decryption that obtains the passphrase and can write its output restores the
plaintext. -/
def Restorable (log : Event → Run Unit) (scheme : Scheme) (plaintext passphrase : Bytes)
    (source : Option Path) (later : Session) (container : Bytes) : Prop :=
  (∃ mid, (readCosts source : Operation Run Costs).run later = (.ok scheme.costs, mid)) ∧
    (∃ mid, (readScheme source : Operation Run Scheme).run later = (.ok scheme, mid)) ∧
    ∀ {Q : Type} {ask : Q → Run (Except Error Bytes × Q)} {asker asker' : Q}
      {target : Option Path} {asked : Session},
      Obtains ask source asker later container passphrase asker' asked →
        Writable target plaintext asked →
        ∃ final, transact ask log source target (openContainer log) asker later =
            ((.ok scheme.costs, asker'), final) ∧ Written target plaintext asked final

theorem restorable_of_isContainer (quietLog : ∀ e, Quiet (log e)) {draw : Draw}
    (made : IsContainer scheme draw plaintext passphrase container ()) {source : Option Path}
    {later : Session} (provided : Provides source later container) :
    Restorable log scheme plaintext passphrase source later container := by
  have named := namesScheme_of_isContainer made provided
  refine ⟨readCosts_eq_ok_iff.2 ⟨scheme, named, rfl⟩, readScheme_eq_ok_iff.2 named, ?_⟩
  intro Q ask asker asker' target asked obtained writable
  exact transact_of_made quietLog (makes_openContainer quietLog) obtained
    (isPlaintext_of_isContainer made) writable

/-- A file that is replaced by its container, and later by the plaintext of that, is restored, if
the readers of the passphrase change no files. -/
theorem restored_in_place (quietLog : ∀ e, Quiet (log e)) {draw : Draw}
    (made : IsContainer scheme draw plaintext passphrase container ())
    (present : s.tree.read s.here path = .ok plaintext) (tree : last.tree = s.tree)
    (here : last.here = s.here) (written : Written (some path) container last after)
    {later : Session} (laterTree : later.tree = after.tree) (laterHere : later.here = after.here)
    {Q : Type} {ask : Q → Run (Except Error Bytes × Q)} {asker asker' : Q} {asked : Session}
    (given : ask asker later = ((.ok passphrase, asker'), asked))
    (askedTree : asked.tree = later.tree) (askedHere : asked.here = later.here)
    (creatable : Creatable path asked) :
    ∃ final l isPrivate, transact ask log (some path) (some path) (openContainer log) asker later =
        ((.ok scheme.costs, asker'), final) ∧ Admits s.tree s.here path l ∧
      s.tree.find? l = some (.file plaintext isPrivate) ∧
      final.tree = s.tree.put l (.file plaintext true) := by
  have provided : later.tree.read later.here path = .ok container := by
    rw [laterTree, laterHere]
    exact written.read.1
  have obtained : Obtains ask (some path) asker later container passphrase asker' asked :=
    ⟨later, readInput_path_eq_ok_iff.2 ⟨provided, rfl⟩, given⟩
  obtain ⟨stays, l, place, changed, _⟩ := written
  rw [tree, here] at place
  obtain ⟨isPrivate, there⟩ := place.file_of_read present
  have shape : asked.tree = s.tree.put l (.file container true) := by
    rw [askedTree, laterTree, changed, tree]
  have stands : asked.here = s.here := by
    rw [askedHere, laterHere, stays, here]
  -- The path still admits a file where it did: the container is there, and no directory.
  have again : Admits asked.tree asked.here path l := by
    rw [shape, stands]
    exact (admits_put_iff place.free).2 place
  have writable : Writable (some path) plaintext asked := by
    refine ⟨creatable, ?_⟩
    rintro _ ⟨⟩
    exact ⟨l, again⟩
  obtain ⟨final, ran, _, l', place', restored, _⟩ := transact_of_made quietLog
    (makes_openContainer quietLog) obtained (isPlaintext_of_isContainer made) writable
  cases place'.unique again
  refine ⟨final, l, isPrivate, ran, place, there, ?_⟩
  rw [restored, shape, put_put]

/-- A successful encryption has written a container that has 164 bytes more than the plaintext and
that is restorable whenever and from wherever it is read again. The output may be the input: then
decryption in place restores the content, in a private file, and every other entry is as it was
before the encryption. -/
theorem file_round_trip (quietLog : ∀ e, Quiet (log e))
    (done : transact read log input output (makeContainer log scheme) reader s =
      ((.ok (), reader'), after)) :
    ∃ plaintext passphrase last container,
      Obtains read input reader s plaintext passphrase reader' last ∧
      encryptWith scheme last.draw plaintext passphrase = .ok container ∧
      container.length = plaintext.length + 164 ∧
      Written output container last after ∧
      (∀ source later, Provides source later container →
        Restorable log scheme plaintext passphrase source later container) ∧
      ∀ path, input = some path → output = some path → last.tree = s.tree → last.here = s.here →
        ∀ later : Session, later.tree = after.tree → later.here = after.here →
        ∀ {Q : Type} {ask : Q → Run (Except Error Bytes × Q)} {asker asker' : Q} {asked : Session},
          ask asker later = ((.ok passphrase, asker'), asked) →
          asked.tree = later.tree → asked.here = later.here → Creatable path asked →
          ∃ final l isPrivate,
            transact ask log (some path) (some path) (openContainer log) asker later =
              ((.ok scheme.costs, asker'), final) ∧ Admits s.tree s.here path l ∧
            s.tree.find? l = some (.file plaintext isPrivate) ∧
            final.tree = s.tree.put l (.file plaintext true) := by
  obtain ⟨plaintext, passphrase, last, container, obtained, made, written⟩ :=
    obtained_of_transact quietLog (makes_makeContainer quietLog scheme) done
  refine ⟨plaintext, passphrase, last, container, obtained, made, length_encryptUnder made, written,
    ?_, ?_⟩
  · intro source later provided
    exact restorable_of_isContainer quietLog made provided
  · rintro path rfl rfl tree here later laterTree laterHere Q ask asker asker' asked given
      askedTree askedHere creatable
    obtain ⟨mid, readIn, _⟩ := obtained
    obtain ⟨present, _⟩ := readInput_path_eq_ok_iff.1 readIn
    exact restored_in_place quietLog made present tree here written laterTree laterHere given
      askedTree askedHere creatable

private theorem admits_oneFile : Admits oneFile.tree oneFile.here [105] [[105]] :=
  ⟨[], [105], ⟨rfl, ⟨[], rfl, rfl⟩, rfl, by decide, by decide⟩, rfl, nofun⟩

/-- Five bytes are encrypted in place and decrypted, to the standard output and in place. -/
theorem file_round_trip_five_bytes :
    ∃ container after printed final, transact (counting [112, 119]) (fun _ => pure ())
        (some [105]) (some [105]) (makeContainer (fun _ => pure ()) default) 0 oneFile =
          ((.ok (), 1), after) ∧
      container.length = 169 ∧ after.tree.read after.here [105] = .ok container ∧
      transact (counting [112, 119]) (fun _ => pure ()) (some [105]) none
        (openContainer fun _ => pure ()) 1 { after with outputFull := false } =
          ((.ok default, 2), printed) ∧
      printed.output = after.output ++ [104, 101, 108, 108, 111] ∧
      transact (counting [112, 119]) (fun _ => pure ()) (some [105]) (some [105])
        (openContainer fun _ => pure ()) 1
        { after with temporaryNames := [[117]], fault? := fun _ => none } =
          ((.ok default, 2), final) ∧
      final.tree = oneFile.tree.put [[105]] (.file [104, 101, 108, 108, 111] true) := by
  have quietLog (_ : Event) : Quiet (pure () : Run Unit) := quiet_pure _
  have obtained : Obtains (counting [112, 119]) (some [105]) 0 oneFile [104, 101, 108, 108, 111]
      [112, 119] 1 oneFile := ⟨oneFile, rfl, rfl⟩
  obtain ⟨content, made⟩ := exists_encryptUnder
    (.unsigned default oneFile.draw.salt oneFile.draw.nonce) [104, 101, 108, 108, 111] [112, 119]
    (by decide) (by decide)
  have writable : Writable (some [105]) content oneFile := by
    refine ⟨⟨.now (t := oneFile.tree.put [[116]] (.file [] true)) rfl, fun _ => rfl⟩, ?_⟩
    rintro _ ⟨⟩
    exact ⟨_, admits_oneFile⟩
  obtain ⟨after, ran, _⟩ :=
    transact_of_made quietLog (makes_makeContainer quietLog default) obtained made writable
  obtain ⟨plaintext, passphrase, last, container, ⟨mid, readIn, given⟩, _, length, written,
    restorable, inPlace⟩ := file_round_trip quietLog ran
  cases readIn
  cases given
  have stands := written.read.1
  obtain ⟨here, l, place, tree, _⟩ := written
  cases place.unique admits_oneFile
  have readable : Provides (some [105]) { after with outputFull := false } container :=
    provides_path stands
  have again : Obtains (counting [112, 119]) (some [105]) 1 { after with outputFull := false }
      container [112, 119] 2 { after with outputFull := false } :=
    ⟨_, readInput_path_eq_ok_iff.2 ⟨stands, rfl⟩, rfl⟩
  obtain ⟨_, _, decrypts⟩ := restorable _ _ readable
  have unlimited : Writable none [104, 101, 108, 108, 111] { after with outputFull := false } :=
    ⟨fun full => Bool.false_ne_true full.1, nofun⟩
  obtain ⟨printed, first, _, _, shown⟩ := decrypts again unlimited
  have creatable : Creatable [105]
      { after with temporaryNames := [[117]], fault? := fun _ => none } := by
    refine ⟨?_, fun _ => rfl⟩
    dsimp only
    rw [here]
    refine .now (t := after.tree.put [[117]] (.file [] true)) ?_
    dsimp only
    rw [tree]
    rfl
  have answered : counting [112, 119] 1
      { after with temporaryNames := [[117]], fault? := fun _ => none } =
      ((.ok [112, 119], 2), { after with temporaryNames := [[117]], fault? := fun _ => none }) :=
    rfl
  obtain ⟨final, l, _, second, place, _, restored⟩ :=
    inPlace [105] rfl rfl rfl rfl { after with temporaryNames := [[117]], fault? := fun _ => none }
      rfl rfl answered rfl rfl creatable
  cases place.unique admits_oneFile
  exact ⟨container, after, printed, final, ran, length, stands, first, shown, second, restored⟩

end Coffer.Files
