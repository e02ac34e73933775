import Coffer.Proofs.Inspection

/-!
# What a failed decryption says

A decryption that has its passphrase can be hindered by the header, by the passphrase or by the
payload. What it says at the top tells which of them it is, without a mistake in either direction:
the header is read before keys are derived, keys are derived from any header that can be read, and
nothing that is found later is taken for a fault of the header. Failures to write say something
else.
-/

set_option autoImplicit false
set_option relaxedAutoImplicit false

namespace Coffer.Files

open Session CommandLine Verdict

/-- What can hinder a decryption that has its passphrase. -/
inductive Hindrance
  | header | passphrase | payload
  deriving DecidableEq, Repr

/-- What is said about a hindrance. -/
def Hindrance.message : Hindrance → String
  | .header => "the header in the encrypted data is invalid"
  | .passphrase => "passphrase is incorrect"
  | .payload => "the encrypted data is corrupted"

/-- Whether a byte string and a passphrase have a hindrance, and the error that it is found by. -/
def Hindrance.Stands (data passphrase : Bytes) (e : Error) : Hindrance → Prop
  | .header => Header.parse data = .error e
  | .passphrase => e = .ofKind .wrongHeaderMac ∧
      ∃ h keys, Keyed data passphrase h keys ∧ ¬ Confirmed data keys
  | .payload => e = .ofKind .wrongTag ∧
      ∃ h keys, Keyed data passphrase h keys ∧ Confirmed data keys ∧ ¬ Genuine data h.nonce keys

/-- The result is a failure with the message at its top. -/
def Says {α : Type} (result : Except FileFailure α) (message : String) : Prop :=
  ∃ failure, result = .error failure ∧ failure.error.message = message

/-- The result is a failure of the kind. -/
def FailsWith {α : Type} (result : Except FileFailure α) (kind : Kind) : Prop :=
  ∃ failure, result = .error failure ∧ failure.error.kind = kind

/-- What a decryption makes of a container: the plaintext, and the costs of the container. -/
def opened (data passphrase : Bytes) : Except Error (Bytes × Costs) := do
  let d ← Decryptor.prepare data passphrase
  let plaintext ← d.toBytes
  return (plaintext, d.costs)

variable {R : Type} {read : R → Run (Except Error Bytes × R)} {log : Event → Run Unit}
  {input output : Option Path} {reader reader' : R} {data passphrase : Bytes}
  {s last : Session} {o o' : Hindrance} {e : Error}

/-! ### Hindrances -/

theorem Hindrance.message_injective (same : o.message = o'.message) : o = o' := by
  revert same
  cases o <;> cases o' <;> decide

/-- No kind that is about the header itself is one of the two that come later. -/
theorem decryptionContext_of_isStructural {kind : Kind} (structural : kind.isStructural = true) :
    decryptionContext kind = Hindrance.header.message := by
  revert structural
  cases kind <;> decide

/-- The kind of an error alone decides what is said, and it is what is said about the hindrance. -/
theorem Hindrance.Stands.message (stands : o.Stands data passphrase e) :
    decryptionContext e.kind = o.message := by
  cases o with
  | header => exact decryptionContext_of_isStructural (Header.isStructural_of_parse_error stands)
  | passphrase =>
    obtain ⟨rfl, _⟩ := stands
    rfl
  | payload =>
    obtain ⟨rfl, _⟩ := stands
    rfl

theorem opened_of_stands (stands : o.Stands data passphrase e) :
    opened data passphrase = .error e := by
  unfold opened
  cases o with
  | header => rw [Decryptor.prepare_of_parse_error stands, error_bind]
  | passphrase =>
    obtain ⟨rfl, h, keys, keyed, foreign⟩ := stands
    rw [prepare_of_not_confirmed keyed foreign, error_bind]
  | payload =>
    obtain ⟨rfl, h, keys, keyed, confirmed, damaged⟩ := stands
    have unauthentic : ¬ Decryptor.Authentic ⟨Container.after h data keyed.le_length, keys⟩ :=
      fun authentic => damaged ((genuine_iff keyed.le_length).2 authentic)
    rw [prepare_of_confirmed keyed confirmed, ok_bind,
      Decryptor.toBytes_of_not_authentic unauthentic, error_bind]

/-- A passphrase within the limit gives keys for every header, so nothing else can hinder. -/
theorem exists_stands_of_opened (short : passphrase.length < 1 <<< 32)
    (refused : opened data passphrase = .error e) : ∃ o, Hindrance.Stands data passphrase e o := by
  cases parsed : Header.parse data with
  | error reason =>
    have stands : Hindrance.header.Stands data passphrase reason := parsed
    cases (opened_of_stands stands).symm.trans refused
    exact ⟨.header, parsed⟩
  | ok h =>
    obtain ⟨keys, derived⟩ := Keys.exists_derive h.scheme h.salt (Nat.le_of_lt_succ short)
    have keyed : Keyed data passphrase h keys := ⟨parsed, derived⟩
    by_cases confirmed : Confirmed data keys
    · by_cases genuine : Genuine data h.nonce keys
      · have authentic := (genuine_iff keyed.le_length).1 genuine
        rw [opened, prepare_of_confirmed keyed confirmed, ok_bind,
          Decryptor.toBytes_of_authentic authentic, ok_bind] at refused
        cases refused
      · have stands : Hindrance.payload.Stands data passphrase (.ofKind .wrongTag) :=
          ⟨rfl, h, keys, keyed, confirmed, genuine⟩
        cases (opened_of_stands stands).symm.trans refused
        exact ⟨.payload, stands⟩
    · have stands : Hindrance.passphrase.Stands data passphrase (.ofKind .wrongHeaderMac) :=
        ⟨rfl, h, keys, keyed, confirmed⟩
      cases (opened_of_stands stands).symm.trans refused
      exact ⟨.passphrase, stands⟩

theorem parse_of_opened {plaintext : Bytes} {costs : Costs}
    (success : opened data passphrase = .ok (plaintext, costs)) :
    ∃ h, Header.parse data = .ok h ∧ h.scheme.costs = costs := by
  obtain ⟨d, prepared, success⟩ := bind_eq_ok_iff.1 success
  obtain ⟨_, _, success⟩ := bind_eq_ok_iff.1 success
  cases success
  exact ⟨_, Decryptor.parse_of_prepare prepared, rfl⟩

/-! ### Reports -/

/-- The observer has no influence on what is made. -/
theorem fst_run_openContainer (log : Event → Run Unit) (data passphrase : Bytes) (s : Session) :
    ((openContainer log data passphrase : Operation Run (Bytes × Costs)).run s).1 =
      (opened data passphrase).mapError fun e => { error := decryptionFailure e } := by
  unfold openContainer opened
  cases cut : Container.ofBytes data with
  | error e =>
    rw [Decryptor.prepare_of_parse_error (Container.ofBytes_eq_error_iff.1 cut)]
    rfl
  | ok container =>
    dsimp only
    rw [run_bind_lift]
    cases Decryptor.prepare data passphrase with
    | error e => rfl
    | ok d =>
      rw [ok_bind]
      dsimp only
      cases d.toBytes with
      | error e => rfl
      | ok plaintext => rfl

theorem exists_message_of_writeOutput {content : Bytes} {failure : FileFailure} {after : Session}
    (refused : (writeOutput log output content : Operation Run Unit).run s =
      (.error failure, after)) :
    ∃ place, failure.error.message = "failed to write to " ++ place := by
  cases output with
  | none =>
    unfold writeOutput at refused
    dsimp only at refused
    rw [run_bind_lift] at refused
    by_cases full : s.outputFull ∧ content ≠ []
    · rw [writeOutput_of_full full] at refused
      cases refused
      exact ⟨"stdout", rfl⟩
    · rw [writeOutput_of_room full] at refused
      cases refused
  | some path =>
    unfold writeOutput at refused
    dsimp only at refused
    have step : (ExceptT.adapt (writeFailure path) (replaceFile path content) :
        Operation Run Unit).run s =
          (((replaceFile path content : Operation Run Unit).run s).1.mapError (writeFailure path),
            ((replaceFile path content : Operation Run Unit).run s).2) := rfl
    rcases replaced : (replaceFile path content : Operation Run Unit).run s with ⟨outcome, mid⟩
    rw [replaced] at step
    cases outcome with
    | error inner =>
      cases (run_bind_of_error step).symm.trans refused
      exact ⟨path.display, rfl⟩
    | ok _ =>
      rw [run_bind_of_ok step] at refused
      cases refused

/-- What is said about a hindrance is not said about a failure to write. -/
theorem Hindrance.message_ne (o : Hindrance) (place : String) :
    "failed to write to " ++ place ≠ o.message := by
  intro same
  have first : o.message.toList.head? = some 'f' := by
    rw [← same, String.toList_append]
    rfl
  revert first
  cases o <;> decide

/-- A decryption that has its passphrase and meets a hindrance is refused before anything is
written. -/
theorem transform_of_stands (log : Event → Run Unit) (output : Option Path)
    (obtained : Obtains read input reader s data passphrase reader' last)
    (stands : o.Stands data passphrase e) :
    ∃ after, transform read log input output (openContainer log) reader s =
        ((.error { error := decryptionFailure e }, reader'), after) ∧
      ((∀ e, Quiet (log e)) → Untouched last after) := by
  obtain ⟨mid, readIn, asked⟩ := obtained
  have composed : compose read input (openContainer log) reader s = _ :=
    compose_of_asked readIn asked
  rw [fst_run_openContainer, opened_of_stands stands] at composed
  refine ⟨_, transform_of_refusal composed, ?_⟩
  intro quietLog
  exact ((makes_openContainer quietLog).harmless data passphrase).quiet last

/-- A decryption that meets no hindrance writes, and its answer is the costs in the header. -/
theorem transform_of_opened (log : Event → Run Unit) (output : Option Path) {plaintext : Bytes}
    {costs : Costs} (obtained : Obtains read input reader s data passphrase reader' last)
    (success : opened data passphrase = .ok (plaintext, costs)) :
    ∃ (wrote : Except FileFailure Unit) (after : Session),
      transform read log input output (openContainer log) reader s =
        ((wrote.map fun _ => costs, reader'), after) ∧
      ∀ failure, wrote = .error failure →
        ∃ place, failure.error.message = "failed to write to " ++ place := by
  obtain ⟨mid, readIn, asked⟩ := obtained
  have composed : compose read input (openContainer log) reader s = _ :=
    compose_of_asked readIn asked
  rw [fst_run_openContainer, success] at composed
  refine ⟨_, _, transform_of_composed composed, ?_⟩
  intro failure refused
  exact exists_message_of_writeOutput (Prod.ext refused rfl)

theorem says_iff_of_stands (stands : o'.Stands data passphrase e) :
    Says (.error { error := decryptionFailure e } : Except FileFailure Costs) o.message ↔
      ∃ e, o.Stands data passphrase e := by
  constructor
  · rintro ⟨_, ⟨⟩, said⟩
    have same : o'.message = o.message := stands.message.symm.trans said
    cases Hindrance.message_injective same
    exact ⟨e, stands⟩
  · rintro ⟨e', stands'⟩
    cases (opened_of_stands stands).symm.trans (opened_of_stands stands')
    exact ⟨_, rfl, stands'.message⟩

theorem failsWith_inspected_iff {α : Type} {found : Except Error α} {kind : Kind} :
    FailsWith (inspected found) kind ↔ ∃ e, found = .error e ∧ e.kind = kind := by
  cases found with
  | error e =>
    constructor
    · rintro ⟨_, ⟨⟩, same⟩
      exact ⟨e, rfl, same⟩
    · rintro ⟨_, ⟨⟩, same⟩
      exact ⟨_, rfl, same⟩
  | ok a =>
    constructor
    · rintro ⟨_, ⟨⟩, _⟩
    · rintro ⟨_, ⟨⟩, _⟩

section Inspections

variable {mid : Session} {kind : Kind}

theorem failsWith_readCosts_iff
    (readIn : (readInput input : Operation Run Bytes).run s = (.ok data, mid)) :
    FailsWith ((readCosts input : Operation Run Costs).run s).1 kind ↔
      ∃ e, Header.parse data = .error e ∧ e.kind = kind := by
  rw [readCosts_of_readInput readIn, failsWith_inspected_iff]
  simp only [Costs.ofContainer, map_eq_error_iff]

theorem failsWith_readScheme_iff
    (readIn : (readInput input : Operation Run Bytes).run s = (.ok data, mid)) :
    FailsWith ((readScheme input : Operation Run Scheme).run s).1 kind ↔
      ∃ e, Header.parse data = .error e ∧ e.kind = kind := by
  rw [readScheme_of_readInput readIn, failsWith_inspected_iff]
  simp only [map_eq_error_iff]

end Inspections

/-- A decryption that obtains a passphrase within the limit says that the header is invalid, that
the passphrase is incorrect or that the data is corrupted exactly if the header cannot be read, if
it can be read but its code is not that of the passphrase, or if the code is but the payload is not
genuine. It puts this down to the error that was found, keeps its kind and its category, and has
changed no file, provided that the observer does not. Inspections of the same data, wherever it is
read from, fail exactly in the first case, with the same kind, and name the costs that a successful
decryption answers with. -/
theorem decryption_says_what_hinders (log : Event → Run Unit) (output : Option Path)
    (obtained : Obtains read input reader s data passphrase reader' last)
    (short : passphrase.length < 1 <<< 32) :
    ∃ result after,
      transform read log input output (openContainer log) reader s = ((result, reader'), after) ∧
      (∀ o : Hindrance, Says result o.message ↔ ∃ e, o.Stands data passphrase e) ∧
      (∀ (o : Hindrance) (e : Error), o.Stands data passphrase e →
        ∃ failure, result = .error failure ∧ failure.error.source = some (.error e) ∧
          failure.error.kind = e.kind ∧ failure.error.category = e.category ∧
          ((∀ e, Quiet (log e)) → Untouched last after)) ∧
      ∀ (place : Option Path) (t mid : Session),
        (readInput place : Operation Run Bytes).run t = (.ok data, mid) →
          (∀ kind, FailsWith ((readCosts place : Operation Run Costs).run t).1 kind ↔
            ∃ e, Hindrance.header.Stands data passphrase e ∧ e.kind = kind) ∧
          (∀ kind, FailsWith ((readScheme place : Operation Run Scheme).run t).1 kind ↔
            ∃ e, Hindrance.header.Stands data passphrase e ∧ e.kind = kind) ∧
          ∀ costs, result = .ok costs →
            ((readCosts place : Operation Run Costs).run t).1 = .ok costs := by
  cases made : opened data passphrase with
  | error e =>
    obtain ⟨o, stands⟩ := exists_stands_of_opened short made
    obtain ⟨after, ran, untouched⟩ := transform_of_stands log output obtained stands
    refine ⟨_, after, ran, fun o' => says_iff_of_stands stands, ?_, ?_⟩
    · intro o' e' stands'
      cases made.symm.trans (opened_of_stands stands')
      exact ⟨_, rfl, rfl, rfl, rfl, untouched⟩
    · intro place t mid readIn
      refine ⟨fun kind => failsWith_readCosts_iff readIn,
        fun kind => failsWith_readScheme_iff readIn, ?_⟩
      intro answer success
      cases success
  | ok both =>
    obtain ⟨plaintext, costs⟩ := both
    obtain ⟨wrote, after, ran, unwritten⟩ := transform_of_opened log output obtained made
    have free (o : Hindrance) (e : Error) : ¬ o.Stands data passphrase e := by
      intro stands
      cases made.symm.trans (opened_of_stands stands)
    refine ⟨_, after, ran, ?_, fun o e stands => absurd stands (free o e), ?_⟩
    · intro o
      constructor
      · rintro ⟨failure, failed, said⟩
        obtain ⟨place, begins⟩ := unwritten failure (map_eq_error_iff.1 failed)
        exact absurd (begins.symm.trans said) (o.message_ne place)
      · rintro ⟨e, stands⟩
        exact absurd stands (free o e)
    · intro place t mid readIn
      refine ⟨fun kind => failsWith_readCosts_iff readIn,
        fun kind => failsWith_readScheme_iff readIn, ?_⟩
      intro answer success
      obtain ⟨_, _, same⟩ := map_eq_ok_iff.1 success
      obtain ⟨h, parsed, rfl⟩ := parse_of_opened made
      rw [(shows_of_parse parsed).costsInFile readIn, same]

section Containers

/-- What comes of decrypting a file, which is to be printed. -/
def printed (data : Bytes) : Except FileFailure Costs :=
  (transform (counting [112, 119]) (fun _ => pure ()) (some [105]) none
    (openContainer fun _ => pure ()) 0
    { oneFile with tree := { entries := [([[105]], .file data false)] } }).1.1

/-- An empty file, and two containers without a payload, one of which was made with another
passphrase, while the other one has a foreign tag. -/
theorem decryption_says_what_hinders_no_payload :
    ([112, 119] : Bytes).length < 1 <<< 32 ∧
      Says (printed []) "the header in the encrypted data is invalid" ∧
      ∃ foreign damaged : Bytes, Says (printed foreign) "passphrase is incorrect" ∧
        Says (printed damaged) "the encrypted data is corrupted" := by
  have short : ([112, 119] : Bytes).length < 1 <<< 32 := by decide
  have told {data : Bytes} {o : Hindrance} {e : Error} (stands : o.Stands data [112, 119] e) :
      Says (printed data) o.message := by
    have obtained : Obtains (counting [112, 119]) (some [105]) 0
        { oneFile with tree := { entries := [([[105]], .file data false)] } } data [112, 119] 1
        { oneFile with tree := { entries := [([[105]], .file data false)] } } := ⟨_, rfl, rfl⟩
    obtain ⟨result, after, ran, exact, _⟩ :=
      decryption_says_what_hinders (fun _ => pure ()) none obtained short
    rw [printed, ran]
    exact (exact o).2 ⟨e, stands⟩
  obtain ⟨code, key, damage, tag, ⟨g, others, foreign⟩, ⟨h, keys, keyed, confirmed, damaged⟩, _⟩ :=
    Verdict.exists_holds_each (.unsigned default default default) [] short (by decide)
  have wrong := told (o := .passphrase) ⟨rfl, g, others, foreign⟩
  have corrupt := told (o := .payload)
    ⟨rfl, h, keys, keyed, confirmed, fun own => damaged own.2⟩
  have unread : Header.parse [] = .error (.ofKind .tooShort) := Header.parse_of_short (by decide)
  exact ⟨short, told (o := .header) unread, _, _, wrong, corrupt⟩

end Containers

end Coffer.Files
