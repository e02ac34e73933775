import Coffer.Proofs.CommandLine

/-!
# Reports

What has been reported is never taken back: every step of an operation leaves all that was reported
before, and may add to it. What is added ends a line, but for the prompts of a dialogue at the
terminal, behind which a passphrase is typed.
-/

set_option autoImplicit false
set_option relaxedAutoImplicit false

namespace Coffer

/-- The text is empty, or ends with one of the endings. -/
def EndsIn (endings : List String) (text : String) : Prop :=
  text = "" ∨ ∃ front ending, ending ∈ endings ∧ text = front ++ ending

section Endings

variable {endings more : List String} {text last : String}

theorem endsIn_empty : EndsIn endings "" := .inl rfl

theorem endsIn_append (front : String) (member : last ∈ endings) :
    EndsIn endings (front ++ last) :=
  .inr ⟨front, last, member, rfl⟩

theorem EndsIn.append (first : EndsIn endings text) (second : EndsIn endings last) :
    EndsIn endings (text ++ last) := by
  obtain rfl | ⟨front, ending, member, rfl⟩ := second
  · rwa [String.append_empty]
  · exact .inr ⟨text ++ front, ending, member, (String.append_assoc ..).symm⟩

theorem EndsIn.mono (ends : EndsIn endings text) (weaker : endings ⊆ more) : EndsIn more text := by
  obtain rfl | ⟨front, ending, member, rfl⟩ := ends
  · exact endsIn_empty
  · exact endsIn_append front (weaker member)

end Endings

/-- What ends a line. -/
def lineEnds : List String := ["\n"]

/-- What is shown at the terminal before a line is typed. -/
def promptEnds : List String := [Dialogue.asking.prompt, (Dialogue.confirming []).prompt]

/-- How that may end what is reported while a passphrase is taken from the source. -/
def PassphraseSource.endings : PassphraseSource → List String
  | terminal _ => lineEnds ++ promptEnds
  | _ => lineEnds

theorem PassphraseSource.lineEnds_subset (source : PassphraseSource) :
    lineEnds ⊆ source.endings := by
  cases source with
  | terminal confirm => exact List.subset_append_left ..
  | _ => exact List.Subset.refl _

/-! ### Dialogues -/

namespace Terminal.Reader

theorem prompt_mem {d : Dialogue} (unsettled : d.passphrase? = none) :
    d.prompt ∈ promptEnds := by
  cases d with
  | asking => exact List.mem_cons_self
  | confirming entry => exact List.mem_cons_of_mem _ List.mem_cons_self
  | settled passphrase => cases unsettled

/-- Nothing is said about an entry that settles the passphrase. -/
theorem notice_of_settled {d : Dialogue} {confirm : Bool} {entry passphrase : Bytes}
    (settled : (d.enter confirm entry).1.passphrase? = some passphrase) :
    (d.enter confirm entry).2 = "" := by
  cases d with
  | asking => rfl
  | settled given => rfl
  | confirming first =>
    by_cases same : entry = first
    · rw [Dialogue.enter, if_pos same]
    · rw [Dialogue.enter, if_neg same] at settled
      cases settled

/-- The last that a dialogue shows is a prompt. -/
theorem endsIn_converse (r : Reader) (confirm : Bool) (lines : List Bytes) (shown : String)
    (d : Dialogue)
    (settled : ∀ passphrase, d.passphrase? = some passphrase → EndsIn promptEnds shown) :
    EndsIn promptEnds (r.converse confirm shown d lines).shown := by
  induction lines generalizing shown d with
  | nil =>
    cases waits : d.passphrase? with
    | some passphrase =>
      rw [Dialogue.eq_settled_of_passphrase? waits, converse_settled]
      exact settled passphrase waits
    | none =>
      rw [converse_nil waits]
      exact endsIn_append shown (prompt_mem waits)
  | cons line lines ih =>
    cases waits : d.passphrase? with
    | some passphrase =>
      rw [Dialogue.eq_settled_of_passphrase? waits, converse_settled]
      exact settled passphrase waits
    | none =>
      cases read : r.entry line with
      | error text =>
        rw [converse_of_refused waits read]
        exact endsIn_append shown (prompt_mem waits)
      | ok entry =>
        rw [converse_of_entry waits read]
        refine ih _ _ fun passphrase next => ?_
        rw [notice_of_settled next, String.append_empty]
        exact endsIn_append shown (prompt_mem waits)

end Terminal.Reader

/-! ### Steps -/

namespace Session

variable {α β : Type} {endings more : List String}

/-- After the computation, what was reported before it is still there, in front, and what follows
is nothing or ends with one of the endings. -/
def Appending (endings : List String) (x : Run α) : Prop :=
  ∀ s, ∃ added, (x s).2.reports = s.reports ++ added ∧ EndsIn endings added

/-- A computation that reports nothing. -/
theorem appending_of_reports_eq {x : Run α} (same : ∀ s, (x s).2.reports = s.reports) :
    Appending endings x :=
  fun s => ⟨"", by rw [same, String.append_empty], endsIn_empty⟩

theorem appending_pure (a : α) : Appending endings (pure a : Run α) :=
  appending_of_reports_eq fun _ => rfl

theorem Appending.mono {x : Run α} (appending : Appending endings x) (weaker : endings ⊆ more) :
    Appending more x := by
  intro s
  obtain ⟨added, reports, ends⟩ := appending s
  exact ⟨added, reports, ends.mono weaker⟩

theorem Appending.bind {x : Run α} {f : α → Run β} (first : Appending endings x)
    (second : ∀ a, Appending endings (f a)) : Appending endings (x >>= f) := by
  intro s
  obtain ⟨added, start, ends⟩ := first s
  obtain ⟨later, rest, ends'⟩ := second (x s).1 (x s).2
  exact ⟨added ++ later, by rw [bind_eq, rest, start, String.append_assoc], ends.append ends'⟩

/-- A report of a whole line. -/
theorem appending_report (text : String) :
    Appending lineEnds (Surroundings.report (text ++ "\n") : Run Unit) :=
  fun _ => ⟨_, rfl, endsIn_append text List.mem_cons_self⟩

theorem appending_change (f : FileTree → Location → Except SystemError FileTree) :
    Appending endings (change f) := by
  refine appending_of_reports_eq fun s => ?_
  cases changed : f s.tree s.here with
  | ok t => rw [change_of_ok changed]
  | error e => rw [change_of_error changed]

theorem appending_fillFile (step : FileStep) (p : Path) (content : Bytes) :
    Appending endings (Surroundings.fillFile step p content : Run (Except SystemError Unit)) := by
  intro s
  show ∃ added, (Session.fillFile step p content s).2.reports = s.reports ++ added ∧ _
  unfold fillFile
  cases s.fault? step with
  | none => exact appending_change _ s
  | some fault =>
    dsimp only
    split
    · exact appending_change _ s
    · exact ⟨"", String.append_empty.symm, endsIn_empty⟩

theorem appending_ask (confirm : Bool) :
    Appending (lineEnds ++ promptEnds) (Surroundings.ask confirm : Run (Except String Bytes)) := by
  intro s
  have shown : ∃ added, (converse confirm s).2.reports = s.reports ++ added ∧
      EndsIn promptEnds added := by
    unfold converse
    cases s.typed with
    | none => exact ⟨_, rfl, .inr ⟨"", _, List.mem_cons_self, String.empty_append.symm⟩⟩
    | some lines => exact ⟨_, rfl, s.reader.endsIn_converse confirm lines "" .asking nofun⟩
  obtain ⟨added, reports, ends⟩ := shown
  exact ⟨added, reports, ends.mono (List.subset_append_right ..)⟩

theorem appending_writeOutput (content : Bytes) :
    Appending endings (Surroundings.writeOutput content : Run (Except SystemError Unit)) := by
  refine appending_of_reports_eq fun s => ?_
  by_cases full : s.outputFull ∧ content ≠ []
  · rw [writeOutput_of_full full]
  · rw [writeOutput_of_room full]

end Session

open Session

theorem PassphraseSource.appending_read (source : PassphraseSource) :
    Appending source.endings (source.read : Run (Except Error Bytes × PassphraseSource)) := by
  cases source with
  | given passphrase => exact appending_pure _
  | stream s => exact appending_pure _
  | input => exact appending_of_reports_eq fun _ => rfl
  | environment name =>
    refine Appending.bind (appending_of_reports_eq fun _ => rfl) fun value? => ?_
    cases value? with
    | some value => exact appending_pure _
    | none => exact appending_pure _
  | file path => exact appending_of_reports_eq fun _ => rfl
  | terminal confirm => exact (appending_ask confirm).bind fun _ => appending_pure _

/-! ### Operations on files -/

namespace Files

variable {R α β : Type} {endings : List String} {log : Event → Run Unit}

/-- An operation whose failures add to the reports at most, too. -/
abbrev Adds (endings : List String) (x : Operation Run α) : Prop := Appending endings x.run

theorem adds_pure (a : α) : Adds endings (pure a : Operation Run α) := appending_pure _

theorem adds_throw (failure : FileFailure) : Adds endings (throw failure : Operation Run α) :=
  appending_pure _

theorem adds_refuse (e : Error) : Adds endings (refuse e : Operation Run α) := adds_throw _

theorem Adds.bind {x : Operation Run α} {f : α → Operation Run β} (first : Adds endings x)
    (second : ∀ a, Adds endings (f a)) : Adds endings (x >>= f) := by
  intro s
  have start := first s
  rcases ran : x.run s with ⟨result, mid⟩
  rw [ran] at start
  cases result with
  | error failure =>
    rw [run_bind_of_error ran]
    exact start
  | ok a =>
    obtain ⟨added, start, ends⟩ := start
    obtain ⟨later, rest, ends'⟩ := second a mid
    rw [run_bind_of_ok ran]
    exact ⟨added ++ later, by rw [rest, start, String.append_assoc], ends.append ends'⟩

/-- A step that cannot fail comes first. -/
theorem adds_lift_bind {x : Run α} {f : α → Operation Run β} (first : Appending endings x)
    (second : ∀ a, Adds endings (f a)) : Adds endings ((liftM x : Operation Run α) >>= f) :=
  Appending.bind first second

theorem Adds.in_context {x : Operation Run α} (adds : Adds endings x)
    (f : FileFailure → FileFailure) : Adds endings (ExceptT.adapt f x) :=
  adds

theorem adds_readInput (input : Option Path) :
    Adds endings (readInput input : Operation Run Bytes) := by
  refine appending_of_reports_eq fun s => ?_
  rw [readInput_eq]
  cases input with
  | some path => rfl
  | none => rfl

theorem adds_inspectInput (part : Bytes → Except Error α) (input : Option Path) :
    Adds endings (inspectInput part input : Operation Run α) := by
  refine (adds_readInput input).bind fun data => ?_
  cases part data with
  | ok a => exact adds_pure a
  | error e => exact adds_refuse _

theorem adds_createTemporary (directory absolute : Path) (names : List Bytes) :
    Adds endings (createTemporary directory absolute names : Operation Run Path) := by
  induction names with
  | nil => exact adds_refuse _
  | cons name names ih =>
    rw [createTemporary]
    refine adds_lift_bind (appending_change _) fun created => ?_
    cases created with
    | ok made => exact adds_pure _
    | error e =>
      cases e with
      | alreadyExists => exact ih
      | _ => exact adds_refuse _

theorem adds_fill (temporary : Path) (content : Bytes) (steps : List FileStep) :
    Adds endings (fill temporary content steps : Operation Run Unit) := by
  induction steps with
  | nil => exact adds_pure _
  | cons step steps ih =>
    unfold fill
    refine adds_lift_bind (appending_fillFile step temporary content) fun filled => ?_
    cases filled with
    | ok done => exact ih
    | error e =>
      exact adds_lift_bind (appending_of_reports_eq fun _ => rfl) fun _ => adds_refuse _

theorem adds_persist (path temporary : Path) :
    Adds endings (persist path temporary : Operation Run Unit) := by
  unfold persist
  refine adds_lift_bind (appending_change _) fun moved => ?_
  cases moved with
  | ok done => exact adds_pure _
  | error e => exact adds_throw _

theorem adds_replaceFile (path : Path) (content : Bytes) :
    Adds endings (replaceFile path content : Operation Run Unit) := by
  unfold replaceFile
  refine adds_lift_bind (appending_of_reports_eq fun _ => rfl) fun directory => ?_
  refine adds_lift_bind (appending_of_reports_eq fun _ => rfl) fun names => ?_
  refine (adds_createTemporary _ _ names).bind fun temporary => ?_
  exact (adds_fill temporary content _).bind fun _ => adds_persist path temporary

section Logged

variable (observed : ∀ e, Appending lineEnds (log e))
include observed

theorem adds_writeOutput (output : Option Path) (content : Bytes) :
    Adds lineEnds (writeOutput log output content : Operation Run Unit) := by
  cases output with
  | some path =>
    exact ((adds_replaceFile path content).in_context _).bind fun _ => observed _
  | none =>
    refine adds_lift_bind (appending_writeOutput content) fun written => ?_
    cases written with
    | ok done => exact adds_pure _
    | error e => exact adds_refuse _

theorem adds_makeContainer (scheme : Scheme) (plaintext passphrase : Bytes) :
    Adds lineEnds
      (makeContainer log scheme plaintext passphrase : Operation Run (Bytes × Unit)) := by
  unfold makeContainer
  refine adds_lift_bind (appending_of_reports_eq fun _ => rfl) fun draw => ?_
  refine adds_lift_bind (observed _) fun _ => ?_
  cases encryptWith scheme draw plaintext passphrase with
  | ok container => exact adds_lift_bind (observed _) fun _ => adds_pure _
  | error e => exact adds_refuse _

theorem adds_openContainer (data passphrase : Bytes) :
    Adds lineEnds (openContainer log data passphrase : Operation Run (Bytes × Costs)) := by
  unfold openContainer
  cases Container.ofBytes data with
  | error e => exact adds_refuse _
  | ok container =>
    refine adds_lift_bind (observed _) fun _ => ?_
    cases Decryptor.prepare data passphrase with
    | error e => exact adds_refuse _
    | ok decryptor =>
      dsimp only
      cases decryptor.toBytes with
      | error e => exact adds_refuse _
      | ok plaintext => exact adds_lift_bind (observed _) fun _ => adds_pure _

end Logged

/-- Behind what the reader of passphrases shows, all that is reported is whole lines. -/
theorem appending_transform {read : R → Run (Except Error Bytes × R)} {reader : R}
    {make : Bytes → Bytes → Operation Run (Bytes × α)} (asks : Appending endings (read reader))
    (makes : ∀ data passphrase, Adds lineEnds (make data passphrase))
    (observed : ∀ e, Appending lineEnds (log e)) (within : lineEnds ⊆ endings)
    (input output : Option Path) :
    Appending endings (transform read log input output make reader) := by
  have composed : Appending endings (compose read input make reader) := by
    unfold compose
    refine Appending.bind (adds_readInput input) fun data => ?_
    cases data with
    | error failure => exact appending_pure _
    | ok data =>
      refine asks.bind fun answer => ?_
      obtain ⟨passphrase, reader⟩ := answer
      cases passphrase with
      | error e => exact appending_pure _
      | ok passphrase =>
        exact Appending.bind ((makes data passphrase).mono within) fun _ => appending_pure _
  unfold transform
  refine composed.bind fun made => ?_
  obtain ⟨made, reader⟩ := made
  cases made with
  | error failure => exact appending_pure _
  | ok both =>
    refine Appending.bind ((adds_writeOutput observed output both.1).mono within) fun written => ?_
    cases written with
    | error failure => exact appending_pure _
    | ok done => exact appending_pure _

section Sources

variable (observed : ∀ e, Appending lineEnds (log e)) (input output : Option Path)
  (source : PassphraseSource)
include observed

/-- An encryption takes back nothing that was reported. -/
theorem adds_encrypt (scheme : Scheme) :
    Adds source.endings (encrypt log input output scheme source : Operation Run Unit) :=
  (appending_transform source.appending_read (adds_makeContainer observed scheme) observed
    source.lineEnds_subset input output).bind fun _ => appending_pure _

theorem adds_decrypt :
    Adds source.endings (decrypt log input output source : Operation Run Costs) :=
  (appending_transform source.appending_read (adds_openContainer observed) observed
    source.lineEnds_subset input output).bind fun _ => appending_pure _

end Sources

end Files

/-! ### Commands -/

namespace CommandLine

open Files

variable {s mid : Session} {c : Command} {filter : LogFilter}

theorem appending_observe (filter : LogFilter) (event : Event) :
    Appending lineEnds (observe filter event : Run Unit) := by
  unfold observe
  split
  · exact appending_report _
  · exact appending_pure ()

theorem appending_showCosts (verbose : Bool) (costs : Costs) :
    Appending lineEnds (showCosts verbose costs : Run Unit) := by
  cases verbose with
  | true => exact appending_report _
  | false => exact appending_pure ()

/-- What stands before the report of a failure: whole lines, and the prompts of a dialogue if the
command takes its passphrase at the terminal. -/
def Precedes (c : Command) (text : String) : Prop :=
  EndsIn lineEnds text ∨
    ∃ confirm, c.TakesFrom (.terminal confirm) ∧ EndsIn (lineEnds ++ promptEnds) text

theorem precedes_of_source {source : PassphraseSource} (takes : c.TakesFrom source) {text : String}
    (ends : EndsIn source.endings text) : Precedes c text := by
  cases source with
  | terminal confirm => exact .inr ⟨confirm, takes, ends⟩
  | _ => exact .inl ends

theorem exists_precedes_encrypt (filter : LogFilter) (e : Encryption) (s : Session) :
    ∃ added, ((encrypt filter e : Operation Run Unit).run s).2.reports = s.reports ++ added ∧
      Precedes (.encrypt e) added := by
  have refused (error : Error) : ∃ added,
      ((refuse error : Operation Run Unit).run s).2.reports = s.reports ++ added ∧
        Precedes (.encrypt e) added :=
    ⟨"", String.append_empty.symm, .inl endsIn_empty⟩
  unfold encrypt
  cases Costs.ofTriple e.memory e.time e.lanes with
  | error error => exact refused error
  | ok costs =>
    dsimp only
    cases chosen : e.sources.choose e.input true with
    | error error => exact refused error
    | ok source =>
      have shown := (appending_showCosts e.verbose costs).mono source.lineEnds_subset
      obtain ⟨added, reports, ends⟩ := adds_lift_bind shown (fun _ =>
        adds_encrypt (appending_observe filter) e.input e.output source _) s
      exact ⟨added, reports, precedes_of_source (c := .encrypt e) chosen ends⟩

theorem exists_precedes_decrypt (filter : LogFilter) (d : Decryption) (s : Session) :
    ∃ added, ((decrypt filter d : Operation Run Unit).run s).2.reports = s.reports ++ added ∧
      Precedes (.decrypt d) added := by
  cases chosen : d.sources.choose d.input false with
  | error error =>
    refine ⟨"", ?_, .inl endsIn_empty⟩
    rw [decrypt, chosen]
    exact String.append_empty.symm
  | ok source =>
    have adds : Adds source.endings (decrypt filter d : Operation Run Unit) := by
      rw [decrypt, chosen]
      exact (adds_decrypt (appending_observe filter) d.input d.output source).bind fun costs =>
        (appending_showCosts d.verbose costs).mono source.lineEnds_subset
    obtain ⟨added, reports, ends⟩ := adds s
    exact ⟨added, reports, precedes_of_source (c := .decrypt d) chosen ends⟩

/-- A command that fails has reported what may precede its failure. -/
theorem exists_precedes_of_failure {failure : FileFailure}
    (other : ∀ shell, c ≠ .completion shell)
    (executed : (execute filter c : Operation Run Ending).run s = (.error failure, mid)) :
    ∃ added, mid.reports = s.reports ++ added ∧ Precedes c added := by
  cases c with
  | completion shell => exact absurd rfl (other shell)
  | encrypt e =>
    have failed : (encrypt filter e : Operation Run Unit).run s = (.error failure, mid) :=
      error_of_bind (fun _ after => ⟨_, after, rfl⟩) executed
    have precedes := exists_precedes_encrypt filter e s
    rwa [failed] at precedes
  | decrypt d =>
    have failed : (decrypt filter d : Operation Run Unit).run s = (.error failure, mid) :=
      error_of_bind (fun _ after => ⟨_, after, rfl⟩) executed
    have precedes := exists_precedes_decrypt filter d s
    rwa [failed] at precedes
  | information input json =>
    have failed : (readCosts input : Operation Run Costs).run s = (.error failure, mid) :=
      error_of_bind (fun _ _ => ⟨_, _, rfl⟩) executed
    obtain ⟨added, reports, ends⟩ := adds_inspectInput Costs.ofContainer input s
    exact ⟨added, (congrArg (·.2.reports) failed).symm.trans reports, .inl ends⟩
  | argon2 input =>
    have failed : (readScheme input : Operation Run Scheme).run s = (.error failure, mid) :=
      error_of_bind (fun _ _ => ⟨_, _, rfl⟩) executed
    obtain ⟨added, reports, ends⟩ := adds_inspectInput Scheme.ofContainer input s
    exact ⟨added, (congrArg (·.2.reports) failed).symm.trans reports, .inl ends⟩

end CommandLine

end Coffer
