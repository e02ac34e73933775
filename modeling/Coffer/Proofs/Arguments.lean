import Coffer.CommandLine.Command
import Coffer.Proofs.Refusal

/-!
# What the arguments say

Which options are taken up from a part of the command line can be told from the arguments alone, and
so can where that part ends. Every step of reading agrees with that, and a step that is refused says
what is wrong with its own argument.
-/

set_option autoImplicit false
set_option relaxedAutoImplicit false

namespace Coffer.CommandLine

/-! ### Flags -/

namespace Flag

theorem long?_injective {f g : Flag} (same : f.long? = g.long?) : f = g := by
  cases f <;> cases g <;> first | rfl | exact absurd same (by decide)

/-- No source of a passphrase is given by a letter. -/
theorem not_isPassphrase_of_short? {f : Flag} {c : Char} (letter : f.short? = some c) :
    f.isPassphrase = false := by
  cases f <;> first | rfl | cases letter

/-- The source of a passphrase with a given name. -/
def passphraseNamed? (name : String) : Option Flag :=
  passphraseFlags.find? (·.long? == some name)

theorem passphraseNamed?_eq_some_iff {name : String} {f : Flag} :
    passphraseNamed? name = some f ↔ f.isPassphrase ∧ f.long? = some name := by
  constructor
  · intro found
    have member := List.mem_of_find?_eq_some found
    have named := List.find?_some found
    exact ⟨by simpa [isPassphrase] using member, by simpa using named⟩
  · rintro ⟨isSource, named⟩
    cases found : passphraseNamed? name with
    | none =>
      have absent := List.find?_eq_none.1 found f (by simpa [isPassphrase] using isSource)
      simp [named] at absent
    | some g =>
      have same : g.long? = some name := by simpa using List.find?_some found
      exact congrArg some (long?_injective (same.trans named.symm))

end Flag

theorem Level.long?_of_ofLong? {l : Level} {name : String} {f : Flag}
    (found : l.ofLong? name = some f) : f.long? = some name := by
  simpa using List.find?_some found

theorem Level.short?_of_ofShort? {l : Level} {c : Char} {f : Flag}
    (found : l.ofShort? c = some f) : f.short? = some c := by
  simpa using List.find?_some found

/-- In front of the name of a command, letters stand for help and the version only. -/
theorem Level.explains_of_ofShort? {c : Char} {f : Flag}
    (found : Level.top.ofShort? c = some f) : f = .help ∨ f = .version := by
  have member : f ∈ Level.top.flags := List.mem_of_find?_eq_some found
  have letter := short?_of_ofShort? found
  cases f with
  | help => exact .inl rfl
  | version => exact .inr rfl
  | output | memoryCost | timeCost | parallelism | verbose | json =>
    exact absurd member (by decide)
  | _ => cases letter

/-- A name means the same source at every level. -/
theorem Level.toList_passphraseNamed? {l : Level} {name : String} {f : Flag}
    (found : l.ofLong? name = some f) :
    (Flag.passphraseNamed? name).toList = [f].filter Flag.isPassphrase := by
  have named := long?_of_ofLong? found
  cases isSource : f.isPassphrase with
  | true =>
    rw [Flag.passphraseNamed?_eq_some_iff.2 ⟨isSource, named⟩]
    simp [isSource]
  | false =>
    cases source : Flag.passphraseNamed? name with
    | none => simp [isSource]
    | some g =>
      obtain ⟨isSource', named'⟩ := Flag.passphraseNamed?_eq_some_iff.1 source
      cases Flag.long?_injective (named'.trans named.symm)
      rw [isSource] at isSource'
      cases isSource'

/-- Whether the error is about options that exclude each other. -/
def UsageError.isConflict : UsageError → Bool
  | conflict _ _ => true
  | _ => false

/-! ### Answers -/

/-- What may be the reason that reading stops, if it is not a fault of a single argument. -/
structure Reasons where
  conflict : Prop := False
  /-- Help or the version is asked for. -/
  explanation : Prop := False
  silence : Prop := False

/-- What reading comes to: something of the right kind, or a stop for one of the reasons. -/
inductive Answers {α : Type} (r : Reasons) (good : α → Prop) : Except Stop α → Prop
  | ok {a : α} (found : good a) : Answers r good (.ok a)
  | usage {e : UsageError} (cause : e.isConflict → r.conflict) : Answers r good (.error (.usage e))
  | help {l : Level} (cause : r.explanation) : Answers r good (.error (.help l))
  | version (cause : r.explanation) : Answers r good (.error .version)
  | nothingGiven (cause : r.silence) : Answers r good (.error .nothingGiven)

section Answers

variable {α β : Type} {r : Reasons} {good : α → Prop} {better : β → Prop} {x : Except Stop α}

theorem Answers.bind {f : α → Except Stop β} (first : Answers r good x)
    (second : ∀ a, x = .ok a → good a → Answers r better (f a)) : Answers r better (x >>= f) := by
  cases first with
  | ok found => exact second _ rfl found
  | usage cause => exact .usage cause
  | help cause => exact .help cause
  | version cause => exact .version cause
  | nothingGiven cause => exact .nothingGiven cause

/-- A result is also known to be the result. -/
theorem Answers.and_eq (answers : Answers r good x) :
    Answers r (fun a => good a ∧ x = .ok a) x := by
  cases answers with
  | ok found => exact .ok ⟨found, rfl⟩
  | usage cause => exact .usage cause
  | help cause => exact .help cause
  | version cause => exact .version cause
  | nothingGiven cause => exact .nothingGiven cause

theorem Answers.mono {r' : Reasons} {better : α → Prop} (answers : Answers r good x)
    (weaker : ∀ a, good a → better a) (conflict : r.conflict → r'.conflict)
    (explanation : r.explanation → r'.explanation) (silence : r.silence → r'.silence) :
    Answers r' better x := by
  cases answers with
  | ok found => exact .ok (weaker _ found)
  | usage cause => exact .usage (conflict ∘ cause)
  | help cause => exact .help (explanation cause)
  | version cause => exact .version (explanation cause)
  | nothingGiven cause => exact .nothingGiven (silence cause)

end Answers

/-! ### Values -/

namespace Options

variable {o o' : Options} {f : Flag} {value : Bytes}

/-- There is a name of a variable or of a file exactly if the option for it was given. -/
structure Consistent (o : Options) : Prop where
  inEnvironment : o.passphraseVariable?.isSome = o.has .passphraseFromEnv
  inFile : o.passphraseFile?.isSome = o.has .passphraseFromFile

/-- What comes of taking up options: they are given in addition, or a value is at fault. -/
inductive Gains (o : Options) (fs : List Flag) : Except UsageError Options → Prop
  | ok {o' : Options} (given : o'.given = o.given ++ fs)
    (consistent : o.Consistent → o'.Consistent) : Gains o fs (.ok o')
  | error {e : UsageError} (other : e.isConflict = false) : Gains o fs (.error e)

/-- A step that gives no option leaves all of them to the next one. -/
theorem Gains.bind_of_silent {fs : List Flag} {x : Except UsageError Options}
    {step : Options → Except UsageError Options} (first : Gains o [] x)
    (second : ∀ o', Gains o' fs (step o')) : Gains o fs (x >>= step) := by
  cases first with
  | error other => exact .error other
  | @ok o' given consistent =>
    have rest := second o'
    rw [ok_bind]
    generalize step o' = y at rest
    cases rest with
    | error other => exact .error other
    | ok given' consistent' =>
      exact .ok (by rw [given', given, List.append_nil]) (consistent' ∘ consistent)

/-- Options that are taken up in the course of reading. -/
theorem Gains.answers {fs : List Flag} {x : Except UsageError Options} (gains : Gains o fs x)
    (r : Reasons) :
    Answers r (fun o' => o'.given = o.given ++ fs ∧ (o.Consistent → o'.Consistent))
      (x.mapError .usage) := by
  cases gains with
  | error other => exact .usage fun conflict => by simp [other] at conflict
  | ok given consistent => exact .ok ⟨given, consistent⟩

/-- A value changes what its option is about, and nothing that is said of sources otherwise. -/
theorem set_eq_ok (taken : o.set f value = .ok o') :
    o'.given = o.given ∧
      o'.passphraseVariable?.isSome =
        (o.passphraseVariable?.isSome || decide (f = .passphraseFromEnv)) ∧
      o'.passphraseFile?.isSome =
        (o.passphraseFile?.isSome || decide (f = .passphraseFromFile)) := by
  unfold set at taken
  cases f
  all_goals
    dsimp only at taken
    first
    | cases taken
      exact ⟨rfl, by simp, by simp⟩
    | obtain ⟨_, _, taken⟩ := bind_eq_ok_iff.1 taken
      cases taken
      exact ⟨rfl, by simp, by simp⟩

theorem choose_eq_error {α : Type} {name : α → String} {values : List α} {e : UsageError}
    (refused : choose f name values value = .error e) : e.isConflict = false := by
  unfold choose at refused
  split at refused
  · cases refused
    rfl
  · split at refused
    · cases refused
    · cases refused
      rfl

theorem readText_eq_error {α : Type} {read : String → Except String α} {e : UsageError}
    (refused : readText f read value = .error e) : e.isConflict = false := by
  unfold readText at refused
  split at refused
  · cases refused
    rfl
  · rename_i text _
    cases answer : read text with
    | ok a =>
      rw [answer] at refused
      cases refused
    | error reason =>
      rw [answer] at refused
      cases refused
      rfl

theorem readPath_eq_error {e : UsageError} (refused : readPath f value = .error e) :
    e.isConflict = false := by
  unfold readPath at refused
  split at refused
  · cases refused
    rfl
  · cases refused

/-- A value that cannot be read is no conflict. -/
theorem set_eq_error {e : UsageError} (refused : o.set f value = .error e) :
    e.isConflict = false := by
  have first {α : Type} {x : Except UsageError α} {k : α → Options}
      (refused : (do return k (← x) : Except UsageError Options) = .error e) : x = .error e := by
    rcases bind_eq_error_iff.1 refused with failure | ⟨_, _, failure⟩
    · exact failure
    · cases failure
  unfold set at refused
  cases f
  all_goals
    dsimp only at refused
    first
    | cases refused
    | exact choose_eq_error (first refused)
    | exact readText_eq_error (first refused)
    | exact readPath_eq_error (first refused)

theorem gains_take (o : Options) (f : Flag) (value : Option Bytes) :
    Gains o [f] (o.take f value) := by
  have take_new : Gains o [f]
      (if o.has f then .error (.repeated f)
      else do
        let o ← o.set f (value.getD [])
        return { o with given := o.given ++ [f] }) := by
    split
    · exact .error rfl
    · cases taken : o.set f (value.getD []) with
      | error e => exact .error (set_eq_error taken)
      | ok o' =>
        obtain ⟨given, inEnvironment, inFile⟩ := set_eq_ok taken
        refine .ok (congrArg (· ++ [f]) given) fun consistent => ⟨?_, ?_⟩
        · show o'.passphraseVariable?.isSome = (o'.given ++ [f]).contains .passphraseFromEnv
          rw [inEnvironment, consistent.inEnvironment, given, has]
          simp [eq_comm]
        · show o'.passphraseFile?.isSome = (o'.given ++ [f]).contains .passphraseFromFile
          rw [inFile, consistent.inFile, given, has]
          simp [eq_comm]
  unfold take
  split
  · exact .error rfl
  · exact take_new

/-- A variable of the environment gives no option, and no source. -/
theorem gains_fallBack (o : Options) (other : f.isPassphrase = false) (value : Option Bytes) :
    Gains o [] (o.fallBack f value) := by
  unfold fallBack
  split
  · split
    · exact .ok (by simp) id
    · rename_i value _
      cases taken : o.set f value with
      | error e => exact .error (set_eq_error taken)
      | ok o' =>
        obtain ⟨given, inEnvironment, inFile⟩ := set_eq_ok taken
        have notVariable : f ≠ .passphraseFromEnv := by
          rintro rfl
          exact absurd other (by decide)
        have notFile : f ≠ .passphraseFromFile := by
          rintro rfl
          exact absurd other (by decide)
        refine .ok (by simp [given]) fun consistent => ⟨?_, ?_⟩
        · rw [inEnvironment, consistent.inEnvironment, has, has, given]
          simp [notVariable]
        · rw [inFile, consistent.inFile, has, has, given]
          simp [notFile]
  · exact .ok (by simp) id

/-- The sources of a passphrase that were given. -/
def sources (o : Options) : List Flag := o.given.filter Flag.isPassphrase

/-- The check finds two sources exactly if two different ones were given. -/
theorem checkConflicts_eq_ok_iff :
    o.checkConflicts = .ok () ↔ ∀ f ∈ o.sources, ∀ g ∈ o.sources, f = g := by
  unfold checkConflicts
  split
  · rename_i nothing
    have empty : o.sources = [] := List.filter_eq_nil_iff.2 (List.find?_eq_none.1 nothing)
    simp [empty]
  · rename_i f found
    have isSource : f.isPassphrase := List.find?_some found
    have given : f ∈ o.sources := List.mem_filter.2 ⟨List.mem_of_find?_eq_some found, isSource⟩
    have alone : o.rivals f = [] ↔ ∀ g ∈ o.sources, g = f := by
      unfold rivals sources
      simp only [List.filter_eq_nil_iff, List.mem_filter, Bool.and_eq_true, bne_iff_ne]
      constructor
      · rintro others g ⟨member, isSource⟩
        exact Decidable.byContradiction fun different => others g member ⟨isSource, different⟩
      · rintro same g member ⟨isSource, different⟩
        exact different (same g ⟨member, isSource⟩)
    rw [require_eq_ok_iff, alone]
    constructor
    · rintro ⟨same, _⟩ g member h member'
      rw [same g member, same h member']
    · intro same
      exact ⟨fun g member => same g member f given, rfl⟩

end Options

/-! ### Arguments -/

namespace Argument

/-- The options stand in front of the two dashes. -/
def optionsIn (arguments : List Bytes) : List Bytes :=
  arguments.takeWhile (classify · != .separator)

/-- The source of a passphrase that an argument names. -/
def source? (argument : Bytes) : Option Flag :=
  match classify argument with
  | .long name _ => (Utf8.decode? name).bind Flag.passphraseNamed?
  | _ => none

/-- The sources of a passphrase that are written among the arguments. -/
def sourcesIn (arguments : List Bytes) : List Flag := (optionsIn arguments).filterMap source?

/-- Whether help or the version is asked for among letters; what follows a letter that takes a value
is that value. -/
def lettersAsk : List Utf8.Piece → Bool
  | .char c :: rest =>
    if c = 'h' ∨ c = 'V' then true
    else if c = 'o' ∨ c = 'm' ∨ c = 't' ∨ c = 'p' then false
    else lettersAsk rest
  | _ => false

theorem lettersAsk_of_flag {lead : UInt8} {rest : Bytes} {c : Char} {f : Flag}
    (piece : (Utf8.next lead rest).1 = .char c) (letter : f.short? = some c)
    (valueless : ¬ f.takesValue)
    (asks : f = .help ∨ f = .version ∨ lettersAsk (Utf8.pieces (Utf8.next lead rest).2)) :
    lettersAsk (Utf8.pieces (lead :: rest)) := by
  rw [Utf8.pieces, piece]
  unfold lettersAsk
  cases f with
  | help | version =>
    cases letter
    simp
  | verbose | json =>
    cases letter
    simpa using asks
  | output | memoryCost | timeCost | parallelism => exact absurd rfl valueless
  | _ => cases letter

/-- Whether an option asks for help or the version. -/
def asks (argument : Bytes) : Bool :=
  match classify argument with
  | .long name _ =>
    Utf8.decode? name == some "help" || Utf8.decode? name == some "version"
  | .short letters => lettersAsk (Utf8.pieces letters)
  | _ => false

/-- Whether one of the options asks for help or the version. -/
def askedIn (arguments : List Bytes) : Bool := (optionsIn arguments).any asks

section Cons

variable {argument : Bytes} {rest : List Bytes}

theorem optionsIn_cons_of_separator (separates : classify argument = .separator) :
    optionsIn (argument :: rest) = [] := by
  simp [optionsIn, separates]

theorem optionsIn_cons_of_ne (other : classify argument ≠ .separator) :
    optionsIn (argument :: rest) = argument :: optionsIn rest := by
  simp [optionsIn, other]

theorem sourcesIn_cons_of_ne (other : classify argument ≠ .separator) :
    sourcesIn (argument :: rest) = (source? argument).toList ++ sourcesIn rest := by
  rw [sourcesIn, optionsIn_cons_of_ne other, List.filterMap_cons]
  cases source? argument <;> rfl

theorem askedIn_cons_of_ne (other : classify argument ≠ .separator) :
    askedIn (argument :: rest) = (asks argument || askedIn rest) := by
  rw [askedIn, optionsIn_cons_of_ne other, List.any_cons, askedIn]

end Cons

end Argument

/-! ### Progress -/

namespace Progress

variable {l : Level} {p q : Progress} {f : Flag} {named more : List Flag} {trailing later : Bool}
  {asked : Prop} {x : Except Stop Progress}

/-- The options that have been read, those that wait to be taken up included. -/
def collected (p : Progress) : List Flag := p.options.given ++ (p.pending.map (·.flag)).toList

/-- The sources of a passphrase that have been read. -/
def sources (p : Progress) : List Flag := p.collected.filter Flag.isPassphrase

/-- The sources have been read in addition, up to the two dashes or not. -/
structure Gained (p : Progress) (named : List Flag) (trailing : Bool) (q : Progress) : Prop where
  sources : q.sources = p.sources ++ named
  reached : q.trailing = trailing
  consistent : p.options.Consistent → q.options.Consistent

/-- What comes of reading on: the sources are read in addition, or something is wrong other than a
conflict, or an explanation is asked for. -/
abbrev Takes (p : Progress) (named : List Flag) (trailing : Bool) (asked : Prop) :
    Except Stop Progress → Prop :=
  Answers { explanation := asked } (Gained p named trailing)

theorem Takes.bind {step : Progress → Except Stop Progress}
    (first : Takes p named trailing asked x)
    (second : ∀ q, x = .ok q → q.trailing = trailing → Takes q more later asked (step q)) :
    Takes p (named ++ more) later asked (x >>= step) := by
  refine Answers.bind first fun q read gained => ?_
  refine (second q read gained.reached).mono (fun q' gained' => ⟨?_, gained'.reached, ?_⟩) id id id
  · rw [gained'.sources, gained.sources, List.append_assoc]
  · exact gained'.consistent ∘ gained.consistent

/-- After a step that reads no source, all of them are read by the next one. -/
theorem Takes.bind_of_silent {step : Progress → Except Stop Progress}
    (first : Takes p [] trailing asked x)
    (second : ∀ q, x = .ok q → q.trailing = trailing → Takes q more later asked (step q)) :
    Takes p more later asked (x >>= step) :=
  first.bind second

theorem Takes.mono {other : Prop} (takes : Takes p named trailing asked x)
    (weaker : asked → other) : Takes p named trailing other x :=
  Answers.mono takes (fun _ => id) id weaker id

/-- An argument that is at fault is no conflict. -/
theorem takes_usage {e : UsageError} (other : e.isConflict = false) :
    Takes p named trailing asked (.error (.usage e)) :=
  .usage fun conflict => by simp [other] at conflict

theorem takes_resolve (p : Progress) (asked : Prop) : Takes p [] p.trailing asked p.resolve := by
  unfold resolve
  split
  · exact .ok ⟨by simp, rfl, id⟩
  · rename_i f value waiting
    refine Answers.bind ((Options.gains_take p.options f value).answers _) ?_
    rintro o _ ⟨given, consistent⟩
    refine .ok ⟨?_, rfl, consistent⟩
    simp [Progress.sources, collected, given, waiting]

theorem pending_of_resolve (resolved : p.resolve = .ok q) : q.pending = none := by
  unfold resolve at resolved
  split at resolved
  · rename_i nothing
    cases resolved
    exact nothing
  · obtain ⟨_, _, resolved⟩ := bind_eq_ok_iff.1 resolved
    cases resolved
    rfl

theorem takes_take (idle : p.pending = none) (reached : p.trailing = trailing) (f : Flag)
    (value : Option Bytes) (asked : Prop) :
    Takes p ([f].filter Flag.isPassphrase) trailing asked (do
      let options ← (p.options.take f value).mapError .usage
      return { p with options }) := by
  refine Answers.bind ((Options.gains_take p.options f value).answers _) ?_
  rintro o _ ⟨given, consistent⟩
  refine .ok ⟨?_, reached, consistent⟩
  simp [Progress.sources, collected, given, idle]

theorem takes_react (l : Level) (p : Progress) (f : Flag) (value : Option Bytes) :
    Takes p ([f].filter Flag.isPassphrase) p.trailing (f = .help ∨ f = .version)
      (react l p f value) := by
  unfold react
  refine (takes_resolve p _).bind_of_silent fun q resolved reached => ?_
  have taken := takes_take (pending_of_resolve resolved) reached f value
    (f = .help ∨ f = .version)
  cases f with
  | help => exact .help (.inl rfl)
  | version => exact .version (.inr rfl)
  | _ => exact taken

theorem takes_postpone (p : Progress) (f : Flag) (value : Option Bytes) (asked : Prop) :
    Takes p ([f].filter Flag.isPassphrase) p.trailing asked (p.postpone f value) := by
  unfold postpone
  refine (takes_resolve p asked).bind_of_silent fun q resolved reached => ?_
  refine .ok ⟨?_, reached, id⟩
  simp [Progress.sources, collected, pending_of_resolve resolved]

theorem takes_long (l : Level) (p : Progress) (name : Bytes) (value : Option Bytes) :
    Takes p ((Utf8.decode? name).bind Flag.passphraseNamed?).toList p.trailing
      (Utf8.decode? name = some "help" ∨ Utf8.decode? name = some "version")
      (p.long l name value) := by
  unfold long
  split
  · exact takes_usage rfl
  · rename_i f found
    obtain ⟨text, decoded, found⟩ := Option.bind_eq_some_iff.1 found
    have asked : f = .help ∨ f = .version →
        Utf8.decode? name = some "help" ∨ Utf8.decode? name = some "version" := by
      have named := Level.long?_of_ofLong? found
      rintro (rfl | rfl)
      · cases named
        exact .inl decoded
      · cases named
        exact .inr decoded
    rw [decoded, Option.bind_some, Level.toList_passphraseNamed? found]
    split
    · exact takes_postpone p f none _
    · exact takes_usage rfl
    · rw [← decoded]
      exact (takes_react l p f _).mono asked

/-- No letter names a source. -/
theorem filter_of_ofShort? {c : Char} (found : l.ofShort? c = some f) :
    [f].filter Flag.isPassphrase = [] := by
  simp [Flag.not_isPassphrase_of_short? (Level.short?_of_ofShort? found)]

theorem takes_letter {c : Char} (found : l.ofShort? c = some f) (p : Progress)
    (value : Option Bytes) :
    Takes p [] p.trailing (f = .help ∨ f = .version) (react l p f value) := by
  rw [← filter_of_ofShort? found]
  exact takes_react l p f value

theorem takes_short (l : Level) (p : Progress) (letters : Bytes) :
    Takes p [] p.trailing (Argument.lettersAsk (Utf8.pieces letters)) (p.short l letters) := by
  -- Each letter is taken up before the next one is looked at.
  fun_induction short l p letters with
  | case1 p => exact .ok ⟨by simp, rfl, id⟩
  | case2 | case3 => exact takes_usage rfl
  | case4 p lead rest c piece f found takesValue _ =>
    rw [← filter_of_ofShort? found]
    exact takes_postpone p f none _
  | case5 p lead rest c piece f found takesValue value _ =>
    refine (takes_letter found p (some value)).mono ?_
    rintro (rfl | rfl)
    · cases takesValue
    · cases takesValue
  | case6 p lead rest c piece f found valueless q reacted ih =>
    have asked := Argument.lettersAsk_of_flag piece (Level.short?_of_ofShort? found) valueless
    have first := takes_letter found p none
    rw [reacted] at first
    show Takes p [] p.trailing _ (.ok q >>= fun q => short l q (Utf8.next lead rest).2)
    refine (first.mono fun asks => asked (or_assoc.1 (.inl asks))).bind_of_silent ?_
    rintro _ ⟨⟩ reached
    rw [reached] at ih
    exact ih.mono fun asks => asked (.inr (.inr asks))
  | case7 p lead rest c piece f found valueless stop refused =>
    have asked := Argument.lettersAsk_of_flag piece (Level.short?_of_ofShort? found) valueless
    have first := takes_letter found p none
    rw [refused] at first
    exact first.mono fun asks => asked (or_assoc.1 (.inl asks))

theorem takes_plain (l : Level) (p : Progress) (argument : Bytes) (asked : Prop) :
    Takes p [] p.trailing asked (p.plain l argument) := by
  unfold plain
  split
  · refine (takes_postpone p .input (some argument) asked).bind_of_silent fun q _ reached => ?_
    exact .ok ⟨by simp [Progress.sources, collected], reached, id⟩
  · split
    · exact takes_usage rfl
    · exact takes_usage rfl

theorem pending_of_awaiting? (waits : p.awaiting? = some f) : p.pending = some ⟨f, none⟩ := by
  unfold awaiting? at waits
  split at waits
  · rename_i pending
    cases waits
    exact pending
  · cases waits

theorem takes_advance_of_trailing (l : Level) (argument : Bytes) (asked : Prop)
    (behind : p.trailing = true) : Takes p [] true asked (p.advance l argument) := by
  unfold advance
  rw [if_pos behind, ← behind]
  exact takes_plain l p argument asked

/-- A step takes up what its argument says, unless that stands behind the two dashes. -/
theorem takes_advance (l : Level) (argument : Bytes) (before : p.trailing = false) :
    Takes p (Argument.source? argument).toList (Argument.classify argument == .separator)
      (Argument.asks argument) (p.advance l argument) := by
  unfold advance Argument.source? Argument.asks
  rw [if_neg (by simp [before])]
  cases shape : Argument.classify argument with
  | separator => exact .ok ⟨by simp [Progress.sources, collected], rfl, id⟩
  | long name value =>
    have read := takes_long l p name value
    rw [before] at read
    exact read.mono fun asks => by simpa using asks
  | short letters =>
    have read := takes_short l p letters
    rwa [before] at read
  | plain =>
    dsimp only
    split
    · rename_i f waits
      refine .ok ⟨?_, before, id⟩
      simp [Progress.sources, collected, pending_of_awaiting? waits]
    · have read := takes_plain l p argument False
      rw [before] at read
      exact read.mono False.elim

end Progress

open Progress Argument

theorem takes_foldlM_of_trailing (l : Level) (arguments : List Bytes) {p : Progress}
    (asked : Prop) (behind : p.trailing = true) :
    Takes p [] true asked (arguments.foldlM (advance l) p) := by
  induction arguments generalizing p with
  | nil => exact .ok ⟨by simp, behind, id⟩
  | cons argument rest ih =>
    rw [List.foldlM_cons]
    refine (takes_advance_of_trailing l argument asked behind).bind_of_silent fun q _ reached => ?_
    exact ih reached

/-- A part of the command line says what its arguments say. -/
theorem takes_foldlM (l : Level) (arguments : List Bytes) {p : Progress}
    (before : p.trailing = false) :
    Takes p (sourcesIn arguments) (arguments.any (classify · == .separator)) (askedIn arguments)
      (arguments.foldlM (advance l) p) := by
  induction arguments generalizing p with
  | nil => exact .ok ⟨by simp [sourcesIn, optionsIn], before, id⟩
  | cons argument rest ih =>
    have first := takes_advance l argument before
    rw [List.foldlM_cons, List.any_cons]
    by_cases separates : classify argument = .separator
    · have silent : source? argument = none ∧ asks argument = false := by
        simp [source?, asks, separates]
      rw [silent.1, silent.2, separates] at first
      rw [sourcesIn, optionsIn_cons_of_separator separates, separates]
      refine (first.mono fun asks => absurd asks (by simp)).bind_of_silent fun q _ reached => ?_
      exact takes_foldlM_of_trailing l rest _ reached
    · have goes : (classify argument == .separator) = false := by simpa using separates
      rw [goes] at first
      rw [sourcesIn_cons_of_ne separates, askedIn_cons_of_ne separates, goes, Bool.false_or]
      refine (first.mono fun asks => by simp [asks]).bind fun q _ reached => ?_
      exact (ih reached).mono fun asks => by simp [asks]

/-! ### The two sides of the name of a command -/

namespace Argument

/-- Whether the next argument is the value of this one, in front of the name of a command. -/
def opensValue (argument : Bytes) : Bool :=
  match classify argument with
  | .long name none => ((Utf8.decode? name).bind Level.top.ofLong?).any Flag.takesValue
  | _ => false

/-- A command line that is divided at the name of a command, or at the word for help. -/
structure Sides where
  front : List Bytes := []
  callee? : Option Callee := none
  back : List Bytes := []
  deriving DecidableEq

/-- Divides the arguments; the first of them may be the value of an option before it. -/
def sides (awaiting : Bool) : List Bytes → Sides
  | [] => {}
  | argument :: rest =>
    match if awaiting then none else callee? argument with
    | some callee => { callee? := some callee, back := rest }
    | none =>
      if classify argument = .separator then { front := argument :: rest }
      else
        let after := sides (opensValue argument) rest
        { after with front := argument :: after.front }

/-- Without a callee, everything stands in front. -/
theorem back_of_callee?_eq_none {arguments : List Bytes} {awaiting : Bool}
    (uncalled : (sides awaiting arguments).callee? = none) :
    (sides awaiting arguments).back = [] := by
  fun_induction sides awaiting arguments with
  | case1 => rfl
  | case2 => cases uncalled
  | case3 => rfl
  | case4 awaiting argument rest _ _ after ih => exact ih uncalled

/-- What is called is named by an argument. -/
theorem callee?_of_sides {arguments : List Bytes} {awaiting : Bool} {callee : Callee}
    (called : (sides awaiting arguments).callee? = some callee) :
    ∃ argument, CommandLine.callee? argument = some callee := by
  fun_induction sides awaiting arguments with
  | case1 => cases called
  | case2 awaiting argument rest callee found =>
    cases called
    refine ⟨argument, ?_⟩
    cases awaiting with
    | true => cases found
    | false => exact found
  | case3 => cases called
  | case4 awaiting argument rest _ _ after ih => exact ih called

theorem classify_ne_short_nil (argument : Bytes) : classify argument ≠ .short [] := by
  unfold classify
  split
  · split
    · simp
    · split <;> simp
  · split
    · simp
    · split <;> simp
  · simp

end Argument

namespace Progress

variable {l : Level} {p q : Progress} {f : Flag} {value : Option Bytes} {argument : Bytes}

theorem awaiting?_of_pending (idle : p.pending = none) : p.awaiting? = none := by
  unfold awaiting?
  rw [idle]

theorem pending_of_react (reacted : react l p f value = .ok q) : q.pending = none := by
  unfold react at reacted
  obtain ⟨resolved, first, reacted⟩ := bind_eq_ok_iff.1 reacted
  have idle := pending_of_resolve first
  split at reacted
  · cases reacted
  · cases reacted
  · obtain ⟨_, _, reacted⟩ := bind_eq_ok_iff.1 reacted
    cases reacted
    exact idle

theorem pending_of_postpone (postponed : p.postpone f value = .ok q) :
    q.pending = some ⟨f, value⟩ := by
  unfold postpone at postponed
  obtain ⟨_, _, postponed⟩ := bind_eq_ok_iff.1 postponed
  cases postponed
  rfl

theorem react_ne_ok (explains : f = .help ∨ f = .version) : react l p f value ≠ .ok q := by
  intro reacted
  unfold react at reacted
  obtain ⟨_, _, reacted⟩ := bind_eq_ok_iff.1 reacted
  rcases explains with rfl | rfl
  · cases reacted
  · cases reacted

/-- In front of the name of a command, letters ask for help or the version, or are not known. -/
theorem short_top_ne_ok (p : Progress) {letters : Bytes} (some : letters ≠ []) :
    p.short .top letters ≠ .ok q := by
  cases letters with
  | nil => exact absurd rfl some
  | cons lead rest =>
    rw [short]
    intro read
    split at read
    · cases read
    · split at read
      · cases read
      · rename_i f found
        have explains := Level.explains_of_ofShort? found
        rw [if_neg (by rcases explains with rfl | rfl <;> decide)] at read
        split at read
        · rename_i reacted
          exact react_ne_ok explains reacted
        · cases read

theorem plain_top_ne_ok (p : Progress) (argument : Bytes) : p.plain .top argument ≠ .ok q := by
  unfold plain
  rw [if_neg fun both => absurd both.1 (by decide)]
  split <;> simp

theorem awaiting?_of_long {name : Bytes} (read : p.long .top name value = .ok q) :
    q.awaiting?.isSome =
      (value.isNone && ((Utf8.decode? name).bind Level.top.ofLong?).any Flag.takesValue) := by
  unfold long at read
  split at read
  · cases read
  · rename_i f found
    rw [found, Option.any_some]
    cases takes : f.takesValue with
    | true =>
      cases value with
      | none =>
        rw [takes] at read
        unfold awaiting?
        rw [pending_of_postpone read]
        rfl
      | some value =>
        rw [takes] at read
        rw [awaiting?_of_pending (pending_of_react read)]
        rfl
    | false =>
      cases value with
      | none =>
        rw [takes] at read
        rw [awaiting?_of_pending (pending_of_react read)]
        rfl
      | some value =>
        rw [takes] at read
        cases read

/-- In front of the name of a command, an option without its value waits for the next argument, and
nothing else does. -/
theorem awaiting?_of_advance (before : p.trailing = false)
    (other : Argument.classify argument ≠ .separator) (read : p.advance .top argument = .ok q) :
    q.awaiting?.isSome = Argument.opensValue argument := by
  unfold advance at read
  rw [if_neg (by simp [before])] at read
  unfold Argument.opensValue
  cases shape : Argument.classify argument with
  | separator => exact absurd shape other
  | short letters =>
    rw [shape] at read
    refine absurd read (short_top_ne_ok p ?_)
    rintro rfl
    exact Argument.classify_ne_short_nil argument shape
  | long name value =>
    rw [shape] at read
    rw [awaiting?_of_long read]
    cases value <;> simp
  | plain =>
    rw [shape] at read
    dsimp only at read
    split at read
    · cases read
      rfl
    · exact absurd read (plain_top_ne_ok p argument)

end Progress

/-- What can be called by its name is a command. -/
theorem ne_top_of_callee? {argument : Bytes} {l : Level}
    (called : callee? argument = some (.command l)) : l ≠ .top := by
  unfold callee? at called
  split at called
  · cases called
  · cases called
  · rename_i name _ _
    obtain ⟨found, named, same⟩ := Option.map_eq_some_iff.1 called
    cases same
    rintro rfl
    exact absurd (List.mem_of_find?_eq_some named) (by decide)

/-- What a part of the command line comes to that ends where it is divided. -/
def Argument.Sides.close (s : Sides) (p : Progress) : Except Stop Scan :=
  match s.callee? with
  | none => .ok { progress := p }
  | some .help => .error (helpFor .top s.back)
  | some (.command c) => .ok { progress := p, command? := some (c, s.back) }

section Scan

variable {l : Level} {p q : Progress} {argument : Bytes}

theorem trailing_of_advance (before : p.trailing = false)
    (read : p.advance l argument = .ok q) :
    q.trailing = (classify argument == .separator) := by
  have takes := takes_advance l argument before
  rw [read] at takes
  cases takes with
  | ok gained => exact gained.reached

/-- Behind the name of a command, and behind the two dashes, nothing more is called. -/
theorem scan_of_uncalled (arguments : List Bytes) (uncalled : l ≠ .top ∨ p.trailing = true) :
    scan l p arguments =
      arguments.foldlM (advance l) p >>= fun q => .ok { progress := q } := by
  induction arguments generalizing p with
  | nil => rfl
  | cons argument rest ih =>
    have called : p.called? l argument = none := by
      unfold called?
      refine if_neg ?_
      rintro ⟨top, before, _⟩
      rcases uncalled with below | behind
      · exact below top
      · rw [before] at behind
        cases behind
    rw [scan, called, List.foldlM_cons]
    dsimp only
    cases read : p.advance l argument with
    | error stop => rfl
    | ok q =>
      refine ih ?_
      rcases uncalled with below | behind
      · exact .inl below
      · have takes := takes_advance_of_trailing l argument False behind
        rw [read] at takes
        cases takes with
        | ok gained => exact .inr gained.reached

/-- In front of the name of a command, reading goes on up to where the arguments are divided. -/
theorem scan_top (arguments : List Bytes) (before : p.trailing = false) :
    scan .top p arguments =
      (sides p.awaiting?.isSome arguments).front.foldlM (advance .top) p >>=
        (sides p.awaiting?.isSome arguments).close := by
  induction arguments generalizing p with
  | nil => rfl
  | cons argument rest ih =>
    have called : p.called? .top argument =
        if p.awaiting?.isSome then none else callee? argument := by
      unfold called?
      cases p.awaiting? with
      | none => simp [before]
      | some f => simp
    unfold scan sides
    rw [called]
    cases (if p.awaiting?.isSome then none else callee? argument) with
    | some callee =>
      cases callee with
      | help => rfl
      | command c => rfl
    | none =>
      dsimp only
      by_cases separates : classify argument = .separator
      · rw [if_pos separates]
        have read : p.advance .top argument = .ok { p with trailing := true } := by
          unfold advance
          rw [if_neg (by simp [before]), separates]
        rw [read, List.foldlM_cons, read, ok_bind]
        exact scan_of_uncalled rest (.inr rfl)
      · rw [if_neg separates, List.foldlM_cons]
        cases read : p.advance .top argument with
        | error stop => rfl
        | ok q =>
          have still : q.trailing = false := by
            rw [trailing_of_advance before read]
            simpa using separates
          dsimp only
          rw [ok_bind, ih still, awaiting?_of_advance before separates read]
          rfl

end Scan

end Coffer.CommandLine
