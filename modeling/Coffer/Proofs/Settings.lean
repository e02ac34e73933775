import Coffer.Proofs.PassphraseOptions

/-!
# Settings on the command line

What the arguments of a command set is told from the arguments alone: which options they name, and
which values stand next to them. A command line that is read has taken up exactly these settings, in
their order, and the value of an option is what its reader makes of the text that is set for it.
-/

set_option autoImplicit false
set_option relaxedAutoImplicit false

namespace Coffer.CommandLine

open Argument Progress

/-- An option, or the input, and the text that stands for its value. -/
abbrev Setting := Flag × Option Bytes

/-- What an argument sets, and the option whose value the next argument has to be. -/
structure Saying where
  settings : List Setting := []
  waiting : Option Flag := none

namespace Saying

/-- What an option sets to which a value is attached or not. -/
def ofFlag (f : Flag) (value : Option Bytes) : Saying :=
  if f.takesValue ∧ value = none then { waiting := some f } else { settings := [(f, value)] }

/-- The second part says what follows the first, which waits for nothing. -/
def before (first : Setting) (later : Saying) : Saying :=
  { later with settings := first :: later.settings }

/-- What options of one letter each set. -/
def ofLetters (l : Level) : Bytes → Saying
  | [] => {}
  | lead :: rest =>
    match (Utf8.next lead rest).1 with
    | .stray _ => {}
    | .char c =>
      match l.ofShort? c with
      | none => {}
      | some f =>
        if f.takesValue then ofFlag f (attached? (Utf8.next lead rest).2)
        else before (f, none) (ofLetters l (Utf8.next lead rest).2)
termination_by b => b.length
decreasing_by
  have := Utf8.length_next_le lead rest
  simp only [List.length_cons]
  omega

/-- What an argument sets that is not the value of the one before it. -/
def ofArgument (l : Level) (argument : Bytes) : Saying :=
  match classify argument with
  | .separator => {}
  | .long name value => ((Utf8.decode? name).bind l.ofLong?).elim {} (ofFlag · value)
  | .short letters => ofLetters l letters
  | .plain => { settings := [(.input, some argument)] }

end Saying

/-- The option that waits for a value gets none. -/
def unvalued (waiting : Option Flag) : List Setting := waiting.toList.map (·, none)

/-- What the arguments set, the first of which may be the value of the option that waits. -/
def settingsFrom (l : Level) : Option Flag → List Bytes → List Setting
  | waiting, [] => unvalued waiting
  | waiting, argument :: rest =>
    match classify argument, waiting with
    | .separator, _ => unvalued waiting ++ rest.map (.input, some ·)
    | .plain, some f => (f, some argument) :: settingsFrom l none rest
    | _, _ =>
      unvalued waiting ++ (Saying.ofArgument l argument).settings ++
        settingsFrom l (Saying.ofArgument l argument).waiting rest

/-- What the arguments of a command set. -/
def settingsIn (l : Level) (arguments : List Bytes) : List Setting := settingsFrom l none arguments

/-- The text that is set as the value of an option. -/
def valueIn (settings : List Setting) (f : Flag) : Option Bytes :=
  (settings.find? fun setting => setting.1 == f).bind Prod.snd

section Cons

variable {l : Level} {waiting : Option Flag} {argument : Bytes} {rest : List Bytes}

theorem settingsFrom_of_separator (separates : classify argument = .separator) :
    settingsFrom l waiting (argument :: rest) =
      unvalued waiting ++ rest.map (.input, some ·) := by
  unfold settingsFrom
  rw [separates]

theorem settingsFrom_of_value {f : Flag} (value : classify argument = .plain) :
    settingsFrom l (some f) (argument :: rest) =
      (f, some argument) :: settingsFrom l none rest := by
  conv => lhs; unfold settingsFrom
  rw [value]

/-- An argument that is not the value of the one before it speaks for itself. -/
theorem settingsFrom_of_other (other : classify argument ≠ .separator)
    (alone : classify argument = .plain → waiting = none) :
    settingsFrom l waiting (argument :: rest) =
      unvalued waiting ++ (Saying.ofArgument l argument).settings ++
        settingsFrom l (Saying.ofArgument l argument).waiting rest := by
  conv => lhs; unfold settingsFrom
  split
  · rename_i separates
    exact absurd separates other
  · rename_i f plain
    cases alone plain
  · rfl

end Cons

/-! ### Taking up settings -/

namespace Options

/-- Takes up one setting after another. -/
def takeAll (o : Options) (settings : List Setting) : Except UsageError Options :=
  settings.foldlM (fun o setting => o.take setting.1 setting.2) o

variable {o o' : Options} {f : Flag} {value : Option Bytes} {settings : List Setting}

theorem takeAll_cons (o : Options) (setting : Setting) (settings : List Setting) :
    o.takeAll (setting :: settings) = o.take setting.1 setting.2 >>= fun o => o.takeAll settings :=
  List.foldlM_cons ..

theorem takeAll_append (o : Options) (first second : List Setting) :
    o.takeAll (first ++ second) = o.takeAll first >>= fun o => o.takeAll second :=
  List.foldlM_append ..

theorem takeAll_singleton (o : Options) (setting : Setting) :
    o.takeAll [setting] = o.take setting.1 setting.2 := by
  rw [takeAll_cons]
  cases o.take setting.1 setting.2 with
  | ok o' => rfl
  | error e => rfl

/-- What is taken up is new, has a value if it needs one, and is kept in mind. -/
theorem take_eq_ok (taken : o.take f value = .ok o') :
    (f.takesValue = true → value.isSome) ∧ o.has f = false ∧
      ∃ mid, o.set f (value.getD []) = .ok mid ∧ o' = { mid with given := mid.given ++ [f] } := by
  unfold take at taken
  split at taken
  · cases taken
  · rename_i valued
    split at taken
    · cases taken
    · rename_i fresh
      obtain ⟨mid, set, taken⟩ := bind_eq_ok_iff.1 taken
      cases taken
      exact ⟨fun takes => Option.isSome_iff_ne_none.2 (valued takes), by simpa using fresh, mid, set,
        rfl⟩

end Options

/-! ### Reading -/

namespace Progress

variable {l : Level} {p q r : Progress} {f : Flag} {value : Option Bytes} {argument : Bytes}
  {arguments : List Bytes}

/-- What waits to be taken up. -/
def postponed (p : Progress) : List Setting :=
  (p.pending.map fun pending => (pending.flag, pending.value)).toList

/-- What waits to be taken up and has its value. -/
def due (p : Progress) : List Setting := p.postponed.filter (·.2.isSome)

theorem postponed_of_idle (idle : p.pending = none) : p.postponed = [] := by
  rw [postponed, idle]
  rfl

theorem due_of_idle (idle : p.pending = none) : p.due = [] := by
  rw [due, postponed_of_idle idle, List.filter_nil]

/-- Either it has its value, or it still waits for it. -/
theorem due_append_unvalued (p : Progress) : p.due ++ unvalued p.awaiting? = p.postponed := by
  obtain ⟨options, pending, trailing, inputSeen⟩ := p
  cases pending with
  | none => rfl
  | some pending =>
    obtain ⟨f, value⟩ := pending
    cases value with
    | none => rfl
    | some value => rfl

theorem takeAll_postponed (resolved : p.resolve = .ok q) :
    p.options.takeAll p.postponed = .ok q.options := by
  unfold resolve at resolved
  split at resolved
  · rename_i idle
    cases resolved
    rw [postponed_of_idle idle]
    rfl
  · rename_i f value waits
    obtain ⟨o, taken, resolved⟩ := bind_eq_ok_iff.1 resolved
    cases resolved
    rw [postponed, waits]
    exact (Options.takeAll_singleton ..).trans (mapError_eq_ok_iff.1 taken)

/-- Between two stages of reading, what is said has been taken up or is due, and an option waits for
its value exactly if one was said to. -/
structure Took (p : Progress) (said : Saying) (q : Progress) : Prop where
  options : p.options.takeAll (p.postponed ++ said.settings) = q.options.takeAll q.due
  waiting : q.awaiting? = said.waiting

theorem took_react (reacted : react l p f value = .ok q) :
    Took p { settings := [(f, value)] } q := by
  have idle := pending_of_react reacted
  refine ⟨?_, awaiting?_of_pending idle⟩
  unfold react at reacted
  obtain ⟨mid, resolved, reacted⟩ := bind_eq_ok_iff.1 reacted
  rw [Options.takeAll_append, takeAll_postponed resolved, ok_bind, Options.takeAll_singleton,
    due_of_idle idle]
  split at reacted
  · cases reacted
  · cases reacted
  · obtain ⟨o, taken, reacted⟩ := bind_eq_ok_iff.1 reacted
    cases reacted
    exact mapError_eq_ok_iff.1 taken

theorem options_of_postpone (postponed : p.postpone f value = .ok q) :
    p.options.takeAll p.postponed = .ok q.options := by
  unfold postpone at postponed
  obtain ⟨mid, resolved, postponed⟩ := bind_eq_ok_iff.1 postponed
  cases postponed
  have taken := takeAll_postponed resolved
  exact taken

theorem took_postpone (postponed : p.postpone f none = .ok q) : Took p { waiting := some f } q := by
  have waits := pending_of_postpone postponed
  constructor
  · rw [List.append_nil, options_of_postpone postponed, due, Progress.postponed, waits]
    rfl
  · rw [awaiting?, waits]

theorem took_long {name : Bytes} (read : p.long l name value = .ok q) :
    Took p (((Utf8.decode? name).bind l.ofLong?).elim {} (Saying.ofFlag · value)) q := by
  unfold long at read
  split at read
  · cases read
  · rename_i f found
    rw [found, Option.elim_some]
    split at read
    · rename_i takes
      rw [Saying.ofFlag, if_pos ⟨takes, rfl⟩]
      exact took_postpone read
    · cases read
    · rename_i valued _
      rw [Saying.ofFlag, if_neg fun both => valued both.1 both.2]
      exact took_react read

theorem took_short {letters : Bytes} (some : letters ≠ [] ∨ p.pending = none)
    (read : p.short l letters = .ok q) : Took p (Saying.ofLetters l letters) q := by
  fun_induction short l p letters with
  | case1 p =>
    cases read
    have idle := some.resolve_left fun other => other rfl
    rw [Saying.ofLetters]
    refine ⟨?_, awaiting?_of_pending idle⟩
    rw [postponed_of_idle idle, due_of_idle idle]
    rfl
  | case2 | case3 => cases read
  | case4 p lead rest c piece f found takes alone =>
    rw [Saying.ofLetters, piece]
    dsimp only
    rw [found]
    dsimp only
    rw [if_pos takes, alone, Saying.ofFlag, if_pos ⟨takes, rfl⟩]
    exact took_postpone read
  | case5 p lead rest c piece f found takes value attached =>
    rw [Saying.ofLetters, piece]
    dsimp only
    rw [found]
    dsimp only
    rw [if_pos takes, attached, Saying.ofFlag, if_neg fun both => Option.some_ne_none value both.2]
    exact took_react read
  | case6 p lead rest c piece f found valueless mid reacted ih =>
    have idle := pending_of_react reacted
    have first := took_react reacted
    have later := ih (.inr idle) read
    rw [Saying.ofLetters, piece]
    dsimp only
    rw [found]
    dsimp only
    rw [if_neg valueless]
    refine ⟨?_, later.waiting⟩
    have split : p.postponed ++ (Saying.before (f, none)
        (Saying.ofLetters l (Utf8.next lead rest).2)).settings =
        (p.postponed ++ [(f, none)]) ++ (Saying.ofLetters l (Utf8.next lead rest).2).settings := by
      rw [List.append_assoc]
      rfl
    rw [split, Options.takeAll_append, first.options, due_of_idle idle, ← later.options,
      postponed_of_idle idle]
    rfl
  | case7 => cases read

theorem took_plain (read : p.plain l argument = .ok q) :
    Took p { settings := [(.input, some argument)] } q ∧
      p.options.takeAll p.postponed = .ok q.options ∧
      q.postponed = [(.input, some argument)] := by
  unfold plain at read
  split at read
  · obtain ⟨mid, later, read⟩ := bind_eq_ok_iff.1 read
    cases read
    have options := options_of_postpone later
    have waits := pending_of_postpone later
    refine ⟨⟨?_, ?_⟩, options, ?_⟩
    · rw [Options.takeAll_append, options, due, postponed, waits]
      rfl
    · rw [awaiting?, waits]
    · rw [postponed, waits]
      rfl
  · split at read
    · cases read
    · cases read

/-- A step that takes up what its argument says leaves the rest to the later ones. -/
theorem Took.takeAll_eq (took : Took p (Saying.ofArgument l argument) q)
    (other : classify argument ≠ .separator)
    (alone : classify argument = .plain → p.awaiting? = none) :
    p.options.takeAll (p.due ++ settingsFrom l p.awaiting? (argument :: arguments)) =
      q.options.takeAll (q.due ++ settingsFrom l q.awaiting? arguments) := by
  rw [settingsFrom_of_other other alone, ← List.append_assoc, ← List.append_assoc,
    due_append_unvalued, Options.takeAll_append, took.options, ← Options.takeAll_append,
    took.waiting]

theorem takeAll_of_advance (before : p.trailing = false) (other : classify argument ≠ .separator)
    (read : p.advance l argument = .ok q) :
    p.options.takeAll (p.due ++ settingsFrom l p.awaiting? (argument :: arguments)) =
      q.options.takeAll (q.due ++ settingsFrom l q.awaiting? arguments) := by
  unfold advance at read
  rw [if_neg (by simp [before])] at read
  cases shape : classify argument with
  | separator => exact absurd shape other
  | long name value =>
    rw [shape] at read
    have took : Took p (Saying.ofArgument l argument) q := by
      rw [Saying.ofArgument, shape]
      exact took_long read
    exact took.takeAll_eq other fun plain => nomatch shape.symm.trans plain
  | short letters =>
    rw [shape] at read
    have some : letters ≠ [] := by
      intro none
      rw [none] at shape
      exact classify_ne_short_nil argument shape
    have took : Took p (Saying.ofArgument l argument) q := by
      rw [Saying.ofArgument, shape]
      exact took_short (.inl some) read
    exact took.takeAll_eq other fun plain => nomatch shape.symm.trans plain
  | plain =>
    rw [shape] at read
    dsimp only at read
    split at read
    · rename_i f waits
      cases read
      have pending := pending_of_awaiting? waits
      have idle : p.due = [] := by
        rw [due, postponed, pending]
        rfl
      rw [waits, settingsFrom_of_value shape, idle]
      rfl
    · rename_i waits
      have took : Took p (Saying.ofArgument l argument) q := by
        rw [Saying.ofArgument, shape]
        exact (took_plain read).1
      exact took.takeAll_eq other fun _ => waits

/-- Behind the two dashes, every argument is a file. -/
theorem takeAll_of_trailing (behind : p.trailing = true)
    (read : arguments.foldlM (advance l) p = .ok q) (resolved : q.resolve = .ok r) :
    p.options.takeAll (p.postponed ++ arguments.map (.input, some ·)) = .ok r.options := by
  induction arguments generalizing p with
  | nil =>
    cases read
    rw [List.map_nil, List.append_nil]
    exact takeAll_postponed resolved
  | cons argument rest ih =>
    rw [List.foldlM_cons] at read
    obtain ⟨mid, first, later⟩ := bind_eq_ok_iff.1 read
    have reached := takes_advance_of_trailing l argument False behind
    rw [first] at reached
    cases reached with
    | ok gained =>
      unfold advance at first
      rw [if_pos behind] at first
      obtain ⟨-, options, postponed⟩ := took_plain first
      have whole := ih gained.reached later
      rw [postponed, List.singleton_append] at whole
      rw [List.map_cons, Options.takeAll_append, options, ok_bind]
      exact whole

/-- All that is read of the arguments are the settings that are told from them. -/
theorem takeAll_of_foldlM (before : p.trailing = false)
    (read : arguments.foldlM (advance l) p = .ok q) (resolved : q.resolve = .ok r) :
    p.options.takeAll (p.due ++ settingsFrom l p.awaiting? arguments) = .ok r.options := by
  induction arguments generalizing p with
  | nil =>
    cases read
    rw [settingsFrom, due_append_unvalued]
    exact takeAll_postponed resolved
  | cons argument rest ih =>
    rw [List.foldlM_cons] at read
    obtain ⟨mid, first, later⟩ := bind_eq_ok_iff.1 read
    have reached := trailing_of_advance before first
    by_cases separates : classify argument = .separator
    · have opened : p.advance l argument = .ok { p with trailing := true } := by
        unfold advance
        rw [if_neg (by simp [before]), separates]
      cases opened.symm.trans first
      rw [settingsFrom_of_separator separates, ← List.append_assoc, due_append_unvalued]
      have whole := takeAll_of_trailing rfl later resolved
      exact whole
    · have still : mid.trailing = false := by
        rw [reached, beq_eq_false_iff_ne]
        exact separates
      rw [takeAll_of_advance before separates first]
      exact ih still later

end Progress

/-! ### Values -/

section Values

variable {f : Flag} {setting : Setting} {settings : List Setting}

theorem valueIn_cons_self (same : setting.1 = f) :
    valueIn (setting :: settings) f = setting.2 := by
  rw [valueIn, List.find?_cons_of_pos (by rw [same]; exact beq_self_eq_true f), Option.bind_some]

theorem valueIn_cons_of_ne (other : setting.1 ≠ f) :
    valueIn (setting :: settings) f = valueIn settings f := by
  rw [valueIn, List.find?_cons_of_neg (by simpa using other), valueIn]

end Values

/-- If a text is set, then the value is what the reader makes of it, and else what it was before. -/
def Settled {α : Type} (read : Bytes → Option α) (before : Option α) :
    Option Bytes → Option α → Prop
  | some text, after => ∃ a, read text = some a ∧ after = some a
  | none, after => after = before

namespace Options

variable {o o' : Options} {f g : Flag} {value : Option Bytes} {settings : List Setting}

theorem given_of_takeAll (taken : o.takeAll settings = .ok o') :
    o'.given = o.given ++ settings.map Prod.fst := by
  induction settings generalizing o with
  | nil =>
    cases taken
    rw [List.map_nil, List.append_nil]
  | cons setting settings ih =>
    rw [takeAll_cons] at taken
    obtain ⟨mid, first, later⟩ := bind_eq_ok_iff.1 taken
    obtain ⟨_, _, set, read, rfl⟩ := take_eq_ok first
    rw [ih later, (set_eq_ok read).1, List.map_cons, List.append_assoc, List.singleton_append]

/-- An option that takes a value has been given exactly if a text is set for it. -/
theorem has_of_takeAll (valued : f.takesValue = true) (taken : o.takeAll settings = .ok o') :
    o'.has f = (o.has f || (valueIn settings f).isSome) := by
  induction settings generalizing o with
  | nil =>
    cases taken
    exact (Bool.or_false _).symm
  | cons setting settings ih =>
    rw [takeAll_cons] at taken
    obtain ⟨mid, first, later⟩ := bind_eq_ok_iff.1 taken
    obtain ⟨given, _, set, read, rfl⟩ := take_eq_ok first
    have now : ({ set with given := set.given ++ [setting.1] } : Options).has f =
        (o.has f || decide (setting.1 = f)) := by
      have single : [setting.1].contains f = decide (setting.1 = f) := by simp [eq_comm]
      rw [has, (set_eq_ok read).1, List.contains_append, single, has]
    rw [ih later, now]
    by_cases same : setting.1 = f
    · rw [valueIn_cons_self same, given (same ▸ valued), same]
      simp
    · rw [valueIn_cons_of_ne same, decide_eq_false same, Bool.or_false]

/-- Nothing is set that has been given before. -/
theorem valueIn_of_has (had : o.has f = true) (taken : o.takeAll settings = .ok o') :
    valueIn settings f = none := by
  induction settings generalizing o with
  | nil => rfl
  | cons setting settings ih =>
    rw [takeAll_cons] at taken
    obtain ⟨mid, first, later⟩ := bind_eq_ok_iff.1 taken
    obtain ⟨_, fresh, set, read, rfl⟩ := take_eq_ok first
    have other : setting.1 ≠ f := by
      intro same
      rw [same, had] at fresh
      cases fresh
    have still : ({ set with given := set.given ++ [setting.1] } : Options).has f = true := by
      rw [has, List.contains_iff_mem] at had ⊢
      exact List.mem_append_left _ ((set_eq_ok read).1 ▸ had)
    rw [valueIn_cons_of_ne other]
    exact ih still later

/-- A field that one option sets, to what the reader makes of the text, and no other one. -/
structure Field {α : Type} (f : Flag) (get : Options → Option α) (read : Bytes → Option α) :
    Prop where
  valued : f.takesValue = true
  own : ∀ {o o' : Options} {text : Bytes}, o.set f text = .ok o' →
    ∃ a, read text = some a ∧ get o' = some a
  other : ∀ {o o' : Options} {g : Flag} {text : Bytes}, g ≠ f → o.set g text = .ok o' →
    get o' = get o
  apart : ∀ (o : Options) (given : List Flag), get { o with given } = get o

namespace Field

variable {α : Type} {get : Options → Option α} {read : Bytes → Option α}

theorem take (field : Field f get read) (taken : o.take f value = .ok o') :
    ∃ text, value = some text ∧ ∃ a, read text = some a ∧ get o' = some a := by
  obtain ⟨valued, _, set, wrote, rfl⟩ := take_eq_ok taken
  obtain ⟨text, rfl⟩ := Option.isSome_iff_exists.1 (valued field.valued)
  refine ⟨text, rfl, ?_⟩
  rw [field.apart]
  exact field.own wrote

theorem take_other (field : Field f get read) (different : g ≠ f)
    (taken : o.take g value = .ok o') : get o' = get o := by
  obtain ⟨_, _, set, wrote, rfl⟩ := take_eq_ok taken
  rw [field.apart]
  exact field.other different wrote

/-- After settings have been taken up, a field is what its option was set to, if it was. -/
theorem takeAll (field : Field f get read) (taken : o.takeAll settings = .ok o') :
    Settled read (get o) (valueIn settings f) (get o') := by
  induction settings generalizing o with
  | nil =>
    cases taken
    rfl
  | cons setting settings ih =>
    rw [takeAll_cons] at taken
    obtain ⟨mid, first, later⟩ := bind_eq_ok_iff.1 taken
    have rest := ih later
    by_cases same : setting.1 = f
    · rw [same] at first
      obtain ⟨text, given, a, made, whole⟩ := field.take first
      have had : mid.has f = true := by
        obtain ⟨_, _, set, _, rfl⟩ := take_eq_ok first
        rw [has, List.contains_append]
        simp
      rw [valueIn_of_has had later] at rest
      rw [valueIn_cons_self same, given]
      exact ⟨a, made, rest.trans whole⟩
    · rw [field.take_other same first] at rest
      rwa [valueIn_cons_of_ne same]

theorem fallBack (field : Field f get read) (taken : o.fallBack f value = .ok o') :
    Settled read (get o) (if o.has f then none else value) (get o') := by
  unfold Options.fallBack at taken
  split at taken
  · split at taken
    · rename_i given
      cases taken
      rw [if_pos given]
      rfl
    · rename_i missing
      rw [if_neg missing]
      exact field.own taken
  · cases taken
    split
    · rfl
    · rfl

/-- A variable of the environment stands behind what was set. -/
theorem settled_fallBack (field : Field f get read) {given : Option Bytes}
    (taken : o.fallBack f value = .ok o') (had : o.has f = given.isSome)
    (before : Settled read none given (get o)) :
    Settled read none (given <|> value) (get o') := by
  have settled := field.fallBack taken
  cases given with
  | none =>
    have unset : get o = none := before
    rw [had, unset] at settled
    exact settled
  | some text =>
    rw [had] at settled
    have kept : get o' = get o := settled
    rw [kept]
    exact before

theorem fallBack_other (field : Field f get read) (different : g ≠ f)
    (taken : o.fallBack g value = .ok o') : get o' = get o := by
  unfold Options.fallBack at taken
  split at taken
  · split at taken
    · cases taken
      rfl
    · exact field.other different taken
  · cases taken
    rfl

end Field

theorem given_of_fallBack (taken : o.fallBack f value = .ok o') : o'.given = o.given := by
  unfold fallBack at taken
  split at taken
  · split at taken
    · cases taken
      rfl
    · exact (set_eq_ok taken).1
  · cases taken
    rfl

/-! ### Fields -/

/-- What a reader of texts makes of bytes. -/
def textual {α : Type} (read : String → Except String α) (value : Bytes) : Option α :=
  (Utf8.decode? value).bind fun text => (read text).toOption

/-- The value with the name that the bytes are. -/
def named {α : Type} (name : α → String) (values : List α) (value : Bytes) : Option α :=
  (Utf8.decode? value).bind fun text => values.find? fun a => name a == text

theorem textual_of_readText {α : Type} {read : String → Except String α} {text : Bytes} {a : α}
    (success : readText f read text = .ok a) : textual read text = some a := by
  unfold readText at success
  split at success
  · cases success
  · rename_i s decoded
    rw [textual, decoded, Option.bind_some, mapError_eq_ok_iff.1 success]
    rfl

theorem named_of_choose {α : Type} {name : α → String} {values : List α} {text : Bytes} {a : α}
    (success : choose f name values text = .ok a) : named name values text = some a := by
  unfold choose at success
  split at success
  · cases success
  · split at success
    · rename_i found
      cases success
      exact found
    · cases success

/-- What was read is what has been set. -/
theorem own_of_bind {α : Type} {get : Options → Option α} {x : Except UsageError α}
    {put : α → Options} {made : Option α}
    (wrote : (do return put (← x) : Except UsageError Options) = .ok o')
    (reads : ∀ a, x = .ok a → made = some a) (holds : ∀ a, get (put a) = some a) :
    ∃ a, made = some a ∧ get o' = some a := by
  obtain ⟨a, read, wrote⟩ := bind_eq_ok_iff.1 wrote
  cases wrote
  exact ⟨a, reads a read, holds a⟩

/-- No field is changed but the one of the option. -/
structure KeptBut (g : Flag) (o o' : Options) : Prop where
  memoryCost : g ≠ .memoryCost → o'.memoryCost? = o.memoryCost?
  memorySize : g ≠ .memorySize → o'.memorySize? = o.memorySize?
  timeCost : g ≠ .timeCost → o'.timeCost? = o.timeCost?
  parallelism : g ≠ .parallelism → o'.parallelism? = o.parallelism?
  variant : g ≠ .argon2Type → o'.variant? = o.variant?
  version : g ≠ .argon2Version → o'.version? = o.version?

theorem keptBut_of_set {text : Bytes} (wrote : o.set g text = .ok o') : KeptBut g o o' := by
  unfold set at wrote
  cases g
  all_goals
    dsimp only at wrote
    first
    | cases wrote
      constructor <;> simp
    | obtain ⟨_, _, wrote⟩ := bind_eq_ok_iff.1 wrote
      cases wrote
      constructor <;> simp

theorem field_memoryCost : Field .memoryCost memoryCost? (textual Integer.readWord) where
  valued := rfl
  own wrote := own_of_bind wrote (fun _ => textual_of_readText) fun _ => rfl
  other different wrote := (keptBut_of_set wrote).memoryCost different
  apart _ _ := rfl

theorem field_memorySize : Field .memorySize memorySize? (textual MemorySize.read) where
  valued := rfl
  own wrote := own_of_bind wrote (fun _ => textual_of_readText) fun _ => rfl
  other different wrote := (keptBut_of_set wrote).memorySize different
  apart _ _ := rfl

theorem field_timeCost : Field .timeCost timeCost? (textual Integer.readWord) where
  valued := rfl
  own wrote := own_of_bind wrote (fun _ => textual_of_readText) fun _ => rfl
  other different wrote := (keptBut_of_set wrote).timeCost different
  apart _ _ := rfl

theorem field_parallelism : Field .parallelism parallelism? (textual Integer.readWord) where
  valued := rfl
  own wrote := own_of_bind wrote (fun _ => textual_of_readText) fun _ => rfl
  other different wrote := (keptBut_of_set wrote).parallelism different
  apart _ _ := rfl

theorem field_argon2Type : Field .argon2Type variant?
    (named Argon2.Variant.identifier [.argon2d, .argon2i, .argon2id]) where
  valued := rfl
  own wrote := own_of_bind wrote (fun _ => named_of_choose) fun _ => rfl
  other different wrote := (keptBut_of_set wrote).variant different
  apart _ _ := rfl

theorem field_argon2Version : Field .argon2Version version?
    (named Argon2.Version.name [.v0x10, .v0x13]) where
  valued := rfl
  own wrote := own_of_bind wrote (fun _ => named_of_choose) fun _ => rfl
  other different wrote := (keptBut_of_set wrote).version different
  apart _ _ := rfl

end Options

end Coffer.CommandLine
