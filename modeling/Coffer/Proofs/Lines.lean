import Coffer.Passphrase
import Coffer.Proofs.Session

/-!
# Lines of a stream

To read a line is one round of calls. A round goes on behind calls that bring no line feed, and it
ends with the first call that brings one, that brings nothing, or that fails; the next round begins
with the next call. What a round has gathered is lost with a failure, and what its last call brings
behind the line feed is lost with the line. The first line does not depend on how its bytes are cut
into chunks.
-/

set_option autoImplicit false
set_option relaxedAutoImplicit false

namespace Coffer

namespace Stream

/-! ### First lines -/

/-- The bytes in front of the first line feed end in a carriage return. -/
def EndsInReturn (content : Bytes) : Prop :=
  lineFeed ∈ content ∧ (content.takeWhile (· != lineFeed)).getLast? = some carriageReturn

instance (content : Bytes) : Decidable (EndsInReturn content) :=
  inferInstanceAs (Decidable (_ ∧ _))

/-- The first line of a byte string: the bytes before its first line feed, or all of them if there
is none, without a carriage return that stands directly before the line feed. -/
def lineOf (content : Bytes) : Bytes :=
  if EndsInReturn content then (content.takeWhile (· != lineFeed)).dropLast
  else content.takeWhile (· != lineFeed)

/-- A line without a carriage return at its end. -/
def withoutReturn (line : Bytes) : Bytes :=
  if line.getLast? = some carriageReturn then line.dropLast else line

variable {line before behind : Bytes}

theorem ne_lineFeed_of_not_mem (endless : lineFeed ∉ line) :
    ∀ b ∈ line, (b != lineFeed) = true := by
  intro b member
  exact bne_iff_ne.2 fun same => endless (same ▸ member)

theorem takeWhile_of_not_mem (endless : lineFeed ∉ line) :
    line.takeWhile (· != lineFeed) = line := by
  have whole : (line ++ []).takeWhile (· != lineFeed) = line ++ [] :=
    List.takeWhile_append_of_pos (ne_lineFeed_of_not_mem endless)
  rwa [List.append_nil] at whole

theorem takeWhile_append_lineFeed (plain : lineFeed ∉ before) :
    (before ++ lineFeed :: behind).takeWhile (· != lineFeed) = before := by
  rw [List.takeWhile_append_of_pos (ne_lineFeed_of_not_mem plain),
    List.takeWhile_cons_of_neg (by simp), List.append_nil]

/-- Bytes without a line feed are a line, whatever their last byte is. -/
theorem lineOf_of_not_mem (endless : lineFeed ∉ line) : lineOf line = line := by
  have plain : ¬ EndsInReturn line := fun turned => endless turned.1
  rw [lineOf, if_neg plain, takeWhile_of_not_mem endless]

theorem lineOf_append_lineFeed (plain : lineFeed ∉ before) :
    lineOf (before ++ lineFeed :: behind) = withoutReturn before := by
  have present : lineFeed ∈ before ++ lineFeed :: behind := by simp
  unfold lineOf withoutReturn EndsInReturn
  simp only [takeWhile_append_lineFeed plain, present, true_and]

theorem stripEnd_of_not_mem (endless : lineFeed ∉ line) : stripEnd line = line := by
  have unended : line.getLast? ≠ some lineFeed := fun last => endless (List.mem_of_getLast? last)
  exact if_neg unended

theorem stripEnd_append_lineFeed (line : Bytes) :
    stripEnd (line ++ [lineFeed]) = withoutReturn line := by
  rw [stripEnd, if_pos List.getLast?_concat, List.dropLast_concat]
  rfl

/-! ### Calls -/

/-- The bytes that a call brings. -/
def Event.bytes : Event → Bytes
  | .data chunk => chunk
  | .interrupted | .failure _ => []

/-- The bytes that calls bring, one after another. -/
def gathered (events : List Event) : Bytes := events.flatMap Event.bytes

/-- A line goes on behind a call that brings some bytes without a line feed, or is interrupted. -/
def Event.Continues : Event → Prop
  | .data chunk => chunk ≠ [] ∧ lineFeed ∉ chunk
  | .interrupted => True
  | .failure _ => False

/-- What successive calls meet when lines are read, and the stream that they leave. -/
inductive Calls : Stream → List Event → Stream → Prop
  | none (s : Stream) : Calls s [] s
  | more {s rest : Stream} {events : List Event} (later : Calls (s.call callSize).2 events rest) :
    Calls s ((s.call callSize).1 :: events) rest

variable {s mid rest : Stream} {e : Event} {front back events : List Event} {chunk : Bytes}

@[simp] theorem gathered_nil : gathered [] = [] := rfl

@[simp] theorem gathered_cons (e : Event) (events : List Event) :
    gathered (e :: events) = e.bytes ++ gathered events := rfl

@[simp] theorem gathered_append (front back : List Event) :
    gathered (front ++ back) = gathered front ++ gathered back :=
  List.flatMap_append

/-- No line feed comes before the call that ends a line. -/
theorem not_mem_gathered (continues : ∀ e ∈ front, e.Continues) : lineFeed ∉ gathered front := by
  intro present
  obtain ⟨e, member, brought⟩ := List.mem_flatMap.1 present
  have goes := continues e member
  cases e with
  | data chunk => exact goes.2 brought
  | interrupted => exact absurd brought List.not_mem_nil
  | failure text => exact goes

theorem Calls.one (s : Stream) : Calls s [(s.call callSize).1] (s.call callSize).2 :=
  .more (.none _)

theorem Calls.append (first : Calls s front mid) (second : Calls mid back rest) :
    Calls s (front ++ back) rest := by
  induction first with
  | none s => exact second
  | more later ih => exact .more (ih second)

theorem Calls.split (calls : Calls s (front ++ back) rest) :
    ∃ mid, Calls s front mid ∧ Calls mid back rest := by
  induction front generalizing s with
  | nil => exact ⟨s, .none s, calls⟩
  | cons e front ih =>
    cases calls with
    | more later =>
      obtain ⟨mid, first, second⟩ := ih later
      exact ⟨mid, .more first, second⟩

/-- No call brings more bytes than it asks for. -/
theorem length_call_le (s : Stream) (met : (s.call callSize).1 = .data chunk) :
    chunk.length ≤ callSize := by
  obtain ⟨events⟩ := s
  unfold call at met
  cases events with
  | nil =>
    cases met
    exact Nat.zero_le _
  | cons event events =>
    cases event with
    | interrupted => cases met
    | failure text => cases met
    | data content =>
      dsimp only at met
      split at met
      · rename_i whole
        cases met
        exact whole
      · cases met
        exact List.length_take_le _ _

theorem Calls.length_le (calls : Calls s events rest) (member : .data chunk ∈ events) :
    chunk.length ≤ callSize := by
  induction calls with
  | none s => exact absurd member List.not_mem_nil
  | @more s rest events later ih =>
    rcases List.mem_cons.1 member with first | later
    · exact length_call_le s first.symm
    · exact ih later

/-- Between two calls nothing is lost. -/
theorem gathered_call (s : Stream) :
    gathered s.events = (s.call callSize).1.bytes ++ gathered (s.call callSize).2.events := by
  obtain ⟨events⟩ := s
  unfold call
  cases events with
  | nil => rfl
  | cons event events =>
    cases event with
    | interrupted => rfl
    | failure text => rfl
    | data content =>
      dsimp only
      split
      · rfl
      · have cut : content = content.take callSize ++ content.drop callSize :=
          (List.take_append_drop callSize content).symm
        calc content ++ gathered events
            = (content.take callSize ++ content.drop callSize) ++ gathered events := by rw [← cut]
          _ = content.take callSize ++ (content.drop callSize ++ gathered events) :=
              List.append_assoc _ _ _

theorem Calls.gathered_eq (calls : Calls s events rest) :
    gathered s.events = gathered events ++ gathered rest.events := by
  induction calls with
  | none s => rfl
  | @more s rest events later ih => rw [gathered_call s, ih, gathered_cons, List.append_assoc]

/-! ### Rounds -/

/-- What the calls for one line meet, and what comes of them: a line, the rest of the input if
there is no more, or a failure. -/
inductive Round : List Event → Except String Bytes → Prop
  | line {front : List Event} {before behind : Bytes} (continues : ∀ e ∈ front, e.Continues)
    (plain : lineFeed ∉ before) :
    Round (front ++ [.data (before ++ lineFeed :: behind)])
      (.ok (withoutReturn (gathered front ++ before)))
  | ended {front : List Event} (continues : ∀ e ∈ front, e.Continues) :
    Round (front ++ [.data []]) (.ok (gathered front))
  | failed {front : List Event} {text : String} (continues : ∀ e ∈ front, e.Continues) :
    Round (front ++ [.failure text]) (.error text)

theorem continues_concat (continues : ∀ e ∈ front, e.Continues) (goes : e.Continues) :
    ∀ d ∈ front ++ [e], d.Continues := by
  intro d member
  rcases List.mem_append.1 member with old | new
  · exact continues d old
  · rw [List.mem_singleton.1 new]
    exact goes

/-- A line of which some calls have been made is completed by the other calls of its round. -/
theorem exists_round_of_readLineFrom (continues : ∀ e ∈ front, e.Continues) (s : Stream) :
    ∃ events outcome rest, Calls s events rest ∧ Round (front ++ events) outcome ∧
      readLineFrom (gathered front) s = (outcome, rest) := by
  generalize begun : gathered front = line
  fun_induction readLineFrom line s generalizing front with
  | case1 line s rest called =>
    have calls := Calls.one s
    rw [called] at calls
    subst begun
    refine ⟨_, _, _, calls, .ended continues, ?_⟩
    rw [stripEnd_of_not_mem (not_mem_gathered continues)]
  | case2 line s b chunk rest called ends =>
    have calls := Calls.one s
    rw [called] at calls
    subst begun
    obtain ⟨before, behind, cut, plain⟩ := List.eq_append_cons_of_mem ends
    rw [cut] at calls
    refine ⟨_, _, _, calls, .line continues plain, ?_⟩
    rw [cut, throughLineFeed, takeWhile_append_lineFeed plain, ← List.append_assoc,
      stripEnd_append_lineFeed]
  | case3 line s b chunk rest called endless ih =>
    have goes : (Event.data (b :: chunk)).Continues := ⟨List.cons_ne_nil b chunk, endless⟩
    have calls := Calls.one s
    rw [called] at calls
    obtain ⟨events, outcome, last, later, round, ran⟩ :=
      ih (continues_concat continues goes) (by simp [begun, Event.bytes])
    refine ⟨_, outcome, last, calls.append later, ?_, ran⟩
    rwa [← List.append_assoc]
  | case4 line s rest called ih =>
    have calls := Calls.one s
    rw [called] at calls
    obtain ⟨events, outcome, last, later, round, ran⟩ :=
      ih (continues_concat continues (e := .interrupted) trivial) (by simp [begun, Event.bytes])
    refine ⟨_, outcome, last, calls.append later, ?_, ran⟩
    rwa [← List.append_assoc]
  | case5 line s text rest called =>
    have calls := Calls.one s
    rw [called] at calls
    exact ⟨_, _, _, calls, .failed continues, rfl⟩

theorem exists_round (s : Stream) :
    ∃ events outcome rest, Calls s events rest ∧ Round events outcome ∧
      s.readLine = (outcome, rest) := by
  have start : ∀ e ∈ ([] : List Event), e.Continues := fun _ member =>
    absurd member List.not_mem_nil
  exact exists_round_of_readLineFrom start s

/-! ### What a script brings -/

/-- The script up to the first call that brings no bytes, which is the end of the input. -/
def untilEnd (events : List Event) : List Event := events.takeWhile (· ≠ .data [])

/-- Every failure comes behind a line feed. -/
def FailsBehindLine (events : List Event) : Prop :=
  ∀ front text back, events = front ++ .failure text :: back → lineFeed ∈ gathered front

/-- The stream brings the bytes before its input ends, and fails behind the first line only. -/
structure Brings (s : Stream) (content : Bytes) : Prop where
  content : gathered (untilEnd s.events) = content
  unfailing : FailsBehindLine (untilEnd s.events)

theorem failsBehindLine_nil : FailsBehindLine [] := by
  intro front text back split
  exact absurd split (by simp)

theorem failsBehindLine_cons_iff :
    FailsBehindLine (e :: events) ↔
      (∀ text, e ≠ .failure text) ∧ (lineFeed ∈ e.bytes ∨ FailsBehindLine events) := by
  constructor
  · intro behind
    constructor
    · rintro text rfl
      exact absurd (behind [] text events rfl) List.not_mem_nil
    · by_cases here : lineFeed ∈ e.bytes
      · exact .inl here
      · refine .inr fun front text back split => ?_
        have brought := behind (e :: front) text back (by rw [split, List.cons_append])
        exact (List.mem_append.1 brought).resolve_left here
  · rintro ⟨sound, brought⟩ front text back split
    cases front with
    | nil =>
      rw [List.nil_append, List.cons.injEq] at split
      exact absurd split.1 (sound text)
    | cons d front =>
      rw [List.cons_append, List.cons.injEq] at split
      obtain ⟨rfl, split⟩ := split
      rw [gathered_cons, List.mem_append]
      exact brought.imp_right fun behind => behind front text back split

theorem untilEnd_ended (events : List Event) : untilEnd (.data [] :: events) = [] :=
  List.takeWhile_cons_of_neg (by simp)

theorem untilEnd_cons (goes : e ≠ .data []) :
    untilEnd (e :: events) = e :: untilEnd events :=
  List.takeWhile_cons_of_pos (decide_eq_true goes)

/-- What a call meets before the line is complete, and what is brought after it. -/
inductive Meets (content : Bytes) : Event × Stream → Prop
  | ended {rest : Stream} (nothing : content = []) : Meets content (.data [], rest)
  | data {chunk more : Bytes} {rest : Stream} (some : chunk ≠ []) (split : content = chunk ++ more)
    (left : lineFeed ∉ chunk → rest.Brings more) : Meets content (.data chunk, rest)
  | interrupted {rest : Stream} (left : rest.Brings content) : Meets content (.interrupted, rest)

variable {content : Bytes}

theorem Meets.of_data (met : Meets content (.data chunk, rest)) :
    (chunk = [] → content = []) ∧ ∃ more, content = chunk ++ more := by
  cases met with
  | ended nothing => exact ⟨fun _ => nothing, [], nothing⟩
  | data some split left => exact ⟨fun none => absurd none some, _, split⟩

theorem Brings.meets (brings : s.Brings content) : Meets content (s.call callSize) := by
  obtain ⟨events⟩ := s
  obtain ⟨rfl, unfailing⟩ := brings
  dsimp only at unfailing ⊢
  cases events with
  | nil => exact .ended rfl
  | cons event events =>
    cases event with
    | interrupted =>
      rw [untilEnd_cons (by simp)] at unfailing ⊢
      exact .interrupted
        ⟨rfl, (failsBehindLine_cons_iff.1 unfailing).2.resolve_left List.not_mem_nil⟩
    | failure text =>
      rw [untilEnd_cons (by simp)] at unfailing
      exact absurd rfl ((failsBehindLine_cons_iff.1 unfailing).1 text)
    | data chunk =>
      by_cases nothing : chunk = []
      · subst nothing
        rw [untilEnd_ended]
        exact .ended rfl
      have goes : Event.data chunk ≠ .data [] := fun same => nothing (Event.data.inj same)
      rw [untilEnd_cons goes] at unfailing ⊢
      have behind := (failsBehindLine_cons_iff.1 unfailing).2
      by_cases whole : chunk.length ≤ callSize
      · have met : call callSize ⟨.data chunk :: events⟩ = (.data chunk, ⟨events⟩) :=
          if_pos whole
        rw [met]
        exact .data nothing rfl fun plain => ⟨rfl, behind.resolve_left plain⟩
      · -- A chunk that is too long for the call is cut, and what is left of it is not empty.
        have met : call callSize ⟨.data chunk :: events⟩ =
            (.data (chunk.take callSize), ⟨.data (chunk.drop callSize) :: events⟩) :=
          if_neg whole
        have left : Event.data (chunk.drop callSize) ≠ .data [] := fun same =>
          whole (List.drop_eq_nil_iff.1 (Event.data.inj same))
        have cut : chunk.take callSize ++ chunk.drop callSize = chunk :=
          List.take_append_drop callSize chunk
        have some : chunk.take callSize ≠ [] := by simp [nothing, callSize]
        have split : gathered (.data chunk :: untilEnd events) =
            chunk.take callSize ++ (chunk.drop callSize ++ gathered (untilEnd events)) := by
          rw [← List.append_assoc, cut]
          rfl
        rw [met]
        refine .data some split fun plain => ?_
        constructor
        · dsimp only
          rw [untilEnd_cons left]
          rfl
        · dsimp only
          rw [untilEnd_cons left, failsBehindLine_cons_iff]
          refine ⟨nofun, behind.imp_left fun brought => ?_⟩
          have somewhere : lineFeed ∈ chunk.take callSize ++ chunk.drop callSize := by
            rw [cut]
            exact brought
          exact (List.mem_append.1 somewhere).resolve_left plain

/-- The calls before the last one of a round bring the front of what the stream brings. -/
theorem Brings.after_calls (brings : s.Brings content) (calls : Calls s front mid)
    (continues : ∀ e ∈ front, e.Continues) :
    ∃ more, content = gathered front ++ more ∧ mid.Brings more := by
  induction calls generalizing content with
  | none s => exact ⟨content, rfl, brings⟩
  | @more s rest events later ih =>
    have goes := continues _ List.mem_cons_self
    have onward : ∀ e ∈ events, e.Continues := fun e member =>
      continues e (List.mem_cons_of_mem _ member)
    have met := brings.meets
    generalize s.call callSize = called at later goes ih met ⊢
    cases met with
    | ended nothing => exact absurd rfl goes.1
    | data some split left =>
      obtain ⟨more, rfl, brings⟩ := ih (left goes.2) onward
      exact ⟨more, by rw [split, gathered_cons, List.append_assoc]; rfl, brings⟩
    | interrupted left => exact ih left onward

theorem Brings.at_last (brings : s.Brings content) (calls : Calls s (front ++ [e]) rest)
    (continues : ∀ d ∈ front, d.Continues) :
    ∃ more, content = gathered front ++ more ∧ Meets more (e, rest) := by
  obtain ⟨mid, first, last⟩ := calls.split
  obtain ⟨more, split, brings⟩ := brings.after_calls first continues
  cases last with
  | more later =>
    cases later with
    | none => exact ⟨more, split, brings.meets⟩

/-- A stream gives the first line of what it brings, whichever way that is cut into chunks. -/
theorem readLine_of_brings (brings : s.Brings content) : s.readLine.1 = .ok (lineOf content) := by
  obtain ⟨events, outcome, rest, calls, round, ran⟩ := exists_round s
  rw [ran]
  cases round with
  | @line front before behind continues plain =>
    obtain ⟨more, rfl, met⟩ := brings.at_last calls continues
    obtain ⟨later, rfl⟩ := met.of_data.2
    have unended : lineFeed ∉ gathered front ++ before := by
      rw [List.mem_append, not_or]
      exact ⟨not_mem_gathered continues, plain⟩
    have whole : gathered front ++ (before ++ lineFeed :: behind ++ later) =
        gathered front ++ before ++ lineFeed :: (behind ++ later) := by simp
    rw [whole, lineOf_append_lineFeed unended]
  | @ended front continues =>
    obtain ⟨more, rfl, met⟩ := brings.at_last calls continues
    rw [met.of_data.1 rfl, List.append_nil, lineOf_of_not_mem (not_mem_gathered continues)]
  | @failed front text continues =>
    obtain ⟨more, rfl, met⟩ := brings.at_last calls continues
    cases met

end Stream

namespace PassphraseSource

open Session Coffer.Stream

section Readings

variable {m : Type → Type} [Monad m] [Surroundings m]

/-- What successive readings of a source give, and what is left of it after them. -/
def readTimes : Nat → PassphraseSource → m (List (Except Error Bytes) × PassphraseSource)
  | 0, source => return ([], source)
  | n + 1, source => do
    let (answer, source) ← source.read
    let (answers, source) ← readTimes n source
    return (answer :: answers, source)

end Readings

variable {stream : Coffer.Stream} {s : Session}

theorem answer_stream_of_brings {content : Bytes} (brings : stream.Brings content) :
    (((PassphraseSource.stream stream).read : Run _) s).1.1 = .ok (lineOf content) := by
  change stream.readLine.1.mapError streamFailure = _
  rw [readLine_of_brings brings]
  rfl

/-- Every reading is one round of calls, and the next one starts with the next call. -/
theorem exists_rounds (n : Nat) (stream : Coffer.Stream) (s : Session) :
    ∃ rounds : List (List Stream.Event × Except String Bytes), ∃ rest, rounds.length = n ∧
      (∀ r ∈ rounds, Round r.1 r.2) ∧ Calls stream (rounds.flatMap Prod.fst) rest ∧
      (readTimes n (.stream stream) : Run _) s =
        ((rounds.map fun r => r.2.mapError streamFailure, .stream rest), s) := by
  induction n generalizing stream with
  | zero => exact ⟨[], stream, rfl, nofun, .none stream, rfl⟩
  | succ n ih =>
    obtain ⟨events, outcome, mid, calls, round, ran⟩ := exists_round stream
    obtain ⟨rounds, rest, count, all, later, read⟩ := ih mid
    refine ⟨(events, outcome) :: rounds, rest, congrArg (· + 1) count, ?_, calls.append later, ?_⟩
    · intro r member
      rcases List.mem_cons.1 member with rfl | old
      · exact round
      · exact all r old
    · have first : ((PassphraseSource.stream stream).read : Run _) s =
          ((outcome.mapError streamFailure, .stream mid), s) := by
        have answer : ((PassphraseSource.stream stream).read : Run _) s =
          ((stream.readLine.1.mapError streamFailure, .stream stream.readLine.2), s) := rfl
        rw [answer, ran]
      unfold readTimes
      rw [bind_eq, first]
      dsimp only
      rw [bind_eq, read]
      rfl

/-- However often a stream is read from, each reading is one round of calls for at most 8192 bytes:
it gathers what comes before the first line feed, or before the end of the input, or it is refused
for the call that failed. The calls of all readings are the first calls that the stream meets, one
round after the other, and what they have not brought is still in the stream. The first line depends
on the bytes before the end of the input only, if no call fails before it is complete. -/
theorem readings_are_rounds (n : Nat) (stream : Coffer.Stream) (s : Session) :
    (∃ rounds : List (List Stream.Event × Except String Bytes), ∃ rest, rounds.length = n ∧
      (∀ r ∈ rounds, Round r.1 r.2) ∧ Calls stream (rounds.flatMap Prod.fst) rest ∧
      (∀ chunk, .data chunk ∈ rounds.flatMap Prod.fst → chunk.length ≤ 8192) ∧
      gathered stream.events = gathered (rounds.flatMap Prod.fst) ++ gathered rest.events ∧
      (readTimes n (.stream stream) : Run _) s =
        ((rounds.map fun r => r.2.mapError streamFailure, .stream rest), s)) ∧
    (∀ text, (streamFailure text).kind = .inputOutput ∧
      (streamFailure text).source = some (.cause (.plain text))) ∧
    (FailsBehindLine (untilEnd stream.events) →
      (((PassphraseSource.stream stream).read : Run _) s).1.1 =
        .ok (lineOf (gathered (untilEnd stream.events)))) := by
  refine ⟨?_, fun text => ⟨rfl, rfl⟩, fun unfailing => ?_⟩
  · obtain ⟨rounds, rest, count, all, calls, read⟩ := exists_rounds n stream s
    exact ⟨rounds, rest, count, all, calls, fun chunk member => calls.length_le member,
      calls.gathered_eq, read⟩
  · exact answer_stream_of_brings ⟨rfl, unfailing⟩

/-- A line that is cut between a carriage return and its line feed, with an interruption there, and
a failure behind it. -/
def brokenScript : Coffer.Stream :=
  ⟨[.data [112, 119, 13], .interrupted, .data [10, 120], .failure "broken", .data [97]]⟩

theorem readings_are_rounds_broken_script :
    FailsBehindLine (untilEnd brokenScript.events) ∧
      (((PassphraseSource.stream brokenScript).read : Run _)
        ({ draw := ⟨default, default⟩ } : Session)).1.1 = .ok [112, 119] := by
  have unfailing : FailsBehindLine (untilEnd brokenScript.events) := by
    have whole : untilEnd brokenScript.events = brokenScript.events := by decide
    rw [whole]
    simp [brokenScript, failsBehindLine_cons_iff, Event.bytes, lineFeed]
  exact ⟨unfailing, (readings_are_rounds 1 brokenScript _).2.2 unfailing⟩

end PassphraseSource

end Coffer
