import Coffer.Bytes.Basic

/-!
# Asking for a passphrase at the terminal

The dialogue in which a passphrase is typed, once or twice. Asked for twice, it is asked for again
until both entries are equal. How a line that is typed becomes an entry is up to the reader of
lines.
-/

set_option autoImplicit false
set_option relaxedAutoImplicit false

namespace Coffer

/-- Where the dialogue stands. -/
inductive Dialogue
  | asking
  | confirming (entry : Bytes)
  | settled (passphrase : Bytes)
  deriving DecidableEq, Repr

namespace Dialogue

def prompt : Dialogue → String
  | asking => "Enter passphrase: "
  | confirming _ => "Confirm passphrase: "
  | settled _ => ""

def mismatch : String := "Passphrases mismatch, try again\n"

/-- What is shown while a passphrase is entered twice. -/
def round : String := asking.prompt ++ (confirming []).prompt

/-- Where an entry leads, and what is shown then. -/
def enter (confirm : Bool) (line : Bytes) : Dialogue → Dialogue × String
  | asking => (if confirm then confirming line else settled line, "")
  | confirming entry => if line = entry then (settled entry, "") else (asking, mismatch)
  | settled passphrase => (settled passphrase, "")

def passphrase? : Dialogue → Option Bytes
  | settled passphrase => some passphrase
  | _ => none

theorem eq_settled_of_passphrase? {d : Dialogue} {passphrase : Bytes}
    (settled : d.passphrase? = some passphrase) : d = .settled passphrase := by
  cases d with
  | settled given => exact congrArg Dialogue.settled (Option.some.inj settled)
  | asking | confirming => cases settled

end Dialogue

namespace Terminal

/-- How lines are read at the terminal. -/
structure Reader where
  /-- The entry that a line makes, or why the line is refused. -/
  entry : Bytes → Except String Bytes
  /-- What is said when no line is left. -/
  ended : String

/-- How a dialogue over typed lines ended. -/
structure Transcript where
  /-- The passphrase, or why there is none. -/
  outcome : Except String Bytes
  /-- The lines that were not used. -/
  remaining : List Bytes
  /-- What was shown. -/
  shown : String

namespace Reader

/-- Lets lines be typed until a passphrase is settled. -/
def converse (r : Reader) (confirm : Bool) (shown : String) : Dialogue → List Bytes → Transcript
  | .settled passphrase, lines => ⟨.ok passphrase, lines, shown⟩
  | d, [] => ⟨.error r.ended, [], shown ++ d.prompt⟩
  | d, line :: lines =>
    match r.entry line with
    | .error text => ⟨.error text, lines, shown ++ d.prompt⟩
    | .ok entry =>
      let (next, notice) := d.enter confirm entry
      converse r confirm (shown ++ d.prompt ++ notice) next lines

section Steps

variable {r : Reader} {confirm : Bool} {shown text : String} {d : Dialogue}
  {line again entry other : Bytes}

theorem converse_settled (passphrase : Bytes) (lines : List Bytes) :
    r.converse confirm shown (.settled passphrase) lines = ⟨.ok passphrase, lines, shown⟩ := by
  cases lines <;> rfl

theorem converse_nil (unsettled : d.passphrase? = none) :
    r.converse confirm shown d [] = ⟨.error r.ended, [], shown ++ d.prompt⟩ := by
  cases d with
  | settled passphrase => cases unsettled
  | asking | confirming => rfl

theorem converse_of_refused (unsettled : d.passphrase? = none)
    (refused : r.entry line = .error text) (lines : List Bytes) :
    r.converse confirm shown d (line :: lines) = ⟨.error text, lines, shown ++ d.prompt⟩ := by
  cases d with
  | settled passphrase => cases unsettled
  | asking | confirming =>
    simp only [converse]
    rw [refused]

theorem converse_of_entry (unsettled : d.passphrase? = none)
    (given : r.entry line = .ok entry) (lines : List Bytes) :
    r.converse confirm shown d (line :: lines) =
      r.converse confirm (shown ++ d.prompt ++ (d.enter confirm entry).2)
        (d.enter confirm entry).1 lines := by
  cases d with
  | settled passphrase => cases unsettled
  | asking | confirming =>
    simp only [converse]
    rw [given]

/-- After a first entry that has to be confirmed, the second one is waited for. -/
theorem converse_of_first (first : r.entry line = .ok entry) (lines : List Bytes) :
    r.converse true shown .asking (line :: lines) =
      r.converse true (shown ++ Dialogue.asking.prompt) (.confirming entry) lines := by
  have asked : r.converse true shown .asking (line :: lines) = _ :=
    converse_of_entry rfl first lines
  rwa [Dialogue.enter, if_pos rfl, String.append_empty] at asked

/-- Two equal entries settle the passphrase. -/
theorem converse_of_same (first : r.entry line = .ok entry) (second : r.entry again = .ok entry)
    (lines : List Bytes) :
    r.converse true shown .asking (line :: again :: lines) =
      ⟨.ok entry, lines, shown ++ Dialogue.round⟩ := by
  rw [converse_of_first first, converse_of_entry rfl second, Dialogue.enter, if_pos rfl,
    converse_settled, String.append_empty, String.append_assoc]
  rfl

/-- Two different entries come to nothing. -/
theorem converse_of_other (first : r.entry line = .ok entry) (second : r.entry again = .ok other)
    (apart : other ≠ entry) (lines : List Bytes) :
    r.converse true shown .asking (line :: again :: lines) =
      r.converse true (shown ++ (Dialogue.round ++ Dialogue.mismatch)) .asking lines := by
  rw [converse_of_first first, converse_of_entry rfl second, Dialogue.enter, if_neg apart,
    Dialogue.round]
  simp only [String.append_assoc]
  rfl

end Steps

def ask (r : Reader) (confirm : Bool) (lines : List Bytes) : Transcript :=
  r.converse confirm "" .asking lines

end Reader

end Terminal

end Coffer
