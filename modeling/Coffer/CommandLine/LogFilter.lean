import Coffer.Event
import Coffer.Text.Blank
import Coffer.Text.Pattern

/-!
# Filters of events

A filter is a list of directives between commas. A directive gives a level to all events, to those
from parts of the program whose name starts with its target, or to those that have a field. Of the
directives that apply to an event the most specific one counts. All events of this program are of
the level `debug`.
-/

set_option autoImplicit false
set_option relaxedAutoImplicit false

namespace Coffer.CommandLine

/-- How much is shown. -/
inductive LogLevel
  | off | error | warn | info | debug | trace
  deriving DecidableEq, Repr

namespace LogLevel

/-- The levels with their names, in the order of their numbers. -/
def named : List (String × LogLevel) :=
  [("off", off), ("error", error), ("warn", warn), ("info", info), ("debug", debug),
    ("trace", trace)]

/-- The number that digits stand for; a plus may stand before them. -/
def ofDigits? (cs : List Char) : Option Nat :=
  let cs := if cs.head? = some '+' then cs.tail else cs
  if cs ≠ [] ∧ cs.all Char.isDigit then
    some (cs.foldl (fun n c => n * 10 + (c.toNat - '0'.toNat)) 0)
  else none

/-- The level that a number or a name, in any case, stands for. -/
def read? (cs : List Char) : Option LogLevel :=
  match ofDigits? cs with
  | some n => named[n]?.map Prod.snd
  | none => named.lookup (String.ofList (cs.map Char.toLower))

/-- Whether events of the level `debug` are shown. -/
def showsDebug : LogLevel → Bool
  | debug | trace => true
  | _ => false

end LogLevel

/-- A part of a filter: what it applies to, and the level that it gives. -/
structure Directive where
  level : LogLevel
  /-- What the name of a part of the program has to start with. -/
  target : String := ""
  /-- A field that an event must have. -/
  field? : Option String := none
  /-- Whether it names a span or the value of a field; no event of this program lies in a span. -/
  withinSpan : Bool := false
  deriving DecidableEq, Repr

/-- A place in a text, counted in bytes, and the characters from there on. -/
structure Cursor where
  place : Nat
  rest : List Char
  deriving DecidableEq, Repr

/-- The first place from a cursor on where one of the given characters stands, or the end. -/
def Cursor.seek (c : Cursor) (stops : List Char) : Cursor :=
  let passed := c.rest.takeWhile fun d => !stops.contains d
  ⟨c.place + (Utf8.encode (String.ofList passed)).length, c.rest.drop passed.length⟩

namespace FieldValue

/-- Whether a text is a decimal number without a sign, or a word for what is none. -/
def isUnsigned (cs : List Char) : Bool :=
  let mantissa := cs.takeWhile fun c => c.isDigit || c == '.'
  ["inf", "infinity", "nan"].contains (String.ofList (cs.map Char.toLower)) ||
    (mantissa.any Char.isDigit && mantissa.count '.' ≤ 1 &&
      match cs.drop mantissa.length with
      | [] => true
      | e :: power =>
        let digits := if power.head? = some '-' ∨ power.head? = some '+' then power.tail else power
        e.toLower == 'e' && digits != [] && digits.all Char.isDigit)

/-- Whether a text is the value of a field: a pattern, or a number with a plus in front. -/
def isValue (cs : List Char) : Bool :=
  Text.Pattern.isPattern cs || (cs.head? == some '+' && isUnsigned cs.tail)

end FieldValue

namespace Directive

/-- Whether a directive may begin with the character. -/
def mayBegin (c : Char) : Bool := Text.isAlphanumeric c || c == '-' || c == ':' || c == '_'

/-- What stands between two places of a piece, if it is a text. -/
def cut? (piece : Bytes) (first last : Nat) : Option String :=
  Utf8.decode? ((piece.take last).drop first)

/-- The level from a place on; nothing stands for all levels. -/
def readLevel? (piece : Bytes) (place : Nat) : Option LogLevel := do
  let name ← cut? piece place piece.length
  if name = "" then some .trace else LogLevel.read? name.toList

/-- The level after a span: all levels, unless one is given. -/
def readLevelAfter? (piece : Bytes) (c : Cursor) : Option LogLevel :=
  match c.rest with
  | [] => some .trace
  | '=' :: _ => readLevel? piece (c.place + 1)
  | _ => none

/-- The name of a field, and whether a value is asked for; the value ends with a second
equals sign. -/
def readField? (s : String) : Option (String × Bool) :=
  match s.toList.dropWhile (· != '=') with
  | [] => if s = "" then none else some (s, false)
  | _ :: value =>
    if FieldValue.isValue (value.takeWhile (· != '=')) then
      some (String.ofList (s.toList.takeWhile (· != '=')), true)
    else none

/-- The directive for a target and for the span and the field from a cursor on. -/
def readSpan? (piece : Bytes) (target : String) (c : Cursor) : Option Directive := do
  let stop := c.seek [']', '\x7b']
  let span ← cut? piece c.place stop.place
  match stop.rest with
  | ']' :: rest =>
    let level ← readLevelAfter? piece ⟨stop.place + 1, rest⟩
    return { level, target, withinSpan := true }
  | _ :: rest =>
    let field : Cursor := ⟨stop.place + 1, rest⟩
    let close := field.seek ['\x7d']
    match close.rest with
    | _ :: ']' :: rest =>
      let (name, hasValue) ← readField? (← cut? piece field.place close.place)
      let level ← readLevelAfter? piece ⟨close.place + 2, rest⟩
      return { level, target, field? := some name, withinSpan := span != "" || hasValue }
    | _ => none
  | [] => none

/-- The directive without a span or a level, which is a level or a target. -/
def ofWord (s : String) : Directive :=
  match LogLevel.read? s.toList with
  | some level => { level }
  | none => { level := .trace, target := s }

/-- The directive that a piece stands for. It is read without the blanks around it, but its parts
are cut out of the piece as it is written, at the places that they have without the blanks. -/
def read? (piece : String) : Option Directive := do
  let text := Text.trim piece.toList
  let bytes := Utf8.encode piece
  match text with
  | [] => none
  | '[' :: rest => readSpan? bytes "" ⟨1, rest⟩
  | c :: _ =>
    if !mayBegin c then none
    else
      let stop := Cursor.seek ⟨0, text⟩ ['=', '[']
      match stop.rest with
      | [] => return ofWord piece
      | d :: rest =>
        let target ← cut? bytes 0 stop.place
        if d = '[' then readSpan? bytes target ⟨stop.place + 1, rest⟩
        else return { level := ← readLevel? bytes (stop.place + 1), target }

def appliesTo (d : Directive) (e : Event) : Bool :=
  !d.withinSpan && d.target.toList.isPrefixOf e.target.toList && d.field?.all e.fields.contains

/-- Whether another directive, which was given later, counts instead of this one: the longer
target comes first, then a field, and then the name of the field that is later in order. -/
def yieldsTo (d later : Directive) : Bool :=
  if d.target.length = later.target.length then
    match d.field?, later.field? with
    | none, _ => true
    | some _, none => false
    | some a, some b => !(List.lex b.toList a.toList fun x y => Nat.blt x.toNat y.toNat)
  else d.target.length < later.target.length

end Directive

/-- Which events are shown. -/
structure LogFilter where
  directives : List Directive
  deriving DecidableEq, Repr

namespace LogFilter

/-- The filter that gives one level to all events. -/
def atLevel (level : LogLevel) : LogFilter := ⟨[{ level }]⟩

def pieces : List Char → List (List Char)
  | [] => [[]]
  | ',' :: rest => [] :: pieces rest
  | c :: rest =>
    match pieces rest with
    | piece :: more => (c :: piece) :: more
    | [] => [[c]]

/-- The filter that a text stands for; without a directive, errors are shown. -/
def read? (s : String) : Option LogFilter :=
  match (pieces s.toList).filter (· != []) with
  | [] => some (atLevel .error)
  | ps => (ps.mapM fun piece => Directive.read? (String.ofList piece)).map LogFilter.mk

/-- The filter for the value of an environment variable; without a usable one, warnings
are shown. -/
def ofVariable (value : Option Bytes) : LogFilter :=
  ((value.bind Utf8.decode?).bind read?).getD (atLevel .warn)

/-- The directive that counts for an event after one more has been read. -/
def choose (e : Event) (best : Option Directive) (d : Directive) : Option Directive :=
  if d.appliesTo e && best.all (·.yieldsTo d) then some d else best

def directiveFor? (f : LogFilter) (e : Event) : Option Directive :=
  f.directives.foldl (choose e) none

def showsEvent (f : LogFilter) (e : Event) : Bool := (f.directiveFor? e).any (·.level.showsDebug)

end LogFilter

end Coffer.CommandLine
