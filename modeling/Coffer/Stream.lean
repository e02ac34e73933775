import Coffer.Bytes.Basic

/-!
# Streams

A stream delivers bytes in chunks; a call for bytes may also be interrupted or fail. A line is
read in calls of a fixed size, and what such a call delivers beyond the end of the line is lost.
-/

set_option autoImplicit false
set_option relaxedAutoImplicit false

namespace Coffer

/-- What a call for bytes may meet. -/
inductive Stream.Event
  | data (chunk : Bytes)
  | interrupted
  | failure (text : String)
  deriving DecidableEq, Repr

/-- What successive calls will meet; after that, the input has ended. -/
structure Stream where
  events : List Stream.Event := []
  deriving DecidableEq, Repr

namespace Stream

/-- The number of bytes that a call asks for when a line is read. -/
def callSize : Nat := 8192

def lineFeed : UInt8 := 0x0a

/-- The character that may stand before the end of a line. -/
def carriageReturn : UInt8 := 0x0d

/-- What one call for at most `size` bytes gives; no bytes mean that the input has ended. -/
def call (size : Nat) (s : Stream) : Event × Stream :=
  match s.events with
  | [] => (.data [], s)
  | .data chunk :: rest =>
    if chunk.length ≤ size then (.data chunk, ⟨rest⟩)
    else (.data (chunk.take size), ⟨.data (chunk.drop size) :: rest⟩)
  | event :: rest => (event, ⟨rest⟩)

/-- A bound on the number of calls that can meet part of an event. -/
def Event.weight : Event → Nat
  | .data chunk => 1 + chunk.length
  | _ => 1

/-- A bound on the number of calls that the stream can meet before it ends. -/
def weight (s : Stream) : Nat := s.events.foldr (fun event n => event.weight + n) 0

theorem weight_cons (event : Event) (rest : List Event) :
    weight ⟨event :: rest⟩ = event.weight + weight ⟨rest⟩ := rfl

theorem Event.weight_pos (event : Event) : 0 < event.weight := by
  cases event <;> simp only [Event.weight] <;> omega

/-- A call uses up part of the stream, unless it finds the end. -/
theorem weight_call_lt {size : Nat} {s : Stream} (h : (s.call size).1 ≠ .data []) (pos : 0 < size) :
    (s.call size).2.weight < s.weight := by
  obtain ⟨events⟩ := s
  unfold call at h ⊢
  cases events with
  | nil => exact absurd rfl h
  | cons event rest =>
    have used := event.weight_pos
    cases event with
    | data chunk =>
      dsimp only
      split
      · rw [weight_cons]
        exact Nat.lt_add_of_pos_left used
      · rw [weight_cons, weight_cons, Event.weight, Event.weight, List.length_drop]
        omega
    | interrupted =>
      rw [weight_cons]
      exact Nat.lt_add_of_pos_left used
    | failure text =>
      rw [weight_cons]
      exact Nat.lt_add_of_pos_left used

/-- A line without its end: a line feed, and a carriage return before it. -/
def stripEnd (line : Bytes) : Bytes :=
  if line.getLast? = some lineFeed then
    let line := line.dropLast
    if line.getLast? = some carriageReturn then line.dropLast else line
  else line

/-- The bytes up to the first line feed, which is included. -/
def throughLineFeed (chunk : Bytes) : Bytes :=
  chunk.takeWhile (· != lineFeed) ++ [lineFeed]

/-- Goes on reading a line of which some bytes are there. -/
def readLineFrom (line : Bytes) (s : Stream) : Except String Bytes × Stream :=
  match _called : s.call callSize with
  | (.data [], rest) => (.ok (stripEnd line), rest)
  | (.data (b :: chunk), rest) =>
    if lineFeed ∈ b :: chunk then (.ok (stripEnd (line ++ throughLineFeed (b :: chunk))), rest)
    else readLineFrom (line ++ b :: chunk) rest
  | (.interrupted, rest) => readLineFrom line rest
  | (.failure text, rest) => (.error text, rest)
termination_by s.weight
decreasing_by
  · have used := @weight_call_lt callSize s (by rw [_called]; simp) (by decide)
    rwa [_called] at used
  · have used := @weight_call_lt callSize s (by rw [_called]; simp) (by decide)
    rwa [_called] at used

/-- Reads a line, or as much of one as there is before the end of the input. -/
def readLine (s : Stream) : Except String Bytes × Stream := readLineFrom [] s

/-- Goes on reading all bytes after some that are there. -/
def readAllFrom (front : Bytes) (s : Stream) : Except String Bytes × Stream :=
  match _called : s.call callSize with
  | (.data [], rest) => (.ok front, rest)
  | (.data (b :: chunk), rest) => readAllFrom (front ++ b :: chunk) rest
  | (.interrupted, rest) => readAllFrom front rest
  | (.failure text, rest) => (.error text, rest)
termination_by s.weight
decreasing_by
  · have used := @weight_call_lt callSize s (by rw [_called]; simp) (by decide)
    rwa [_called] at used
  · have used := @weight_call_lt callSize s (by rw [_called]; simp) (by decide)
    rwa [_called] at used

def readAll (s : Stream) : Except String Bytes × Stream := readAllFrom [] s

end Stream

end Coffer
