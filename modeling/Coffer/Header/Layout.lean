import Coffer.Bytes.Access

/-!
# Layout of the header

The places of the header's fields. The fields lie next to each other and fill the header, so placing
them one after another into a buffer of the header's length gives their concatenation.
-/

set_option autoImplicit false
set_option relaxedAutoImplicit false

namespace Coffer

/-- The bytes from `start` up to, and without, `stop`. -/
structure Span where
  start : Nat
  stop : Nat
  deriving DecidableEq, Repr

namespace Span

/-- The bytes of the span, if the byte string reaches that far. -/
def read? (s : Span) (b : Bytes) : Option Bytes := b.slice? s.start s.stop

def readOctets? (s : Span) (n : Nat) (b : Bytes) : Option (Octets n) :=
  (s.read? b).bind (Octets.ofBytes? n)

def readWord? (s : Span) (b : Bytes) : Option UInt32 := (s.readOctets? 4 b).map (wordOfBytes ·.val)

/-- Replaces the bytes of the span by exactly as many others. -/
def write? (s : Span) (fresh b : Bytes) : Option Bytes := b.overwrite? s.start s.stop fresh

/-- The bytes of the span as far as the byte string goes. -/
def of (s : Span) (b : Bytes) : Bytes := (b.take s.stop).drop s.start

theorem read?_eq {s : Span} {b : Bytes} (h₁ : s.start ≤ s.stop) (h₂ : s.stop ≤ b.length) :
    s.read? b = some (s.of b) := Bytes.slice?_of_le h₁ h₂

theorem length_of {s : Span} {b : Bytes} (h : s.stop ≤ b.length) :
    (s.of b).length = s.stop - s.start := by
  simp only [of, List.length_drop, List.length_take]
  omega

theorem readOctets?_eq {s : Span} {n : Nat} {b : Bytes} (h₁ : s.start ≤ s.stop)
    (h₂ : s.stop ≤ b.length) (h₃ : s.stop - s.start = n) :
    s.readOctets? n b = some ⟨s.of b, by rw [length_of h₂, h₃]⟩ := by
  have length := length_of h₂
  rw [h₃] at length
  simp [readOctets?, read?_eq h₁ h₂, Octets.ofBytes?_of_length length]

theorem readWord?_eq {s : Span} {b : Bytes} (h₁ : s.start ≤ s.stop) (h₂ : s.stop ≤ b.length)
    (h₃ : s.stop - s.start = 4) : s.readWord? b = some (wordOfBytes (s.of b)) := by
  simp [readWord?, readOctets?_eq h₁ h₂ h₃]

end Span

namespace Layout

def magic : Span := ⟨0, 7⟩
def version : Span := ⟨7, 8⟩
def variant : Span := ⟨8, 12⟩
def argon2Version : Span := ⟨12, 16⟩
def memory : Span := ⟨16, 20⟩
def time : Span := ⟨20, 24⟩
def lanes : Span := ⟨24, 28⟩
def salt : Span := ⟨28, 60⟩
def nonce : Span := ⟨60, 84⟩
def mac : Span := ⟨84, 148⟩

/-- The length of the part of the header that its authentication code covers. -/
def authenticatedLength : Nat := 84

def headerLength : Nat := 148

def tagLength : Nat := 16

/-- Places fields into a byte string, one after another. -/
def place? : List (Span × Bytes) → Bytes → Option Bytes
  | [], b => some b
  | (span, fresh) :: rest, b => (span.write? fresh b).bind (place? rest)

/-- Whether the fields fit their spans and lie next to each other from index `i` on. -/
def Adjacent : Nat → List (Span × Bytes) → Prop
  | _, [] => True
  | i, (span, fresh) :: rest =>
    span.start = i ∧ span.stop = i + fresh.length ∧ Adjacent (i + fresh.length) rest

/-- Adjacent fields replace what was there by their concatenation. -/
theorem place?_eq {fields : List (Span × Bytes)} {front back : Bytes}
    (h : Adjacent front.length fields)
    (fits : (fields.flatMap Prod.snd).length ≤ back.length) :
    place? fields (front ++ back) =
      some (front ++ fields.flatMap Prod.snd ++
        back.drop (fields.flatMap Prod.snd).length) := by
  induction fields generalizing front back with
  | nil => simp [place?]
  | cons field rest ih =>
    obtain ⟨span, fresh⟩ := field
    obtain ⟨first, last, next⟩ := h
    simp only [List.flatMap_cons, List.length_append] at fits
    have written : span.write? fresh (front ++ back) =
        some ((front ++ fresh) ++ back.drop fresh.length) := by
      unfold Span.write?
      rw [Bytes.overwrite?_of_le (by omega) (by rw [List.length_append]; omega) (by omega), first,
        last, List.take_left, List.drop_append]
      simp
    rw [place?, written, Option.bind_some, ih]
    · simp [List.flatMap_cons]
    · simpa using next
    · rw [List.length_drop]; omega

end Layout

end Coffer
