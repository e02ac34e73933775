import Coffer.Buffer
import Coffer.Header.Reading

/-!
# Containers

A container is a header, a ciphertext and the ciphertext's tag, one after another.
`Container.ofBytes` reads a container and `Container.writeInto` writes it into a buffer of its
length; neither touches a byte out of bounds.
-/

set_option autoImplicit false
set_option relaxedAutoImplicit false

namespace Coffer

/-- The three parts of a container. -/
structure Container where
  header : Header
  ciphertext : Bytes
  tag : Octets 16
  deriving DecidableEq

namespace Container

/-- The length of the container of that many bytes. -/
def lengthFor (payload : Nat) : Nat := Layout.headerLength + payload + Layout.tagLength

/-- The number of bytes that a container of the given length holds, unless it is too short
to be one. -/
def payloadLength? (length : Nat) : Option Nat :=
  if Layout.headerLength + Layout.tagLength ≤ length then
    some (length - (Layout.headerLength + Layout.tagLength))
  else none

def toBytes (c : Container) : Bytes := c.header.toBytes ++ c.ciphertext ++ c.tag.val

@[simp] theorem length_toBytes (c : Container) :
    c.toBytes.length = lengthFor c.ciphertext.length := by
  simp only [toBytes, lengthFor, Layout.headerLength, Layout.tagLength, List.length_append,
    Header.length_toBytes, Octets.length_val]

def fill? (c : Container) (buffer : Bytes) : Option Bytes := do
  let (head, rest) ← buffer.splitAt? Layout.headerLength
  let (body, tail) ← rest.splitAt? c.ciphertext.length
  let head ← head.replace? c.header.toBytes
  let body ← body.replace? c.ciphertext
  let tail ← tail.replace? c.tag.val
  return head ++ body ++ tail

/-- A buffer of the container's length is filled without leaving its bounds. -/
theorem fill?_eq {c : Container} {buffer : Bytes}
    (h : buffer.length = lengthFor c.ciphertext.length) : c.fill? buffer = some c.toBytes := by
  simp only [lengthFor, Layout.headerLength, Layout.tagLength] at h
  have first : buffer.splitAt? Layout.headerLength = some (buffer.take 148, buffer.drop 148) :=
    Bytes.splitAt?_of_le (by simp only [Layout.headerLength]; omega)
  have second : Bytes.splitAt? (buffer.drop 148) c.ciphertext.length =
      some ((buffer.drop 148).take c.ciphertext.length,
        (buffer.drop 148).drop c.ciphertext.length) :=
    Bytes.splitAt?_of_le (by rw [List.length_drop]; omega)
  have head : Bytes.replace? (buffer.take 148) c.header.toBytes = some c.header.toBytes :=
    Bytes.replace?_of_length (by simp only [Header.length_toBytes, List.length_take]; omega)
  have body : Bytes.replace? ((buffer.drop 148).take c.ciphertext.length) c.ciphertext =
      some c.ciphertext :=
    Bytes.replace?_of_length (by simp only [List.length_take, List.length_drop]; omega)
  have tail : Bytes.replace? ((buffer.drop 148).drop c.ciphertext.length) c.tag.val =
      some c.tag.val :=
    Bytes.replace?_of_length (by simp only [Octets.length_val, List.length_drop]; omega)
  simp only [fill?, first, second, head, body, tail, Option.bind_eq_bind, Option.bind_some]
  rfl

/-- Writes the container into a buffer, which has to be as long as the container. -/
def writeInto (c : Container) (buffer : Bytes) : Buffered Unit :=
  if h : buffer.length = lengthFor c.ciphertext.length then
    ⟨(c.fill? buffer).get (by rw [fill?_eq h]; rfl), .ok ()⟩
  else ⟨buffer, .error (.wrongBufferLength buffer.length (lengthFor c.ciphertext.length))⟩

/-- Reads the header and splits off the ciphertext and the tag. -/
def read (data : Bytes) : Bytes.Checked Error Container := do
  let header ← Header.parse data
  let payload ←
    ((payloadLength? data.length).elim (.error (.ofKind .tooShort)) .ok : Except Error Nat)
  let rest ← data.slice? Layout.headerLength data.length
  let (ciphertext, tail) ← rest.splitAt? payload
  let tag ← Octets.ofBytes? 16 tail
  return { header, ciphertext, tag }

open Bytes.Checked in
/-- No byte out of bounds is asked for. -/
theorem inBounds_read (data : Bytes) : (read data).InBounds := by
  refine (inBounds_refusal _).bind fun header => ?_
  refine inBounds_refusal_bind fun payload known => ?_
  have long : 164 ≤ data.length ∧ data.length - 164 = payload := by
    unfold payloadLength? at known
    split at known
    · rename_i long
      exact ⟨long, Except.ok.inj known⟩
    · cases known
  refine inBounds_access_bind
    (Bytes.slice?_of_le (by simp only [Layout.headerLength]; omega) (Nat.le_refl _)) ?_
  refine inBounds_access_bind (Bytes.splitAt?_of_le (by
    simp only [List.take_length, List.length_drop, Layout.headerLength]; omega)) ?_
  refine inBounds_access_bind (Octets.ofBytes?_of_length (by
    simp only [List.take_length, List.length_drop, Layout.headerLength]; omega)) ?_
  exact inBounds_pure _

/-- The container that the bytes are; its authenticity is not checked. -/
def ofBytes (data : Bytes) : Except Error Container := (read data).result (inBounds_read data)

end Container

end Coffer
