import Coffer.Container
import Coffer.Proofs.Header.Codec

/-!
# Containers and their bytes

Reading a container is the inverse of putting its parts one after another: a byte string is read as
a container exactly if it is the bytes of that container, and it is refused exactly for what the
header is refused for. Writing into a buffer gives the same bytes, or leaves a buffer of another
length as it was.
-/

set_option autoImplicit false
set_option relaxedAutoImplicit false

namespace Coffer.Container

/-- The header and the tag take 164 bytes beside the payload. -/
theorem lengthFor_eq (payload : Nat) : lengthFor payload = payload + 164 := by
  unfold lengthFor Layout.headerLength Layout.tagLength
  omega

/-- The parts of a container can be told from its bytes. -/
theorem toBytes_injective {c d : Container} (same : c.toBytes = d.toBytes) : c = d := by
  have split : c.header.toBytes ++ c.ciphertext ++ c.tag.val =
      d.header.toBytes ++ d.ciphertext ++ d.tag.val := same
  have tags : c.tag.val.length = d.tag.val.length := by simp
  have headers : c.header.toBytes.length = d.header.toBytes.length := by simp
  obtain ⟨front, tag⟩ := List.append_inj' split tags
  obtain ⟨header, ciphertext⟩ := List.append_inj front headers
  cases c
  cases d
  cases Header.toBytes_injective header
  cases ciphertext
  cases Subtype.ext tag
  rfl

/-- The container whose header has been read, and whose ciphertext and tag follow. -/
def after (header : Header) (data : Bytes) (long : 164 ≤ data.length) : Container where
  header := header
  ciphertext := (data.drop 148).take (data.length - 164)
  tag := ⟨(data.drop 148).drop (data.length - 164), by
    rw [List.length_drop, List.length_drop]
    omega⟩

section Parts

variable {header : Header} {data : Bytes} {long : 164 ≤ data.length}

@[simp] theorem header_after : (after header data long).header = header := rfl

@[simp] theorem ciphertext_after :
    (after header data long).ciphertext = (data.drop 148).take (data.length - 164) := by
  rw [after]

@[simp] theorem tag_after :
    (after header data long).tag.val = (data.drop 148).drop (data.length - 164) := by
  rw [after]

end Parts

theorem toBytes_after {header : Header} {data : Bytes} (long : 164 ≤ data.length)
    (parsed : Header.parse data = .ok header) : (after header data long).toBytes = data := by
  have front : header.toBytes = data.take 148 := Header.toBytes_of_parse parsed
  rw [toBytes, header_after, ciphertext_after, tag_after, List.append_assoc,
    List.take_append_drop, front, List.take_append_drop]

open Bytes.Checked in
theorem ofBytes_of_parse {header : Header} {data : Bytes} (long : 164 ≤ data.length)
    (parsed : Header.parse data = .ok header) : ofBytes data = .ok (after header data long) := by
  have known : payloadLength? data.length = some (data.length - 164) := if_pos long
  have rest : data.slice? Layout.headerLength data.length = some (data.drop 148) := by
    rw [Bytes.slice?_of_le (Nat.le_trans (by decide) long) (Nat.le_refl _), List.take_length]
    rfl
  have cut : Bytes.splitAt? (data.drop 148) (data.length - 164) =
      some ((data.drop 148).take (data.length - 164),
        (data.drop 148).drop (data.length - 164)) :=
    Bytes.splitAt?_of_le (by rw [List.length_drop]; omega)
  have tag : Octets.ofBytes? 16 ((data.drop 148).drop (data.length - 164)) =
      some (after header data long).tag := Octets.ofBytes?_of_length _
  refine result_eq_of_run ?_ _
  unfold read
  rw [parsed, known]
  exact run_access_bind rest (run_access_bind cut (run_access_bind tag rfl))

theorem ofBytes_of_parse_error {data : Bytes} {e : Error}
    (refused : Header.parse data = .error e) : ofBytes data = .error e := by
  refine Bytes.Checked.result_eq_of_run ?_ _
  unfold read
  rw [refused]
  rfl

theorem parse_toBytes (c : Container) : Header.parse c.toBytes = .ok c.header := by
  unfold toBytes
  rw [List.append_assoc]
  refine Header.parse_toBytes_append c.header ?_
  rw [List.length_append, Octets.length_val]
  omega

/-- A byte string is read as a container exactly if it is the bytes of that container. -/
theorem ofBytes_eq_ok_iff {data : Bytes} {c : Container} :
    ofBytes data = .ok c ↔ data = c.toBytes := by
  constructor
  · intro success
    cases parsed : Header.parse data with
    | error e =>
      rw [ofBytes_of_parse_error parsed] at success
      cases success
    | ok header =>
      have long := Header.le_length_of_parse parsed
      rw [ofBytes_of_parse long parsed] at success
      rw [← Except.ok.inj success]
      exact (toBytes_after long parsed).symm
  · intro same
    have parsed := parse_toBytes c
    have long := Header.le_length_of_parse parsed
    rw [same, ofBytes_of_parse long parsed, toBytes_injective (toBytes_after long parsed)]

/-- A byte string is refused exactly for what its header is refused for: once there is a header,
there is room for the tag. -/
theorem ofBytes_eq_error_iff {data : Bytes} {e : Error} :
    ofBytes data = .error e ↔ Header.parse data = .error e := by
  constructor
  · intro refused
    cases parsed : Header.parse data with
    | error reason =>
      cases (ofBytes_of_parse_error parsed).symm.trans refused
      rfl
    | ok header =>
      rw [ofBytes_of_parse (Header.le_length_of_parse parsed) parsed] at refused
      cases refused
  · exact ofBytes_of_parse_error

/-! ### Writing into a buffer -/

/-- A buffer of the container's length receives its bytes, whatever it held before. -/
theorem writeInto_of_length {c : Container} {buffer : Bytes}
    (length : buffer.length = lengthFor c.ciphertext.length) :
    c.writeInto buffer = ⟨c.toBytes, .ok ()⟩ := by
  unfold writeInto
  rw [dif_pos length]
  exact congrArg (Buffered.mk · _) (Option.get_of_eq_some _ (fill?_eq length))

/-- A buffer of another length is not touched. -/
theorem writeInto_of_length_ne {c : Container} {buffer : Bytes}
    (misfit : buffer.length ≠ lengthFor c.ciphertext.length) :
    c.writeInto buffer =
      ⟨buffer, .error (.wrongBufferLength buffer.length (lengthFor c.ciphertext.length))⟩ :=
  dif_neg misfit

/-! ### Lengths -/

theorem payloadLength?_eq_none_iff {n : Nat} : payloadLength? n = none ↔ n < 164 := by
  unfold payloadLength? Layout.headerLength Layout.tagLength
  split
  · rename_i long
    simp only [reduceCtorEq, false_iff]
    omega
  · rename_i short
    simp only [true_iff]
    omega

/-- The lengths of a container and of what it holds determine each other. -/
theorem payloadLength?_eq_some_iff {n payload : Nat} :
    payloadLength? n = some payload ↔ n = lengthFor payload := by
  rw [lengthFor_eq]
  unfold payloadLength? Layout.headerLength Layout.tagLength
  split
  · rename_i long
    rw [Option.some.injEq]
    omega
  · rename_i short
    simp only [reduceCtorEq, false_iff]
    omega

/-- Containers and byte strings determine each other: what was put together is taken apart again,
what was taken apart is put together again, and nothing is refused but for its header. A buffer
receives the same bytes if it has their length, whatever it held before, and is refused and left
alone otherwise. The lengths of the whole and of the payload determine each other, and only what is
shorter than 164 bytes holds no payload. -/
theorem assembly_exact :
    (∀ c : Container, c.toBytes.length = lengthFor c.ciphertext.length ∧
      ofBytes c.toBytes = .ok c) ∧
    (∀ (data : Bytes) (c : Container), ofBytes data = .ok c → c.toBytes = data) ∧
    (∀ (data : Bytes) (e : Error), ofBytes data = .error e ↔ Header.parse data = .error e) ∧
    (∀ (c : Container) (buffer : Bytes),
      (buffer.length = lengthFor c.ciphertext.length →
        c.writeInto buffer = ⟨c.toBytes, .ok ()⟩) ∧
      (buffer.length ≠ lengthFor c.ciphertext.length →
        ∃ e : Error, c.writeInto buffer = ⟨buffer, .error e⟩ ∧ e.kind = .general)) ∧
    (∀ n : Nat, payloadLength? n = none ↔ n < 164) ∧
    ∀ n payload : Nat, payloadLength? n = some payload ↔ n = lengthFor payload := by
  refine ⟨fun c => ⟨c.length_toBytes, ofBytes_eq_ok_iff.2 rfl⟩, ?_, ?_, ?_, ?_, ?_⟩
  · intro data c cut
    exact (ofBytes_eq_ok_iff.1 cut).symm
  · intro data e
    exact ofBytes_eq_error_iff
  · intro c buffer
    refine ⟨writeInto_of_length, fun misfit => ⟨_, writeInto_of_length_ne misfit, ?_⟩⟩
    rfl
  · intro n
    exact payloadLength?_eq_none_iff
  · intro n payload
    exact payloadLength?_eq_some_iff

/-- Three bytes of ciphertext behind the default header, in buffers of 167 and of 166 bytes. -/
theorem assembly_exact_three_bytes :
    ∃ c : Container, c = ⟨(Header.unsigned default default default).sign default, [7, 8, 9],
        .zero 16⟩ ∧
      c.toBytes.length = 167 ∧ ofBytes c.toBytes = .ok c ∧
      c.writeInto (List.replicate 167 0xaa) = ⟨c.toBytes, .ok ()⟩ ∧
      (∃ e : Error, c.writeInto (List.replicate 166 0xaa) = ⟨List.replicate 166 0xaa, .error e⟩ ∧
        e.kind = .general) ∧
      payloadLength? 167 = some 3 := by
  obtain ⟨whole, _, _, buffers, _, lengths⟩ := assembly_exact
  refine ⟨_, rfl, ?_, ?_, ?_, ?_, ?_⟩
  · exact (whole _).1
  · exact (whole _).2
  · exact (buffers _ _).1 List.length_replicate
  · exact (buffers _ _).2 (by rw [List.length_replicate]; decide)
  · exact (lengths 167 3).2 rfl

end Coffer.Container
