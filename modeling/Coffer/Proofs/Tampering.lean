import Coffer.Proofs.RoundTrip
import Coffer.Proofs.Verdict

/-!
# Changed containers

What becomes of a container that has been changed after it was written. A change of the magic
number, of the version, of the authentication code or of the tag is always found, it is always
found for the same reason, and no plaintext is given away.
-/

set_option autoImplicit false
set_option relaxedAutoImplicit false

namespace Coffer

/-- Decryption ends with the error, and a caller's buffer is left as it was or with zeros only,
whatever its length is. -/
def Refused (data passphrase : Bytes) (e : Error) : Prop :=
  decrypt data passphrase = .error e ∧
    ∀ d, Decryptor.prepare data passphrase = .ok d → ∀ buffer : Bytes,
      (d.writeInto buffer).buffer = buffer ∨
        (d.writeInto buffer).buffer = List.replicate buffer.length 0

section Refusals

variable {data passphrase : Bytes} {e : Error}

/-- Without a decryptor nothing is written at all. -/
theorem Refused.of_prepare (refused : Decryptor.prepare data passphrase = .error e) :
    Refused data passphrase e := by
  refine ⟨?_, ?_⟩
  · rw [decrypt, refused, error_bind]
  · intro d prepared
    rw [refused] at prepared
    cases prepared

theorem Refused.of_parse (refused : Header.parse data = .error e) : Refused data passphrase e :=
  .of_prepare (Decryptor.prepare_of_parse_error refused)

theorem Refused.of_not_authentic {d : Decryptor}
    (prepared : Decryptor.prepare data passphrase = .ok d) (damaged : ¬ d.Authentic) :
    Refused data passphrase (.ofKind .wrongTag) := by
  refine ⟨?_, ?_⟩
  · rw [decrypt, prepared, ok_bind]
    exact Decryptor.toBytes_of_not_authentic damaged
  · intro d' prepared' buffer
    rw [prepared] at prepared'
    cases prepared'
    by_cases length : buffer.length = d.length
    · rw [Decryptor.writeInto_of_not_authentic damaged length, length]
      exact .inr rfl
    · rw [Decryptor.writeInto_of_length_ne length]
      exact .inl rfl

end Refusals

namespace Header

variable {data : Bytes} {h : Header}

theorem magic_of_parse (parsed : parse data = .ok h) : Layout.magic.of data = magicNumber := by
  have member : (Layout.magic, magicNumber) ∈ h.authenticatedFields := by
    simp [authenticatedFields]
  exact field_of_parse parsed member

theorem version_of_parse (parsed : parse data = .ok h) :
    Layout.version.of data = [FormatVersion.current.number] := by
  have member : (Layout.version, [FormatVersion.current.number]) ∈ h.authenticatedFields := by
    simp [authenticatedFields, formatVersion]
  exact field_of_parse parsed member

/-- A header is also read with another authentication code in the place of its own. -/
theorem parse_of_take_eq {other : Bytes} (parsed : parse data = .ok h)
    (long : 164 ≤ other.length) (same : other.take 84 = data.take 84) :
    ∃ mac, parse other = .ok { h with mac } := by
  have length : (Layout.mac.of other).length = 64 :=
    Span.length_of (Nat.le_trans (by decide : 148 ≤ 164) long)
  refine ⟨⟨Layout.mac.of other, length⟩, parse_eq_ok_iff.2 ⟨long, ?_⟩⟩
  refine take_eq_toBytes_iff.2 ⟨?_, rfl⟩
  rw [same, ← authenticatedBytes_of_parse parsed]
  rfl

end Header

namespace Verdict

variable {data changed passphrase : Bytes} {h : Header} {keys : Keys}

/-- Another authentication code over the same 84 bytes is a wrong one, whatever follows it. -/
theorem refused_of_mac_ne (keyed : Keyed data passphrase h keys) (confirmed : Confirmed data keys)
    (long : 164 ≤ changed.length) (covered : changed.take 84 = data.take 84)
    (code : Layout.mac.of changed ≠ Layout.mac.of data) :
    Refused changed passphrase (.ofKind .wrongHeaderMac) := by
  obtain ⟨mac, parsed⟩ := Header.parse_of_take_eq keyed.1 long covered
  have keyedChanged : Keyed changed passphrase { h with mac } keys := ⟨parsed, keyed.2⟩
  have foreign : ¬ Confirmed changed keys := by
    intro own
    unfold Confirmed at own confirmed
    rw [covered, ← confirmed] at own
    exact code own
  exact .of_prepare (prepare_of_not_confirmed keyedChanged foreign)

private theorem window_eq_of_take_eq {a b : Bytes} {i k n : Nat} (inside : i + k ≤ n)
    (same : a.take n = b.take n) : (a.drop i).take k = (b.drop i).take k := by
  have cut := congrArg (List.take (i + k)) same
  rw [List.take_take, List.take_take, Nat.min_eq_left inside] at cut
  rw [List.take_drop, List.take_drop, cut]

/-- Another tag behind the same ciphertext is a wrong one. -/
theorem refused_of_tag_ne (keyed : Keyed data passphrase h keys) (confirmed : Confirmed data keys)
    (authentic : Decryptor.Authentic ⟨Container.after h data keyed.le_length, keys⟩)
    (length : changed.length = data.length)
    (front : changed.take (data.length - 16) = data.take (data.length - 16))
    (differs : changed ≠ data) : Refused changed passphrase (.ofKind .wrongTag) := by
  have longData := keyed.le_length
  have long : 164 ≤ changed.length := by omega
  have header : changed.take 148 = data.take 148 := by
    have window := window_eq_of_take_eq (i := 0) (k := 148) (by omega) front
    rwa [List.drop_zero, List.drop_zero] at window
  have ciphertext : (changed.drop 148).take (data.length - 164) =
      (data.drop 148).take (data.length - 164) := window_eq_of_take_eq (by omega) front
  have offset : 148 + (data.length - 164) = data.length - 16 := by omega
  have keyedChanged := keyed.of_take_eq long header
  refine .of_not_authentic
    (prepare_of_confirmed keyedChanged ((confirmed_congr header).2 confirmed)) ?_
  intro accepted
  have tagChanged := congrArg Subtype.val accepted.2
  have tag := congrArg Subtype.val authentic.2
  rw [Container.header_after, Container.ciphertext_after, Container.tag_after, List.drop_drop]
    at tagChanged tag
  rw [length, ciphertext, offset] at tagChanged
  rw [offset] at tag
  -- Both tags are computed from the same ciphertext, so the last 16 bytes are the same.
  have back : changed.drop (data.length - 16) = data.drop (data.length - 16) :=
    tagChanged.symm.trans tag
  apply differs
  rw [← List.take_append_drop (data.length - 16) changed, front, back, List.take_append_drop]

end Verdict

/-- The header, the keys and the judgements on what encryption gives. -/
theorem exists_keyed_of_encryptUnder {header : Header} {plaintext passphrase data : Bytes}
    (made : encryptUnder header plaintext passphrase = .ok data) :
    ∃ h keys, ∃ keyed : Verdict.Keyed data passphrase h keys, Verdict.Confirmed data keys ∧
      Decryptor.Authentic ⟨Container.after h data keyed.le_length, keys⟩ := by
  obtain ⟨e, _, _, written, authentic, prepared⟩ := exists_encryptor_of_encryptUnder made
  obtain ⟨bytes, derived, verified⟩ := Decryptor.prepare_eq_ok_iff.1 prepared
  have parsed := Decryptor.parse_of_prepare prepared
  have keyed : Verdict.Keyed data passphrase e.toDecryptor.container.header e.keys :=
    ⟨parsed, derived⟩
  have long := keyed.le_length
  have whole : Container.after e.toDecryptor.container.header data long =
      e.toDecryptor.container := by
    refine Container.toBytes_injective ?_
    rw [Container.toBytes_after long parsed, bytes]
  refine ⟨_, _, keyed, ?_, ?_⟩
  · refine (Verdict.confirmed_iff parsed).2 ?_
    exact (congrArg Header.mac (Header.verify_eq_ok_iff.1 verified)).symm
  · rw [whole]
    exact authentic

/-- A container that has been changed, but not in its length, is refused for its magic number if
that was changed, whatever else was; for its version if that was changed behind the same magic
number; for its authentication code if that was changed behind the same 84 bytes, whatever the
payload is; and for its tag if nothing else was changed. A byte string that is too short to be a
container is refused for that. -/
theorem changed_container_refused {header : Header} {plaintext passphrase data : Bytes}
    (made : encryptUnder header plaintext passphrase = .ok data) (changed : Bytes) :
    (changed.length = data.length →
      (Layout.magic.of changed ≠ Layout.magic.of data →
        Refused changed passphrase (.ofKind .wrongMagic)) ∧
      (Layout.magic.of changed = Layout.magic.of data →
        Layout.version.of changed ≠ Layout.version.of data →
        ∃ version, Layout.version.of changed = [version] ∧ Refused changed passphrase
          (if version = 0 then .unsupportedVersion 0 else .unknownVersion version)) ∧
      (changed.take 84 = data.take 84 → Layout.mac.of changed ≠ Layout.mac.of data →
        Refused changed passphrase (.ofKind .wrongHeaderMac)) ∧
      (changed.take (data.length - 16) = data.take (data.length - 16) → changed ≠ data →
        Refused changed passphrase (.ofKind .wrongTag))) ∧
      (changed.length < 164 → Refused changed passphrase (.ofKind .tooShort)) := by
  obtain ⟨h, keys, keyed, confirmed, authentic⟩ := exists_keyed_of_encryptUnder made
  have magic := Header.magic_of_parse keyed.1
  have version := Header.version_of_parse keyed.1
  refine ⟨?_, fun short => .of_parse (Header.parse_of_short short)⟩
  intro length
  have long : 164 ≤ changed.length := length.symm ▸ keyed.le_length
  refine ⟨?_, ?_, ?_, ?_⟩
  · intro foreign
    rw [magic] at foreign
    exact .of_parse (Header.parse_of_foreign_magic long foreign)
  · intro sameMagic otherVersion
    have byte := Layout.version_of_eq long
    refine ⟨_, byte, .of_parse ?_⟩
    refine Header.parse_of_foreign_version long (sameMagic.trans magic) byte ?_
    intro current
    rw [current] at byte
    exact otherVersion (byte.trans version.symm)
  · intro covered code
    exact Verdict.refused_of_mac_ne keyed confirmed long covered code
  · intro front differs
    exact Verdict.refused_of_tag_ne keyed confirmed authentic length front differs

section OneByte

variable {data : Bytes} {i n : Nat}

/-- The byte string with one byte raised by one. -/
def raiseByte (data : Bytes) (i : Nat) : Bytes := data.modify i (· + 1)

private theorem length_raise : (raiseByte data i).length = data.length := List.length_modify ..

private theorem take_raise (behind : n ≤ i) : (raiseByte data i).take n = data.take n := by
  refine List.ext_getElem? fun j => ?_
  rw [List.getElem?_take, List.getElem?_take]
  by_cases front : j < n
  · have other : i ≠ j := by omega
    rw [if_pos front, if_pos front, raiseByte, List.getElem?_modify]
    simp [other]
  · rw [if_neg front, if_neg front]

private theorem getElem?_raise : (raiseByte data i)[i]? = data[i]?.map (· + 1) := by
  rw [raiseByte, List.getElem?_modify]
  simp

private theorem of_raise_ne {s : Span} (lower : s.start ≤ i) (upper : i < s.stop)
    (inside : i < data.length) : s.of (raiseByte data i) ≠ s.of data := by
  intro same
  have elements := congrArg (fun b : Bytes => b[i - s.start]?) same
  have place : s.start + (i - s.start) = i := by omega
  simp only [Span.of, List.getElem?_drop, List.getElem?_take, place, if_pos upper, getElem?_raise,
    List.getElem?_eq_getElem inside, Option.map_some, Option.some.injEq] at elements
  simp at elements

/-- Five bytes, encrypted, and one byte changed in each of the regions. -/
theorem changed_container_refused_one_byte :
    ∃ data, encryptUnder (.unsigned ⟨.argon2i, .v0x13, ⟨8, 1, 1, by decide⟩⟩ default default)
        [104, 101, 108, 108, 111] [112, 119] = .ok data ∧
      Refused (raiseByte data 6) [112, 119] (.ofKind .wrongMagic) ∧
      (∃ version, Layout.version.of (raiseByte data 7) = [version] ∧
        Refused (raiseByte data 7) [112, 119]
          (if version = 0 then .unsupportedVersion 0 else .unknownVersion version)) ∧
      Refused (raiseByte data 84) [112, 119] (.ofKind .wrongHeaderMac) ∧
      Refused (raiseByte data 168) [112, 119] (.ofKind .wrongTag) ∧
      Refused [] [112, 119] (.ofKind .tooShort) := by
  obtain ⟨data, made⟩ := exists_encryptUnder
    (.unsigned ⟨.argon2i, .v0x13, ⟨8, 1, 1, by decide⟩⟩ default default)
    [104, 101, 108, 108, 111] [112, 119] (by decide) (by decide)
  have length : data.length = 169 := length_encryptUnder made
  have settled (i : Nat) := (changed_container_refused made (raiseByte data i)).1 length_raise
  refine ⟨data, made, ?_, ?_, ?_, ?_, (changed_container_refused made []).2 (by decide)⟩
  · exact (settled 6).1 (of_raise_ne (by decide) (by decide) (by omega))
  · refine (settled 7).2.1 ?_ (of_raise_ne (by decide) (by decide) (by omega))
    exact Span.of_eq_of_take_eq (Nat.le_refl 7) (take_raise (Nat.le_refl 7))
  · exact (settled 84).2.2.1 (take_raise (Nat.le_refl 84))
      (of_raise_ne (by decide) (by decide) (by omega))
  · refine (settled 168).2.2.2 (take_raise (by omega)) ?_
    intro same
    have whole : Span.of ⟨168, 169⟩ (raiseByte data 168) = Span.of ⟨168, 169⟩ data :=
      congrArg (Span.of ⟨168, 169⟩) same
    exact of_raise_ne (s := ⟨168, 169⟩) (by decide) (by decide) (by omega) whole

end OneByte

end Coffer
