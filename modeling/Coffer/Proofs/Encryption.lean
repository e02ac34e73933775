import Coffer.Encryption
import Coffer.Proofs.Container

/-!
# What is encrypted and what is decrypted

An encryptor stands for one container, which it writes into every buffer of the right length. A
decryptor stands for the container that it has read under keys that its header's code confirms.
-/

set_option autoImplicit false
set_option relaxedAutoImplicit false

namespace Coffer

namespace Aead

theorem fits_iff {length : Nat} : Fits length ↔ length < 64 * 0xffffffff := by
  have size : UInt32.size = 4294967296 := rfl
  unfold Fits
  omega

theorem fits_of_lt {length : Nat} (short : length < 1 <<< 37) : Fits length := by
  have bound : length < 137438953472 := short
  exact fits_iff.2 (by omega)

theorem encrypt_of_fits {key : Octets 32} {nonce : Octets 24} {plaintext : Bytes}
    (fits : Fits plaintext.length) :
    encrypt key nonce plaintext =
      .ok (ChaCha20.apply key nonce plaintext,
        tag key nonce (ChaCha20.apply key nonce plaintext)) := by
  unfold encrypt sealInPlace
  rw [if_pos fits]
  rfl

theorem encrypt_of_not_fits {key : Octets 32} {nonce : Octets 24} {plaintext : Bytes}
    (excess : ¬ Fits plaintext.length) : encrypt key nonce plaintext = .error .payloadTooLong := by
  unfold encrypt sealInPlace
  rw [if_neg excess]
  rfl

end Aead

namespace Keys

variable {passphrase : Bytes}

/-- What Argon2 makes of a passphrase and a salt under a scheme. -/
def material (scheme : Scheme) (salt : Octets 32) (passphrase : Bytes) : Octets derivedLength :=
  ⟨Argon2.digest scheme.variant scheme.version
    ⟨scheme.costs.memory, scheme.costs.time, scheme.costs.lanes, scheme.costs.admissible⟩
    derivedLength passphrase salt.val, Argon2.length_digest _ _ _ _ _ _⟩

/-- The costs are admissible, so the passphrase alone decides whether there are keys. -/
theorem derive_of_short (scheme : Scheme) (salt : Octets 32)
    (short : passphrase.length ≤ Argon2.maxPasswordLength) :
    derive scheme passphrase salt = .ok (ofBytes (material scheme salt passphrase)) := by
  unfold derive Argon2.hash
  rw [scheme.costs.toSettings_eq, ok_bind, if_neg (Nat.not_lt.2 short)]
  rfl

theorem derive_of_long (scheme : Scheme) (salt : Octets 32)
    (long : Argon2.maxPasswordLength < passphrase.length) :
    derive scheme passphrase salt = .error (.derivationFailed .passwordTooLong) := by
  unfold derive Argon2.hash
  rw [scheme.costs.toSettings_eq, ok_bind, if_pos long]
  rfl

/-- A passphrase that is not too long gives keys under every scheme. -/
theorem exists_derive (scheme : Scheme) (salt : Octets 32)
    (short : passphrase.length ≤ Argon2.maxPasswordLength) :
    ∃ keys, derive scheme passphrase salt = .ok keys :=
  ⟨_, derive_of_short scheme salt short⟩

end Keys

namespace Encryptor

/-- The container that an encryptor writes. -/
def container (e : Encryptor) : Container where
  header := e.header
  ciphertext := ChaCha20.apply e.keys.payload e.header.nonce e.plaintext
  tag := Aead.tag e.keys.payload e.header.nonce
    (ChaCha20.apply e.keys.payload e.header.nonce e.plaintext)

theorem length_container (e : Encryptor) : e.container.toBytes.length = e.length := by
  simp [container, length]

/-- A buffer of the right length receives the container, whatever it held before. -/
theorem writeInto_of_length {e : Encryptor} {buffer : Bytes} (fits : Aead.Fits e.plaintext.length)
    (length : buffer.length = e.length) :
    e.writeInto buffer = ⟨e.container.toBytes, .ok ()⟩ := by
  have exact : checkLength buffer.length e.length = .ok () := if_pos length
  have room : buffer.length = Container.lengthFor e.container.ciphertext.length := by
    rw [length, ← length_container, Container.length_toBytes]
  unfold writeInto
  rw [exact, Aead.encrypt_of_fits fits]
  exact Container.writeInto_of_length room

theorem writeInto_of_not_fits {e : Encryptor} {buffer : Bytes}
    (excess : ¬ Aead.Fits e.plaintext.length) (length : buffer.length = e.length) :
    e.writeInto buffer = ⟨buffer, .error .payloadTooLong⟩ := by
  have exact : checkLength buffer.length e.length = .ok () := if_pos length
  unfold writeInto
  rw [exact, Aead.encrypt_of_not_fits excess]

/-- A buffer of another length is not touched. -/
theorem writeInto_of_length_ne {e : Encryptor} {buffer : Bytes} (misfit : buffer.length ≠ e.length) :
    e.writeInto buffer = ⟨buffer, .error (.wrongBufferLength buffer.length e.length)⟩ := by
  have refused : checkLength buffer.length e.length =
      .error (.wrongBufferLength buffer.length e.length) := if_neg misfit
  unfold writeInto
  rw [refused]

theorem toBytes_of_fits {e : Encryptor} (fits : Aead.Fits e.plaintext.length) :
    e.toBytes = .ok e.container.toBytes := by
  unfold toBytes
  rw [writeInto_of_length fits List.length_replicate]
  rfl

theorem toBytes_of_not_fits {e : Encryptor} (excess : ¬ Aead.Fits e.plaintext.length) :
    e.toBytes = .error .payloadTooLong := by
  unfold toBytes
  rw [writeInto_of_not_fits excess List.length_replicate]
  rfl

theorem toBytes_eq_ok_iff {e : Encryptor} {data : Bytes} :
    e.toBytes = .ok data ↔ Aead.Fits e.plaintext.length ∧ data = e.container.toBytes :=
  eq_ok_iff_of_cases toBytes_of_fits toBytes_of_not_fits

end Encryptor

/-- Encryption with a draw is encryption under the header that is made of it. -/
theorem encryptWith_eq_encryptUnder (scheme : Scheme) (draw : Draw)
    (plaintext passphrase : Bytes) :
    encryptWith scheme draw plaintext passphrase =
      encryptUnder (.unsigned scheme draw.salt draw.nonce) plaintext passphrase := rfl

/-- Encryption under a header gives the container of the signed header, if there are keys and the
cipher can take the plaintext. -/
theorem encryptUnder_eq_ok_iff {header : Header} {plaintext passphrase data : Bytes} :
    encryptUnder header plaintext passphrase = .ok data ↔
      ∃ keys, Keys.derive header.scheme passphrase header.salt = .ok keys ∧
        Aead.Fits plaintext.length ∧
        data = (Encryptor.container ⟨header.sign keys.header, keys, plaintext⟩).toBytes := by
  unfold encryptUnder Encryptor.prepare
  simp only [bind_eq_ok_iff]
  constructor
  · rintro ⟨encryptor, ⟨keys, derived, prepared⟩, written⟩
    cases prepared
    exact ⟨keys, derived, Encryptor.toBytes_eq_ok_iff.1 written⟩
  · rintro ⟨keys, derived, written⟩
    exact ⟨_, ⟨keys, derived, rfl⟩, Encryptor.toBytes_eq_ok_iff.2 written⟩

namespace Decryptor

/-- A decryptor for a container that can be read has its keys, provided that they confirm the
header. -/
theorem prepare_of_parse {data passphrase : Bytes} {header : Header} (long : 164 ≤ data.length)
    (parsed : Header.parse data = .ok header) :
    prepare data passphrase = (do
      let keys ← Keys.derive header.scheme passphrase header.salt
      header.verify keys.header
      .ok ⟨Container.after header data long, keys⟩) := by
  unfold prepare
  rw [Container.ofBytes_of_parse long parsed]
  rfl

theorem prepare_of_parse_error {data passphrase : Bytes} {e : Error}
    (refused : Header.parse data = .error e) : prepare data passphrase = .error e := by
  unfold prepare
  rw [Container.ofBytes_of_parse_error refused]
  rfl

theorem prepare_eq_ok_iff {data passphrase : Bytes} {d : Decryptor} :
    prepare data passphrase = .ok d ↔
      data = d.container.toBytes ∧
        Keys.derive d.container.header.scheme passphrase d.container.header.salt = .ok d.keys ∧
        d.container.header.verify d.keys.header = .ok () := by
  unfold prepare
  simp only [bind_eq_ok_iff]
  constructor
  · rintro ⟨container, read, keys, derived, _, verified, prepared⟩
    cases prepared
    exact ⟨Container.ofBytes_eq_ok_iff.1 read, derived, verified⟩
  · rintro ⟨same, derived, verified⟩
    exact ⟨d.container, Container.ofBytes_eq_ok_iff.2 same, d.keys, derived, (), verified, rfl⟩

/-- The header of a decryptor is the one at the front of its data. -/
theorem parse_of_prepare {data passphrase : Bytes} {d : Decryptor}
    (prepared : prepare data passphrase = .ok d) :
    Header.parse data = .ok d.container.header := by
  rw [(prepare_eq_ok_iff.1 prepared).1]
  exact d.container.parse_toBytes

theorem length_of_prepare {data passphrase : Bytes} {d : Decryptor}
    (prepared : prepare data passphrase = .ok d) :
    d.length + 164 = data.length := by
  obtain ⟨same, _⟩ := prepare_eq_ok_iff.1 prepared
  rw [same, Container.length_toBytes, Container.lengthFor_eq, length]

/-- Whether the payload is one that the cipher can take and its tag is right. -/
def Authentic (d : Decryptor) : Prop :=
  Aead.Fits d.container.ciphertext.length ∧
    Aead.tag d.keys.payload d.container.header.nonce d.container.ciphertext = d.container.tag

/-- The plaintext of an authentic payload. -/
def plaintext (d : Decryptor) : Bytes :=
  ChaCha20.apply d.keys.payload d.container.header.nonce d.container.ciphertext

theorem writeInto_of_length {d : Decryptor} {buffer : Bytes} (length : buffer.length = d.length) :
    d.writeInto buffer =
      Aead.openInPlace d.keys.payload d.container.header.nonce d.container.tag
        d.container.ciphertext := by
  unfold writeInto
  rw [dif_pos length]
  exact congrArg _ (Option.get_of_eq_some _ (Bytes.replace?_of_length length.symm))

/-- A buffer of another length is not touched. -/
theorem writeInto_of_length_ne {d : Decryptor} {buffer : Bytes} (misfit : buffer.length ≠ d.length) :
    d.writeInto buffer = ⟨buffer, .error (.wrongBufferLength buffer.length d.length)⟩ :=
  dif_neg misfit

/-- A buffer of the right length receives the plaintext of an authentic payload. -/
theorem writeInto_of_authentic {d : Decryptor} {buffer : Bytes} (authentic : d.Authentic)
    (length : buffer.length = d.length) : d.writeInto buffer = ⟨d.plaintext, .ok ()⟩ := by
  rw [writeInto_of_length length]
  exact if_pos authentic

/-- A payload that is not authentic leaves nothing but zeros. -/
theorem writeInto_of_not_authentic {d : Decryptor} {buffer : Bytes} (damaged : ¬ d.Authentic)
    (length : buffer.length = d.length) :
    d.writeInto buffer = ⟨List.replicate d.length 0, .error (.ofKind .wrongTag)⟩ := by
  rw [writeInto_of_length length]
  exact if_neg damaged

theorem toBytes_of_authentic {d : Decryptor} (authentic : d.Authentic) :
    d.toBytes = .ok d.plaintext := by
  unfold toBytes
  rw [writeInto_of_authentic authentic List.length_replicate]
  rfl

theorem toBytes_of_not_authentic {d : Decryptor} (damaged : ¬ d.Authentic) :
    d.toBytes = .error (.ofKind .wrongTag) := by
  unfold toBytes
  rw [writeInto_of_not_authentic damaged List.length_replicate]
  rfl

theorem toBytes_eq_ok_iff {d : Decryptor} {p : Bytes} :
    d.toBytes = .ok p ↔ d.Authentic ∧ p = d.plaintext :=
  eq_ok_iff_of_cases toBytes_of_authentic toBytes_of_not_authentic

end Decryptor

theorem decrypt_eq_ok_iff {data passphrase p : Bytes} :
    decrypt data passphrase = .ok p ↔
      ∃ d, Decryptor.prepare data passphrase = .ok d ∧ d.Authentic ∧ p = d.plaintext := by
  unfold decrypt
  rw [bind_eq_ok_iff]
  constructor
  · rintro ⟨d, prepared, written⟩
    exact ⟨d, prepared, Decryptor.toBytes_eq_ok_iff.1 written⟩
  · rintro ⟨d, prepared, written⟩
    exact ⟨d, prepared, Decryptor.toBytes_eq_ok_iff.2 written⟩

end Coffer
