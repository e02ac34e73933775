import Coffer.Header.Inspection
import Coffer.Proofs.Encryption
import Coffer.Proofs.Header.Signing

/-!
# Decryption is the inverse of encryption

What was encrypted is decrypted under the same passphrase, and nothing else is: a container is
accepted exactly if encrypting its plaintext under its header's fields gives it again.
-/

set_option autoImplicit false
set_option relaxedAutoImplicit false

namespace Coffer

/-- The decryptor of a container that an encryptor has written. -/
def Encryptor.toDecryptor (e : Encryptor) : Decryptor := ⟨e.container, e.keys⟩

theorem Encryptor.plaintext_toDecryptor (e : Encryptor) : e.toDecryptor.plaintext = e.plaintext :=
  ChaCha20.apply_apply _ _ _

theorem Encryptor.authentic_toDecryptor {e : Encryptor} (fits : Aead.Fits e.plaintext.length) :
    e.toDecryptor.Authentic := by
  refine ⟨?_, rfl⟩
  change Aead.Fits (ChaCha20.apply e.keys.payload e.header.nonce e.plaintext).length
  rwa [ChaCha20.length_apply]

/-- What encryption under a header gives is recognised under the same passphrase. -/
theorem exists_encryptor_of_encryptUnder {header : Header} {plaintext passphrase data : Bytes}
    (made : encryptUnder header plaintext passphrase = .ok data) :
    ∃ e : Encryptor, e.plaintext = plaintext ∧ e.header = header.sign e.keys.header ∧
      data = e.container.toBytes ∧ e.toDecryptor.Authentic ∧
      Decryptor.prepare data passphrase = .ok e.toDecryptor := by
  obtain ⟨keys, derived, fits, written⟩ := encryptUnder_eq_ok_iff.1 made
  refine ⟨⟨header.sign keys.header, keys, plaintext⟩, rfl, rfl, written,
    Encryptor.authentic_toDecryptor fits, ?_⟩
  exact Decryptor.prepare_eq_ok_iff.2 ⟨written, derived, header.verify_sign keys.header⟩

theorem parse_of_encryptUnder {header : Header} {plaintext passphrase data : Bytes}
    (made : encryptUnder header plaintext passphrase = .ok data) :
    ∃ key, Header.parse data = .ok (header.sign key) := by
  obtain ⟨e, _, signed, written, _⟩ := exists_encryptor_of_encryptUnder made
  refine ⟨e.keys.header, ?_⟩
  rw [written, ← signed]
  exact e.container.parse_toBytes

theorem decrypt_encryptUnder {header : Header} {plaintext passphrase data : Bytes}
    (made : encryptUnder header plaintext passphrase = .ok data) :
    decrypt data passphrase = .ok plaintext := by
  obtain ⟨e, same, _, _, authentic, prepared⟩ := exists_encryptor_of_encryptUnder made
  refine decrypt_eq_ok_iff.2 ⟨e.toDecryptor, prepared, authentic, ?_⟩
  rw [e.plaintext_toDecryptor, same]

theorem length_encryptUnder {header : Header} {plaintext passphrase data : Bytes}
    (made : encryptUnder header plaintext passphrase = .ok data) :
    data.length = plaintext.length + 164 := by
  obtain ⟨e, same, _, written, _⟩ := exists_encryptor_of_encryptUnder made
  rw [written, e.length_container, Encryptor.length, same, Container.lengthFor_eq]

theorem exists_encryptUnder (header : Header) (plaintext passphrase : Bytes)
    (short : passphrase.length < 1 <<< 32) (fits : plaintext.length < 1 <<< 37) :
    ∃ data, encryptUnder header plaintext passphrase = .ok data := by
  obtain ⟨keys, derived⟩ := Keys.exists_derive header.scheme header.salt (Nat.le_of_lt_succ short)
  exact ⟨_, encryptUnder_eq_ok_iff.2 ⟨keys, derived, Aead.fits_of_lt fits, rfl⟩⟩

/-- Encryption with a draw is encryption under the header made of it. It succeeds for all
passphrases and plaintexts within the limits, and whenever it succeeds, the container has 164 bytes
more than the plaintext, decryption restores the plaintext, and all inspections name the scheme that
was used. -/
theorem round_trip (scheme : Scheme) (salt : Octets 32) (nonce : Octets 24)
    (plaintext passphrase : Bytes) :
    encryptWith scheme ⟨salt, nonce⟩ plaintext passphrase =
        encryptUnder (.unsigned scheme salt nonce) plaintext passphrase ∧
      (∀ data, encryptUnder (.unsigned scheme salt nonce) plaintext passphrase = .ok data →
        data.length = plaintext.length + 164 ∧
        decrypt data passphrase = .ok plaintext ∧
        (∃ d, Decryptor.prepare data passphrase = .ok d ∧ d.costs = scheme.costs) ∧
        Costs.ofContainer data = .ok scheme.costs ∧
        Argon2.Algorithm.ofContainer data = .ok ⟨scheme.variant, scheme.version⟩) ∧
      (passphrase.length < 1 <<< 32 → plaintext.length < 1 <<< 37 →
        ∃ data, encryptUnder (.unsigned scheme salt nonce) plaintext passphrase = .ok data) := by
  refine ⟨encryptWith_eq_encryptUnder _ _ _ _, fun data made => ?_,
    fun short fits => exists_encryptUnder _ _ _ short fits⟩
  obtain ⟨key, parsed⟩ := parse_of_encryptUnder made
  obtain ⟨e, _, signed, _, _, prepared⟩ := exists_encryptor_of_encryptUnder made
  refine ⟨length_encryptUnder made, decrypt_encryptUnder made, ⟨e.toDecryptor, prepared, ?_⟩,
    ?_, ?_⟩
  · change e.header.scheme.costs = scheme.costs
    rw [signed, Header.scheme_sign]
    rfl
  · unfold Costs.ofContainer
    rw [parsed, Except.map, Header.scheme_sign]
    rfl
  · unfold Argon2.Algorithm.ofContainer
    rw [parsed, Except.map, Header.scheme_sign]
    rfl

/-- Five bytes under Argon2i, version 0x10. -/
theorem round_trip_five_bytes :
    ∃ data, encryptUnder
        (.unsigned ⟨.argon2i, .v0x10, ⟨32, 3, 4, by decide⟩⟩ (.zero 32) (.zero 24))
        [104, 101, 108, 108, 111] [112, 119] = .ok data ∧
      data.length = 169 ∧ decrypt data [112, 119] = .ok [104, 101, 108, 108, 111] ∧
      (∃ d, Decryptor.prepare data [112, 119] = .ok d ∧ d.costs = ⟨32, 3, 4, by decide⟩) ∧
      Costs.ofContainer data = .ok ⟨32, 3, 4, by decide⟩ ∧
      Argon2.Algorithm.ofContainer data = .ok ⟨.argon2i, .v0x10⟩ := by
  have settled := round_trip ⟨.argon2i, .v0x10, ⟨32, 3, 4, by decide⟩⟩ (.zero 32) (.zero 24)
    [104, 101, 108, 108, 111] [112, 119]
  obtain ⟨data, made⟩ := settled.2.2 (by decide) (by decide)
  exact ⟨data, made, settled.2.1 data made⟩

/-- The container of a decryptor is the one that its plaintext would be encrypted into. -/
theorem Decryptor.container_eq {d : Decryptor} (authentic : d.Authentic) :
    d.container = Encryptor.container ⟨d.container.header, d.keys, d.plaintext⟩ := by
  have restored : ChaCha20.apply d.keys.payload d.container.header.nonce d.plaintext =
      d.container.ciphertext := ChaCha20.apply_apply _ _ _
  have tag := authentic.2
  unfold Encryptor.container
  simp only [restored, tag]

theorem encryptUnder_of_decrypt {data passphrase p : Bytes}
    (opened : decrypt data passphrase = .ok p) :
    ∃ h, Header.parse data = .ok h ∧
      encryptUnder (.unsigned h.scheme h.salt h.nonce) p passphrase = .ok data := by
  obtain ⟨d, prepared, authentic, same⟩ := decrypt_eq_ok_iff.1 opened
  obtain ⟨bytes, derived, verified⟩ := Decryptor.prepare_eq_ok_iff.1 prepared
  have parsed := Decryptor.parse_of_prepare prepared
  have fits : Aead.Fits p.length := by
    rw [same, Decryptor.plaintext, ChaCha20.length_apply]
    exact authentic.1
  refine ⟨d.container.header, parsed, encryptUnder_eq_ok_iff.2 ⟨d.keys, derived, fits, ?_⟩⟩
  rw [Header.sign_unsigned, Header.verify_eq_ok_iff.1 verified, same,
    ← Decryptor.container_eq authentic]
  exact bytes

/-- Decryption accepts only what encryption writes: encrypting the plaintext anew under the fields
of the header gives every byte of the container. So an accepted container is fixed by its
passphrase, the fields of its header and its plaintext. -/
theorem decrypt_accepts_only_encryptions (passphrase : Bytes) :
    (∀ data p, decrypt data passphrase = .ok p → ∃ h, Header.parse data = .ok h ∧
      encryptUnder (.unsigned h.scheme h.salt h.nonce) p passphrase = .ok data) ∧
      ∀ a b p g h, decrypt a passphrase = .ok p → decrypt b passphrase = .ok p →
        Header.parse a = .ok g → Header.parse b = .ok h →
        g.scheme = h.scheme → g.salt = h.salt → g.nonce = h.nonce → a = b := by
  refine ⟨fun data p opened => encryptUnder_of_decrypt opened, ?_⟩
  intro a b p g h openedA openedB parsedA parsedB scheme salt nonce
  obtain ⟨g', parsedA', madeA⟩ := encryptUnder_of_decrypt openedA
  obtain ⟨h', parsedB', madeB⟩ := encryptUnder_of_decrypt openedB
  rw [parsedA] at parsedA'
  rw [parsedB] at parsedB'
  cases parsedA'
  cases parsedB'
  rw [scheme, salt, nonce, madeB] at madeA
  exact (Except.ok.inj madeA).symm

/-- Five bytes, encrypted under a new header and under one that has been signed before. -/
theorem decrypt_accepts_only_encryptions_five_bytes :
    ∃ fresh : Header, fresh = .unsigned ⟨.argon2d, .v0x13, ⟨8, 1, 1, by decide⟩⟩ default default ∧
      ∃ a b g h, encryptUnder fresh [104, 101, 108, 108, 111] [112, 119] = .ok a ∧
        encryptUnder (fresh.sign (.zero 64)) [104, 101, 108, 108, 111] [112, 119] = .ok b ∧
        decrypt a [112, 119] = .ok [104, 101, 108, 108, 111] ∧
        decrypt b [112, 119] = .ok [104, 101, 108, 108, 111] ∧
        Header.parse a = .ok g ∧ Header.parse b = .ok h ∧
        encryptUnder (.unsigned h.scheme h.salt h.nonce) [104, 101, 108, 108, 111] [112, 119] =
          .ok b ∧ a = b := by
  refine ⟨_, rfl, ?_⟩
  generalize Header.unsigned ⟨.argon2d, .v0x13, ⟨8, 1, 1, _⟩⟩ default default = fresh
  obtain ⟨a, madeA⟩ := exists_encryptUnder fresh [104, 101, 108, 108, 111] [112, 119]
    (by decide) (by decide)
  obtain ⟨b, madeB⟩ := exists_encryptUnder (fresh.sign (.zero 64)) [104, 101, 108, 108, 111]
    [112, 119] (by decide) (by decide)
  obtain ⟨_, parsedA⟩ := parse_of_encryptUnder madeA
  obtain ⟨_, parsedB⟩ := parse_of_encryptUnder madeB
  have openedA := decrypt_encryptUnder madeA
  have openedB := decrypt_encryptUnder madeB
  obtain ⟨h, parsed, again⟩ := (decrypt_accepts_only_encryptions [112, 119]).1 _ _ openedB
  rw [parsedB] at parsed
  cases parsed
  have same := (decrypt_accepts_only_encryptions [112, 119]).2 a b _ _ _ openedA openedB parsedA
    parsedB (by simp only [Header.scheme_sign]) (by simp only [Header.salt_sign])
    (by simp only [Header.nonce_sign])
  exact ⟨a, b, _, _, madeA, madeB, openedA, openedB, parsedA, parsedB, again, same⟩

end Coffer
