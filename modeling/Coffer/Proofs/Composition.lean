import Coffer.Proofs.RoundTrip

/-!
# What a container is made of

A container is a function of the scheme, the salt, the nonce, the plaintext and the passphrase. The
function is written down here from the hash, the authentication codes and the cipher alone, and
every way to encrypt computes it.
-/

set_option autoImplicit false
set_option relaxedAutoImplicit false

namespace Coffer

variable {scheme : Scheme} {draw : Draw} {plaintext passphrase : Bytes}

/-- The seven letters, the version of the format, the numbers of the scheme, the salt and the
nonce. -/
def coveredBytes (scheme : Scheme) (draw : Draw) : Bytes :=
  magicNumber ++ [1] ++ wordBytes scheme.variant.number ++ wordBytes scheme.version.number ++
    wordBytes scheme.costs.memory ++ wordBytes scheme.costs.time ++ wordBytes scheme.costs.lanes ++
    draw.salt.val ++ draw.nonce.val

/-- The first 32 of the 96 bytes that Argon2 gives. -/
def cipherKey (derived : Octets 96) : Octets 32 := ⟨derived.val.take 32, by simp⟩

/-- The last 64 of the 96 bytes that Argon2 gives. -/
def codeKey (derived : Octets 96) : Octets 64 := ⟨derived.val.drop 32, by simp⟩

/-- The four regions of a container: the covered bytes, their code, the ciphertext and its tag. -/
def regions (scheme : Scheme) (draw : Draw) (plaintext passphrase : Bytes) : Bytes :=
  let covered := coveredBytes scheme draw
  let derived := Keys.material scheme draw.salt passphrase
  let ciphertext := ChaCha20.apply (cipherKey derived) draw.nonce plaintext
  covered ++ (Blake2b.mac (codeKey derived) covered).val ++ ciphertext ++
    (Aead.tag (cipherKey derived) draw.nonce ciphertext).val

/-- The container, unless the passphrase is too long for the hash or the plaintext for the
cipher. -/
def composed (scheme : Scheme) (draw : Draw) (plaintext passphrase : Bytes) : Except Error Bytes :=
  if Argon2.maxPasswordLength < passphrase.length then
    .error (.derivationFailed .passwordTooLong)
  else if Aead.Fits plaintext.length then .ok (regions scheme draw plaintext passphrase)
  else .error .payloadTooLong

theorem composed_of_fits (scheme : Scheme) (draw : Draw)
    (short : passphrase.length ≤ Argon2.maxPasswordLength) (fits : Aead.Fits plaintext.length) :
    composed scheme draw plaintext passphrase =
      .ok (regions scheme draw plaintext passphrase) := by
  rw [composed, if_neg (Nat.not_lt.2 short), if_pos fits]

/-! ### The encryptor behind a container -/

namespace Encryptor

/-- The encryptor for a passphrase that is not too long. -/
def keyed (scheme : Scheme) (draw : Draw) (plaintext passphrase : Bytes) : Encryptor :=
  let keys := Keys.ofBytes (Keys.material scheme draw.salt passphrase)
  { header := (Header.unsigned scheme draw.salt draw.nonce).sign keys.header, keys, plaintext }

theorem new_of_short (scheme : Scheme) (draw : Draw) (plaintext : Bytes)
    (short : passphrase.length ≤ Argon2.maxPasswordLength) :
    new scheme draw plaintext passphrase = .ok (keyed scheme draw plaintext passphrase) := by
  have derived : Keys.derive scheme passphrase draw.salt = _ :=
    Keys.derive_of_short scheme draw.salt short
  unfold new prepare
  rw [Header.unsigned, derived, ok_bind]
  rfl

theorem new_of_long (long : Argon2.maxPasswordLength < passphrase.length) :
    new scheme draw plaintext passphrase = .error (.derivationFailed .passwordTooLong) := by
  have underivable : Keys.derive scheme passphrase draw.salt = _ :=
    Keys.derive_of_long scheme draw.salt long
  unfold new prepare
  rw [Header.unsigned, underivable, error_bind]

theorem new_eq_ok_iff {e : Encryptor} :
    new scheme draw plaintext passphrase = .ok e ↔
      passphrase.length ≤ Argon2.maxPasswordLength ∧
        e = keyed scheme draw plaintext passphrase :=
  eq_ok_iff_of_cases (new_of_short _ _ _) fun long => new_of_long (Nat.lt_of_not_le long)

theorem authenticatedBytes_unsigned (scheme : Scheme) (draw : Draw) :
    (Header.unsigned scheme draw.salt draw.nonce).authenticatedBytes =
      coveredBytes scheme draw := by
  rw [Header.authenticatedBytes_eq]
  simp only [Header.authenticatedFields, coveredBytes, List.flatMap_cons, List.flatMap_nil,
    List.append_nil, List.append_assoc]
  rfl

/-- The code covers the header as it was before it was signed. -/
theorem toBytes_keyed :
    (keyed scheme draw plaintext passphrase).container.toBytes =
      regions scheme draw plaintext passphrase := by
  have covered := authenticatedBytes_unsigned scheme draw
  have code : (keyed scheme draw plaintext passphrase).header.mac =
      Blake2b.mac (codeKey (Keys.material scheme draw.salt passphrase))
        (coveredBytes scheme draw) := by
    rw [← covered]
    rfl
  -- Signing changes the code alone, so what it covers is found in the signed header again.
  have front : (keyed scheme draw plaintext passphrase).header.authenticatedBytes =
      coveredBytes scheme draw := (Header.authenticatedBytes_sign _ _).trans covered
  rw [Container.toBytes, container, Header.toBytes_eq, front, code]
  rfl

theorem length_keyed :
    (keyed scheme draw plaintext passphrase).length = plaintext.length + 164 :=
  Container.lengthFor_eq plaintext.length

/-- An encryptor gives the composed container, if there is one. -/
theorem toBytes_of_new {e : Encryptor} (made : new scheme draw plaintext passphrase = .ok e) :
    e.toBytes = composed scheme draw plaintext passphrase := by
  obtain ⟨short, rfl⟩ := new_eq_ok_iff.1 made
  by_cases fits : Aead.Fits plaintext.length
  · rw [composed_of_fits _ _ short fits, toBytes_of_fits fits, toBytes_keyed]
  · rw [composed, if_neg (Nat.not_lt.2 short), if_neg fits, toBytes_of_not_fits fits]

/-- A buffer of the container's length receives it, or stays as it is if there is none. -/
theorem writeInto_of_new {e : Encryptor} {buffer : Bytes}
    (made : new scheme draw plaintext passphrase = .ok e)
    (room : buffer.length = plaintext.length + 164) :
    (∀ data, composed scheme draw plaintext passphrase = .ok data →
        e.writeInto buffer = ⟨data, .ok ()⟩) ∧
      ∀ error, composed scheme draw plaintext passphrase = .error error →
        e.writeInto buffer = ⟨buffer, .error error⟩ := by
  obtain ⟨short, rfl⟩ := new_eq_ok_iff.1 made
  have exact : buffer.length = (keyed scheme draw plaintext passphrase).length :=
    room.trans length_keyed.symm
  rw [← toBytes_of_new made]
  by_cases fits : Aead.Fits plaintext.length
  · rw [toBytes_of_fits fits, writeInto_of_length fits exact]
    constructor
    · intro data same
      rw [Except.ok.inj same]
    · intro error failed
      cases failed
  · rw [toBytes_of_not_fits fits, writeInto_of_not_fits fits exact]
    constructor
    · intro data made
      cases made
    · intro error same
      rw [Except.error.inj same]

end Encryptor

theorem encryptWith_eq_composed (scheme : Scheme) (draw : Draw) (plaintext passphrase : Bytes) :
    encryptWith scheme draw plaintext passphrase = composed scheme draw plaintext passphrase := by
  unfold encryptWith
  rcases Nat.lt_or_ge Argon2.maxPasswordLength passphrase.length with long | short
  · rw [Encryptor.new_of_long long, error_bind, composed, if_pos long]
  · have made := Encryptor.new_of_short scheme draw plaintext short
    rw [made, ok_bind, Encryptor.toBytes_of_new made]

/-- All ways to encrypt give the same container: under a header made of scheme, salt and nonce, with
a draw, at given costs with a draw or with a given salt and nonce, by default, and by an encryptor,
into a byte string of its own or into a buffer, whatever that held before. -/
theorem all_encryptions_compose (scheme : Scheme) (draw : Draw) (plaintext passphrase : Bytes) :
    encryptUnder (.unsigned scheme draw.salt draw.nonce) plaintext passphrase =
        composed scheme draw plaintext passphrase ∧
      encryptWith scheme draw plaintext passphrase =
        composed scheme draw plaintext passphrase ∧
      (∀ costs, encryptAt costs draw plaintext passphrase =
        composed ⟨.argon2id, .v0x13, costs⟩ draw plaintext passphrase) ∧
      (∀ costs, encryptDeterministic costs draw.salt draw.nonce plaintext passphrase =
        composed ⟨.argon2id, .v0x13, costs⟩ draw plaintext passphrase) ∧
      encrypt draw plaintext passphrase =
        composed ⟨.argon2id, .v0x13, ⟨19456, 2, 1, by decide⟩⟩ draw plaintext passphrase ∧
      ∀ e, Encryptor.new scheme draw plaintext passphrase = .ok e →
        e.toBytes = composed scheme draw plaintext passphrase ∧
        ∀ buffer : Bytes, buffer.length = plaintext.length + 164 →
          (∀ data, composed scheme draw plaintext passphrase = .ok data →
            e.writeInto buffer = ⟨data, .ok ()⟩) ∧
          ∀ error, composed scheme draw plaintext passphrase = .error error →
            e.writeInto buffer = ⟨buffer, .error error⟩ := by
  have drawn := encryptWith_eq_composed scheme draw plaintext passphrase
  have under (scheme : Scheme) :
      encryptUnder (.unsigned scheme draw.salt draw.nonce) plaintext passphrase =
        composed scheme draw plaintext passphrase := by
    rw [← encryptWith_eq_encryptUnder, encryptWith_eq_composed]
  constructor
  · exact under scheme
  constructor
  · exact drawn
  constructor
  · intro costs
    exact encryptWith_eq_composed { costs } draw plaintext passphrase
  constructor
  · intro costs
    exact under { costs }
  constructor
  · exact encryptWith_eq_composed default draw plaintext passphrase
  · intro e made
    constructor
    · exact Encryptor.toBytes_of_new made
    · intro buffer room
      exact Encryptor.writeInto_of_new made room

/-- Five bytes under Argon2d, version 0x10, into a buffer that held other bytes. -/
theorem all_encryptions_compose_five_bytes :
    ∃ e data, Encryptor.new ⟨.argon2d, .v0x10, ⟨8, 1, 1, by decide⟩⟩ ⟨default, default⟩
        [104, 101, 108, 108, 111] [112, 119] = .ok e ∧
      (List.replicate 169 (0xaa : UInt8)).length =
        ([104, 101, 108, 108, 111] : Bytes).length + 164 ∧
      composed ⟨.argon2d, .v0x10, ⟨8, 1, 1, by decide⟩⟩ ⟨default, default⟩
        [104, 101, 108, 108, 111] [112, 119] = .ok data ∧
      e.toBytes = .ok data ∧ e.writeInto (List.replicate 169 0xaa) = ⟨data, .ok ()⟩ := by
  have short : ([112, 119] : Bytes).length ≤ Argon2.maxPasswordLength := by decide
  have room : (List.replicate 169 (0xaa : UInt8)).length =
      ([104, 101, 108, 108, 111] : Bytes).length + 164 :=
    List.length_replicate.trans (by decide)
  have fits : Aead.Fits ([104, 101, 108, 108, 111] : Bytes).length := by decide
  have made := Encryptor.new_of_short ⟨.argon2d, .v0x10, ⟨8, 1, 1, by decide⟩⟩ ⟨default, default⟩
    [104, 101, 108, 108, 111] short
  have there := composed_of_fits ⟨.argon2d, .v0x10, ⟨8, 1, 1, by decide⟩⟩ ⟨default, default⟩ short
    fits
  obtain ⟨_, _, _, _, _, settled⟩ := all_encryptions_compose
    ⟨.argon2d, .v0x10, ⟨8, 1, 1, by decide⟩⟩ ⟨default, default⟩ [104, 101, 108, 108, 111] [112, 119]
  obtain ⟨whole, written⟩ := settled _ made
  exact ⟨_, _, made, room, there, whole.trans there, (written _ room).1 _ there⟩

end Coffer
