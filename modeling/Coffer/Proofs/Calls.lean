import Coffer.Interface.Calls
import Coffer.Proofs.Composition
import Coffer.Proofs.Verdict

/-!
# What calls answer

A call for encryption answers with the code of the first obstacle in its way, and only a call
without one changes the buffer. A call for decryption changes the buffer once the header is
confirmed and the length is right, into the plaintext or into zeros.
-/

set_option autoImplicit false
set_option relaxedAutoImplicit false

namespace Coffer.Interface

theorem Reply.ofBuffered_error (buffer : Bytes) (e : Error) :
    Reply.ofBuffered ⟨buffer, .error e⟩ = ⟨.ofError e, some buffer⟩ := rfl

theorem Reply.ofBuffered_ok (buffer : Bytes) :
    Reply.ofBuffered ⟨buffer, .ok ()⟩ = ⟨.ok, some buffer⟩ := rfl

theorem Code.ofError_ne_ok (e : Error) : Code.ofError e ≠ .ok := by
  unfold Code.ofError
  cases e.kind <;> decide

/-! ### The scheme of a call -/

namespace Numbers

/-- The numbers that stand for a scheme. -/
def ofScheme (s : Scheme) : Numbers :=
  ⟨s.variant.number, s.version.number, s.costs.memory, s.costs.time, s.costs.lanes⟩

theorem scheme_ofScheme (s : Scheme) : (ofScheme s).scheme = .ok s := by
  unfold scheme Scheme.ofNumbers ofScheme
  rw [variantOfNumber_eq_ok_iff.2 rfl, ok_bind, argon2VersionOfNumber_eq_ok_iff.2 rfl, ok_bind,
    Costs.ofTriple_eq_ok_iff.2 ⟨rfl, rfl, rfl⟩, ok_bind]
  rfl

end Numbers

/-! ### Obstacles to an encryption -/

/-- What can stand in the way of an encryption, in the order in which it is noticed. -/
inductive Obstacle
  | variant | version | costs | passphrase | length | plaintext
  deriving DecidableEq, Repr

namespace Obstacle

def all : List Obstacle := [variant, version, costs, passphrase, length, plaintext]

/-- Whether an obstacle is there: a number that stands for no type or no version, costs beyond the
limits, a passphrase beyond that of the hash, a buffer that does not fit, or a plaintext beyond the
limit of the cipher. -/
def Stands (numbers : Numbers) (plaintext passphrase buffer : Bytes) : Obstacle → Prop
  | .variant => 2 < numbers.variant.toNat
  | .version => numbers.version.toNat ≠ 0x10 ∧ numbers.version.toNat ≠ 0x13
  | .costs => numbers.memory.toNat < 8 ∨ numbers.memory.toNat < 8 * numbers.lanes.toNat ∨
      numbers.time.toNat < 1 ∨ numbers.lanes.toNat < 1 ∨ 0xffffff < numbers.lanes.toNat
  | .passphrase => 0xffffffff < passphrase.length
  | .length => buffer.length ≠ plaintext.length + 164
  | .plaintext => 64 * 0xffffffff ≤ plaintext.length

instance (numbers : Numbers) (plaintext passphrase buffer : Bytes) :
    DecidablePred (Stands numbers plaintext passphrase buffer)
  | .variant => inferInstanceAs (Decidable (_ < _))
  | .version => inferInstanceAs (Decidable (_ ∧ _))
  | .costs => inferInstanceAs (Decidable (_ ∨ _ ∨ _ ∨ _ ∨ _))
  | .passphrase => inferInstanceAs (Decidable (_ < _))
  | .length => inferInstanceAs (Decidable (_ ≠ _))
  | .plaintext => inferInstanceAs (Decidable (_ ≤ _))

/-- The first obstacle. -/
def first? (numbers : Numbers) (plaintext passphrase buffer : Bytes) : Option Obstacle :=
  all.find? (Stands numbers plaintext passphrase buffer ·)

def code : Obstacle → Code
  | variant => .unknownVariant
  | version => .unknownArgon2Version
  | costs => .inadmissibleCosts
  | passphrase => .derivationFailed
  | length => .error
  | plaintext => .error

variable {numbers : Numbers} {plaintext passphrase buffer : Bytes} {o : Obstacle}

theorem mem_all (o : Obstacle) : o ∈ all := by
  cases o <;> decide

theorem first?_eq_none_iff :
    first? numbers plaintext passphrase buffer = none ↔
      ∀ o, ¬ Stands numbers plaintext passphrase buffer o := by
  unfold first?
  simp only [List.find?_eq_none, decide_eq_true_eq, mem_all, forall_const]

theorem stands_of_first (first : first? numbers plaintext passphrase buffer = some o) :
    Stands numbers plaintext passphrase buffer o :=
  (find?_eq_some_iff_takeWhile.1 first).2.1

/-- No obstacle that is listed before the first one is there. -/
theorem not_stands_of_first (first : first? numbers plaintext passphrase buffer = some o) :
    ∀ other ∈ all.takeWhile (· ≠ o), ¬ Stands numbers plaintext passphrase buffer other :=
  (find?_eq_some_iff_takeWhile.1 first).2.2

/-! #### What follows from an obstacle, and from its absence -/

theorem variant_le (known : ¬ Stands numbers plaintext passphrase buffer .variant) :
    numbers.variant.toNat ≤ 2 :=
  Nat.le_of_not_lt known

theorem version_eq (known : ¬ Stands numbers plaintext passphrase buffer .version) :
    numbers.version.toNat = 0x10 ∨ numbers.version.toNat = 0x13 :=
  Decidable.or_iff_not_not_and_not.2 known

theorem firstBroken?_eq_none_iff :
    Argon2.firstBroken? numbers.memory numbers.time numbers.lanes = none ↔
      ¬ Stands numbers plaintext passphrase buffer .costs := by
  have limit : Argon2.maxLanes = 0xffffff := rfl
  rw [Argon2.firstBroken?_eq_none_iff, limit]
  unfold Stands
  omega

/-- Numbers that stand for a type, a version and costs are those of a scheme. -/
theorem exists_scheme (variant : ¬ Stands numbers plaintext passphrase buffer .variant)
    (version : ¬ Stands numbers plaintext passphrase buffer .version)
    (costs : ¬ Stands numbers plaintext passphrase buffer .costs) :
    ∃ scheme, numbers = .ofScheme scheme := by
  obtain ⟨v, known⟩ := exists_variantOfNumber (variant_le variant)
  obtain ⟨w, current⟩ := exists_argon2VersionOfNumber (version_eq version)
  have number := variantOfNumber_eq_ok_iff.1 known
  have versionNumber := argon2VersionOfNumber_eq_ok_iff.1 current
  refine ⟨⟨v, w, ⟨numbers.memory, numbers.time, numbers.lanes, firstBroken?_eq_none_iff.2 costs⟩⟩,
    ?_⟩
  rw [Numbers.ofScheme, ← number, ← versionNumber]

theorem exists_scheme_of_first (first : first? numbers plaintext passphrase buffer = some o)
    (late : o = .passphrase ∨ o = .length ∨ o = .plaintext) :
    ∃ scheme, numbers = .ofScheme scheme := by
  have clear := not_stands_of_first first
  rcases late with rfl | rfl | rfl
  all_goals exact exists_scheme (clear _ (by decide)) (clear _ (by decide)) (clear _ (by decide))

/-- An obstacle among the numbers, before which there is none, is what they are refused for. -/
theorem exists_refusal (first : first? numbers plaintext passphrase buffer = some o)
    (early : o = .variant ∨ o = .version ∨ o = .costs) :
    ∃ e, numbers.scheme = .error e ∧ Code.ofError e = o.code := by
  have stands := stands_of_first first
  have clear := not_stands_of_first first
  -- What is listed before it is absent, so the conversions before it succeed.
  rcases early with rfl | rfl | rfl
  · exact ⟨_, Scheme.ofNumbers_of_variant stands, rfl⟩
  · have known := variant_le (clear .variant (by decide))
    exact ⟨_, Scheme.ofNumbers_of_version known stands, rfl⟩
  · have known := variant_le (clear .variant (by decide))
    have current := version_eq (clear .version (by decide))
    cases broken : Argon2.firstBroken? numbers.memory numbers.time numbers.lanes with
    | none => exact absurd stands (firstBroken?_eq_none_iff.1 broken)
    | some refusal => exact ⟨_, Scheme.ofNumbers_of_broken known current broken, rfl⟩

end Obstacle

/-! ### Decryption -/

section Decryption

variable {data passphrase buffer : Bytes}

theorem decrypt_of_refusal {e : Error} (buffer : Bytes)
    (refused : Decryptor.prepare data passphrase = .error e) :
    decrypt (some data) (some passphrase) (some buffer) = ⟨.ofError e, some buffer⟩ := by
  have unchanged : decryptInto data passphrase buffer = ⟨buffer, .error e⟩ := by
    unfold decryptInto
    rw [refused]
  exact congrArg Reply.ofBuffered unchanged

/-- What a call does with a decryptor. -/
theorem decrypt_of_prepared {d : Decryptor} (buffer : Bytes)
    (prepared : Decryptor.prepare data passphrase = .ok d) :
    (buffer.length ≠ data.length - 164 →
      decrypt (some data) (some passphrase) (some buffer) = ⟨.error, some buffer⟩) ∧
    (buffer.length = data.length - 164 → ¬ d.Authentic →
      Coffer.decrypt data passphrase = .error (.ofKind .wrongTag) ∧
      decrypt (some data) (some passphrase) (some buffer) =
        ⟨.wrongTag, some (List.replicate buffer.length 0)⟩) ∧
    (buffer.length = data.length - 164 → d.Authentic →
      ∃ p, Coffer.decrypt data passphrase = .ok p ∧
        decrypt (some data) (some passphrase) (some buffer) = ⟨.ok, some p⟩) := by
  have whole := Decryptor.length_of_prepare prepared
  have answer : decrypt (some data) (some passphrase) (some buffer) =
      .ofBuffered (d.writeInto buffer) := by
    rw [decrypt, decryptInto, prepared]
  have opened : Coffer.decrypt data passphrase = d.toBytes := by
    rw [Coffer.decrypt, prepared, ok_bind]
  rw [answer, opened]
  refine ⟨fun misfit => ?_, fun room damaged => ?_, fun room authentic => ?_⟩
  · rw [Decryptor.writeInto_of_length_ne (by omega)]
    rfl
  · have fit : buffer.length = d.length := by omega
    rw [Decryptor.toBytes_of_not_authentic damaged, Decryptor.writeInto_of_not_authentic damaged fit,
      fit]
    exact ⟨rfl, rfl⟩
  · have fit : buffer.length = d.length := by omega
    rw [Decryptor.toBytes_of_authentic authentic, Decryptor.writeInto_of_authentic authentic fit]
    exact ⟨_, rfl, rfl⟩

/-- A buffer of the right length receives what decryption gives. -/
theorem decrypt_of_opened {p : Bytes} (opened : Coffer.decrypt data passphrase = .ok p)
    (room : buffer.length + 164 = data.length) :
    decrypt (some data) (some passphrase) (some buffer) = ⟨.ok, some p⟩ := by
  obtain ⟨d, prepared, authentic, _⟩ := decrypt_eq_ok_iff.1 opened
  obtain ⟨_, _, opens⟩ := decrypt_of_prepared buffer prepared
  obtain ⟨q, again, answer⟩ := opens (by omega) authentic
  rw [answer, Except.ok.inj (again.symm.trans opened)]

theorem opened_of_code_eq_ok
    (success : (decrypt (some data) (some passphrase) (some buffer)).code = .ok) :
    ∃ p, Coffer.decrypt data passphrase = .ok p ∧ buffer.length + 164 = data.length := by
  cases prepared : Decryptor.prepare data passphrase with
  | error e =>
    rw [decrypt_of_refusal buffer prepared] at success
    exact absurd success (Code.ofError_ne_ok e)
  | ok d =>
    have whole := Decryptor.length_of_prepare prepared
    obtain ⟨misfits, damages, opens⟩ := decrypt_of_prepared buffer prepared
    by_cases room : buffer.length = data.length - 164
    · by_cases authentic : d.Authentic
      · obtain ⟨p, opened, _⟩ := opens room authentic
        exact ⟨p, opened, by omega⟩
      · rw [(damages room authentic).2] at success
        cases success
    · rw [misfits room] at success
      cases success

end Decryption

theorem decrypt_of_missing {data passphrase output : Option Bytes}
    (missing : data = none ∨ passphrase = none ∨ output = none) :
    decrypt data passphrase output = ⟨.error, output⟩ := by
  rcases missing with rfl | rfl | rfl
  · rfl
  · cases data <;> rfl
  · cases data <;> cases passphrase <;> rfl

/-- A call for decryption answers with an error if a buffer is missing, with what is wrong if there
is no decryptor, and with an error again if the buffer does not fit; in none of these cases is the
buffer changed. After that it holds zeros if the payload is not authentic, and what decryption gives
otherwise. So a call succeeds exactly if decryption does, no buffer is missing and the buffer
fits. -/
theorem decrypt_call_answers :
    (∀ data passphrase output : Option Bytes, data = none ∨ passphrase = none ∨ output = none →
      decrypt data passphrase output = ⟨.error, output⟩) ∧
    (∀ data passphrase buffer : Bytes,
      (∀ e, Decryptor.prepare data passphrase = .error e →
        (e.kind.isStructural ∨ e.kind = .derivationFailed ∨ e.kind = .wrongHeaderMac) ∧
        decrypt (some data) (some passphrase) (some buffer) = ⟨.ofError e, some buffer⟩) ∧
      ∀ d, Decryptor.prepare data passphrase = .ok d →
        (buffer.length ≠ data.length - 164 →
          decrypt (some data) (some passphrase) (some buffer) = ⟨.error, some buffer⟩) ∧
        (buffer.length = data.length - 164 → ¬ d.Authentic →
          Coffer.decrypt data passphrase = .error (.ofKind .wrongTag) ∧
          decrypt (some data) (some passphrase) (some buffer) =
            ⟨.wrongTag, some (List.replicate buffer.length 0)⟩) ∧
        (buffer.length = data.length - 164 → d.Authentic →
          ∃ p, Coffer.decrypt data passphrase = .ok p ∧
            decrypt (some data) (some passphrase) (some buffer) = ⟨.ok, some p⟩)) ∧
    ∀ data passphrase output : Option Bytes, (decrypt data passphrase output).code = .ok ↔
      ∃ container word buffer p, data = some container ∧ passphrase = some word ∧
        output = some buffer ∧ Coffer.decrypt container word = .ok p ∧
        buffer.length + 164 = container.length := by
  constructor
  · intro data passphrase output missing
    exact decrypt_of_missing missing
  constructor
  · intro data passphrase buffer
    constructor
    · intro e refused
      exact ⟨Decryptor.kind_of_prepare_error refused, decrypt_of_refusal buffer refused⟩
    · intro d prepared
      exact decrypt_of_prepared buffer prepared
  · intro data passphrase output
    constructor
    · intro success
      by_cases missing : data = none ∨ passphrase = none ∨ output = none
      · rw [decrypt_of_missing missing] at success
        cases success
      · obtain ⟨container, rfl⟩ := Option.ne_none_iff_exists'.1 fun none => missing (.inl none)
        obtain ⟨word, rfl⟩ := Option.ne_none_iff_exists'.1 fun none => missing (.inr (.inl none))
        obtain ⟨buffer, rfl⟩ := Option.ne_none_iff_exists'.1 fun none => missing (.inr (.inr none))
        obtain ⟨p, opened, room⟩ := opened_of_code_eq_ok success
        exact ⟨container, word, buffer, p, rfl, rfl, rfl, opened, room⟩
    · rintro ⟨container, word, buffer, p, rfl, rfl, rfl, opened, room⟩
      rw [decrypt_of_opened opened room]

/-- A missing byte string, a container that is too short, one with three bytes of payload and a
buffer that does not fit, and buffers that fit one with a wrong tag and one with the right tag. -/
theorem decrypt_call_answers_three_bytes :
    decrypt none (some [112, 119]) (some [170]) = ⟨.error, some [170]⟩ ∧
      decrypt (some []) (some [112, 119]) (some [170]) = ⟨.tooShort, some [170]⟩ ∧
      ∃ damaged genuine : Bytes, damaged.length = 167 ∧ genuine.length = 167 ∧
        decrypt (some genuine) (some [112, 119]) (some [170]) = ⟨.error, some [170]⟩ ∧
        decrypt (some damaged) (some [112, 119]) (some [170, 170, 170]) =
          ⟨.wrongTag, some [0, 0, 0]⟩ ∧
        (decrypt (some genuine) (some [112, 119]) (some [170, 170, 170])).code = .ok ∧
        ∃ p, decrypt (some genuine) (some [112, 119]) (some [170, 170, 170]) = ⟨.ok, some p⟩ := by
  obtain ⟨missing, present, succeeds⟩ := decrypt_call_answers
  have short : Decryptor.prepare [] [112, 119] = .error (.ofKind .tooShort) :=
    Decryptor.prepare_of_parse_error (Header.parse_of_short (by decide))
  obtain ⟨damaged, genuine, long, size, damage, intact⟩ : ∃ damaged genuine : Bytes,
      damaged.length = 167 ∧ genuine.length = 167 ∧
        Verdict.Holds damaged [112, 119] .damaged ∧ Verdict.Holds genuine [112, 119] .authentic := by
    have short : ([112, 119] : Bytes).length < 1 <<< 32 := by decide
    obtain ⟨_, key, wrong, right, _, damaged, genuine⟩ :=
      Verdict.exists_holds_each (.unsigned default default default) [1, 2, 3] short (by decide)
    exact ⟨_, _, Container.length_toBytes _, Container.length_toBytes _, damaged, genuine⟩
  have limit : 167 < 1 <<< 37 := by decide
  obtain ⟨⟨d, prepared⟩, refused⟩ := damage.ends (by rw [long]; exact limit)
  obtain ⟨p, opened, _⟩ := intact.ends (by rw [size]; exact limit)
  obtain ⟨g, ready, authentic, _⟩ := decrypt_eq_ok_iff.1 opened
  have forged : ¬ d.Authentic := by
    intro authentic
    rw [decrypt_eq_ok_iff.2 ⟨d, prepared, authentic, rfl⟩] at refused
    cases refused
  obtain ⟨misfits, _⟩ := (present genuine [112, 119] [170]).2 g ready
  obtain ⟨_, clears, _⟩ := (present damaged [112, 119] [170, 170, 170]).2 d prepared
  obtain ⟨_, _, opens⟩ := (present genuine [112, 119] [170, 170, 170]).2 g ready
  obtain ⟨_, _, answer⟩ := opens (by rw [size]; rfl) authentic
  refine ⟨missing _ _ _ (.inl rfl), ((present _ _ _).1 _ short).2, damaged, genuine, long, size,
    misfits (by rw [size]; decide), (clears (by rw [long]; rfl) forged).2, ?_, _, answer⟩
  exact (succeeds _ _ _).2 ⟨genuine, _, _, p, rfl, rfl, rfl, opened, by rw [size]; rfl⟩

/-! ### Encryption -/

section Encryption

variable {numbers : Numbers} (draw : Draw) {plaintext passphrase buffer : Bytes}

theorem encryptInto_of_refusal {e : Error} (refused : numbers.scheme = .error e) :
    encryptInto numbers draw plaintext passphrase buffer = ⟨buffer, .error e⟩ := by
  unfold encryptInto
  rw [refused]

theorem encryptInto_of_long {scheme : Scheme}
    (long : Argon2.maxPasswordLength < passphrase.length) :
    encryptInto (.ofScheme scheme) draw plaintext passphrase buffer =
      ⟨buffer, .error (.derivationFailed .passwordTooLong)⟩ := by
  have refused : Encryptor.new scheme draw plaintext passphrase = _ := Encryptor.new_of_long long
  unfold encryptInto
  rw [Numbers.scheme_ofScheme]
  dsimp only
  rw [refused]

theorem encryptInto_of_short {scheme : Scheme}
    (short : passphrase.length ≤ Argon2.maxPasswordLength) :
    encryptInto (.ofScheme scheme) draw plaintext passphrase buffer =
      (Encryptor.keyed scheme draw plaintext passphrase).writeInto buffer := by
  unfold encryptInto
  rw [Numbers.scheme_ofScheme]
  dsimp only
  rw [Encryptor.new_of_short scheme draw plaintext short]

/-- The first obstacle is what encryption fails for, and the buffer stays as it is. -/
theorem encryptInto_of_first {o : Obstacle}
    (first : Obstacle.first? numbers plaintext passphrase buffer = some o) :
    ∃ e, encryptInto numbers draw plaintext passphrase buffer = ⟨buffer, .error e⟩ ∧
      Code.ofError e = o.code := by
  have stands := Obstacle.stands_of_first first
  have clear := Obstacle.not_stands_of_first first
  have refused (early : o = .variant ∨ o = .version ∨ o = .costs) :
      ∃ e, encryptInto numbers draw plaintext passphrase buffer = ⟨buffer, .error e⟩ ∧
        Code.ofError e = o.code := by
    obtain ⟨e, refused, code⟩ := Obstacle.exists_refusal first early
    exact ⟨e, encryptInto_of_refusal draw refused, code⟩
  cases o with
  | variant => exact refused (.inl rfl)
  | version => exact refused (.inr (.inl rfl))
  | costs => exact refused (.inr (.inr rfl))
  | passphrase =>
    obtain ⟨scheme, rfl⟩ := Obstacle.exists_scheme_of_first first (.inl rfl)
    exact ⟨_, encryptInto_of_long draw stands, rfl⟩
  | length =>
    obtain ⟨scheme, rfl⟩ := Obstacle.exists_scheme_of_first first (.inr (.inl rfl))
    have short := Nat.le_of_not_lt (clear .passphrase (by decide))
    have misfit : buffer.length ≠ (Encryptor.keyed scheme draw plaintext passphrase).length := by
      rw [Encryptor.length_keyed]
      exact stands
    exact ⟨_, (encryptInto_of_short draw short).trans (Encryptor.writeInto_of_length_ne misfit), rfl⟩
  | plaintext =>
    obtain ⟨scheme, rfl⟩ := Obstacle.exists_scheme_of_first first (.inr (.inr rfl))
    have short := Nat.le_of_not_lt (clear .passphrase (by decide))
    have room := Decidable.not_not.1 (clear .length (by decide))
    have excess : ¬ Aead.Fits plaintext.length := fun fits =>
      Nat.not_lt.2 stands (Aead.fits_iff.1 fits)
    have written := Encryptor.writeInto_of_not_fits (e := .keyed scheme draw plaintext passphrase)
      excess (room.trans Encryptor.length_keyed.symm)
    exact ⟨_, (encryptInto_of_short draw short).trans written, rfl⟩

/-- Without an obstacle the buffer receives the container. -/
theorem encryptInto_of_clear
    (clear : Obstacle.first? numbers plaintext passphrase buffer = none) :
    ∃ scheme encryptor container, numbers = .ofScheme scheme ∧
      Encryptor.new scheme draw plaintext passphrase = .ok encryptor ∧
      encryptor.toBytes = .ok container ∧
      encryptInto numbers draw plaintext passphrase buffer = ⟨container, .ok ()⟩ := by
  have absent := Obstacle.first?_eq_none_iff.1 clear
  obtain ⟨scheme, rfl⟩ :=
    Obstacle.exists_scheme (absent .variant) (absent .version) (absent .costs)
  have short := Nat.le_of_not_lt (absent .passphrase)
  have room := Decidable.not_not.1 (absent .length)
  have fits := Aead.fits_iff.2 (Nat.lt_of_not_le (absent .plaintext))
  have made := Encryptor.new_of_short scheme draw plaintext short
  have there := composed_of_fits scheme draw short fits
  exact ⟨scheme, _, _, rfl, made, (Encryptor.toBytes_of_new made).trans there,
    (encryptInto_of_short draw short).trans ((Encryptor.writeInto_of_new made room).1 _ there)⟩

end Encryption

theorem encrypt_of_missing {numbers : Numbers} {draw : Draw}
    {plaintext passphrase output : Option Bytes}
    (missing : plaintext = none ∨ passphrase = none ∨ output = none) :
    encrypt numbers draw plaintext passphrase output = ⟨.error, output⟩ := by
  rcases missing with rfl | rfl | rfl
  · rfl
  · cases plaintext <;> rfl
  · cases plaintext <;> cases passphrase <;> rfl

/-- A call for encryption answers with an error if a buffer is missing, and with the code of the
first obstacle if there is one, and does not change the buffer then. Otherwise the buffer receives
what the encryptor for the scheme of the numbers writes, from which a call for decryption restores
the plaintext. -/
structure Answers (numbers : Numbers) (draw : Draw)
    (call : Option Bytes → Option Bytes → Option Bytes → Reply) : Prop where
  missing : ∀ plaintext passphrase output : Option Bytes,
    plaintext = none ∨ passphrase = none ∨ output = none →
      call plaintext passphrase output = ⟨.error, output⟩
  refused : ∀ (plaintext passphrase buffer : Bytes) (o : Obstacle),
    Obstacle.first? numbers plaintext passphrase buffer = some o →
      call (some plaintext) (some passphrase) (some buffer) = ⟨o.code, some buffer⟩
  made : ∀ plaintext passphrase buffer : Bytes,
    Obstacle.first? numbers plaintext passphrase buffer = none →
      ∃ scheme encryptor container, numbers = .ofScheme scheme ∧
        Encryptor.new scheme draw plaintext passphrase = .ok encryptor ∧
        encryptor.toBytes = .ok container ∧
        call (some plaintext) (some passphrase) (some buffer) = ⟨.ok, some container⟩ ∧
        ∀ space : Bytes, space.length = plaintext.length →
          decrypt (some container) (some passphrase) (some space) = ⟨.ok, some plaintext⟩

theorem answers_encrypt (numbers : Numbers) (draw : Draw) :
    Answers numbers draw (encrypt numbers draw) where
  missing _ _ _ missing := encrypt_of_missing missing
  refused plaintext passphrase buffer o first := by
    obtain ⟨e, unchanged, code⟩ := encryptInto_of_first draw first
    rw [encrypt, unchanged, Reply.ofBuffered_error, code]
  made plaintext passphrase buffer clear := by
    obtain ⟨scheme, encryptor, container, same, made, written, answer⟩ :=
      encryptInto_of_clear draw clear
    have under : encryptUnder (.unsigned scheme draw.salt draw.nonce) plaintext passphrase =
        .ok container := by
      rw [← encryptWith_eq_encryptUnder, encryptWith, made, ok_bind, written]
    refine ⟨scheme, encryptor, container, same, made, written, ?_, ?_⟩
    · rw [encrypt, answer, Reply.ofBuffered_ok]
    · intro space room
      refine decrypt_of_opened (decrypt_encryptUnder under) ?_
      rw [room, length_encryptUnder under]

/-- Every call for encryption answers as its numbers demand: with any numbers at all, with the
numbers of all of a scheme, with those of the costs alone, and with none. Numbers that are left out
are those of Argon2id, version 0x13, and of the default costs. -/
theorem encrypt_call_answers (draw : Draw) :
    (∀ numbers, Answers numbers draw (encrypt numbers draw)) ∧
    Answers ⟨2, 0x13, 19456, 2, 1⟩ draw (encryptByDefault draw) ∧
    (∀ memory time lanes : UInt32,
      Answers ⟨2, 0x13, memory, time, lanes⟩ draw (encryptAtCosts memory time lanes draw)) ∧
    (∀ variant version memory time lanes : UInt32,
      Answers ⟨variant, version, memory, time, lanes⟩ draw
        (encryptUnderScheme variant version memory time lanes draw)) ∧
    ({} : Numbers) = ⟨2, 0x13, 19456, 2, 1⟩ ∧
    ∀ memory time lanes : UInt32, ({ memory, time, lanes } : Numbers) =
      ⟨2, 0x13, memory, time, lanes⟩ :=
  ⟨fun numbers => answers_encrypt numbers draw, answers_encrypt {} draw,
    fun memory time lanes => answers_encrypt { memory, time, lanes } draw,
    fun _ _ _ _ _ => answers_encrypt _ draw, rfl, fun _ _ _ => rfl⟩

/-- Five bytes under Argon2i, version 0x10: without a buffer, with a number that stands for no type
and costs that are too small, into a buffer of one byte, and into a buffer that fits. -/
theorem encrypt_call_answers_five_bytes :
    encrypt ⟨1, 0x10, 8, 1, 1⟩ ⟨default, default⟩ (some [104, 101, 108, 108, 111])
        (some [112, 119]) none = ⟨.error, none⟩ ∧
      encrypt ⟨3, 0x10, 0, 0, 0⟩ ⟨default, default⟩ (some [104, 101, 108, 108, 111])
        (some [112, 119]) (some [170]) = ⟨.unknownVariant, some [170]⟩ ∧
      encrypt ⟨1, 0x10, 8, 1, 1⟩ ⟨default, default⟩ (some [104, 101, 108, 108, 111])
        (some [112, 119]) (some [170]) = ⟨.error, some [170]⟩ ∧
      ∃ container, encrypt ⟨1, 0x10, 8, 1, 1⟩ ⟨default, default⟩ (some [104, 101, 108, 108, 111])
          (some [112, 119]) (some (List.replicate 169 170)) = ⟨.ok, some container⟩ ∧
        decrypt (some container) (some [112, 119]) (some [1, 2, 3, 4, 5]) =
          ⟨.ok, some [104, 101, 108, 108, 111]⟩ := by
  have answers := (encrypt_call_answers ⟨default, default⟩).1 ⟨1, 0x10, 8, 1, 1⟩
  have wrong := (encrypt_call_answers ⟨default, default⟩).1 ⟨3, 0x10, 0, 0, 0⟩
  have clear : Obstacle.first? ⟨1, 0x10, 8, 1, 1⟩ [104, 101, 108, 108, 111] [112, 119]
      (List.replicate 169 170) = none := by
    have room : (List.replicate 169 (170 : UInt8)).length =
        ([104, 101, 108, 108, 111] : Bytes).length + 164 :=
      List.length_replicate.trans (by decide)
    refine Obstacle.first?_eq_none_iff.2 fun o => ?_
    cases o with
    | length => exact not_not_intro room
    | variant => decide
    | version => decide
    | costs => decide
    | passphrase => decide
    | plaintext => decide
  obtain ⟨_, _, container, _, _, _, answer, opens⟩ := answers.made _ _ _ clear
  exact ⟨answers.missing _ _ _ (.inr (.inr rfl)), wrong.refused _ _ _ .variant (by decide),
    answers.refused _ _ _ .length (by decide), container, answer, opens [1, 2, 3, 4, 5] rfl⟩

end Coffer.Interface
