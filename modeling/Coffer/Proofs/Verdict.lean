import Coffer.Proofs.Encryption
import Coffer.Proofs.Header.Signing
import Mathlib.Logic.ExistsUnique
import Mathlib.Logic.Nontrivial.Defs

/-!
# How decryption ends

There are four verdicts on a byte string and a passphrase, and exactly one of them is true. The
header is judged before the keys, the keys before the payload, and nothing behind the header has an
influence on the first two judgements.
-/

set_option autoImplicit false
set_option relaxedAutoImplicit false

namespace Coffer

instance Octets.nontrivial (n : Nat) : Nontrivial (Octets (n + 1)) := by
  refine ⟨.zero _, ⟨List.replicate (n + 1) 1, List.length_replicate⟩, ?_⟩
  intro same
  have first := List.head_eq_of_cons_eq (congrArg Subtype.val same)
  exact absurd first (by decide)

/-- What can be said about a byte string and a passphrase. -/
inductive Verdict
  | malformed | wrongPassphrase | damaged | authentic
  deriving DecidableEq, Repr

namespace Verdict

/-- The header of a byte string, and the keys that a passphrase gives for it. -/
def Keyed (data passphrase : Bytes) (h : Header) (keys : Keys) : Prop :=
  Header.parse data = .ok h ∧ Keys.derive h.scheme passphrase h.salt = .ok keys

/-- Whether the stored authentication code is that of the first 84 bytes. -/
def Confirmed (data : Bytes) (keys : Keys) : Prop :=
  Layout.mac.of data = (Blake2b.mac keys.header (data.take 84)).val

/-- Whether the last 16 bytes are the tag of the bytes between them and the header. -/
def Intact (data : Bytes) (nonce : Octets 24) (keys : Keys) : Prop :=
  data.drop (data.length - 16) =
    (Aead.tag keys.payload nonce ((data.drop 148).take (data.length - 164))).val

/-- Whether the cipher can take what stands between the header and the last 16 bytes, and these are
its tag. -/
def Genuine (data : Bytes) (nonce : Octets 24) (keys : Keys) : Prop :=
  Aead.Fits (data.length - 164) ∧ Intact data nonce keys

/-- What a verdict says. -/
def Holds (data passphrase : Bytes) : Verdict → Prop
  | malformed => ∃ e, Header.parse data = .error e
  | wrongPassphrase => ∃ h keys, Keyed data passphrase h keys ∧ ¬ Confirmed data keys
  | damaged => ∃ h keys, Keyed data passphrase h keys ∧ Confirmed data keys ∧
      ¬ Intact data h.nonce keys
  | authentic => ∃ h keys, Keyed data passphrase h keys ∧ Confirmed data keys ∧
      Intact data h.nonce keys

/-- How decryption ends under a verdict. A header that is refused and a wrong passphrase are found
by the decryptor, the latter whatever stands behind the header. -/
def Ends (data passphrase : Bytes) : Verdict → Prop
  | malformed => ∃ e, Header.parse data = .error e ∧
      Decryptor.prepare data passphrase = .error e ∧ decrypt data passphrase = .error e
  | wrongPassphrase =>
      Decryptor.prepare data passphrase = .error (.ofKind .wrongHeaderMac) ∧
        ∀ other : Bytes, 164 ≤ other.length → other.take 148 = data.take 148 →
          decrypt other passphrase = .error (.ofKind .wrongHeaderMac)
  | damaged => (∃ d, Decryptor.prepare data passphrase = .ok d) ∧
      decrypt data passphrase = .error (.ofKind .wrongTag)
  | authentic => ∃ p, decrypt data passphrase = .ok p ∧ p.length + 164 = data.length

variable {data passphrase : Bytes} {h : Header} {keys : Keys}

theorem Keyed.unique {g : Header} {others : Keys} (first : Keyed data passphrase h keys)
    (second : Keyed data passphrase g others) : g = h ∧ others = keys := by
  obtain ⟨parsed, derived⟩ := first
  obtain ⟨parsed', derived'⟩ := second
  rw [parsed] at parsed'
  cases parsed'
  rw [derived] at derived'
  exact ⟨rfl, (Except.ok.inj derived').symm⟩

theorem Keyed.le_length (keyed : Keyed data passphrase h keys) : 164 ≤ data.length :=
  Header.le_length_of_parse keyed.1

/-- The header and the keys are the same for all inputs with the same first 148 bytes. -/
theorem Keyed.of_take_eq {other : Bytes} (keyed : Keyed data passphrase h keys)
    (long : 164 ≤ other.length) (same : other.take 148 = data.take 148) :
    Keyed other passphrase h keys :=
  ⟨(Header.parse_congr long keyed.le_length same).trans keyed.1, keyed.2⟩

theorem confirmed_iff (parsed : Header.parse data = .ok h) :
    Confirmed data keys ↔ h.mac = Header.macOf keys.header h.authenticatedBytes := by
  unfold Confirmed
  rw [← Header.mac_of_parse parsed, ← Header.authenticatedBytes_of_parse parsed]
  exact Subtype.ext_iff.symm

/-- Whether the code is right does not depend on anything behind the header. -/
theorem confirmed_congr {other : Bytes} (same : other.take 148 = data.take 148) :
    Confirmed other keys ↔ Confirmed data keys := by
  have covered : other.take 84 = data.take 84 := by
    have cut := congrArg (List.take 84) same
    rwa [List.take_take, List.take_take] at cut
  have code : Layout.mac.of other = Layout.mac.of data :=
    Span.of_eq_of_take_eq (by decide) same
  unfold Confirmed
  rw [covered, code]

theorem prepare_of_confirmed (keyed : Keyed data passphrase h keys)
    (confirmed : Confirmed data keys) :
    Decryptor.prepare data passphrase =
      .ok ⟨Container.after h data keyed.le_length, keys⟩ := by
  have verified := Header.verify_of_mac_eq ((confirmed_iff keyed.1).1 confirmed)
  rw [Decryptor.prepare_of_parse keyed.le_length keyed.1, keyed.2]
  rw [ok_bind, verified, ok_bind]

theorem prepare_of_not_confirmed (keyed : Keyed data passphrase h keys)
    (foreign : ¬ Confirmed data keys) :
    Decryptor.prepare data passphrase = .error (.ofKind .wrongHeaderMac) := by
  have refused := Header.verify_of_mac_ne fun own => foreign ((confirmed_iff keyed.1).2 own)
  rw [Decryptor.prepare_of_parse keyed.le_length keyed.1, keyed.2]
  rw [ok_bind, refused, error_bind]

/-- A payload is genuine exactly if the cipher accepts it. -/
theorem genuine_iff (long : 164 ≤ data.length) :
    Genuine data h.nonce keys ↔ Decryptor.Authentic ⟨Container.after h data long, keys⟩ := by
  have length : ((data.drop 148).take (data.length - 164)).length = data.length - 164 := by
    rw [List.length_take, List.length_drop]
    omega
  have last : (Container.after h data long).tag.val = data.drop (data.length - 16) := by
    have offset : 148 + (data.length - 164) = data.length - 16 := by omega
    rw [Container.tag_after, List.drop_drop, offset]
  unfold Genuine Intact Decryptor.Authentic
  rw [Container.header_after, Container.ciphertext_after, length, ← last]
  constructor
  · rintro ⟨fits, same⟩
    exact ⟨fits, (Subtype.ext same).symm⟩
  · rintro ⟨fits, same⟩
    exact ⟨fits, congrArg Subtype.val same.symm⟩

/-- The last 16 bytes are right exactly if the cipher accepts the payload. -/
theorem intact_iff (long : 164 ≤ data.length) (limited : data.length < 1 <<< 37) :
    Intact data h.nonce keys ↔
      Decryptor.Authentic ⟨Container.after h data long, keys⟩ := by
  have fits : Aead.Fits (data.length - 164) :=
    Aead.fits_of_lt (Nat.lt_of_le_of_lt (Nat.sub_le _ _) limited)
  rw [← genuine_iff long, Genuine, and_iff_right fits]

theorem holds_iff_of_parse_error {e : Error} (refused : Header.parse data = .error e)
    {v : Verdict} : v.Holds data passphrase ↔ v = malformed := by
  have unread {g : Header} {others : Keys} : ¬ Keyed data passphrase g others := by
    rintro ⟨parsed, _⟩
    rw [refused] at parsed
    cases parsed
  cases v with
  | malformed => exact ⟨fun _ => rfl, fun _ => ⟨e, refused⟩⟩
  | wrongPassphrase =>
    exact ⟨fun ⟨_, _, keyed, _⟩ => absurd keyed unread, fun same => by cases same⟩
  | damaged => exact ⟨fun ⟨_, _, keyed, _⟩ => absurd keyed unread, fun same => by cases same⟩
  | authentic => exact ⟨fun ⟨_, _, keyed, _⟩ => absurd keyed unread, fun same => by cases same⟩

/-- Once there are keys, two questions decide. -/
theorem holds_iff_of_keyed (keyed : Keyed data passphrase h keys) {v : Verdict} :
    v.Holds data passphrase ↔
      (v = wrongPassphrase ∧ ¬ Confirmed data keys) ∨
        (v = damaged ∧ Confirmed data keys ∧ ¬ Intact data h.nonce keys) ∨
        (v = authentic ∧ Confirmed data keys ∧ Intact data h.nonce keys) := by
  constructor
  · intro holds
    cases v with
    | malformed =>
      obtain ⟨e, refused⟩ := holds
      rw [keyed.1] at refused
      cases refused
    | wrongPassphrase =>
      obtain ⟨g, others, found, foreign⟩ := holds
      obtain ⟨rfl, rfl⟩ := keyed.unique found
      exact .inl ⟨rfl, foreign⟩
    | damaged =>
      obtain ⟨g, others, found, answers⟩ := holds
      obtain ⟨rfl, rfl⟩ := keyed.unique found
      exact .inr (.inl ⟨rfl, answers⟩)
    | authentic =>
      obtain ⟨g, others, found, answers⟩ := holds
      obtain ⟨rfl, rfl⟩ := keyed.unique found
      exact .inr (.inr ⟨rfl, answers⟩)
  · rintro (⟨rfl, foreign⟩ | ⟨rfl, answers⟩ | ⟨rfl, answers⟩)
    · exact ⟨h, keys, keyed, foreign⟩
    · exact ⟨h, keys, keyed, answers⟩
    · exact ⟨h, keys, keyed, answers⟩

/-- Exactly one verdict holds, since a passphrase within the limit gives keys for every header. -/
theorem existsUnique_holds (data : Bytes) (short : passphrase.length < 1 <<< 32) :
    ∃! v, Holds data passphrase v := by
  cases parsed : Header.parse data with
  | error e =>
    refine ⟨malformed, (holds_iff_of_parse_error parsed).2 rfl, ?_⟩
    intro v holds
    exact (holds_iff_of_parse_error parsed).1 holds
  | ok h =>
    obtain ⟨keys, derived⟩ := Keys.exists_derive h.scheme h.salt (Nat.le_of_lt_succ short)
    have keyed : Keyed data passphrase h keys := ⟨parsed, derived⟩
    simp only [holds_iff_of_keyed keyed]
    by_cases confirmed : Confirmed data keys
    · by_cases intact : Intact data h.nonce keys
      · exact ⟨authentic, by simp [confirmed, intact], by simp [confirmed, intact]⟩
      · exact ⟨damaged, by simp [confirmed, intact], by simp [confirmed, intact]⟩
    · exact ⟨wrongPassphrase, by simp [confirmed], by simp [confirmed]⟩

/-- A verdict that holds decides how decryption ends. -/
theorem Holds.ends {v : Verdict} (holds : v.Holds data passphrase)
    (limited : data.length < 1 <<< 37) : v.Ends data passphrase := by
  cases v with
  | malformed =>
    obtain ⟨e, refused⟩ := holds
    have prepared : Decryptor.prepare data passphrase = .error e :=
      Decryptor.prepare_of_parse_error refused
    refine ⟨e, refused, prepared, ?_⟩
    rw [decrypt, prepared, error_bind]
  | wrongPassphrase =>
    obtain ⟨h, keys, keyed, foreign⟩ := holds
    refine ⟨prepare_of_not_confirmed keyed foreign, ?_⟩
    intro other long same
    -- The keys and the judgement on the code are those of `data`, so the payload is never reached.
    have elsewhere : ¬ Confirmed other keys := fun own => foreign ((confirmed_congr same).1 own)
    rw [decrypt, prepare_of_not_confirmed (keyed.of_take_eq long same) elsewhere, error_bind]
  | damaged =>
    obtain ⟨h, keys, keyed, confirmed, damage⟩ := holds
    have prepared := prepare_of_confirmed keyed confirmed
    refine ⟨⟨_, prepared⟩, ?_⟩
    rw [decrypt, prepared, ok_bind]
    exact Decryptor.toBytes_of_not_authentic fun own => damage ((intact_iff _ limited).2 own)
  | authentic =>
    obtain ⟨h, keys, keyed, confirmed, intact⟩ := holds
    have long := keyed.le_length
    have accepted := (intact_iff long limited).1 intact
    refine ⟨_, decrypt_eq_ok_iff.2 ⟨_, prepare_of_confirmed keyed confirmed, accepted, rfl⟩, ?_⟩
    rw [Decryptor.plaintext, ChaCha20.length_apply, Container.after, List.length_take,
      List.length_drop]
    omega

/-- The verdict on the bytes of a container, once there are keys. -/
theorem holds_toBytes_iff {c : Container} {v : Verdict}
    (derived : Keys.derive c.header.scheme passphrase c.header.salt = .ok keys)
    (limited : c.toBytes.length < 1 <<< 37) :
    v.Holds c.toBytes passphrase ↔
      v = if c.header.mac = Header.macOf keys.header c.header.authenticatedBytes then
        if Aead.tag keys.payload c.header.nonce c.ciphertext = c.tag then authentic else damaged
      else wrongPassphrase := by
  have long := Header.le_length_of_parse c.parse_toBytes
  have whole : Container.after c.header c.toBytes long = c :=
    Container.toBytes_injective (Container.toBytes_after long c.parse_toBytes)
  have fits : Aead.Fits c.ciphertext.length := by
    refine Aead.fits_of_lt (Nat.lt_of_le_of_lt ?_ limited)
    rw [Container.length_toBytes, Container.lengthFor_eq]
    exact Nat.le_add_right _ _
  have keyed : Keyed c.toBytes passphrase c.header keys := ⟨c.parse_toBytes, derived⟩
  rw [holds_iff_of_keyed keyed, confirmed_iff c.parse_toBytes, intact_iff long limited, whole,
    Decryptor.Authentic]
  split
  · rename_i confirmed
    split
    · rename_i intact
      simp [confirmed, intact, fits]
    · rename_i damage
      simp [confirmed, damage]
  · rename_i foreign
    simp [foreign]

/-- Any header and any ciphertext can be completed to a container for each of the three verdicts,
and the last two differ in the tag only. -/
theorem exists_holds_each (header : Header) (ciphertext : Bytes)
    (short : passphrase.length < 1 <<< 32) (limited : ciphertext.length + 164 < 1 <<< 37) :
    ∃ (code : Octets 64) (key : Octets 64) (damage tag : Octets 16),
      Holds (Container.toBytes ⟨{ header with mac := code }, ciphertext, tag⟩) passphrase
        wrongPassphrase ∧
      Holds (Container.toBytes ⟨header.sign key, ciphertext, damage⟩) passphrase damaged ∧
      Holds (Container.toBytes ⟨header.sign key, ciphertext, tag⟩) passphrase authentic := by
  have within (h : Header) (t : Octets 16) :
      (Container.toBytes ⟨h, ciphertext, t⟩).length < 1 <<< 37 := by
    rwa [Container.length_toBytes, Container.lengthFor_eq]
  obtain ⟨keys, derived⟩ := Keys.exists_derive header.scheme header.salt (Nat.le_of_lt_succ short)
  obtain ⟨code, foreign⟩ := exists_ne (Header.macOf keys.header header.authenticatedBytes)
  obtain ⟨damage, wrong⟩ := exists_ne (Aead.tag keys.payload header.nonce ciphertext)
  have signed : (header.sign keys.header).mac =
      Header.macOf keys.header (header.sign keys.header).authenticatedBytes := by
    rw [Header.authenticatedBytes_sign]
    rfl
  have verdict {h : Header} {t : Octets 16} {v : Verdict} (scheme : h.scheme = header.scheme)
      (salt : h.salt = header.salt) := holds_toBytes_iff (c := ⟨h, ciphertext, t⟩) (v := v)
    (by rw [scheme, salt, derived]) (within h t)
  refine ⟨code, keys.header, damage, Aead.tag keys.payload header.nonce ciphertext, ?_, ?_, ?_⟩
  · exact (verdict (h := { header with mac := code }) rfl rfl).2 (if_neg foreign).symm
  · exact (verdict (header.scheme_sign _) (header.salt_sign _)).2
      ((if_pos signed).trans (if_neg wrong.symm)).symm
  · exact (verdict (header.scheme_sign _) (header.salt_sign _)).2
      ((if_pos signed).trans (if_pos rfl)).symm

end Verdict

/-- Whether there is a decryptor, and if not, why, depends on the first 148 bytes only. -/
theorem Decryptor.prepare_congr {a b : Bytes} (passphrase : Bytes) (longA : 164 ≤ a.length)
    (longB : 164 ≤ b.length) (same : a.take 148 = b.take 148) :
    (prepare a passphrase).map (fun _ => ()) = (prepare b passphrase).map fun _ => () := by
  have parsed := Header.parse_congr longA longB same
  cases parsedB : Header.parse b with
  | error e =>
    rw [prepare_of_parse_error parsedB, prepare_of_parse_error (parsed.trans parsedB)]
  | ok h =>
    rw [prepare_of_parse longB parsedB, prepare_of_parse longA (parsed.trans parsedB)]
    cases Keys.derive h.scheme passphrase h.salt with
    | error e => rw [error_bind, error_bind]
    | ok keys =>
      rw [ok_bind, ok_bind]
      cases h.verify keys.header with
      | error e => rw [error_bind, error_bind]
      | ok _ => rw [ok_bind, ok_bind, Except.map, Except.map]

/-- There is no decryptor on account of the header, of the keys or of the header's code. -/
theorem Decryptor.kind_of_prepare_error {data passphrase : Bytes} {e : Error}
    (refused : prepare data passphrase = .error e) :
    e.kind.isStructural ∨ e.kind = .derivationFailed ∨ e.kind = .wrongHeaderMac := by
  cases parsed : Header.parse data with
  | error reason =>
    rw [prepare_of_parse_error parsed] at refused
    rw [← Except.error.inj refused]
    exact .inl (Header.isStructural_of_parse_error parsed)
  | ok header =>
    rw [prepare_of_parse (Header.le_length_of_parse parsed) parsed] at refused
    rcases bind_eq_error_iff.1 refused with underivable | ⟨keys, _, refused⟩
    · rcases Nat.lt_or_ge Argon2.maxPasswordLength passphrase.length with long | short
      · rw [Keys.derive_of_long header.scheme header.salt long] at underivable
        rw [← Except.error.inj underivable]
        exact .inr (.inl rfl)
      · rw [Keys.derive_of_short header.scheme header.salt short] at underivable
        cases underivable
    rcases bind_eq_error_iff.1 refused with foreign | ⟨_, _, refused⟩
    · by_cases own : header.mac = Header.macOf keys.header header.authenticatedBytes
      · rw [Header.verify_of_mac_eq own] at foreign
        cases foreign
      · rw [Header.verify_of_mac_ne own] at foreign
        rw [← Except.error.inj foreign]
        exact .inr (.inr rfl)
    · cases refused

/-- Exactly one verdict is true of a byte string and a passphrase within the limits, and decryption
ends as it says. Whether there is a decryptor does not depend on what stands behind the header. -/
theorem decrypt_ends_by_verdict (passphrase : Bytes) :
    (∀ data : Bytes, data.length < 1 <<< 37 → passphrase.length < 1 <<< 32 →
      (∃! v, Verdict.Holds data passphrase v) ∧
        ∀ v, Verdict.Holds data passphrase v → Verdict.Ends data passphrase v) ∧
      ∀ a b : Bytes, 164 ≤ a.length → 164 ≤ b.length → a.take 148 = b.take 148 →
        (Decryptor.prepare a passphrase).map (fun _ => ()) =
          (Decryptor.prepare b passphrase).map fun _ => () := by
  refine ⟨fun data limited short => ⟨Verdict.existsUnique_holds data short, ?_⟩, ?_⟩
  · intro v holds
    exact holds.ends limited
  · intro a b longA longB same
    exact Decryptor.prepare_congr passphrase longA longB same

/-- The empty byte string, and containers without a payload. -/
theorem decrypt_ends_by_verdict_no_payload :
    (Verdict.Holds [] [112, 119] .malformed ∧ Verdict.Ends [] [112, 119] .malformed) ∧
      ∃ foreign damaged genuine : Bytes,
        (Verdict.Holds foreign [112, 119] .wrongPassphrase ∧
          Verdict.Ends foreign [112, 119] .wrongPassphrase) ∧
        (Verdict.Holds damaged [112, 119] .damaged ∧ Verdict.Ends damaged [112, 119] .damaged) ∧
        (Verdict.Holds genuine [112, 119] .authentic ∧
          Verdict.Ends genuine [112, 119] .authentic) ∧
        (Decryptor.prepare damaged [112, 119]).map (fun _ => ()) =
          (Decryptor.prepare genuine [112, 119]).map fun _ => () := by
  have short : ([112, 119] : Bytes).length < 1 <<< 32 := by decide
  have malformed : Verdict.Holds [] [112, 119] .malformed :=
    ⟨_, Header.parse_of_short (by decide)⟩
  have length (h : Header) (t : Octets 16) : (Container.toBytes ⟨h, [], t⟩).length = 164 := by
    rw [Container.length_toBytes]
    rfl
  have limited (h : Header) (t : Octets 16) :
      (Container.toBytes ⟨h, [], t⟩).length < 1 <<< 37 := by
    rw [length]
    decide
  have front (h : Header) (t : Octets 16) :
      (Container.toBytes ⟨h, [], t⟩).take 148 = h.toBytes :=
    (Header.toBytes_of_parse (Container.parse_toBytes ⟨h, [], t⟩)).symm
  obtain ⟨code, key, damage, tag, foreign, damaged, genuine⟩ :=
    Verdict.exists_holds_each (.unsigned default default default) [] short (by decide)
  have settled := decrypt_ends_by_verdict [112, 119]
  have ends (h : Header) (t : Octets 16) := (settled.1 _ (limited h t) short).2
  refine ⟨⟨malformed, (settled.1 [] (by decide) short).2 _ malformed⟩, _, _, _,
    ⟨foreign, ends _ _ _ foreign⟩, ⟨damaged, ends _ _ _ damaged⟩, ⟨genuine, ends _ _ _ genuine⟩, ?_⟩
  exact settled.2 _ _ (Nat.le_of_eq (length _ _).symm) (Nat.le_of_eq (length _ _).symm)
    ((front _ _).trans (front _ _).symm)

end Coffer
