import Coffer.Header.Mac
import Coffer.Proofs.Header.Reading
import Coffer.Proofs.Refusal

/-!
# Headers and their bytes

A header and its 148 bytes determine each other. Both directions come from one fact: fields that
lie next to each other make up a byte string exactly if each of them stands at its place.
-/

set_option autoImplicit false
set_option relaxedAutoImplicit false

namespace Coffer

/-- Adjacent fields make up a stretch of bytes if and only if each of them is at its span. -/
theorem Layout.take_eq_flatMap_iff {fields : List (Span × Bytes)} {i : Nat} {data : Bytes}
    (adjacent : Layout.Adjacent i fields) :
    (data.drop i).take (fields.flatMap Prod.snd).length = fields.flatMap Prod.snd ↔
      ∀ field ∈ fields, field.1.of data = field.2 := by
  induction fields generalizing i with
  | nil => simp
  | cons field rest ih =>
    obtain ⟨span, fresh⟩ := field
    obtain ⟨first, last, next⟩ := adjacent
    have here : span.of data = (data.drop i).take fresh.length := by
      rw [Span.of, first, last, List.drop_take, Nat.add_sub_cancel_left]
    rw [List.flatMap_cons, List.length_append, List.take_add, List.drop_drop,
      List.forall_mem_cons, ← ih next, here]
    -- The front field can be split off the whole only because the data is long enough for it.
    constructor
    · intro whole
      have lengths : ((data.drop i).take fresh.length).length = fresh.length := by
        have total := congrArg List.length whole
        simp only [List.length_append, List.length_take, List.length_drop] at total ⊢
        omega
      exact List.append_inj whole lengths
    · rintro ⟨front, back⟩
      rw [front, back]

theorem wordOfBytes_eq_iff {b : Bytes} {w : UInt32} (length : b.length = 4) :
    wordOfBytes b = w ↔ b = wordBytes w := by
  constructor
  · rintro rfl
    exact (wordBytes_wordOfBytes length).symm
  · rintro rfl
    exact wordOfBytes_wordBytes w

theorem FormatVersion.ofNumber_eq_ok_iff {n : UInt8} {v : FormatVersion} :
    FormatVersion.ofNumber n = .ok v ↔ n = v.number := by
  constructor
  · intro known
    unfold FormatVersion.ofNumber at known
    split at known
    · cases known
      rfl
    · cases known
      rfl
    · cases known
  · rintro rfl
    cases v <;> rfl

namespace Header

/-- A header is read exactly if each of its fields stands at its place. -/
theorem stated_eq_ok_iff {data : Bytes} {long : 164 ≤ data.length} {h : Header} :
    stated data long = .ok h ↔
      (∀ field ∈ h.authenticatedFields, field.1.of data = field.2) ∧
        Layout.mac.of data = h.mac.val := by
  have word {s : Span} {w : UInt32} (h₁ : s.stop ≤ 164) (h₂ : s.stop - s.start = 4) :
      wordOfBytes (s.of data) = w ↔ s.of data = wordBytes w :=
    wordOfBytes_eq_iff (by rw [Span.length_of (Nat.le_trans h₁ long), h₂])
  have versionByte := Layout.version_of_eq long
  have octets {s : Span} {n : Nat} {o : Octets n} (width : s.stop - s.start = n)
      (inside : s.stop ≤ data.length) :
      octetsAt s n data width inside = o ↔ s.of data = o.val := Subtype.ext_iff
  simp only [authenticatedFields, List.forall_mem_cons, versionByte]
  constructor
  · intro success
    unfold stated at success
    obtain ⟨magic, success⟩ := require_eq_ok_iff.1 success
    obtain ⟨format, formatRead, success⟩ := bind_eq_ok_iff.1 success
    obtain ⟨current, success⟩ := require_eq_ok_iff.1 success
    obtain ⟨variant, variantRead, success⟩ := bind_eq_ok_iff.1 success
    obtain ⟨version, versionRead, success⟩ := bind_eq_ok_iff.1 success
    obtain ⟨costs, costsRead, success⟩ := bind_eq_ok_iff.1 success
    cases success
    obtain ⟨memory, time, lanes⟩ := Costs.ofTriple_eq_ok_iff.1 costsRead
    have known := FormatVersion.ofNumber_eq_ok_iff.1 formatRead
    rw [current] at known
    refine ⟨⟨magic, congrArg (List.cons · []) known, ?_, ?_, ?_, ?_, ?_, rfl, rfl, ?_⟩, rfl⟩
    · exact (word (by decide) rfl).1 (variantOfNumber_eq_ok_iff.1 variantRead)
    · exact (word (by decide) rfl).1 (argon2VersionOfNumber_eq_ok_iff.1 versionRead)
    · exact (word (by decide) rfl).1 memory
    · exact (word (by decide) rfl).1 time
    · exact (word (by decide) rfl).1 lanes
    · simp
  · rintro ⟨⟨magic, version, variant, argon2Version, memory, time, lanes, salt, nonce, _⟩, mac⟩
    unfold stated
    refine require_eq_ok_iff.2 ⟨magic, bind_eq_ok_iff.2 ⟨.current,
      FormatVersion.ofNumber_eq_ok_iff.2 (List.head_eq_of_cons_eq version), ?_⟩⟩
    refine require_eq_ok_iff.2 ⟨rfl, bind_eq_ok_iff.2 ⟨h.scheme.variant,
      variantOfNumber_eq_ok_iff.2 ((word (by decide) rfl).2 variant), ?_⟩⟩
    refine bind_eq_ok_iff.2 ⟨h.scheme.version,
      argon2VersionOfNumber_eq_ok_iff.2 ((word (by decide) rfl).2 argon2Version), ?_⟩
    refine bind_eq_ok_iff.2 ⟨h.scheme.costs, Costs.ofTriple_eq_ok_iff.2
      ⟨(word (by decide) rfl).2 memory, (word (by decide) rfl).2 time,
        (word (by decide) rfl).2 lanes⟩, ?_⟩
    rw [(octets _ _).2 salt, (octets _ _).2 nonce, (octets _ _).2 mac]
    rfl

/-- What has been read stands at its place. -/
theorem field_of_parse {data : Bytes} {h : Header} (parsed : parse data = .ok h)
    {field : Span × Bytes} (member : field ∈ h.authenticatedFields) :
    field.1.of data = field.2 := by
  have long := le_length_of_parse parsed
  rw [parse_of_long long] at parsed
  exact (stated_eq_ok_iff.1 parsed).1 field member

/-- Whatever is wrong with the stated fields, it is the header itself that is at fault. -/
theorem isStructural_of_stated_error {data : Bytes} {long : 164 ≤ data.length} {e : Error}
    (refused : stated data long = .error e) : e.kind.isStructural := by
  unfold stated at refused
  split at refused
  · rcases bind_eq_error_iff.1 refused with unread | ⟨format, _, refused⟩
    · unfold FormatVersion.ofNumber at unread
      split at unread
      · cases unread
      · cases unread
      · cases unread
        rfl
    split at refused
    · rcases bind_eq_error_iff.1 refused with unread | ⟨variant, _, refused⟩
      · exact isStructural_of_variant_error unread
      rcases bind_eq_error_iff.1 refused with unread | ⟨version, _, refused⟩
      · exact isStructural_of_version_error unread
      rcases bind_eq_error_iff.1 refused with unread | ⟨costs, _, refused⟩
      · exact Costs.isStructural_of_error unread
      cases refused
    · cases refused
      rfl
  · cases refused
    rfl

/-- Every refusal of a header is one that no passphrase could help against. -/
theorem isStructural_of_parse_error {data : Bytes} {e : Error}
    (refused : parse data = .error e) : e.kind.isStructural := by
  rcases Nat.lt_or_ge data.length 164 with short | long
  · rw [parse_of_short short] at refused
    cases refused
    rfl
  · rw [parse_of_long long] at refused
    exact isStructural_of_stated_error refused

theorem adjacent_authenticatedFields (h : Header) :
    Layout.Adjacent 0 h.authenticatedFields := by
  simp [authenticatedFields, Layout.Adjacent, Layout.magic, Layout.version, Layout.variant,
    Layout.argon2Version, Layout.memory, Layout.time, Layout.lanes, Layout.salt, Layout.nonce,
    magicNumber]

/-- The first 84 bytes are those of a header exactly if its fields stand at their places. -/
theorem take_eq_authenticatedBytes_iff {data : Bytes} {h : Header} :
    data.take 84 = h.authenticatedBytes ↔
      ∀ field ∈ h.authenticatedFields, field.1.of data = field.2 := by
  have places : (data.drop 0).take (h.authenticatedFields.flatMap Prod.snd).length =
      h.authenticatedFields.flatMap Prod.snd ↔ _ :=
    Layout.take_eq_flatMap_iff h.adjacent_authenticatedFields
  have length := h.length_authenticatedBytes
  rw [authenticatedBytes_eq] at length ⊢
  rwa [length, List.drop_zero] at places

/-- The first 148 bytes are a header's covered bytes and its authentication code. -/
theorem take_eq_toBytes_iff {data : Bytes} {h : Header} :
    data.take 148 = h.toBytes ↔
      data.take 84 = h.authenticatedBytes ∧ Layout.mac.of data = h.mac.val := by
  have front : (data.take 148).take 84 = data.take 84 := by
    rw [List.take_take]
    rfl
  have halves : data.take 148 = data.take 84 ++ Layout.mac.of data := by
    rw [← front]
    exact (List.take_append_drop 84 (data.take 148)).symm
  rw [halves, toBytes_eq]
  constructor
  · intro whole
    refine List.append_inj whole ?_
    have total := congrArg List.length whole
    simp only [List.length_append, List.length_take, length_authenticatedBytes,
      Octets.length_val, Span.of, Layout.mac, List.length_drop] at total ⊢
    omega
  · rintro ⟨covered, code⟩
    rw [covered, code]

/-- A byte string is read as a header exactly if it starts with the header's bytes and is long
enough to hold a tag behind them. -/
theorem parse_eq_ok_iff {data : Bytes} {h : Header} :
    parse data = .ok h ↔ 164 ≤ data.length ∧ data.take 148 = h.toBytes := by
  rcases Nat.lt_or_ge data.length 164 with short | long
  · rw [parse_of_short short]
    constructor
    · intro success
      cases success
    · rintro ⟨long, _⟩
      exact absurd long (Nat.not_le.2 short)
  · rw [parse_of_long long, stated_eq_ok_iff, take_eq_toBytes_iff, take_eq_authenticatedBytes_iff]
    exact ⟨fun places => ⟨long, places⟩, fun places => places.2⟩

theorem parse_toBytes_append (h : Header) {tail : Bytes} (long : 16 ≤ tail.length) :
    parse (h.toBytes ++ tail) = .ok h := by
  refine parse_eq_ok_iff.2 ⟨?_, List.take_left' h.length_toBytes⟩
  rw [List.length_append, length_toBytes]
  omega

theorem toBytes_of_parse {data : Bytes} {h : Header} (parsed : parse data = .ok h) :
    h.toBytes = data.take 148 := (parse_eq_ok_iff.1 parsed).2.symm

theorem authenticatedBytes_of_parse {data : Bytes} {h : Header} (parsed : parse data = .ok h) :
    h.authenticatedBytes = data.take 84 :=
  (take_eq_toBytes_iff.1 (parse_eq_ok_iff.1 parsed).2).1.symm

theorem mac_of_parse {data : Bytes} {h : Header} (parsed : parse data = .ok h) :
    h.mac.val = Layout.mac.of data :=
  (take_eq_toBytes_iff.1 (parse_eq_ok_iff.1 parsed).2).2.symm

theorem toBytes_injective {g h : Header} (same : g.toBytes = h.toBytes) : g = h := by
  have tail : 16 ≤ (List.replicate 16 (0 : UInt8)).length := by decide
  have parsed := parse_toBytes_append g tail
  rw [same, parse_toBytes_append h tail] at parsed
  exact (Except.ok.inj parsed).symm

/-- The covered bytes are the same exactly if all fields but the authentication code are. -/
theorem authenticatedBytes_eq_iff {g h : Header} :
    g.authenticatedBytes = h.authenticatedBytes ↔
      g.scheme = h.scheme ∧ g.salt = h.salt ∧ g.nonce = h.nonce := by
  constructor
  · intro same
    have unsignedSame : unsigned g.scheme g.salt g.nonce = unsigned h.scheme h.salt h.nonce := by
      refine toBytes_injective ?_
      rw [toBytes_eq, toBytes_eq]
      exact congrArg (· ++ (Octets.zero 64).val) same
    have scheme := congrArg Header.scheme unsignedSame
    have salt := congrArg Header.salt unsignedSame
    have nonce := congrArg Header.nonce unsignedSame
    exact ⟨scheme, salt, nonce⟩
  · rintro ⟨scheme, salt, nonce⟩
    rw [authenticatedBytes_eq, authenticatedBytes_eq, authenticatedFields, authenticatedFields,
      scheme, salt, nonce]
    rfl

/-- Headers, however they came about, and byte strings determine each other: what was written is
read back in front of any tail that can hold a tag, what was read is written back byte for byte,
exactly the byte strings that start with a header are read, and the covered bytes fix every field
but the authentication code. -/
theorem codec_exact :
    (∀ (h : Header) (tail : Bytes), 16 ≤ tail.length → parse (h.toBytes ++ tail) = .ok h) ∧
      (∀ (data : Bytes) (h : Header), parse data = .ok h →
        h.toBytes = data.take 148 ∧ h.authenticatedBytes = data.take 84) ∧
      (∀ data : Bytes, (∃ h, parse data = .ok h) ↔
        164 ≤ data.length ∧ ∃ h : Header, data.take 148 = h.toBytes) ∧
      ∀ g h : Header, g.authenticatedBytes = h.authenticatedBytes ↔
        g.scheme = h.scheme ∧ g.salt = h.salt ∧ g.nonce = h.nonce := by
  refine ⟨fun h tail long => parse_toBytes_append h long, ?_, ?_, fun g h => ?_⟩
  · intro data h parsed
    exact ⟨toBytes_of_parse parsed, authenticatedBytes_of_parse parsed⟩
  · intro data
    constructor
    · rintro ⟨h, parsed⟩
      exact ⟨le_length_of_parse parsed, h, (toBytes_of_parse parsed).symm⟩
    · rintro ⟨long, h, front⟩
      exact ⟨h, parse_eq_ok_iff.2 ⟨long, front⟩⟩
  · exact authenticatedBytes_eq_iff

/-- The default header, signed twice, in front of sixteen zeros. -/
theorem codec_exact_signed_twice :
    ∃ h : Header, h = ((unsigned default default default).sign default).sign (.zero 64) ∧
      16 ≤ (Octets.zero 16).val.length ∧ parse (h.toBytes ++ (Octets.zero 16).val) = .ok h ∧
      h.toBytes = (h.toBytes ++ (Octets.zero 16).val).take 148 ∧
      h.authenticatedBytes = (h.toBytes ++ (Octets.zero 16).val).take 84 := by
  have long : 16 ≤ (Octets.zero 16).val.length := by decide
  have parsed := codec_exact.1 (((unsigned default default default).sign default).sign (.zero 64))
    (Octets.zero 16).val long
  exact ⟨_, rfl, long, parsed, codec_exact.2.1 _ _ parsed⟩

end Header

end Coffer
