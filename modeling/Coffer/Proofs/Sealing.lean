import Coffer.Proofs.Encryption

/-!
# Sealing and opening in place

A buffer opens to a plaintext exactly if the plaintext seals to the buffer, and what does not open
is cleared. Layers of sealing come off in the reverse of the order in which they were put on.
-/

set_option autoImplicit false
set_option relaxedAutoImplicit false

namespace Coffer

/-- Goes on with the buffer that an operation has left, if the operation was successful. -/
def Buffered.andThen {α β : Type} (x : Buffered α) (f : α → Bytes → Buffered β) : Buffered β :=
  match x.outcome with
  | .error e => ⟨x.buffer, .error e⟩
  | .ok a => f a x.buffer

theorem Buffered.andThen_eq_ok_iff {α β : Type} {x : Buffered α} {f : α → Bytes → Buffered β}
    {buffer : Bytes} {b : β} :
    x.andThen f = ⟨buffer, .ok b⟩ ↔
      ∃ a mid, x = ⟨mid, .ok a⟩ ∧ f a mid = ⟨buffer, .ok b⟩ := by
  obtain ⟨mid, e | a⟩ := x
  · simp [andThen]
  · constructor
    · intro success
      exact ⟨a, mid, rfl, success⟩
    · rintro ⟨_, _, first, success⟩
      cases first
      exact success

namespace Aead

variable {key : Octets 32} {nonce : Octets 24} {t : Octets 16} {buffer plaintext : Bytes}

/-! ### One layer -/

theorem sealInPlace_of_fits (fits : Fits buffer.length) :
    sealInPlace key nonce buffer =
      ⟨ChaCha20.apply key nonce buffer, .ok (tag key nonce (ChaCha20.apply key nonce buffer))⟩ :=
  if_pos fits

theorem sealInPlace_of_not_fits (excess : ¬ Fits buffer.length) :
    sealInPlace key nonce buffer = ⟨buffer, .error .payloadTooLong⟩ :=
  if_neg excess

theorem openInPlace_of_tag_eq (fits : Fits buffer.length) (own : tag key nonce buffer = t) :
    openInPlace key nonce t buffer = ⟨ChaCha20.apply key nonce buffer, .ok ()⟩ :=
  if_pos ⟨fits, own⟩

theorem openInPlace_of_not (foreign : ¬ (Fits buffer.length ∧ tag key nonce buffer = t)) :
    openInPlace key nonce t buffer =
      ⟨List.replicate buffer.length 0, .error (.ofKind .wrongTag)⟩ :=
  if_neg foreign

theorem sealInPlace_eq_ok_iff :
    sealInPlace key nonce plaintext = ⟨buffer, .ok t⟩ ↔
      Fits plaintext.length ∧ ChaCha20.apply key nonce plaintext = buffer ∧
        tag key nonce buffer = t := by
  by_cases fits : Fits plaintext.length
  · rw [sealInPlace_of_fits fits]
    constructor
    · intro sealed
      cases sealed
      exact ⟨fits, rfl, rfl⟩
    · rintro ⟨_, rfl, rfl⟩
      rfl
  · rw [sealInPlace_of_not_fits fits]
    constructor
    · intro sealed
      cases sealed
    · rintro ⟨own, _⟩
      exact absurd own fits

theorem openInPlace_eq_ok_iff :
    openInPlace key nonce t buffer = ⟨plaintext, .ok ()⟩ ↔
      Fits buffer.length ∧ tag key nonce buffer = t ∧
        ChaCha20.apply key nonce buffer = plaintext := by
  by_cases own : Fits buffer.length ∧ tag key nonce buffer = t
  · rw [openInPlace_of_tag_eq own.1 own.2]
    constructor
    · intro opened
      cases opened
      exact ⟨own.1, own.2, rfl⟩
    · rintro ⟨_, _, rfl⟩
      rfl
  · rw [openInPlace_of_not own]
    constructor
    · intro opened
      cases opened
    · rintro ⟨fits, same, _⟩
      exact absurd ⟨fits, same⟩ own

/-- A buffer opens to what seals to it, and to nothing else. -/
theorem openInPlace_iff_sealInPlace :
    openInPlace key nonce t buffer = ⟨plaintext, .ok ()⟩ ↔
      sealInPlace key nonce plaintext = ⟨buffer, .ok t⟩ := by
  rw [openInPlace_eq_ok_iff, sealInPlace_eq_ok_iff]
  -- The keystream depends on the length alone, so applying it is its own inverse.
  constructor
  · rintro ⟨fits, own, rfl⟩
    rw [ChaCha20.length_apply, ChaCha20.apply_apply]
    exact ⟨fits, rfl, own⟩
  · rintro ⟨fits, rfl, own⟩
    rw [ChaCha20.length_apply, ChaCha20.apply_apply]
    exact ⟨fits, own, rfl⟩

/-- A buffer that does not open is cleared. -/
theorem outcome_openInPlace_ne_ok_iff :
    (openInPlace key nonce t buffer).outcome ≠ .ok () ↔
      openInPlace key nonce t buffer =
        ⟨List.replicate buffer.length 0, .error (.ofKind .wrongTag)⟩ := by
  constructor
  · intro failed
    refine openInPlace_of_not fun own => failed ?_
    rw [openInPlace_of_tag_eq own.1 own.2]
  · intro cleared
    rw [cleared]
    simp

@[simp] theorem length_sealInPlace (key : Octets 32) (nonce : Octets 24) (buffer : Bytes) :
    (sealInPlace key nonce buffer).buffer.length = buffer.length := by
  by_cases fits : Fits buffer.length
  · rw [sealInPlace_of_fits fits, ChaCha20.length_apply]
  · rw [sealInPlace_of_not_fits fits]

@[simp] theorem length_openInPlace (key : Octets 32) (nonce : Octets 24) (t : Octets 16)
    (buffer : Bytes) : (openInPlace key nonce t buffer).buffer.length = buffer.length := by
  by_cases own : Fits buffer.length ∧ tag key nonce buffer = t
  · rw [openInPlace_of_tag_eq own.1 own.2, ChaCha20.length_apply]
  · rw [openInPlace_of_not own, List.length_replicate]

/-! ### On a copy -/

theorem encrypt_eq_ok_iff {ciphertext : Bytes} :
    encrypt key nonce plaintext = .ok (ciphertext, t) ↔
      sealInPlace key nonce plaintext = ⟨ciphertext, .ok t⟩ := by
  unfold encrypt
  rcases sealInPlace key nonce plaintext with ⟨left, _ | own⟩
  · simp [Except.map]
  · simp [Except.map]

theorem encrypt_eq_error_iff {e : Error} :
    encrypt key nonce plaintext = .error e ↔
      (sealInPlace key nonce plaintext).outcome = .error e := by
  unfold encrypt
  rcases sealInPlace key nonce plaintext with ⟨left, _ | own⟩
  · simp [Except.map]
  · simp [Except.map]

theorem decrypt_eq_ok_iff :
    decrypt key nonce t buffer = .ok plaintext ↔
      openInPlace key nonce t buffer = ⟨plaintext, .ok ()⟩ := by
  unfold decrypt
  rcases openInPlace key nonce t buffer with ⟨left, _ | own⟩
  · simp [Except.map]
  · simp [Except.map]

theorem decrypt_eq_error_iff {e : Error} :
    decrypt key nonce t buffer = .error e ↔
      (openInPlace key nonce t buffer).outcome = .error e := by
  unfold decrypt
  rcases openInPlace key nonce t buffer with ⟨left, _ | own⟩
  · simp [Except.map]
  · simp [Except.map]

/-! ### Layers -/

/-- What a buffer is sealed under. -/
structure Layer where
  key : Octets 32
  nonce : Octets 24
  deriving DecidableEq

/-- Seals a buffer under one layer after another and collects the tags. -/
def sealUnder : List Layer → Bytes → Buffered (List (Octets 16))
  | [], buffer => ⟨buffer, .ok []⟩
  | layer :: layers, buffer =>
    (sealInPlace layer.key layer.nonce buffer).andThen fun t buffer =>
      (sealUnder layers buffer).andThen fun tags buffer => ⟨buffer, .ok (t :: tags)⟩

/-- Opens one layer after another, each with its tag. -/
def openUnder : List (Layer × Octets 16) → Bytes → Buffered Unit
  | [], buffer => ⟨buffer, .ok ()⟩
  | (layer, t) :: layers, buffer =>
    (openInPlace layer.key layer.nonce t buffer).andThen fun _ buffer => openUnder layers buffer

variable {layer : Layer} {layers : List Layer} {tags : List (Octets 16)}
  {outer inner : List (Layer × Octets 16)}

theorem sealUnder_nil_eq_ok_iff :
    sealUnder [] plaintext = ⟨buffer, .ok tags⟩ ↔ plaintext = buffer ∧ tags = [] := by
  constructor
  · intro sealed
    cases sealed
    exact ⟨rfl, rfl⟩
  · rintro ⟨rfl, rfl⟩
    rfl

theorem sealUnder_cons_eq_ok_iff :
    sealUnder (layer :: layers) plaintext = ⟨buffer, .ok tags⟩ ↔
      ∃ t mid rest, sealInPlace layer.key layer.nonce plaintext = ⟨mid, .ok t⟩ ∧
        sealUnder layers mid = ⟨buffer, .ok rest⟩ ∧ tags = t :: rest := by
  simp only [sealUnder, Buffered.andThen_eq_ok_iff]
  constructor
  · rintro ⟨t, mid, sealed, rest, last, further, collected⟩
    cases collected
    exact ⟨t, mid, rest, sealed, further, rfl⟩
  · rintro ⟨t, mid, rest, sealed, further, rfl⟩
    exact ⟨t, mid, sealed, rest, buffer, further, rfl⟩

theorem openUnder_nil_eq_ok_iff :
    openUnder [] buffer = ⟨plaintext, .ok ()⟩ ↔ buffer = plaintext := by
  constructor
  · intro opened
    cases opened
    rfl
  · rintro rfl
    rfl

theorem openUnder_cons_eq_ok_iff :
    openUnder ((layer, t) :: inner) buffer = ⟨plaintext, .ok ()⟩ ↔
      ∃ mid, openInPlace layer.key layer.nonce t buffer = ⟨mid, .ok ()⟩ ∧
        openUnder inner mid = ⟨plaintext, .ok ()⟩ := by
  rw [openUnder, Buffered.andThen_eq_ok_iff]
  constructor
  · rintro ⟨⟨⟩, mid, first, opened⟩
    exact ⟨mid, first, opened⟩
  · rintro ⟨mid, first, opened⟩
    exact ⟨(), mid, first, opened⟩

theorem openUnder_append_eq_ok_iff :
    openUnder (outer ++ inner) buffer = ⟨plaintext, .ok ()⟩ ↔
      ∃ mid, openUnder outer buffer = ⟨mid, .ok ()⟩ ∧
        openUnder inner mid = ⟨plaintext, .ok ()⟩ := by
  induction outer generalizing buffer with
  | nil => simp only [List.nil_append, openUnder_nil_eq_ok_iff, exists_eq_left']
  | cons head outer ih =>
    obtain ⟨layer, t⟩ := head
    simp only [List.cons_append, openUnder_cons_eq_ok_iff, ih]
    constructor
    · rintro ⟨first, opened, mid, further, last⟩
      exact ⟨mid, ⟨first, opened, further⟩, last⟩
    · rintro ⟨mid, ⟨first, opened, further⟩, last⟩
      exact ⟨first, opened, mid, further, last⟩

/-- The innermost layer is the one that is opened last. -/
theorem openUnder_reverse_cons_eq_ok_iff :
    openUnder ((layer :: layers).zip (t :: tags)).reverse buffer = ⟨plaintext, .ok ()⟩ ↔
      ∃ mid, openUnder (layers.zip tags).reverse buffer = ⟨mid, .ok ()⟩ ∧
        openInPlace layer.key layer.nonce t mid = ⟨plaintext, .ok ()⟩ := by
  rw [List.zip_cons_cons, List.reverse_cons, openUnder_append_eq_ok_iff]
  simp only [openUnder_cons_eq_ok_iff, openUnder_nil_eq_ok_iff, exists_eq_right]

/-- Layers open in reverse, with one tag for each, to what seals under them with these tags. -/
theorem sealUnder_eq_ok_iff :
    sealUnder layers plaintext = ⟨buffer, .ok tags⟩ ↔
      tags.length = layers.length ∧
        openUnder (layers.zip tags).reverse buffer = ⟨plaintext, .ok ()⟩ := by
  induction layers generalizing plaintext tags with
  | nil =>
    rw [sealUnder_nil_eq_ok_iff, List.length_nil, List.length_eq_zero_iff, List.zip_nil_left,
      List.reverse_nil, openUnder_nil_eq_ok_iff]
    constructor
    · rintro ⟨same, none⟩
      exact ⟨none, same.symm⟩
    · rintro ⟨none, same⟩
      exact ⟨same.symm, none⟩
  | cons layer layers ih =>
    rw [sealUnder_cons_eq_ok_iff]
    constructor
    · rintro ⟨t, mid, rest, sealed, further, rfl⟩
      obtain ⟨length, opened⟩ := ih.1 further
      refine ⟨congrArg Nat.succ length, openUnder_reverse_cons_eq_ok_iff.2 ⟨mid, opened, ?_⟩⟩
      exact openInPlace_iff_sealInPlace.2 sealed
    · rintro ⟨length, opened⟩
      cases tags with
      | nil => cases length
      | cons t rest =>
        obtain ⟨mid, opened, last⟩ := openUnder_reverse_cons_eq_ok_iff.1 opened
        exact ⟨t, mid, rest, openInPlace_iff_sealInPlace.1 last,
          ih.2 ⟨Nat.succ.inj length, opened⟩, rfl⟩

theorem exists_sealUnder_of_fits (fits : Fits buffer.length) :
    ∃ sealed tags, sealUnder layers buffer = ⟨sealed, .ok tags⟩ := by
  induction layers generalizing buffer with
  | nil => exact ⟨buffer, [], rfl⟩
  | cons layer layers ih =>
    have fitting : Fits (ChaCha20.apply layer.key layer.nonce buffer).length := by
      rwa [ChaCha20.length_apply]
    obtain ⟨sealed, tags, further⟩ := ih fitting
    exact ⟨sealed, _, sealUnder_cons_eq_ok_iff.2
      ⟨_, _, tags, sealInPlace_of_fits fits, further, rfl⟩⟩

/-- A buffer can be sealed under layers, whichever they are, exactly if the cipher can take it. -/
theorem exists_sealUnder_iff :
    (∃ sealed tags, sealUnder layers buffer = ⟨sealed, .ok tags⟩) ↔
      layers = [] ∨ Fits buffer.length := by
  constructor
  · rintro ⟨sealed, tags, success⟩
    cases layers with
    | nil => exact .inl rfl
    | cons layer layers =>
      obtain ⟨t, mid, rest, first, _⟩ := sealUnder_cons_eq_ok_iff.1 success
      exact .inr (sealInPlace_eq_ok_iff.1 first).1
  · rintro (rfl | fits)
    · exact ⟨buffer, [], rfl⟩
    · exact exists_sealUnder_of_fits fits

/-- Sealing and opening are inverse at every length. A buffer opens to a plaintext exactly if the
plaintext seals to it with the tag, and otherwise it is cleared and refused for its tag. Sealing
fails exactly for a buffer that is too long for the cipher, which is left alone. The length of the
buffer never changes, and on a copy the same happens. Layers open in reverse exactly to what was
sealed under them, which is possible unless the buffer is too long. -/
theorem opening_inverts_sealing :
    (∀ key nonce t buffer plaintext, openInPlace key nonce t buffer = ⟨plaintext, .ok ()⟩ ↔
      sealInPlace key nonce plaintext = ⟨buffer, .ok t⟩) ∧
    (∀ key nonce t buffer, (openInPlace key nonce t buffer).outcome ≠ .ok () ↔
      openInPlace key nonce t buffer =
        ⟨List.replicate buffer.length 0, .error (.ofKind .wrongTag)⟩) ∧
    (∀ key nonce buffer, (¬ ∃ sealed t, sealInPlace key nonce buffer = ⟨sealed, .ok t⟩) ↔
      64 * 0xffffffff ≤ buffer.length ∧
        sealInPlace key nonce buffer = ⟨buffer, .error .payloadTooLong⟩) ∧
    (∀ key nonce t buffer, (sealInPlace key nonce buffer).buffer.length = buffer.length ∧
      (openInPlace key nonce t buffer).buffer.length = buffer.length) ∧
    (∀ key nonce plaintext,
      (∀ ciphertext t, encrypt key nonce plaintext = .ok (ciphertext, t) ↔
        sealInPlace key nonce plaintext = ⟨ciphertext, .ok t⟩) ∧
      ∀ e, encrypt key nonce plaintext = .error e ↔
        (sealInPlace key nonce plaintext).outcome = .error e) ∧
    (∀ key nonce t ciphertext,
      (∀ plaintext, decrypt key nonce t ciphertext = .ok plaintext ↔
        openInPlace key nonce t ciphertext = ⟨plaintext, .ok ()⟩) ∧
      ∀ e, decrypt key nonce t ciphertext = .error e ↔
        (openInPlace key nonce t ciphertext).outcome = .error e) ∧
    ∀ layers plaintext,
      (∀ buffer tags, sealUnder layers plaintext = ⟨buffer, .ok tags⟩ ↔
        tags.length = layers.length ∧
          openUnder (layers.zip tags).reverse buffer = ⟨plaintext, .ok ()⟩) ∧
      ((∃ buffer tags, sealUnder layers plaintext = ⟨buffer, .ok tags⟩) ↔
        layers = [] ∨ plaintext.length < 64 * 0xffffffff) := by
  refine ⟨fun _ _ _ _ _ => openInPlace_iff_sealInPlace,
    fun _ _ _ _ => outcome_openInPlace_ne_ok_iff, fun key nonce buffer => ?_,
    fun key nonce t buffer => ⟨length_sealInPlace key nonce buffer,
      length_openInPlace key nonce t buffer⟩,
    fun _ _ _ => ⟨fun _ _ => encrypt_eq_ok_iff, fun _ => encrypt_eq_error_iff⟩,
    fun _ _ _ _ => ⟨fun _ => decrypt_eq_ok_iff, fun _ => decrypt_eq_error_iff⟩,
    fun layers plaintext => ⟨fun _ _ => sealUnder_eq_ok_iff, ?_⟩⟩
  · rw [← Nat.not_lt, ← fits_iff]
    constructor
    · intro unsealed
      have excess : ¬ Fits buffer.length := fun fits => unsealed ⟨_, _, sealInPlace_of_fits fits⟩
      exact ⟨excess, sealInPlace_of_not_fits excess⟩
    · rintro ⟨excess, _⟩ ⟨sealed, t, success⟩
      exact excess (sealInPlace_eq_ok_iff.1 success).1
  · rw [← fits_iff]
    exact exists_sealUnder_iff

end Aead

end Coffer
