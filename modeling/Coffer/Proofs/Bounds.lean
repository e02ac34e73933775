import Coffer.Proofs.Encryption

/-!
# Accesses within bounds

Here every byte that is asked for, every range, every place where a byte string is split and every
copy may leave the bounds, and then there is no value. Taken access by access in this way, reading
and writing never leave the bounds: they come to the same results as the operations themselves. What
keeps them inside is a check of a length in front of the accesses. Without it they do leave the
bounds, on every front of a header that is too short, and on every buffer of another length.
-/

set_option autoImplicit false
set_option relaxedAutoImplicit false

namespace Coffer

namespace Bytes

/-- The word whose four bytes start at an index; each of them is asked for on its own. -/
def word? (b : Bytes) (i : Nat) : Option UInt32 := do
  let first ← b.byte? i
  let second ← b.byte? (i + 1)
  let third ← b.byte? (i + 2)
  let last ← b.byte? (i + 3)
  return wordOfBytes [first, second, third, last]

/-- A word is in bounds exactly if its span is. -/
theorem word?_eq_readWord? {s : Span} (width : s.stop = s.start + 4) (b : Bytes) :
    b.word? s.start = s.readWord? b := by
  rcases Nat.lt_or_ge b.length s.stop with short | long
  · have last : b.byte? (s.start + 3) = none := List.getElem?_eq_none (by omega)
    have window : s.read? b = none := (slice?_eq_none_iff (by omega)).2 short
    simp [word?, last, Span.readWord?, Span.readOctets?, window]
  · have byte (k : Nat) : b.byte? (s.start + k) = (b.drop s.start)[k]? := List.getElem?_drop.symm
    have first := byte 0
    rw [Nat.add_zero] at first
    have window : s.of b = (b.drop s.start).take 4 := by
      rw [Span.of, List.drop_take, width, Nat.add_sub_cancel_left]
    have length := @List.length_drop _ s.start b
    rw [Span.readWord?_eq (by omega) long (by omega), word?, first, byte, byte, byte, window]
    -- The span is inside, so at least four bytes are left from its start on.
    rcases rest : b.drop s.start with _ | ⟨w, _ | ⟨x, _ | ⟨y, _ | ⟨z, tail⟩⟩⟩⟩
    all_goals rw [rest] at length; simp only [List.length_cons, List.length_nil] at length
    · omega
    · omega
    · omega
    · omega
    · rfl

namespace Checked

variable {ε α β : Type}

theorem run_eq_some_result {x : Checked ε α} (inside : x.InBounds) :
    x.run = some (x.result inside) :=
  (Option.some_get inside).symm

/-- A sequence of steps that stay in bounds is the sequence of their results. -/
theorem run_bind {x : Checked ε α} {r : Except ε α} {f : α → Checked ε β} {g : α → Except ε β}
    (first : x.run = some r) (next : ∀ a, (f a).run = some (g a)) :
    (x >>= f).run = some (r >>= g) := by
  rw [run_bind_of_run first]
  cases r with
  | error e => rfl
  | ok a => exact next a

theorem not_inBounds_access_bind {x : Option α} {f : α → Checked ε β}
    (next : ∀ a, x = some a → ¬ (f a).InBounds) :
    ¬ ((liftM x : Checked ε α) >>= f).InBounds := by
  cases x with
  | none => exact nofun
  | some a => exact next a rfl

theorem not_inBounds_refusal_bind {x : Except ε α} {a : α} {f : α → Checked ε β}
    (success : x = .ok a) (next : ¬ (f a).InBounds) :
    ¬ ((liftM x : Checked ε α) >>= f).InBounds := by
  subst success
  exact next

theorem not_inBounds_require_bind {p : Prop} [Decidable p] {e : ε} {f : Unit → Checked ε β}
    (holds : p) (next : ¬ (f ()).InBounds) : ¬ (require p e >>= f).InBounds := by
  simpa [require, holds] using next

end Checked

/-- A computation on a buffer of the caller that may be refused for a reason, which leaves the
buffer as it is by then, and that has no value at all when it touches a byte out of bounds. -/
abbrev Filling (ε α : Type) := ExceptT ε (StateT Bytes Option) α

namespace Filling

variable {α β : Type}

/-- How a computation ends on a buffer, unless it touches a byte out of bounds. -/
def leaves (x : Filling Error α) (buffer : Bytes) : Option (Buffered α) :=
  (x.run buffer).map fun r => ⟨r.2, r.1⟩

/-- An operation on the buffer that makes no access of its own. -/
def inPlace (operation : Bytes → Buffered α) : Filling Error α :=
  ExceptT.mk fun buffer => some ((operation buffer).outcome, (operation buffer).buffer)

/-- Goes on if the buffer has the given length and is refused otherwise. -/
def guarded (length : Nat) (x : Filling Error α) : Filling Error α := do
  let buffer ← get
  checkLength buffer.length length
  x

variable {x : Filling Error α} {f : α → Filling Error β} {buffer fresh : Bytes} {length : Nat}

theorem leaves_get_bind {f : Bytes → Filling Error β} :
    (get >>= f).leaves buffer = (f buffer).leaves buffer := rfl

theorem leaves_set : (set fresh : Filling Error PUnit).leaves buffer = some ⟨fresh, .ok ()⟩ := rfl

theorem leaves_set_bind {f : PUnit → Filling Error β} :
    (set fresh >>= f).leaves buffer = (f ()).leaves fresh := rfl

theorem leaves_inPlace (operation : Bytes → Buffered α) :
    (inPlace operation).leaves buffer = some (operation buffer) := rfl

theorem leaves_access_bind {y : Option α} {a : α} (found : y = some a) :
    ((liftM y : Filling Error α) >>= f).leaves buffer = (f a).leaves buffer := by
  subst found
  rfl

theorem leaves_access_bind_of_none {y : Option α} (outside : y = none) :
    ((liftM y : Filling Error α) >>= f).leaves buffer = none := by
  subst outside
  rfl

theorem leaves_refusal_bind {y : Except Error α} {a : α} (success : y = .ok a) :
    ((liftM y : Filling Error α) >>= f).leaves buffer = (f a).leaves buffer := by
  subst success
  rfl

theorem leaves_refusal_bind_of_error {y : Except Error α} {e : Error} (refused : y = .error e) :
    ((liftM y : Filling Error α) >>= f).leaves buffer = some ⟨buffer, .error e⟩ := by
  subst refused
  rfl

theorem leaves_guarded (room : buffer.length = length) :
    (guarded length x).leaves buffer = x.leaves buffer := by
  have exact : checkLength buffer.length length = .ok () := if_pos room
  unfold guarded
  rw [leaves_get_bind, leaves_refusal_bind exact]

/-- A buffer of another length is refused before it is touched. -/
theorem leaves_guarded_of_ne (misfit : buffer.length ≠ length) :
    (guarded length x).leaves buffer =
      some ⟨buffer, .error (.wrongBufferLength buffer.length length)⟩ := by
  have refused : checkLength buffer.length length =
      .error (.wrongBufferLength buffer.length length) := if_neg misfit
  unfold guarded
  rw [leaves_get_bind, leaves_refusal_bind_of_error refused]

end Filling

end Bytes

open Bytes

namespace Span

variable {s : Span} {data : Bytes} {n : Nat}

/-- What is found in a front of a byte string stands in the whole. -/
theorem read?_take {r : Bytes} (ordered : s.start ≤ s.stop)
    (found : s.read? (data.take n) = some r) : s.stop ≤ n ∧ r = s.of data := by
  have inside : s.stop ≤ (data.take n).length := by
    refine Nat.le_of_not_lt fun short => ?_
    cases found.symm.trans ((slice?_eq_none_iff ordered).2 short)
  have bound : s.stop ≤ n := Nat.le_trans inside (List.length_take_le n data)
  rw [read?_eq ordered inside] at found
  refine ⟨bound, (Option.some.inj found).symm.trans (of_eq_of_take_eq bound ?_)⟩
  rw [List.take_take, Nat.min_self]

theorem byte?_take {v w : UInt8} (width : s.stop = s.start + 1) (stands : s.of data = [v])
    (found : byte? (data.take n) s.start = some w) : w = v := by
  have first := congrArg (fun b : Bytes => b[0]?) stands
  simp only [of, width, List.getElem?_drop, List.getElem?_take, Nat.add_zero, Nat.lt_add_one,
    if_true, List.getElem?_cons_zero] at first
  rw [byte?, List.getElem?_take, first] at found
  split at found
  · exact (Option.some.inj found).symm
  · cases found

theorem readOctets?_take {width : Nat} {o : Octets width} (ordered : s.start ≤ s.stop)
    (found : s.readOctets? width (data.take n) = some o) : s.stop ≤ n ∧ o.val = s.of data := by
  obtain ⟨r, read, fits⟩ := Option.bind_eq_some_iff.1 found
  obtain ⟨bound, rfl⟩ := read?_take ordered read
  exact ⟨bound, Octets.ofBytes?_eq_some_iff.1 fits⟩

theorem readWord?_take {w : UInt32} (ordered : s.start ≤ s.stop)
    (found : s.readWord? (data.take n) = some w) : w = wordOfBytes (s.of data) := by
  obtain ⟨o, read, rfl⟩ := Option.map_eq_some_iff.1 found
  rw [(readOctets?_take ordered read).2]

end Span

/-! ### Headers -/

namespace Header

/-- Reads the fields of a header wherever the data ends, without a look at its length. -/
def readUnguarded (data : Bytes) : Checked Error Header := do
  let magic ← Layout.magic.read? data
  Checked.require (magic = magicNumber) (.ofKind .wrongMagic)
  let version ← data.byte? Layout.version.start
  let format ← FormatVersion.ofNumber version
  Checked.require (format = .current) (.unsupportedVersion format.number)
  let variant ← variantOfNumber (← data.word? Layout.variant.start)
  let argon2Version ← argon2VersionOfNumber (← data.word? Layout.argon2Version.start)
  let memory ← data.word? Layout.memory.start
  let time ← data.word? Layout.time.start
  let lanes ← data.word? Layout.lanes.start
  let costs ← Costs.ofTriple memory time lanes
  let salt ← Layout.salt.readOctets? 32 data
  let nonce ← Layout.nonce.readOctets? 24 data
  let mac ← Layout.mac.readOctets? 64 data
  return { scheme := { variant, version := argon2Version, costs }, salt, nonce, mac }

/-- The fields that the authentication code covers, each copied to its place. -/
def authenticatedBytes? (h : Header) : Option Bytes :=
  Layout.place? h.authenticatedFields (List.replicate Layout.authenticatedLength 0)

def toBytes? (h : Header) : Option Bytes := do
  let covered ← h.authenticatedBytes?
  Layout.place? [(⟨0, Layout.authenticatedLength⟩, covered), (Layout.mac, h.mac.val)]
    (List.replicate Layout.headerLength 0)

def sign? (h : Header) (key : Octets 64) : Option Header := do
  let covered ← h.authenticatedBytes?
  let mac ← Octets.ofBytes? 64 (macOf key covered).val
  return { h with mac }

def verifyChecked (h : Header) (key : Octets 64) : Checked Error Unit := do
  let covered ← h.authenticatedBytes?
  checkMac key covered h.mac

/-- A header is read by its accesses, behind a check of the length. -/
theorem read_eq (data : Bytes) :
    read data = (do
      Checked.require (164 ≤ data.length) (.ofKind .tooShort)
      readUnguarded data) := by
  unfold read readUnguarded
  rw [word?_eq_readWord? (s := Layout.variant) rfl,
    word?_eq_readWord? (s := Layout.argon2Version) rfl,
    word?_eq_readWord? (s := Layout.memory) rfl, word?_eq_readWord? (s := Layout.time) rfl,
    word?_eq_readWord? (s := Layout.lanes) rfl]
  rfl

theorem authenticatedBytes?_eq (h : Header) : h.authenticatedBytes? = some h.authenticatedBytes :=
  (Option.some_get _).symm

theorem toBytes?_eq (h : Header) : h.toBytes? = some h.toBytes := by
  unfold toBytes?
  rw [authenticatedBytes?_eq, Option.bind_eq_bind, Option.bind_some, toBytes_eq]
  exact h.place?_fields

theorem sign?_eq (h : Header) (key : Octets 64) : h.sign? key = some (h.sign key) := by
  unfold sign?
  rw [authenticatedBytes?_eq, Option.bind_eq_bind, Option.bind_some, Octets.ofBytes?_val]
  rfl

theorem run_verifyChecked (h : Header) (key : Octets 64) :
    (h.verifyChecked key).run = some (h.verify key) := by
  unfold verifyChecked
  exact Checked.run_access_bind h.authenticatedBytes?_eq rfl

/-- Whatever would be read out of bounds is refused as too short. -/
theorem parse_of_not_inBounds {data : Bytes} (outside : ¬ (readUnguarded data).InBounds) :
    parse data = .error (.ofKind .tooShort) := by
  refine parse_of_short (Nat.lt_of_not_le fun long => outside ?_)
  have inside := inBounds_read data
  rw [read_eq] at inside
  simpa [Checked.require, long] using inside

/-- In the bytes of a header each field stands at its place. -/
theorem of_toBytes (h : Header) {s : Span} {b : Bytes} (member : (s, b) ∈ h.authenticatedFields) :
    s.of h.toBytes = b := by
  have whole : h.toBytes.take 148 = h.toBytes := List.take_of_length_le (by simp)
  exact take_eq_authenticatedBytes_iff.1 (take_eq_toBytes_iff.1 whole).1 (s, b) member

open Checked in
/-- On a front of a header every check is passed, and the first field that is cut off is asked for
nevertheless. -/
theorem not_inBounds_readUnguarded (h : Header) {n : Nat} (short : n < 148) :
    ¬ (readUnguarded (h.toBytes.take n)).InBounds := by
  have word {s : Span} {v w : UInt32} (width : s.stop = s.start + 4)
      (member : (s, wordBytes v) ∈ h.authenticatedFields)
      (found : word? (h.toBytes.take n) s.start = some w) : w = v := by
    rw [word?_eq_readWord? width] at found
    rw [Span.readWord?_take (by omega) found, h.of_toBytes member, wordOfBytes_wordBytes]
  refine not_inBounds_access_bind fun magic found => ?_
  have letters : magic = magicNumber := by
    rw [(Span.read?_take (by decide) found).2]
    exact h.of_toBytes (by simp [authenticatedFields])
  refine not_inBounds_require_bind letters ?_
  refine not_inBounds_access_bind fun version found => ?_
  have current : version = FormatVersion.current.number := by
    have stands : Layout.version.of h.toBytes = [FormatVersion.current.number] :=
      h.of_toBytes (by simp [authenticatedFields, formatVersion])
    exact Span.byte?_take rfl stands found
  refine not_inBounds_refusal_bind (FormatVersion.ofNumber_eq_ok_iff.2 current) ?_
  refine not_inBounds_require_bind rfl ?_
  refine not_inBounds_access_bind fun variant found => ?_
  have variant : variant = h.scheme.variant.number := word rfl (by simp [authenticatedFields]) found
  refine not_inBounds_refusal_bind (variantOfNumber_eq_ok_iff.2 variant) ?_
  refine not_inBounds_access_bind fun version found => ?_
  have version : version = h.scheme.version.number := word rfl (by simp [authenticatedFields]) found
  refine not_inBounds_refusal_bind (argon2VersionOfNumber_eq_ok_iff.2 version) ?_
  refine not_inBounds_access_bind fun memory foundMemory => ?_
  refine not_inBounds_access_bind fun time foundTime => ?_
  refine not_inBounds_access_bind fun lanes foundLanes => ?_
  have costs : Costs.ofTriple memory time lanes = .ok h.scheme.costs :=
    Costs.ofTriple_eq_ok_iff.2 ⟨word rfl (by simp [authenticatedFields]) foundMemory,
      word rfl (by simp [authenticatedFields]) foundTime,
      word rfl (by simp [authenticatedFields]) foundLanes⟩
  refine not_inBounds_refusal_bind costs ?_
  refine not_inBounds_access_bind fun _ _ => ?_
  refine not_inBounds_access_bind fun _ _ => ?_
  refine not_inBounds_access_bind fun mac found => ?_
  exact absurd (Span.readOctets?_take (by decide) found).1 (Nat.not_le.2 short)

end Header

namespace Keys

def cut? (b : Bytes) : Option Keys := do
  let payload ← Octets.ofBytes? 32 (← b.slice? 0 payloadLength)
  let header ← Octets.ofBytes? 64 (← b.slice? payloadLength b.length)
  return { payload, header }

def deriveChecked (scheme : Scheme) (passphrase : Bytes) (salt : Octets 32) :
    Checked Error Keys := do
  let settings ← scheme.costs.toSettings
  let bytes ← ((Argon2.hash scheme.variant scheme.version settings derivedLength passphrase
    salt.val).mapError .derivationFailed : Except Error (Octets derivedLength))
  cut? bytes.val

theorem cut?_val (b : Octets derivedLength) : cut? b.val = some (ofBytes b) := by
  have length : b.val.length = 96 := b.property
  have first : slice? b.val 0 payloadLength = some (ofBytes b).payload.val :=
    slice?_of_le (Nat.zero_le _) (by rw [length]; decide)
  have second : slice? b.val payloadLength b.val.length = some (ofBytes b).header.val := by
    rw [slice?_of_le (by rw [length]; decide) (Nat.le_refl _), List.take_length]
    rfl
  simp only [cut?, first, second, Option.bind_eq_bind, Option.bind_some, Octets.ofBytes?_val]
  rfl

theorem run_deriveChecked (scheme : Scheme) (passphrase : Bytes) (salt : Octets 32) :
    (deriveChecked scheme passphrase salt).run = some (derive scheme passphrase salt) := by
  unfold deriveChecked derive
  refine Checked.run_refusal_bind fun settings _ => Checked.run_refusal_bind fun bytes _ => ?_
  rw [cut?_val]
  rfl

end Keys

/-! ### Containers -/

namespace Container

/-- Splits a buffer and fills its parts, without a look at its length. -/
def fillUnguarded (c : Container) : Filling Error Unit := do
  let buffer ← get
  let (head, rest) ← buffer.splitAt? Layout.headerLength
  let (body, tail) ← rest.splitAt? c.ciphertext.length
  let head ← head.replace? (← c.header.toBytes?)
  let body ← body.replace? c.ciphertext
  let tail ← tail.replace? c.tag.val
  set (head ++ body ++ tail)

def writeChecked (c : Container) : Filling Error Unit :=
  .guarded (lengthFor c.ciphertext.length) c.fillUnguarded

variable {c : Container} {buffer : Bytes}

/-- A buffer that has room for the header and the ciphertext is filled up to the tag. -/
theorem leaves_fillUnguarded_of_le (enough : 148 + c.ciphertext.length ≤ buffer.length) :
    c.fillUnguarded.leaves buffer =
      (do
        let tail ← replace? ((buffer.drop 148).drop c.ciphertext.length) c.tag.val
        set (c.header.toBytes ++ c.ciphertext ++ tail) : Filling Error Unit).leaves buffer := by
  have first : buffer.splitAt? Layout.headerLength = some (buffer.take 148, buffer.drop 148) :=
    splitAt?_of_le (by simp only [Layout.headerLength]; omega)
  have second := splitAt?_of_le (b := buffer.drop 148) (i := c.ciphertext.length)
    (by rw [List.length_drop]; omega)
  have head : replace? (buffer.take 148) c.header.toBytes = some c.header.toBytes :=
    replace?_of_length (by rw [Header.length_toBytes, List.length_take]; omega)
  have body : replace? ((buffer.drop 148).take c.ciphertext.length) c.ciphertext =
      some c.ciphertext :=
    replace?_of_length (by rw [List.length_take, List.length_drop]; omega)
  unfold fillUnguarded
  rw [Filling.leaves_get_bind]
  refine (Filling.leaves_access_bind first).trans ?_
  refine (Filling.leaves_access_bind second).trans ?_
  refine (Filling.leaves_access_bind c.header.toBytes?_eq).trans ?_
  refine (Filling.leaves_access_bind head).trans ?_
  exact Filling.leaves_access_bind body

theorem leaves_fillUnguarded (room : buffer.length = lengthFor c.ciphertext.length) :
    c.fillUnguarded.leaves buffer = some ⟨c.toBytes, .ok ()⟩ := by
  rw [lengthFor_eq] at room
  have tail : replace? ((buffer.drop 148).drop c.ciphertext.length) c.tag.val = some c.tag.val :=
    replace?_of_length (by rw [Octets.length_val, List.length_drop, List.length_drop]; omega)
  rw [leaves_fillUnguarded_of_le (by omega), Filling.leaves_access_bind tail]
  exact Filling.leaves_set

/-- Filling leaves the bounds of every buffer of another length. -/
theorem leaves_fillUnguarded_eq_none_iff :
    c.fillUnguarded.leaves buffer = none ↔ buffer.length ≠ lengthFor c.ciphertext.length := by
  constructor
  · intro outside room
    cases (leaves_fillUnguarded room).symm.trans outside
  · intro misfit
    rw [lengthFor_eq] at misfit
    -- There is no room for the header or for the ciphertext, or the tag does not fit what is left.
    rcases Nat.lt_or_ge buffer.length 148 with short | long
    · unfold fillUnguarded
      rw [Filling.leaves_get_bind]
      exact Filling.leaves_access_bind_of_none (splitAt?_eq_none_iff.2 short)
    rcases Nat.lt_or_ge (buffer.drop 148).length c.ciphertext.length with short | enough
    · unfold fillUnguarded
      rw [Filling.leaves_get_bind]
      refine (Filling.leaves_access_bind (splitAt?_of_le long)).trans ?_
      exact Filling.leaves_access_bind_of_none (splitAt?_eq_none_iff.2 short)
    rw [List.length_drop] at enough
    have tail : replace? ((buffer.drop 148).drop c.ciphertext.length) c.tag.val = none := by
      rw [replace?_eq_none_iff, Octets.length_val, List.length_drop, List.length_drop]
      omega
    rw [leaves_fillUnguarded_of_le (by omega)]
    exact Filling.leaves_access_bind_of_none tail

theorem leaves_writeChecked (c : Container) (buffer : Bytes) :
    c.writeChecked.leaves buffer = some (c.writeInto buffer) := by
  unfold writeChecked
  by_cases room : buffer.length = lengthFor c.ciphertext.length
  · rw [Filling.leaves_guarded room, leaves_fillUnguarded room, writeInto_of_length room]
  · rw [Filling.leaves_guarded_of_ne room, writeInto_of_length_ne room]

end Container

/-! ### Encryption and decryption -/

namespace Encryptor

def prepareChecked (header : Header) (plaintext passphrase : Bytes) : Checked Error Encryptor := do
  let keys ← Keys.deriveChecked header.scheme passphrase header.salt
  let header ← header.sign? keys.header
  return { header, keys, plaintext }

/-- Encrypts the plaintext and copies the tag and the parts of the container, behind a check of
its own. -/
def writeChecked (e : Encryptor) : Filling Error Unit :=
  .guarded e.length do
    let (ciphertext, tag) ← Aead.encrypt e.keys.payload e.header.nonce e.plaintext
    let tag ← Octets.ofBytes? 16 tag.val
    Container.writeChecked { header := e.header, ciphertext, tag }

theorem run_prepareChecked (header : Header) (plaintext passphrase : Bytes) :
    (prepareChecked header plaintext passphrase).run =
      some (prepare header plaintext passphrase) := by
  unfold prepareChecked prepare
  refine Checked.run_bind (Keys.run_deriveChecked _ _ _) fun keys => ?_
  exact Checked.run_access_bind (header.sign?_eq keys.header) rfl

theorem leaves_writeChecked (e : Encryptor) (buffer : Bytes) :
    e.writeChecked.leaves buffer = some (e.writeInto buffer) := by
  unfold writeChecked
  by_cases room : buffer.length = e.length
  · have exact : checkLength buffer.length e.length = .ok () := if_pos room
    rw [Filling.leaves_guarded room]
    unfold writeInto
    rw [exact]
    cases sealed : Aead.encrypt e.keys.payload e.header.nonce e.plaintext with
    | error reason => rfl
    | ok parts =>
      refine (Filling.leaves_access_bind (Octets.ofBytes?_val parts.2)).trans ?_
      exact Container.leaves_writeChecked _ _
  · rw [Filling.leaves_guarded_of_ne room, writeInto_of_length_ne room]

end Encryptor

namespace Decryptor

def prepareChecked (data passphrase : Bytes) : Checked Error Decryptor := do
  let container ← Container.read data
  let keys ← Keys.deriveChecked container.header.scheme passphrase container.header.salt
  container.header.verifyChecked keys.header
  return { container, keys }

/-- Copies the ciphertext into a buffer and opens it there, without a look at the length of the
buffer. -/
def openUnguarded (d : Decryptor) : Filling Error Unit := do
  let buffer ← get
  set (← buffer.replace? d.container.ciphertext)
  .inPlace (Aead.openInPlace d.keys.payload d.container.header.nonce d.container.tag)

def writeChecked (d : Decryptor) : Filling Error Unit := .guarded d.length d.openUnguarded

theorem run_prepareChecked (data passphrase : Bytes) :
    (prepareChecked data passphrase).run = some (prepare data passphrase) := by
  unfold prepareChecked prepare
  refine Checked.run_bind (Checked.run_eq_some_result _) fun container => ?_
  refine Checked.run_bind (Keys.run_deriveChecked _ _ _) fun keys => ?_
  refine Checked.run_bind (Header.run_verifyChecked _ _) fun _ => ?_
  rfl

theorem leaves_openUnguarded {d : Decryptor} {buffer : Bytes} (room : buffer.length = d.length) :
    d.openUnguarded.leaves buffer = some (d.writeInto buffer) := by
  have loaded : buffer.replace? d.container.ciphertext = some d.container.ciphertext :=
    replace?_of_length room.symm
  rw [writeInto_of_length room]
  unfold openUnguarded
  rw [Filling.leaves_get_bind, Filling.leaves_access_bind loaded, Filling.leaves_set_bind,
    Filling.leaves_inPlace]

theorem leaves_openUnguarded_eq_none_iff {d : Decryptor} {buffer : Bytes} :
    d.openUnguarded.leaves buffer = none ↔ buffer.length ≠ d.length := by
  constructor
  · intro outside room
    cases (leaves_openUnguarded room).symm.trans outside
  · intro misfit
    unfold openUnguarded
    rw [Filling.leaves_get_bind]
    exact Filling.leaves_access_bind_of_none (replace?_eq_none_iff.2 (Ne.symm misfit))

theorem leaves_writeChecked (d : Decryptor) (buffer : Bytes) :
    d.writeChecked.leaves buffer = some (d.writeInto buffer) := by
  unfold writeChecked
  by_cases room : buffer.length = d.length
  · rw [Filling.leaves_guarded room, leaves_openUnguarded room]
  · rw [Filling.leaves_guarded_of_ne room, writeInto_of_length_ne room]

end Decryptor

/-! ### All operations -/

/-- Nothing that reads a byte string leaves its bounds. -/
structure ReadsWithin (data : Bytes) : Prop where
  header : (Header.read data).run = some (Header.parse data)
  container : (Container.read data).run = some (Container.ofBytes data)
  decryptor : ∀ passphrase,
    (Decryptor.prepareChecked data passphrase).run = some (Decryptor.prepare data passphrase)
  /-- In front of the accesses there is nothing but a check of the length. -/
  guarded : Header.read data = (do
    Checked.require (164 ≤ data.length) (.ofKind .tooShort)
    Header.readUnguarded data)
  /-- The check refuses whatever would be read out of bounds. -/
  refused : ¬ (Header.readUnguarded data).InBounds →
    Header.parse data = .error (.ofKind .tooShort)
  /-- What is no container is refused by all, with one error. -/
  malformed : (¬ ∃ c : Container, data = c.toBytes) →
    ∃ e : Error, e.kind.isStructural ∧ Header.parse data = .error e ∧
      Container.ofBytes data = .error e ∧
      ∀ passphrase, Decryptor.prepare data passphrase = .error e

/-- A computation never leaves the bounds of a buffer and comes to the same as an operation, which
refuses a buffer of another length and leaves it as it was. -/
structure FillsWithin (x : Filling Error Unit) (length : Nat) (operation : Bytes → Buffered Unit) :
    Prop where
  inBounds : ∀ buffer, x.leaves buffer = some (operation buffer)
  refuses : ∀ buffer, buffer.length ≠ length →
    operation buffer = ⟨buffer, .error (.wrongBufferLength buffer.length length)⟩

theorem readsWithin (data : Bytes) : ReadsWithin data where
  header := Checked.run_eq_some_result (Header.inBounds_read data)
  container := Checked.run_eq_some_result (Container.inBounds_read data)
  decryptor := Decryptor.run_prepareChecked data
  guarded := Header.read_eq data
  refused := Header.parse_of_not_inBounds
  malformed foreign := by
    cases parsed : Header.parse data with
    | error e =>
      exact ⟨e, Header.isStructural_of_parse_error parsed, rfl,
        Container.ofBytes_of_parse_error parsed,
        fun passphrase => Decryptor.prepare_of_parse_error parsed⟩
    | ok h =>
      have long := Header.le_length_of_parse parsed
      exact absurd ⟨_, (Container.toBytes_after long parsed).symm⟩ foreign

/-- Taken access by access, reading a header, a container or a decryptor from a byte string, writing
a header, preparing an encryptor, and filling a buffer with a container or a plaintext never leave
the bounds. They come to the same as the operations themselves, which refuse malformed data and
buffers of another length with an error. These checks are what keeps them inside: without them,
reading leaves the bounds on every front of a header that is cut off, and filling leaves the bounds
of every buffer of another length. -/
theorem accesses_stay_in_bounds :
    (∀ data : Bytes, ReadsWithin data) ∧
    (∀ h : Header, h.toBytes? = some h.toBytes) ∧
    (∀ (header : Header) (plaintext passphrase : Bytes),
      (Encryptor.prepareChecked header plaintext passphrase).run =
        some (Encryptor.prepare header plaintext passphrase)) ∧
    (∀ c : Container,
      FillsWithin c.writeChecked (Container.lengthFor c.ciphertext.length) c.writeInto) ∧
    (∀ e : Encryptor, FillsWithin e.writeChecked e.length e.writeInto) ∧
    (∀ d : Decryptor, FillsWithin d.writeChecked d.length d.writeInto) ∧
    (∀ (h : Header) (n : Nat), n < 148 →
      ¬ (Header.readUnguarded (h.toBytes.take n)).InBounds) ∧
    (∀ (c : Container) (buffer : Bytes), c.fillUnguarded.leaves buffer = none ↔
      buffer.length ≠ Container.lengthFor c.ciphertext.length) ∧
    ∀ (d : Decryptor) (buffer : Bytes), d.openUnguarded.leaves buffer = none ↔
      buffer.length ≠ d.length := by
  refine ⟨readsWithin, Header.toBytes?_eq, Encryptor.run_prepareChecked, fun c => ⟨?_, ?_⟩,
    fun e => ⟨?_, ?_⟩, fun d => ⟨?_, ?_⟩, fun h n => ?_, fun c buffer => ?_, fun d buffer => ?_⟩
  · exact c.leaves_writeChecked
  · exact fun buffer => Container.writeInto_of_length_ne
  · exact e.leaves_writeChecked
  · exact fun buffer => Encryptor.writeInto_of_length_ne
  · exact d.leaves_writeChecked
  · exact fun buffer => Decryptor.writeInto_of_length_ne
  · exact h.not_inBounds_readUnguarded
  · exact Container.leaves_fillUnguarded_eq_none_iff
  · exact Decryptor.leaves_openUnguarded_eq_none_iff

/-- The first seven bytes of the default header, and a buffer of two bytes for three. -/
theorem accesses_stay_in_bounds_cut_off :
    ∃ (h : Header) (d : Decryptor),
      h = .unsigned default default default ∧ d = ⟨⟨h, [1, 2, 3], .zero 16⟩, .zero 32, .zero 64⟩ ∧
      7 < 148 ∧ ¬ (Header.readUnguarded (h.toBytes.take 7)).InBounds ∧
      Header.parse (h.toBytes.take 7) = .error (.ofKind .tooShort) ∧
      (¬ ∃ c : Container, h.toBytes.take 7 = c.toBytes) ∧
      Decryptor.prepare (h.toBytes.take 7) [] = .error (.ofKind .tooShort) ∧
      ([0, 0] : Bytes).length ≠ d.length ∧ d.openUnguarded.leaves [0, 0] = none ∧
      d.writeChecked.leaves [0, 0] = some ⟨[0, 0], .error (.wrongBufferLength 2 3)⟩ := by
  obtain ⟨reads, _, _, _, _, opens, cut, _, misfits⟩ := accesses_stay_in_bounds
  have short : 7 < 148 := by decide
  have misfit : ([0, 0] : Bytes).length ≠ 3 := by decide
  have outside := cut (.unsigned default default default) 7 short
  have front := reads ((Header.unsigned default default default).toBytes.take 7)
  have refused := front.refused outside
  have foreign : ¬ ∃ c : Container,
      (Header.unsigned default default default).toBytes.take 7 = c.toBytes := by
    rintro ⟨c, same⟩
    have length := congrArg List.length same
    rw [List.length_take, Header.length_toBytes, Container.length_toBytes,
      Container.lengthFor_eq] at length
    omega
  obtain ⟨e, _, parsed, _, prepared⟩ := front.malformed foreign
  cases refused.symm.trans parsed
  refine ⟨_, _, rfl, rfl, short, outside, refused, foreign, prepared [], misfit, ?_, ?_⟩
  · exact (misfits _ _).2 misfit
  · rw [(opens _).inBounds, (opens _).refuses _ misfit]
    rfl

end Coffer
