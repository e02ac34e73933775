import Coffer.Proofs.Sealing
import Mathlib.Data.List.Forall2

/-!
# Repeated use

Encryptors and decryptors write into buffers of the caller as often as they are asked to, in any
order, also into buffers that earlier calls have left behind. What a call does is told from the
writer and the length of the buffer alone, and a buffer holds what the last call that fits it has
left there: a container, an authentic plaintext or zeros.
-/

set_option autoImplicit false
set_option relaxedAutoImplicit false

namespace Coffer

namespace Encryptor

variable {e : Encryptor}

/-- An encryptor gives its container, unless the cipher cannot take the plaintext. -/
theorem toBytes_eq (e : Encryptor) :
    e.toBytes =
      if e.plaintext.length < 64 * 0xffffffff then .ok e.container.toBytes
      else .error .payloadTooLong := by
  split
  · rename_i short
    exact toBytes_of_fits (Aead.fits_iff.2 short)
  · rename_i long
    exact toBytes_of_not_fits (mt Aead.fits_iff.1 long)

theorem length_of_toBytes {data : Bytes} (written : e.toBytes = .ok data) :
    data.length = e.length := by
  rw [(toBytes_eq_ok_iff.1 written).2, length_container]

end Encryptor

namespace Decryptor

variable {d : Decryptor}

/-- A decryptor gives what seals to its payload. -/
theorem toBytes_eq_ok_iff_encrypt {p : Bytes} :
    d.toBytes = .ok p ↔
      Aead.encrypt d.keys.payload d.container.header.nonce p =
        .ok (d.container.ciphertext, d.container.tag) := by
  rw [toBytes_eq_ok_iff, Aead.encrypt_eq_ok_iff, ← Aead.openInPlace_iff_sealInPlace,
    Aead.openInPlace_eq_ok_iff]
  constructor
  · rintro ⟨⟨fits, own⟩, rfl⟩
    exact ⟨fits, own, rfl⟩
  · rintro ⟨fits, own, rfl⟩
    exact ⟨⟨fits, own⟩, rfl⟩

/-- The only reason for a decryptor to refuse its payload is the tag. -/
theorem toBytes_eq_error_iff {x : Error} :
    d.toBytes = .error x ↔ ¬ d.Authentic ∧ x = .ofKind .wrongTag := by
  by_cases authentic : d.Authentic
  · rw [toBytes_of_authentic authentic]
    exact iff_of_false nofun fun ⟨damaged, _⟩ => damaged authentic
  · rw [toBytes_of_not_authentic authentic]
    constructor
    · intro same
      exact ⟨authentic, (Except.error.inj same).symm⟩
    · rintro ⟨_, rfl⟩
      rfl

theorem length_of_toBytes {p : Bytes} (written : d.toBytes = .ok p) : p.length = d.length := by
  rw [(toBytes_eq_ok_iff.1 written).2, plaintext, ChaCha20.length_apply, length]

end Decryptor

/-- What writes into buffers of the caller. -/
inductive Writer
  | encryptor (e : Encryptor)
  | decryptor (d : Decryptor)

namespace Writer

/-- The length of the buffers that a writer takes. -/
def length : Writer → Nat
  | encryptor e => e.length
  | decryptor d => d.length

def writeInto : Writer → Bytes → Buffered Unit
  | encryptor e => e.writeInto
  | decryptor d => d.writeInto

/-- What a writer gives in a buffer of its own. -/
def toBytes : Writer → Except Error Bytes
  | encryptor e => e.toBytes
  | decryptor d => d.toBytes

/-- How a call ends for a buffer of a given length. -/
def verdict (w : Writer) (length : Nat) : Except Error Unit :=
  if length = w.length then w.toBytes.map fun _ => ()
  else .error (.wrongBufferLength length w.length)

/-- What a writer leaves in a buffer that fits, if it changes the buffer: an encryptor that is
refused does not, and a decryptor leaves zeros. -/
def mark? : Writer → Option Bytes
  | encryptor e => e.toBytes.toOption
  | decryptor d => some (d.toBytes.toOption.getD (List.replicate d.length 0))

/-- What a writer leaves in a buffer of a given length, if it changes the buffer. -/
def markAt? (w : Writer) (length : Nat) : Option Bytes :=
  if length = w.length then w.mark? else none

variable {w : Writer} {length : Nat} {mark : Bytes}

theorem mark?_of_ok {data : Bytes} (given : w.toBytes = .ok data) : w.mark? = some data := by
  cases w with
  | encryptor e => exact congrArg Except.toOption given
  | decryptor d =>
    have opened : d.toBytes = .ok data := given
    rw [mark?, opened]
    rfl

theorem markAt?_eq_some_iff :
    w.markAt? length = some mark ↔ length = w.length ∧ w.mark? = some mark := by
  unfold markAt?
  split
  · rename_i fit
    exact ⟨fun left => ⟨fit, left⟩, fun both => both.2⟩
  · rename_i misfit
    exact iff_of_false nofun fun both => misfit both.1

theorem length_of_mark (left : w.mark? = some mark) : mark.length = w.length := by
  cases w with
  | encryptor e => exact Encryptor.length_of_toBytes (eq_ok_of_toOption left)
  | decryptor d =>
    cases Option.some.inj left
    cases opened : d.toBytes with
    | ok p => exact Decryptor.length_of_toBytes opened
    | error x => exact List.length_replicate

theorem writeInto_of_length {buffer : Bytes} (fit : buffer.length = w.length) :
    w.writeInto buffer = ⟨w.mark?.getD buffer, w.toBytes.map fun _ => ()⟩ := by
  cases w with
  | encryptor e =>
    rw [mark?, toBytes]
    by_cases fits : Aead.Fits e.plaintext.length
    · rw [Encryptor.toBytes_of_fits fits]
      exact Encryptor.writeInto_of_length fits fit
    · rw [Encryptor.toBytes_of_not_fits fits]
      exact Encryptor.writeInto_of_not_fits fits fit
  | decryptor d =>
    rw [mark?, toBytes]
    by_cases authentic : d.Authentic
    · rw [Decryptor.toBytes_of_authentic authentic]
      exact Decryptor.writeInto_of_authentic authentic fit
    · rw [Decryptor.toBytes_of_not_authentic authentic]
      exact Decryptor.writeInto_of_not_authentic authentic fit

theorem writeInto_of_length_ne {buffer : Bytes} (misfit : buffer.length ≠ w.length) :
    w.writeInto buffer = ⟨buffer, .error (.wrongBufferLength buffer.length w.length)⟩ := by
  cases w with
  | encryptor e => exact Encryptor.writeInto_of_length_ne misfit
  | decryptor d => exact Decryptor.writeInto_of_length_ne misfit

/-- What a call does is told from the writer and the length of the buffer. -/
theorem writeInto_eq (w : Writer) (buffer : Bytes) :
    w.writeInto buffer = ⟨(w.markAt? buffer.length).getD buffer, w.verdict buffer.length⟩ := by
  unfold markAt? verdict
  split
  · rename_i fit
    exact writeInto_of_length fit
  · rename_i misfit
    exact writeInto_of_length_ne misfit

/-- No call changes the length of the buffer. -/
theorem length_writeInto (w : Writer) (buffer : Bytes) :
    (w.writeInto buffer).buffer.length = buffer.length := by
  rw [writeInto_eq]
  cases left : w.markAt? buffer.length with
  | none => rfl
  | some mark =>
    obtain ⟨fit, left⟩ := markAt?_eq_some_iff.1 left
    exact (length_of_mark left).trans fit.symm

/-- Writers that no caller can tell apart: the same one, or two decryptors whose payloads have the
same length and are not authentic. -/
inductive Alike : Writer → Writer → Prop
  | same (w : Writer) : Alike w w
  | damaged {d g : Decryptor} (length : d.length = g.length) (first : ¬ d.Authentic)
      (second : ¬ g.Authentic) : Alike (.decryptor d) (.decryptor g)

theorem Alike.writeInto_eq {v w : Writer} (alike : Alike v w) (buffer : Bytes) :
    v.writeInto buffer = w.writeInto buffer := by
  cases alike with
  | same => rfl
  | @damaged d g length first second =>
    change d.writeInto buffer = g.writeInto buffer
    by_cases fit : buffer.length = d.length
    · rw [Decryptor.writeInto_of_not_authentic first fit,
        Decryptor.writeInto_of_not_authentic second (fit.trans length), length]
    · rw [Decryptor.writeInto_of_length_ne fit, Decryptor.writeInto_of_length_ne (length ▸ fit),
        length]

end Writer

/-- A use of a writer on one of the caller's buffers. -/
structure Use where
  writer : Writer
  place : Nat

/-- What a use leaves at a place that holds that many bytes, if it changes anything there. -/
def Use.mark? (place length : Nat) (u : Use) : Option Bytes :=
  if place = u.place then u.writer.markAt? length else none

/-- Uses at the same place, of writers that no caller can tell apart. -/
def Use.Alike (u v : Use) : Prop := u.place = v.place ∧ u.writer.Alike v.writer

/-- A call that has been made: who has written, what the buffer held before, and what came of it. -/
structure Call where
  writer : Writer
  before : Bytes
  result : Buffered Unit

/-- What a caller relies on. A buffer that does not fit is refused and left alone; one that fits
receives what the writer gives in a buffer of its own, or else is left alone by an encryptor and
cleared by a decryptor. -/
structure Call.Sound (c : Call) : Prop where
  misfit : c.before.length ≠ c.writer.length →
    c.result = ⟨c.before, .error (.wrongBufferLength c.before.length c.writer.length)⟩
  written : ∀ data, c.before.length = c.writer.length → c.writer.toBytes = .ok data →
    c.result = ⟨data, .ok ()⟩
  kept : ∀ e x, c.writer = .encryptor e → c.before.length = e.length → e.toBytes = .error x →
    c.result = ⟨c.before, .error x⟩
  cleared : ∀ d x, c.writer = .decryptor d → c.before.length = d.length → d.toBytes = .error x →
    c.result = ⟨List.replicate c.before.length 0, .error x⟩

theorem Call.sound_writeInto (w : Writer) (buffer : Bytes) :
    Call.Sound ⟨w, buffer, w.writeInto buffer⟩ where
  misfit := Writer.writeInto_of_length_ne
  written data fit given := by
    refine (Writer.writeInto_of_length fit).trans ?_
    rw [Writer.mark?_of_ok given, given]
    rfl
  kept e x own fit refused := by
    cases own
    have room : buffer.length = (Writer.encryptor e).length := fit
    rw [Writer.writeInto_of_length room, Writer.mark?, Writer.toBytes, refused]
    rfl
  cleared d x own fit refused := by
    cases own
    have room : buffer.length = (Writer.decryptor d).length := fit
    rw [Writer.writeInto_of_length room, Writer.mark?, Writer.toBytes, refused, fit]
    rfl

/-- The caller's buffers, of any lengths and contents. There are as many as are needed, so one that
is filled anew counts as another buffer. -/
abbrev Buffers := Nat → Bytes

namespace Buffers

/-- The buffers after a use. -/
def step (buffers : Buffers) (u : Use) : Buffers := fun place =>
  if place = u.place then (u.writer.writeInto (buffers place)).buffer else buffers place

/-- The buffers after a sequence of uses. -/
def after (buffers : Buffers) (uses : List Use) : Buffers := uses.foldl step buffers

/-- The calls that a sequence of uses comes to. -/
def calls : Buffers → List Use → List Call
  | _, [] => []
  | buffers, u :: uses =>
    ⟨u.writer, buffers u.place, u.writer.writeInto (buffers u.place)⟩ ::
      calls (buffers.step u) uses

/-- How the calls of a sequence of uses end. -/
def outcomes (buffers : Buffers) (uses : List Use) : List (Except Error Unit) :=
  (calls buffers uses).map (·.result.outcome)

variable {buffers : Buffers} {uses others : List Use} {u v : Use}

/-! ### Steps -/

theorem step_apply (buffers : Buffers) (u : Use) (place : Nat) :
    buffers.step u place = (u.mark? place (buffers place).length).getD (buffers place) := by
  unfold step Use.mark?
  split
  · rw [Writer.writeInto_eq]
  · rfl

theorem length_step (buffers : Buffers) (u : Use) (place : Nat) :
    (buffers.step u place).length = (buffers place).length := by
  unfold step
  split
  · exact u.writer.length_writeInto _
  · rfl

theorem step_eq_of_alike (alike : u.Alike v) : buffers.step u = buffers.step v := by
  obtain ⟨place, writer⟩ := alike
  funext p
  unfold step
  rw [place, writer.writeInto_eq]

/-! ### Runs -/

theorem after_singleton (buffers : Buffers) (u : Use) :
    buffers.after [u] u.place = (u.writer.writeInto (buffers u.place)).buffer :=
  if_pos rfl

/-- Every call of a run is sound, whatever the calls before it have left. -/
theorem sound_of_mem_calls {c : Call} (member : c ∈ calls buffers uses) : c.Sound := by
  induction uses generalizing buffers with
  | nil => exact absurd member List.not_mem_nil
  | cons u uses ih =>
    rcases List.mem_cons.1 member with rfl | later
    · exact Call.sound_writeInto u.writer _
    · exact ih later

/-- The next call meets what the uses before it have left. -/
theorem mem_calls_snoc (buffers : Buffers) (uses : List Use) (u : Use) :
    (⟨u.writer, buffers.after uses u.place,
      u.writer.writeInto (buffers.after uses u.place)⟩ : Call) ∈ buffers.calls (uses ++ [u]) := by
  induction uses generalizing buffers with
  | nil => exact List.mem_singleton_self _
  | cons first uses ih => exact List.mem_cons_of_mem _ (ih (buffers.step first))

/-- A buffer holds what the last use that changed it has left there. -/
theorem after_apply (buffers : Buffers) (uses : List Use) (place : Nat) :
    buffers.after uses place =
      ((uses.filterMap (·.mark? place (buffers place).length)).getLast?).getD (buffers place) := by
  induction uses generalizing buffers with
  | nil => rfl
  | cons u uses ih =>
    have rest := ih (buffers.step u)
    rw [length_step, step_apply] at rest
    refine rest.trans ?_
    cases left : u.mark? place (buffers place).length with
    | none => rw [List.filterMap_cons_none left]; rfl
    | some mark =>
      rw [List.filterMap_cons_some left, List.getLast?_cons]
      rfl

theorem length_after (buffers : Buffers) (uses : List Use) (place : Nat) :
    (buffers.after uses place).length = (buffers place).length := by
  induction uses generalizing buffers with
  | nil => rfl
  | cons u uses ih => exact (ih (buffers.step u)).trans (length_step buffers u place)

/-- How a call ends is told from the writer and the length of the buffer at the start. -/
theorem outcomes_eq (buffers : Buffers) (uses : List Use) :
    buffers.outcomes uses = uses.map fun u => u.writer.verdict (buffers u.place).length := by
  induction uses generalizing buffers with
  | nil => rfl
  | cons u uses ih =>
    have first : (u.writer.writeInto (buffers u.place)).outcome =
        u.writer.verdict (buffers u.place).length := by
      rw [Writer.writeInto_eq]
    have rest := ih (buffers.step u)
    simp only [length_step] at rest
    exact congrArg₂ List.cons first rest

/-- No caller can tell payloads apart that are not authentic. -/
theorem after_eq_of_alike (alike : List.Forall₂ Use.Alike uses others) :
    buffers.after uses = buffers.after others ∧ buffers.outcomes uses = buffers.outcomes others := by
  induction alike generalizing buffers with
  | nil => exact ⟨rfl, rfl⟩
  | @cons u v uses others first _ ih =>
    obtain ⟨after, outcomes⟩ := @ih (buffers.step u)
    have step : buffers.step u = buffers.step v := step_eq_of_alike first
    have same : (u.writer.writeInto (buffers u.place)).outcome =
        (v.writer.writeInto (buffers v.place)).outcome := by
      rw [first.1, first.2.writeInto_eq]
    constructor
    · exact after.trans (congrArg (Buffers.after · others) step)
    · exact congrArg₂ List.cons same (outcomes.trans (congrArg (Buffers.outcomes · others) step))

/-- Over any sequence of uses, every call keeps to what a caller relies on, with an encryptor that
gives its container unless the plaintext is too long for the cipher, and a decryptor that gives what
seals to its payload unless the tag is wrong. How calls end depends neither on what buffers hold nor
on the calls before, and a buffer holds what the last call that changed it has left there. Payloads
that are not authentic leave nothing behind by which they could be told apart. -/
theorem calls_keep_contract (buffers : Buffers) (uses : List Use) :
    (∀ c ∈ buffers.calls uses, c.Sound) ∧
    (∀ e : Encryptor, e.toBytes =
      if e.plaintext.length < 64 * 0xffffffff then .ok e.container.toBytes
      else .error .payloadTooLong) ∧
    (∀ d : Decryptor,
      (∀ p, d.toBytes = .ok p ↔ Aead.encrypt d.keys.payload d.container.header.nonce p =
        .ok (d.container.ciphertext, d.container.tag)) ∧
      ∀ x, d.toBytes = .error x ↔ ¬ d.Authentic ∧ x = .ofKind .wrongTag) ∧
    (∀ actual expected, (Error.wrongBufferLength actual expected).kind = .general) ∧
    buffers.outcomes uses = uses.map (fun u => u.writer.verdict (buffers u.place).length) ∧
    (∀ place, (buffers.after uses place).length = (buffers place).length ∧
      buffers.after uses place =
        ((uses.filterMap (·.mark? place (buffers place).length)).getLast?).getD (buffers place)) ∧
    ∀ others, List.Forall₂ Use.Alike uses others →
      buffers.after uses = buffers.after others ∧
        buffers.outcomes uses = buffers.outcomes others := by
  refine ⟨fun c member => sound_of_mem_calls member, Encryptor.toBytes_eq, fun d => ⟨?_, ?_⟩,
    fun _ _ => rfl, outcomes_eq buffers uses, fun place => ⟨?_, ?_⟩, fun others alike => ?_⟩
  · exact fun p => Decryptor.toBytes_eq_ok_iff_encrypt
  · exact fun x => Decryptor.toBytes_eq_error_iff
  · exact length_after buffers uses place
  · exact after_apply buffers uses place
  · exact after_eq_of_alike alike

section Forged

/-- Keys of zeros. -/
def zeroKeys : Keys := ⟨.zero 32, .zero 64⟩

/-- An encryptor of three bytes. -/
def threeBytes : Encryptor := ⟨.unsigned default default default, zeroKeys, [1, 2, 3]⟩

/-- A decryptor of what the encryptor gives. -/
def genuine : Decryptor := ⟨threeBytes.container, zeroKeys⟩

/-- A decryptor of three bytes with a wrong tag. -/
def forged (ciphertext : Bytes) : Decryptor :=
  ⟨⟨threeBytes.header, ciphertext, .zero 16⟩, zeroKeys⟩

/-- A genuine payload is opened in a buffer, and then a forged one in the same buffer. -/
def genuineThenForged (ciphertext : Bytes) : List Use :=
  [⟨.decryptor genuine, 0⟩, ⟨.decryptor (forged ciphertext), 0⟩]

/-- Nothing of the first plaintext is left after the forged payload, nor of the forged payload. -/
theorem calls_keep_contract_forged :
    (∃ c ∈ Buffers.calls (fun _ => [170, 170, 170]) (genuineThenForged [4, 5, 6]),
      c.before = [1, 2, 3] ∧ c.before.length = (forged [4, 5, 6]).length ∧
        (forged [4, 5, 6]).toBytes = .error (.ofKind .wrongTag) ∧
        c.result = ⟨[0, 0, 0], .error (.ofKind .wrongTag)⟩) ∧
    List.Forall₂ Use.Alike (genuineThenForged [4, 5, 6]) (genuineThenForged [7, 8, 9]) ∧
    Buffers.after (fun _ => [170, 170, 170]) (genuineThenForged [4, 5, 6]) =
      Buffers.after (fun _ => [170, 170, 170]) (genuineThenForged [7, 8, 9]) := by
  obtain ⟨sound, _, gives, _, _, _, hides⟩ :=
    calls_keep_contract (fun _ => [170, 170, 170]) (genuineThenForged [4, 5, 6])
  have wrong : ¬ (forged [4, 5, 6]).Authentic := fun own => absurd own.2 (by decide +kernel)
  have worse : ¬ (forged [7, 8, 9]).Authentic := fun own => absurd own.2 (by decide +kernel)
  have refused : (forged [4, 5, 6]).toBytes = .error (.ofKind .wrongTag) :=
    ((gives _).2 _).2 ⟨wrong, rfl⟩
  have alike : List.Forall₂ Use.Alike (genuineThenForged [4, 5, 6]) (genuineThenForged [7, 8, 9]) :=
    .cons ⟨rfl, .same _⟩ (.cons ⟨rfl, .damaged rfl wrong worse⟩ .nil)
  have room : ([170, 170, 170] : Bytes).length = genuine.length :=
    (ChaCha20.length_apply _ _ threeBytes.plaintext).symm
  have first :
      Buffers.after (fun _ => [170, 170, 170]) [⟨.decryptor genuine, 0⟩] 0 = [1, 2, 3] := by
    have fits : Aead.Fits genuine.length := by
      rw [← room]
      decide
    have opened := Decryptor.writeInto_of_authentic (d := genuine) ⟨fits, rfl⟩ room
    refine (after_singleton (fun _ => [170, 170, 170]) ⟨.decryptor genuine, 0⟩).trans ?_
    exact (congrArg Buffered.buffer opened).trans (ChaCha20.apply_apply _ _ _)
  have member := mem_calls_snoc (fun _ => [170, 170, 170]) [⟨.decryptor genuine, 0⟩]
    ⟨.decryptor (forged [4, 5, 6]), 0⟩
  rw [first] at member
  exact ⟨⟨_, member, rfl, rfl, refused, (sound _ member).cleared _ _ rfl rfl refused⟩, alike,
    (hides _ alike).1⟩

end Forged

end Buffers

end Coffer
