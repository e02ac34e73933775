import Coffer.Proofs.Header.Codec
import Coffer.Proofs.Header.Signing

/-!
# What a header goes through

A header can be signed, verified, and written in front of other bytes and read back, any number of
times and in any order. Of all this only the last key that it was signed with can be told from it
later on: every field but the authentication code stays what it was, and the code is the one under
that key, whatever the header carried before.
-/

set_option autoImplicit false
set_option relaxedAutoImplicit false

namespace Coffer.Header

/-- What can be done with a header. -/
inductive Operation
  | sign (key : Octets 64)
  | verify (key : Octets 64)
  /-- The header is written in front of the tail, and what was written is read. -/
  | reread (tail : Bytes)

/-- Reads back what is written, in front of a tail; a failure leaves the header alone. -/
def reread (h : Header) (tail : Bytes) : Except Error Unit × Header :=
  match parse (h.toBytes ++ tail) with
  | .ok read => (.ok (), read)
  | .error e => (.error e, h)

namespace Operation

/-- What the operation answers, and the header after it. -/
def step (h : Header) : Operation → Except Error Unit × Header
  | sign key => (.ok (), h.sign key)
  | verify key => (h.verify key, h)
  | reread tail => h.reread tail

/-- The key that the operation signs with. -/
def key? : Operation → Option (Octets 64)
  | sign key => some key
  | verify _ => none
  | reread _ => none

end Operation

/-- The header after one operation after another. -/
def after (h : Header) (operations : List Operation) : Header :=
  operations.foldl (fun h o => (o.step h).2) h

/-- The last key that is signed with. -/
def lastKey? (operations : List Operation) : Option (Octets 64) :=
  (operations.filterMap Operation.key?).getLast?

/-- The header under the key, if there is one. -/
def under (h : Header) : Option (Octets 64) → Header
  | none => h
  | some key => h.sign key

variable {h : Header} {key : Octets 64} {tail : Bytes}

/-! ### Checking a code -/

theorem checkMac_eq_ok_iff {covered : Bytes} {mac : Octets 64} :
    checkMac key covered mac = .ok () ↔ mac = macOf key covered := by
  unfold checkMac
  split
  · rename_i same
    exact iff_of_true rfl same.symm
  · rename_i other
    exact iff_of_false nofun (Ne.symm other)

/-- There is one way only to fail. -/
theorem checkMac_of_ne {covered : Bytes} {mac : Octets 64}
    (refused : checkMac key covered mac ≠ .ok ()) :
    checkMac key covered mac = .error (.ofKind .wrongHeaderMac) :=
  if_neg fun same => refused (if_pos same)

/-! ### One operation -/

theorem parse_toBytes_append_of_short (short : tail.length < 16) :
    parse (h.toBytes ++ tail) = .error (.ofKind .tooShort) := by
  apply parse_of_short
  rw [List.length_append, length_toBytes]
  omega

/-- A header that is read back is the one that was written, or there was no room for a tag. -/
theorem reread_eq (h : Header) (tail : Bytes) :
    h.reread tail = (if 16 ≤ tail.length then .ok () else .error (.ofKind .tooShort), h) := by
  unfold reread
  by_cases long : 16 ≤ tail.length
  · rw [if_pos long, parse_toBytes_append h long]
  · rw [if_neg long, parse_toBytes_append_of_short (Nat.lt_of_not_le long)]

theorem step_eq (h : Header) (o : Operation) : (o.step h).2 = h.under o.key? := by
  cases o with
  | sign key => rfl
  | verify key => rfl
  | reread tail =>
    rw [Operation.step, reread_eq]
    rfl

theorem under_under (h : Header) (older newer : Option (Octets 64)) :
    (h.under older).under newer = h.under (newer.or older) := by
  cases newer with
  | none => rfl
  | some key =>
    cases older with
    | none => rfl
    | some other => rfl

/-! ### Any number of operations -/

theorem lastKey?_cons (o : Operation) (operations : List Operation) :
    lastKey? (o :: operations) = (lastKey? operations).or o.key? := by
  unfold lastKey?
  rw [List.filterMap_cons]
  cases o.key? with
  | none => rw [Option.or_none]
  | some key => rw [List.getLast?_cons, ← Option.or_some]

/-- A header has been signed with the last key, as it was at the start. -/
theorem after_eq_under (h : Header) (operations : List Operation) :
    h.after operations = h.under (lastKey? operations) := by
  induction operations generalizing h with
  | nil => rfl
  | cons o operations ih =>
    have first : h.after (o :: operations) = (o.step h).2.after operations := rfl
    rw [first, ih, step_eq, under_under, lastKey?_cons]

theorem after_snoc (h : Header) (operations : List Operation) (o : Operation) :
    h.after (operations ++ [o]) = (o.step (h.after operations)).2 := by
  simp only [after, List.foldl_append, List.foldl_cons, List.foldl_nil]

theorem fields_under (h : Header) (key : Option (Octets 64)) :
    (h.under key).formatVersion = h.formatVersion ∧ (h.under key).scheme = h.scheme ∧
      (h.under key).salt = h.salt ∧ (h.under key).nonce = h.nonce := by
  cases key with
  | none => exact ⟨rfl, rfl, rfl, rfl⟩
  | some key => exact ⟨rfl, scheme_sign h key, salt_sign h key, nonce_sign h key⟩

theorem authenticatedBytes_after (h : Header) (operations : List Operation) :
    (h.after operations).authenticatedBytes = h.authenticatedBytes := by
  obtain ⟨-, kept⟩ := fields_under h (lastKey? operations)
  rw [after_eq_under]
  exact authenticatedBytes_eq_iff.2 kept

/-- Whatever is done with a header, its fields and the bytes that its code covers stay the same. If
it is signed at all, its code is the one under the last key, and nothing else of its history can be
told from it. It passes the check under exactly the keys whose code it carries; a check that fails
does so in one way and changes nothing. What is written is read back, in front of any tail that can
hold a tag. Covered bytes of any length are checked in the same way. -/
theorem last_key_decides (h : Header) (operations : List Operation) :
    ((h.after operations).formatVersion = h.formatVersion ∧
      (h.after operations).scheme = h.scheme ∧ (h.after operations).salt = h.salt ∧
      (h.after operations).nonce = h.nonce ∧
      (h.after operations).authenticatedBytes = h.authenticatedBytes) ∧
    (lastKey? operations = none → h.after operations = h) ∧
    (∀ key, lastKey? operations = some key →
      (h.after operations).mac = macOf key h.authenticatedBytes ∧
      h.after operations = (unsigned h.scheme h.salt h.nonce).sign key ∧
      (h.after operations).verify key = .ok ()) ∧
    (∀ key, ((h.after operations).verify key = .ok () ↔
        (h.after operations).mac = macOf key h.authenticatedBytes) ∧
      ((h.after operations).verify key ≠ .ok () →
        (h.after operations).verify key = .error (.ofKind .wrongHeaderMac)) ∧
      h.after (operations ++ [.verify key]) = h.after operations) ∧
    (∀ tail : Bytes, 16 ≤ tail.length →
      parse ((h.after operations).toBytes ++ tail) = .ok (h.after operations) ∧
      h.after (operations ++ [.reread tail]) = h.after operations) ∧
    ∀ (key : Octets 64) (covered : Bytes) (mac : Octets 64),
      (checkMac key covered mac = .ok () ↔ mac = macOf key covered) ∧
      (checkMac key covered mac ≠ .ok () →
        checkMac key covered mac = .error (.ofKind .wrongHeaderMac)) := by
  have covered := authenticatedBytes_after h operations
  have reached := after_eq_under h operations
  refine ⟨?_, ?_, ?_, ?_, ?_, fun key covered mac => ⟨checkMac_eq_ok_iff, checkMac_of_ne⟩⟩
  · obtain ⟨version, scheme, salt, nonce⟩ := fields_under h (lastKey? operations)
    rw [← reached] at version scheme salt nonce
    exact ⟨version, scheme, salt, nonce, covered⟩
  · intro none
    rw [reached, none]
    rfl
  · intro key last
    have signed : h.after operations = h.sign key := by
      rw [reached, last]
      rfl
    rw [signed, sign_unsigned]
    exact ⟨rfl, rfl, verify_sign h key⟩
  · intro key
    rw [after_snoc]
    refine ⟨?_, checkMac_of_ne, rfl⟩
    rw [← covered]
    exact checkMac_eq_ok_iff
  · intro tail long
    rw [after_snoc, Operation.step, reread_eq]
    exact ⟨parse_toBytes_append _ long, rfl⟩

/-- The default header, signed twice with a reading in between, in front of sixteen zeros. -/
theorem last_key_decides_signed_twice :
    ∃ operations : List Operation,
      operations = [.sign default, .reread (Octets.zero 16).val, .sign (.zero 64)] ∧
      lastKey? operations = some (.zero 64) ∧
      ((unsigned default default default).after operations).verify (.zero 64) = .ok () ∧
      16 ≤ (Octets.zero 16).val.length ∧
      parse (((unsigned default default default).after operations).toBytes ++
        (Octets.zero 16).val) = .ok ((unsigned default default default).after operations) := by
  have long : 16 ≤ (Octets.zero 16).val.length := by decide
  obtain ⟨-, -, signed, -, reread, -⟩ := last_key_decides (unsigned default default default)
    [.sign default, .reread (Octets.zero 16).val, .sign (.zero 64)]
  exact ⟨_, rfl, rfl, (signed _ rfl).2.2, long, (reread _ long).1⟩

end Coffer.Header
