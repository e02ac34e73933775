import Coffer.Interface.Handles
import Coffer.Proofs.Calls

/-!
# Histories of handles

A caller makes handles, reads containers into them, looks at them and releases them, with any
number of handles at a time. As long as every handle is used between its making and its release
only, its history alone decides what it holds: the costs of the last container that could be read
into it, or the default costs.
-/

set_option autoImplicit false
set_option relaxedAutoImplicit false

namespace Coffer.Interface.Handles

/-- One of the three costs. -/
inductive Part
  | memory | time | lanes
  deriving DecidableEq, Repr

/-- A call on handles; what is missing is a null pointer. -/
inductive Call
  | create
  | read (data : Option Bytes) (handle : Option Nat)
  | inspect (part : Part) (handle : Option Nat)
  | release (handle : Option Nat)
  deriving DecidableEq

/-- The handle that a call uses. -/
def Call.handle? : Call → Option Nat
  | create => none
  | read _ handle | inspect _ handle | release handle => handle

/-- The costs that a call reads into a handle, if it does so and succeeds. -/
def Call.readInto? (handle : Nat) : Call → Option Costs
  | read (some data) (some used) =>
    if used = handle then (Costs.ofContainer data).toOption else none
  | _ => none

/-- What becomes of the handles in a call. -/
def step (hs : Handles) : Call → Handles
  | .create => hs.create.2
  | .read data handle => (hs.read data handle).2
  | .inspect _ _ => hs
  | .release handle => hs.release handle

/-- The handles after a sequence of calls. -/
def after (calls : List Call) : Handles := calls.foldl step {}

/-- The answers of the three accessors. -/
def triple (hs : Handles) (handle : Option Nat) : UInt32 × UInt32 × UInt32 :=
  (hs.memory handle, hs.time handle, hs.lanes handle)

def created (calls : List Call) : Nat := calls.count .create

/-- The handle has been made and not been released. -/
structure Live (calls : List Call) (handle : Nat) : Prop where
  made : handle < created calls
  kept : .release (some handle) ∉ calls

/-- Every handle is used between its making and its release only. -/
inductive Proper : List Call → Prop
  | nil : Proper []
  | snoc {calls : List Call} {c : Call} (before : Proper calls)
    (used : ∀ handle, c.handle? = some handle → Live calls handle) : Proper (calls ++ [c])

/-- The costs of the last container that could be read into the handle, or else the default. -/
def lastRead (calls : List Call) (handle : Nat) : Costs :=
  (calls.filterMap (·.readInto? handle)).getLast?.getD default

variable {calls : List Call} {c : Call} {hs : Handles} {handle : Nat}

/-! ### Histories -/

theorem after_snoc (calls : List Call) (c : Call) :
    after (calls ++ [c]) = (after calls).step c := by
  simp only [after, List.foldl_append, List.foldl_cons, List.foldl_nil]

theorem created_snoc (calls : List Call) (c : Call) :
    created (calls ++ [c]) = created calls + if c = .create then 1 else 0 := by
  simp only [created, List.count_append, List.count_singleton, beq_iff_eq]

theorem lastRead_snoc (calls : List Call) (c : Call) (handle : Nat) :
    lastRead (calls ++ [c]) handle = (c.readInto? handle).getD (lastRead calls handle) := by
  unfold lastRead
  rw [List.filterMap_append]
  cases reading : c.readInto? handle with
  | none => simp [reading]
  | some costs => simp [reading]

/-- Nothing is read into a handle that the call does not use. -/
theorem Call.readInto?_of_ne (other : c.handle? ≠ some handle) : c.readInto? handle = none := by
  unfold readInto?
  split
  · rename_i data used
    exact if_neg fun same => other (congrArg some same)
  · rfl

theorem lastRead_of_unused (unused : ∀ c ∈ calls, c.handle? ≠ some handle) :
    lastRead calls handle = default := by
  have nothing : calls.filterMap (·.readInto? handle) = [] := by
    rw [List.filterMap_eq_nil_iff]
    exact fun c member => Call.readInto?_of_ne (unused c member)
  rw [lastRead, nothing]
  rfl

/-- A handle that is live after a call is the one that the call has made, or it was live before. -/
theorem Live.of_snoc (live : Live (calls ++ [c]) handle) :
    (c = .create ∧ handle = created calls) ∨ (Live calls handle ∧ c ≠ .release (some handle)) := by
  have kept := live.kept
  rw [List.mem_append, not_or, List.mem_singleton] at kept
  have made := live.made
  rw [created_snoc] at made
  by_cases new : handle = created calls
  · by_cases creates : c = .create
    · exact .inl ⟨creates, new⟩
    · rw [if_neg creates] at made
      omega
  · refine .inr ⟨⟨?_, kept.1⟩, fun same => kept.2 same.symm⟩
    split at made <;> omega

/-! ### Steps -/

theorem get?_create_self (hs : Handles) : hs.create.2.get? hs.create.1 = some default := by
  simp [get?, create]

theorem get?_create_of_lt (old : handle < hs.slots.length) :
    hs.create.2.get? handle = hs.get? handle := by
  simp [get?, create, List.getElem?_append_left old]

theorem get?_release_of_ne {used : Option Nat} (other : used ≠ some handle) :
    (hs.release used).get? handle = hs.get? handle := by
  cases used with
  | none => rfl
  | some used =>
    have apart : used ≠ handle := fun same => other (congrArg some same)
    simp [get?, release, List.getElem?_set_ne apart]

section Reading

variable {data : Bytes}

theorem read_of_ok {costs : Costs} (inspected : Costs.ofContainer data = .ok costs) :
    hs.read (some data) (some handle) = (.ok, ⟨hs.slots.set handle (some costs)⟩) := by
  unfold read
  dsimp only
  rw [inspected]

theorem read_of_error {e : Error} (refused : Costs.ofContainer data = .error e) :
    hs.read (some data) (some handle) = (.ofError e, hs) := by
  unfold read
  dsimp only
  rw [refused]

theorem read_of_missing {data : Option Bytes} {used : Option Nat}
    (missing : data = none ∨ used = none) : hs.read data used = (.error, hs) := by
  rcases missing with rfl | rfl
  · rfl
  · cases data with
    | none => rfl
    | some data => rfl

end Reading

/-- What a handle holds after a container has been read. -/
theorem get?_read (data : Option Bytes) (used : Option Nat) (made : handle < hs.slots.length) :
    (hs.read data used).2.get? handle =
      ((Call.read data used).readInto? handle).or (hs.get? handle) := by
  cases data with
  | none => rfl
  | some data =>
    cases used with
    | none => rfl
    | some used =>
      cases inspected : Costs.ofContainer data with
      | error e =>
        rw [read_of_error inspected]
        simp [Call.readInto?, inspected, Except.toOption]
      | ok costs =>
        rw [read_of_ok inspected]
        by_cases same : used = handle
        · subst same
          simp [get?, Call.readInto?, inspected, Except.toOption, made]
        · simp [get?, Call.readInto?, same]

/-- No call on one handle changes another. -/
theorem get?_step_of_ne (made : handle < hs.slots.length) (other : c.handle? ≠ some handle) :
    (hs.step c).get? handle = hs.get? handle := by
  cases c with
  | create => exact get?_create_of_lt made
  | read data used =>
    refine (get?_read data used made).trans ?_
    rw [Call.readInto?_of_ne other, Option.none_or]
  | inspect part used => rfl
  | release used => exact get?_release_of_ne other

/-- A call that does not release its handle reads costs into it, or leaves it as it was. -/
theorem get?_step_of_not_release (made : handle < hs.slots.length)
    (keeps : c ≠ .release (some handle)) :
    (hs.step c).get? handle = (c.readInto? handle).or (hs.get? handle) := by
  cases c with
  | create => exact get?_create_of_lt made
  | read data used => exact get?_read data used made
  | inspect part used => rfl
  | release used =>
    refine get?_release_of_ne fun same => keeps ?_
    rw [same]

theorem length_step (hs : Handles) (c : Call) :
    (hs.step c).slots.length = hs.slots.length + if c = .create then 1 else 0 := by
  cases c with
  | create => simp [step, create]
  | read data used =>
    change (hs.read data used).2.slots.length = _
    cases data with
    | none => rfl
    | some data =>
      cases used with
      | none => rfl
      | some used =>
        cases inspected : Costs.ofContainer data with
        | error e => rw [read_of_error inspected, if_neg nofun, Nat.add_zero]
        | ok costs => rw [read_of_ok inspected, List.length_set, if_neg nofun, Nat.add_zero]
  | inspect part used => rfl
  | release used =>
    cases used with
    | none => rfl
    | some used => exact List.length_set

/-! ### Runs -/

/-- The handles are those that the calls have led to: none has been used before it was made, and
every live one holds what was read into it last. -/
structure Reflects (calls : List Call) (hs : Handles) : Prop where
  count : hs.slots.length = created calls
  unused : ∀ handle, created calls ≤ handle → ∀ c ∈ calls, c.handle? ≠ some handle
  holds : ∀ handle, Live calls handle → hs.get? handle = some (lastRead calls handle)

theorem reflects_nil : Reflects [] {} where
  count := rfl
  unused _ _ _ member := absurd member List.not_mem_nil
  holds handle live := absurd live.made (Nat.not_lt_zero handle)

theorem Reflects.step (r : Reflects calls hs)
    (used : ∀ handle, c.handle? = some handle → Live calls handle) :
    Reflects (calls ++ [c]) (hs.step c) where
  count := by rw [length_step, created_snoc, r.count]
  unused handle unmade d member uses := by
    rw [created_snoc] at unmade
    rcases List.mem_append.1 member with old | new
    · exact r.unused handle (by omega) d old uses
    · rw [List.mem_singleton] at new
      subst new
      have made := (used handle uses).made
      omega
  holds handle live := by
    rw [lastRead_snoc]
    rcases live.of_snoc with ⟨rfl, rfl⟩ | ⟨before, keeps⟩
    · -- A handle that is made now has not been used before, so it holds the default.
      have new := get?_create_self hs
      rw [create, r.count] at new
      rw [lastRead_of_unused (r.unused _ (Nat.le_refl _))]
      exact new
    · have made : handle < hs.slots.length := by
        rw [r.count]
        exact before.made
      rw [get?_step_of_not_release made keeps, r.holds handle before]
      cases c.readInto? handle with
      | none => rfl
      | some costs => rfl

/-- What holds of the handles after any proper sequence of calls. -/
theorem Proper.reflects (proper : Proper calls) : Reflects calls (after calls) := by
  induction proper with
  | nil => exact reflects_nil
  | snoc before used ih =>
    rw [after_snoc]
    exact ih.step used

/-- The triple is within the limits of Argon2. -/
def Within : UInt32 × UInt32 × UInt32 → Prop
  | (memory, time, lanes) =>
    8 ≤ memory.toNat ∧ 8 * lanes.toNat ≤ memory.toNat ∧ 1 ≤ time.toNat ∧ 1 ≤ lanes.toNat ∧
      lanes.toNat ≤ 0xffffff

theorem triple_of_get? {costs : Costs} (holds : hs.get? handle = some costs) :
    hs.triple (some handle) = (costs.memory, costs.time, costs.lanes) := by
  simp [triple, memory, time, lanes, value, holds]

theorem triple_congr {gs : Handles} (same : gs.get? handle = hs.get? handle) :
    gs.triple (some handle) = hs.triple (some handle) := by
  simp [triple, memory, time, lanes, value, same]

/-- After any sequence of calls in which handles are used properly: a live handle answers with the
costs of the last container that could be read into it, or with the default costs, and these are
within the limits of Argon2; a null pointer answers with zeros; a reading is refused for what is
missing or for what the header is refused for, and then leaves all handles as they were; no call
changes what a live handle answers that it does not use; and a handle that is made next is the next
number. -/
theorem live_handle_answers_last_read (proper : Proper calls) :
    (∀ handle, Live calls handle →
      (after calls).triple (some handle) =
          ((lastRead calls handle).memory, (lastRead calls handle).time,
            (lastRead calls handle).lanes) ∧
        Within ((after calls).triple (some handle))) ∧
    (after calls).triple none = (0, 0, 0) ∧
    (∀ data handle, data = none ∨ handle = none →
      (after calls).read data handle = (.error, after calls)) ∧
    (∀ data handle e, Header.parse data = .error e →
      (after calls).read (some data) (some handle) = (.ofError e, after calls) ∧
        Code.ofError e ≠ .ok ∧ e.kind.isStructural = true) ∧
    (∀ data handle header, Header.parse data = .ok header →
      ((after calls).read (some data) (some handle)).1 = .ok) ∧
    (∀ c handle, Live calls handle → c.handle? ≠ some handle →
      (after (calls ++ [c])).triple (some handle) = (after calls).triple (some handle)) ∧
    (after calls).create.1 = created calls := by
  have reflects := proper.reflects
  refine ⟨fun handle live => ?_, rfl, fun data handle missing => read_of_missing missing, ?_, ?_,
    fun c handle live other => ?_, reflects.count⟩
  · have answers := triple_of_get? (reflects.holds handle live)
    refine ⟨answers, ?_⟩
    rw [answers]
    exact Argon2.firstBroken?_eq_none_iff.1 (lastRead calls handle).admissible
  · intro data handle e refused
    have inspected : Costs.ofContainer data = .error e := by
      rw [Costs.ofContainer, refused]
      rfl
    exact ⟨read_of_error inspected, Code.ofError_ne_ok e,
      Header.isStructural_of_parse_error refused⟩
  · intro data handle header parsed
    have inspected : Costs.ofContainer data = .ok header.scheme.costs := by
      rw [Costs.ofContainer, parsed]
      rfl
    rw [read_of_ok inspected]
  · rw [after_snoc]
    refine triple_congr (get?_step_of_ne ?_ other)
    rw [reflects.count]
    exact live.made

section Interleaved

/-- The costs of 64 KiB, three passes and four lanes. -/
def smallCosts : Costs := ⟨64, 3, 4, by decide⟩

/-- The header of a container at these costs, and a tag. -/
def smallContainer : Bytes :=
  (Header.unsigned { (default : Scheme) with costs := smallCosts } default default).toBytes ++
    (Octets.zero 16).val

/-- Two handles; the first is read into with success and then without, the second is released. -/
def interleaved : List Call :=
  [.create, .create, .read (some smallContainer) (some 0), .read (some []) (some 0),
    .release (some 1)]

private theorem proper_interleaved : Proper interleaved := by
  have first : Proper [.create] := Proper.nil.snoc nofun
  have second : Proper [.create, .create] := first.snoc nofun
  have third : Proper [.create, .create, .read (some smallContainer) (some 0)] := by
    refine second.snoc ?_
    rintro _ ⟨⟩
    exact ⟨by decide, by simp⟩
  have fourth : Proper [.create, .create, .read (some smallContainer) (some 0),
      .read (some []) (some 0)] := by
    refine third.snoc ?_
    rintro _ ⟨⟩
    exact ⟨by decide, by simp⟩
  refine fourth.snoc ?_
  rintro _ ⟨⟩
  exact ⟨by decide, by simp⟩

private theorem lastRead_interleaved : lastRead interleaved 0 = smallCosts := by
  have parsed : Header.parse smallContainer =
      .ok (.unsigned { (default : Scheme) with costs := smallCosts } default default) :=
    Header.parse_toBytes_append _ (by decide)
  have short : Header.parse [] = .error (.ofKind .tooShort) := Header.parse_of_short (by decide)
  have inspected : Costs.ofContainer smallContainer = .ok smallCosts := by
    rw [Costs.ofContainer, parsed]
    rfl
  have refused : Costs.ofContainer [] = .error (.ofKind .tooShort) := by
    rw [Costs.ofContainer, short]
    rfl
  simp [lastRead, interleaved, Call.readInto?, inspected, refused, Except.toOption]

/-- The first handle keeps its costs when it is read into without success and when the other one is
released. -/
theorem live_handle_answers_last_read_interleaved :
    Proper interleaved ∧ Live interleaved 0 ∧
      (after interleaved).triple (some 0) = (64, 3, 4) ∧ Within (64, 3, 4) := by
  have live : Live interleaved 0 := ⟨by decide, by simp [interleaved]⟩
  have answers := (live_handle_answers_last_read proper_interleaved).1 0 live
  rw [lastRead_interleaved] at answers
  refine ⟨proper_interleaved, live, answers.1, ?_⟩
  rw [answers.1] at answers
  exact answers.2

end Interleaved

end Coffer.Interface.Handles
