import Coffer.Bytes.Basic

/-!
# Bounds-checked access

Reading and writing regions of a byte string. Each access has no value when it touches a byte
outside of the string, or when a region is filled with a byte string of another length.
-/

set_option autoImplicit false
set_option relaxedAutoImplicit false

namespace Coffer.Bytes

/-- The bytes from `start` up to, and without, `stop`. -/
def slice? (b : Bytes) (start stop : Nat) : Option Bytes :=
  if start ≤ stop ∧ stop ≤ b.length then some ((b.take stop).drop start) else none

def byte? (b : Bytes) (i : Nat) : Option UInt8 := b[i]?

/-- Replaces the bytes from `start` up to `stop` by exactly as many others. -/
def overwrite? (b : Bytes) (start stop : Nat) (fresh : Bytes) : Option Bytes :=
  if start ≤ stop ∧ stop ≤ b.length ∧ fresh.length = stop - start then
    some (b.take start ++ fresh ++ b.drop stop)
  else none

/-- The bytes before index `i` and those from it on. -/
def splitAt? (b : Bytes) (i : Nat) : Option (Bytes × Bytes) :=
  if i ≤ b.length then some (b.take i, b.drop i) else none

/-- Replaces all bytes by exactly as many others. -/
def replace? (b fresh : Bytes) : Option Bytes := b.overwrite? 0 b.length fresh

variable {b fresh : Bytes} {start stop i : Nat}

theorem slice?_of_le (h₁ : start ≤ stop) (h₂ : stop ≤ b.length) :
    b.slice? start stop = some ((b.take stop).drop start) := by
  simp [slice?, h₁, h₂]

theorem overwrite?_of_le (h₁ : start ≤ stop) (h₂ : stop ≤ b.length)
    (h₃ : fresh.length = stop - start) :
    b.overwrite? start stop fresh = some (b.take start ++ fresh ++ b.drop stop) := by
  simp [overwrite?, h₁, h₂, h₃]

theorem splitAt?_of_le (h : i ≤ b.length) : b.splitAt? i = some (b.take i, b.drop i) := by
  simp [splitAt?, h]

theorem replace?_of_length (h : fresh.length = b.length) : b.replace? fresh = some fresh := by
  simp [replace?, overwrite?, h]

theorem slice?_eq_none_iff (h : start ≤ stop) : b.slice? start stop = none ↔ b.length < stop := by
  simp [slice?, h]

theorem splitAt?_eq_none_iff : b.splitAt? i = none ↔ b.length < i := by
  simp [splitAt?]

theorem replace?_eq_none_iff : b.replace? fresh = none ↔ fresh.length ≠ b.length := by
  simp [replace?, overwrite?]

/-- A computation that may be refused for a reason, and that has no value at all when it touches a
byte outside of a byte string. -/
abbrev Checked (ε α : Type) := ExceptT ε Option α

namespace Checked

variable {ε α β : Type}

/-- Whether no byte out of bounds is touched. -/
def InBounds (x : Checked ε α) : Prop := x.run.isSome

/-- The result of a computation that stays in bounds. -/
def result (x : Checked ε α) (h : x.InBounds) : Except ε α := x.run.get h

/-- Goes on if the condition holds and is refused otherwise. -/
def require (p : Prop) [Decidable p] (e : ε) : Checked ε Unit := if p then pure () else throw e

theorem inBounds_pure (a : α) : (pure a : Checked ε α).InBounds := rfl

theorem inBounds_refusal (x : Except ε α) : (liftM x : Checked ε α).InBounds := by
  cases x <;> rfl

theorem inBounds_access {x : Option α} {a : α} (h : x = some a) :
    (liftM x : Checked ε α).InBounds := by
  subst h
  rfl

/-- Behind a first step that stays in bounds, its result decides how to go on. -/
theorem run_bind_of_run {x : Checked ε α} {f : α → Checked ε β} {r : Except ε α}
    (h : x.run = some r) : (x >>= f).run = ExceptT.bindCont f r := by
  change Option.bind x.run (ExceptT.bindCont f) = _
  rw [h]
  rfl

/-- A sequence stays in bounds if its first step does and the rest does after every value. -/
theorem InBounds.bind {x : Checked ε α} {f : α → Checked ε β} (hx : x.InBounds)
    (hf : ∀ a, (f a).InBounds) : (x >>= f).InBounds := by
  obtain ⟨r, hr⟩ := Option.isSome_iff_exists.1 hx
  unfold InBounds
  rw [run_bind_of_run hr]
  cases r with
  | error e => rfl
  | ok a => exact hf a

/-- After a refusable step the rest only has to stay in bounds for what the step gives. -/
theorem inBounds_refusal_bind {x : Except ε α} {f : α → Checked ε β}
    (hf : ∀ a, x = .ok a → (f a).InBounds) : ((liftM x : Checked ε α) >>= f).InBounds := by
  cases x with
  | error e => rfl
  | ok a => exact hf a rfl

/-- After an access the rest only has to stay in bounds for what is found. -/
theorem inBounds_access_bind {x : Option α} {a : α} {f : α → Checked ε β} (h : x = some a)
    (hf : (f a).InBounds) : ((liftM x : Checked ε α) >>= f).InBounds := by
  subst h
  exact hf

/-- After a requirement the rest only has to stay in bounds if the condition holds. -/
theorem inBounds_require_bind {p : Prop} [Decidable p] {e : ε} {f : Unit → Checked ε β}
    (hf : p → (f ()).InBounds) : (require p e >>= f).InBounds := by
  by_cases h : p
  · simpa [require, h] using hf h
  · simp only [require, h, if_false]
    rfl

/-- The result is what a run in bounds gives. -/
theorem result_eq_of_run {x : Checked ε α} {r : Except ε α} (h : x.run = some r)
    (inside : x.InBounds) : x.result inside = r :=
  Option.get_of_eq_some inside h

theorem run_access_bind {x : Option α} {a : α} {f : α → Checked ε β} {r : Except ε β}
    (h : x = some a) (hf : (f a).run = some r) :
    ((liftM x : Checked ε α) >>= f).run = some r := by
  subst h
  exact hf

theorem run_refusal_bind {x : Except ε α} {f : α → Checked ε β} {g : α → Except ε β}
    (hf : ∀ a, x = .ok a → (f a).run = some (g a)) :
    ((liftM x : Checked ε α) >>= f).run = some (x >>= g) := by
  cases x with
  | error e => rfl
  | ok a => exact hf a rfl

theorem run_require_bind {p : Prop} [Decidable p] {e : ε} {f : Unit → Checked ε β}
    {r : Except ε β} (hf : p → (f ()).run = some r) :
    (require p e >>= f).run = some (if p then r else .error e) := by
  by_cases h : p
  · simpa [require, h] using hf h
  · simp only [require, h, if_false]
    rfl

end Checked

end Coffer.Bytes
