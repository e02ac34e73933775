import Coffer.Interface.Code

/-!
# Errors in their contexts

An error can be put into one context after another. Its kind, its category and its result code stay
what they were, and the way from the error through all that it is put down to comes to an end: it
meets the contexts, the newest first, then the error itself, and then what that was put down to.
-/

set_option autoImplicit false
set_option relaxedAutoImplicit false

namespace Coffer

/-- Going on from one source to the next meets exactly the listed ones and then ends. -/
inductive Source.Leads : Option Source → List Source → Prop
  | ended : Leads none []
  | next {s : Source} {rest : List Source} (more : Leads s.next rest) :
    Leads (some s) (s :: rest)

/-- The line that comes of adding the text of one source after another, until there is none. -/
inductive Source.Extends : String → Option Source → String → Prop
  | ended {line : String} : Extends line none line
  | next {line whole : String} {s : Source} (more : Extends (line ++ ": " ++ s.text) s.next whole) :
    Extends line (some s) whole

/-- The reason and all reasons behind it. -/
def Cause.chain : Cause → List Cause
  | .plain text => [.plain text]
  | .because text source => .because text source :: source.chain

namespace Error

/-- Everything that the error is put down to, nearest first. -/
def sources : Error → List Source
  | failure _ _ _ none => []
  | failure _ _ _ (some cause) => cause.chain.map .cause
  | context _ inner => .error inner :: inner.sources

/-- The error in one context after another; the last one is the outermost. -/
def within (base : Error) (contexts : List String) : Error := contexts.foldl withContext base

theorem within_cons (base : Error) (oldest : String) (contexts : List String) :
    base.within (oldest :: contexts) = (base.withContext oldest).within contexts := rfl

end Error

/-! ### The way through the sources -/

namespace Source

theorem leads_cause (c : Cause) : Leads (some (.cause c)) (c.chain.map .cause) := by
  induction c with
  | plain text => exact .next .ended
  | because text source ih => exact .next ih

/-- The way from any error comes to an end. -/
theorem leads_sources (e : Error) : Leads e.source e.sources := by
  induction e with
  | failure category kind message cause =>
    cases cause with
    | none => exact .ended
    | some c => exact leads_cause c
  | context message inner ih => exact .next ih

theorem Leads.unique {start : Option Source} {met others : List Source} (way : Leads start met)
    (again : Leads start others) : met = others := by
  induction way generalizing others with
  | ended =>
    cases again with
    | ended => rfl
  | next more ih =>
    cases again with
    | next more' => rw [ih more']

theorem leads_iff {e : Error} {met : List Source} : Leads e.source met ↔ met = e.sources := by
  constructor
  · intro way
    exact way.unique (leads_sources e)
  · intro same
    rw [same]
    exact leads_sources e

theorem text_chain (c : Cause) : (c.chain.map Source.cause).map text = c.texts := by
  induction c with
  | plain text => rfl
  | because text source ih =>
    simp only [Cause.chain, Cause.texts, List.map_cons, ih]
    rfl

end Source

namespace Error

/-- The texts on the way are those that the error is put down to. -/
theorem text_sources (e : Error) : e.message :: e.sources.map Source.text = e.texts := by
  induction e with
  | failure category kind message cause =>
    cases cause with
    | none => rfl
    | some c => exact congrArg (message :: ·) (Source.text_chain c)
  | context message inner ih =>
    have rest : inner.message :: inner.sources.map Source.text = inner.texts := ih
    simp only [sources, List.map_cons, Source.text, rest]
    rfl

/-! ### Rendering -/

theorem foldl_eq_intercalate (line : String) (more : List String) :
    more.foldl (fun line text => line ++ ": " ++ text) line = ": ".intercalate (line :: more) := by
  induction more generalizing line with
  | nil => rfl
  | cons text more ih => exact ih (line ++ ": " ++ text)

/-- A rendered error is all of its texts, with a colon and a blank between them. -/
theorem render_eq_intercalate (e : Error) : e.render = ": ".intercalate e.texts := by
  have tail : e.chain = e.sources.map Source.text := by
    rw [chain, ← text_sources e, List.tail_cons]
  rw [render, foldl_eq_intercalate, tail, text_sources]

end Error

/-- Adding text after text ends after as many steps as there are sources. -/
theorem Source.Leads.extends_iff {start : Option Source} {met : List Source}
    (way : Leads start met) (line whole : String) :
    Extends line start whole ↔ whole = ": ".intercalate (line :: met.map text) := by
  induction way generalizing line with
  | ended =>
    constructor
    · intro extended
      cases extended with
      | ended => rfl
    · intro same
      rw [same]
      exact .ended
  | @next s rest more ih =>
    have step : Extends line (some s) whole ↔ Extends (line ++ ": " ++ s.text) s.next whole := by
      constructor
      · intro extended
        cases extended with
        | next later => exact later
      · exact .next
    rw [step, ih]
    rfl

/-! ### Contexts -/

namespace Error

open Interface

theorem kind_within (base : Error) (contexts : List String) :
    (base.within contexts).kind = base.kind := by
  induction contexts generalizing base with
  | nil => rfl
  | cons oldest contexts ih => rw [within_cons, ih, kind_withContext]

theorem category_within (base : Error) (contexts : List String) :
    (base.within contexts).category = base.category := by
  induction contexts generalizing base with
  | nil => rfl
  | cons oldest contexts ih => rw [within_cons, ih, category_withContext]

theorem texts_within (base : Error) (contexts : List String) :
    (base.within contexts).texts = contexts.reverse ++ base.texts := by
  induction contexts generalizing base with
  | nil => rfl
  | cons oldest contexts ih =>
    rw [within_cons, ih, texts_withContext, List.reverse_cons, List.append_assoc,
      List.singleton_append]

/-- Whatever an error is put down to, it still is in every context. -/
theorem suffix_sources_within (base : Error) (contexts : List String) :
    ∃ inner, (base.within contexts).sources = inner ++ base.sources := by
  induction contexts generalizing base with
  | nil => exact ⟨[], rfl⟩
  | cons oldest contexts ih =>
    obtain ⟨inner, whole⟩ := ih (base.withContext oldest)
    have step : (base.withContext oldest).sources = [.error base] ++ base.sources := rfl
    exact ⟨inner ++ [.error base], by rw [within_cons, whole, step, List.append_assoc]⟩

theorem message_eq_head? (e : Error) : some e.message = e.texts.head? := by
  rw [← text_sources e, List.head?_cons]

theorem message_within (base : Error) (contexts : List String) :
    (base.within contexts).message = contexts.getLast?.getD base.message := by
  have head := message_eq_head? (base.within contexts)
  rw [texts_within, List.head?_append, List.head?_reverse, ← message_eq_head? base] at head
  cases newest : contexts.getLast? with
  | none =>
    rw [newest] at head
    exact Option.some.inj head
  | some m =>
    rw [newest] at head
    exact Option.some.inj head

/-- In any number of contexts an error keeps its kind, its category and its result code. It says
what the last context says. The way through all that it is put down to is of one course and comes to
an end: it meets the earlier contexts, the newest first, then the error that was put in context,
each of them once, and then all that this was put down to. What is rendered are these texts in this
order, and adding them one after another, for as long as there is another source, ends with that. -/
theorem contexts_compose (base : Error) (contexts : List String) :
    (base.within contexts).kind = base.kind ∧
    (base.within contexts).category = base.category ∧
    Code.ofError (base.within contexts) = Code.ofError base ∧
    (base.within contexts).message = contexts.getLast?.getD base.message ∧
    ∃ inner own : List Source,
      (∀ met, Source.Leads base.source met ↔ met = own) ∧
      (∀ met, Source.Leads (base.within contexts).source met ↔ met = inner ++ own) ∧
      inner.map Source.text = (contexts.reverse ++ [base.message]).tail ∧
      (base.within contexts).render =
        ": ".intercalate (contexts.reverse ++ base.message :: own.map Source.text) ∧
      ∀ line, Source.Extends (base.within contexts).message (base.within contexts).source line ↔
        line = (base.within contexts).render := by
  have kept := kind_within base contexts
  have code : Code.ofError (base.within contexts) = Code.ofError base := by
    rw [Code.ofError, kept, Code.ofError]
  obtain ⟨inner, whole⟩ := suffix_sources_within base contexts
  have texts : (base.within contexts).message :: (inner ++ base.sources).map Source.text =
      contexts.reverse ++ base.message :: base.sources.map Source.text := by
    rw [← whole, text_sources, texts_within, text_sources]
  refine ⟨kept, category_within base contexts, code, message_within base contexts,
    inner, base.sources, fun met => Source.leads_iff, ?_, ?_, ?_, ?_⟩
  · intro met
    rw [Source.leads_iff, whole]
  · have split : contexts.reverse ++ base.message :: base.sources.map Source.text =
        (contexts.reverse ++ [base.message]) ++ base.sources.map Source.text := by
      rw [List.append_assoc, List.singleton_append]
    have tails := congrArg List.tail (texts.trans split)
    rw [List.tail_cons, List.map_append, List.tail_append_of_ne_nil (by simp)] at tails
    exact List.append_cancel_right tails
  · rw [render_eq_intercalate, texts_within, text_sources]
  · intro line
    rw [(Source.leads_sources _).extends_iff, text_sources, render_eq_intercalate]

/-- A failure with two reasons in two contexts. -/
example : ((Error.failure .user .general "c" (some (.because "d" (.plain "e")))).within
    ["b", "a"]).render = "a: b: c: d: e" := by
  decide

end Error

end Coffer
