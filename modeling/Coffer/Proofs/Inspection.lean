import Coffer.Proofs.CommandLine
import Coffer.Proofs.Handles

/-!
# Inspections of a container

There are several ways to look at the header of a container: for its costs or its kind of Argon2,
as part of the whole container, in a file, and through a handle. All of them show the same header
or refuse it with the same error, as does the decryptor, whatever the passphrase. What they tell of
the scheme depends on the first 28 bytes of the container only.
-/

set_option autoImplicit false
set_option relaxedAutoImplicit false

namespace Coffer

open Session Files CommandLine Interface

/-- Every inspection of a byte string shows the header, or the part of it that it is about, and a
decryptor for it is at the header's costs. -/
structure Shows (data : Bytes) (h : Header) : Prop where
  costs : Costs.ofContainer data = .ok h.scheme.costs
  costsAlone : inspectCosts data = .ok h.scheme.costs
  algorithm : Argon2.Algorithm.ofContainer data = .ok h.scheme.algorithm
  container : ∃ c, Container.ofBytes data = .ok c ∧ c.header = h
  costsInFile : ∀ {input : Option Path} {s mid : Session},
    (readInput input : Operation Run Bytes).run s = (.ok data, mid) →
      (readCosts input : Operation Run Costs).run s = (.ok h.scheme.costs, mid)
  schemeInFile : ∀ {input : Option Path} {s mid : Session},
    (readInput input : Operation Run Bytes).run s = (.ok data, mid) →
      (readScheme input : Operation Run Scheme).run s = (.ok h.scheme, mid)
  code : ∀ (hs : Handles) (handle : Nat), (hs.read (some data) (some handle)).1 = .ok
  handle : ∀ {hs : Handles} {handle : Nat}, handle < hs.slots.length →
    (hs.read (some data) (some handle)).2.triple (some handle) =
      (h.scheme.costs.memory, h.scheme.costs.time, h.scheme.costs.lanes)
  decryptor : ∀ {passphrase : Bytes} {d : Decryptor},
    Decryptor.prepare data passphrase = .ok d → d.costs = h.scheme.costs

/-- Every inspection of a byte string is refused with the error, as is a decryptor for it. -/
structure Denies (data : Bytes) (e : Error) : Prop where
  costs : Costs.ofContainer data = .error e
  costsAlone : inspectCosts data = .error e
  algorithm : Argon2.Algorithm.ofContainer data = .error e
  container : Container.ofBytes data = .error e
  costsInFile : ∀ {input : Option Path} {s mid : Session},
    (readInput input : Operation Run Bytes).run s = (.ok data, mid) →
      (readCosts input : Operation Run Costs).run s =
        (.error { error := e.withContext inspectionContext }, mid)
  schemeInFile : ∀ {input : Option Path} {s mid : Session},
    (readInput input : Operation Run Bytes).run s = (.ok data, mid) →
      (readScheme input : Operation Run Scheme).run s =
        (.error { error := e.withContext inspectionContext }, mid)
  code : Code.ofKind e.kind ≠ .ok
  handle : ∀ (hs : Handles) (handle : Nat),
    hs.read (some data) (some handle) = (.ofKind e.kind, hs)
  decryptor : ∀ passphrase, Decryptor.prepare data passphrase = .error e

/-- No inspection tells the schemes of the byte strings, or why there is none, from each other. -/
structure LookAlike (a b : Bytes) : Prop where
  costs : Costs.ofContainer a = Costs.ofContainer b
  costsAlone : inspectCosts a = inspectCosts b
  algorithm : Argon2.Algorithm.ofContainer a = Argon2.Algorithm.ofContainer b
  container : (Container.ofBytes a).map (·.header.scheme) =
    (Container.ofBytes b).map (·.header.scheme)
  costsInFile : ∀ {input input' : Option Path} {s s' mid mid' : Session},
    (readInput input : Operation Run Bytes).run s = (.ok a, mid) →
      (readInput input' : Operation Run Bytes).run s' = (.ok b, mid') →
        ((readCosts input : Operation Run Costs).run s).1 =
          ((readCosts input' : Operation Run Costs).run s').1
  schemeInFile : ∀ {input input' : Option Path} {s s' mid mid' : Session},
    (readInput input : Operation Run Bytes).run s = (.ok a, mid) →
      (readInput input' : Operation Run Bytes).run s' = (.ok b, mid') →
        ((readScheme input : Operation Run Scheme).run s).1 =
          ((readScheme input' : Operation Run Scheme).run s').1
  handle : ∀ (hs : Handles) (handle : Nat),
    hs.read (some a) (some handle) = hs.read (some b) (some handle)

variable {data : Bytes}

theorem shows_of_parse {h : Header} (parsed : Header.parse data = .ok h) : Shows data h := by
  have long := Header.le_length_of_parse parsed
  have costs : Costs.ofContainer data = .ok h.scheme.costs := by
    rw [Costs.ofContainer, parsed]
    rfl
  refine ⟨costs, costs, ?_, ⟨_, Container.ofBytes_of_parse long parsed, rfl⟩, ?_, ?_, ?_, ?_, ?_⟩
  · rw [Argon2.Algorithm.ofContainer, parsed]
    rfl
  · intro input s mid readIn
    rw [readCosts_of_readInput readIn, costs]
    rfl
  · intro input s mid readIn
    rw [readScheme_of_readInput readIn, parsed]
    rfl
  · intro hs handle
    rw [Handles.read_of_ok costs]
  · intro hs handle made
    refine Handles.triple_of_get? ?_
    rw [Handles.read_of_ok costs]
    simp [Handles.get?, made]
  · intro passphrase d prepared
    cases parsed.symm.trans (Decryptor.parse_of_prepare prepared)
    rfl

theorem denies_of_parse {e : Error} (refused : Header.parse data = .error e) : Denies data e := by
  have costs : Costs.ofContainer data = .error e := by
    rw [Costs.ofContainer, refused]
    rfl
  have fails : Code.ofKind e.kind ≠ .ok := Code.ofError_ne_ok e
  refine ⟨costs, costs, ?_, Container.ofBytes_of_parse_error refused, ?_, ?_, fails, ?_, ?_⟩
  · rw [Argon2.Algorithm.ofContainer, refused]
    rfl
  · intro input s mid readIn
    rw [readCosts_of_readInput readIn, costs]
    rfl
  · intro input s mid readIn
    rw [readScheme_of_readInput readIn, refused]
    rfl
  · intro hs handle
    exact Handles.read_of_error costs
  · intro passphrase
    exact Decryptor.prepare_of_parse_error refused

/-- A container is read if its header is. -/
theorem Container.map_header_ofBytes (data : Bytes) :
    (ofBytes data).map (·.header) = Header.parse data := by
  cases parsed : Header.parse data with
  | error e =>
    rw [ofBytes_of_parse_error parsed]
    rfl
  | ok h =>
    rw [ofBytes_of_parse (Header.le_length_of_parse parsed) parsed]
    rfl

theorem lookAlike_of_take_eq {a b : Bytes} (longA : 164 ≤ a.length) (longB : 164 ≤ b.length)
    (same : a.take 28 = b.take 28) : LookAlike a b := by
  have scheme := Header.map_scheme_congr longA longB same
  have part {α : Type} (part : Scheme → α) :
      (Header.parse a).map (fun h => part h.scheme) =
        (Header.parse b).map (fun h => part h.scheme) := by
    rw [← map_map, scheme, map_map]
  have whole (data : Bytes) : (Container.ofBytes data).map (·.header.scheme) =
      (Header.parse data).map (·.scheme) := by
    rw [← Container.map_header_ofBytes data, map_map]
  have costs : Costs.ofContainer a = Costs.ofContainer b := part Scheme.costs
  refine ⟨costs, costs, part Scheme.algorithm, ?_, ?_, ?_, ?_⟩
  · rw [whole a, scheme, whole b]
  · intro input input' s s' mid mid' first second
    rw [readCosts_of_readInput first, readCosts_of_readInput second, costs]
  · intro input input' s s' mid mid' first second
    rw [readScheme_of_readInput first, readScheme_of_readInput second, scheme]
  · intro hs handle
    unfold Handles.read
    dsimp only
    rw [costs]

/-- A byte string has a header, which every inspection of it shows, or is refused with an error
that every inspection of it is refused with. Byte strings of sufficient length that begin with the
same 28 bytes look alike in every inspection of the scheme, whatever their salts, nonces,
authentication codes and payloads are. -/
theorem inspections_agree :
    (∀ data : Bytes, (∃ h, Header.parse data = .ok h ∧ Shows data h) ∨
      ∃ e, Header.parse data = .error e ∧ Denies data e) ∧
    ∀ a b : Bytes, 164 ≤ a.length → 164 ≤ b.length → a.take 28 = b.take 28 → LookAlike a b := by
  refine ⟨fun data => ?_, fun a b longA longB same => lookAlike_of_take_eq longA longB same⟩
  cases parsed : Header.parse data with
  | error e => exact .inr ⟨e, rfl, denies_of_parse parsed⟩
  | ok h => exact .inl ⟨h, rfl, shows_of_parse parsed⟩

/-- A container of which nothing is left but the scheme and what stands before it. -/
def overwritten : Bytes := Handles.smallContainer.take 28 ++ List.replicate 140 255

/-- Its costs can still be read. -/
theorem inspections_agree_overwritten :
    164 ≤ Handles.smallContainer.length ∧ 164 ≤ overwritten.length ∧
      Handles.smallContainer.take 28 = overwritten.take 28 ∧
      Costs.ofContainer overwritten = .ok Handles.smallCosts := by
  have parsed : Header.parse Handles.smallContainer =
      .ok (.unsigned { (default : Scheme) with costs := Handles.smallCosts } default default) :=
    Header.parse_toBytes_append _ (by decide)
  have long := Header.le_length_of_parse parsed
  have front : (Handles.smallContainer.take 28).length = 28 := by
    rw [List.length_take]
    omega
  have long' : 164 ≤ overwritten.length := by
    rw [overwritten, List.length_append, List.length_replicate, front]
    decide
  have same : Handles.smallContainer.take 28 = overwritten.take 28 :=
    (List.take_left' front).symm
  have alike := inspections_agree.2 _ _ long long' same
  refine ⟨long, long', same, alike.costs.symm.trans ?_⟩
  rw [Costs.ofContainer, parsed]
  rfl

end Coffer
