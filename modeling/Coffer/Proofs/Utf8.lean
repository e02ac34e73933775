import Coffer.Terminal.Editing

/-!
# Texts and their bytes

The bytes of a text are cut into the characters of the text again, with no stray byte among them.
A text without control characters is therefore typed as it is.
-/

set_option autoImplicit false
set_option relaxedAutoImplicit false

namespace Coffer

namespace Utf8

/-! ### The bytes of a text -/

private theorem toList_loop_eq (b : ByteArray) (i : Nat) (taken : Bytes) :
    ByteArray.toList.loop b i taken = taken.reverse ++ b.data.toList.drop i := by
  fun_induction ByteArray.toList.loop b i taken with
  | case1 i taken inside ih =>
    have inside' : i < b.data.toList.length := inside
    have here : b.get! i = b.data.toList[i] := by
      rw [Array.getElem_toList]
      exact getElem!_pos b.data i inside
    rw [ih, List.drop_eq_getElem_cons inside', here, List.reverse_cons, List.append_assoc,
      List.singleton_append]
  | case2 i taken outside =>
    rw [List.drop_eq_nil_of_le (Nat.le_of_not_lt outside), List.append_nil]

theorem encode_ofList (cs : List Char) :
    encode (String.ofList cs) = cs.flatMap String.utf8EncodeChar := by
  rw [encode, ByteArray.toList, toList_loop_eq, String.toUTF8, String.toByteArray_ofList]
  exact List.toList_data_toByteArray

/-! ### One character -/

/-- Each byte lies in its range. -/
inductive Within : List (UInt8 × UInt8) → Bytes → Prop
  | nil : Within [] []
  | cons {least greatest b : UInt8} {ranges : List (UInt8 × UInt8)} {tail : Bytes}
      (inside : least ≤ b ∧ b ≤ greatest) (later : Within ranges tail) :
      Within ((least, greatest) :: ranges) (b :: tail)

variable {ranges : List (UInt8 × UInt8)} {lead : UInt8} {tail : Bytes} {c : Char}

theorem Within.length_eq (within : Within ranges tail) : tail.length = ranges.length := by
  induction within with
  | nil => rfl
  | cons inside later ih => exact congrArg (· + 1) ih

theorem spanRanges_of_within (within : Within ranges tail) (rest : Bytes) :
    spanRanges ranges (tail ++ rest) = (tail, rest) := by
  induction within with
  | nil => cases rest <;> rfl
  | cons inside later ih => rw [List.cons_append, spanRanges, if_pos inside, ih]

/-- The bytes spell a character. -/
structure Spells (lead : UInt8) (tail : Bytes) (c : Char) : Prop where
  within : ∃ ranges, followers? lead = some ranges ∧ Within ranges tail
  point : codePoint lead tail = c.toNat

/-- The bytes of a character are read as this character, whatever follows them. -/
theorem Spells.next_eq (spells : Spells lead tail c) (rest : Bytes) :
    next lead (tail ++ rest) = (.char c, rest) := by
  obtain ⟨ranges, leads, within⟩ := spells.within
  unfold next
  rw [leads]
  dsimp only
  rw [spanRanges_of_within within, spells.point, Char.ofNat_toNat]
  exact if_pos within.length_eq

/-- A byte behind the first one carries six bits. -/
theorem carries : ∀ n < 64, (0x80 ≤ UInt8.ofNat (n + 128) ∧ UInt8.ofNat (n + 128) ≤ 0xbf) ∧
    (UInt8.ofNat (n + 128)).toNat % 64 = n := by
  decide +kernel

/-- What a second byte carries decides whether it lies in one of the narrower ranges. -/
theorem carries_second : ∀ n < 64,
    (32 ≤ n → 0xa0 ≤ UInt8.ofNat (n + 128)) ∧ (n < 32 → UInt8.ofNat (n + 128) ≤ 0x9f) ∧
    (16 ≤ n → 0x90 ≤ UInt8.ofNat (n + 128)) ∧ (n < 16 → UInt8.ofNat (n + 128) ≤ 0x8f) := by
  decide +kernel

theorem leads_one : ∀ n < 128, followers? (UInt8.ofNat n) = some [] ∧
    (UInt8.ofNat n).toNat = n := by
  decide +kernel

theorem leads_two : ∀ n < 32, 2 ≤ n →
    followers? (UInt8.ofNat (n + 192)) = some [(0x80, 0xbf)] ∧
    (UInt8.ofNat (n + 192)).toNat % 32 = n := by
  decide +kernel

/-- The second byte of three is kept off what takes two bytes, and off what is no character. -/
theorem leads_three : ∀ n < 16, followers? (UInt8.ofNat (n + 224)) =
      some [(if n = 0 then 0xa0 else 0x80, if n = 13 then 0x9f else 0xbf), (0x80, 0xbf)] ∧
    (UInt8.ofNat (n + 224)).toNat % 16 = n := by
  decide +kernel

/-- The second byte of four is kept off what takes three bytes, and off what lies behind the last
character. -/
theorem leads_four : ∀ n < 5, followers? (UInt8.ofNat (n + 240)) =
      some [(if n = 0 then 0x90 else 0x80, if n = 4 then 0x8f else 0xbf), (0x80, 0xbf),
        (0x80, 0xbf)] ∧
    (UInt8.ofNat (n + 240)).toNat % 8 = n := by
  decide +kernel

theorem spells_one (small : c.toNat ≤ 0x7f) : Spells (UInt8.ofNat c.toNat) [] c := by
  obtain ⟨leads, high⟩ := leads_one c.toNat (by omega)
  exact ⟨⟨_, leads, .nil⟩, high⟩

theorem spells_two (large : 0x7f < c.toNat) (small : c.toNat ≤ 0x7ff) :
    Spells (UInt8.ofNat (c.toNat / 64 % 32 + 192)) [UInt8.ofNat (c.toNat % 64 + 128)] c := by
  obtain ⟨leads, high⟩ := leads_two (c.toNat / 64 % 32) (by omega) (by omega)
  obtain ⟨inside, low⟩ := carries (c.toNat % 64) (by omega)
  refine ⟨⟨_, leads, .cons inside .nil⟩, ?_⟩
  simp only [codePoint, List.length_cons, List.length_nil, List.foldl_cons, List.foldl_nil, high,
    low]
  omega

theorem spells_three (large : 0x7ff < c.toNat) (small : c.toNat ≤ 0xffff) :
    Spells (UInt8.ofNat (c.toNat / 4096 % 16 + 224))
      [UInt8.ofNat (c.toNat / 64 % 64 + 128), UInt8.ofNat (c.toNat % 64 + 128)] c := by
  have valid : c.toNat < 0xd800 ∨ 0xdfff < c.toNat ∧ c.toNat < 0x110000 := c.valid
  obtain ⟨leads, high⟩ := leads_three (c.toNat / 4096 % 16) (by omega)
  obtain ⟨inside, low⟩ := carries (c.toNat % 64) (by omega)
  obtain ⟨inside', middle⟩ := carries (c.toNat / 64 % 64) (by omega)
  obtain ⟨above, below, -, -⟩ := carries_second (c.toNat / 64 % 64) (by omega)
  refine ⟨⟨_, leads, .cons ⟨?_, ?_⟩ (.cons inside .nil)⟩, ?_⟩
  · split
    · exact above (by omega)
    · exact inside'.1
  · split
    · exact below (by omega)
    · exact inside'.2
  · simp only [codePoint, List.length_cons, List.length_nil, List.foldl_cons, List.foldl_nil, high,
      middle, low]
    omega

theorem spells_four (large : 0xffff < c.toNat) :
    Spells (UInt8.ofNat (c.toNat / 262144 % 8 + 240))
      [UInt8.ofNat (c.toNat / 4096 % 64 + 128), UInt8.ofNat (c.toNat / 64 % 64 + 128),
        UInt8.ofNat (c.toNat % 64 + 128)] c := by
  have valid : c.toNat < 0xd800 ∨ 0xdfff < c.toNat ∧ c.toNat < 0x110000 := c.valid
  obtain ⟨leads, high⟩ := leads_four (c.toNat / 262144 % 8) (by omega)
  obtain ⟨inside, low⟩ := carries (c.toNat % 64) (by omega)
  obtain ⟨inside', middle⟩ := carries (c.toNat / 64 % 64) (by omega)
  obtain ⟨inside'', second⟩ := carries (c.toNat / 4096 % 64) (by omega)
  obtain ⟨-, -, above, below⟩ := carries_second (c.toNat / 4096 % 64) (by omega)
  refine ⟨⟨_, leads, .cons ⟨?_, ?_⟩ (.cons inside' (.cons inside .nil))⟩, ?_⟩
  · split
    · exact above (by omega)
    · exact inside''.1
  · split
    · exact below (by omega)
    · exact inside''.2
  · simp only [codePoint, List.length_cons, List.length_nil, List.foldl_cons, List.foldl_nil, high,
      second, middle, low]
    omega

theorem exists_spells (c : Char) :
    ∃ lead tail, String.utf8EncodeChar c = lead :: tail ∧ Spells lead tail c := by
  have number : c.val.toNat = c.toNat := rfl
  unfold String.utf8EncodeChar
  dsimp only
  rw [number]
  split
  · rename_i one
    exact ⟨_, _, rfl, spells_one one⟩
  · rename_i one
    split
    · rename_i two
      exact ⟨_, _, rfl, spells_two (Nat.lt_of_not_le one) two⟩
    · rename_i two
      split
      · rename_i three
        exact ⟨_, _, rfl, spells_three (Nat.lt_of_not_le two) three⟩
      · rename_i three
        exact ⟨_, _, rfl, spells_four (Nat.lt_of_not_le three)⟩

/-! ### Texts -/

theorem pieces_flatMap (cs : List Char) :
    pieces (cs.flatMap String.utf8EncodeChar) = cs.map .char := by
  induction cs with
  | nil => rw [List.flatMap_nil, pieces, List.map_nil]
  | cons c cs ih =>
    obtain ⟨lead, tail, bytes, spells⟩ := exists_spells c
    rw [List.flatMap_cons, bytes, List.cons_append, pieces, spells.next_eq, ih, List.map_cons]

/-- The bytes of a text are cut into its characters. -/
theorem pieces_encode (text : String) : pieces (encode text) = text.toList.map .char := by
  have bytes := encode_ofList text.toList
  rw [String.ofList_toList] at bytes
  rw [bytes, pieces_flatMap]

/-- The bytes of a text are the bytes of this text only. -/
theorem decode?_encode (text : String) : decode? (encode text) = some text := by
  have chars (cs : List Char) : (cs.map Piece.char).mapM Piece.char? = some cs := by
    induction cs with
    | nil => rfl
    | cons c cs ih =>
      rw [List.map_cons, List.mapM_cons, ih]
      rfl
  rw [decode?, pieces_encode, chars, Option.map_some, String.ofList_toList]

end Utf8

/-! ### Typing -/

namespace Terminal

variable {c : Char} {cs : List Char} {text : String}

/-- A character that does not control how the line is typed belongs to the entry. -/
theorem Line.type_of_plain (plain : isControl c = false) (typed : List Char) :
    Line.type { typed } c = { typed := c :: typed } := by
  have other {d : Char} (control : isControl d = true) : c ≠ d := by
    intro same
    rw [same, control] at plain
    cases plain
  have back : ¬ (c = '\x08' ∨ c = '\x7f') := not_or.2 ⟨other rfl, other rfl⟩
  show Line.enter { typed } c = _
  rw [Line.enter, if_neg (other rfl), if_neg back, if_neg (other rfl), plain]
  rfl

theorem Line.foldl_of_plain (plain : ∀ c ∈ cs, isControl c = false) (typed : List Char) :
    cs.foldl Line.type { typed } = { typed := cs.reverse ++ typed } := by
  induction cs generalizing typed with
  | nil => rfl
  | cons c cs ih =>
    obtain ⟨first, later⟩ := List.forall_mem_cons.1 plain
    rw [List.foldl_cons, type_of_plain first, ih later, List.reverse_cons, List.append_assoc,
      List.singleton_append]

theorem edit_of_plain (plain : ∀ c ∈ text.toList, isControl c = false) : edit text = text := by
  rw [edit, Line.foldl_of_plain plain, List.append_nil, List.reverse_reverse,
    String.ofList_toList]

/-- A text without control characters is entered as it is. -/
theorem entry_editing_of_plain (plain : ∀ c ∈ text.toList, isControl c = false) :
    editing.entry (Utf8.encode text) = .ok (Utf8.encode text) := by
  rw [entry_editing (Utf8.decode?_encode text), edit_of_plain plain]

end Terminal

end Coffer
