import Mathlib.Algebra.Group.Nat.Even
import Mathlib.Order.Bounds.Basic
import JsonExtract.Proofs.Text.Slice
import JsonExtract.Proofs.Text.Unquoted

/-!
# The first operator outside quotes

When the escapes are taken out of a text, the quotes that are left open and close in turn.  So
the reader stands outside quotes behind a text exactly when their number is even and no
backslash waits for its character.  The reader splits a text at the first place at which it
stands outside quotes with an operator in front of it.  Looking for the octets of the operator
comes to the same place, since these octets stand nowhere inside a character.
-/

namespace JsonExtract.Text

open Utf8

/-! ## Quotes -/

/-- A text without its escapes: a backslash goes together with the character behind it. -/
def withoutEscapes : List Char → List Char
  | [] => []
  | '\\' :: _ :: rest => withoutEscapes rest
  | c :: rest => c :: withoutEscapes rest

/-- Whether no quotes are open behind a text, and no backslash waits for its character. -/
structure ClosesQuotes (text : List Char) : Prop where
  even : Even ((withoutEscapes text).count '"')
  complete : '\\' ∉ withoutEscapes text

instance : DecidablePred ClosesQuotes := fun text =>
  decidable_of_iff (Even ((withoutEscapes text).count '"') ∧ '\\' ∉ withoutEscapes text)
    ⟨fun hcloses => ⟨hcloses.1, hcloses.2⟩, fun hcloses => ⟨hcloses.even, hcloses.complete⟩⟩

namespace QuoteState

variable {quoted : Bool} {c : Char}

@[simp] theorem next_escaped : next ⟨quoted, true⟩ c = ⟨quoted, false⟩ := rfl

@[simp] theorem next_backslash : next ⟨quoted, false⟩ '\\' = ⟨quoted, true⟩ := rfl

@[simp] theorem next_quote : next ⟨quoted, false⟩ '"' = ⟨!quoted, false⟩ := rfl

/-- The quotes that are not escaped tell whether the reader is inside quotes, and a backslash
that is left over tells whether the next character is escaped. -/
theorem foldl_next (text : List Char) (quoted : Bool) :
    text.foldl next ⟨quoted, false⟩ =
      ⟨quoted == decide (Even ((withoutEscapes text).count '"')),
        decide ('\\' ∈ withoutEscapes text)⟩ := by
  -- Behind a backslash the reader takes two characters at once, as `withoutEscapes` does, so
  -- the induction is on that function and `escaped` is false whenever it recurs.
  induction text using withoutEscapes.induct generalizing quoted with
  | case1 => simp [withoutEscapes]
  | case2 c rest ih => simpa [withoutEscapes] using ih quoted
  | case3 c rest hlone ih =>
      have hcons : withoutEscapes (c :: rest) = c :: withoutEscapes rest := by
        rw [withoutEscapes]
        exact hlone
      by_cases hescape : c = '\\'
      · subst c
        have hrest : rest = [] := by
          cases rest with
          | nil => rfl
          | cons other rest => exact (hlone other rest rfl rfl).elim
        subst rest
        simp [withoutEscapes]
      by_cases hquote : c = '"'
      · subst c
        have hparity : decide (Even ((withoutEscapes rest).count '"' + 1)) =
            !decide (Even ((withoutEscapes rest).count '"')) := by
          rw [decide_eq_decide.mpr Nat.even_add_one, decide_not]
        have hflip : ∀ even, ((!quoted) == even) = (quoted == !even) := by
          cases quoted <;> simp
        rw [List.foldl_cons, next_quote, ih, hcons, List.count_cons_self, hparity, hflip]
        simp
      · have hsame : (c == '"') = false := by simpa using hquote
        rw [List.foldl_cons, next_plain rfl hquote hescape, ih, hcons]
        simp [List.count_cons, hsame, Ne.symm hescape]

theorem isOpen_foldl_next_start (text : List Char) :
    (text.foldl next start).isOpen = true ↔ ClosesQuotes text := by
  have hstate := foldl_next text false
  rw [start, hstate]
  constructor
  · intro hopen
    simp [isOpen] at hopen
    exact ⟨hopen.1, hopen.2⟩
  · intro hcloses
    simp [isOpen, hcloses.even, hcloses.complete]

/-- The escaped quote opens nothing, and the backslash in front of the last quote is escaped. -/
example : ClosesQuotes "\\\"a\"b ?? \\\\\"".toList ∧ ¬ ClosesQuotes "\\\"a\"b ".toList := by
  decide

end QuoteState

/-! ## Splits at an operator -/

/-- Whether an operator stands between two parts of a text, the first of which takes the reader
out of quotes. -/
structure OperatorBetween (operator : List Char) (state : QuoteState)
    (text before after : List Char) : Prop where
  text_eq : text = before ++ (operator ++ after)
  isOpen : (before.foldl QuoteState.next state).isOpen = true

/-- Whether no operator stands earlier. -/
structure FirstBetween (operator : List Char) (state : QuoteState)
    (text before after : List Char) : Prop extends
    OperatorBetween operator state text before after where
  first : ∀ other rest, OperatorBetween operator state text other rest → before <+: other

section Splits

variable {operator text rest before after : List Char} {state : QuoteState} {c : Char}

theorem operatorBetween_nil_iff :
    OperatorBetween operator state text [] after ↔
      state.isOpen = true ∧ text = operator ++ after :=
  ⟨fun hhere => ⟨hhere.isOpen, hhere.text_eq⟩, fun hhere => ⟨hhere.2, hhere.1⟩⟩

theorem operatorBetween_cons_iff :
    OperatorBetween operator state (c :: rest) (c :: before) after ↔
      OperatorBetween operator (state.next c) rest before after := by
  constructor
  · intro hbetween
    exact ⟨List.tail_eq_of_cons_eq hbetween.text_eq, hbetween.isOpen⟩
  · intro hbetween
    exact ⟨congrArg (List.cons c) hbetween.text_eq, hbetween.isOpen⟩

/-- An operator that does not stand at the front stands behind the first character. -/
theorem OperatorBetween.exists_cons
    (hbetween : OperatorBetween operator state (c :: rest) before after)
    (hstarts : state.isOpen = true → ¬ operator <+: c :: rest) :
    ∃ more, before = c :: more ∧ OperatorBetween operator (state.next c) rest more after := by
  cases before with
  | nil =>
      obtain ⟨hopen, htext⟩ := operatorBetween_nil_iff.mp hbetween
      exact (hstarts hopen ⟨after, htext.symm⟩).elim
  | cons other more =>
      obtain ⟨rfl, -⟩ := List.cons.inj hbetween.text_eq
      exact ⟨more, rfl, operatorBetween_cons_iff.mp hbetween⟩

theorem OperatorBetween.firstBetween_nil (hhere : OperatorBetween operator state text [] after) :
    FirstBetween operator state text [] after :=
  ⟨hhere, fun _ _ _ => List.nil_prefix⟩

theorem FirstBetween.cons (hfirst : FirstBetween operator (state.next c) rest before after)
    (hstarts : state.isOpen = true → ¬ operator <+: c :: rest) :
    FirstBetween operator state (c :: rest) (c :: before) after := by
  refine ⟨operatorBetween_cons_iff.mpr hfirst.toOperatorBetween, ?_⟩
  intro other tail hother
  obtain ⟨more, rfl, hmore⟩ := hother.exists_cons hstarts
  have hfront : before <+: more := hfirst.first more tail hmore
  simpa using hfront

/-- A split is at the first operator outside quotes, and there is none if there is no such
operator. -/
theorem splitUnquoted_cases (hoperator : IsPlain operator) (hne : operator ≠ [])
    (text : List Char) (state : QuoteState) :
    (∃ before after, splitUnquoted operator state text = some (before, after) ∧
        FirstBetween operator state text before after) ∨
      (splitUnquoted operator state text = none ∧
        ∀ before after, ¬ OperatorBetween operator state text before after) := by
  induction text generalizing state with
  | nil =>
      refine .inr ⟨rfl, ?_⟩
      intro before after hbetween
      have hnil := hbetween.text_eq
      simp [hne] at hnil
  | cons c rest ih =>
      by_cases hhere : state.isOpen = true ∧ operator <+: c :: rest
      · obtain ⟨hopen, after, htext⟩ := hhere
        have hsplit := splitUnquoted_operator hoperator hne hopen after
        rw [htext] at hsplit
        have hbetween : OperatorBetween operator state (c :: rest) [] after :=
          operatorBetween_nil_iff.mpr ⟨hopen, htext.symm⟩
        exact .inl ⟨[], after, hsplit, hbetween.firstBetween_nil⟩
      · have hstarts : state.isOpen = true → ¬ operator <+: c :: rest :=
          fun hopen hstart => hhere ⟨hopen, hstart⟩
        rw [splitUnquoted_skip hstarts]
        rcases ih (state.next c) with ⟨before, after, hsplit, hfirst⟩ | ⟨hsplit, habsent⟩
        · refine .inl ⟨c :: before, after, ?_, hfirst.cons hstarts⟩
          rw [hsplit]
          rfl
        · refine .inr ⟨by rw [hsplit]; rfl, ?_⟩
          intro before after hbetween
          obtain ⟨more, -, hmore⟩ := hbetween.exists_cons hstarts
          exact habsent more after hmore

end Splits

/-! ## Offsets -/

/-- An operator is a word of characters below 128 that are neither quotes nor backslashes. -/
structure IsOperator (operator : List Char) : Prop where
  ne_nil : operator ≠ []
  plain : IsPlain operator
  low : ∀ c ∈ operator, c.toNat < 0x80

/-- Whether the octets of an operator stand at an offset, the text in front of them having
closed its quotes. -/
structure OperatorAt (operator text : List Char) (offset : Nat) : Prop where
  starts : encode operator <+: (encode text).drop offset
  closes : ∃ before, encode before = (encode text).take offset ∧ ClosesQuotes before

section Offsets

variable {operator text before after : List Char} {offset : Nat}

theorem IsOperator.exists_head (hoperator : IsOperator operator) {octets : List UInt8}
    (hstarts : encode operator <+: octets) :
    ∃ octet, octets.head? = some octet ∧ octet.toNat < 0x80 := by
  obtain ⟨first, others, rfl⟩ := List.exists_cons_of_ne_nil hoperator.ne_nil
  have hfirst : first.toNat < 0x80 := hoperator.low first List.mem_cons_self
  obtain ⟨behind, rfl⟩ := hstarts
  refine ⟨first.toUInt8, ?_, ?_⟩
  · rw [encode_cons, utf8EncodeChar_of_lt hfirst]
    rfl
  · rw [toNat_toUInt8_of_lt hfirst]
    exact hfirst

/-- The octets of an operator stand only where characters meet. -/
theorem IsOperator.exists_append (hoperator : IsOperator operator)
    (hstarts : encode operator <+: (encode text).drop offset) :
    ∃ before after, text = before ++ (operator ++ after) ∧ (encode before).length = offset := by
  induction text generalizing offset with
  | nil =>
      have hnil : operator <+: [] := by
        apply prefix_of_encode_prefix hoperator.low
        simpa [encode] using hstarts
      exact absurd (List.prefix_nil.mp hnil) hoperator.ne_nil
  | cons c rest ih =>
      by_cases hsize : c.utf8Size ≤ offset
      · obtain ⟨more, rfl⟩ := Nat.exists_eq_add_of_le hsize
        rw [encode_cons, ← String.length_utf8EncodeChar, List.drop_length_add_append] at hstarts
        obtain ⟨before, after, rfl, hlength⟩ := ih hstarts
        refine ⟨c :: before, after, rfl, ?_⟩
        rw [length_encode_cons, hlength]
      · obtain ⟨octet, hhead, hlow⟩ := hoperator.exists_head hstarts
        have hinside : offset < (String.utf8EncodeChar c).length := by
          rw [String.length_utf8EncodeChar]
          omega
        rw [List.head?_drop, encode_cons, List.getElem?_append_left hinside] at hhead
        have hzero : offset = 0 := eq_zero_of_getElem?_utf8EncodeChar hhead hlow
        subst offset
        obtain ⟨after, htext⟩ := prefix_of_encode_prefix hoperator.low hstarts
        exact ⟨[], after, htext.symm, rfl⟩

/-- Offsets of an operator are the lengths in octets of what stands before it. -/
theorem IsOperator.operatorAt_iff (hoperator : IsOperator operator) :
    OperatorAt operator text offset ↔
      ∃ before after, OperatorBetween operator .start text before after ∧
        (encode before).length = offset := by
  constructor
  · intro hat
    obtain ⟨before, after, htext, hlength⟩ := hoperator.exists_append hat.starts
    obtain ⟨front, hfront, hcloses⟩ := hat.closes
    have htake : (encode text).take offset = encode before := by
      rw [htext, encode_append, ← hlength, List.take_left]
    have hsame : front = before := encode_injective (hfront.trans htake)
    subst front
    exact ⟨before, after, ⟨htext, (QuoteState.isOpen_foldl_next_start _).mpr hcloses⟩, hlength⟩
  · rintro ⟨before, after, hbetween, rfl⟩
    have htext : encode text = encode before ++ (encode operator ++ encode after) := by
      rw [hbetween.text_eq, encode_append, encode_append]
    constructor
    · rw [htext, List.drop_left]
      exact List.prefix_append _ _
    · refine ⟨before, ?_, (QuoteState.isOpen_foldl_next_start _).mp hbetween.isOpen⟩
      rw [htext, List.take_left]

/-- The first operator outside quotes stands at the least of the offsets. -/
theorem FirstBetween.isLeast (hoperator : IsOperator operator)
    (hfirst : FirstBetween operator .start text before after) :
    IsLeast {offset | OperatorAt operator text offset} (encode before).length := by
  constructor
  · exact hoperator.operatorAt_iff.mpr ⟨before, after, hfirst.toOperatorBetween, rfl⟩
  · intro offset hat
    obtain ⟨other, rest, hother, rfl⟩ := hoperator.operatorAt_iff.mp hat
    exact length_encode_le_of_prefix (hfirst.first other rest hother)

/-- The search by offsets finds the operator at which a text is split, and it never cuts inside
a character. -/
theorem operatorFrom_append (before rest : List Char) (state : QuoteState) :
    operatorFrom operator (before ++ rest) state (encode before).length rest =
      .ok ((splitUnquoted operator state rest).map fun split =>
        (encode (before ++ split.1)).length) := by
  -- What has been passed goes to the front, so the offset is always the length of its octets.
  induction rest generalizing before state with
  | nil => rfl
  | cons c rest ih =>
      have hslice : slice (before ++ c :: rest) (encode before).length
          (encode (before ++ c :: rest)).length = .ok (c :: rest) := slice_back before (c :: rest)
      have hlength : (encode (before ++ [c])).length = (encode before).length + c.utf8Size := by
        rw [encode_append, List.length_append, length_encode_cons]
        rfl
      have hnext := ih (before ++ [c]) (state.next c)
      rw [List.append_assoc, List.singleton_append, hlength] at hnext
      have hrest : operatorFrom operator (before ++ c :: rest) (state.next c)
          ((encode before).length + c.utf8Size) rest =
            .ok (((splitUnquoted operator (state.next c) rest).map fun split =>
              (c :: split.1, split.2)).map fun split => (encode (before ++ split.1)).length) := by
        rw [hnext, Option.map_map]
        simp only [List.append_assoc, List.singleton_append, Function.comp_def]
      rw [operatorFrom, splitUnquoted, hslice]
      dsimp only
      by_cases hhere : (state.isOpen && c ≠ '\\' && c ≠ '"') = true
      · by_cases hstarts : operator.isPrefixOf (c :: rest) = true
        · rw [if_pos hhere, if_pos hstarts, if_pos (by rw [hhere, hstarts]; rfl)]
          simp
        · rw [if_pos hhere, if_neg hstarts, if_neg (by rw [hhere]; exact hstarts)]
          exact hrest
      · rw [if_neg hhere, if_neg (by rw [Bool.eq_false_iff.mpr hhere]; simp)]
        exact hrest

theorem operatorOffset_eq_ok (operator text : List Char) :
    operatorOffset operator text =
      .ok ((splitUnquoted operator .start text).map fun parts => (encode parts.1).length) :=
  operatorFrom_append [] text .start

/-- A search finds the first operator outside quotes, or there is none. -/
theorem operatorOffset_cases (hoperator : IsOperator operator) (text : List Char) :
    (∃ before after, splitUnquoted operator .start text = some (before, after) ∧
        operatorOffset operator text = .ok (some (encode before).length) ∧
        FirstBetween operator .start text before after) ∨
      (splitUnquoted operator .start text = none ∧ operatorOffset operator text = .ok none ∧
        ∀ offset, ¬ OperatorAt operator text offset) := by
  have hsearch := operatorOffset_eq_ok operator text
  rcases splitUnquoted_cases hoperator.plain hoperator.ne_nil text .start with
    ⟨before, after, hsplit, hfirst⟩ | ⟨hsplit, habsent⟩
  · rw [hsplit] at hsearch
    exact .inl ⟨before, after, hsplit, hsearch, hfirst⟩
  · rw [hsplit] at hsearch
    refine .inr ⟨hsplit, hsearch, ?_⟩
    intro offset hat
    obtain ⟨before, after, hbetween, -⟩ := hoperator.operatorAt_iff.mp hat
    exact habsent before after hbetween

theorem operatorOffset_eq_some_iff (hoperator : IsOperator operator) :
    operatorOffset operator text = .ok (some offset) ↔
      IsLeast {offset | OperatorAt operator text offset} offset := by
  rcases operatorOffset_cases hoperator text with
    ⟨before, after, -, hsearch, hfirst⟩ | ⟨-, hsearch, habsent⟩
  · have hleast := hfirst.isLeast hoperator
    rw [hsearch]
    constructor
    · intro hoffset
      cases hoffset
      exact hleast
    · intro hother
      rw [hleast.unique hother]
  · rw [hsearch]
    constructor
    · intro hoffset
      cases hoffset
    · intro hleast
      exact absurd hleast.1 (habsent offset)

theorem operatorOffset_eq_none_iff (hoperator : IsOperator operator) :
    operatorOffset operator text = .ok none ↔ ∀ offset, ¬ OperatorAt operator text offset := by
  rcases operatorOffset_cases hoperator text with
    ⟨before, after, -, hsearch, hfirst⟩ | ⟨-, hsearch, habsent⟩
  · rw [hsearch]
    constructor
    · intro hoffset
      cases hoffset
    · intro habsent
      exact absurd (hfirst.isLeast hoperator).1 (habsent _)
  · exact iff_of_true hsearch habsent

end Offsets

end JsonExtract.Text
