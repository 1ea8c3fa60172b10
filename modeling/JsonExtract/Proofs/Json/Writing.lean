import Mathlib.Data.List.Forall2
import JsonExtract.Json.Printer
import JsonExtract.Proofs.Decimal.Writing
import JsonExtract.Proofs.Json.Strings
import JsonExtract.Proofs.Numeral

/-!
# Texts of documents

A text of a document is a word, a numeral, a string in quotes, or a container with its elements or
members between commas, and blanks may stand around each of them.  Whole numbers have neither a
fraction nor an exponent, and all other numbers have one of them.  The compact and the indented
form of a document are two of its texts.
-/

namespace JsonExtract.Json

open Decimal (AreDigits AreWhole)
open Reader (AreBlanks)

/-! ## Texts -/

/-- Whether a text is one of a number. -/
inductive IsNumeralOf : List Char → Number → Prop where
  | whole {digits : List Char} {n : WholeNumber} (hdigits : AreWhole digits)
      (hvalue : n.val = Decimal.ofDigits digits) : IsNumeralOf digits (.whole n)
  | negative {digits : List Char} {n : WholeNumber} (hdigits : AreWhole digits)
      (hvalue : n.val = -Decimal.ofDigits digits) (hne : n.val ≠ 0) :
      IsNumeralOf ('-' :: digits) (.whole n)
  | real {text : List Char} {x : Float} {hfinite : x.isFinite = true}
      (htells : Decimal.Tells text x) : IsNumeralOf text (.real x hfinite)

/-- What stands between the brackets of a container: nothing but blanks, or texts with a comma
between neighbours. -/
inductive Separated {α : Type} (isTextOf : List Char → α → Prop) : List Char → List α → Prop where
  | none {blanks : List Char} (hblanks : AreBlanks blanks) : Separated isTextOf blanks []
  | last {text : List Char} {item : α} (htext : isTextOf text item) :
      Separated isTextOf text [item]
  | more {text rest : List Char} {item next : α} {others : List α} (htext : isTextOf text item)
      (hrest : Separated isTextOf rest (next :: others)) :
      Separated isTextOf (text ++ ',' :: rest) (item :: next :: others)

inductive Named (isTextOf : List Char → Json → Prop) : List Char → String × Json → Prop where
  | member {front quoted between text : List Char} {name : String} {value : Json}
      (hfront : AreBlanks front) (hname : Reader.Spells quoted name.toList [])
      (hbetween : AreBlanks between) (htext : isTextOf text value) :
      Named isTextOf (front ++ '"' :: (quoted ++ (between ++ ':' :: text))) (name, value)

inductive IsTextOf : List Char → Json → Prop where
  | padded {front text back : List Char} {value : Json} (hfront : AreBlanks front)
      (hback : AreBlanks back) (htext : IsTextOf text value) :
      IsTextOf (front ++ (text ++ back)) value
  | null : IsTextOf "null".toList .null
  | true : IsTextOf "true".toList (.bool true)
  | false : IsTextOf "false".toList (.bool false)
  | number {text : List Char} {n : Number} (htext : IsNumeralOf text n) :
      IsTextOf text (.number n)
  | string {quoted : List Char} {s : String} (hquoted : Reader.Spells quoted s.toList []) :
      IsTextOf ('"' :: quoted) (.string s)
  | array {inside : List Char} {items : List Json} (hinside : Separated IsTextOf inside items) :
      IsTextOf ('[' :: (inside ++ [']'])) (.array items)
  | object {inside : List Char} {members : List (String × Json)}
      (hinside : Separated (Named IsTextOf) inside members) :
      IsTextOf ('{' :: (inside ++ ['}'])) (.object members)

/-! ## Strings -/

theorem hexValue?_hexDigit {n : ℕ} (hn : n < 16) : Reader.hexValue? (hexDigit n) = some n := by
  have hall : ∀ n < 16, Reader.hexValue? (hexDigit n) = some n := by decide
  exact hall n hn

theorem escape_control {c : Char} (hcontrol : c.toNat < 0x20) (rest : List Char) :
    Reader.escape
        ('u' :: '0' :: '0' :: hexDigit (c.toNat / 16) :: hexDigit (c.toNat % 16) :: rest) =
      .ok (c, rest) := by
  have hzero : Reader.hexValue? '0' = some 0 := rfl
  have hfirst : Reader.hexValue? (hexDigit (c.toNat / 16)) = some (c.toNat / 16) :=
    hexValue?_hexDigit (by omega)
  have hsecond : Reader.hexValue? (hexDigit (c.toNat % 16)) = some (c.toNat % 16) :=
    hexValue?_hexDigit (by omega)
  have hunit : ((0 * 16 + 0) * 16 + c.toNat / 16) * 16 + c.toNat % 16 = c.toNat := by omega
  have hlow : ¬ 0xDC00 ≤ c.toNat := by omega
  have hhigh : ¬ 0xD800 ≤ c.toNat := by omega
  simp only [Reader.escape, Reader.unicodeEscape,
    Reader.codeUnit_of_hexValue? hzero hzero hfirst hsecond, hunit, bind, Except.bind, hlow, hhigh,
    decide_false, Bool.false_and, Bool.false_eq_true, if_false, Char.ofNat_toNat]

theorem spells_escapeChar (c : Char) {rest chars left : List Char}
    (hrest : Reader.Spells rest chars left) :
    Reader.Spells (escapeChar c ++ rest) (c :: chars) left := by
  unfold escapeChar
  split_ifs with hquote hbackslash hfeed hreturn htab hback hform hcontrol
  iterate 7
    · subst c
      exact .escaped rfl hrest
  · exact .escaped (escape_control hcontrol rest) hrest
  · exact .plain hquote hbackslash hcontrol hrest

theorem exists_spells_quote (s : String) :
    ∃ quoted, quote s = '"' :: quoted ∧ Reader.Spells quoted s.toList [] := by
  refine ⟨s.toList.flatMap escapeChar ++ ['"'], rfl, ?_⟩
  induction s.toList with
  | nil => exact .closing []
  | cons c rest ih =>
      rw [List.flatMap_cons, List.append_assoc]
      exact spells_escapeChar c ih

/-! ## Numbers -/

theorem isNumeralOf_text (n : Number) : IsNumeralOf n.text.toList n := by
  cases n with
  | real x hfinite => exact .real (Decimal.tells_floatText hfinite)
  | whole n =>
      have htext : (Number.whole n).text.toList = (Numeral.ofInt n.val).text :=
        (Numeral.text_ofInt n.val).symm
      have hwhole : AreWhole (Decimal.toDigits n.val.natAbs) := by
        refine ⟨Decimal.areDigits_toDigits _, fun hhead => ?_⟩
        obtain hzero | ⟨first, rest, hdigits, hfirst⟩ := Decimal.toDigits_cases n.val.natAbs
        · exact hzero
        · rw [hdigits, List.head?_cons] at hhead
          exact absurd (Option.some.inj hhead) hfirst
      rw [htext]
      by_cases hneg : n.val < 0
      · have hvalue : n.val = -Decimal.ofDigits (Decimal.toDigits n.val.natAbs) := by
          rw [Decimal.ofDigits_toDigits]
          omega
        have hnumeral := IsNumeralOf.negative hwhole hvalue (by omega)
        simpa [Numeral.text, Numeral.ofInt, Numeral.fractionText, hneg] using hnumeral
      · have hvalue : n.val = Decimal.ofDigits (Decimal.toDigits n.val.natAbs) := by
          rw [Decimal.ofDigits_toDigits]
          omega
        have hnumeral := IsNumeralOf.whole hwhole hvalue
        simpa [Numeral.text, Numeral.ofInt, Numeral.fractionText, hneg] using hnumeral

/-! ## Pieces between separators -/

theorem areBlanks_nil : AreBlanks [] := by
  simp [AreBlanks]

theorem areBlanks_append {front back : List Char} (hfront : AreBlanks front)
    (hback : AreBlanks back) : AreBlanks (front ++ back) := by
  intro c hc
  exact (List.mem_append.mp hc).elim (hfront c) (hback c)

theorem areBlanks_freshLine (depth : ℕ) : AreBlanks (freshLine depth) := by
  intro c hc
  rcases List.mem_cons.mp hc with rfl | hc
  · rfl
  · rw [List.eq_of_mem_replicate hc]
    rfl

/-- Whether blanks may stand around texts of this kind. -/
def AdmitsBlanks {α : Type} (isTextOf : List Char → α → Prop) : Prop :=
  ∀ front text back item, AreBlanks front → AreBlanks back → isTextOf text item →
    isTextOf (front ++ (text ++ back)) item

theorem admitsBlanks_isTextOf : AdmitsBlanks IsTextOf :=
  fun _ _ _ _ hfront hback htext => .padded hfront hback htext

theorem admitsBlanks_named : AdmitsBlanks (Named IsTextOf) := by
  rintro front _ back _ hfront hback ⟨hbefore, hname, hbetween, htext⟩
  have hpadded := IsTextOf.padded areBlanks_nil hback htext
  have hnamed := Named.member (areBlanks_append hfront hbefore) hname hbetween hpadded
  simpa using hnamed

section

variable {α : Type} {isTextOf : List Char → α → Prop} {pieces : List (List Char)}
  {items : List α}

/-- Pieces with a comma and blanks between neighbours, and blanks around them all. -/
theorem separated_joined (hadmits : AdmitsBlanks isTextOf)
    (hpieces : List.Forall₂ isTextOf pieces items) {front blanks back : List Char}
    (hfront : AreBlanks front) (hblanks : AreBlanks blanks) (hback : AreBlanks back) :
    Separated isTextOf (front ++ (joined (',' :: blanks) pieces ++ back)) items := by
  induction hpieces generalizing front with
  | nil => exact .none (areBlanks_append hfront hback)
  | @cons piece item pieces items hpiece hrest ih =>
      cases hrest with
      | nil => exact .last (hadmits _ _ _ _ hfront hback hpiece)
      | @cons second next pieces others hsecond hothers =>
          have hhead : isTextOf (front ++ (piece ++ [])) item :=
            hadmits _ _ _ _ hfront areBlanks_nil hpiece
          have hmore := Separated.more hhead (ih hblanks)
          simpa [joined] using hmore

theorem separated_compact (hadmits : AdmitsBlanks isTextOf)
    (hpieces : List.Forall₂ isTextOf pieces items) :
    Separated isTextOf (joined [','] pieces) items := by
  have hjoined :=
    separated_joined hadmits hpieces areBlanks_nil areBlanks_nil areBlanks_nil
  rwa [List.nil_append, List.append_nil] at hjoined

theorem exists_separated_block (hadmits : AdmitsBlanks isTextOf)
    (hpieces : List.Forall₂ isTextOf pieces items) (opening closing : Char) (depth : ℕ) :
    ∃ inside, block opening closing depth pieces = opening :: (inside ++ [closing]) ∧
      Separated isTextOf inside items := by
  unfold block
  by_cases hempty : pieces.isEmpty = true
  · rw [if_pos hempty]
    rw [List.isEmpty_iff] at hempty
    subst hempty
    cases hpieces
    exact ⟨[], rfl, .none areBlanks_nil⟩
  · have hline := areBlanks_freshLine (depth + 1)
    rw [if_neg hempty]
    refine ⟨_, ?_, separated_joined hadmits hpieces hline hline (areBlanks_freshLine depth)⟩
    rw [List.append_assoc (freshLine (depth + 1))]

end

/-! ## The compact form -/

mutual

theorem isTextOf_compactChars : (value : Json) → IsTextOf (compactChars value) value
  | .null => .null
  | .bool true => .true
  | .bool false => .false
  | .number n => .number (isNumeralOf_text n)
  | .string s => by
      obtain ⟨quoted, hquote, hspells⟩ := exists_spells_quote s
      rw [compactChars, hquote]
      exact .string hspells
  | .array items => by
      have hinside := separated_compact admitsBlanks_isTextOf (forall₂_compactItems items)
      rw [compactChars]
      exact .array hinside
  | .object members => by
      have hinside := separated_compact admitsBlanks_named (forall₂_compactMembers members)
      rw [compactChars]
      exact .object hinside

theorem forall₂_compactItems :
    (items : List Json) → List.Forall₂ IsTextOf (compactItems items) items
  | [] => .nil
  | item :: rest => .cons (isTextOf_compactChars item) (forall₂_compactItems rest)

theorem forall₂_compactMembers : (members : List (String × Json)) →
    List.Forall₂ (Named IsTextOf) (compactMembers members) members
  | [] => .nil
  | (name, value) :: rest => by
      obtain ⟨quoted, hquote, hspells⟩ := exists_spells_quote name
      have hnamed := Named.member areBlanks_nil hspells areBlanks_nil (isTextOf_compactChars value)
      rw [compactMembers, hquote]
      exact .cons hnamed (forall₂_compactMembers rest)

end

/-! ## The indented form -/

mutual

theorem isTextOf_indentedChars :
    (depth : ℕ) → (value : Json) → IsTextOf (indentedChars depth value) value
  | _, .null => .null
  | _, .bool true => .true
  | _, .bool false => .false
  | _, .number n => .number (isNumeralOf_text n)
  | depth, .string s => by
      obtain ⟨quoted, hquote, hspells⟩ := exists_spells_quote s
      rw [indentedChars, hquote]
      exact .string hspells
  | depth, .array items => by
      obtain ⟨inside, hblock, hinside⟩ := exists_separated_block admitsBlanks_isTextOf
        (forall₂_indentedItems (depth + 1) items) '[' ']' depth
      rw [indentedChars, hblock]
      exact .array hinside
  | depth, .object members => by
      obtain ⟨inside, hblock, hinside⟩ := exists_separated_block admitsBlanks_named
        (forall₂_indentedMembers (depth + 1) members) '{' '}' depth
      rw [indentedChars, hblock]
      exact .object hinside

theorem forall₂_indentedItems : (depth : ℕ) → (items : List Json) →
    List.Forall₂ IsTextOf (indentedItems depth items) items
  | _, [] => .nil
  | depth, item :: rest =>
      .cons (isTextOf_indentedChars depth item) (forall₂_indentedItems depth rest)

theorem forall₂_indentedMembers : (depth : ℕ) → (members : List (String × Json)) →
    List.Forall₂ (Named IsTextOf) (indentedMembers depth members) members
  | _, [] => .nil
  | depth, (name, value) :: rest => by
      obtain ⟨quoted, hquote, hspells⟩ := exists_spells_quote name
      have hblank : AreBlanks [' '] := by simp [AreBlanks, Reader.isBlank]
      have hvalue : IsTextOf ([' '] ++ (indentedChars depth value ++ [])) value :=
        .padded hblank areBlanks_nil (isTextOf_indentedChars depth value)
      have hnamed := Named.member areBlanks_nil hspells areBlanks_nil hvalue
      rw [List.append_nil] at hnamed
      rw [indentedMembers, hquote]
      exact .cons hnamed (forall₂_indentedMembers depth rest)

end

/-- Both forms of a document, with a line end behind them, are texts of it. -/
theorem isTextOf_form_newline (value : Json) (isCompact : Bool) :
    IsTextOf ((if isCompact then value.compact else value.indented) ++ "\n").toList value := by
  have hend : AreBlanks ['\n'] := by simp [AreBlanks, Reader.isBlank]
  cases isCompact with
  | true =>
      have hpadded := IsTextOf.padded areBlanks_nil hend (isTextOf_compactChars value)
      simpa [compact] using hpadded
  | false =>
      have hpadded := IsTextOf.padded areBlanks_nil hend (isTextOf_indentedChars 0 value)
      simpa [indented] using hpadded

end JsonExtract.Json
