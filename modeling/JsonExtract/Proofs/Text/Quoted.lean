import JsonExtract.Proofs.Decimal.Digits
import JsonExtract.Proofs.Text.Unquoted
import JsonExtract.Text.Quoted

/-!
# Quoted texts read back

Each character of a quoted text can be read back from the front of what it is written as, whatever
stands behind it, and no character is written so that it starts with a quote.  So the closing quote
is found, and different texts have different quotations.  All that a quotation has are visible
characters of ASCII and characters of the text that show.
-/

namespace JsonExtract.Text

/-! ## Visible characters -/

def IsPrintable (c : Char) : Prop :=
  0x20 ≤ c.toNat ∧ c.toNat < 0x7f

instance : DecidablePred IsPrintable :=
  fun c => inferInstanceAs (Decidable (0x20 ≤ c.toNat ∧ c.toNat < 0x7f))

def ArePrintable (text : List Char) : Prop :=
  ∀ c ∈ text, IsPrintable c

instance : DecidablePred ArePrintable :=
  List.decidableBAll IsPrintable

theorem IsPrintable.inRanges_eq_false {c : Char} (hc : IsPrintable c) {ranges : List (Nat × Nat)}
    (hranges : ∀ range ∈ ranges, range.2 < 0x20 ∨ 0x7f ≤ range.1) : inRanges ranges c = false := by
  rw [inRanges, List.any_eq_false]
  intro range hrange hin
  rw [Bool.and_eq_true, decide_eq_true_eq, decide_eq_true_eq] at hin
  obtain ⟨hlow, hhigh⟩ := hc
  rcases hranges range hrange with hbelow | habove
  · omega
  · omega

theorem IsPrintable.isVisible {c : Char} (hc : IsPrintable c) : isVisible c = true := by
  have hhidden : inRanges hiddenRanges c = false := hc.inRanges_eq_false (by decide +kernel)
  have hextending : inRanges extendingRanges c = false := hc.inRanges_eq_false (by decide +kernel)
  rw [Text.isVisible, hhidden, hextending]
  rfl

theorem isPrintable_of_isDigit {c : Char} (hc : c.isDigit = true) : IsPrintable c := by
  have hbounds : 48 ≤ c.toNat ∧ c.toNat ≤ 57 := Char.isDigit_iff_toNat.mp hc
  exact ⟨by omega, by omega⟩

namespace Quoted

/-! ## Hexadecimal digits -/

def digitValue (c : Char) : Nat :=
  if c.isDigit then c.toNat - '0'.toNat else c.toNat - 'a'.toNat + 10

def ofHexDigits (digits : List Char) : Nat :=
  digits.foldl (fun value c => 16 * value + digitValue c) 0

theorem digitValue_digitChar : ∀ n < 16, digitValue (Nat.digitChar n) = n := by
  decide

theorem ofHexDigits_append_singleton (digits : List Char) (c : Char) :
    ofHexDigits (digits ++ [c]) = 16 * ofHexDigits digits + digitValue c := by
  simp [ofHexDigits, List.foldl_append]

theorem ofHexDigits_toDigits (n : Nat) : ofHexDigits (Nat.toDigits 16 n) = n := by
  induction n using Nat.strongRecOn with
  | ind n ih =>
      by_cases hn : n < 16
      · rw [Nat.toDigits_of_lt_base hn]
        simp [ofHexDigits, digitValue_digitChar n hn]
      · have hrest : ofHexDigits (Nat.toDigits 16 (n / 16)) = n / 16 := ih (n / 16) (by omega)
        rw [Nat.toDigits_of_base_le (by decide) (by omega), ofHexDigits_append_singleton, hrest,
          digitValue_digitChar _ (Nat.mod_lt n (by decide)), Nat.div_add_mod]

theorem mem_toDigits_sixteen {n : Nat} {c : Char} (hc : c ∈ Nat.toDigits 16 n) :
    ∃ d < 16, c = Nat.digitChar d := by
  induction n using Nat.strongRecOn with
  | ind n ih =>
      by_cases hn : n < 16
      · rw [Nat.toDigits_of_lt_base hn, List.mem_singleton] at hc
        exact ⟨n, hn, hc⟩
      · rw [Nat.toDigits_of_base_le (by decide) (by omega), List.mem_append,
          List.mem_singleton] at hc
        rcases hc with hfront | hlast
        · exact ih (n / 16) (by omega) hfront
        · exact ⟨n % 16, Nat.mod_lt n (by decide), hlast⟩

theorem digitChar_sixteen :
    ∀ d < 16, Nat.digitChar d ≠ '\x7d' ∧ IsPrintable (Nat.digitChar d) := by
  decide

/-! ## Characters -/

/-- Reads one character of a quoted text, with what stands behind it, up to the closing quote. -/
def decodeChar : List Char → Option (Char × List Char)
  | [] => none
  | '"' :: _ => none
  | '\\' :: '0' :: rest => some ('\x00', rest)
  | '\\' :: 't' :: rest => some ('\t', rest)
  | '\\' :: 'r' :: rest => some ('\r', rest)
  | '\\' :: 'n' :: rest => some ('\n', rest)
  | '\\' :: '"' :: rest => some ('"', rest)
  | '\\' :: '\\' :: rest => some ('\\', rest)
  | '\\' :: 'u' :: '\x7b' :: rest =>
    (splitAtChar '\x7d' rest).map fun (digits, after) => (Char.ofNat (ofHexDigits digits), after)
  | '\\' :: _ => none
  | c :: rest => some (c, rest)

theorem decodeChar_plain {c : Char} (hquote : c ≠ '"') (hescape : c ≠ '\\') (rest : List Char) :
    decodeChar (c :: rest) = some (c, rest) := by
  simp [decodeChar, hescape]

theorem decodeChar_number (n : Nat) (rest : List Char) :
    decodeChar ('\\' :: 'u' :: '\x7b' :: (Nat.toDigits 16 n ++ '\x7d' :: rest)) =
      some (Char.ofNat n, rest) := by
  have hclosing : '\x7d' ∉ Nat.toDigits 16 n := by
    intro hmem
    obtain ⟨d, hd, hdigit⟩ := mem_toDigits_sixteen hmem
    exact (digitChar_sixteen d hd).1 hdigit.symm
  rw [decodeChar, splitAtChar_append hclosing, Option.map_some]
  dsimp only
  rw [ofHexDigits_toDigits]

/-- A character is read back, whatever stands behind it. -/
theorem decodeChar_encodeChar_append (c : Char) (rest : List Char) :
    decodeChar (encodeChar c ++ rest) = some (c, rest) := by
  unfold encodeChar
  split_ifs with hnull htab hreturn hfeed hquote hescape hvisible
  · rw [hnull]
    rfl
  · rw [htab]
    rfl
  · rw [hreturn]
    rfl
  · rw [hfeed]
    rfl
  · rw [hquote]
    rfl
  · rw [hescape]
    rfl
  · exact decodeChar_plain hquote hescape rest
  · have hnumber := decodeChar_number c.toNat rest
    rw [Char.ofNat_toNat] at hnumber
    rw [List.cons_append, List.cons_append, List.cons_append, List.append_assoc]
    exact hnumber

theorem isVisible_of_mem_encodeChar {c d : Char} (hd : d ∈ encodeChar c) : isVisible d = true := by
  unfold encodeChar at hd
  split_ifs at hd with hnull htab hreturn hfeed hquote hescape hvisible
  iterate 6 exact IsPrintable.isVisible ((by decide : ArePrintable _) d hd)
  · rw [List.mem_singleton.mp hd]
    exact hvisible
  · have hopening : ArePrintable ['\\', 'u', '\x7b'] := by decide
    have hclosing : ArePrintable ['\x7d'] := by decide
    have hsplit : d ∈ ['\\', 'u', '\x7b'] ++ (Nat.toDigits 16 c.toNat ++ ['\x7d']) := hd
    rw [List.mem_append, List.mem_append] at hsplit
    apply IsPrintable.isVisible
    rcases hsplit with hfront | hdigit | hback
    · exact hopening d hfront
    · obtain ⟨n, hn, rfl⟩ := mem_toDigits_sixteen hdigit
      exact (digitChar_sixteen n hn).2
    · exact hclosing d hback

/-! ## Texts -/

theorem encode_cons (c : Char) (rest : List Char) :
    encode (c :: rest) = encodeChar c ++ encode rest :=
  rfl

/-- The closing quote ends a text, and the text is known by what it is written as. -/
theorem encode_append_quote_inj {text other after after' : List Char}
    (hsame : encode text ++ '"' :: after = encode other ++ '"' :: after') :
    text = other ∧ after = after' := by
  induction text generalizing other with
  | nil =>
      cases other with
      | nil => exact ⟨rfl, List.tail_eq_of_cons_eq hsame⟩
      | cons d other =>
          have hread := congrArg decodeChar hsame
          rw [encode_cons, List.append_assoc, decodeChar_encodeChar_append] at hread
          contradiction
  | cons c text ih =>
      have hread := congrArg decodeChar hsame
      rw [encode_cons, List.append_assoc, decodeChar_encodeChar_append] at hread
      cases other with
      | nil => contradiction
      | cons d other =>
          rw [encode_cons, List.append_assoc, decodeChar_encodeChar_append] at hread
          obtain ⟨rfl, hrest⟩ := Prod.mk.inj (Option.some.inj hread)
          obtain ⟨rfl, hafter⟩ := ih hrest
          exact ⟨rfl, hafter⟩

theorem quote_injective : Function.Injective quote := by
  intro text other hsame
  have hchars := congrArg String.toList hsame
  rw [quote, quote, String.toList_ofList, String.toList_ofList] at hchars
  have hinside := List.tail_eq_of_cons_eq hchars
  exact String.toList_inj.mp (encode_append_quote_inj hinside).1

theorem isVisible_of_mem_quote {text : String} {c : Char} (hc : c ∈ (quote text).toList) :
    isVisible c = true := by
  have hmark : isVisible '"' = true := IsPrintable.isVisible (by decide)
  simp only [quote, encode, String.toList_ofList, List.mem_cons, List.mem_append, List.mem_flatMap,
    List.not_mem_nil, or_false] at hc
  rcases hc with rfl | ⟨d, -, hd⟩ | rfl
  · exact hmark
  · exact isVisible_of_mem_encodeChar hd
  · exact hmark

end Quoted

end JsonExtract.Text
