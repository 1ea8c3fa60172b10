import JsonExtract.Path.Octets
import JsonExtract.Proofs.Path.Grammar
import JsonExtract.Proofs.Text.Slice

/-!
# Scanning octets reads the grammar

The scan of a path keeps its offset where a character starts.  At such a place the octets tell
apart what the characters tell apart, whatever is cut out of the text is there, and the offset
moves on to the next such place.  So the scan never fails, and it finds the steps of the one
row of lexemes that the path is.
-/

namespace JsonExtract.Path

open Text Text.Utf8

/-! ## Octets for characters -/

theorem marks_isDelimiter : Marks isDelimiterOctet isDelimiter :=
  ((marks_eq (by decide)).or (marks_eq (by decide))).or (marks_eq (by decide))

theorem marks_inKey : Marks (fun octet => !isDelimiterOctet octet) inKey :=
  marks_isDelimiter.not

theorem toNat_lt_of_isDigit {c : Char} (hc : c.isDigit = true) : c.toNat < 0x80 :=
  Nat.lt_of_le_of_lt (Char.isDigit_iff_toNat.mp hc).2 (by decide)

theorem marks_isDigit : Marks isDigitOctet Char.isDigit := by
  apply marks_of_lt
  · intro c hc
    rw [Bool.eq_iff_iff, Char.isDigit_iff_toNat]
    simp only [isDigitOctet, Bool.and_eq_true, decide_eq_true_eq, UInt8.le_iff_toNat_le,
      toNat_toUInt8_of_lt hc]
    exact Iff.rfl
  · intro octet hoctet
    simp only [isDigitOctet, Bool.and_eq_true, decide_eq_true_eq] at hoctet
    have hle : octet.toNat ≤ '9'.toUInt8.toNat := UInt8.le_iff_toNat_le.mp hoctet.2
    exact Nat.lt_of_le_of_lt hle (by decide)
  · exact fun c hc => toNat_lt_of_isDigit hc

theorem length_encode_of_lt {text : List Char} (htext : ∀ c ∈ text, c.toNat < 0x80) :
    (encode text).length = text.length := by
  induction text with
  | nil => rfl
  | cons c rest ih =>
      rw [List.forall_mem_cons] at htext
      rw [encode_cons, utf8EncodeChar_of_lt htext.1, List.length_append, ih htext.2,
        List.length_singleton, List.length_cons, Nat.add_comm]

theorem length_encode_of_isDigit {digits : List Char}
    (hdigits : ∀ c ∈ digits, c.isDigit = true) : (encode digits).length = digits.length :=
  length_encode_of_lt fun c hc => toNat_lt_of_isDigit (hdigits c hc)

theorem getElem?_length_encode (before rest : List Char) :
    (encode (before ++ rest))[(encode before).length]? = (encode rest).head? := by
  rw [encode_append, List.getElem?_append_right (Nat.le_refl _), Nat.sub_self,
    List.head?_eq_getElem?]

theorem drop_length_encode (before rest : List Char) :
    (encode (before ++ rest)).drop (encode before).length = encode rest := by
  rw [encode_append, List.drop_left]

/-! ## One step of the scan -/

theorem bracketStep_opening {inner : List Char} (hstar : ∀ rest, inner ≠ '*' :: ']' :: rest) :
    bracketStep ('[' :: inner) =
      if inner.takeWhile Char.isDigit = [] ∨ (inner.dropWhile Char.isDigit).head? ≠ some ']' then
        .ok none
      else .ok (some (.ofDigits (inner.takeWhile Char.isDigit),
        (inner.takeWhile Char.isDigit).length + 2)) := by
  obtain ⟨digits, hdigits⟩ : ∃ digits, digits = inner.takeWhile Char.isDigit := ⟨_, rfl⟩
  obtain ⟨rest, hrest⟩ : ∃ rest, rest = inner.dropWhile Char.isDigit := ⟨_, rfl⟩
  have hinner : inner = digits ++ rest := by
    rw [hdigits, hrest, List.takeWhile_append_dropWhile]
  have hlength : (encode digits).length = digits.length := by
    rw [hdigits]
    exact length_encode_of_isDigit fun c hc => Text.mem_takeWhile hc
  have htake : (encode inner).takeWhile isDigitOctet = encode digits := by
    rw [marks_isDigit.takeWhile_encode, hdigits]
  have hget : (encode inner)[digits.length]? = (encode rest).head? := by
    rw [hinner, ← hlength, getElem?_length_encode]
  have hslice : slice inner 0 digits.length = .ok digits := by
    rw [hinner, ← hlength]
    exact slice_front digits rest
  rw [← hdigits, ← hrest]
  unfold bracketStep
  split
  · rename_i htext
    exact absurd (List.cons.inj htext).2 (hstar _)
  · rename_i htext
    obtain ⟨-, rfl⟩ := List.cons.inj htext
    simp only [htake, hlength, hget, hslice, ne_eq,
      head?_encode_eq_some_iff (show ']'.toNat < 0x80 by decide), List.length_eq_zero_iff,
      Bool.or_eq_true, decide_eq_true_eq]
    rfl
  · rename_i hother
    exact absurd rfl (hother inner)

theorem bracketStep_of_bracketed? {inner tail : List Char} {step : Step}
    (hread : bracketed? inner = some (step, tail)) :
    ∃ taken, '[' :: inner = taken ++ tail ∧
      bracketStep ('[' :: inner) = .ok (some (step, (encode taken).length)) := by
  obtain ⟨inside, hinside, rfl⟩ := bracketed?_eq_some_iff.mp hread
  cases hinside with
  | star => exact ⟨['[', '*', ']'], rfl, rfl⟩
  | number hne hdigits =>
      refine ⟨'[' :: (inside ++ [']']), by simp, ?_⟩
      have hstar : ∀ rest, inside ++ ']' :: tail ≠ '*' :: ']' :: rest := by
        intro rest htext
        obtain ⟨first, more, rfl⟩ := List.exists_cons_of_ne_nil hne
        rw [List.cons_append, List.cons.injEq] at htext
        exact absurd (hdigits first List.mem_cons_self) (by rw [htext.1]; decide)
      have hlength : (encode ('[' :: (inside ++ [']']))).length = inside.length + 2 := by
        rw [length_encode_cons, encode_append, List.length_append,
          length_encode_of_isDigit hdigits, Nat.add_comm]
        rfl
      have htake := Text.takeWhile_run_append hdigits (isDigit_head?_closing tail)
      have hdrop := Text.dropWhile_run_append hdigits (isDigit_head?_closing tail)
      rw [bracketStep_opening hstar, htake, hdrop, hlength, if_neg (by simp [hne])]

theorem bracketStep_of_bracketed?_eq_none {inner : List Char} (hnone : bracketed? inner = none) :
    bracketStep ('[' :: inner) = .ok none := by
  have hstar : ∀ rest, inner ≠ '*' :: ']' :: rest := by
    rintro rest rfl
    rw [bracketed?_wildcard] at hnone
    contradiction
  rw [bracketStep_opening hstar, if_pos]
  by_cases hempty : inner.takeWhile Char.isDigit = []
  · exact .inl hempty
  · refine .inr ?_
    intro hclosing
    obtain ⟨rest, hrest⟩ := List.head?_eq_some_iff.mp hclosing
    have hread := bracketed?_digits hempty
      (fun c hc => Text.mem_takeWhile hc) rest
    rw [← hrest, List.takeWhile_append_dropWhile, hnone] at hread
    contradiction

theorem scanStep_name {before name rest : List Char} (hname : Plain name) (hrest : EndsKey rest)
    {octet : UInt8} (hoctet : isDelimiterOctet octet = false) :
    scanStep (before ++ (name ++ rest)) (encode (before ++ (name ++ rest))) (encode before).length
        octet =
      .ok (some (.key (String.ofList name)), (encode (before ++ name)).length) := by
  have hend : nameEnd (encode (before ++ (name ++ rest))) (encode before).length =
      (encode (before ++ name)).length := by
    rw [nameEnd, drop_length_encode, marks_inKey.takeWhile_encode,
      takeWhile_inKey_plain_append hname hrest, encode_append, List.length_append]
  have hslice : slice (before ++ (name ++ rest)) (encode before).length
      (encode (before ++ name)).length = .ok name := by
    rw [slice_eq_ok_iff]
    exact ⟨before, rest, (List.append_assoc _ _ _).symm, rfl, rfl⟩
  rw [scanStep, if_neg (by simp [hoctet]), hend, hslice]
  rfl

theorem scanStep_opening (before inner : List Char) :
    scanStep (before ++ '[' :: inner) (encode (before ++ '[' :: inner)) (encode before).length
        '['.toUInt8 =
      match bracketStep ('[' :: inner) with
      | .error fault => .error fault
      | .ok (some (step, size)) => .ok (some step, (encode before).length + size)
      | .ok none => .ok (none, (encode before).length + 1) := by
  have hslice : slice (before ++ '[' :: inner) (encode before).length
      (encode (before ++ '[' :: inner)).length = .ok ('[' :: inner) := slice_back before _
  rw [scanStep, if_pos (by decide), if_pos rfl, hslice]
  rfl

theorem isDelimiterOctet_toUInt8 {c : Char} (hc : isDelimiter c = true) :
    isDelimiterOctet c.toUInt8 = true := by
  rcases isDelimiter_eq_true_iff.mp hc with rfl | rfl | rfl <;> decide

theorem scanStep_passing {c : Char} (hc : isDelimiter c = true) (hopening : c ≠ '[')
    (text : List Char) (octets : List UInt8) (offset : Nat) :
    scanStep text octets offset c.toUInt8 = .ok (none, offset + 1) := by
  have hoctet : c.toUInt8 ≠ '['.toUInt8 := by
    rcases isDelimiter_eq_true_iff.mp hc with rfl | rfl | rfl
    · decide
    · contradiction
    · decide
  rw [scanStep, if_pos (isDelimiterOctet_toUInt8 hc), if_neg hoctet]

/-! ## The whole scan -/

theorem scanFrom_of_getElem?_eq_none {text : List Char} {octets : List UInt8} {offset : Nat}
    (hend : octets[offset]? = none) : scanFrom text octets offset = .ok [] := by
  rw [scanFrom]
  split
  · rfl
  · rename_i hoctet
    rw [hend] at hoctet
    contradiction

theorem scanFrom_of_scanStep {text : List Char} {octets : List UInt8} {offset next : Nat}
    {octet : UInt8} {found : Option Step} (hoctet : octets[offset]? = some octet)
    (hstep : scanStep text octets offset octet = .ok (found, next)) :
    scanFrom text octets offset = (scanFrom text octets next).map (found.toList ++ ·) := by
  rw [scanFrom]
  split
  · rename_i hend
    rw [hend] at hoctet
    contradiction
  · rename_i other hother
    rw [hoctet, Option.some.injEq] at hother
    subst other
    split
    · rename_i hfault
      rw [hstep] at hfault
      contradiction
    · rename_i hfound
      rw [hstep] at hfound
      cases hfound
      rfl

section Taken

variable {before taken rest : List Char} {octet : UInt8} {found : Option Step} {list : List Step}

/-- A scan that takes some characters goes on with the scan of those behind them. -/
theorem scanFrom_of_taken (hoctet : (encode (taken ++ rest)).head? = some octet)
    (hstep : scanStep (before ++ (taken ++ rest)) (encode (before ++ (taken ++ rest)))
      (encode before).length octet = .ok (found, (encode (before ++ taken)).length))
    (hrest : scanFrom (before ++ taken ++ rest) (encode (before ++ taken ++ rest))
      (encode (before ++ taken)).length = .ok list) :
    scanFrom (before ++ (taken ++ rest)) (encode (before ++ (taken ++ rest)))
      (encode before).length = .ok (found.toList ++ list) := by
  have hget : (encode (before ++ (taken ++ rest)))[(encode before).length]? = some octet := by
    rw [getElem?_length_encode, hoctet]
  rw [List.append_assoc] at hrest
  rw [scanFrom_of_scanStep hget hstep, hrest]
  rfl

end Taken

theorem toNat_lt_of_isDelimiter {c : Char} (hc : isDelimiter c = true) : c.toNat < 0x80 := by
  rcases isDelimiter_eq_true_iff.mp hc with rfl | rfl | rfl <;> decide

theorem length_encode_append_delimiter {c : Char} (hc : isDelimiter c = true)
    (before : List Char) : (encode (before ++ [c])).length = (encode before).length + 1 := by
  rw [encode_append, List.length_append, encode_cons,
    utf8EncodeChar_of_lt (toNat_lt_of_isDelimiter hc)]
  rfl

theorem head?_encode_delimiter {c : Char} (hc : isDelimiter c = true) (rest : List Char) :
    (encode (c :: rest)).head? = some c.toUInt8 :=
  (head?_encode_eq_some_iff (toNat_lt_of_isDelimiter hc)).mpr rfl

/-- The scan from a place at which a character starts finds the steps of the text from there
on. -/
theorem scanFrom_length_encode (before text : List Char) :
    scanFrom (before ++ text) (encode (before ++ text)) (encode before).length =
      .ok (steps text) := by
  -- What has been scanned goes to the front, so the offset is always the length of its octets.
  induction text using steps.induct generalizing before with
  | case1 =>
      rw [steps_nil]
      apply scanFrom_of_getElem?_eq_none
      rw [getElem?_length_encode]
      rfl
  | case2 c rest hkey ih =>
      obtain ⟨name, hplain, htext⟩ := exists_name_append hkey rest
      have hmark := marks_isDelimiter.head?_encode (c :: rest)
      rw [List.head?_cons, Option.map_some, inKey_eq_true_iff.mp hkey,
        Option.map_eq_some_iff] at hmark
      obtain ⟨octet, hoctet, hdelimiter⟩ := hmark
      rw [htext] at hoctet ⊢
      rw [steps_plain_append hplain (endsKey_dropWhile_inKey rest)]
      exact scanFrom_of_taken hoctet
        (scanStep_name hplain (endsKey_dropWhile_inKey rest) hdelimiter) (ih (before ++ name))
  | case3 rest step tail hread _ ih =>
      obtain ⟨taken, htext, hbracket⟩ := bracketStep_of_bracketed? hread
      have hoctet := head?_encode_delimiter (show isDelimiter '[' = true by decide) rest
      have hstep : scanStep (before ++ '[' :: rest) (encode (before ++ '[' :: rest))
          (encode before).length '['.toUInt8 =
            .ok (some step, (encode (before ++ taken)).length) := by
        rw [scanStep_opening, hbracket, encode_append before taken, List.length_append]
      rw [steps_opening_of_bracketed? hread]
      rw [htext] at hstep hoctet ⊢
      exact scanFrom_of_taken hoctet hstep (ih (before ++ taken))
  | case4 rest hread _ ih =>
      have hdelimiter : isDelimiter '[' = true := by decide
      have hstep : scanStep (before ++ '[' :: rest) (encode (before ++ '[' :: rest))
          (encode before).length '['.toUInt8 =
            .ok (none, (encode (before ++ ['['])).length) := by
        rw [scanStep_opening, bracketStep_of_bracketed?_eq_none hread,
          length_encode_append_delimiter hdelimiter]
      rw [steps_opening_of_bracketed?_eq_none hread]
      exact scanFrom_of_taken (head?_encode_delimiter hdelimiter rest) hstep (ih (before ++ ['[']))
  | case5 c rest hkey hopening ih =>
      have hdelimiter : isDelimiter c = true := by simpa [inKey] using hkey
      have hstep : scanStep (before ++ c :: rest) (encode (before ++ c :: rest))
          (encode before).length c.toUInt8 =
            .ok (none, (encode (before ++ [c])).length) := by
        rw [scanStep_passing hdelimiter hopening, length_encode_append_delimiter hdelimiter]
      rw [steps, if_neg hkey, if_neg hopening]
      exact scanFrom_of_taken (head?_encode_delimiter hdelimiter rest) hstep (ih (before ++ [c]))

theorem scan_eq_ok_steps (path : String) : scan path = .ok (steps path.toList) :=
  scanFrom_length_encode [] path.toList

/-- Scanning the octets of a text never cuts inside a character or behind the end.  It finds the
steps of the only row of lexemes that the text is; the lexemes spell the text without a gap, and
the characters among them that are passed over are delimiters. -/
theorem scan_reads (path : String) :
    ∃ lexemes : List Lexeme,
      scan path = .ok (lexemes.filterMap Lexeme.step?) ∧
      tokenize path = lexemes.filterMap Lexeme.step? ∧
      (∀ others, Reads path.toList others ↔ others = lexemes) ∧
      lexemes.flatMap Lexeme.text = path.toList ∧
      ∀ c, .passedOver c ∈ lexemes → isDelimiter c = true := by
  obtain ⟨lexemes, hreads, hsteps⟩ := exists_reads path.toList
  have hscan : scan path = .ok (lexemes.filterMap Lexeme.step?) := by
    rw [hsteps, scan_eq_ok_steps]
  have hunique : ∀ others, Reads path.toList others ↔ others = lexemes := by
    intro others
    constructor
    · intro hothers
      exact hothers.unique hreads
    · rintro rfl
      exact hreads
  exact ⟨lexemes, hscan, hsteps.symm, hunique, hreads.flatMap_text,
    fun c hc => hreads.isDelimiter_of_passedOver hc⟩

/-- Digits that do not end at the bracket, a number that is too large, and characters of
several octets. -/
example : (scan "prix.€[1€][18446744073709551616]x[").toOption = some
    [.key "prix", .key "€", .key "1€", .key "18446744073709551616", .key "x"] := by
  decide +kernel

end JsonExtract.Path
