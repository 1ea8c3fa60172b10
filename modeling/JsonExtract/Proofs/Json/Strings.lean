import JsonExtract.Json.Reader
import JsonExtract.Proofs.Json.Numeral

/-!
# What a string takes off a text

A string ends with its closing quote, and so it does not matter what follows.  The same holds of
the words.  Blanks are skipped as far as the next character.
-/

namespace JsonExtract.Json.Reader

variable {ends : List Char → Prop}

/-! ## Blanks -/

def AreBlanks (blanks : List Char) : Prop :=
  ∀ c ∈ blanks, isBlank c = true

theorem isBlank_text {c : Char} (hc : isBlank c = true) : Text.isBlank c = true := by
  simp only [isBlank, Bool.or_eq_true, decide_eq_true_eq] at hc
  rcases hc with ((rfl | rfl) | rfl) | rfl <;> decide

theorem AreBlanks.isBlanks {blanks : List Char} (hblanks : AreBlanks blanks) :
    Text.IsBlanks blanks :=
  fun c hc => isBlank_text (hblanks c hc)

/-- Blanks in front of a character are skipped, whatever follows it. -/
theorem exists_blanks_of_skipBlanks {text rest : List Char} {c : Char}
    (htext : skipBlanks text = c :: rest) :
    ∃ blanks, AreBlanks blanks ∧ text = blanks ++ c :: rest ∧
      ∀ other, skipBlanks (blanks ++ c :: other) = c :: other := by
  have hblanks : AreBlanks (text.takeWhile isBlank) := fun c hc => Text.mem_takeWhile hc
  have hc : isBlank c = false := by
    have hnot := List.head?_dropWhile_not isBlank text
    rw [skipBlanks] at htext
    rw [htext] at hnot
    simpa using hnot
  refine ⟨text.takeWhile isBlank, hblanks, ?_, ?_⟩
  · rw [← htext]
    exact List.takeWhile_append_dropWhile.symm
  · intro other
    exact Text.dropWhile_run_append hblanks (by simpa using hc)

theorem endsNumber_blanks_cons {blanks : List Char} (hblanks : AreBlanks blanks) {c : Char}
    (hc : EndsNumber [c]) (rest : List Char) : EndsNumber (blanks ++ c :: rest) := by
  cases blanks with
  | nil => exact hc
  | cons b more =>
      intro other hother
      cases hother
      have hb : isBlank b = true := hblanks b List.mem_cons_self
      simp only [isBlank, Bool.or_eq_true, decide_eq_true_eq] at hb
      rcases hb with ((rfl | rfl) | rfl) | rfl <;> decide

/-! ## Strings -/

theorem isBlank_of_hexValue? {c : Char} {value : Nat} (hc : hexValue? c = some value) :
    Text.isBlank c = false := by
  have hrange : 48 ≤ c.toNat ∧ c.toNat ≤ 57 ∨ 97 ≤ c.toNat ∧ c.toNat ≤ 102 ∨
      65 ≤ c.toNat ∧ c.toNat ≤ 70 := by
    unfold hexValue? at hc
    split at hc
    · rename_i hdigit
      exact .inl (Char.isDigit_iff_toNat.mp hdigit)
    · split at hc
      · rename_i hlower
        simp only [Bool.and_eq_true, decide_eq_true_eq] at hlower
        exact .inr (.inl hlower)
      · split at hc
        · rename_i hupper
          simp only [Bool.and_eq_true, decide_eq_true_eq] at hupper
          exact .inr (.inr hupper)
        · contradiction
  simp [Text.isBlank, Text.inRanges, Text.blankRanges]
  omega

theorem codeUnit_of_hexValue? {a b c d : Char} {p q r s : Nat} (ha : hexValue? a = some p)
    (hb : hexValue? b = some q) (hc : hexValue? c = some r) (hd : hexValue? d = some s)
    (rest : List Char) :
    codeUnit (a :: b :: c :: d :: rest) = .ok (((p * 16 + q) * 16 + r) * 16 + s, rest) := by
  have hlength : ¬ Text.byteLength (a :: b :: c :: d :: rest) < 4 := by
    have hfirst := a.utf8Size_pos
    have hsecond := b.utf8Size_pos
    have hthird := c.utf8Size_pos
    have hfourth := d.utf8Size_pos
    simp only [Text.byteLength]
    omega
  simp only [codeUnit, if_neg hlength, ha, hb, hc, hd]

theorem takesFront_codeUnit : TakesFront ends codeUnit := by
  intro text unit rest hok
  simp only [codeUnit] at hok
  split at hok
  · contradiction
  · split at hok
    · rename_i a b c d tail _
      split at hok
      · rename_i p q r s ha hb hc hd
        cases hok
        have hsolid : EndsSolid [a, b, c, d] := by
          apply endsSolid_of_forall
          simp [isBlank_of_hexValue? ha, isBlank_of_hexValue? hb, isBlank_of_hexValue? hc,
            isBlank_of_hexValue? hd]
        exact ⟨[a, b, c, d], rfl, hsolid, fun other _ => codeUnit_of_hexValue? ha hb hc hd other⟩
      · contradiction
    · contradiction

def pairCharacter (first second : Nat) (rest : List Char) : Except Fault (Split Char) :=
  if 0xDC00 ≤ second && second ≤ 0xDFFF then
    .ok (Char.ofNat (0x10000 + (first - 0xD800) * 0x400 + (second - 0xDC00)), rest)
  else .error (.before .loneSurrogate rest)

theorem takesFront_pairCharacter (first second : Nat) :
    TakesFront ends (pairCharacter first second) := by
  unfold pairCharacter
  split
  · exact takesFront_ok _
  · exact takesFront_of_fails fun text => ⟨_, rfl⟩

theorem takesFront_pairedUnit (first : Nat) : TakesFront ends (pairedUnit first) := by
  have hpair : TakesFront ends fun text =>
      (codeUnit text).bind fun unit => pairCharacter first unit.1 unit.2 :=
    takesFront_codeUnit.bind (takesFront_pairCharacter first)
  intro text c rest hok
  unfold pairedUnit at hok
  split at hok
  · contradiction
  · contradiction
  · obtain ⟨front, rfl, hsolid, hother⟩ := hpair hok
    exact ⟨'\\' :: 'u' :: front, rfl, (hsolid.cons (by decide)).cons (by decide), hother⟩
  · contradiction
  · contradiction

def unitCharacter (unit : Nat) (rest : List Char) : Except Fault (Split Char) :=
  if 0xDC00 ≤ unit && unit ≤ 0xDFFF then .error (.before .loneSurrogate rest)
  else if 0xD800 ≤ unit && unit ≤ 0xDBFF then pairedUnit unit rest
  else .ok (Char.ofNat unit, rest)

theorem takesFront_unitCharacter (unit : Nat) : TakesFront ends (unitCharacter unit) := by
  unfold unitCharacter
  split
  · exact takesFront_of_fails fun text => ⟨_, rfl⟩
  · split
    · exact takesFront_pairedUnit unit
    · exact takesFront_ok _

theorem takesFront_unicodeEscape : TakesFront ends unicodeEscape :=
  takesFront_codeUnit.bind takesFront_unitCharacter

theorem takesFront_escape : TakesFront ends escape := by
  intro text c rest hok
  unfold escape at hok
  split at hok
  · contradiction
  · exact (takesFront_ok '"').cons (by decide) (fun _ => rfl) hok
  · exact (takesFront_ok '\\').cons (by decide) (fun _ => rfl) hok
  · exact (takesFront_ok '/').cons (by decide) (fun _ => rfl) hok
  · exact (takesFront_ok '\x08').cons (by decide) (fun _ => rfl) hok
  · exact (takesFront_ok '\x0c').cons (by decide) (fun _ => rfl) hok
  · exact (takesFront_ok '\n').cons (by decide) (fun _ => rfl) hok
  · exact (takesFront_ok '\r').cons (by decide) (fun _ => rfl) hok
  · exact (takesFront_ok '\t').cons (by decide) (fun _ => rfl) hok
  · exact takesFront_unicodeEscape.cons (by decide) (fun _ => rfl) hok
  · contradiction

/-- The characters up to the closing quote, and what is behind it. -/
inductive Spells : List Char → List Char → List Char → Prop where
  | closing (rest : List Char) : Spells ('"' :: rest) [] rest
  | escaped {text left chars rest : List Char} {c : Char} (hescape : escape text = .ok (c, left))
      (hmore : Spells left chars rest) : Spells ('\\' :: text) (c :: chars) rest
  | plain {text chars rest : List Char} {c : Char} (hquote : c ≠ '"') (hescape : c ≠ '\\')
      (hcontrol : ¬ c.toNat < 0x20) (hmore : Spells text chars rest) :
      Spells (c :: text) (c :: chars) rest

theorem characters_escaped (fuel : Nat) (text : List Char) :
    characters (fuel + 1) ('\\' :: text) =
      (escape text).bind fun first =>
        (characters fuel first.2).bind fun more => .ok (first.1 :: more.1, more.2) := rfl

theorem characters_plain {c : Char} (hquote : c ≠ '"') (hescape : c ≠ '\\') (fuel : Nat)
    (text : List Char) :
    characters (fuel + 1) (c :: text) =
      if c.toNat < 0x20 then .error (.before .controlCharacter text)
      else (characters fuel text).bind fun more => .ok (c :: more.1, more.2) := by
  rw [characters]
  · rfl
  · exact hquote
  · exact hescape

/-- The fuel is worth one character a unit, and one more for the quote. -/
theorem characters_eq_ok_iff {fuel : Nat} {text chars rest : List Char} :
    characters fuel text = .ok (chars, rest) ↔ Spells text chars rest ∧ chars.length < fuel := by
  constructor
  · intro hok
    induction fuel generalizing text chars with
    | zero => contradiction
    | succ fuel ih =>
        cases text with
        | nil => contradiction
        | cons c text =>
            by_cases hquote : c = '"'
            · subst c
              cases hok
              exact ⟨.closing _, Nat.succ_pos _⟩
            · by_cases hescape : c = '\\'
              · subst c
                rw [characters_escaped] at hok
                obtain ⟨first, hfirst, hrest⟩ := Problem.bind_eq_ok_iff.mp hok
                obtain ⟨more, hmore, hpair⟩ := Problem.bind_eq_ok_iff.mp hrest
                cases hpair
                obtain ⟨hspells, hfuel⟩ := ih hmore
                exact ⟨.escaped hfirst hspells, Nat.succ_lt_succ hfuel⟩
              · rw [characters_plain hquote hescape] at hok
                split at hok
                · contradiction
                · rename_i hcontrol
                  obtain ⟨more, hmore, hpair⟩ := Problem.bind_eq_ok_iff.mp hok
                  cases hpair
                  obtain ⟨hspells, hfuel⟩ := ih hmore
                  exact ⟨.plain hquote hescape hcontrol hspells, Nat.succ_lt_succ hfuel⟩
  · rintro ⟨hspells, hfuel⟩
    induction hspells generalizing fuel with
    | closing rest =>
        cases fuel with
        | zero => contradiction
        | succ fuel => rfl
    | escaped hescape _ ih =>
        cases fuel with
        | zero => contradiction
        | succ fuel =>
            rw [characters_escaped, hescape]
            have hmore := ih (Nat.lt_of_succ_lt_succ hfuel)
            simp only [Except.bind, hmore]
    | plain hquote hescape hcontrol _ ih =>
        cases fuel with
        | zero => contradiction
        | succ fuel =>
            rw [characters_plain hquote hescape, if_neg hcontrol,
              ih (Nat.lt_of_succ_lt_succ hfuel)]
            rfl

theorem Spells.exists_front {text chars rest : List Char} (hspells : Spells text chars rest) :
    ∃ front, text = front ++ rest ∧ EndsSolid front ∧ chars.length < front.length ∧
      ∀ other, Spells (front ++ other) chars other := by
  induction hspells with
  | closing rest =>
      exact ⟨['"'], rfl, endsSolid_singleton (by decide), Nat.zero_lt_one, Spells.closing⟩
  | @escaped text left chars rest c hescape _ ih =>
      have hfirst : TakesFront (fun _ => True) escape := takesFront_escape
      obtain ⟨front, rfl, hfront, hreads⟩ := hfirst hescape
      obtain ⟨back, rfl, hback, hlength, hmore⟩ := ih
      refine ⟨'\\' :: (front ++ back), ?_, (hfront.append hback).cons (by decide), ?_, ?_⟩
      · rw [List.cons_append, List.append_assoc]
      · rw [List.length_cons, List.length_cons, List.length_append]
        omega
      · intro other
        rw [List.cons_append, List.append_assoc]
        exact .escaped (hreads _ trivial) (hmore other)
  | @plain text chars rest c hquote hescape hcontrol _ ih =>
      obtain ⟨front, rfl, hsolid, hlength, hmore⟩ := ih
      have hne : front ≠ [] := List.ne_nil_of_length_pos (Nat.zero_lt_of_lt hlength)
      exact ⟨c :: front, rfl, hsolid.behind hne [c], Nat.succ_lt_succ hlength,
        fun other => .plain hquote hescape hcontrol (hmore other)⟩

theorem takesFront_readString : TakesFront ends readString := by
  intro text s rest hok
  obtain ⟨⟨chars, left⟩, hchars, hpair⟩ := Problem.bind_eq_ok_iff.mp hok
  cases hpair
  obtain ⟨hspells, -⟩ := characters_eq_ok_iff.mp hchars
  obtain ⟨front, rfl, hsolid, hlength, hother⟩ := hspells.exists_front
  refine ⟨front, rfl, hsolid, ?_⟩
  intro other _
  have hfuel : chars.length < (front ++ other).length + 1 := by
    rw [List.length_append]
    omega
  exact Problem.bind_eq_ok_iff.mpr
    ⟨(chars, other), characters_eq_ok_iff.mpr ⟨hother other, hfuel⟩, rfl⟩

/-! ## Words -/

theorem letters_eq_ok_iff {word text rest : List Char} {u : Unit} :
    letters word text = .ok (u, rest) ↔ text = word ++ rest := by
  induction word generalizing text with
  | nil =>
      rw [letters, List.nil_append]
      constructor
      · intro hok
        cases hok
        rfl
      · rintro rfl
        rfl
  | cons expected more ih =>
      cases text with
      | nil => exact ⟨nofun, nofun⟩
      | cons c text =>
          rw [letters]
          by_cases hc : c = expected
          · rw [if_pos hc, ih, hc, List.cons_append, List.cons.injEq]
            exact ⟨fun h => ⟨rfl, h⟩, And.right⟩
          · rw [if_neg hc, List.cons_append, List.cons.injEq]
            exact ⟨nofun, fun h => absurd h.1 hc⟩

theorem takesFront_word {expected : String} (value : Json)
    (hexpected : expected.toList.any Text.isBlank = false) :
    TakesFront ends (word expected value) := by
  simp only [List.any_eq_false, Bool.not_eq_true] at hexpected
  have hletters : TakesFront ends (letters expected.toList) := by
    intro text u rest hok
    exact ⟨expected.toList, letters_eq_ok_iff.mp hok, endsSolid_of_forall hexpected,
      fun other _ => letters_eq_ok_iff.mpr rfl⟩
  exact hletters.map fun _ => value

end JsonExtract.Json.Reader
