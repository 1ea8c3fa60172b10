import Mathlib.Tactic.ByContra
import JsonExtract.Json.Numeral
import JsonExtract.Proofs.Json.Front

/-!
# What a numeral takes off a text

A reader of numerals looks at one character behind the numeral.  Where that character is none
that a numeral goes on with, it makes no difference what follows.
-/

namespace JsonExtract.Json

/-! ## Digits -/

/-- Whether a numeral is over where this text starts. -/
def EndsNumber (text : List Char) : Prop :=
  ∀ c ∈ text.head?, c.isDigit = false ∧ c ≠ '.' ∧ c ≠ 'e' ∧ c ≠ 'E'

instance : DecidablePred EndsNumber :=
  fun text => Option.decidableForallMem text.head?

def NoDigit (text : List Char) : Prop :=
  ∀ c ∈ text.head?, c.isDigit = false

theorem EndsNumber.noDigit {text : List Char} (htext : EndsNumber text) : NoDigit text :=
  fun c hc => (htext c hc).1

theorem isBlank_of_isDigit {c : Char} (hc : c.isDigit = true) : Text.isBlank c = false := by
  obtain ⟨hlow, hhigh⟩ := Char.isDigit_iff_toNat.mp hc
  have hzero : '0'.toNat = 48 := rfl
  have hnine : '9'.toNat = 57 := rfl
  simp [Text.isBlank, Text.inRanges, Text.blankRanges]
  omega

theorem noDigit_iff {text : List Char} :
    NoDigit text ↔ text.head?.any Char.isDigit = false := by
  cases text <;> simp [NoDigit]

theorem NoDigit.of_append {front rest other : List Char} (hrest : NoDigit (front ++ rest))
    (hother : EndsNumber other) : NoDigit (front ++ other) := by
  cases front with
  | nil => exact hother.noDigit
  | cons c front => exact hrest

/-- A reader that goes on behind the digits at the front takes them with what it takes there. -/
theorem exists_front_of_digits {α : Type} {read : List Char → Except Fault (Split α)}
    (inner : List Char → List Char → Except Fault (Split α))
    (hread : ∀ digits tail, (∀ c ∈ digits, c.isDigit = true) → NoDigit tail →
      read (digits ++ tail) = inner digits tail)
    (hinner : ∀ digits, TakesFront EndsNumber (inner digits))
    {text rest : List Char} {value : α} (hok : read text = .ok (value, rest)) :
    ∃ front, text.takeWhile Char.isDigit <+: front ∧ text = front ++ rest ∧ EndsSolid front ∧
      ∀ other, EndsNumber other → read (front ++ other) = .ok (value, other) := by
  have hdigits : ∀ c ∈ text.takeWhile Char.isDigit, c.isDigit = true :=
    fun c hc => Text.mem_takeWhile hc
  have htail : NoDigit (text.dropWhile Char.isDigit) := by
    intro c hc
    have hnot := List.head?_dropWhile_not Char.isDigit text
    rw [Option.mem_def.mp hc] at hnot
    simpa using hnot
  rw [← List.takeWhile_append_dropWhile (p := Char.isDigit) (l := text),
    hread _ _ hdigits htail] at hok
  obtain ⟨front, hfront, hsolid, hother⟩ := hinner _ hok
  refine ⟨text.takeWhile Char.isDigit ++ front, List.prefix_append _ _, ?_, ?_, ?_⟩
  · rw [List.append_assoc, ← hfront, List.takeWhile_append_dropWhile]
  · exact (endsSolid_of_forall fun c hc => isBlank_of_isDigit (hdigits c hc)).append hsolid
  · intro other hends
    rw [hfront] at htail
    rw [List.append_assoc, hread _ _ hdigits (htail.of_append hends)]
    exact hother other hends

theorem takesFront_of_digits {α : Type} {read : List Char → Except Fault (Split α)}
    (inner : List Char → List Char → Except Fault (Split α))
    (hread : ∀ digits tail, (∀ c ∈ digits, c.isDigit = true) → NoDigit tail →
      read (digits ++ tail) = inner digits tail)
    (hinner : ∀ digits, TakesFront EndsNumber (inner digits)) :
    TakesFront EndsNumber read := by
  intro text value rest hok
  obtain ⟨front, -, hfront⟩ := exists_front_of_digits inner hread hinner hok
  exact ⟨front, hfront⟩

namespace Numeral

variable {negative : Bool} {significand : Nat} {digits tail : List Char}

theorem gather_append (bound taken : Nat) (htail : NoDigit tail) :
    gather bound significand taken (digits ++ tail) =
      ((gather bound significand taken digits).1, (gather bound significand taken digits).2.1,
        (gather bound significand taken digits).2.2 ++ tail) := by
  induction digits generalizing significand taken with
  | nil =>
      cases tail with
      | nil => rfl
      | cons c rest => simp [gather, htail c rfl]
  | cons c rest ih =>
      rw [List.cons_append, gather, gather]
      split
      · exact ih _
      · rfl

theorem isDigit_of_mem_gather {bound taken : Nat} (hdigits : ∀ c ∈ digits, c.isDigit = true) :
    ∀ c ∈ (gather bound significand taken digits).2.2, c.isDigit = true := by
  induction digits generalizing significand taken with
  | nil => exact hdigits
  | cons c rest ih =>
      rw [gather]
      split
      · exact ih fun other hother => hdigits other (List.mem_cons_of_mem c hother)
      · exact hdigits

theorem le_taken_gather (bound significand taken : Nat) (text : List Char) :
    taken ≤ (gather bound significand taken text).2.1 := by
  induction text generalizing significand taken with
  | nil => exact Nat.le_refl taken
  | cons c rest ih =>
      rw [gather]
      split
      · exact Nat.le_of_succ_le (ih _ (taken + 1))
      · exact Nat.le_refl taken

theorem skipDigits_append (hdigits : ∀ c ∈ digits, c.isDigit = true) (htail : NoDigit tail) :
    skipDigits (digits ++ tail) = tail :=
  Text.dropWhile_run_append hdigits htail

/-! ## Readers of numerals -/

theorem takesNothing_real (x : Float) : TakesNothing (real x) := by
  intro text value rest hok
  unfold real at hok ⊢
  cases hnumber : Number.ofFloat? x with
  | none =>
      rw [hnumber] at hok
      contradiction
  | some n =>
      rw [hnumber] at hok
      cases hok
      exact ⟨rfl, fun _ => rfl⟩

theorem takesNothing_scaled (negative : Bool) (significand : Nat) (exponent : Int) :
    TakesNothing (scaled negative significand exponent) := by
  intro text value rest hok
  unfold scaled at hok ⊢
  cases hscaled : scale? significand exponent with
  | none =>
      rw [hscaled] at hok
      contradiction
  | some x =>
      rw [hscaled] at hok
      exact takesNothing_real _ hok

theorem takesNothing_whole (negative : Bool) (significand : Nat) :
    TakesNothing (whole negative significand) := by
  intro text value rest hok
  unfold whole at hok ⊢
  split at hok
  · rename_i hzero
    simp only [hzero, if_true]
    exact takesNothing_real _ hok
  · rename_i hnonzero
    simp only [hnonzero]
    cases hnumber : Number.ofInt? (if negative then -significand else significand) with
    | none =>
        simp only [hnumber] at hok
        exact takesNothing_real _ hok
    | some n =>
        simp only [hnumber] at hok
        cases hok
        exact ⟨rfl, fun _ => rfl⟩

def exponentDigits (negative : Bool) (significand : Nat) (start : Int) (down : Bool)
    (digits : List Char) : Except Fault (Split Number) :=
  match digits with
  | [] => .error (.before .unfinishedValue [])
  | c :: _ =>
    if !c.isDigit then .error (.within .malformedNumber digits)
    else
      let (value, _, rest) := gather 0x80000000 0 0 digits
      match rest with
      | d :: beyond =>
        if d.isDigit then
          if significand ≠ 0 && !down then .error (.before .numberOutOfRange beyond)
          else real (signed negative 0.0) (skipDigits beyond)
        else scaled negative significand (if down then start - value else start + value) rest
      | [] => scaled negative significand (if down then start - value else start + value) rest

theorem exponent_plus (negative : Bool) (significand : Nat) (start : Int) (text : List Char) :
    exponent negative significand start ('+' :: text) =
      exponentDigits negative significand start false text := rfl

theorem exponent_minus (negative : Bool) (significand : Nat) (start : Int) (text : List Char) :
    exponent negative significand start ('-' :: text) =
      exponentDigits negative significand start true text := rfl

theorem exponent_of_head? {text : List Char} (hplus : text.head? ≠ some '+')
    (hminus : text.head? ≠ some '-') (negative : Bool) (significand : Nat) (start : Int) :
    exponent negative significand start text =
      exponentDigits negative significand start false text := by
  unfold exponent
  split
  rename_i hsign
  split at hsign
  · exact absurd rfl hplus
  · exact absurd rfl hminus
  · cases hsign
    rfl

/-- The exponent once its digits have been gathered, some of them perhaps being left. -/
def exponentTail (negative : Bool) (significand : Nat) (start : Int) (down : Bool) (value : Nat)
    (left tail : List Char) : Except Fault (Split Number) :=
  if left.isEmpty then
    scaled negative significand (if down then start - value else start + value) tail
  else if significand ≠ 0 && !down then .error (.before .numberOutOfRange (left.tail ++ tail))
  else real (signed negative 0.0) tail

theorem takesFront_exponentTail (start : Int) (down : Bool) (value : Nat) (left : List Char) :
    TakesFront EndsNumber (exponentTail negative significand start down value left) := by
  unfold exponentTail
  split
  · exact (takesNothing_scaled _ _ _).takesFront
  · split
    · exact takesFront_of_fails fun text => ⟨_, rfl⟩
    · exact (takesNothing_real _).takesFront

theorem exponentDigits_append {start : Int} {down : Bool} (hne : digits ≠ [])
    (hdigits : ∀ c ∈ digits, c.isDigit = true) (htail : NoDigit tail) :
    exponentDigits negative significand start down (digits ++ tail) =
      exponentTail negative significand start down (gather 0x80000000 0 0 digits).1
        (gather 0x80000000 0 0 digits).2.2 tail := by
  obtain ⟨first, more, hcons⟩ := List.exists_cons_of_ne_nil hne
  have hfirst : first.isDigit = true := hdigits first (by rw [hcons]; exact List.mem_cons_self)
  have hleft : ∀ c ∈ (gather 0x80000000 0 0 digits).2.2, c.isDigit = true :=
    isDigit_of_mem_gather hdigits
  have hgather : gather 0x80000000 0 0 (digits ++ tail) = _ := gather_append _ _ htail
  unfold exponentDigits exponentTail
  rw [hgather]
  generalize gather 0x80000000 0 0 digits = gathered at hleft ⊢
  obtain ⟨value, taken, left⟩ := gathered
  rw [hcons, List.cons_append]
  simp only [hfirst, Bool.not_true, Bool.false_eq_true, if_false]
  cases left with
  | nil =>
      cases tail with
      | nil => rfl
      | cons d beyond =>
          have hd : d.isDigit = false := htail d rfl
          simp [hd]
  | cons d beyond =>
      have hd : d.isDigit = true := hleft d List.mem_cons_self
      have hbeyond : ∀ c ∈ beyond, c.isDigit = true :=
        fun c hc => hleft c (List.mem_cons_of_mem d hc)
      simp [hd, skipDigits_append hbeyond htail]

def digitFault : List Char → Fault
  | [] => .before .unfinishedValue []
  | rest => .within .malformedNumber rest

theorem exponentDigits_of_noDigit {start : Int} {down : Bool} (htail : NoDigit tail) :
    exponentDigits negative significand start down tail = .error (digitFault tail) := by
  cases tail with
  | nil => rfl
  | cons c rest =>
      have hc : c.isDigit = false := htail c rfl
      simp [exponentDigits, hc, digitFault]

theorem takesFront_exponentDigits (negative : Bool) (significand : Nat) (start : Int)
    (down : Bool) :
    TakesFront EndsNumber (exponentDigits negative significand start down) := by
  let inner (digits tail : List Char) : Except Fault (Split Number) :=
    if digits.isEmpty then .error (digitFault tail)
    else exponentTail negative significand start down (gather 0x80000000 0 0 digits).1
      (gather 0x80000000 0 0 digits).2.2 tail
  apply takesFront_of_digits inner
  · intro digits tail hdigits htail
    cases digits with
    | nil => exact exponentDigits_of_noDigit htail
    | cons c rest => exact exponentDigits_append (List.cons_ne_nil c rest) hdigits htail
  · intro digits
    cases digits with
    | nil => exact takesFront_of_fails fun tail => ⟨_, rfl⟩
    | cons c rest => exact takesFront_exponentTail _ _ _ _

theorem takesFront_exponent (negative : Bool) (significand : Nat) (start : Int) :
    TakesFront EndsNumber (exponent negative significand start) := by
  intro text value rest hok
  by_cases hplus : text.head? = some '+'
  · obtain ⟨text, rfl⟩ := List.head?_eq_some_iff.mp hplus
    exact (takesFront_exponentDigits negative significand start false).cons (by decide)
      (exponent_plus _ _ _) hok
  · by_cases hminus : text.head? = some '-'
    · obtain ⟨text, rfl⟩ := List.head?_eq_some_iff.mp hminus
      exact (takesFront_exponentDigits negative significand start true).cons (by decide)
        (exponent_minus _ _ _) hok
    · rw [exponent_of_head? hplus hminus] at hok
      obtain ⟨front, rfl, hsolid, hother⟩ :=
        takesFront_exponentDigits negative significand start false hok
      refine ⟨front, rfl, hsolid, ?_⟩
      intro other hends
      -- An exponent has a digit, so what follows the front cannot be taken for its sign.
      cases front with
      | nil =>
          have hnone := hother [] (by decide)
          contradiction
      | cons c front =>
          have hsigned := @exponent_of_head? (c :: front ++ other) hplus hminus negative
            significand start
          rw [hsigned]
          exact hother other hends

theorem takesFront_afterDigits (negative : Bool) (significand : Nat) (start : Int) :
    TakesFront EndsNumber (afterDigits negative significand start) := by
  intro text value rest hok
  unfold afterDigits at hok
  split at hok
  · exact (takesFront_exponent negative significand start).cons (by decide) (fun _ => rfl) hok
  · exact (takesFront_exponent negative significand start).cons (by decide) (fun _ => rfl) hok
  · obtain ⟨rfl, hother⟩ := takesNothing_scaled _ _ _ hok
    refine ⟨[], rfl, endsSolid_nil, ?_⟩
    intro other hends
    rw [List.nil_append, afterDigits]
    · exact hother other
    · rintro rest rfl
      exact (hends 'e' rfl).2.2.1 rfl
    · rintro rest rfl
      exact (hends 'E' rfl).2.2.2 rfl

/-- Digits are gathered, or the first of them is left. -/
theorem taken_gather_cons {c : Char} (hc : c.isDigit = true) (bound significand : Nat)
    (rest : List Char) :
    (gather bound significand 0 (c :: rest)).2.1 ≠ 0 ∨
      (gather bound significand 0 (c :: rest)).2.2.head?.any Char.isDigit = true := by
  rw [gather]
  split
  · have hle := le_taken_gather bound (10 * significand + digitValue c) 1 rest
    left
    rw [Nat.zero_add]
    omega
  · right
    simp [hc]

theorem any_isDigit_append_noDigit (text : List Char) (htail : NoDigit tail) :
    (text ++ tail).head?.any Char.isDigit = text.head?.any Char.isDigit := by
  cases text with
  | nil =>
      cases tail with
      | nil => rfl
      | cons c rest => simp [htail c rfl]
  | cons c rest => rfl

theorem fraction_append {start : Int} (hdigits : ∀ c ∈ digits, c.isDigit = true)
    (htail : NoDigit tail) :
    fraction negative significand start (digits ++ tail) =
      if digits.isEmpty then .error (digitFault tail)
      else afterDigits negative (gather 0x10000000000000000 significand 0 digits).1
        (start - (gather 0x10000000000000000 significand 0 digits).2.1) tail := by
  have hleft : ∀ c ∈ (gather 0x10000000000000000 significand 0 digits).2.2, c.isDigit = true :=
    isDigit_of_mem_gather hdigits
  unfold fraction
  rw [gather_append _ _ htail]
  dsimp only
  rw [any_isDigit_append_noDigit _ htail, skipDigits_append hleft htail]
  cases digits with
  | nil =>
      cases tail with
      | nil => rfl
      | cons c rest => simp [gather, digitFault]
  | cons c rest =>
      have hc : c.isDigit = true := hdigits c List.mem_cons_self
      rw [if_neg]
      · rfl
      · rcases taken_gather_cons hc 0x10000000000000000 significand rest with h | h <;> simp [h]

theorem takesFront_fraction (negative : Bool) (significand : Nat) (start : Int) :
    TakesFront EndsNumber (fraction negative significand start) := by
  let inner (digits tail : List Char) : Except Fault (Split Number) :=
    if digits.isEmpty then .error (digitFault tail)
    else afterDigits negative (gather 0x10000000000000000 significand 0 digits).1
      (start - (gather 0x10000000000000000 significand 0 digits).2.1) tail
  apply takesFront_of_digits inner
  · intro digits tail hdigits htail
    exact fraction_append hdigits htail
  · intro digits
    cases digits with
    | nil => exact takesFront_of_fails fun tail => ⟨_, rfl⟩
    | cons c rest => exact takesFront_afterDigits _ _ _

def integerTail (negative : Bool) (significand dropped : Nat) (text : List Char) :
    Except Fault (Split Number) :=
  match text with
  | '.' :: rest => fraction negative significand dropped rest
  | 'e' :: rest => exponent negative significand dropped rest
  | 'E' :: rest => exponent negative significand dropped rest
  | _ =>
    if dropped = 0 then whole negative significand text
    else scaled negative significand dropped text

theorem afterInteger_eq (negative : Bool) (significand : Nat) (text : List Char) :
    afterInteger negative significand text =
      integerTail negative significand (text.takeWhile Char.isDigit).length (skipDigits text) :=
  rfl

theorem afterInteger_append (hdigits : ∀ c ∈ digits, c.isDigit = true) (htail : NoDigit tail) :
    afterInteger negative significand (digits ++ tail) =
      integerTail negative significand digits.length tail := by
  have htake : (digits ++ tail).takeWhile Char.isDigit = digits :=
    Text.takeWhile_run_append hdigits htail
  rw [afterInteger_eq, htake, skipDigits_append hdigits htail]

theorem takesFront_integerTail (negative : Bool) (significand dropped : Nat) :
    TakesFront EndsNumber (integerTail negative significand dropped) := by
  intro text value rest hok
  unfold integerTail at hok
  split at hok
  · exact (takesFront_fraction negative significand dropped).cons (by decide) (fun _ => rfl) hok
  · exact (takesFront_exponent negative significand dropped).cons (by decide) (fun _ => rfl) hok
  · exact (takesFront_exponent negative significand dropped).cons (by decide) (fun _ => rfl) hok
  · have hread : ∀ other, EndsNumber other →
        integerTail negative significand dropped other =
          if dropped = 0 then whole negative significand other
          else scaled negative significand dropped other := by
      intro other hends
      rw [integerTail]
      · rintro rest rfl
        exact (hends '.' rfl).2.1 rfl
      · rintro rest rfl
        exact (hends 'e' rfl).2.2.1 rfl
      · rintro rest rfl
        exact (hends 'E' rfl).2.2.2 rfl
    have hnothing : TakesNothing fun other =>
        if dropped = 0 then whole negative significand other
        else scaled negative significand dropped other := by
      split
      · exact takesNothing_whole negative significand
      · exact takesNothing_scaled negative significand dropped
    obtain ⟨rfl, hother⟩ := hnothing hok
    refine ⟨[], rfl, endsSolid_nil, ?_⟩
    intro other hends
    rw [List.nil_append, hread other hends]
    exact hother other

theorem takesFront_afterInteger (negative : Bool) (significand : Nat) :
    TakesFront EndsNumber (afterInteger negative significand) := by
  apply takesFront_of_digits fun digits tail =>
    integerTail negative significand digits.length tail
  · intro digits tail hdigits htail
    exact afterInteger_append hdigits htail
  · intro digits
    exact takesFront_integerTail negative significand digits.length

def readDigits (negative : Bool) (text : List Char) : Except Fault (Split Number) :=
  afterInteger negative (gather 0x10000000000000000 0 0 text).1
    (gather 0x10000000000000000 0 0 text).2.2

theorem readDigits_append (hdigits : ∀ c ∈ digits, c.isDigit = true) (htail : NoDigit tail) :
    readDigits negative (digits ++ tail) =
      integerTail negative (gather 0x10000000000000000 0 0 digits).1
        (gather 0x10000000000000000 0 0 digits).2.2.length tail := by
  have hleft : ∀ c ∈ (gather 0x10000000000000000 0 0 digits).2.2, c.isDigit = true :=
    isDigit_of_mem_gather hdigits
  rw [readDigits, gather_append _ _ htail]
  exact afterInteger_append hleft htail

theorem read_zero (negative : Bool) {rest : List Char} (hrest : NoDigit rest) :
    read negative ('0' :: rest) = afterInteger negative 0 rest := by
  rw [read, noDigit_iff.mp hrest]
  rfl

theorem read_of_isDigit {c : Char} (hc : c.isDigit = true) (hzero : c ≠ '0') (negative : Bool)
    (rest : List Char) : read negative (c :: rest) = readDigits negative (c :: rest) := by
  rw [read]
  · simp only [hc, if_true]
    rfl
  · exact hzero

theorem takesFront_read (negative : Bool) : TakesFront EndsNumber (read negative) := by
  intro text value rest hok
  cases text with
  | nil => contradiction
  | cons c text =>
      by_cases hzero : c = '0'
      · subst c
        have hdigit : NoDigit text := by
          rw [noDigit_iff]
          by_contra hsome
          rw [Bool.not_eq_false] at hsome
          rw [read, hsome] at hok
          contradiction
        rw [read_zero negative hdigit] at hok
        obtain ⟨front, rfl, hsolid, hother⟩ := takesFront_afterInteger negative 0 hok
        refine ⟨'0' :: front, rfl, hsolid.cons (by decide), ?_⟩
        intro other hends
        rw [List.cons_append, read_zero negative (hdigit.of_append hends)]
        exact hother other hends
      · have hc : c.isDigit = true := by
          by_contra hnot
          rw [Bool.not_eq_true] at hnot
          rw [read] at hok
          · simp [hnot] at hok
          · exact hzero
        rw [read_of_isDigit hc hzero] at hok
        obtain ⟨front, hdigits, htext, hsolid, hother⟩ :=
          exists_front_of_digits _ (fun digits tail => readDigits_append)
            (fun digits => takesFront_integerTail negative _ _) hok
        -- The front starts with the digit that the text starts with.
        rw [List.takeWhile_cons_of_pos hc] at hdigits
        obtain ⟨more, rfl⟩ := hdigits
        refine ⟨_, htext, hsolid, ?_⟩
        intro other hends
        have hsame := read_of_isDigit hc hzero negative
          (text.takeWhile Char.isDigit ++ more ++ other)
        exact hsame.trans (hother other hends)

end Numeral

end JsonExtract.Json
