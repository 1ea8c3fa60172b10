import JsonExtract.Text.Slice
import JsonExtract.Proofs.Text.Utf8

/-!
# Octets of characters and pieces of texts

A class of characters below 128 can be recognised by any octet of a character: such a character
is its own octet, and no octet of a greater character is below 128.  A run of characters of the
class is therefore a run of octets.  Offsets cut a text exactly where characters meet.
-/

namespace JsonExtract.Text

namespace Utf8

/-! ## Classes of octets -/

theorem utf8EncodeChar_of_lt {c : Char} (hc : c.toNat < 0x80) :
    String.utf8EncodeChar c = [c.toUInt8] := by
  apply String.utf8EncodeChar_eq_singleton
  rw [Char.utf8Size_eq_one_iff, UInt32.le_iff_toNat_le]
  exact Nat.le_of_lt_succ hc

theorem le_of_mem_utf8EncodeChar {c : Char} (hc : 0x80 ≤ c.toNat) :
    ∀ octet ∈ String.utf8EncodeChar c, 0x80 ≤ octet.toNat := by
  have hlead : ∀ n, 0x80 ≤ n → n < 256 → 0x80 ≤ (UInt8.ofNat n).toNat := by
    intro n hlow hhigh
    have htoNat : (UInt8.ofNat n).toNat = n := UInt8.toNat_ofNat_of_lt hhigh
    omega
  have hcontinued : ∀ bits, 0x80 ≤ (UInt8.ofNat (bits % 64 + 128)).toNat :=
    fun bits => hlead _ (by omega) (by omega)
  have hlow : ¬ c.val.toNat ≤ 127 := by
    change ¬ c.toNat ≤ 127
    omega
  unfold String.utf8EncodeChar
  simp only [if_neg hlow]
  split
  · simp only [List.forall_mem_cons]
    exact ⟨hlead _ (by omega) (by omega), hcontinued _, by simp⟩
  · split
    · simp only [List.forall_mem_cons]
      exact ⟨hlead _ (by omega) (by omega), hcontinued _, hcontinued _, by simp⟩
    · simp only [List.forall_mem_cons]
      exact ⟨hlead _ (by omega) (by omega), hcontinued _, hcontinued _, hcontinued _, by simp⟩

theorem toNat_toUInt8_of_lt {c : Char} (hc : c.toNat < 0x80) : c.toUInt8.toNat = c.toNat := by
  have htoNat : c.toUInt8.toNat = c.toNat % 256 := UInt32.toNat_toUInt8 c.val
  omega

/-- Whether a class of octets tells of every octet whether its character is in a class. -/
def Marks (octets : UInt8 → Bool) (chars : Char → Bool) : Prop :=
  ∀ c, ∀ octet ∈ String.utf8EncodeChar c, octets octet = chars c

theorem marks_of_lt {octets : UInt8 → Bool} {chars : Char → Bool}
    (hlow : ∀ c : Char, c.toNat < 0x80 → octets c.toUInt8 = chars c)
    (hoctets : ∀ octet : UInt8, octets octet = true → octet.toNat < 0x80)
    (hchars : ∀ c : Char, chars c = true → c.toNat < 0x80) : Marks octets chars := by
  intro c octet hoctet
  by_cases hc : c.toNat < 0x80
  · rw [utf8EncodeChar_of_lt hc, List.mem_singleton] at hoctet
    rw [hoctet, hlow c hc]
  · have hhigh := le_of_mem_utf8EncodeChar (Nat.le_of_not_lt hc) octet hoctet
    have hoctet : octets octet = false := by
      rw [Bool.eq_false_iff]
      intro htrue
      have hlt := hoctets octet htrue
      omega
    have hchar : chars c = false := by
      rw [Bool.eq_false_iff]
      intro htrue
      exact hc (hchars c htrue)
    rw [hoctet, hchar]

theorem marks_eq {a : Char} (ha : a.toNat < 0x80) :
    Marks (fun octet => octet = a.toUInt8) (fun c => c = a) := by
  apply marks_of_lt
  · intro c hc
    rw [decide_eq_decide, ← UInt8.toNat_inj, toNat_toUInt8_of_lt hc, toNat_toUInt8_of_lt ha]
    exact Char.toNat_inj
  · intro octet hoctet
    rw [of_decide_eq_true hoctet, toNat_toUInt8_of_lt ha]
    exact ha
  · intro c hc
    rw [of_decide_eq_true hc]
    exact ha

theorem Marks.or {octets others : UInt8 → Bool} {chars characters : Char → Bool}
    (hmarks : Marks octets chars) (hothers : Marks others characters) :
    Marks (fun octet => octets octet || others octet) (fun c => chars c || characters c) := by
  intro c octet hoctet
  dsimp only
  rw [hmarks c octet hoctet, hothers c octet hoctet]

theorem Marks.not {octets : UInt8 → Bool} {chars : Char → Bool} (hmarks : Marks octets chars) :
    Marks (fun octet => !octets octet) (fun c => !chars c) := by
  intro c octet hoctet
  exact congrArg Bool.not (hmarks c octet hoctet)

section Runs

variable {octets : UInt8 → Bool} {chars : Char → Bool} (hmarks : Marks octets chars)
include hmarks

theorem Marks.head?_encode (text : List Char) :
    (encode text).head?.map octets = text.head?.map chars := by
  cases text with
  | nil => rfl
  | cons c rest =>
      obtain ⟨octet, more, hcons⟩ :=
        List.exists_cons_of_ne_nil (String.utf8EncodeChar_ne_nil (c := c))
      have hoctet := hmarks c octet (by rw [hcons]; exact List.mem_cons_self)
      rw [encode_cons, hcons]
      simp [hoctet]

theorem Marks.takeWhile_encode (text : List Char) :
    (encode text).takeWhile octets = encode (text.takeWhile chars) := by
  induction text with
  | nil => rfl
  | cons c rest ih =>
      cases hc : chars c with
      | true =>
          have hall : ∀ octet ∈ String.utf8EncodeChar c, octets octet = true := by
            intro octet hoctet
            rw [hmarks c octet hoctet, hc]
          rw [encode_cons, List.takeWhile_append_of_pos hall, ih, List.takeWhile_cons_of_pos hc,
            encode_cons]
      | false =>
          obtain ⟨octet, more, hcons⟩ :=
            List.exists_cons_of_ne_nil (String.utf8EncodeChar_ne_nil (c := c))
          have hoctet := hmarks c octet (by rw [hcons]; exact List.mem_cons_self)
          rw [encode_cons, hcons, List.cons_append,
            List.takeWhile_cons_of_neg (by simp [hoctet, hc]),
            List.takeWhile_cons_of_neg (by simp [hc])]
          rfl

end Runs

/-- A text starts with a character below 128 exactly when its octets start with that octet. -/
theorem head?_encode_eq_some_iff {a : Char} (ha : a.toNat < 0x80) {text : List Char} :
    (encode text).head? = some a.toUInt8 ↔ text.head? = some a := by
  have hhead := (marks_eq ha).head?_encode text
  constructor
  · intro hoctet
    rw [hoctet, Option.map_some, decide_eq_true rfl, eq_comm, Option.map_eq_some_iff] at hhead
    obtain ⟨c, hc, heq⟩ := hhead
    rw [hc, of_decide_eq_true heq]
  · intro hchar
    rw [hchar, Option.map_some, decide_eq_true rfl, Option.map_eq_some_iff] at hhead
    obtain ⟨octet, hoctet, heq⟩ := hhead
    rw [hoctet, of_decide_eq_true heq]

theorem encode_append (front back : List Char) :
    encode (front ++ back) = encode front ++ encode back :=
  List.flatMap_append

/-! ## Words among octets -/

theorem encode_injective : Function.Injective encode := by
  intro front back hencode
  have hdecode := congrArg decode hencode
  rw [decode_encode, decode_encode] at hdecode
  exact Except.ok.inj hdecode

theorem length_encode_le_of_prefix {front text : List Char} (hfront : front <+: text) :
    (encode front).length ≤ (encode text).length := by
  obtain ⟨rest, rfl⟩ := hfront
  rw [encode_append, List.length_append]
  exact Nat.le_add_right _ _

theorem prefix_of_encode_prefix {word text : List Char} (hlow : ∀ c ∈ word, c.toNat < 0x80)
    (hstarts : encode word <+: encode text) : word <+: text := by
  induction word generalizing text with
  | nil => exact List.nil_prefix
  | cons c word ih =>
      obtain ⟨hc, hothers⟩ := List.forall_mem_cons.mp hlow
      rw [encode_cons, utf8EncodeChar_of_lt hc] at hstarts
      have hhead : (encode text).head? = some c.toUInt8 := by
        obtain ⟨octets, htext⟩ := hstarts
        rw [← htext]
        rfl
      obtain ⟨rest, rfl⟩ := List.head?_eq_some_iff.mp ((head?_encode_eq_some_iff hc).mp hhead)
      rw [encode_cons, utf8EncodeChar_of_lt hc, List.prefix_append_right_inj] at hstarts
      simpa using ih hothers hstarts

/-- No octet below 128 stands inside a character. -/
theorem eq_zero_of_getElem?_utf8EncodeChar {c : Char} {octet : UInt8} {offset : Nat}
    (hoctet : (String.utf8EncodeChar c)[offset]? = some octet) (hlow : octet.toNat < 0x80) :
    offset = 0 := by
  by_cases hc : c.toNat < 0x80
  · rw [utf8EncodeChar_of_lt hc] at hoctet
    obtain ⟨hlt, -⟩ := List.getElem?_eq_some_iff.mp hoctet
    simpa using hlt
  · have hmem : octet ∈ String.utf8EncodeChar c := List.mem_of_getElem? hoctet
    have hhigh := le_of_mem_utf8EncodeChar (Nat.le_of_not_lt hc) octet hmem
    omega

end Utf8

/-! ## Pieces -/

open Utf8

theorem length_encode_cons (c : Char) (rest : List Char) :
    (encode (c :: rest)).length = c.utf8Size + (encode rest).length := by
  rw [encode_cons, List.length_append, String.length_utf8EncodeChar]

theorem cut?_append (front back : List Char) :
    cut? (front ++ back) (encode front).length = some (front, back) := by
  induction front with
  | nil => cases back <;> rfl
  | cons c rest ih =>
      have hsize : (encode (c :: rest)).length = c.utf8Size - 1 + (encode rest).length + 1 := by
        have hpos := c.utf8Size_pos
        rw [length_encode_cons]
        omega
      have hle : c.utf8Size ≤ c.utf8Size - 1 + (encode rest).length + 1 := by omega
      have hrest : c.utf8Size - 1 + (encode rest).length + 1 - c.utf8Size =
          (encode rest).length := by
        have hpos := c.utf8Size_pos
        omega
      rw [hsize, List.cons_append, cut?, if_pos hle, hrest, ih, Option.map_some]

/-- An offset cuts a text exactly where a front part of the text has as many octets. -/
theorem cut?_eq_some_iff {text front back : List Char} {offset : Nat} :
    cut? text offset = some (front, back) ↔
      text = front ++ back ∧ (encode front).length = offset := by
  constructor
  · intro hcut
    fun_induction cut? text offset generalizing front back with
    | case1 text =>
        cases hcut
        exact ⟨rfl, rfl⟩
    | case2 offset => contradiction
    | case3 c rest offset hle ih =>
        obtain ⟨parts, hparts, heq⟩ := Option.map_eq_some_iff.mp hcut
        obtain ⟨rfl, rfl⟩ := Prod.mk.inj heq
        obtain ⟨htext, hlength⟩ := ih hparts
        refine ⟨by rw [htext, List.cons_append], ?_⟩
        rw [length_encode_cons, hlength]
        omega
    | case4 c rest offset hle => contradiction
  · rintro ⟨rfl, rfl⟩
    exact cut?_append front back

/-- There is a piece between two offsets exactly when the text in front of it and the text up to
its end have as many octets. -/
theorem slice_eq_ok_iff {text piece : List Char} {start stop : Nat} :
    slice text start stop = .ok piece ↔
      ∃ before after, text = before ++ piece ++ after ∧ (encode before).length = start ∧
        (encode (before ++ piece)).length = stop := by
  have hslice : slice text start stop = .ok piece ↔
      ∃ before, ((cut? text stop).bind fun parts => cut? parts.1 start) = some (before, piece) := by
    unfold slice
    cases hcut : (cut? text stop).bind fun parts => cut? parts.1 start with
    | none => simp
    | some parts =>
        constructor
        · intro hpiece
          cases hpiece
          exact ⟨parts.1, rfl⟩
        · rintro ⟨before, hparts⟩
          cases hparts
          rfl
  rw [hslice]
  constructor
  · rintro ⟨before, hbefore⟩
    obtain ⟨⟨front, after⟩, hstop, hstart⟩ := Option.bind_eq_some_iff.mp hbefore
    obtain ⟨rfl, hfront⟩ := cut?_eq_some_iff.mp hstop
    obtain ⟨rfl, hlength⟩ := cut?_eq_some_iff.mp hstart
    exact ⟨before, after, rfl, hlength, hfront⟩
  · rintro ⟨before, after, rfl, rfl, rfl⟩
    exact ⟨before, by rw [cut?_append, Option.bind_some, cut?_append]⟩

theorem slice_front (front back : List Char) :
    slice (front ++ back) 0 (encode front).length = .ok front :=
  slice_eq_ok_iff.mpr ⟨[], back, rfl, rfl, rfl⟩

theorem slice_back (front back : List Char) :
    slice (front ++ back) (encode front).length (encode (front ++ back)).length = .ok back :=
  slice_eq_ok_iff.mpr ⟨front, [], (List.append_nil _).symm, rfl, rfl⟩

end JsonExtract.Text
