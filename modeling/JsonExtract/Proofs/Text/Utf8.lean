import JsonExtract.Text.Charset

/-!
# Texts read back from their octets

The octets of a character are read back as one piece, whatever octets come behind them.  So a
text is read back from its octets, strictly and leniently alike, and its octets start with the
mark of the byte order only if the text itself does.
-/

namespace JsonExtract.Text.Utf8

/-! ## One character -/

theorem readOwed_zero (value low high taken : Nat) (rest : List UInt8) :
    readOwed value low high taken 0 rest = (.char (Char.ofNat value), rest) := by
  rw [readOwed]

/-- An octet that continues a character adds six bits to its value. -/
theorem readOwed_succ {value low high taken owed bits : Nat} (hbits : bits < 64)
    (hlow : low ≤ bits + 0x80) (hhigh : bits + 0x80 ≤ high) (rest : List UInt8) :
    readOwed value low high taken (owed + 1) (UInt8.ofNat (bits + 0x80) :: rest) =
      readOwed (value * 64 + bits) 0x80 0xbf (taken + 1) owed rest := by
  have htoNat : (UInt8.ofNat (bits + 0x80)).toNat = bits + 0x80 :=
    UInt8.toNat_ofNat_of_lt (by simp only [UInt8.size]; omega)
  have hmod : (bits + 0x80) % 64 = bits := by omega
  rw [readOwed, htoNat, if_pos (by simp [hlow, hhigh]), hmod]

theorem readPiece_of_lead? {n value owed low high : Nat} (hn : n < 256)
    (hlead : lead? n = some ⟨value, owed, low, high⟩) (rest : List UInt8) :
    readPiece (UInt8.ofNat n) rest = readOwed value low high 1 owed rest := by
  have htoNat : (UInt8.ofNat n).toNat = n := UInt8.toNat_ofNat_of_lt hn
  simp only [readPiece, htoNat, hlead]

theorem lead?_one {n : Nat} (hn : n < 0x80) : lead? n = some ⟨n, 0, 0x80, 0xbf⟩ := by
  rw [lead?, if_pos hn]

theorem lead?_two {bits : Nat} (hlow : 2 ≤ bits) (hhigh : bits < 32) :
    lead? (bits + 0xc0) = some ⟨bits, 1, 0x80, 0xbf⟩ := by
  rw [lead?, if_neg (by omega), if_neg (by omega), if_pos (by omega), Nat.add_sub_cancel]

/-- The first of three octets leaves room for all characters but those with a shorter form and
those that do not exist. -/
theorem lead?_three (bits next : Nat) (hbits : bits < 16) (hnext : next < 64)
    (hshort : bits = 0 → 32 ≤ next) (hsurrogate : bits = 13 → next < 32) :
    ∃ low high, lead? (bits + 0xe0) = some ⟨bits, 2, low, high⟩ ∧
      low ≤ next + 0x80 ∧ next + 0x80 ≤ high := by
  rcases Nat.eq_zero_or_pos bits with rfl | hpos
  · exact ⟨0xa0, 0xbf, rfl, by have := hshort rfl; omega, by omega⟩
  · by_cases h13 : bits = 13
    · subst bits
      exact ⟨0x80, 0x9f, rfl, by omega, by have := hsurrogate rfl; omega⟩
    · refine ⟨0x80, 0xbf, ?_, by omega, by omega⟩
      rw [lead?, if_neg (by omega), if_neg (by omega), if_neg (by omega), if_neg (by omega),
        if_neg (by omega), if_pos (by omega), Nat.add_sub_cancel]

/-- The first of four octets leaves room for all characters but those with a shorter form and
those beyond the last one. -/
theorem lead?_four (bits next : Nat) (hbits : bits ≤ 4) (hnext : next < 64)
    (hshort : bits = 0 → 16 ≤ next) (hlast : bits = 4 → next < 16) :
    ∃ low high, lead? (bits + 0xf0) = some ⟨bits, 3, low, high⟩ ∧
      low ≤ next + 0x80 ∧ next + 0x80 ≤ high := by
  rcases Nat.eq_zero_or_pos bits with rfl | hpos
  · exact ⟨0x90, 0xbf, rfl, by have := hshort rfl; omega, by omega⟩
  · by_cases h4 : bits = 4
    · subst bits
      exact ⟨0x80, 0x8f, rfl, by omega, by have := hlast rfl; omega⟩
    · refine ⟨0x80, 0xbf, ?_, by omega, by omega⟩
      rw [lead?, if_neg (by omega), if_neg (by omega), if_neg (by omega), if_neg (by omega),
        if_neg (by omega), if_neg (by omega), if_neg (by omega), if_pos (by omega),
        Nat.add_sub_cancel]

theorem pieces_cons (octet : UInt8) (rest : List UInt8) :
    pieces (octet :: rest) = (readPiece octet rest).1 :: pieces (readPiece octet rest).2 := by
  rw [pieces]

/-- The octets of a character are read as that character. -/
theorem pieces_utf8EncodeChar_append (c : Char) (rest : List UInt8) :
    pieces (String.utf8EncodeChar c ++ rest) = .char c :: pieces rest := by
  obtain ⟨v, hv⟩ : ∃ v, v = c.val.toNat := ⟨_, rfl⟩
  have hvalid : v < 0xd800 ∨ 0xdfff < v ∧ v < 0x110000 := hv ▸ c.valid
  have hchar : Char.ofNat v = c := by
    rw [hv]
    exact Char.ofNat_toNat c
  unfold String.utf8EncodeChar
  simp only [← hv]
  by_cases h1 : v ≤ 0x7f
  · rw [if_pos h1, List.singleton_append, pieces_cons,
      readPiece_of_lead? (by omega) (lead?_one (by omega)), readOwed_zero, hchar]
  rw [if_neg h1]
  by_cases h2 : v ≤ 0x7ff
  · have hvalue : v / 64 % 32 * 64 + v % 64 = v := by omega
    rw [if_pos h2, List.cons_append, List.singleton_append, pieces_cons,
      readPiece_of_lead? (by omega) (lead?_two (by omega) (by omega)),
      readOwed_succ (by omega) (by omega) (by omega), readOwed_zero, hvalue, hchar]
  rw [if_neg h2]
  by_cases h3 : v ≤ 0xffff
  · have hvalue : (v / 4096 % 16 * 64 + v / 64 % 64) * 64 + v % 64 = v := by omega
    obtain ⟨low, high, hlead, hlow, hhigh⟩ := lead?_three (v / 4096 % 16)
      (v / 64 % 64) (by omega) (by omega) (by omega) (by omega)
    rw [if_pos h3, List.cons_append, List.cons_append, List.singleton_append, pieces_cons,
      readPiece_of_lead? (by omega) hlead, readOwed_succ (by omega) hlow hhigh,
      readOwed_succ (by omega) (by omega) (by omega), readOwed_zero, hvalue, hchar]
  · have hvalue :
        ((v / 262144 % 8 * 64 + v / 4096 % 64) * 64 + v / 64 % 64) * 64 + v % 64 = v := by omega
    obtain ⟨low, high, hlead, hlow, hhigh⟩ := lead?_four (v / 262144 % 8)
      (v / 4096 % 64) (by omega) (by omega) (by omega) (by omega)
    rw [if_neg h3, List.cons_append, List.cons_append, List.cons_append, List.singleton_append,
      pieces_cons, readPiece_of_lead? (by omega) hlead, readOwed_succ (by omega) hlow hhigh,
      readOwed_succ (by omega) (by omega) (by omega),
      readOwed_succ (by omega) (by omega) (by omega), readOwed_zero, hvalue, hchar]

/-! ## Texts -/

theorem encode_cons (c : Char) (rest : List Char) :
    encode (c :: rest) = String.utf8EncodeChar c ++ encode rest :=
  List.flatMap_cons

theorem pieces_encode (text : List Char) : pieces (encode text) = text.map .char := by
  induction text with
  | nil => rw [encode, List.flatMap_nil, pieces, List.map_nil]
  | cons c rest ih => rw [encode_cons, pieces_utf8EncodeChar_append, ih, List.map_cons]

theorem ofPieces_map_char (offset : Nat) (text : List Char) :
    ofPieces offset (text.map .char) = .ok text := by
  induction text generalizing offset with
  | nil => rfl
  | cons c rest ih =>
      rw [List.map_cons, ofPieces, ih]
      rfl

theorem decode_encode (text : List Char) : decode (encode text) = .ok text := by
  rw [decode, pieces_encode, ofPieces_map_char]

theorem decodeLossy_encode (text : List Char) : decodeLossy (encode text) = text := by
  rw [decodeLossy, pieces_encode, List.map_map]
  exact List.map_id text

/-! ## Marks of the byte order -/

theorem head?_pieces_encode (text : List Char) :
    (pieces (encode text)).head? = text.head?.map .char := by
  rw [pieces_encode, List.head?_map]

theorem ofMark?_encode {text : List Char} (htext : text.head? ≠ some '\ufeff') :
    Charset.ofMark? (encode text) = none := by
  have hpieces := head?_pieces_encode text
  unfold Charset.ofMark?
  split
  · rename_i rest hmark
    have hread := pieces_utf8EncodeChar_append '\ufeff' rest
    rw [hmark] at hpieces
    change pieces (0xef :: 0xbb :: 0xbf :: rest) = _ at hread
    rw [hread, List.head?_cons, eq_comm, Option.map_eq_some_iff] at hpieces
    obtain ⟨c, hhead, hc⟩ := hpieces
    exact absurd (Piece.char.inj hc ▸ hhead) htext
  · rename_i hmark
    rw [hmark, pieces_cons, List.head?_cons, eq_comm, Option.map_eq_some_iff] at hpieces
    obtain ⟨c, -, hc⟩ := hpieces
    contradiction
  · rename_i hmark
    rw [hmark, pieces_cons, List.head?_cons, eq_comm, Option.map_eq_some_iff] at hpieces
    obtain ⟨c, -, hc⟩ := hpieces
    contradiction
  · rfl

/-- A text without a mark in front is what the encoding without a name makes of its octets. -/
theorem decode_utf8_encode {text : List Char} (htext : text.head? ≠ some '\ufeff') :
    Charset.utf8.decode (encode text) = text := by
  rw [Charset.decode, ofMark?_encode htext]
  exact decodeLossy_encode text

end JsonExtract.Text.Utf8
