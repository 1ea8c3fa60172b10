/-!
# Texts as octets

A character takes one to four octets in UTF-8.  Octets that are no text are read as far as
they go: the longest start of a character counts as one ill-formed piece, and so does an octet
that starts none.
-/

namespace JsonExtract.Text.Utf8

def encode (text : List Char) : List UInt8 :=
  text.flatMap String.utf8EncodeChar

/-- What a first octet says about its character. -/
structure Lead where
  /-- The high bits of the code point. -/
  value : Nat
  /-- How many octets follow. -/
  owed : Nat
  /-- The least octet that may come next. -/
  low : Nat
  /-- The greatest octet that may come next. -/
  high : Nat

def lead? (octet : Nat) : Option Lead :=
  if octet < 0x80 then some ⟨octet, 0, 0x80, 0xbf⟩
  else if octet < 0xc2 then none
  else if octet < 0xe0 then some ⟨octet - 0xc0, 1, 0x80, 0xbf⟩
  else if octet = 0xe0 then some ⟨0, 2, 0xa0, 0xbf⟩
  else if octet = 0xed then some ⟨0xd, 2, 0x80, 0x9f⟩
  else if octet < 0xf0 then some ⟨octet - 0xe0, 2, 0x80, 0xbf⟩
  else if octet = 0xf0 then some ⟨0, 3, 0x90, 0xbf⟩
  else if octet < 0xf4 then some ⟨octet - 0xf0, 3, 0x80, 0xbf⟩
  else if octet = 0xf4 then some ⟨4, 3, 0x80, 0x8f⟩
  else none

inductive Piece where
  | char (c : Char)
  /-- Octets that no further octet makes a character. -/
  | illFormed (length : Nat)
  /-- The start of a character, after which the octets end. -/
  | cutOff (length : Nat)
deriving DecidableEq, Repr

/-- Reads the octets that a character is still owed, with the octets after them. -/
def readOwed (value low high taken : Nat) : Nat → List UInt8 → Piece × List UInt8
  | 0, rest => (.char (Char.ofNat value), rest)
  | _ + 1, [] => (.cutOff taken, [])
  | owed + 1, octet :: rest =>
    if low ≤ octet.toNat && octet.toNat ≤ high then
      readOwed (value * 64 + octet.toNat % 64) 0x80 0xbf (taken + 1) owed rest
    else (.illFormed taken, octet :: rest)

theorem readOwed_length_le (value low high taken owed : Nat) (octets : List UInt8) :
    (readOwed value low high taken owed octets).2.length ≤ octets.length := by
  induction owed generalizing value low high taken octets with
  | zero => simp [readOwed]
  | succ owed ih =>
    cases octets with
    | nil => simp [readOwed]
    | cons octet rest =>
      simp only [readOwed]
      split
      · exact Nat.le_trans (ih _ _ _ _ _) (by simp)
      · simp

def readPiece (octet : UInt8) (rest : List UInt8) : Piece × List UInt8 :=
  match lead? octet.toNat with
  | some lead => readOwed lead.value lead.low lead.high 1 lead.owed rest
  | none => (.illFormed 1, rest)

theorem readPiece_length_le (octet : UInt8) (rest : List UInt8) :
    (readPiece octet rest).2.length ≤ rest.length := by
  unfold readPiece
  split
  · exact readOwed_length_le _ _ _ _ _ _
  · simp

def pieces : List UInt8 → List Piece
  | [] => []
  | octet :: rest => (readPiece octet rest).1 :: pieces (readPiece octet rest).2
termination_by octets => octets.length
decreasing_by exact Nat.lt_succ_of_le (readPiece_length_le octet rest)

/-- The text of the octets, each piece that is no character leaving a mark in its place. -/
def decodeLossy (octets : List UInt8) : List Char :=
  (pieces octets).map fun
    | .char c => c
    | .illFormed _ | .cutOff _ => '\ufffd'

/-- Why octets are no text, with the number of octets in front of the fault. -/
inductive Fault where
  | illFormed (length offset : Nat)
  | cutOff (offset : Nat)
deriving DecidableEq, Repr

def ofPieces (offset : Nat) : List Piece → Except Fault (List Char)
  | [] => .ok []
  | .char c :: rest => (ofPieces (offset + c.utf8Size) rest).map (c :: ·)
  | .illFormed length :: _ => .error (.illFormed length offset)
  | .cutOff _ :: _ => .error (.cutOff offset)

def decode (octets : List UInt8) : Except Fault (List Char) :=
  ofPieces 0 (pieces octets)

end JsonExtract.Text.Utf8
