import JsonExtract.Text.Grid.Big5
import JsonExtract.Text.Grid.Jis208
import JsonExtract.Text.Grid.Korean

/-!
# Characters of one or two octets

Many encodings of East Asia write the plain characters with one octet and the others with two,
of which the first is above 128.  A pair without a character leaves the replacement mark, but a
plain octet in it is read once more: it may be the quotation mark that ends a string.
-/

namespace JsonExtract.Text

structure Paired where
  /-- The character that an octet stands for alone. -/
  alone? : UInt8 → Option Char
  /-- Whether an octet is the first of two. -/
  leads : UInt8 → Bool
  /-- The characters that two octets stand for, by their values. -/
  pair? : Nat → Nat → Option (List Char)

def plain? (octet : UInt8) : Option Char :=
  if octet < 128 then some (Char.ofNat octet.toNat) else none

/-- The character of half width that stands so far behind the first one. -/
def halfWidth (distance : Nat) : Char :=
  Char.ofNat (0xff61 + distance)

namespace Paired

def read (encoding : Paired) : List UInt8 → List Char
  | [] => []
  | first :: rest =>
    match encoding.alone? first with
    | some c => c :: encoding.read rest
    | none =>
      if encoding.leads first then
        match rest with
        | [] => ['\ufffd']
        | second :: behind =>
          match encoding.pair? first.toNat second.toNat with
          | some characters => characters ++ encoding.read behind
          | none =>
            if second < 128 then '\ufffd' :: encoding.read (second :: behind)
            else '\ufffd' :: encoding.read behind
      else '\ufffd' :: encoding.read rest

/-- Four places of Big5 stand for a letter with a mark behind it. -/
def markedLetter? : Nat → Option (List Char)
  | 1133 => some ['Ê', '\u0304']
  | 1135 => some ['Ê', '\u030c']
  | 1164 => some ['ê', '\u0304']
  | 1166 => some ['ê', '\u030c']
  | _ => none

def big5 : Paired where
  alone? := plain?
  leads octet := 0x81 ≤ octet && octet ≤ 0xfe
  pair? first second :=
    let found (offset : Nat) : Option (List Char) :=
      let place := 157 * (first - 0x81) + (second - offset)
      markedLetter? place <|> (Grid.big5.charAt? place).map ([·])
    if 0x40 ≤ second ∧ second ≤ 0x7e then found 0x40
    else if 0xa1 ≤ second ∧ second ≤ 0xfe then found 0x62
    else none

def korean : Paired where
  alone? := plain?
  leads octet := 0x81 ≤ octet && octet ≤ 0xfe
  pair? first second :=
    if 0x41 ≤ second ∧ second ≤ 0xfe then
      (Grid.korean.charAt? (190 * (first - 0x81) + (second - 0x41))).map ([·])
    else none

/-- A place of JIS X 0208 as Shift JIS counts them, 1880 of which belong to private users. -/
def shiftJisChar? (place : Nat) : Option Char :=
  if 8836 ≤ place ∧ place ≤ 10715 then some (Char.ofNat (0xe000 + (place - 8836)))
  else Grid.jis208.charAt? place

def shiftJis : Paired where
  alone? octet :=
    if octet ≤ 0x80 then some (Char.ofNat octet.toNat)
    else if 0xa1 ≤ octet ∧ octet ≤ 0xdf then some (halfWidth (octet.toNat - 0xa1))
    else none
  leads octet := 0x81 ≤ octet && octet ≤ 0x9f || 0xe0 ≤ octet && octet ≤ 0xfc
  pair? first second :=
    let row := 188 * (first - if first < 0xa0 then 0x81 else 0xc1)
    if 0x40 ≤ second ∧ second ≤ 0x7e then (shiftJisChar? (row + (second - 0x40))).map ([·])
    else if 0x80 ≤ second ∧ second ≤ 0xfc then
      (shiftJisChar? (row + (second - 0x41))).map ([·])
    else none

end Paired

end JsonExtract.Text
