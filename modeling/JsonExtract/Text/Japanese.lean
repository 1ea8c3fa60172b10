import JsonExtract.Text.Grid.Jis212
import JsonExtract.Text.Paired

/-!
# Japanese texts

Two more ways to write the characters of the Japanese standards.  EUC has a prefix for the
characters of half width and one for the supplement.  ISO 2022 stays below 128 and tells by
escape sequences which characters the octets stand for.
-/

namespace JsonExtract.Text

namespace ExtendedUnix

def isHalf (octet : UInt8) : Bool :=
  0xa1 ≤ octet && octet ≤ 0xfe

def pair? (grid : Grid) (first second : UInt8) : Option Char :=
  if isHalf first && isHalf second then
    grid.charAt? (94 * (first.toNat - 0xa1) + (second.toNat - 0xa1))
  else none

/-- The character of two octets that are not the start of three. -/
def short? (first second : UInt8) : Option Char :=
  if first = 0x8e ∧ 0xa1 ≤ second ∧ second ≤ 0xdf then
    some (halfWidth (second.toNat - 0xa1))
  else pair? Grid.jis208 first second

def read : List UInt8 → List Char
  | [] => []
  | first :: rest =>
    if first < 0x80 then Char.ofNat first.toNat :: read rest
    else if isHalf first || first = 0x8e || first = 0x8f then
      match rest with
      | [] => ['\ufffd']
      | second :: behind =>
        if first = 0x8f && isHalf second then
          match behind with
          | [] => ['\ufffd']
          | third :: last =>
            match pair? Grid.jis212 second third with
            | some c => c :: read last
            | none =>
              if third < 128 then '\ufffd' :: read (third :: last) else '\ufffd' :: read last
        else
          match short? first second with
          | some c => c :: read behind
          | none =>
            if second < 128 then '\ufffd' :: read (second :: behind)
            else '\ufffd' :: read behind
    else '\ufffd' :: read rest

end ExtendedUnix

namespace Escaped

inductive Meaning where
  | plain
  /-- The plain characters, but for two that Japanese keyboards have. -/
  | roman
  /-- Katakana of half width. -/
  | katakana
  /-- Pairs of octets. -/
  | kanji
deriving DecidableEq, Repr

def Meaning.ofEscape? : UInt8 → UInt8 → Option Meaning
  | 0x28, 0x42 => some .plain
  | 0x28, 0x4a => some .roman
  | 0x28, 0x49 => some .katakana
  | 0x24, 0x40 => some .kanji
  | 0x24, 0x42 => some .kanji
  | _, _ => none

def Meaning.alone? (meaning : Meaning) (octet : UInt8) : Option Char :=
  match meaning with
  | .plain => unshifted?
  | .roman => if octet = 0x5c then some '¥' else if octet = 0x7e then some '\u203e' else unshifted?
  | .katakana =>
    if 0x21 ≤ octet ∧ octet ≤ 0x5f then some (halfWidth (octet.toNat - 0x21)) else none
  | .kanji => none
where
  unshifted? : Option Char := if octet = 0x0e ∨ octet = 0x0f then none else plain? octet

def isHalf (octet : UInt8) : Bool :=
  0x21 ≤ octet && octet ≤ 0x7e

def pair? (first second : UInt8) : Option Char :=
  if isHalf second then
    Grid.jis208.charAt? (94 * (first.toNat - 0x21) + (second.toNat - 0x21))
  else none

/-- The text of octets.  An escape sequence right behind another one leaves a mark, so that
nothing can hide between them. -/
def read (meaning : Meaning) (afterEscape : Bool) : List UInt8 → List Char
  | [] => []
  | 0x1b :: second :: third :: rest =>
    match Meaning.ofEscape? second third with
    | some next =>
      if afterEscape then '\ufffd' :: read next true rest else read next true rest
    | none => '\ufffd' :: read meaning false (second :: third :: rest)
  | 0x1b :: rest => '\ufffd' :: read meaning false rest
  | first :: rest =>
    if meaning = .kanji && isHalf first then
      match rest with
      | [] => ['\ufffd']
      | second :: behind =>
        if second = 0x1b then '\ufffd' :: read meaning false (second :: behind)
        else (pair? first second).getD '\ufffd' :: read meaning false behind
    else (meaning.alone? first).getD '\ufffd' :: read meaning false rest

end Escaped

end JsonExtract.Text
