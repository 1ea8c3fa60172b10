import JsonExtract.Text.Visible

/-!
# Quoted text

A quoted text stands between double quotes on one line.  Quotes, backslashes, tabs, line
ends and the null character have escapes of their own, and every other character that does
not show is written with its code point in hexadecimal.
-/

namespace JsonExtract.Text.Quoted

def encodeChar (c : Char) : List Char :=
  if c = '\x00' then ['\\', '0']
  else if c = '\t' then ['\\', 't']
  else if c = '\r' then ['\\', 'r']
  else if c = '\n' then ['\\', 'n']
  else if c = '"' then ['\\', '"']
  else if c = '\\' then ['\\', '\\']
  else if isVisible c then [c]
  else '\\' :: 'u' :: '\x7b' :: (Nat.toDigits 16 c.toNat ++ ['\x7d'])

def encode (text : List Char) : List Char :=
  text.flatMap encodeChar

def quote (text : String) : String :=
  String.ofList ('"' :: (encode text.toList ++ ['"']))

end JsonExtract.Text.Quoted
