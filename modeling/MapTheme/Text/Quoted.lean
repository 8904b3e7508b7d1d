/-
  MapTheme.Text.Quoted — texts in quotes, for messages.

  Quotes, backslashes and the usual controls have short escapes; characters that extend the one
  before them and characters that cannot be printed are written by their code point in hexadecimal.
-/

import MapTheme.Unicode.Property

namespace MapTheme.Text

def hexText (n : Nat) : List Char := Nat.toDigits 16 n

def quotedChar (c : Char) : List Char :=
  if c = '\x00' then ['\\', '0']
  else if c = '\t' then ['\\', 't']
  else if c = '\r' then ['\\', 'r']
  else if c = '\n' then ['\\', 'n']
  else if c = '"' then ['\\', '"']
  else if c = '\\' then ['\\', '\\']
  else if c.toNat < 0x7F && 0x20 ≤ c.toNat then [c]
  else if Unicode.extenders.has c || Unicode.unprintable.has c then
    ['\\', 'u', '\x7b'] ++ hexText c.toNat ++ ['\x7d']
  else [c]

def inQuotes (s : String) : String := String.ofList ('"' :: (s.toList.flatMap quotedChar ++ ['"']))

end MapTheme.Text
