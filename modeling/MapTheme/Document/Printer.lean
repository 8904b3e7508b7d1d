/-
  MapTheme.Document.Printer — the text of a document.

  `compact` writes no blanks at all. `pretty` writes one field or item a line, indented by two
  blanks a level, and empty lists and objects as `[]` and a closed pair of braces.
  A quote, a backslash and the characters below U+0020 are escaped; all others stand for themselves.
-/

import MapTheme.Decimal.Spelling
import MapTheme.Document.Basic

namespace MapTheme

namespace Number

def write : Number → String
  | whole n => toString n
  | float x => Spelling.inDocument.write x

end Number

namespace Document

def hexDigit (n : Nat) : Char := Nat.digitChar (n % 16)

/-- One character inside quotes. -/
def escapeChar (c : Char) : List Char :=
  if c = '"' then ['\\', '"']
  else if c = '\\' then ['\\', '\\']
  else if c = '\n' then ['\\', 'n']
  else if c = '\r' then ['\\', 'r']
  else if c = '\t' then ['\\', 't']
  else if c.toNat = 0x8 then ['\\', 'b']
  else if c.toNat = 0xC then ['\\', 'f']
  else if c.toNat < 0x20 then ['\\', 'u', '0', '0', hexDigit (c.toNat / 16), hexDigit c.toNat]
  else [c]

def quoted (s : String) : String := String.ofList ('"' :: (s.toList.flatMap escapeChar ++ ['"']))

def openBrace : String := "\x7b"
def closeBrace : String := "\x7d"

mutual

def compact : Document → String
  | null => "null"
  | bool b => if b then "true" else "false"
  | number n => n.write
  | text s => quoted s
  | list items => "[" ++ compactItems items ++ "]"
  | object fields => openBrace ++ compactFields fields ++ closeBrace

def compactItems : List Document → String
  | [] => ""
  | [d] => compact d
  | d :: rest => compact d ++ "," ++ compactItems rest

def compactFields : List (String × Document) → String
  | [] => ""
  | [(k, d)] => quoted k ++ ":" ++ compact d
  | (k, d) :: rest => quoted k ++ ":" ++ compact d ++ "," ++ compactFields rest

end

/-- A new line at a level. -/
def lineAt (level : Nat) : String := String.ofList ('\n' :: List.replicate (2 * level) ' ')

mutual

def prettyAt (level : Nat) : Document → String
  | null => "null"
  | bool b => if b then "true" else "false"
  | number n => n.write
  | text s => quoted s
  | list [] => "[]"
  | list (d :: rest) => "[" ++ prettyItems (level + 1) (d :: rest) ++ lineAt level ++ "]"
  | object [] => openBrace ++ closeBrace
  | object (f :: rest) => openBrace ++ prettyFields (level + 1) (f :: rest) ++ lineAt level ++ closeBrace

def prettyItems (level : Nat) : List Document → String
  | [] => ""
  | [d] => lineAt level ++ prettyAt level d
  | d :: rest => lineAt level ++ prettyAt level d ++ "," ++ prettyItems level rest

def prettyFields (level : Nat) : List (String × Document) → String
  | [] => ""
  | [(k, d)] => lineAt level ++ quoted k ++ ": " ++ prettyAt level d
  | (k, d) :: rest => lineAt level ++ quoted k ++ ": " ++ prettyAt level d ++ "," ++ prettyFields level rest

end

def pretty (d : Document) : String := prettyAt 0 d

end Document

end MapTheme
