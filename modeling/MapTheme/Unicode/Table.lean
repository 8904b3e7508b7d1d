/-
  MapTheme.Unicode.Table — tables of named character sets.

  A set is written as lines of counts in base 36, separated by blanks: so many characters outside
  the set, then so many inside, and so on from U+0000.
-/

import MapTheme.Unicode.CharSet

namespace MapTheme.Unicode

/-- Entries of blank-separated names and counts. -/
abbrev Table := List (String × List String)

namespace Table

def digitValue (c : Char) : Nat :=
  if c.isDigit then c.toNat - '0'.toNat else c.toNat - 'a'.toNat + 10

/-- The numbers of a text of counts; `n` is the one being read. -/
def counts (n : Nat) : List Char → List Nat
  | [] => [n]
  | c :: r => if c = ' ' then n :: counts 0 r else counts (n * 36 + digitValue c) r

/-- The ranges of counts that start at code point `start`; a last run without end goes to the top. -/
def ranges (start : Nat) : List Nat → CharSet
  | [] => []
  | [outside] => if start + outside ≤ CharSet.top then [(start + outside, CharSet.top)] else []
  | outside :: inside :: rest =>
    let a := start + outside
    let b := a + inside
    if inside = 0 then ranges b rest else (a, b - 1) :: ranges b rest

def decode (lines : List String) : CharSet := ranges 0 (lines.flatMap fun l => counts 0 l.toList)

/-- The names of an entry. -/
def names (entry : String × List String) : List (List Char) := go [] entry.1.toList
where
  go (found : List Char) : List Char → List (List Char)
    | [] => [found.reverse]
    | c :: r => if c = ' ' then found.reverse :: go [] r else go (c :: found) r

def entry? (t : Table) (name : List Char) : Option (String × List String) := t.find? fun e => (names e).contains name

def find? (t : Table) (name : List Char) : Option CharSet := (t.entry? name).map fun e => decode e.2

end Table

end MapTheme.Unicode
