/-
  MapTheme.Unicode.Property — character properties by name.

  Names are compared loosely: case, blanks, `_`, `-` and an `is` in front do not count. A name alone
  is a yes-or-no property, a general category or a script, in this order; a name with a value is one
  of the properties with values. The tables are those of Unicode 16.0.
-/

import MapTheme.Unicode.Age
import MapTheme.Unicode.Binary
import MapTheme.Unicode.Category
import MapTheme.Unicode.Script
import MapTheme.Unicode.Segmentation

namespace MapTheme.Unicode

/-- A name as it stands in the tables. -/
def looseName (name : List Char) : List Char :=
  let kept := fun s : List Char =>
    (s.filter fun c => c.toNat < 0x80 && c != ' ' && c != '_' && c != '-').map Char.toLower
  match name.map Char.toLower with
  | 'i' :: 's' :: _ =>
    let rest := kept (name.drop 2)
    if rest == ['c'] then "isc".toList else rest
  | _ => kept name

/-- The union of all categories whose two-letter name starts with `c`. -/
def categoryGroup (c : Char) : CharSet :=
  let members := categories.filter fun e => e.1.toList.head? == some c
  CharSet.normal (members.flatMap fun e => Table.decode e.2)

def surrogates : CharSet := [(0xD800, 0xDFFF)]

/-- The characters with some category. -/
def assigned : CharSet := CharSet.normal (surrogates ++ categories.flatMap fun e => Table.decode e.2)

/-- The categories of one letter, with the letter that their members' names start with. -/
def groups : List (String × Char) :=
  [("l", 'l'), ("letter", 'l'), ("m", 'm'), ("mark", 'm'), ("combiningmark", 'm'), ("n", 'n'), ("number", 'n'),
   ("p", 'p'), ("punctuation", 'p'), ("punct", 'p'), ("s", 's'), ("symbol", 's'), ("z", 'z'), ("separator", 'z')]

/-- The characters of a category; none for surrogates, which are no characters. -/
def category? (name : List Char) : Option CharSet :=
  match String.ofList name with
  | "any" => some CharSet.univ
  | "assigned" => some assigned
  | "ascii" => some [(0, 0x7F)]
  | "cn" | "unassigned" => some assigned.complement
  | "c" | "other" => some (CharSet.normal (surrogates ++ assigned.complement ++ categoryGroup 'c'))
  | "lc" | "casedletter" =>
    some (CharSet.normal (["lu", "ll", "lt"].flatMap fun n => (categories.find? n.toList).getD []))
  | text =>
    match groups.lookup text with
    | some c => some (categoryGroup c)
    | none => categories.find? name

def script? (name : List Char) : Option CharSet := scripts.find? name

def scriptExtension? (name : List Char) : Option CharSet := (scriptExtensions.find? name).or (script? name)

/-- The characters of all versions up to the named one. -/
def age? (name : List Char) : Option CharSet :=
  match ages.findIdx? fun e => (Table.names e).contains name with
  | some i => some (CharSet.normal ((ages.take (i + 1)).flatMap fun e => Table.decode e.2))
  | none => none

/-- A name that stands alone. Three short names are never yes-or-no properties. -/
def named? (name : List Char) : Option CharSet :=
  let n := looseName name
  let binary := if ["cf", "sc", "lc"].contains (String.ofList n) then none else binaries.find? n
  (binary.or (category? n)).or (script? n)

/-- A property and one of its values. -/
def valued? (property value : List Char) : Option CharSet :=
  let v := looseName value
  match String.ofList (looseName property) with
  | "gc" | "generalcategory" => category? v
  | "sc" | "script" => script? v
  | "scx" | "scriptextensions" => scriptExtension? v
  | "age" => age? v
  | "gcb" | "graphemeclusterbreak" => clusterBreaks.find? v
  | "wb" | "wordbreak" => wordBreaks.find? v
  | "sb" | "sentencebreak" => sentenceBreaks.find? v
  | _ => none

def decimalDigits : CharSet := (categories.find? "nd".toList).getD []

def blanks : CharSet := (binaries.find? "whitespace".toList).getD []

/-- Letters, marks, decimal digits, connectors and joiners. -/
def wordChars : CharSet :=
  CharSet.normal
    (((binaries.find? "alphabetic".toList).getD []) ++ categoryGroup 'm' ++ decimalDigits
      ++ ((categories.find? "pc".toList).getD []) ++ ((binaries.find? "joincontrol".toList).getD []))

/-- Characters that extend the one before them. -/
def extenders : CharSet := (binaries.find? "graphemeextend".toList).getD []

/-- Controls, formats, private and unassigned characters, and separators other than the plain blank. -/
def unprintable : CharSet :=
  CharSet.diff (CharSet.normal (categoryGroup 'c' ++ categoryGroup 'z' ++ surrogates ++ assigned.complement))
    [(0x20, 0x20)]

/-- The characters that a name may start with. -/
def alphabetic : CharSet := (binaries.find? "alphabetic".toList).getD []

def numeric : CharSet := categoryGroup 'n'

end MapTheme.Unicode
