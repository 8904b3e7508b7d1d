/-
  MapTheme.Decimal.Reading — numbers in texts.

  A number is an optional sign, then digits with an optional point (at least one digit) and an
  optional exponent, or one of the words `inf`, `infinity`, `nan` in any case. `leadingNumber?` also
  takes a number followed by a unit, as in `50 mph`.
-/

import MapTheme.Decimal.Binary64
import MapTheme.Text.Blank

namespace MapTheme.Binary64

/-- The longest run of digits at the start, and the rest. -/
def digitRun (s : List Char) : List Char × List Char := s.span Char.isDigit

def natOfDigits (ds : List Char) : Nat := ds.foldl (fun n c => n * 10 + (c.toNat - '0'.toNat)) 0

/-- A sign at the start: is it a minus, and the rest. -/
def takeSign : List Char → Bool × List Char
  | '-' :: r => (true, r)
  | '+' :: r => (false, r)
  | r => (false, r)

/-- An exponent that ends the text; the empty text is the exponent 0. Exponents of any size are read. A reader that
adds no digits once the exponent is past all numbers differs from this only where that many digits stand before it. -/
def exponent? : List Char → Option Int
  | [] => some 0
  | c :: r =>
    if c = 'e' || c = 'E' then
      let (negative, ds) := takeSign r
      if ds.isEmpty || !ds.all Char.isDigit then none
      else some (if negative then -(natOfDigits ds : Int) else natOfDigits ds)
    else none

def fraction : List Char → List Char × List Char
  | '.' :: r => digitRun r
  | r => ([], r)

def unsigned? (negative : Bool) (s : List Char) : Option Binary64 :=
  let (whole, r) := digitRun s
  let (part, r) := fraction r
  if whole.isEmpty && part.isEmpty then none
  else (exponent? r).map fun e => ofScientific negative (natOfDigits (whole ++ part)) (e - part.length)

def word? (negative : Bool) (s : List Char) : Option Binary64 :=
  match String.ofList (s.map Char.toLower) with
  | "inf" | "infinity" => some (infinite negative)
  | "nan" => some nan
  | _ => none

def readChars? (s : List Char) : Option Binary64 :=
  let (negative, r) := takeSign s
  (unsigned? negative r).or (word? negative r)

/-- The number a whole text spells. -/
def read? (s : String) : Option Binary64 := readChars? s.toList

def inNumber (c : Char) : Bool := c.isDigit || c = '.' || c = '-'

/-- The number a text spells or starts with; blanks at its ends do not count. -/
def leadingNumber? (s : String) : Option Binary64 :=
  let t := Text.trimmed s.toList
  (readChars? t).or (readChars? (t.takeWhile inNumber))

end MapTheme.Binary64
