/-
  MapTheme.Decimal.Spelling — how numbers are written.

  A `Spelling` holds the decisions of one number format. `inText` is used inside tag expressions and
  plain values: positional always, no fraction for whole numbers. `inDocument` is used in documents:
  positional while the first digit's power of ten is at least -5 and below 16, a fraction always.
-/

import MapTheme.Decimal.Shortest

namespace MapTheme

structure Spelling where
  tie : Digits.Tie
  /-- The powers of ten of the first digit that are written positionally. -/
  positional : Int → Bool
  /-- Is `.0` written after whole numbers? -/
  wholeFraction : Bool

namespace Spelling

def inText : Spelling := ⟨.up, fun _ => true, false⟩

def inDocument : Spelling := ⟨.even, fun e => -5 ≤ e && e < 16, true⟩

def digitText (ds : List Nat) : String := String.ofList (ds.map Nat.digitChar)

def zeros (n : Nat) : String := String.ofList (List.replicate n '0')

/-- Digits with the point after the first digit's power of ten has run out. -/
def positionalText (f : Spelling) (d : Digits) : String :=
  if d.exponent < 0 then
    "0." ++ zeros (d.exponent.natAbs - 1) ++ digitText d.digits
  else
    let whole := d.exponent.natAbs + 1
    let after := d.digits.drop whole
    let before := digitText (d.digits.take whole) ++ zeros (whole - d.digits.length)
    if after.isEmpty then before ++ (if f.wholeFraction then ".0" else "")
    else before ++ "." ++ digitText after

def scientificText (d : Digits) : String :=
  let after := d.digits.drop 1
  let fraction := if after.isEmpty then "" else "." ++ digitText after
  let sign := if d.exponent < 0 then "-" else "+"
  digitText (d.digits.take 1) ++ fraction ++ "e" ++ sign ++ toString d.exponent.natAbs

def write (f : Spelling) : Binary64 → String
  | .nan => "NaN"
  | .infinite negative => if negative then "-inf" else "inf"
  | .finite negative m =>
    let d := Digits.shortest f.tie m
    let sign := if negative then "-" else ""
    sign ++ if f.positional d.exponent then f.positionalText d else scientificText d

end Spelling

namespace Binary64

def toText : Binary64 → String := Spelling.inText.write

end Binary64

end MapTheme
