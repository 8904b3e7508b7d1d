/-
  MapTheme.Unicode.Bytes — characters as bytes.

  A character takes one to four bytes: a lead byte that tells how many follow, and then six bits of
  the code point in each. `sequences` describes the encodings of a whole set: each sequence of byte
  ranges stands for all ways to take a byte from every range.
-/

import MapTheme.Unicode.CharSet

namespace MapTheme.Unicode

/-- Both ends included. -/
abbrev ByteRange := Nat × Nat

/-- Characters with equally long encodings: the first, the last, and how many bytes follow the lead
byte. Surrogates are left out. -/
def lengthBlocks : List (Nat × Nat × Nat) :=
  [(0, 0x7F, 0), (0x80, 0x7FF, 1), (0x800, 0xD7FF, 2), (0xE000, 0xFFFF, 2), (0x10000, CharSet.top, 3)]

def leadMark : (following : Nat) → Nat
  | 0 => 0
  | 1 => 0xC0
  | 2 => 0xE0
  | _ => 0xF0

/-- The last bytes of an encoding. -/
def followingBytes : (following : Nat) → (code : Nat) → List Nat
  | 0, _ => []
  | k + 1, code => (0x80 + code / Nat.pow 64 k % 64) :: followingBytes k code

def encode (following code : Nat) : List Nat :=
  (leadMark following + code / Nat.pow 64 following) :: followingBytes following code

/-- How many bytes a character takes. -/
def byteLength (c : Char) : Nat :=
  if c.toNat ≤ 0x7F then 1 else if c.toNat ≤ 0x7FF then 2 else if c.toNat ≤ 0xFFFF then 3 else 4

/-- The bytes of a character. -/
def bytesOf (c : Char) : List Nat := encode (byteLength c - 1) c.toNat

/-- A range cut into ranges that are products of byte ranges: parts at its ends that do not fill a
block of `64 ^ level` code points are cut further. -/
def cutAligned : (level first last : Nat) → List (Nat × Nat)
  | 0, a, b => [(a, b)]
  | level + 1, a, b =>
    let unit := Nat.pow 64 (level + 1)
    if a / unit = b / unit then cutAligned level a b
    else
      let whole := if a % unit = 0 then a else (a / unit + 1) * unit
      let rest := if b % unit = unit - 1 then b + 1 else b / unit * unit
      (if a < whole then cutAligned level a (whole - 1) else [])
        ++ (if whole < rest then [(whole, rest - 1)] else [])
        ++ (if rest ≤ b then cutAligned level rest b else [])

/-- The encodings of the characters from `first` to `last`. -/
def rangeSequences (first last : Nat) : List (List ByteRange) :=
  lengthBlocks.flatMap fun (low, high, following) =>
    let a := max first low
    let b := min last high
    if a ≤ b then (cutAligned following a b).map fun (x, y) => (encode following x).zip (encode following y)
    else []

/-- The encodings of the characters of a set, in the order of the set. -/
def sequences (s : CharSet) : List (List ByteRange) := s.flatMap fun (a, b) => rangeSequences a b

end MapTheme.Unicode
