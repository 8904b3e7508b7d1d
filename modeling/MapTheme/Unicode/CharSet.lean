/-
  MapTheme.Unicode.CharSet — sets of code points as lists of ranges.

  A set is normal when its ranges are sorted, disjoint and not adjacent. `normal` makes it so, and
  the operations answer normal sets when they are given normal ones.
-/

namespace MapTheme.Unicode

/-- Ranges of code points, both ends included. -/
abbrev CharSet := List (Nat × Nat)

namespace CharSet

/-- The largest code point. -/
def top : Nat := 0x10FFFF

def univ : CharSet := [(0, top)]

def single (c : Char) : CharSet := [(c.toNat, c.toNat)]

def has (s : CharSet) (c : Char) : Bool := s.any fun (a, b) => a ≤ c.toNat && c.toNat ≤ b

/-- Merges neighbours in a list sorted by first ends. -/
def mergeSorted : CharSet → CharSet
  | [] => []
  | r :: rest => go r rest
where
  go : Nat × Nat → CharSet → CharSet
    | r, [] => [r]
    | (a, b), (c, d) :: rest => if c ≤ b + 1 then go (a, max b d) rest else (a, b) :: go (c, d) rest

def normal (s : CharSet) : CharSet := mergeSorted (s.mergeSort fun x y => x.1 ≤ y.1)

def union (s t : CharSet) : CharSet := normal (s ++ t)

/-- The gaps of a normal set, from code point `start` on. -/
def gapsFrom (start : Nat) : CharSet → CharSet
  | [] => if start ≤ top then [(start, top)] else []
  | (a, b) :: rest => if start < a then (start, a - 1) :: gapsFrom (b + 1) rest else gapsFrom (b + 1) rest

def complement (s : CharSet) : CharSet := gapsFrom 0 s

def inter (s t : CharSet) : CharSet := complement (union (complement s) (complement t))

def diff (s t : CharSet) : CharSet := inter s (complement t)

/-- What is in exactly one of the sets. -/
def symmDiff (s t : CharSet) : CharSet := union (diff s t) (diff t s)

/-- Only characters below U+0080? -/
def isAscii (s : CharSet) : Bool := s.all fun r => r.2 < 0x80

end CharSet

end MapTheme.Unicode
