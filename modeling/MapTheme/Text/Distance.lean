/-
  MapTheme.Text.Distance — edit distance of two texts.

  The distance is computed row by row: a row holds, for one prefix of the first text, its
  distance to every prefix of the second, and `nextRow` extends the first prefix by one character.
-/

namespace MapTheme.Text

/-- The rest of a row: `left` is the entry just written, `above` the entries of the previous row. -/
def rowFrom (c : Char) : (b : List Char) → (above : List Nat) → (left : Nat) → List Nat
  | b :: bs, corner :: up :: above, left =>
    let here := min (min (corner + if c = b then 0 else 1) (up + 1)) (left + 1)
    here :: rowFrom c bs (up :: above) here
  | _, _, _ => []

def nextRow (b : List Char) (row : List Nat) (c : Char) : List Nat :=
  let first := row.headD 0 + 1
  first :: rowFrom c b row first

/-- The least number of insertions, deletions and replacements of characters that turn `a` into `b`. -/
def distanceOf (a b : List Char) : Nat :=
  (a.foldl (nextRow b) (List.range (b.length + 1))).getLastD 0

def distance (a b : String) : Nat := distanceOf a.toList b.toList

end MapTheme.Text
