/-
  MapTheme.Text.Blank — blank characters and trimming.

  A character is blank when it has Unicode's White_Space property. Trimming works on
  lists of characters; the `String` forms wrap it.
-/

namespace MapTheme.Text

/-- Unicode's White_Space property. -/
def isBlank (c : Char) : Bool :=
  let n := c.toNat
  (0x9 ≤ n && n ≤ 0xD) || n == 0x20 || n == 0x85 || n == 0xA0 || n == 0x1680
    || (0x2000 ≤ n && n ≤ 0x200A) || n == 0x2028 || n == 0x2029 || n == 0x202F || n == 0x205F || n == 0x3000

def dropBlanks (s : List Char) : List Char := s.dropWhile isBlank

def dropBlanksRight (s : List Char) : List Char := (s.reverse.dropWhile isBlank).reverse

/-- Without the blanks at both ends. -/
def trimmed (s : List Char) : List Char := dropBlanksRight (dropBlanks s)

def trim (s : String) : String := String.ofList (trimmed s.toList)

def allBlank (s : String) : Bool := s.toList.all isBlank

end MapTheme.Text
