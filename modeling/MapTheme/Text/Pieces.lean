/-
  MapTheme.Text.Pieces — cutting texts: at a separator, at the ends, at a first occurrence.

  Every function here works on lists of characters, by recursion on the list.
-/

namespace MapTheme.Text

/-- The pieces between separators; always at least one piece. -/
def splitAt (sep : Char) : List Char → List (List Char)
  | [] => [[]]
  | c :: r =>
    if c = sep then [] :: splitAt sep r
    else match splitAt sep r with
      | [] => [[c]]
      | p :: ps => (c :: p) :: ps

def split (sep : Char) (s : String) : List String := (splitAt sep s.toList).map String.ofList

/-- What follows `start`, if the text begins with it. -/
def after? : (start s : List Char) → Option (List Char)
  | [], s => some s
  | _ :: _, [] => none
  | a :: as, c :: cs => if a = c then after? as cs else none

def startsWith (start s : String) : Bool := (after? start.toList s.toList).isSome

def withoutStart? (start s : String) : Option String := (after? start.toList s.toList).map String.ofList

/-- What stands before `ending`, if the text ends with it. -/
def withoutEnd? (ending s : String) : Option String :=
  (after? ending.toList.reverse s.toList.reverse).map fun r => String.ofList r.reverse

def endsWith (ending s : String) : Bool := (withoutEnd? ending s).isSome

/-- The texts before and after the first `sep`. -/
def cutAt? (sep : Char) : List Char → Option (List Char × List Char)
  | [] => none
  | c :: r => if c = sep then some ([], r) else (cutAt? sep r).map fun (a, b) => (c :: a, b)

/-- Is `part` somewhere in the text? -/
def contains (part : List Char) : List Char → Bool
  | [] => part.isEmpty
  | c :: r => (after? part (c :: r)).isSome || contains part r

/-- Every occurrence of `old` replaced, from left to right; `skip` characters of an occurrence are
still to be passed over. -/
def replaceFrom (old new : List Char) : (skip : Nat) → List Char → List Char
  | _, [] => []
  | skip + 1, _ :: r => replaceFrom old new skip r
  | 0, c :: r =>
    if (after? old (c :: r)).isSome then new ++ replaceFrom old new (old.length - 1) r
    else c :: replaceFrom old new 0 r

/-- Every occurrence of a text that is not empty. -/
def replace (old new s : String) : String := String.ofList (replaceFrom old.toList new.toList 0 s.toList)

def joinWith (sep : String) (pieces : List String) : String := sep.intercalate pieces

end MapTheme.Text
