/-
  MapTheme.Pattern.Matching — which texts a regular expression matches.

  `ends t n from` is the list of places of the text `t` (counted in characters) at which a stretch
  matched by `n` can end when it starts at one of the places `from`. Lists of places are sorted and
  have no duplicates. A text has finitely many places, so repetition is a bounded iteration.
-/

import MapTheme.Pattern.Syntax

namespace MapTheme.Pattern

abbrev Places := List Nat

/-- Two sorted lists as one. -/
def mergePlaces : Places → Places → Places
  | [], ys => ys
  | xs, [] => xs
  | x :: xs, y :: ys =>
    if x < y then x :: mergePlaces xs (y :: ys)
    else if y < x then y :: mergePlaces (x :: xs) ys
    else x :: mergePlaces xs ys
termination_by xs ys => xs.length + ys.length

/-- The sorted places of `xs` that are not in `ys`. -/
def newPlaces (xs ys : Places) : Places := xs.filter fun x => !ys.contains x

def isWordAt (unicode : Bool) (c : Option Char) : Bool :=
  match c with
  | some c => (wordSet unicode).has c
  | none => false

namespace Assertion

/-- Does the assertion hold between the characters `before` and `after`? -/
def holds (a : Assertion) (before after : Option Char) : Bool :=
  match a with
  | textStart => before.isNone
  | textEnd => after.isNone
  | lineStart => before.isNone || before == some '\n'
  | lineEnd => after.isNone || after == some '\n'
  | anyLineStart => before.isNone || before == some '\n' || (before == some '\r' && after != some '\n')
  | anyLineEnd => after.isNone || after == some '\r' || (after == some '\n' && before != some '\r')
  | wordBoundary u => isWordAt u before != isWordAt u after
  | notWordBoundary u => isWordAt u before == isWordAt u after
  | wordStart u => !isWordAt u before && isWordAt u after
  | wordEnd u => isWordAt u before && !isWordAt u after
  | wordStartHalf u => !isWordAt u before
  | wordEndHalf u => !isWordAt u after

end Assertion

def charBefore (t : Array Char) (p : Nat) : Option Char := if p = 0 then none else t[p - 1]?

/-- Takes `count` rounds of `step`, cut short when nothing is left. -/
def repeatStep (step : Places → Places) : (count : Nat) → Places → Places
  | 0, ps => ps
  | count + 1, ps => if ps.isEmpty then ps else repeatStep step count (step ps)

/-- All places reached by up to `count` rounds of `step`; `fresh` are those not yet stepped from. -/
def reach (step : Places → Places) : (count : Nat) → (seen fresh : Places) → Places
  | 0, seen, _ => seen
  | count + 1, seen, fresh =>
    if fresh.isEmpty then seen
    else
      let next := newPlaces (step fresh) seen
      reach step count (mergePlaces seen next) next

/-- Rounds that make a difference on a text: each either moves on or stays for good. -/
def rounds (t : Array Char) (count : Nat) : Nat := min count (t.size + 1)

def ends (t : Array Char) : Node → Places → Places
  | .empty, ps => ps
  | .chars set, ps =>
    ps.filterMap fun p =>
      match t[p]? with
      | some c => if set.has c then some (p + 1) else none
      | none => none
  | .assertion a, ps => ps.filter fun p => a.holds (charBefore t p) t[p]?
  | .seq m n, ps => ends t n (ends t m ps)
  | .alt m n, ps => mergePlaces (ends t m ps) (ends t n ps)
  | .rep n least most, ps =>
    let start := repeatStep (ends t n) (rounds t least) ps
    let more := match most with
      | some k => rounds t (k - least)
      | none => t.size + 1
    reach (ends t n) more start start
  | .group _ n, ps => ends t n ps

/-- Is there a matching stretch anywhere in the text? -/
def Node.foundIn (n : Node) (text : String) : Bool :=
  let t := text.toList.toArray
  !(ends t n (List.range (t.size + 1))).isEmpty

end MapTheme.Pattern
