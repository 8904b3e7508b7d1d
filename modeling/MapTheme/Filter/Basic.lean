/-
  MapTheme.Filter.Basic — filters: boolean expressions over the properties of a feature.

  A leaf tests one key, or with a key pattern every entry; `and` and `or` combine filters. An empty
  value and a missing key are the same to every leaf that names its key.
  `holds` is the meaning of a filter.
-/

import MapTheme.Decimal.Reading
import MapTheme.Filter.Properties
import MapTheme.Pattern.Basic

namespace MapTheme

variable [Pattern.Engine]

/-- A literal text or a pattern. -/
inductive Matcher
  | exact (text : String)
  | pattern (p : Pattern)
  deriving DecidableEq, Repr

namespace Matcher

def accepts : Matcher → String → Bool
  | exact text, value => text == value
  | pattern p, value => p.accepts value

/-- The literal text, or the source of the pattern. -/
def source : Matcher → String
  | exact text => text
  | pattern p => p.source

def isExact : Matcher → Bool
  | exact _ => true
  | pattern _ => false

end Matcher

inductive Comparison
  | less
  | atMost
  | greater
  | atLeast
  deriving DecidableEq, Repr

namespace Comparison

def symbol : Comparison → String
  | less => "<"
  | atMost => "<="
  | greater => ">"
  | atLeast => ">="

def holds : Comparison → Binary64 → Binary64 → Bool
  | less, a, b => a.lt b
  | atMost, a, b => a.le b
  | greater, a, b => b.lt a
  | atLeast, a, b => b.le a

end Comparison

inductive Leaf
  /-- The key has exactly this value; an empty value stands for a missing key. -/
  | tag (key value : String)
  /-- The key has the value that the template gives for the same feature. -/
  | substituting (key template : String)
  /-- The value of the key is accepted, or with a key pattern some entry is; `invert` flips it. -/
  | regex (key value : Matcher) (invert : Bool)
  /-- The value of the key starts with a number that compares so with the bound. -/
  | comparing (key : String) (op : Comparison) (bound : Binary64)
  deriving DecidableEq, Repr

inductive Filter
  | leaf (l : Leaf)
  | and (children : List Filter)
  | or (children : List Filter)
  deriving Repr

/-! ## Templates -/

/-- The text of a template with the hole `\x7bkey\x7d` filled for every key. `inside` holds the characters since
an opening brace, last one first; a brace that is never closed stands for itself. -/
def fillHoles (p : Properties) (inside : Option (List Char)) : List Char → List Char
  | [] =>
    match inside with
    | none => []
    | some key => '\x7b' :: key.reverse
  | c :: r =>
    match inside with
    | none => if c = '\x7b' then fillHoles p (some []) r else c :: fillHoles p none r
    | some key =>
      if c = '\x7d' then (p.value (String.ofList key.reverse)).toList ++ fillHoles p none r
      else fillHoles p (some (c :: key)) r

/-- The keys between an opening brace and the next closing one, in order. -/
def holeKeys (inside : Option (List Char)) : List Char → List String
  | [] => []
  | c :: r =>
    match inside with
    | none => if c = '\x7b' then holeKeys (some []) r else holeKeys none r
    | some key =>
      if c = '\x7d' then String.ofList key.reverse :: holeKeys none r else holeKeys (some (c :: key)) r

/-- The template with every hole filled from the properties. -/
def substitute (template : String) (p : Properties) : String :=
  String.ofList (fillHoles p none template.toList)

/-- The keys of the holes. -/
def placeholders (template : String) : List String := holeKeys none template.toList

/-! ## Meaning -/

namespace Leaf

def holds : Leaf → Properties → Bool
  | tag key value, p => p.value key == value
  | substituting key template, p => p.value key == substitute template p
  | regex (.exact key) value invert, p => value.accepts (p.value key) != invert
  | regex (.pattern key) value invert, p => (p.any fun k v => key.accepts k && value.accepts v) != invert
  | comparing key op bound, p =>
    match (p.get? key).bind Binary64.leadingNumber? with
    | some x => op.holds x bound
    | none => false

/-- The key has some value that is not empty. -/
def present (key : String) : Leaf := regex (.exact key) (.exact "") true

/-- Equality with numbers compared as numbers. -/
def same : Leaf → Leaf → Bool
  | comparing k o x, comparing k' o' x' => k == k' && o == o' && x.eq x'
  | a, b => decide (a = b)

/-- A literal match that is not inverted is a tag. -/
def simplified : Leaf → Leaf
  | regex (.exact key) (.exact value) false => tag key value
  | l => l

/-- The leaf that holds exactly when this one does not, where there is one. -/
def negated? : Leaf → Option Leaf
  | tag key value => some (regex (.exact key) (.exact value) true)
  | regex key value invert => some (regex key value !invert).simplified
  | _ => none

end Leaf

namespace Filter

def tag (key value : String) : Filter := leaf (.tag key value)

mutual

def holds (p : Properties) : Filter → Bool
  | leaf l => l.holds p
  | and fs => allHold p fs
  | or fs => anyHolds p fs

def allHold (p : Properties) : List Filter → Bool
  | [] => true
  | f :: fs => holds p f && allHold p fs

def anyHolds (p : Properties) : List Filter → Bool
  | [] => false
  | f :: fs => holds p f || anyHolds p fs

end

mutual

/-- Structural equality, numbers compared as numbers; so a filter with NaN differs from itself. -/
def same : Filter → Filter → Bool
  | leaf a, leaf b => a.same b
  | and as, and bs => sameEach as bs
  | or as, or bs => sameEach as bs
  | _, _ => false

def sameEach : List Filter → List Filter → Bool
  | [], [] => true
  | a :: as, b :: bs => same a b && sameEach as bs
  | _, _ => false

end

def isLeaf : Filter → Bool
  | leaf _ => true
  | _ => false

def isAnd : Filter → Bool
  | and _ => true
  | _ => false

def isOr : Filter → Bool
  | or _ => true
  | _ => false

def children : Filter → List Filter
  | leaf _ => []
  | and fs => fs
  | or fs => fs

def matchesEmpty (f : Filter) : Bool := f.holds .empty

/-- Is the filter true of a feature without properties, judged leaf by leaf? -/
def Leaf.isNegative : Leaf → Bool
  | .tag _ value => value.isEmpty
  | .substituting .. => false
  | .comparing .. => false
  | l => l.holds .empty

mutual

def isNegative : Filter → Bool
  | leaf l => Leaf.isNegative l
  | and fs => allNegative fs
  | or fs => anyNegative fs

def allNegative : List Filter → Bool
  | [] => true
  | f :: fs => isNegative f && allNegative fs

def anyNegative : List Filter → Bool
  | [] => false
  | f :: fs => isNegative f || anyNegative fs

end

mutual

/-- The filter and all filters inside it, parents first. -/
def parts : Filter → List Filter
  | leaf l => [leaf l]
  | and fs => and fs :: partsOfEach fs
  | or fs => or fs :: partsOfEach fs

def partsOfEach : List Filter → List Filter
  | [] => []
  | f :: fs => parts f ++ partsOfEach fs

end

def negated? : Filter → Option Filter
  | leaf l => l.negated?.map leaf
  | _ => none

/-- Is `b` the negation of `a`? -/
def isOpposite (a b : Filter) : Bool :=
  match a.negated? with
  | some n => n.same b
  | none => false

/-- The keys that a leaf reads; none when a key pattern may read any. -/
def Leaf.usedKeys? : Leaf → Option (List String)
  | .tag key _ => some [key]
  | .substituting key template => some (key :: placeholders template)
  | .regex (.exact key) _ _ => some [key]
  | .regex (.pattern _) _ _ => none
  | .comparing key _ _ => some [key]

mutual

def keysRead? : Filter → Option (List String)
  | leaf l => Leaf.usedKeys? l
  | and fs => keysReadByEach? fs
  | or fs => keysReadByEach? fs

def keysReadByEach? : List Filter → Option (List String)
  | [] => some []
  | f :: fs => (keysRead? f).bind fun ks => (keysReadByEach? fs).map (ks ++ ·)

end

/-- Texts in order, each once. -/
def sortedDistinct (ss : List String) : List String := (ss.mergeSort fun a b => a ≤ b).eraseDups

/-- The keys that the filter reads, in order; none when a key pattern may read any. -/
def usedKeys? (f : Filter) : Option (List String) := f.keysRead?.map sortedDistinct

end Filter

end MapTheme
