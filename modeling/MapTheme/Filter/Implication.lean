/-
  MapTheme.Filter.Implication — a sound test of implication between filters.

  `implies a b` answers true only if every feature for which `a` holds is one for which `b` holds.
  It compares filters structurally: a conjunction is implied part by part, an alternative implies
  branch by branch, and leaves are compared by `Leaf.implies`.
-/

import MapTheme.Filter.Basic

namespace MapTheme

variable [Pattern.Engine]

namespace Leaf

/-- The only key that the leaf depends on, where there is just one. -/
def singleKey? : Leaf → Option String
  | tag key _ => some key
  | regex (.exact key) _ _ => some key
  | regex (.pattern _) _ _ => none
  | comparing key _ _ => some key
  | substituting .. => none

/-- The key and value that a literal leaf fixes. -/
def fixes? : Leaf → Option (String × String)
  | tag key value => some (key, value)
  | regex (.exact key) (.exact value) false => some (key, value)
  | _ => none

/-- Does the leaf hold exactly if its key is present? -/
def isPresence : Leaf → Bool
  | regex _ value invert => invert && decide (value = .exact "")
  | _ => false

end Leaf

namespace Comparison

/-- Does every number that compares so with `a` compare by `op'` with `b`? -/
def implies (op : Comparison) (a : Binary64) (op' : Comparison) (b : Binary64) : Bool :=
  match op, op' with
  | greater, greater | greater, atLeast | atLeast, atLeast => b.le a
  | atLeast, greater => b.lt a
  | less, less | less, atMost | atMost, atMost => a.le b
  | atMost, less => a.lt b
  | _, _ => false

end Comparison

namespace Leaf

/-- Leaves that are not the same. A literal value decides every other test of its key. -/
def impliesOther (a b : Leaf) : Bool :=
  match a.fixes? with
  | some (key, value) => b.singleKey? == some key && b.holds (.assigned key value)
  | none =>
    match a, b with
    | regex (.exact key) value invert, regex (.exact key') value' invert' =>
      key == key' && !invert && !value.accepts "" && (regex (.exact key') value' invert').isPresence
    | comparing key op x, comparing key' op' y => key == key' && op.implies x op' y
    | comparing key _ _, regex (.exact key') value invert =>
      key' == key && (regex (.exact key') value invert).isPresence
    | _, _ => false

def implies (a b : Leaf) : Bool := a.same b || a.impliesOther b

end Leaf

namespace Filter

mutual

/-- Is `b` implied by a leaf? -/
def impliedByLeaf (a : Leaf) : Filter → Bool
  | leaf b => a.implies b
  | and bs => allImpliedByLeaf a bs
  | or bs => anyImpliedByLeaf a bs

def allImpliedByLeaf (a : Leaf) : List Filter → Bool
  | [] => true
  | b :: bs => impliedByLeaf a b && allImpliedByLeaf a bs

def anyImpliedByLeaf (a : Leaf) : List Filter → Bool
  | [] => false
  | b :: bs => impliedByLeaf a b || anyImpliedByLeaf a bs

end

mutual

/-- Is `b` implied by the combined filter `a`? A conjunction is, part by part; anything else as
`direct` says. -/
def impliedByParts (a : Filter) (direct : Filter → Bool) : Filter → Bool
  | leaf b => direct (leaf b)
  | or bs => a.same (or bs) || direct (or bs)
  | and bs => a.same (and bs) || allImpliedByParts a direct bs

def allImpliedByParts (a : Filter) (direct : Filter → Bool) : List Filter → Bool
  | [] => true
  | b :: bs => impliedByParts a direct b && allImpliedByParts a direct bs

end

mutual

/-- True only if `b` holds wherever `a` does. -/
def implies : Filter → Filter → Bool
  | leaf a => impliedByLeaf a
  | or as => impliedByParts (or as) fun b => (impliesOfEach as).all fun test => test b
  | and as => impliedByParts (and as) fun b => (impliesOfEach as).any fun test => test b

/-- The implication test of each filter. -/
def impliesOfEach : List Filter → List (Filter → Bool)
  | [] => []
  | a :: as => implies a :: impliesOfEach as

end

end Filter

end MapTheme
