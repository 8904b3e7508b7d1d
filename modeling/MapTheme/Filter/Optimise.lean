/-
  MapTheme.Filter.Optimise — simplification of filters.

  Every change keeps the meaning: nested combinations of one kind are flattened, literal tags decide
  the other tests of their key, implied terms are dropped, contradictions and tautologies are found,
  terms that a sibling already rules out are pruned, and common conjuncts are factored out of
  alternatives. Terms are sorted by kind and text, so where these tell them apart the result does not
  hang on the order of the input.

  A list of terms is simplified until it stays the same, at most `maxPasses` times; factoring nests at
  most `maxFactoring` deep; and the whole is repeated until it stays the same.
-/

import MapTheme.Filter.Implication
import MapTheme.Filter.Writing

namespace MapTheme

variable [Pattern.Engine]

/-- A simplified filter, or the verdict that all or no features match. -/
inductive Optimised
  | always
  | never
  | filter (f : Filter)
  deriving Repr

namespace Optimised

def ofBool (b : Bool) : Optimised := if b then always else never

def holds (p : Properties) : Optimised → Bool
  | always => true
  | never => false
  | filter f => f.holds p

/-- As a filter: everything is the empty conjunction, nothing the empty alternative. -/
def toFilter : Optimised → Filter
  | always => .and []
  | never => .or []
  | filter f => f

def same : Optimised → Optimised → Bool
  | always, always => true
  | never, never => true
  | filter f, filter g => f.same g
  | _, _ => false

end Optimised

namespace Filter

def maxPasses : Nat := 32
def maxFactoring : Nat := 24

/-! ## Lists of terms -/

def conjunctionOf : List Filter → Optimised
  | [] => .always
  | [f] => .filter f
  | fs => .filter (and fs)

def alternativeOf : List Filter → Optimised
  | [] => .never
  | [f] => .filter f
  | fs => .filter (or fs)

/-- Conjunctions among the terms of a conjunction are replaced by their children. -/
def flattenAnds : List Filter → List Filter
  | [] => []
  | and fs :: rest => fs ++ flattenAnds rest
  | f :: rest => f :: flattenAnds rest

def flattenOrs : List Filter → List Filter
  | [] => []
  | or fs :: rest => fs ++ flattenOrs rest
  | f :: rest => f :: flattenOrs rest

def memberOf (fs : List Filter) (f : Filter) : Bool := fs.any (·.same f)

/-- Each filter once, at its first place; `kept` are those before. -/
def dedupAfter (kept : List Filter) : List Filter → List Filter
  | [] => kept
  | f :: rest => if memberOf kept f then dedupAfter kept rest else dedupAfter (kept ++ [f]) rest

def dedup (fs : List Filter) : List Filter := dedupAfter [] fs

/-- Terms that are redundant beside a remaining one are dropped, one after the other. -/
def removeRedundantAfter (redundant : Filter → Filter → Bool) (kept : List Filter) : List Filter → List Filter
  | [] => kept
  | f :: rest =>
    if (kept ++ rest).any (redundant f) then removeRedundantAfter redundant kept rest
    else removeRedundantAfter redundant (kept ++ [f]) rest

def removeRedundant (redundant : Filter → Filter → Bool) (fs : List Filter) : List Filter :=
  removeRedundantAfter redundant [] fs

/-- Leaves stand before combinations, in the order of their kinds. -/
def rank : Filter → Nat
  | leaf (.tag ..) => 0
  | leaf (.substituting ..) => 1
  | leaf (.regex ..) => 2
  | leaf (.comparing ..) => 3
  | and _ => 4
  | or _ => 5

/-- By rank, then by text. -/
def keyLe (a b : Nat × String) : Bool := a.1 < b.1 || (a.1 == b.1 && a.2 ≤ b.2)

def sort (fs : List Filter) : List Filter :=
  let keyed := fs.map fun f => ((f.rank, f.toText), f)
  (keyed.mergeSort fun a b => keyLe a.1 b.1).map (·.2)

/-- Each term with the terms before and after it. -/
def withOthers (before : List Filter) : List Filter → List (Filter × List Filter)
  | [] => []
  | f :: rest => (f, before ++ rest) :: withOthers (before ++ [f]) rest

/-! ## Known values -/

abbrev Known := List (String × String)

/-- The values that literal tags fix; none when two of them disagree. -/
def knownValues : List Filter → Option Known
  | [] => some []
  | leaf (.tag key value) :: rest =>
    match knownValues rest with
    | none => none
    | some known =>
      match known.lookup key with
      | some other => if other = value then some known else none
      | none => some ((key, value) :: known)
  | _ :: rest => knownValues rest

def assumeLeaf (known : Known) (l : Leaf) : Optimised :=
  match l.singleKey? with
  | none => .filter (leaf l)
  | some key =>
    match known.lookup key with
    | none => .filter (leaf l)
    | some value => .ofBool (l.holds (.assigned key value))

mutual

/-- The filter where the known keys have exactly their values. -/
def assume (known : Known) : Filter → Optimised
  | leaf l => assumeLeaf known l
  | and fs =>
    match assumeAll known fs with
    | none => .never
    | some kept => conjunctionOf kept
  | or fs =>
    match assumeAny known fs with
    | none => .always
    | some kept => alternativeOf kept

/-- The terms left of a conjunction; none when one of them is never true. -/
def assumeAll (known : Known) : List Filter → Option (List Filter)
  | [] => some []
  | f :: fs =>
    match assume known f with
    | .always => assumeAll known fs
    | .never => none
    | .filter g => (assumeAll known fs).map (g :: ·)

/-- The terms left of an alternative; none when one of them is always true. -/
def assumeAny (known : Known) : List Filter → Option (List Filter)
  | [] => some []
  | f :: fs =>
    match assume known f with
    | .always => none
    | .never => assumeAny known fs
    | .filter g => (assumeAny known fs).map (g :: ·)

end

/-- The terms of a conjunction under its own literal tags, which stay; none when one is never true. -/
def applyKnown (known : Known) : List Filter → Option (List Filter)
  | [] => some []
  | leaf (.tag key value) :: rest => (applyKnown known rest).map (tag key value :: ·)
  | f :: rest =>
    match assume known f with
    | .always => applyKnown known rest
    | .never => none
    | .filter g => (applyKnown known rest).map (g :: ·)

/-! ## Contradictions and tautologies -/

/-- Does one term imply the negation of another? -/
def hasContradiction (fs : List Filter) : Bool :=
  (withOthers [] fs).any fun (b, others) =>
    match b.negated? with
    | some notB => others.any fun a => a.implies notB
    | none => false

/-- Does the negation of one term imply another? -/
def isTautology (fs : List Filter) : Bool :=
  (withOthers [] fs).any fun (a, others) =>
    match a.negated? with
    | some notA => others.any fun b => notA.implies b
    | none => false

/-! ## Pruning -/

/-- The conjunct lists of conjunctions lose what follows from one of the negations; none when
nothing is left of one. -/
def pruneBy (negations : List Filter) : List Filter → Option (List Filter)
  | [] => some []
  | and conjuncts :: rest =>
    match conjuncts.filter fun c => !negations.any (·.implies c) with
    | [] => none
    | [or inner] => (pruneBy negations rest).map (inner ++ ·)
    | [single] => (pruneBy negations rest).map (single :: ·)
    | kept => (pruneBy negations rest).map (and kept :: ·)
  | f :: rest => (pruneBy negations rest).map (f :: ·)

/-- Inside a conjunction of an alternative every plain term may be taken as false. -/
def pruneKnownFalse (terms : List Filter) : Option (List Filter) :=
  let negations := (terms.filter (!·.isAnd)).filterMap negated?
  if negations.isEmpty then some terms else pruneBy negations terms

/-! ## Factoring -/

/-- An alternative as plain terms and `common & (rest | rest | …)`. -/
structure Factored where
  plain : List Filter
  common : List Filter
  rests : List (List Filter)

def conjunctsOf? : Filter → Option (List Filter)
  | and fs => some fs
  | _ => none

def factorCommonConjuncts (terms : List Filter) : Option Factored :=
  match terms.filterMap conjunctsOf? with
  | first :: second :: others =>
    let common := first.filter fun c => (second :: others).all (memberOf · c)
    if common.isEmpty then none
    else some ⟨terms.filter (!·.isAnd), common, (first :: second :: others).map (·.filter (!memberOf common ·))⟩
  | _ => none

/-! ## Conjunctions -/

/-- A step repeated until the terms stay the same. -/
def settle (step : List Filter → Option (List Filter)) : (passes : Nat) → List Filter → Option (List Filter)
  | 0, terms => some terms
  | passes + 1, terms =>
    match step terms with
    | none => none
    | some next => if sameEach next terms then some next else settle step passes next

/-- One pass over the terms of a conjunction; none when it is never true. -/
def andPass (terms : List Filter) : Option (List Filter) :=
  let terms := dedup terms
  match (knownValues terms).bind (applyKnown · terms) with
  | none => none
  | some next =>
    let terms := removeRedundant (fun candidate other => other.implies candidate) (dedup (flattenAnds next))
    if hasContradiction terms then none else some (sort terms)

def simplifyAnd (terms : List Filter) : Optimised :=
  match settle andPass maxPasses (flattenAnds terms) with
  | none => .never
  | some terms => conjunctionOf terms

/-! ## Alternatives -/

/-- The form `common & (rest | rest | …)`, each part simplified once. -/
def factoredAnd (simplifyOr : List Filter → Optimised) (common : List Filter) (rests : List (List Filter)) :
    Optimised :=
  let simplified := rests.map simplifyAnd
  if simplified.any (·.same .always) then simplifyAnd common
  else
    let alternatives := simplified.filterMap fun
      | .filter f => some f
      | _ => none
    match simplifyOr alternatives with
    | .always => simplifyAnd common
    | .never => .never
    | .filter f => simplifyAnd (common ++ [f])

/-- Factoring, where it applies; none when the alternative is always true. -/
def factorTerms (simplifyOr : List Filter → Optimised) (terms : List Filter) : Option (List Filter) :=
  match factorCommonConjuncts terms with
  | none => some terms
  | some ⟨plain, common, rests⟩ =>
    match factoredAnd simplifyOr common rests with
    | .always => none
    | .never => some (dedup plain)
    | .filter (or inner) => some (dedup (plain ++ inner))
    | .filter f => some (dedup (plain ++ [f]))

/-- One pass over the terms of an alternative; none when it is always true. -/
def orPass (factor : List Filter → Option (List Filter)) (terms : List Filter) : Option (List Filter) :=
  let terms := removeRedundant (fun candidate other => candidate.implies other) (dedup terms)
  match pruneKnownFalse terms with
  | none => none
  | some terms => if isTautology terms then none else (factor terms).map sort

def settledOr (factor : List Filter → Option (List Filter)) (terms : List Filter) : Optimised :=
  match settle (orPass factor) maxPasses (flattenOrs terms) with
  | none => .always
  | some terms => alternativeOf terms

/-- The alternatives of a list; `room` is how deep factoring may still nest. -/
def simplifyOrWithin : (room : Nat) → List Filter → Optimised
  | 0 => settledOr some
  | room + 1 => settledOr (factorTerms (simplifyOrWithin room))

def simplifyOr (terms : List Filter) : Optimised := simplifyOrWithin maxFactoring terms

/-! ## Whole filters -/

/-- A pattern `.*` for the value of one key accepts every feature. -/
def optimiseLeaf : Leaf → Optimised
  | .regex (.exact key) (.pattern p) invert =>
    if p.source = ".*" then .ofBool (!invert) else .filter (leaf (.regex (.exact key) (.pattern p) invert))
  | l => .filter (leaf l.simplified)

mutual

/-- One pass over the whole tree, children first. -/
def optimiseOnce : Filter → Optimised
  | leaf l => optimiseLeaf l
  | and fs =>
    match optimiseConjuncts fs with
    | none => .never
    | some terms => simplifyAnd terms
  | or fs =>
    match optimiseBranches fs with
    | none => .always
    | some terms => simplifyOr terms

def optimiseConjuncts : List Filter → Option (List Filter)
  | [] => some []
  | f :: fs =>
    match optimiseOnce f with
    | .always => optimiseConjuncts fs
    | .never => none
    | .filter g => (optimiseConjuncts fs).map (g :: ·)

def optimiseBranches : List Filter → Option (List Filter)
  | [] => some []
  | f :: fs =>
    match optimiseOnce f with
    | .always => none
    | .never => optimiseBranches fs
    | .filter g => (optimiseBranches fs).map (g :: ·)

end

/-- More passes over the tree until it stays the same. -/
def optimiseMore : (passes : Nat) → Optimised → Optimised
  | passes + 1, .filter f =>
    let next := f.optimiseOnce
    if next.same (.filter f) then .filter f else optimiseMore passes next
  | _, done => done

def optimise (f : Filter) : Optimised := optimiseMore maxPasses f.optimiseOnce

end Filter

end MapTheme
