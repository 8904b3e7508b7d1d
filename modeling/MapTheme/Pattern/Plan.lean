/-
  MapTheme.Pattern.Plan — regular expressions as they are laid out for an automaton.

  A plan says the same as the tree it is made from, in fewer parts: sequences are flat and have no
  empty parts, neighbouring characters are one text, alternatives of single characters or of sets are
  one set, alternatives that start with the same parts share them, and a repetition that can match
  only the empty text is done at most once.
-/

import MapTheme.Pattern.Syntax

namespace MapTheme.Pattern

open Unicode (CharSet)

inductive Plan
  | empty
  | text (cs : List Char)
  | set (s : CharSet)
  | place (a : Assertion)
  /-- What it matches is remembered. -/
  | capture (body : Plan)
  | rep (body : Plan) (least : Nat) (most : Option Nat)
  | all (parts : List Plan)
  | any (branches : List Plan)
  deriving Repr

namespace Plan

/-! ## Lengths -/

mutual

/-- Is the empty text all that it can match? -/
def onlyEmpty : Plan → Bool
  | empty | place _ => true
  | text _ | set _ => false
  | capture p | rep p _ _ => onlyEmpty p
  | all ps | any ps => eachOnlyEmpty ps

def eachOnlyEmpty : List Plan → Bool
  | [] => true
  | p :: ps => onlyEmpty p && eachOnlyEmpty ps

end

mutual

/-- The fewest characters that it matches; none where an empty set is part of it. -/
def minLength? : Plan → Option Nat
  | empty | place _ => some 0
  | text cs => some cs.length
  | set s => if s.isEmpty then none else some 1
  | capture p => minLength? p
  | rep p least _ => (minLength? p).map (least * ·)
  | all ps => (minLengths? ps).map List.sum
  | any ps => (minLengths? ps).bind List.min?

def minLengths? : List Plan → Option (List Nat)
  | [] => some []
  | p :: ps => (minLength? p).bind fun n => (minLengths? ps).map (n :: ·)

end

/-- Is the empty text nothing that it can match? -/
def consumes (p : Plan) : Bool :=
  match p.minLength? with
  | some n => 0 < n
  | none => false

/-! ## Sameness -/

mutual

/-- Do two plans match alike and remember nothing? What is remembered has a number of its own. -/
def same : Plan → Plan → Bool
  | empty, empty => true
  | text cs, text cs' => cs == cs'
  | set s, set s' => s == s'
  | place a, place a' => decide (a = a')
  | rep p least most, rep p' least' most' => same p p' && least == least' && most == most'
  | all ps, all ps' => sameEach ps ps'
  | any ps, any ps' => sameEach ps ps'
  | _, _ => false

def sameEach : List Plan → List Plan → Bool
  | [], [] => true
  | p :: ps, p' :: ps' => same p p' && sameEach ps ps'
  | _, _ => false

end

/-- How many parts two sequences have in common at the start. -/
def commonLength : List Plan → List Plan → Nat
  | p :: ps, p' :: ps' => if same p p' then commonLength ps ps' + 1 else 0
  | _, _ => 0

/-! ## Building -/

/-- A set; of a single character, its text. -/
def ofSet (s : CharSet) : Plan :=
  match s with
  | [(a, b)] => if a = b then text [Char.ofNat a] else set s
  | _ => set s

def parts : Plan → List Plan
  | empty => []
  | all ps => ps
  | p => [p]

def branches : Plan → List Plan
  | any ps => ps
  | p => [p]

/-- Neighbouring texts as one. -/
def joinTexts : List Plan → List Plan
  | [] => []
  | text cs :: rest =>
    match joinTexts rest with
    | text cs' :: rest => text (cs ++ cs') :: rest
    | rest => text cs :: rest
  | p :: rest => p :: joinTexts rest

def sequence (ps : List Plan) : Plan :=
  match joinTexts (ps.flatMap parts) with
  | [] => empty
  | [p] => p
  | ps => all ps

def repetition (p : Plan) (least : Nat) (most : Option Nat) : Plan :=
  let (least, most) :=
    if p.onlyEmpty then (min least 1, some (min (most.getD 1) 1)) else (least, most)
  match least, most with
  | 0, some 0 => empty
  | 1, some 1 => p
  | _, _ => rep p least most

def char? : Plan → Option Char
  | text [c] => some c
  | _ => none

def set? : Plan → Option CharSet
  | set s => some s
  | _ => none

/-- The parts of a sequence of several parts. -/
def several? : Plan → Option (List Plan)
  | all ps => some ps
  | _ => none

/-- The length of the start that all sequences share. -/
def sharedLength : List (List Plan) → Nat
  | [] => 0
  | [_] => 0
  | first :: rest => (rest.map (commonLength first)).foldl min first.length

/-- Alternatives; `fuel` bounds how often a shared start is taken out. -/
def choice : (fuel : Nat) → List Plan → Plan
  | 0, ps => any ps
  | fuel + 1, ps =>
    let ps := ps.flatMap branches
    match ps, ps.mapM char?, ps.mapM set?, ps.mapM several? with
    | [p], _, _, _ => p
    | _, some cs, _, _ => ofSet (CharSet.normal (cs.map fun c => (c.toNat, c.toNat)))
    | _, _, some sets, _ => ofSet (CharSet.normal sets.flatten)
    | _, _, _, some sequences =>
      let n := sharedLength sequences
      if n = 0 then any ps
      else
        let shared := (sequences.headD []).take n
        sequence (shared ++ [choice fuel (sequences.map fun s => sequence (s.drop n))])
    | _, _, _, none => any ps

/-- The plans of the branches of a tree. -/
def branchesOf : Node → List Plan
  | .empty => [empty]
  | .chars s => [ofSet s]
  | .assertion a => [place a]
  | .seq m n => [sequence [choice m.size (branchesOf m), choice n.size (branchesOf n)]]
  | .alt m n => branchesOf m ++ branchesOf n
  | .rep n least most => [repetition (choice n.size (branchesOf n)) least most]
  | .group captures n =>
    let p := choice n.size (branchesOf n)
    [if captures then capture p else p]

def ofNode (n : Node) : Plan := choice n.size (branchesOf n)

end Plan

end MapTheme.Pattern
