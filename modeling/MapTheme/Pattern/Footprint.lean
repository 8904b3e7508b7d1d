/-
  MapTheme.Pattern.Footprint — how much memory the automata of a pattern take.

  A pattern is laid out as two automata on bytes: one reads a text forward and remembers groups, the
  other reads it backward. `footprint` is the memory of the larger one. A state takes `stateSize`
  bytes; a state with several labelled edges takes `edgeSize` more for each, and one with several
  unlabelled ones `linkSize` for each. A repetition with bounds is laid out as so many copies.
-/

import MapTheme.Pattern.Plan
import MapTheme.Unicode.Bytes

namespace MapTheme.Pattern

open Unicode (CharSet ByteRange)

inductive Direction
  | forward
  | backward
  deriving DecidableEq, Repr

def stateSize : Nat := 32
def edgeSize : Nat := 8
def linkSize : Nat := 4

/-! ## Sets -/

/-- Sequences with the same first range in a row, as what follows it. -/
def tailsByHead : List (List ByteRange) → List (ByteRange × List (List ByteRange))
  | [] => []
  | [] :: rest => tailsByHead rest
  | (r :: rs) :: rest =>
    match tailsByHead rest with
    | (r', tails) :: groups =>
      if r = r' then (r, rs :: tails) :: groups else (r, [rs]) :: (r', tails) :: groups
    | [] => [(r, [rs])]

/-- What is left to read after the first byte, for every first byte. -/
def afterFirst (node : List (List ByteRange)) : List (List (List ByteRange)) :=
  ((tailsByHead node).map (·.2)).filter (· != [[]])

/-- What can be left to read, each once, where a state is what is left to read from it. -/
def leftovers : (length : Nat) → List (List (List ByteRange)) → List (List (List ByteRange))
  | 0, _ => []
  | length + 1, nodes =>
    let nodes := nodes.eraseDups
    nodes ++ leftovers length (nodes.flatMap afterFirst).eraseDups

/-- The longest encoding of a character. -/
def maxBytes : Nat := 4

/-- Forward, states from which the same is left to read are shared. -/
def forwardSetSize (s : CharSet) : Nat :=
  let nodes := (leftovers maxBytes [Unicode.sequences s]).eraseDups
  stateSize + nodes.foldl (fun size n => size + (stateSize + edgeSize * (tailsByHead n).length)) 0

def commonRanges : List ByteRange → List ByteRange → Nat
  | r :: rs, r' :: rs' => if r = r' then commonRanges rs rs' + 1 else 0
  | _, _ => 0

/-- The states for sequences that share what they have in common with the one before. -/
def newStates (before : List ByteRange) : List (List ByteRange) → Nat
  | [] => 0
  | s :: rest => s.length - commonRanges before s + newStates s rest

/-- Backward, the sequences lie side by side; they share their first bytes, which are read last. -/
def backwardSetSize (s : CharSet) : Nat :=
  let seqs := Unicode.sequences s
  2 * stateSize + linkSize * seqs.length + stateSize * newStates [] seqs

def setSize (d : Direction) (s : CharSet) : Nat :=
  if s.isAscii then 2 * stateSize + edgeSize * s.length
  else
    match d with
    | .forward => forwardSetSize s
    | .backward => backwardSetSize s

/-! ## Texts -/

/-- The words after their first byte, by that byte. -/
def wordsByHead : List (List Nat) → List (Nat × List (List Nat))
  | [] => []
  | [] :: rest => wordsByHead rest
  | (b :: bs) :: rest =>
    let groups := wordsByHead rest
    match groups.lookup b with
    | some tails => (b, bs :: tails) :: groups.filter (·.1 != b)
    | none => (b, [bs]) :: groups

/-- The stretches of words between empty ones. -/
def stretches : List (List Nat) → List (List (List Nat))
  | [] => [[]]
  | [] :: rest => [] :: stretches rest
  | w :: rest =>
    match stretches rest with
    | s :: ss => (w :: s) :: ss
    | [] => [[w]]

/-- Words as a tree that keeps their order: an empty word ends a stretch, and words are shared only
within a stretch. `length` is that of the longest word. -/
def wordTreeSize : (length : Nat) → List (List Nat) → Nat
  | 0, _ => 0
  | length + 1, words =>
    let words := words.take 1 ++ (words.drop 1).dropWhile fun w => w.isEmpty && words.headD [] == []
    let ss := stretches words
    let groups := (ss.filter (!·.isEmpty)).map wordsByHead
    let states := groups.map fun g => if g.length = 1 then stateSize else stateSize + edgeSize * g.length
    let links := groups.length + (ss.length - 1)
    let below := groups.flatten.map fun (_, tails) =>
      if tails.all (·.isEmpty) then 0 else wordTreeSize length tails
    stateSize + linkSize * links + states.sum + below.sum

def wordsSize (d : Direction) (words : List (List Nat)) : Nat :=
  let words := match d with
    | .forward => words
    | .backward => words.map List.reverse
  stateSize + wordTreeSize ((words.map List.length).foldl max 0) words

def bytesOfText (cs : List Char) : List Nat := cs.flatMap Unicode.bytesOf

/-! ## Plans -/

namespace Plan

def text? : Plan → Option (List Char)
  | text cs => some cs
  | _ => none

/-- A repetition of something of size `n`; `consumes` tells whether that never matches the empty text. -/
def repSize (n : Nat) (consumes : Bool) (least : Nat) (most : Option Nat) : Nat :=
  match least, most with
  | 0, some 1 => 2 * stateSize + 2 * linkSize + n
  | 0, none =>
    if consumes then stateSize + 2 * linkSize + n else 3 * stateSize + 4 * linkSize + n
  | least, none => least * n + stateSize + 2 * linkSize
  | least, some most =>
    if least = most then least * n
    else
      (if least = 0 then stateSize else least * n) + stateSize
        + (most - least) * (stateSize + 2 * linkSize + n)

mutual

/-- The memory of the states for a plan, and of the links that lead on from it. -/
def size (d : Direction) : Plan → Nat
  | empty | place _ => stateSize
  | text cs => stateSize * (bytesOfText cs).length
  | set s => setSize d s
  | capture p =>
    match d with
    | .forward => 2 * stateSize + size d p
    | .backward => size d p
  | rep p least most => repSize (size d p) p.consumes least most
  | all ps => sizes d ps
  | any ps =>
    match ps.mapM text? with
    | some words => wordsSize d (words.map bytesOfText)
    | none => 2 * stateSize + linkSize * ps.length + sizes d ps

def sizes (d : Direction) : List Plan → Nat
  | [] => 0
  | p :: ps => size d p + sizes d ps

end

end Plan

/-- The memory of the larger automaton. Each starts with an empty state and ends with a final one;
forward, the whole text is a group. -/
def Node.footprint (n : Node) : Nat :=
  let plan := Plan.ofNode n
  max (4 * stateSize + plan.size .forward) (2 * stateSize + plan.size .backward)

end MapTheme.Pattern
