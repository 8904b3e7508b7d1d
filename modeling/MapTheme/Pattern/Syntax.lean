/-
  MapTheme.Pattern.Syntax — regular expressions as trees.

  A `Node` describes which stretches of a text match. Texts are matched character by character, so
  the leaves are sets of characters and assertions about a place between characters.
-/

import MapTheme.Unicode.Property

namespace MapTheme.Pattern

open Unicode (CharSet)

/-- Conditions on a place between two characters. -/
inductive Assertion
  | textStart
  | textEnd
  | lineStart
  | lineEnd
  /-- Lines that end with a carriage return, a line feed, or one after the other. -/
  | anyLineStart
  | anyLineEnd
  | wordBoundary (unicode : Bool)
  | notWordBoundary (unicode : Bool)
  | wordStart (unicode : Bool)
  | wordEnd (unicode : Bool)
  | wordStartHalf (unicode : Bool)
  | wordEndHalf (unicode : Bool)
  deriving DecidableEq, Repr

inductive Node
  | empty
  | chars (set : CharSet)
  | assertion (a : Assertion)
  | seq (first second : Node)
  | alt (first second : Node)
  /-- At least `min` times, at most `max` times where that is given. -/
  | rep (body : Node) (min : Nat) (max : Option Nat)
  /-- In parentheses; a group that captures is counted. -/
  | group (captures : Bool) (body : Node)
  deriving DecidableEq, Repr

namespace Node

def seqAll : List Node → Node
  | [] => empty
  | [n] => n
  | n :: rest => seq n (seqAll rest)

def altAll : List Node → Node
  | [] => empty
  | [n] => n
  | n :: rest => alt n (altAll rest)

/-- The number of nodes. -/
def size : Node → Nat
  | empty | chars _ | assertion _ => 1
  | seq m n | alt m n => size m + size n + 1
  | rep n _ _ | group _ n => size n + 1

end Node

/-- The letters, digits and underscore of a word, below U+0080 or in all of Unicode. -/
def asciiWord : CharSet := [(0x30, 0x39), (0x41, 0x5A), (0x5F, 0x5F), (0x61, 0x7A)]

def wordSet (unicode : Bool) : CharSet := if unicode then Unicode.wordChars else asciiWord

end MapTheme.Pattern
