/-
  MapTheme.Pattern.Compilation — from the source text of a pattern to the tree that is matched.

  A pattern is matched as `(?s)^(?:SOURCE)$`, and this whole text is what has to be well formed.
-/

import MapTheme.Pattern.Footprint
import MapTheme.Pattern.Matching
import MapTheme.Pattern.Reader

namespace MapTheme.Pattern

/-- Why a source text is no pattern. -/
inductive Fault
  | malformed
  | tooLarge
  deriving DecidableEq, Repr

def Fault.message : Fault → String
  | malformed => "regex parse error:"
  | tooLarge => "Compiled regex exceeds size limit of 10485760 bytes."

/-- The memory that an automaton of a pattern may take. -/
def footprintLimit : Nat := 10485760

/-- The source anchored at both ends of a text, in which a dot is any character. -/
def anchored (source : String) : List Char := "(?s)^(?:".toList ++ source.toList ++ ")$".toList

def compile (source : String) : Except Fault Node :=
  match read? (anchored source) with
  | none => .error .malformed
  | some n => if n.footprint ≤ footprintLimit then .ok n else .error .tooLarge

end MapTheme.Pattern
