/-
  MapTheme.Filter.Fault — what can be wrong with a filter, and the wording.
-/

import MapTheme.Pattern.Basic
import MapTheme.Text.Pieces

namespace MapTheme

/-- Why a text or document is no filter. -/
inductive ReadingCause
  | missingKey
  | missingOperator
  /-- An `&` does not combine tags in a text. -/
  | ampersand
  | notANumber (text : String)
  /-- An object has to have exactly one of the two combinators as a key. -/
  | noSingleCombinator
  | extraKeys (combinator : String) (keys : List String)
  | notAList (combinator : String)
  | notAFilter
  deriving DecidableEq, Repr

/-- Why a filter names no single value to write. -/
inductive WritingCause
  | comparison
  | notLiteral
  | severalBranches
  deriving DecidableEq, Repr

inductive FilterFault
  | unreadable (input : String) (cause : ReadingCause)
  | badPattern (source : String) (fault : Pattern.Fault)
  | unwritable (filter : String) (cause : WritingCause)
  deriving DecidableEq, Repr

def ReadingCause.message : ReadingCause → String
  | missingKey => "missing key"
  | missingOperator => "expected one of =, !=, ~, !~, ~~, :=, <, <=, >, >= after the key"
  | ampersand => "'&' is not an operator; use \x7b\"and\": [...]\x7d to combine tags"
  | notANumber text => s!"'{text}' is not a number"
  | noSingleCombinator => "an object must have exactly one of 'and' or 'or'"
  | extraKeys combinator keys =>
    let names := Text.joinWith ", " keys
    s!"unexpected keys next to '{combinator}': {names}"
  | notAList combinator => s!"'{combinator}' must be a list"
  | notAFilter => "expected a tag string or an object with 'and' or 'or'"

def WritingCause.message : WritingCause → String
  | comparison => "a comparison has no single value to write"
  | notLiteral => "only a literal, non-negated match can be written"
  | severalBranches => "it is ambiguous which branch of an 'or' should be written"

def FilterFault.message : FilterFault → String
  | unreadable input cause => s!"could not parse tag expression '{input}': {cause.message}"
  | badPattern source fault => s!"invalid regex '{source}': {fault.message}"
  | unwritable filter cause => s!"'{filter}' does not support as_change: {cause.message}"

end MapTheme
