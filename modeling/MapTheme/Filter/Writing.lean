/-
  MapTheme.Filter.Writing — filters as texts: for people, as documents, and as query fragments.

  The text of a leaf is what `MapTheme.Filter.Reading` reads, but a key or value with a mark of the notation in it
  can read as another leaf. `fragments` gives one text for each alternative, and the alternatives are meant to be
  united. A fragment mostly asks for the key to be there, also where the leaf holds without it.
-/

import MapTheme.Decimal.Spelling
import MapTheme.Document.Basic
import MapTheme.Filter.Basic
import MapTheme.Text.Pieces

namespace MapTheme

variable [Pattern.Engine]

/-! ## For people -/

namespace Leaf

def toText : Leaf → String
  | tag key value => s!"{key}={value}"
  | substituting key template => s!"{key}:={template}"
  | regex (.exact key) (.exact value) invert =>
    if invert && value.isEmpty then s!"{key}~*"
    else if invert then s!"{key}!={value}"
    else s!"{key}={value}"
  | regex (.exact key) (.pattern value) invert =>
    if invert then s!"{key}!~{value.source}" else s!"{key}~{value.source}"
  | regex (.pattern key) value invert =>
    if invert then s!"{key.source}!~~{value.source}" else s!"{key.source}~~{value.source}"
  | comparing key op bound => s!"{key}{op.symbol}{bound.toText}"

end Leaf

namespace Filter

mutual

def toText : Filter → String
  | leaf l => l.toText
  | and fs => "&".intercalate (conjunctTexts fs)
  | or fs => "|".intercalate (disjunctTexts fs)

/-- An alternative inside a conjunction stands in parentheses. -/
def conjunctTexts : List Filter → List String
  | [] => []
  | or gs :: fs => ("(" ++ toText (or gs) ++ ")") :: conjunctTexts fs
  | f :: fs => toText f :: conjunctTexts fs

def disjunctTexts : List Filter → List String
  | [] => []
  | f :: fs => toText f :: disjunctTexts fs

end

/-! ## As documents -/

mutual

def toDocument : Filter → Document
  | leaf l => .text l.toText
  | and fs => .object [("and", .list (eachToDocument fs))]
  | or fs => .object [("or", .list (eachToDocument fs))]

def eachToDocument : List Filter → List Document
  | [] => []
  | f :: fs => toDocument f :: eachToDocument fs

end

end Filter

/-! ## As query fragments -/

/-- Inside quotes of a fragment a backslash takes the next character literally. -/
def escapedForQuery (s : String) : String :=
  String.ofList (s.toList.flatMap fun c => if c = '\\' || c = '"' then ['\\', c] else [c])

/-- The pattern source that accepts exactly the literal text. -/
def literalSource (s : String) : String :=
  String.ofList (s.toList.flatMap fun c => if Pattern.isMeta c then ['\\', c] else [c])

namespace Leaf

def inQuery (s : String) : String := "\"" ++ escapedForQuery s ++ "\""

def anchoredInQuery (source : String) : String := "\"^(" ++ escapedForQuery source ++ ")$\""

/-- The key is present. -/
def presenceFragment (key : String) : String := "[" ++ inQuery key ++ "]"

def absenceFragment (key : String) : String := "[!" ++ inQuery key ++ "]"

def pairFragment (key op value : String) : String := "[" ++ key ++ op ++ value ++ "]"

def fragment : Leaf → String
  | tag key value => if value.isEmpty then absenceFragment key else pairFragment (inQuery key) "=" (inQuery value)
  | substituting key _ => presenceFragment key
  | comparing key _ _ => presenceFragment key
  | regex (.exact key) (.exact value) invert =>
    if value.isEmpty then (if invert then presenceFragment key else absenceFragment key)
    else pairFragment (inQuery key) (if invert then "!=" else "=") (inQuery value)
  | regex (.exact key) (.pattern value) invert =>
    pairFragment (inQuery key) (if invert then "!~" else "~") (anchoredInQuery value.source)
  /- A key pattern cannot be negated in a query; the empty fragment selects everything. -/
  | regex (.pattern _) _ true => ""
  | regex (.pattern key) value false =>
    let source := match value with
      | .exact text => literalSource text
      | .pattern p => p.source
    pairFragment ("~" ++ anchoredInQuery key.source) "~" (anchoredInQuery source)

end Leaf

namespace Filter

mutual

/-- One fragment text for each alternative. -/
def fragments : Filter → List String
  | leaf l => [l.fragment]
  | and fs => fragmentsOfAll fs
  | or fs => fragmentsOfAny fs

/-- Every way to take one alternative of each child, the first child varying slowest. -/
def fragmentsOfAll : List Filter → List String
  | [] => [""]
  | f :: fs => (fragments f).flatMap fun a => (fragmentsOfAll fs).map (a ++ ·)

def fragmentsOfAny : List Filter → List String
  | [] => []
  | f :: fs => fragments f ++ fragmentsOfAny fs

end

end Filter

end MapTheme
