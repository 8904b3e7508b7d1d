/-
  MapTheme.Config.Fault — what can be wrong with a finished layer or theme, and the wording.
-/

import MapTheme.Config.Shape
import MapTheme.Filter.Fault

namespace MapTheme.Config

inductive Cause
  | notAWording (d : Document)
  | wordingNoText
  | notExpanded (what : String) (d : Document)
  | freeformWithoutRender (key : String)
  | unanswerable
  | badLayerId (id : String)
  | badThemeId (id : String)
  | noSource
  | unknownSource (kind : String)
  | matchesAll (filter : String)
  | matchesNothing (filter : String)
  | negativeSource (filter : String)
  | duplicate (what id : String)
  | badCalculatedTag (line : String)
  | drawingsNoList
  | noTitle
  | noLayers
  | notSubstituted (d : Document)

def Cause.message : Cause → String
  | notAWording d => s!"expected a text or a translation object, got {d.compact}"
  | wordingNoText => "a translation must be a string"
  | notExpanded what d => s!"{what} {d.compact} has not been expanded into an object"
  | freeformWithoutRender key => s!"freeform key '{key}' is given but there is no render text to show it"
  | unanswerable => "a question is given but there is neither a freeform key nor a mapping to answer it"
  | badLayerId id => s!"invalid layer id '{id}': only lowercase letters, digits, '_' and '-' are allowed"
  | badThemeId id => s!"invalid theme id '{id}'"
  | noSource => "the layer has no source"
  | unknownSource kind => s!"unknown source '{kind}'; use an object with 'osmTags'"
  | matchesAll filter => s!"the source filter '{filter}' matches every feature"
  | matchesNothing filter => s!"the source filter '{filter}' can never match"
  | negativeSource filter =>
    s!"the source filter '{filter}' is negative: it matches features without any tags and would load nearly everything"
  | duplicate what id => s!"duplicate {what} id '{id}'"
  | badCalculatedTag line => s!"'{line}' is not of the form key=expression"
  | drawingsNoList => "mapRendering must be a list"
  | noTitle => "the theme has no title"
  | noLayers => "the theme has no layers"
  | notSubstituted d => s!"layer {d.compact} has not been substituted"

/-- A fault and the place of the value that has it. -/
inductive Fault
  | invalid (place : String) (cause : Cause)
  | filter (place : String) (fault : FilterFault)
  | shape (place : String) (problem : ShapeProblem)

def Fault.message : Fault → String
  | invalid place cause => s!"{place}: {cause.message}"
  | filter place fault => s!"{place}: {fault.message}"
  | shape place problem => s!"{place}: {problem.message}"

/-- The fields of a document of the shape. -/
def readShape (s : Shape) (place : String) (d : Document) : Except Fault Fields := (s.read d).mapError (Fault.shape place)

/-- Ids of layers and themes: small letters, digits, `_` and `-`. -/
def isValidId (id : String) : Bool :=
  !id.isEmpty && id.toList.all fun c => ('a' ≤ c && c ≤ 'z') || c.isDigit || c = '_' || c = '-'

/-- The first text that stands before, with its place in the list; empty ones do not count if `skipEmpty`. -/
def firstRepeated? (skipEmpty : Bool) : (seen : List String) → (index : Nat) → List String → Option (Nat × String)
  | _, _, [] => none
  | seen, i, s :: rest =>
    if skipEmpty && s.isEmpty then firstRepeated? skipEmpty seen (i + 1) rest
    else if seen.contains s then some (i, s)
    else firstRepeated? skipEmpty (s :: seen) (i + 1) rest

/-- The results of a reader for each item and its place in the list, up to the first fault. -/
def readEach {α β : Type} (f : α → Nat → Except Fault β) (index : Nat) : List α → Except Fault (List β)
  | [] => .ok []
  | a :: as => do
    let b ← f a index
    let bs ← readEach f (index + 1) as
    .ok (b :: bs)

/-- The result of a reader where there is something to read. -/
def readOptional {α β : Type} (f : α → Except Fault β) : Option α → Except Fault (Option β)
  | none => .ok none
  | some a => (f a).map some

end MapTheme.Config
