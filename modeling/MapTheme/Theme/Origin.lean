/-
  MapTheme.Theme.Origin — notes in wordings on where they stand.

  Every wording under a field that holds display text gets a `_context` with the dotted path to
  it: a prefix, the id of the document, and the keys and places on the way; an item with an id is
  named by it. A `_context` that is there already stays.
-/

import MapTheme.Step.Basic

namespace MapTheme.Theme

/-- Fields whose value may be a wording. -/
def displayFields : List String :=
  ["name", "title", "description", "shortDescription", "question", "render", "then", "placeholder", "text",
   "message", "before", "after"]

def isLower (c : Char) : Bool := 'a' ≤ c && c ≤ 'z'

/-- A region or script after the language: a separator and two to four letters. -/
def isRegion : List Char → Bool
  | [] => true
  | sep :: letters =>
    (sep = '_' || sep = '-') && 2 ≤ letters.length && letters.length ≤ 4 && letters.all Char.isAlpha

/-- Either `*`, or two or three small letters with an optional region. -/
def isLanguageCode (code : String) : Bool :=
  let cs := code.toList
  cs = ['*'] ||
    (let n := (cs.takeWhile isLower).length
     (n = 2 || n = 3) && isRegion (cs.dropWhile isLower))

/-- Keys that start so are notes and no languages. -/
def isNote (key : String) : Bool := Text.startsWith "_" key

/-- Is an object a wording: texts by language, at least one, and notes? -/
def isWording (fields : Fields) : Bool :=
  let languages := fields.filter fun (k, _) => !isNote k
  !languages.isEmpty && languages.all fun (k, d) => d.isText && isLanguageCode k

/-- The last part of the path to an item. -/
def itemName (item : Document) (i : Nat) : String := item.id?.getD (toString i)

def addOrigin (path : String) (fields : Fields) : Fields :=
  if Fields.has fields "_context" then fields else Fields.insert fields "_context" (.text path)

mutual

/-- The document with a note in every wording; `isDisplay` says whether it may be one itself. -/
def annotate (path : String) (isDisplay : Bool) : Document → Document
  | .object fields =>
    if isDisplay && isWording fields then .object (addOrigin path fields)
    else .object (annotateFields path fields)
  | .list items => .list (annotateItems path isDisplay 0 items)
  | d => d

def annotateFields (path : String) : List (String × Document) → List (String × Document)
  | [] => []
  | (k, d) :: rest =>
    (k, annotate (path ++ "." ++ k) (displayFields.contains k) d) :: annotateFields path rest

def annotateItems (path : String) (isDisplay : Bool) (i : Nat) : List Document → List Document
  | [] => []
  | d :: rest => annotate (path ++ "." ++ itemName d i) isDisplay d :: annotateItems path isDisplay (i + 1) rest

end

def annotateWordings (start : String) : Step where
  name := "AddContextToTranslations"
  doc := "Annotates every translation with the path where it was defined"
  convert input place :=
    match input.id? with
    | some id => .success (annotate (start ++ id) false input)
    | none => .failure place "cannot add translation context: the document has no id"

end MapTheme.Theme
