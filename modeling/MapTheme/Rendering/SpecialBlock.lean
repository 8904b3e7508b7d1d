/-
  MapTheme.Rendering.SpecialBlock — calls of special visualisations written as objects.

  An object with `special` has the type of the visualisation, its arguments by name, and texts
  `before` and `after`; each is a text or a wording. It becomes a wording with one text for
  each language that occurs, or for every language (`*`) if none does.
-/

import MapTheme.Special.Registry
import MapTheme.Special.Template
import MapTheme.Step.Basic
import MapTheme.Text.Suggestion

namespace MapTheme.Rendering

open Special (Visualisation)

inductive SpecialBlockFault
  | extraKey (key : String)
  | notAnObject
  | noType
  | unknownType (kind suggestion : String)
  | unknownArgument (kind key suggestion : String)
  deriving DecidableEq, Repr

def SpecialBlockFault.message : SpecialBlockFault → String
  | extraKey key => s!"a special block may only contain 'special', found '{key}'"
  | notAnObject => "'special' must be an object"
  | noType => "the special block has no 'type'"
  | unknownType kind suggestion => s!"unknown special visualisation '{kind}'.{suggestion}"
  | unknownArgument kind key suggestion =>
    s!"special visualisation '{kind}' has no argument '{key}'.{suggestion}"

/-- Keys that start so are notes and carry no content. -/
def isNote (key : String) : Bool := Text.startsWith "_" key

/-- What a text or wording says in a language: that language, else all languages, else English. -/
def textIn (language : String) : Option Document → String
  | some (.text s) => s
  | some (.object texts) =>
    match ((Fields.get? texts language).or (Fields.get? texts "*")).or (Fields.get? texts "en") with
    | some (.text s) => s
    | _ => ""
  | _ => ""

/-- The languages of all wordings in the block, in order; `*` if there are none. -/
def languagesOf (special : Fields) : List String :=
  let found := special.flatMap fun (_, d) => ((d.object?.getD []).map (·.1)).filter (!isNote ·)
  match (found.mergeSort fun a b => a ≤ b).eraseDups with
  | [] => ["*"]
  | languages => languages

def withoutTrailingEmpty (arguments : List String) : List String :=
  (arguments.reverse.dropWhile String.isEmpty).reverse

/-- The call with its texts before and after, in a language. -/
def blockText (v : Visualisation) (special : Fields) (language : String) : String :=
  let said := fun key => textIn language (Fields.get? special key)
  said "before" ++ Special.callText v.name (withoutTrailingEmpty (v.argumentNames.map said)) ++ said "after"

def unknownArgument? (v : Visualisation) (special : Fields) : Option String :=
  (Fields.keys special).find? fun key =>
    !(key = "type" || key = "before" || key = "after" || isNote key || v.argumentNames.contains key)

/-- A block as a wording. -/
def wordingOf (block : Fields) : Except SpecialBlockFault Document :=
  match (Fields.keys block).find? fun key => key != "special" && !isNote key with
  | some extra => .error (.extraKey extra)
  | none =>
    match Fields.get? block "special" with
    | some (.object special) =>
      match (Fields.get? special "type").bind Document.text? with
      | none => .error .noType
      | some kind =>
        match Special.find? kind with
        | none => .error (.unknownType kind (Text.hint kind Special.names))
        | some v =>
          match unknownArgument? v special with
          | some key => .error (.unknownArgument kind key (Text.hint key v.argumentNames))
          | none =>
            .ok (.object ((languagesOf special).map fun language => (language, .text (blockText v special language))))
    | _ => .error .notAnObject

mutual

/-- Every block inside a document; one that is at fault stays and is noted. -/
def replaceBlocks (place : String) : Document → Noted Document
  | .object fields =>
    if Fields.has fields "special" then
      match wordingOf fields with
      | .ok d => pure d
      | .error fault => do
        Noted.error place fault.message
        pure (.object fields)
    else do
      let fields ← replaceInBlockFields place fields
      pure (.object fields)
  | .list items => do
    let items ← replaceInBlockItems place 0 items
    pure (.list items)
  | d => pure d

def replaceInBlockFields (place : String) : List (String × Document) → Noted (List (String × Document))
  | [] => pure []
  | (k, d) :: rest => do
    let d ← replaceBlocks (Step.fieldPlace place k) d
    let rest ← replaceInBlockFields place rest
    pure ((k, d) :: rest)

def replaceInBlockItems (place : String) (i : Nat) : List Document → Noted (List Document)
  | [] => pure []
  | d :: rest => do
    let d ← replaceBlocks (Step.itemPlace place i) d
    let rest ← replaceInBlockItems place (i + 1) rest
    pure (d :: rest)

end

def replaceSpecialBlocks : Step where
  name := "RewriteSpecial"
  doc := "Converts structured special visualisation blocks into render texts"
  convert input place := (replaceBlocks place input).finish

end MapTheme.Rendering
