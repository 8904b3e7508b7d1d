/-
  MapTheme.Rendering.Copies — renderings written once and copied with replacements.

  A block has an object with `sourceString` (texts to replace) and `into` (rows of
  replacements), and a list of `renderings`. Every row gives one copy of all renderings, in which
  the texts are replaced in order. A text that is a source string as a whole is replaced by any
  document; inside longer texts and in keys only a text is put in.
-/

import MapTheme.Step.Basic

namespace MapTheme.Rendering

/-- A text or a list of texts. -/
def textList? : Document → Option (List String)
  | .text s => some [s]
  | .list items => items.mapM Document.text?
  | _ => none

/-- A text in which `source` is replaced by `replacement` if that is a text. -/
def replaceInText (source : String) (replacement : Document) (s : String) : String :=
  match replacement with
  | .text r => Text.replace source r s
  | _ => s

mutual

def replaceIn (source : String) (replacement : Document) : Document → Document
  | .text s => if s = source then replacement else .text (replaceInText source replacement s)
  | .list items => .list (replaceInItems source replacement items)
  | .object fields => .object (Fields.ofList (replaceInFields source replacement fields))
  | d => d

def replaceInItems (source : String) (replacement : Document) : List Document → List Document
  | [] => []
  | d :: rest => replaceIn source replacement d :: replaceInItems source replacement rest

def replaceInFields (source : String) (replacement : Document) : List (String × Document) → List (String × Document)
  | [] => []
  | (k, d) :: rest =>
    (replaceInText source replacement k, replaceIn source replacement d) :: replaceInFields source replacement rest

end

inductive CopyFault
  | badSources
  | emptySource (index : Nat)
  /-- One source string is inside another. -/
  | ambiguous (outer inner : String)
  | rowsNoList
  | noRenderings
  deriving DecidableEq, Repr

def CopyFault.message : CopyFault → String
  | badSources => "rewrite.sourceString must be a string or a list of strings"
  | emptySource index => s!"rewrite.sourceString[{index}] is empty"
  | ambiguous outer inner =>
    s!"rewrite.sourceString '{outer}' contains '{inner}'; the replacement would be ambiguous"
  | rowsNoList => "rewrite.into must be a list"
  | noRenderings => "a rewrite block needs a list of 'renderings'"

/-- A source string inside another one: the outer and the inner. -/
def overlap? (sources : List String) : Option (String × String) :=
  let indexed := sources.zipIdx
  indexed.findSome? fun (a, i) =>
    (indexed.find? fun (b, j) => i != j && Text.contains a.toList b.toList).map fun (b, _) => (b, a)

structure CopyBlock where
  sources : List String
  rows : List Document
  renderings : List Document

def CopyBlock.ofDocument (block table : Document) : Except CopyFault CopyBlock :=
  match (table.get? "sourceString").bind textList? with
  | none => .error .badSources
  | some sources =>
    match sources.findIdx? String.isEmpty with
    | some i => .error (.emptySource i)
    | none =>
      match overlap? sources with
      | some (outer, inner) => .error (.ambiguous outer inner)
      | none =>
        match table.listAt? "into", block.listAt? "renderings" with
        | none, _ => .error .rowsNoList
        | some _, none => .error .noRenderings
        | some rows, some renderings => .ok ⟨sources, rows, renderings⟩

/-- The replacements of a row: a list, or a single one for a single source string. -/
def replacementsOf (sources : List String) : Document → Option (List Document)
  | .list values => some values
  | d => if sources.length = 1 then some [d] else none

def replaceAll (sources : List String) (replacements : List Document) (rendering : Document) : Document :=
  (sources.zip replacements).foldl (fun d (source, r) => replaceIn source r d) rendering

/-- The copies for one row. -/
def CopyBlock.copies (b : CopyBlock) (place : String) (row : Document) : Noted (List Document) :=
  match replacementsOf b.sources row with
  | none => do
    Noted.error place "expected a list of replacements"
    pure []
  | some replacements =>
    let given := replacements.length
    let wanted := b.sources.length
    if given = wanted then pure (b.renderings.map (replaceAll b.sources replacements))
    else do
      Noted.error place s!"{given} replacements given for {wanted} source strings"
      pure []

/-- A block as its copies; any other document as itself. -/
def expandCopies : Expansion where
  name := "ExpandRewrite"
  doc := "Expands a rewrite block into one set of renderings per replacement row"
  convert input place :=
    match input.get? "rewrite" with
    | none => .success [input]
    | some table =>
      match CopyBlock.ofDocument input table with
      | .error fault => .failure place fault.message
      | .ok block =>
        let rows := block.rows.zipIdx.map fun (row, i) => (row, Step.itemPlace (place ++ ".rewrite.into") i)
        (Noted.each (fun (row, rowPlace) => block.copies rowPlace row) rows).finish.map List.flatten

end MapTheme.Rendering
