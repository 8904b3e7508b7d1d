/-
  MapTheme.Step.Basic — conversions of documents and the ways to combine them.

  A conversion has a name, a description and the top-level attributes that it may add, change or
  remove; its `convert` takes the input and the place of the input, for messages.
  A `Step` turns a document into a document, an `Expansion` into several.
-/

import MapTheme.Document.Basic
import MapTheme.Step.Diagnostics
import MapTheme.Text.Pieces

namespace MapTheme

structure Conversion (α β : Type) where
  name : String
  doc : String := ""
  modified : List String := []
  convert : α → String → Converted β

abbrev Step := Conversion Document Document

abbrev Expansion := Conversion Document (List Document)

namespace Conversion

/-- The result, or one text with all errors. -/
def strict {α β : Type} (c : Conversion α β) (input : α) (place : String) : Except String β :=
  let converted := c.convert input place
  if converted.notes.hasErrors then .error (Text.joinWith "\n" converted.notes.errors)
  else match converted.result with
    | some r => .ok r
    | none => .error (Diagnostics.located place (c.name ++ " did not produce a result"))

end Conversion

namespace Step

/-- The place of the item `i` of a list. -/
def itemPlace (place : String) (i : Nat) : String := place ++ "[" ++ toString i ++ "]"

def fieldPlace (place key : String) : String := place ++ "." ++ key

/-! ## In sequence -/

/-- Attributes that a list of steps modifies, each once. -/
def modifiedBy (steps : List Step) : List String := (steps.flatMap (·.modified)).eraseDups

/-- The notes of a failed step: at least one error, and every error names the step. -/
def blamed (step : Step) (place : String) (notes : Diagnostics) : Diagnostics :=
  let notes := if notes.hasErrors then notes else notes ++ .ofError place "no result was produced"
  { notes with errors := notes.errors.map fun e => "[" ++ step.name ++ "] " ++ e }

/-- Each step runs on the result of the one before; the first failure ends the run. -/
def runAll (place : String) : (steps : List Step) → Noted Document → Converted Document
  | [], current => current.finish
  | step :: rest, current =>
    let c := step.convert current.value place
    match c.isOk, c.result with
    | true, some r => runAll place rest ⟨r, current.notes ++ c.notes⟩
    | _, _ => ⟨none, current.notes ++ blamed step place c.notes⟩

def fuse (name doc : String) (steps : List Step) : Step where
  name := name
  doc := doc
  modified := modifiedBy steps
  convert input place := runAll place steps ⟨input, .empty⟩

/-! ## On parts of a document -/

/-- On one field of an object; without the field the document passes. -/
def on (key : String) (step : Step) : Step where
  name := "On(" ++ key ++ ", " ++ step.name ++ ")"
  modified := [key]
  convert input place :=
    match input with
    | .object fields =>
      match Fields.get? fields key with
      | some field =>
        (step.convert field (fieldPlace place key)).map fun d => .object (Fields.insert fields key d)
      | none => .success input
    | _ => .success input

/-- Every item with its place in the list, in order, with the results that there are. -/
def convertItems {β : Type} (step : Conversion Document β) (place : String) (items : List Document) : Noted (List β) := do
  let results ← Noted.each (fun (item, i) => Noted.absorb (step.convert item (itemPlace place i))) items.zipIdx
  pure (results.filterMap id)

/-- On every item of a list. -/
def each (step : Step) : Step where
  name := "Each(" ++ step.name ++ ")"
  modified := step.modified
  convert input place :=
    match input with
    | .list items => (convertItems step place items).finish.map .list
    | _ => .failure place "expected a list"

/-- On every item of a list; each gives any number of items. -/
def concat (step : Expansion) : Step where
  name := "Concat(" ++ step.name ++ ")"
  modified := step.modified
  convert input place :=
    match input with
    | .list items => (convertItems step place items).finish.map fun found => .list found.flatten
    | _ => .failure place "expected a list"

/-! ## Small steps -/

/-- Fills in a field that is missing or null; unless `onlyMissing`, also an empty text or list. -/
def setDefault (key : String) (value : Document) (onlyMissing : Bool) : Step where
  name := "SetDefault(" ++ key ++ ")"
  modified := [key]
  convert input place :=
    match input with
    | .object fields =>
      let missing := match Fields.get? fields key with
        | none | some .null => true
        | some (.text s) => !onlyMissing && s.isEmpty
        | some (.list items) => !onlyMissing && items.isEmpty
        | some _ => false
      .success (if missing then .object (Fields.insert fields key value) else input)
    | _ => .failure place "expected an object"

/-- Changes nothing. -/
def pass (name : String) : Step where
  name := name
  convert input _ := .success input

/-- Runs the step only on documents for which the test holds; others pass. -/
def bypass (test : Document → Bool) (step : Step) : Step where
  name := "Bypass(" ++ step.name ++ ")"
  modified := step.modified
  convert input place := if test input then step.convert input place else .success input

end Step

end MapTheme
