/-
  MapTheme.Layer.Additions — what layers get from the library beside renderings: title icons, filters,
  a small map and a box with the open questions.
-/

import MapTheme.Library.Basic
import MapTheme.Rendering.Reference
import MapTheme.Step.Basic

namespace MapTheme.Layer

/-- A title icon by name; `defaults` stands for every shared rendering with that label. -/
def expandTitleIcon (lib : Library) : Expansion where
  name := "ExpandTitleIcon"
  convert input place :=
    match input with
    | .text name =>
      if name = "defaults" then
        .success (lib.renderings.documents.filter fun r =>
          ((r.listAt? "labels").getD []).any fun l => l.text? == some "defaults")
      else match lib.renderings.find? name with
        | some rendering => .success [rendering]
        | none =>
          let suggestion := lib.renderings.hint name
          .failure place s!"title icon '{name}' not found.{suggestion}"
    | d => .success [d]

/-- The filters that the library's layer `filters` offers. -/
def sharedFilters (lib : Library) : List Document :=
  ((lib.layers.find? "filters").bind (Document.listAt? · "filter")).getD []

/-- A filter by name. -/
def expandFilter (lib : Library) : Expansion where
  name := "ExpandFilter"
  convert input place :=
    match input with
    | .text name =>
      match (sharedFilters lib).find? fun f => f.id? == some name with
      | some found => .success [found]
      | none =>
        let suggestion := Text.hint name ((sharedFilters lib).filterMap Document.id?)
        .failure place s!"filter '{name}' not found in the builtin filters.{suggestion}"
    | d => .success [d]

/-- Does some rendering of the layer call the visualisation? -/
def calls (layer : Document) (name : String) : Bool :=
  (Rendering.ofLayer layer).any fun r => (Special.callsInRendering r).any (·.name == name)

def isPrivileged (lib : Library) (layer : Document) : Bool :=
  (layer.id?.map lib.settings.isPrivileged).getD false

/-- The layer with one more rendering at the end of its list, if it has one. -/
def withRendering (layer rendering : Document) : Document :=
  match layer with
  | .object fields =>
    match Fields.get? fields "tagRenderings" with
    | some (.list renderings) => .object (Fields.insert fields "tagRenderings" (.list (renderings ++ [rendering])))
    | _ => layer
  | _ => layer

def needsMiniMap (lib : Library) (layer : Document) : Bool :=
  let renderings := Rendering.ofLayer layer
  !isPrivileged lib layer && !renderings.isEmpty && !renderings.any (fun r => r.id? == some "minimap")
    && !calls layer "minimap"

/-- Layers that show no small map get the shared rendering of one. -/
def addMiniMap (lib : Library) : Step where
  name := "AddMiniMap"
  modified := ["tagRenderings"]
  convert input _ :=
    match lib.renderings.find? "minimap" with
    | some minimap => .success (if needsMiniMap lib input then withRendering input minimap else input)
    | none => .success input

def questionBox : Document :=
  .object [("id", .text "leftover-questions"), ("render", .object [("*", .text "\x7bquestions()\x7d")])]

def needsQuestionBox (lib : Library) (layer : Document) : Bool :=
  lib.settings.addQuestionBox && !isPrivileged lib layer
    && (Rendering.ofLayer layer).any (fun r => (r.get? "question").isSome) && !calls layer "questions"

/-- Layers with questions that they show nowhere get a box with those still open. -/
def addQuestionBox (lib : Library) : Step where
  name := "AddQuestionBox"
  modified := ["tagRenderings"]
  convert input _ := .success (if needsQuestionBox lib input then withRendering input questionBox else input)

end MapTheme.Layer
