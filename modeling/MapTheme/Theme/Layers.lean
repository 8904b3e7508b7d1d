/-
  MapTheme.Theme.Layers — the list of layers of a theme document, and the steps that fill it: the
  layers of the personal theme, the override of all layers, and the layers that every theme has.
-/

import MapTheme.Document.Merge
import MapTheme.Document.Printer
import MapTheme.Library.Basic
import MapTheme.Step.Basic

namespace MapTheme.Theme

/-- The layers; none where there is no list. -/
def layersOf (theme : Document) : List Document := (theme.listAt? "layers").getD []

def withLayers (theme : Document) (layers : List Document) : Document :=
  match theme with
  | .object fields => .object (Fields.insert fields "layers" (.list layers))
  | _ => theme

def layerIdsOf (layers : List Document) : List String := layers.filterMap Document.id?

/-- The place of the layer `i`. -/
def layerPlace (place : String) (i : Nat) : String := Step.itemPlace (place ++ ".layers") i

/-! ## The personal theme -/

/-- The theme `personal` shows every public layer. -/
def preparePersonalTheme (lib : Library) : Step where
  name := "PreparePersonalTheme"
  modified := ["layers"]
  convert input place :=
    if input.id? == some "personal" then Noted.finish do
      let count := lib.publicLayers.length
      Noted.inform place s!"the personal theme shows {count} public layers"
      pure (withLayers input (lib.publicLayers.map .text))
    else .success input

/-! ## Layers defined inside themes -/

def isInline : Document → Bool
  | .object fields => !Fields.has fields "builtin"
  | _ => false

/-- Layers defined inside a theme cannot be used by others; themes in the overview are warned. -/
def warnForInlineLayers : Step where
  name := "WarnForUnsubstitutedLayersInTheme"
  convert input place :=
    if (input.get? "hideFromOverview").bind Document.bool? == some true then .success input
    else Noted.finish do
      Noted.forEach (fun (layer, i) =>
        if isInline layer then
          let id := layer.id?.getD "<unnamed>"
          Noted.warn (layerPlace place i)
            s!"layer '{id}' is defined inline; move it into its own layer file so that other themes can reuse it"
        else pure ()) (layersOf input).zipIdx
      pure input

/-! ## The override of all layers -/

/-- The override laid over a layer; none where it does not fit. -/
def overrideLayer (override : Document) (place : String) (layer : Document) : Noted (List Document) :=
  if !layer.isObject then do
    Noted.error place s!"layer {layer.compact} has not been substituted"
    pure []
  else match override.merge layer with
    | .ok d => pure [d]
    | .error fault => do
      Noted.error place s!"cannot apply overrideAll: {fault.message}"
      pure []

def withoutField (key : String) : Document → Document
  | .object fields => .object (Fields.erase fields key)
  | d => d

/-- Lays `overrideAll` over every layer and takes it out of the theme. -/
def applyOverrideAll : Step where
  name := "ApplyOverrideAll"
  modified := ["layers", "overrideAll"]
  convert input place :=
    let overridePlace := place ++ ".overrideAll"
    match input.get? "overrideAll" with
    | none => .success input
    | some (.object override) =>
      if Fields.has override "tagRenderings" then
        .failure overridePlace
          "overrideAll must not contain 'tagRenderings': it would replace the renderings of every layer. Use '+tagRenderings' or 'tagRenderings+' instead"
      else Noted.finish do
        let layers ← Noted.each (fun (layer, i) => overrideLayer (.object override) (layerPlace place i) layer)
          (layersOf input).zipIdx
        pure (withoutField "overrideAll" (withLayers input layers.flatten))
    | some _ => .failure overridePlace "overrideAll must be an object"

/-! ## Layers of every theme -/

/-- A default layer for a theme with layers of these ids. -/
def defaultLayer (lib : Library) (present : List String) (place id : String) : Noted (List Document) :=
  if present.contains id then do
    Noted.warn place
      s!"the theme defines a layer '{id}', which collides with a default layer; the default is not added"
    pure []
  else match lib.layers.find? id with
    | some layer => pure [layer]
    | none => do
      Noted.error place s!"default layer '{id}' is not a builtin layer"
      pure []

/-- Appends the layers that every theme has. -/
def addDefaultLayers (lib : Library) : Step where
  name := "AddDefaultLayers"
  modified := ["layers"]
  convert input place := Noted.finish do
    let layers := layersOf input
    let added ← Noted.each (defaultLayer lib (layerIdsOf layers) place) lib.settings.addedByDefault
    pure (withLayers input (layers ++ added.flatten))

end MapTheme.Theme
