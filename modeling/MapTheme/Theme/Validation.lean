/-
  MapTheme.Theme.Validation — does a finished theme make sense?

  A theme has an id, a title and layers with distinct ids. Each layer is checked, but for those that
  are the same as the shared layer of their id, which was checked on its own. If nothing is wrong so
  far, the theme has to build.
-/

import MapTheme.Config.Theme
import MapTheme.Layer.Validation
import MapTheme.Theme.Layers

namespace MapTheme.Theme

def checkId (theme : Document) (place : String) : Noted Unit :=
  match theme.id? with
  | some id =>
    if Config.isValidId id then pure ()
    else Noted.error place s!"invalid theme id '{id}': only lowercase letters, digits, '_' and '-' are allowed"
  | none => Noted.error place "the theme has no id"

def checkTitle (theme : Document) (place : String) : Noted Unit :=
  if (theme.get? "title").isSome then pure () else Noted.error place "the theme has no title"

/-- Is the layer the shared layer of its id? -/
def isShared (lib : Library) (id : String) (layer : Document) : Bool :=
  match lib.layers.find? id with
  | some shared => shared.same layer
  | none => false

/-- Layers from number `index` on; `seen` are the ids of those before. -/
def checkLayers (lib : Library) (place : String) (seen : List String) (index : Nat) : List Document → Noted Unit
  | [] => pure ()
  | layer :: rest => do
    let here := layerPlace place index
    match layer.id? with
    | none => do
      Noted.error here s!"layer {layer.compact} has not been substituted"
      checkLayers lib place seen (index + 1) rest
    | some id =>
      if seen.contains id then do
        Noted.error here s!"duplicate layer id '{id}'"
        checkLayers lib place seen (index + 1) rest
      else do
        if isShared lib id layer then pure ()
        else do
          let _ ← Noted.absorb (Layer.validateLayer.convert layer here)
        checkLayers lib place (id :: seen) (index + 1) rest

/-- A theme without errors so far has to build. -/
def checkBuild (theme : Document) (checked : Noted Unit) : Noted Unit :=
  if checked.notes.hasErrors then checked
  else do
    checked
    match Config.Theme.ofDocument "themes" theme with
    | .ok _ => pure ()
    | .error fault => Noted.problem fault.message

def validateTheme (lib : Library) : Step where
  name := "ValidateTheme"
  doc := "Checks that a theme is complete and consistent"
  convert input place :=
    let head : Noted Unit := do
      checkId input place
      checkTitle input place
    let layers := layersOf input
    if layers.isEmpty then ⟨none, (do head; Noted.error place "the theme has no layers" : Noted Unit).notes⟩
    else
      let checked : Noted Unit := do
        head
        checkLayers lib place [] 0 layers
      Noted.finish do
        checkBuild input checked
        pure input

end MapTheme.Theme
