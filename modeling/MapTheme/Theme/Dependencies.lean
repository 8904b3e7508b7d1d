/-
  MapTheme.Theme.Dependencies — the layers that the layers of a theme need.

  In rounds, every shared layer that is needed and not there is put before the layers, loaded for
  all features, until nothing is missing. Each round adds a shared layer that was not there, so one
  round more than there are shared layers is enough.
-/

import MapTheme.Layer.Dependency
import MapTheme.Theme.Layers

namespace MapTheme.Theme

open Layer (Dependency)

/-- The dependencies of a list of layers, each layer noted if it does not build. -/
def allDependencies (place : String) (layers : List Document) : Noted (List Dependency) := do
  let found ← Noted.each (fun (layer, i) =>
    match Config.Layer.ofDocument (layerPlace place i) layer with
    | .ok l => pure (Layer.dependencies l)
    | .error fault => do
      Noted.error place s!"cannot compute dependencies: {fault.message}"
      pure []) layers.zipIdx
  pure found.flatten

/-- The first dependency on each layer that is not among `present`. -/
def missingAmong (present : List String) : List Dependency → List Dependency
  | [] => []
  | d :: rest =>
    if present.contains d.needed then missingAmong present rest
    else d :: missingAmong (d.needed :: present) rest

def missing (place : String) (layers : List Document) : Noted (List Dependency) := do
  let found ← allDependencies place layers
  pure (missingAmong (layerIdsOf layers) found)

/-- A layer marked as loaded for another one. -/
def markedFor (reason : String) : Document → Document
  | .object fields =>
    .object (Fields.insert (Fields.insert (Fields.insert fields "forceLoad" (.bool true))
      "passAllFeatures" (.bool true)) "description" (.text reason))
  | d => d

/-- The shared layer for a dependency, with a note. -/
def inject (lib : Library) (place theme : String) (d : Dependency) : Noted (List Document) :=
  let reason := d.reason.text
  match lib.layers.find? d.needed with
  | some layer => do
    Noted.inform place s!"added '{d.needed}' as dependency of '{d.neededBy}': {reason}"
    pure [markedFor reason layer]
  | none => do
    Noted.error d.place
      s!"layer '{d.needed}' is needed by '{d.neededBy}' ({reason}), but it was not found, neither as layer of {theme} nor as builtin layer"
    pure []

/-- Rounds of adding what is missing; an error or nothing missing ends them. -/
def addMissing (lib : Library) (place theme : String) : (rounds : Nat) → List Document → Noted (List Document)
  | 0, layers => pure layers
  | rounds + 1, layers =>
    let wanted := missing place layers
    if wanted.notes.hasErrors || wanted.value.isEmpty then ⟨layers, wanted.notes⟩
    else
      let added := Noted.each (inject lib place theme) wanted.value
      if added.notes.hasErrors then ⟨layers, wanted.notes ++ added.notes⟩
      else
        let rest := addMissing lib place theme rounds (added.value.flatten ++ layers)
        ⟨rest.value, wanted.notes ++ added.notes ++ rest.notes⟩

def addDependencyLayers (lib : Library) : Step where
  name := "AddDependencyLayersToTheme"
  doc := "Adds the layers which other layers need, e.g. to snap onto"
  modified := ["layers"]
  convert input place :=
    match input.listAt? "layers" with
    | none => .failure place "the theme has no list of layers"
    | some layers => Noted.finish do
      let layers ← addMissing lib place (input.id?.getD "<unnamed>") (lib.layers.length + 1) layers
      pure (withLayers input layers)

end MapTheme.Theme
