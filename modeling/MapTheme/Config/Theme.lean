/-
  MapTheme.Config.Theme — a finished theme: layers in order, and what is shown around them.
-/

import MapTheme.Config.Layer

namespace MapTheme.Config

structure Theme where
  id : String
  title : Wording
  description : Option Wording
  /-- Earlier layers claim features first. -/
  layers : List Layer
  startZoom : Binary64
  startLat : Binary64
  startLon : Binary64
  socialImage : Option String
  hideFromOverview : Bool
  enableNodeDatabase : Bool
  deriving Repr

namespace Theme

def shape : Shape :=
  .record "LayoutConfigJson"
    [("id", .always, .text), ("title", .inList, .any), ("description", .never, .any), ("layers", .never, .list .any),
     ("startZoom", .never, .number), ("startLat", .never, .number), ("startLon", .never, .number),
     ("socialImage", .never, .optional .text), ("hideFromOverview", .never, .flag),
     ("enableNodeDatabase", .never, .flag)]

/-- The layers with distinct ids; `seen` are the ids of those before. -/
def readLayers (place : String) (seen : List String) (index : Nat) : List Document → Except Fault (List Layer)
  | [] => .ok []
  | d :: rest =>
    let layerPlace := s!"{place}.layers[{index}]"
    if !d.isObject then .error (.invalid layerPlace (.notSubstituted d))
    else do
      let layer ← Layer.ofDocument layerPlace d
      if seen.contains layer.id then .error (.invalid layerPlace (.duplicate "layer" layer.id))
      else
        let layers ← readLayers place (layer.id :: seen) (index + 1) rest
        .ok (layer :: layers)

def ofDocument (outer : String) (d : Document) : Except Fault Theme := do
  let fields ← readShape shape outer d
  let id := fields.textOr "id" ""
  let place := outer ++ ":" ++ id
  if !isValidId id then .error (.invalid place (.badThemeId id))
  else
    let title ← match fields.given? "title" with
      | some d => Wording.ofDocument (place ++ ".title") d
      | none => .error (.invalid place .noTitle)
    let documents := fields.itemsAt "layers"
    if documents.isEmpty then .error (.invalid place .noLayers)
    else
      let layers ← readLayers place [] 0 documents
      let description ← readOptional (Wording.ofDocument (place ++ ".description")) (fields.given? "description")
      let number := fun key => ((Fields.get? fields key).bind Document.number?).getD (Binary64.ofInt 0)
      .ok {
        id, title, description, layers
        startZoom := number "startZoom"
        startLat := number "startLat"
        startLon := number "startLon"
        socialImage := fields.textGiven? "socialImage"
        hideFromOverview := fields.flagAt "hideFromOverview"
        enableNodeDatabase := fields.flagAt "enableNodeDatabase" }

def layer? (t : Theme) (id : String) : Option Layer := t.layers.find? (·.id == id)

end Theme

end MapTheme.Config
