/-
  MapTheme.Theme.NodeDatabase — themes whose texts call a visualisation that needs all nodes.
-/

import MapTheme.Rendering.Reference
import MapTheme.Special.Registry
import MapTheme.Theme.Layers

namespace MapTheme.Theme

def needsNodes (call : Special.Call) : Bool := ((Special.find? call.name).map (·.needsNodes)).getD false

/-- The calls in the renderings of a layer, then those in its title. -/
def callsOfLayer (layer : Document) : List Special.Call :=
  (Rendering.ofLayer layer ++ (layer.get? "title").toList).flatMap Special.callsInRendering

def addNodeDatabaseFlag : Step where
  name := "AddNodeDatabaseFlag"
  modified := ["enableNodeDatabase"]
  convert input place :=
    match ((layersOf input).flatMap callsOfLayer).find? needsNodes with
    | none => .success input
    | some call => Noted.finish do
      Noted.inform place s!"enabling the node database: '{call.name}' needs it"
      match input with
      | .object fields => pure (.object (Fields.insert fields "enableNodeDatabase" (.bool true)))
      | _ => pure input

end MapTheme.Theme
