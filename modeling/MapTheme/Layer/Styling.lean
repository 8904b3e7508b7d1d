/-
  MapTheme.Layer.Styling — the old way to style a layer.

  Fields of the layer itself once described the point and the line by which it is drawn. They are
  moved into a `mapRendering` list, or dropped if the layer already has one.
-/

import MapTheme.Step.Basic

namespace MapTheme.Layer

def pointFields : List String := ["icon", "iconSize", "label", "rotation"]
def lineFields : List String := ["color", "width", "dashArray"]

/-- Takes the named fields out of an object, in the order of the names: those taken and the rest. -/
def takeFields (names : List String) (fields : Fields) : Fields × Fields :=
  names.foldl (fun (taken, rest) name =>
    match Fields.get? rest name with
    | some d => (Fields.insert taken name d, Fields.erase rest name)
    | none => (taken, rest)) ([], fields)

/-- How ways are drawn: 0 as lines only, 1 as points only, more as both. -/
def wayHandling (fields : Fields) : Nat :=
  match Fields.get? fields "wayHandling" with
  | some (.number (.whole n)) => n.toNat
  | _ => 0

def drawings (handling : Nat) (point line : Fields) : List Document :=
  let places := if handling = 0 then ["point"] else ["point", "centroid"]
  let points := if point.isEmpty then [] else [Document.object (Fields.insert point "location" (.texts places))]
  let lines := if line.isEmpty || handling = 1 then [] else [Document.object line]
  points ++ lines

def hasOldStyle (fields : Fields) : Bool := (pointFields ++ lineFields).any (Fields.has fields)

def moveStyle (fields : Fields) : Fields :=
  let (point, rest) := takeFields pointFields fields
  let (line, rest) := takeFields lineFields rest
  let handling := wayHandling rest
  let rest := Fields.erase rest "wayHandling"
  if Fields.has rest "mapRendering" then rest
  else Fields.insert rest "mapRendering" (.list (drawings handling point line))

def moveOldStyle : Step where
  name := "RewriteLegacyMapRendering"
  modified := pointFields ++ lineFields ++ ["mapRendering", "wayHandling"]
  convert input place :=
    match input with
    | .object fields =>
      if !hasOldStyle fields then .success input
      else Noted.finish do
        if Fields.has fields "mapRendering" then
          Noted.warn place
            "the layer has a mapRendering; the legacy icon/color/width fields are ignored and removed"
        pure (.object (moveStyle fields))
    | _ => .failure place "expected a layer object"

end MapTheme.Layer
