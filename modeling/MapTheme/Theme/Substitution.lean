/-
  MapTheme.Theme.Substitution — the entries of a theme's list of layers as layers.

  An entry is the id of a shared layer, an object with `builtin` (one id or several), `override` and
  `hideTagRenderingsWithLabels`, or a layer itself. An override may add renderings but not replace
  the list of them, and every label has to hide something in every layer.
-/

import MapTheme.Document.Merge
import MapTheme.Document.Printer
import MapTheme.Library.Basic
import MapTheme.Rendering.Copies

namespace MapTheme.Theme

inductive SubstitutionFault
  | unknown (name suggestion : String)
  | badNames
  | replacesRenderings
  | badOverride
  | badLabels
  | overrideMisfit (fault : MergeFault)
  | uselessLabel (label layer : String)
  | notAnEntry (d : Document)

def SubstitutionFault.message : SubstitutionFault → String
  | unknown name suggestion => s!"layer '{name}' not found as a builtin layer.{suggestion}"
  | badNames => "'builtin' must be a layer id or a list of layer ids"
  | replacesRenderings =>
    "the override of a builtin layer must not contain 'tagRenderings': it would replace every builtin rendering. Use '+tagRenderings' to prepend or 'tagRenderings+' to append renderings instead"
  | badOverride => "'override' must be an object"
  | badLabels => "'hideTagRenderingsWithLabels' must be a list of labels"
  | overrideMisfit fault => s!"cannot apply the override: {fault.message}"
  | uselessLabel label layer =>
    s!"hideTagRenderingsWithLabels: the label '{label}' did not remove any tag rendering from layer '{layer}'"
  | notAnEntry d => s!"invalid layer entry {d.compact}"

/-- Does a rendering carry the label, as a label, its id or its group? -/
def hasLabel (rendering : Document) (label : String) : Bool :=
  match rendering with
  | .text id => id = label
  | .object _ =>
    rendering.id? == some label || rendering.textAt? "group" == some label
      || ((rendering.listAt? "labels").getD []).any fun l => l.text? == some label
  | _ => false

def hasSomeLabel (labels : List String) (rendering : Document) : Bool := labels.any (hasLabel rendering)

/-- The layer without the renderings that carry a label. -/
def hide (labels : List String) (layer : Document) : Document :=
  match layer with
  | .object fields =>
    match Fields.get? fields "tagRenderings" with
    | some (.list renderings) =>
      .object (Fields.insert fields "tagRenderings" (.list (renderings.filter (!hasSomeLabel labels ·))))
    | _ => layer
  | _ => layer

/-- An entry that refers to shared layers. -/
structure LayerEntry where
  names : List String
  override : Option Document
  labels : List String

def overrideOf (entry : Fields) : Except SubstitutionFault (Option Document) :=
  match Fields.get? entry "override" with
  | none => .ok none
  | some (.object override) =>
    if Fields.has override "tagRenderings" then .error .replacesRenderings else .ok (some (.object override))
  | some _ => .error .badOverride

def LayerEntry.ofFields (entry : Fields) (builtin : Document) : Except SubstitutionFault LayerEntry :=
  match Rendering.textList? builtin with
  | none => .error .badNames
  | some names =>
    match overrideOf entry with
    | .error fault => .error fault
    | .ok override =>
      match Fields.get? entry "hideTagRenderingsWithLabels" with
      | none => .ok ⟨names, override, []⟩
      | some d =>
        match Rendering.textList? d with
        | none => .error .badLabels
        | some labels => .ok ⟨names, override, labels⟩

/-- A shared layer with the override laid over it. -/
def overriddenLayer (lib : Library) (e : LayerEntry) (name : String) : Except SubstitutionFault Document :=
  match lib.layers.find? name with
  | none => .error (.unknown name (lib.layers.hint name))
  | some layer =>
    match e.override with
    | none => .ok layer
    | some override =>
      match override.merge layer with
      | .ok d => .ok d
      | .error fault => .error (.overrideMisfit fault)

/-- The layer without labelled renderings, with a note on their number and on every label without effect. -/
def hideNoted (e : LayerEntry) (place name : String) (layer : Document) : Noted Document := do
  let renderings := (layer.listAt? "tagRenderings").getD []
  let count := (renderings.filter (hasSomeLabel e.labels)).length
  Noted.inform place s!"hid {count} tag renderings of layer '{name}'"
  let useless := e.labels.filter fun l => !renderings.any (hasLabel · l)
  Noted.forEach (fun l => Noted.error place (SubstitutionFault.uselessLabel l name).message) useless
  pure (hide e.labels layer)

/-- The layer that a name in the entry stands for; none if there is something wrong with it. -/
def layerFor (lib : Library) (e : LayerEntry) (place name : String) : Noted (List Document) :=
  match overriddenLayer lib e name with
  | .error fault => do
    Noted.error place fault.message
    pure []
  | .ok layer =>
    if e.labels.isEmpty then pure [layer]
    else do
      let layer ← hideNoted e place name layer
      pure [layer]

def substituteLayer (lib : Library) : Expansion where
  name := "SubstituteLayer"
  doc := "Replaces references to builtin layers by their definition, applying overrides"
  convert input place :=
    match input with
    | .text name => (layerFor lib ⟨[name], none, []⟩ place name).finish
    | .object entry =>
      match Fields.get? entry "builtin" with
      | none => .success [input]
      | some builtin =>
        match LayerEntry.ofFields entry builtin with
        | .error fault => .failure place fault.message
        | .ok e => (Noted.each (layerFor lib e place) e.names).finish.map List.flatten
    | d => .failure place (SubstitutionFault.notAnEntry d).message

end MapTheme.Theme
