/-
  MapTheme.Layer.Validation — does a finished layer make sense?

  A layer has to build, every answer that is offered has to be writable, and every call has to name
  a known visualisation. Warnings tell of mappings that are never shown, of answers that erase the
  value of a freeform key, and of presets whose features the layer would not show.
-/

import MapTheme.Config.Layer
import MapTheme.Filter.Answer
import MapTheme.Special.Registry
import MapTheme.Special.Template
import MapTheme.Step.Basic
import MapTheme.Text.Suggestion

namespace MapTheme.Layer

variable [Pattern.Engine]

open Config (Rendering Mapping)

def checkAnswer (r : Rendering) (m : Mapping) (place : String) : Noted Unit :=
  if r.isQuestion && !m.isHidden && !m.holdsIf.isUsable then
    let answer := m.holdsIf.toText
    Noted.error place
      s!"'{answer}' is offered as an answer but can not be written to a feature; use plain key=value tags or set hideInAnswer"
  else pure ()

/-- Is an earlier mapping shown wherever this one would be? -/
def checkShadowed (r : Rendering) (earlier : List Mapping) (m : Mapping) (place : String) : Noted Unit :=
  if r.multiAnswer then pure ()
  else match earlier.zipIdx.find? fun (e, _) => m.holdsIf.implies e.holdsIf with
    | some (e, i) =>
      let first := e.holdsIf.toText
      let second := m.holdsIf.toText
      Noted.warn place s!"this mapping is never shown: mapping {i} ('{first}') matches whenever '{second}' does"
    | none => pure ()

/-- Does choosing the answer write an empty value to the key? -/
def erases (f : Filter) (key : String) : Bool :=
  match f.change .empty with
  | .ok change => change.any fun (k, v) => k = key && v.isEmpty
  | .error _ => false

def checkErasing (r : Rendering) (m : Mapping) (place : String) : Noted Unit :=
  match r.freeform with
  | some freeform =>
    if erases m.holdsIf freeform.key && !m.isHidden then
      Noted.warn place s!"choosing this mapping erases the value of the freeform key '{freeform.key}'"
    else pure ()
  | none => pure ()

/-- The mappings of a rendering, each beside those before it. -/
def checkMappings (r : Rendering) (place : String) (earlier : List Mapping) : List Mapping → Noted Unit
  | [] => pure ()
  | m :: rest => do
    let mappingPlace := s!"{place}.mappings[{earlier.length}]"
    checkAnswer r m mappingPlace
    checkShadowed r earlier m mappingPlace
    checkErasing r m mappingPlace
    checkMappings r place (earlier ++ [m]) rest

def checkCalls (texts : List String) (place : String) : Noted Unit :=
  Noted.forEach (fun call =>
    if (Special.find? call.name).isSome then pure ()
    else
      let suggestion := Text.hint call.name Special.names
      Noted.error place s!"unknown special visualisation '{call.name}'.{suggestion}") (Special.callsOfTexts texts)

/-- The properties of a new feature: the tags written one after the other, those that can be. -/
def newFeature (tags : List Filter) : Properties :=
  tags.foldl (fun p tag =>
    match tag.change p with
    | .ok change => change.foldl (fun p (k, v) => p.insert k v) p
    | .error _ => p) .empty

def checkPresets (l : Config.Layer) (place : String) : Noted Unit :=
  match l.source with
  | some source =>
    if !source.isMapData then pure ()
    else Noted.forEach (fun (preset, i) =>
      if source.filter.holds (newFeature preset.tags) then pure ()
      else
        let title := preset.title.text?.getD ""
        let filter := source.filter.toText
        Noted.warn s!"{place}.presets[{i}]"
          s!"a feature created by preset '{title}' does not match the source filter '{filter}'; it would vanish after creation")
      l.presets.zipIdx
  | none => pure ()

def checkLayer (l : Config.Layer) (place : String) : Noted Unit := do
  match l.title with
  | some title => checkCalls title.shownTexts (place ++ ".title")
  | none => pure ()
  Noted.forEach (fun (r, i) => do
    let renderingPlace := s!"{place}.tagRenderings[{i}]"
    checkMappings r renderingPlace [] r.mappings
    checkCalls r.shownTexts renderingPlace) l.renderings.zipIdx
  checkPresets l place

def validateLayer : Step where
  name := "ValidateLayer"
  doc := "Checks that a layer is complete and consistent"
  convert input place :=
    match Config.Layer.ofDocument place input with
    | .error fault => ⟨none, { errors := [fault.message] }⟩
    | .ok l => Noted.finish do
      checkLayer l place
      pure input

end MapTheme.Layer
