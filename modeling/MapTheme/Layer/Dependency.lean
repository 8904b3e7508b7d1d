/-
  MapTheme.Layer.Dependency — the layers that a finished layer cannot work without.

  A layer needs the layers that its presets snap to, those that its texts name as arguments of
  special visualisations, and those that the expressions of its calculated tags look into. It never
  needs itself, and each dependency is listed once.
-/

import MapTheme.Config.Layer
import MapTheme.Special.Registry
import MapTheme.Special.Template

namespace MapTheme.Layer

/-- Why a layer needs another one. -/
inductive Reason
  | snapping
  | argument (visualisation name : String)
  | calculation (key function : String)
  deriving DecidableEq, Repr

def Reason.text : Reason → String
  | snapping => "a preset snaps to this layer"
  | argument visualisation name => s!"{visualisation} uses this layer as '{name}'"
  | calculation key function => s!"the calculated tag '{key}' calls {function} on this layer"

structure Dependency where
  needed : String
  neededBy : String
  reason : Reason
  place : String
  deriving DecidableEq, Repr

/-! ## Layers in expressions -/

/-- Functions of expressions that take a layer first. -/
def layerFunctions : List String := ["overlapWith", "closestn", "closest", "intersectionsWith"]

def isIdChar (c : Char) : Bool := c.isAlphanum || c = '_' || c = '-'

def isQuote (c : Char) : Bool := c = '"' || c = '\''

/-- A quoted id at the start of a text, after blanks. -/
def quotedId? (s : List Char) : Option (String × List Char) :=
  match s.dropWhile Text.isBlank with
  | [] => none
  | q :: r =>
    match r.dropWhile isIdChar with
    | [] => none
    | q' :: rest =>
      if isQuote q && isQuote q' && !(r.takeWhile isIdChar).isEmpty then
        some (String.ofList (r.takeWhile isIdChar), rest)
      else none

/-- A call `function("id"` of one function. -/
def callOf? (function : String) (s : List Char) : Option ((String × String) × List Char) :=
  match Text.after? (function.toList ++ ['(']) s with
  | none => none
  | some r => (quotedId? r).map fun (id, rest) => ((function, id), rest)

/-- The function and the layer of the call that a text starts with, from the point before it on. -/
def layerCallAt? : Text.Recogniser (String × String)
  | '.' :: r => layerFunctions.findSome? fun function => callOf? function r
  | _ => none

theorem length_of_quotedId? {s r : List Char} {id : String} (h : quotedId? s = some (id, r)) : r.length < s.length := by
  unfold quotedId? at h
  split at h
  · simp at h
  · rename_i q t hq
    split at h
    · simp at h
    · rename_i q' rest hr
      split at h
      · simp only [Option.some.injEq, Prod.mk.injEq] at h
        have h1 := Text.length_dropWhile_le Text.isBlank s
        have h2 := Text.length_dropWhile_le isIdChar t
        rw [hq] at h1
        rw [hr] at h2
        rw [← h.2]
        simp only [List.length_cons] at h1 h2
        omega
      · simp at h

theorem length_of_callOf? {function : String} {s r : List Char} {found : String × String}
    (h : callOf? function s = some (found, r)) : r.length < s.length := by
  unfold callOf? at h
  split at h
  · simp at h
  · rename_i t ht
    obtain ⟨⟨id, rest⟩, hx, he⟩ := Option.map_eq_some_iff.mp h
    simp only [Prod.mk.injEq] at he
    have h1 := Text.length_of_after? ht
    have h2 := length_of_quotedId? (he.2 ▸ hx)
    omega

theorem layerCallAt?_progresses : Text.Recogniser.Progresses layerCallAt? := by
  intro s r a h
  unfold layerCallAt? at h
  split at h
  · obtain ⟨function, _, hf⟩ := List.exists_of_findSome?_eq_some h
    have := length_of_callOf? hf
    simp only [List.length_cons]
    omega
  · simp at h

/-- The functions with the layers that an expression calls them on. -/
def layerCalls (expression : String) : List (String × String) :=
  Text.scan layerCallAt? layerCallAt?_progresses expression.toList

/-! ## Dependencies -/

open Config (Rendering)

/-- A layer that is needed, for what and where; before it is known by whom. -/
abbrev Need := String × Reason × String

def presetNeeds (l : Config.Layer) : List Need :=
  l.presets.zipIdx.flatMap fun (preset, i) =>
    preset.snapsTo.map fun id => (id, .snapping, s!"{l.id}.presets[{i}].preciseInput.snapToLayer")

/-- The layers that a call names. -/
def callNeeds (place : String) (call : Special.Call) : List Need :=
  match Special.find? call.name with
  | none => []
  | some v =>
    (v.resolve call.arguments).flatMap fun (a, value) =>
      if a.isLayer then
        ((value.map Config.splitIds).getD []).map fun id => (id, .argument call.name a.name, place)
      else []

def renderingNeeds (place : String) (r : Rendering) : List Need :=
  (Special.callsOfTexts r.shownTexts).flatMap (callNeeds place)

def textNeeds (l : Config.Layer) : List Need :=
  let title := (l.title.map (renderingNeeds (l.id ++ ".title"))).getD []
  title ++ l.renderings.zipIdx.flatMap fun (r, i) => renderingNeeds s!"{l.id}.tagRenderings[{i}]" r

def calculationNeeds (l : Config.Layer) : List Need :=
  l.calculatedTags.zipIdx.flatMap fun ((key, expression), i) =>
    (layerCalls expression).map fun (function, id) =>
      (id, .calculation key function, s!"{l.id}.calculatedTags[{i}]")

/-- The dependencies of a layer, in the order in which they are found. -/
def dependencies (l : Config.Layer) : List Dependency :=
  let needs := presetNeeds l ++ textNeeds l ++ calculationNeeds l
  let others := needs.filter fun (id, _, _) => id != l.id
  (others.map fun (id, reason, place) => ⟨id, l.id, reason, place⟩).eraseDups

end MapTheme.Layer
