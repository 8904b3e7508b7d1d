/-
  MapTheme.Rendering.Reference — references to renderings that are defined elsewhere.

  An entry of a list of renderings is the name of a shared rendering, `layer.id` or `layer.*` for
  renderings of a shared layer, a text with a call of a special visualisation, an object with
  `builtin` (such names) and `override` (laid over what they stand for), a block of copies, or a
  rendering itself. References inside layers are followed at most `maxDepth` deep, which ends cycles.
-/

import MapTheme.Document.Merge
import MapTheme.Document.Printer
import MapTheme.Library.Basic
import MapTheme.Rendering.Copies
import MapTheme.Special.Template

namespace MapTheme.Rendering

def maxDepth : Nat := 8

/-- Renderings that the compiler adds; `layer.*` leaves them out. -/
def generatedIds : List String := ["leftover-questions", "minimap"]

/-- The list of renderings of a layer; empty where there is none. -/
def ofLayer (layer : Document) : List Document := (layer.listAt? "tagRenderings").getD []

/-- The id of a rendering that is written as a call: its letters, digits and underscores. -/
def inlineId (template : String) : String := String.ofList (template.toList.filter fun c => c.isAlphanum || c = '_')

def inlineRendering (template : String) : Document :=
  .object [("id", .text (inlineId template)), ("render", .text template)]

inductive ReferenceFault
  | tooDeep (name : String)
  /-- More blocks of copies stand inside each other than are followed. -/
  | exhausted
  | unknown (name suggestion : String)
  | unknownLayer (layer id suggestion : String)
  | unknownInLayer (layer id suggestion : String)
  | badNames
  | notARendering (d : Document)

def ReferenceFault.message : ReferenceFault → String
  | tooDeep name => s!"tag rendering '{name}' is nested too deeply; is there a reference cycle?"
  | exhausted => "blocks of copies are nested too deeply"
  | unknown name suggestion => s!"tag rendering '{name}' not found.{suggestion}"
  | unknownLayer layer id suggestion =>
    s!"layer '{layer}' not found while resolving tag rendering '{layer}.{id}'.{suggestion}"
  | unknownInLayer layer id suggestion => s!"tag rendering '{id}' not found in layer '{layer}'.{suggestion}"
  | badNames => "'builtin' must be a tag rendering id or a list of ids"
  | notARendering d => s!"invalid tag rendering {d.compact}"

/-- Notes the fault; there is nothing to show for the reference. -/
def unresolved (place : String) (fault : ReferenceFault) : Noted (List Document) := do
  Noted.error place fault.message
  pure []

/-- Does a rendering with this id belong to `layer.wanted`? -/
def isWanted (wanted id : String) : Bool :=
  if wanted = "*" then !generatedIds.contains id else id = wanted

def idOrEmpty (rendering : Document) : String := rendering.id?.getD ""

def isBlock (fields : Fields) : Bool := Fields.has fields "builtin" || Fields.has fields "rewrite"

/-- What one entry of a layer's list gives for `layer.wanted`; `expand` resolves entries. -/
def selectEntry (expand : Document → Noted (List Document)) (wanted : String) (entry : Document) :
    Noted (List Document) :=
  match entry with
  | .text reference => if wanted = "*" || reference = wanted then expand entry else pure []
  | .object fields =>
    if isBlock fields then do
      let found ← expand entry
      pure (found.filter fun r => isWanted wanted (idOrEmpty r))
    else pure (if isWanted wanted (idOrEmpty entry) then [entry] else [])
  | _ => pure []

/-- The ids and names in a layer's list. -/
def listedNames (renderings : List Document) : List String :=
  renderings.filterMap fun r => r.id?.or r.text?

def lookUpInLayer (lib : Library) (expand : Document → Noted (List Document)) (layer wanted place : String) :
    Noted (List Document) :=
  match lib.layers.find? layer with
  | none => unresolved place (.unknownLayer layer wanted (lib.layers.hint layer))
  | some d => do
    let renderings := ofLayer d
    let found := (← Noted.each (selectEntry expand wanted) renderings).flatten
    if found.isEmpty && wanted != "*" then
      unresolved place (.unknownInLayer layer wanted (Text.hint wanted (listedNames renderings)))
    else pure found

/-- What a name stands for; `expand` resolves the entries of other layers. -/
def lookUp (lib : Library) (tooDeep : Bool) (expand : Document → Noted (List Document)) (place name : String) :
    Noted (List Document) :=
  if tooDeep then unresolved place (.tooDeep name)
  else match lib.renderings.find? name with
    | some rendering => pure [rendering]
    | none =>
      if !(Special.calls name).isEmpty then pure [inlineRendering name]
      else match Text.cutAt? '.' name.toList with
        | some (layer, id) => lookUpInLayer lib expand (String.ofList layer) (String.ofList id) place
        | none => unresolved place (.unknown name (lib.renderings.hint name))

/-- An override laid over each rendering; those it does not fit are left out. -/
def overlay (place : String) (override : Document) (renderings : List Document) : Noted (List Document) := do
  let merged ← Noted.each (fun r =>
    match override.merge r with
    | .ok d => pure [d]
    | .error fault => do
      Noted.error place fault.message
      pure []) renderings
  pure merged.flatten

/-- One entry fully resolved. `depth` counts the references and blocks around it, `limit` is how many
there may be around a name. The fuel is spent on the same levels: a name ends at the limit, and copies of copies,
which nothing else ends, when it is spent. -/
def expandEntry (lib : Library) (limit : Nat) (place : String) : (fuel depth : Nat) → Document → Noted (List Document)
  | 0, _, _ => unresolved place .exhausted
  | fuel + 1, depth, entry =>
    let inner := expandEntry lib limit place fuel (depth + 1)
    let named := lookUp lib (limit < depth) inner place
    match entry with
    | .text name => named name
    | .object fields =>
      if Fields.has fields "rewrite" then do
        match ← Noted.absorb (expandCopies.convert entry place) with
        | none => pure []
        | some copies => return (← Noted.each inner copies).flatten
      else match Fields.get? fields "builtin" with
        | some builtin =>
          match textList? builtin with
          | none => unresolved place .badNames
          | some names => do
            let override := (Fields.get? fields "override").getD (.object [])
            let found ← Noted.each (fun name => do overlay place override (← named name)) names
            pure found.flatten
        | none => pure [entry]
    | d => unresolved place (.notARendering d)

def resolve (lib : Library) (limit : Nat) (place : String) (entry : Document) : Noted (List Document) :=
  expandEntry lib limit place (limit + 2 + lib.settings.copyLevels) 0 entry

/-- An entry as the renderings that it stands for. -/
def expandReference (lib : Library) : Expansion where
  name := "ExpandTagRendering"
  doc := "Replaces references to shared tag renderings by their definition"
  convert input place := (resolve lib maxDepth place input).finish

end MapTheme.Rendering
