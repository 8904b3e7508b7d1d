/-
  MapTheme.Config.Layer — a finished layer.

  The features of a layer come from a filter on the map data, perhaps from a file, or from the
  viewer itself (`special`). A source filter has to say something: it must not match every feature,
  no feature, or features without any properties.
-/

import MapTheme.Config.Rendering
import MapTheme.Filter.Optimise

namespace MapTheme.Config

variable [Pattern.Engine]

/-- Where features come from: those a filter selects, in the map data or in a file. -/
structure Source where
  filter : Filter
  file : Option String
  deriving Repr

structure Preset where
  title : Wording
  tags : List Filter
  /-- Layers whose features a new point is moved onto. -/
  snapsTo : List String
  deriving Repr

structure FilterOption where
  question : Wording
  filter : Option Filter
  deriving Repr

structure FilterGroup where
  id : String
  options : List FilterOption
  deriving Repr

structure Layer where
  id : String
  name : Option Wording
  description : Option Wording
  /-- None where the viewer itself gives the features. -/
  source : Option Source
  minZoom : Binary64
  title : Option Rendering
  renderings : List Rendering
  presets : List Preset
  filters : List FilterGroup
  /-- Keys with the expressions for their values. -/
  calculatedTags : List (String × String)
  forceLoad : Bool
  passAllFeatures : Bool
  drawings : List Document
  deriving Repr

namespace Source

def read (place : String) (filter : Filter) (file : Option String) : Except Fault Source :=
  match filter.optimise with
  | .always => .error (.invalid place (.matchesAll filter.toText))
  | .never => .error (.invalid place (.matchesNothing filter.toText))
  | .filter _ =>
    if filter.isNegative then .error (.invalid place (.negativeSource filter.toText)) else .ok ⟨filter, file⟩

def isMapData (s : Source) : Bool := s.file.isNone

/-- The source of a layer; none for one that the viewer supplies. -/
def ofDocument (place : String) : Option Document → Except Fault (Option Source)
  | some (.text kind) =>
    if kind = "special" || Text.startsWith "special:" kind then .ok none
    else .error (.invalid (place ++ ".source") (.unknownSource kind))
  | some d => do
    let filterPlace := place ++ ".source.osmTags"
    let filter ← readFilter filterPlace ((d.get? "osmTags").getD .null)
    let source ← read filterPlace filter (d.textAt? "geoJson")
    .ok (some source)
  | none => .error (.invalid place .noSource)

end Source

/-! ## Lists of layer ids -/

/-- The ids of a text with `;` or `,` between them. -/
def splitIds (s : String) : List String :=
  let pieces := (Text.splitAt ';' s.toList).flatMap (Text.splitAt ',')
  (pieces.map fun p => String.ofList (Text.trimmed p)).filter (!·.isEmpty)

mutual

/-- The ids in a text or in nested lists of texts. -/
def layerIds : Document → List String
  | .text s => splitIds s
  | .list items => layerIdsOfEach items
  | _ => []

def layerIdsOfEach : List Document → List String
  | [] => []
  | d :: ds => layerIds d ++ layerIdsOfEach ds

end

/-! ## Parts of a layer -/

namespace Layer

def presetShape : Shape :=
  .record "PresetJson"
    [("title", .always, .any), ("tags", .never, .list .text),
     ("preciseInput", .never, .optional (.record "PreciseInputJson" [("snapToLayer", .never, .any)]))]

def filterShape : Shape :=
  .record "FilterJson"
    [("id", .always, .text),
     ("options", .never, .list (.record "FilterOptionJson" [("question", .always, .any), ("osmTags", .never, .any)]))]

def shape : Shape :=
  .record "LayerConfigJson"
    [("id", .always, .text), ("name", .never, .any), ("description", .never, .any),
     ("source", .inList, .optional .source), ("minzoom", .never, .optional .number), ("title", .never, .any),
     ("tagRenderings", .never, .list .any), ("presets", .never, .list presetShape), ("filter", .never, .list .any),
     ("calculatedTags", .never, .list .text), ("forceLoad", .never, .flag), ("passAllFeatures", .never, .flag),
     ("mapRendering", .never, .any)]

/-- A field of a nested record, where the record may be written as a list. -/
def nested? (names : List String) (d : Document) (key : String) : Option Document :=
  let fields := match d with
    | .object fields => fields
    | .list items => names.zip items
    | _ => []
  Fields.given? fields key

def readTitle (place : String) (title : Document) : Except Fault Rendering :=
  Rendering.ofDocument (place ++ ".title") (if title.isObject then title else .object [("render", title)])

def readRenderings (place : String) (renderings : List Document) : Except Fault (List Rendering) := do
  let read ← readEach (fun r i => Rendering.ofDocument s!"{place}.tagRenderings[{i}]" r) 0 renderings
  match firstRepeated? true [] 0 (read.map (·.id)) with
  | some (i, id) => .error (.invalid s!"{place}.tagRenderings[{i}]" (.duplicate "tag rendering" id))
  | none => .ok read

def readPreset (place : String) (d : Document) : Except Fault Preset := do
  let fields := presetShape.fieldsOf d
  let tags ← readEach (fun tag _ => readTag (place ++ ".tags") tag) 0 (fields.textsAt "tags")
  let title ← Wording.ofDocument (place ++ ".title") ((Fields.get? fields "title").getD .null)
  let snapsTo := (fields.given? "preciseInput").bind fun d => nested? ["snapToLayer"] d "snapToLayer"
  .ok ⟨title, tags, (snapsTo.map layerIds).getD []⟩

def readOption (place : String) (d : Document) : Except Fault FilterOption := do
  let fields := match d with
    | .list items => ["question", "osmTags"].zip items
    | d => d.object?.getD []
  let question ← Wording.ofDocument (place ++ ".question") ((Fields.get? fields "question").getD .null)
  let filter ← readOptional (readFilter (place ++ ".osmTags")) (fields.given? "osmTags")
  .ok ⟨question, filter⟩

/-- A filter group; `seen` are the ids of those before it. -/
def readFilterGroup (place : String) (seen : List String) (d : Document) : Except Fault FilterGroup :=
  if !d.isObject then .error (.invalid place (.notExpanded "filter" d))
  else do
    let fields ← readShape filterShape place d
    let id := fields.textOr "id" ""
    if seen.contains id then .error (.invalid place (.duplicate "filter" id))
    else
      let options ← readEach (fun o j => readOption s!"{place}.options[{j}]" o) 0 (fields.itemsAt "options")
      .ok ⟨id, options⟩

def readFilterGroups (place : String) (seen : List String) (index : Nat) :
    List Document → Except Fault (List FilterGroup)
  | [] => .ok []
  | d :: rest => do
    let group ← readFilterGroup s!"{place}.filter[{index}]" seen d
    let groups ← readFilterGroups place (group.id :: seen) (index + 1) rest
    .ok (group :: groups)

/-- A line `key=expression`. -/
def readCalculatedTag (place line : String) : Except Fault (String × String) :=
  match Text.cutAt? '=' line.toList with
  | some (key, expression) => .ok (String.ofList (Text.trimmed key), String.ofList (Text.trimmed expression))
  | none => .error (.invalid place (.badCalculatedTag line))

def readDrawings (place : String) : Option Document → Except Fault (List Document)
  | none => .ok []
  | some (.list items) => .ok items
  | some _ => .error (.invalid (place ++ ".mapRendering") .drawingsNoList)

def ofDocument (outer : String) (d : Document) : Except Fault Layer := do
  let fields ← readShape shape outer d
  let id := fields.textOr "id" ""
  let place := outer ++ "." ++ id
  if !isValidId id then .error (.invalid place (.badLayerId id))
  else
    let source ← Source.ofDocument place (fields.given? "source")
    let title ← readOptional (readTitle place) (fields.given? "title")
    let renderings ← readRenderings place (fields.itemsAt "tagRenderings")
    let presets ← readEach (fun p i => readPreset s!"{place}.presets[{i}]" p) 0 (fields.itemsAt "presets")
    let filters ← readFilterGroups place [] 0 (fields.itemsAt "filter")
    let calculatedTags ←
      readEach (fun line i => readCalculatedTag s!"{place}.calculatedTags[{i}]" line) 0 (fields.textsAt "calculatedTags")
    let drawings ← readDrawings place (fields.given? "mapRendering")
    let name ← readOptional (Wording.ofDocument (place ++ ".name")) (fields.given? "name")
    let description ← readOptional (Wording.ofDocument (place ++ ".description")) (fields.given? "description")
    .ok {
      id, name, description, source
      minZoom := ((fields.given? "minzoom").bind Document.number?).getD (Binary64.ofInt 0)
      title, renderings, presets, filters, calculatedTags
      forceLoad := fields.flagAt "forceLoad"
      passAllFeatures := fields.flagAt "passAllFeatures"
      drawings }

/-- Do the features come from the map data? -/
def isMapData (l : Layer) : Bool := (l.source.map Source.isMapData).getD false

end Layer

end MapTheme.Config
