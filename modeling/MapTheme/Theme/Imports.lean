/-
  MapTheme.Theme.Imports — layers that show notes with proposed features.

  A layer whose features come from the map data, to which points can be added and that has a name
  and a title, gets a companion with a button that imports the proposed feature.
-/

import MapTheme.Special.Template
import MapTheme.Theme.Layers

namespace MapTheme.Theme

def importStart : String := "note_import_"

def notesAddress : String :=
  "https://api.openstreetmap.org/api/0.6/notes.json?closed=0&bbox=\x7bx_min\x7d,\x7by_min\x7d,\x7bx_max\x7d,\x7by_max\x7d"

/-- Features from the map data and not from a file. -/
def hasMapSource (layer : Fields) : Bool :=
  match Fields.get? layer "source" with
  | some (.object source) => Fields.has source "osmTags" && !Fields.has source "geoJson"
  | _ => false

def hasPresets (layer : Fields) : Bool :=
  match Fields.get? layer "presets" with
  | some (.list presets) => !presets.isEmpty
  | _ => false

/-- The id of a layer that gets a companion. -/
def importable? (lib : Library) : Document → Option String
  | .object layer =>
    match Fields.get? layer "id" with
    | some (.text id) =>
      if !lib.settings.isPrivileged id && !Text.startsWith importStart id && hasMapSource layer && hasPresets layer
          && Fields.has layer "title" && Fields.has layer "name" then some id
      else none
    | _ => none
  | _ => none

/-- Notes are shown from zoom 12 on, or from that of the layer. -/
def importZoom (layer : Document) : Binary64 :=
  let zoom := match layer.get? "minzoom" with
    | some (.number (.whole n)) => Binary64.ofInt n
    | some (.number (.float x)) => x
    | _ => Binary64.ofInt 0
  zoom.max (Binary64.ofInt 12)

def importButton (id : String) : String :=
  Special.callText "import_button" [id, "$tags", "Import this point", "", "", "", "id"]

/-- The companion of the layer `id`. -/
def importLayer (id : String) (zoom : Binary64) : Document :=
  .object
    [("id", .text (importStart ++ id)),
     ("name", .object [("en", .text ("Possible " ++ id ++ " from notes"))]),
     ("description", .text ("OSM notes proposing a feature for the layer '" ++ id ++ "'")),
     ("source", .object
       [("osmTags", .text "id~*"), ("geoJson", .text notesAddress), ("geoJsonZoomLevel", .ofNat 10),
        ("maxCacheAge", .ofNat 0)]),
     ("minzoom", .number (.float zoom)),
     ("title", .object [("render", .object [("en", .text "Import candidate")])]),
     ("tagRenderings", .list
       [.object [("id", .text "import"), ("render", .text (importButton id))],
        .object [("id", .text "close_note"),
          ("render", .text "\x7bclose_note(Does not exist,,id,This feature does not exist)\x7d")],
        .object [("id", .text "add_note_comment"), ("render", .text "\x7badd_note_comment()\x7d")]]),
     ("mapRendering", .list
       [.object [("location", .texts ["point"]), ("icon", .text "./assets/svg/note.svg"),
         ("iconSize", .text "40,40")]])]

/-- The companion of a layer, if it gets one and none is there. -/
def companion (lib : Library) (present : List String) (place : String) (layer : Document) : Noted (List Document) :=
  match importable? lib layer with
  | none => pure []
  | some id =>
    let importId := importStart ++ id
    if present.contains importId then pure []
    else do
      Noted.inform place s!"added note import layer '{importId}'"
      pure [importLayer id (importZoom layer)]

def importsEnabled (lib : Library) (theme : Document) : Bool :=
  ((theme.get? "enableNoteImports").bind Document.bool?).getD lib.settings.noteImports

def addImportLayers (lib : Library) : Step where
  name := "AddImportLayers"
  modified := ["layers"]
  convert input place :=
    if !importsEnabled lib input then .success input
    else Noted.finish do
      let layers := layersOf input
      let added ← Noted.each (companion lib (layerIdsOf layers) place) layers
      pure (withLayers input (layers ++ added.flatten))

end MapTheme.Theme
