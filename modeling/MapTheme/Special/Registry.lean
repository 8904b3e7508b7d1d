/-
  MapTheme.Special.Registry — the special visualisations and their arguments.

  `resolve` gives the arguments of a call by position: a missing or empty one takes its default.
-/

namespace MapTheme.Special

structure Argument where
  name : String
  default : Option String
  /-- Does the argument name layers, separated by `;` or `,`? -/
  isLayer : Bool
  deriving DecidableEq, Repr

structure Visualisation where
  name : String
  docs : String
  arguments : List Argument
  /-- Does it need the database of all nodes? -/
  needsNodes : Bool
  deriving DecidableEq, Repr

/-- An argument without a default. -/
def arg (name : String) : Argument := ⟨name, none, false⟩

def argOr (name default : String) : Argument := ⟨name, some default, false⟩

/-- An argument that names layers. -/
def layerArg (name : String) : Argument := ⟨name, none, true⟩

def plain (name docs : String) (arguments : List Argument) : Visualisation := ⟨name, docs, arguments, false⟩

def withNodes (name docs : String) (arguments : List Argument) : Visualisation := ⟨name, docs, arguments, true⟩

def registry : List Visualisation :=
  [plain "all_tags" "Table with every tag of the feature" [],
   plain "image_carousel" "Images linked from the feature"
     [argOr "image_key" "image;mapillary;image:*;wikidata;wikipedia;wikimedia_commons"],
   plain "image_upload" "Button to upload a picture" [argOr "image_key" "image", arg "label"],
   plain "wikipedia" "Wikipedia article of the feature" [argOr "keyToShowWikipediaFor" "wikidata;wikipedia"],
   plain "wikidata_label" "Label of a wikidata item" [argOr "keyToShowWikidataFor" "wikidata"],
   plain "minimap" "Small map around the feature" [argOr "zoomlevel" "18", argOr "idKey" "id"],
   plain "questions" "The questions of this layer that are still open" [arg "labels", arg "blacklisted-labels"],
   plain "reviews" "Reviews of the feature" [argOr "subjectKey" "name", arg "fallback"],
   plain "opening_hours_table" "Opening hours as a table"
     [argOr "key" "opening_hours", arg "prefix", arg "postfix"],
   plain "canonical" "Value of a unit-aware key" [arg "key"],
   plain "import_button" "Button to import a point into OSM"
     [layerArg "targetLayer", arg "tags", argOr "text" "Import this data into OpenStreetMap", arg "icon",
      layerArg "snap_onto_layers", argOr "max_snap_distance" "5", arg "note_id", arg "maproulette_id"],
   withNodes "import_way_button" "Button to import a way into OSM"
     [layerArg "targetLayer", arg "tags", argOr "text" "Import this data into OpenStreetMap", arg "icon",
      arg "snap_to_point_if", argOr "max_snap_distance" "0.05", arg "move_osm_point_if",
      argOr "max_move_distance" "0.05", layerArg "snap_onto_layers", argOr "snap_to_layer_max_distance" "0.1"],
   withNodes "conflate_button" "Button to copy a geometry onto an existing way"
     [layerArg "targetLayer", arg "way_to_conflate", argOr "text" "Import this data into OpenStreetMap"],
   plain "tag_apply" "Button to apply a set of tags"
     [arg "tags_to_apply", arg "message", arg "image", arg "id_of_object_to_apply_this_one"],
   plain "auto_apply" "Applies a tag rendering to a list of features"
     [arg "target_layer", arg "target_feature_ids", arg "tag_rendering_id", arg "text", arg "icon"],
   plain "export_as_gpx" "Download the feature as GPX" [],
   plain "export_as_geojson" "Download the feature as GeoJSON" [],
   plain "open_in_iD" "Link to the iD editor" [],
   plain "open_in_josm" "Remote-control link to JOSM" [],
   plain "close_note" "Button to close an OSM note"
     [arg "text", argOr "icon" "checkmark.svg", argOr "idkey" "id", arg "comment", arg "minZoom",
      arg "zoomButton"],
   plain "add_note_comment" "Comment box for an OSM note" [argOr "Id-key" "id"],
   plain "multi_apply" "Copies tags onto other features"
     [arg "feature_ids", arg "keys", arg "text", arg "autoapply", arg "overwrite"],
   plain "link" "A link with substituted href" [arg "text", arg "href", arg "class", arg "download"],
   plain "share_link" "Share this feature" [arg "url"],
   plain "nearby_images" "Nearby street-level pictures" [argOr "mode" "expandable"],
   plain "steal" "Shows a tag rendering of another feature" [arg "featureId", arg "tagRenderingId"],
   plain "language_chooser" "Choose the interface language" [],
   plain "histogram" "Histogram of the values of a key"
     [arg "key", arg "title", arg "countHeader", arg "colors*"]]

def find? (name : String) : Option Visualisation := registry.find? (·.name == name)

def names : List String := registry.map (·.name)

namespace Visualisation

def argumentNames (v : Visualisation) : List String := v.arguments.map (·.name)

/-- Each argument with the value given for it, or its default. -/
def resolve (v : Visualisation) (given : List String) : List (Argument × Option String) :=
  v.arguments.zipIdx.map fun (a, i) => (a, (given[i]?.filter (!·.isEmpty)).or a.default)

end Visualisation

end MapTheme.Special
