/-
  MapTheme.Library.Settings — what can be set about the compilation of themes.
-/

namespace MapTheme

structure Settings where
  /-- Layers that are added to every theme. -/
  addedByDefault : List String
  /-- Layers that the viewer manages; they get no generated questions, maps or imports. -/
  privilegedLayers : List String
  defaultSocialImage : String
  /-- Are layers generated that show notes with proposed features? -/
  noteImports : Bool
  /-- Do layers with questions get a box with those still open? -/
  addQuestionBox : Bool
  /-- How many blocks of copies are followed inside each other. No file sets it, and only the memory of the machine
  bounds it: what is shown of settings is shown for every bound. -/
  copyLevels : Nat := 10000
  deriving DecidableEq, Repr

namespace Settings

def defaultLayers : List String :=
  ["selected_element", "gps_location", "gps_location_history", "home_location", "gps_track", "range", "last_click"]

def managedLayers : List String :=
  ["type_node", "note", "import_candidate", "direction", "conflation", "split_point"]

def default : Settings where
  addedByDefault := defaultLayers
  privilegedLayers := defaultLayers ++ managedLayers
  defaultSocialImage := "assets/SocialImage.png"
  noteImports := true
  addQuestionBox := true

def isPrivileged (s : Settings) (layer : String) : Bool := s.privilegedLayers.contains layer

end Settings

end MapTheme
