/-
  MapTheme.Build.Loading — what a build reads, and what can go wrong with files.
-/

import MapTheme.Library.Basic
import MapTheme.Library.SettingsReading
import MapTheme.Text.Quoted

namespace MapTheme.Build

/-- A file or folder, by the text of its path, that does not serve. -/
inductive Fault
  | unreadable (path : String)
  | unlistable (path : String)
  | unwritable (path : String)
  | noFolder (path : String)
  | notJson (path : String)
  | notRenderings (path : String)
  | notSettings (path : String)
  deriving DecidableEq, Repr

def Fault.message : Fault → String
  | unreadable path => "IO: Failed to read " ++ Text.inQuotes path
  | unlistable path => "IO: Failed to list " ++ Text.inQuotes path
  | unwritable path => "IO: Failed to write " ++ Text.inQuotes path
  | noFolder path => "IO: Failed to create " ++ Text.inQuotes path
  | notJson path => "Parse: " ++ Text.inQuotes path ++ " is not valid JSON"
  | notRenderings path => "Parse: " ++ Text.inQuotes path ++ " must hold an object or a list of tag renderings"
  | notSettings path => "Config: Failed to load settings from " ++ Text.inQuotes path

/-- An authored layer or theme. -/
structure Source where
  path : String
  document : Document

namespace Source

/-- The name of the file, without its extension. -/
def stem (s : Source) : String := (Path.ofText s.path).stem

/-- The id that the document gives, or else the name of the file. -/
def id (s : Source) : String := s.document.id?.getD s.stem

end Source

def readDocument (files : Files) (path : String) : Except Fault Document :=
  match files.read? (Path.ofText path) with
  | none => .error (.unreadable path)
  | some text =>
    match Document.read? text with
    | none => .error (.notJson path)
    | some d => .ok d

/-- The JSON files of a folder, by name. -/
def readSources (files : Files) (folder : String) : Except Fault (List Source) :=
  match files.list? (Path.ofText folder) with
  | none => .error (.unlistable folder)
  | some names =>
    let documents := names.filter fun name => (Path.splitName name).2 == some "json"
    documents.mapM fun name =>
      let path := Path.joinTexts folder name
      (readDocument files path).map fun d => ⟨path, d⟩

/-- Renderings by id: an object of them, or a list of renderings with ids; others of the list do not
count. -/
def readRenderings (files : Files) (path : String) : Except Fault Registry := do
  match ← readDocument files path with
  | .object fields => .ok (Registry.ofList fields)
  | .list items => .ok (Registry.ofList (items.filterMap fun d => d.id?.map fun id => (id, d)))
  | _ => .error (.notRenderings path)

def readSettings (files : Files) (path : String) : Except Fault Settings :=
  match Settings.load? files (Path.ofText path) with
  | some settings => .ok settings
  | none => .error (.notSettings path)

end MapTheme.Build
