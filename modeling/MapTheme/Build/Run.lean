/-
  MapTheme.Build.Run — from folders of authored layers and themes to compiled ones.

  Layers are compiled against the authored layers, themes against the compiled ones. A layer or theme
  with errors is counted and logged, and does not stop the others; a file that cannot be used stops
  the run. What compiles is written to `layers/<id>.json` and `themes/<id>.json` of the output folder.
-/

import MapTheme.Build.Loading
import MapTheme.Build.Log
import MapTheme.Layer.Validation
import MapTheme.Library.Publicity
import MapTheme.Theme.Preparation

namespace MapTheme.Build

structure Job where
  layers : String
  themes : String
  renderings : Option String
  settings : Option String
  output : String
  /-- The themes to compile; empty for all. -/
  only : List String
  /-- How many blocks of copies the machine can follow inside each other. -/
  copyLevels : Nat := Settings.default.copyLevels

structure Summary where
  layersCompiled : Nat
  layersFailed : Nat
  themesCompiled : Nat
  themesFailed : Nat
  deriving DecidableEq, Repr

def Summary.failures (s : Summary) : Nat := s.layersFailed + s.themesFailed

/-- A document that went through its steps; no result if it failed. -/
structure Compiled where
  id : String
  result : Option Document
  log : List LogEntry

namespace Compiled

def failed (c : Compiled) : Bool := c.result.isNone

/-- A conversion that `subject` went through. -/
def ofConverted (id subject : String) (c : Converted Document) : Compiled :=
  ⟨id, if c.isOk then c.result else none, LogEntry.ofNotes subject c.notes⟩

end Compiled

/-! ## Layers and themes -/

def compileLayerStep (lib : Library) : Step :=
  .fuse "CompileLayer" "Expands and validates one builtin layer"
    [Theme.annotateWordings "layers:", Layer.prepareLayer lib, Layer.validateLayer]

/-- A layer stands in the file that is named for it. -/
def compileLayer (lib : Library) (s : Source) : Compiled :=
  let subject := "layer " ++ s.id
  if s.stem = s.id then
    .ofConverted s.id subject ((compileLayerStep lib).convert s.document ("layers:" ++ s.id))
  else
    let message := subject ++ ": the file " ++ Text.inQuotes s.path ++ " must be named " ++ s.id ++ ".json"
    ⟨s.id, none, [⟨.error, message⟩]⟩

def countLayers (theme : Document) : Nat := ((theme.listAt? "layers").getD []).length

def compileTheme (lib : Library) (s : Source) : Compiled :=
  let subject := "theme " ++ s.id
  let c := Compiled.ofConverted s.id subject ((Theme.prepareTheme lib).convert s.document ("themes:" ++ s.id))
  match c.result with
  | some theme => { c with log := c.log ++ [⟨.info, s!"{subject}: {countLayers theme} layers"⟩] }
  | none => c

/-! ## The whole run -/

/-- The documents by id. -/
def Source.registry (sources : List Source) : Registry := Registry.ofList (sources.map fun s => (s.id, s.document))

/-- What compiled, by id. -/
def Compiled.results (cs : List Compiled) : List (String × Document) :=
  cs.filterMap fun c => c.result.map fun d => (c.id, d)

def countFailed (cs : List Compiled) : Nat := (cs.filter Compiled.failed).length

def logOf (cs : List Compiled) : List LogEntry := cs.flatMap (·.log)

def compiledEntry (what : String) (compiled failed : Nat) : LogEntry :=
  ⟨.info, s!"Compiled {compiled} {what} ({failed} failed)"⟩

def addFolder (path : String) (files : Files) : Except Fault Files :=
  match files.addFolder? (Path.ofText path) with
  | some files => .ok files
  | none => .error (.noFolder path)

/-- Writes each document to the file of its id. -/
def writeAll (folder : String) : List (String × Document) → Files → Except Fault Files
  | [], files => .ok files
  | (id, d) :: rest, files =>
    let path := Path.joinTexts folder (id ++ ".json")
    match files.write? (Path.ofText path) d.pretty with
    | some files => writeAll folder rest files
    | none => .error (.unwritable path)

structure Report where
  summary : Summary
  files : Files
  log : List LogEntry

def run (files : Files) (job : Job) : Except Fault Report := do
  let given ← match job.settings with
    | some path => readSettings files path
    | none => .ok Settings.default
  let settings := { given with copyLevels := job.copyLevels }
  let renderings ← match job.renderings with
    | some path => readRenderings files path
    | none => .ok []
  let layerSources ← readSources files job.layers
  let authored : Library := ⟨Source.registry layerSources, renderings, [], settings⟩
  let layers := layerSources.map (compileLayer authored)
  let registry := Registry.ofList (Compiled.results layers)
  let layerFolder := Path.joinTexts job.output "layers"
  let themeFolder := Path.joinTexts job.output "themes"
  let files ← addFolder layerFolder files
  let files ← addFolder themeFolder files
  let files ← writeAll layerFolder registry files
  let themeSources ← readSources files job.themes
  let chosen := themeSources.filter fun s => job.only.isEmpty || job.only.contains s.id
  let compiled : Library := ⟨registry, renderings, publicLayers (themeSources.map (·.document)), settings⟩
  let themes := chosen.map (compileTheme compiled)
  let written := Compiled.results themes
  let files ← writeAll themeFolder written files
  let summary := ⟨registry.length, countFailed layers, written.length, countFailed themes⟩
  let log :=
    ⟨.info, s!"Loaded {renderings.length} shared tag renderings"⟩ :: logOf layers
      ++ compiledEntry "layers" summary.layersCompiled summary.layersFailed :: logOf themes
      ++ [compiledEntry "themes" summary.themesCompiled summary.themesFailed]
  .ok ⟨summary, files, log⟩

end MapTheme.Build
