/-
  MapTheme.Main — the command line.

  The layers and themes are the files given as arguments; they belong to the folders named by the
  options `--layers` and `--themes`. What compiles is written below the folder `--output`. Warnings and
  errors go to the standard error stream, with `--verbose` also the progress. The exit status is 1 if
  something failed, and 2 if the options make no job.
-/

import MapTheme.Build.Run

namespace MapTheme.CommandLine

open Build

structure Options where
  layers : Option String := none
  themes : Option String := none
  output : Option String := none
  renderings : Option String := none
  settings : Option String := none
  only : List String := []
  verbose : Bool := false
  files : List String := []

def usage : String :=
  "usage: map-theme --layers DIR --themes DIR --output DIR [--tag-renderings FILE] [--settings FILE]"
    ++ " [--only THEME]... [--verbose] FILE..."

/-- An option and its value may be written as one argument, with `=` between them. -/
def separated (argument : String) : List String :=
  match Text.cutAt? '=' argument.toList with
  | some (option, value) =>
    if Text.startsWith "--" argument then [String.ofList option, String.ofList value] else [argument]
  | none => [argument]

/-- The options of a command line; none if one of them is unknown or has no value. -/
def Options.read? (o : Options) : List String → Option Options
  | [] => some o
  | "-v" :: rest | "--verbose" :: rest => { o with verbose := true }.read? rest
  | [last] => if Text.startsWith "-" last then none else some { o with files := o.files ++ [last] }
  | option :: value :: rest =>
    match option with
    | "-l" | "--layers" => { o with layers := some value }.read? rest
    | "--themes" => { o with themes := some value }.read? rest
    | "-o" | "--output" => { o with output := some value }.read? rest
    | "--tag-renderings" => { o with renderings := some value }.read? rest
    | "-s" | "--settings" => { o with settings := some value }.read? rest
    | "--only" => { o with only := o.only ++ [value] }.read? rest
    | _ =>
      if Text.startsWith "-" option then none
      else { o with files := o.files ++ [option] }.read? (value :: rest)

/-- The job, if its three folders are named. -/
def Options.job? (o : Options) : Option Job := do
  let layers ← o.layers
  let themes ← o.themes
  let output ← o.output
  some { layers, themes, renderings := o.renderings, settings := o.settings, output, only := o.only }

/-- Is an entry of the log shown? -/
def isShown (verbose : Bool) (e : LogEntry) : Bool :=
  match e.level with
  | .debug => false
  | .info => verbose
  | .warn | .error => true

def readText? (path : String) : IO (Option String) := do
  try
    return some (← IO.FS.readFile path)
  catch _ => return none

/-- The tree with a file, if it can be read. -/
def addFile (files : Files) (path : String) : IO Files := do
  match ← readText? path with
  | some text => return files.insert (Path.ofText path) text
  | none => return files

/-- The tree with something that was named to be in it; what cannot be read as a file counts as a
folder. -/
def addNamed (files : Files) (path : String) : IO Files := do
  match ← readText? path with
  | some text => return files.insert (Path.ofText path) text
  | none => return { files with folders := Path.ofText path :: files.folders }

/-- The names under which the shared renderings and the settings of a job may be found. -/
def sharedFiles (job : Job) : List String :=
  let settings := job.settings.toList.flatMap fun path =>
    path :: Settings.formats.map fun (extension, _) => path ++ "." ++ extension
  job.renderings.toList ++ settings

/-- The tree that a job reads. -/
def readInputs (o : Options) (job : Job) : IO Files := do
  let start : Files := { Files.empty with folders := [Path.ofText job.layers, Path.ofText job.themes] }
  (sharedFiles job).foldlM addFile (← o.files.foldlM addNamed start)

/-- An action on files that fails with the wording of a fault. -/
def orFault (fault : Fault) (action : IO Unit) : IO Unit := do
  try action
  catch _ => throw (IO.userError fault.message)

/-- Writes the files of a folder of the output. -/
def writeFolder (files : Files) (folder : String) : IO Unit := do
  orFault (.noFolder folder) (IO.FS.createDirAll folder)
  for name in (files.list? (Path.ofText folder)).getD [] do
    let path := Path.joinTexts folder name
    match files.read? (Path.ofText path) with
    | some text => orFault (.unwritable path) (IO.FS.writeFile path text)
    | none => pure ()

/-- Writes what a run leaves in its output folder. -/
def writeOutput (job : Job) (files : Files) : IO Unit := do
  writeFolder files (Path.joinTexts job.output "layers")
  writeFolder files (Path.joinTexts job.output "themes")

/-- Runs a job and answers the exit status. -/
def compile (o : Options) (job : Job) : IO UInt32 := do
  match run (← readInputs o job) job with
  | .error fault =>
    IO.eprintln s!"Error: {fault.message}"
    return 1
  | .ok report =>
    for e in report.log do
      if isShown o.verbose e then IO.eprintln e.text
    try
      writeOutput job report.files
    catch e =>
      IO.eprintln s!"Error: {e}"
      return 1
    if report.summary.failures = 0 then return 0
    let layers := report.summary.layersFailed
    let themes := report.summary.themesFailed
    IO.eprintln s!"Error: {layers} layers and {themes} themes failed to compile"
    return 1

end MapTheme.CommandLine

open MapTheme.CommandLine in
def main (args : List String) : IO UInt32 := do
  let options := ({} : Options).read? (args.flatMap separated)
  match options, options.bind Options.job? with
  | some o, some job => compile o job
  | _, _ =>
    IO.eprintln usage
    return 2
