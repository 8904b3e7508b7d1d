/-
  MapTheme.Proofs.Build.Compilation — a run in stages.

  A run reads its inputs, compiles the layers and writes them, reads the themes, and compiles those that are
  selected. A `Compilation` is a run up to there: all that is left is to write the themes and to report
  (`run_eq_ok_iff`). The `outcome` of one theme is all that the report says of it.
-/

import MapTheme.Proofs.Build.Validity
import MapTheme.Proofs.Files.Basic

namespace MapTheme.Build

/-! ## Stages -/

/-- What a run reads before it compiles anything. -/
structure Inputs where
  settings : Settings
  renderings : Registry
  layers : List Source

namespace Inputs

/-- What the layers are compiled against. -/
def authored (i : Inputs) : Library := ⟨Source.registry i.layers, i.renderings, [], i.settings⟩

/-- The layers that compile. -/
def registry (i : Inputs) : Registry := compiledLayers i.authored i.layers

/-- What themes are compiled against, if these are all of them. -/
def library (i : Inputs) (themes : List Source) : Library :=
  ⟨i.registry, i.renderings, publicLayers (themes.map (·.document)), i.settings⟩

end Inputs

namespace Job

def readSettings (files : Files) (job : Job) : Except Fault Settings :=
  match job.settings with
  | some path => Build.readSettings files path
  | none => .ok Settings.default

def readRenderings (files : Files) (job : Job) : Except Fault Registry :=
  match job.renderings with
  | some path => Build.readRenderings files path
  | none => .ok []

def layersFolder (job : Job) : String := Path.joinTexts job.output "layers"

def themesFolder (job : Job) : String := Path.joinTexts job.output "themes"

def selects (job : Job) (s : Source) : Bool := job.only.isEmpty || job.only.contains s.id

end Job

def readInputs (files : Files) (job : Job) : Except Fault Inputs := do
  let settings ← job.readSettings files
  let renderings ← job.readRenderings files
  let layers ← readSources files job.layers
  return ⟨{ settings with copyLevels := job.copyLevels }, renderings, layers⟩

/-- Makes the folders of the output and writes the compiled layers. -/
def writeLayers (files : Files) (job : Job) (i : Inputs) : Except Fault Files := do
  let files ← addFolder job.layersFolder files
  let files ← addFolder job.themesFolder files
  writeAll job.layersFolder i.registry files

/-- What a run reports on the layers and these themes. -/
def reportOn (i : Inputs) (themes : List Compiled) (written : Files) : Report :=
  let layers := i.layers.map (compileLayer i.authored)
  let summary := ⟨i.registry.length, countFailed layers, (Compiled.results themes).length, countFailed themes⟩
  let log :=
    ⟨.info, s!"Loaded {i.renderings.length} shared tag renderings"⟩ :: logOf layers
      ++ compiledEntry "layers" summary.layersCompiled summary.layersFailed :: logOf themes
      ++ [compiledEntry "themes" summary.themesCompiled summary.themesFailed]
  ⟨summary, written, log⟩

theorem run_eq (files : Files) (job : Job) : run files job = do
    let i ← readInputs files job
    let tree ← writeLayers files job i
    let themes ← readSources tree job.themes
    let outcomes := (themes.filter job.selects).map (compileTheme (i.library themes))
    let written ← writeAll job.themesFolder (Compiled.results outcomes) tree
    return reportOn i outcomes written := by
  rcases job with ⟨layers, themes, renderings, settings, output, only, copyLevels⟩
  cases settings with
  | none =>
    cases renderings with
    | none =>
      simp only [run, readInputs, Job.readSettings, Job.readRenderings, writeLayers, bind_assoc, pure_bind]
      rfl
    | some path =>
      simp only [run, readInputs, Job.readSettings, Job.readRenderings, writeLayers, bind_assoc, pure_bind]
      rfl
  | some settings =>
    cases renderings with
    | none =>
      simp only [run, readInputs, Job.readSettings, Job.readRenderings, writeLayers, bind_assoc, pure_bind]
      rfl
    | some path =>
      simp only [run, readInputs, Job.readSettings, Job.readRenderings, writeLayers, bind_assoc, pure_bind]
      rfl

/-! ## Runs up to the writing of themes -/

/-- A run whose themes are compiled. -/
structure Compilation (files : Files) (job : Job) where
  inputs : Inputs
  /-- The files when the layers are written. -/
  tree : Files
  /-- All themes, selected or not. -/
  themes : List Source
  inputs_read : readInputs files job = .ok inputs
  layers_written : writeLayers files job inputs = .ok tree
  themes_read : readSources tree job.themes = .ok themes

namespace Compilation

variable {files : Files} {job : Job}

def selected (a : Compilation files job) : List Source := a.themes.filter job.selects

def outcome (a : Compilation files job) (s : Source) : Compiled := compileTheme (a.inputs.library a.themes) s

/-- The outcome of each selected theme. -/
def outcomes (a : Compilation files job) : List (Source × Compiled) := a.selected.map fun s => (s, a.outcome s)

/-- The themes that compile, with what they compile to. -/
def published (a : Compilation files job) : List (Source × Document) :=
  a.outcomes.filterMap fun o => o.2.result.map fun d => (o.1, d)

/-- The ids of the themes that compile. -/
def ids (a : Compilation files job) : List String := a.published.map fun p => p.1.id

/-- What is left to write, in this order. -/
def writes (a : Compilation files job) : List (String × Document) := a.published.map fun p => (p.1.id, p.2)

def report (a : Compilation files job) (written : Files) : Report := reportOn a.inputs (a.outcomes.map (·.2)) written

end Compilation

variable {files : Files} {job : Job} {report : Report}

theorem id_compileTheme (lib : Library) (s : Source) : (compileTheme lib s).id = s.id := by
  unfold compileTheme
  dsimp only
  split <;> rfl

namespace Compilation

/-- How far a run gets is settled by the files and the job. -/
instance : Subsingleton (Compilation files job) where
  allEq := by
    rintro ⟨inputs, tree, themes, hinputs, htree, hthemes⟩ ⟨inputs', tree', themes', hinputs', htree', hthemes'⟩
    cases hinputs.symm.trans hinputs'
    cases htree.symm.trans htree'
    cases hthemes.symm.trans hthemes'
    rfl

theorem mem_outcomes_iff {a : Compilation files job} {s : Source} {c : Compiled} :
    (s, c) ∈ a.outcomes ↔ (s ∈ a.themes ∧ job.selects s = true) ∧ c = a.outcome s := by
  rw [outcomes, List.mem_map, selected]
  constructor
  · rintro ⟨r, hr, he⟩
    cases he
    exact ⟨List.mem_filter.mp hr, rfl⟩
  · rintro ⟨hs, rfl⟩
    exact ⟨s, List.mem_filter.mpr hs, rfl⟩

theorem map_outcomes (a : Compilation files job) : a.outcomes.map (·.2) = a.selected.map a.outcome := by
  simp [outcomes]

theorem keys_writes (a : Compilation files job) : Fields.keys a.writes = a.ids := by
  rw [Fields.keys, writes, List.map_map]
  rfl

/-- What compiles is written under the id of its theme. -/
theorem results_outcomes (a : Compilation files job) :
    Compiled.results (a.outcomes.map (·.2)) = a.writes := by
  simp only [Compiled.results, writes, published, outcomes, List.map_map, List.filterMap_map, List.map_filterMap]
  refine List.filterMap_congr fun s _ => ?_
  simp only [Function.comp_apply, Option.map_map, outcome, id_compileTheme]
  rfl

/-- As many themes are reported as are left to write. -/
theorem themesCompiled_report (a : Compilation files job) (written : Files) :
    (a.report written).summary.themesCompiled = a.writes.length := by
  rw [← a.results_outcomes]
  rfl

end Compilation

/-- A run ends exactly if its themes are compiled and what compiles is written, with the report on the outcomes. -/
theorem run_eq_ok_iff :
    run files job = .ok report ↔
      ∃ (a : Compilation files job) (written : Files),
        writeAll job.themesFolder a.writes a.tree = .ok written ∧ report = a.report written := by
  rw [run_eq]
  constructor
  · intro h
    obtain ⟨inputs, hinputs, h⟩ := ok_of_bind h
    obtain ⟨tree, htree, h⟩ := ok_of_bind h
    obtain ⟨themes, hthemes, h⟩ := ok_of_bind h
    obtain ⟨written, hwritten, h⟩ := ok_of_bind h
    have ha := Compilation.map_outcomes ⟨inputs, tree, themes, hinputs, htree, hthemes⟩
    refine ⟨⟨inputs, tree, themes, hinputs, htree, hthemes⟩, written, ?_, ?_⟩
    · rw [← Compilation.results_outcomes, ha]
      exact hwritten
    · rw [Compilation.report, ha]
      exact (Except.ok.inj h).symm
  · rintro ⟨a, written, hwritten, rfl⟩
    rw [← Compilation.results_outcomes, a.map_outcomes] at hwritten
    rw [Compilation.report, a.map_outcomes]
    simp only [bind, Except.bind, a.inputs_read, a.layers_written, a.themes_read]
    exact congrArg (Except.map (reportOn a.inputs (a.selected.map a.outcome))) hwritten

/-! ## A run on two themes -/

/-- Two themes, no layers, and settings that add none. -/
def twoThemes (first second : String) : Files :=
  ⟨[(["settings.json"], "\x7b\"added_by_default\": []\x7d"), (["themes", "benches.json"], first),
    (["themes", "more.json"], second)], [["layers"]]⟩

def twoThemesJob (only : List String) : Job :=
  { layers := "layers", themes := "themes", renderings := none, settings := some "settings.json", output := "out", only }

def documentOf (text : String) : Document := (Document.read? text).getD .null

/-- The inputs of a run on two themes. -/
def noLayers : Inputs := ⟨{ Settings.default with addedByDefault := [] }, [], []⟩

section

variable {first second : String} {only : List String}

theorem readInputs_twoThemes : readInputs (twoThemes first second) (twoThemesJob only) = .ok noLayers := by
  have hsettings : readSettings (twoThemes first second) "settings.json" = .ok noLayers.settings := by
    have hload : Settings.load? (twoThemes first second) (Path.ofText "settings.json") =
        Settings.load? (twoThemes "" "") (Path.ofText "settings.json") := rfl
    have hplain : Settings.load? (twoThemes "" "") (Path.ofText "settings.json") = some noLayers.settings := by
      decide +kernel
    rw [readSettings, hload, hplain]
  have hlayers : readSources (twoThemes first second) "layers" = .ok [] := by
    have hlist : (twoThemes first second).list? ["layers"] = some (sortedIds []) :=
      Files.list?_of_mem_folders List.mem_cons_self
    have hpath : Path.ofText "layers" = ["layers"] := by decide +kernel
    rw [readSources, hpath, hlist, sortedIds, List.mergeSort_nil]
    rfl
  simp only [readInputs, Job.readSettings, Job.readRenderings, twoThemesJob, hsettings, hlayers]
  rfl

/-- The files when the folders of the output are made. -/
def withOutput (first second : String) : Files :=
  { twoThemes first second with folders := [["out", "themes"], ["out", "layers"], ["layers"]] }

theorem writeLayers_twoThemes :
    writeLayers (twoThemes first second) (twoThemesJob only) noLayers = .ok (withOutput first second) := by
  have hlayers : Path.ofText (Path.joinTexts "out" "layers") = ["out", "layers"] := by decide +kernel
  have hthemes : Path.ofText (Path.joinTexts "out" "themes") = ["out", "themes"] := by decide +kernel
  simp only [writeLayers, addFolder, Job.layersFolder, Job.themesFolder, twoThemesJob, hlayers, hthemes]
  rfl

theorem readDocument_twoThemes {path text : String} (hfile : (withOutput first second).read? (Path.ofText path) = some text)
    (htext : (Document.read? text).isSome = true) : readDocument (withOutput first second) path = .ok (documentOf text) := by
  obtain ⟨d, hd⟩ := Option.isSome_iff_exists.mp htext
  simp only [readDocument, hfile, hd, documentOf, Option.getD_some]

/-- The themes as they are read. -/
def twoSources (first second : String) : List Source :=
  [⟨"themes/benches.json", documentOf first⟩, ⟨"themes/more.json", documentOf second⟩]

theorem readSources_twoThemes (hfirst : (Document.read? first).isSome = true)
    (hsecond : (Document.read? second).isSome = true) :
    readSources (withOutput first second) "themes" = .ok (twoSources first second) := by
  have hlist : (withOutput first second).list? (Path.ofText "themes") = some (sortedIds ["benches.json", "more.json"]) := by
    have hpath : Path.ofText "themes" = ["themes"] := by decide +kernel
    rw [hpath]
    rfl
  have hsorted : sortedIds ["benches.json", "more.json"] = ["benches.json", "more.json"] := by
    have hsort : ["benches.json", "more.json"].mergeSort (· ≤ ·) = ["benches.json", "more.json"] := by simp [List.mergeSort]
    rw [sortedIds, hsort]
    decide
  have ha : readDocument (withOutput first second) "themes/benches.json" = .ok (documentOf first) :=
    readDocument_twoThemes rfl hfirst
  have hb : readDocument (withOutput first second) "themes/more.json" = .ok (documentOf second) :=
    readDocument_twoThemes rfl hsecond
  have hnames : ["benches.json", "more.json"].filter (fun name => (Path.splitName name).2 == some "json") = ["benches.json", "more.json"] := by
    decide +kernel
  have hpaths : ["benches.json", "more.json"].map (Path.joinTexts "themes") = ["themes/benches.json", "themes/more.json"] := by
    decide +kernel
  simp only [List.map_cons, List.map_nil, List.cons.injEq, and_true] at hpaths
  simp only [readSources, hlist, hsorted, hnames, List.mapM_cons, List.mapM_nil, hpaths.1, hpaths.2, ha, hb]
  rfl

/-- The run up to where its themes are compiled. -/
def twoThemesCompiled (first second : String) (only : List String) (hfirst : (Document.read? first).isSome = true)
    (hsecond : (Document.read? second).isSome = true) : Compilation (twoThemes first second) (twoThemesJob only) where
  inputs := noLayers
  tree := withOutput first second
  themes := twoSources first second
  inputs_read := readInputs_twoThemes
  layers_written := writeLayers_twoThemes
  themes_read := readSources_twoThemes hfirst hsecond

/-- What the two themes compile to, by id. -/
def twoResults (first second : String) : List (String × Document) :=
  Compiled.results ((twoSources first second).map (compileTheme (noLayers.library (twoSources first second))))

/-- If what the two themes compile to can be written, the run ends. -/
theorem exists_run_twoThemes (hfirst : (Document.read? first).isSome = true) (hsecond : (Document.read? second).isSome = true)
    (hwrite : (writeAll (twoThemesJob []).themesFolder (twoResults first second) (withOutput first second)).isOk = true) :
    ∃ (a : Compilation (twoThemes first second) (twoThemesJob [])) (written : Files),
      run (twoThemes first second) (twoThemesJob []) = .ok (a.report written) ∧ a.writes = twoResults first second ∧
      writeAll (twoThemesJob []).themesFolder a.writes a.tree = .ok written := by
  have hwrites : (twoThemesCompiled first second [] hfirst hsecond).writes = twoResults first second := by
    rw [← Compilation.results_outcomes, Compilation.map_outcomes]
    rfl
  cases hwritten : writeAll (twoThemesJob []).themesFolder (twoResults first second) (withOutput first second) with
  | error fault =>
    rw [hwritten] at hwrite
    cases hwrite
  | ok written =>
    rw [← hwrites] at hwritten
    exact ⟨_, written, run_eq_ok_iff.mpr ⟨_, written, hwritten, rfl⟩, hwrites, hwritten⟩

end

/-- A theme with a layer of its own. -/
def benchesText : String :=
  "\x7b\"id\":\"benches\",\"title\":\"Benches\",\"layers\":[\x7b\"id\":\"bench\",\"source\":\x7b\"osmTags\":\"amenity=bench\"\x7d\x7d]\x7d"

end MapTheme.Build
