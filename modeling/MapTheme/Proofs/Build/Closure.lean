/-
  MapTheme.Proofs.Build.Closure — a theme that is built has all the layers that its layers need.

  Compiled layers are registered by their ids (`keyed_compiledLayers`): a layer compiles only from a document
  with an id, and what is done to it afterwards keeps the id. So the dependency step closes the list of
  layers; of the steps behind it only the one for companions changes the list, and it keeps it closed.
-/

import MapTheme.Proofs.Build.Validity
import MapTheme.Proofs.Layer.Frame
import MapTheme.Proofs.Theme.Imports
import MapTheme.Proofs.Theme.Origin

namespace MapTheme

namespace Theme

variable {lib : Library} {place : String}

/-! ## Themes -/

theorem addDependencyLayers_closed (hlib : lib.layers.Keyed) {input result : Document}
    (hr : ((addDependencyLayers lib).convert input place).result = some result) :
    result.isObject = true ∧ Closed (layersOf result) := by
  cases hl : input.listAt? "layers" with
  | none =>
    simp only [addDependencyLayers, hl] at hr
    cases hr
  | some layers =>
    have hobject := isObject_of_listAt? hl
    rw [convert_addDependencyLayers hl] at hr
    obtain ⟨hclean, rfl⟩ := Noted.result_finish hr
    rw [Noted.notes_bind, Noted.notes_pure, Diagnostics.append_empty] at hclean
    refine ⟨isObject_withLayers hobject _, ?_⟩
    rw [Noted.value_bind, Noted.value_pure, layersOf_withLayers hobject]
    exact (closed_of_addMissing hlib (Extends.nil lib layers) (by simp) hclean).2

theorem layersOf_addNodeDatabaseFlag {input result : Document}
    (hr : (addNodeDatabaseFlag.convert input place).result = some result) : layersOf result = layersOf input := by
  simp only [addNodeDatabaseFlag] at hr
  split at hr
  · cases hr
    rfl
  · obtain ⟨-, rfl⟩ := Noted.result_finish hr
    cases input with
    | object fields =>
      have hget : (Document.object (Fields.insert fields "enableNodeDatabase" (.bool true))).get? "layers" =
          (Document.object fields).get? "layers" := Step.get?_insert_object (by decide)
      exact congrArg (fun d : Option Document => (d.bind Document.list?).getD []) hget
    | null | bool | number | text | list => rfl

/-- A prepared theme has layers, and all that they need. -/
theorem prepareTheme_closed (hlib : lib.layers.Keyed) {input theme : Document}
    (h : ((prepareTheme lib).convert input place).result = some theme) :
    ∃ layers, theme.listAt? "layers" = some layers ∧ Closed layers := by
  have hrun : (Step.runAll place ((preparationSteps lib).take 9 ++ [addDependencyLayers lib, addImportLayers lib,
      addNodeDatabaseFlag, validateTheme lib]) ⟨input, .empty⟩).result = some theme := h
  obtain ⟨start, -, hrun⟩ :=
    Step.exists_of_runAll_append (P := fun _ => True) (fun _ _ _ _ _ _ _ => trivial) trivial hrun
  obtain ⟨needed, hneeded, hrun⟩ := Step.exists_of_runAll_cons hrun
  obtain ⟨imported, himported, hrun⟩ := Step.exists_of_runAll_cons hrun
  obtain ⟨flagged, hflagged, hrun⟩ := Step.exists_of_runAll_cons hrun
  obtain ⟨last, hlast, hrun⟩ := Step.exists_of_runAll_cons hrun
  obtain rfl : last.value = theme := (Noted.result_finish hrun).2
  obtain ⟨hobject, hclosed⟩ := addDependencyLayers_closed hlib hneeded
  obtain ⟨-, hclosed⟩ := addImportLayers_closed hobject hclosed himported
  rw [← layersOf_addNodeDatabaseFlag hflagged] at hclosed
  obtain ⟨hsame, hpassed⟩ := result_validateTheme hlast
  rw [hsame]
  exact ⟨layersOf flagged.value, listAt?_of_layersOf_ne_nil hpassed.some_layer, hclosed⟩

end Theme

namespace Build

variable {authored compiled : Library} {sources : List Source}

/-! ## Registries -/

/-- A document with distinct keys and this id. -/
def Identified (id : String) (d : Document) : Prop := d.Distinct ∧ d.id? = some id

theorem annotateWordings_takes (start id : String) :
    (Theme.annotateWordings start).Takes (Identified id) (Identified id) := by
  intro input place result hi hr
  refine ⟨Theme.annotateWordings_keepsDistinct start hi.1 hr, ?_⟩
  simp only [Theme.annotateWordings, hi.2] at hr
  cases hr
  exact (Theme.id?_annotate _ _).trans hi.2

theorem prepareLayer_takes (hauth : authored.Distinct) (id : String) :
    (Layer.prepareLayer authored).Takes (Identified id) (Identified id) := by
  intro input place result hi hr
  refine ⟨Layer.prepareLayer_keepsDistinct hauth hi.1 hr, ?_⟩
  rw [Document.id?, Document.textAt?, Layer.prepareLayer_keeps_id hauth hi.1 hr]
  exact hi.2

/-- A layer compiles to a document with the id that it is registered by. -/
theorem id?_compileLayer (hauth : authored.Distinct) {s : Source} (hs : s.document.Distinct) {layer : Document}
    (h : (compileLayer authored s).result = some layer) : layer.id? = some s.id := by
  simp only [compileLayer] at h
  split at h
  · have hrun := result_ofConverted h
    have hid : s.document.id? = some s.id := by
      obtain ⟨_, hnoted, -⟩ := Step.exists_of_runAll_cons hrun
      cases hid : s.document.id? with
      | none =>
        simp only [Theme.annotateWordings, hid] at hnoted
        cases hnoted
      | some id => simp [Source.id, hid]
    have hsteps : ∀ step ∈ [Theme.annotateWordings "layers:", Layer.prepareLayer authored],
        step.Takes (Identified s.id) (Identified s.id) := by
      simp only [List.forall_mem_cons]
      exact ⟨annotateWordings_takes _ _, prepareLayer_takes hauth _, by simp⟩
    obtain ⟨input, hinput, -, hlast⟩ := Step.exists_last_of_runAll hsteps ⟨hs, hid⟩ hrun
    rw [result_validateLayer hlast]
    exact hinput.2
  · cases h

theorem id_compileLayer (authored : Library) (s : Source) : (compileLayer authored s).id = s.id := by
  unfold compileLayer
  dsimp only
  split <;> rfl

theorem keyed_compiledLayers (hauth : authored.Distinct) (hsources : ∀ s ∈ sources, s.document.Distinct) :
    (compiledLayers authored sources).Keyed := by
  intro name d hfind
  obtain ⟨c, hc, he⟩ := List.mem_filterMap.mp (Registry.mem_of_mem_ofList _ (Fields.mem_of_get? hfind))
  obtain ⟨s, hs, rfl⟩ := List.mem_map.mp hc
  obtain ⟨layer, hlayer, he⟩ := Option.map_eq_some_iff.mp he
  obtain ⟨hname, rfl⟩ := Prod.mk.inj he
  have hid := id?_compileLayer hauth (hsources s hs) hlayer
  rw [← hname, id_compileLayer]
  refine ⟨?_, hid⟩
  cases layer with
  | object fields => rfl
  | null | bool | number | text | list => cases hid

/-! ## Builds -/

/-- The compiled layers are registered by their ids, and every theme that compiles against them has all
the layers that its layers depend on. -/
theorem compileTheme_closed (hauth : authored.Distinct) (hsources : ∀ s ∈ sources, s.document.Distinct)
    (hlayers : compiled.layers = compiledLayers authored sources) :
    (∀ name d, compiled.layers.find? name = some d → d.isObject = true ∧ d.id? = some name) ∧
    ∀ (s : Source) (theme : Document), (compileTheme compiled s).result = some theme →
      ∃ layers, theme.listAt? "layers" = some layers ∧ ∀ d ∈ layers, ∀ place,
        ∃ l, Config.Layer.ofDocument place d = .ok l ∧
          ∀ dep ∈ Layer.dependencies l, dep.needed ∈ Theme.layerIdsOf layers := by
  have hkeyed : compiled.layers.Keyed := by
    rw [hlayers]
    exact keyed_compiledLayers hauth hsources
  refine ⟨hkeyed, ?_⟩
  intro s theme h
  obtain ⟨layers, hlist, hclosed⟩ := Theme.prepareTheme_closed hkeyed (result_compileTheme h)
  refine ⟨layers, hlist, ?_⟩
  intro d hd place
  obtain ⟨hbuilds, hneeds⟩ := hclosed d hd
  rcases Theme.read_layer place d with ⟨l, hl, -, hl'⟩ | ⟨_, -, hfault, -⟩
  · rw [hl'] at hneeds
    exact ⟨l, hl, hneeds⟩
  · rw [hfault] at hbuilds
    cases hbuilds

/-- New benches are moved onto paths, and can be imported from notes. -/
def snappingBench : Source :=
  ⟨"layers/bench.json", .object
    [("id", .text "bench"), ("name", .text "Benches"), ("title", .text "Bench"),
     ("source", .object [("osmTags", .text "amenity=bench")]),
     ("presets", .list
       [.object [("title", .text "Bench"), ("tags", .texts ["amenity=bench"]),
         ("preciseInput", .object [("snapToLayer", .text "path")])]])]⟩

def pathLayer : Source :=
  ⟨"layers/path.json", .object [("id", .text "path"), ("source", .object [("osmTags", .text "highway=path")])]⟩

def rangeLayer : Source := ⟨"layers/range.json", .object [("id", .text "range"), ("source", .text "special")]⟩

def snappingSources : List Source := [snappingBench, pathLayer, rangeLayer]

def snappingAuthored : Library :=
  ⟨Source.registry snappingSources, [], [], { Settings.default with addedByDefault := ["range"] }⟩

def snappingCompiled : Library := { snappingAuthored with layers := compiledLayers snappingAuthored snappingSources }

/-- A theme of benches gets the layer of paths, the default layer and the companion of the benches. -/
theorem compileTheme_closed_bench :
    snappingAuthored.Distinct ∧ (∀ s ∈ snappingSources, s.document.Distinct) ∧
      snappingCompiled.layers = compiledLayers snappingAuthored snappingSources ∧
      ∃ theme layers, (compileTheme snappingCompiled benchTheme).result = some theme ∧
        theme.listAt? "layers" = some layers ∧
        Theme.layerIdsOf layers = ["path", "bench", "range", "note_import_bench"] ∧
        ∀ d ∈ layers, ∀ place, ∃ l, Config.Layer.ofDocument place d = .ok l ∧
          ∀ dep ∈ Layer.dependencies l, dep.needed ∈ Theme.layerIdsOf layers := by
  have hsource : ∀ s ∈ snappingSources, s.document.Distinct := by
    simp [snappingSources, snappingBench, pathLayer, rangeLayer, Fields.Distinct, Fields.keys]
  have hauth : snappingAuthored.Distinct := distinct_authored hsource (by simp)
  have hlayers : snappingCompiled.layers = compiledLayers snappingAuthored snappingSources := by rw [snappingCompiled]
  have hids : (compileTheme snappingCompiled benchTheme).result.map (fun theme => Theme.layerIdsOf (Theme.layersOf theme)) =
      some ["path", "bench", "range", "note_import_bench"] := by decide +kernel
  obtain ⟨theme, htheme, hids⟩ := Option.map_eq_some_iff.mp hids
  obtain ⟨layers, hlist, hclosed⟩ := (compileTheme_closed hauth hsource hlayers).2 benchTheme theme htheme
  rw [Theme.layersOf, hlist] at hids
  exact ⟨hauth, hsource, hlayers, theme, layers, htheme, hlist, hids, hclosed⟩

end Build

end MapTheme
