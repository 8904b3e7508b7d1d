/-
  MapTheme.Proofs.Theme.Arrangement — which layers a prepared theme has, and in which order.

  The layers that the entries stand for come in the order of the entries; to prepare them, twice, and to lay the
  override of all layers over them gives one for each (`exists_expanded`). Whatever else there is stands around
  them: layers that are needed before (`addMissing_supplies`), default layers and companions behind. So no step
  loses an authored layer, moves one or doubles one (`prepareTheme_arranges`).
-/

import MapTheme.Proofs.Build.Closure
import MapTheme.Proofs.Theme.Layers
import MapTheme.Proofs.Theme.Origin
import MapTheme.Proofs.Theme.Supply

namespace MapTheme.Theme

variable {lib : Library} {input theme : Document} {place : String}

/-! ## What becomes of the entries -/

/-- The entries of a theme with notes in their wordings, as they are substituted. -/
def entriesOf (theme : Document) : List Document :=
  annotateItems ("themes:" ++ theme.id?.getD "" ++ "." ++ "layers") false 0 (layersOf theme)

/-- The override of all layers with notes in its wordings, as it is laid over them. -/
def overrideAllOf (theme : Document) : Option Document :=
  (theme.get? "overrideAll").map (annotate ("themes:" ++ theme.id?.getD "" ++ "." ++ "overrideAll") false)

/-- The id that the override of all layers of a theme leaves to a layer. -/
def idUnderOverride (theme layer : Document) : Option String :=
  (((theme.get? "overrideAll").bind (·.get? "id")).or (layer.get? "id")).bind Document.text?

/-- A substituted layer is prepared, put under the override of all layers, and prepared again. -/
def Expands (lib : Library) (theme layer result : Document) : Prop :=
  ∃ prepared overridden p q, ((Layer.prepareLayer lib).convert layer p).result = some prepared ∧
    Overridden (overrideAllOf theme) prepared overridden ∧
    ((Layer.prepareLayer lib).convert overridden q).result = some result

/-- The lists of layers that the entries stand for. -/
def Substituted (lib : Library) (theme : Document) (found : List (List Document)) : Prop :=
  List.Forall₂ (fun entry layers => ∃ p, ((substituteLayer lib).convert entry p).result = some layers)
    (entriesOf theme) found

theorem prepareLayer_honest (lib : Library) : (Layer.prepareLayer lib).Honest := Step.fuse_honest _ _ _

theorem distinct_overrideAllOf (h : input.Distinct) : ∀ d, overrideAllOf input = some d → d.Distinct := by
  intro d hd
  obtain ⟨override, hoverride, rfl⟩ := Option.map_eq_some_iff.mp hd
  exact distinct_annotate _ _ (h.get? hoverride)

/-- Notes are not laid over ids. -/
theorem idUnderOverride_eq (theme layer : Document) :
    (((overrideAllOf theme).bind (·.get? "id")).or (layer.get? "id")).bind Document.text? = idUnderOverride theme layer := by
  unfold overrideAllOf idUnderOverride
  cases theme.get? "overrideAll" with
  | none => rfl
  | some override =>
    simp only [Option.map_some, Option.bind_some, get?_annotate]
    cases override.get? "id" with
    | none => rfl
    | some id => exact text?_annotate _ _ id

/-- The preparation of layers leaves the id alone, so what decides on it is the override. -/
theorem Expands.id? (hlib : lib.Distinct) (hinput : input.Distinct) {layer result : Document} (hlayer : layer.Distinct)
    (h : Expands lib input layer result) {id : String} (hid : result.id? = some id) :
    result.id? = idUnderOverride input layer := by
  obtain ⟨prepared, overridden, p, q, hprepared, hover, hresult⟩ := h
  have hdistinct := Layer.prepareLayer_keepsDistinct hlib hlayer hprepared
  have hoverride := distinct_overrideAllOf hinput
  have hkept := Layer.prepareLayer_keeps_id hlib (hover.distinct hoverride hdistinct) hresult
  have hoverridden : overridden.id? = some id := by
    rw [Document.id?, Document.textAt?, ← hkept]
    exact hid
  rw [hid, ← hover.id? hoverride hoverridden, Layer.prepareLayer_keeps_id hlib hlayer hprepared, idUnderOverride_eq]

/-- Layers that end up with an id have the one that the override leaves to them. -/
theorem expands_with_ids (hlib : lib.Distinct) (hinput : input.Distinct) {layers own : List Document}
    (hlayers : ∀ layer ∈ layers, layer.Distinct) (hown : ∀ d ∈ own, ∃ id, d.id? = some id)
    (h : List.Forall₂ (Expands lib input) layers own) :
    List.Forall₂ (fun layer result => Expands lib input layer result ∧ result.id? = idUnderOverride input layer)
      layers own := by
  refine List.forall₂_iff_zip.mpr ⟨h.length_eq, ?_⟩
  intro layer result hpair
  obtain ⟨hlayer, hresult⟩ := List.of_mem_zip hpair
  obtain ⟨id, hid⟩ := hown result hresult
  have hexpands := List.forall₂_zip h hpair
  exact ⟨hexpands, hexpands.id? hlib hinput (hlayers layer hlayer) hid⟩

/-- The id and the override of all layers are those that were authored, up to notes in wordings. -/
structure Carries (input d : Document) : Prop where
  distinct : d.Distinct
  id : d.id? = input.id?
  override : d.get? "overrideAll" = overrideAllOf input

theorem Carries.step {d result : Document} (h : Carries input d) {step : Step} (hdistinct : step.KeepsDistinct)
    (hid : step.Keeps "id") (hoverride : step.Keeps "overrideAll")
    (hr : (step.convert d place).result = some result) : Carries input result := by
  refine ⟨hdistinct h.distinct hr, ?_, ?_⟩
  · rw [← h.id, Document.id?, Document.textAt?, hid h.distinct hr]
    rfl
  · rw [hoverride h.distinct hr, h.override]

/-- A step on the list of layers. -/
theorem Carries.on_layers {d result : Document} (h : Carries input d) {step : Step} (hdistinct : step.KeepsDistinct)
    (hr : ((Step.on "layers" step).convert d place).result = some result) : Carries input result :=
  h.step (Step.on_keepsDistinct hdistinct) (Step.on_keeps (by simp [Step.on])) (Step.on_keeps (by simp [Step.on])) hr

theorem carries_annotateWordings (hinput : input.Distinct) {result : Document}
    (h : ((annotateWordings "themes:").convert input place).result = some result) :
    Carries input result ∧ (∃ id, input.id? = some id) ∧ layersOf result = entriesOf input := by
  have hdistinct := annotateWordings_keepsDistinct _ hinput h
  simp only [annotateWordings] at h
  split at h
  · rename_i id hid
    cases h
    have hentries : layersOf (annotate ("themes:" ++ id) false input) = entriesOf input := by
      rw [layersOf_annotate, entriesOf, hid]
      rfl
    have hoverride : (annotate ("themes:" ++ id) false input).get? "overrideAll" = overrideAllOf input := by
      rw [get?_annotate, overrideAllOf, hid]
      rfl
    exact ⟨⟨hdistinct, id?_annotate _ _, hoverride⟩, ⟨id, hid⟩, hentries⟩
  · cases h

theorem result_preparePersonalTheme {result : Document} (hpersonal : input.id? ≠ some "personal")
    (h : ((preparePersonalTheme lib).convert input place).result = some result) : result = input := by
  simp only [preparePersonalTheme, beq_iff_eq, hpersonal, if_false] at h
  cases h
  rfl

theorem result_warnForInlineLayers {result : Document} (h : (warnForInlineLayers.convert input place).result = some result) :
    result = input := by
  simp only [warnForInlineLayers] at h
  split at h
  · cases h
    rfl
  · exact (Noted.result_finish h).2.symm

theorem isObject_of_id? {d : Document} {id : String} (h : d.id? = some id) : d.isObject = true := by
  cases d with
  | object => rfl
  | null | bool | number | text | list => cases h

/-- Up to the second preparation of layers, every substituted layer has its place. -/
theorem exists_expanded (hlib : lib.Distinct) (hinput : input.Distinct) (hpersonal : input.id? ≠ some "personal")
    {rest : List Step}
    (h : (Step.runAll place ((preparationSteps lib).take 8 ++ rest) ⟨input, .empty⟩).result = some theme) :
    ∃ (found : List (List Document)) (next : Noted Document), Substituted lib input found ∧
      (∀ layer ∈ found.flatten, layer.Distinct) ∧
      List.Forall₂ (Expands lib input) found.flatten (layersOf next.value) ∧ next.value.isObject = true ∧
      (Step.runAll place rest next).result = some theme := by
  simp only [preparationSteps, List.take_succ_cons, List.take_zero, List.cons_append, List.nil_append] at h
  obtain ⟨noted, hnoted, h⟩ := Step.exists_of_runAll_cons h
  obtain ⟨personal, hpersonal', h⟩ := Step.exists_of_runAll_cons h
  obtain ⟨warned, hwarned, h⟩ := Step.exists_of_runAll_cons h
  obtain ⟨substituted, hsubstituted, h⟩ := Step.exists_of_runAll_cons h
  obtain ⟨filled, hfilled, h⟩ := Step.exists_of_runAll_cons h
  obtain ⟨prepared, hprepared, h⟩ := Step.exists_of_runAll_cons h
  obtain ⟨overridden, hoverridden, h⟩ := Step.exists_of_runAll_cons h
  obtain ⟨next, hnext, h⟩ := Step.exists_of_runAll_cons h
  obtain ⟨hcarries, ⟨id, hid⟩, hentries⟩ := carries_annotateWordings hinput hnoted
  rw [result_preparePersonalTheme (hcarries.id ▸ hpersonal) hpersonal'] at hwarned
  rw [result_warnForInlineLayers hwarned] at hsubstituted
  obtain ⟨found, hfound, hflat⟩ := on_concat_layers (substituteLayer_honest lib) hsubstituted
  rw [hentries] at hfound
  have hcarries := hcarries.on_layers (Step.concat_keepsDistinct (substituteLayer_keepsDistinct hlib)) hsubstituted
  have hsame : layersOf filled.value = found.flatten := by
    rw [← hflat]
    exact layersOf_congr (Step.setDefault_keeps (by simp [Step.setDefault]) hcarries.distinct hfilled)
  have hcarries := hcarries.step (Step.setDefault_keepsDistinct (Document.distinct_text _))
    (Step.setDefault_keeps (by simp [Step.setDefault])) (Step.setDefault_keeps (by simp [Step.setDefault])) hfilled
  have hlayers : ∀ layer ∈ found.flatten, layer.Distinct := hsame ▸ distinct_layersOf hcarries.distinct
  have hfirst := on_each_layers (prepareLayer_honest lib) hprepared
  have hcarries := hcarries.on_layers (Step.each_keepsDistinct (Layer.prepareLayer_keepsDistinct hlib)) hprepared
  obtain ⟨hdistinct, hkept, hover⟩ := applyOverrideAll_layers hcarries.distinct hoverridden
  rw [hcarries.override] at hover
  have hsecond := on_each_layers (prepareLayer_honest lib) hnext
  have hexpands : List.Forall₂ (Expands lib input) found.flatten (layersOf next.value) := by
    rw [← hsame]
    refine (forall₂_comp hfirst (forall₂_comp hover hsecond)).imp ?_
    rintro layer result ⟨prepared, ⟨p, hprepared⟩, overridden, hoverridden, q, hresult⟩
    exact ⟨prepared, overridden, p, q, hprepared, hoverridden, hresult⟩
  have hnextid : next.value.id? = some id := by
    have hkeep : next.value.get? "id" = overridden.value.get? "id" :=
      Step.on_keeps (by simp [Step.on]) hdistinct hnext
    rw [Document.id?, Document.textAt?, hkeep, hkept "id" (by decide), ← hid, ← hcarries.id]
    rfl
  exact ⟨found, next, hfound, hlayers, hexpands, isObject_of_id? hnextid, h⟩

/-! ## Layers that are needed -/

theorem addDependencyLayers_layers (hobject : input.isObject = true) {result : Document}
    (h : ((addDependencyLayers lib).convert input place).result = some result) :
    result.isObject = true ∧ ∃ needed, layersOf result = needed ++ layersOf input ∧
      ∀ d ∈ needed, Brought lib (needed ++ layersOf input) (layersOf input) d := by
  cases hl : input.listAt? "layers" with
  | none =>
    simp only [addDependencyLayers, hl] at h
    cases h
  | some layers =>
    rw [convert_addDependencyLayers hl] at h
    obtain ⟨hclean, rfl⟩ := Noted.result_finish h
    rw [Noted.notes_bind, Noted.notes_pure, Diagnostics.append_empty] at hclean
    obtain ⟨needed, hvalue, hsupplied⟩ := addMissing_supplies hclean
    have hlayers : layersOf input = layers := by
      rw [layersOf, hl]
      rfl
    rw [Noted.value_bind, Noted.value_pure, layersOf_withLayers hobject, hlayers]
    exact ⟨isObject_withLayers hobject _, needed, hvalue, hsupplied.forall_brought⟩

/-! ## Companions -/

/-- The companion of a layer of the list, from some zoom on. -/
def Accompanies (lib : Library) (layers : List Document) (d : Document) : Prop :=
  ∃ layer ∈ layers, ∃ id zoom, importable? lib layer = some id ∧ d = importLayer id zoom

theorem addImportLayers_layers (hobject : input.isObject = true) {result : Document}
    (h : ((addImportLayers lib).convert input place).result = some result) :
    ∃ companions, layersOf result = layersOf input ++ companions ∧
      ∀ d ∈ companions, Accompanies lib (layersOf input) d := (addImportLayers_appends hobject h).2

/-! ## Themes -/

theorem ids_of_checkLayers {layers : List Document} {seen : List String} {index : Nat}
    (h : (checkLayers lib place seen index layers).notes.hasErrors = false) :
    ∃ ids : List String, layers.map Document.id? = ids.map some ∧ ids.Nodup ∧ ∀ id ∈ ids, id ∉ seen := by
  induction layers generalizing seen index with
  | nil => exact ⟨[], rfl, .nil, by simp⟩
  | cons layer rest ih =>
    simp only [checkLayers] at h
    split at h
    · simp at h
    · rename_i id hid
      split at h
      · simp at h
      · rename_i hseen
        have hrest : (checkLayers lib place (id :: seen) (index + 1) rest).notes.hasErrors = false := by
          split at h
          · exact h
          · rw [Noted.notes_bind, Diagnostics.hasErrors_append, Bool.or_eq_false_iff] at h
            exact h.2
        obtain ⟨ids, hids, hnodup, hfresh⟩ := ih hrest
        refine ⟨id :: ids, by rw [List.map_cons, hid, hids, List.map_cons], List.nodup_cons.mpr ⟨?_, hnodup⟩, ?_⟩
        · intro hin
          exact hfresh id hin List.mem_cons_self
        · refine List.forall_mem_cons.mpr ⟨by simpa using hseen, ?_⟩
          intro other hother hin
          exact hfresh other hother (List.mem_cons_of_mem _ hin)

/-- The four parts of the layers of a prepared theme: the layers that others need, those of the entries, the
default ones, and companions. -/
structure Arranged (lib : Library) (input : Document) (needed own defaults companions : List Document) : Prop where
  /-- One layer for each that the entries stand for, in their order. -/
  authored : ∃ found, Substituted lib input found ∧
    List.Forall₂ (fun layer result => Expands lib input layer result ∧ result.id? = idUnderOverride input layer)
      found.flatten own
  brought : ∀ d ∈ needed, Brought lib (needed ++ own ++ defaults) (own ++ defaults) d
  shared : defaults.map some = (absentDefaults lib own).map lib.layers.find?
  accompany : ∀ d ∈ companions, Accompanies lib (needed ++ own ++ defaults) d

/-- The layers of a prepared theme are those of its entries, in their order and with their ids, up to the
override of all layers; what they need stands before them, default layers and companions behind. All layers have
ids, and no two the same. -/
theorem prepareTheme_arranges (hlib : lib.Distinct) (hinput : input.Distinct) (hpersonal : input.id? ≠ some "personal")
    (h : ((prepareTheme lib).convert input place).result = some theme) :
    ∃ needed own defaults companions,
      theme.listAt? "layers" = some (needed ++ own ++ defaults ++ companions) ∧
      Arranged lib input needed own defaults companions ∧
      ∃ ids : List String, (needed ++ own ++ defaults ++ companions).map Document.id? = ids.map some ∧ ids.Nodup := by
  have hrun : (Step.runAll place ((preparationSteps lib).take 8 ++ [addDefaultLayers lib, addDependencyLayers lib,
      addImportLayers lib, addNodeDatabaseFlag, validateTheme lib]) ⟨input, .empty⟩).result = some theme := h
  obtain ⟨found, expanded, hfound, hdistinct, hexpands, hobject, hrun⟩ :=
    exists_expanded hlib hinput hpersonal hrun
  obtain ⟨completed, hcompleted, hrun⟩ := Step.exists_of_runAll_cons hrun
  obtain ⟨supplied, hsupplied, hrun⟩ := Step.exists_of_runAll_cons hrun
  obtain ⟨imported, himported, hrun⟩ := Step.exists_of_runAll_cons hrun
  obtain ⟨flagged, hflagged, hrun⟩ := Step.exists_of_runAll_cons hrun
  obtain ⟨last, hlast, hrun⟩ := Step.exists_of_runAll_cons hrun
  obtain rfl : last.value = theme := (Noted.result_finish hrun).2
  obtain ⟨hobject, defaults, hcompleted, hdefaults⟩ := addDefaultLayers_layers hobject hcompleted
  obtain ⟨hobject, needed, hsupplied, hneeded⟩ := addDependencyLayers_layers hobject hsupplied
  obtain ⟨companions, himported, hcompanions⟩ := addImportLayers_layers hobject himported
  obtain ⟨hsame, hpassed⟩ := result_validateTheme hlast
  have hflagged := layersOf_addNodeDatabaseFlag hflagged
  rw [← hsame] at hpassed
  obtain ⟨ids, hids, hnodup, -⟩ := ids_of_checkLayers hpassed.layers
  have hlayers : layersOf last.value = needed ++ layersOf expanded.value ++ defaults ++ companions := by
    rw [hsame, hflagged, himported, hsupplied, hcompleted, ← List.append_assoc needed]
  have hown : ∀ d ∈ layersOf expanded.value, ∃ id, d.id? = some id := by
    intro d hd
    have hin : d.id? ∈ (layersOf last.value).map Document.id? := by
      rw [hlayers]
      exact List.mem_map_of_mem (by simp [hd])
    rw [hids] at hin
    obtain ⟨id, -, hid⟩ := List.mem_map.mp hin
    exact ⟨id, hid.symm⟩
  rw [hcompleted] at hneeded hsupplied
  rw [hsupplied] at hcompanions
  rw [← List.append_assoc] at hneeded hcompanions
  have harranged : Arranged lib input needed (layersOf expanded.value) defaults companions :=
    ⟨⟨found, hfound, expands_with_ids hlib hinput hdistinct hown hexpands⟩, hneeded, hdefaults, hcompanions⟩
  refine ⟨needed, layersOf expanded.value, defaults, companions, ?_, harranged, ids, hlayers ▸ hids, hnodup⟩
  rw [← hlayers]
  exact listAt?_of_layersOf_ne_nil hpassed.some_layer

/-- A theme of benches in which every layer gets another id. -/
def seatTheme : Document :=
  .object
    [("id", .text "seats"), ("title", .text "Seats"), ("layers", .list [.text "bench"]),
     ("overrideAll", .object [("id", .text "seat")])]

/-- The layer of paths is needed, that of the range is there by default, and the benches, under their new id, have
a companion. -/
theorem prepareTheme_arranges_seats :
    Build.snappingAuthored.Distinct ∧ seatTheme.Distinct ∧ seatTheme.id? ≠ some "personal" ∧
      ∃ theme needed own defaults companions,
        ((prepareTheme Build.snappingAuthored).convert seatTheme "themes:seats").result = some theme ∧
        theme.listAt? "layers" = some (needed ++ own ++ defaults ++ companions) ∧
        layerIdsOf (needed ++ own ++ defaults ++ companions) = ["path", "seat", "range", "note_import_seat"] ∧
        Arranged Build.snappingAuthored seatTheme needed own defaults companions := by
  have hsource : ∀ s ∈ Build.snappingSources, s.document.Distinct := by
    simp [Build.snappingSources, Build.snappingBench, Build.pathLayer, Build.rangeLayer, Fields.Distinct, Fields.keys]
  have hauth : Build.snappingAuthored.Distinct := Build.distinct_authored hsource (by simp)
  have hseats : seatTheme.Distinct := by simp [seatTheme, Fields.Distinct, Fields.keys]
  have hpersonal : seatTheme.id? ≠ some "personal" := by decide
  have hids : ((prepareTheme Build.snappingAuthored).convert seatTheme "themes:seats").result.map
      (fun theme => layerIdsOf (layersOf theme)) = some ["path", "seat", "range", "note_import_seat"] := by decide +kernel
  obtain ⟨theme, htheme, hids⟩ := Option.map_eq_some_iff.mp hids
  obtain ⟨needed, own, defaults, companions, hlist, harranged, -⟩ :=
    prepareTheme_arranges hauth hseats hpersonal htheme
  rw [layersOf, hlist] at hids
  exact ⟨hauth, hseats, hpersonal, theme, needed, own, defaults, companions, htheme, hlist, hids, harranged⟩

end MapTheme.Theme
