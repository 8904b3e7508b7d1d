/-
  MapTheme.Proofs.Theme.Companions — the companions that a theme gets for the layers with points to import.

  A companion is made from an id and a zoom, so what holds of one holds of all: it is read and has no errors, it
  needs the layer of the id and no other, and it gets no companion itself (`isCompanion_importLayer`). The step
  puts one behind the layers for each that lacks it, in order (`forall₂_companions`). None is lacking then
  (`complete_append`), and the step leaves such a theme as it is (`addImportLayers_of_complete`).
-/

import MapTheme.Proofs.Layer.Validation
import MapTheme.Proofs.Theme.Layers
import MapTheme.Proofs.Theme.Supply

namespace MapTheme.Theme

variable {lib : Library} {theme layer : Document} {layers companions : List Document} {present : List String}
  {id place : String}

/-! ## One companion -/

/-- What a companion of the layer `id` is like, wherever it stands. -/
structure IsCompanion (id : String) (d : Document) : Prop where
  named : d.id? = some (importStart ++ id)
  passes : ∀ place, (Layer.validateLayer.convert d place).isOk = true
  needs : ∀ place, ∃ l, Config.Layer.ofDocument place d = .ok l ∧
    (Layer.dependencies l).map Layer.Dependency.needed = [id]
  alone : ∀ lib, importable? lib d = none

theorem isSound_importConfig (h : Config.isValidId id = true) (zoom : Binary64) :
    Layer.isSound (importConfig id zoom) = true := by
  have htitle : Layer.callsKnown ["Import candidate"] = true := by rw [Layer.callsKnown, callsOfTexts_candidate]; rfl
  have hbutton : Layer.callsKnown [importButton id] = true := by
    rw [Layer.callsKnown, callsOfTexts_importButton h]
    rfl
  have hclose : Layer.callsKnown [closeNoteText] = true := by rw [Layer.callsKnown, callsOfTexts_closeNote]; rfl
  have hcomment : Layer.callsKnown [addCommentText] = true := by rw [Layer.callsKnown, callsOfTexts_addComment]; rfl
  have hparts : Layer.isSound (importConfig id zoom) = (Layer.callsKnown ["Import candidate"] &&
      (Layer.callsKnown [importButton id] && (Layer.callsKnown [closeNoteText] &&
        (Layer.callsKnown [addCommentText] && true)))) := rfl
  rw [hparts, htitle, hbutton, hclose, hcomment]
  rfl

theorem startsWith_importStart (id : String) : Text.startsWith importStart (importStart ++ id) = true := by
  rw [Text.startsWith, Option.isSome_iff_exists]
  exact ⟨id.toList, Text.after?_eq_some_iff.mpr (String.toList_append ..)⟩

/-- Ids of companions get none. -/
theorem importable?_importLayer (lib : Library) (id : String) (zoom : Binary64) :
    importable? lib (importLayer id zoom) = none := by
  rw [Option.eq_none_iff_forall_ne_some]
  intro own h
  obtain rfl : own = importStart ++ id := Option.some.inj ((id?_of_importable? h).symm.trans rfl)
  simp only [importable?, importLayer] at h
  split at h
  · rename_i hown
    obtain rfl := Document.text.inj (Option.some.inj hown)
    simp [startsWith_importStart] at h
  · cases h

theorem isCompanion_importLayer (h : Config.isValidId id = true) (zoom : Binary64) :
    IsCompanion id (importLayer id zoom) := by
  refine ⟨rfl, ?_, ?_, fun lib => importable?_importLayer lib id zoom⟩
  · intro place
    rw [Layer.isOk_validateLayer, ofDocument_importLayer h]
    exact isSound_importConfig h zoom
  · intro place
    exact ⟨importConfig id zoom, ofDocument_importLayer h place zoom, by rw [dependencies_importConfig h]; rfl⟩

/-- The companion that a layer gets. -/
def CompanionOf (lib : Library) (layer d : Document) : Prop :=
  ∃ id, importable? lib layer = some id ∧ d = importLayer id (importZoom layer) ∧ IsCompanion id d

/-! ## The companions of a list -/

/-- Does the layer get a companion that is not among those with the ids `present`? -/
def lacksCompanion (lib : Library) (present : List String) (layer : Document) : Bool :=
  (importable? lib layer).any fun id => !present.contains (importStart ++ id)

theorem lacksCompanion_eq_true_iff : lacksCompanion lib present layer = true ↔
    ∃ id, importable? lib layer = some id ∧ importStart ++ id ∉ present := by
  cases h : importable? lib layer <;> simp [lacksCompanion, h]

theorem companion_of_complete (h : lacksCompanion lib present layer = false) :
    companion lib present place layer = pure [] := by
  unfold companion
  cases himport : importable? lib layer with
  | none => rfl
  | some id =>
    have hpresent : present.contains (importStart ++ id) = true := by simpa [lacksCompanion, himport] using h
    dsimp only
    rw [if_pos hpresent]

theorem value_companion_of_lacks (himport : importable? lib layer = some id) (h : importStart ++ id ∉ present) :
    (companion lib present place layer).value = [importLayer id (importZoom layer)] := by
  have hpresent : ¬ present.contains (importStart ++ id) = true := by simpa using h
  unfold companion
  rw [himport]
  dsimp only
  rw [if_neg hpresent]
  rfl

theorem hasErrors_companion (lib : Library) (present : List String) (place : String) (layer : Document) :
    (companion lib present place layer).notes.hasErrors = false := by
  unfold companion
  split
  · rfl
  · dsimp only
    split <;> rfl

/-- One companion for each layer that lacks it, in order. -/
theorem forall₂_companions (lib : Library) (present : List String) (place : String)
    (hvalid : ∀ layer ∈ layers, ∀ id, layer.id? = some id → Config.isValidId id = true) :
    List.Forall₂ (CompanionOf lib) (layers.filter (lacksCompanion lib present))
      (Noted.each (companion lib present place) layers).value.flatten := by
  rw [Noted.value_each]
  induction layers with
  | nil => exact .nil
  | cons layer rest ih =>
    obtain ⟨hlayer, hrest⟩ := List.forall_mem_cons.mp hvalid
    rw [List.map_cons, List.flatten_cons]
    cases hlacks : lacksCompanion lib present layer with
    | false =>
      rw [companion_of_complete hlacks, List.filter_cons_of_neg (by simp [hlacks])]
      exact ih hrest
    | true =>
      obtain ⟨id, himport, hnone⟩ := lacksCompanion_eq_true_iff.mp hlacks
      have hcompanion := isCompanion_importLayer (hlayer id (id?_of_importable? himport)) (importZoom layer)
      rw [value_companion_of_lacks himport hnone, List.filter_cons_of_pos hlacks]
      exact .cons ⟨id, himport, rfl, hcompanion⟩ (ih hrest)

/-- Their ids are those of their layers with the same start. -/
theorem layerIdsOf_companions (h : List.Forall₂ (CompanionOf lib) layers companions) :
    layerIdsOf companions = (layerIdsOf layers).map (importStart ++ ·) := by
  induction h with
  | nil => rfl
  | cons hd _ ih =>
    obtain ⟨id, himport, -, hd⟩ := hd
    rw [layerIdsOf, List.filterMap_cons_some hd.named, layerIdsOf,
      List.filterMap_cons_some (id?_of_importable? himport), List.map_cons]
    exact congrArg ((importStart ++ id) :: ·) ih

theorem importStart_append_injective : Function.Injective (importStart ++ ·) := by
  intro a b h
  have hchars := congrArg String.toList h
  simp only [String.toList_append] at hchars
  exact String.toList_injective (List.append_cancel_left hchars)

/-- Ids stay distinct, since layers with a companion do not get another one. -/
theorem nodup_append_of_layerIdsOf (hdistinct : (layerIdsOf layers).Nodup)
    (h : layerIdsOf companions =
      (layerIdsOf (layers.filter (lacksCompanion lib (layerIdsOf layers)))).map (importStart ++ ·)) :
    (layerIdsOf (layers ++ companions)).Nodup := by
  have hids : layerIdsOf (layers ++ companions) = layerIdsOf layers ++ layerIdsOf companions := List.filterMap_append
  have hsub : (layerIdsOf (layers.filter (lacksCompanion lib (layerIdsOf layers)))).Sublist (layerIdsOf layers) :=
    List.filter_sublist.filterMap _
  rw [hids, h]
  refine List.nodup_append.mpr ⟨hdistinct, (hdistinct.sublist hsub).map importStart_append_injective, ?_⟩
  intro a ha b hb he
  obtain ⟨id, hid, rfl⟩ := List.mem_map.mp hb
  obtain ⟨layer, hlayer, hown⟩ := List.mem_filterMap.mp hid
  obtain ⟨id', himport, hnone⟩ := lacksCompanion_eq_true_iff.mp (List.mem_filter.mp hlayer).2
  obtain rfl := Option.some.inj (hown.symm.trans (id?_of_importable? himport))
  exact hnone (he ▸ ha)

theorem nodup_append_companions (hdistinct : (layerIdsOf layers).Nodup)
    (h : List.Forall₂ (CompanionOf lib) (layers.filter (lacksCompanion lib (layerIdsOf layers))) companions) :
    (layerIdsOf (layers ++ companions)).Nodup :=
  nodup_append_of_layerIdsOf hdistinct (layerIdsOf_companions h)

/-- No layer lacks a companion any more, and companions get none. -/
theorem complete_append
    (h : List.Forall₂ (CompanionOf lib) (layers.filter (lacksCompanion lib (layerIdsOf layers))) companions) :
    ∀ layer ∈ layers ++ companions, lacksCompanion lib (layerIdsOf (layers ++ companions)) layer = false := by
  have hids : layerIdsOf (layers ++ companions) = layerIdsOf layers ++ layerIdsOf companions := List.filterMap_append
  intro layer hlayer
  rw [Bool.eq_false_iff]
  intro hlacks
  obtain ⟨id, himport, hnone⟩ := lacksCompanion_eq_true_iff.mp hlacks
  rw [hids, List.mem_append, not_or] at hnone
  rcases List.mem_append.mp hlayer with hlayer | hlayer
  · have hfilter := List.mem_filter.mpr ⟨hlayer, lacksCompanion_eq_true_iff.mpr ⟨id, himport, hnone.1⟩⟩
    have hid := List.mem_filterMap.mpr ⟨layer, hfilter, id?_of_importable? himport⟩
    rw [layerIdsOf_companions h] at hnone
    exact hnone.2 (List.mem_map_of_mem hid)
  · obtain ⟨_, -, _, -, -, hcompanion⟩ := exists_of_forall₂ h layer hlayer
    rw [hcompanion.alone] at himport
    cases himport

/-! ## The step -/

/-- Only a theme that is no object, and has no layers, has no place for them. -/
theorem layersOf_withLayers_of (h : theme.isObject = true ∨ layers = []) :
    layersOf (withLayers theme layers) = layers := by
  cases hobject : theme.isObject with
  | true => exact layersOf_withLayers hobject layers
  | false =>
    obtain rfl := h.resolve_left (by simp [hobject])
    cases theme with
    | object => cases hobject
    | null | bool | number | text | list => rfl

theorem layersOf_of_not_object (h : theme.isObject = false) : layersOf theme = [] := by
  cases theme with
  | object => cases h
  | null | bool | number | text | list => rfl

theorem addImportLayers_of_disabled (h : importsEnabled lib theme = false) (place : String) :
    (addImportLayers lib).convert theme place = .success theme := by simp [addImportLayers, h]

theorem convert_addImportLayers (h : importsEnabled lib theme = true) (place : String) :
    (addImportLayers lib).convert theme place =
      (Noted.each (companion lib (layerIdsOf (layersOf theme)) place) (layersOf theme) >>= fun added =>
        pure (withLayers theme (layersOf theme ++ added.flatten))).finish := by simp [addImportLayers, h]

/-- The list of layers is put back as it is. -/
theorem addImportLayers_of_complete
    (h : ∀ layer ∈ layersOf theme, lacksCompanion lib (layerIdsOf (layersOf theme)) layer = false)
    (hback : withLayers theme (layersOf theme) = theme) (place : String) :
    (addImportLayers lib).convert theme place = .success theme := by
  cases henabled : importsEnabled lib theme with
  | false => exact addImportLayers_of_disabled henabled place
  | true =>
    have hnone : Noted.each (companion lib (layerIdsOf (layersOf theme)) place) (layersOf theme) =
        pure ((layersOf theme).map fun _ => []) :=
      Noted.each_eq_pure fun layer hlayer => companion_of_complete (h layer hlayer)
    have hsame : withLayers theme (layersOf theme ++ ((layersOf theme).map fun _ => ([] : List Document)).flatten) =
        theme := by simpa using hback
    rw [convert_addImportLayers henabled, hnone]
    exact congrArg Converted.success hsame

/-- The layers come out with their companions behind them, and no error. -/
theorem result_addImportLayers (h : importsEnabled lib theme = true) (place : String) :
    ((addImportLayers lib).convert theme place).isOk = true ∧ ((addImportLayers lib).convert theme place).result =
      some (withLayers theme (layersOf theme ++
        (Noted.each (companion lib (layerIdsOf (layersOf theme)) place) (layersOf theme)).value.flatten)) := by
  have hclean : (Noted.each (companion lib (layerIdsOf (layersOf theme)) place) (layersOf theme) >>= fun added =>
      (pure (withLayers theme (layersOf theme ++ added.flatten)) : Noted Document)).notes.hasErrors = false := by
    rw [Noted.notes_bind, Noted.notes_pure, Diagnostics.append_empty, Noted.hasErrors_each, List.any_eq_false]
    exact fun layer _ => Bool.eq_false_iff.mp (hasErrors_companion _ _ _ layer)
  rw [convert_addImportLayers h, Noted.isOk_finish, hclean, Noted.finish_of_no_errors hclean]
  exact ⟨rfl, rfl⟩

/-- The layers stay, in their places, and behind them comes one companion for each that lacks it, in their order:
it passes, needs just its layer, and gets no companion. All ids are distinct again, the theme is as before
otherwise, and a second run changes and notes nothing. -/
theorem addImportLayers_adds (hids : ∀ layer ∈ layersOf theme, ∃ id, layer.id? = some id ∧ Config.isValidId id = true)
    (hdistinct : (layerIdsOf (layersOf theme)).Nodup) (lib : Library) (place : String) :
    ∃ (result : Document) (companions : List Document),
      ((addImportLayers lib).convert theme place).isOk = true ∧
      ((addImportLayers lib).convert theme place).result = some result ∧
      layersOf result = layersOf theme ++ companions ∧
      List.Forall₂ (CompanionOf lib) ((layersOf theme).filter fun layer =>
        importsEnabled lib theme && lacksCompanion lib (layerIdsOf (layersOf theme)) layer) companions ∧
      (layerIdsOf (layersOf result)).Nodup ∧
      (∀ key, key ≠ "layers" → result.get? key = theme.get? key) ∧
      ∀ place', (addImportLayers lib).convert result place' = .success result := by
  cases henabled : importsEnabled lib theme with
  | false =>
    have hrun := addImportLayers_of_disabled henabled
    refine ⟨theme, [], ?_, ?_, (List.append_nil _).symm, ?_, hdistinct, fun _ _ => rfl, hrun⟩
    · rw [hrun]
      rfl
    · rw [hrun]
      rfl
    · simp
  | true =>
    have hvalid : ∀ layer ∈ layersOf theme, ∀ id, layer.id? = some id → Config.isValidId id = true := by
      intro layer hlayer id hid
      obtain ⟨own, hown, hvalid⟩ := hids layer hlayer
      exact Option.some.inj (hown.symm.trans hid) ▸ hvalid
    obtain ⟨hok, hresult⟩ := result_addImportLayers henabled place
    have hcompanions := forall₂_companions lib (layerIdsOf (layersOf theme)) place hvalid
    generalize hadded : (Noted.each (companion lib (layerIdsOf (layersOf theme)) place)
      (layersOf theme)).value.flatten = companions at hresult hcompanions
    have hlayers : layersOf (withLayers theme (layersOf theme ++ companions)) = layersOf theme ++ companions := by
      refine layersOf_withLayers_of ?_
      cases hobject : theme.isObject with
      | true => exact .inl rfl
      | false =>
        rw [layersOf_of_not_object hobject] at hadded ⊢
        exact .inr hadded.symm
    refine ⟨_, companions, hok, hresult, hlayers, ?_, ?_, fun _ => get?_withLayers theme _, ?_⟩
    · simpa using hcompanions
    · rw [hlayers]
      exact nodup_append_companions hdistinct hcompanions
    · refine addImportLayers_of_complete ?_ ?_
      · rw [hlayers]
        exact complete_append hcompanions
      · rw [hlayers, withLayers_withLayers]

/-- A layer without a name. -/
def shadeLayer : Document :=
  .object [("id", .text "shade"), ("source", .object [("osmTags", .text "shade=yes")])]

/-- A layer with all that a companion is for. -/
def presetBench : Document :=
  .object [("id", .text "bench"), ("name", .text "Benches"), ("title", .text "Bench"), ("minzoom", .ofNat 14),
    ("source", .object [("osmTags", .text "amenity=bench")]),
    ("presets", .list [.object [("title", .text "a bench"), ("tags", .texts ["amenity=bench"])]])]

def noteTheme : Document :=
  .object [("id", .text "rest"), ("enableNoteImports", .bool true), ("layers", .list [shadeLayer, presetBench])]

theorem addImportLayers_adds_bench :
    layerIdsOf (layersOf noteTheme) = ["shade", "bench"] ∧
      ∃ result bench, ((addImportLayers ⟨[], [], [], .default⟩).convert noteTheme "themes:rest").result = some result ∧
        layersOf result = [shadeLayer, presetBench, bench] ∧ IsCompanion "bench" bench ∧
        ∀ place, (addImportLayers ⟨[], [], [], .default⟩).convert result place = .success result := by
  have hlist : layersOf noteTheme = [shadeLayer, presetBench] := rfl
  have hids : ∀ layer ∈ layersOf noteTheme, ∃ id, layer.id? = some id ∧ Config.isValidId id = true := by
    rw [hlist, List.forall_mem_cons, List.forall_mem_singleton]
    exact ⟨⟨"shade", rfl, by decide +kernel⟩, ⟨"bench", rfl, by decide +kernel⟩⟩
  obtain ⟨result, companions, -, hresult, hlayers, hcompanions, -, -, hagain⟩ :=
    addImportLayers_adds hids (by decide +kernel) ⟨[], [], [], .default⟩ "themes:rest"
  have hlacking : (layersOf noteTheme).filter (fun layer => importsEnabled ⟨[], [], [], .default⟩ noteTheme &&
      lacksCompanion ⟨[], [], [], .default⟩ (layerIdsOf (layersOf noteTheme)) layer) = [presetBench] := rfl
  rw [hlacking] at hcompanions
  cases hcompanions with
  | cons hbench hnil =>
    cases hnil
    obtain ⟨id, himport, -, hbench⟩ := hbench
    obtain rfl : "bench" = id := Option.some.inj himport
    exact ⟨rfl, result, _, hresult, hlayers, hbench, hagain⟩

end MapTheme.Theme
