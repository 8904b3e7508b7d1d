/-
  MapTheme.Proofs.Theme.Renderings — no override loses a rendering.

  A key of an override names the renderings only as `tagRenderings`, which is refused, and with one plus sign at
  either end, which adds to them. Whatever else there is in an override, all of it together puts renderings before
  and behind those of the layer (`around_of_mergeFields`). So the layers that an entry stands for, and those under
  the override of all layers, have all renderings that they had, in their order (`overrides_keep_renderings`).
-/

import MapTheme.Proofs.Theme.Layers

namespace MapTheme

/-! ## Lists that are added to -/

namespace Document

/-- The items of the list in a field; where there is no field there are none. -/
def ItemsIn (field : Option Document) (items : List Document) : Prop :=
  field = some (.list items) ∨ field = none ∧ items = []

theorem ItemsIn.eq_nil {items : List Document} (h : ItemsIn none items) : items = [] := by
  rcases h with h | ⟨-, h⟩
  · cases h
  · exact h

theorem ItemsIn.itemsAt_eq {target : Fields} {field : String} {own : List Document}
    (h : ItemsIn (Fields.get? target field) own) : itemsAt target field = own := by
  unfold itemsAt
  rcases h with h | ⟨h, rfl⟩ <;> rw [h] <;> rfl

/-- A key that adds to a list puts what it adds where it belongs. -/
theorem combine_of_mergeField {target : Fields} {key : String} {value d : Document} {own : List Document}
    (hadds : (MergeKey.ofText key).adds = true) (hown : ItemsIn (Fields.get? target (MergeKey.ofText key).field) own)
    (h : mergeField target key value = .ok d) :
    ∃ added, value = .list added ∧ d = .list ((MergeKey.ofText key).combine added own) := by
  obtain ⟨-, added, hvalue, rfl⟩ := of_mergeField_adds hadds h
  rw [hown.itemsAt_eq]
  exact ⟨added, hvalue, rfl⟩

/-- A key that is not the field that it names adds before it or behind it. -/
theorem ofText_of_field {key field : String} (h : (MergeKey.ofText key).field = field) (hne : key ≠ field) :
    (key = "+" ++ field ∧ MergeKey.ofText key = .before field) ∨
      (key = field ++ "+" ∧ MergeKey.ofText key = .behind field) := by
  cases hof : MergeKey.ofText key with
  | plain named =>
    rw [hof] at h
    exact absurd ((MergeKey.eq_of_ofText_plain hof).symm.trans h) hne
  | before named =>
    rw [hof] at h
    obtain rfl : named = field := h
    exact .inl ⟨MergeKey.ofText_eq_before_iff.mp hof, rfl⟩
  | behind named =>
    rw [hof] at h
    obtain rfl : named = field := h
    exact .inr ⟨MergeKey.eq_of_ofText_behind hof, rfl⟩

/-- An overlay without the plain key of a list puts items before and behind those that are there. -/
theorem around_of_mergeFields {field : String} (hbehind : MergeKey.ofText (field ++ "+") = .behind field)
    {source : List (String × Document)} {target result : Fields} {own : List Document}
    (hn : (Fields.keys source).Nodup) (hplain : field ∉ Fields.keys source)
    (h : mergeFields source target = .ok result) (hown : ItemsIn (Fields.get? target field) own) :
    ∃ before behind, ItemsIn (Fields.get? source ("+" ++ field)) before ∧
      ItemsIn (Fields.get? source (field ++ "+")) behind ∧
      ItemsIn (Fields.get? result field) (before ++ own ++ behind) := by
  have hbefore : MergeKey.ofText ("+" ++ field) = .before field := MergeKey.ofText_eq_before_iff.mpr rfl
  induction source generalizing target own with
  | nil =>
    rw [mergeFields] at h
    cases h
    exact ⟨[], [], .inr ⟨rfl, rfl⟩, .inr ⟨rfl, rfl⟩, by simpa using hown⟩
  | cons f rest ih =>
    obtain ⟨key, value⟩ := f
    rw [mergeFields_cons] at h
    obtain ⟨d, hd, h⟩ := ok_of_bind h
    obtain ⟨hnew, hrest⟩ := List.nodup_cons.mp hn
    obtain ⟨hkey, hothers⟩ := not_or.mp (List.mem_cons.not.mp hplain)
    rw [Fields.get?_cons, Fields.get?_cons]
    by_cases hnamed : (MergeKey.ofText key).field = field
    -- Of the two keys that add to the field this is one, and the rest has it no second time.
    · rcases ofText_of_field hnamed (Ne.symm hkey) with ⟨hstart, hof⟩ | ⟨hend, hof⟩
      · obtain ⟨added, rfl, rfl⟩ := combine_of_mergeField (by rw [hof]; rfl) (by rwa [hnamed]) hd
        rw [hnamed] at h
        obtain ⟨before, behind, hfirst, hlast, hresult⟩ := ih hrest hothers h (.inl (Fields.get?_insert_self _ _ _))
        have hend : key ≠ field ++ "+" := by
          rintro rfl
          rw [hbehind] at hof
          cases hof
        rw [Fields.get?_eq_none_iff.mpr (hstart ▸ hnew)] at hfirst
        obtain rfl := hfirst.eq_nil
        rw [if_pos hstart, if_neg hend]
        exact ⟨added, behind, .inl rfl, hlast, by simpa [hof, MergeKey.combine] using hresult⟩
      · obtain ⟨added, rfl, rfl⟩ := combine_of_mergeField (by rw [hof]; rfl) (by rwa [hnamed]) hd
        rw [hnamed] at h
        obtain ⟨before, behind, hfirst, hlast, hresult⟩ := ih hrest hothers h (.inl (Fields.get?_insert_self _ _ _))
        have hstart : key ≠ "+" ++ field := by
          rintro rfl
          rw [hbefore] at hof
          cases hof
        rw [Fields.get?_eq_none_iff.mpr (hend ▸ hnew)] at hlast
        obtain rfl := hlast.eq_nil
        rw [if_neg hstart, if_pos hend]
        exact ⟨before, added, hfirst, .inl rfl, by simpa [hof, MergeKey.combine] using hresult⟩
    · have hstart : key ≠ "+" ++ field := by
        rintro rfl
        exact hnamed (congrArg MergeKey.field hbefore)
      have hend : key ≠ field ++ "+" := by
        rintro rfl
        exact hnamed (congrArg MergeKey.field hbehind)
      rw [if_neg hstart, if_neg hend]
      exact ih hrest hothers h (by rwa [Fields.get?_insert_of_ne hnamed])

end Document

namespace Theme

variable {lib : Library} {place : String}

/-! ## Renderings of a layer -/

/-- An object whose renderings, where it has any, are a list. -/
def HasRenderings (layer : Document) : Prop :=
  layer.isObject = true ∧ ∃ own, Document.ItemsIn (layer.get? "tagRenderings") own

/-- The result has the renderings of the layer, all of them and in their order, between those that the override
puts before and behind them. -/
def KeepsRenderings (override layer result : Document) : Prop :=
  result.isObject = true ∧ ∃ before own behind, Document.ItemsIn (override.get? "+tagRenderings") before ∧
    Document.ItemsIn (layer.get? "tagRenderings") own ∧ Document.ItemsIn (override.get? "tagRenderings+") behind ∧
    Document.ItemsIn (result.get? "tagRenderings") (before ++ own ++ behind)

/-- What an override that does not name the renderings themselves makes of a layer. -/
theorem keepsRenderings_of_overridden {override : Option Document} {layer result : Document}
    (ho : ∀ d, override = some d → d.Distinct ∧ d.isObject = true ∧ d.get? "tagRenderings" = none)
    (hlayer : HasRenderings layer) (h : Overridden override layer result) :
    KeepsRenderings (override.getD (.object [])) layer result := by
  obtain ⟨hobject, own, hown⟩ := hlayer
  cases override with
  | none =>
    obtain rfl : result = layer := h
    exact ⟨hobject, [], own, [], .inr ⟨rfl, rfl⟩, hown, .inr ⟨rfl, rfl⟩, by simpa using hown⟩
  | some override =>
    obtain ⟨hdistinct, hoverride, hplain⟩ := ho _ rfl
    obtain ⟨-, hmerge⟩ := h
    cases override with
    | object source =>
      cases layer with
      | object target =>
        rw [Document.merge] at hmerge
        cases hfields : Document.mergeFields source target with
        | error fault => rw [hfields] at hmerge; cases hmerge
        | ok fields =>
          rw [hfields] at hmerge
          cases hmerge
          have hadds : MergeKey.ofText ("tagRenderings" ++ "+") = .behind "tagRenderings" := by decide
          obtain ⟨before, behind, hbefore, hbehind, hresult⟩ := Document.around_of_mergeFields hadds
            (Document.distinct_object.mp hdistinct).1 (Fields.get?_eq_none_iff.mp hplain) hfields hown
          exact ⟨rfl, before, own, behind, hbefore, hown, hbehind, hresult⟩
      | null | bool | number | text | list => cases hobject
    | null | bool | number | text | list => cases hoverride

/-! ## Entries -/

/-- The ids that an entry refers to. -/
def referredNames? : Document → Option (List String)
  | .text name => some [name]
  | entry => (entry.get? "builtin").bind Rendering.textList?

theorem value_layerFor {e : LayerEntry} {name : String} (hlabels : e.labels = [])
    (h : (layerFor lib e place name).notes.hasErrors = false) :
    ∃ layer, (layerFor lib e place name).value = [layer] ∧ overriddenLayer lib e name = .ok layer := by
  unfold layerFor at h ⊢
  cases hlayer : overriddenLayer lib e name with
  | error fault => simp [hlayer] at h
  | ok layer => exact ⟨layer, by simp [hlabels], rfl⟩

/-- A layer that an entry stands for is a shared one under the override of the entry. -/
theorem overridden_of_overriddenLayer {e : LayerEntry} {name : String} {layer : Document}
    (hobjects : ∀ name shared, lib.layers.find? name = some shared → shared.isObject = true)
    (h : overriddenLayer lib e name = .ok layer) :
    ∃ shared, lib.layers.find? name = some shared ∧ Overridden e.override shared layer := by
  unfold overriddenLayer at h
  split at h
  · cases h
  · rename_i shared hfind
    refine ⟨shared, hfind, ?_⟩
    cases hoverride : e.override with
    | none =>
      rw [hoverride] at h
      exact (Except.ok.inj h).symm
    | some override =>
      rw [hoverride] at h
      dsimp only at h
      split at h
      · rename_i d hmerge
        cases h
        exact ⟨hobjects name shared hfind, hmerge⟩
      · cases h

/-- Without labels, an entry stands for the layers that it names, in their order. -/
theorem substituteLayer_layers {entry : Document} {layers : List Document}
    (hrefers : entry.isText = true ∨ (entry.get? "builtin").isSome = true)
    (hlabels : entry.get? "hideTagRenderingsWithLabels" = none)
    (h : ((substituteLayer lib).convert entry place).result = some layers) :
    ∃ e : LayerEntry, referredNames? entry = some e.names ∧ e.override = entry.get? "override" ∧
      (∀ d, e.override = some d → d.isObject = true ∧ d.get? "tagRenderings" = none) ∧
      List.Forall₂ (fun name layer => overriddenLayer lib e name = .ok layer) e.names layers := by
  simp only [substituteLayer] at h
  split at h
  · rename_i name
    obtain ⟨hclean, rfl⟩ := Noted.result_finish h
    obtain ⟨layer, hvalue, hlayer⟩ := value_layerFor rfl hclean
    refine ⟨⟨[name], none, []⟩, rfl, rfl, by simp, ?_⟩
    rw [hvalue]
    exact .cons hlayer .nil
  · rename_i entry
    split at h
    · rename_i hbuiltin
      rcases hrefers with hrefers | hrefers
      · cases hrefers
      · have hnone : (Document.object entry).get? "builtin" = none := hbuiltin
        rw [hnone] at hrefers
        cases hrefers
    · rename_i builtin hbuiltin
      split at h
      · cases h
      · rename_i e he
        obtain ⟨hnames, hoverride, hhidden⟩ := LayerEntry.parts_of_ofFields he
        obtain ⟨hfield, hadds⟩ := overrideOf_eq hoverride
        obtain ⟨found, hfound, rfl⟩ := Converted.result_of_map h
        obtain ⟨hclean, rfl⟩ := Noted.result_finish hfound
        have hreferred : referredNames? (.object entry) = some e.names := by
          have hget : (Document.object entry).get? "builtin" = some builtin := hbuiltin
          rw [referredNames?, hget]
          · exact hnames
          · simp
        refine ⟨e, hreferred, hfield, hadds, ?_⟩
        exact Noted.forall₂_of_each (fun name _ hok => value_layerFor (hhidden hlabels) hok) hclean
  · cases h

/-! ## The override of all layers -/

/-- An override of all layers that is taken does not name the renderings themselves, and is gone afterwards. -/
theorem applyOverrideAll_consumes {theme result : Document} (hdistinct : theme.Distinct)
    (h : (applyOverrideAll.convert theme place).result = some result) :
    (∀ d, theme.get? "overrideAll" = some d → d.isObject = true ∧ d.get? "tagRenderings" = none) ∧
      result.get? "overrideAll" = none := by
  simp only [applyOverrideAll] at h
  split at h
  · rename_i hnone
    cases h
    exact ⟨by simp [hnone], hnone⟩
  · rename_i override hoverride
    split at h
    · cases h
    · rename_i hplain
      rw [Fields.has_eq_isSome_get?, Option.not_isSome_iff_eq_none] at hplain
      obtain ⟨-, rfl⟩ := Noted.result_finish h
      refine ⟨fun d hd => ?_, ?_⟩
      · rw [hoverride] at hd
        cases hd
        exact ⟨rfl, hplain⟩
      · cases theme with
        | object fields =>
          have hfields := (Document.distinct_object.mp hdistinct).1
          exact Fields.get?_erase_self (Fields.nodup_keys_insert hfields) "overrideAll"
        | null | bool | number | text | list => cases hoverride
  · cases h

/-! ## Both kinds of overrides -/

/-- No override loses a rendering, moves one or replaces one. The layers that an entry without labels stands for
have the renderings of the shared layers that it names, between those that its override adds before and behind; and
so have the layers of a theme under the override of all layers, which is gone then. -/
theorem overrides_keep_renderings :
    (∀ (lib : Library) (entry : Document) (place : String) (layers : List Document), entry.Distinct →
      (∀ name shared, lib.layers.find? name = some shared → HasRenderings shared) →
      (entry.isText = true ∨ (entry.get? "builtin").isSome = true) →
      entry.get? "hideTagRenderingsWithLabels" = none →
      ((substituteLayer lib).convert entry place).result = some layers →
      ∃ names, referredNames? entry = some names ∧
        List.Forall₂ (fun name layer => ∃ shared, lib.layers.find? name = some shared ∧
          KeepsRenderings ((entry.get? "override").getD (.object [])) shared layer) names layers) ∧
    ∀ (theme result : Document) (place : String), theme.Distinct → (∀ layer ∈ layersOf theme, HasRenderings layer) →
      (applyOverrideAll.convert theme place).result = some result →
      List.Forall₂ (KeepsRenderings ((theme.get? "overrideAll").getD (.object []))) (layersOf theme) (layersOf result) ∧
        result.get? "overrideAll" = none := by
  refine ⟨?_, ?_⟩
  · intro lib entry place layers hdistinct hshared hrefers hlabels h
    obtain ⟨e, hnames, hoverride, hadds, hlayers⟩ := substituteLayer_layers hrefers hlabels h
    refine ⟨e.names, hnames, hlayers.imp fun name layer hlayer => ?_⟩
    obtain ⟨shared, hfind, hover⟩ := overridden_of_overriddenLayer (fun _ _ hs => (hshared _ _ hs).1) hlayer
    refine ⟨shared, hfind, ?_⟩
    rw [← hoverride]
    refine keepsRenderings_of_overridden (fun d hd => ?_) (hshared name shared hfind) hover
    exact ⟨hdistinct.get? (hoverride ▸ hd), hadds d hd⟩
  · intro theme result place hdistinct hlayers h
    obtain ⟨hadds, hgone⟩ := applyOverrideAll_consumes hdistinct h
    obtain ⟨-, -, hover⟩ := applyOverrideAll_layers hdistinct h
    refine ⟨List.forall₂_iff_zip.mpr ⟨hover.length_eq, fun {layer out} hpair => ?_⟩, hgone⟩
    have hlayer := hlayers layer (List.of_mem_zip hpair).1
    have hout := List.forall₂_zip hover hpair
    exact keepsRenderings_of_overridden (fun d hd => ⟨hdistinct.get? hd, hadds d hd⟩) hlayer hout

def woodenBench : Document := .object [("id", .text "bench"), ("tagRenderings", .texts ["material", "backrest"])]

def plainStand : Document := .object [("id", .text "stand"), ("minzoom", .ofNat 14)]

/-- An override with renderings for both ends, and with keys that come close to naming the renderings. -/
def seatOverride : Document :=
  .object
    [("tagRenderings+", .texts ["images"]), ("++tagRenderings", .texts []), ("tagRenderings++", .texts ["odd"]),
     ("source", .object [("tagRenderings", .null)]), ("+tagRenderings", .texts ["name"])]

def seatLibrary : Library := ⟨[("bench", woodenBench), ("stand", plainStand)], [], [], Settings.default⟩

def seatEntry : Document := .object [("builtin", .texts ["stand", "bench"]), ("override", seatOverride)]

def overriddenSeats : Document :=
  .object [("overrideAll", seatOverride), ("layers", .list [woodenBench, plainStand]), ("id", .text "seats")]

theorem overrides_keep_renderings_seats :
    seatEntry.Distinct ∧ (∀ name shared, seatLibrary.layers.find? name = some shared → HasRenderings shared) ∧
    (∃ layers, ((substituteLayer seatLibrary).convert seatEntry "seats").result = some layers ∧
      layers.map (·.get? "tagRenderings") =
        [some (.texts ["name", "images"]), some (.texts ["name", "material", "backrest", "images"])] ∧
      List.Forall₂ (fun name layer => ∃ shared, seatLibrary.layers.find? name = some shared ∧
        KeepsRenderings seatOverride shared layer) ["stand", "bench"] layers) ∧
    overriddenSeats.Distinct ∧ (∀ layer ∈ layersOf overriddenSeats, HasRenderings layer) ∧
    ∃ result, (applyOverrideAll.convert overriddenSeats "seats").result = some result ∧
      (layersOf result).map (·.get? "tagRenderings") =
        [some (.texts ["name", "material", "backrest", "images"]), some (.texts ["name", "images"])] ∧
      List.Forall₂ (KeepsRenderings seatOverride) [woodenBench, plainStand] (layersOf result) ∧
      result.get? "overrideAll" = none := by
  have hbench : HasRenderings woodenBench := ⟨rfl, _, .inl rfl⟩
  have hstand : HasRenderings plainStand := ⟨rfl, _, .inr ⟨rfl, rfl⟩⟩
  have hoverride : seatOverride.Distinct := by simp [seatOverride, Fields.Distinct, Fields.keys]
  have hentry : seatEntry.Distinct := by simp [seatEntry, hoverride, Fields.Distinct, Fields.keys]
  have hseats : overriddenSeats.Distinct := by
    simp [overriddenSeats, woodenBench, plainStand, Document.ofNat, hoverride, Fields.Distinct, Fields.keys]
  have hlibrary : ∀ name shared, seatLibrary.layers.find? name = some shared → HasRenderings shared := by
    intro name shared h
    have hmem : (name, shared) ∈ [("bench", woodenBench), ("stand", plainStand)] := Fields.mem_of_get? h
    rcases List.mem_pair.mp hmem with he | he <;> cases he
    · exact hbench
    · exact hstand
  have hlayers : ∀ layer ∈ layersOf overriddenSeats, HasRenderings layer := by
    intro layer hlayer
    have hmem : layer ∈ [woodenBench, plainStand] := hlayer
    rcases List.mem_pair.mp hmem with rfl | rfl
    · exact hbench
    · exact hstand
  obtain ⟨names, hnames, hkept⟩ :=
    overrides_keep_renderings.1 seatLibrary seatEntry "seats" _ hentry hlibrary (.inr rfl) rfl rfl
  cases hnames
  obtain ⟨hall, hgone⟩ := overrides_keep_renderings.2 overriddenSeats _ "seats" hseats hlayers rfl
  exact ⟨hentry, hlibrary, ⟨_, rfl, rfl, hkept⟩, hseats, hlayers, _, rfl, rfl, hall, hgone⟩

end Theme

end MapTheme
