/-
  MapTheme.Proofs.Layer.Frame — what the preparation of a layer leaves as it is.

  A step keeps the fields that are not among those it says it modifies; so does a sequence of steps, and the
  preparation of a layer, whatever renderings come in (`prepareLayer_keeps`). For the old style this needs
  distinct keys: where a field is taken out, the last one moves into its place. So a prepared layer has the fields
  of the layer, except for those that the preparation declares (`prepareLayer_touches_declared`).
-/

import MapTheme.Proofs.Layer.Preparation

namespace MapTheme

/-! ## Erased fields -/

namespace Fields

variable {fields : Fields} {key other : String}

theorem mem_erase_iff {f : String × Document} (h : f.1 ≠ key) : f ∈ erase fields key ↔ f ∈ fields := by
  unfold erase
  split
  · rename_i hhas
    split
    · rfl
    · rename_i last hlast
      obtain ⟨others, rfl⟩ := List.getLast?_eq_some_iff.mp hlast
      rw [List.dropLast_concat]
      dsimp only
      split
      · rename_i hkey
        have hne : f ≠ last := by
          rintro rfl
          exact h (by simpa using hkey)
        simp [hne]
      · rename_i hkey
        -- The last field is moved to where the key was.
        obtain ⟨g, hg, hgkey⟩ : ∃ g ∈ others, g.1 = key := by
          obtain ⟨g, hg, hgkey⟩ := List.any_eq_true.mp hhas
          rcases List.mem_append.mp hg with hg | hg
          · exact ⟨g, hg, by simpa using hgkey⟩
          · rw [List.mem_singleton.mp hg] at hgkey
            exact absurd hgkey hkey
        rw [List.mem_map, List.mem_append, List.mem_singleton]
        constructor
        · rintro ⟨g', hg', rfl⟩
          split
          · exact .inr rfl
          · exact .inl hg'
        · rintro (hf | rfl)
          · exact ⟨f, hf, by simp [h]⟩
          · exact ⟨g, hg, by simp [hgkey]⟩
  · rfl

theorem get?_erase_of_ne (hf : fields.Distinct) (h : key ≠ other) : get? (erase fields key) other = get? fields other := by
  apply Option.ext
  intro d
  rw [get?_eq_some_iff_mem (hf.erase key).1, get?_eq_some_iff_mem hf.1, mem_erase_iff (Ne.symm h)]

/-- No second field with the key is left. -/
theorem get?_erase_self (hn : (keys fields).Nodup) (key : String) : get? (erase fields key) key = none := by
  rw [Option.eq_none_iff_forall_ne_some]
  intro d hd
  have hmem := mem_of_get? hd
  unfold erase at hmem
  split at hmem
  · split at hmem
    · rename_i hlast
      rw [List.getLast?_eq_none_iff.mp hlast] at hmem
      cases hmem
    · rename_i last hlast
      obtain ⟨others, rfl⟩ := List.getLast?_eq_some_iff.mp hlast
      rw [List.dropLast_concat] at hmem
      have hothers : ∀ g ∈ others, g.1 ≠ last.1 := by
        simp only [keys, List.map_append, List.map_cons, List.map_nil, List.nodup_append] at hn
        intro g hg
        exact hn.2.2 g.1 (List.mem_map_of_mem hg) last.1 (List.mem_singleton_self _)
      dsimp only at hmem
      split at hmem
      · rename_i hkey
        exact hothers _ hmem (beq_iff_eq.mp hkey).symm
      · rename_i hkey
        obtain ⟨g, -, hg⟩ := List.mem_map.mp hmem
        split at hg
        · exact hkey (by simp [hg])
        · rename_i hgkey
          exact hgkey (by simp [hg])
  · rename_i hhas
    rw [has_eq_isSome_get?, (get?_eq_some_iff_mem hn).mpr hmem] at hhas
    exact hhas rfl

end Fields

/-! ## Steps -/

/-- The field `key` is in the result as it is in the input. -/
def Step.Keeps (step : Step) (key : String) : Prop :=
  ∀ {input place result}, input.Distinct → (step.convert input place).result = some result →
    result.get? key = input.get? key

namespace Step

variable {key other : String}

theorem get?_insert_object {fields : Fields} {d : Document} (h : key ≠ other) :
    (Document.object (Fields.insert fields key d)).get? other = (Document.object fields).get? other :=
  Fields.get?_insert_of_ne h fields d

theorem get?_ite {c : Prop} [Decidable c] {a b : Document} (h : a.get? key = b.get? key) :
    (if c then a else b).get? key = b.get? key := by
  split
  · exact h
  · rfl

theorem on_keeps {step : Step} (h : other ∉ (on key step).modified) : (on key step).Keeps other := by
  intro input place result _ hr
  have hne : key ≠ other := by
    rintro rfl
    exact h List.mem_cons_self
  simp only [on] at hr
  split at hr
  · split at hr
    · obtain ⟨d, -, rfl⟩ := Converted.result_of_map hr
      exact get?_insert_object hne
    · cases hr
      rfl
  · cases hr
    rfl

theorem setDefault_keeps {value : Document} {onlyMissing : Bool} (h : other ∉ (setDefault key value onlyMissing).modified) :
    (setDefault key value onlyMissing).Keeps other := by
  intro input place result _ hr
  have hne : key ≠ other := by
    rintro rfl
    exact h List.mem_cons_self
  simp only [setDefault] at hr
  split at hr
  · rename_i fields _
    have hinsert : (Document.object (Fields.insert fields key value)).get? other = (Document.object fields).get? other :=
      get?_insert_object hne
    rw [← Option.some.inj hr]
    exact get?_ite hinsert
  · cases hr

theorem runAll_keeps {steps : List Step} (hdistinct : ∀ step ∈ steps, step.KeepsDistinct)
    (hkeeps : ∀ step ∈ steps, step.Keeps key) {place : String} {current : Noted Document} {result : Document}
    (hcurrent : current.value.Distinct) (h : (runAll place steps current).result = some result) :
    result.get? key = current.value.get? key := by
  induction steps generalizing current with
  | nil => rw [← (Noted.result_finish h).2]
  | cons step rest ih =>
    simp only [runAll] at h
    split at h
    · rename_i r _ hr
      have hrest := ih (fun s hs => hdistinct s (List.mem_cons_of_mem _ hs))
        (fun s hs => hkeeps s (List.mem_cons_of_mem _ hs)) (hdistinct step List.mem_cons_self hcurrent hr) h
      rw [hrest]
      exact hkeeps step List.mem_cons_self hcurrent hr
    · cases h

theorem mem_modifiedBy {steps : List Step} {step : Step} (hs : step ∈ steps) (h : key ∈ step.modified) :
    key ∈ modifiedBy steps := by
  rw [modifiedBy, List.mem_eraseDups]
  exact List.mem_flatMap.mpr ⟨step, hs, h⟩

/-- Objects become objects. -/
abbrev KeepsObject (step : Step) : Prop := step.Takes (fun d => d.isObject = true) fun d => d.isObject = true

theorem isObject_ite {c : Prop} [Decidable c] {a b : Document} (ha : a.isObject = true) (hb : b.isObject = true) :
    (if c then a else b).isObject = true := by
  split
  · exact ha
  · exact hb

theorem on_keepsObject (key : String) (step : Step) : (on key step).KeepsObject := by
  intro input place result hi hr
  simp only [on] at hr
  split at hr
  · split at hr
    · obtain ⟨d, -, rfl⟩ := Converted.result_of_map hr
      rfl
    · cases hr
      exact hi
  · cases hr
    exact hi

theorem setDefault_keepsObject (key : String) (value : Document) (onlyMissing : Bool) :
    (setDefault key value onlyMissing).KeepsObject := by
  intro input place result _ hr
  simp only [setDefault] at hr
  split at hr
  · rw [← Option.some.inj hr]
    exact isObject_ite rfl rfl
  · cases hr

/-- A sequence keeps what none of its steps says it modifies. -/
theorem fuse_keeps {name doc : String} {steps : List Step} (hdistinct : ∀ step ∈ steps, step.KeepsDistinct)
    (hkeeps : ∀ step ∈ steps, key ∉ step.modified → step.Keeps key) (h : key ∉ (fuse name doc steps).modified) :
    (fuse name doc steps).Keeps key := by
  intro input place result hi hr
  refine runAll_keeps hdistinct (fun step hs => hkeeps step hs ?_) hi hr
  exact fun hkey => h (mem_modifiedBy hs hkey)

end Step

/-! ## The preparation of a layer -/

namespace Layer

variable {lib : Library} {key : String}

/-- What is taken is gone, and all else is as it was. -/
theorem get?_takeFields {names : List String} {fields : Fields} (hf : fields.Distinct) :
    Fields.get? (takeFields names fields).2 key = if key ∈ names then none else Fields.get? fields key := by
  unfold takeFields
  generalize ([] : Fields) = taken
  induction names generalizing taken fields with
  | nil => rfl
  | cons name names ih =>
    rw [List.foldl_cons]
    cases hget : Fields.get? fields name with
    | none =>
      simp only [hget]
      rw [ih hf]
      by_cases hname : key = name
      · simp [hname, hget]
      · simp [hname]
    | some d =>
      simp only [hget]
      rw [ih (hf.erase name)]
      by_cases hname : key = name
      · simp [hname, Fields.get?_erase_self hf.1]
      · simp [hname, Fields.get?_erase_of_ne hf (Ne.symm hname)]

theorem get?_moveStyle {fields : Fields} (hf : fields.Distinct) (h : key ∉ moveOldStyle.modified) :
    Fields.get? (moveStyle fields) key = Fields.get? fields key := by
  have hmodified : moveOldStyle.modified = pointFields ++ lineFields ++ ["mapRendering", "wayHandling"] := rfl
  simp only [hmodified, List.mem_append, List.mem_cons, List.not_mem_nil, or_false, not_or] at h
  obtain ⟨⟨hpoint, hline⟩, hdrawings, hways⟩ := h
  have hfirst := (distinct_takeFields pointFields hf).2
  have hsecond := (distinct_takeFields lineFields hfirst).2
  have htaken : Fields.get? (Fields.erase (takeFields lineFields (takeFields pointFields fields).2).2 "wayHandling") key =
      Fields.get? fields key := by
    rw [Fields.get?_erase_of_ne hsecond (Ne.symm hways), get?_takeFields hfirst, get?_takeFields hf, if_neg hline,
      if_neg hpoint]
  simp only [moveStyle]
  split
  · exact htaken
  · rw [Fields.get?_insert_of_ne (Ne.symm hdrawings)]
    exact htaken

theorem moveOldStyle_keeps (h : key ∉ moveOldStyle.modified) : moveOldStyle.Keeps key := by
  intro input place result hi hr
  simp only [moveOldStyle] at hr
  split at hr
  · split at hr
    · cases hr
      rfl
    · rename_i fields _
      obtain rfl := (Noted.result_finish hr).2
      have hmoved : (Document.object (moveStyle fields)).get? key = (Document.object fields).get? key := by
        rw [Document.get?_object, Document.get?_object]
        exact get?_moveStyle (Document.distinct_object.mp hi) h
      split <;> exact hmoved
  · cases hr

theorem get?_withRendering (layer rendering : Document) (h : key ≠ "tagRenderings") :
    (withRendering layer rendering).get? key = layer.get? key := by
  unfold withRendering
  split
  · split
    · exact Step.get?_insert_object (Ne.symm h)
    · rfl
  · rfl

theorem addMiniMap_keeps (h : key ∉ (addMiniMap lib).modified) : (addMiniMap lib).Keeps key := by
  intro input place result _ hr
  have hne : key ≠ "tagRenderings" := by
    rintro rfl
    exact h List.mem_cons_self
  rcases of_addMiniMap hr with ⟨rfl, -⟩ | ⟨map, -, -, rfl⟩
  · rfl
  · exact get?_withRendering input map hne

theorem addQuestionBox_keeps (h : key ∉ (addQuestionBox lib).modified) : (addQuestionBox lib).Keeps key := by
  intro input place result _ hr
  have hne : key ≠ "tagRenderings" := by
    rintro rfl
    exact h List.mem_cons_self
  rcases of_addQuestionBox hr with ⟨rfl, -⟩ | ⟨-, rfl⟩
  · rfl
  · exact get?_withRendering input questionBox hne

/-- The preparation of a layer keeps every field that it does not say it modifies. -/
theorem prepareLayer_keeps (hlib : lib.Distinct) (h : key ∉ (prepareLayer lib).modified) : (prepareLayer lib).Keeps key := by
  refine Step.fuse_keeps (preparationSteps_keepDistinct hlib) (fun step hs hkey => ?_) h
  simp only [preparationSteps, List.mem_cons, List.not_mem_nil, or_false] at hs
  rcases hs with rfl | rfl | rfl | rfl | rfl | rfl | rfl | rfl | rfl | rfl
  · exact Step.on_keeps hkey
  · exact Step.on_keeps hkey
  · exact Step.on_keeps hkey
  · exact Step.on_keeps hkey
  · exact moveOldStyle_keeps hkey
  · exact Step.setDefault_keeps hkey
  · exact Step.on_keeps hkey
  · exact addMiniMap_keeps hkey
  · exact addQuestionBox_keeps hkey
  · exact Step.on_keeps hkey

theorem modified_prepareLayer (lib : Library) : (prepareLayer lib).modified =
    ["tagRenderings", "icon", "iconSize", "label", "rotation", "color", "width", "dashArray", "mapRendering",
     "wayHandling", "titleIcons", "filter"] := rfl

theorem prepareLayer_keeps_id (hlib : lib.Distinct) : (prepareLayer lib).Keeps "id" := by
  apply prepareLayer_keeps hlib
  rw [modified_prepareLayer]
  decide

/-! ## What the preparation declares -/

theorem moveOldStyle_keepsObject : moveOldStyle.KeepsObject := by
  intro input place result hi hr
  simp only [moveOldStyle] at hr
  split at hr
  · split at hr
    · cases hr
      exact hi
    · obtain rfl := (Noted.result_finish hr).2
      split <;> rfl
  · cases hr

theorem isObject_withRendering {layer : Document} (rendering : Document) (h : layer.isObject = true) :
    (withRendering layer rendering).isObject = true := by
  unfold withRendering
  split
  · split
    · rfl
    · exact h
  · exact h

theorem addMiniMap_keepsObject (lib : Library) : (addMiniMap lib).KeepsObject := by
  intro input place result hi hr
  rcases of_addMiniMap hr with ⟨rfl, -⟩ | ⟨map, -, -, rfl⟩
  · exact hi
  · exact isObject_withRendering map hi

theorem addQuestionBox_keepsObject (lib : Library) : (addQuestionBox lib).KeepsObject := by
  intro input place result hi hr
  rcases of_addQuestionBox hr with ⟨rfl, -⟩ | ⟨-, rfl⟩
  · exact hi
  · exact isObject_withRendering questionBox hi

theorem preparationSteps_keepObject (lib : Library) : ∀ step ∈ preparationSteps lib, step.KeepsObject := by
  intro step hs
  simp only [preparationSteps, List.mem_cons, List.not_mem_nil, or_false] at hs
  rcases hs with rfl | rfl | rfl | rfl | rfl | rfl | rfl | rfl | rfl | rfl
  · exact Step.on_keepsObject _ _
  · exact Step.on_keepsObject _ _
  · exact Step.on_keepsObject _ _
  · exact Step.on_keepsObject _ _
  · exact moveOldStyle_keepsObject
  · exact Step.setDefault_keepsObject _ _ _
  · exact Step.on_keepsObject _ _
  · exact addMiniMap_keepsObject lib
  · exact addQuestionBox_keepsObject lib
  · exact Step.on_keepsObject _ _

theorem prepareLayer_keepsObject (lib : Library) : (prepareLayer lib).KeepsObject :=
  Step.fuse_takes (preparationSteps_keepObject lib)

/-- A layer becomes an object with distinct keys that has exactly the fields of the layer, up to those that the
preparation declares; the id, the source, the presets, the title and the name are none of these. -/
theorem prepareLayer_touches_declared (hlib : lib.Distinct) {layer : Fields} (hlayer : layer.Distinct) {place : String}
    {result : Document} (h : ((prepareLayer lib).convert (.object layer) place).result = some result) :
    (∃ fields : Fields, result = .object fields ∧ fields.Distinct ∧
      ∀ key, key ∉ (prepareLayer lib).modified → ∀ value, (key, value) ∈ fields ↔ (key, value) ∈ layer) ∧
    ∀ key ∈ ["id", "source", "presets", "title", "name"], key ∉ (prepareLayer lib).modified := by
  have hinput : (Document.object layer).Distinct := Document.distinct_object.mpr hlayer
  have hobject : result.isObject = true := prepareLayer_keepsObject lib rfl h
  have hdistinct : result.Distinct := prepareLayer_keepsDistinct hlib hinput h
  refine ⟨?_, ?_⟩
  · cases result with
    | object fields =>
      have hfields := Document.distinct_object.mp hdistinct
      refine ⟨fields, rfl, hfields, fun key hkey value => ?_⟩
      have hsame : Fields.get? fields key = Fields.get? layer key := prepareLayer_keeps hlib hkey hinput h
      rw [← Fields.get?_eq_some_iff_mem hfields.1, hsame, Fields.get?_eq_some_iff_mem hlayer.1]
    | null | bool | number | text | list => cases hobject
  · rw [modified_prepareLayer]
    decide

/-- A library with one rendering, which shows a map. -/
def mapLibrary : Library :=
  ⟨[], [("minimap", .object [("id", .text "minimap"), ("render", .text "\x7bminimap()\x7d")])], [], .default⟩

/-- A layer in the old style, with a title, a reference and a key of its own. -/
def oldStyleFields : Fields :=
  [("icon", .text "bench.svg"), ("id", .text "bench"), ("color", .text "#f00"), ("title", .text "Bench"),
   ("source", .object [("osmTags", .text "amenity=bench")]), ("wayHandling", .ofNat 1), ("checked", .bool true),
   ("tagRenderings", .list [.text "\x7bwikipedia()\x7d"])]

/-- The old style is moved, title icons and a map come in; what is not declared is as it was. -/
theorem prepareLayer_touches_declared_bench :
    mapLibrary.Distinct ∧ oldStyleFields.Distinct ∧
      ∃ fields : Fields, ((prepareLayer mapLibrary).convert (.object oldStyleFields) "layers:bench").result =
          some (.object fields) ∧
        Fields.keys fields = ["tagRenderings", "id", "checked", "title", "source", "mapRendering", "titleIcons"] ∧
        ∀ key, key ∉ (prepareLayer mapLibrary).modified → ∀ value, (key, value) ∈ fields ↔ (key, value) ∈ oldStyleFields := by
  have hlib : mapLibrary.Distinct := by
    constructor <;> simp [mapLibrary, Fields.Distinct, Fields.keys]
  have hlayer : oldStyleFields.Distinct := by
    simp [oldStyleFields, Fields.Distinct, Fields.keys, Document.ofNat]
  have hkeys : ((prepareLayer mapLibrary).convert (.object oldStyleFields) "layers:bench").result.map
      (fun d => (d.object?.map Fields.keys)) =
        some (some ["tagRenderings", "id", "checked", "title", "source", "mapRendering", "titleIcons"]) := by
    decide +kernel
  obtain ⟨result, hresult, hkeys⟩ := Option.map_eq_some_iff.mp hkeys
  obtain ⟨⟨fields, rfl, -, hsame⟩, -⟩ := prepareLayer_touches_declared hlib hlayer hresult
  exact ⟨hlib, hlayer, fields, hresult, Option.some.inj hkeys, hsame⟩

end Layer

end MapTheme
