/-
  MapTheme.Proofs.Theme.Frame — what the preparation of a theme leaves as it is.

  Twelve of its thirteen steps keep the fields that they do not say they modify. The first one says that it
  modifies nothing, but notes in the wordings of all fields where they stand. So a field that is not declared ends
  up as the first step leaves it: it is there exactly if it was there, with the notes, and so with the same value
  exactly if all its wordings had their notes (`prepareTheme_touches`).
-/

import MapTheme.Proofs.Theme.Arrangement

namespace MapTheme.Theme

open Document (distinct_object distinct_list)

variable {lib : Library} {key : String}

/-! ## Documents with distinct keys -/

theorem distinct_withLayers {theme : Document} {layers : List Document} (htheme : theme.Distinct)
    (hlayers : ∀ layer ∈ layers, layer.Distinct) : (withLayers theme layers).Distinct := by
  cases theme with
  | object fields => exact distinct_object.mpr ((distinct_object.mp htheme).insert (distinct_list.mpr hlayers))
  | null | bool | number | text | list => exact htheme

theorem preparePersonalTheme_keepsDistinct (lib : Library) : (preparePersonalTheme lib).KeepsDistinct := by
  intro input place result hi hr
  simp only [preparePersonalTheme] at hr
  split at hr
  · obtain rfl := (Noted.result_finish hr).2
    refine distinct_withLayers hi fun layer hlayer => ?_
    obtain ⟨id, -, rfl⟩ := List.mem_map.mp hlayer
    exact Document.distinct_text id
  · cases hr
    exact hi

theorem warnForInlineLayers_keepsDistinct : warnForInlineLayers.KeepsDistinct := by
  intro input place result hi hr
  rw [result_warnForInlineLayers hr]
  exact hi

theorem applyOverrideAll_keepsDistinct : applyOverrideAll.KeepsDistinct :=
  fun hi hr => (applyOverrideAll_layers hi hr).1

theorem distinct_defaultLayer (hlib : lib.Distinct) (present : List String) (place id : String) :
    ∀ layer ∈ (defaultLayer lib present place id).value, layer.Distinct := by
  unfold defaultLayer
  split
  · simp
  · split
    · rename_i layer hfind
      simpa using hlib.layer hfind
    · simp

theorem addDefaultLayers_keepsDistinct (hlib : lib.Distinct) : (addDefaultLayers lib).KeepsDistinct := by
  intro input place result hi hr
  obtain rfl := (Noted.result_finish hr).2
  refine distinct_withLayers hi fun layer hlayer => ?_
  rcases List.mem_append.mp hlayer with hlayer | hlayer
  · exact distinct_layersOf hi layer hlayer
  · rw [Noted.value_each] at hlayer
    obtain ⟨layers, hlayers, hlayer⟩ := List.mem_flatten.mp hlayer
    obtain ⟨id, -, rfl⟩ := List.mem_map.mp hlayers
    exact distinct_defaultLayer hlib _ _ id layer hlayer

theorem distinct_markedFor (reason : String) {layer : Document} (h : layer.Distinct) : (markedFor reason layer).Distinct := by
  cases layer with
  | object fields =>
    have hforced : (Fields.insert fields "forceLoad" (.bool true)).Distinct :=
      (distinct_object.mp h).insert (Document.distinct_bool true)
    have hpassing : (Fields.insert (Fields.insert fields "forceLoad" (.bool true)) "passAllFeatures" (.bool true)).Distinct :=
      hforced.insert (Document.distinct_bool true)
    exact distinct_object.mpr (hpassing.insert (Document.distinct_text reason))
  | null | bool | number | text | list => exact h

theorem distinct_inject (hlib : lib.Distinct) (place theme : String) (d : Layer.Dependency) :
    ∀ layer ∈ (inject lib place theme d).value, layer.Distinct := by
  unfold inject
  dsimp only
  split
  · rename_i layer hfind
    simpa using distinct_markedFor d.reason.text (hlib.layer hfind)
  · simp

theorem distinct_addMissing (hlib : lib.Distinct) (place theme : String) (rounds : Nat) {layers : List Document}
    (h : ∀ layer ∈ layers, layer.Distinct) : ∀ layer ∈ (addMissing lib place theme rounds layers).value, layer.Distinct := by
  induction rounds generalizing layers with
  | zero => exact h
  | succ rounds ih =>
    simp only [addMissing]
    split
    · exact h
    · split
      · exact h
      · refine ih fun layer hlayer => ?_
        rcases List.mem_append.mp hlayer with hlayer | hlayer
        · rw [Noted.value_each] at hlayer
          obtain ⟨found, hfound, hlayer⟩ := List.mem_flatten.mp hlayer
          obtain ⟨d, -, rfl⟩ := List.mem_map.mp hfound
          exact distinct_inject hlib place theme d layer hlayer
        · exact h layer hlayer

theorem addDependencyLayers_keepsDistinct (hlib : lib.Distinct) : (addDependencyLayers lib).KeepsDistinct := by
  intro input place result hi hr
  simp only [addDependencyLayers] at hr
  split at hr
  · cases hr
  · rename_i layers hlayers
    obtain rfl := (Noted.result_finish hr).2
    exact distinct_withLayers hi (distinct_addMissing hlib _ _ _ (hi.listAt? hlayers))

theorem distinct_importLayer (id : String) (zoom : Binary64) : (importLayer id zoom).Distinct := by
  simp [importLayer, Fields.Distinct, Fields.keys, Document.ofNat]

theorem addImportLayers_keepsDistinct (lib : Library) : (addImportLayers lib).KeepsDistinct := by
  intro input place result hi hr
  simp only [addImportLayers] at hr
  split at hr
  · cases hr
    exact hi
  · obtain rfl := (Noted.result_finish hr).2
    refine distinct_withLayers hi fun layer hlayer => ?_
    rcases List.mem_append.mp hlayer with hlayer | hlayer
    · exact distinct_layersOf hi layer hlayer
    · rw [Noted.value_each] at hlayer
      obtain ⟨companions, hcompanions, hlayer⟩ := List.mem_flatten.mp hlayer
      obtain ⟨_, -, rfl⟩ := List.mem_map.mp hcompanions
      obtain ⟨id, zoom, -, rfl⟩ := value_companion hlayer
      exact distinct_importLayer id zoom

theorem addNodeDatabaseFlag_keepsDistinct : addNodeDatabaseFlag.KeepsDistinct := by
  intro input place result hi hr
  simp only [addNodeDatabaseFlag] at hr
  split at hr
  · cases hr
    exact hi
  · obtain rfl := (Noted.result_finish hr).2
    cases input with
    | object fields => exact distinct_object.mpr ((distinct_object.mp hi).insert (Document.distinct_bool true))
    | null | bool | number | text | list => exact hi

theorem validateTheme_keepsDistinct (lib : Library) : (validateTheme lib).KeepsDistinct := by
  intro input place result hi hr
  rw [(result_validateTheme hr).1]
  exact hi

theorem preparationSteps_keepDistinct (hlib : lib.Distinct) : ∀ step ∈ preparationSteps lib, step.KeepsDistinct := by
  intro step hs
  simp only [preparationSteps, List.mem_cons, List.not_mem_nil, or_false] at hs
  rcases hs with rfl | rfl | rfl | rfl | rfl | rfl | rfl | rfl | rfl | rfl | rfl | rfl | rfl
  · exact annotateWordings_keepsDistinct _
  · exact preparePersonalTheme_keepsDistinct lib
  · exact warnForInlineLayers_keepsDistinct
  · exact Step.on_keepsDistinct (Step.concat_keepsDistinct (substituteLayer_keepsDistinct hlib))
  · exact Step.setDefault_keepsDistinct (Document.distinct_text _)
  · exact Step.on_keepsDistinct (Step.each_keepsDistinct (Layer.prepareLayer_keepsDistinct hlib))
  · exact applyOverrideAll_keepsDistinct
  · exact Step.on_keepsDistinct (Step.each_keepsDistinct (Layer.prepareLayer_keepsDistinct hlib))
  · exact addDefaultLayers_keepsDistinct hlib
  · exact addDependencyLayers_keepsDistinct hlib
  · exact addImportLayers_keepsDistinct lib
  · exact addNodeDatabaseFlag_keepsDistinct
  · exact validateTheme_keepsDistinct lib

/-! ## Steps that keep what they do not declare -/

theorem preparePersonalTheme_keeps (h : key ∉ (preparePersonalTheme lib).modified) : (preparePersonalTheme lib).Keeps key := by
  intro input place result _ hr
  simp only [preparePersonalTheme] at hr
  split at hr
  · obtain rfl := (Noted.result_finish hr).2
    exact get?_withLayers _ _ (by simpa [preparePersonalTheme] using h)
  · cases hr
    rfl

theorem warnForInlineLayers_keeps (key : String) : warnForInlineLayers.Keeps key := by
  intro input place result _ hr
  rw [result_warnForInlineLayers hr]

theorem applyOverrideAll_keeps (h : key ∉ applyOverrideAll.modified) : applyOverrideAll.Keeps key :=
  fun hi hr => (applyOverrideAll_layers hi hr).2.1 key h

theorem addDefaultLayers_keeps (h : key ∉ (addDefaultLayers lib).modified) : (addDefaultLayers lib).Keeps key := by
  intro input place result _ hr
  obtain rfl := (Noted.result_finish hr).2
  exact get?_withLayers _ _ (by simpa [addDefaultLayers] using h)

theorem addDependencyLayers_keeps (h : key ∉ (addDependencyLayers lib).modified) : (addDependencyLayers lib).Keeps key := by
  intro input place result _ hr
  simp only [addDependencyLayers] at hr
  split at hr
  · cases hr
  · obtain rfl := (Noted.result_finish hr).2
    exact get?_withLayers _ _ (by simpa [addDependencyLayers] using h)

theorem addImportLayers_keeps (h : key ∉ (addImportLayers lib).modified) : (addImportLayers lib).Keeps key := by
  intro input place result _ hr
  simp only [addImportLayers] at hr
  split at hr
  · cases hr
    rfl
  · obtain rfl := (Noted.result_finish hr).2
    exact get?_withLayers _ _ (by simpa [addImportLayers] using h)

theorem addNodeDatabaseFlag_keeps (h : key ∉ addNodeDatabaseFlag.modified) : addNodeDatabaseFlag.Keeps key := by
  intro input place result _ hr
  simp only [addNodeDatabaseFlag] at hr
  split at hr
  · cases hr
    rfl
  · obtain rfl := (Noted.result_finish hr).2
    have hne : "enableNodeDatabase" ≠ key := by
      rintro rfl
      exact h List.mem_cons_self
    cases input with
    | object fields => exact Step.get?_insert_object hne
    | null | bool | number | text | list => rfl

theorem validateTheme_keeps (lib : Library) (key : String) : (validateTheme lib).Keeps key := by
  intro input place result _ hr
  rw [(result_validateTheme hr).1]

/-- All steps but the first. -/
theorem keeps_of_mem_tail (lib : Library) :
    ∀ step ∈ (preparationSteps lib).tail, key ∉ step.modified → step.Keeps key := by
  intro step hs hkey
  simp only [preparationSteps, List.tail_cons, List.mem_cons, List.not_mem_nil, or_false] at hs
  rcases hs with rfl | rfl | rfl | rfl | rfl | rfl | rfl | rfl | rfl | rfl | rfl | rfl
  · exact preparePersonalTheme_keeps hkey
  · exact warnForInlineLayers_keeps key
  · exact Step.on_keeps hkey
  · exact Step.setDefault_keeps hkey
  · exact Step.on_keeps hkey
  · exact applyOverrideAll_keeps hkey
  · exact Step.on_keeps hkey
  · exact addDefaultLayers_keeps hkey
  · exact addDependencyLayers_keeps hkey
  · exact addImportLayers_keeps hkey
  · exact addNodeDatabaseFlag_keeps hkey
  · exact validateTheme_keeps lib key

/-! ## Themes -/

variable {place : String} {input result : Document}

theorem modified_prepareTheme (lib : Library) :
    (prepareTheme lib).modified = ["layers", "socialImage", "overrideAll", "enableNodeDatabase"] := rfl

/-- A field that is not declared is as the first step leaves it. -/
theorem get?_prepareTheme (hlib : lib.Distinct) (hinput : input.Distinct) (hkey : key ∉ (prepareTheme lib).modified)
    (h : ((prepareTheme lib).convert input place).result = some result) :
    ∃ id, input.id? = some id ∧
      result.get? key = (input.get? key).map (annotate ("themes:" ++ id ++ "." ++ key) (displayFields.contains key)) := by
  obtain ⟨noted, hnoted, hrun⟩ := Step.exists_of_runAll_cons h
  have hdistinct := preparationSteps_keepDistinct hlib
  have hkeeps : ∀ step ∈ (preparationSteps lib).tail, step.Keeps key := fun step hs =>
    keeps_of_mem_tail lib step hs fun hmodified => hkey (Step.mem_modifiedBy (List.mem_of_mem_tail hs) hmodified)
  have hkept := Step.runAll_keeps (fun step hs => hdistinct step (List.mem_of_mem_tail hs)) hkeeps
    (annotateWordings_keepsDistinct _ hinput hnoted) hrun
  simp only [annotateWordings] at hnoted
  split at hnoted
  · rename_i id hid
    refine ⟨id, hid, ?_⟩
    rw [hkept, ← Option.some.inj hnoted]
    exact get?_annotate _ _ key
  · cases hnoted

theorem prepareTheme_keepsDistinct (hlib : lib.Distinct) : (prepareTheme lib).KeepsDistinct :=
  Step.fuse_takes (preparationSteps_keepDistinct hlib)

theorem prepareTheme_keeps_id (hlib : lib.Distinct) (hinput : input.Distinct)
    (h : ((prepareTheme lib).convert input place).result = some result) :
    ∃ id, input.id? = some id ∧ result.id? = some id := by
  have hkey : "id" ∉ (prepareTheme lib).modified := by
    rw [modified_prepareTheme]
    decide
  obtain ⟨id, hid, hget⟩ := get?_prepareTheme hlib hinput hkey h
  obtain ⟨value, hvalue, htext⟩ := Option.bind_eq_some_iff.mp hid
  refine ⟨id, hid, ?_⟩
  rw [Document.id?, Document.textAt?, hget, hvalue]
  exact (text?_annotate _ _ value).trans htext

/-- A prepared theme has the id of the theme, which is valid. -/
theorem isValidId_of_prepareTheme (hlib : lib.Distinct) (hinput : input.Distinct)
    (h : ((prepareTheme lib).convert input place).result = some result) :
    ∃ id, input.id? = some id ∧ Config.isValidId id = true := by
  obtain ⟨id, hid, hvalid⟩ := isValidId_of_checkId (passed_of_prepareTheme h).id
  obtain ⟨id', hid', hresult⟩ := prepareTheme_keeps_id hlib hinput h
  obtain rfl : id' = id := Option.some.inj (hresult.symm.trans hid)
  exact ⟨id', hid', hvalid⟩

/-- A prepared theme is an object with distinct keys. A field that the preparation does not declare is there exactly
if it is in the theme; its value is that of the theme with the notes on where its wordings stand, and so it is the
same exactly if each wording in it has its note already. -/
theorem prepareTheme_touches (hlib : lib.Distinct) {theme : Fields} (htheme : theme.Distinct)
    (h : ((prepareTheme lib).convert (.object theme) place).result = some result) :
    ∃ (id : String) (fields : Fields), (Document.object theme).id? = some id ∧ result = .object fields ∧ fields.Distinct ∧
      ∀ key, key ∉ (prepareTheme lib).modified →
        (key ∈ Fields.keys fields ↔ key ∈ Fields.keys theme) ∧
        ∀ value, (key, value) ∈ theme →
          (key, annotate ("themes:" ++ id ++ "." ++ key) (displayFields.contains key) value) ∈ fields ∧
          ((key, value) ∈ fields ↔ isNoted (displayFields.contains key) value = true) := by
  have hinput : (Document.object theme).Distinct := distinct_object.mpr htheme
  obtain ⟨id, hid, hid'⟩ := prepareTheme_keeps_id hlib hinput h
  have hdistinct := prepareTheme_keepsDistinct hlib hinput h
  cases result with
  | object fields =>
    have hfields := distinct_object.mp hdistinct
    refine ⟨id, fields, hid, rfl, hfields, fun key hkey => ?_⟩
    obtain ⟨id', hid'', hget⟩ := get?_prepareTheme hlib hinput hkey h
    obtain rfl : id = id' := Option.some.inj (hid.symm.trans hid'')
    have hget : Fields.get? fields key =
        (Fields.get? theme key).map (annotate ("themes:" ++ id ++ "." ++ key) (displayFields.contains key)) := hget
    refine ⟨?_, fun value hvalue => ?_⟩
    · rw [← Fields.isSome_get?_iff, hget, Option.isSome_map, Fields.isSome_get?_iff]
    · rw [(Fields.get?_eq_some_iff_mem htheme.1).mpr hvalue, Option.map_some] at hget
      rw [← Fields.get?_eq_some_iff_mem hfields.1, ← Fields.get?_eq_some_iff_mem hfields.1, hget,
        ← annotate_eq_self_iff ("themes:" ++ id ++ "." ++ key)]
      exact ⟨rfl, Option.some_inj⟩
  | null | bool | number | text | list => cases hid'

/-- A library with the layer of benches, and no layers by default. -/
def benchLibrary : Library :=
  ⟨[("bench", .object [("id", .text "bench"), ("source", .object [("osmTags", .text "amenity=bench")])])], [], [],
    { Settings.default with addedByDefault := [] }⟩

/-- A theme with a title in one language, a description that has its note, and a key of its own. -/
def notedTheme : Fields :=
  [("id", .text "benches"), ("overrideAll", .object [("minzoom", .ofNat 12)]),
   ("description", .object [("en", .text "Where to sit"), ("_context", .text "elsewhere")]),
   ("title", .object [("en", .text "Benches")]), ("checked", .bool true), ("layers", .texts ["bench"])]

theorem notedTheme_distinct : notedTheme.Distinct := by
  simp [notedTheme, Fields.Distinct, Fields.keys, Document.ofNat]

theorem benchLibrary_distinct : benchLibrary.Distinct := by
  constructor <;> simp [benchLibrary, Fields.Distinct, Fields.keys]

/-- What is not declared is there in the theme as it is prepared, and all but the title as it was. -/
theorem prepareTheme_touches_benches :
    benchLibrary.Distinct ∧ notedTheme.Distinct ∧
      ∃ fields : Fields, ((prepareTheme benchLibrary).convert (.object notedTheme) "themes:benches").result =
          some (.object fields) ∧
        Fields.keys fields = ["id", "socialImage", "description", "title", "checked", "layers"] ∧
        (∀ key, key ∉ (prepareTheme benchLibrary).modified → (key ∈ Fields.keys fields ↔ key ∈ Fields.keys notedTheme)) ∧
        ∀ f ∈ notedTheme, f.1 ∉ (prepareTheme benchLibrary).modified → (f ∈ fields ↔ f.1 ≠ "title") := by
  have hkeys : ((prepareTheme benchLibrary).convert (.object notedTheme) "themes:benches").result.map
      (fun d => (d.object?.map Fields.keys)) =
        some (some ["id", "socialImage", "description", "title", "checked", "layers"]) := by
    decide +kernel
  obtain ⟨result, hresult, hkeys⟩ := Option.map_eq_some_iff.mp hkeys
  obtain ⟨id, fields, -, rfl, -, htouched⟩ := prepareTheme_touches benchLibrary_distinct notedTheme_distinct hresult
  refine ⟨benchLibrary_distinct, notedTheme_distinct, fields, hresult, Option.some.inj hkeys,
    fun key hkey => (htouched key hkey).1, ?_⟩
  have hnoted : ∀ f ∈ notedTheme, f.1 ∉ ["layers", "socialImage", "overrideAll", "enableNodeDatabase"] →
      (isNoted (displayFields.contains f.1) f.2 = true ↔ f.1 ≠ "title") := by
    simp only [notedTheme, List.forall_mem_cons]
    decide
  rintro ⟨key, value⟩ hf hkey
  rw [((htouched key hkey).2 value hf).2]
  exact hnoted _ hf hkey

/-- The title is not declared, and yet the prepared theme has another one. -/
theorem prepareTheme_notes_title :
    "title" ∉ (prepareTheme benchLibrary).modified ∧
      ∃ fields : Fields, ((prepareTheme benchLibrary).convert (.object notedTheme) "themes:benches").result =
          some (.object fields) ∧
        (Fields.get? fields "title").bind (·.textAt? "_context") = some "themes:benches.title" ∧
        Fields.get? fields "title" ≠ Fields.get? notedTheme "title" := by
  refine ⟨by rw [modified_prepareTheme]; decide, ?_⟩
  have hnote : ((prepareTheme benchLibrary).convert (.object notedTheme) "themes:benches").result.map
      (fun d => d.isObject && ((d.get? "title").bind (·.textAt? "_context")) == some "themes:benches.title") =
        some true := by
    decide +kernel
  obtain ⟨result, hresult, hnote⟩ := Option.map_eq_some_iff.mp hnote
  rw [Bool.and_eq_true, beq_iff_eq] at hnote
  cases result with
  | object fields =>
    have hnote := hnote.2
    refine ⟨fields, hresult, hnote, fun hsame => ?_⟩
    have hnone : (Fields.get? notedTheme "title").bind (·.textAt? "_context") = none := by decide
    rw [← hsame] at hnone
    cases hnone.symm.trans hnote
  | null | bool | number | text | list => cases hnote.1

end MapTheme.Theme
