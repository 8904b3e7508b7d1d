/-
  MapTheme.Proofs.Build.Validity — what a build writes for a theme is valid.

  A layer compiles only if it passes its validation, and its keys are then distinct. So the registry of
  compiled layers is sound (`sound_compiledLayers`), and a theme that is compiled against it may leave
  out of its checks the layers that it takes from there. Documents that come from files have distinct
  keys, so nothing is asked of the files of a run (`run_writes_valid`).
-/

import MapTheme.Build.Run
import MapTheme.Proofs.Document.Reader
import MapTheme.Proofs.Layer.Preparation
import MapTheme.Proofs.Theme.Validation

namespace MapTheme

/-! ## Registries -/

namespace Registry

theorem mem_insert {r : Registry} {name : String} {d : Document} {f : String × Document}
    (h : f ∈ r.insert name d) : f ∈ r ∨ f = (name, d) := by
  induction r with
  | nil => exact .inr (List.mem_singleton.mp h)
  | cons g rest ih =>
    simp only [insert] at h
    split at h
    · rename_i hname
      rcases List.mem_cons.mp h with rfl | h
      · exact .inr (congrArg (·, d) hname.symm)
      · exact .inl (List.mem_cons_of_mem _ h)
    · split at h
      · rcases List.mem_cons.mp h with rfl | h
        · exact .inr rfl
        · exact .inl h
      · rcases List.mem_cons.mp h with rfl | h
        · exact .inl List.mem_cons_self
        · exact (ih h).imp_left (List.mem_cons_of_mem _)

theorem mem_of_mem_ofList {pairs : List (String × Document)} : ∀ f ∈ ofList pairs, f ∈ pairs := by
  refine List.foldlRecOn (motive := fun r => ∀ f ∈ r, f ∈ pairs) pairs _ (by simp) ?_
  intro r hr g hg f hf
  rcases mem_insert hf with hf | rfl
  · exact hr f hf
  · exact hg

end Registry

namespace Build

/-! ## Documents from files -/

theorem distinct_of_readDocument {files : Files} {path : String} {d : Document}
    (h : readDocument files path = .ok d) : d.Distinct := by
  simp only [readDocument] at h
  split at h
  · cases h
  · split at h
    · cases h
    · cases h; exact Document.distinct_of_read? ‹_›

theorem exists_of_mapM_ok {ε α β : Type} {f : α → Except ε β} {as : List α} {bs : List β} (h : as.mapM f = .ok bs) :
    ∀ b ∈ bs, ∃ a ∈ as, f a = .ok b := by
  induction as generalizing bs with
  | nil => cases h; simp
  | cons a as ih =>
    rw [List.mapM_cons] at h
    obtain ⟨b, hb, h⟩ := ok_of_bind h
    obtain ⟨rest, hrest, h⟩ := ok_of_bind h
    cases h
    refine List.forall_mem_cons.mpr ⟨⟨a, List.mem_cons_self, hb⟩, fun c hc => ?_⟩
    obtain ⟨e, he, hfe⟩ := ih hrest c hc
    exact ⟨e, List.mem_cons_of_mem _ he, hfe⟩

/-- A source holds the document of its file. -/
theorem readDocument_of_readSources {files : Files} {folder : String} {sources : List Source}
    (h : readSources files folder = .ok sources) : ∀ s ∈ sources, readDocument files s.path = .ok s.document := by
  simp only [readSources] at h
  split at h
  · cases h
  · intro s hs
    obtain ⟨name, _, hs⟩ := exists_of_mapM_ok h s hs
    cases hread : readDocument files (Path.joinTexts folder name) with
    | error => rw [hread] at hs; cases hs
    | ok d => rw [hread] at hs; cases hs; exact hread

theorem distinct_of_readSources {files : Files} {folder : String} {sources : List Source}
    (h : readSources files folder = .ok sources) : ∀ s ∈ sources, s.document.Distinct :=
  fun s hs => distinct_of_readDocument (readDocument_of_readSources h s hs)

theorem distinct_of_readRenderings {files : Files} {path : String} {renderings : Registry}
    (h : readRenderings files path = .ok renderings) : ∀ f ∈ renderings, f.2.Distinct := by
  obtain ⟨d, hd, h⟩ := ok_of_bind h
  have hdist := distinct_of_readDocument hd
  split at h
  · cases h
    exact fun f hf => (Document.distinct_object.mp hdist).2 f (Registry.mem_of_mem_ofList f hf)
  · cases h
    intro f hf
    obtain ⟨item, hitem, he⟩ := List.mem_filterMap.mp (Registry.mem_of_mem_ofList f hf)
    obtain ⟨_, _, rfl⟩ := Option.map_eq_some_iff.mp he
    exact Document.distinct_list.mp hdist item hitem
  · cases h

/-- What a run compiles layers against has distinct keys. -/
theorem distinct_authored {sources : List Source} {renderings : Registry} {publicLayers : List String}
    {settings : Settings} (hsources : ∀ s ∈ sources, s.document.Distinct)
    (hrenderings : ∀ f ∈ renderings, f.2.Distinct) :
    (Library.mk (Source.registry sources) renderings publicLayers settings).Distinct := by
  refine ⟨fun f hf => ?_, hrenderings⟩
  obtain ⟨s, hs, rfl⟩ := List.mem_map.mp (Registry.mem_of_mem_ofList f hf)
  exact hsources s hs

/-! ## Layers -/

/-- The layers that compile, as a run hands them to its themes. -/
def compiledLayers (authored : Library) (sources : List Source) : Registry :=
  Registry.ofList (Compiled.results (sources.map (compileLayer authored)))

variable {authored compiled : Library} {sources : List Source}

theorem result_ofConverted {id subject : String} {c : Converted Document} {d : Document}
    (h : (Compiled.ofConverted id subject c).result = some d) : c.result = some d := by
  simp only [Compiled.ofConverted] at h
  split at h
  · exact h
  · cases h

theorem result_validateLayer {input layer : Document} {place : String}
    (h : (Layer.validateLayer.convert input place).result = some layer) : layer = input := by
  simp only [Layer.validateLayer] at h
  split at h
  · cases h
  · exact (Noted.result_finish h).2.symm

/-- A compiled layer has distinct keys and passes its validation. -/
theorem compileLayer_valid (hauth : authored.Distinct) {s : Source} (hs : s.document.Distinct) {layer : Document}
    (h : (compileLayer authored s).result = some layer) :
    layer.Distinct ∧ ∀ place, (Layer.validateLayer.convert layer place).isOk = true := by
  simp only [compileLayer] at h
  split at h
  · have hsteps : ∀ step ∈ [Theme.annotateWordings "layers:", Layer.prepareLayer authored], step.KeepsDistinct := by
      simp only [List.forall_mem_cons]
      exact ⟨Theme.annotateWordings_keepsDistinct _, Layer.prepareLayer_keepsDistinct hauth, by simp⟩
    obtain ⟨input, hinput, hok, hlast⟩ := Step.exists_last_of_runAll hsteps hs (result_ofConverted h)
    obtain rfl := result_validateLayer hlast
    exact ⟨hinput, fun place => (Layer.isOk_validateLayer_congr (.refl layer) place _).trans hok⟩
  · cases h

theorem sound_compiledLayers (hauth : authored.Distinct) (hsources : ∀ s ∈ sources, s.document.Distinct) :
    (compiledLayers authored sources).Sound := by
  have hvalid : ∀ f ∈ compiledLayers authored sources,
      f.2.Distinct ∧ ∀ place, (Layer.validateLayer.convert f.2 place).isOk = true := by
    intro f hf
    obtain ⟨c, hc, he⟩ := List.mem_filterMap.mp (Registry.mem_of_mem_ofList f hf)
    obtain ⟨s, hs, rfl⟩ := List.mem_map.mp hc
    obtain ⟨layer, hlayer, rfl⟩ := Option.map_eq_some_iff.mp he
    exact compileLayer_valid hauth (hsources s hs) hlayer
  exact ⟨fun f hf => (hvalid f hf).1, fun f hf => (hvalid f hf).2⟩

/-! ## Themes -/

theorem result_compileTheme {lib : Library} {s : Source} {theme : Document}
    (h : (compileTheme lib s).result = some theme) :
    ((Theme.prepareTheme lib).convert s.document ("themes:" ++ s.id)).result = some theme := by
  have hresult : (compileTheme lib s).result = (Compiled.ofConverted s.id ("theme " ++ s.id)
      ((Theme.prepareTheme lib).convert s.document ("themes:" ++ s.id))).result := by
    unfold compileTheme
    dsimp only
    split <;> rfl
  exact result_ofConverted (hresult.symm.trans h)

/-- Every theme that compiles against the compiled layers builds, and each of its layers passes the
validation of layers: those that are taken from the registry too, which are not checked again. -/
theorem compileTheme_valid (hauth : authored.Distinct) (hsources : ∀ s ∈ sources, s.document.Distinct)
    (hlayers : compiled.layers = compiledLayers authored sources) (s : Source) {theme : Document}
    (h : (compileTheme compiled s).result = some theme) : Theme.Valid theme := by
  have hsound : compiled.layers.Sound := hlayers ▸ sound_compiledLayers hauth hsources
  exact Theme.prepareTheme_valid hsound (result_compileTheme h)

def benchLayer : Source :=
  ⟨"layers/bench.json", .object [("id", .text "bench"),
    ("source", .object [("osmTags", .text "amenity=bench")]),
    ("tagRenderings", .list [.text "material"])]⟩

def benchTheme : Source :=
  ⟨"themes/benches.json", .object [("id", .text "benches"), ("title", .text "Benches"),
    ("layers", .list [.text "bench"])]⟩

def benchAuthored : Library :=
  ⟨Source.registry [benchLayer], [("material", .object [("id", .text "material"), ("render", .text "\x7bmaterial\x7d")])],
    [], { Settings.default with addedByDefault := [] }⟩

def benchCompiled : Library := { benchAuthored with layers := compiledLayers benchAuthored [benchLayer] }

/-- The bench layer is taken from the registry as it is. -/
theorem compileTheme_valid_bench :
    benchAuthored.Distinct ∧ (∀ s ∈ [benchLayer], s.document.Distinct) ∧
      benchCompiled.layers = compiledLayers benchAuthored [benchLayer] ∧
      ∃ theme, (compileTheme benchCompiled benchTheme).result = some theme ∧ Theme.Valid theme := by
  have hsource : ∀ s ∈ [benchLayer], s.document.Distinct := by
    simp [benchLayer, Fields.Distinct, Fields.keys]
  have hrendering : ∀ f ∈ benchAuthored.renderings, f.2.Distinct := by
    simp [benchAuthored, Fields.Distinct, Fields.keys]
  have hauth : benchAuthored.Distinct := distinct_authored hsource hrendering
  have hlayers : benchCompiled.layers = compiledLayers benchAuthored [benchLayer] := by rw [benchCompiled]
  have hsome : (compileTheme benchCompiled benchTheme).result.isSome = true := by decide +kernel
  obtain ⟨theme, htheme⟩ := Option.isSome_iff_exists.mp hsome
  exact ⟨hauth, hsource, hlayers, theme, htheme, compileTheme_valid hauth hsource hlayers benchTheme htheme⟩

/-! ## Runs -/

theorem valid_of_mem_results (hauth : authored.Distinct) (hsources : ∀ s ∈ sources, s.document.Distinct)
    (hlayers : compiled.layers = compiledLayers authored sources) (themes : List Source) :
    ∀ f ∈ Compiled.results (themes.map (compileTheme compiled)), Theme.Valid f.2 := by
  intro f hf
  obtain ⟨c, hc, he⟩ := List.mem_filterMap.mp hf
  obtain ⟨s, _, rfl⟩ := List.mem_map.mp hc
  obtain ⟨theme, htheme, rfl⟩ := Option.map_eq_some_iff.mp he
  have hsound : compiled.layers.Sound := hlayers ▸ sound_compiledLayers hauth hsources
  exact Theme.prepareTheme_valid hsound (result_compileTheme htheme)

/-- The last that was written are valid themes, as many as are reported. -/
def WritesValid (job : Job) (report : Report) : Prop :=
  ∃ themes before, writeAll (Path.joinTexts job.output "themes") themes before = .ok report.files ∧
    themes.length = report.summary.themesCompiled ∧ ∀ f ∈ themes, Theme.Valid f.2

/-- Whatever the files hold, a run that ends has written valid themes. -/
theorem run_writes_valid {files : Files} {job : Job} {report : Report} (h : run files job = .ok report) :
    WritesValid job report := by
  unfold run at h
  extract_lets layerFolder themeFolder withSettings at h
  have hwith : ∀ settings, withSettings settings = .ok report → WritesValid job report := by
    intro given h
    unfold withSettings at h
    extract_lets settings withRenderings at h
    have hwith : ∀ renderings : Registry, (∀ f ∈ renderings, f.2.Distinct) → withRenderings renderings = .ok report →
        WritesValid job report := by
      intro renderings hrenderings h
      obtain ⟨sources, hsources, h⟩ := ok_of_bind h
      obtain ⟨_, _, h⟩ := ok_of_bind h
      obtain ⟨_, _, h⟩ := ok_of_bind h
      obtain ⟨_, _, h⟩ := ok_of_bind h
      obtain ⟨themes, _, h⟩ := ok_of_bind h
      obtain ⟨_, hwritten, h⟩ := ok_of_bind h
      cases h
      have hdistinct := distinct_of_readSources hsources
      exact ⟨_, _, hwritten, rfl, valid_of_mem_results (distinct_authored hdistinct hrenderings) hdistinct rfl _⟩
    split at h
    · obtain ⟨renderings, hr, h⟩ := ok_of_bind h
      exact hwith renderings (distinct_of_readRenderings hr) h
    · exact hwith [] (by simp) h
  split at h
  · obtain ⟨settings, _, h⟩ := ok_of_bind h
    exact hwith settings h
  · exact hwith Settings.default h

end Build

end MapTheme
