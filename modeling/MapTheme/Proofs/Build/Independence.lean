/-
  MapTheme.Proofs.Build.Independence — themes do not interfere with each other.

  What a theme is compiled against has four parts. Layers, renderings and settings come from the inputs of the run,
  and of the layers only their names and documents count (`registry_eq`). The fourth, the public layers, is computed
  from all themes, selected or not, and is read for the personal theme only. So two runs with the same inputs give a
  theme that they both select the same outcome (`outcome_independent`).
-/

import MapTheme.Proofs.Build.Closure
import MapTheme.Proofs.Build.Compilation
import MapTheme.Proofs.Library.Publicity
import MapTheme.Proofs.Theme.Publicity

namespace MapTheme.Build

/-! ## Inputs -/

/-- What a source is compiled from: where its folder is does not count. -/
def Source.content (s : Source) : String × Document := (s.stem, s.document)

/-- The same layer documents, in files of the same names, the same renderings and the same settings. -/
structure Inputs.Alike (i j : Inputs) : Prop where
  settings : i.settings = j.settings
  renderings : i.renderings = j.renderings
  layers : i.layers.map Source.content = j.layers.map Source.content

section

variable {s t : Source} {lib : Library}

theorem Source.id_of_content (h : s.content = t.content) : s.id = t.id := by
  obtain ⟨hstem, hdoc⟩ := Prod.mk.inj h
  rw [Source.id, Source.id, hstem, hdoc]

/-- Where a layer stands is in the messages only. -/
theorem result_compileLayer_of_content (h : s.content = t.content) :
    (compileLayer lib s).result = (compileLayer lib t).result := by
  have hid := Source.id_of_content h
  obtain ⟨hstem, hdoc⟩ := Prod.mk.inj h
  simp only [compileLayer, hid, hstem, hdoc]
  split <;> rfl

end

/-- A function of the contents gives the same for lists of the same contents. -/
theorem map_congr_of_contents {α : Type} {f : Source → α} {sources others : List Source}
    (hf : ∀ s t : Source, s.content = t.content → f s = f t) (h : sources.map Source.content = others.map Source.content) :
    sources.map f = others.map f := by
  induction sources generalizing others with
  | nil => rw [List.map_eq_nil_iff.mp h.symm]
  | cons s rest ih =>
    cases others with
    | nil => cases h
    | cons t others =>
      obtain ⟨hst, hrest⟩ := List.cons.inj h
      rw [List.map_cons, List.map_cons, hf s t hst, ih hrest]

namespace Inputs.Alike

variable {i j : Inputs}

theorem authored_eq (h : i.Alike j) : i.authored = j.authored := by
  have hpair : ∀ s t : Source, s.content = t.content → (s.id, s.document) = (t.id, t.document) := by
    intro s t hst
    rw [Source.id_of_content hst, (Prod.mk.inj hst).2]
  have hregistry : Source.registry i.layers = Source.registry j.layers :=
    congrArg Registry.ofList (map_congr_of_contents hpair h.layers)
  rw [authored, authored, hregistry, h.renderings, h.settings]

theorem registry_eq (h : i.Alike j) : i.registry = j.registry := by
  have hresult : ∀ s t : Source, s.content = t.content →
      (compileLayer j.authored s).result.map (s.id, ·) = (compileLayer j.authored t).result.map (t.id, ·) := by
    intro s t hst
    rw [result_compileLayer_of_content hst, Source.id_of_content hst]
  have hresults : ∀ sources : List Source, Compiled.results (sources.map (compileLayer j.authored)) =
      (sources.map fun s => (compileLayer j.authored s).result.map (s.id, ·)).filterMap id := by
    intro sources
    rw [Compiled.results, List.filterMap_map, List.filterMap_map]
    refine List.filterMap_congr fun s _ => ?_
    simp only [Function.comp_apply, id_compileLayer, id]
  rw [registry, registry, h.authored_eq, compiledLayers, compiledLayers, hresults, hresults,
    map_congr_of_contents hresult h.layers]

/-- Libraries for two lists of themes differ in their public layers at most. -/
theorem library_eq (h : i.Alike j) (themes others : List Source) :
    i.library themes = (j.library others).withPublic (publicLayers (themes.map (·.document))) := by
  rw [library, library, h.registry_eq, h.renderings, h.settings]
  rfl

end Inputs.Alike

/-! ## Themes -/

theorem compileTheme_congr {lib : Library} {s t : Source} (hdoc : s.document = t.document) (hid : s.id = t.id) :
    compileTheme lib s = compileTheme lib t := by
  rw [compileTheme, compileTheme, hdoc, hid]

theorem compileTheme_withPublic {lib : Library} {s : Source} (h : s.document.id? ≠ some "personal") (ids : List String) :
    compileTheme (lib.withPublic ids) s = compileTheme lib s := by
  rw [compileTheme, compileTheme, Theme.convert_prepareTheme_withPublic h]

namespace Compilation

variable {files files' : Files} {job job' : Job}

/-- The documents of the other themes, selected or not. -/
def others (a : Compilation files job) (s : Source) : List Document :=
  (a.themes.filter (·.path != s.path)).map (·.document)

theorem mem_documents_iff {a : Compilation files job} {s : Source} (h : s ∈ a.themes) (d : Document) :
    d ∈ a.themes.map (·.document) ↔ d = s.document ∨ d ∈ a.others s := by
  have hread := readDocument_of_readSources a.themes_read
  constructor
  · intro hd
    obtain ⟨r, hr, rfl⟩ := List.mem_map.mp hd
    by_cases hpath : r.path = s.path
    · have hsame := hread r hr
      rw [hpath, hread s h] at hsame
      exact .inl (Except.ok.inj hsame).symm
    · exact .inr (List.mem_map.mpr ⟨r, List.mem_filter.mpr ⟨hr, by simpa using hpath⟩, rfl⟩)
  · rintro (rfl | hd)
    · exact List.mem_map_of_mem h
    · obtain ⟨r, hr, rfl⟩ := List.mem_map.mp hd
      exact List.mem_map_of_mem (List.mem_of_mem_filter hr)

/-- In two runs with the same layers, renderings and settings, a theme that both select has the same outcome, its
result and all messages, whatever the other themes are and whichever are selected. That of the personal theme too,
if the themes in all make the same layers public, so if those beside it do. -/
theorem outcome_independent {a : Compilation files job} {b : Compilation files' job'} (hinputs : a.inputs.Alike b.inputs)
    {s t : Source} {c e : Compiled} (hs : (s, c) ∈ a.outcomes) (ht : (t, e) ∈ b.outcomes)
    (hdoc : s.document = t.document) (hid : s.id = t.id) :
    (s.document.id? ≠ some "personal" → c = e) ∧
    (publicLayers (a.themes.map (·.document)) = publicLayers (b.themes.map (·.document)) → c = e) ∧
    (publicLayers (a.others s) = publicLayers (b.others t) → c = e) := by
  obtain ⟨⟨hs, -⟩, hc⟩ := mem_outcomes_iff.mp hs
  obtain ⟨⟨ht, -⟩, he⟩ := mem_outcomes_iff.mp ht
  have he : e = compileTheme (b.inputs.library b.themes) s := he.trans (compileTheme_congr hdoc hid).symm
  have hlibrary := hinputs.library_eq a.themes b.themes
  have hpublic : publicLayers (a.themes.map (·.document)) = publicLayers (b.themes.map (·.document)) → c = e := by
    intro hlayers
    rw [hc, he, outcome, hlibrary, hlayers]
    rfl
  refine ⟨fun hpersonal => ?_, hpublic, fun hothers => hpublic ?_⟩
  · rw [hc, he, outcome, hlibrary, compileTheme_withPublic hpersonal]
  · exact publicLayers_congr_of_others (mem_documents_iff hs) (hdoc ▸ mem_documents_iff ht) hothers

/-- A theme that shows a shared layer, which is not there. -/
def shopsText : String := "\x7b\"id\":\"shops\",\"title\":\"Shops\",\"layers\":[\"shop\"]\x7d"

/-- The theme of benches compiles, and to the same, beside a theme that fails and beside one that is no theme and is
not selected, though not the same layers are public. -/
theorem outcome_independent_benches :
    ∃ (a : Compilation (twoThemes benchesText shopsText) (twoThemesJob []))
      (b : Compilation (twoThemes benchesText "[]") (twoThemesJob ["benches"])) (s t : Source) (c e : Compiled),
      a.inputs.Alike b.inputs ∧ (s, c) ∈ a.outcomes ∧ (t, e) ∈ b.outcomes ∧ s.document = t.document ∧ s.id = t.id ∧
      s.document.id? ≠ some "personal" ∧
      publicLayers (a.themes.map (·.document)) ≠ publicLayers (b.themes.map (·.document)) ∧ c.failed = false ∧ c = e := by
  obtain ⟨hbenches, hshops, hbroken, hselects, hpersonal, hpublic, hcompiles⟩ :
      (Document.read? benchesText).isSome = true ∧ (Document.read? shopsText).isSome = true ∧
        (Document.read? "[]").isSome = true ∧
        (twoThemesJob ["benches"]).selects ⟨"themes/benches.json", documentOf benchesText⟩ = true ∧
        (documentOf benchesText).id? ≠ some "personal" ∧
        publicLayers [documentOf benchesText, documentOf shopsText] ≠
          publicLayers [documentOf benchesText, documentOf "[]"] ∧
        (compileTheme (noLayers.library (twoSources benchesText shopsText))
          ⟨"themes/benches.json", documentOf benchesText⟩).failed = false := by decide +kernel
  -- From here on it does not matter what the texts are.
  generalize benchesText = benches at *
  generalize shopsText = shops at *
  generalize "[]" = broken at *
  let a := twoThemesCompiled benches shops [] hbenches hshops
  let b := twoThemesCompiled benches broken ["benches"] hbenches hbroken
  let s : Source := ⟨"themes/benches.json", documentOf benches⟩
  have hinputs : a.inputs.Alike b.inputs := ⟨rfl, rfl, rfl⟩
  have hs : (s, a.outcome s) ∈ a.outcomes := mem_outcomes_iff.mpr ⟨⟨List.mem_cons_self, rfl⟩, rfl⟩
  have ht : (s, b.outcome s) ∈ b.outcomes := mem_outcomes_iff.mpr ⟨⟨List.mem_cons_self, hselects⟩, rfl⟩
  exact ⟨a, b, s, s, a.outcome s, b.outcome s, hinputs, hs, ht, rfl, rfl, hpersonal, hpublic, hcompiles,
    (outcome_independent hinputs hs ht rfl rfl).1 hpersonal⟩

end Compilation

end MapTheme.Build
