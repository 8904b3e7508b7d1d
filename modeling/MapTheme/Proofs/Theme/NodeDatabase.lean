/-
  MapTheme.Proofs.Theme.NodeDatabase — the flag for the node database and the texts that finished layers show.

  The flag comes from a search of the documents of the layers (`searchedTexts`), a finished layer shows what it is
  read as. The search misses what is not written as an object: a title that is a text, and mappings and layers that
  are lists (`missedTexts`); it also looks into the notes of wordings, which are never shown. Where no such text
  asks for nodes, the flag is set exactly if a shown text does (`addNodeDatabaseFlag_agrees`).
-/

import MapTheme.Proofs.Config.Shown
import MapTheme.Proofs.Theme.Layers
import MapTheme.Theme.NodeDatabase

namespace MapTheme.Theme

open List (Forall₂)
open Document (innerTexts)

/-- Does the text call a visualisation that needs all nodes? -/
def asksForNodes (s : String) : Bool := (Special.calls s).any needsNodes

theorem exists_call_iff (texts : List String) :
    (∃ call ∈ Special.callsOfTexts texts, needsNodes call = true) ↔ ∃ s ∈ texts, asksForNodes s = true := by
  simp only [Special.callsOfTexts, List.mem_flatMap, asksForNodes, List.any_eq_true]
  constructor
  · rintro ⟨call, ⟨s, hs, hcall⟩, hneeds⟩
    exact ⟨s, hs, call, hcall, hneeds⟩
  · rintro ⟨s, hs, call, hcall, hneeds⟩
    exact ⟨call, ⟨s, hs, hcall⟩, hneeds⟩

/-! ## What is searched, and what is missed -/

/-- The texts at a key of an object. -/
def textsAt (d : Document) (key : String) : List String := ((d.get? key).map innerTexts).getD []

def mappingsOf (rendering : Document) : List Document := (rendering.listAt? "mappings").getD []

/-- The texts of a rendering in which calls are looked for. -/
def searchedTexts (rendering : Document) : List String :=
  textsAt rendering "render" ++ (mappingsOf rendering).flatMap (textsAt · "then")

/-- The texts of a layer in which calls are looked for. -/
def searchedInLayer (layer : Document) : List String :=
  (Rendering.ofLayer layer ++ (layer.get? "title").toList).flatMap searchedTexts

theorem callsOfLayer_eq (layer : Document) : callsOfLayer layer = Special.callsOfTexts (searchedInLayer layer) :=
  List.flatMap_assoc.symm

def mappingTexts (mapping : Document) : List String := ((Config.Mapping.shown? mapping).map innerTexts).getD []

/-- A mapping is searched if it is an object. -/
def missedInMapping (mapping : Document) : List String := if mapping.isObject then [] else mappingTexts mapping

def missedInRendering (rendering : Document) : List String := (mappingsOf rendering).flatMap missedInMapping

/-- A title that is no object is a text to show. -/
def missedInTitle (title : Document) : List String :=
  if title.isObject then missedInRendering title else title.innerTexts

/-- The texts that a layer shows and in which no calls are looked for. -/
def missedTexts (layer : Document) : List String :=
  if layer.isObject then
    (layer.get? "title").toList.flatMap missedInTitle ++ (Rendering.ofLayer layer).flatMap missedInRendering
  else (Config.Layer.displays layer).flatMap innerTexts

theorem mem_flatMap_or {α : Type} {f g h : α → List String} {s : String} (hmem : ∀ a, s ∈ f a ↔ s ∈ g a ∨ s ∈ h a)
    (as : List α) : s ∈ as.flatMap f ↔ s ∈ as.flatMap g ∨ s ∈ as.flatMap h := by
  induction as with
  | nil => simp
  | cons a rest ih =>
    simp only [List.flatMap_cons, List.mem_append]
    rw [hmem a, ih]
    exact or_or_or_comm

/-- What a mapping shows is searched or missed. -/
theorem mem_mappingTexts (mapping : Document) (s : String) :
    s ∈ mappingTexts mapping ↔ s ∈ textsAt mapping "then" ∨ s ∈ missedInMapping mapping := by
  cases mapping with
  | object fields =>
    have hmissed : missedInMapping (.object fields) = [] := rfl
    rw [hmissed, or_iff_left List.not_mem_nil]
    exact Iff.rfl
  | null | bool | number | text | list => exact (or_iff_right List.not_mem_nil).symm

theorem flatMap_shown (mappings : List Document) :
    (mappings.filterMap Config.Mapping.shown?).flatMap innerTexts = mappings.flatMap mappingTexts := by
  induction mappings with
  | nil => rfl
  | cons m rest ih =>
    rw [List.flatMap_cons, ← ih, mappingTexts, List.filterMap_cons]
    cases Config.Mapping.shown? m <;> rfl

/-- Null gives no texts, so it does not matter whether it counts as given. -/
theorem flatMap_given {f : Document → List String} (hnull : f .null = []) (x : Option Document) :
    (x.filter (!·.isNull)).toList.flatMap f = x.toList.flatMap f := by
  cases x with
  | none => rfl
  | some d =>
    cases d with
    | null => simp [Option.filter, Document.isNull, hnull]
    | bool | number | text | list | object => rfl

theorem textsAt_eq (d : Document) (key : String) : textsAt d key = (d.get? key).toList.flatMap innerTexts := by
  rw [textsAt]
  cases d.get? key <;> simp

/-- What a rendering displays is searched or missed. -/
theorem mem_displays_rendering (rendering : Document) (s : String) :
    s ∈ (Config.Rendering.displays rendering).flatMap innerTexts ↔
      s ∈ searchedTexts rendering ∨ s ∈ missedInRendering rendering := by
  rw [Config.Rendering.displays, List.flatMap_append, flatMap_given rfl, flatMap_shown, List.mem_append, searchedTexts,
    textsAt_eq, List.mem_append, or_assoc]
  exact or_congr_right (mem_flatMap_or (mem_mappingTexts · s) (mappingsOf rendering))

/-- The same of a title, which may be no rendering but a text. -/
theorem mem_displays_title (title : Document) (s : String) :
    s ∈ (Config.Rendering.displays (Config.Layer.titleDocument title)).flatMap innerTexts ↔
      s ∈ searchedTexts title ∨ s ∈ missedInTitle title := by
  unfold Config.Layer.titleDocument missedInTitle
  by_cases hobject : title.isObject = true
  · rw [if_pos hobject, if_pos hobject]
    exact mem_displays_rendering title s
  · rw [if_neg hobject, if_neg hobject]
    have hsearched : searchedTexts title = [] := by
      cases title with
      | object => exact absurd rfl hobject
      | null | bool | number | text | list => rfl
    have hrender : (Config.Rendering.displays (.object [("render", title)])).flatMap innerTexts = title.innerTexts := by
      cases title with
      | object => exact absurd rfl hobject
      | null => rfl
      | bool | number | text | list => exact List.append_nil _
    rw [hsearched, hrender, or_iff_right List.not_mem_nil]

/-- What a layer displays is searched or missed. -/
theorem mem_displays_layer (layer : Document) (s : String) :
    s ∈ (Config.Layer.displays layer).flatMap innerTexts ↔ s ∈ searchedInLayer layer ∨ s ∈ missedTexts layer := by
  by_cases hobject : layer.isObject = true
  · cases layer with
    | object fields =>
      have hshown : (Config.Layer.displays (.object fields)).flatMap innerTexts =
          (Fields.get? fields "title").toList.flatMap
              (fun t => (Config.Rendering.displays (Config.Layer.titleDocument t)).flatMap innerTexts) ++
            (Rendering.ofLayer (.object fields)).flatMap
              fun r => (Config.Rendering.displays r).flatMap innerTexts := by
        rw [Config.Layer.displays, List.flatMap_assoc, Config.Layer.renderingDocuments, List.flatMap_append,
          List.flatMap_map]
        exact congrArg (· ++ _) (flatMap_given rfl _)
      rw [hshown, List.mem_append, mem_flatMap_or (mem_displays_title · s), mem_flatMap_or (mem_displays_rendering · s),
        searchedInLayer, List.flatMap_append, List.mem_append, missedTexts, if_pos hobject, List.mem_append]
      rw [or_or_or_comm, or_comm (a := s ∈ List.flatMap searchedTexts _)]
      exact Iff.rfl
    | null | bool | number | text | list => cases hobject
  · have hsearched : searchedInLayer layer = [] := by
      cases layer with
      | object => exact absurd rfl hobject
      | null | bool | number | text | list => rfl
    rw [hsearched, missedTexts, if_neg hobject, or_iff_right List.not_mem_nil]

/-! ## The flag -/

/-- The flag is set exactly if a searched text asks for nodes. -/
theorem addNodeDatabaseFlag_searches {theme : Document} (hnew : theme.get? "enableNodeDatabase" = none)
    (place : String) :
    ∃ result, (addNodeDatabaseFlag.convert theme place).result = some result ∧
      (result.get? "enableNodeDatabase" = some (.bool true) ↔
        ∃ layer ∈ layersOf theme, ∃ s ∈ searchedInLayer layer, asksForNodes s = true) := by
  have hcalls : (∃ call ∈ (layersOf theme).flatMap callsOfLayer, needsNodes call = true) ↔
      ∃ layer ∈ layersOf theme, ∃ s ∈ searchedInLayer layer, asksForNodes s = true := by
    constructor
    · rintro ⟨call, hcall, hneeds⟩
      obtain ⟨layer, hlayer, hcall⟩ := List.mem_flatMap.mp hcall
      rw [callsOfLayer_eq] at hcall
      exact ⟨layer, hlayer, (exists_call_iff _).mp ⟨call, hcall, hneeds⟩⟩
    · rintro ⟨layer, hlayer, hasks⟩
      obtain ⟨call, hcall, hneeds⟩ := (exists_call_iff _).mpr hasks
      rw [← callsOfLayer_eq] at hcall
      exact ⟨call, List.mem_flatMap.mpr ⟨layer, hlayer, hcall⟩, hneeds⟩
  rw [← hcalls]
  simp only [addNodeDatabaseFlag]
  cases hfind : ((layersOf theme).flatMap callsOfLayer).find? needsNodes with
  | none =>
    refine ⟨theme, rfl, ?_⟩
    rw [hnew]
    constructor
    · intro h
      cases h
    · rintro ⟨call, hcall, hneeds⟩
      exact absurd hneeds (List.find?_eq_none.mp hfind call hcall)
  | some call =>
    have hcall := List.mem_of_find?_eq_some hfind
    obtain ⟨layer, hlayer, -⟩ := List.mem_flatMap.mp hcall
    cases theme with
    | object fields =>
      refine ⟨.object (Fields.insert fields "enableNodeDatabase" (.bool true)), rfl, ?_⟩
      have hset : (Document.object (Fields.insert fields "enableNodeDatabase" (.bool true))).get? "enableNodeDatabase" =
          some (.bool true) := Fields.get?_insert_self fields "enableNodeDatabase" _
      exact ⟨fun _ => ⟨call, hcall, List.find?_some hfind⟩, fun _ => hset⟩
    | null | bool | number | text | list => cases hlayer

/-- The layers of the list are read one by one, each at some place. -/
def ReadAs (layers : List Document) (configs : List Config.Layer) : Prop :=
  Forall₂ (fun d l => ∃ place, Config.Layer.ofDocument place d = .ok l) layers configs

variable {layers : List Document} {configs : List Config.Layer} {layer : Document} {s : String}

/-- What a layer displays is shown where it is finished, or it is a note. -/
theorem ReadAs.shown_or_noted (h : ReadAs layers configs) (hlayer : layer ∈ layers)
    (hs : s ∈ (Config.Layer.displays layer).flatMap innerTexts) :
    (∃ l ∈ configs, ∃ r ∈ l.title.toList ++ l.renderings, s ∈ r.shownTexts) ∨
      s ∈ (Config.Layer.displays layer).flatMap Config.Wording.noteTexts := by
  obtain ⟨l, hl, place, hread⟩ := exists_of_forall₂ h.flip layer hlayer
  rcases (Config.Layer.mem_displays hread s).mp hs with hshown | hnote
  · obtain ⟨r, hr, hs⟩ := List.mem_flatMap.mp hshown
    exact .inl ⟨l, hl, r, hr, hs⟩
  · exact .inr hnote

/-- What a finished layer shows is displayed by its document. -/
theorem ReadAs.displayed (h : ReadAs layers configs) {l : Config.Layer} (hl : l ∈ configs) {r : Config.Rendering}
    (hr : r ∈ l.title.toList ++ l.renderings) (hs : s ∈ r.shownTexts) :
    ∃ layer ∈ layers, s ∈ (Config.Layer.displays layer).flatMap innerTexts := by
  obtain ⟨layer, hlayer, place, hread⟩ := exists_of_forall₂ h l hl
  have hshown : s ∈ l.shownRenderings.flatMap Config.Rendering.shownTexts := List.mem_flatMap.mpr ⟨r, hr, hs⟩
  exact ⟨layer, hlayer, (Config.Layer.mem_displays hread s).mpr (.inl hshown)⟩

/-- The flag is set exactly if a finished layer shows a call of a visualisation that needs all nodes, provided that
no missed text and no note asks for nodes. -/
theorem addNodeDatabaseFlag_agrees {theme : Document} (hread : ReadAs (layersOf theme) configs)
    (hnew : theme.get? "enableNodeDatabase" = none)
    (hmissed : ∀ layer ∈ layersOf theme, ∀ s ∈ missedTexts layer, asksForNodes s = false)
    (hnotes : ∀ layer ∈ layersOf theme, ∀ s ∈ (Config.Layer.displays layer).flatMap Config.Wording.noteTexts,
      asksForNodes s = false) (place : String) :
    ∃ result, (addNodeDatabaseFlag.convert theme place).result = some result ∧
      (result.get? "enableNodeDatabase" = some (.bool true) ↔
        ∃ l ∈ configs, ∃ r ∈ l.title.toList ++ l.renderings, ∃ call ∈ Special.callsOfTexts r.shownTexts,
          needsNodes call = true) := by
  obtain ⟨result, hresult, hflag⟩ := addNodeDatabaseFlag_searches hnew place
  refine ⟨result, hresult, hflag.trans ?_⟩
  constructor
  · rintro ⟨layer, hlayer, s, hs, hasks⟩
    have hdisplayed := (mem_displays_layer layer s).mpr (.inl hs)
    rcases hread.shown_or_noted hlayer hdisplayed with ⟨l, hl, r, hr, hs⟩ | hnote
    · exact ⟨l, hl, r, hr, (exists_call_iff _).mpr ⟨s, hs, hasks⟩⟩
    · rw [hnotes layer hlayer s hnote] at hasks
      cases hasks
  · rintro ⟨l, hl, r, hr, hcall⟩
    obtain ⟨s, hs, hasks⟩ := (exists_call_iff _).mp hcall
    obtain ⟨layer, hlayer, hdisplayed⟩ := hread.displayed hl hr hs
    rcases (mem_displays_layer layer s).mp hdisplayed with hsearched | hmiss
    · exact ⟨layer, hlayer, s, hsearched, hasks⟩
    · rw [hmissed layer hlayer s hmiss] at hasks
      cases hasks

theorem exists_readAs (layers : List Document)
    (h : ∀ layer ∈ layers, (Config.Layer.ofDocument "" layer).isOk = true) : ∃ configs, ReadAs layers configs := by
  induction layers with
  | nil => exact ⟨[], .nil⟩
  | cons layer rest ih =>
    obtain ⟨configs, hconfigs⟩ := ih fun d hd => h d (List.mem_cons_of_mem _ hd)
    have hok := h layer List.mem_cons_self
    cases hread : Config.Layer.ofDocument "" layer with
    | error => rw [hread] at hok; cases hok
    | ok l => exact ⟨l :: configs, .cons ⟨"", hread⟩ hconfigs⟩

/-- A button that needs all nodes. -/
def wayButton : String := "\x7bimport_way_button(buildings,building=yes)\x7d"

/-- A theme with a layer of this title and these renderings. -/
def buildingsTheme (title : Document) (renderings : List Document) : Document :=
  .object [("id", .text "buildings"), ("layers", .list
    [.object [("id", .text "buildings"), ("source", .text "special"), ("title", title),
      ("tagRenderings", .list renderings)]])]

/-- The button is a rendering; the title has a note. -/
def buttonTheme : Document :=
  buildingsTheme (.object [("render", .object [("en", .text "Building"), ("_context", .text "layers:buildings.title")])])
    [.object [("id", .text "import"), ("render", .text wayButton)]]

theorem addNodeDatabaseFlag_agrees_button :
    ∃ configs, ReadAs (layersOf buttonTheme) configs ∧ buttonTheme.get? "enableNodeDatabase" = none ∧
      (∀ layer ∈ layersOf buttonTheme, ∀ s ∈ missedTexts layer, asksForNodes s = false) ∧
      (∀ layer ∈ layersOf buttonTheme, ∀ s ∈ (Config.Layer.displays layer).flatMap Config.Wording.noteTexts,
        asksForNodes s = false) ∧
      ∃ result, (addNodeDatabaseFlag.convert buttonTheme "doc").result = some result ∧
        (result.get? "enableNodeDatabase" = some (.bool true) ↔
          ∃ l ∈ configs, ∃ r ∈ l.title.toList ++ l.renderings, ∃ call ∈ Special.callsOfTexts r.shownTexts,
            needsNodes call = true) := by
  obtain ⟨configs, hread⟩ := exists_readAs (layersOf buttonTheme) (by decide +kernel)
  have hmissed : ∀ layer ∈ layersOf buttonTheme, ∀ s ∈ missedTexts layer, asksForNodes s = false := by decide +kernel
  have hnotes : ∀ layer ∈ layersOf buttonTheme, ∀ s ∈ (Config.Layer.displays layer).flatMap Config.Wording.noteTexts,
      asksForNodes s = false := by decide +kernel
  exact ⟨configs, hread, rfl, hmissed, hnotes, addNodeDatabaseFlag_agrees hread rfl hmissed hnotes "doc"⟩

/-- A note that asks for nodes sets the flag, although it is not shown. -/
example : ((addNodeDatabaseFlag.convert (buildingsTheme (.object [("render", .object [("en", .text "Building"),
    ("_note", .text wayButton)])]) []) "doc").result.bind (·.get? "enableNodeDatabase")).bind Document.bool? = some true :=
  by decide +kernel

/-- The button is the title. -/
def titleTheme : Document := buildingsTheme (.text wayButton) []

/-- The finished layer shows the button, and the flag is not set. -/
theorem addNodeDatabaseFlag_misses_title :
    ∃ configs, ReadAs (layersOf titleTheme) configs ∧ titleTheme.get? "enableNodeDatabase" = none ∧
      (addNodeDatabaseFlag.convert titleTheme "doc").result = some titleTheme ∧
      ∃ l ∈ configs, ∃ r ∈ l.title.toList ++ l.renderings, ∃ call ∈ Special.callsOfTexts r.shownTexts,
        needsNodes call = true := by
  obtain ⟨configs, hread⟩ := exists_readAs (layersOf titleTheme) (by decide +kernel)
  refine ⟨configs, hread, rfl, rfl, ?_⟩
  obtain ⟨layer, hlayer⟩ : ∃ layer, layersOf titleTheme = [layer] := ⟨_, rfl⟩
  have hdisplayed : wayButton ∈ (Config.Layer.displays layer).flatMap innerTexts := by
    cases hlayer
    exact List.mem_singleton.mpr rfl
  have hmem : layer ∈ layersOf titleTheme := hlayer ▸ List.mem_singleton.mpr rfl
  rcases hread.shown_or_noted hmem hdisplayed with ⟨l, hl, r, hr, hs⟩ | hnote
  · exact ⟨l, hl, r, hr, (exists_call_iff _).mpr ⟨wayButton, hs, by decide +kernel⟩⟩
  · cases hlayer
    cases hnote

end MapTheme.Theme
