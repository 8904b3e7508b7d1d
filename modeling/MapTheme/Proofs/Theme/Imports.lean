/-
  MapTheme.Proofs.Theme.Imports — the companions of layers need nothing but their layers.

  What a companion is read as is written down (`importConfig`); so it builds, and the button in it is the
  only text that names a layer. A closed list of layers therefore stays closed when companions of its
  layers are added.
-/

import MapTheme.Proofs.Config.Shown
import MapTheme.Proofs.Special.Template
import MapTheme.Proofs.Theme.Dependencies
import MapTheme.Theme.Imports

namespace MapTheme.Theme

open Config (Wording)
open Layer (Dependency)

variable {lib : Library} {id place : String} {zoom : Binary64}

/-! ## What a companion is read as -/

/-- A rendering that only displays a text. -/
def displaying (id : String) (shown : Wording) : Config.Rendering :=
  ⟨id, [], none, none, some shown, none, none, false, []⟩

def closeNoteText : String := "\x7bclose_note(Does not exist,,id,This feature does not exist)\x7d"

def addCommentText : String := "\x7badd_note_comment()\x7d"

/-- The companion of the layer `id` as it is read. -/
def importConfig (id : String) (zoom : Binary64) : Config.Layer where
  id := importStart ++ id
  name := some ⟨[("en", "Possible " ++ id ++ " from notes")]⟩
  description := some ⟨[("*", "OSM notes proposing a feature for the layer '" ++ id ++ "'")]⟩
  source := some ⟨.leaf (.present "id"), some notesAddress⟩
  minZoom := zoom
  title := some (displaying "" ⟨[("en", "Import candidate")]⟩)
  renderings :=
    [displaying "import" ⟨[("*", importButton id)]⟩, displaying "close_note" ⟨[("*", closeNoteText)]⟩,
     displaying "add_note_comment" ⟨[("*", addCommentText)]⟩]
  presets := []
  filters := []
  calculatedTags := []
  forceLoad := false
  passAllFeatures := false
  drawings :=
    [.object [("location", .texts ["point"]), ("icon", .text "./assets/svg/note.svg"), ("iconSize", .text "40,40")]]

theorem isValidId_importStart (h : Config.isValidId id = true) : Config.isValidId (importStart ++ id) = true := by
  unfold Config.isValidId at h ⊢
  rw [Bool.and_eq_true] at h ⊢
  refine ⟨by simp [importStart], ?_⟩
  rw [String.toList_append, List.all_append, h.2, Bool.and_true]
  decide

/-- Reading is evaluated up to the order of the one text in each wording. -/
theorem ofDocument_importLayer (h : Config.isValidId id = true) (place : String) (zoom : Binary64) :
    Config.Layer.ofDocument place (importLayer id zoom) = .ok (importConfig id zoom) := by
  have hread : Config.Layer.ofDocument place (importLayer id zoom) =
      if !Config.isValidId (importStart ++ id) then
        .error (.invalid (place ++ "." ++ (importStart ++ id)) (.badLayerId (importStart ++ id)))
      else .ok { importConfig id zoom with
        name := some ⟨[("en", "Possible " ++ id ++ " from notes")].mergeSort fun a b => a.1 ≤ b.1⟩
        title := some (displaying "" ⟨[("en", "Import candidate")].mergeSort fun a b => a.1 ≤ b.1⟩) } := by rfl
  rw [hread, isValidId_importStart h, List.mergeSort_singleton, List.mergeSort_singleton]
  rfl

/-! ## What a companion needs -/

/-- Where the characters of an id stand; separators, parentheses and blanks stand elsewhere. -/
theorem bounds_of_isValidId (h : Config.isValidId id = true) {c : Char} (hc : c ∈ id.toList) :
    (97 ≤ c.toNat ∧ c.toNat ≤ 122) ∨ (48 ≤ c.toNat ∧ c.toNat ≤ 57) ∨ c.toNat = 95 ∨ c.toNat = 45 := by
  unfold Config.isValidId at h
  rw [Bool.and_eq_true, List.all_eq_true] at h
  have hchar := h.2 c hc
  simp only [Bool.or_eq_true, Bool.and_eq_true, decide_eq_true_eq, Char.isDigit, Char.le_def, UInt32.le_iff_toNat_le,
    or_assoc] at hchar
  rcases hchar with hlower | hdigit | rfl | rfl
  · exact .inl hlower
  · exact .inr (.inl hdigit)
  · exact .inr (.inr (.inl rfl))
  · exact .inr (.inr (.inr rfl))

theorem not_mem_of_isValidId (h : Config.isValidId id = true) {c : Char} (hlow : c.toNat < 45 ∨ c.toNat = 59) :
    c ∉ id.toList := by
  intro hc
  have hbounds := bounds_of_isValidId h hc
  omega

theorem trimmed_of_isValidId (h : Config.isValidId id = true) : Text.Trimmed id.toList := by
  apply Text.trimmed_of_plain
  intro c hc
  have hbounds := bounds_of_isValidId h hc
  simp only [Text.isBlank, Bool.or_eq_false_iff, Bool.and_eq_false_iff, decide_eq_false_iff_not, beq_eq_false_iff_ne]
  omega

theorem ne_empty_of_isValidId (h : Config.isValidId id = true) : id.isEmpty = false := by
  unfold Config.isValidId at h
  rw [Bool.and_eq_true] at h
  simpa using h.1

/-- An id names one layer. -/
theorem splitIds_of_isValidId (h : Config.isValidId id = true) : Config.splitIds id = [id] := by
  have hsemicolon : Text.splitAt ';' id.toList = [id.toList] :=
    Text.splitAt_of_not_mem (not_mem_of_isValidId h (by decide))
  have hcomma : Text.splitAt ',' id.toList = [id.toList] :=
    Text.splitAt_of_not_mem (not_mem_of_isValidId h (by decide))
  simp [Config.splitIds, hsemicolon, hcomma, (trimmed_of_isValidId h).eq, ne_empty_of_isValidId h]

/-- The arguments of the button for the layer `id`. -/
def importArguments (id : String) : List String := [id, "$tags", "Import this point", "", "", "", "id"]

theorem calls_importButton (h : Config.isValidId id = true) :
    Special.calls (importButton id) = [⟨"import_button", importArguments id, none⟩] := by
  have hothers : ∀ a ∈ ["$tags", "Import this point", "", "", "", "id"],
      ',' ∉ a.toList ∧ ')' ∉ a.toList ∧ Text.Trimmed a.toList := by decide
  have hstart : ("import_button".toList.head?.map Special.isNameStart).getD false = true := by rfl
  have hchars : ∀ c ∈ "import_button".toList, Special.isNameChar c = true :=
    List.all_eq_true.mp (by decide)
  refine Special.calls_callText ⟨hstart, hchars, ?_, ?_, ?_, by simp, by simp⟩
  · exact List.forall_mem_cons.mpr ⟨not_mem_of_isValidId h (by decide), fun a ha => (hothers a ha).1⟩
  · exact List.forall_mem_cons.mpr ⟨not_mem_of_isValidId h (by decide), fun a ha => (hothers a ha).2.1⟩
  · exact List.forall_mem_cons.mpr ⟨trimmed_of_isValidId h, fun a ha => (hothers a ha).2.2⟩

theorem callNeeds_importButton (h : Config.isValidId id = true) (place : String) :
    Layer.callNeeds place ⟨"import_button", importArguments id, none⟩ =
      [(id, .argument "import_button" "targetLayer", place)] := by
  have hfind : Special.find? "import_button" = some (Special.plain "import_button" "Button to import a point into OSM"
     [Special.layerArg "targetLayer", Special.arg "tags", Special.argOr "text" "Import this data into OpenStreetMap",
      Special.arg "icon", Special.layerArg "snap_onto_layers", Special.argOr "max_snap_distance" "5",
      Special.arg "note_id", Special.arg "maproulette_id"]) := by rfl
  have htarget : (some id).filter (!·.isEmpty) = some id := by simp [Option.filter, ne_empty_of_isValidId h]
  have hsnap : (some "").filter (!·.isEmpty) = none := by rfl
  simp [Layer.callNeeds, hfind, Special.Visualisation.resolve, Special.plain, Special.layerArg, Special.arg,
    Special.argOr, importArguments, htarget, hsnap, splitIds_of_isValidId h]

theorem importStart_append_ne (id : String) : id ≠ importStart ++ id := by
  intro heq
  have hlength := congrArg String.length heq
  rw [String.length_append] at hlength
  have hstart : importStart.length = 12 := by rfl
  omega

theorem callsOfTexts_importButton (h : Config.isValidId id = true) :
    Special.callsOfTexts [importButton id] = [⟨"import_button", importArguments id, none⟩] := by
  rw [Special.callsOfTexts, List.flatMap_singleton, calls_importButton h]

theorem callsOfTexts_closeNote : Special.callsOfTexts [closeNoteText] =
    [⟨"close_note", ["Does not exist", "", "id", "This feature does not exist"], none⟩] := by decide +kernel

theorem callsOfTexts_addComment : Special.callsOfTexts [addCommentText] = [⟨"add_note_comment", [], none⟩] := by
  decide +kernel

theorem callsOfTexts_candidate : Special.callsOfTexts ["Import candidate"] = [] := by decide +kernel

/-- A companion needs its layer and no other. -/
theorem dependencies_importConfig (h : Config.isValidId id = true) (zoom : Binary64) :
    Layer.dependencies (importConfig id zoom) =
      [⟨id, importStart ++ id, .argument "import_button" "targetLayer", s!"{importStart ++ id}.tagRenderings[{0}]"⟩] := by
  have htitle : ∀ place, Layer.renderingNeeds place (displaying "" ⟨[("en", "Import candidate")]⟩) = [] :=
    fun place => congrArg (List.flatMap (Layer.callNeeds place)) callsOfTexts_candidate
  have hclose : ∀ place, Layer.renderingNeeds place (displaying "close_note" ⟨[("*", closeNoteText)]⟩) = [] :=
    fun place => congrArg (List.flatMap (Layer.callNeeds place)) callsOfTexts_closeNote
  have hcomment : ∀ place, Layer.renderingNeeds place (displaying "add_note_comment" ⟨[("*", addCommentText)]⟩) = [] :=
    fun place => congrArg (List.flatMap (Layer.callNeeds place)) callsOfTexts_addComment
  have hbutton : ∀ place, Layer.renderingNeeds place (displaying "import" ⟨[("*", importButton id)]⟩) =
      [(id, .argument "import_button" "targetLayer", place)] := by
    intro place
    have hneeds : Layer.renderingNeeds place (displaying "import" ⟨[("*", importButton id)]⟩) =
        (Special.callsOfTexts [importButton id]).flatMap (Layer.callNeeds place) := rfl
    rw [hneeds, callsOfTexts_importButton h, List.flatMap_singleton, callNeeds_importButton h]
  have hneeds : Layer.presetNeeds (importConfig id zoom) ++ Layer.textNeeds (importConfig id zoom) ++
      Layer.calculationNeeds (importConfig id zoom) =
        [(id, .argument "import_button" "targetLayer", s!"{importStart ++ id}.tagRenderings[{0}]")] := by
    simp [Layer.presetNeeds, Layer.textNeeds, Layer.calculationNeeds, importConfig, htitle, hclose, hcomment, hbutton]
  have hother : (id != importStart ++ id) = true := bne_iff_ne.mpr (importStart_append_ne id)
  unfold Layer.dependencies
  rw [hneeds]
  simp only [importConfig, List.filter_cons, hother, if_true, List.filter_nil, List.map_cons, List.map_nil]
  rfl

theorem builds_importLayer (h : Config.isValidId id = true) (zoom : Binary64) : builds (importLayer id zoom) = true := by
  rw [builds, ofDocument_importLayer h]
  rfl

theorem needed_of_importLayer (h : Config.isValidId id = true) (zoom : Binary64) :
    ∀ dep ∈ needs (importLayer id zoom), dep.needed = id := by
  intro dep hdep
  rw [needs, ofDocument_importLayer h] at hdep
  dsimp only at hdep
  rw [dependencies_importConfig h] at hdep
  rw [List.mem_singleton.mp hdep]

/-! ## Adding companions -/

theorem isObject_withLayers {theme : Document} (h : theme.isObject = true) (ls : List Document) :
    (withLayers theme ls).isObject = true := isObject_of_listAt? (listAt?_withLayers h ls)

theorem layersOf_withLayers {theme : Document} (h : theme.isObject = true) (ls : List Document) :
    layersOf (withLayers theme ls) = ls := by
  rw [layersOf, listAt?_withLayers h]
  rfl

theorem id?_of_importable? {layer : Document} (h : importable? lib layer = some id) : layer.id? = some id := by
  unfold importable? at h
  split at h
  · split at h
    · rename_i fields _ s hid
      split at h
      · cases h
        simp [Document.id?, Document.textAt?, Document.get?, Document.object?, hid, Document.text?]
      · cases h
    · cases h
  · cases h

theorem textOr_id {fields : Fields} (hid : (Document.object fields).id? = some id) : Fields.textOr fields "id" "" = id := by
  obtain ⟨value, hvalue, hs⟩ := Option.bind_eq_some_iff.mp hid
  have hvalue : Fields.get? fields "id" = some value := hvalue
  cases value with
  | text s =>
    cases hs
    simp [Fields.textOr, Fields.given?, hvalue, Document.isNull, Document.text?, Option.filter]
  | null | bool | number | list | object => cases hs

/-- A layer is read with its id, which is valid. -/
theorem id_of_ofDocument {d : Document} {l : Config.Layer} (h : Config.Layer.ofDocument place d = .ok l)
    (hid : d.id? = some id) : l.id = id ∧ Config.isValidId id = true := by
  cases d with
  | object fields =>
    obtain ⟨fs, hfs, h⟩ := ok_of_bind h
    have hfields : fs = fields := Config.eq_fieldsOf_of_readShape hfs
    rw [hfields] at h
    dsimp only at h
    rw [textOr_id hid] at h
    cases hvalid : Config.isValidId id with
    | false =>
      rw [hvalid] at h
      cases h
    | true =>
      rw [hvalid] at h
      obtain ⟨source, -, h⟩ := ok_of_bind h
      obtain ⟨title, -, h⟩ := ok_of_bind h
      obtain ⟨renderings, -, h⟩ := ok_of_bind h
      obtain ⟨presets, -, h⟩ := ok_of_bind h
      obtain ⟨filters, -, h⟩ := ok_of_bind h
      obtain ⟨calculatedTags, -, h⟩ := ok_of_bind h
      obtain ⟨drawings, -, h⟩ := ok_of_bind h
      obtain ⟨name, -, h⟩ := ok_of_bind h
      obtain ⟨description, -, h⟩ := ok_of_bind h
      cases h
      exact ⟨rfl, rfl⟩
  | null | bool | number | text | list => cases hid

/-- A layer that builds has a valid id. -/
theorem isValidId_of_builds {d : Document} (hb : builds d = true) (hid : d.id? = some id) : Config.isValidId id = true := by
  rcases read_layer "" d with ⟨l, hl, -, -⟩ | ⟨fault, -, hfault, -⟩
  · exact (id_of_ofDocument hl hid).2
  · rw [hfault] at hb
    cases hb

theorem value_companion {present : List String} {layer d : Document} (h : d ∈ (companion lib present place layer).value) :
    ∃ id zoom, importable? lib layer = some id ∧ d = importLayer id zoom := by
  unfold companion at h
  split at h
  · cases h
  · rename_i id hid
    dsimp only at h
    split at h
    · cases h
    · exact ⟨id, _, hid, List.mem_singleton.mp h⟩

/-- Companions of the layers of a closed list keep it closed. -/
theorem Closed.append_companions {layers added : List Document} (h : Closed layers)
    (hadded : ∀ d ∈ added, ∃ layer ∈ layers, ∃ id zoom, importable? lib layer = some id ∧ d = importLayer id zoom) :
    Closed (layers ++ added) := by
  have hids : layerIdsOf (layers ++ added) = layerIdsOf layers ++ layerIdsOf added := List.filterMap_append
  intro d hd
  rcases List.mem_append.mp hd with hd | hd
  · obtain ⟨hb, hn⟩ := h d hd
    refine ⟨hb, ?_⟩
    intro dep hdep
    rw [hids]
    exact List.mem_append_left _ (hn dep hdep)
  · obtain ⟨layer, hlayer, id, zoom, himport, rfl⟩ := hadded d hd
    have hid := id?_of_importable? himport
    have hvalid := isValidId_of_builds (h layer hlayer).1 hid
    refine ⟨builds_importLayer hvalid zoom, ?_⟩
    intro dep hdep
    rw [hids, needed_of_importLayer hvalid zoom dep hdep]
    exact List.mem_append_left _ (List.mem_filterMap.mpr ⟨layer, hlayer, hid⟩)

/-- What comes in behind the layers are companions of some of them. -/
theorem addImportLayers_appends {input result : Document} (hobject : input.isObject = true)
    (hr : ((addImportLayers lib).convert input place).result = some result) :
    result.isObject = true ∧ ∃ companions, layersOf result = layersOf input ++ companions ∧
      ∀ d ∈ companions, ∃ layer ∈ layersOf input, ∃ id zoom,
        importable? lib layer = some id ∧ d = importLayer id zoom := by
  simp only [addImportLayers] at hr
  split at hr
  · cases hr
    exact ⟨hobject, [], (List.append_nil _).symm, by simp⟩
  · obtain ⟨-, rfl⟩ := Noted.result_finish hr
    simp only [Noted.value_bind, Noted.value_pure, Noted.value_each]
    refine ⟨isObject_withLayers hobject _, _, layersOf_withLayers hobject _, ?_⟩
    intro d hd
    obtain ⟨ds, hds, hd⟩ := List.mem_flatten.mp hd
    obtain ⟨layer, hlayer, rfl⟩ := List.mem_map.mp hds
    obtain ⟨id, zoom, himport⟩ := value_companion hd
    exact ⟨layer, hlayer, id, zoom, himport⟩

/-- Adding companions keeps a closed list closed. -/
theorem addImportLayers_closed {input result : Document} (hobject : input.isObject = true) (h : Closed (layersOf input))
    (hr : ((addImportLayers lib).convert input place).result = some result) :
    result.isObject = true ∧ Closed (layersOf result) := by
  obtain ⟨hresult, companions, hlayers, hcompanions⟩ := addImportLayers_appends hobject hr
  refine ⟨hresult, ?_⟩
  rw [hlayers]
  exact h.append_companions hcompanions

end MapTheme.Theme
