/-
  MapTheme.Proofs.Theme.Hiding — renderings that an entry hides from the layers it stands for.

  A rendering goes by its labels, its id and its group (`labelsOf`). An entry with labels to hide stands for the layers
  that it names, each without exactly the renderings that go by one of the labels (`Hides`). Every label has to hide
  some rendering of every layer, be it that another label hides the same one: a label without effect on one of the
  layers is an error that names both (`mem_errors_layerFor`), and then the entry stands for no layers at all.
-/

import MapTheme.Proofs.Theme.Renderings

namespace MapTheme

theorem exists_right_of_forall₂ {α β : Type} {R : α → β → Prop} {as : List α} {bs : List β} (h : List.Forall₂ R as bs) :
    ∀ a ∈ as, ∃ b ∈ bs, R a b :=
  exists_of_forall₂ (List.Forall₂.flip h)

namespace Theme

variable {lib : Library} {e : LayerEntry} {entry : Fields} {layer shared : Document} {labels : List String}
  {place name label : String}

/-! ## Labels -/

/-- The names that a rendering goes by. One that is a text stands for the shared rendering of that id. -/
def labelsOf : Document → List String
  | .text id => [id]
  | .object fields =>
    (Document.object fields).id?.toList ++ ((Document.object fields).textAt? "group").toList ++
      (((Document.object fields).listAt? "labels").getD []).filterMap Document.text?
  | _ => []

theorem hasLabel_iff {rendering : Document} : hasLabel rendering label = true ↔ label ∈ labelsOf rendering := by
  cases rendering with
  | text id => simp [hasLabel, labelsOf, eq_comm]
  | object fields => simp [hasLabel, labelsOf, or_assoc]
  | null | bool | number | list => simp [hasLabel, labelsOf]

theorem hasSomeLabel_iff {rendering : Document} :
    hasSomeLabel labels rendering = true ↔ ∃ label ∈ labels, label ∈ labelsOf rendering := by
  simp [hasSomeLabel, hasLabel_iff]

/-- The renderings of a layer; none of them where they are no list. -/
def renderingsOf (layer : Document) : List Document := (layer.listAt? "tagRenderings").getD []

/-! ## Layers without renderings -/

/-- `result` is the layer without the renderings that go by one of the labels, each of which some rendering goes by. -/
structure Hides (labels : List String) (layer result : Document) : Prop where
  keys : result.object?.map Fields.keys = layer.object?.map Fields.keys
  others : ∀ key, key ≠ "tagRenderings" → result.get? key = layer.get? key
  unlisted : layer.listAt? "tagRenderings" = none → result = layer
  renderings : renderingsOf result = (renderingsOf layer).filter fun r => ∀ label ∈ labels, label ∉ labelsOf r
  used : ∀ label ∈ labels, ∃ r ∈ renderingsOf layer, label ∈ labelsOf r

theorem Hides.nil (layer : Document) : Hides [] layer layer :=
  ⟨rfl, fun _ _ => rfl, fun _ => rfl, by simp, by simp⟩

theorem filter_hasSomeLabel (labels : List String) (renderings : List Document) :
    renderings.filter (!hasSomeLabel labels ·) =
      renderings.filter fun r => ∀ label ∈ labels, label ∉ labelsOf r := by
  congr 1
  funext r
  rw [Bool.eq_iff_iff, Bool.not_eq_true', decide_eq_true_eq, ← Bool.not_eq_true, hasSomeLabel_iff]
  simp

theorem hides_hide (hused : ∀ label ∈ labels, ∃ r ∈ renderingsOf layer, label ∈ labelsOf r) :
    Hides labels layer (hide labels layer) := by
  have hsame (hlist : layer.listAt? "tagRenderings" = none) : Hides labels layer layer := by
    refine ⟨rfl, fun _ _ => rfl, fun _ => rfl, ?_, hused⟩
    rw [renderingsOf, hlist]
    rfl
  unfold hide
  split
  · rename_i fields
    split
    · rename_i renderings hget
      have hlist : (Document.object fields).listAt? "tagRenderings" = some renderings := by
        rw [Document.listAt?, Document.get?_object, hget]
        rfl
      refine ⟨?_, ?_, fun hnone => ?_, ?_, hused⟩
      · have hkey := Fields.isSome_get?_iff.mp (hget ▸ rfl : (Fields.get? fields "tagRenderings").isSome = true)
        exact congrArg some (by rw [Fields.keys_insert, if_pos hkey])
      · intro key hkey
        exact Fields.get?_insert_of_ne hkey.symm fields _
      · rw [hlist] at hnone
        cases hnone
      · rw [renderingsOf, renderingsOf, hlist, Document.listAt?, Document.get?_object, Fields.get?_insert_self]
        exact filter_hasSomeLabel labels renderings
    · rename_i hnolist
      refine hsame ?_
      rw [Document.listAt?, Document.get?_object]
      cases hget : Fields.get? fields "tagRenderings" with
      | none => rfl
      | some d =>
        cases d with
        | list renderings => exact absurd hget (hnolist renderings)
        | null | bool | number | text | object => rfl
  · rename_i hobject
    refine hsame ?_
    cases layer with
    | object fields => exact absurd rfl (hobject fields)
    | null | bool | number | text | list => rfl

/-! ## Layers of an entry -/

theorem Overridden.unique {override : Option Document} {other : Document} (h : Overridden override shared layer)
    (h' : Overridden override shared other) : layer = other := by
  cases override with
  | none => exact h.trans h'.symm
  | some override => exact Except.ok.inj (h.2.symm.trans h'.2)

theorem labels_of_ofFields {builtin hidden : Document} (h : LayerEntry.ofFields entry builtin = .ok e)
    (hhidden : Fields.get? entry "hideTagRenderingsWithLabels" = some hidden) :
    Rendering.textList? hidden = some e.labels := by
  unfold LayerEntry.ofFields at h
  rw [hhidden] at h
  dsimp only at h
  split at h
  · cases h
  · split at h
    · cases h
    · split at h
      · cases h
      · rename_i hlabels
        cases h
        exact hlabels

theorem ofFields_eq {builtin hidden : Document} {names : List String} {override : Option Document}
    (hnames : Rendering.textList? builtin = some names) (hoverride : overrideOf entry = .ok override)
    (hhidden : Fields.get? entry "hideTagRenderingsWithLabels" = some hidden)
    (hlabels : Rendering.textList? hidden = some labels) :
    LayerEntry.ofFields entry builtin = .ok ⟨names, override, labels⟩ := by
  simp [LayerEntry.ofFields, hnames, hoverride, hhidden, hlabels]

/-- The error on a label that hides nothing in the layer of that name. -/
def uselessMessage (place label name : String) : String :=
  Diagnostics.located place (SubstitutionFault.uselessLabel label name).message

theorem mem_errors_hideNoted (hlabel : label ∈ e.labels) (huseless : ∀ r ∈ renderingsOf layer, label ∉ labelsOf r) :
    uselessMessage place label name ∈ (hideNoted e place name layer).notes.errors := by
  have hmem : label ∈ e.labels.filter fun l => !(renderingsOf layer).any (hasLabel · l) := by
    rw [List.mem_filter, Bool.not_eq_true', List.any_eq_false]
    exact ⟨hlabel, fun r hr hhas => huseless r hr (hasLabel_iff.mp hhas)⟩
  have hnoted : uselessMessage place label name ∈
      (Noted.forEach (fun l => Noted.error place (SubstitutionFault.uselessLabel l name).message)
        (e.labels.filter fun l => !(renderingsOf layer).any (hasLabel · l))).notes.errors :=
    Noted.mem_errors_forEach.mpr ⟨label, hmem, List.mem_singleton_self _⟩
  simp only [hideNoted, Noted.notes_bind, Diagnostics.errors_append, List.mem_append]
  exact .inr (.inl hnoted)

/-- A label without effect on a layer is an error that names both. -/
theorem mem_errors_layerFor (hlayer : overriddenLayer lib e name = .ok layer) (hlabel : label ∈ e.labels)
    (huseless : ∀ r ∈ renderingsOf layer, label ∉ labelsOf r) :
    uselessMessage place label name ∈ (layerFor lib e place name).notes.errors := by
  have hsome : e.labels.isEmpty = false := List.isEmpty_eq_false_iff.mpr (List.ne_nil_of_mem hlabel)
  rw [layerFor, hlayer]
  simp only [hsome, Bool.false_eq_true, if_false, Noted.notes_bind, Diagnostics.errors_append, List.mem_append]
  exact .inl (mem_errors_hideNoted hlabel huseless)

/-- A name in an entry, if there is no error, stands for one layer. -/
theorem hides_of_layerFor (h : (layerFor lib e place name).notes.hasErrors = false) :
    ∃ result, (layerFor lib e place name).value = [result] ∧
      ∃ layer, overriddenLayer lib e name = .ok layer ∧ Hides e.labels layer result := by
  cases hlayer : overriddenLayer lib e name with
  | error fault => simp [layerFor, hlayer] at h
  | ok layer =>
    cases hlabels : e.labels with
    | nil => exact ⟨layer, by simp [layerFor, hlayer, hlabels], layer, rfl, .nil layer⟩
    | cons first rest =>
      rw [← hlabels]
      refine ⟨hide e.labels layer, by simp [layerFor, hlayer, hlabels, hideNoted], layer, rfl, hides_hide ?_⟩
      intro label hlabel
      by_contra huseless
      have hmem : uselessMessage place label name ∈ (layerFor lib e place name).notes.errors :=
        mem_errors_layerFor hlayer hlabel fun r hr hcarries => huseless ⟨r, hr, hcarries⟩
      simp [Diagnostics.hasErrors, List.ne_nil_of_mem hmem] at h

theorem overriddenLayer_eq (hfind : lib.layers.find? name = some shared) (h : Overridden e.override shared layer) :
    overriddenLayer lib e name = .ok layer := by
  rw [overriddenLayer, hfind]
  cases hover : e.override with
  | none =>
    rw [hover] at h
    exact congrArg Except.ok h.symm
  | some override =>
    rw [hover] at h
    dsimp only
    rw [h.2]

theorem overrideOf_of_adding
    (h : ∀ d, Fields.get? entry "override" = some d → d.isObject = true ∧ d.get? "tagRenderings" = none) :
    overrideOf entry = .ok (Fields.get? entry "override") := by
  unfold overrideOf
  split
  · rename_i hnone
    rw [hnone]
  · rename_i override hsome
    have hplain : Fields.get? override "tagRenderings" = none := (h _ hsome).2
    rw [hsome, Fields.has_eq_isSome_get?, hplain]
    rfl
  · rename_i d hnone hsome
    cases d with
    | object fields => exact absurd rfl (hnone fields)
    | null | bool | number | text | list => cases (h _ hsome).1

theorem convert_entry {builtin : Document} (hbuiltin : Fields.get? entry "builtin" = some builtin)
    (he : LayerEntry.ofFields entry builtin = .ok e) :
    (substituteLayer lib).convert (.object entry) place =
      (Noted.each (layerFor lib e place) e.names).finish.map List.flatten := by
  simp only [substituteLayer, hbuiltin, he]

theorem hides_of_result {builtin hidden : Document} {layers : List Document}
    (hobjects : ∀ name shared, lib.layers.find? name = some shared → shared.isObject = true)
    (hbuiltin : Fields.get? entry "builtin" = some builtin)
    (hhidden : Fields.get? entry "hideTagRenderingsWithLabels" = some hidden)
    (h : ((substituteLayer lib).convert (.object entry) place).result = some layers) :
    ∃ names labels, Rendering.textList? builtin = some names ∧ Rendering.textList? hidden = some labels ∧
      List.Forall₂ (fun name result => ∃ shared layer, lib.layers.find? name = some shared ∧
        Overridden (Fields.get? entry "override") shared layer ∧ Hides labels layer result) names layers := by
  cases he : LayerEntry.ofFields entry builtin with
  | error fault => simp [substituteLayer, hbuiltin, he, Converted.failure] at h
  | ok e =>
    rw [convert_entry hbuiltin he] at h
    obtain ⟨found, hfound, rfl⟩ := Converted.result_of_map h
    obtain ⟨hclean, rfl⟩ := Noted.result_finish hfound
    obtain ⟨hnames, hoverride, -⟩ := LayerEntry.parts_of_ofFields he
    refine ⟨e.names, e.labels, hnames, labels_of_ofFields he hhidden, ?_⟩
    refine (Noted.forall₂_of_each (fun name _ hok => hides_of_layerFor hok) hclean).imp ?_
    rintro name result ⟨layer, hlayer, hhides⟩
    obtain ⟨shared, hfind, hover⟩ := overridden_of_overriddenLayer hobjects hlayer
    exact ⟨shared, layer, hfind, (overrideOf_eq hoverride).1 ▸ hover, hhides⟩

/-- An entry that hides renderings stands for the layers that it names, in their order, each without exactly the
renderings that go by one of the labels, and each label hides some rendering of each layer. If a label hides none of
some layer, the entry stands for nothing, and an error tells which label and layer these are, unless the entry is
already refused for its override. -/
theorem substituteLayer_hides (entry : Fields) (place : String) {builtin hidden : Document}
    (hobjects : ∀ name shared, lib.layers.find? name = some shared → shared.isObject = true)
    (hbuiltin : Fields.get? entry "builtin" = some builtin)
    (hhidden : Fields.get? entry "hideTagRenderingsWithLabels" = some hidden) :
    (∀ layers, ((substituteLayer lib).convert (.object entry) place).result = some layers →
      ∃ names labels, Rendering.textList? builtin = some names ∧ Rendering.textList? hidden = some labels ∧
        List.Forall₂ (fun name result => ∃ shared layer, lib.layers.find? name = some shared ∧
          Overridden (Fields.get? entry "override") shared layer ∧ Hides labels layer result) names layers) ∧
    ∀ names labels, Rendering.textList? builtin = some names → Rendering.textList? hidden = some labels →
      ∀ name ∈ names, ∀ label ∈ labels, ∀ shared layer, lib.layers.find? name = some shared →
        Overridden (Fields.get? entry "override") shared layer → (∀ r ∈ renderingsOf layer, label ∉ labelsOf r) →
          ((substituteLayer lib).convert (.object entry) place).result = none ∧
          ((substituteLayer lib).convert (.object entry) place).notes.hasErrors = true ∧
          ((∀ d, Fields.get? entry "override" = some d → d.isObject = true ∧ d.get? "tagRenderings" = none) →
            uselessMessage place label name ∈ ((substituteLayer lib).convert (.object entry) place).notes.errors) := by
  refine ⟨fun layers h => hides_of_result hobjects hbuiltin hhidden h, ?_⟩
  intro names labels hnames hlabels name hname label hlabel shared layer hfind hover huseless
  have hnone : ((substituteLayer lib).convert (.object entry) place).result = none := by
    rw [Option.eq_none_iff_forall_not_mem]
    intro layers h
    obtain ⟨names', labels', hnames', hlabels', hall⟩ := hides_of_result hobjects hbuiltin hhidden h
    obtain rfl := Option.some.inj (hnames.symm.trans hnames')
    obtain rfl := Option.some.inj (hlabels.symm.trans hlabels')
    obtain ⟨_, _, shared', layer', hfind', hover', hhides⟩ := exists_right_of_forall₂ hall name hname
    obtain rfl := Option.some.inj (hfind.symm.trans hfind')
    obtain rfl := hover.unique hover'
    obtain ⟨r, hr, hcarries⟩ := hhides.used label hlabel
    exact huseless r hr hcarries
  refine ⟨hnone, (substituteLayer_honest lib _ _).mp hnone, fun hadding => ?_⟩
  have he := ofFields_eq hnames (overrideOf_of_adding hadding) hhidden hlabels
  rw [convert_entry hbuiltin he]
  refine Noted.mem_errors_each.mpr ⟨name, hname, ?_⟩
  exact mem_errors_layerFor (overriddenLayer_eq hfind hover) hlabel huseless

def backrest : Document := .object [("id", .text "backrest"), ("group", .text "comfort")]

def armrest : Document := .object [("id", .text "armrest"), ("labels", .texts ["extra", "comfort"])]

def opening : Document := .object [("id", .text "opening")]

/-- A bench with renderings that go by a label, a group, an id and a text. -/
def comfortableBench : Document :=
  .object [("tagRenderings", .list [.text "material", backrest, opening, armrest]), ("id", .text "bench")]

def comfortableSeat : Document :=
  .object [("id", .text "seat"), ("tagRenderings", .list [armrest, .object [("id", .text "material")]])]

def plainSeat : Document := .object [("id", .text "plain"), ("tagRenderings", .list [.text "material", backrest])]

def comfortLibrary : Library :=
  ⟨[("bench", comfortableBench), ("plain", plainSeat), ("seat", comfortableSeat)], [], [], Settings.default⟩

def hidingEntry (names labels : List String) : Fields :=
  [("builtin", .texts names), ("hideTagRenderingsWithLabels", .texts labels)]

/-- Two labels hide the same armrest of the seat and of the bench, and both count; in the plain seat one of them hides
nothing. -/
theorem substituteLayer_hides_comfort :
    (∀ name shared, comfortLibrary.layers.find? name = some shared → shared.isObject = true) ∧
    (∃ layers, ((substituteLayer comfortLibrary).convert
        (.object (hidingEntry ["seat", "bench"] ["comfort", "extra"])) "seats").result = some layers ∧
      layers.map (·.listAt? "tagRenderings") =
        [some [.object [("id", .text "material")]], some [.text "material", opening]] ∧
      List.Forall₂ (fun name result => ∃ shared layer, comfortLibrary.layers.find? name = some shared ∧
        Overridden none shared layer ∧ Hides ["comfort", "extra"] layer result) ["seat", "bench"] layers) ∧
    (∀ r ∈ renderingsOf plainSeat, "extra" ∉ labelsOf r) ∧
    ((substituteLayer comfortLibrary).convert
      (.object (hidingEntry ["seat", "plain"] ["comfort", "extra"])) "seats").result = none ∧
    uselessMessage "seats" "extra" "plain" ∈ ((substituteLayer comfortLibrary).convert
      (.object (hidingEntry ["seat", "plain"] ["comfort", "extra"])) "seats").notes.errors := by
  have hobjects : ∀ name shared, comfortLibrary.layers.find? name = some shared → shared.isObject = true := by
    intro name shared h
    have hmem : (name, shared) ∈ comfortLibrary.layers := Fields.mem_of_get? h
    simp only [comfortLibrary, List.mem_cons, List.not_mem_nil, or_false, Prod.mk.injEq] at hmem
    rcases hmem with ⟨-, rfl⟩ | ⟨-, rfl⟩ | ⟨-, rfl⟩ <;> rfl
  have huseless : ∀ r ∈ renderingsOf plainSeat, "extra" ∉ labelsOf r := by
    intro r hr
    have hmem : r ∈ [.text "material", backrest] := hr
    rcases List.mem_pair.mp hmem with rfl | rfl <;> decide
  obtain ⟨_, _, hnames, hlabels, hall⟩ :=
    (substituteLayer_hides (hidingEntry ["seat", "bench"] ["comfort", "extra"]) "seats" hobjects rfl rfl).1 _ rfl
  cases hnames
  cases hlabels
  obtain ⟨hnone, -, herror⟩ :=
    (substituteLayer_hides (hidingEntry ["seat", "plain"] ["comfort", "extra"]) "seats" hobjects rfl rfl).2 _ _ rfl rfl
      "plain" (by simp) "extra" (by simp) plainSeat plainSeat rfl rfl huseless
  exact ⟨hobjects, ⟨_, rfl, rfl, hall⟩, huseless, hnone, herror nofun⟩

end Theme

end MapTheme
