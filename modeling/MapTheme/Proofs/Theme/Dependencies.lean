/-
  MapTheme.Proofs.Theme.Dependencies — the layers that a theme needs are all there in the end.

  A layer builds, and has its dependencies, wherever it stands; a shared layer does so whatever reason
  it was marked with. `Extends` is what every round keeps: shared layers of new, distinct ids before the
  layers of the theme, each of them reached by dependencies. Every round but the last adds an id of the
  registry, so the rounds are enough, and a list to which nothing is added is closed.

  - `closed_of_addMissing`: rounds without errors end in a closed list.
  - `addMissing_without_errors`: there are no errors if all that is reached builds and finds what it needs.
  - `complete_of_closed`: only then, since a closed list holds all that is reached, up to the reasons.
-/

import MapTheme.Proofs.Config.Reading
import MapTheme.Proofs.Step.Diagnostics
import MapTheme.Theme.Dependencies

namespace MapTheme

/-- Every shared layer is an object with the id that it is registered by. -/
def Registry.Keyed (r : Registry) : Prop := ∀ name d, r.find? name = some d → d.isObject = true ∧ d.id? = some name

theorem Registry.keyed_of_all {r : Registry} (h : r.all (fun (name, d) => d.isObject && d.id? == some name) = true) :
    r.Keyed := by
  intro name d hd
  simpa using List.all_eq_true.mp h _ (Fields.mem_of_get? hd)

namespace Theme

open Layer (Dependency)
open Config.Layer (Matches)

variable {lib : Library} {place theme : String} {layers : List Document}

/-! ## What a layer needs -/

/-- Does the layer build? -/
def builds (d : Document) : Bool := (Config.Layer.ofDocument "" d).isOk

/-- The dependencies of a layer that builds. -/
def needs (d : Document) : List Dependency :=
  match Config.Layer.ofDocument "" d with
  | .ok l => Layer.dependencies l
  | .error _ => []

theorem dependencies_of_matches {l m : Config.Layer} (h : l.Matches m) :
    Layer.dependencies l = Layer.dependencies m := by
  simp only [Layer.dependencies, Layer.presetNeeds, Layer.textNeeds, Layer.calculationNeeds, h.id, h.presets, h.title,
    h.renderings, h.calculatedTags]

/-- A layer is read at a place as it is read at any other. -/
theorem read_layer (p : String) (d : Document) :
    (∃ l, Config.Layer.ofDocument p d = .ok l ∧ builds d = true ∧ needs d = Layer.dependencies l) ∨
    (∃ fault, Config.Layer.ofDocument p d = .error fault ∧ builds d = false ∧ needs d = []) := by
  have h := Config.Layer.agree_ofDocument (p := p) (q := "") (Document.Alike.refl d)
  unfold builds needs
  generalize Config.Layer.ofDocument p d = x at h
  generalize Config.Layer.ofDocument "" d = y at h
  cases h with
  | ok h => exact .inl ⟨_, rfl, rfl, (dependencies_of_matches h).symm⟩
  | error => exact .inr ⟨_, rfl, rfl, rfl⟩

theorem congr_of_agree {p q : String} {a b : Document}
    (h : Agree Matches (Config.Layer.ofDocument p a) (Config.Layer.ofDocument q b)) :
    builds a = builds b ∧ needs a = needs b := by
  rcases read_layer p a with ⟨l, hl, ha, hna⟩ | ⟨_, hl, ha, hna⟩ <;>
    rcases read_layer q b with ⟨m, hm, hb, hnb⟩ | ⟨_, hm, hb, hnb⟩ <;> rw [hl, hm] at h <;> cases h
  case inl.inl.ok h => exact ⟨ha.trans hb.symm, by rw [hna, hnb, dependencies_of_matches h]⟩
  case inr.inr.error => exact ⟨ha.trans hb.symm, hna.trans hnb.symm⟩

/-! ## Marked layers -/

theorem id?_markedFor (reason : String) (d : Document) : (markedFor reason d).id? = d.id? := by
  cases d with
  | object fields =>
    simp [markedFor, Document.id?, Document.textAt?, Document.get?, Document.object?, Fields.get?_insert_of_ne]
  | null | bool | number | text | list => rfl

theorem all_passes_insert {checks : List (String × Config.Need × Config.Check)} {key : String} {v w : Document}
    (h : Config.passes checks (key, v) = Config.passes checks (key, w)) (fields : Fields) :
    (Fields.insert fields key v).all (Config.passes checks) = (Fields.insert fields key w).all (Config.passes checks) := by
  induction fields with
  | nil => simp [Fields.insert, h]
  | cons f rest ih =>
    obtain ⟨k, u⟩ := f
    by_cases hk : k = key <;> simp [Fields.insert, hk, h, ih]

/-- Layers that differ only in the text of their description are read alike. -/
theorem agree_describedLayers (p q : String) (fields : Fields) (s t : String) :
    Agree Matches
      (Config.Layer.ofDocument p (.object (Fields.insert fields "description" (.text s))))
      (Config.Layer.ofDocument q (.object (Fields.insert fields "description" (.text t)))) := by
  refine Config.Layer.agree_of_agree_readShape (Agree.mapError (Agree.bind (R := fun _ _ => True) ?_ fun _ _ _ => .ok ⟨?_, ?_⟩))
  · refine Config.agree_checkRecord_object (all_passes_insert (by rfl) fields) fun key => ?_
    by_cases hk : "description" = key
    · simp [Fields.has_eq_isSome_get?, ← hk]
    · simp [Fields.has_eq_isSome_get?, Fields.get?_insert_of_ne hk]
  · intro key hk
    simp only [Config.Shape.fieldsOf, Fields.AlikeAt, Fields.get?_insert_of_ne (Ne.symm hk)]
    cases Fields.get? fields key <;> constructor
    exact .refl _
  · intro p q
    simp only [Config.Shape.fieldsOf, Fields.given?, Fields.get?_insert_self]
    exact .ok trivial

/-- Whether a marked layer builds, and what it needs, does not depend on the reason. -/
theorem markedFor_congr (reason reason' : String) {d : Document} (h : d.isObject = true) :
    builds (markedFor reason d) = builds (markedFor reason' d) ∧ needs (markedFor reason d) = needs (markedFor reason' d) := by
  cases d <;> simp only [Document.isObject, Document.object?, Option.isSome_none, Bool.false_eq_true] at h
  exact congr_of_agree (agree_describedLayers "" "" _ reason reason')

/-! ## What is missing -/

theorem value_missing (place : String) (layers : List Document) :
    (missing place layers).value = missingAmong (layerIdsOf layers) (layers.flatMap needs) := by
  simp only [missing, allDependencies, Noted.value_bind, Noted.value_pure, List.flatMap_def]
  rw [Noted.value_each_zipIdx fun d i => ?_]
  rcases read_layer (layerPlace place i) d with ⟨l, hl, -, hn⟩ | ⟨_, hl, -, hn⟩ <;> simp [hl, hn]

theorem hasErrors_missing (place : String) (layers : List Document) :
    (missing place layers).notes.hasErrors = !layers.all builds := by
  simp only [missing, allDependencies, Noted.notes_bind, Noted.notes_pure, Diagnostics.append_empty]
  rw [List.not_all_eq_any_not]
  refine Noted.hasErrors_each_zipIdx (fun d i => ?_) layers
  rcases read_layer (layerPlace place i) d with ⟨l, hl, hb, -⟩ | ⟨_, hl, hb, -⟩ <;> simp [hl, hb]

theorem notes_missing (place : String) (h : ∀ d ∈ layers, builds d = true) : (missing place layers).notes = .empty := by
  simp only [missing, allDependencies, Noted.notes_bind, Noted.notes_pure, Diagnostics.append_empty]
  refine Noted.notes_each_eq_empty ?_
  rintro ⟨d, i⟩ hd
  have hb := h d (List.fst_mem_of_mem_zipIdx hd)
  rcases read_layer (layerPlace place i) d with ⟨l, hl, -, -⟩ | ⟨_, -, hb', -⟩
  · simp [hl]
  · rw [hb'] at hb; cases hb

/-- Every dependency that is not met is missing, once for each layer. -/
theorem missingAmong_spec (present : List String) (ds : List Dependency) :
    (∀ d ∈ missingAmong present ds, d ∈ ds ∧ d.needed ∉ present) ∧
    ((missingAmong present ds).map (·.needed)).Nodup := by
  induction ds generalizing present with
  | nil => simp [missingAmong]
  | cons d rest ih =>
    by_cases hd : d.needed ∈ present
    · obtain ⟨hmem, hnodup⟩ := ih present
      simp only [missingAmong, List.contains_eq_mem, hd, decide_true, if_true]
      exact ⟨fun e he => ⟨List.mem_cons_of_mem _ (hmem e he).1, (hmem e he).2⟩, hnodup⟩
    · obtain ⟨hmem, hnodup⟩ := ih (d.needed :: present)
      simp only [missingAmong, List.contains_eq_mem, hd, decide_false, Bool.false_eq_true, if_false]
      refine ⟨fun e he => ?_, ?_⟩
      · rcases List.mem_cons.mp he with rfl | he
        · exact ⟨List.mem_cons_self, hd⟩
        · exact ⟨List.mem_cons_of_mem _ (hmem e he).1, fun h => (hmem e he).2 (List.mem_cons_of_mem _ h)⟩
      · refine List.nodup_cons.mpr ⟨fun h => ?_, hnodup⟩
        obtain ⟨e, he, hn⟩ := List.mem_map.mp h
        exact (hmem e he).2 (hn ▸ List.mem_cons_self)

theorem missingAmong_eq_nil_iff (present : List String) (ds : List Dependency) :
    missingAmong present ds = [] ↔ ∀ d ∈ ds, d.needed ∈ present := by
  induction ds with
  | nil => simp [missingAmong]
  | cons d rest ih =>
    by_cases hd : d.needed ∈ present <;> simp [missingAmong, hd, ih]

/-! ## One round -/

/-- The marked copies of the shared layers that are needed. -/
def injected (lib : Library) (ds : List Dependency) : List Document :=
  ds.filterMap fun d => (lib.layers.find? d.needed).map (markedFor d.reason.text)

theorem value_inject (lib : Library) (place theme : String) (d : Dependency) :
    (inject lib place theme d).value = ((lib.layers.find? d.needed).map (markedFor d.reason.text)).toList := by
  unfold inject
  cases lib.layers.find? d.needed <;> rfl

theorem hasErrors_inject (lib : Library) (place theme : String) (d : Dependency) :
    (inject lib place theme d).notes.hasErrors = (lib.layers.find? d.needed).isNone := by
  unfold inject
  cases lib.layers.find? d.needed <;> simp

theorem value_injects (lib : Library) (place theme : String) (ds : List Dependency) :
    (Noted.each (inject lib place theme) ds).value.flatten = injected lib ds := by
  simp only [Noted.value_each, value_inject, injected, List.filterMap_eq_flatMap_toList, List.flatMap_def]

theorem layerIdsOf_injected (hlib : lib.layers.Keyed) {ds : List Dependency}
    (h : ∀ d ∈ ds, (lib.layers.find? d.needed).isSome = true) : layerIdsOf (injected lib ds) = ds.map (·.needed) := by
  induction ds with
  | nil => rfl
  | cons d rest ih =>
    obtain ⟨e, he⟩ := Option.isSome_iff_exists.mp (h d List.mem_cons_self)
    have ih := ih fun d hd => h d (List.mem_cons_of_mem _ hd)
    simp only [injected, layerIdsOf, List.filterMap_cons, he, Option.map_some, id?_markedFor, (hlib _ _ he).2,
      List.map_cons] at ih ⊢
    rw [ih]

/-- What a round adds is needed by a layer that is there already, and was not there itself. -/
theorem exists_of_mem_injected {wanted : List Dependency}
    (hw : wanted = missingAmong (layerIdsOf layers) (layers.flatMap needs)) {d : Document} (hd : d ∈ injected lib wanted) :
    ∃ parent ∈ layers, ∃ dep ∈ needs parent, ∃ e, dep.needed ∉ layerIdsOf layers ∧
      lib.layers.find? dep.needed = some e ∧ d = markedFor dep.reason.text e := by
  obtain ⟨dep, hdep, he⟩ := List.mem_filterMap.mp hd
  obtain ⟨e, hfind, rfl⟩ := Option.map_eq_some_iff.mp he
  obtain ⟨hmem, hnew⟩ := (missingAmong_spec _ _).1 dep (hw ▸ hdep)
  obtain ⟨parent, hparent, hneeds⟩ := List.mem_flatMap.mp hmem
  exact ⟨parent, hparent, dep, hneeds, e, hnew, hfind, rfl⟩

/-- The layers of a theme, and the shared ones that layers among them need and the theme has not, as
they are loaded. -/
inductive Reached (lib : Library) (layers : List Document) : Document → Prop
  | own {d : Document} : d ∈ layers → Reached lib layers d
  | shared {d e : Document} {dep : Dependency} : Reached lib layers d → dep ∈ needs d →
      dep.needed ∉ layerIdsOf layers → lib.layers.find? dep.needed = some e →
      Reached lib layers (markedFor dep.reason.text e)

/-- The layers after some rounds that began with `base`: shared layers for `added` before it. -/
structure Extends (lib : Library) (base : List Document) (added : List Dependency) (layers : List Document) : Prop where
  eq : layers = injected lib added ++ base
  found : ∀ d ∈ added, (lib.layers.find? d.needed).isSome = true
  nodup : (added.map (·.needed)).Nodup
  fresh : ∀ d ∈ added, d.needed ∉ layerIdsOf base
  reached : ∀ d ∈ layers, Reached lib base d

namespace Extends

variable {base : List Document} {added : List Dependency}

theorem nil (lib : Library) (base : List Document) : Extends lib base [] base :=
  ⟨rfl, by simp, .nil, by simp, fun _ => .own⟩

theorem layerIdsOf_eq (h : Extends lib base added layers) (hlib : lib.layers.Keyed) :
    layerIdsOf layers = added.map (·.needed) ++ layerIdsOf base := by
  rw [h.eq, ← layerIdsOf_injected hlib h.found, layerIdsOf, layerIdsOf, layerIdsOf, List.filterMap_append]

/-- Ids that are added are distinct and in the registry. -/
theorem length_le (h : Extends lib base added layers) : added.length ≤ lib.layers.length := by
  have hsub : added.map (·.needed) ⊆ lib.layers.names := by
    intro name hname
    obtain ⟨d, hd, rfl⟩ := List.mem_map.mp hname
    obtain ⟨e, he⟩ := Option.isSome_iff_exists.mp (h.found d hd)
    exact List.mem_map_of_mem (f := Prod.fst) (Fields.mem_of_get? he)
  simpa [Registry.names] using h.nodup.length_le_of_subset hsub

/-- A round in which everything is found adds what is missing. -/
theorem round (h : Extends lib base added layers) (hlib : lib.layers.Keyed) {wanted : List Dependency}
    (hw : wanted = missingAmong (layerIdsOf layers) (layers.flatMap needs))
    (hfound : ∀ d ∈ wanted, (lib.layers.find? d.needed).isSome = true) :
    Extends lib base (wanted ++ added) (injected lib wanted ++ layers) := by
  obtain ⟨hmem, hnodup⟩ := hw ▸ missingAmong_spec (layerIdsOf layers) (layers.flatMap needs)
  have hids := h.layerIdsOf_eq hlib
  have hnew : ∀ d ∈ wanted, d.needed ∉ added.map (·.needed) ∧ d.needed ∉ layerIdsOf base := fun d hd =>
    not_or.mp fun hor => (hmem d hd).2 (hids ▸ List.mem_append.mpr hor)
  refine ⟨?_, ?_, ?_, ?_, ?_⟩
  · rw [h.eq, injected, injected, injected, List.filterMap_append, List.append_assoc]
  · exact fun d hd => (List.mem_append.mp hd).elim (hfound d) (h.found d)
  · rw [List.map_append, List.nodup_append]
    refine ⟨hnodup, h.nodup, fun a ha b hb hab => ?_⟩
    obtain ⟨d, hd, rfl⟩ := List.mem_map.mp ha
    exact (hnew d hd).1 (hab ▸ hb)
  · exact fun d hd => (List.mem_append.mp hd).elim (fun hd => (hnew d hd).2) (h.fresh d)
  · intro d hd
    rcases List.mem_append.mp hd with hd | hd
    · obtain ⟨parent, hparent, dep, hneeds, e, hmissing, hfind, rfl⟩ := exists_of_mem_injected hw hd
      exact .shared (h.reached parent hparent) hneeds (fun hin => hmissing (hids ▸ List.mem_append_right _ hin)) hfind
    · exact h.reached d hd

/-- The shared layer of an id that was added is there, marked for some reason. -/
theorem exists_marked (h : Extends lib base added layers) (hlib : lib.layers.Keyed) {name : String} {e : Document}
    (hin : name ∈ layerIdsOf layers) (hnew : name ∉ layerIdsOf base) (hfind : lib.layers.find? name = some e) :
    ∃ reason, markedFor reason e ∈ layers := by
  rw [h.layerIdsOf_eq hlib, List.mem_append] at hin
  obtain ⟨dep, hdep, rfl⟩ := List.mem_map.mp (hin.resolve_right hnew)
  refine ⟨dep.reason.text, ?_⟩
  rw [h.eq]
  exact List.mem_append_left _ (List.mem_filterMap.mpr ⟨dep, hdep, by rw [hfind]; rfl⟩)

end Extends

/-! ## All rounds -/

/-- Every layer builds, and what it needs is in the list. -/
def Closed (layers : List Document) : Prop :=
  ∀ d ∈ layers, builds d = true ∧ ∀ dep ∈ needs d, dep.needed ∈ layerIdsOf layers

/-- All that is reached builds, and what it needs is in the theme or in the registry. -/
def Complete (lib : Library) (layers : List Document) : Prop :=
  ∀ d, Reached lib layers d → builds d = true ∧
    ∀ dep ∈ needs d, dep.needed ∈ layerIdsOf layers ∨ (lib.layers.find? dep.needed).isSome = true

variable {base : List Document} {added : List Dependency} {rounds : Nat}

/-- A round fails, finds nothing missing, or goes on with what it found. -/
theorem addMissing_succ (lib : Library) (place theme : String) (rounds : Nat) (layers : List Document)
    {wanted : List Dependency} (hw : wanted = missingAmong (layerIdsOf layers) (layers.flatMap needs)) :
    let out := addMissing lib place theme (rounds + 1) layers
    let next := addMissing lib place theme rounds (injected lib wanted ++ layers)
    (out.notes.hasErrors = true ∧
      ((∃ d ∈ layers, builds d = false) ∨ ∃ d ∈ wanted, lib.layers.find? d.needed = none)) ∨
    ((∀ d ∈ layers, builds d = true) ∧ wanted = [] ∧ out = ⟨layers, .empty⟩) ∨
    (wanted ≠ [] ∧ (∀ d ∈ wanted, (lib.layers.find? d.needed).isSome = true) ∧
      out.value = next.value ∧ out.notes.hasErrors = next.notes.hasErrors) := by
  have hvalue : (missing place layers).value = wanted := hw ▸ value_missing place layers
  have herrors := hasErrors_missing place layers
  simp only [addMissing, hvalue, value_injects]
  by_cases hb : layers.all builds = true
  · have hall : ∀ d ∈ layers, builds d = true := List.all_eq_true.mp hb
    have hnotes := notes_missing place hall
    by_cases hempty : wanted = []
    · refine .inr (.inl ⟨hall, hempty, ?_⟩)
      simp [hempty, hnotes]
    · by_cases hfound : ∀ d ∈ wanted, (lib.layers.find? d.needed).isSome = true
      · have hadded : (Noted.each (inject lib place theme) wanted).notes.hasErrors = false := by
          rw [Noted.hasErrors_each, List.any_eq_false]
          exact fun d hd => by simpa [hasErrors_inject, ← Option.isSome_iff_ne_none] using hfound d hd
        refine .inr (.inr ⟨hempty, hfound, ?_⟩)
        simp [hnotes, hempty, hadded]
      · obtain ⟨d, hd, hnone⟩ : ∃ d ∈ wanted, lib.layers.find? d.needed = none := by simpa using hfound
        have hadded : (Noted.each (inject lib place theme) wanted).notes.hasErrors = true := by
          rw [Noted.hasErrors_each, List.any_eq_true]
          exact ⟨d, hd, by simp [hasErrors_inject, hnone]⟩
        refine .inl ⟨?_, .inr ⟨d, hd, hnone⟩⟩
        simp [hnotes, hempty, hadded]
  · refine .inl ⟨?_, .inl (by simpa using hb)⟩
    simp [herrors, hb]

/-- Rounds without errors end in a closed list, if there are more of them than shared layers to add. -/
theorem closed_of_addMissing (hlib : lib.layers.Keyed) (h : Extends lib base added layers)
    (hroom : lib.layers.length < added.length + rounds)
    (hok : (addMissing lib place theme rounds layers).notes.hasErrors = false) :
    (∃ added', Extends lib base added' (addMissing lib place theme rounds layers).value) ∧
      Closed (addMissing lib place theme rounds layers).value := by
  induction rounds generalizing layers added with
  | zero =>
    have := h.length_le
    omega
  | succ rounds ih =>
    rcases addMissing_succ lib place theme rounds layers rfl with ⟨herr, -⟩ | ⟨hall, hnone, hout⟩ | ⟨hsome, hfound, hv, he⟩
    · rw [herr] at hok
      cases hok
    · rw [hout]
      refine ⟨⟨added, h⟩, fun d hd => ⟨hall d hd, fun dep hdep => ?_⟩⟩
      exact (missingAmong_eq_nil_iff _ _).mp hnone dep (List.mem_flatMap.mpr ⟨d, hd, hdep⟩)
    · rw [hv]
      refine ih (h.round hlib rfl hfound) ?_ (he ▸ hok)
      have := List.length_pos_iff.mpr hsome
      rw [List.length_append]
      omega

/-- Where all that is reached builds and finds what it needs, no round has an error. -/
theorem addMissing_without_errors (hlib : lib.layers.Keyed) (hc : Complete lib base) (h : Extends lib base added layers) :
    (addMissing lib place theme rounds layers).notes.hasErrors = false := by
  induction rounds generalizing layers added with
  | zero => rfl
  | succ rounds ih =>
    rcases addMissing_succ lib place theme rounds layers rfl with ⟨-, hbad⟩ | ⟨-, -, hout⟩ | ⟨-, hfound, -, he⟩
    · exfalso
      rcases hbad with ⟨d, hd, hb⟩ | ⟨dep, hdep, hnone⟩
      · rw [(hc d (h.reached d hd)).1] at hb
        cases hb
      · obtain ⟨hmem, hnew⟩ := (missingAmong_spec _ _).1 dep hdep
        obtain ⟨d, hd, hneeds⟩ := List.mem_flatMap.mp hmem
        rcases (hc d (h.reached d hd)).2 dep hneeds with hin | hfind
        · exact hnew (h.layerIdsOf_eq hlib ▸ List.mem_append_right _ hin)
        · rw [hnone] at hfind
          cases hfind
    · rw [hout]
      rfl
    · rw [he]
      exact ih (h.round hlib rfl hfound)

/-- What is reached stands in a closed list, perhaps marked with another reason. -/
theorem mem_of_reached (hlib : lib.layers.Keyed) (h : Extends lib base added layers) (hc : Closed layers) {d : Document}
    (hd : Reached lib base d) : ∃ e ∈ layers, builds d = builds e ∧ needs d = needs e := by
  induction hd with
  | @own d hd => exact ⟨d, by rw [h.eq]; exact List.mem_append_right _ hd, rfl, rfl⟩
  | @shared d e dep _ hdep hnew hfind ih =>
    obtain ⟨parent, hparent, -, hneeds⟩ := ih
    obtain ⟨reason, hmem⟩ := h.exists_marked hlib ((hc parent hparent).2 dep (hneeds ▸ hdep)) hnew hfind
    exact ⟨_, hmem, markedFor_congr _ _ (hlib _ _ hfind).1⟩

theorem complete_of_closed (hlib : lib.layers.Keyed) (h : Extends lib base added layers) (hc : Closed layers) :
    Complete lib base := by
  intro d hd
  obtain ⟨e, he, hb, hn⟩ := mem_of_reached hlib h hc hd
  refine ⟨hb ▸ (hc e he).1, fun dep hdep => ?_⟩
  have hin := (hc e he).2 dep (hn ▸ hdep)
  rw [h.layerIdsOf_eq hlib, List.mem_append] at hin
  refine hin.symm.imp_right fun hadded => ?_
  obtain ⟨dep', hdep', hname⟩ := List.mem_map.mp hadded
  exact hname ▸ h.found dep' hdep'

/-! ## The step -/

theorem addMissing_of_closed (hc : Closed layers) : addMissing lib place theme (rounds + 1) layers = ⟨layers, .empty⟩ := by
  have hnone : missingAmong (layerIdsOf layers) (layers.flatMap needs) = [] :=
    (missingAmong_eq_nil_iff _ _).mpr fun dep hdep => by
      obtain ⟨d, hd, hneeds⟩ := List.mem_flatMap.mp hdep
      exact (hc d hd).2 dep hneeds
  rcases addMissing_succ lib place theme rounds layers rfl with ⟨-, hbad⟩ | ⟨-, -, hout⟩ | ⟨hsome, -⟩
  · rcases hbad with ⟨d, hd, hb⟩ | ⟨dep, hdep, -⟩
    · rw [(hc d hd).1] at hb
      cases hb
    · rw [hnone] at hdep
      cases hdep
  · exact hout
  · exact absurd hnone hsome

theorem listAt?_withLayers {theme : Document} (h : theme.isObject = true) (ls : List Document) :
    (withLayers theme ls).listAt? "layers" = some ls := by
  cases theme <;> simp only [Document.isObject, Document.object?, Option.isSome_none, Bool.false_eq_true] at h
  simp [withLayers, Document.listAt?, Document.get?, Document.object?, Document.list?]

theorem withLayers_withLayers (theme : Document) (ls ls' : List Document) :
    withLayers (withLayers theme ls) ls' = withLayers theme ls' := by
  cases theme <;> simp [withLayers]

theorem isObject_of_listAt? {theme : Document} {key : String} {ls : List Document} (h : theme.listAt? key = some ls) :
    theme.isObject = true := by
  cases theme with
  | object => rfl
  | null | bool | number | text | list => cases h

theorem convert_addDependencyLayers {theme : Document} (h : theme.listAt? "layers" = some layers) (place : String) :
    (addDependencyLayers lib).convert theme place =
      ((addMissing lib place (theme.id?.getD "<unnamed>") (lib.layers.length + 1) layers) >>= fun ls =>
        pure (withLayers theme ls)).finish := by
  simp only [addDependencyLayers, h]

theorem result_addDependencyLayers {theme : Document} (h : theme.listAt? "layers" = some layers)
    (hok : ((addDependencyLayers lib).convert theme place).isOk = true) :
    let out := addMissing lib place (theme.id?.getD "<unnamed>") (lib.layers.length + 1) layers
    out.notes.hasErrors = false ∧
      ((addDependencyLayers lib).convert theme place).result = some (withLayers theme out.value) := by
  rw [convert_addDependencyLayers h, Noted.isOk_finish, Noted.notes_bind, Noted.notes_pure, Diagnostics.append_empty,
    Bool.not_eq_true'] at hok
  refine ⟨hok, ?_⟩
  rw [convert_addDependencyLayers h, Noted.finish_of_no_errors (by simpa using hok)]
  rfl

/-- Adding the layers that are needed succeeds exactly when all that is reached builds and finds what it
needs; then the list is closed, and adding again changes nothing. -/
theorem addDependencyLayers_closes (hlib : lib.layers.Keyed) {theme : Document}
    (h : theme.listAt? "layers" = some layers) (place : String) :
    (((addDependencyLayers lib).convert theme place).isOk = true ↔
      ∀ d, Reached lib layers d → builds d = true ∧
        ∀ dep ∈ needs d, dep.needed ∈ layerIdsOf layers ∨ (lib.layers.find? dep.needed).isSome = true) ∧
    (((addDependencyLayers lib).convert theme place).isOk = true →
      ∃ result ls, ((addDependencyLayers lib).convert theme place).result = some result ∧
        result.listAt? "layers" = some ls ∧ layers <:+ ls ∧ (∀ d ∈ ls, Reached lib layers d) ∧
        (∀ d ∈ ls, builds d = true ∧ ∀ dep ∈ needs d, dep.needed ∈ layerIdsOf ls) ∧
        ∀ place', (addDependencyLayers lib).convert result place' = .success result) := by
  have hstart := Extends.nil lib layers
  have hobject := isObject_of_listAt? h
  have hclosed : (addMissing lib place (theme.id?.getD "<unnamed>") (lib.layers.length + 1) layers).notes.hasErrors = false → _ :=
    closed_of_addMissing hlib hstart (by simp)
  have hcomplete : Complete lib layers →
      (addMissing lib place (theme.id?.getD "<unnamed>") (lib.layers.length + 1) layers).notes.hasErrors = false :=
    fun hc => addMissing_without_errors hlib hc hstart
  rw [convert_addDependencyLayers h, Noted.isOk_finish, Noted.notes_bind, Noted.notes_pure, Diagnostics.append_empty,
    Bool.not_eq_true']
  generalize addMissing lib place (theme.id?.getD "<unnamed>") (lib.layers.length + 1) layers = out at hclosed hcomplete
  refine ⟨⟨fun hok => ?_, hcomplete⟩, fun hok => ?_⟩
  · obtain ⟨⟨added, hext⟩, hc⟩ := hclosed hok
    exact complete_of_closed hlib hext hc
  · obtain ⟨⟨added, hext⟩, hc⟩ := hclosed hok
    have hresult : (out >>= fun ls => pure (withLayers theme ls)).finish.result = some (withLayers theme out.value) := by
      rw [Noted.finish_of_no_errors (by simpa using hok)]
      rfl
    refine ⟨_, out.value, hresult, listAt?_withLayers hobject _, ?_, hext.reached, hc, fun place' => ?_⟩
    · rw [hext.eq]
      exact List.suffix_append _ _
    · rw [convert_addDependencyLayers (listAt?_withLayers hobject _), addMissing_of_closed hc]
      simp [Noted.finish, withLayers_withLayers, Converted.success]

/-- A layer whose new points are moved onto the layer `target`. -/
def snappingLayer (id target : String) : Document :=
  .object
    [("id", .text id), ("source", .text "special"),
     ("presets", .list
       [.object [("title", .text "New point"), ("preciseInput", .object [("snapToLayer", .text target)])]])]

def snappingTheme : Document := .object [("id", .text "t"), ("layers", .list [snappingLayer "a" "b"])]

/-- Two shared layers that need each other. -/
def cyclicLibrary : Library :=
  ⟨[("b", snappingLayer "b" "c"), ("c", snappingLayer "c" "b")], [], [], Settings.default⟩

theorem addDependencyLayers_closes_cycle :
    cyclicLibrary.layers.Keyed ∧ snappingTheme.listAt? "layers" = some [snappingLayer "a" "b"] ∧
    ((addDependencyLayers cyclicLibrary).convert snappingTheme "themes:t").isOk = true ∧
    (∀ d, Reached cyclicLibrary [snappingLayer "a" "b"] d → builds d = true) ∧
    ∃ result ls, ((addDependencyLayers cyclicLibrary).convert snappingTheme "themes:t").result = some result ∧
      result.listAt? "layers" = some ls ∧
      (∀ d ∈ ls, builds d = true ∧ ∀ dep ∈ needs d, dep.needed ∈ layerIdsOf ls) ∧
      ∀ place, (addDependencyLayers cyclicLibrary).convert result place = .success result := by
  have hlib : cyclicLibrary.layers.Keyed := Registry.keyed_of_all (by decide)
  have hlist : snappingTheme.listAt? "layers" = some [snappingLayer "a" "b"] := rfl
  have hok : ((addDependencyLayers cyclicLibrary).convert snappingTheme "themes:t").isOk = true := by decide +kernel
  obtain ⟨hiff, hresult⟩ := addDependencyLayers_closes hlib hlist "themes:t"
  obtain ⟨result, ls, hr, hls, -, -, hclosed, hagain⟩ := hresult hok
  exact ⟨hlib, hlist, hok, fun d hd => (hiff.mp hok d hd).1, result, ls, hr, hls, hclosed, hagain⟩

/-- A layer whose description is no wording. -/
def undescribedLayer : Document :=
  .object [("id", .text "b"), ("source", .text "special"), ("description", .ofNat 5)]

def undescribedLibrary : Library := ⟨[("b", undescribedLayer)], [], [], Settings.default⟩

/-- A shared layer that does not build can be added all the same: its description gives way to the reason. -/
theorem unbuildable_layer_is_added :
    undescribedLibrary.layers.Keyed ∧ snappingTheme.listAt? "layers" = some [snappingLayer "a" "b"] ∧
    (needs (snappingLayer "a" "b")).map (·.needed) = ["b"] ∧ "b" ∉ layerIdsOf [snappingLayer "a" "b"] ∧
    undescribedLibrary.layers.find? "b" = some undescribedLayer ∧ builds undescribedLayer = false ∧
    ((addDependencyLayers undescribedLibrary).convert snappingTheme "themes:t").isOk = true := by
  refine ⟨Registry.keyed_of_all (by decide), rfl, ?_, ?_, rfl, ?_, ?_⟩ <;> decide +kernel

end Theme

end MapTheme
