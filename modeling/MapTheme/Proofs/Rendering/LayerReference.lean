/-
  MapTheme.Proofs.Rendering.LayerReference — what `layer.*` and `layer.id` give.

  Both walk the renderings of the layer. Renderings themselves, references in blocks and blocks of copies are
  chosen by the ids that come out: the wanted one for `layer.id`, all but the generated ones for `layer.*`. A
  text among the renderings is chosen by what it says, before it is resolved, and all that it stands for is
  taken.

  - `layer_id_selects_iff`: so `layer.id` gives the renderings of `layer.*` with that id exactly if a text of
    the layer stands for renderings with the id where it is the id, and for none where it is not.
  - `layer_id_misses_call`: a call written as a text is among `layer.*`, and its id is not found.
  - `layer_all_omits_generated_iff`: and `layer.*` is free of generated ids exactly if the texts are, those of
    the layer and those of the layers whose renderings it lists as `layer.*` in turn.
  - `layer_all_copies_minimap`: a layer that lists the small map by its name hands it on.
-/

import Mathlib.Data.List.Flatten
import MapTheme.Proofs.Rendering.Depth

namespace MapTheme.Rendering

variable {lib : Library} {place layer wanted id : String} {fuel depth : Nat}

/-! ## Names of renderings in a layer -/

/-- The name of the layer's renderings with an id; with `*`, of all of them. -/
def nameIn (layer wanted : String) : String := layer ++ "." ++ wanted

/-- The name is looked for in the layer: it is cut behind the layer, and it neither is the name of a shared
rendering nor has a call in it. -/
structure NamesLayer (lib : Library) (layer wanted : String) : Prop where
  plain : '.' ∉ layer.toList
  unshared : lib.renderings.find? (nameIn layer wanted) = none
  noCall : Special.calls (nameIn layer wanted) = []

theorem NamesLayer.cut (h : NamesLayer lib layer wanted) :
    Text.cutAt? '.' (nameIn layer wanted).toList = some (layer.toList, wanted.toList) := by
  have hname : (nameIn layer wanted).toList = layer.toList ++ '.' :: wanted.toList := by simp [nameIn]
  rw [hname, Text.cutAt?_append h.plain]

/-- The texts among the renderings of a layer. -/
def textsIn (lib : Library) (layer : String) : List String :=
  (((lib.layers.find? layer).map ofLayer).getD []).filterMap Document.text?

theorem mem_textsIn {t : String} :
    t ∈ textsIn lib layer ↔ ∃ d, lib.layers.find? layer = some d ∧ .text t ∈ ofLayer d := by
  unfold textsIn
  cases lib.layers.find? layer with
  | none => simp
  | some d =>
    simp only [Option.map_some, Option.getD_some, List.mem_filterMap, Option.some.injEq, exists_eq_left']
    constructor
    · intro h
      obtain ⟨e, he, ht⟩ := h
      cases e with
      | text s => rwa [Option.some.inj ht] at he
      | null | bool | number | list | object => cases ht
    · intro h
      exact ⟨.text t, h, rfl⟩

/-- The renderings that a text stands for by itself. -/
def standsFor (lib : Library) (place text : String) : List Document :=
  (((expandReference lib).convert (.text text) place).result).getD []

/-! ## One run for a layer -/

section

variable {expand : Document → Noted (List Document)} {d : Document}

theorem value_lookUpInLayer (hd : lib.layers.find? layer = some d) :
    (lookUpInLayer lib expand layer wanted place).value = (ofLayer d).flatMap fun e => (selectEntry expand wanted e).value := by
  rw [lookUpInLayer, hd]
  simp only [Noted.value_bind, Noted.value_each, ← List.flatMap_def]
  split
  · rename_i hempty
    rw [Bool.and_eq_true, List.isEmpty_iff] at hempty
    exact hempty.1.symm
  · rfl

theorem hasErrors_lookUpInLayer (hd : lib.layers.find? layer = some d) :
    (lookUpInLayer lib expand layer wanted place).notes.hasErrors =
      ((ofLayer d).any (fun e => (selectEntry expand wanted e).notes.hasErrors) ||
        ((ofLayer d).flatMap fun e => (selectEntry expand wanted e).value).isEmpty && wanted != "*") := by
  rw [lookUpInLayer, hd]
  simp only [Noted.notes_bind, Diagnostics.hasErrors_append, Noted.hasErrors_each, Noted.value_each, ← List.flatMap_def]
  congr 1
  split
  · rename_i hempty
    rw [hempty]
    rfl
  · rename_i hfull
    rw [Bool.eq_false_iff.mpr hfull]
    rfl

theorem selectEntry_text (t : String) :
    selectEntry expand wanted (.text t) = if wanted = "*" ∨ t = wanted then expand (.text t) else pure [] := by
  rw [selectEntry]
  by_cases h : wanted = "*" ∨ t = wanted
  · rw [if_pos h, if_pos (by simpa using h)]
  · rw [if_neg h, if_neg (by simpa using h)]

theorem value_selectEntry_object (fields : Fields) :
    (selectEntry expand wanted (.object fields)).value =
      (if isBlock fields then (expand (.object fields)).value else [.object fields]).filter
        fun r => isWanted wanted (idOrEmpty r) := by
  rw [selectEntry]
  split
  · rfl
  · rw [Noted.value_pure, List.filter_singleton]
    cases isWanted wanted (idOrEmpty (.object fields)) <;> rfl

/-- Anything but a text is chosen for an id exactly where it is chosen among all. -/
theorem value_selectEntry_one {e : Document} (htext : e.text? = none) (hstar : id ≠ "*") (hgen : id ∉ generatedIds) :
    (selectEntry expand id e).value = (selectEntry expand "*" e).value.filter (idOrEmpty · == id) := by
  cases e with
  | text s => cases htext
  | object fields =>
    rw [value_selectEntry_object, value_selectEntry_object, List.filter_filter]
    congr 1
    funext r
    rw [isWanted, if_neg hstar, isWanted, if_pos rfl]
    by_cases hid : idOrEmpty r = id
    · simp [hid, hgen]
    · simp [hid]
  | null | bool | number | list => rfl

/-- A text is chosen for an id as it is among all exactly if the text says which of its renderings have the id. -/
theorem value_selectEntry_one_iff (hstar : id ≠ "*") (hgen : id ∉ generatedIds) (e : Document) :
    (selectEntry expand id e).value = (selectEntry expand "*" e).value.filter (idOrEmpty · == id) ↔
      ∀ t, e = .text t → ∀ r ∈ (expand e).value, (idOrEmpty r = id ↔ t = id) := by
  cases e with
  | text t =>
    rw [selectEntry_text, selectEntry_text, if_pos (Or.inl rfl : "*" = "*" ∨ t = "*")]
    simp only [hstar, false_or, Document.text.injEq, forall_eq']
    by_cases ht : t = id
    · rw [if_pos ht, eq_comm, List.filter_eq_self]
      simp [ht]
    · rw [if_neg ht, Noted.value_pure, eq_comm, List.filter_eq_nil_iff]
      simp [ht]
  | null | bool | number | list | object =>
    refine iff_of_true (value_selectEntry_one rfl hstar hgen) fun t ht => ?_
    cases ht

/-- As far as the outcome for an id has that id, it is cut out of the outcome for all. -/
theorem sublist_selectEntry_one {e : Document} (hstar : id ≠ "*") (hgen : id ∉ generatedIds)
    (h : ∀ r ∈ (selectEntry expand id e).value, idOrEmpty r = id) :
    (selectEntry expand id e).value.Sublist ((selectEntry expand "*" e).value.filter (idOrEmpty · == id)) := by
  cases e with
  | text t =>
    rw [selectEntry_text] at h
    rw [selectEntry_text, selectEntry_text, if_pos (Or.inl rfl : "*" = "*" ∨ t = "*")]
    split
    · rename_i ht
      rw [if_pos ht] at h
      rw [List.filter_eq_self.mpr fun r hr => beq_iff_eq.mpr (h r hr)]
    · exact List.nil_sublist _
  | null | bool | number | list | object => rw [value_selectEntry_one rfl hstar hgen]

/-- What is resolved for an id is resolved for all, too. -/
theorem hasErrors_selectEntry_one {e : Document} (h : (selectEntry expand "*" e).notes.hasErrors = false) :
    (selectEntry expand id e).notes.hasErrors = false := by
  cases e with
  | text t =>
    rw [selectEntry_text, if_pos (.inl rfl)] at h
    rw [selectEntry_text]
    split
    · exact h
    · rfl
  | object fields =>
    rw [selectEntry] at h ⊢
    split
    · rename_i hblock
      rw [if_pos hblock] at h
      exact h
    · rfl
  | null | bool | number | list => rfl

end

/-! ## Inside and outside a layer -/

/-- A name of a layer's renderings is looked for in the layer, one level below. -/
theorem expandEntry_nameIn (h : NamesLayer lib layer wanted) {limit : Nat} (hdepth : depth ≤ limit) :
    expandEntry lib limit place (fuel + 1) depth (.text (nameIn layer wanted)) =
      lookUpInLayer lib (expandEntry lib limit place fuel (depth + 1)) layer wanted place := by
  rw [expandEntry, decide_eq_false (Nat.not_lt.mpr hdepth), lookUp, if_neg Bool.false_ne_true, h.unshared]
  simp only [h.noCall, List.isEmpty_nil, Bool.not_true, Bool.false_eq_true, if_false, h.cut, String.ofList_toList]

theorem resolve_nameIn (h : NamesLayer lib layer wanted) (limit : Nat) :
    resolve lib limit place (.text (nameIn layer wanted)) =
      lookUpInLayer lib (expandEntry lib limit place (limit + 1 + lib.settings.copyLevels) 1) layer wanted place := by
  rw [resolve_eq_expandEntry, expandEntry_nameIn h (Nat.zero_le limit)]

theorem depth_le_of_resolved {limit : Nat} {name : String}
    (hok : (expandEntry lib limit place (fuel + 1) depth (.text name)).notes.hasErrors = false) : depth ≤ limit := by
  by_contra hdeep
  rw [expandEntry, decide_eq_true (Nat.not_le.mp hdeep), lookUp, if_pos rfl] at hok
  cases hok

theorem exists_layer_of_resolved {expand : Document → Noted (List Document)}
    (hok : (lookUpInLayer lib expand layer wanted place).notes.hasErrors = false) :
    ∃ d, lib.layers.find? layer = some d := by
  cases hd : lib.layers.find? layer with
  | none =>
    rw [lookUpInLayer, hd] at hok
    cases hok
  | some d => exact ⟨d, rfl⟩

theorem standsFor_of_resolved {t : String} (hok : (resolve lib maxDepth place (.text t)).notes.hasErrors = false) :
    standsFor lib place t = (resolve lib maxDepth place (.text t)).value := by
  have hconvert : (expandReference lib).convert (.text t) place = (resolve lib maxDepth place (.text t)).finish := rfl
  rw [standsFor, hconvert, Noted.finish_of_no_errors hok]
  rfl

/-- What is resolved without errors inside another reference is resolved to the same by itself. -/
theorem resolve_of_inside {entry : Document} (hfuel : fuel ≤ maxDepth + 2 + lib.settings.copyLevels)
    (hok : (expandEntry lib maxDepth place fuel depth entry).notes.hasErrors = false) :
    resolve lib maxDepth place entry = expandEntry lib maxDepth place fuel depth entry :=
  expandEntry_settles hfuel (by omega) entry hok

/-- What stands among the renderings of a layer, is resolved by itself and given for all of them. -/
theorem resolved_of_listed (hall : NamesLayer lib layer "*")
    (hok : (resolve lib maxDepth place (.text (nameIn layer "*"))).notes.hasErrors = false) {t : String}
    (ht : t ∈ textsIn lib layer) :
    (resolve lib maxDepth place (.text t)).notes.hasErrors = false ∧
    resolve lib maxDepth place (.text t) =
      expandEntry lib maxDepth place (maxDepth + 1 + lib.settings.copyLevels) 1 (.text t) ∧
    ∀ d ∈ (resolve lib maxDepth place (.text t)).value, d ∈ (resolve lib maxDepth place (.text (nameIn layer "*"))).value := by
  obtain ⟨d, hd, ht⟩ := mem_textsIn.mp ht
  rw [resolve_nameIn hall, hasErrors_lookUpInLayer hd, Bool.or_eq_false_iff, List.any_eq_false] at hok
  have hinside := Bool.eq_false_iff.mpr (hok.1 _ ht)
  rw [selectEntry_text, if_pos (.inl rfl)] at hinside
  have hresolve := resolve_of_inside (by omega) hinside
  refine ⟨hresolve ▸ hinside, hresolve, fun r hr => ?_⟩
  rw [resolve_nameIn hall, value_lookUpInLayer hd]
  refine List.mem_flatMap.mpr ⟨.text t, ht, ?_⟩
  rw [selectEntry_text, if_pos (.inl rfl), ← hresolve]
  exact hr

/-! ## One id of all -/

/-- Lists that are cut out of others piece by piece and come to the same in the end are those others. -/
theorem eq_of_flatMap_eq {α β : Type} {f g : α → List β} {as : List α} (hsub : ∀ a ∈ as, (f a).Sublist (g a))
    (h : as.flatMap f = as.flatMap g) : ∀ a ∈ as, f a = g a := by
  induction as with
  | nil => exact fun a ha => absurd ha List.not_mem_nil
  | cons a as ih =>
    have hrest := (List.Sublist.flatMap_right as fun b hb => hsub b (List.mem_cons_of_mem a hb)).length_le
    have hfirst := (hsub a List.mem_cons_self).length_le
    have htotal := congrArg List.length h
    simp only [List.flatMap_cons, List.length_append] at htotal
    have heq : f a = g a := (hsub a List.mem_cons_self).eq_of_length (by omega)
    rw [List.flatMap_cons, List.flatMap_cons, heq, List.append_cancel_left_eq] at h
    intro b hb
    rcases List.mem_cons.mp hb with rfl | hb
    · exact heq
    · exact ih (fun c hc => hsub c (List.mem_cons_of_mem a hc)) h b hb

/-- For any way to resolve entries: the outcomes agree as a whole where they agree entry by entry. -/
theorem lookUpInLayer_one_iff {expand : Document → Noted (List Document)} {d : Document}
    (hd : lib.layers.find? layer = some d)
    (hok : (lookUpInLayer lib expand layer "*" place).notes.hasErrors = false) (hstar : id ≠ "*")
    (hgen : id ∉ generatedIds) (hcarried : ∃ r ∈ (lookUpInLayer lib expand layer "*" place).value, idOrEmpty r = id) :
    (lookUpInLayer lib expand layer id place).finish.result =
        some ((lookUpInLayer lib expand layer "*" place).value.filter (idOrEmpty · == id)) ↔
      ∀ e ∈ ofLayer d, ∀ t, e = .text t → ∀ r ∈ (expand e).value, (idOrEmpty r = id ↔ t = id) := by
  have hone : (lookUpInLayer lib expand layer id place).value =
      (ofLayer d).flatMap fun e => (selectEntry expand id e).value := value_lookUpInLayer hd
  have hall : (lookUpInLayer lib expand layer "*" place).value.filter (idOrEmpty · == id) =
      (ofLayer d).flatMap fun e => (selectEntry expand "*" e).value.filter (idOrEmpty · == id) := by
    rw [value_lookUpInLayer hd, List.filter_flatMap]
  simp only [← value_selectEntry_one_iff hstar hgen]
  constructor
  · intro h
    have heq := (Noted.result_finish h).2
    have hids : ∀ r ∈ (lookUpInLayer lib expand layer id place).value, idOrEmpty r = id := by
      intro r hr
      rw [heq] at hr
      exact beq_iff_eq.mp (List.mem_filter.mp hr).2
    rw [hone, hall] at heq
    refine eq_of_flatMap_eq (fun e he => sublist_selectEntry_one hstar hgen fun r hr => hids r ?_) heq
    rw [hone]
    exact List.mem_flatMap.mpr ⟨e, he, hr⟩
  · intro h
    have heq : (lookUpInLayer lib expand layer id place).value =
        (lookUpInLayer lib expand layer "*" place).value.filter (idOrEmpty · == id) := by
      rw [hone, hall]
      exact List.flatMap_congr h
    have hclean : (lookUpInLayer lib expand layer id place).notes.hasErrors = false := by
      obtain ⟨r, hr, hid⟩ := hcarried
      have hfound : r ∈ (lookUpInLayer lib expand layer "*" place).value.filter (idOrEmpty · == id) :=
        List.mem_filter.mpr ⟨hr, beq_iff_eq.mpr hid⟩
      rw [← heq, hone] at hfound
      rw [hasErrors_lookUpInLayer hd, Bool.or_eq_false_iff, List.any_eq_false] at hok ⊢
      refine ⟨fun e he => ?_, ?_⟩
      · rw [hasErrors_selectEntry_one (Bool.eq_false_iff.mpr (hok.1 e he))]
        exact Bool.false_ne_true
      · rw [List.isEmpty_eq_false_iff_exists_mem.mpr ⟨r, hfound⟩, Bool.false_and]
    rw [Noted.finish_of_no_errors hclean, heq]

/-- Of a layer whose renderings all resolve, `layer.id` gives those with the id, in order and without error,
exactly if this can be told from the texts among them: the renderings that a text stands for have the id if
it is the id, and have it not if it is another. A rendering without an id has the empty one. -/
theorem layer_id_selects_iff (hall : NamesLayer lib layer "*") (hone : NamesLayer lib layer id) {found : List Document}
    (hfound : ((expandReference lib).convert (.text (nameIn layer "*")) place).result = some found) (hstar : id ≠ "*")
    (hgen : id ∉ generatedIds) (hcarried : ∃ d ∈ found, idOrEmpty d = id) :
    ((expandReference lib).convert (.text (nameIn layer id)) place).result = some (found.filter (idOrEmpty · == id)) ↔
      ∀ t ∈ textsIn lib layer, ∀ d ∈ standsFor lib place t, (idOrEmpty d = id ↔ t = id) := by
  obtain ⟨hok, rfl⟩ := Noted.result_finish hfound
  change (resolve lib maxDepth place _).notes.hasErrors = false at hok
  change ∃ d ∈ (resolve lib maxDepth place _).value, _ at hcarried
  obtain ⟨d, hd⟩ := exists_layer_of_resolved (resolve_nameIn hall maxDepth ▸ hok)
  have htexts : ∀ t ∈ textsIn lib layer, standsFor lib place t =
      (expandEntry lib maxDepth place (maxDepth + 1 + lib.settings.copyLevels) 1 (.text t)).value := by
    intro t ht
    obtain ⟨hinside, heq, -⟩ := resolved_of_listed hall hok ht
    rw [standsFor_of_resolved hinside, heq]
  have hrun : (expandReference lib).convert (.text (nameIn layer id)) place =
      (lookUpInLayer lib (expandEntry lib maxDepth place (maxDepth + 1 + lib.settings.copyLevels) 1) layer id place).finish :=
    congrArg Noted.finish (resolve_nameIn hone maxDepth)
  rw [resolve_nameIn hall] at hok hcarried ⊢
  rw [hrun]
  generalize expandEntry lib maxDepth place (maxDepth + 1 + lib.settings.copyLevels) 1 = expand at hok hcarried htexts ⊢
  rw [lookUpInLayer_one_iff hd hok hstar hgen hcarried]
  constructor
  · intro h t ht r hr
    obtain ⟨d', hd', hmem⟩ := mem_textsIn.mp ht
    obtain rfl := Option.some.inj (hd.symm.trans hd')
    exact h _ hmem t rfl r (htexts t ht ▸ hr)
  · rintro h _ he t rfl r hr
    have ht := mem_textsIn.mpr ⟨d, hd, he⟩
    exact h t ht r ((htexts t ht).symm ▸ hr)

theorem namesLayer_of_checks (h : (!layer.toList.contains '.' && (lib.renderings.find? (nameIn layer wanted)).isNone &&
    (Special.calls (nameIn layer wanted)).isEmpty) = true) : NamesLayer lib layer wanted := by
  simp only [Bool.and_eq_true, Bool.not_eq_true', Option.isNone_iff_eq_none, List.isEmpty_iff] at h
  exact ⟨by simpa using h.1.1, h.1.2, h.2⟩

def callRendering (name : String) : Document :=
  .object [("id", .text name), ("render", .text ("\x7b" ++ name ++ "()\x7d"))]

/-- A layer with a shared rendering by its name and in a block, the renderings of another layer, copies, and a
small map of its own. -/
def parkLayer : Document :=
  .object
    [("id", .text "park"),
     ("tagRenderings", .list
       [.text "images", .text "pond.*",
        .object [("builtin", .text "images"), ("override", .object [("id", .text "views")])],
        .object
          [("rewrite", .object [("sourceString", .text "KEY"), ("into", .texts ["phone", "email"])]),
           ("renderings", .list [.object [("id", .text "KEY"), ("render", .text "KEY")]])],
        .object [("id", .text "minimap")]])]

def pondLayer : Document :=
  .object
    [("id", .text "pond"),
     ("tagRenderings", .list [.object [("id", .text "depth")], .object [("id", .text "leftover-questions")]])]

def parkLibrary : Library :=
  ⟨[("park", parkLayer), ("pond", pondLayer)],
   [("images", callRendering "image_carousel"), ("minimap", callRendering "minimap")], [], Settings.default⟩

theorem layer_id_selects_park :
    NamesLayer parkLibrary "park" "*" ∧ NamesLayer parkLibrary "park" "phone" ∧
    ∃ found, ((expandReference parkLibrary).convert (.text (nameIn "park" "*")) "layers:zoo.tagRenderings[0]").result =
        some found ∧
      found.map idOrEmpty = ["image_carousel", "depth", "views", "phone", "email"] ∧
      ((expandReference parkLibrary).convert (.text (nameIn "park" "phone")) "layers:zoo.tagRenderings[0]").result =
        some (found.filter (idOrEmpty · == "phone")) := by
  have hall : NamesLayer parkLibrary "park" "*" := namesLayer_of_checks (by decide +kernel)
  have hone : NamesLayer parkLibrary "park" "phone" := namesLayer_of_checks (by decide +kernel)
  have hids : (((expandReference parkLibrary).convert (.text (nameIn "park" "*"))
      "layers:zoo.tagRenderings[0]").result.map (·.map idOrEmpty)) =
        some ["image_carousel", "depth", "views", "phone", "email"] := by decide +kernel
  obtain ⟨found, hfound, hids⟩ := Option.map_eq_some_iff.mp hids
  have hcarried : ∃ d ∈ found, idOrEmpty d = "phone" := List.mem_map.mp (hids ▸ by decide)
  refine ⟨hall, hone, found, hfound, hids, ?_⟩
  exact (layer_id_selects_iff hall hone hfound (by decide) (by decide) hcarried).mpr (by decide +kernel)

/-- A layer with nothing but a call. -/
def articleLibrary : Library :=
  ⟨[("article", .object [("id", .text "article"), ("tagRenderings", .texts ["\x7bwikipedia()\x7d"])])], [], [],
   Settings.default⟩

/-- The id of a call is among all renderings of the layer and not found alone. -/
theorem layer_id_misses_call :
    NamesLayer articleLibrary "article" "*" ∧ NamesLayer articleLibrary "article" "wikipedia" ∧
    (∃ found, ((expandReference articleLibrary).convert (.text (nameIn "article" "*"))
        "layers:museum.tagRenderings[0]").result = some found ∧ found.map Document.id? = [some "wikipedia"]) ∧
    "wikipedia" ∉ generatedIds ∧
    ((expandReference articleLibrary).convert (.text (nameIn "article" "wikipedia"))
      "layers:museum.tagRenderings[0]").result = none := by
  have hall : NamesLayer articleLibrary "article" "*" := namesLayer_of_checks (by decide +kernel)
  have hone : NamesLayer articleLibrary "article" "wikipedia" := namesLayer_of_checks (by decide +kernel)
  have hids : (((expandReference articleLibrary).convert (.text (nameIn "article" "*"))
      "layers:museum.tagRenderings[0]").result.map (·.map Document.id?)) = some [some "wikipedia"] := by decide +kernel
  obtain ⟨found, hfound, hids⟩ := Option.map_eq_some_iff.mp hids
  have hnone : ((expandReference articleLibrary).convert (.text (nameIn "article" "wikipedia"))
      "layers:museum.tagRenderings[0]").result.isNone = true := by decide +kernel
  exact ⟨hall, hone, ⟨found, hfound, hids⟩, by decide, Option.isNone_iff_eq_none.mp hnone⟩

/-! ## Generated renderings -/

def isGenerated (rendering : Document) : Bool := generatedIds.contains (idOrEmpty rendering)

/-- The layer lists the text, or all renderings of a layer that lists it, and so on; texts that stand for all
renderings of a layer lead further and do not count themselves. -/
inductive ListsText (lib : Library) : String → String → Prop
  | here {layer text : String} : text ∈ textsIn lib layer → (∀ m, NamesLayer lib m "*" → text ≠ nameIn m "*") →
      ListsText lib layer text
  | through {layer m text : String} : nameIn m "*" ∈ textsIn lib layer → NamesLayer lib m "*" → ListsText lib m text →
      ListsText lib layer text

theorem mem_all_of_listsText {t : String} (h : ListsText lib layer t) (hall : NamesLayer lib layer "*")
    (hok : (resolve lib maxDepth place (.text (nameIn layer "*"))).notes.hasErrors = false) :
    ∀ d ∈ standsFor lib place t, d ∈ (resolve lib maxDepth place (.text (nameIn layer "*"))).value := by
  induction h with
  | here ht _ =>
    obtain ⟨hinside, -, hgiven⟩ := resolved_of_listed hall hok ht
    rw [standsFor_of_resolved hinside]
    exact hgiven
  | through hm hnames _ ih =>
    obtain ⟨hinside, -, hgiven⟩ := resolved_of_listed hall hok hm
    exact fun d hd => hgiven d (ih hnames hinside d hd)

/-- What is chosen for all and generated, is what a text stands for. -/
theorem exists_text_of_selected {expand : Document → Noted (List Document)} {e d : Document}
    (hd : d ∈ (selectEntry expand "*" e).value) (hgen : isGenerated d = true) :
    ∃ t, e = .text t ∧ d ∈ (expand (.text t)).value := by
  cases e with
  | text t =>
    rw [selectEntry_text, if_pos (.inl rfl)] at hd
    exact ⟨t, rfl, hd⟩
  | object fields =>
    rw [value_selectEntry_object] at hd
    have hkept := (List.mem_filter.mp hd).2
    rw [isWanted, if_pos rfl, Bool.not_eq_true'] at hkept
    rw [isGenerated, hkept] at hgen
    cases hgen
  | null | bool | number | list => cases hd

/-- By induction on the fuel: a generated rendering is followed down to the text that brings it. -/
theorem exists_listsText_of_generated (hall : NamesLayer lib layer "*") (hfuel : fuel ≤ maxDepth + 2 + lib.settings.copyLevels)
    (hok : (expandEntry lib maxDepth place fuel depth (.text (nameIn layer "*"))).notes.hasErrors = false) {d : Document}
    (hd : d ∈ (expandEntry lib maxDepth place fuel depth (.text (nameIn layer "*"))).value)
    (hgen : isGenerated d = true) : ∃ t, ListsText lib layer t ∧ d ∈ standsFor lib place t := by
  induction fuel generalizing depth layer with
  | zero => cases hok
  | succ fuel ih =>
    have hdepth := depth_le_of_resolved hok
    rw [expandEntry_nameIn hall hdepth] at hok hd
    obtain ⟨r, hr⟩ := exists_layer_of_resolved hok
    rw [value_lookUpInLayer hr] at hd
    rw [hasErrors_lookUpInLayer hr, Bool.or_eq_false_iff, List.any_eq_false] at hok
    obtain ⟨e, he, hd⟩ := List.mem_flatMap.mp hd
    obtain ⟨t, rfl, hd⟩ := exists_text_of_selected hd hgen
    have ht := mem_textsIn.mpr ⟨r, hr, he⟩
    have hinside := Bool.eq_false_iff.mpr (hok.1 _ he)
    rw [selectEntry_text, if_pos (.inl rfl)] at hinside
    by_cases hnames : ∃ m, NamesLayer lib m "*" ∧ t = nameIn m "*"
    · obtain ⟨m, hm, rfl⟩ := hnames
      obtain ⟨t, hlists, hd⟩ := ih hm (Nat.le_of_succ_le hfuel) hinside hd
      exact ⟨t, .through ht hm hlists, hd⟩
    · refine ⟨t, .here ht fun m hm he => hnames ⟨m, hm, he⟩, ?_⟩
      have hresolve := resolve_of_inside (Nat.le_of_succ_le hfuel) hinside
      rw [standsFor_of_resolved (hresolve ▸ hinside), hresolve]
      exact hd

/-- Of a layer whose renderings all resolve, `layer.*` has no generated rendering exactly if no text stands for
one that the layer lists, or that a layer lists whose renderings it lists all. -/
theorem layer_all_omits_generated_iff (hall : NamesLayer lib layer "*") {found : List Document}
    (hfound : ((expandReference lib).convert (.text (nameIn layer "*")) place).result = some found) :
    (∀ d ∈ found, isGenerated d = false) ↔
      ∀ t, ListsText lib layer t → ∀ d ∈ standsFor lib place t, isGenerated d = false := by
  obtain ⟨hok, rfl⟩ := Noted.result_finish hfound
  constructor
  · intro h t ht d hd
    exact h d (mem_all_of_listsText ht hall hok d hd)
  · intro h d hd
    by_contra hgen
    obtain ⟨t, ht, hd⟩ := exists_listsText_of_generated hall (Nat.le_refl _) hok hd (Bool.not_eq_false _ ▸ hgen)
    exact hgen (h t ht d hd)

theorem nameIn_injective {m : String} (h : nameIn m wanted = nameIn layer wanted) : m = layer := by
  have hchars := congrArg String.toList h
  simp only [nameIn, String.toList_append, List.append_cancel_right_eq] at hchars
  exact String.toList_inj.mp hchars

theorem ListsText.elim {t : String} (h : ListsText lib layer t) :
    t ∈ textsIn lib layer ∨ ∃ m, nameIn m "*" ∈ textsIn lib layer ∧ ListsText lib m t := by
  cases h with
  | here ht _ => exact .inl ht
  | through hm _ hrest => exact .inr ⟨_, hm, hrest⟩

/-- The small map of the park and the open questions of the pond are renderings, and so left out. -/
theorem layer_all_omits_generated_park :
    NamesLayer parkLibrary "park" "*" ∧
    ∃ found, ((expandReference parkLibrary).convert (.text (nameIn "park" "*")) "layers:zoo.tagRenderings[0]").result =
        some found ∧
      (∀ t, ListsText parkLibrary "park" t → ∀ d ∈ standsFor parkLibrary "layers:zoo.tagRenderings[0]" t,
        isGenerated d = false) ∧
      ∀ d ∈ found, isGenerated d = false := by
  have hall : NamesLayer parkLibrary "park" "*" := namesLayer_of_checks (by decide +kernel)
  have hids : (((expandReference parkLibrary).convert (.text (nameIn "park" "*"))
      "layers:zoo.tagRenderings[0]").result.isSome) = true := by decide +kernel
  obtain ⟨found, hfound⟩ := Option.isSome_iff_exists.mp hids
  have hpark : textsIn parkLibrary "park" = ["images", nameIn "pond" "*"] := by decide +kernel
  have hpond : textsIn parkLibrary "pond" = [] := by decide +kernel
  have htexts : ∀ t ∈ textsIn parkLibrary "park", ∀ d ∈ standsFor parkLibrary "layers:zoo.tagRenderings[0]" t,
      isGenerated d = false := by decide +kernel
  have hclean : ∀ t, ListsText parkLibrary "park" t → ∀ d ∈ standsFor parkLibrary "layers:zoo.tagRenderings[0]" t,
      isGenerated d = false := by
    intro t ht
    rcases ht.elim with ht | ⟨m, hm, hrest⟩
    · exact htexts t ht
    · have hnone : nameIn m "*" ≠ "images" := by
        intro he
        have hdot : '.' ∈ (nameIn m "*").toList := by simp [nameIn]
        rw [he] at hdot
        exact absurd hdot (by decide)
      rw [hpark] at hm
      obtain rfl := nameIn_injective (List.mem_singleton.mp ((List.mem_cons.mp hm).resolve_left hnone))
      rcases hrest.elim with ht | ⟨n, hn, -⟩
      · exact absurd (hpond ▸ ht) List.not_mem_nil
      · exact absurd (hpond ▸ hn) List.not_mem_nil
  exact ⟨hall, found, hfound, hclean, (layer_all_omits_generated_iff hall hfound).mpr hclean⟩

/-- The shop lists the small map by its name. -/
def shopsLibrary : Library :=
  ⟨[("shop", .object
      [("id", .text "shop"), ("tagRenderings", .list [.text "minimap", .object [("id", .text "hours")]])])],
   [("minimap", callRendering "minimap")], [], Settings.default⟩

theorem layer_all_copies_minimap :
    NamesLayer shopsLibrary "shop" "*" ∧
    ∃ found, ((expandReference shopsLibrary).convert (.text (nameIn "shop" "*")) "layers:mall.tagRenderings[0]").result =
        some found ∧ found.map Document.id? = [some "minimap", some "hours"] ∧ "minimap" ∈ generatedIds := by
  have hall : NamesLayer shopsLibrary "shop" "*" := namesLayer_of_checks (by decide +kernel)
  have hids : (((expandReference shopsLibrary).convert (.text (nameIn "shop" "*"))
      "layers:mall.tagRenderings[0]").result.map (·.map Document.id?)) = some [some "minimap", some "hours"] := by
    decide +kernel
  obtain ⟨found, hfound, hids⟩ := Option.map_eq_some_iff.mp hids
  exact ⟨hall, found, hfound, hids, by decide⟩

end MapTheme.Rendering
