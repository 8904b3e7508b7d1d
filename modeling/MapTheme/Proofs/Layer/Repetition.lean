/-
  MapTheme.Proofs.Layer.Repetition — a layer that is prepared again.

  Every step of the preparation leaves something that no later step takes back: settled renderings, distinct ids,
  no old style, a list of title icons without names, no want of a map or a question box (`prepared_of_result`). Of a
  layer like that the preparation changes nothing (`prepareLayer_of_prepared`), so it is prepared once and for all
  (`prepareLayer_again`), if the library and the entries of the layer lead to renderings that settle.

  A shared map with a block is one that does not: it is added after the blocks are written out
  (`prepareLayer_twice_differs`).
-/

import MapTheme.Proofs.Layer.Frame
import MapTheme.Proofs.Layer.Settled

namespace MapTheme

namespace Layer

open Rendering (DistinctIds SameIds isSettled ofLayer)

variable {lib : Library} {layer input result rendering : Document} {place : String}

/-! ## What the steps leave -/

/-- The list of renderings of the layer, if there is one, has distinct generated ids. -/
def Apart (layer : Document) : Prop :=
  ∀ value, layer.get? "tagRenderings" = some value → ∃ renderings, value = .list renderings ∧ DistinctIds renderings

def NoOldStyle (layer : Document) : Prop := ∀ key ∈ pointFields ++ lineFields, layer.get? key = none

/-- No item is a name, where a list is found. -/
def NoNames (key : String) (layer : Document) : Prop :=
  ∀ value, layer.get? key = some value → ∃ items, value = .list items ∧ ∀ d ∈ items, d.isText = false

/-- What a preparation leaves, and none of its steps takes back. -/
structure Prepared (lib : Library) (layer : Document) : Prop where
  settled : ∀ r ∈ ofLayer layer, isSettled r = true
  apart : Apart layer
  no_style : NoOldStyle layer
  has_icons : (layer.get? "titleIcons").isSome = true
  icons : NoNames "titleIcons" layer
  filters : NoNames "filter" layer
  map : (lib.renderings.find? "minimap").isSome = true → needsMiniMap lib layer = false
  questions : needsQuestionBox lib layer = false

/-! ## Renderings -/

theorem apart_of_uniqueInlineIds
    (h : ((Step.on "tagRenderings" Rendering.uniqueInlineIds).convert input place).result = some result) :
    Apart result := by
  intro value hvalue
  obtain ⟨field, -, hr⟩ := Step.exists_of_get?_on h hvalue
  simp only [Rendering.uniqueInlineIds] at hr
  split at hr
  · exact ⟨_, (Option.some.inj hr).symm, Rendering.distinctIds_distinct _⟩
  · cases hr

theorem apart_of_replaceSpecialBlocks (hi : Apart input)
    (h : ((Step.on "tagRenderings" (.each Rendering.replaceSpecialBlocks)).convert input place).result = some result) :
    Apart result := by
  intro value hvalue
  obtain ⟨field, hfield, hr⟩ := Step.exists_of_get?_on h hvalue
  obtain ⟨renderings, rfl, hdistinct⟩ := hi field hfield
  obtain ⟨found, hfound, rfl⟩ := Converted.result_of_map hr
  have hsame : ∀ item d, (∃ p, (Rendering.replaceSpecialBlocks.convert item p).result = some d) → SameIds item d := by
    rintro item d ⟨p, hp⟩
    rw [← (Noted.result_finish hp).2]
    exact Rendering.replaceBlocks_sameIds p item
  have hitems := Step.forall₂_of_convertItems Rendering.replaceSpecialBlocks_honest.isSome hfound
  exact ⟨found, rfl, hdistinct.of_sameIds (hitems.imp hsame)⟩

/-! ## Style, icons and filters -/

theorem get?_moveStyle_of_old {fields : Fields} (hf : fields.Distinct) {key : String}
    (h : key ∈ pointFields ++ lineFields) : Fields.get? (moveStyle fields) key = none := by
  have hfirst := (distinct_takeFields pointFields hf).2
  have hsecond := (distinct_takeFields lineFields hfirst).2
  have hother : "wayHandling" ≠ key ∧ "mapRendering" ≠ key := by
    revert key
    decide
  have htaken :
      Fields.get? (Fields.erase (takeFields lineFields (takeFields pointFields fields).2).2 "wayHandling") key = none := by
    rw [Fields.get?_erase_of_ne hsecond hother.1, get?_takeFields hfirst, get?_takeFields hf]
    rcases List.mem_append.mp h with hpoint | hline
    · simp [hpoint]
    · simp [hline]
  simp only [moveStyle]
  split
  · exact htaken
  · rw [Fields.get?_insert_of_ne hother.2]
    exact htaken

theorem hasOldStyle_eq_false_iff {fields : Fields} : hasOldStyle fields = false ↔ NoOldStyle (.object fields) := by
  simp only [hasOldStyle, List.any_eq_false, Fields.has_eq_isSome_get?, NoOldStyle, Document.get?_object,
    Option.isSome_iff_ne_none, ne_eq, not_not]

theorem noOldStyle_of_moveOldStyle (hi : input.Distinct) (h : (moveOldStyle.convert input place).result = some result) :
    NoOldStyle result := by
  simp only [moveOldStyle] at h
  split at h
  · rename_i fields
    split at h
    · rename_i hold
      obtain rfl := Option.some.inj h
      exact hasOldStyle_eq_false_iff.mp (by simpa using hold)
    · obtain rfl := (Noted.result_finish h).2
      have hmoved : NoOldStyle (.object (moveStyle fields)) := by
        intro key hkey
        rw [Document.get?_object]
        exact get?_moveStyle_of_old (Document.distinct_object.mp hi) hkey
      split <;> exact hmoved
  · cases h

theorem has_icons_of_setDefault {value : Document}
    (h : ((Step.setDefault "titleIcons" value true).convert input place).result = some result) :
    (result.get? "titleIcons").isSome = true := by
  simp only [Step.setDefault] at h
  split at h
  · rename_i fields
    rw [← Option.some.inj h]
    split_ifs with hmissing
    · rw [Document.get?_object, Fields.get?_insert_self]
      rfl
    · rw [Document.get?_object]
      cases hget : Fields.get? fields "titleIcons" with
      | none => exact absurd (by rw [hget]) hmissing
      | some icons => rfl
  · cases h

theorem isText_of_settled (hlib : lib.Settled) {f : String × Document} (hf : f ∈ lib.renderings) :
    f.2.isText = false := by
  have hsettles := hlib.renderings f hf
  cases hd : f.2 with
  | text name =>
    rw [hd] at hsettles
    cases hsettles
  | null | bool | number | list | object => rfl

theorem expandTitleIcon_takes (hlib : lib.Settled) :
    (expandTitleIcon lib).Takes (fun _ => True) fun ds => ∀ d ∈ ds, d.isText = false := by
  intro input place result _ h
  simp only [expandTitleIcon] at h
  split at h
  · split at h
    · obtain rfl := Option.some.inj h
      intro d hd
      obtain ⟨f, hf, rfl⟩ := List.mem_map.mp (List.mem_filter.mp hd).1
      exact isText_of_settled hlib hf
    · split at h
      · rename_i rendering hfound
        obtain rfl := Option.some.inj h
        simpa using isText_of_settled hlib (Fields.mem_of_get? hfound)
      · cases h
  · rename_i hname
    obtain rfl := Option.some.inj h
    have htext : input.isText = false := by
      cases input with
      | text name => exact absurd rfl (hname name)
      | null | bool | number | list | object => rfl
    simpa using htext

theorem expandFilter_takes (lib : Library) :
    (expandFilter lib).Takes (fun _ => True) fun ds => ∀ d ∈ ds, d.isText = false := by
  intro input place result _ h
  simp only [expandFilter] at h
  split at h
  · split at h
    · rename_i name found hfound
      obtain rfl := Option.some.inj h
      have hid := List.find?_some hfound
      have htext : found.isText = false := by
        cases found with
        | text s => cases hid
        | null | bool | number | list | object => rfl
      simpa using htext
    · cases h
  · rename_i hname
    obtain rfl := Option.some.inj h
    have htext : input.isText = false := by
      cases input with
      | text name => exact absurd rfl (hname name)
      | null | bool | number | list | object => rfl
    simpa using htext

theorem expandTitleIcon_of_no_name {icon : Document} (h : icon.isText = false) (place : String) :
    (expandTitleIcon lib).convert icon place = .success [icon] := by
  cases icon with
  | text name => cases h
  | null | bool | number | list | object => rfl

theorem expandFilter_of_no_name {filter : Document} (h : filter.isText = false) (place : String) :
    (expandFilter lib).convert filter place = .success [filter] := by
  cases filter with
  | text name => cases h
  | null | bool | number | list | object => rfl

theorem noNames_of_concat {key : String} {step : Expansion}
    (hstep : step.Takes (fun _ => True) fun ds => ∀ d ∈ ds, d.isText = false)
    (h : ((Step.on key (.concat step)).convert input place).result = some result) : NoNames key result := by
  intro value hvalue
  obtain ⟨field, -, hr⟩ := Step.exists_of_get?_on h hvalue
  obtain ⟨items, found, -, rfl, hitems⟩ := Step.exists_of_concat hr
  refine ⟨found, rfl, fun d hd => ?_⟩
  obtain ⟨item, -, p, ds, hds, hd⟩ := hitems d hd
  exact hstep trivial hds d hd

/-! ## The map and the question box -/

theorem isPrivileged_congr (h : result.get? "id" = input.get? "id") :
    isPrivileged lib result = isPrivileged lib input := by
  rw [isPrivileged, isPrivileged, Document.id?, Document.id?, Document.textAt?, Document.textAt?, h]

theorem ofLayer_congr (h : result.get? "tagRenderings" = input.get? "tagRenderings") :
    ofLayer result = ofLayer input := by
  rw [ofLayer, ofLayer, Document.listAt?, Document.listAt?, h]

/-- A layer with renderings gets one more. -/
theorem get?_withRendering_self (h : ofLayer layer ≠ []) (rendering : Document) :
    (withRendering layer rendering).get? "tagRenderings" = some (.list (ofLayer layer ++ [rendering])) := by
  have hget := get?_tagRenderings h
  cases layer with
  | object fields =>
    rw [Document.get?_object] at hget
    simp only [withRendering, hget]
    rw [Document.get?_object, Fields.get?_insert_self]
  | null | bool | number | text | list => cases hget

theorem ofLayer_withRendering (h : ofLayer layer ≠ []) (rendering : Document) :
    ofLayer (withRendering layer rendering) = ofLayer layer ++ [rendering] := by
  rw [ofLayer, Document.listAt?, get?_withRendering_self h]
  rfl

/-- What a layer has after the additions: at least what it had, the same id, and nothing where it had nothing. -/
structure Extended (before after : Document) : Prop where
  renderings : ∀ r ∈ ofLayer before, r ∈ ofLayer after
  nothing : ofLayer before = [] → ofLayer after = []
  id : after.get? "id" = before.get? "id"

theorem Extended.refl (layer : Document) : Extended layer layer := ⟨fun _ hr => hr, fun hnone => hnone, rfl⟩

theorem extended_withRendering (hne : ofLayer layer ≠ []) (rendering : Document) :
    Extended layer (withRendering layer rendering) := by
  refine ⟨?_, fun hnone => absurd hnone hne, get?_withRendering layer rendering (by decide)⟩
  intro r hr
  rw [ofLayer_withRendering hne]
  exact List.mem_append_left _ hr

/-- One more rendering at the end, with an id that no other has. -/
theorem Apart.withRendering (h : Apart layer) (hne : ofLayer layer ≠ []) {id : String} (hid : rendering.id? = some id)
    (hgen : id ∉ Rendering.inlineIds (ofLayer layer))
    (hown : ∀ id, Rendering.generatedId? rendering = some id → id ∉ Rendering.authoredIds (ofLayer layer)) :
    Apart (withRendering layer rendering) := by
  intro value hvalue
  rw [get?_withRendering_self hne] at hvalue
  obtain ⟨_, he, hdistinct⟩ := h _ (get?_tagRenderings hne)
  obtain rfl := Document.list.inj he
  refine ⟨_, (Option.some.inj hvalue).symm, hdistinct.append ?_ hown⟩
  intro id' hid'
  rw [hid] at hid'
  exact Option.some.inj hid' ▸ hgen

theorem calls_of_extended (h : Extended input result) {name : String} (hcalls : calls input name = true) :
    calls result name = true := by
  obtain ⟨r, hr, hcall⟩ := List.any_eq_true.mp hcalls
  exact List.any_eq_true.mpr ⟨r, h.renderings r hr, hcall⟩

theorem needsMiniMap_congr (hrenderings : ofLayer result = ofLayer input)
    (hid : result.get? "id" = input.get? "id") : needsMiniMap lib result = needsMiniMap lib input := by
  have hprivileged : isPrivileged lib result = isPrivileged lib input := isPrivileged_congr hid
  rw [needsMiniMap, needsMiniMap, calls, calls, hrenderings, hprivileged]

theorem needsQuestionBox_congr (hrenderings : ofLayer result = ofLayer input)
    (hid : result.get? "id" = input.get? "id") : needsQuestionBox lib result = needsQuestionBox lib input := by
  have hprivileged : isPrivileged lib result = isPrivileged lib input := isPrivileged_congr hid
  rw [needsQuestionBox, needsQuestionBox, calls, calls, hrenderings, hprivileged]

theorem needsMiniMap_of_extended (h : Extended input result) (hneeds : needsMiniMap lib input = false) :
    needsMiniMap lib result = false := by
  have hprivileged : isPrivileged lib result = isPrivileged lib input := isPrivileged_congr h.id
  simp only [needsMiniMap, Bool.and_eq_false_iff, Bool.not_eq_false', List.isEmpty_iff] at hneeds ⊢
  rcases hneeds with ((hneeds | hnone) | hmap) | hcalls
  · exact .inl (.inl (.inl (hprivileged.trans hneeds)))
  · exact .inl (.inl (.inr (h.nothing hnone)))
  · obtain ⟨r, hr, hid⟩ := List.any_eq_true.mp hmap
    exact .inl (.inr (List.any_eq_true.mpr ⟨r, h.renderings r hr, hid⟩))
  · exact .inr (calls_of_extended h hcalls)

theorem calls_questionBox : (Special.callsInRendering questionBox).any (·.name == "questions") = true := by
  decide +kernel

theorem ofLayer_ne_nil_of_needsQuestionBox (h : needsQuestionBox lib layer = true) : ofLayer layer ≠ [] := by
  intro hnone
  simp [needsQuestionBox, hnone] at h

theorem needsQuestionBox_withRendering (h : needsQuestionBox lib layer = true) :
    needsQuestionBox lib (withRendering layer questionBox) = false := by
  have hcalls : calls (withRendering layer questionBox) "questions" = true := by
    rw [calls, ofLayer_withRendering (ofLayer_ne_nil_of_needsQuestionBox h), List.any_append, Bool.or_eq_true]
    exact .inr (by simpa using calls_questionBox)
  simp [needsQuestionBox, hcalls]

theorem ofLayer_ne_nil_of_needsMiniMap (h : needsMiniMap lib layer = true) : ofLayer layer ≠ [] := by
  intro hnone
  simp [needsMiniMap, hnone] at h

theorem id?_ne_of_needsMiniMap (h : needsMiniMap lib layer = true) :
    ∀ r ∈ ofLayer layer, r.id? ≠ some "minimap" := by
  simp only [needsMiniMap, Bool.and_eq_true, Bool.not_eq_true', List.any_eq_false, beq_iff_eq] at h
  exact h.1.2

theorem needsMiniMap_withRendering {map : Document} (hne : ofLayer layer ≠ []) (hid : map.id? = some "minimap") :
    needsMiniMap lib (withRendering layer map) = false := by
  have hthere : (ofLayer (withRendering layer map)).any (fun r => r.id? == some "minimap") = true := by
    rw [ofLayer_withRendering hne, List.any_append, Bool.or_eq_true]
    exact .inr (by simp [hid])
  simp [needsMiniMap, hthere]

/-- The step for maps adds one at most once: its id is then there. -/
theorem addMiniMap_leaves (hlib : lib.Settled) (hi : Apart input)
    (h : ((addMiniMap lib).convert input place).result = some result) :
    Apart result ∧ Extended input result ∧
      ((lib.renderings.find? "minimap").isSome = true → needsMiniMap lib result = false) := by
  rcases of_addMiniMap h with ⟨rfl, hneeds⟩ | ⟨map, hmap, hneeds, rfl⟩
  · exact ⟨hi, .refl result, hneeds⟩
  have hid := (hlib.minimap map hmap).1
  have hne := ofLayer_ne_nil_of_needsMiniMap hneeds
  have hnomap := id?_ne_of_needsMiniMap hneeds
  refine ⟨hi.withRendering hne hid ?_ ?_, extended_withRendering hne map, fun _ => needsMiniMap_withRendering hne hid⟩
  · intro hmem
    obtain ⟨r, hr, hrid⟩ := List.mem_filterMap.mp hmem
    exact hnomap r hr (Rendering.id?_of_generatedId? hrid)
  · intro id hgen hmem
    rw [Rendering.id?_of_generatedId? hgen] at hid
    obtain ⟨r, hr, hrid⟩ := Rendering.exists_of_mem_authoredIds hmem
    exact hnomap r hr (hrid.trans hid)

theorem addQuestionBox_leaves (hi : Apart input) (h : ((addQuestionBox lib).convert input place).result = some result) :
    Apart result ∧ Extended input result ∧ needsQuestionBox lib result = false := by
  rcases of_addQuestionBox h with ⟨rfl, hneeds⟩ | ⟨hneeds, rfl⟩
  · exact ⟨hi, .refl result, hneeds⟩
  have hne := ofLayer_ne_nil_of_needsQuestionBox hneeds
  have hid : questionBox.id? = some "leftover-questions" := rfl
  have hgen : "leftover-questions" ∉ Rendering.inlineIds (ofLayer input) := by
    intro hmem
    obtain ⟨r, -, hr⟩ := List.mem_filterMap.mp hmem
    exact absurd (Rendering.isNameChar_of_generatedId? (c := '-') hr (by decide)) (by decide)
  have hnone : Rendering.generatedId? questionBox = none := rfl
  refine ⟨hi.withRendering hne hid hgen ?_, extended_withRendering hne questionBox,
    needsQuestionBox_withRendering hneeds⟩
  intro id hown
  rw [hnone] at hown
  cases hown

theorem settled_withRendering (hne : ofLayer layer ≠ []) (hi : ∀ r ∈ ofLayer layer, isSettled r = true)
    (hr : isSettled rendering = true) : ∀ r ∈ ofLayer (withRendering layer rendering), isSettled r = true := by
  rw [ofLayer_withRendering hne, List.forall_mem_append]
  exact ⟨hi, List.forall_mem_singleton.mpr hr⟩

theorem settled_of_addMiniMap (hlib : lib.Settled) (hi : ∀ r ∈ ofLayer input, isSettled r = true)
    (h : ((addMiniMap lib).convert input place).result = some result) :
    ∀ r ∈ ofLayer result, isSettled r = true := by
  rcases of_addMiniMap h with ⟨rfl, -⟩ | ⟨map, hmap, hneeds, rfl⟩
  · exact hi
  · exact settled_withRendering (ofLayer_ne_nil_of_needsMiniMap hneeds) hi (hlib.minimap map hmap).2

theorem settled_of_addQuestionBox (hi : ∀ r ∈ ofLayer input, isSettled r = true)
    (h : ((addQuestionBox lib).convert input place).result = some result) :
    ∀ r ∈ ofLayer result, isSettled r = true := by
  rcases of_addQuestionBox h with ⟨rfl, -⟩ | ⟨hneeds, rfl⟩
  · exact hi
  · exact settled_withRendering (ofLayer_ne_nil_of_needsQuestionBox hneeds) hi (by decide +kernel)

/-! ## The whole preparation -/

theorem Apart.congr (hi : Apart input) (h : result.get? "tagRenderings" = input.get? "tagRenderings") :
    Apart result := by
  intro value hvalue
  rw [h] at hvalue
  exact hi value hvalue

theorem NoNames.congr {key : String} (hi : NoNames key input) (h : result.get? key = input.get? key) :
    NoNames key result := by
  intro value hvalue
  rw [h] at hvalue
  exact hi value hvalue

theorem NoOldStyle.congr (hi : NoOldStyle input)
    (h : ∀ key ∈ pointFields ++ lineFields, result.get? key = input.get? key) : NoOldStyle result := by
  intro key hkey
  rw [h key hkey]
  exact hi key hkey

/-- A layer before the additions: the steps up to the title icons are done. -/
structure Midway (layer : Document) : Prop where
  distinct : layer.Distinct
  settled : ∀ r ∈ ofLayer layer, isSettled r = true
  apart : Apart layer
  no_style : NoOldStyle layer
  has_icons : (layer.get? "titleIcons").isSome = true
  icons : NoNames "titleIcons" layer

theorem exists_midway (hlib : lib.Distinct) (hsettled : lib.Settled) (hi : input.Distinct)
    (hlayer : Settling lib place input)
    (h : (Step.runAll place (preparationSteps lib) ⟨input, .empty⟩).result = some result) :
    ∃ middle : Noted Document, Midway middle.value ∧
      (Step.runAll place ((preparationSteps lib).drop 7) middle).result = some result := by
  obtain ⟨copied, hcopied, h⟩ := Step.exists_of_runAll_cons h
  obtain ⟨resolved, hresolved, h⟩ := Step.exists_of_runAll_cons h
  obtain ⟨named, hnamed, h⟩ := Step.exists_of_runAll_cons h
  obtain ⟨written, hwritten, h⟩ := Step.exists_of_runAll_cons h
  obtain ⟨styled, hstyled, h⟩ := Step.exists_of_runAll_cons h
  obtain ⟨defaulted, hdefaulted, h⟩ := Step.exists_of_runAll_cons h
  obtain ⟨iconed, hiconed, h⟩ := Step.exists_of_runAll_cons h
  have hcopied' := Step.on_keepsDistinct (Step.concat_keepsDistinct Rendering.expandCopies_keepsDistinct) hi hcopied
  have hresolved' := Step.on_keepsDistinct (Step.concat_keepsDistinct (Rendering.expandReference_keepsDistinct hlib))
    hcopied' hresolved
  have hnamed' := Step.on_keepsDistinct Rendering.uniqueInlineIds_keepsDistinct hresolved' hnamed
  have hwritten' := Step.on_keepsDistinct (Step.each_keepsDistinct Rendering.replaceSpecialBlocks_keepsDistinct)
    hnamed' hwritten
  have hstyled' := moveOldStyle_keepsDistinct hwritten' hstyled
  have hdefaulted' := Step.setDefault_keepsDistinct (Document.distinct_texts _) hstyled' hdefaulted
  have hiconed' := Step.on_keepsDistinct (Step.concat_keepsDistinct (expandTitleIcon_keepsDistinct hlib))
    hdefaulted' hiconed
  have hkept : ∀ key, key ∉ ["titleIcons"] → iconed.value.get? key = styled.value.get? key := by
    intro key hkey
    exact (Step.on_keeps hkey hdefaulted' hiconed).trans (Step.setDefault_keeps hkey hstyled' hdefaulted)
  have hrenderings : iconed.value.get? "tagRenderings" = written.value.get? "tagRenderings" :=
    (hkept _ (by decide)).trans (moveOldStyle_keeps (by decide) hwritten' hstyled)
  refine ⟨iconed, ⟨hiconed', ?_, ?_, ?_, ?_, ?_⟩, h⟩
  · rw [ofLayer_congr hrenderings]
    exact settled_of_steps hsettled hlayer hcopied hresolved hnamed hwritten
  · exact (apart_of_replaceSpecialBlocks (apart_of_uniqueInlineIds hnamed) hwritten).congr hrenderings
  · have hother : ∀ key ∈ pointFields ++ lineFields, key ∉ ["titleIcons"] := by decide
    exact (noOldStyle_of_moveOldStyle hwritten' hstyled).congr fun key hkey => hkept key (hother key hkey)
  · exact (Step.isSome_get?_on hiconed).trans (has_icons_of_setDefault hdefaulted)
  · exact noNames_of_concat (expandTitleIcon_takes hsettled) hiconed

theorem prepared_of_midway (hlib : lib.Distinct) (hsettled : lib.Settled) {middle : Noted Document}
    (hm : Midway middle.value)
    (h : (Step.runAll place ((preparationSteps lib).drop 7) middle).result = some result) : Prepared lib result := by
  obtain ⟨mapped, hmapped, h⟩ := Step.exists_of_runAll_cons h
  obtain ⟨boxed, hboxed, h⟩ := Step.exists_of_runAll_cons h
  obtain ⟨filtered, hfiltered, h⟩ := Step.exists_of_runAll_cons h
  obtain rfl : filtered.value = result := (Noted.result_finish h).2
  have hmapped' := addMiniMap_keepsDistinct hlib hm.distinct hmapped
  have hboxed' := addQuestionBox_keepsDistinct lib hmapped' hboxed
  obtain ⟨hapart, -, hmap⟩ := addMiniMap_leaves hsettled hm.apart hmapped
  obtain ⟨hapart, hextended, hquestions⟩ := addQuestionBox_leaves hapart hboxed
  have hlast : ∀ key, key ∉ ["filter"] → filtered.value.get? key = boxed.value.get? key :=
    fun key hkey => Step.on_keeps hkey hboxed' hfiltered
  have hkept : ∀ key, key ∉ ["tagRenderings"] → key ∉ ["filter"] → filtered.value.get? key = middle.value.get? key := by
    intro key hkey hfilter
    exact (hlast key hfilter).trans
      ((addQuestionBox_keeps hkey hmapped' hboxed).trans (addMiniMap_keeps hkey hm.distinct hmapped))
  have hrenderings := ofLayer_congr (hlast "tagRenderings" (by decide))
  have hid := hlast "id" (by decide)
  refine ⟨?_, hapart.congr (hlast _ (by decide)), ?_, ?_, ?_, noNames_of_concat (expandFilter_takes lib) hfiltered,
    ?_, ?_⟩
  · rw [hrenderings]
    exact settled_of_addQuestionBox (settled_of_addMiniMap hsettled hm.settled hmapped) hboxed
  · have hother : ∀ key ∈ pointFields ++ lineFields, key ∉ ["tagRenderings"] ∧ key ∉ ["filter"] := by decide
    exact hm.no_style.congr fun key hkey => hkept key (hother key hkey).1 (hother key hkey).2
  · rw [hkept "titleIcons" (by decide) (by decide)]
    exact hm.has_icons
  · exact hm.icons.congr (hkept "titleIcons" (by decide) (by decide))
  · intro hthere
    rw [needsMiniMap_congr hrenderings hid]
    exact needsMiniMap_of_extended hextended (hmap hthere)
  · rw [needsQuestionBox_congr hrenderings hid]
    exact hquestions

/-- What every result of a preparation is like. -/
theorem prepared_of_result (hlib : lib.Distinct) (hsettled : lib.Settled) (hi : input.Distinct)
    (hlayer : Settling lib place input) (h : ((prepareLayer lib).convert input place).result = some result) :
    Prepared lib result := by
  obtain ⟨middle, hm, hrun⟩ := exists_midway hlib hsettled hi hlayer h
  exact prepared_of_midway hlib hsettled hm hrun

section Again

variable {fields : Fields} (hp : Prepared lib (.object fields))
include hp

theorem Prepared.exists_renderings {d : Document} (hd : Fields.get? fields "tagRenderings" = some d) :
    ∃ renderings, d = .list renderings ∧ DistinctIds renderings ∧
      ∀ r ∈ renderings, Rendering.isResolved r = true ∧ isSettled r = true := by
  obtain ⟨renderings, rfl, hdistinct⟩ := hp.apart d hd
  refine ⟨renderings, rfl, hdistinct, fun r hr => ?_⟩
  have hlist : ofLayer (.object fields) = renderings := ofLayer_of_get? hd
  have hr : isSettled r = true := hp.settled r (hlist ▸ hr)
  obtain ⟨_, -, hresolved, -⟩ := Rendering.exists_object_of_isSettled hr
  exact ⟨hresolved, hr⟩

theorem Prepared.addMiniMap_fixed (place : String) :
    (addMiniMap lib).convert (.object fields) place = .success (.object fields) := by
  cases hmap : lib.renderings.find? "minimap" with
  | none => simp only [addMiniMap, hmap]
  | some map =>
    have hneeds := hp.map (by rw [hmap]; rfl)
    simp [addMiniMap, hmap, hneeds]

/-- No step changes or notes anything. -/
theorem Prepared.preparationSteps_fixed (place : String) :
    ∀ step ∈ preparationSteps lib, step.convert (.object fields) place = .success (.object fields) := by
  intro step hs
  simp only [preparationSteps, List.mem_cons, List.not_mem_nil, or_false] at hs
  rcases hs with rfl | rfl | rfl | rfl | rfl | rfl | rfl | rfl | rfl | rfl
  · refine Step.on_concat_of_fixed fun d hd => ?_
    obtain ⟨renderings, rfl, -, hr⟩ := hp.exists_renderings hd
    exact ⟨renderings, rfl, fun r hmem p => Rendering.expandCopies_of_rendering (hr r hmem).1 p⟩
  · refine Step.on_concat_of_fixed fun d hd => ?_
    obtain ⟨renderings, rfl, -, hr⟩ := hp.exists_renderings hd
    exact ⟨renderings, rfl, fun r hmem p => Rendering.expandReference_of_rendering lib (hr r hmem).1 p⟩
  · refine Step.on_of_fixed fun d hd => ?_
    obtain ⟨renderings, rfl, hdistinct, -⟩ := hp.exists_renderings hd
    simp only [Rendering.uniqueInlineIds, Rendering.distinctIds_of_distinct hdistinct]
  · refine Step.on_of_fixed fun d hd => ?_
    obtain ⟨renderings, rfl, -, hr⟩ := hp.exists_renderings hd
    exact Step.each_of_fixed (fun r hmem p => Rendering.replaceSpecialBlocks_of_settled (hr r hmem).2 p) _
  · simp [moveOldStyle, hasOldStyle_eq_false_iff.mpr hp.no_style]
  · obtain ⟨icons, hget⟩ := Option.isSome_iff_exists.mp hp.has_icons
    obtain ⟨items, rfl, -⟩ := hp.icons icons hget
    rw [Document.get?_object] at hget
    simp [Step.setDefault, hget]
  · refine Step.on_concat_of_fixed fun d hd => ?_
    obtain ⟨icons, rfl, hnames⟩ := hp.icons d hd
    exact ⟨icons, rfl, fun icon hmem p => expandTitleIcon_of_no_name (hnames icon hmem) p⟩
  · exact hp.addMiniMap_fixed place
  · simp [addQuestionBox, hp.questions]
  · refine Step.on_concat_of_fixed fun d hd => ?_
    obtain ⟨filters, rfl, hnames⟩ := hp.filters d hd
    exact ⟨filters, rfl, fun filter hmem p => expandFilter_of_no_name (hnames filter hmem) p⟩

end Again

theorem prepareLayer_of_prepared (hp : Prepared lib layer) (place : String) :
    (prepareLayer lib).convert layer place = .success layer := by
  cases layer with
  | object fields => exact Step.runAll_of_fixed (hp.preparationSteps_fixed place)
  | null | bool | number | text | list => cases hp.has_icons

/-- With settled shared renderings, and overrides and blocks in the layer that keep it so, nothing is left to expand
in the renderings of a prepared layer, and it is prepared again without a change or a note. -/
theorem prepareLayer_again (hlib : lib.Distinct) (hsettled : lib.Settled) (hi : input.Distinct)
    (hlayer : Settling lib place input) (h : ((prepareLayer lib).convert input place).result = some result) :
    (∀ r ∈ ofLayer result, isSettled r = true) ∧
      ∀ place', (prepareLayer lib).convert result place' = .success result := by
  have hprepared := prepared_of_result hlib hsettled hi hlayer h
  exact ⟨hprepared.settled, prepareLayer_of_prepared hprepared⟩

/-- A library with a rendering to refer to, and a map. -/
def phoneLibrary (map : Document) : Library :=
  ⟨[], [("minimap", map), ("phone", .object [("id", .text "phone"), ("question", .text "Which number?"),
    ("render", .text "\x7bphone\x7d")])], [], .default⟩

/-- A reference, two calls with the same generated id, a block, and the old style. -/
def shopLayer : Document :=
  .object [("id", .text "shop"), ("icon", .text "shop.svg"), ("source", .object [("osmTags", .text "shop=yes")]),
    ("tagRenderings", .list
      [.text "phone", .text "\x7bshare_link()\x7d", .text "\x7bshare_link()\x7d",
       .object [("id", .text "hours"),
         ("render", .object [("special", .object [("type", .text "opening_hours_table")])])]])]

def plainMap : Document := .object [("id", .text "minimap"), ("render", .text "\x7bminimap()\x7d")]

/-- The map, the phone and the layer above are shared. -/
def cafeLibrary : Library := { phoneLibrary plainMap with layers := [("shop", shopLayer)] }

/-- A rendering of a shared layer, an override, a block of copies, and two calls with the same generated id. -/
def cafeLayer : Document :=
  .object [("id", .text "cafe"), ("source", .object [("osmTags", .text "amenity=cafe")]),
    ("tagRenderings", .list
      [.text "shop.hours",
       .object [("builtin", .text "phone"), ("override", .object [("id", .text "fax")])],
       .object
         [("rewrite", .object [("sourceString", .text "KEY"), ("into", .texts ["website", "email"])]),
          ("renderings", .list [.object [("id", .text "KEY"), ("question", .text "What is the KEY?")]])],
       .text "\x7bshare_link()\x7d", .text "\x7bshare_link()\x7d"])]

theorem prepareLayer_again_cafe :
    cafeLibrary.Distinct ∧ cafeLibrary.Settled ∧ cafeLayer.Distinct ∧ Settling cafeLibrary "layers:cafe" cafeLayer ∧
      ∃ result, ((prepareLayer cafeLibrary).convert cafeLayer "layers:cafe").result = some result ∧
        (ofLayer result).filterMap Document.id? =
          ["hours", "fax", "website", "email", "share_link", "share_link_1", "minimap", "leftover-questions"] ∧
        (∀ r ∈ ofLayer result, isSettled r = true) ∧
        ∀ place', (prepareLayer cafeLibrary).convert result place' = .success result := by
  have hlib : cafeLibrary.Distinct := by
    constructor <;> simp [cafeLibrary, phoneLibrary, plainMap, shopLayer, Fields.Distinct, Fields.keys]
  have hsettled : cafeLibrary.Settled := by
    refine ⟨?_, ?_, ?_⟩
    · decide +kernel
    · decide +kernel
    · intro m hm
      obtain rfl : plainMap = m := Option.some.inj hm
      exact ⟨rfl, by decide +kernel⟩
  have hi : cafeLayer.Distinct := by simp [cafeLayer, Fields.Distinct, Fields.keys]
  have hlayer : Settling cafeLibrary "layers:cafe" cafeLayer := by
    have hwithin : (ofLayer cafeLayer).all (Rendering.passesWithin cafeLibrary "layers:cafe"
        (fun e => (!Rendering.isResolved e || Rendering.settles e) &&
          (Rendering.override? e).all Rendering.keepsSettling) 3) = true := by
      decide +kernel
    exact fun entry hentry => Rendering.leadsOnlyTo_of_within (List.all_eq_true.mp hwithin entry hentry)
  have hrun : ((prepareLayer cafeLibrary).convert cafeLayer "layers:cafe").result.map
      (fun r => (ofLayer r).filterMap Document.id?) =
        some ["hours", "fax", "website", "email", "share_link", "share_link_1", "minimap", "leftover-questions"] := by
    decide +kernel
  obtain ⟨result, hresult, hids⟩ := Option.map_eq_some_iff.mp hrun
  exact ⟨hlib, hsettled, hi, hlayer, result, hresult, hids, prepareLayer_again hlib hsettled hi hlayer hresult⟩

def blockMap : Document :=
  .object [("id", .text "minimap"), ("render", .object [("special", .object [("type", .text "minimap")])])]

/-- A map that is given as a block comes into the layer as it is, and is written out only the next time. -/
theorem prepareLayer_twice_differs : ¬ ∀ (lib : Library) (layer result : Document) (place : String),
    lib.Distinct → layer.Distinct → ((prepareLayer lib).convert layer place).result = some result →
      ((prepareLayer lib).convert result place).result = some result := by
  intro hall
  have hlib : (phoneLibrary blockMap).Distinct := by
    constructor <;> simp [phoneLibrary, blockMap, Fields.Distinct, Fields.keys]
  have hi : shopLayer.Distinct := by simp [shopLayer, Fields.Distinct, Fields.keys]
  have honce : ((prepareLayer (phoneLibrary blockMap)).convert shopLayer "layers:shop").result.map
      (fun r => (ofLayer r).all isSettled) = some false := by
    decide +kernel
  have htwice : (((prepareLayer (phoneLibrary blockMap)).convert shopLayer "layers:shop").result.bind fun r =>
      ((prepareLayer (phoneLibrary blockMap)).convert r "layers:shop").result).map
        (fun r => (ofLayer r).all isSettled) = some true := by
    decide +kernel
  obtain ⟨result, hresult, hleft⟩ := Option.map_eq_some_iff.mp honce
  have hagain := hall _ _ _ _ hlib hi hresult
  rw [hresult, Option.bind_some, hagain, Option.map_some, hleft] at htwice
  cases htwice

end Layer

end MapTheme
