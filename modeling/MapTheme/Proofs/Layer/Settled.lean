/-
  MapTheme.Proofs.Layer.Settled — the renderings of a layer behind the steps on them.

  Copies, references, ids, blocks: the steps run in this order, each on what the one before has left. What an entry
  leads to (`LeadsTo`) is all that copies and references can put into the list, so renderings with plain languages
  and harmless overrides there, and in the library, are all that it takes: each rendering behind the steps is settled
  (`settled_of_steps`).
-/

import MapTheme.Layer.Preparation
import MapTheme.Proofs.Rendering.CopyOrder
import MapTheme.Proofs.Rendering.Languages

namespace MapTheme

/-- Shared renderings settle, those that layers list too, and the one for maps has its id and no block: it is put into
a layer behind the step for blocks. -/
structure Library.Settled (lib : Library) : Prop where
  renderings : ∀ f ∈ lib.renderings, Rendering.settles f.2 = true
  listed : ∀ f ∈ lib.layers, ∀ entry ∈ Rendering.ofLayer f.2, Rendering.isResolved entry = true →
    Rendering.hasPlainLanguages entry = true
  minimap : ∀ m, lib.renderings.find? "minimap" = some m → m.id? = some "minimap" ∧ Rendering.isSettled m = true

namespace Rendering

variable {lib : Library} {entry d : Document} {found : List Document} {place place' : String}

theorem upholds_settles (hlib : lib.Settled) : Upholds lib (settles · = true) (keepsSettling · = true) where
  shared _ _ hr := hlib.renderings _ (Fields.mem_of_get? hr)
  listed f hf entry he hresolved := by
    rw [settles, hresolved, hlib.listed f hf entry he hresolved]
    rfl
  call _ := rfl
  no_override := rfl
  laid := settles_merge

theorem settles_expandReference (hlib : lib.Settled)
    (h : LeadsOnlyTo lib place (settles · = true) (keepsSettling · = true) entry)
    (hfound : ((expandReference lib).convert entry place).result = some found) : ∀ d ∈ found, settles d = true := by
  obtain rfl := (Noted.result_finish hfound).2
  exact gives_expandEntry (upholds_settles hlib) h

/-- What an entry leads to does not depend on its place. -/
theorem LeadsTo.at_place (h : LeadsTo lib place entry d) (place' : String) : LeadsTo lib place' entry d := by
  induction h with
  | here => exact .here
  | @inside entry inner e hinner _ ih =>
    refine .inside ?_ ih
    cases entry with
    | object fields => rwa [innerEntries, result_expandCopies_congr _ place' place]
    | null | bool | number | text | list => exact hinner

/-- An entry leads to its copies. -/
theorem leadsTo_of_expandCopies (h : (expandCopies.convert entry place).result = some found) (hd : d ∈ found) :
    LeadsTo lib place' entry d := by
  cases htable : entry.get? "rewrite" with
  | none =>
    simp only [expandCopies, htable] at h
    obtain rfl := Option.some.inj h
    rw [List.mem_singleton.mp hd]
    exact .here
  | some table =>
    cases entry with
    | object fields =>
      rw [Document.get?_object] at htable
      have hrewrite : Fields.has fields "rewrite" = true := by rw [Fields.has_eq_isSome_get?, htable]; rfl
      refine .inside ?_ .here
      rwa [innerEntries, hrewrite, if_pos rfl, result_expandCopies_congr _ place' place, h]
    | null | bool | number | text | list => cases htable

theorem forall_renameFrom {P : Document → Prop} {used : List String} {renderings : List Document}
    (h : ∀ r ∈ renderings, ∀ id, P r ∧ P (withId id r)) : ∀ r ∈ renameFrom used renderings, P r := by
  induction renderings generalizing used with
  | nil => exact fun r hr => absurd hr List.not_mem_nil
  | cons r rest ih =>
    obtain ⟨hfirst, hrest⟩ := List.forall_mem_cons.mp h
    rw [renameFrom]
    split
    · exact List.forall_mem_cons.mpr ⟨(hfirst "").1, ih hrest⟩
    · exact List.forall_mem_cons.mpr ⟨(hfirst _).2, ih hrest⟩

end Rendering

namespace Layer

open Rendering (LeadsTo LeadsOnlyTo settles keepsSettling isSettled ofLayer)

variable {lib : Library} {input result : Document} {place : String}

/-- The entries of the layer's list lead only to renderings that settle and overrides that keep them so. -/
def Settling (lib : Library) (place : String) (layer : Document) : Prop :=
  ∀ entry ∈ ofLayer layer, LeadsOnlyTo lib place (settles · = true) (keepsSettling · = true) entry

theorem ofLayer_of_get? {renderings : List Document} (h : result.get? "tagRenderings" = some (.list renderings)) :
    ofLayer result = renderings := by
  rw [ofLayer, Document.listAt?, h]
  rfl

theorem get?_tagRenderings (h : ofLayer result ≠ []) :
    result.get? "tagRenderings" = some (.list (ofLayer result)) := by
  cases hlist : result.listAt? "tagRenderings" with
  | none =>
    rw [ofLayer, hlist] at h
    exact absurd rfl h
  | some renderings =>
    obtain ⟨value, hvalue, hitems⟩ := Option.bind_eq_some_iff.mp hlist
    rw [ofLayer, hlist, hvalue]
    cases value with
    | list items => rw [← Option.some.inj hitems, Option.getD_some]
    | null | bool | number | text | object => cases hitems

theorem exists_of_mem_concat {step : Expansion} {r : Document}
    (h : ((Step.on "tagRenderings" (.concat step)).convert input place).result = some result)
    (hr : r ∈ ofLayer result) :
    ∃ entry ∈ ofLayer input, ∃ p found, (step.convert entry p).result = some found ∧ r ∈ found := by
  have hget := get?_tagRenderings (List.ne_nil_of_mem hr)
  obtain ⟨field, hfield, hconcat⟩ := Step.exists_of_get?_on h hget
  obtain ⟨items, found, rfl, he, hitems⟩ := Step.exists_of_concat hconcat
  obtain rfl := Document.list.inj he
  rw [ofLayer_of_get? hfield]
  exact hitems r hr

theorem exists_of_mem_each {step : Step} {r : Document}
    (h : ((Step.on "tagRenderings" (.each step)).convert input place).result = some result)
    (hr : r ∈ ofLayer result) : ∃ entry ∈ ofLayer input, ∃ p, (step.convert entry p).result = some r := by
  have hget := get?_tagRenderings (List.ne_nil_of_mem hr)
  obtain ⟨field, hfield, heach⟩ := Step.exists_of_get?_on h hget
  obtain ⟨items, found, rfl, he, hitems⟩ := Step.exists_of_each heach
  obtain rfl := Document.list.inj he
  rw [ofLayer_of_get? hfield]
  exact hitems r hr

theorem settles_uniqueInlineIds
    (h : ((Step.on "tagRenderings" Rendering.uniqueInlineIds).convert input place).result = some result)
    (hi : ∀ r ∈ ofLayer input, settles r = true) : ∀ r ∈ ofLayer result, settles r = true := by
  intro r hr
  have hget := get?_tagRenderings (List.ne_nil_of_mem hr)
  obtain ⟨field, hfield, hids⟩ := Step.exists_of_get?_on h hget
  cases field with
  | list renderings =>
    rw [ofLayer_of_get? hfield] at hi
    obtain he := Document.list.inj (Option.some.inj hids)
    rw [← he] at hr
    exact Rendering.forall_renameFrom (fun r hr id => ⟨hi r hr, Rendering.settles_withId (hi r hr) id⟩) r hr
  | null | bool | number | text | object => cases hids

/-- Each step gets what the one before has left. -/
theorem settled_of_steps (hlib : lib.Settled) (hi : Settling lib place input) {copied resolved named written : Document}
    (hcopied : ((Step.on "tagRenderings" (.concat Rendering.expandCopies)).convert input place).result = some copied)
    (hresolved : ((Step.on "tagRenderings" (.concat (Rendering.expandReference lib))).convert copied place).result =
      some resolved)
    (hnamed : ((Step.on "tagRenderings" Rendering.uniqueInlineIds).convert resolved place).result = some named)
    (hwritten : ((Step.on "tagRenderings" (.each Rendering.replaceSpecialBlocks)).convert named place).result =
      some written) : ∀ r ∈ ofLayer written, isSettled r = true := by
  have hsettles : ∀ r ∈ ofLayer resolved, settles r = true := by
    intro r hr
    obtain ⟨copy, hcopy, p, found, hfound, hr⟩ := exists_of_mem_concat hresolved hr
    obtain ⟨entry, hentry, q, copies, hcopies, hcopy⟩ := exists_of_mem_concat hcopied hcopy
    refine Rendering.settles_expandReference hlib (fun e he => ?_) hfound r hr
    have hleads : LeadsTo lib place entry copy := Rendering.leadsTo_of_expandCopies hcopies hcopy
    exact hi entry hentry e (hleads.trans (he.at_place place))
  intro r hr
  obtain ⟨rendering, hrendering, p, hconvert⟩ := exists_of_mem_each hwritten hr
  exact Rendering.isSettled_replaceBlocks (settles_uniqueInlineIds hnamed hsettles rendering hrendering) hconvert

end Layer

end MapTheme
