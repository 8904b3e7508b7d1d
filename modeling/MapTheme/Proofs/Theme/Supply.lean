/-
  MapTheme.Proofs.Theme.Supply — how layers that others need are put into a theme.

  `Supplied` is read from the front: a layer was put there for one that stands behind it. A round puts copies
  of shared layers before the layers that need them (`supplied_injected`), the next round puts more before
  those (`Supplied.append`), so a whole run gives such a list (`addMissing_supplies`). That no layer is put
  there twice, and none that the theme has, is what `Extends` keeps.
-/

import MapTheme.Proofs.Theme.Dependencies

namespace MapTheme.Theme

open Layer (Dependency)

/-! ## Marked copies -/

/-- A copy that is loaded for all features and says for what; all else is as it was. -/
structure MarkedCopy (shared : Document) (reason : String) (d : Document) : Prop where
  object : d.isObject = true
  loaded : d.get? "forceLoad" = some (.bool true)
  unfiltered : d.get? "passAllFeatures" = some (.bool true)
  described : d.get? "description" = some (.text reason)
  others : ∀ key, key ∉ ["forceLoad", "passAllFeatures", "description"] → d.get? key = shared.get? key

theorem markedCopy_markedFor {shared : Document} (reason : String) (h : shared.isObject = true) :
    MarkedCopy shared reason (markedFor reason shared) := by
  cases shared with
  | object fields =>
    refine ⟨rfl, ?_, ?_, ?_, ?_⟩
    · simp [markedFor, Document.get?, Document.object?, Fields.get?_insert_of_ne]
    · simp [markedFor, Document.get?, Document.object?, Fields.get?_insert_of_ne]
    · simp [markedFor, Document.get?, Document.object?]
    · intro key hkey
      simp only [List.mem_cons, List.not_mem_nil, or_false, not_or] at hkey
      obtain ⟨hloaded, hunfiltered, hdescribed⟩ := hkey
      simp only [markedFor, Document.get?, Document.object?, Option.bind_some]
      rw [Fields.get?_insert_of_ne (Ne.symm hdescribed), Fields.get?_insert_of_ne (Ne.symm hunfiltered),
        Fields.get?_insert_of_ne (Ne.symm hloaded)]
  | null | bool | number | text | list => cases h

theorem get?_withLayers (theme : Document) (ls : List Document) {key : String} (h : key ≠ "layers") :
    (withLayers theme ls).get? key = theme.get? key := by
  cases theme with
  | object fields => exact Fields.get?_insert_of_ne (Ne.symm h) fields (.list ls)
  | null | bool | number | text | list => rfl

/-! ## Layers before those that need them -/

/-- A shared layer that a layer of `all` needs and that is not in `base`, marked with the reason. -/
def Brought (lib : Library) (all base : List Document) (d : Document) : Prop :=
  ∃ parent ∈ all, ∃ dep ∈ needs parent, ∃ shared, dep.needed ∉ layerIdsOf base ∧
    lib.layers.find? dep.needed = some shared ∧ d = markedFor dep.reason.text shared

/-- Layers that were put before `base` one after the other, each for a layer behind it. -/
inductive Supplied (lib : Library) (base : List Document) : List Document → Prop
  | nil : Supplied lib base []
  | cons {d : Document} {added : List Document} : Brought lib (added ++ base) base d → Supplied lib base added →
      Supplied lib base (d :: added)

variable {lib : Library} {place name : String} {base layers added later : List Document} {d : Document}

theorem Brought.mono {all all' base' : List Document} (h : Brought lib all base d) (hall : all ⊆ all')
    (hbase : base' ⊆ base) : Brought lib all' base' d := by
  obtain ⟨parent, hparent, dep, hdep, shared, hnew, hfind, hd⟩ := h
  refine ⟨parent, hall hparent, dep, hdep, shared, ?_, hfind, hd⟩
  intro hin
  obtain ⟨layer, hlayer, hid⟩ := List.mem_filterMap.mp hin
  exact hnew (List.mem_filterMap.mpr ⟨layer, hbase hlayer, hid⟩)

namespace Supplied

/-- What is put before layers that were put before `base` stands before `base`. -/
theorem append (h : Supplied lib base added) (hlater : Supplied lib (added ++ base) later) :
    Supplied lib base (later ++ added) := by
  induction hlater with
  | nil => exact h
  | @cons d nearer hbrought _ ih =>
    have hall : nearer ++ (added ++ base) ⊆ (nearer ++ added) ++ base := by
      rw [List.append_assoc]
      exact List.Subset.refl _
    exact .cons (hbrought.mono hall (List.subset_append_right added base)) ih

/-- Each layer has one behind it that needs it. -/
theorem brought {before after : List Document} (h : Supplied lib base (before ++ d :: after)) :
    Brought lib (after ++ base) base d := by
  induction before with
  | nil =>
    cases h with
    | cons hbrought _ => exact hbrought
  | cons _ _ ih =>
    cases h with
    | cons _ hrest => exact ih hrest

theorem forall_brought (h : Supplied lib base added) : ∀ d ∈ added, Brought lib (added ++ base) base d := by
  intro d hd
  obtain ⟨before, after, rfl⟩ := List.append_of_mem hd
  refine h.brought.mono ?_ (List.Subset.refl base)
  intro layer hlayer
  simp only [List.mem_append, List.mem_cons] at hlayer ⊢
  tauto

end Supplied

/-- One round: what the layers need and have not is put before them. -/
theorem supplied_injected {wanted : List Dependency}
    (h : ∀ dep ∈ wanted, dep ∈ layers.flatMap needs ∧ dep.needed ∉ layerIdsOf layers) :
    Supplied lib layers (injected lib wanted) := by
  induction wanted with
  | nil => exact .nil
  | cons dep rest ih =>
    have hrest := ih fun dep hdep => h dep (List.mem_cons_of_mem _ hdep)
    obtain ⟨hneeds, hnew⟩ := h dep List.mem_cons_self
    obtain ⟨parent, hparent, hneeds⟩ := List.mem_flatMap.mp hneeds
    cases hfind : lib.layers.find? dep.needed with
    | none =>
      rw [injected, List.filterMap_cons, hfind]
      exact hrest
    | some shared =>
      rw [injected, List.filterMap_cons, hfind]
      exact .cons ⟨parent, List.mem_append_right _ hparent, dep, hneeds, shared, hnew, hfind, rfl⟩ hrest

/-- All rounds: what they add stands before the layers that are there. -/
theorem addMissing_supplies {rounds : Nat} (hok : (addMissing lib place name rounds layers).notes.hasErrors = false) :
    ∃ added, (addMissing lib place name rounds layers).value = added ++ layers ∧ Supplied lib layers added := by
  induction rounds generalizing layers with
  | zero => exact ⟨[], rfl, .nil⟩
  | succ rounds ih =>
    rcases addMissing_succ lib place name rounds layers rfl with ⟨herr, -⟩ | ⟨-, -, hout⟩ | ⟨-, -, hv, he⟩
    · rw [herr] at hok
      cases hok
    · rw [hout]
      exact ⟨[], rfl, .nil⟩
    · rw [he] at hok
      obtain ⟨later, hvalue, hlater⟩ := ih hok
      obtain ⟨hwanted, -⟩ := missingAmong_spec (layerIdsOf layers) (layers.flatMap needs)
      refine ⟨later ++ injected lib (missingAmong (layerIdsOf layers) (layers.flatMap needs)), ?_,
        (supplied_injected hwanted).append hlater⟩
      rw [hv, hvalue, List.append_assoc]

/-! ## The step -/

/-- Adding the layers that are needed fails without a result, or puts marked copies of shared layers before those of
the theme, each before a layer that needs it and none twice, and changes nothing else. -/
theorem addDependencyLayers_supplies (hlib : lib.layers.Keyed) (theme : Document) (place : String) :
    (((addDependencyLayers lib).convert theme place).isOk = false →
      ((addDependencyLayers lib).convert theme place).result = none) ∧
    (((addDependencyLayers lib).convert theme place).isOk = true →
      ∃ result own added, ((addDependencyLayers lib).convert theme place).result = some result ∧
        theme.listAt? "layers" = some own ∧ result.listAt? "layers" = some (added ++ own) ∧
        (∀ key, key ≠ "layers" → result.get? key = theme.get? key) ∧
        (layerIdsOf added).Nodup ∧ (∀ id ∈ layerIdsOf added, id ∉ layerIdsOf own) ∧
        ∀ before d after, added = before ++ d :: after →
          ∃ parent ∈ after ++ own, ∃ dep ∈ needs parent, ∃ shared, d.id? = some dep.needed ∧
            lib.layers.find? dep.needed = some shared ∧ MarkedCopy shared dep.reason.text d) := by
  cases hlist : theme.listAt? "layers" with
  | none =>
    simp only [addDependencyLayers, hlist]
    exact ⟨fun _ => rfl, fun h => by cases h⟩
  | some own =>
    have hobject := isObject_of_listAt? hlist
    have hstart := Extends.nil lib own
    have hclosed : (addMissing lib place (theme.id?.getD "<unnamed>") (lib.layers.length + 1) own).notes.hasErrors = false → _ :=
      closed_of_addMissing hlib hstart (by simp)
    have hsupplies : (addMissing lib place (theme.id?.getD "<unnamed>") (lib.layers.length + 1) own).notes.hasErrors = false → _ :=
      addMissing_supplies
    rw [convert_addDependencyLayers hlist, Noted.isOk_finish, Noted.notes_bind, Noted.notes_pure, Diagnostics.append_empty]
    generalize addMissing lib place (theme.id?.getD "<unnamed>") (lib.layers.length + 1) own = out at hclosed hsupplies
    refine ⟨fun hfailed => ?_, fun hok => ?_⟩
    · have herrors : (out >>= fun ls => pure (withLayers theme ls)).notes.hasErrors = true := by simpa using hfailed
      rw [Noted.finish, herrors]
      rfl
    · have hclean : out.notes.hasErrors = false := by simpa using hok
      obtain ⟨⟨deps, hext⟩, -⟩ := hclosed hclean
      obtain ⟨added, hvalue, hsupplied⟩ := hsupplies hclean
      -- Both say what stands before the layers of the theme.
      have hadded : added = injected lib deps := List.append_cancel_right (hvalue.symm.trans hext.eq)
      have hids : layerIdsOf added = deps.map (·.needed) := hadded ▸ layerIdsOf_injected hlib hext.found
      have hresult : (out >>= fun ls => pure (withLayers theme ls)).finish.result = some (withLayers theme (added ++ own)) := by
        rw [Noted.finish_of_no_errors (by simpa using hclean), ← hvalue]
        rfl
      refine ⟨_, own, added, hresult, rfl, listAt?_withLayers hobject _, fun key hkey => get?_withLayers theme _ hkey, ?_, ?_, ?_⟩
      · exact hids ▸ hext.nodup
      · rw [hids]
        intro id hid
        obtain ⟨dep, hdep, rfl⟩ := List.mem_map.mp hid
        exact hext.fresh dep hdep
      · rintro before d after rfl
        obtain ⟨parent, hparent, dep, hdep, shared, -, hfind, rfl⟩ := hsupplied.brought
        obtain ⟨hshared, hid⟩ := hlib _ _ hfind
        exact ⟨parent, hparent, dep, hdep, shared, (id?_markedFor _ _).trans hid, hfind, markedCopy_markedFor _ hshared⟩

/-- Two layers that need the same one. -/
def sharingTheme : Document :=
  .object [("id", .text "t"), ("layers", .list [snappingLayer "a" "b", snappingLayer "d" "b"])]

/-- The layer that both need comes once, before both, and the one that it needs in turn before it. -/
theorem addDependencyLayers_supplies_shared :
    cyclicLibrary.layers.Keyed ∧ ((addDependencyLayers cyclicLibrary).convert sharingTheme "themes:t").isOk = true ∧
    ∃ result own added, ((addDependencyLayers cyclicLibrary).convert sharingTheme "themes:t").result = some result ∧
      sharingTheme.listAt? "layers" = some own ∧ result.listAt? "layers" = some (added ++ own) ∧
      layerIdsOf (added ++ own) = ["c", "b", "a", "d"] ∧
      ∀ before d after, added = before ++ d :: after →
        ∃ parent ∈ after ++ own, ∃ dep ∈ needs parent, ∃ shared, d.id? = some dep.needed ∧
          cyclicLibrary.layers.find? dep.needed = some shared ∧ MarkedCopy shared dep.reason.text d := by
  have hlib : cyclicLibrary.layers.Keyed := Registry.keyed_of_all (by decide)
  have hok : ((addDependencyLayers cyclicLibrary).convert sharingTheme "themes:t").isOk = true := by decide +kernel
  have hids : ((addDependencyLayers cyclicLibrary).convert sharingTheme "themes:t").result.map
      (fun result => layerIdsOf (layersOf result)) = some ["c", "b", "a", "d"] := by decide +kernel
  obtain ⟨-, hsucceeds⟩ := addDependencyLayers_supplies hlib sharingTheme "themes:t"
  obtain ⟨result, own, added, hresult, hown, hlayers, -, -, -, hsupplied⟩ := hsucceeds hok
  rw [hresult, Option.map_some, layersOf, hlayers] at hids
  exact ⟨hlib, hok, result, own, added, hresult, hown, hlayers, Option.some.inj hids, hsupplied⟩

end MapTheme.Theme
