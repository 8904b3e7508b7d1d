/-
  MapTheme.Proofs.Rendering.InlineId — generated ids are made distinct once.

  After the renaming no generated id is there twice, and none is the id of another rendering
  (`distinctIds_distinct`); a list like that is left as it is (`distinctIds_of_distinct`). A renamed rendering
  has an id that its text does not give, so from then on it counts among the others.
-/

import Mathlib.Data.List.Nodup
import Mathlib.Data.List.Perm.Subperm
import MapTheme.Proofs.Document.Fields
import MapTheme.Proofs.Text.Pieces
import MapTheme.Rendering.InlineId

namespace MapTheme.Rendering

variable {used : List String} {r : Document} {rest renderings : List Document} {base id : String}

/-! ## Free ids -/

theorem candidate_injective (base : String) : Function.Injective (candidate base) := by
  have hsuffix : ∀ n : Nat, base ≠ base ++ "_" ++ toString n := by
    intro n he
    have hlength := congrArg (fun s : String => s.toList.length) he
    simp only [String.toList_append, List.length_append] at hlength
    have hone : "_".toList.length = 1 := rfl
    omega
  intro m n h
  unfold candidate at h
  by_cases hm : m = 0
  · by_cases hn : n = 0
    · rw [hm, hn]
    · rw [if_pos hm, if_neg hn] at h
      exact absurd h (hsuffix n)
  · by_cases hn : n = 0
    · rw [if_neg hm, if_pos hn] at h
      exact absurd h.symm (hsuffix m)
    · rw [if_neg hm, if_neg hn] at h
      have hchars := congrArg String.toList h
      simp only [String.toList_append] at hchars
      exact Text.toString_injective (String.toList_injective (List.append_cancel_left hchars))

/-- The search ends: one more candidate than there are used ids. -/
theorem freeId_not_mem (used : List String) (base : String) : freeId used base ∉ used := by
  unfold freeId
  cases hfind : ((List.range (used.length + 1)).map (candidate base)).find? (fun id => !used.contains id) with
  | some id =>
    have hfree := List.find?_some hfind
    simpa using hfree
  | none =>
    have hall : (List.range (used.length + 1)).map (candidate base) ⊆ used := by
      intro id hid
      have hused := List.find?_eq_none.mp hfind id hid
      simpa using hused
    have hnodup : ((List.range (used.length + 1)).map (candidate base)).Nodup :=
      List.nodup_range.map (candidate_injective base)
    have hlength := (List.subperm_of_subset hnodup hall).length_le
    rw [List.length_map, List.length_range] at hlength
    omega

theorem freeId_of_not_mem (h : base ∉ used) : freeId used base = base := by
  have hzero : candidate base 0 = base := rfl
  simp [freeId, List.range_succ_eq_map, hzero, h]

/-! ## Generated ids -/

/-- The generated ids of a list. -/
def inlineIds (renderings : List Document) : List String := renderings.filterMap generatedId?

theorem generatedId?_eq_some_iff : generatedId? r = some id ↔ ∃ fields render, r = .object fields ∧
    Fields.get? fields "id" = some (.text id) ∧ Fields.get? fields "render" = some (.text render) ∧
    fields.length = 2 ∧ id = inlineId render := by
  constructor
  · intro h
    unfold generatedId? at h
    split at h
    · rename_i fields
      split at h
      · rename_i text render hid hrender
        split at h
        · rename_i hgenerated
          simp only [Bool.and_eq_true, decide_eq_true_eq] at hgenerated
          obtain rfl : text = id := Option.some.inj h
          exact ⟨fields, render, rfl, hid, hrender, hgenerated⟩
        · cases h
      · cases h
    · cases h
  · rintro ⟨fields, render, rfl, hid, hrender, hlength, hown⟩
    simp [generatedId?, hid, hrender, hlength, hown]

theorem id?_of_generatedId? (h : generatedId? r = some id) : r.id? = some id := by
  obtain ⟨fields, -, rfl, hid, -⟩ := generatedId?_eq_some_iff.mp h
  rw [Document.id?, Document.textAt?]
  exact congrArg (Option.bind · Document.text?) hid

/-- Generated ids have letters, digits and underscores only. -/
theorem isNameChar_of_generatedId? (h : generatedId? r = some id) {c : Char} (hc : c ∈ id.toList) :
    (c.isAlphanum || c = '_') = true := by
  obtain ⟨_, _, -, -, -, -, rfl⟩ := generatedId?_eq_some_iff.mp h
  rw [inlineId, String.toList_ofList] at hc
  exact (List.mem_filter.mp hc).2

theorem withId_of_generatedId? (h : generatedId? r = some id) : withId id r = r := by
  obtain ⟨fields, -, rfl, hid, -⟩ := generatedId?_eq_some_iff.mp h
  rw [withId, Fields.insert_of_get? hid]

theorem id?_withId (h : generatedId? r = some base) (id : String) : (withId id r).id? = some id := by
  obtain ⟨fields, -, rfl, -⟩ := generatedId?_eq_some_iff.mp h
  have hget : (withId id (.object fields)).get? "id" = some (.text id) := Fields.get?_insert_self fields "id" (.text id)
  rw [Document.id?, Document.textAt?, hget]
  rfl

theorem inlineIds_cons_of_none (h : generatedId? r = none) : inlineIds (r :: rest) = inlineIds rest :=
  List.filterMap_cons_none h

theorem inlineIds_cons_of_some (h : generatedId? r = some id) : inlineIds (r :: rest) = id :: inlineIds rest :=
  List.filterMap_cons_some h

theorem authoredIds_cons_of_some (h : generatedId? r = some id) : authoredIds (r :: rest) = authoredIds rest := by
  simp [authoredIds, h]

theorem mem_authoredIds_cons_of_none (h : generatedId? r = none) :
    id ∈ authoredIds (r :: rest) ↔ r.id? = some id ∨ id ∈ authoredIds rest := by
  have hcons : authoredIds (r :: rest) = r.id?.toList ++ authoredIds rest := by
    cases hid : r.id? <;> simp [authoredIds, h, hid]
  rw [hcons, List.mem_append, Option.mem_toList]

theorem exists_of_mem_authoredIds (h : id ∈ authoredIds renderings) : ∃ r ∈ renderings, r.id? = some id := by
  obtain ⟨r, hr, hid⟩ := List.mem_filterMap.mp h
  split at hid
  · cases hid
  · exact ⟨r, hr, hid⟩

/-! ## Renaming -/

/-- No generated id is there twice, and none is also the id of another rendering. -/
structure DistinctIds (renderings : List Document) : Prop where
  nodup : (inlineIds renderings).Nodup
  fresh : ∀ id ∈ inlineIds renderings, id ∉ authoredIds renderings

/-- What renaming gives where `used` has the ids of all renderings that are not generated. -/
structure Renamed (used : List String) (before after : List Document) : Prop extends DistinctIds after where
  unused : ∀ id ∈ inlineIds after, id ∉ used
  authored : ∀ id ∈ authoredIds after, id ∈ authoredIds before ∨ id ∉ used

theorem Renamed.nil (used : List String) : Renamed used [] [] := by
  refine ⟨⟨List.nodup_nil, ?_⟩, ?_, ?_⟩ <;> simp [inlineIds, authoredIds]

/-- A rendering in front whose id is not generated. -/
theorem Renamed.cons {after : List Document} (h : Renamed used rest after) (hr : generatedId? r = none)
    (hown : ∀ a, r.id? = some a → a ∈ used) : Renamed used (r :: rest) (r :: after) := by
  have hids : inlineIds (r :: after) = inlineIds after := inlineIds_cons_of_none hr
  refine ⟨⟨?_, ?_⟩, ?_, ?_⟩
  · rw [hids]
    exact h.nodup
  · rw [hids]
    intro a ha hmem
    rcases (mem_authoredIds_cons_of_none hr).mp hmem with he | hmem
    · exact h.unused a ha (hown a he)
    · exact h.fresh a ha hmem
  · rw [hids]
    exact h.unused
  · intro a ha
    rw [mem_authoredIds_cons_of_none hr]
    rcases (mem_authoredIds_cons_of_none hr).mp ha with he | hmem
    · exact .inl (.inl he)
    · exact (h.authored a hmem).imp_left .inr

theorem Renamed.mono {more : List String} {after : List Document} (h : Renamed (used ++ more) rest after) :
    Renamed used rest after := by
  refine ⟨h.toDistinctIds, fun a ha hmem => h.unused a ha (List.mem_append_left _ hmem), fun a ha => ?_⟩
  exact (h.authored a ha).imp_right fun hfree hmem => hfree (List.mem_append_left _ hmem)

theorem Renamed.ne_of_mem {after : List Document} (h : Renamed (used ++ [id]) rest after) {a : String}
    (ha : a ∈ inlineIds after) : a ≠ id := by
  rintro rfl
  exact h.unused a ha (List.mem_append_right _ (List.mem_singleton_self a))

theorem Renamed.not_mem_authored {after : List Document} (h : Renamed (used ++ [id]) rest after)
    (hused : ∀ a ∈ authoredIds rest, a ∈ used) (hid : id ∉ used) : id ∉ authoredIds after := by
  intro hmem
  rcases h.authored id hmem with hrest | hfree
  · exact hid (hused id hrest)
  · exact hfree (List.mem_append_right _ (List.mem_singleton_self id))

/-- A rendering with a new id in front, generated or not any more. -/
theorem Renamed.cons_withId {after : List Document} (h : Renamed (used ++ [id]) rest after)
    (hbase : generatedId? r = some base) (hused : ∀ a ∈ authoredIds rest, a ∈ used) (hid : id ∉ used) :
    Renamed used (r :: rest) (withId id r :: after) := by
  have hown := id?_withId hbase id
  have hbefore : authoredIds (r :: rest) = authoredIds rest := authoredIds_cons_of_some hbase
  cases hnew : generatedId? (withId id r) with
  | some id' =>
    obtain rfl : id' = id := Option.some.inj ((id?_of_generatedId? hnew).symm.trans hown)
    have hafter : authoredIds (withId id' r :: after) = authoredIds after := authoredIds_cons_of_some hnew
    have hids : inlineIds (withId id' r :: after) = id' :: inlineIds after := inlineIds_cons_of_some hnew
    refine ⟨⟨?_, ?_⟩, ?_, ?_⟩
    · rw [hids]
      exact List.nodup_cons.mpr ⟨fun hmem => h.ne_of_mem hmem rfl, h.nodup⟩
    · rw [hids, hafter]
      exact List.forall_mem_cons.mpr ⟨h.not_mem_authored hused hid, h.fresh⟩
    · rw [hids]
      exact List.forall_mem_cons.mpr ⟨hid, h.mono.unused⟩
    · rw [hafter, hbefore]
      exact h.mono.authored
  | none =>
    have hids : inlineIds (withId id r :: after) = inlineIds after := inlineIds_cons_of_none hnew
    refine ⟨⟨?_, ?_⟩, ?_, ?_⟩
    · rw [hids]
      exact h.nodup
    · rw [hids]
      intro a ha hmem
      rcases (mem_authoredIds_cons_of_none hnew).mp hmem with he | hmem
      · exact h.ne_of_mem ha (Option.some.inj (he.symm.trans hown))
      · exact h.fresh a ha hmem
    · rw [hids]
      exact h.mono.unused
    · rw [hbefore]
      intro a ha
      rcases (mem_authoredIds_cons_of_none hnew).mp ha with he | hmem
      · exact .inr (Option.some.inj (he.symm.trans hown) ▸ hid)
      · exact h.mono.authored a hmem

theorem renamed_renameFrom (hused : ∀ a ∈ authoredIds renderings, a ∈ used) :
    Renamed used renderings (renameFrom used renderings) := by
  induction renderings generalizing used with
  | nil => exact .nil used
  | cons r rest ih =>
    cases hr : generatedId? r with
    | none =>
      simp only [mem_authoredIds_cons_of_none hr] at hused
      have hrest := ih fun a ha => hused a (.inr ha)
      have hrename : renameFrom used (r :: rest) = r :: renameFrom used rest := by simp only [renameFrom, hr]
      rw [hrename]
      exact hrest.cons hr fun a ha => hused a (.inl ha)
    | some base =>
      rw [authoredIds_cons_of_some hr] at hused
      have hmore : ∀ a ∈ authoredIds rest, a ∈ used ++ [freeId used base] :=
        fun a ha => List.mem_append_left _ (hused a ha)
      have hrename : renameFrom used (r :: rest) =
          withId (freeId used base) r :: renameFrom (used ++ [freeId used base]) rest := by simp only [renameFrom, hr]
      rw [hrename]
      exact (ih hmore).cons_withId hr hused (freeId_not_mem used base)

theorem distinctIds_distinct (renderings : List Document) : DistinctIds (distinctIds renderings) :=
  (renamed_renameFrom fun _ ha => ha).toDistinctIds

theorem renameFrom_of_fresh (hnodup : (inlineIds renderings).Nodup) (hfresh : ∀ id ∈ inlineIds renderings, id ∉ used) :
    renameFrom used renderings = renderings := by
  induction renderings generalizing used with
  | nil => rfl
  | cons r rest ih =>
    cases hr : generatedId? r with
    | none =>
      rw [inlineIds_cons_of_none hr] at hnodup hfresh
      simp only [renameFrom, hr, ih hnodup hfresh]
    | some base =>
      rw [inlineIds_cons_of_some hr] at hnodup hfresh
      obtain ⟨hbase, hrest⟩ := List.forall_mem_cons.mp hfresh
      obtain ⟨hother, hnodup⟩ := List.nodup_cons.mp hnodup
      have hmore : ∀ id ∈ inlineIds rest, id ∉ used ++ [base] := by
        intro id hid
        have hne : id ≠ base := fun he => hother (he ▸ hid)
        simp [hrest id hid, hne]
      simp only [renameFrom, hr, freeId_of_not_mem hbase, withId_of_generatedId? hr, ih hnodup hmore]

/-- Distinct ids are kept. -/
theorem distinctIds_of_distinct (h : DistinctIds renderings) : distinctIds renderings = renderings :=
  renameFrom_of_fresh h.nodup h.fresh

/-! ## Lists with distinct ids -/

/-- One more rendering at the end, whose id is not a generated one before; nor is it, if generated, there at all. -/
theorem DistinctIds.append (h : DistinctIds renderings) (hid : ∀ id, r.id? = some id → id ∉ inlineIds renderings)
    (hown : ∀ id, generatedId? r = some id → id ∉ authoredIds renderings) : DistinctIds (renderings ++ [r]) := by
  have hids : inlineIds (renderings ++ [r]) = inlineIds renderings ++ inlineIds [r] := List.filterMap_append
  have hauthored : authoredIds (renderings ++ [r]) = authoredIds renderings ++ authoredIds [r] := List.filterMap_append
  cases hr : generatedId? r with
  | some id =>
    have hone : inlineIds [r] = [id] := inlineIds_cons_of_some hr
    have hnone : authoredIds [r] = [] := authoredIds_cons_of_some hr
    have hnew := hid id (id?_of_generatedId? hr)
    rw [hone] at hids
    rw [hnone, List.append_nil] at hauthored
    refine ⟨?_, ?_⟩
    · rw [hids]
      refine List.nodup_append.mpr ⟨h.nodup, List.nodup_singleton id, ?_⟩
      intro a ha b hb he
      rw [List.mem_singleton.mp hb] at he
      exact hnew (he ▸ ha)
    · rw [hids, hauthored]
      intro a ha
      rcases List.mem_append.mp ha with ha | ha
      · exact h.fresh a ha
      · rw [List.mem_singleton.mp ha]
        exact hown id hr
  | none =>
    have hnone : inlineIds [r] = [] := inlineIds_cons_of_none hr
    rw [hnone, List.append_nil] at hids
    refine ⟨?_, ?_⟩
    · rw [hids]
      exact h.nodup
    · rw [hids, hauthored]
      intro a ha hmem
      rcases List.mem_append.mp hmem with hmem | hmem
      · exact h.fresh a ha hmem
      · rcases (mem_authoredIds_cons_of_none hr).mp hmem with he | hmem
        · exact hid a he ha
        · cases hmem

/-- The same ids, except that one that is not generated may become a text that no rendering generates. -/
def SameIds (before after : Document) : Prop :=
  generatedId? after = generatedId? before ∧ (after.id? = before.id? ∨ ∃ id, after.id? = some id ∧ '\x7b' ∈ id.toList)

theorem inlineIds_of_sameIds {before after : List Document} (hsame : List.Forall₂ SameIds before after) :
    inlineIds after = inlineIds before := by
  induction hsame with
  | nil => rfl
  | @cons d e before after hd _ ih =>
    cases hids : generatedId? d with
    | none => rw [inlineIds_cons_of_none hids, inlineIds_cons_of_none (hd.1.trans hids), ih]
    | some id => rw [inlineIds_cons_of_some hids, inlineIds_cons_of_some (hd.1.trans hids), ih]

theorem mem_authoredIds_of_sameIds {before after : List Document} (hsame : List.Forall₂ SameIds before after)
    (h : id ∈ authoredIds after) : id ∈ authoredIds before ∨ '\x7b' ∈ id.toList := by
  induction hsame with
  | nil => cases h
  | @cons d e before after hd _ ih =>
    cases hids : generatedId? d with
    | none =>
      rw [mem_authoredIds_cons_of_none hids]
      rcases (mem_authoredIds_cons_of_none (hd.1.trans hids)).mp h with he | hmem
      · rcases hd.2 with hkept | ⟨text, htext, hbrace⟩
        · exact .inl (.inl (hkept ▸ he))
        · exact .inr (Option.some.inj (htext.symm.trans he) ▸ hbrace)
      · exact (ih hmem).imp_left .inr
    | some _ =>
      rw [authoredIds_cons_of_some hids]
      rw [authoredIds_cons_of_some (hd.1.trans hids)] at h
      exact ih h

theorem DistinctIds.of_sameIds {before after : List Document} (hsame : List.Forall₂ SameIds before after)
    (h : DistinctIds before) : DistinctIds after := by
  have hids := inlineIds_of_sameIds hsame
  refine ⟨hids ▸ h.nodup, ?_⟩
  intro id hid hmem
  obtain ⟨r, -, hr⟩ := List.mem_filterMap.mp hid
  rw [hids] at hid
  rcases mem_authoredIds_of_sameIds hsame hmem with hmem | hbrace
  · exact h.fresh id hid hmem
  · exact absurd (isNameChar_of_generatedId? hr hbrace) (by decide)

end MapTheme.Rendering
