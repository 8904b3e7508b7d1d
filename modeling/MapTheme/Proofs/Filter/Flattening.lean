/-
  MapTheme.Proofs.Filter.Flattening — one answer for several.

  What the answers write is collected by key: the values in the order in which they are written, each once, an empty
  one not at all (`foldl_addValue`). The answer for all of them has one tag for each key, in the order of keys, with
  these values joined (`flatten_eq`). It writes its own tags and nothing else, so it is the answer for itself
  (`flatten_tags`). There is one exactly if all the answers can be written (`flatten_collects`).
-/

import MapTheme.Proofs.Filter.Answer
import MapTheme.Proofs.Library.Publicity
import Mathlib.Data.List.Induction

namespace MapTheme.Filter

variable {answers : List Filter} {written : Change} {keys : List String} {key value : String}

/-! ## What answers write -/

/-- The answers one by one write what they write together. -/
theorem changeOfEach_eq_ok_iff {existing : Properties} : changeOfEach existing answers = .ok written ↔
    ∃ changes, List.Forall₂ (fun f change => f.change existing = .ok change) answers changes ∧
      written = changes.flatten := by
  induction answers generalizing written with
  | nil =>
    constructor
    · intro h
      cases h
      exact ⟨[], .nil, rfl⟩
    · rintro ⟨_, ⟨⟩, rfl⟩
      rfl
  | cons f rest ih =>
    rw [changeOfEach]
    constructor
    · intro h
      obtain ⟨change, hchange, h⟩ := ok_of_bind h
      obtain ⟨more, hmore, h⟩ := ok_of_bind h
      obtain ⟨changes, hchanges, rfl⟩ := ih.mp hmore
      cases h
      exact ⟨change :: changes, .cons hchange hchanges, rfl⟩
    · rintro ⟨_, hchanges, rfl⟩
      cases hchanges with
      | cons hchange hrest =>
        rw [hchange, ih.mpr ⟨_, hrest, rfl⟩]
        rfl

theorem allUsable_eq (fs : List Filter) : allUsable fs = fs.all isUsable := by
  induction fs with
  | nil => rfl
  | cons f rest ih => rw [allUsable, ih, List.all_cons]

/-! ## Values by key -/

/-- The values written for a key, in the order in which they are, each once; an empty value is none. -/
def valuesOf (key : String) (written : Change) : List String :=
  (((written.filter (·.1 == key)).map (·.2)).filter (!·.isEmpty)).eraseDups

/-- One more value behind those of a key. -/
def withValue (values : List String) (value : String) : List String :=
  if value.isEmpty || values.contains value then values else values ++ [value]

theorem eraseDups_append_singleton {α : Type} [DecidableEq α] (as : List α) (a : α) :
    (as ++ [a]).eraseDups = if a ∈ as then as.eraseDups else as.eraseDups ++ [a] := by
  rw [List.eraseDups_append]
  by_cases ha : a ∈ as <;> simp [List.removeAll, List.eraseDups_cons, ha]

theorem valuesOf_append (key : String) (written : Change) (k v : String) : valuesOf key (written ++ [(k, v)]) =
    if k = key then withValue (valuesOf key written) v else valuesOf key written := by
  unfold valuesOf
  rw [List.filter_append, List.map_append, List.filter_append]
  by_cases hk : k = key
  · by_cases hv : v.isEmpty = true
    · simp [hk, hv, withValue]
    · simp [hk, hv, withValue, eraseDups_append_singleton]
  · simp [hk]

theorem addValue_map (hkeys : keys.Nodup) (values : String → List String) (k v : String) :
    addValue (keys.map fun key => (key, values key)) (k, v) =
      (keys.map fun key => (key, if k = key then withValue (values key) v else values key)) ++
        if k ∈ keys then [] else [(k, withValue [] v)] := by
  induction keys with
  | nil => simp [addValue, withValue]
  | cons first rest ih =>
    obtain ⟨hnew, hrest⟩ := List.nodup_cons.mp hkeys
    rw [List.map_cons, addValue]
    by_cases hk : k = first
    · subst hk
      have hothers : (rest.map fun key => (key, if k = key then withValue (values key) v else values key)) =
          rest.map fun key => (key, values key) := by
        refine List.map_congr_left fun key hkey => ?_
        have hne : k ≠ key := fun he => hnew (he ▸ hkey)
        rw [if_neg hne]
      rw [if_pos rfl, List.map_cons, if_pos rfl, hothers, if_pos List.mem_cons_self, List.append_nil, withValue]
    · rw [if_neg (Ne.symm hk), ih hrest]
      simp [hk]

/-- The keys that are written, with their values. -/
def grouped (written : Change) : List (String × List String) :=
  (written.map (·.1)).eraseDups.map fun key => (key, valuesOf key written)

/-- Values are added one by one, the last one last. -/
theorem foldl_addValue (written : Change) : written.foldl addValue [] = grouped written := by
  induction written using List.reverseRecOn with
  | nil => rfl
  | append_singleton written pair ih =>
    obtain ⟨k, v⟩ := pair
    rw [List.foldl_concat, ih, grouped, addValue_map (Rendering.nodup_eraseDups _), grouped, List.map_append,
      List.map_singleton, eraseDups_append_singleton]
    simp only [valuesOf_append, List.mem_eraseDups]
    split
    · rw [List.append_nil]
    · rename_i hnew
      have hnone : valuesOf k written = [] := by
        have hfilter : written.filter (·.1 == k) = [] := by
          rw [List.filter_eq_nil_iff]
          intro pair hpair he
          exact hnew (List.mem_map.mpr ⟨pair, hpair, beq_iff_eq.mp he⟩)
        rw [valuesOf, hfilter]
        rfl
      rw [List.map_append, List.map_singleton, if_pos rfl, hnone]

/-! ## Keys in order -/

def sortedKeys (written : Change) : List String := (written.map (·.1)).eraseDups.mergeSort (· ≤ ·)

theorem mem_sortedKeys : key ∈ sortedKeys written ↔ ∃ value, (key, value) ∈ written := by
  simp [sortedKeys]

theorem pairwise_sortedKeys (written : Change) : (sortedKeys written).Pairwise (· < ·) := by
  have hsorted : (sortedKeys written).Pairwise fun a b => decide (a ≤ b) = true :=
    List.pairwise_mergeSort (fun a b c => by simpa using le_trans) (fun a b => by simpa using le_total a b) _
  have hnodup : (sortedKeys written).Nodup := (List.mergeSort_perm _ _).nodup_iff.mpr (Rendering.nodup_eraseDups _)
  exact hsorted.imp₂ (fun a b hle hne => lt_of_le_of_ne (of_decide_eq_true hle) hne) hnodup

/-- The keys that are written, each once and in order, are all there is to it. -/
theorem sortedKeys_eq (hkeys : keys.Pairwise (· < ·)) (h : ∀ key, key ∈ keys ↔ ∃ value, (key, value) ∈ written) :
    sortedKeys written = keys := by
  have hperm : (sortedKeys written).Perm keys :=
    (List.perm_ext_iff_of_nodup ((pairwise_sortedKeys written).imp ne_of_lt) (hkeys.imp ne_of_lt)).mpr fun key => by
      rw [mem_sortedKeys, h]
  exact hperm.eq_of_pairwise (fun _ _ _ _ hab hba => absurd (hab.trans hba) (lt_irrefl _)) (pairwise_sortedKeys written)
    hkeys

theorem splitKeys_eq (h : changeOfEach .empty answers = .ok written) :
    splitKeys answers = .ok ((sortedKeys written).map fun key => (key, valuesOf key written)) := by
  have hsort : (grouped written).mergeSort (fun a b => a.1 ≤ b.1) =
      (sortedKeys written).map fun key => (key, valuesOf key written) := by
    rw [sortedKeys, grouped, List.map_mergeSort (s := fun a b : String × List String => a.1 ≤ b.1)]
    intros
    rfl
  rw [splitKeys, h]
  show Except.ok ((written.foldl addValue []).mergeSort fun a b => a.1 ≤ b.1) = _
  rw [foldl_addValue, hsort]

/-- One tag for each key, its value made of the values of the key. -/
theorem flatten_eq (h : changeOfEach .empty answers = .ok written) :
    flatten answers =
      .ok (and ((sortedKeys written).map fun key => tag key (Text.joinWith ";" (valuesOf key written)))) := by
  rw [flatten, splitKeys_eq h]
  simp only [bind, Except.bind, List.map_map]
  rfl

/-! ## Answers in order -/

theorem changeOfEach_tags (existing : Properties) (value : String → String) (keys : List String) :
    changeOfEach existing (keys.map fun key => tag key (value key)) = .ok (keys.map fun key => (key, value key)) := by
  induction keys with
  | nil => rfl
  | cons key rest ih =>
    rw [List.map_cons, changeOfEach, ih]
    rfl

theorem valuesOf_map (hkeys : keys.Nodup) (value : String → String) (hkey : key ∈ keys) :
    valuesOf key (keys.map fun key => (key, value key)) = if (value key).isEmpty then [] else [value key] := by
  have hone : (keys.map fun key => (key, value key)).filter (·.1 == key) = [(key, value key)] := by
    rw [List.filter_map]
    have hfilter : keys.filter ((·.1 == key) ∘ fun key => (key, value key)) = [key] := by
      show keys.filter (· == key) = [key]
      rw [List.filter_beq, List.count_eq_one_of_mem hkeys hkey, List.replicate_one]
    rw [hfilter]
    rfl
  rw [valuesOf, hone]
  cases hvalue : (value key).isEmpty <;> simp [hvalue, List.eraseDups_cons]

/-- Tags in the order of their keys are the answer for themselves. -/
theorem flatten_tags (hkeys : keys.Pairwise (· < ·)) (value : String → String) :
    flatten [and (keys.map fun key => tag key (value key))] = .ok (and (keys.map fun key => tag key (value key))) := by
  have hnodup : keys.Nodup := hkeys.imp ne_of_lt
  have hwritten : changeOfEach .empty [and (keys.map fun key => tag key (value key))] =
      .ok (keys.map fun key => (key, value key)) := by
    rw [changeOfEach, change, changeOfEach_tags]
    simp [bind, Except.bind, changeOfEach]
  have hsorted : sortedKeys (keys.map fun key => (key, value key)) = keys := sortedKeys_eq hkeys (by simp)
  rw [flatten_eq hwritten, hsorted]
  refine congrArg (Except.ok ∘ and) (List.map_congr_left fun key hkey => ?_)
  rw [valuesOf_map hnodup value hkey]
  split
  · rename_i hempty
    rw [String.isEmpty_iff.mp hempty]
    rfl
  · rfl

/-- There is one answer for several exactly if each of them can be written. It has a tag for each key that they write,
in the order of keys, of all the values for the key, joined in the order in which they are written. It can be written
itself, and is the answer for itself. -/
theorem flatten_collects (answers : List Filter) :
    ((∃ g, flatten answers = .ok g) ↔ ∀ f ∈ answers, f.isUsable = true) ∧
    ∀ g, flatten answers = .ok g → ∃ (changes : List Change) (keys : List String),
      List.Forall₂ (fun f change => f.change .empty = .ok change) answers changes ∧
      keys.Pairwise (· < ·) ∧ (∀ key, key ∈ keys ↔ ∃ value, (key, value) ∈ changes.flatten) ∧
      g = and (keys.map fun key => tag key (Text.joinWith ";" (valuesOf key changes.flatten))) ∧
      g.isUsable = true ∧ flatten [g] = .ok g := by
  have hok : (∃ written, changeOfEach .empty answers = .ok written) ↔ ∀ f ∈ answers, f.isUsable = true := by
    rw [exists_ok_iff_isOk, isOk_changeOfEach, allUsable_eq, List.all_eq_true]
  have hfail : ∀ {g}, flatten answers = .ok g → ∃ written, changeOfEach .empty answers = .ok written := by
    intro g hg
    obtain ⟨groups, hgroups, -⟩ := ok_of_bind hg
    obtain ⟨written, hwritten, -⟩ := ok_of_bind hgroups
    exact ⟨written, hwritten⟩
  refine ⟨⟨fun ⟨g, hg⟩ => hok.mp (hfail hg), fun h => ?_⟩, fun g hg => ?_⟩
  · obtain ⟨written, hwritten⟩ := hok.mpr h
    exact ⟨_, flatten_eq hwritten⟩
  · obtain ⟨written, hwritten⟩ := hfail hg
    obtain ⟨changes, hchanges, rfl⟩ := changeOfEach_eq_ok_iff.mp hwritten
    rw [flatten_eq hwritten] at hg
    cases hg
    have hkeys := pairwise_sortedKeys changes.flatten
    refine ⟨changes, _, hchanges, hkeys, fun key => mem_sortedKeys, rfl, ?_, flatten_tags hkeys _⟩
    simp [isUsable, allUsable_eq, tag, Leaf.isUsable]

/-- Three answers, of which one is a conjunction that also removes a name. -/
def menu : List Filter :=
  [tag "diet:vegan" "yes", or [tag "cuisine" "pizza"],
    and [leaf (.regex (.exact "cuisine") (.exact "pasta") false), tag "name" "", and [tag "cuisine" "pizza"]]]

def menuAnswer : Filter := and [tag "cuisine" "pizza;pasta", tag "diet:vegan" "yes", tag "name" ""]

theorem flatten_collects_menu : (∀ f ∈ menu, f.isUsable = true) ∧ flatten menu = .ok menuAnswer ∧
    menuAnswer.isUsable = true ∧ flatten [menuAnswer] = .ok menuAnswer := by
  have husable : ∀ f ∈ menu, f.isUsable = true := by
    simp [menu, isUsable, allUsable, tag, Leaf.isUsable, Matcher.isExact]
  have hanswer : flatten menu = .ok menuAnswer := by
    have hwritten : changeOfEach .empty menu = .ok [("diet:vegan", "yes"), ("cuisine", "pizza"), ("cuisine", "pasta"),
      ("name", ""), ("cuisine", "pizza")] := rfl
    have hkeys : sortedKeys [("diet:vegan", "yes"), ("cuisine", "pizza"), ("cuisine", "pasta"), ("name", ""),
      ("cuisine", "pizza")] = ["cuisine", "diet:vegan", "name"] := by
      refine sortedKeys_eq (by decide) fun key => ?_
      grind -ring -linarith
    rw [flatten_eq hwritten, hkeys]
    rfl
  obtain ⟨_, _, -, -, -, -, hwritten, hagain⟩ := (flatten_collects menu).2 menuAnswer hanswer
  exact ⟨husable, hanswer, hwritten, hagain⟩

end MapTheme.Filter
