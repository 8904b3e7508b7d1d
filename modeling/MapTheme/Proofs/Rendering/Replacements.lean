/-
  MapTheme.Proofs.Rendering.Replacements — several source strings replaced in a document, one after the other.

  The order does not matter for replacements that do not get in each other's way (`replacePairs_perm`). No source
  string is inside what is put in for another one (`Replaceable`); where one stands in a text or a key, as a part of
  it, no other one begins inside it or shares something with what is put in; and no two keys of an object become one
  (`isUnmixed`). Then a text that is a source string becomes the document for it and stays that
  (`replacePairs_source`), and in any other text the replacements come to all of them at once
  (`replaced_replacePairsInText`), in which there is no order.
-/

import MapTheme.Proofs.Rendering.Distinct
import MapTheme.Proofs.Text.Replacement

namespace MapTheme.Rendering

variable {source s : String} {r d : Document} {pairs others : List (String × Document)}

/-! ## One source string -/

mutual

/-- Is the source string in a text or a key inside the document? -/
def mentions (source : String) : Document → Bool
  | .text s => Text.contains source.toList s.toList
  | .list items => mentionsInItems source items
  | .object fields => mentionsInFields source fields
  | _ => false

def mentionsInItems (source : String) : List Document → Bool
  | [] => false
  | d :: rest => mentions source d || mentionsInItems source rest

def mentionsInFields (source : String) : List (String × Document) → Bool
  | [] => false
  | (k, d) :: rest =>
    Text.contains source.toList k.toList || mentions source d || mentionsInFields source rest

end

theorem replaceInText_of_not_contains (h : Text.contains source.toList s.toList = false) (r : Document) :
    replaceInText source r s = s := by
  cases r with
  | text t =>
    rw [replaceInText, Text.replace, Text.replaceFrom_of_not_infix, String.ofList_toList]
    rw [← Text.contains_iff, h]
    exact Bool.false_ne_true
  | _ => rfl

theorem keys_replaceInFields (source : String) (r : Document) (fields : List (String × Document)) :
    Fields.keys (replaceInFields source r fields) = (Fields.keys fields).map (replaceInText source r) := by
  induction fields with
  | nil => rfl
  | cons f rest ih => exact congrArg (replaceInText source r f.1 :: ·) ih

mutual

/-- What does not mention the source string stays as it is. -/
theorem replaceIn_of_not_mentions : ∀ {d : Document}, mentions source d = false → d.Distinct →
    ∀ r, replaceIn source r d = d
  | .text s, h, _, r => by
    have hne : s ≠ source := by
      intro he
      rw [he, mentions, Bool.eq_false_iff, ne_eq, Text.contains_iff] at h
      exact h (List.infix_refl _)
    rw [replaceIn, if_neg hne, replaceInText_of_not_contains h]
  | .list items, h, hd, r => by
    rw [replaceIn, replaceInItems_of_not_mentions h (Document.distinct_list.mp hd)]
  | .object fields, h, hd, r => by
    have hfields := Document.distinct_object.mp hd
    rw [replaceIn, replaceInFields_of_not_mentions h hfields.2, Fields.ofList_of_nodup_keys hfields.1]
  | .null, _, _, _ | .bool _, _, _, _ | .number _, _, _, _ => rfl

theorem replaceInItems_of_not_mentions : ∀ {items : List Document}, mentionsInItems source items = false →
    (∀ d ∈ items, d.Distinct) → ∀ r, replaceInItems source r items = items
  | [], _, _, _ => rfl
  | d :: rest, h, hd, r => by
    rw [mentionsInItems, Bool.or_eq_false_iff] at h
    rw [List.forall_mem_cons] at hd
    rw [replaceInItems, replaceIn_of_not_mentions h.1 hd.1, replaceInItems_of_not_mentions h.2 hd.2]

theorem replaceInFields_of_not_mentions : ∀ {fields : List (String × Document)},
    mentionsInFields source fields = false → (∀ f ∈ fields, f.2.Distinct) →
      ∀ r, replaceInFields source r fields = fields
  | [], _, _, _ => rfl
  | (k, d) :: rest, h, hd, r => by
    rw [mentionsInFields, Bool.or_eq_false_iff, Bool.or_eq_false_iff] at h
    rw [List.forall_mem_cons] at hd
    rw [replaceInFields, replaceInText_of_not_contains h.1.1, replaceIn_of_not_mentions h.1.2 hd.1,
      replaceInFields_of_not_mentions h.2 hd.2]

end

/-! ## Several source strings -/

/-- Source strings and what is put in for them, in this order. -/
def replacePairs (pairs : List (String × Document)) (d : Document) : Document :=
  pairs.foldl (fun d p => replaceIn p.1 p.2 d) d

def replacePairsInText (pairs : List (String × Document)) (s : String) : String :=
  pairs.foldl (fun s p => replaceInText p.1 p.2 s) s

/-- The pairs that count inside longer texts. -/
def textPairs (pairs : List (String × Document)) : List (List Char × List Char) :=
  pairs.filterMap fun p => p.2.text?.map fun r => (p.1.toList, r.toList)

def isSource (pairs : List (String × Document)) (s : String) : Bool := pairs.any (·.1 == s)

/-- Where a source string stands in the text, no other one begins inside it, and what is put in for it shares
nothing with another one. -/
def isClear (pairs : List (String × Document)) (s : String) : Bool :=
  (textPairs pairs).all fun q => !Text.contains q.1 s.toList ||
    pairs.all fun p => p.1.toList == q.1 || !Text.beginsInside p.1.toList q.1 s.toList && !Text.meets p.1.toList q.2

theorem isClear_iff : isClear pairs s = true ↔ ∀ q ∈ textPairs pairs, q.1 <:+: s.toList → ∀ p ∈ pairs,
    p.1.toList ≠ q.1 → Text.beginsInside p.1.toList q.1 s.toList = false ∧ Text.meets p.1.toList q.2 = false := by
  simp only [isClear, List.all_eq_true, Bool.or_eq_true, beq_iff_eq, Bool.not_eq_true', or_iff_not_imp_left, ne_eq,
    Bool.and_eq_true, Bool.not_eq_false, Text.contains_iff]

theorem mem_textPairs {p : List Char × List Char} (h : p ∈ textPairs pairs) :
    ∃ q ∈ pairs, ∃ r, q.2 = .text r ∧ q.1.toList = p.1 ∧ r.toList = p.2 := by
  obtain ⟨q, hq, hp⟩ := List.mem_filterMap.mp h
  obtain ⟨r, hr, rfl⟩ := Option.map_eq_some_iff.mp hp
  cases hd : q.2 <;> rw [hd] at hr <;> cases hr
  exact ⟨q, hq, r, hd, rfl, rfl⟩

/-- Replacements that do not get in each other's way, whatever they are put into. -/
structure Replaceable (pairs : List (String × Document)) : Prop where
  nodup : (pairs.map Prod.fst).Nodup
  nonempty : ∀ p ∈ pairs, p.1 ≠ ""
  apart : ∀ p ∈ pairs, ∀ q ∈ pairs, p.1 ≠ q.1 → Text.contains p.1.toList q.1.toList = false
  distinct : ∀ p ∈ pairs, p.2.Distinct
  unmentioned : ∀ p ∈ pairs, ∀ q ∈ pairs, p.1 ≠ q.1 → mentions p.1 q.2 = false

namespace Replaceable

theorem perm (h : Replaceable pairs) (hperm : pairs.Perm others) : Replaceable others where
  nodup := (hperm.map Prod.fst).nodup_iff.mp h.nodup
  nonempty p hp := h.nonempty p (hperm.mem_iff.mpr hp)
  apart p hp q hq := h.apart p (hperm.mem_iff.mpr hp) q (hperm.mem_iff.mpr hq)
  distinct p hp := h.distinct p (hperm.mem_iff.mpr hp)
  unmentioned p hp q hq := h.unmentioned p (hperm.mem_iff.mpr hp) q (hperm.mem_iff.mpr hq)

theorem sublist (h : Replaceable pairs) (hsub : others.Sublist pairs) : Replaceable others where
  nodup := h.nodup.sublist (hsub.map Prod.fst)
  nonempty p hp := h.nonempty p (hsub.subset hp)
  apart p hp q hq := h.apart p (hsub.subset hp) q (hsub.subset hq)
  distinct p hp := h.distinct p (hsub.subset hp)
  unmentioned p hp q hq := h.unmentioned p (hsub.subset hp) q (hsub.subset hq)

variable {p : String × Document}

theorem ne_of_mem (h : Replaceable (pairs ++ [p])) {q : String × Document} (hq : q ∈ pairs) : q.1 ≠ p.1 := by
  have hnodup := h.nodup
  rw [List.map_append, List.nodup_append] at hnodup
  exact hnodup.2.2 q.1 (List.mem_map_of_mem hq) p.1 List.mem_cons_self

theorem toList_ne_nil (h : Replaceable pairs) {p : String × Document} (hp : p ∈ pairs) : p.1.toList ≠ [] :=
  fun he => h.nonempty p hp (String.toList_eq_nil_iff.mp he)

theorem textPairs_ne_nil (h : Replaceable pairs) : ∀ q ∈ textPairs pairs, q.1 ≠ [] := by
  intro q hq
  obtain ⟨p, hp, -, -, he, -⟩ := mem_textPairs hq
  exact he ▸ h.toList_ne_nil hp

/-- Of two source strings none begins with the other. -/
theorem eq_of_begins (h : Replaceable pairs) : ∀ p ∈ textPairs pairs, ∀ q ∈ textPairs pairs, p.1 <+: q.1 → p = q := by
  intro p hp q hq hprefix
  obtain ⟨a, ha, x, hx, hpa, hpx⟩ := mem_textPairs hp
  obtain ⟨b, hb, y, hy, hqb, hqy⟩ := mem_textPairs hq
  by_cases hne : a.1 = b.1
  · have hab : a = b := List.inj_on_of_nodup_map h.nodup ha hb hne
    subst hab
    have hxy : x = y := Document.text.inj (hx.symm.trans hy)
    exact Prod.ext (hpa.symm.trans hqb) (hpx ▸ hxy ▸ hqy)
  · have hno := h.apart a ha b hb hne
    rw [Bool.eq_false_iff, ne_eq, Text.contains_iff, hpa, hqb] at hno
    exact absurd hprefix.isInfix hno

end Replaceable

/-! ## Texts -/

theorem replacePairsInText_append (pairs others : List (String × Document)) (s : String) :
    replacePairsInText (pairs ++ others) s = replacePairsInText others (replacePairsInText pairs s) := List.foldl_append

theorem textPairs_append (pairs others : List (String × Document)) :
    textPairs (pairs ++ others) = textPairs pairs ++ textPairs others := List.filterMap_append

theorem textPairs_perm (hperm : pairs.Perm others) : (textPairs pairs).Perm (textPairs others) := hperm.filterMap _

theorem isClear_of_append {p : String × Document} (h : isClear (pairs ++ [p]) s = true) : isClear pairs s = true := by
  rw [isClear_iff, textPairs_append] at h
  exact isClear_iff.mpr fun q hq hin a ha => h q (List.mem_append_left _ hq) hin a (List.mem_append_left _ ha)

theorem isClear_perm (hperm : pairs.Perm others) (h : isClear pairs s = true) : isClear others s = true := by
  rw [isClear_iff] at h ⊢
  intro q hq hin p hp
  exact h q ((textPairs_perm hperm).mem_iff.mpr hq) hin p (hperm.mem_iff.mpr hp)

/-- The texts put in before share nothing with the next source string. -/
theorem Replaceable.not_meets {p : String × Document} (h : Replaceable (pairs ++ [p]))
    (hclear : isClear (pairs ++ [p]) s = true) : ∀ q ∈ textPairs pairs, q.1 <:+: s.toList →
      Text.meets p.1.toList q.2 = false := by
  intro q hq hin
  obtain ⟨a, ha, -, -, he, -⟩ := mem_textPairs hq
  have hne : p.1.toList ≠ q.1 := he ▸ fun hsame => h.ne_of_mem ha (String.toList_inj.mp hsame.symm)
  rw [isClear_iff, textPairs_append] at hclear
  exact (hclear q (List.mem_append_left _ hq) hin p List.mem_concat_self hne).2

theorem Replaceable.not_beginsInside {p : String × Document} (h : Replaceable (pairs ++ [p]))
    (hclear : isClear (pairs ++ [p]) s = true) : ∀ q ∈ textPairs pairs, ∀ a ∈ textPairs [p],
      Text.beginsInside q.1 a.1 s.toList = false := by
  intro q hq a ha
  by_cases hin : a.1 <:+: s.toList
  · obtain ⟨b, hb, -, -, hbq, -⟩ := mem_textPairs hq
    obtain ⟨c, hc, -, -, hca, -⟩ := mem_textPairs ha
    rw [List.mem_singleton.mp hc] at hca
    have hne : b.1.toList ≠ a.1 := hca ▸ fun hsame => h.ne_of_mem hb (String.toList_inj.mp hsame)
    rw [isClear_iff, textPairs_append] at hclear
    exact hbq ▸ (hclear a (List.mem_append_right _ ha) hin b (List.mem_append_left _ hb) hne).1
  · exact Text.beginsInside_of_not_infix hin

/-- One after the other comes to all at once. By induction on the last replacement: those before it put in nothing
that it could meet, and none of their source strings begins where its own stands. -/
theorem replaced_replacePairsInText (h : Replaceable pairs) (hclear : isClear pairs s = true) :
    Text.Replaced (textPairs pairs) s.toList (replacePairsInText pairs s).toList := by
  induction pairs using List.reverseRecOn with
  | nil => exact .refl _
  | append_singleton pairs p ih =>
    have hbefore := h.sublist (List.sublist_append_left pairs [p])
    have hdone := ih hbefore (isClear_of_append hclear)
    have hsource := h.toList_ne_nil List.mem_concat_self
    have hmeets := h.not_meets hclear
    have hinside := h.not_beginsInside hclear
    rw [replacePairsInText_append, textPairs_append]
    obtain ⟨source, replacement⟩ := p
    cases replacement with
    | text r =>
      show Text.Replaced (textPairs pairs ++ [(source.toList, r.toList)]) s.toList
        (Text.replace source r (replacePairsInText pairs s)).toList
      rw [Text.replace, String.toList_ofList]
      have hlast : (source.toList, r.toList) ∈ textPairs [(source, .text r)] := List.mem_singleton_self _
      exact hdone.and_then hbefore.textPairs_ne_nil hsource hmeets (fun q hq => hinside q hq _ hlast) r.toList
    | null | bool | number | list | object =>
      show Text.Replaced (textPairs pairs ++ []) s.toList (replacePairsInText pairs s).toList
      rwa [List.append_nil]

theorem replacePairsInText_of_not_contains (h : ∀ p ∈ pairs, Text.contains p.1.toList s.toList = false) :
    replacePairsInText pairs s = s := by
  induction pairs with
  | nil => rfl
  | cons p rest ih =>
    rw [List.forall_mem_cons] at h
    rw [replacePairsInText, List.foldl_cons, replaceInText_of_not_contains h.1, ← replacePairsInText, ih h.2]

/-- No other source string is in what becomes of one. -/
theorem Replaceable.not_contains (h : Replaceable pairs) {p q : String × Document} (hp : p ∈ pairs) (hq : q ∈ pairs)
    (hne : q.1 ≠ p.1) : Text.contains q.1.toList (replaceInText p.1 p.2 p.1).toList = false := by
  cases hr : p.2 with
  | text r =>
    rw [replaceInText, Text.replace, Text.replaceFrom_self (h.toList_ne_nil hp), String.ofList_toList]
    have hno := h.unmentioned q hq p hp hne
    rwa [hr] at hno
  | null | bool | number | list | object => exact h.apart q hq p hp hne

theorem replacePairsInText_source (h : Replaceable pairs) {p : String × Document} (hp : p ∈ pairs) :
    replacePairsInText pairs p.1 = replaceInText p.1 p.2 p.1 := by
  induction pairs using List.reverseRecOn with
  | nil => cases hp
  | append_singleton pairs last ih =>
    have hlast := List.mem_append_right pairs (List.mem_singleton_self last)
    rw [replacePairsInText_append]
    rcases List.mem_append.mp hp with hbefore | hnow
    · rw [ih (h.sublist (List.sublist_append_left pairs [last])) hbefore]
      exact replaceInText_of_not_contains (h.not_contains hp hlast (h.ne_of_mem hbefore).symm) last.2
    · have hkept : replacePairsInText pairs last.1 = last.1 := replacePairsInText_of_not_contains fun q hq =>
        h.apart q (List.mem_append_left _ hq) last hlast (h.ne_of_mem hq)
      rw [List.mem_singleton.mp hnow, hkept]
      rfl

/-- The text is a source string, or the replacements do not get in each other's way there. -/
def isUnmixedText (pairs : List (String × Document)) (s : String) : Bool := isSource pairs s || isClear pairs s

theorem isSource_iff : isSource pairs s = true ↔ ∃ p ∈ pairs, p.1 = s := by
  simp only [isSource, List.any_eq_true, beq_iff_eq]

theorem replacePairsInText_perm (h : Replaceable pairs) (hperm : pairs.Perm others) (hs : isUnmixedText pairs s = true) :
    replacePairsInText others s = replacePairsInText pairs s := by
  rcases Bool.or_eq_true_iff.mp hs with hsource | hclear
  · obtain ⟨p, hp, rfl⟩ := isSource_iff.mp hsource
    rw [replacePairsInText_source h hp, replacePairsInText_source (h.perm hperm) (hperm.mem_iff.mp hp)]
  · have hone := replaced_replacePairsInText h hclear
    have hother := replaced_replacePairsInText (h.perm hperm) (isClear_perm hperm hclear)
    have hback := hother.congr fun p => (textPairs_perm hperm.symm).mem_iff
    exact String.toList_inj.mp (hone.unique h.textPairs_ne_nil h.eq_of_begins hback)

/-! ## Documents -/

theorem replacePairs_append (pairs others : List (String × Document)) (d : Document) :
    replacePairs (pairs ++ others) d = replacePairs others (replacePairs pairs d) := List.foldl_append

theorem replacePairs_of_not_mentions (h : ∀ p ∈ pairs, mentions p.1 d = false) (hd : d.Distinct) :
    replacePairs pairs d = d := by
  induction pairs with
  | nil => rfl
  | cons p rest ih =>
    rw [List.forall_mem_cons] at h
    rw [replacePairs, List.foldl_cons, replaceIn_of_not_mentions h.1 hd, ← replacePairs, ih h.2]

/-- A text that is a source string becomes the document for it, which no other replacement touches. -/
theorem replacePairs_source (h : Replaceable pairs) {p : String × Document} (hp : p ∈ pairs) :
    replacePairs pairs (.text p.1) = p.2 := by
  induction pairs using List.reverseRecOn with
  | nil => cases hp
  | append_singleton pairs last ih =>
    have hlast := List.mem_append_right pairs (List.mem_singleton_self last)
    rw [replacePairs_append]
    rcases List.mem_append.mp hp with hbefore | hnow
    · rw [ih (h.sublist (List.sublist_append_left pairs [last])) hbefore]
      have hno := h.unmentioned last hlast p hp (h.ne_of_mem hbefore).symm
      exact replaceIn_of_not_mentions hno (h.distinct p hp) last.2
    · rw [List.mem_singleton.mp hnow, replacePairs_of_not_mentions _ (Document.distinct_text last.1)]
      · exact if_pos rfl
      · intro q hq
        exact h.apart q (List.mem_append_left _ hq) last hlast (h.ne_of_mem hq)

/-- A text that is no source string does not become one. -/
theorem replacePairs_text (h : Replaceable pairs) (hclear : isClear pairs s = true) (hs : ∀ p ∈ pairs, p.1 ≠ s) :
    replacePairs pairs (.text s) = .text (replacePairsInText pairs s) := by
  induction pairs using List.reverseRecOn with
  | nil => rfl
  | append_singleton pairs last ih =>
    have hbefore := h.sublist (List.sublist_append_left pairs [last])
    have hclearBefore := isClear_of_append hclear
    have hne : replacePairsInText pairs s ≠ last.1 := by
      intro he
      have hreplaced := replaced_replacePairsInText hbefore hclearBefore
      rw [he] at hreplaced
      have hsame := hreplaced.eq_of_old (h.not_meets hclear) (h.toList_ne_nil List.mem_concat_self)
      exact hs last List.mem_concat_self (String.toList_inj.mp hsame).symm
    rw [replacePairs_append, ih hbefore hclearBefore fun p hp => hs p (List.mem_append_left _ hp),
      replacePairsInText_append]
    exact if_neg hne

theorem replaceInItems_eq_map (source : String) (r : Document) (items : List Document) :
    replaceInItems source r items = items.map (replaceIn source r) := by
  induction items with
  | nil => rfl
  | cons d rest ih => rw [replaceInItems, ih, List.map_cons]

theorem replaceInFields_eq_map (source : String) (r : Document) (fields : List (String × Document)) :
    replaceInFields source r fields = fields.map fun f => (replaceInText source r f.1, replaceIn source r f.2) := by
  induction fields with
  | nil => rfl
  | cons f rest ih => rw [replaceInFields, ih, List.map_cons]

theorem replacePairs_list (pairs : List (String × Document)) (items : List Document) :
    replacePairs pairs (.list items) = .list (items.map (replacePairs pairs)) := by
  induction pairs generalizing items with
  | nil => exact congrArg Document.list (List.map_id items).symm
  | cons p rest ih =>
    rw [replacePairs, List.foldl_cons, ← replacePairs, replaceIn, ih, replaceInItems_eq_map, List.map_map]
    rfl

/-- Keys that stay apart to the end are apart all the way. -/
theorem replacePairs_object {fields : Fields} (h : ((Fields.keys fields).map (replacePairsInText pairs)).Nodup) :
    replacePairs pairs (.object fields) =
      .object (fields.map fun f => (replacePairsInText pairs f.1, replacePairs pairs f.2)) := by
  induction pairs generalizing fields with
  | nil => exact congrArg Document.object (List.map_id fields).symm
  | cons p rest ih =>
    have hkeys : (Fields.keys (replaceInFields p.1 p.2 fields)).map (replacePairsInText rest) =
        (Fields.keys fields).map (replacePairsInText (p :: rest)) := by
      rw [keys_replaceInFields, List.map_map]
      rfl
    rw [← hkeys] at h
    rw [replacePairs, List.foldl_cons, ← replacePairs, replaceIn, Fields.ofList_of_nodup_keys (h.of_map _), ih h,
      replaceInFields_eq_map, List.map_map]
    rfl

mutual

/-- Are all texts and keys inside unmixed, and do the keys of every object stay apart? -/
def isUnmixed (pairs : List (String × Document)) : Document → Bool
  | .text s => isUnmixedText pairs s
  | .list items => isUnmixedItems pairs items
  | .object fields =>
    decide ((Fields.keys fields).map (replacePairsInText pairs)).Nodup && isUnmixedFields pairs fields
  | _ => true

def isUnmixedItems (pairs : List (String × Document)) : List Document → Bool
  | [] => true
  | d :: rest => isUnmixed pairs d && isUnmixedItems pairs rest

def isUnmixedFields (pairs : List (String × Document)) : List (String × Document) → Bool
  | [] => true
  | (k, d) :: rest => isUnmixedText pairs k && isUnmixed pairs d && isUnmixedFields pairs rest

end

theorem replacePairsInText_keys_perm (h : Replaceable pairs) (hperm : pairs.Perm others) {fields : Fields}
    (hfields : isUnmixedFields pairs fields = true) :
    (Fields.keys fields).map (replacePairsInText others) = (Fields.keys fields).map (replacePairsInText pairs) := by
  induction fields with
  | nil => rfl
  | cons f rest ih =>
    rw [isUnmixedFields, Bool.and_eq_true, Bool.and_eq_true] at hfields
    simp only [Fields.keys, List.map_cons] at ih ⊢
    rw [replacePairsInText_perm h hperm hfields.1.1, ih hfields.2]

mutual

theorem replacePairs_perm (h : Replaceable pairs) (hperm : pairs.Perm others) : ∀ {d : Document},
    isUnmixed pairs d = true → replacePairs others d = replacePairs pairs d
  | .text s, hd => by
    by_cases hsource : isSource pairs s = true
    · obtain ⟨p, hp, rfl⟩ := isSource_iff.mp hsource
      rw [replacePairs_source h hp, replacePairs_source (h.perm hperm) (hperm.mem_iff.mp hp)]
    · have hclear : isClear pairs s = true := (Bool.or_eq_true_iff.mp hd).resolve_left hsource
      have hone : ∀ p ∈ pairs, p.1 ≠ s := fun p hp he => hsource (isSource_iff.mpr ⟨p, hp, he⟩)
      have hother : ∀ p ∈ others, p.1 ≠ s := fun p hp => hone p (hperm.mem_iff.mpr hp)
      rw [replacePairs_text h hclear hone, replacePairs_text (h.perm hperm) (isClear_perm hperm hclear) hother,
        replacePairsInText_perm h hperm hd]
  | .list items, hd => by
    rw [replacePairs_list, replacePairs_list, map_replacePairs_perm h hperm hd]
  | .object fields, hd => by
    rw [isUnmixed, Bool.and_eq_true, decide_eq_true_iff] at hd
    have hkeys := replacePairsInText_keys_perm h hperm hd.2
    rw [replacePairs_object hd.1, replacePairs_object (hkeys ▸ hd.1), mapFields_replacePairs_perm h hperm hd.2]
  | .null, _ | .bool _, _ | .number _, _ => by
    rw [replacePairs_of_not_mentions (fun _ _ => rfl) (by simp), replacePairs_of_not_mentions (fun _ _ => rfl) (by simp)]

theorem map_replacePairs_perm (h : Replaceable pairs) (hperm : pairs.Perm others) : ∀ {items : List Document},
    isUnmixedItems pairs items = true → items.map (replacePairs others) = items.map (replacePairs pairs)
  | [], _ => rfl
  | d :: rest, hd => by
    rw [isUnmixedItems, Bool.and_eq_true] at hd
    rw [List.map_cons, List.map_cons, replacePairs_perm h hperm hd.1, map_replacePairs_perm h hperm hd.2]

theorem mapFields_replacePairs_perm (h : Replaceable pairs) (hperm : pairs.Perm others) :
    ∀ {fields : List (String × Document)}, isUnmixedFields pairs fields = true →
      (fields.map fun f => (replacePairsInText others f.1, replacePairs others f.2)) =
        fields.map fun f => (replacePairsInText pairs f.1, replacePairs pairs f.2)
  | [], _ => rfl
  | (k, d) :: rest, hd => by
    rw [isUnmixedFields, Bool.and_eq_true, Bool.and_eq_true] at hd
    rw [List.map_cons, List.map_cons, replacePairsInText_perm h hperm hd.1.1, replacePairs_perm h hperm hd.1.2,
      mapFields_replacePairs_perm h hperm hd.2]

end

end MapTheme.Rendering
