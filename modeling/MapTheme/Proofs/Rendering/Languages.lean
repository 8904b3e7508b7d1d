/-
  MapTheme.Proofs.Rendering.Languages — languages that are called like the key of a block.

  A block of a special visualisation is written out as an object with its languages as keys. One that is called
  `special` makes that a block again, and one that is called `builtin` or `rewrite` makes a rendering a reference
  or a block of copies. A document without such languages (`hasPlainLanguages`) is settled once its blocks are
  written out (`isSettled_replaceBlocks`).

  Overlays bring in no such language if they have none (`hasPlainLanguages_merge`). They take a plus sign off a
  key, so plus signs do not count.
-/

import MapTheme.Proofs.Rendering.Settled

namespace MapTheme.Rendering

/-- Is the key one that makes a block, but for plus signs? -/
def isBlockKey (key : String) : Bool :=
  ["special", "builtin", "rewrite"].contains (String.ofList (key.toList.filter (· != '+')))

/-- Is no language of the wording called like the key of a block? -/
def isPlainWording : Document → Bool
  | .object texts => texts.all (!isBlockKey ·.1)
  | _ => true

/-- Is no language of any wording in a block called so? -/
def hasPlainWordings : Document → Bool
  | .object special => special.all (isPlainWording ·.2)
  | _ => true

mutual

/-- Is no language of any block inside the document called like the key of a block? -/
def hasPlainLanguages : Document → Bool
  | .object fields => hasPlainLanguagesInFields fields
  | .list items => hasPlainLanguagesInItems items
  | _ => true

def hasPlainLanguagesInFields : List (String × Document) → Bool
  | [] => true
  | (k, d) :: rest =>
    (k != "special" || hasPlainWordings d) && hasPlainLanguages d && hasPlainLanguagesInFields rest

def hasPlainLanguagesInItems : List Document → Bool
  | [] => true
  | d :: rest => hasPlainLanguages d && hasPlainLanguagesInItems rest

end

/-- Does nothing stay to be expanded in the rendering once its blocks are written out? -/
def settles (rendering : Document) : Bool := isResolved rendering && hasPlainLanguages rendering

/-- Does that stay so with the override laid over it? -/
def keepsSettling (override : Document) : Bool := isHarmless override && hasPlainLanguages override

/-- No language of a block is called like the key of a block, in one field of an object. -/
def IsPlainField (key : String) (d : Document) : Prop :=
  (key = "special" → hasPlainWordings d = true) ∧ hasPlainLanguages d = true

theorem hasPlainLanguagesInFields_iff {fields : List (String × Document)} :
    hasPlainLanguagesInFields fields = true ↔ ∀ f ∈ fields, IsPlainField f.1 f.2 := by
  induction fields with
  | nil => simp [hasPlainLanguagesInFields]
  | cons f rest ih =>
    obtain ⟨k, d⟩ := f
    simp only [hasPlainLanguagesInFields, Bool.and_eq_true, Bool.or_eq_true, bne_iff_ne, ne_eq, ih,
      List.forall_mem_cons, IsPlainField, Decidable.imp_iff_not_or]

theorem hasPlainLanguages_object_iff {fields : Fields} :
    hasPlainLanguages (.object fields) = true ↔ ∀ f ∈ fields, IsPlainField f.1 f.2 := by
  rw [hasPlainLanguages, hasPlainLanguagesInFields_iff]

theorem hasPlainLanguages_list_iff {items : List Document} :
    hasPlainLanguages (.list items) = true ↔ ∀ d ∈ items, hasPlainLanguages d = true := by
  rw [hasPlainLanguages]
  induction items with
  | nil => simp [hasPlainLanguagesInItems]
  | cons d rest ih => rw [hasPlainLanguagesInItems, Bool.and_eq_true, ih, List.forall_mem_cons]

/-! ## Overlays -/

theorem isBlockKey_field (key : String) : isBlockKey (MergeKey.ofText key).field = isBlockKey key := by
  cases h : MergeKey.ofText key with
  | before field =>
    rw [MergeKey.ofText_eq_before_iff.mp h]
    simp [isBlockKey, MergeKey.field]
  | behind field =>
    rw [MergeKey.eq_of_ofText_behind h]
    simp [isBlockKey, MergeKey.field]
  | plain field =>
    rw [← MergeKey.eq_of_ofText_plain h]
    rfl

section Overlay

variable {source target result : Fields}

/-- No wording of the outcome has a language that neither has. -/
theorem isPlainWording_mergeFields (hs : isPlainWording (.object source) = true)
    (ht : isPlainWording (.object target) = true) (h : Document.mergeFields source target = .ok result) :
    isPlainWording (.object result) = true := by
  simp only [isPlainWording, List.all_eq_true] at hs ht ⊢
  refine Document.forall_mergeFields (P := fun key _ => (!isBlockKey key) = true) ht ?_ h
  intro f hf _ _ _ _
  rw [isBlockKey_field]
  exact hs f hf

theorem hasPlainWordings_mergeFields (hs : hasPlainWordings (.object source) = true)
    (ht : hasPlainWordings (.object target) = true) (h : Document.mergeFields source target = .ok result) :
    hasPlainWordings (.object result) = true := by
  simp only [hasPlainWordings, List.all_eq_true] at hs ht ⊢
  refine Document.forall_mergeFields (P := fun _ d => isPlainWording d = true) ht ?_ h
  intro f hf target d ht hd
  cases hkey : MergeKey.ofText f.1 with
  | before | behind =>
    obtain ⟨-, -, -, rfl⟩ := Document.of_mergeField_adds (by rw [hkey]; rfl) hd
    rfl
  | plain field =>
    rcases Document.of_mergeField_plain hkey hd with ⟨s, t, r, hvalue, hcurrent, hmerge, rfl⟩ | ⟨-, rfl⟩
    · exact isPlainWording_mergeFields (hvalue ▸ hs f hf) (ht _ (Fields.mem_of_get? hcurrent)) hmerge
    · exact hs f hf

theorem itemsAt_plain {field : String} (h : ∀ f ∈ target, IsPlainField f.1 f.2) :
    ∀ d ∈ Document.itemsAt target field, hasPlainLanguages d = true := by
  intro d hd
  rw [Document.itemsAt] at hd
  cases hget : Fields.get? target field with
  | none =>
    rw [hget] at hd
    cases hd
  | some value =>
    rw [hget] at hd
    cases value with
    | list items => exact hasPlainLanguages_list_iff.mp (h _ (Fields.mem_of_get? hget)).2 d hd
    | null | bool | number | text | object => cases hd

/-- The recursion is that of the overlay: objects over objects, to any depth. -/
theorem isPlainField_mergeFields (source : List (String × Document)) {target result : Fields}
    (hs : ∀ f ∈ source, IsPlainField f.1 f.2) (ht : ∀ f ∈ target, IsPlainField f.1 f.2)
    (h : Document.mergeFields source target = .ok result) : ∀ f ∈ result, IsPlainField f.1 f.2 := by
  refine Document.forall_mergeFields ht ?_ h
  intro f hf target d ht hd
  cases hkey : MergeKey.ofText f.1 with
  | before | behind =>
    obtain ⟨-, added, hvalue, rfl⟩ := Document.of_mergeField_adds (by rw [hkey]; rfl) hd
    have hadded := hasPlainLanguages_list_iff.mp (hvalue ▸ (hs f hf).2)
    refine ⟨fun _ => rfl, hasPlainLanguages_list_iff.mpr ?_⟩
    intro item hitem
    rcases MergeKey.mem_combine.mp hitem with hitem | hitem
    · exact hadded item hitem
    · exact itemsAt_plain ht item hitem
  | plain field =>
    have hsame : field = f.1 := MergeKey.eq_of_ofText_plain hkey
    rcases Document.of_mergeField_plain hkey hd with ⟨s, t, r, hvalue, hcurrent, hmerge, rfl⟩ | ⟨-, rfl⟩
    · have hsource : IsPlainField field (.object s) := hvalue ▸ hsame ▸ hs f hf
      have htarget := ht _ (Fields.mem_of_get? hcurrent)
      refine ⟨fun hspecial => hasPlainWordings_mergeFields (hsource.1 hspecial) (htarget.1 hspecial) hmerge, ?_⟩
      exact hasPlainLanguages_object_iff.mpr (isPlainField_mergeFields s (hasPlainLanguages_object_iff.mp hsource.2)
        (hasPlainLanguages_object_iff.mp htarget.2) hmerge)
    · exact hsame ▸ hs f hf
termination_by sizeOf source
decreasing_by
  have hlt := List.sizeOf_lt_of_mem hf
  obtain ⟨key, value⟩ := f
  obtain rfl : value = .object s := hvalue
  simp only [Prod.mk.sizeOf_spec, Document.object.sizeOf_spec] at hlt
  omega

theorem hasPlainLanguages_merge {override rendering d : Document} (ho : hasPlainLanguages override = true)
    (hr : hasPlainLanguages rendering = true) (h : override.merge rendering = .ok d) : hasPlainLanguages d = true := by
  cases override with
  | object source =>
    cases rendering with
    | object target =>
      rw [Document.merge] at h
      cases hfields : Document.mergeFields source target with
      | error fault =>
        rw [hfields] at h
        cases h
      | ok fields =>
        rw [hfields] at h
        cases h
        exact hasPlainLanguages_object_iff.mpr (isPlainField_mergeFields source
          (hasPlainLanguages_object_iff.mp ho) (hasPlainLanguages_object_iff.mp hr) hfields)
    | null | bool | number | text | list =>
      cases h
      exact ho
  | null | bool | number | text | list =>
    simp only [Document.merge] at h
    cases h
    exact ho

end Overlay

theorem settles_merge {override rendering d : Document} (ho : keepsSettling override = true)
    (hr : settles rendering = true) (h : override.merge rendering = .ok d) : settles d = true := by
  rw [keepsSettling, Bool.and_eq_true] at ho
  rw [settles, Bool.and_eq_true] at hr ⊢
  exact ⟨(isResolved_of_merge hr.1 h).trans ho.1, hasPlainLanguages_merge ho.2 hr.2 h⟩

/-- Another id makes no difference. -/
theorem settles_withId {rendering : Document} (h : settles rendering = true) (id : String) :
    settles (withId id rendering) = true := by
  cases rendering with
  | object fields =>
    rw [settles, Bool.and_eq_true] at h ⊢
    have hhas {key : String} (hkey : "id" ≠ key) :
        Fields.has (Fields.insert fields "id" (.text id)) key = Fields.has fields key := by
      rw [Fields.has_eq_isSome_get?, Fields.has_eq_isSome_get?, Fields.get?_insert_of_ne hkey]
    refine ⟨?_, hasPlainLanguages_object_iff.mpr fun f hf => ?_⟩
    · rw [withId, isResolved, isBlock, hhas (by decide), hhas (by decide)]
      exact h.1
    · rcases Fields.mem_insert hf with hf | rfl
      · exact hasPlainLanguages_object_iff.mp h.2 f hf
      · exact ⟨fun hspecial => absurd (show "id" = "special" from hspecial) (by decide), rfl⟩
  | null | bool | number | text | list => exact h

/-! ## Blocks written out -/

section WrittenOut

variable {place : String}

theorem isBlockKey_of_mem_languagesOf {special : Fields} (h : hasPlainWordings (.object special) = true) :
    ∀ language ∈ languagesOf special, isBlockKey language = false := by
  intro language hl
  have hcases : language = "*" ∨ ∃ f ∈ special, ∃ texts, f.2 = .object texts ∧ ∃ d, (language, d) ∈ texts := by
    rw [languagesOf] at hl
    dsimp only at hl
    split at hl
    · exact .inl (List.mem_singleton.mp hl)
    · rw [List.mem_eraseDups, List.mem_mergeSort, List.mem_flatMap] at hl
      obtain ⟨⟨key, d⟩, hf, hl⟩ := hl
      obtain ⟨⟨language, text⟩, hmem, rfl⟩ := List.mem_map.mp (List.mem_filter.mp hl).1
      cases d with
      | object texts => exact .inr ⟨_, hf, texts, rfl, text, hmem⟩
      | null | bool | number | text | list => cases hmem
  rcases hcases with rfl | ⟨f, hf, texts, htexts, d, hd⟩
  · decide +kernel
  · have hwording := List.all_eq_true.mp h f hf
    rw [htexts] at hwording
    simpa using List.all_eq_true.mp hwording _ hd

/-- The keys of what a block is written out as are no keys of blocks, and there are only texts inside. -/
theorem of_wordingOf {block : Fields} {d : Document} (hplain : ∀ f ∈ block, IsPlainField f.1 f.2)
    (h : wordingOf block = .ok d) :
    ∃ texts : Fields, d = .object texts ∧ (∀ f ∈ texts, isBlockKey f.1 = false) ∧ hasSpecialInFields texts = false := by
  obtain ⟨v, special, hspecial, -, -, rfl⟩ := exists_of_wordingOf h
  have hwordings := (hplain _ (Fields.mem_of_get? hspecial)).1 rfl
  refine ⟨_, rfl, ?_, ?_⟩
  · intro f hf
    obtain ⟨language, hl, rfl⟩ := List.mem_map.mp hf
    exact isBlockKey_of_mem_languagesOf hwordings language hl
  · induction languagesOf special with
    | nil => rfl
    | cons language rest ih =>
      rw [List.map_cons, hasSpecialInFields, ih, Bool.or_false]
      rfl

theorem has_eq_false_of_plain_keys {texts : Fields} (h : ∀ f ∈ texts, isBlockKey f.1 = false) (key : String)
    (hkey : isBlockKey key = true) : Fields.has texts key = false := by
  rw [Fields.has, List.any_eq_false]
  rintro f hf he
  rw [← beq_iff_eq.mp he, h f hf] at hkey
  cases hkey

theorem has_replaceInBlockFields (place : String) (fields : Fields) (key : String) :
    Fields.has (replaceInBlockFields place fields).value key = Fields.has fields key := by
  rw [Bool.eq_iff_iff, Fields.has_iff_mem_keys, Fields.has_iff_mem_keys, keys_replaceInBlockFields]

mutual

/-- Where no block is at fault, none is left. -/
theorem hasSpecial_replaceBlocks (place : String) : ∀ {d : Document}, hasPlainLanguages d = true →
    (replaceBlocks place d).notes.hasErrors = false → hasSpecial (replaceBlocks place d).value = false
  | .object fields, h, hclean => by
    have hfields := hasPlainLanguages_object_iff.mp h
    rw [replaceBlocks] at hclean ⊢
    split at hclean
    · rename_i hspecial
      rw [if_pos hspecial]
      split at hclean
      · rename_i d hd
        obtain ⟨texts, rfl, hkeys, hinside⟩ := of_wordingOf hfields hd
        rw [Noted.value_pure, hasSpecial, hinside, has_eq_false_of_plain_keys hkeys _ (by decide +kernel)]
        rfl
      · simp at hclean
    · rename_i hspecial
      rw [if_neg hspecial, Noted.value_bind, Noted.value_pure, hasSpecial, has_replaceInBlockFields,
        Bool.or_eq_false_iff]
      simp only [Noted.notes_bind, Noted.notes_pure, Diagnostics.append_empty] at hclean
      exact ⟨by simpa using hspecial, hasSpecial_replaceInBlockFields place hfields hclean⟩
  | .list items, h, hclean => by
    rw [replaceBlocks] at hclean ⊢
    simp only [Noted.notes_bind, Noted.notes_pure, Diagnostics.append_empty] at hclean
    rw [Noted.value_bind, Noted.value_pure, hasSpecial]
    exact hasSpecial_replaceInBlockItems place 0 (hasPlainLanguages_list_iff.mp h) hclean
  | .null, _, _ | .bool _, _, _ | .number _, _, _ | .text _, _, _ => rfl

theorem hasSpecial_replaceInBlockFields (place : String) : ∀ {fields : List (String × Document)},
    (∀ f ∈ fields, IsPlainField f.1 f.2) → (replaceInBlockFields place fields).notes.hasErrors = false →
      hasSpecialInFields (replaceInBlockFields place fields).value = false
  | [], _, _ => rfl
  | (k, d) :: rest, h, hclean => by
    obtain ⟨hd, hrest⟩ := List.forall_mem_cons.mp h
    simp only [replaceInBlockFields, Noted.notes_bind, Noted.notes_pure, Diagnostics.append_empty,
      Diagnostics.hasErrors_append, Bool.or_eq_false_iff] at hclean
    simp only [replaceInBlockFields, Noted.value_bind, Noted.value_pure, hasSpecialInFields, Bool.or_eq_false_iff]
    exact ⟨hasSpecial_replaceBlocks _ hd.2 hclean.1, hasSpecial_replaceInBlockFields place hrest hclean.2⟩

theorem hasSpecial_replaceInBlockItems (place : String) (i : Nat) : ∀ {items : List Document},
    (∀ d ∈ items, hasPlainLanguages d = true) → (replaceInBlockItems place i items).notes.hasErrors = false →
      hasSpecialInItems (replaceInBlockItems place i items).value = false
  | [], _, _ => rfl
  | d :: rest, h, hclean => by
    obtain ⟨hd, hrest⟩ := List.forall_mem_cons.mp h
    simp only [replaceInBlockItems, Noted.notes_bind, Noted.notes_pure, Diagnostics.append_empty,
      Diagnostics.hasErrors_append, Bool.or_eq_false_iff] at hclean
    simp only [replaceInBlockItems, Noted.value_bind, Noted.value_pure, hasSpecialInItems, Bool.or_eq_false_iff]
    exact ⟨hasSpecial_replaceBlocks _ hd hclean.1, hasSpecial_replaceInBlockItems place (i + 1) hrest hclean.2⟩

end

theorem isResolved_replaceBlocks {d : Document} (hr : isResolved d = true) (h : hasPlainLanguages d = true) :
    isResolved (replaceBlocks place d).value = true := by
  cases d with
  | object fields =>
    rw [replaceBlocks]
    split
    · split
      · rename_i d hd
        obtain ⟨texts, rfl, hkeys, -⟩ := of_wordingOf (hasPlainLanguages_object_iff.mp h) hd
        have hnone := has_eq_false_of_plain_keys hkeys
        rw [Noted.value_pure, isResolved, isBlock, hnone _ (by decide +kernel), hnone _ (by decide +kernel)]
        rfl
      · exact hr
    · simpa [isResolved, isBlock, has_replaceInBlockFields] using hr
  | null | bool | number | text | list => cases hr

/-- A rendering whose blocks are written out without an error. -/
theorem isSettled_replaceBlocks {d result : Document} (h : settles d = true)
    (hresult : (replaceSpecialBlocks.convert d place).result = some result) : isSettled result = true := by
  rw [settles, Bool.and_eq_true] at h
  obtain ⟨hclean, rfl⟩ := Noted.result_finish hresult
  have hresolved : isResolved (replaceBlocks place d).value = true := isResolved_replaceBlocks h.1 h.2
  have hnone := hasSpecial_replaceBlocks place h.2 hclean
  generalize (replaceBlocks place d).value = written at hresolved hnone
  cases written with
  | object fields =>
    rw [isResolved] at hresolved
    rw [isSettled, hresolved, hnone]
    rfl
  | null | bool | number | text | list => cases hresolved

end WrittenOut

end MapTheme.Rendering
