/-
  MapTheme.Proofs.Rendering.Distinct — the steps on renderings keep keys distinct.

  Copies, references, generated ids and blocks of special visualisations: whatever they put together,
  from a document and a library with distinct keys, has distinct keys.
-/

import MapTheme.Proofs.Document.Merge
import MapTheme.Proofs.Step.Basic
import MapTheme.Rendering.InlineId
import MapTheme.Rendering.SpecialBlock

namespace MapTheme

/-- Distinct keys in all shared documents. -/
structure Library.Distinct (lib : Library) : Prop where
  layers : ∀ f ∈ lib.layers, f.2.Distinct
  renderings : ∀ f ∈ lib.renderings, f.2.Distinct

theorem Library.Distinct.layer {lib : Library} (h : lib.Distinct) {name : String} {d : Document}
    (hd : lib.layers.find? name = some d) : d.Distinct := h.layers _ (Fields.mem_of_get? hd)

theorem Library.Distinct.rendering {lib : Library} (h : lib.Distinct) {name : String} {d : Document}
    (hd : lib.renderings.find? name = some d) : d.Distinct := h.renderings _ (Fields.mem_of_get? hd)

namespace Rendering

/-! ## Copies -/

mutual

theorem distinct_replaceIn (source : String) {r : Document} (hr : r.Distinct) :
    ∀ {d : Document}, d.Distinct → (replaceIn source r d).Distinct
  | .text s, _ => by
    simp only [replaceIn]
    exact Step.distinct_ite hr (Document.distinct_text _)
  | .list items, h => by
    simp only [replaceIn]
    exact Document.distinct_list.mpr (distinct_replaceInItems source hr (Document.distinct_list.mp h))
  | .object fields, h => by
    simp only [replaceIn]
    exact Document.distinct_object.mpr
      (.ofList (distinct_replaceInFields source hr (Document.distinct_object.mp h).2))
  | .null, h | .bool _, h | .number _, h => by simpa only [replaceIn] using h

theorem distinct_replaceInItems (source : String) {r : Document} (hr : r.Distinct) :
    ∀ {items : List Document}, (∀ d ∈ items, d.Distinct) → ∀ d ∈ replaceInItems source r items, d.Distinct
  | [], _ => by simp [replaceInItems]
  | d :: rest, h => by
    simp only [replaceInItems, List.forall_mem_cons] at h ⊢
    exact ⟨distinct_replaceIn source hr h.1, distinct_replaceInItems source hr h.2⟩

theorem distinct_replaceInFields (source : String) {r : Document} (hr : r.Distinct) :
    ∀ {fields : List (String × Document)}, (∀ f ∈ fields, f.2.Distinct) →
      ∀ f ∈ replaceInFields source r fields, f.2.Distinct
  | [], _ => by simp [replaceInFields]
  | (k, d) :: rest, h => by
    simp only [replaceInFields, List.forall_mem_cons] at h ⊢
    exact ⟨distinct_replaceIn source hr h.1, distinct_replaceInFields source hr h.2⟩

end

theorem distinct_replaceAll {sources : List String} {replacements : List Document}
    (hr : ∀ r ∈ replacements, r.Distinct) {rendering : Document} (h : rendering.Distinct) :
    (replaceAll sources replacements rendering).Distinct := by
  refine List.foldlRecOn _ _ h ?_
  intro d hd (source, r) hpair
  exact distinct_replaceIn source (hr r (List.of_mem_zip hpair).2) hd

theorem distinct_replacementsOf {sources : List String} {row : Document} {replacements : List Document}
    (hrow : row.Distinct) (h : replacementsOf sources row = some replacements) : ∀ r ∈ replacements, r.Distinct := by
  unfold replacementsOf at h
  split at h
  · cases h; exact Document.distinct_list.mp hrow
  · split at h
    · cases h; simpa using hrow
    · cases h

theorem distinct_ofDocument {block table : Document} {b : CopyBlock} (hb : block.Distinct) (ht : table.Distinct)
    (h : CopyBlock.ofDocument block table = .ok b) : (∀ d ∈ b.rows, d.Distinct) ∧ ∀ d ∈ b.renderings, d.Distinct := by
  unfold CopyBlock.ofDocument at h
  split at h
  · cases h
  · split at h
    · cases h
    · split at h
      · cases h
      · split at h
        · cases h
        · cases h
        · rename_i rows renderings hrows hrenderings
          cases h
          exact ⟨ht.listAt? hrows, hb.listAt? hrenderings⟩

theorem distinct_copies {b : CopyBlock} {place : String} {row : Document} (hb : ∀ d ∈ b.renderings, d.Distinct)
    (hrow : row.Distinct) : ∀ d ∈ (b.copies place row).value, d.Distinct := by
  unfold CopyBlock.copies
  split
  · simp
  · rename_i replacements hr
    dsimp only
    split
    · intro d hd
      obtain ⟨rendering, hm, rfl⟩ := List.mem_map.mp hd
      exact distinct_replaceAll (distinct_replacementsOf hrow hr) (hb rendering hm)
    · simp

theorem expandCopies_keepsDistinct : Expansion.KeepsDistinct expandCopies := by
  intro input place result hi h
  simp only [expandCopies] at h
  split at h
  · cases h; simpa using hi
  · rename_i table ht
    split at h
    · cases h
    · rename_i block hblock
      obtain ⟨hrows, hrenderings⟩ := distinct_ofDocument hi (hi.get? ht) hblock
      obtain ⟨found, hfound, rfl⟩ := Converted.result_of_map h
      obtain rfl := (Noted.result_finish hfound).2
      intro d hd
      simp only [Noted.value_each, List.map_map, List.mem_flatten, List.mem_map] at hd
      obtain ⟨ds, ⟨⟨row, i⟩, hm, rfl⟩, hd⟩ := hd
      exact distinct_copies hrenderings (hrows row (List.fst_mem_of_mem_zipIdx hm)) d hd

/-! ## References -/

/-- A way to resolve entries that keeps keys distinct. -/
def ResolvesDistinct (expand : Document → Noted (List Document)) : Prop :=
  ∀ {entry : Document}, entry.Distinct → ∀ d ∈ (expand entry).value, d.Distinct

variable {lib : Library} {expand : Document → Noted (List Document)}

@[simp] theorem value_unresolved (place : String) (fault : ReferenceFault) : (unresolved place fault).value = [] := rfl

theorem distinct_ofLayer {layer : Document} (h : layer.Distinct) : ∀ d ∈ ofLayer layer, d.Distinct := by
  unfold ofLayer
  cases hl : layer.listAt? "tagRenderings" with
  | none => simp
  | some items => exact h.listAt? hl

theorem distinct_inlineRendering (template : String) : (inlineRendering template).Distinct := by
  simp [inlineRendering, Fields.Distinct, Fields.keys]

theorem distinct_selectEntry (hexpand : ResolvesDistinct expand) (wanted : String) {entry : Document}
    (h : entry.Distinct) : ∀ d ∈ (selectEntry expand wanted entry).value, d.Distinct := by
  unfold selectEntry
  split
  · split
    · exact hexpand h
    · simp
  · split
    · intro d hd
      exact hexpand h d (List.mem_filter.mp hd).1
    · split
      · simpa using h
      · simp
  · simp

theorem distinct_lookUpInLayer (hlib : lib.Distinct) (hexpand : ResolvesDistinct expand) (layer wanted place : String) :
    ∀ d ∈ (lookUpInLayer lib expand layer wanted place).value, d.Distinct := by
  unfold lookUpInLayer
  split
  · simp
  · rename_i found hfound
    simp only [Noted.value_bind, Noted.value_each]
    split
    · simp
    · intro d hd
      simp only [Noted.value_pure, List.mem_flatten, List.mem_map] at hd
      obtain ⟨ds, ⟨entry, he, rfl⟩, hd⟩ := hd
      exact distinct_selectEntry hexpand wanted (distinct_ofLayer (hlib.layer hfound) entry he) d hd

theorem distinct_lookUp (hlib : lib.Distinct) (hexpand : ResolvesDistinct expand) (tooDeep : Bool) (place name : String) :
    ∀ d ∈ (lookUp lib tooDeep expand place name).value, d.Distinct := by
  unfold lookUp
  split
  · simp
  · split
    · rename_i rendering hr
      simpa using hlib.rendering hr
    · split
      · simpa using distinct_inlineRendering name
      · split
        · exact distinct_lookUpInLayer hlib hexpand _ _ place
        · simp

theorem distinct_overlay (place : String) {override : Document} (ho : override.Distinct) {renderings : List Document}
    (h : ∀ d ∈ renderings, d.Distinct) : ∀ d ∈ (overlay place override renderings).value, d.Distinct := by
  intro d hd
  simp only [overlay, Noted.value_bind, Noted.value_each, Noted.value_pure, List.mem_flatten, List.mem_map] at hd
  obtain ⟨ds, ⟨r, hr, rfl⟩, hd⟩ := hd
  split at hd
  · rename_i merged hm
    rw [List.mem_singleton.mp hd]
    exact Document.distinct_merge ho (h r hr) hm
  · cases hd

theorem distinct_expandEntry (hlib : lib.Distinct) (limit : Nat) (place : String) (fuel depth : Nat) :
    ResolvesDistinct (expandEntry lib limit place fuel depth) := by
  induction fuel generalizing depth with
  | zero => intro entry _; simp [expandEntry]
  | succ fuel ih =>
    intro entry he
    have hinner := @ih (depth + 1)
    have hnamed := fun name => distinct_lookUp hlib hinner (limit < depth) place name
    unfold expandEntry
    dsimp only
    split
    · exact hnamed _
    · have hfields := Document.distinct_object.mp he
      split
      · -- a block of copies, each of them resolved in turn
        simp only [Noted.value_bind, Noted.value_absorb]
        split
        · simp
        · rename_i copies hcopies
          intro d hd
          simp only [Noted.value_bind, Noted.value_each, Noted.value_pure, List.mem_flatten, List.mem_map] at hd
          obtain ⟨ds, ⟨copy, hc, rfl⟩, hd⟩ := hd
          exact hinner (expandCopies_keepsDistinct he hcopies copy hc) d hd
      · split
        · split
          · simp
          · intro d hd
            simp only [Noted.value_bind, Noted.value_each, Noted.value_pure, List.mem_flatten, List.mem_map] at hd
            obtain ⟨ds, ⟨name, hn, rfl⟩, hd⟩ := hd
            refine distinct_overlay place ?_ (hnamed name) d hd
            cases ho : Fields.get? _ "override" with
            | none => simp [Fields.Distinct.nil]
            | some override => exact hfields.of_get? ho
        · simpa using he
    · simp

theorem expandReference_keepsDistinct (hlib : lib.Distinct) : Expansion.KeepsDistinct (expandReference lib) := by
  intro input place result hi h
  obtain rfl := (Noted.result_finish h).2
  exact distinct_expandEntry hlib _ _ _ _ hi

/-! ## Generated ids -/

theorem distinct_renameFrom (used : List String) {renderings : List Document} (h : ∀ d ∈ renderings, d.Distinct) :
    ∀ d ∈ renameFrom used renderings, d.Distinct := by
  induction renderings generalizing used with
  | nil => simp [renameFrom]
  | cons r rest ih =>
    rw [List.forall_mem_cons] at h
    unfold renameFrom
    split
    · exact List.forall_mem_cons.mpr ⟨h.1, ih used h.2⟩
    · refine List.forall_mem_cons.mpr ⟨?_, ih _ h.2⟩
      cases r with
      | object fields =>
        exact Document.distinct_object.mpr ((Document.distinct_object.mp h.1).insert (Document.distinct_text _))
      | null | bool | number | text | list => exact h.1

theorem uniqueInlineIds_keepsDistinct : uniqueInlineIds.KeepsDistinct := by
  intro input place result hi h
  simp only [uniqueInlineIds] at h
  split at h
  · cases h
    exact Document.distinct_list.mpr (distinct_renameFrom _ (Document.distinct_list.mp hi))
  · cases h

/-! ## Blocks of special visualisations -/

theorem nodup_eraseDups {α : Type} [DecidableEq α] (as : List α) : as.eraseDups.Nodup := by
  cases as with
  | nil => simp
  | cons a as =>
    rw [List.eraseDups_cons]
    exact List.nodup_cons.mpr ⟨by simp, nodup_eraseDups _⟩
termination_by as.length
decreasing_by exact Nat.lt_succ_of_le (List.length_filter_le _ _)

theorem nodup_languagesOf (special : Fields) : (languagesOf special).Nodup := by
  unfold languagesOf
  dsimp only
  split
  · exact List.nodup_singleton _
  · exact nodup_eraseDups _

theorem distinct_wordingOf {block : Fields} {d : Document} (h : wordingOf block = .ok d) : d.Distinct := by
  unfold wordingOf at h
  split at h
  · cases h
  · split at h
    · split at h
      · cases h
      · split at h
        · cases h
        · split at h
          · cases h
          · cases h
            refine Document.distinct_object.mpr ⟨?_, fun f hf => ?_⟩
            · simpa [Fields.keys, Function.comp_def] using nodup_languagesOf _
            · obtain ⟨language, _, rfl⟩ := List.mem_map.mp hf
              exact Document.distinct_text _
    · cases h

mutual

theorem distinct_replaceBlocks (place : String) : ∀ {d : Document}, d.Distinct → (replaceBlocks place d).value.Distinct
  | .object fields, h => by
    simp only [replaceBlocks]
    split
    · split
      · rename_i d hd
        exact distinct_wordingOf hd
      · exact h
    · have hfields := Document.distinct_object.mp h
      refine Document.distinct_object.mpr ⟨?_, distinct_replaceInBlockFields place hfields.2⟩
      exact (keys_replaceInBlockFields place fields).symm ▸ hfields.1
  | .list items, h => by
    simp only [replaceBlocks]
    exact Document.distinct_list.mpr (distinct_replaceInBlockItems place 0 (Document.distinct_list.mp h))
  | .null, h | .bool _, h | .number _, h | .text _, h => h

theorem keys_replaceInBlockFields (place : String) : ∀ fields : List (String × Document),
    Fields.keys (replaceInBlockFields place fields).value = Fields.keys fields
  | [] => rfl
  | (k, _) :: rest => congrArg (k :: ·) (keys_replaceInBlockFields place rest)

theorem distinct_replaceInBlockFields (place : String) : ∀ {fields : List (String × Document)},
    (∀ f ∈ fields, f.2.Distinct) → ∀ f ∈ (replaceInBlockFields place fields).value, f.2.Distinct
  | [], _ => by simp [replaceInBlockFields]
  | (k, d) :: rest, h => by
    simp only [replaceInBlockFields, Noted.value_bind, Noted.value_pure, List.forall_mem_cons] at h ⊢
    exact ⟨distinct_replaceBlocks _ h.1, distinct_replaceInBlockFields place h.2⟩

theorem distinct_replaceInBlockItems (place : String) (i : Nat) : ∀ {items : List Document},
    (∀ d ∈ items, d.Distinct) → ∀ d ∈ (replaceInBlockItems place i items).value, d.Distinct
  | [], _ => by simp [replaceInBlockItems]
  | d :: rest, h => by
    simp only [replaceInBlockItems, Noted.value_bind, Noted.value_pure, List.forall_mem_cons] at h ⊢
    exact ⟨distinct_replaceBlocks _ h.1, distinct_replaceInBlockItems place (i + 1) h.2⟩

end

theorem replaceSpecialBlocks_keepsDistinct : replaceSpecialBlocks.KeepsDistinct := by
  intro input place result hi h
  obtain rfl := (Noted.result_finish h).2
  exact distinct_replaceBlocks place hi

end Rendering

end MapTheme
