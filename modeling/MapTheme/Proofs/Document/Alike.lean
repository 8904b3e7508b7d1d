/-
  MapTheme.Proofs.Document.Alike — documents between which a reader cannot tell.

  Two documents are alike when they are equal, or when the first has distinct keys and they are the
  same without regard to the order of fields. `Alike.view` takes such a pair apart, one level at a time:
  the items of lists are alike in order, and the fields of objects are alike after a permutation, so
  that every key finds alike values (`Fields.Alike.get?`).
-/

import MapTheme.Proofs.Document.Distinct
import Mathlib.Data.List.Forall2
import Mathlib.Data.List.Perm.Subperm

namespace MapTheme

open List (Forall₂)

def Document.Alike (a b : Document) : Prop := a = b ∨ (a.Distinct ∧ a.same b = true)

/-- Fields with alike values that are the others up to order, and up to nothing unless keys are distinct. -/
def Fields.Alike (fs gs : Fields) : Prop :=
  ∃ hs, Forall₂ (fun f h => f.1 = h.1 ∧ f.2.Alike h.2) fs hs ∧ hs.Perm gs ∧ (hs = gs ∨ (Fields.keys gs).Nodup)

namespace Document

theorem Alike.refl (d : Document) : d.Alike d := .inl rfl

theorem alike_of_same {a b : Document} (ha : a.Distinct) (h : a.same b = true) : a.Alike b := .inr ⟨ha, h⟩

end Document

namespace Fields

theorem Alike.refl (fs : Fields) : Alike fs fs :=
  ⟨fs, List.forall₂_same.mpr fun f _ => ⟨rfl, .refl f.2⟩, .refl fs, .inl rfl⟩

theorem exists_of_sameFields {fs gs : Fields} (h : Document.sameFields fs gs = true) {f : String × Document}
    (hf : f ∈ fs) : ∃ b, get? gs f.1 = some b ∧ f.2.same b = true := by
  induction fs with
  | nil => cases hf
  | cons g rest ih =>
    obtain ⟨k, a⟩ := g
    simp only [Document.sameFields, Bool.and_eq_true] at h
    rcases List.mem_cons.mp hf with rfl | hf
    · split at h
      · rename_i b hb
        exact ⟨b, hb, h.1⟩
      · exact absurd h.1 Bool.false_ne_true
    · exact ih h.2 hf

/-- As many fields, each with its equal in the other object: then the others have no key beside. -/
theorem alike_of_same {fs gs : Fields} (hf : Distinct fs) (hl : fs.length = gs.length)
    (h : Document.sameFields fs gs = true) : Alike fs gs := by
  let hs : Fields := fs.map fun f => (f.1, (get? gs f.1).getD .null)
  have hkeys : keys hs = keys fs := by simp [hs, keys]
  have hsub : hs ⊆ gs := by
    intro g hg
    obtain ⟨f, hfm, rfl⟩ := List.mem_map.mp hg
    obtain ⟨b, hb, _⟩ := exists_of_sameFields h hfm
    rw [hb]
    exact mem_of_get? hb
  have hn : (keys hs).Nodup := hkeys ▸ hf.1
  have hperm : hs.Perm gs :=
    (List.subperm_of_subset (List.Nodup.of_map Prod.fst hn) hsub).perm_of_length_le (by simp [hs, hl])
  refine ⟨hs, ?_, hperm, .inr ((hperm.map Prod.fst).nodup_iff.mp hn)⟩
  rw [List.forall₂_map_right_iff, List.forall₂_same]
  intro f hfm
  obtain ⟨b, hb, hs⟩ := exists_of_sameFields h hfm
  exact ⟨rfl, by rw [hb]; exact .inr ⟨hf.2 f hfm, hs⟩⟩

theorem get?_eq_of_perm {fs gs : Fields} (h : fs.Perm gs) (hn : (keys gs).Nodup) (key : String) :
    get? fs key = get? gs key := by
  have hfs : (keys fs).Nodup := (h.map Prod.fst).nodup_iff.mpr hn
  exact Option.ext fun d => by rw [get?_eq_some_iff_mem hfs, get?_eq_some_iff_mem hn, h.mem_iff]

/-- Every key finds alike values. -/
theorem Alike.get? {fs gs : Fields} (h : Alike fs gs) (key : String) :
    Option.Rel Document.Alike (Fields.get? fs key) (Fields.get? gs key) := by
  obtain ⟨hs, hall, hperm, heq⟩ := h
  have hget : Fields.get? gs key = Fields.get? hs key := by
    rcases heq with rfl | hn
    · rfl
    · exact (get?_eq_of_perm hperm hn key).symm
  rw [hget]
  clear hperm heq hget
  induction hall with
  | nil => exact .none
  | @cons f h fs hs hfh _ ih =>
    obtain ⟨k, a⟩ := f
    obtain ⟨k', b⟩ := h
    obtain ⟨rfl, hab⟩ : k = k' ∧ a.Alike b := hfh
    simp only [Fields.get?, List.lookup_cons] at ih ⊢
    split
    · exact .some hab
    · exact ih

end Fields

namespace Document

/-- What two documents that are alike look like. -/
inductive Alike.View : Document → Document → Prop
  | null : View .null .null
  | bool (b : Bool) : View (.bool b) (.bool b)
  | number (m n : Number) : View (.number m) (.number n)
  | text (s : String) : View (.text s) (.text s)
  | list {as bs : List Document} : Forall₂ Document.Alike as bs → View (.list as) (.list bs)
  | object {fs gs : Fields} : Fields.Alike fs gs → View (.object fs) (.object gs)

theorem alike_items_of_same {as bs : List Document} (ha : ∀ a ∈ as, a.Distinct) (h : sameItems as bs = true) :
    Forall₂ Document.Alike as bs := by
  induction as generalizing bs with
  | nil => cases bs <;> simp only [sameItems, Bool.false_eq_true] at h; exact .nil
  | cons a as ih =>
    cases bs with
    | nil => simp only [sameItems, Bool.false_eq_true] at h
    | cons b bs =>
      simp only [sameItems, Bool.and_eq_true] at h
      exact .cons (.inr ⟨ha a List.mem_cons_self, h.1⟩) (ih (fun d hd => ha d (List.mem_cons_of_mem _ hd)) h.2)

theorem Alike.view {a b : Document} (h : a.Alike b) : Alike.View a b := by
  rcases h with rfl | ⟨hd, hs⟩
  · cases a with
    | null => exact .null
    | bool b => exact .bool b
    | number n => exact .number n n
    | text s => exact .text s
    | list items => exact .list (List.forall₂_same.mpr fun d _ => .refl d)
    | object fields => exact .object (.refl fields)
  · cases a <;> cases b <;> simp only [same, Bool.false_eq_true, beq_iff_eq, Bool.and_eq_true] at hs
    case null.null => exact .null
    case bool.bool => exact hs ▸ .bool _
    case number.number m n => exact .number m n
    case text.text => exact hs ▸ .text _
    case list.list => exact .list (alike_items_of_same (distinct_list.mp hd) hs)
    case object.object => exact .object (Fields.alike_of_same (distinct_object.mp hd) hs.1 hs.2)

theorem Alike.single {a b : Document} (h : a.Alike b) (key : String) :
    Alike (.object [(key, a)]) (.object [(key, b)]) := by
  rcases h with rfl | ⟨hd, hs⟩
  · exact .refl _
  · refine .inr ⟨distinct_object.mpr ⟨List.nodup_singleton _, fun f hf => ?_⟩, ?_⟩
    · rw [List.mem_singleton.mp hf]
      exact hd
    · simp [same, sameFields, Fields.get?, hs]

end Document

end MapTheme
