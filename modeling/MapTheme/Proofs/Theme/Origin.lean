/-
  MapTheme.Proofs.Theme.Origin — what notes in wordings leave as it is: texts, the fields that there are, and
  the number and order of items. A document stays the same exactly if each of its wordings has its note
  (`annotate_eq_self_iff`).
-/

import MapTheme.Proofs.Document.Fields
import MapTheme.Theme.Layers
import MapTheme.Theme.Origin

namespace MapTheme.Theme

theorem get?_annotateFields (path : String) (fields : Fields) (key : String) :
    Fields.get? (annotateFields path fields) key =
      (Fields.get? fields key).map (annotate (path ++ "." ++ key) (displayFields.contains key)) := by
  induction fields with
  | nil => rfl
  | cons f rest ih =>
    obtain ⟨k, d⟩ := f
    by_cases hk : k = key
    · simp [annotateFields, Fields.get?_cons, hk]
    · simp [annotateFields, Fields.get?_cons, hk, ih]

/-- The fields of a document that is no wording are noted one by one. -/
theorem get?_annotate (path : String) (d : Document) (key : String) :
    (annotate path false d).get? key = (d.get? key).map (annotate (path ++ "." ++ key) (displayFields.contains key)) := by
  cases d with
  | object fields =>
    have hfields : annotate path false (.object fields) = .object (annotateFields path fields) := by simp [annotate]
    rw [hfields]
    exact get?_annotateFields path fields key
  | null | bool | number | text | list => simp [annotate, Document.get?, Document.object?]

theorem text?_annotate (path : String) (isDisplay : Bool) (d : Document) :
    (annotate path isDisplay d).text? = d.text? := by
  cases d with
  | object fields =>
    simp only [annotate]
    split <;> rfl
  | null | bool | number | text | list => simp [annotate, Document.text?]

theorem id?_annotate (path : String) (d : Document) : (annotate path false d).id? = d.id? := by
  simp only [Document.id?, Document.textAt?, get?_annotate]
  cases d.get? "id" with
  | none => rfl
  | some value => exact text?_annotate _ _ value

/-- The layers are noted one by one. -/
theorem layersOf_annotate (path : String) (d : Document) :
    layersOf (annotate path false d) = annotateItems (path ++ "." ++ "layers") false 0 (layersOf d) := by
  simp only [layersOf, Document.listAt?, get?_annotate]
  cases d.get? "layers" with
  | none => rfl
  | some value =>
    have hlayers : displayFields.contains "layers" = false := by decide
    rw [hlayers, Option.map_some]
    cases value with
    | list items => simp [annotate, Document.list?]
    | object fields => simp [annotate, annotateItems, Document.list?]
    | null | bool | number | text => simp [annotate, annotateItems, Document.list?]

/-! ## Documents with all notes -/

mutual

/-- Does every wording in the document have a note on where it stands? -/
def isNoted (isDisplay : Bool) : Document → Bool
  | .object fields => if isDisplay && isWording fields then Fields.has fields "_context" else isNotedFields fields
  | .list items => isNotedItems isDisplay items
  | _ => true

def isNotedFields : List (String × Document) → Bool
  | [] => true
  | (k, d) :: rest => isNoted (displayFields.contains k) d && isNotedFields rest

def isNotedItems (isDisplay : Bool) : List Document → Bool
  | [] => true
  | d :: rest => isNoted isDisplay d && isNotedItems isDisplay rest

end

/-- A note that comes in is one field more. -/
theorem addOrigin_eq_self_iff (path : String) (fields : Fields) :
    addOrigin path fields = fields ↔ Fields.has fields "_context" = true := by
  unfold addOrigin
  split
  · simp [*]
  · rename_i hnone
    refine ⟨fun he => ?_, fun h => absurd h hnone⟩
    have hnew : "_context" ∈ Fields.keys (Fields.insert fields "_context" (.text path)) := by
      rw [Fields.keys_insert]
      split
      · assumption
      · simp
    rw [he] at hnew
    exact Fields.has_iff_mem_keys.mpr hnew

mutual

theorem annotate_eq_self_iff (path : String) (isDisplay : Bool) :
    ∀ d : Document, annotate path isDisplay d = d ↔ isNoted isDisplay d = true
  | .object fields => by
    rw [annotate, isNoted]
    split
    · rw [Document.object.injEq, addOrigin_eq_self_iff]
    · rw [Document.object.injEq, annotateFields_eq_self_iff path fields]
  | .list items => by rw [annotate, isNoted, Document.list.injEq, annotateItems_eq_self_iff path isDisplay 0 items]
  | .null | .bool _ | .number _ | .text _ => by simp [annotate, isNoted]

theorem annotateFields_eq_self_iff (path : String) :
    ∀ fields : List (String × Document), annotateFields path fields = fields ↔ isNotedFields fields = true
  | [] => by simp [annotateFields, isNotedFields]
  | (k, d) :: rest => by
    rw [annotateFields, isNotedFields, Bool.and_eq_true, List.cons.injEq, Prod.mk.injEq, eq_self, true_and,
      annotate_eq_self_iff _ _ d, annotateFields_eq_self_iff path rest]

theorem annotateItems_eq_self_iff (path : String) (isDisplay : Bool) (i : Nat) :
    ∀ items : List Document, annotateItems path isDisplay i items = items ↔ isNotedItems isDisplay items = true
  | [] => by simp [annotateItems, isNotedItems]
  | d :: rest => by
    rw [annotateItems, isNotedItems, Bool.and_eq_true, List.cons.injEq, annotate_eq_self_iff _ _ d,
      annotateItems_eq_self_iff path isDisplay (i + 1) rest]

end

end MapTheme.Theme
