/-
  MapTheme.Proofs.Filter.Answer — a filter can be written exactly if it is usable as an answer.

  Whether there is something to write does not depend on the feature: the existing properties only fill in
  templates (`isOk_change`). The check of a layer lets a mapping be offered only if it is usable, so every answer
  that an accepted layer offers can be written, to any feature (`change_succeeds_iff_usable`).
-/

import MapTheme.Filter.Answer
import MapTheme.Proofs.Layer.Validation

namespace MapTheme

theorem exists_ok_iff_isOk {ε α : Type} (x : Except ε α) : (∃ a, x = .ok a) ↔ x.isOk = true := by
  cases x <;> simp [Except.isOk, Except.toBool]

theorem Leaf.isOk_change (existing : Properties) (l : Leaf) : (l.change existing).isOk = l.isUsable := by
  cases l with
  | tag | substituting | comparing => rfl
  | regex key value invert => cases key <;> cases value <;> cases invert <;> rfl

namespace Filter

variable (existing : Properties)

mutual

/-- There is something to write for a filter exactly if it is usable, whatever the feature has. -/
theorem isOk_change : ∀ f : Filter, (f.change existing).isOk = f.isUsable
  | leaf l => by rw [change, isUsable, Leaf.isOk_change]
  | and fs => by rw [change, isUsable, isOk_changeOfEach fs]
  | or [] => by simp only [change, isUsable]; rfl
  | or [f] => by rw [change, isUsable, isOk_change f]
  | or (_ :: _ :: _) => by simp only [change, isUsable]; rfl

theorem isOk_changeOfEach : ∀ fs : List Filter, (changeOfEach existing fs).isOk = allUsable fs
  | [] => by rw [changeOfEach, allUsable]; rfl
  | f :: fs => by
    rw [changeOfEach, allUsable, ← isOk_change f, ← isOk_changeOfEach fs]
    cases change existing f with
    | error => rfl
    | ok c => cases changeOfEach existing fs <;> rfl

end

end Filter

/-! ## Answers that are offered -/

/-- A filter can be written to a feature exactly if it is usable as an answer, whatever the feature has. So each
answer that a question of an accepted layer offers, and does not hide, can be written to every feature. -/
theorem change_succeeds_iff_usable :
    (∀ (f : Filter) (existing : Properties), (∃ change, f.change existing = .ok change) ↔ f.isUsable = true) ∧
    ∀ (d : Document) (place : String), (Layer.validateLayer.convert d place).isOk = true →
      ∃ l, Config.Layer.ofDocument place d = .ok l ∧
        ∀ r ∈ l.renderings, r.isQuestion = true → ∀ m ∈ r.mappings, m.isHidden = false →
          ∀ existing, ∃ change, m.holdsIf.change existing = .ok change := by
  have hiff : ∀ (f : Filter) (existing : Properties),
      (∃ change, f.change existing = .ok change) ↔ f.isUsable = true := by
    intro f existing
    rw [exists_ok_iff_isOk, Filter.isOk_change]
  refine ⟨hiff, fun d place hok => ?_⟩
  obtain ⟨l, hread, hsound⟩ := Layer.exists_sound_of_isOk hok
  refine ⟨l, hread, fun r hr hquestion m hm hshown existing => ?_⟩
  exact (hiff m.holdsIf existing).mpr (Layer.isUsable_of_isSound hsound hr hquestion hm hshown)

/-- A layer of heights: the comparison is hidden, the two other answers are offered. -/
def heightLayer : Document :=
  .object
    [("id", .text "wall"), ("source", .object [("osmTags", .text "barrier=wall")]),
     ("tagRenderings", .list [.object
       [("id", .text "height"), ("question", .text "How high?"), ("mappings", .list
         [.object [("if", .text "height>3"), ("then", .text "High"), ("hideInAnswer", .bool true)],
          .object [("if", .text "height=1"), ("then", .text "Low")],
          .object [("if", .object [("or", .list [.object [("and", .list [.text "height=", .text "ref:=\x7bid\x7d"])]])]),
            ("then", .text "None")]])]])]

/-- The comparison could not be written; what is offered can. -/
theorem change_succeeds_iff_usable_wall :
    (Layer.validateLayer.convert heightLayer "layers").isOk = true ∧
      ∃ l, Config.Layer.ofDocument "layers" heightLayer = .ok l ∧
        (l.renderings.flatMap (·.mappings)).map (fun m => (m.isHidden, m.holdsIf.isUsable)) =
          [(true, false), (false, true), (false, true)] ∧
        ∀ r ∈ l.renderings, r.isQuestion = true → ∀ m ∈ r.mappings, m.isHidden = false →
          ∀ existing, ∃ change, m.holdsIf.change existing = .ok change := by
  have hok : (Layer.validateLayer.convert heightLayer "layers").isOk = true := by decide +kernel
  have hmappings : (Config.Layer.ofDocument "layers" heightLayer).toOption.map (fun l =>
      (l.renderings.flatMap (·.mappings)).map fun m => (m.isHidden, m.holdsIf.isUsable)) =
        some [(true, false), (false, true), (false, true)] := by decide +kernel
  obtain ⟨l, hread, hanswers⟩ := change_succeeds_iff_usable.2 heightLayer "layers" hok
  rw [hread] at hmappings
  exact ⟨hok, l, hread, Option.some.inj hmappings, hanswers⟩

end MapTheme
