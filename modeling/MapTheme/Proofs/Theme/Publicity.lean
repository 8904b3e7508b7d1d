/-
  MapTheme.Proofs.Theme.Publicity — only the personal theme sees which layers are public.

  A function that looks something up in the library looks into its layers, renderings and settings. The two that call
  themselves — references inside layers, rounds of dependencies — are the same for other public layers by induction on
  their fuel; of the steps of a theme, all but the second are then the same (`drop_preparationSteps_withPublic`). The
  second does nothing to a theme that is not the personal one, and the first keeps the id by which it knows it.
-/

import MapTheme.Proofs.Step.Basic
import MapTheme.Proofs.Theme.Origin
import MapTheme.Theme.Preparation

namespace MapTheme

/-- The library with other public layers. -/
def Library.withPublic (lib : Library) (ids : List String) : Library := { lib with publicLayers := ids }

variable (lib : Library) (ids : List String)

/-! ## Layers -/

namespace Rendering

theorem expandEntry_withPublic (limit : Nat) (place : String) (fuel : Nat) :
    expandEntry (lib.withPublic ids) limit place fuel = expandEntry lib limit place fuel := by
  induction fuel with
  | zero => rfl
  | succ fuel ih =>
    have hlookUp : lookUp (lib.withPublic ids) = lookUp lib := rfl
    funext depth entry
    simp only [expandEntry, ih, hlookUp]

theorem expandReference_withPublic : expandReference (lib.withPublic ids) = expandReference lib := by
  simp only [expandReference, resolve, expandEntry_withPublic]
  rfl

end Rendering

theorem Layer.prepareLayer_withPublic : prepareLayer (lib.withPublic ids) = prepareLayer lib := by
  have hicons : expandTitleIcon (lib.withPublic ids) = expandTitleIcon lib := rfl
  have hmap : addMiniMap (lib.withPublic ids) = addMiniMap lib := rfl
  have hquestions : addQuestionBox (lib.withPublic ids) = addQuestionBox lib := rfl
  have hfilter : expandFilter (lib.withPublic ids) = expandFilter lib := rfl
  simp only [prepareLayer, preparationSteps, Rendering.expandReference_withPublic, hicons, hmap, hquestions, hfilter]

/-! ## Themes -/

namespace Theme

theorem addMissing_withPublic (place theme : String) (rounds : Nat) :
    addMissing (lib.withPublic ids) place theme rounds = addMissing lib place theme rounds := by
  induction rounds with
  | zero => rfl
  | succ rounds ih =>
    have hinject : inject (lib.withPublic ids) = inject lib := rfl
    funext layers
    simp only [addMissing, ih, hinject]

theorem addDependencyLayers_withPublic : addDependencyLayers (lib.withPublic ids) = addDependencyLayers lib := by
  have hlayers : (lib.withPublic ids).layers = lib.layers := rfl
  simp only [addDependencyLayers, addMissing_withPublic, hlayers]

theorem checkLayers_withPublic (place : String) (seen : List String) (index : Nat) (layers : List Document) :
    checkLayers (lib.withPublic ids) place seen index layers = checkLayers lib place seen index layers := by
  induction layers generalizing seen index with
  | nil => rfl
  | cons layer rest ih =>
    have hshared : isShared (lib.withPublic ids) = isShared lib := rfl
    simp only [checkLayers, ih, hshared]

theorem validateTheme_withPublic : validateTheme (lib.withPublic ids) = validateTheme lib := by
  simp only [validateTheme, checkLayers_withPublic]

/-- The steps behind that for the personal theme. -/
theorem drop_preparationSteps_withPublic :
    (preparationSteps (lib.withPublic ids)).drop 2 = (preparationSteps lib).drop 2 := by
  have hlayers : substituteLayer (lib.withPublic ids) = substituteLayer lib := rfl
  have hsettings : (lib.withPublic ids).settings = lib.settings := rfl
  have hdefaults : addDefaultLayers (lib.withPublic ids) = addDefaultLayers lib := rfl
  have himports : addImportLayers (lib.withPublic ids) = addImportLayers lib := rfl
  simp only [preparationSteps, List.drop_succ_cons, List.drop_zero, Layer.prepareLayer_withPublic,
    addDependencyLayers_withPublic, validateTheme_withPublic, hlayers, hsettings, hdefaults, himports]

variable {lib ids} {input : Document}

theorem convert_preparePersonalTheme (h : input.id? ≠ some "personal") (place : String) :
    (preparePersonalTheme lib).convert input place = .success input := by
  simp [preparePersonalTheme, h]

/-- The outcome of a theme that is not the personal one, notes included, is the same for other public layers. -/
theorem convert_prepareTheme_withPublic (h : input.id? ≠ some "personal") (place : String) :
    (prepareTheme (lib.withPublic ids)).convert input place = (prepareTheme lib).convert input place := by
  have hsplit : ∀ lib : Library, (prepareTheme lib).convert input place =
      Step.runAll place (annotateWordings "themes:" :: preparePersonalTheme lib :: (preparationSteps lib).drop 2)
        ⟨input, .empty⟩ := fun _ => rfl
  rw [hsplit, hsplit, drop_preparationSteps_withPublic]
  cases hid : input.id? with
  | none =>
    simp only [Step.runAll, annotateWordings, hid]
    rfl
  | some id =>
    have hnoted : (annotateWordings "themes:").convert input place = .success (annotate ("themes:" ++ id) false input) := by
      simp only [annotateWordings, hid]
    have hkept : (annotate ("themes:" ++ id) false input).id? ≠ some "personal" := by
      rw [id?_annotate]
      exact h
    rw [Step.runAll_cons_of_success hnoted, Step.runAll_cons_of_success hnoted,
      Step.runAll_cons_of_success (convert_preparePersonalTheme hkept place),
      Step.runAll_cons_of_success (convert_preparePersonalTheme hkept place)]

end Theme

end MapTheme
