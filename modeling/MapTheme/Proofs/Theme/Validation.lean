/-
  MapTheme.Proofs.Theme.Validation — what is known of a theme that passed its validation.

  It builds, it has layers, and each of them is the shared layer of its id or passed the validation of
  layers (`Checked`). The layers that are shared are left to the library: `Sound` says that each of
  those passed the validation of layers before.
-/

import MapTheme.Proofs.Layer.Validation
import MapTheme.Proofs.Step.Basic
import MapTheme.Theme.Preparation

namespace MapTheme

/-- Every shared layer has distinct keys and passes the validation of layers, wherever it stands. -/
structure Registry.Sound (layers : Registry) : Prop where
  distinct : ∀ f ∈ layers, f.2.Distinct
  valid : ∀ f ∈ layers, ∀ place, (Layer.validateLayer.convert f.2 place).isOk = true

namespace Theme

variable {lib : Library}

/-! ## Layers -/

/-- The layer is the shared layer of its id, or it passes on its own. -/
def Checked (lib : Library) (layer : Document) : Prop :=
  (∃ id, isShared lib id layer = true) ∨ ∀ place, (Layer.validateLayer.convert layer place).isOk = true

theorem isOk_of_no_errors {layer : Document} {place : String}
    (h : (Layer.validateLayer.convert layer place).notes.hasErrors = false) :
    (Layer.validateLayer.convert layer place).isOk = true := by
  simp only [Layer.validateLayer] at h ⊢
  cases hread : Config.Layer.ofDocument place layer with
  | error => rw [hread] at h; cases h
  | ok l => rw [hread] at h; rw [Noted.isOk_finish]; exact congrArg (!·) h

theorem checked_of_checkLayers {place : String} {layers : List Document} {seen : List String} {index : Nat}
    (h : (checkLayers lib place seen index layers).notes.hasErrors = false) :
    ∀ layer ∈ layers, Checked lib layer := by
  induction layers generalizing seen index with
  | nil => simp
  | cons layer rest ih =>
    simp only [checkLayers] at h
    split at h
    · simp at h
    · rename_i id _
      split at h
      · simp at h
      · split at h
        · exact List.forall_mem_cons.mpr ⟨.inl ⟨id, ‹_›⟩, ih h⟩
        · rw [Noted.notes_bind, Diagnostics.hasErrors_append, Bool.or_eq_false_iff] at h
          have hok := isOk_of_no_errors h.1
          have hvalid := fun p => (Layer.isOk_validateLayer_congr (.refl layer) p _).trans hok
          exact List.forall_mem_cons.mpr ⟨.inr hvalid, ih h.2⟩

/-- A layer that is the same as a sound shared layer is as good as that one. -/
theorem Checked.valid (hlib : lib.layers.Sound) {layer : Document} (h : Checked lib layer) (place : String) :
    (Layer.validateLayer.convert layer place).isOk = true := by
  rcases h with ⟨id, hshared⟩ | h
  · simp only [isShared] at hshared
    split at hshared
    · rename_i shared hfind
      have hmem := Fields.mem_of_get? hfind
      have halike := Document.alike_of_same (hlib.distinct _ hmem) hshared
      exact (Layer.isOk_validateLayer_congr halike place place).symm.trans (hlib.valid _ hmem place)
    · cases hshared
  · exact h place

/-! ## Themes -/

/-- What a theme has to be: one that builds, with layers that all pass. -/
structure Valid (theme : Document) : Prop where
  builds : ∀ place, (Config.Theme.ofDocument place theme).isOk = true
  layers : ∃ layers, theme.listAt? "layers" = some layers ∧ layers ≠ [] ∧
    ∀ layer ∈ layers, ∀ place, (Layer.validateLayer.convert layer place).isOk = true

theorem of_checkBuild {theme : Document} {checked : Noted Unit} (h : (checkBuild theme checked).notes.hasErrors = false) :
    checked.notes.hasErrors = false ∧ (Config.Theme.ofDocument "themes" theme).isOk = true := by
  simp only [checkBuild] at h
  split at h
  · rename_i herr
    exact absurd h (by simp [herr])
  · rename_i herr
    refine ⟨by simpa using herr, ?_⟩
    split at h
    · rename_i hbuild
      rw [hbuild]
      rfl
    · simp at h

theorem listAt?_of_layersOf_ne_nil {theme : Document} (h : layersOf theme ≠ []) :
    theme.listAt? "layers" = some (layersOf theme) := by
  unfold layersOf at h ⊢
  cases hl : theme.listAt? "layers" with
  | none => simp [hl] at h
  | some layers => rfl

/-- What validation has found nothing wrong with. -/
structure Passed (lib : Library) (theme : Document) (place : String) : Prop where
  id : (checkId theme place).notes.hasErrors = false
  title : (checkTitle theme place).notes.hasErrors = false
  some_layer : layersOf theme ≠ []
  layers : (checkLayers lib place [] 0 (layersOf theme)).notes.hasErrors = false
  builds : (Config.Theme.ofDocument "themes" theme).isOk = true

/-- Validation gives its input back, if that passes. -/
theorem result_validateTheme {input theme : Document} {place : String}
    (h : ((validateTheme lib).convert input place).result = some theme) : theme = input ∧ Passed lib input place := by
  simp only [validateTheme] at h
  split at h
  · cases h
  · rename_i hlayers
    obtain ⟨hclean, rfl⟩ := Noted.result_finish h
    rw [Noted.notes_bind, Noted.notes_pure, Diagnostics.append_empty] at hclean
    obtain ⟨hchecked, hbuilds⟩ := of_checkBuild hclean
    simp only [Noted.notes_bind, Diagnostics.hasErrors_append, Bool.or_eq_false_iff] at hchecked
    obtain ⟨⟨hid, htitle⟩, hlayer⟩ := hchecked
    exact ⟨rfl, hid, htitle, by simpa using hlayers, hlayer, hbuilds⟩

theorem isValidId_of_checkId {theme : Document} {place : String} (h : (checkId theme place).notes.hasErrors = false) :
    ∃ id, theme.id? = some id ∧ Config.isValidId id = true := by
  unfold checkId at h
  cases hid : theme.id? with
  | none =>
    rw [hid] at h
    simp at h
  | some id =>
    rw [hid] at h
    dsimp only at h
    split at h
    · exact ⟨id, rfl, ‹_›⟩
    · simp at h

/-- Against a sound library, what passes is a valid theme. -/
theorem Passed.valid (hlib : lib.layers.Sound) {theme : Document} {place : String} (h : Passed lib theme place) :
    Valid theme where
  builds _ := (Config.Theme.agree_ofDocument (.refl theme)).isOk_eq.trans h.builds
  layers := ⟨layersOf theme, listAt?_of_layersOf_ne_nil h.some_layer, h.some_layer,
    fun layer hm => (checked_of_checkLayers h.layers layer hm).valid hlib⟩

/-- A prepared theme has passed its validation, whatever the other steps made of it. -/
theorem passed_of_prepareTheme {input theme : Document} {place : String}
    (h : ((prepareTheme lib).convert input place).result = some theme) : Passed lib theme place := by
  have hrun : (Step.runAll place ((preparationSteps lib).dropLast ++ [validateTheme lib]) ⟨input, .empty⟩).result =
      some theme := h
  obtain ⟨last, -, -, hlast⟩ :=
    Step.exists_last_of_runAll (P := fun _ => True) (fun _ _ _ _ _ _ _ => trivial) trivial hrun
  obtain ⟨rfl, hpassed⟩ := result_validateTheme hlast
  exact hpassed

theorem prepareTheme_valid (hlib : lib.layers.Sound) {input theme : Document} {place : String}
    (h : ((prepareTheme lib).convert input place).result = some theme) : Valid theme :=
  (passed_of_prepareTheme h).valid hlib

end Theme

end MapTheme
