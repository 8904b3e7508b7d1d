/-
  MapTheme.Proofs.Layer.Validation — the verdict on a layer depends on neither the order of its keys nor
  its place.

  A layer has no errors when it is read, every call in it is known and every answer it offers can be
  written (`isSound`); what else is checked only warns. All of this is read off the layer alone.
-/

import MapTheme.Layer.Validation
import MapTheme.Proofs.Config.Reading
import MapTheme.Proofs.Step.Diagnostics

namespace MapTheme.Layer

open Config (Rendering Mapping)

/-- Does every call name a visualisation that there is? -/
def callsKnown (texts : List String) : Bool :=
  (Special.callsOfTexts texts).all fun call => (Special.find? call.name).isSome

/-- Can an answer be written, where it is offered? -/
def isWritable (r : Rendering) (m : Mapping) : Bool := !(r.isQuestion && !m.isHidden && !m.holdsIf.isUsable)

def isSoundRendering (r : Rendering) : Bool := r.mappings.all (isWritable r) && callsKnown r.shownTexts

def isSound (l : Config.Layer) : Bool :=
  (l.title.map fun r => callsKnown r.shownTexts).getD true && l.renderings.all isSoundRendering

theorem hasErrors_checkAnswer (r : Rendering) (m : Mapping) (place : String) :
    (checkAnswer r m place).notes.hasErrors = !isWritable r m := by
  simp only [checkAnswer, isWritable, Bool.not_not]
  split <;> simp_all

theorem hasErrors_checkShadowed (r : Rendering) (earlier : List Mapping) (m : Mapping) (place : String) :
    (checkShadowed r earlier m place).notes.hasErrors = false := by
  unfold checkShadowed
  split
  · rfl
  · split <;> rfl

theorem hasErrors_checkErasing (r : Rendering) (m : Mapping) (place : String) :
    (checkErasing r m place).notes.hasErrors = false := by
  unfold checkErasing
  split
  · split <;> rfl
  · rfl

theorem hasErrors_checkMappings (r : Rendering) (place : String) (earlier ms : List Mapping) :
    (checkMappings r place earlier ms).notes.hasErrors = !ms.all (isWritable r) := by
  induction ms generalizing earlier with
  | nil => rfl
  | cons m rest ih =>
    simp only [checkMappings, Noted.notes_bind, Diagnostics.hasErrors_append, hasErrors_checkAnswer,
      hasErrors_checkShadowed, hasErrors_checkErasing, ih, Bool.false_or, List.all_cons, Bool.not_and]

theorem hasErrors_checkCalls (texts : List String) (place : String) :
    (checkCalls texts place).notes.hasErrors = !callsKnown texts := by
  rw [checkCalls, Noted.hasErrors_forEach, callsKnown, List.not_all_eq_any_not]
  congr 1
  funext call
  cases (Special.find? call.name).isSome <;> rfl

theorem hasErrors_checkPresets (l : Config.Layer) (place : String) :
    (checkPresets l place).notes.hasErrors = false := by
  unfold checkPresets
  split
  · split
    · rfl
    · rw [Noted.hasErrors_forEach, List.any_eq_false]
      rintro ⟨preset, i⟩ -
      dsimp only
      split <;> simp
  · rfl

theorem hasErrors_checkRenderings (rs : List Rendering) (place : String) :
    (Noted.forEach (fun (r, i) => do
      let renderingPlace := s!"{place}.tagRenderings[{i}]"
      checkMappings r renderingPlace [] r.mappings
      checkCalls r.shownTexts renderingPlace) rs.zipIdx).notes.hasErrors = rs.any (!isSoundRendering ·) := by
  refine Noted.hasErrors_forEach_zipIdx (fun r i => ?_) rs
  simp only [Noted.notes_bind, Diagnostics.hasErrors_append, hasErrors_checkMappings, hasErrors_checkCalls,
    isSoundRendering, Bool.not_and]

theorem hasErrors_checkLayer (l : Config.Layer) (place : String) :
    (checkLayer l place).notes.hasErrors = !isSound l := by
  have hrenderings := hasErrors_checkRenderings l.renderings place
  unfold checkLayer isSound
  rw [Bool.not_and, List.not_all_eq_any_not]
  cases l.title with
  | none =>
    rw [Noted.notes_bind, Diagnostics.hasErrors_append, hrenderings, hasErrors_checkPresets, Bool.or_false]
    rfl
  | some title =>
    rw [Noted.notes_bind, Diagnostics.hasErrors_append, hasErrors_checkCalls, Noted.notes_bind,
      Diagnostics.hasErrors_append, hrenderings, hasErrors_checkPresets, Bool.or_false]
    rfl

/-- A layer passes at a place when it is read there and is sound. -/
theorem isOk_validateLayer (d : Document) (place : String) :
    (validateLayer.convert d place).isOk = (Config.Layer.ofDocument place d).toOption.any isSound := by
  simp only [validateLayer]
  cases Config.Layer.ofDocument place d with
  | error => rfl
  | ok l =>
    simp [Noted.isOk_finish, hasErrors_checkLayer, Except.toOption]

/-- An accepted layer is read, and is sound. -/
theorem exists_sound_of_isOk {d : Document} {place : String} (h : (validateLayer.convert d place).isOk = true) :
    ∃ l, Config.Layer.ofDocument place d = .ok l ∧ isSound l = true := by
  rw [isOk_validateLayer] at h
  cases hread : Config.Layer.ofDocument place d with
  | error fault =>
    rw [hread] at h
    cases h
  | ok l =>
    rw [hread] at h
    exact ⟨l, rfl, h⟩

/-- The answers that a sound layer offers are usable. -/
theorem isUsable_of_isSound {l : Config.Layer} (h : isSound l = true) {r : Rendering} (hr : r ∈ l.renderings)
    (hquestion : r.isQuestion = true) {m : Mapping} (hm : m ∈ r.mappings) (hshown : m.isHidden = false) :
    m.holdsIf.isUsable = true := by
  simp only [isSound, Bool.and_eq_true, List.all_eq_true] at h
  have hrendering := h.2 r hr
  simp only [isSoundRendering, Bool.and_eq_true, List.all_eq_true] at hrendering
  simpa [isWritable, hquestion, hshown] using hrendering.1 m hm

/-- Layers that are alike get the same verdict, wherever they stand. -/
theorem isOk_validateLayer_congr {a b : Document} (h : a.Alike b) (p q : String) :
    (validateLayer.convert a p).isOk = (validateLayer.convert b q).isOk := by
  rw [isOk_validateLayer, isOk_validateLayer]
  have hread := Config.Layer.agree_ofDocument (p := p) (q := q) h
  generalize Config.Layer.ofDocument p a = x at hread
  generalize Config.Layer.ofDocument q b = y at hread
  cases hread with
  | error => rfl
  | ok hm => simp only [Except.toOption, Option.any_some, isSound, hm.title, hm.renderings]

end MapTheme.Layer
