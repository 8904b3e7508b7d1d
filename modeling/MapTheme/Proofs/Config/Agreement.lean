/-
  MapTheme.Proofs.Config.Agreement — readings of documents that are alike end alike.

  `Agree R x y`: both readings fail, or both give values that are related by `R`; what a failure says
  does not count. Here for shapes: documents that are alike fit the same shapes, and give fields with
  alike values.
-/

import MapTheme.Config.Fault
import MapTheme.Proofs.Document.Alike

namespace MapTheme

open List (Forall₂)

/-! ## Agreement -/

inductive Agree {ε ε' α β : Type} (R : α → β → Prop) : Except ε α → Except ε' β → Prop
  | ok {a b} (h : R a b) : Agree R (.ok a) (.ok b)
  | error {e e'} : Agree R (.error e) (.error e')

/-- Both readings succeed or both fail. -/
abbrev AgreeOnSuccess {ε ε' α β : Type} (x : Except ε α) (y : Except ε' β) : Prop := Agree (fun _ _ => True) x y

namespace Agree

variable {ε ε' ε₁ ε₂ α β γ δ : Type} {R : α → β → Prop} {S : γ → δ → Prop} {x : Except ε α} {y : Except ε' β}

theorem bind {f : α → Except ε γ} {g : β → Except ε' δ} (h : Agree R x y) (hf : ∀ a b, R a b → Agree S (f a) (g b)) :
    Agree S (x >>= f) (y >>= g) := by
  cases h with
  | ok hab => exact hf _ _ hab
  | error => exact .error

theorem bind_eq {x : Except ε α} {y : Except ε' α} {f : α → Except ε γ} {g : α → Except ε' δ} (h : Agree Eq x y)
    (hf : ∀ a, Agree S (f a) (g a)) : Agree S (x >>= f) (y >>= g) :=
  h.bind fun a _ hab => hab ▸ hf a

theorem imp {R' : α → β → Prop} (h : Agree R x y) (hR : ∀ a b, R a b → R' a b) : Agree R' x y := by
  cases h with
  | ok hab => exact .ok (hR _ _ hab)
  | error => exact .error

theorem map {f : α → γ} {g : β → δ} (h : Agree R x y) (hf : ∀ a b, R a b → S (f a) (g b)) :
    Agree S (x.map f) (y.map g) := by
  cases h with
  | ok hab => exact .ok (hf _ _ hab)
  | error => exact .error

theorem map_eq {x : Except ε α} {y : Except ε' α} (h : Agree Eq x y) (f : α → γ) : Agree Eq (x.map f) (y.map f) :=
  h.map fun _ _ => congrArg f

theorem mapError {f : ε → ε₁} {g : ε' → ε₂} (h : Agree R x y) : Agree R (x.mapError f) (y.mapError g) := by
  cases h with
  | ok hab => exact .ok hab
  | error => exact .error

theorem isOk_eq (h : Agree R x y) : x.isOk = y.isOk := by
  cases h <;> rfl

theorem self {x : Except ε α} : Agree Eq x x := by
  cases x with
  | ok => exact .ok (.refl _)
  | error => exact .error

theorem of_isOk_eq (h : x.isOk = y.isOk) : AgreeOnSuccess x y := by
  cases x <;> cases y <;> simp only [Except.isOk, Except.toBool, reduceCtorEq] at h
  case error.error => exact .error
  case ok.ok => exact .ok trivial

theorem of_toOption_eq {x : Except ε α} {y : Except ε' α} (h : x.toOption = y.toOption) : Agree Eq x y := by
  cases x <;> cases y <;> simp only [Except.toOption, Option.some.injEq, reduceCtorEq] at h
  case error.error => exact .error
  case ok.ok => exact .ok h

end Agree

/-! ## Parts of documents that are alike -/

/-- Both documents are missing, or both are there and alike. -/
abbrev Document.AlikeIfAny (x y : Option Document) : Prop := Option.Rel Document.Alike x y

namespace Document.AlikeIfAny

variable {x y : Option Document}

theorem isSome_eq (h : AlikeIfAny x y) : x.isSome = y.isSome := by
  cases h <;> rfl

theorem getD_null (h : AlikeIfAny x y) : (x.getD .null).Alike (y.getD .null) := by
  cases h with
  | none => exact .refl .null
  | some hab => exact hab

theorem filter_isNull (h : AlikeIfAny x y) : AlikeIfAny (x.filter (!·.isNull)) (y.filter (!·.isNull)) := by
  cases h with
  | none => exact .none
  | some hab =>
    cases hab.view with
    | null => exact .none
    | bool | number | text | list | object => exact .some hab

theorem bind_eq {β : Type} {f : Document → Option β} (h : AlikeIfAny x y) (hf : ∀ {a b}, a.Alike b → f a = f b) :
    x.bind f = y.bind f := by
  cases h with
  | none => rfl
  | some hab => exact hf hab

theorem bind {f : Document → Option Document} (h : AlikeIfAny x y)
    (hf : ∀ {a b}, a.Alike b → AlikeIfAny (f a) (f b)) : AlikeIfAny (x.bind f) (y.bind f) := by
  cases h with
  | none => exact .none
  | some hab => exact hf hab

theorem map_eq {β : Type} {f : Document → β} (h : AlikeIfAny x y) (hf : ∀ {a b}, a.Alike b → f a = f b) :
    x.map f = y.map f := by
  cases h with
  | none => rfl
  | some hab => exact congrArg some (hf hab)

theorem list?_getD (h : AlikeIfAny x y) : Forall₂ Alike ((x.bind list?).getD []) ((y.bind list?).getD []) := by
  cases h with
  | none => exact .nil
  | some hab =>
    cases hab.view with
    | list hitems => exact hitems
    | null | bool | number | text | object => exact .nil

end Document.AlikeIfAny

namespace Document.Alike

variable {a b : Document}

theorem isObject_eq (h : a.Alike b) : a.isObject = b.isObject := by
  cases h.view <;> rfl

theorem get? (h : a.Alike b) (key : String) : AlikeIfAny (a.get? key) (b.get? key) := by
  cases h.view with
  | object hs => exact hs.get? key
  | null | bool | number | text | list => exact .none

theorem textAt?_eq (h : a.Alike b) (key : String) : a.textAt? key = b.textAt? key :=
  (h.get? key).bind_eq fun hab => by cases hab.view <;> rfl

end Document.Alike

namespace Fields

variable {fs gs : Fields} {key : String}

/-- The two objects have alike values under the key, or both none. -/
abbrev AlikeAt (fs gs : Fields) (key : String) : Prop := Document.AlikeIfAny (get? fs key) (get? gs key)

theorem AlikeAt.has_eq (h : AlikeAt fs gs key) : has fs key = has gs key := by
  rw [has_eq_isSome_get?, has_eq_isSome_get?]
  exact h.isSome_eq

theorem AlikeAt.given? (h : AlikeAt fs gs key) : Document.AlikeIfAny (fs.given? key) (gs.given? key) :=
  h.filter_isNull

theorem AlikeAt.textGiven?_eq (h : AlikeAt fs gs key) : fs.textGiven? key = gs.textGiven? key :=
  h.given?.bind_eq fun hab => by cases hab.view <;> rfl

theorem AlikeAt.textOr_eq (h : AlikeAt fs gs key) (default : String) : fs.textOr key default = gs.textOr key default :=
  congrArg (Option.getD · default) h.textGiven?_eq

theorem AlikeAt.flagAt_eq (h : AlikeAt fs gs key) : fs.flagAt key = gs.flagAt key :=
  congrArg (Option.getD · false) (h.bind_eq fun hab => by cases hab.view <;> rfl)

theorem AlikeAt.itemsAt (h : AlikeAt fs gs key) : Forall₂ Document.Alike (fs.itemsAt key) (gs.itemsAt key) :=
  h.list?_getD

theorem filterMap_text?_eq {as bs : List Document} (h : Forall₂ Document.Alike as bs) :
    as.filterMap Document.text? = bs.filterMap Document.text? := by
  induction h with
  | nil => rfl
  | cons hab _ ih =>
    have ht : ∀ {a b : Document}, a.Alike b → a.text? = b.text? := fun hab => by cases hab.view <;> rfl
    rw [List.filterMap_cons, List.filterMap_cons, ht hab, ih]

theorem AlikeAt.textsAt_eq (h : AlikeAt fs gs key) : fs.textsAt key = gs.textsAt key := filterMap_text?_eq h.itemsAt

theorem alikeAt_zip {as bs : List Document} (h : Forall₂ Document.Alike as bs) (names : List String) (key : String) :
    AlikeAt (names.zip as) (names.zip bs) key := by
  induction h generalizing names with
  | nil => rw [List.zip_nil_right]; exact .none
  | cons hab _ ih =>
    cases names with
    | nil => exact .none
    | cons name names =>
      simp only [AlikeAt, get?, List.zip_cons_cons, List.lookup_cons] at ih ⊢
      split
      · exact .some hab
      · exact ih names

end Fields

namespace Config

open Document (Alike)

/-! ## Shapes -/

/-- A check that does not tell apart documents that are alike. -/
def Respectful (check : Check) : Prop := ∀ {a b : Document}, a.Alike b → AgreeOnSuccess (check a) (check b)

variable {checks : List (String × Need × Check)}

theorem agree_checkAll {check : Check} (hc : Respectful check) {as bs : List Document} (h : Forall₂ Alike as bs) :
    AgreeOnSuccess (checkAll check as) (checkAll check bs) := by
  induction h with
  | nil => exact .ok trivial
  | cons hab _ ih => exact (hc hab).bind fun _ _ _ => ih

/-- Does a field pass the check of its name? -/
def passes (checks : List (String × Need × Check)) (f : String × Document) : Bool :=
  match checks.lookup f.1 with
  | some (_, check) => (check f.2).isOk
  | none => true

theorem isOk_checkFields (checks : List (String × Need × Check)) (fields : Fields) :
    (checkFields checks fields).isOk = fields.all (passes checks) := by
  induction fields with
  | nil => rfl
  | cons f rest ih =>
    obtain ⟨k, d⟩ := f
    rw [List.all_cons, ← ih, checkFields, passes]
    cases checks.lookup k with
    | none => rfl
    | some c => dsimp only; cases c.2 d <;> rfl

theorem passes_congr (hc : ∀ c ∈ checks, Respectful c.2.2) {f g : String × Document} (hk : f.1 = g.1)
    (h : f.2.Alike g.2) : passes checks f = passes checks g := by
  unfold passes
  rw [hk]
  split
  · rename_i need check hl
    obtain ⟨_, _, he, _⟩ := List.lookup_eq_some_iff.mp hl
    exact (hc (g.1, need, check) (by simp [he]) h).isOk_eq
  · rfl

theorem all_passes_congr (hc : ∀ c ∈ checks, Respectful c.2.2) {fs gs : Fields} (h : Fields.Alike fs gs) :
    fs.all (passes checks) = gs.all (passes checks) := by
  obtain ⟨hs, hall, hperm, -⟩ := h
  rw [← hperm.all_eq]
  clear hperm
  induction hall with
  | nil => rfl
  | cons hfh _ ih => rw [List.all_cons, List.all_cons, passes_congr hc hfh.1 hfh.2, ih]

theorem agree_checkMissing {fs gs : Fields} (h : ∀ key, Fields.has fs key = Fields.has gs key) :
    checkMissing checks fs = checkMissing checks gs := by
  simp only [checkMissing, h]

/-- Objects with the same keys and fields of which all or not all pass fit a record or both do not. -/
theorem agree_checkRecord_object {name : String} {fs gs : Fields}
    (hall : fs.all (passes checks) = gs.all (passes checks)) (hhas : ∀ key, Fields.has fs key = Fields.has gs key) :
    AgreeOnSuccess (checkRecord name checks (.object fs)) (checkRecord name checks (.object gs)) := by
  have hfields : AgreeOnSuccess (checkFields checks fs) (checkFields checks gs) :=
    .of_isOk_eq (by rw [isOk_checkFields, isOk_checkFields, hall])
  exact hfields.bind fun _ _ _ => .of_isOk_eq (by rw [agree_checkMissing hhas])

theorem agree_checkPositions (record : String) (count : Nat) (hc : ∀ c ∈ checks, Respectful c.2.2)
    {as bs : List Document} (h : Forall₂ Alike as bs) (index : Nat) :
    AgreeOnSuccess (checkPositions record count index checks as) (checkPositions record count index checks bs) := by
  induction checks generalizing as bs index with
  | nil => cases h <;> constructor; trivial
  | cons c rest ih =>
    obtain ⟨name, need, check⟩ := c
    have ih := @ih fun c hm => hc c (List.mem_cons_of_mem _ hm)
    cases h with
    | nil =>
      simp only [checkPositions]
      split
      · exact ih .nil (index + 1)
      · exact .error
    | cons hab h =>
      exact (hc (name, need, check) List.mem_cons_self hab).bind fun _ _ _ => ih h (index + 1)

theorem respectful_checkRecord (name : String) (hc : ∀ c ∈ checks, Respectful c.2.2) :
    Respectful (checkRecord name checks) := by
  intro a b h
  cases h.view with
  | list hs => exact agree_checkPositions name checks.length hc hs 0
  | object hs => exact agree_checkRecord_object (all_passes_congr hc hs) fun key => (Fields.AlikeAt.has_eq (hs.get? key))
  | null | bool | number | text => exact .error

theorem agree_sourceFields {x y x' y' : Option Document} (h : Document.AlikeIfAny x y) (h' : Document.AlikeIfAny x' y') :
    AgreeOnSuccess
      (match x, x' with
        | some _, none | some _, some .null | some _, some (.text _) => Except.ok ()
        | _, _ => .error ShapeProblem.noVariant)
      (match y, y' with
        | some _, none | some _, some .null | some _, some (.text _) => Except.ok ()
        | _, _ => .error ShapeProblem.noVariant) := by
  cases h with
  | none => exact .error
  | some _ =>
    cases h' with
    | none => exact .ok trivial
    | some hab =>
      cases hab.view with
      | null | text => exact .ok trivial
      | bool | number | list | object => exact .error

theorem respectful_checkSource : Respectful checkSource := by
  intro a b h
  cases h.view with
  | text => exact .ok trivial
  | object hs =>
    simp only [checkSource]
    exact agree_sourceFields (hs.get? "osmTags") (hs.get? "geoJson")
  | null | bool | number | list => exact .error

namespace Shape

mutual

/-- Documents that are alike fit the same shapes. -/
theorem respectful_check : ∀ s : Shape, Respectful s.check
  | any => fun _ => .ok trivial
  | text => fun h => by
    cases h.view with
    | text => exact .ok trivial
    | null | bool | number | list | object => exact .error
  | flag => fun h => by
    cases h.view with
    | bool => exact .ok trivial
    | null | number | text | list | object => exact .error
  | number => fun h => by
    cases h.view with
    | number => exact .ok trivial
    | null | bool | text | list | object => exact .error
  | list item => fun h => by
    cases h.view with
    | list hs => exact agree_checkAll (respectful_check item) hs
    | null | bool | number | text | object => exact .error
  | optional s => fun h => by
    have hs := respectful_check s h
    simp only [check]
    cases h.view with
    | null => exact .ok trivial
    | bool | number | text | list | object => exact hs
  | record name fields => respectful_checkRecord name (respectful_checksOf fields)
  | source => respectful_checkSource

theorem respectful_checksOf : ∀ fields : List (String × Need × Shape), ∀ c ∈ checksOf fields, Respectful c.2.2
  | [], c, h => by simp [checksOf] at h
  | (name, need, s) :: rest, c, h => by
    rcases List.mem_cons.mp h with rfl | h
    · exact respectful_check s
    · exact respectful_checksOf rest c h

end

theorem alikeAt_fieldsOf (s : Shape) {a b : Document} (h : a.Alike b) (key : String) :
    Fields.AlikeAt (s.fieldsOf a) (s.fieldsOf b) key := by
  cases h.view with
  | list hs => exact Fields.alikeAt_zip hs s.fieldNames key
  | object hs => exact hs.get? key
  | null | bool | number | text => exact .none

theorem agree_read (s : Shape) {a b : Document} (h : a.Alike b) :
    Agree (fun fs gs => ∀ key, Fields.AlikeAt fs gs key) (s.read a) (s.read b) :=
  (respectful_check s h).bind fun _ _ _ => .ok (alikeAt_fieldsOf s h)

end Shape

end Config

end MapTheme
