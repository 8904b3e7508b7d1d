/-
  MapTheme.Proofs.Step.Diagnostics — values and errors of noted runs.

  A run has an error where one of its parts has one, and `finish` gives the value of a run without
  errors. What a run is good for is seen through `value` and `hasErrors` alone.
-/

import MapTheme.Step.Diagnostics

namespace MapTheme

namespace Diagnostics

@[simp] theorem hasErrors_empty : empty.hasErrors = false := rfl

@[simp] theorem hasErrors_append (a b : Diagnostics) : (a ++ b).hasErrors = (a.hasErrors || b.hasErrors) := by
  show (!(a.errors ++ b.errors).isEmpty) = _
  cases h : a.errors <;> simp [hasErrors, h]

@[simp] theorem append_empty (a : Diagnostics) : a ++ empty = a := by
  show append a empty = a
  simp [append, empty]

theorem errors_append (a b : Diagnostics) : (a ++ b).errors = a.errors ++ b.errors := rfl

end Diagnostics

namespace Noted

variable {α β : Type}

@[simp] theorem value_pure (a : α) : (pure a : Noted α).value = a := rfl

@[simp] theorem notes_pure (a : α) : (pure a : Noted α).notes = .empty := rfl

@[simp] theorem value_bind (x : Noted α) (f : α → Noted β) : (x >>= f).value = (f x.value).value := rfl

@[simp] theorem notes_bind (x : Noted α) (f : α → Noted β) : (x >>= f).notes = x.notes ++ (f x.value).notes := rfl

@[simp] theorem hasErrors_error (place message : String) : (error place message).notes.hasErrors = true := rfl

@[simp] theorem hasErrors_problem (message : String) : (problem message).notes.hasErrors = true := rfl

@[simp] theorem hasErrors_warn (place message : String) : (warn place message).notes.hasErrors = false := rfl

@[simp] theorem hasErrors_inform (place message : String) : (inform place message).notes.hasErrors = false := rfl

@[simp] theorem value_absorb (c : Converted α) : (absorb c).value = c.result := rfl

@[simp] theorem value_each (f : α → Noted β) (as : List α) : (each f as).value = as.map fun a => (f a).value := by
  induction as with
  | nil => rfl
  | cons a as ih => simp [each, ih]

@[simp] theorem hasErrors_each (f : α → Noted β) (as : List α) :
    (each f as).notes.hasErrors = as.any fun a => (f a).notes.hasErrors := by
  induction as with
  | nil => rfl
  | cons a as ih => simp [each, ih]

/-- Where the number of an item does not count, the numbered items do as well as the items. -/
theorem value_each_zipIdx {f : α × Nat → Noted β} {g : α → β} (h : ∀ a i, (f (a, i)).value = g a) (as : List α) :
    (each f as.zipIdx).value = as.map g := by
  have hfun : (fun x : α × Nat => (f x).value) = g ∘ Prod.fst := funext fun (a, i) => h a i
  rw [value_each, hfun, ← List.map_map, List.zipIdx_map_fst]

theorem hasErrors_each_zipIdx {f : α × Nat → Noted β} {bad : α → Bool}
    (h : ∀ a i, (f (a, i)).notes.hasErrors = bad a) (as : List α) :
    (each f as.zipIdx).notes.hasErrors = as.any bad := by
  have hfun : (fun x : α × Nat => (f x).notes.hasErrors) = bad ∘ Prod.fst := funext fun (a, i) => h a i
  rw [hasErrors_each, hfun, ← List.any_map, List.zipIdx_map_fst]

/-- Runs that note nothing note nothing together. -/
theorem notes_each_eq_empty {f : α → Noted β} {as : List α} (h : ∀ a ∈ as, (f a).notes = .empty) :
    (each f as).notes = .empty := by
  induction as with
  | nil => rfl
  | cons a as ih =>
    simp [each, h a List.mem_cons_self, ih fun b hb => h b (List.mem_cons_of_mem _ hb)]

theorem each_eq_pure {f : α → Noted β} {g : α → β} {as : List α} (h : ∀ a ∈ as, f a = pure (g a)) :
    each f as = pure (as.map g) := by
  induction as with
  | nil => rfl
  | cons a as ih =>
    rw [each, h a List.mem_cons_self, ih fun b hb => h b (List.mem_cons_of_mem _ hb)]
    rfl

@[simp] theorem hasErrors_forEach (f : α → Noted Unit) (as : List α) :
    (forEach f as).notes.hasErrors = as.any fun a => (f a).notes.hasErrors := by
  induction as with
  | nil => rfl
  | cons a as ih => simp [forEach, ih]

theorem hasErrors_forEach_zipIdx {f : α × Nat → Noted Unit} {bad : α → Bool}
    (h : ∀ a i, (f (a, i)).notes.hasErrors = bad a) (as : List α) :
    (forEach f as.zipIdx).notes.hasErrors = as.any bad := by
  have hfun : (fun x : α × Nat => (f x).notes.hasErrors) = bad ∘ Prod.fst := funext fun (a, i) => h a i
  rw [hasErrors_forEach, hfun, ← List.any_map, List.zipIdx_map_fst]

theorem mem_errors_each {f : α → Noted β} {as : List α} {message : String} :
    message ∈ (each f as).notes.errors ↔ ∃ a ∈ as, message ∈ (f a).notes.errors := by
  induction as with
  | nil => simp [each, Diagnostics.empty]
  | cons a as ih => simp [each, Diagnostics.errors_append, ih]

theorem mem_errors_forEach {f : α → Noted Unit} {as : List α} {message : String} :
    message ∈ (forEach f as).notes.errors ↔ ∃ a ∈ as, message ∈ (f a).notes.errors := by
  induction as with
  | nil => simp [forEach, Diagnostics.empty]
  | cons a as ih => simp [forEach, Diagnostics.errors_append, ih]

theorem isOk_finish (x : Noted α) : x.finish.isOk = !x.notes.hasErrors := by
  unfold finish Converted.isOk Diagnostics.hasErrors
  cases x.notes.errors.isEmpty <;> rfl

theorem result_finish {x : Noted α} {a : α} (h : x.finish.result = some a) :
    x.notes.hasErrors = false ∧ x.value = a := by
  unfold finish at h
  cases he : x.notes.hasErrors <;> simp_all

theorem finish_of_no_errors {x : Noted α} (h : x.notes.hasErrors = false) : x.finish = ⟨some x.value, x.notes⟩ := by
  simp [finish, h]

end Noted

end MapTheme
