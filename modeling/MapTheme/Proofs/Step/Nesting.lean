/-
  MapTheme.Proofs.Step.Nesting — sequences inside sequences.

  A sequence may be cut in two and each half be made a sequence of its own: the outcome is the same, but that the
  errors of the half that fails have its name before them (`fuse_append`). A run adds its notes to those it starts
  with (`runAll_from`), a run of two lists of steps is a run of the second on what the first leaves
  (`runAll_append`), and a sequence among steps hands on what its run leaves (`runAll_fuse_cons`). All of this needs
  that a run has a result exactly if there is no error.
-/

import MapTheme.Proofs.Step.Honesty

namespace MapTheme

theorem Converted.hasErrors_of_isOk {α : Type} {c : Converted α} (h : c.isOk = true) : c.notes.hasErrors = false := by
  rw [Converted.isOk, Bool.and_eq_true] at h
  rw [Diagnostics.hasErrors, h.1]
  rfl

theorem Conversion.Honest.isOk_eq {α β : Type} {c : Conversion α β} (h : c.Honest) (input : α) (place : String) :
    (c.convert input place).isOk = (c.convert input place).result.isSome := by
  have hhonest := h input place
  cases hresult : (c.convert input place).result with
  | none =>
    rw [Converted.isOk, hresult]
    exact Bool.and_false _
  | some r =>
    rw [hresult] at hhonest
    simpa [Converted.isOk, Diagnostics.hasErrors, hresult] using hhonest

namespace Step

variable {place name doc : String}

/-! ## Runs one after the other -/

/-- The notes that a run starts with stay in front of its own. -/
theorem runAll_from (steps : List Step) (input : Document) {notes : Diagnostics} (hclean : notes.hasErrors = false) :
    runAll place steps ⟨input, notes⟩ =
      ⟨(runAll place steps ⟨input, .empty⟩).result, notes ++ (runAll place steps ⟨input, .empty⟩).notes⟩ := by
  induction steps generalizing input notes with
  | nil =>
    have hfinish : ∀ {notes : Diagnostics}, notes.hasErrors = false →
        runAll place [] ⟨input, notes⟩ = ⟨some input, notes⟩ := fun h => Noted.finish_of_no_errors h
    rw [hfinish hclean, hfinish Diagnostics.hasErrors_empty, Diagnostics.append_empty]
  | cons step rest ih =>
    simp only [runAll, Diagnostics.empty_append]
    split
    · rename_i r hok _
      have hstep := Converted.hasErrors_of_isOk hok
      have hboth : (notes ++ (step.convert input place).notes).hasErrors = false := by
        rw [Diagnostics.hasErrors_append, hclean, hstep, Bool.or_self]
      rw [ih r hboth, ih r hstep, Diagnostics.append_assoc]
    · rfl

/-- Steps behind others run on what those leave, if they leave something. -/
theorem runAll_append (first second : List Step) {current : Noted Document} (hclean : current.notes.hasErrors = false) :
    runAll place (first ++ second) current =
      match (runAll place first current).result with
      | some r => runAll place second ⟨r, (runAll place first current).notes⟩
      | none => runAll place first current := by
  induction first generalizing current with
  | nil =>
    have hfinish : runAll place [] current = ⟨some current.value, current.notes⟩ := Noted.finish_of_no_errors hclean
    rw [hfinish, List.nil_append]
  | cons step rest ih =>
    rw [List.cons_append]
    simp only [runAll]
    split
    · rename_i r hok _
      apply ih
      rw [Diagnostics.hasErrors_append, hclean, Converted.hasErrors_of_isOk hok, Bool.or_self]
    · rfl

theorem runAll_clean {steps : List Step} {input r : Document}
    (h : (runAll place steps ⟨input, .empty⟩).result = some r) :
    (runAll place steps ⟨input, .empty⟩).notes.hasErrors = false := by
  rw [Bool.eq_false_iff]
  intro herrors
  rw [(runAll_honest Diagnostics.hasErrors_empty).mpr herrors] at h
  cases h

/-! ## A sequence as a step -/

/-- A sequence that leaves something hands it on with its notes; one that fails puts its name before its errors. -/
theorem runAll_fuse_cons (steps rest : List Step) (input : Document) (notes : Diagnostics) :
    runAll place (fuse name doc steps :: rest) ⟨input, notes⟩ =
      match (runAll place steps ⟨input, .empty⟩).result with
      | some r => runAll place rest ⟨r, notes ++ (runAll place steps ⟨input, .empty⟩).notes⟩
      | none => ⟨none, notes ++ (runAll place steps ⟨input, .empty⟩).notes.under name⟩ := by
  have hconvert : (fuse name doc steps).convert input place = runAll place steps ⟨input, .empty⟩ := rfl
  have hok := (fuse_honest name doc steps).isOk_eq input place
  rw [hconvert] at hok
  rw [runAll, hconvert, hok]
  dsimp only
  cases hresult : (runAll place steps ⟨input, .empty⟩).result with
  | none =>
    rw [blamed_of_errors _ _ ((runAll_honest Diagnostics.hasErrors_empty).mp hresult)]
    rfl
  | some r => rfl

/-- The half in which a run of both ends: the second one, if the first leaves something for it. -/
def lastRun (first second : Step) (input : Document) (place : String) : Step :=
  if (first.convert input place).isOk then second else first

/-- Cut in two, a sequence has the outcome that it has in one piece, with the name of a half before the errors. -/
theorem convert_fuse_pair (name doc name₁ doc₁ name₂ doc₂ : String) (a b : List Step) (input : Document)
    (place : String) :
    (fuse name doc [fuse name₁ doc₁ a, fuse name₂ doc₂ b]).convert input place =
      ⟨(runAll place (a ++ b) ⟨input, .empty⟩).result, (runAll place (a ++ b) ⟨input, .empty⟩).notes.under
        (lastRun (fuse name₁ doc₁ a) (fuse name₂ doc₂ b) input place).name⟩ := by
  have hok : ((fuse name₁ doc₁ a).convert input place).isOk = (runAll place a ⟨input, .empty⟩).result.isSome :=
    (fuse_honest name₁ doc₁ a).isOk_eq input place
  show runAll place [fuse name₁ doc₁ a, fuse name₂ doc₂ b] ⟨input, .empty⟩ = _
  rw [runAll_fuse_cons, runAll_append a b Diagnostics.hasErrors_empty, lastRun, hok, Diagnostics.empty_append]
  cases hfirst : (runAll place a ⟨input, .empty⟩).result with
  | none =>
    simp only [hfirst]
    rfl
  | some middle =>
    have hclean := runAll_clean hfirst
    show runAll place [fuse name₂ doc₂ b] ⟨middle, (runAll place a ⟨input, .empty⟩).notes⟩ =
      ⟨(runAll place b ⟨middle, (runAll place a ⟨input, .empty⟩).notes⟩).result,
        (runAll place b ⟨middle, (runAll place a ⟨input, .empty⟩).notes⟩).notes.under name₂⟩
    rw [runAll_fuse_cons, runAll_from b middle hclean, Diagnostics.under_append,
      Diagnostics.under_of_no_errors name₂ hclean]
    cases hsecond : (runAll place b ⟨middle, .empty⟩).result with
    | none => rfl
    | some r =>
      have hboth : ((runAll place a ⟨input, .empty⟩).notes ++ (runAll place b ⟨middle, .empty⟩).notes).hasErrors = false := by
        rw [Diagnostics.hasErrors_append, hclean, runAll_clean hsecond, Bool.or_self]
      rw [Diagnostics.under_of_no_errors name₂ (runAll_clean hsecond)]
      exact Noted.finish_of_no_errors hboth

/-! ## Attributes -/

theorem eraseDups_filter {α : Type} [DecidableEq α] (p : α → Bool) (as : List α) :
    (as.filter p).eraseDups = as.eraseDups.filter p := by
  cases as with
  | nil => rfl
  | cons a as =>
    have hrest := eraseDups_filter p (as.filter fun b => !b == a)
    rw [List.eraseDups_cons]
    by_cases ha : p a = true
    · rw [List.filter_cons_of_pos ha, List.filter_cons_of_pos ha, List.eraseDups_cons, ← hrest, List.filter_comm]
    · have hsame : (as.filter fun b => !b == a).filter p = as.filter p := by
        rw [List.filter_filter]
        apply List.filter_congr
        intro b _
        by_cases hb : b = a <;> simp_all
      rw [List.filter_cons_of_neg ha, List.filter_cons_of_neg ha, ← hrest, hsame]
termination_by as.length
decreasing_by exact Nat.lt_succ_of_le (List.length_filter_le _ _)

theorem eraseDups_eraseDups {α : Type} [DecidableEq α] (as : List α) : as.eraseDups.eraseDups = as.eraseDups := by
  cases as with
  | nil => rfl
  | cons a as =>
    rw [List.eraseDups_cons, List.eraseDups_cons, ← eraseDups_filter, List.filter_filter]
    simp only [Bool.and_self]
    rw [eraseDups_eraseDups]
termination_by as.length
decreasing_by exact Nat.lt_succ_of_le (List.length_filter_le _ _)

/-- What parts of a list have once each is, once each, what the list has. -/
theorem eraseDups_append_eraseDups {α : Type} [DecidableEq α] (as bs : List α) :
    (as.eraseDups ++ bs.eraseDups).eraseDups = (as ++ bs).eraseDups := by
  have hmem : ∀ b, as.eraseDups.elem b = as.elem b := by
    intro b
    rw [Bool.eq_iff_iff, List.elem_iff, List.elem_iff, List.mem_eraseDups]
  rw [List.eraseDups_append, List.eraseDups_append, eraseDups_eraseDups, List.removeAll, List.removeAll,
    ← eraseDups_filter, eraseDups_eraseDups]
  simp only [hmem]

theorem modifiedBy_pair (name₁ doc₁ name₂ doc₂ : String) (a b : List Step) :
    modifiedBy [fuse name₁ doc₁ a, fuse name₂ doc₂ b] = modifiedBy (a ++ b) := by
  have hpair : [fuse name₁ doc₁ a, fuse name₂ doc₂ b].flatMap (·.modified) = modifiedBy a ++ modifiedBy b := by
    simp [fuse]
  rw [modifiedBy, hpair, modifiedBy, modifiedBy, eraseDups_append_eraseDups, modifiedBy, List.flatMap_append]

/-! ## Grouping -/

/-- Whether steps are run as one sequence or as two inside another one is to be seen only in the errors, which have
the name of the half that fails before them. -/
theorem fuse_append (name doc name₁ doc₁ name₂ doc₂ outer about : String) (a b : List Step) :
    let flat := fuse name doc (a ++ b)
    let first := fuse name₁ doc₁ a
    let second := fuse name₂ doc₂ b
    let nested := fuse outer about [first, second]
    nested.modified = flat.modified ∧ ∀ input place,
      (nested.convert input place).result = (flat.convert input place).result ∧
      (nested.convert input place).notes.warnings = (flat.convert input place).notes.warnings ∧
      (nested.convert input place).notes.information = (flat.convert input place).notes.information ∧
      (nested.convert input place).notes.errors =
        (flat.convert input place).notes.errors.map fun e => "[" ++ (lastRun first second input place).name ++ "] " ++ e := by
  intro flat first second nested
  refine ⟨modifiedBy_pair name₁ doc₁ name₂ doc₂ a b, fun input place => ?_⟩
  have hflat : flat.convert input place = runAll place (a ++ b) ⟨input, .empty⟩ := rfl
  have hnested := convert_fuse_pair outer about name₁ doc₁ name₂ doc₂ a b input place
  rw [← hflat] at hnested
  rw [hnested]
  exact ⟨rfl, rfl, rfl, rfl⟩

/-- The second half fails, and says so before the name of its step. -/
example : ((fuse "Outer" "" [fuse "First" "" [pass "Pass"], fuse "Second" "" [setDefault "id" .null true]]).convert
    .null "doc").notes.errors = ["[Second] [SetDefault(id)] doc: expected an object"] := by
  decide +kernel

end Step

end MapTheme
