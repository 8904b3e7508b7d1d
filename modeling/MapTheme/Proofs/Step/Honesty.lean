/-
  MapTheme.Proofs.Step.Honesty — steps that have no result exactly if they report an error.

  Callers take "no errors" to mean a usable document, and the errors to be all of them. Both hold of every step
  that is put together from honest ones: a `Tree` says how a step is put together, and `Tree.runs` which base
  steps run for an input, in order. What the whole step notes is what these runs note, none lost and none
  repeated; a sequence only puts the name of its failed step before the errors (`tree_honest`).
-/

import MapTheme.Proofs.Step.Basic

namespace MapTheme

/-- There is no result exactly if there is an error. -/
def Conversion.Honest {α β : Type} (c : Conversion α β) : Prop :=
  ∀ input place, (c.convert input place).result = none ↔ (c.convert input place).notes.hasErrors = true

theorem Conversion.Honest.isSome {α β : Type} {c : Conversion α β} (h : c.Honest) (input : α) (place : String)
    (hclean : (c.convert input place).notes.hasErrors = false) : (c.convert input place).result.isSome = true := by
  rw [Option.isSome_iff_ne_none]
  intro hnone
  rw [(h input place).mp hnone] at hclean
  cases hclean

theorem forall₂_comp {α β γ : Type} {R : α → β → Prop} {S : β → γ → Prop} {as : List α} {bs : List β} {cs : List γ}
    (h : List.Forall₂ R as bs) (h' : List.Forall₂ S bs cs) : List.Forall₂ (fun a c => ∃ b, R a b ∧ S b c) as cs := by
  induction h generalizing cs with
  | nil =>
    cases h'
    exact .nil
  | cons hab _ ih =>
    cases h' with
    | cons hbc h' => exact .cons ⟨_, hab, hbc⟩ (ih h')

/-! ## Notes of several runs -/

namespace Diagnostics

@[simp] theorem empty_append (a : Diagnostics) : empty ++ a = a := rfl

theorem append_assoc (a b c : Diagnostics) : a ++ b ++ c = a ++ (b ++ c) := by
  show append (append a b) c = append a (append b c)
  simp [append]

/-- The notes of runs, one after the other. -/
def join : List Diagnostics → Diagnostics
  | [] => empty
  | d :: ds => d ++ join ds

theorem join_append (ds es : List Diagnostics) : join (ds ++ es) = join ds ++ join es := by
  induction ds with
  | nil => rfl
  | cons d ds ih => rw [List.cons_append, join, join, ih, append_assoc]

/-- Errors with the name of a step before them. -/
def under (name : String) (d : Diagnostics) : Diagnostics :=
  { d with errors := d.errors.map fun e => "[" ++ name ++ "] " ++ e }

theorem under_append (name : String) (a b : Diagnostics) : (a ++ b).under name = a.under name ++ b.under name := by
  show under name (append a b) = append (under name a) (under name b)
  simp [append, under]

theorem under_of_no_errors (name : String) {d : Diagnostics} (h : d.hasErrors = false) : d.under name = d := by
  obtain ⟨errors, warnings, information⟩ := d
  have herrors : errors = [] := by simpa [hasErrors] using h
  rw [herrors]
  rfl

theorem under_join (name : String) (ds : List Diagnostics) : (join ds).under name = join (ds.map (under name)) := by
  induction ds with
  | nil => rfl
  | cons d ds ih => rw [join, under_append, ih, List.map_cons, join]

end Diagnostics

theorem Noted.notes_each {α β : Type} (f : α → Noted β) (as : List α) :
    (each f as).notes = Diagnostics.join (as.map fun a => (f a).notes) := by
  induction as with
  | nil => rfl
  | cons a as ih => simp [each, ih, Diagnostics.join]

namespace Step

/-! ## Trees of steps -/

/-- How a step is put together. -/
inductive Tree
  | base (step : Step)
  | fuse (name doc : String) (parts : List Tree)
  | on (key : String) (part : Tree)
  | each (part : Tree)
  | concat (part : Expansion)
  | bypass (test : Document → Bool) (part : Tree)

/-- A base step that was run: the steps of sequences that it was part of, the outermost first, and its notes. -/
structure Run where
  trail : List String
  notes : Diagnostics

namespace Run

/-- The errors, as the whole step reports them. -/
def errors (r : Run) : List String :=
  r.notes.errors.map fun e => r.trail.foldr (fun name e => "[" ++ name ++ "] " ++ e) e

def inside (name : String) (r : Run) : Run := { r with trail := name :: r.trail }

/-- The notes, as the whole step reports them. -/
def report (r : Run) : Diagnostics := { r.notes with errors := r.errors }

theorem report_inside (name : String) (r : Run) : (r.inside name).report = r.report.under name := by
  simp [report, errors, inside, Diagnostics.under]

theorem report_of_no_trail (notes : Diagnostics) : report ⟨[], notes⟩ = notes := by
  simp [report, errors]

end Run

namespace Tree

mutual

def step : Tree → Step
  | base step => step
  | fuse name doc parts => .fuse name doc (stepsOf parts)
  | on key part => .on key part.step
  | each part => .each part.step
  | concat part => .concat part
  | bypass test part => .bypass test part.step

def stepsOf : List Tree → List Step
  | [] => []
  | part :: rest => part.step :: stepsOf rest

end

mutual

/-- All base steps are honest. -/
def Grounded : Tree → Prop
  | base step => step.Honest
  | fuse _ _ parts => AllGrounded parts
  | on _ part => part.Grounded
  | each part => part.Grounded
  | concat part => Conversion.Honest part
  | bypass _ part => part.Grounded

def AllGrounded : List Tree → Prop
  | [] => True
  | part :: rest => part.Grounded ∧ AllGrounded rest

end

mutual

/-- The base steps that run, in order. A list step counts as one run where it is not given a list. -/
def runs : Tree → Document → String → List Run
  | base step, input, place => [⟨[], (step.convert input place).notes⟩]
  | fuse _ _ parts, input, place => runsInOrder parts input place
  | on key part, input, place =>
    match input.get? key with
    | some field => part.runs field (fieldPlace place key)
    | none => []
  | each part, input, place =>
    match input with
    | .list items => items.zipIdx.flatMap fun (item, i) => part.runs item (itemPlace place i)
    | _ => [⟨[], .ofError place "expected a list"⟩]
  | concat part, input, place =>
    match input with
    | .list items => items.zipIdx.map fun (item, i) => ⟨[], (part.convert item (itemPlace place i)).notes⟩
    | _ => [⟨[], .ofError place "expected a list"⟩]
  | bypass test part, input, place => if test input then part.runs input place else []

/-- The runs of a sequence, which ends where a step has no result. -/
def runsInOrder : List Tree → Document → String → List Run
  | [], _, _ => []
  | part :: rest, input, place =>
    (part.runs input place).map (·.inside part.step.name) ++
      match (part.step.convert input place).result with
      | some next => runsInOrder rest next place
      | none => []

end

end Tree

/-! ## Honest combinations -/

theorem honest_success {α : Type} (result : α) :
    (Converted.success result).result = none ↔ (Converted.success result).notes.hasErrors = true := by
  simp [Converted.success]

theorem honest_failure {α : Type} (place message : String) :
    (Converted.failure (α := α) place message).result = none ↔
      (Converted.failure (α := α) place message).notes.hasErrors = true := by
  simp [Converted.failure, Diagnostics.hasErrors, Diagnostics.ofError]

theorem honest_map {α β : Type} {c : Converted α} (f : α → β) (h : c.result = none ↔ c.notes.hasErrors = true) :
    (c.map f).result = none ↔ (c.map f).notes.hasErrors = true := by
  rw [Converted.map, Option.map_eq_none_iff]
  exact h

theorem honest_finish {α : Type} (x : Noted α) : x.finish.result = none ↔ x.finish.notes.hasErrors = true := by
  unfold Noted.finish
  cases x.notes.hasErrors <;> simp

theorem blamed_of_errors (step : Step) (place : String) {notes : Diagnostics} (h : notes.hasErrors = true) :
    blamed step place notes = notes.under step.name := by
  unfold blamed
  rw [if_pos h]
  rfl

theorem hasErrors_blamed (step : Step) (place : String) (notes : Diagnostics) :
    (blamed step place notes).hasErrors = true := by
  have hnamed : ∀ d : Diagnostics, d.hasErrors = true → (d.under step.name).hasErrors = true := by
    intro d hd
    simpa [Diagnostics.hasErrors, Diagnostics.under] using hd
  unfold blamed
  by_cases h : notes.hasErrors = true
  · rw [if_pos h]
    exact hnamed notes h
  · rw [if_neg h]
    apply hnamed
    rw [Diagnostics.hasErrors_append]
    exact Bool.or_true _

theorem pass_honest (name : String) : (pass name).Honest := fun input _ => honest_success input

theorem setDefault_honest (key : String) (value : Document) (onlyMissing : Bool) :
    (setDefault key value onlyMissing).Honest := by
  intro input place
  simp only [setDefault]
  split
  · exact honest_success _
  · exact honest_failure place _

/-- A sequence is honest whatever its steps are: it ends at the first that has no result or an error, with an
error, and has a result otherwise. -/
theorem runAll_honest {place : String} {steps : List Step} {current : Noted Document}
    (h : current.notes.hasErrors = false) :
    (runAll place steps current).result = none ↔ (runAll place steps current).notes.hasErrors = true := by
  induction steps generalizing current with
  | nil => exact honest_finish current
  | cons step rest ih =>
    simp only [runAll]
    split
    · rename_i r hok hr
      apply ih
      have hclean : (step.convert current.value place).notes.hasErrors = false := by
        simp only [Converted.isOk, Bool.and_eq_true] at hok
        simp [Diagnostics.hasErrors, hok.1]
      rw [Diagnostics.hasErrors_append, h, hclean, Bool.or_self]
    · simp [hasErrors_blamed]

theorem fuse_honest (name doc : String) (steps : List Step) : (fuse name doc steps).Honest :=
  fun _ _ => runAll_honest Diagnostics.hasErrors_empty

theorem on_honest {step : Step} (h : step.Honest) (key : String) : (on key step).Honest := by
  intro input place
  simp only [on]
  split
  · split
    · exact honest_map _ (h _ _)
    · exact honest_success _
  · exact honest_success _

theorem each_honest (step : Step) : (each step).Honest := by
  intro input place
  simp only [each]
  split
  · exact honest_map _ (honest_finish _)
  · exact honest_failure place _

theorem concat_honest (step : Expansion) : (concat step).Honest := by
  intro input place
  simp only [concat]
  split
  · exact honest_map _ (honest_finish _)
  · exact honest_failure place _

theorem bypass_honest {step : Step} (h : step.Honest) (test : Document → Bool) : (bypass test step).Honest := by
  intro input place
  simp only [bypass]
  split
  · exact h input place
  · exact honest_success input

theorem Tree.step_honest : ∀ {t : Tree}, t.Grounded → t.step.Honest
  | .base _, h => h
  | .fuse name doc parts, _ => fuse_honest name doc (stepsOf parts)
  | .on key part, h => on_honest (step_honest (t := part) h) key
  | .each part, _ => each_honest part.step
  | .concat part, _ => concat_honest part
  | .bypass test part, h => bypass_honest (step_honest (t := part) h) test

/-- Of an honest step a list has one result for each item, in order, if it has any. -/
theorem exists_outputs_of_each {step : Step} (h : step.Honest) {items : List Document} {place : String}
    {result : Document} (hresult : ((each step).convert (.list items) place).result = some result) :
    ∃ outputs, result = .list outputs ∧
      items.zipIdx.map (fun (item, i) => (step.convert item (itemPlace place i)).result) = outputs.map some := by
  obtain ⟨outputs, hfound, rfl⟩ := Converted.result_of_map hresult
  refine ⟨outputs, rfl, ?_⟩
  obtain ⟨hclean, rfl⟩ := Noted.result_finish hfound
  simp only [convertItems, Noted.value_bind, Noted.value_pure, Noted.value_each, Noted.value_absorb,
    Noted.notes_bind, Noted.notes_pure, Diagnostics.append_empty, Noted.hasErrors_each, List.any_eq_false,
    List.filterMap_map] at hclean ⊢
  generalize items.zipIdx = numbered at hclean
  induction numbered with
  | nil => rfl
  | cons x rest ih =>
    obtain ⟨hx, hrest⟩ := List.forall_mem_cons.mp hclean
    have hsome : (step.convert x.1 (itemPlace place x.2)).result ≠ none := fun hnone => hx ((h _ _).mp hnone)
    obtain ⟨output, houtput⟩ := Option.ne_none_iff_exists'.mp hsome
    have hfirst : (id ∘ fun x : Document × Nat => (step.convert x.1 (itemPlace place x.2)).result) x = some output :=
      houtput
    rw [List.map_cons, List.filterMap_cons_some hfirst, List.map_cons, ih hrest]
    exact congrArg (· :: _) houtput

/-! ## What is reported -/

open MapTheme.Step.Tree

theorem notes_convertItems {β : Type} (step : Conversion Document β) (place : String) (items : List Document) :
    (convertItems step place items).notes =
      Diagnostics.join (items.zipIdx.map fun (item, i) => (step.convert item (itemPlace place i)).notes) := by
  rw [convertItems, Noted.notes_bind, Noted.notes_pure, Diagnostics.append_empty, Noted.notes_each]
  rfl

/-- The notes of some runs, as the whole step reports them. -/
def reports (rs : List Run) : Diagnostics := Diagnostics.join (rs.map Run.report)

theorem reports_append (rs qs : List Run) : reports (rs ++ qs) = reports rs ++ reports qs := by
  rw [reports, List.map_append, Diagnostics.join_append]
  rfl

theorem reports_inside (name : String) (rs : List Run) :
    reports (rs.map (·.inside name)) = (reports rs).under name := by
  rw [reports, reports, Diagnostics.under_join, List.map_map, List.map_map]
  congr 1
  exact List.map_congr_left fun r _ => Run.report_inside name r

theorem reports_of_no_trail (notes : Diagnostics) : reports [⟨[], notes⟩] = notes := by
  rw [reports, List.map_singleton, Run.report_of_no_trail, Diagnostics.join, Diagnostics.join,
    Diagnostics.append_empty]

theorem reports_flatMap {α : Type} (f : α → List Run) (as : List α) :
    reports (as.flatMap f) = Diagnostics.join (as.map fun a => reports (f a)) := by
  induction as with
  | nil => rfl
  | cons a as ih => rw [List.flatMap_cons, reports_append, ih, List.map_cons, Diagnostics.join]

mutual

/-- A step notes what its base steps note. -/
theorem notes_step : ∀ {t : Tree}, t.Grounded → ∀ input place,
    (t.step.convert input place).notes = reports (t.runs input place)
  | .base step, _, input, place => by
    rw [runs, reports_of_no_trail]
    rfl
  | .fuse name doc parts, h, input, place => by
    have hrun := notes_runAll parts h ⟨input, .empty⟩ place
    rw [Diagnostics.empty_append] at hrun
    exact hrun
  | .on key part, h, input, place => by
    cases input with
    | object fields =>
      have hget : (Document.object fields).get? key = Fields.get? fields key := rfl
      simp only [Tree.step, on, runs, hget]
      cases Fields.get? fields key with
      | none => rfl
      | some field => exact notes_step (t := part) h field _
    | null | bool | number | text | list => rfl
  | .each part, h, input, place => by
    cases input with
    | list items =>
      have hitems : (convertItems part.step place items).notes =
          reports (items.zipIdx.flatMap fun (item, i) => part.runs item (itemPlace place i)) := by
        rw [notes_convertItems, reports_flatMap]
        congr 1
        exact List.map_congr_left fun (item, i) _ => notes_step (t := part) h item _
      exact hitems
    | null | bool | number | text | object => exact (reports_of_no_trail _).symm
  | .concat part, _, input, place => by
    cases input with
    | list items =>
      have hitems : (convertItems part place items).notes =
          reports (items.zipIdx.map fun (item, i) => ⟨[], (part.convert item (itemPlace place i)).notes⟩) := by
        rw [notes_convertItems, reports, List.map_map]
        congr 1
        exact List.map_congr_left fun (item, i) _ => (Run.report_of_no_trail _).symm
      exact hitems
    | null | bool | number | text | object => exact (reports_of_no_trail _).symm
  | .bypass test part, h, input, place => by
    simp only [Tree.step, bypass, runs]
    split
    · exact notes_step (t := part) h input place
    · rfl

/-- A sequence notes what its steps note; the errors of the step that ends it name that step. -/
theorem notes_runAll : ∀ (parts : List Tree), AllGrounded parts → ∀ (current : Noted Document) (place : String),
    (runAll place (stepsOf parts) current).notes = current.notes ++ reports (runsInOrder parts current.value place)
  | [], _, current, place => by
    exact (Diagnostics.append_empty _).symm
  | part :: rest, h, current, place => by
    have hnotes := notes_step (t := part) h.1 current.value place
    have hhonest := step_honest (t := part) h.1 current.value place
    rw [runsInOrder, reports_append, reports_inside, ← hnotes, stepsOf]
    simp only [runAll]
    cases hresult : (part.step.convert current.value place).result with
    | none =>
      have herrors := hhonest.mp hresult
      have hok : (part.step.convert current.value place).isOk = false := by
        rw [Converted.isOk, hresult]
        exact Bool.and_false _
      rw [blamed_of_errors _ _ herrors, hok]
      exact congrArg (current.notes ++ ·) (Diagnostics.append_empty _).symm
    | some next =>
      have hclean : (part.step.convert current.value place).notes.hasErrors = false := by
        rw [Bool.eq_false_iff]
        intro herrors
        rw [hhonest.mpr herrors] at hresult
        cases hresult
      have hok : (part.step.convert current.value place).isOk = true := by
        rw [Converted.isOk, hresult]
        simpa [Diagnostics.hasErrors] using hclean
      rw [Diagnostics.under_of_no_errors _ hclean, hok]
      have hrest := notes_runAll rest h.2
        ⟨next, current.notes ++ (part.step.convert current.value place).notes⟩ place
      rw [Diagnostics.append_assoc] at hrest
      exact hrest

end

theorem fields_of_join (ds : List Diagnostics) :
    (Diagnostics.join ds).errors = ds.flatMap (·.errors) ∧
      (Diagnostics.join ds).warnings = ds.flatMap (·.warnings) ∧
      (Diagnostics.join ds).information = ds.flatMap (·.information) := by
  induction ds with
  | nil => exact ⟨rfl, rfl, rfl⟩
  | cons d ds ih =>
    obtain ⟨herrors, hwarnings, hinformation⟩ := ih
    rw [List.flatMap_cons, List.flatMap_cons, List.flatMap_cons, ← herrors, ← hwarnings, ← hinformation]
    exact ⟨rfl, rfl, rfl⟩

/-- Filling in a default and passing are honest, and a sequence is so whatever its steps are. A step that is put
together from honest ones is honest; it notes what the base steps note that it runs, in their order, with nothing
but the names of failed steps before the errors; and on a list it gives one item for each, in order. -/
theorem tree_honest :
    (∀ key value onlyMissing, (setDefault key value onlyMissing).Honest) ∧ (∀ name, (pass name).Honest) ∧
    (∀ name doc steps, (fuse name doc steps).Honest) ∧
    ∀ t : Tree, t.Grounded → t.step.Honest ∧
      (∀ input place,
        (t.step.convert input place).notes.warnings = (t.runs input place).flatMap (·.notes.warnings) ∧
        (t.step.convert input place).notes.information = (t.runs input place).flatMap (·.notes.information) ∧
        (t.step.convert input place).notes.errors = (t.runs input place).flatMap Run.errors) ∧
      ∀ items place result, ((each t.step).convert (.list items) place).result = some result →
        ∃ outputs, result = .list outputs ∧
          items.zipIdx.map (fun (item, i) => (t.step.convert item (itemPlace place i)).result) = outputs.map some := by
  refine ⟨setDefault_honest, pass_honest, fuse_honest, ?_⟩
  intro t h
  refine ⟨step_honest h, ?_, fun items place result hresult => exists_outputs_of_each (step_honest h) hresult⟩
  intro input place
  obtain ⟨herrors, hwarnings, hinformation⟩ := fields_of_join ((t.runs input place).map Run.report)
  rw [notes_step h, reports, herrors, hwarnings, hinformation, List.flatMap_map, List.flatMap_map, List.flatMap_map]
  exact ⟨rfl, rfl, rfl⟩

/-- Texts pass with a warning, anything else fails. -/
def loud : Step where
  name := "Loud"
  convert input place :=
    match input with
    | .text s => ⟨some (.text (s ++ "!")), .ofWarning place s⟩
    | _ => .failure place "not a text"

/-- Names are filled in and made loud, one by one. -/
def loudNames : Tree :=
  .fuse "LoudNames" ""
    [.base (setDefault "names" (.list []) false), .on "names" (.each (.base loud)), .base (pass "Pass")]

def someNames : Document := .object [("names", .list [.text "a", .null, .text "b", .null])]

/-- Two of the items are no names; the error of each bears the name of the step that it ends. -/
theorem tree_honest_loud :
    loudNames.Grounded ∧ loudNames.step.Honest ∧
      (loudNames.step.convert someNames "doc").notes.errors =
        ["[On(names, Each(Loud))] doc.names[1]: not a text", "[On(names, Each(Loud))] doc.names[3]: not a text"] ∧
      (loudNames.runs someNames "doc").flatMap Run.errors =
        ["[On(names, Each(Loud))] doc.names[1]: not a text", "[On(names, Each(Loud))] doc.names[3]: not a text"] ∧
      (loudNames.runs someNames "doc").flatMap (·.notes.warnings) = ["doc.names[0]: a", "doc.names[2]: b"] := by
  obtain ⟨hdefault, hpass, -, htree⟩ := tree_honest
  have hloud : loud.Honest := by
    intro input place
    cases input with
    | text s => simp [loud, Diagnostics.ofWarning, Diagnostics.hasErrors]
    | null | bool | number | list | object => exact honest_failure place _
  have hgrounded : loudNames.Grounded := ⟨hdefault _ _ _, hloud, hpass _, trivial⟩
  obtain ⟨hhonest, hnotes, -⟩ := htree loudNames hgrounded
  have hruns : (loudNames.runs someNames "doc").flatMap Run.errors =
      ["[On(names, Each(Loud))] doc.names[1]: not a text", "[On(names, Each(Loud))] doc.names[3]: not a text"] := by
    decide +kernel
  refine ⟨hgrounded, hhonest, ?_, hruns, by decide +kernel⟩
  rw [← hruns]
  exact (hnotes _ _).2.2

end Step

end MapTheme
