/-
  MapTheme.Proofs.Config.Shown — where the texts that a finished layer shows stand in its document.

  `displays` gives the documents that become the wordings of a rendering or a layer, one for one and in order
  (`Layer.displays_read`). A wording keeps every text of its document but those of notes (`Wording.mem_innerTexts`),
  so a layer shows what stands in these documents (`Layer.mem_displays`).
-/

import MapTheme.Proofs.Config.Reading
import MapTheme.Proofs.Document.Merge

namespace MapTheme.Document

theorem innerTextsOfFields_cons (f : String × Document) (rest : List (String × Document)) :
    innerTextsOfFields (f :: rest) = f.2.innerTexts ++ innerTextsOfFields rest := by
  obtain ⟨key, d⟩ := f
  rw [innerTextsOfFields]

end MapTheme.Document

namespace MapTheme.Config

open List (Forall₂)

/-! ## What a reader that succeeds has read -/

theorem eq_fieldsOf_of_readShape {s : Shape} {place : String} {d : Document} {fs : Fields}
    (h : readShape s place d = .ok fs) : fs = s.fieldsOf d := by
  unfold readShape Shape.read at h
  cases hcheck : s.check d with
  | error => rw [hcheck] at h; cases h
  | ok => rw [hcheck] at h; cases h; rfl

section

variable {α β : Type}

theorem forall₂_of_readEach {f : α → Nat → Except Fault β} {as : List α} {bs : List β} {i : Nat}
    (h : readEach f i as = .ok bs) : Forall₂ (fun a b => ∃ j, f a j = .ok b) as bs := by
  induction as generalizing i bs with
  | nil =>
    cases h
    exact .nil
  | cons a as ih =>
    obtain ⟨b, hb, h⟩ := ok_of_bind h
    obtain ⟨rest, hrest, h⟩ := ok_of_bind h
    cases h
    exact .cons ⟨i, hb⟩ (ih hrest)

theorem forall₂_of_readOptional {f : α → Except Fault β} {x : Option α} {y : Option β} (h : readOptional f x = .ok y) :
    Forall₂ (fun a b => f a = .ok b) x.toList y.toList := by
  cases x with
  | none =>
    cases h
    exact .nil
  | some a =>
    have h : (f a).map some = .ok y := h
    cases hf : f a with
    | error => rw [hf] at h; cases h
    | ok b =>
      rw [hf] at h
      cases h
      exact .cons hf .nil

end

/-! ## Wordings -/

namespace Wording

/-- The texts in the notes of a wording. -/
def noteTexts : Document → List String
  | .object fields => Document.innerTextsOfFields (fields.filter fun f => Text.startsWith "_" f.1)
  | _ => []

/-- The document is read as the wording, at some place. -/
def Reads (d : Document) (w : Wording) : Prop := ∃ place, ofDocument place d = .ok w

/-- An entry is a note, or it gives its one text. -/
theorem mem_innerTextsOfFields {fields : Fields} (h : fields.all isEntry = true) (s : String) :
    s ∈ Document.innerTextsOfFields fields ↔
      s ∈ (fields.filterMap entry?).map (·.2) ∨ s ∈ noteTexts (.object fields) := by
  show _ ↔ _ ∨ s ∈ Document.innerTextsOfFields (fields.filter fun f => Text.startsWith "_" f.1)
  induction fields with
  | nil => simp [Document.innerTextsOfFields]
  | cons f rest ih =>
    rw [List.all_cons, Bool.and_eq_true] at h
    obtain ⟨hf, hrest⟩ := h
    rw [Document.innerTextsOfFields_cons, List.mem_append, ih hrest, List.filterMap_cons, List.filter_cons]
    by_cases hnote : Text.startsWith "_" f.1 = true
    · have hnone : entry? f = none := by rw [ entry?, if_pos hnote]
      rw [hnone, if_pos hnote, Document.innerTextsOfFields_cons, List.mem_append]
      exact or_left_comm
    · obtain ⟨language, d⟩ := f
      have htext : d.isText = true := by
        rw [isEntry, Bool.or_eq_true] at hf
        exact hf.resolve_left hnote
      cases d with
      | text t =>
        have hsome : entry? (language, .text t) = some (language, t) := by
          rw [ entry?, if_neg hnote]
          rfl
        rw [hsome, if_neg hnote, Document.innerTexts, List.mem_singleton, List.map_cons, List.mem_cons, or_assoc]
      | null | bool | number | list | object => cases htext

/-- A wording has every text of its document but those of the notes. -/
theorem mem_innerTexts {d : Document} {w : Wording} (h : Reads d w) (s : String) :
    s ∈ d.innerTexts ↔ s ∈ w.allTexts ∨ s ∈ noteTexts d := by
  obtain ⟨place, h⟩ := h
  cases d with
  | text t =>
    cases h
    simp [Document.innerTexts, allTexts, noteTexts]
  | object fields =>
    have hread := toOption_ofDocument_object place fields
    rw [h] at hread
    split at hread
    · rename_i hall
      cases hread
      have hperm := List.mergeSort_perm (fields.filterMap entry?) fun a b => a.1 ≤ b.1
      rw [Document.innerTexts, mem_innerTextsOfFields hall, allTexts, (hperm.map (·.2)).mem_iff]
    · cases hread
  | null | bool | number | list => cases h

/-- The same for documents that are read one by one. -/
theorem mem_flatMap_innerTexts {ds : List Document} {ws : List Wording} (h : Forall₂ Reads ds ws) (s : String) :
    s ∈ ds.flatMap Document.innerTexts ↔ s ∈ ws.flatMap allTexts ∨ s ∈ ds.flatMap noteTexts := by
  induction h with
  | nil => simp
  | cons hd _ ih =>
    simp only [List.flatMap_cons, List.mem_append]
    rw [ih, mem_innerTexts hd s]
    exact or_or_or_comm

end Wording

/-! ## Renderings -/

/-- What a mapping shows; a mapping may be written as a list. -/
def Mapping.shown? (d : Document) : Option Document := Fields.get? (Rendering.mappingShape.fieldsOf d) "then"

theorem Mapping.shown?_read {place : String} {d : Document} {m : Mapping} (h : ofDocument place d = .ok m) :
    ∃ shown, shown? d = some shown ∧ Wording.Reads shown m.shown := by
  obtain ⟨fields, hfields, h⟩ := ok_of_bind h
  obtain ⟨hide, -, h⟩ := ok_of_bind h
  obtain ⟨holdsIf, -, h⟩ := ok_of_bind h
  obtain ⟨ifNot, -, h⟩ := ok_of_bind h
  obtain ⟨shown, hshown, h⟩ := ok_of_bind h
  obtain ⟨extraTags, -, h⟩ := ok_of_bind h
  cases h
  cases eq_fieldsOf_of_readShape hfields
  show ∃ x, Fields.get? (Rendering.mappingShape.fieldsOf d) "then" = some x ∧ Wording.Reads x shown
  cases hthen : Fields.get? (Rendering.mappingShape.fieldsOf d) "then" with
  | none =>
    rw [hthen] at hshown
    cases hshown
  | some x =>
    rw [hthen] at hshown
    exact ⟨x, rfl, _, hshown⟩

namespace Rendering

/-- The documents of the wordings that a rendering shows. -/
def displays (d : Document) : List Document :=
  ((d.get? "render").filter (!·.isNull)).toList ++ ((d.listAt? "mappings").getD []).filterMap Mapping.shown?

/-- The text and the texts of the mappings. -/
def wordings (r : Rendering) : List Wording := r.render.toList ++ r.mappings.map (·.shown)

theorem shownTexts_eq (r : Rendering) : r.shownTexts = r.wordings.flatMap Wording.allTexts := by
  rw [shownTexts, wordings, List.flatMap_append, List.flatMap_map]
  cases r.render <;> simp

theorem mappings_read {ds : List Document} {ms : List Mapping}
    (h : Forall₂ (fun d m => ∃ place, Mapping.ofDocument place d = .ok m) ds ms) :
    Forall₂ Wording.Reads (ds.filterMap Mapping.shown?) (ms.map (·.shown)) := by
  induction h with
  | nil => exact .nil
  | cons hd _ ih =>
    obtain ⟨place, hd⟩ := hd
    obtain ⟨shown, hshown, hread⟩ := Mapping.shown?_read hd
    rw [List.filterMap_cons_some hshown]
    exact .cons hread ih

theorem displays_read {place : String} {d : Document} {r : Rendering} (h : ofDocument place d = .ok r) :
    Forall₂ Wording.Reads (displays d) r.wordings := by
  unfold ofDocument at h
  split at h
  · cases h
  · rename_i hobject
    cases d with
    | object fields =>
      obtain ⟨fs, hfs, h⟩ := ok_of_bind h
      have hfields : fs = fields := eq_fieldsOf_of_readShape hfs
      rw [hfields] at h
      obtain ⟨question, -, h⟩ := ok_of_bind h
      obtain ⟨render, hrender, h⟩ := ok_of_bind h
      obtain ⟨freeform, -, h⟩ := ok_of_bind h
      obtain ⟨mappings, hmappings, h⟩ := ok_of_bind h
      have hshown : Forall₂ Wording.Reads (displays (.object fields)) (render.toList ++ mappings.map (·.shown)) := by
        refine List.rel_append (forall₂_of_readOptional hrender |>.imp fun x w hw => ⟨_, hw⟩) (mappings_read ?_)
        refine (forall₂_of_readEach hmappings).imp ?_
        rintro m' m ⟨j, hm⟩
        exact ⟨_, hm⟩
      split at h
      · cases h
      · obtain ⟨condition, -, h⟩ := ok_of_bind h
        cases h
        exact hshown
    | null | bool | number | text | list => exact absurd rfl hobject

end Rendering

/-! ## Layers -/

namespace Layer

/-- The document that a title is read from. -/
def titleDocument (title : Document) : Document := if title.isObject then title else .object [("render", title)]

/-- The documents of the title and the renderings of a layer. -/
def renderingDocuments (d : Document) : List Document :=
  ((shape.fieldsOf d).given? "title").toList.map titleDocument ++ (shape.fieldsOf d).itemsAt "tagRenderings"

/-- The documents of the wordings that a layer shows. -/
def displays (d : Document) : List Document := (renderingDocuments d).flatMap Rendering.displays

/-- The title and the renderings. -/
def shownRenderings (l : Layer) : List Rendering := l.title.toList ++ l.renderings

theorem renderings_read {place : String} {ds : List Document} {rs : List Rendering}
    (h : readRenderings place ds = .ok rs) :
    Forall₂ (fun d r => ∃ p, Rendering.ofDocument p d = .ok r) ds rs := by
  obtain ⟨read, hread, h⟩ := ok_of_bind h
  have hrs : read = rs := by
    split at h
    · cases h
    · cases h
      rfl
  rw [← hrs]
  refine (forall₂_of_readEach hread).imp ?_
  rintro d r ⟨i, hd⟩
  exact ⟨_, hd⟩

theorem renderingDocuments_read {place : String} {d : Document} {l : Layer} (h : ofDocument place d = .ok l) :
    Forall₂ (fun d r => ∃ p, Rendering.ofDocument p d = .ok r) (renderingDocuments d) l.shownRenderings := by
  obtain ⟨fields, hfields, h⟩ := ok_of_bind h
  cases eq_fieldsOf_of_readShape hfields
  dsimp only at h
  split at h
  · cases h
  · obtain ⟨source, -, h⟩ := ok_of_bind h
    obtain ⟨title, htitle, h⟩ := ok_of_bind h
    obtain ⟨renderings, hrenderings, h⟩ := ok_of_bind h
    obtain ⟨presets, -, h⟩ := ok_of_bind h
    obtain ⟨filters, -, h⟩ := ok_of_bind h
    obtain ⟨calculatedTags, -, h⟩ := ok_of_bind h
    obtain ⟨drawings, -, h⟩ := ok_of_bind h
    obtain ⟨name, -, h⟩ := ok_of_bind h
    obtain ⟨description, -, h⟩ := ok_of_bind h
    cases h
    refine List.rel_append ?_ (renderings_read hrenderings)
    rw [List.forall₂_map_left_iff]
    exact (forall₂_of_readOptional htitle).imp fun t r hr => ⟨_, hr⟩

/-- The documents that a layer displays are read as its wordings, one for one. -/
theorem displays_read {place : String} {d : Document} {l : Layer} (h : ofDocument place d = .ok l) :
    Forall₂ Wording.Reads (displays d) (l.shownRenderings.flatMap Rendering.wordings) := by
  refine List.rel_flatMap (renderingDocuments_read h) ?_
  rintro d r ⟨p, hr⟩
  exact Rendering.displays_read hr

/-- A layer shows the texts of the documents that it displays, but for those in notes. -/
theorem mem_displays {place : String} {d : Document} {l : Layer} (h : ofDocument place d = .ok l) (s : String) :
    s ∈ (displays d).flatMap Document.innerTexts ↔
      s ∈ l.shownRenderings.flatMap Rendering.shownTexts ∨ s ∈ (displays d).flatMap Wording.noteTexts := by
  have htexts : l.shownRenderings.flatMap Rendering.shownTexts =
      (l.shownRenderings.flatMap Rendering.wordings).flatMap Wording.allTexts := by
    rw [List.flatMap_assoc]
    exact List.flatMap_congr fun r _ => r.shownTexts_eq
  rw [htexts]
  exact Wording.mem_flatMap_innerTexts (displays_read h) s

end Layer

end MapTheme.Config
