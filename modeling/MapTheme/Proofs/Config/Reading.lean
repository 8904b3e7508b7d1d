/-
  MapTheme.Proofs.Config.Reading — what is read from a layer depends on neither the order of keys nor
  the place.

  For each reader: from documents that are alike, wherever they stand, it reads the same or fails in
  both. For whole layers (`Layer.agree_ofDocument`) the same is all that the checks and the
  dependencies look at; zoom level, drawings and description may differ. For whole themes it is that
  they build.
-/

import MapTheme.Config.Theme
import MapTheme.Proofs.Config.Agreement

namespace MapTheme

open List (Forall₂)
open Document (Alike AlikeIfAny)

/-! ## Filters -/

namespace Filter

theorem agree_ofEach {as bs : List Document} (h : Forall₂ Alike as bs)
    (hread : ∀ a ∈ as, ∀ b, a.Alike b → Agree Eq (ofDocument a) (ofDocument b)) :
    Agree Eq (ofEach as) (ofEach bs) := by
  induction h with
  | nil => exact .self
  | @cons a b as bs hab _ ih =>
    refine (hread a List.mem_cons_self b hab).bind_eq fun f => ?_
    exact (ih fun a ha => hread a (List.mem_cons_of_mem _ ha)).bind_eq fun fs => .self

/-- An object is no filter unless it has exactly one field. -/
theorem ofDocument_of_length_ne_one {fs : Fields} (h : fs.length ≠ 1) :
    ∃ e, ofDocument (.object fs) = .error e := by
  unfold ofDocument
  split
  · rename_i he; cases he
  · rename_i he; cases he; exact absurd rfl h
  · exact ⟨_, rfl⟩

theorem agree_ofObject {fs gs : Fields} (h : fs.Alike gs)
    (hread : ∀ key items, fs = [(key, .list items)] →
      ∀ a ∈ items, ∀ b, a.Alike b → Agree Eq (ofDocument a) (ofDocument b)) :
    Agree Eq (ofDocument (.object fs)) (ofDocument (.object gs)) := by
  obtain ⟨hs, hall, hperm, -⟩ := h
  by_cases hl : fs.length = 1
  · obtain ⟨⟨key, d⟩, rfl⟩ := List.length_eq_one_iff.mp hl
    obtain ⟨⟨k, e⟩, _, ⟨rfl, hde⟩, hnil, rfl⟩ := List.forall₂_cons_left_iff.mp hall
    obtain rfl := List.forall₂_nil_left_iff.mp hnil
    obtain rfl := List.singleton_perm.mp hperm
    simp only at hde
    cases hde.view with
    | list hitems =>
      have hrec := agree_ofEach hitems (hread _ _ rfl)
      simp only [ofDocument]
      split
      · exact hrec.map_eq and
      · split
        · exact hrec.map_eq or
        · exact .error
    | null | bool | number | text | object => simp only [ofDocument]; exact .error
  · obtain ⟨e, he⟩ := ofDocument_of_length_ne_one hl
    have hl' : gs.length ≠ 1 := by rw [← hperm.length_eq, ← hall.length_eq]; exact hl
    obtain ⟨e', he'⟩ := ofDocument_of_length_ne_one hl'
    rw [he, he']
    exact .error

theorem agree_ofDocument (a b : Document) (h : a.Alike b) : Agree Eq (ofDocument a) (ofDocument b) := by
  cases h.view with
  | null | bool | number | list => simp only [ofDocument]; exact .error
  | text s => exact .self
  | object hs => exact agree_ofObject hs fun key items he a ha b => agree_ofDocument a b
termination_by sizeOf a
decreasing_by
  subst_vars
  have := List.sizeOf_lt_of_mem ha
  simp only [Document.object.sizeOf_spec, List.cons.sizeOf_spec, Prod.mk.sizeOf_spec, Document.list.sizeOf_spec]
  omega

end Filter

namespace Config

variable {p q : String} {a b : Document}

theorem agree_readShape (s : Shape) (h : a.Alike b) :
    Agree (fun fs gs => ∀ key, Fields.AlikeAt fs gs key) (readShape s p a) (readShape s q b) :=
  (s.agree_read h).mapError

theorem agree_readFilter (h : a.Alike b) : Agree Eq (readFilter p a) (readFilter q b) :=
  (Filter.agree_ofDocument a b h).mapError

theorem agree_readTag (tag : String) : Agree Eq (readTag p tag) (readTag q tag) :=
  Agree.mapError .self

/-! ## Lists and optional parts -/

section

variable {α α' β β' : Type} {R : α → α' → Prop} {S : β → β' → Prop}

theorem agree_readEach {f : α → Nat → Except Fault β} {g : α' → Nat → Except Fault β} {as : List α} {bs : List α'}
    (h : Forall₂ R as bs) (hf : ∀ a b i, R a b → Agree Eq (f a i) (g b i)) (i : Nat) :
    Agree Eq (readEach f i as) (readEach g i bs) := by
  induction h generalizing i with
  | nil => exact .self
  | cons hab _ ih => exact (hf _ _ i hab).bind_eq fun b => (ih (i + 1)).bind_eq fun bs => .self

theorem agree_readEach_self {f g : α → Nat → Except Fault β} (hf : ∀ a i, Agree Eq (f a i) (g a i)) (as : List α) :
    Agree Eq (readEach f 0 as) (readEach g 0 as) :=
  agree_readEach (List.forall₂_same.mpr fun _ _ => rfl) (fun a _ i hab => hab ▸ hf a i) 0

theorem agree_readOptional {f g : Document → Except Fault β} {x y : Option Document} (h : AlikeIfAny x y)
    (hf : ∀ {a b}, a.Alike b → Agree Eq (f a) (g b)) : Agree Eq (readOptional f x) (readOptional g y) := by
  cases h with
  | none => exact .self
  | some hab => exact (hf hab).map_eq some

end

/-! ## Wordings -/

namespace Wording

theorem toOption_bind_ok {α β : Type} (x : Except Fault α) (f : α → β) :
    (x >>= fun a => .ok (f a)).toOption = x.toOption.map f := by
  cases x <;> rfl

/-- What a field of a wording gives: a text in its language, or nothing if it is a note. -/
def entry? (f : String × Document) : Option (String × String) :=
  if Text.startsWith "_" f.1 then none else f.2.text?.map (f.1, ·)

/-- A field that is a note or has a text. -/
def isEntry (f : String × Document) : Bool := Text.startsWith "_" f.1 || f.2.isText

theorem toOption_readTexts (place : String) (fields : Fields) :
    (readTexts place fields).toOption = if fields.all isEntry then some (fields.filterMap entry?) else none := by
  induction fields with
  | nil => rfl
  | cons f rest ih =>
    obtain ⟨language, d⟩ := f
    rw [readTexts.eq_def, List.all_cons, List.filterMap_cons]
    by_cases hn : Text.startsWith "_" language = true
    · simp only [hn, if_true, isEntry, entry?, Bool.true_or, Bool.true_and]
      exact ih
    · simp only [hn, Bool.false_eq_true, if_false, isEntry, entry?, Bool.false_or]
      cases d with
      | text s =>
        simp only [Document.isText, Document.text?, Option.isSome_some, Option.map_some, Bool.true_and]
        rw [toOption_bind_ok, ih]
        split <;> rfl
      | _ => rfl

theorem keys_entries_sublist (fields : Fields) : ((fields.filterMap entry?).map (·.1)).Sublist (Fields.keys fields) := by
  induction fields with
  | nil => exact .slnil
  | cons f rest ih =>
    simp only [List.filterMap_cons, entry?, Fields.keys, List.map_cons] at ih ⊢
    by_cases hn : Text.startsWith "_" f.1 = true
    · simp only [hn, if_true]
      exact ih.cons _
    · simp only [hn, Bool.false_eq_true, if_false]
      cases f.2.text? with
      | none => exact ih.cons _
      | some s => exact ih.cons_cons _

/-- Sorted by distinct keys, entries have one order. -/
theorem sort_eq_of_perm {as bs : List (String × String)} (h : as.Perm bs) (hn : (bs.map (·.1)).Nodup) :
    (as.mergeSort fun a b => a.1 ≤ b.1) = bs.mergeSort fun a b => a.1 ≤ b.1 := by
  have hsorted : ∀ l : List (String × String),
      (l.mergeSort fun a b => a.1 ≤ b.1).Pairwise fun a b => decide (a.1 ≤ b.1) = true := fun l =>
    List.pairwise_mergeSort (fun a b c hab hbc => by simp only [decide_eq_true_eq] at *; exact Std.le_trans hab hbc)
      (fun a b => by simpa using Std.le_total) l
  have ha := List.mergeSort_perm as fun a b => a.1 ≤ b.1
  have hb := List.mergeSort_perm bs fun a b => a.1 ≤ b.1
  refine List.Perm.eq_of_pairwise (fun x y hx hy hxy hyx => ?_) (hsorted as) (hsorted bs) ((ha.trans h).trans hb.symm)
  have hkey : x.1 = y.1 := Std.le_antisymm (of_decide_eq_true hxy) (of_decide_eq_true hyx)
  exact List.inj_on_of_nodup_map hn (h.mem_iff.mp (ha.mem_iff.mp hx)) (hb.mem_iff.mp hy) hkey

theorem toOption_ofDocument_object (place : String) (fields : Fields) :
    (ofDocument place (.object fields)).toOption =
      if fields.all isEntry then some ⟨(fields.filterMap entry?).mergeSort fun a b => a.1 ≤ b.1⟩ else none := by
  rw [ofDocument, toOption_bind_ok, toOption_readTexts]
  split <;> rfl

theorem entries_congr {fs hs : Fields} (h : Forall₂ (fun f h => f.1 = h.1 ∧ f.2.Alike h.2) fs hs) :
    fs.all isEntry = hs.all isEntry ∧ fs.filterMap entry? = hs.filterMap entry? := by
  induction h with
  | nil => exact ⟨rfl, rfl⟩
  | @cons f h _ _ hfh _ ih =>
    obtain ⟨k, a⟩ := f
    obtain ⟨_, b⟩ := h
    obtain ⟨rfl, hab⟩ : k = _ ∧ a.Alike b := hfh
    have hentry : isEntry (k, a) = isEntry (k, b) ∧ entry? (k, a) = entry? (k, b) := by
      cases hab.view <;> exact ⟨rfl, rfl⟩
    simp only [List.all_cons, List.filterMap_cons, hentry, ih, and_self]

theorem agree_ofDocument (h : a.Alike b) : Agree Eq (ofDocument p a) (ofDocument q b) := by
  cases h.view with
  | null | bool | number | list => exact .error
  | text => exact .self
  | @object fs gs hs =>
    obtain ⟨hs, hall, hperm, heq⟩ := hs
    obtain ⟨hentries, htexts⟩ := entries_congr hall
    refine .of_toOption_eq ?_
    rw [toOption_ofDocument_object, toOption_ofDocument_object, hentries, htexts, hperm.all_eq]
    rcases heq with rfl | hn
    · rfl
    · rw [sort_eq_of_perm (hperm.filterMap entry?) (hn.sublist (keys_entries_sublist gs))]

end Wording

/-! ## Renderings -/

theorem agree_readExtraTags (tags : List String) : Agree Eq (readExtraTags p tags) (readExtraTags q tags) :=
  agree_readEach_self (fun tag _ => agree_readTag tag) tags

theorem Mapping.agree_readHide {x y : Option Document} (h : AlikeIfAny x y) :
    Agree Eq (readHide p x) (readHide q y) := by
  cases h with
  | none => exact .self
  | some hab =>
    have hread : ∀ {p q : String}, Agree Eq ((readFilter p _).map HideInAnswer.when) ((readFilter q _).map .when) :=
      fun {p q} => (agree_readFilter (p := p) (q := q) hab).map_eq _
    cases hab.view with
    | bool b => cases b <;> exact .self
    | null | number | text | list | object => exact hread

theorem Mapping.agree_ofDocument (h : a.Alike b) : Agree Eq (ofDocument p a) (ofDocument q b) := by
  refine (agree_readShape _ h).bind fun fs gs hfs => ?_
  refine (agree_readHide (hfs "hideInAnswer").given?).bind_eq fun hide => ?_
  refine (agree_readFilter (hfs "if").getD_null).bind_eq fun holdsIf => ?_
  refine (agree_readOptional (hfs "ifNot").given? agree_readFilter).bind_eq fun ifNot => ?_
  refine (Wording.agree_ofDocument (hfs "then").getD_null).bind_eq fun shown => ?_
  rw [(hfs "addExtraTags").textsAt_eq]
  exact (agree_readExtraTags _).bind_eq fun _ => .self

theorem Freeform.agree_ofFields {fs gs : Fields} (h : ∀ key, Fields.AlikeAt fs gs key) (render : Option Wording) :
    Agree Eq (ofFields p render fs) (ofFields q render gs) := by
  simp only [ofFields, (h "key").textOr_eq, (h "type").textOr_eq, (h "addExtraTags").textsAt_eq]
  split
  · exact .error
  · exact (agree_readExtraTags _).bind_eq fun _ => .self

theorem Rendering.agree_ofDocument (h : a.Alike b) : Agree Eq (ofDocument p a) (ofDocument q b) := by
  unfold ofDocument
  rw [h.isObject_eq]
  split
  · exact .error
  · refine (agree_readShape _ h).bind fun fs gs hfs => ?_
    refine (agree_readOptional (hfs "question").given? Wording.agree_ofDocument).bind_eq fun question => ?_
    refine (agree_readOptional (hfs "render").given? Wording.agree_ofDocument).bind_eq fun render => ?_
    refine (agree_readOptional (hfs "freeform").given? fun hd =>
      Freeform.agree_ofFields (freeformShape.alikeAt_fieldsOf hd) render).bind_eq fun freeform => ?_
    refine (agree_readEach (hfs "mappings").itemsAt (fun _ _ _ hm => Mapping.agree_ofDocument hm) 0).bind_eq
      fun mappings => ?_
    split
    · exact .error
    · refine (agree_readOptional (hfs "condition").given? agree_readFilter).bind_eq fun condition => ?_
      rw [(hfs "id").textOr_eq, (hfs "labels").textsAt_eq, (hfs "group").textGiven?_eq, (hfs "multiAnswer").flagAt_eq]
      exact .self

/-! ## Sources -/

namespace Source

theorem agree_read (filter : Filter) (file : Option String) : Agree Eq (read p filter file) (read q filter file) := by
  unfold read
  split
  · exact .error
  · exact .error
  · split
    · exact .error
    · exact .self

theorem agree_ofDocument {x y : Option Document} (h : AlikeIfAny x y) :
    Agree Eq (ofDocument p x) (ofDocument q y) := by
  cases h with
  | none => exact .error
  | some hab =>
    have hfile := hab.textAt?_eq "geoJson"
    have hread := agree_readFilter (p := p ++ ".source.osmTags") (q := q ++ ".source.osmTags") (hab.get? "osmTags").getD_null
    cases hab.view with
    | text kind =>
      simp only [ofDocument]
      split
      · exact .self
      · exact .error
    | null | bool | number | list | object =>
      simp only [ofDocument, hfile]
      exact hread.bind_eq fun filter => (agree_read filter _).bind_eq fun _ => .self

end Source

/-! ## Parts of a layer -/

mutual

theorem layerIds_congr : ∀ {a b : Document}, a.Alike b → layerIds a = layerIds b
  | .list as, b, h => by
    cases h.view with
    | list hs => exact layerIdsOfEach_congr hs
  | .null, b, h | .bool _, b, h | .number _, b, h | .text _, b, h | .object _, b, h => by cases h.view; rfl

theorem layerIdsOfEach_congr : ∀ {as bs : List Document}, Forall₂ Alike as bs → layerIdsOfEach as = layerIdsOfEach bs
  | [], _, h => by cases h; rfl
  | a :: as, _, h => by
    cases h with
    | cons hab h => rw [layerIdsOfEach, layerIdsOfEach, layerIds_congr hab, layerIdsOfEach_congr h]

end

namespace Layer

theorem alikeIfAny_nested? (names : List String) (key : String) (h : a.Alike b) :
    AlikeIfAny (nested? names a key) (nested? names b key) := by
  cases h.view with
  | list hs => exact (Fields.alikeAt_zip hs names key).given?
  | object hs => exact Fields.AlikeAt.given? (hs.get? key)
  | null | bool | number | text => exact .none

theorem agree_readTitle (h : a.Alike b) : Agree Eq (readTitle p a) (readTitle q b) := by
  unfold readTitle
  rw [h.isObject_eq]
  split
  · exact Rendering.agree_ofDocument h
  · exact Rendering.agree_ofDocument (h.single "render")

theorem agree_readRenderings {as bs : List Document} (h : Forall₂ Alike as bs) :
    Agree Eq (readRenderings p as) (readRenderings q bs) := by
  refine (agree_readEach h (fun _ _ _ hr => Rendering.agree_ofDocument hr) 0).bind_eq fun read => ?_
  split
  · exact .error
  · exact .self

theorem agree_readPreset (h : a.Alike b) : Agree Eq (readPreset p a) (readPreset q b) := by
  have hfs := presetShape.alikeAt_fieldsOf h
  unfold readPreset
  dsimp only
  rw [(hfs "tags").textsAt_eq]
  refine (agree_readEach_self (fun tag _ => agree_readTag tag) _).bind_eq fun tags => ?_
  refine (Wording.agree_ofDocument (hfs "title").getD_null).bind_eq fun title => ?_
  have hsnap := (hfs "preciseInput").given?.bind fun hd => alikeIfAny_nested? ["snapToLayer"] "snapToLayer" hd
  rw [hsnap.map_eq layerIds_congr]
  exact .self

/-- The fields of an option, by name or in order. -/
def optionFields : Document → Fields
  | .list items => ["question", "osmTags"].zip items
  | d => d.object?.getD []

theorem alikeAt_optionFields (h : a.Alike b) (key : String) : Fields.AlikeAt (optionFields a) (optionFields b) key := by
  cases h.view with
  | list hs => exact Fields.alikeAt_zip hs _ key
  | object hs => exact hs.get? key
  | null | bool | number | text => exact .none

theorem agree_readOption (h : a.Alike b) : Agree Eq (readOption p a) (readOption q b) := by
  have hfs := alikeAt_optionFields h
  refine (Wording.agree_ofDocument (hfs "question").getD_null).bind_eq fun question => ?_
  exact (agree_readOptional (hfs "osmTags").given? agree_readFilter).bind_eq fun filter => .self

theorem agree_readFilterGroup (seen : List String) (h : a.Alike b) :
    Agree Eq (readFilterGroup p seen a) (readFilterGroup q seen b) := by
  unfold readFilterGroup
  rw [h.isObject_eq]
  split
  · exact .error
  · refine (agree_readShape _ h).bind fun fs gs hfs => ?_
    dsimp only
    rw [(hfs "id").textOr_eq]
    split
    · exact .error
    · exact (agree_readEach (hfs "options").itemsAt (fun _ _ _ ho => agree_readOption ho) 0).bind_eq fun _ => .self

theorem agree_readFilterGroups {as bs : List Document} (h : Forall₂ Alike as bs) (seen : List String) (i : Nat) :
    Agree Eq (readFilterGroups p seen i as) (readFilterGroups q seen i bs) := by
  induction h generalizing seen i with
  | nil => exact .self
  | cons hab _ ih =>
    exact (agree_readFilterGroup seen hab).bind_eq fun group => (ih (group.id :: seen) (i + 1)).bind_eq fun _ => .self

theorem agree_readCalculatedTag (line : String) : Agree Eq (readCalculatedTag p line) (readCalculatedTag q line) := by
  unfold readCalculatedTag
  split
  · exact .self
  · exact .error

theorem agree_readDrawings {x y : Option Document} (h : AlikeIfAny x y) :
    AgreeOnSuccess (readDrawings p x) (readDrawings q y) := by
  cases h with
  | none => exact .ok trivial
  | some hab =>
    cases hab.view with
    | list => exact .ok trivial
    | null | bool | number | text | object => exact .error

/-! ## Layers -/

/-- The same layer for all that its checks and its dependencies look at. -/
structure Matches (l m : Layer) : Prop where
  id : l.id = m.id
  source : l.source = m.source
  title : l.title = m.title
  renderings : l.renderings = m.renderings
  presets : l.presets = m.presets
  filters : l.filters = m.filters
  calculatedTags : l.calculatedTags = m.calculatedTags
  forceLoad : l.forceLoad = m.forceLoad
  passAllFeatures : l.passAllFeatures = m.passAllFeatures

/-- Fields of two layers that are alike but for the description; that is readable in both or in neither. -/
structure FieldsAgree (fs gs : Fields) : Prop where
  alikeAt : ∀ key, key ≠ "description" → Fields.AlikeAt fs gs key
  description : ∀ p q : String, AgreeOnSuccess
    (readOptional (Wording.ofDocument p) (fs.given? "description"))
    (readOptional (Wording.ofDocument q) (gs.given? "description"))

/-- Layers are read alike if their fields are, in all places. -/
theorem agree_of_agree_readShape (h : Agree FieldsAgree (readShape shape p a) (readShape shape q b)) :
    Agree Matches (ofDocument p a) (ofDocument q b) := by
  refine h.bind fun fs gs hfs => ?_
  have hat := hfs.alikeAt
  dsimp only
  rw [(hat "id" (by decide)).textOr_eq]
  split
  · exact .error
  · refine (Source.agree_ofDocument (hat "source" (by decide)).given?).bind_eq fun source => ?_
    refine (agree_readOptional (hat "title" (by decide)).given? agree_readTitle).bind_eq fun title => ?_
    refine (agree_readRenderings (hat "tagRenderings" (by decide)).itemsAt).bind_eq fun renderings => ?_
    refine (agree_readEach (hat "presets" (by decide)).itemsAt (fun _ _ _ hp => agree_readPreset hp) 0).bind_eq
      fun presets => ?_
    refine (agree_readFilterGroups (hat "filter" (by decide)).itemsAt [] 0).bind_eq fun filters => ?_
    rw [(hat "calculatedTags" (by decide)).textsAt_eq]
    refine (agree_readEach_self (fun line _ => agree_readCalculatedTag line) _).bind_eq fun calculatedTags => ?_
    refine (agree_readDrawings (hat "mapRendering" (by decide)).given?).bind fun _ _ _ => ?_
    refine (agree_readOptional (hat "name" (by decide)).given? Wording.agree_ofDocument).bind_eq fun name => ?_
    refine (hfs.description _ _).bind fun _ _ _ => ?_
    rw [(hat "forceLoad" (by decide)).flagAt_eq, (hat "passAllFeatures" (by decide)).flagAt_eq]
    exact .ok ⟨rfl, rfl, rfl, rfl, rfl, rfl, rfl, rfl, rfl⟩

/-- From documents that are alike, in any places, the same layer is read or none. -/
theorem agree_ofDocument (h : a.Alike b) : Agree Matches (ofDocument p a) (ofDocument q b) := by
  refine agree_of_agree_readShape ((agree_readShape shape h).imp fun fs gs hfs => ⟨fun key _ => hfs key, fun p q => ?_⟩)
  exact (agree_readOptional (hfs "description").given? Wording.agree_ofDocument).imp fun _ _ _ => trivial

end Layer

/-! ## Themes -/

namespace Theme

theorem agree_readLayers {as bs : List Document} (h : Forall₂ Alike as bs) (seen : List String) (i : Nat) :
    AgreeOnSuccess (readLayers p seen i as) (readLayers q seen i bs) := by
  induction h generalizing seen i with
  | nil => exact .ok trivial
  | cons hab _ ih =>
    simp only [readLayers]
    rw [hab.isObject_eq]
    split
    · exact .error
    · refine (Layer.agree_ofDocument hab).bind fun l m hm => ?_
      rw [hm.id]
      split
      · exact .error
      · exact (ih (m.id :: seen) (i + 1)).bind fun _ _ _ => .ok trivial

/-- Documents that are alike, in any places, both build a theme or neither does. -/
theorem agree_ofDocument (h : a.Alike b) : AgreeOnSuccess (ofDocument p a) (ofDocument q b) := by
  refine (agree_readShape _ h).bind fun fs gs hfs => ?_
  dsimp only
  rw [(hfs "id").textOr_eq]
  split
  · exact .error
  · have htitle := (hfs "title").given?
    have hitems := (hfs "layers").itemsAt
    have hempty : (fs.itemsAt "layers").isEmpty = (gs.itemsAt "layers").isEmpty := by
      rw [Bool.eq_iff_iff, List.isEmpty_iff_length_eq_zero, List.isEmpty_iff_length_eq_zero, hitems.length_eq]
    generalize fs.given? "title" = x at htitle
    generalize gs.given? "title" = y at htitle
    cases htitle with
    | none => exact .error
    | some hab =>
      refine (Wording.agree_ofDocument hab).bind_eq fun title => ?_
      rw [hempty]
      split
      · exact .error
      · refine (agree_readLayers hitems [] 0).bind fun _ _ _ => ?_
        exact (agree_readOptional (hfs "description").given? Wording.agree_ofDocument).bind_eq fun _ => .ok trivial

end Theme

end Config

end MapTheme
