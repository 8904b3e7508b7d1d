/-
  MapTheme.Proofs.Theme.Annotation — notes on where wordings stand only come in beside what is there.

  A place in a document is the way to it, by keys and numbers of items (`Document.inner?`). In the document with
  the notes, what stood at a place under a wording is the same, and what stood at another one has its own notes,
  with the path to it (`inner?_annotate`); nothing new stands anywhere but a `_context` in a wording, which is the
  path to the wording (`eq_of_new_note`). So the document is back without these (`withoutNew_annotate`), and as all
  wordings have their notes then (`isNoted_annotate`), a second run changes nothing.

  `annotateWordings_adds` is this for the step. A `_context` that stands in no wording is a field like any other:
  its value gets notes if there are wordings in it (`annotate_changes_context`).
-/

import MapTheme.Proofs.Layer.Preparation
import MapTheme.Proofs.Theme.Origin

namespace MapTheme

/-! ## Places -/

namespace Document

/-- A step of the way to a place: a field or an item. -/
inductive Part
  | field (key : String)
  | item (i : Nat)
  deriving DecidableEq

def part? (d : Document) : Part → Option Document
  | .field key => d.get? key
  | .item i => d.list?.bind (·[i]?)

/-- What stands at a place. -/
def inner? (d : Document) : List Part → Option Document
  | [] => some d
  | part :: rest => (d.part? part).bind (·.inner? rest)

theorem inner?_cons_eq_some_iff {d e : Document} {part : Part} {rest : List Part} :
    d.inner? (part :: rest) = some e ↔ ∃ inner, d.part? part = some inner ∧ inner.inner? rest = some e :=
  Option.bind_eq_some_iff

theorem inner?_cons_of_part {d inner : Document} {part : Part} (h : d.part? part = some inner) (rest : List Part) :
    d.inner? (part :: rest) = inner.inner? rest := by rw [inner?, h, Option.bind_some]

/-- Nothing stands inside a text. -/
theorem inner?_text_append (s key : String) (place : List Part) : (text s).inner? (place ++ [.field key]) = none := by
  cases place with
  | nil => rfl
  | cons part rest =>
    cases part with
    | field | item => rfl

end Document

namespace Theme

open Document (Part Distinct distinct_object distinct_list)

variable {d e c : Document} {fields : Fields} {path : String} {isDisplay : Bool} {place : List Part}

/-- The name of a part: the key, or the id or number of the item `d`. -/
def partName (d : Document) : Part → String
  | .field key => key
  | .item i => itemName d i

/-- The names on the way to a place. -/
def namesTo (d : Document) : List Part → List String
  | [] => []
  | part :: rest =>
    match d.part? part with
    | some inner => partName inner part :: namesTo inner rest
    | none => []

def dotted (path : String) (names : List String) : String := names.foldl (fun path name => path ++ "." ++ name) path

/-- May the part be a wording? Items may if their list may. -/
def holdsText (isDisplay : Bool) : Part → Bool
  | .field key => displayFields.contains key
  | .item _ => isDisplay

def isDisplayAt (isDisplay : Bool) : List Part → Bool
  | [] => isDisplay
  | part :: rest => isDisplayAt (holdsText isDisplay part) rest

/-- What a field holds shows in its key alone. -/
theorem isDisplayAt_append_field (isDisplay : Bool) (place : List Part) (key : String) :
    isDisplayAt isDisplay (place ++ [.field key]) = displayFields.contains key := by
  induction place generalizing isDisplay with
  | nil => rfl
  | cons part rest ih => exact ih _

/-- Is the document a wording, where it may be one? -/
def isShownWording (isDisplay : Bool) : Document → Bool
  | .object fields => isDisplay && isWording fields
  | _ => false

/-- Is there a wording on the way to the place? -/
def isUnderWording (isDisplay : Bool) (d : Document) : List Part → Bool
  | [] => false
  | part :: rest =>
    isShownWording isDisplay d ||
      match d.part? part with
      | some inner => isUnderWording (holdsText isDisplay part) inner rest
      | none => false

/-! ## One part -/

theorem annotate_of_wording (h : isShownWording isDisplay (.object fields) = true) :
    annotate path isDisplay (.object fields) = .object (addOrigin path fields) := by
  rw [annotate]
  exact if_pos h

theorem annotate_of_no_wording (h : isShownWording isDisplay (.object fields) = false) :
    annotate path isDisplay (.object fields) = .object (annotateFields path fields) := by
  rw [annotate]
  exact if_neg (Bool.eq_false_iff.mp h)

theorem getElem?_annotateItems (path : String) (isDisplay : Bool) (i : Nat) (items : List Document) (j : Nat) :
    (annotateItems path isDisplay i items)[j]? =
      items[j]?.map fun d => annotate (path ++ "." ++ itemName d (i + j)) isDisplay d := by
  induction items generalizing i j with
  | nil => rfl
  | cons d rest ih =>
    rw [annotateItems]
    cases j with
    | zero => rfl
    | succ k =>
      have hnumber : i + 1 + k = i + (k + 1) := by omega
      rw [List.getElem?_cons_succ, List.getElem?_cons_succ, ih, hnumber]

theorem get?_addOrigin (path : String) (fields : Fields) (key : String) :
    Fields.get? (addOrigin path fields) key =
      (Fields.get? fields key).or (if key = "_context" then some (.text path) else none) := by
  unfold addOrigin
  split
  · rename_i hhas
    rw [Fields.has_eq_isSome_get?] at hhas
    by_cases hkey : key = "_context"
    · obtain ⟨c, hc⟩ := Option.isSome_iff_exists.mp hhas
      rw [hkey, hc, Option.some_or]
    · rw [if_neg hkey, Option.or_none]
  · rename_i hhas
    rw [Fields.has_eq_isSome_get?, Option.not_isSome_iff_eq_none] at hhas
    by_cases hkey : key = "_context"
    · rw [hkey, hhas, Option.none_or, if_pos rfl, Fields.get?_insert_self]
    · rw [if_neg hkey, Option.or_none, Fields.get?_insert_of_ne (Ne.symm hkey)]

/-- A wording gets a note, unless it has one. -/
theorem part?_annotate_of_wording (h : isShownWording isDisplay d = true) (part : Part) :
    (annotate path isDisplay d).part? part =
      (d.part? part).or (if part = .field "_context" then some (.text path) else none) := by
  cases d with
  | object fields =>
    rw [annotate_of_wording h]
    cases part with
    | field key =>
      simp only [Part.field.injEq]
      exact get?_addOrigin path fields key
    | item i => rfl
  | null | bool | number | text | list => cases h

/-- The parts of any other document are noted one by one. -/
theorem part?_annotate (h : isShownWording isDisplay d = false) (path : String) (part : Part) :
    (annotate path isDisplay d).part? part =
      (d.part? part).map fun e => annotate (path ++ "." ++ partName e part) (holdsText isDisplay part) e := by
  cases d with
  | object fields =>
    rw [annotate_of_no_wording h]
    cases part with
    | field key => exact get?_annotateFields path fields key
    | item i => rfl
  | list items =>
    rw [annotate]
    cases part with
    | field key => rfl
    | item i =>
      have hitem := getElem?_annotateItems path isDisplay 0 items i
      rw [Nat.zero_add] at hitem
      exact hitem
  | null | bool | number | text =>
    cases part with
    | field | item => simp [annotate, Document.part?, Document.get?, Document.object?, Document.list?]

/-! ## All places -/

/-- What stands under a wording stays; what stands elsewhere is noted, with the path to it. -/
theorem inner?_annotate (h : d.inner? place = some e) :
    (annotate path isDisplay d).inner? place =
      some (if isUnderWording isDisplay d place then e
        else annotate (dotted path (namesTo d place)) (isDisplayAt isDisplay place) e) := by
  -- The path and the flag change on the way, so both are general.
  induction place generalizing d path isDisplay with
  | nil =>
    obtain rfl := Option.some.inj h
    rfl
  | cons part rest ih =>
    obtain ⟨inner, hpart, hinner⟩ := Document.inner?_cons_eq_some_iff.mp h
    cases hwording : isShownWording isDisplay d with
    | true =>
      have hkept : (annotate path isDisplay d).part? part = some inner := by
        rw [part?_annotate_of_wording hwording, hpart, Option.some_or]
      rw [Document.inner?_cons_of_part hkept, hinner, isUnderWording, hwording, Bool.true_or, if_pos rfl]
    | false =>
      have hnoted := part?_annotate hwording path part
      rw [hpart, Option.map_some] at hnoted
      rw [Document.inner?_cons_of_part hnoted, ih hinner, isUnderWording, hwording, Bool.false_or, hpart, namesTo,
        hpart, isDisplayAt]
      rfl

/-- A `_context` where there was none is the path to the wording that it is in. -/
theorem eq_of_new_note (h : (annotate path isDisplay d).inner? (place ++ [.field "_context"]) = some c)
    (hnew : d.inner? (place ++ [.field "_context"]) = none) :
    c = .text (dotted path (namesTo d place)) ∧
      ∃ e, d.inner? place = some e ∧ isShownWording (isDisplayAt isDisplay place) e = true := by
  induction place generalizing d path isDisplay with
  | nil =>
    simp only [List.nil_append, Document.inner?, Option.bind_fun_some] at h hnew
    cases hwording : isShownWording isDisplay d with
    | true =>
      rw [part?_annotate_of_wording hwording, hnew] at h
      exact ⟨(Option.some.inj h).symm, d, rfl, hwording⟩
    | false =>
      rw [part?_annotate hwording, hnew] at h
      cases h
  | cons part rest ih =>
    rw [List.cons_append] at h hnew
    obtain ⟨noted, hpart, h⟩ := Document.inner?_cons_eq_some_iff.mp h
    cases hwording : isShownWording isDisplay d with
    | true =>
      -- What was there is the same; what is new is a text, with nothing inside.
      rw [part?_annotate_of_wording hwording] at hpart
      rcases Option.or_eq_some_iff.mp hpart with hsame | ⟨-, hcontext⟩
      · rw [Document.inner?_cons_of_part hsame, h] at hnew
        cases hnew
      · obtain ⟨-, hnoted⟩ := Option.ite_none_right_eq_some.mp hcontext
        rw [← Option.some.inj hnoted, Document.inner?_text_append] at h
        cases h
    | false =>
      rw [part?_annotate hwording] at hpart
      obtain ⟨inner, hinner, rfl⟩ := Option.map_eq_some_iff.mp hpart
      rw [Document.inner?_cons_of_part hinner] at hnew
      obtain ⟨hc, e, he, hshown⟩ := ih h hnew
      refine ⟨?_, e, (Document.inner?_cons_of_part hinner rest).trans he, hshown⟩
      rw [namesTo, hinner]
      exact hc

/-! ## Without the new notes -/

mutual

/-- The document without the `_context` fields that `before` does not have at the same place. -/
def withoutNew (before : Option Document) : Document → Document
  | .object fields => .object (withoutNewFields before fields)
  | .list items => .list (withoutNewItems before 0 items)
  | d => d

def withoutNewFields (before : Option Document) : List (String × Document) → List (String × Document)
  | [] => []
  | (k, d) :: rest =>
    let known := before.bind (·.part? (.field k))
    if k = "_context" && known.isNone then withoutNewFields before rest
    else (k, withoutNew known d) :: withoutNewFields before rest

def withoutNewItems (before : Option Document) (i : Nat) : List Document → List Document
  | [] => []
  | d :: rest => withoutNew (before.bind (·.part? (.item i))) d :: withoutNewItems before (i + 1) rest

end

theorem withoutNewFields_append (before : Option Document) (fields more : List (String × Document)) :
    withoutNewFields before (fields ++ more) = withoutNewFields before fields ++ withoutNewFields before more := by
  induction fields with
  | nil => rfl
  | cons f rest ih =>
    obtain ⟨k, d⟩ := f
    rw [List.cons_append, withoutNewFields, withoutNewFields, ih]
    split <;> rfl

/-- A field that was there before is kept. -/
theorem withoutNewFields_cons {all rest : Fields} {k : String} {d e : Document} (h : Fields.get? all k = some d) :
    withoutNewFields (some (.object all)) ((k, e) :: rest) =
      (k, withoutNew (some d) e) :: withoutNewFields (some (.object all)) rest := by
  have hknown : (some (Document.object all)).bind (·.part? (.field k)) = some d := h
  simp [withoutNewFields, hknown]

/-- So is an item; those behind it come next. -/
theorem withoutNewItems_cons {all rest more : List Document} {i : Nat} {d e : Document} (h : all.drop i = d :: rest) :
    all.drop (i + 1) = rest ∧ withoutNewItems (some (.list all)) i (e :: more) =
      withoutNew (some d) e :: withoutNewItems (some (.list all)) (i + 1) more := by
  have hitem : all[i]? = some d := by
    rw [← List.head?_drop, h]
    rfl
  have hknown : (some (Document.list all)).bind (·.part? (.item i)) = some d := hitem
  rw [← List.tail_drop, h, withoutNewItems, hknown]
  exact ⟨rfl, rfl⟩

theorem withoutNewFields_addOrigin (h : withoutNewFields (some (.object fields)) fields = fields) (path : String) :
    withoutNewFields (some (.object fields)) (addOrigin path fields) = fields := by
  unfold addOrigin
  split
  · exact h
  · rename_i hhas
    have hnone : Fields.get? fields "_context" = none := by
      rw [Fields.has_eq_isSome_get?, Option.not_isSome_iff_eq_none] at hhas
      exact hhas
    have hknown : (some (Document.object fields)).bind (·.part? (.field "_context")) = none := hnone
    rw [Fields.insert_of_not_mem_keys (Fields.get?_eq_none_iff.mp hnone), withoutNewFields_append, h]
    simp [withoutNewFields, hknown]

mutual

theorem withoutNew_self : ∀ {d : Document}, d.Distinct → withoutNew (some d) d = d
  | .object fields, h => by
    have hfields := distinct_object.mp h
    have hall : ∀ f ∈ fields, Fields.get? fields f.1 = some f.2 ∧ f.2.Distinct :=
      fun f hf => ⟨(Fields.get?_eq_some_iff_mem hfields.1).mpr hf, hfields.2 f hf⟩
    rw [withoutNew, withoutNewFields_self hall]
  | .list items, h => by rw [withoutNew, withoutNewItems_self List.drop_zero (distinct_list.mp h)]
  | .null, _ | .bool _, _ | .number _, _ | .text _, _ => by simp [withoutNew]

theorem withoutNewFields_self {all : Fields} : ∀ {fields : List (String × Document)},
    (∀ f ∈ fields, Fields.get? all f.1 = some f.2 ∧ f.2.Distinct) →
      withoutNewFields (some (.object all)) fields = fields
  | [], _ => rfl
  | (k, d) :: rest, h => by
    obtain ⟨hd, hrest⟩ := List.forall_mem_cons.mp h
    rw [withoutNewFields_cons hd.1, withoutNew_self hd.2, withoutNewFields_self hrest]

theorem withoutNewItems_self {all : List Document} {i : Nat} : ∀ {items : List Document}, all.drop i = items →
    (∀ d ∈ items, d.Distinct) → withoutNewItems (some (.list all)) i items = items
  | [], _, _ => rfl
  | d :: rest, hall, h => by
    obtain ⟨hd, hdistinct⟩ := List.forall_mem_cons.mp h
    obtain ⟨hrest, hcons⟩ := withoutNewItems_cons hall
    rw [hcons, withoutNew_self hd, withoutNewItems_self hrest hdistinct]

end

mutual

/-- Without the new notes the document is back, with its values and the order of its keys. -/
theorem withoutNew_annotate (path : String) (isDisplay : Bool) : ∀ {d : Document}, d.Distinct →
    withoutNew (some d) (annotate path isDisplay d) = d
  | .object fields, h => by
    have hfields := distinct_object.mp h
    have hall : ∀ f ∈ fields, Fields.get? fields f.1 = some f.2 ∧ f.2.Distinct :=
      fun f hf => ⟨(Fields.get?_eq_some_iff_mem hfields.1).mpr hf, hfields.2 f hf⟩
    cases hwording : isShownWording isDisplay (.object fields) with
    | true =>
      rw [annotate_of_wording hwording, withoutNew, withoutNewFields_addOrigin (withoutNewFields_self hall)]
    | false => rw [annotate_of_no_wording hwording, withoutNew, withoutNewFields_annotate path hall]
  | .list items, h => by
    rw [annotate, withoutNew, withoutNewItems_annotate path isDisplay List.drop_zero (distinct_list.mp h)]
  | .null, _ | .bool _, _ | .number _, _ | .text _, _ => by simp [annotate, withoutNew]

theorem withoutNewFields_annotate (path : String) {all : Fields} : ∀ {fields : List (String × Document)},
    (∀ f ∈ fields, Fields.get? all f.1 = some f.2 ∧ f.2.Distinct) →
      withoutNewFields (some (.object all)) (annotateFields path fields) = fields
  | [], _ => rfl
  | (k, d) :: rest, h => by
    obtain ⟨hd, hrest⟩ := List.forall_mem_cons.mp h
    rw [annotateFields, withoutNewFields_cons hd.1, withoutNew_annotate _ _ hd.2, withoutNewFields_annotate path hrest]

theorem withoutNewItems_annotate (path : String) (isDisplay : Bool) {all : List Document} {i : Nat} :
    ∀ {items : List Document}, all.drop i = items → (∀ d ∈ items, d.Distinct) →
      withoutNewItems (some (.list all)) i (annotateItems path isDisplay i items) = items
  | [], _, _ => rfl
  | d :: rest, hall, h => by
    obtain ⟨hd, hdistinct⟩ := List.forall_mem_cons.mp h
    obtain ⟨hrest, hcons⟩ := withoutNewItems_cons hall
    rw [annotateItems, hcons, withoutNew_annotate _ _ hd, withoutNewItems_annotate path isDisplay hrest hdistinct]

end

/-! ## A second run -/

theorem isWording_addOrigin (path : String) (fields : Fields) :
    isWording (addOrigin path fields) = isWording fields := by
  unfold addOrigin
  split
  · rfl
  · rename_i hhas
    have hnew : "_context" ∉ Fields.keys fields := fun hmem => hhas (Fields.has_iff_mem_keys.mpr hmem)
    have hnote : isNote "_context" = true := by decide +kernel
    rw [Fields.insert_of_not_mem_keys hnew]
    simp [isWording, List.filter_append, hnote]

theorem annotateFields_eq_map (path : String) (fields : List (String × Document)) :
    annotateFields path fields =
      fields.map fun f => (f.1, annotate (path ++ "." ++ f.1) (displayFields.contains f.1) f.2) := by
  induction fields with
  | nil => rfl
  | cons f rest ih => rw [annotateFields, ih, List.map_cons]

/-- Whether an object is a wording shows in its keys and in which values are texts. -/
theorem isWording_annotateFields (path : String) (fields : Fields) :
    isWording (annotateFields path fields) = isWording fields := by
  have hfilter : (annotateFields path fields).filter (fun f => !isNote f.1) =
      annotateFields path (fields.filter fun f => !isNote f.1) := by
    rw [annotateFields_eq_map, annotateFields_eq_map, List.filter_map]
    rfl
  have htext : ∀ f : String × Document,
      (annotate (path ++ "." ++ f.1) (displayFields.contains f.1) f.2).isText = f.2.isText :=
    fun f => congrArg Option.isSome (text?_annotate _ _ f.2)
  have hwording : ∀ fields : Fields, isWording fields =
      (!(fields.filter fun f => !isNote f.1).isEmpty &&
        (fields.filter fun f => !isNote f.1).all fun f => f.2.isText && isLanguageCode f.1) := fun _ => rfl
  rw [hwording, hwording, hfilter, annotateFields_eq_map, List.isEmpty_map, List.all_map]
  simp only [Function.comp_def, htext]

mutual

/-- All wordings have notes afterwards. -/
theorem isNoted_annotate (path : String) (isDisplay : Bool) : ∀ d : Document,
    isNoted isDisplay (annotate path isDisplay d) = true
  | .object fields => by
    cases hwording : isShownWording isDisplay (.object fields) with
    | true =>
      have hthere : Fields.has (addOrigin path fields) "_context" = true := by
        rw [Fields.has_eq_isSome_get?, get?_addOrigin]
        cases Fields.get? fields "_context" <;> rfl
      rw [annotate_of_wording hwording, isNoted, isWording_addOrigin, hthere]
      exact if_pos hwording
    | false =>
      rw [annotate_of_no_wording hwording, isNoted, isWording_annotateFields, isNotedFields_annotate path fields]
      exact if_neg (Bool.eq_false_iff.mp hwording)
  | .list items => by rw [annotate, isNoted, isNotedItems_annotate path isDisplay 0 items]
  | .null | .bool _ | .number _ | .text _ => by simp [annotate, isNoted]

theorem isNotedFields_annotate (path : String) : ∀ fields : List (String × Document),
    isNotedFields (annotateFields path fields) = true
  | [] => rfl
  | (k, d) :: rest => by
    rw [annotateFields, isNotedFields, isNoted_annotate _ _ d, isNotedFields_annotate path rest, Bool.and_self]

theorem isNotedItems_annotate (path : String) (isDisplay : Bool) (i : Nat) : ∀ items : List Document,
    isNotedItems isDisplay (annotateItems path isDisplay i items) = true
  | [] => rfl
  | d :: rest => by
    rw [annotateItems, isNotedItems, isNoted_annotate _ _ d, isNotedItems_annotate path isDisplay (i + 1) rest,
      Bool.and_self]

end

/-! ## The step -/

theorem convert_annotateWordings {id : String} (start place : String) (h : d.id? = some id) :
    (annotateWordings start).convert d place = .success (annotate (start ++ id) false d) := by
  simp only [annotateWordings, h]

/-- A document with notes has an id, and nothing to add. -/
theorem convert_annotated {id : String} (start place : String) (h : d.id? = some id) (hnoted : isNoted false d = true) :
    (annotateWordings start).convert d place = .success d := by
  rw [convert_annotateWordings start place h, (annotate_eq_self_iff _ _ d).mpr hnoted]

/-- A document with an id gets its notes, and nothing else: without the new ones it is back. A `_context` that was
there is the same exactly if it stands in a wording, however deep, or has no wording without a note in it; one that
is new stands in a wording below a key for display texts, and is the path there from the id. A second run changes
nothing. -/
theorem annotateWordings_adds {id : String} (hd : d.Distinct) (hid : d.id? = some id) (start context : String) :
    ∃ result, (annotateWordings start).convert d context = .success result ∧
      withoutNew (some d) result = d ∧
      (∀ place c, d.inner? (place ++ [.field "_context"]) = some c →
        (result.inner? (place ++ [.field "_context"]) = some c ↔
          isUnderWording false d (place ++ [.field "_context"]) = true ∨ isNoted false c = true)) ∧
      (∀ place c, result.inner? (place ++ [.field "_context"]) = some c →
        d.inner? (place ++ [.field "_context"]) = none →
        c = .text (dotted (start ++ id) (namesTo d place)) ∧
          ∃ e, d.inner? place = some e ∧ isShownWording (isDisplayAt false place) e = true) ∧
      ∀ start' context', (annotateWordings start').convert result context' = .success result := by
  refine ⟨annotate (start ++ id) false d, convert_annotateWordings start context hid, withoutNew_annotate _ _ hd, ?_,
    fun _ _ => eq_of_new_note, ?_⟩
  · intro place c hc
    have hdisplay : displayFields.contains "_context" = false := by decide
    rw [inner?_annotate hc, isDisplayAt_append_field, hdisplay, Option.some.injEq]
    split
    · rename_i hunder
      simp [hunder]
    · rename_i hunder
      rw [annotate_eq_self_iff]
      simp [hunder]
  · intro start' context'
    exact convert_annotated start' context' ((id?_annotate _ d).trans hid) (isNoted_annotate _ _ d)

/-- A bench with a wording that has its note, and others that have not. -/
def askedBench : Document :=
  .object [("id", .text "bench"), ("title", .object [("en", .text "Bench"), ("_context", .text "elsewhere")]),
    ("tagRenderings", .list [.object [("id", .text "seats"), ("question", .object [("en", .text "How many?")]),
      ("mappings", .list [.object [("if", .text "seats=2"), ("then", .object [("en", .text "Two")])]])]])]

theorem annotateWordings_adds_bench :
    askedBench.Distinct ∧ askedBench.id? = some "bench" ∧
      ∃ result, (annotateWordings "layers:").convert askedBench "layers:bench" = .success result ∧
        withoutNew (some askedBench) result = askedBench ∧
        result.inner? [.field "title", .field "_context"] = some (.text "elsewhere") ∧
        result.inner? [.field "tagRenderings", .item 0, .field "mappings", .item 0, .field "then", .field "_context"] =
          some (.text "layers:bench.tagRenderings.seats.mappings.0.then") := by
  have hd : askedBench.Distinct := by simp [askedBench, Fields.Distinct, Fields.keys]
  obtain ⟨result, hresult, hback, hold, hnew, -⟩ := annotateWordings_adds hd rfl "layers:" "layers:bench"
  have hthere : (result.inner? [.field "tagRenderings", .item 0, .field "mappings", .item 0, .field "then",
      .field "_context"]).isSome = true := by
    obtain rfl := Option.some.inj (congrArg Converted.result hresult)
    decide +kernel
  obtain ⟨c, hc⟩ := Option.isSome_iff_exists.mp hthere
  obtain ⟨rfl, -⟩ := hnew [.field "tagRenderings", .item 0, .field "mappings", .item 0, .field "then"] c hc rfl
  exact ⟨hd, rfl, result, hresult, hback, (hold [.field "title"] _ rfl).mpr (.inr rfl), hc⟩

/-- A note of the author, with wordings of its own, beside the tags of a source. -/
def surveyedBench : Document :=
  .object [("id", .text "bench"), ("source", .object [
    ("_context", .object [("description", .object [("en", .text "From the survey")])]),
    ("osmTags", .text "amenity=bench")])]

theorem annotate_changes_context : ¬ ∀ (d result : Document) (id start context : String), d.Distinct → d.id? = some id →
    (annotateWordings start).convert d context = .success result →
      ∀ place c, d.inner? (place ++ [.field "_context"]) = some c →
        result.inner? (place ++ [.field "_context"]) = some c := by
  intro hall
  have hd : surveyedBench.Distinct := by simp [surveyedBench, Fields.Distinct, Fields.keys]
  have hkept := hall _ _ _ "layers:" "layers:bench" hd rfl (convert_annotateWordings "layers:" _ rfl)
    [.field "source"] _ rfl
  have hunder : isUnderWording false surveyedBench ([.field "source"] ++ [.field "_context"]) = false := rfl
  rw [inner?_annotate rfl, hunder, if_neg Bool.false_ne_true, Option.some.injEq, annotate_eq_self_iff] at hkept
  exact absurd hkept (by decide +kernel)

end Theme

end MapTheme
