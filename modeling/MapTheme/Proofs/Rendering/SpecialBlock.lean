/-
  MapTheme.Proofs.Rendering.SpecialBlock — a call that is written as an object keeps its arguments.

  Every block of a document is replaced where it stands (`replaceBlocks_at`). Its texts become arguments of a call,
  with commas between them; what is read back from the call are the texts again, without the blanks at their ends
  (`resolve_argumentsOf`). So the wording says in each language what the block says (`replaceSpecialBlocks_says`),
  where its texts are separable: no comma or closing parenthesis in an argument, and no text before that takes in
  the call. Blanks at the ends are lost, and a comma moves the arguments behind it (`replaceSpecialBlocks_misreads`).
-/

import Mathlib.Data.List.TakeWhile
import MapTheme.Proofs.Rendering.Settled
import MapTheme.Proofs.Special.Finding

namespace MapTheme

/-! ## Places in a document -/

namespace Document

def child? : Document → Nat → Option Document
  | object fields, i => fields[i]?.map (·.2)
  | list items, i => items[i]?
  | _, _ => none

/-- The document at the end of a path of positions. -/
def at? (d : Document) : List Nat → Option Document
  | [] => some d
  | i :: path => (d.child? i).bind (at? · path)

end Document

namespace Rendering

open Special (Visualisation Argument)

def block? : Document → Option Fields
  | .object fields => if Fields.has fields "special" then some fields else none
  | _ => none

/-- The block at the end of a path; what is inside a block is not looked at. -/
def blockAt? (d : Document) : List Nat → Option Fields
  | [] => block? d
  | i :: path => if (block? d).isSome then none else (d.child? i).bind (blockAt? · path)

theorem getElem?_replaceInBlockFields {place : String} {fields : List (String × Document)}
    (h : (replaceInBlockFields place fields).notes.hasErrors = false) {i : Nat} {key : String} {d : Document}
    (hi : fields[i]? = some (key, d)) :
    (replaceBlocks (Step.fieldPlace place key) d).notes.hasErrors = false ∧
      (replaceInBlockFields place fields).value[i]? = some (key, (replaceBlocks (Step.fieldPlace place key) d).value) := by
  induction fields generalizing i with
  | nil => cases hi
  | cons f rest ih =>
    obtain ⟨k, e⟩ := f
    simp only [replaceInBlockFields, Noted.notes_bind, Noted.notes_pure, Diagnostics.hasErrors_append,
      Bool.or_eq_false_iff] at h
    obtain ⟨he, hrest, -⟩ := h
    cases i with
    | zero =>
      cases hi
      exact ⟨he, rfl⟩
    | succ i => exact ih hrest hi

theorem getElem?_replaceInBlockItems {place : String} {items : List Document} {start : Nat}
    (h : (replaceInBlockItems place start items).notes.hasErrors = false) {i : Nat} {d : Document}
    (hi : items[i]? = some d) :
    ∃ inner, (replaceBlocks inner d).notes.hasErrors = false ∧
      (replaceInBlockItems place start items).value[i]? = some (replaceBlocks inner d).value := by
  induction items generalizing start i with
  | nil => cases hi
  | cons e rest ih =>
    simp only [replaceInBlockItems, Noted.notes_bind, Noted.notes_pure, Diagnostics.hasErrors_append,
      Bool.or_eq_false_iff] at h
    obtain ⟨he, hrest, -⟩ := h
    cases i with
    | zero =>
      cases hi
      exact ⟨_, he, rfl⟩
    | succ i => exact ih hrest hi

theorem block?_eq_some_iff {d : Document} {block : Fields} :
    block? d = some block ↔ d = .object block ∧ Fields.has block "special" = true := by
  cases d with
  | object fields =>
    simp only [block?, Option.ite_none_right_eq_some, Option.some.injEq, Document.object.injEq]
    constructor
    · rintro ⟨hspecial, rfl⟩
      exact ⟨rfl, hspecial⟩
    · rintro ⟨rfl, hspecial⟩
      exact ⟨hspecial, rfl⟩
  | null | bool | number | text | list => simp [block?]

theorem wordingOf_of_replaceBlocks {place : String} {d : Document} {block : Fields}
    (h : (replaceBlocks place d).notes.hasErrors = false) (hblock : block? d = some block) :
    wordingOf block = .ok (replaceBlocks place d).value := by
  obtain ⟨rfl, hspecial⟩ := block?_eq_some_iff.mp hblock
  rw [replaceBlocks, if_pos hspecial] at h ⊢
  cases hw : wordingOf block with
  | ok w => rfl
  | error fault =>
    rw [hw] at h
    cases h

/-- What is no block itself keeps its children where they are, and each becomes what its blocks are replaced by. -/
theorem child?_replaceBlocks {place : String} {d x : Document} {i : Nat}
    (h : (replaceBlocks place d).notes.hasErrors = false) (hnone : block? d = none) (hx : d.child? i = some x) :
    ∃ inner, (replaceBlocks inner x).notes.hasErrors = false ∧
      (replaceBlocks place d).value.child? i = some (replaceBlocks inner x).value := by
  cases d with
  | object fields =>
    have hspecial : ¬ Fields.has fields "special" = true := by simpa [block?] using hnone
    obtain ⟨⟨key, y⟩, hi, rfl⟩ := Option.map_eq_some_iff.mp hx
    rw [replaceBlocks, if_neg hspecial, Noted.notes_bind, Noted.notes_pure, Diagnostics.hasErrors_append,
      Bool.or_eq_false_iff] at h
    obtain ⟨hy, hvalue⟩ := getElem?_replaceInBlockFields h.1 hi
    refine ⟨_, hy, ?_⟩
    rw [replaceBlocks, if_neg hspecial, Noted.value_bind, Noted.value_pure, Document.child?, hvalue]
    rfl
  | list items =>
    rw [replaceBlocks, Noted.notes_bind, Noted.notes_pure, Diagnostics.hasErrors_append, Bool.or_eq_false_iff] at h
    obtain ⟨inner, hy, hvalue⟩ := getElem?_replaceInBlockItems h.1 hx
    exact ⟨inner, hy, hvalue⟩
  | null | bool | number | text => cases hx

/-- Without errors each block is replaced by its wording, wherever it stands. -/
theorem replaceBlocks_at {path : List Nat} : ∀ {place : String} {d : Document} {block : Fields},
    (replaceBlocks place d).notes.hasErrors = false → blockAt? d path = some block →
    ∃ w, (replaceBlocks place d).value.at? path = some w ∧ wordingOf block = .ok w := by
  induction path with
  | nil =>
    intro place d block h hblock
    exact ⟨_, rfl, wordingOf_of_replaceBlocks h hblock⟩
  | cons i path ih =>
    intro place d block h hblock
    rw [blockAt?] at hblock
    split at hblock
    · cases hblock
    · rename_i hnone
      obtain ⟨x, hx, hinner⟩ := Option.bind_eq_some_iff.mp hblock
      obtain ⟨inner, hy, hvalue⟩ := child?_replaceBlocks h (Option.not_isSome_iff_eq_none.mp hnone) hx
      obtain ⟨w, hw, hread⟩ := ih hy hinner
      refine ⟨w, ?_, hread⟩
      rw [Document.at?, hvalue]
      exact hw

/-! ## Arguments by position -/

/-- What is left out at the end is empty. -/
theorem exists_of_withoutTrailingEmpty (texts : List String) :
    ∃ left, texts = withoutTrailingEmpty texts ++ left ∧ ∀ s ∈ left, s = "" := by
  refine ⟨(texts.reverse.takeWhile String.isEmpty).reverse, ?_, ?_⟩
  · rw [withoutTrailingEmpty, ← List.reverse_append, List.takeWhile_append_dropWhile, List.reverse_reverse]
  · intro s hs
    exact String.isEmpty_iff.mp (List.mem_takeWhile_imp (List.mem_reverse.mp hs))

theorem mem_of_withoutTrailingEmpty {texts : List String} {s : String} (h : s ∈ withoutTrailingEmpty texts) :
    s ∈ texts := by
  obtain ⟨left, htexts, -⟩ := exists_of_withoutTrailingEmpty texts
  rw [htexts]
  exact List.mem_append_left left h

theorem trim_of_blank {s : String} (h : ∀ c ∈ s.toList, Text.isBlank c = true) : Text.trim s = "" := by
  have hnone : Text.dropBlanks s.toList = [] := List.dropWhile_eq_nil_iff.mpr h
  rw [Text.trim, Text.trimmed, hnone]
  rfl

/-- The text, if it is not empty. -/
def given (s : String) : Option String := (some s).filter (!·.isEmpty)

/-- The texts as they are written between the parentheses of a call. -/
def rawArguments (texts : List String) : List Char :=
  [','].intercalate ((withoutTrailingEmpty texts).map String.toList)

/-- At each position the text is read back without the blanks at its ends, unless that is empty. -/
theorem getElem?_argumentsOf {texts : List String} (hcomma : ∀ s ∈ texts, ',' ∉ s.toList) {i : Nat} {s : String}
    (hs : texts[i]? = some s) :
    (Special.argumentsOf (rawArguments texts))[i]?.filter (!·.isEmpty) = given (Text.trim s) := by
  obtain ⟨left, htexts, hleft⟩ := exists_of_withoutTrailingEmpty texts
  have hkept : ∀ t ∈ withoutTrailingEmpty texts, ',' ∉ t.toList :=
    fun t ht => hcomma t (mem_of_withoutTrailingEmpty ht)
  rw [rawArguments, Special.argumentsOf_intercalate_eq hkept]
  by_cases hi : i < (withoutTrailingEmpty texts).length
  · have hget : (withoutTrailingEmpty texts)[i]? = some s := by
      rw [htexts, List.getElem?_append_left hi] at hs
      exact hs
    split
    · rename_i hblank
      have hempty : Text.trim s = "" := by
        apply trim_of_blank
        intro c hc
        have hpiece := List.mem_map_of_mem (f := String.toList) (List.mem_of_getElem? hget)
        exact List.all_eq_true.mp hblank c (Text.mem_intercalate_of_mem hpiece hc)
      rw [hempty]
      rfl
    · rw [List.getElem?_map, hget]
      rfl
  · have hempty : s = "" := by
      rw [htexts, List.getElem?_append_right (by omega)] at hs
      exact hleft s (List.mem_of_getElem? hs)
    have hnone : (if (([','].intercalate ((withoutTrailingEmpty texts).map String.toList)).all Text.isBlank) = true then []
        else (withoutTrailingEmpty texts).map Text.trim)[i]? = none := by
      split
      · rfl
      · rw [List.getElem?_eq_none_iff, List.length_map]
        omega
    rw [hnone, hempty]
    rfl

/-- What is read back from the texts of a visualisation's arguments. -/
theorem resolve_argumentsOf (v : Visualisation) {said : String → String}
    (hcomma : ∀ a ∈ v.arguments, ',' ∉ (said a.name).toList) :
    v.resolve (Special.argumentsOf (rawArguments (v.argumentNames.map said))) =
      v.arguments.map fun a => (a, (given (Text.trim (said a.name))).or a.default) := by
  have htexts : ∀ s ∈ v.argumentNames.map said, ',' ∉ s.toList := by
    intro s hs
    obtain ⟨name, hname, rfl⟩ := List.mem_map.mp hs
    obtain ⟨a, ha, rfl⟩ := List.mem_map.mp hname
    exact hcomma a ha
  apply List.ext_getElem?
  intro i
  rw [Visualisation.resolve, List.getElem?_map, List.getElem?_map, List.getElem?_zipIdx]
  cases ha : v.arguments[i]? with
  | none => rfl
  | some a =>
    have hs : (v.argumentNames.map said)[i]? = some (said a.name) := by
      rw [Visualisation.argumentNames, List.getElem?_map, List.getElem?_map, ha]
      rfl
    simp only [Option.map_some, Nat.zero_add, getElem?_argumentsOf htexts hs]

/-! ## What a block says -/

/-- What a block says for a key in a language. -/
def saidIn (special : Fields) (language key : String) : String := textIn language (Fields.get? special key)

/-- The texts of a block in a language can be told apart in a call. -/
structure Separable (v : Visualisation) (special : Fields) (language : String) : Prop where
  no_comma : ∀ a ∈ v.arguments, ',' ∉ (saidIn special language a.name).toList
  no_parenthesis : ∀ a ∈ v.arguments, ')' ∉ (saidIn special language a.name).toList
  before_closed : Special.endsInCall (saidIn special language "before").toList = false

/-- Names of visualisations can be written as calls. -/
theorem name_of_find? {name : String} {v : Visualisation} (h : Special.find? name = some v) :
    (v.name.toList.head?.map Special.isNameStart).getD false = true ∧ ∀ c ∈ v.name.toList, Special.isNameChar c = true := by
  have hall : Special.registry.all (fun v => (v.name.toList.head?.map Special.isNameStart).getD false &&
      v.name.toList.all Special.isNameChar) = true := by decide +kernel
  have hv := List.all_eq_true.mp hall v (List.mem_of_find?_eq_some h)
  rw [Bool.and_eq_true, List.all_eq_true] at hv
  exact hv

/-- The text for a language has a call that says what the block says. -/
theorem exists_call_of_separable {name : String} {v : Visualisation} (hv : Special.find? name = some v)
    {special : Fields} {language : String} (h : Separable v special language) :
    ∃ call ∈ Special.calls (blockText v special language), call.name = v.name ∧
      v.resolve call.arguments =
        v.arguments.map fun a => (a, (given (Text.trim (saidIn special language a.name))).or a.default) := by
  obtain ⟨hstart, hchars⟩ := name_of_find? hv
  have hparenthesis : ∀ s ∈ withoutTrailingEmpty (v.argumentNames.map (saidIn special language)), ')' ∉ s.toList := by
    intro s hs
    obtain ⟨name, hname, rfl⟩ := List.mem_map.mp (mem_of_withoutTrailingEmpty hs)
    obtain ⟨a, ha, rfl⟩ := List.mem_map.mp hname
    exact h.no_parenthesis a ha
  refine ⟨_, Special.mem_calls_append hstart hchars hparenthesis h.before_closed, rfl, ?_⟩
  exact resolve_argumentsOf v h.no_comma

theorem languagesOf_ne_nil (special : Fields) : languagesOf special ≠ [] := by
  unfold languagesOf
  dsimp only
  split
  · exact List.cons_ne_nil _ _
  · rename_i hne
    exact hne

/-- Each block of a document becomes a wording, and in each of its languages in which the texts of the block are
separable, the wording has a call that says what the block says: the texts without the blanks at their ends, or the
defaults of the arguments that are missing, empty or blank. -/
theorem replaceSpecialBlocks_says {input result : Document} {place : String} {path : List Nat} {block : Fields}
    (h : (replaceSpecialBlocks.convert input place).result = some result) (hblock : blockAt? input path = some block) :
    ∃ v special texts, Fields.get? block "special" = some (.object special) ∧
      Fields.get? special "type" = some (.text v.name) ∧ Special.find? v.name = some v ∧
      result.at? path = some (.object texts) ∧ Fields.keys texts = languagesOf special ∧ texts ≠ [] ∧
      ∀ language d, (language, d) ∈ texts → ∃ text, d = .text text ∧
        (Separable v special language → ∃ call ∈ Special.calls text, call.name = v.name ∧
          v.resolve call.arguments =
            v.arguments.map fun a => (a, (given (Text.trim (saidIn special language a.name))).or a.default)) := by
  obtain ⟨hok, rfl⟩ := Noted.result_finish h
  obtain ⟨w, hw, hread⟩ := replaceBlocks_at hok hblock
  obtain ⟨v, special, hspecial, htype, hv, rfl⟩ := exists_of_wordingOf hread
  refine ⟨v, special, _, hspecial, htype, hv, hw, ?_, ?_, ?_⟩
  · rw [Fields.keys, List.map_map]
    exact List.map_id _
  · rw [Ne, List.map_eq_nil_iff]
    exact languagesOf_ne_nil special
  · intro language d hd
    obtain ⟨_, -, he⟩ := List.mem_map.mp hd
    cases he
    exact ⟨_, rfl, exists_call_of_separable hv⟩

/-- A button that imports bakeries, with these texts before it and on it. -/
def importArguments (before text : String) : Fields :=
  [("type", .text "import_button"), ("targetLayer", .text "shops"), ("tags", .text "shop=bakery"), ("text", .text text),
    ("snap_onto_layers", .text "walls"), ("before", .object [("en", .text before)])]

def importRendering (before text : String) : Document :=
  .object [("id", .text "import"), ("render", .object [("special", .object (importArguments before text))])]

theorem separable_import {v : Visualisation} (hv : Special.find? "import_button" = some v) :
    Separable v (importArguments "Shop: " "Import it ") "en" := by
  have hbutton : (Special.find? "import_button").all (fun v => v.arguments.all fun a =>
      !(saidIn (importArguments "Shop: " "Import it ") "en" a.name).toList.contains ',' &&
        !(saidIn (importArguments "Shop: " "Import it ") "en" a.name).toList.contains ')') = true := by decide +kernel
  rw [hv, Option.all_some, List.all_eq_true] at hbutton
  simp only [Bool.and_eq_true, Bool.not_eq_true', List.contains_eq_mem, decide_eq_false_iff_not] at hbutton
  exact ⟨fun a ha => (hbutton a ha).1, fun a ha => (hbutton a ha).2, by decide +kernel⟩

theorem replaceSpecialBlocks_says_import :
    ∃ v result texts text, Special.find? "import_button" = some v ∧
      (replaceSpecialBlocks.convert (importRendering "Shop: " "Import it ") "layers:shops").result = some result ∧
      result.at? [1] = some (.object texts) ∧ ("en", .text text) ∈ texts ∧
      Separable v (importArguments "Shop: " "Import it ") "en" ∧
      ∃ call ∈ Special.calls text, call.name = v.name ∧
        v.resolve call.arguments = v.arguments.map fun a =>
          (a, (given (Text.trim (saidIn (importArguments "Shop: " "Import it ") "en" a.name))).or a.default) := by
  obtain ⟨result, hresult⟩ : ∃ result,
      (replaceSpecialBlocks.convert (importRendering "Shop: " "Import it ") "layers:shops").result = some result :=
    Option.isSome_iff_exists.mp (by decide +kernel)
  have hblock : blockAt? (importRendering "Shop: " "Import it ") [1] =
      some [("special", .object (importArguments "Shop: " "Import it "))] := rfl
  obtain ⟨v, special, texts, hspecial, htype, hv, htexts, hkeys, -, hsays⟩ := replaceSpecialBlocks_says hresult hblock
  cases hspecial
  have htype : some (Document.text "import_button") = some (.text v.name) := htype
  rw [← Document.text.inj (Option.some.inj htype)] at hv
  have hseparable := separable_import hv
  have hen : "en" ∈ Fields.keys texts := by
    rw [hkeys]
    decide +kernel
  obtain ⟨⟨language, d⟩, hd, rfl⟩ := List.mem_map.mp hen
  obtain ⟨text, rfl, htext⟩ := hsays _ d hd
  exact ⟨v, result, texts, text, hv, hresult, htexts, hd, hseparable, htext hseparable⟩

/-- In English no call of the button gives each argument exactly as the block says it. -/
def Misread (before text : String) : Prop :=
  ∃ result shown v, (replaceSpecialBlocks.convert (importRendering before text) "layers:shops").result = some result ∧
    (result.at? [1]).bind (·.textAt? "en") = some shown ∧ Special.find? "import_button" = some v ∧
    ∀ call ∈ Special.calls shown, call.name = v.name → v.resolve call.arguments ≠
      v.arguments.map fun a => (a, (given (saidIn (importArguments before text) "en" a.name)).or a.default)

theorem misread_of_shown {before text : String} (shown : String)
    (hshown : (replaceSpecialBlocks.convert (importRendering before text) "layers:shops").result.bind
      (fun result => (result.at? [1]).bind (·.textAt? "en")) = some shown)
    (hcalls : (Special.find? "import_button").any (fun v => (Special.calls shown).all fun call =>
      v.resolve call.arguments !=
        v.arguments.map fun a => (a, (given (saidIn (importArguments before text) "en" a.name)).or a.default)) = true) :
    Misread before text := by
  obtain ⟨result, hresult, hshown⟩ := Option.bind_eq_some_iff.mp hshown
  obtain ⟨v, hv, hcalls⟩ := (Option.any_eq_true _ _).mp hcalls
  refine ⟨result, shown, v, hresult, hshown, hv, ?_⟩
  intro call hcall _
  exact bne_iff_ne.mp (List.all_eq_true.mp hcalls call hcall)

/-- A blank at the end of a text is lost, a comma moves the arguments behind it, a closing parenthesis ends the call,
and a text before takes in the call that it begins. -/
theorem replaceSpecialBlocks_misreads :
    Misread "Shop: " "Import it " ∧ Misread "Shop: " "Import, please" ∧ Misread "Shop: " "Import (now)" ∧
      Misread "\x7ball_tags(" "Import it" := by
  refine ⟨?_, ?_, ?_, ?_⟩
  · exact misread_of_shown "Shop: \x7bimport_button(shops,shop=bakery,Import it ,,walls)\x7d"
      (by decide +kernel) (by decide +kernel)
  · exact misread_of_shown "Shop: \x7bimport_button(shops,shop=bakery,Import, please,,walls)\x7d"
      (by decide +kernel) (by decide +kernel)
  · exact misread_of_shown "Shop: \x7bimport_button(shops,shop=bakery,Import (now),,walls)\x7d"
      (by decide +kernel) (by decide +kernel)
  · exact misread_of_shown "\x7ball_tags(\x7bimport_button(shops,shop=bakery,Import it,,walls)\x7d"
      (by decide +kernel) (by decide +kernel)

end Rendering

end MapTheme
