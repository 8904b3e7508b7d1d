/-
  MapTheme.Proofs.Rendering.Settled — renderings with nothing left to expand.

  A settled rendering is no reference and no block of copies, and has no block of a special visualisation
  inside. The steps on renderings leave it as it is. Of any rendering, settled or not, the step that writes
  such blocks out keeps the ids apart (`replaceBlocks_sameIds`).
-/

import MapTheme.Proofs.Rendering.InlineId
import MapTheme.Proofs.Rendering.Resolution
import MapTheme.Proofs.Special.Template
import MapTheme.Proofs.Step.Honesty
import MapTheme.Rendering.SpecialBlock

namespace MapTheme.Rendering

mutual

/-- Is there a block of a special visualisation inside the document? -/
def hasSpecial : Document → Bool
  | .object fields => Fields.has fields "special" || hasSpecialInFields fields
  | .list items => hasSpecialInItems items
  | _ => false

def hasSpecialInFields : List (String × Document) → Bool
  | [] => false
  | (_, d) :: rest => hasSpecial d || hasSpecialInFields rest

def hasSpecialInItems : List Document → Bool
  | [] => false
  | d :: rest => hasSpecial d || hasSpecialInItems rest

end

/-- Is the entry a rendering itself, with no block inside? -/
def isSettled (entry : Document) : Bool :=
  match entry with
  | .object fields => !isBlock fields && !hasSpecial entry
  | _ => false

/-! ## Without a change -/

theorem exists_object_of_isSettled {entry : Document} (h : isSettled entry = true) :
    ∃ fields, entry = .object fields ∧ isResolved entry = true ∧ hasSpecial entry = false := by
  cases entry with
  | object fields =>
    simp only [isSettled, Bool.and_eq_true, Bool.not_eq_true'] at h
    exact ⟨fields, rfl, by rw [isResolved, h.1]; rfl, h.2⟩
  | null | bool | number | text | list => cases h

theorem expandCopies_of_rendering {entry : Document} (h : isResolved entry = true) (place : String) :
    expandCopies.convert entry place = .success [entry] := by
  cases entry with
  | object fields =>
    simp only [isResolved, isBlock, Bool.not_eq_true', Bool.or_eq_false_iff] at h
    have hget : (Document.object fields).get? "rewrite" = Fields.get? fields "rewrite" := rfl
    have hrewrite : Fields.get? fields "rewrite" = none := by simpa [Fields.has_eq_isSome_get?] using h.2
    simp only [expandCopies, hget, hrewrite]
  | null | bool | number | text | list => cases h

theorem expandReference_of_rendering (lib : Library) {entry : Document} (h : isResolved entry = true) (place : String) :
    (expandReference lib).convert entry place = .success [entry] := by
  cases entry with
  | object fields =>
    simp only [isResolved, isBlock, Bool.not_eq_true', Bool.or_eq_false_iff] at h
    have hresolve : resolve lib maxDepth place (.object fields) = pure [.object fields] := by
      rw [resolve_eq_expandEntry]
      exact expandEntry_of_plain h.2 h.1
    exact congrArg Noted.finish hresolve
  | null | bool | number | text | list => cases h

mutual

theorem replaceBlocks_of_plain (place : String) : ∀ {d : Document}, hasSpecial d = false →
    replaceBlocks place d = pure d
  | .object fields, h => by
    simp only [hasSpecial, Bool.or_eq_false_iff] at h
    rw [replaceBlocks, h.1, if_neg Bool.false_ne_true, replaceInBlockFields_of_plain place h.2]
    rfl
  | .list items, h => by
    rw [hasSpecial] at h
    rw [replaceBlocks, replaceInBlockItems_of_plain place 0 h]
    rfl
  | .null, _ | .bool _, _ | .number _, _ | .text _, _ => by rw [replaceBlocks] <;> simp

theorem replaceInBlockFields_of_plain (place : String) : ∀ {fields : List (String × Document)},
    hasSpecialInFields fields = false → replaceInBlockFields place fields = pure fields
  | [], _ => rfl
  | (k, d) :: rest, h => by
    simp only [hasSpecialInFields, Bool.or_eq_false_iff] at h
    rw [replaceInBlockFields, replaceBlocks_of_plain _ h.1, replaceInBlockFields_of_plain place h.2]
    rfl

theorem replaceInBlockItems_of_plain (place : String) (i : Nat) : ∀ {items : List Document},
    hasSpecialInItems items = false → replaceInBlockItems place i items = pure items
  | [], _ => rfl
  | d :: rest, h => by
    simp only [hasSpecialInItems, Bool.or_eq_false_iff] at h
    rw [replaceInBlockItems, replaceBlocks_of_plain _ h.1, replaceInBlockItems_of_plain place (i + 1) h.2]
    rfl

end

theorem replaceSpecialBlocks_honest : replaceSpecialBlocks.Honest := fun _ _ => Step.honest_finish _

theorem replaceSpecialBlocks_of_settled {entry : Document} (h : isSettled entry = true) (place : String) :
    replaceSpecialBlocks.convert entry place = .success entry := by
  obtain ⟨fields, rfl, -, hplain⟩ := exists_object_of_isSettled h
  exact congrArg Noted.finish (replaceBlocks_of_plain place hplain)

/-! ## Ids and blocks -/

/-- A block that is taken has a known type, and its wording a call of it in each language. -/
theorem exists_of_wordingOf {block : Fields} {d : Document} (h : wordingOf block = .ok d) :
    ∃ v special, Fields.get? block "special" = some (.object special) ∧
      Fields.get? special "type" = some (.text v.name) ∧ Special.find? v.name = some v ∧
      d = .object ((languagesOf special).map fun language => (language, .text (blockText v special language))) := by
  unfold wordingOf at h
  split at h
  · cases h
  · split at h
    · rename_i special hspecial
      split at h
      · cases h
      · rename_i kind hkind
        split at h
        · cases h
        · rename_i v hv
          have hname : v.name = kind := by simpa using List.find?_some hv
          rw [← hname] at hkind hv
          split at h
          · cases h
          · refine ⟨v, special, hspecial, ?_, hv, (Except.ok.inj h).symm⟩
            obtain ⟨d, hd, hs⟩ := Option.bind_eq_some_iff.mp hkind
            cases d with
            | text s => rw [hd, ← Option.some.inj hs]
            | null | bool | number | list | object => cases hs
    · cases h

theorem brace_mem_blockText (v : Special.Visualisation) (special : Fields) (language : String) :
    '\x7b' ∈ (blockText v special language).toList := by
  simp [blockText, Special.toList_callText, Special.Call.written]

theorem text?_replaceBlocks (place : String) (d : Document) : (replaceBlocks place d).value.text? = d.text? := by
  cases d with
  | object fields =>
    rw [replaceBlocks]
    split
    · split
      · rename_i d hd
        obtain ⟨_, _, -, -, -, rfl⟩ := exists_of_wordingOf hd
        rfl
      · rfl
    · rfl
  | list items => rfl
  | null | bool | number | text => rfl

theorem get?_replaceInBlockFields (place : String) (fields : Fields) (key : String) :
    Fields.get? (replaceInBlockFields place fields).value key =
      (Fields.get? fields key).map fun d => (replaceBlocks (Step.fieldPlace place key) d).value := by
  induction fields with
  | nil => rfl
  | cons f rest ih =>
    obtain ⟨k, d⟩ := f
    rw [replaceInBlockFields, Noted.value_bind, Noted.value_bind, Noted.value_pure, Fields.get?_cons,
      Fields.get?_cons, ih]
    by_cases hk : k = key
    · rw [if_pos hk, if_pos hk, hk]
      rfl
    · rw [if_neg hk, if_neg hk]

theorem length_replaceInBlockFields (place : String) (fields : List (String × Document)) :
    (replaceInBlockFields place fields).value.length = fields.length := by
  induction fields with
  | nil => rfl
  | cons f rest ih => exact congrArg (· + 1) ih

theorem textAt?_replaceInBlockFields (place : String) (fields : Fields) (key : String) :
    (Document.object (replaceInBlockFields place fields).value).textAt? key = (Document.object fields).textAt? key := by
  have hget : (Document.object (replaceInBlockFields place fields).value).get? key =
      ((Document.object fields).get? key).map fun d => (replaceBlocks (Step.fieldPlace place key) d).value :=
    get?_replaceInBlockFields place fields key
  rw [Document.textAt?, Document.textAt?, hget]
  cases (Document.object fields).get? key with
  | none => rfl
  | some d => exact text?_replaceBlocks _ d

theorem textAt?_eq_some_iff {fields : Fields} {key s : String} :
    (Document.object fields).textAt? key = some s ↔ Fields.get? fields key = some (.text s) := by
  have hget : (Document.object fields).get? key = Fields.get? fields key := rfl
  rw [Document.textAt?, hget, Option.bind_eq_some_iff]
  constructor
  · rintro ⟨d, hd, hs⟩
    cases d with
    | text t => rw [hd, ← Option.some.inj hs]
    | null | bool | number | list | object => cases hs
  · exact fun h => ⟨.text s, h, rfl⟩

/-- Whether an id is generated shows in two texts and the number of fields. -/
theorem generatedId?_congr {before after : Fields} (hlength : after.length = before.length)
    (hid : (Document.object after).textAt? "id" = (Document.object before).textAt? "id")
    (hrender : (Document.object after).textAt? "render" = (Document.object before).textAt? "render") :
    generatedId? (.object after) = generatedId? (.object before) := by
  apply Option.ext
  intro id
  simp only [generatedId?_eq_some_iff, ← textAt?_eq_some_iff, Document.object.injEq, exists_and_left, exists_eq_left',
    hlength, hid, hrender]

theorem generatedId?_of_special {fields : Fields} (h : Fields.has fields "special" = true) :
    generatedId? (.object fields) = none := by
  rw [Option.eq_none_iff_forall_ne_some]
  intro id hgen
  obtain ⟨_, render, he, hid, hrender, hlength, -⟩ := generatedId?_eq_some_iff.mp hgen
  obtain rfl := Document.object.inj he
  rw [Fields.has_eq_isSome_get?] at h
  obtain ⟨block, hblock⟩ := Option.isSome_iff_exists.mp h
  obtain ⟨f, g, rfl⟩ := List.length_eq_two.mp hlength
  have hid := Fields.mem_of_get? hid
  have hrender := Fields.mem_of_get? hrender
  have hblock := Fields.mem_of_get? hblock
  simp only [List.mem_cons, List.not_mem_nil, or_false] at hid hrender hblock
  -- Two fields have no room for three keys.
  grind -ring -linarith

theorem id?_of_wordingOf {block : Fields} {d : Document} (h : wordingOf block = .ok d) :
    (Document.object block).id? = none := by
  rw [Option.eq_none_iff_forall_ne_some]
  intro id hid
  have hkey : "id" ∈ Fields.keys block := List.mem_map_of_mem (Fields.mem_of_get? (textAt?_eq_some_iff.mp hid))
  unfold wordingOf at h
  split at h
  · cases h
  · rename_i hextra
    exact absurd (List.find?_eq_none.mp hextra "id" hkey) (by decide +kernel)

theorem sameIds_of_wordingOf {block : Fields} {d : Document} (hspecial : Fields.has block "special" = true)
    (h : wordingOf block = .ok d) : SameIds (.object block) d := by
  have hid := id?_of_wordingOf h
  obtain ⟨v, special, -, -, -, rfl⟩ := exists_of_wordingOf h
  have hbrace : ∀ id, (Document.object ((languagesOf special).map fun language =>
      (language, Document.text (blockText v special language)))).id? = some id → '\x7b' ∈ id.toList := by
    intro id he
    obtain ⟨language, -, he⟩ := List.mem_map.mp (Fields.mem_of_get? (textAt?_eq_some_iff.mp he))
    rw [← Document.text.inj (Prod.mk.inj he).2]
    exact brace_mem_blockText v special language
  refine ⟨?_, ?_⟩
  · rw [generatedId?_of_special hspecial, Option.eq_none_iff_forall_ne_some]
    intro id hgen
    exact absurd (isNameChar_of_generatedId? hgen (hbrace id (id?_of_generatedId? hgen))) (by decide)
  · cases he : (Document.object ((languagesOf special).map fun language =>
        (language, Document.text (blockText v special language)))).id? with
    | none => exact .inl hid.symm
    | some id => exact .inr ⟨id, rfl, hbrace id he⟩

/-- The step keeps all ids, but a block that has the language `id` becomes a wording with a call there. -/
theorem replaceBlocks_sameIds (place : String) (d : Document) : SameIds d (replaceBlocks place d).value := by
  cases d with
  | object fields =>
    rw [replaceBlocks]
    split
    · rename_i hspecial
      split
      · rename_i d hd
        exact sameIds_of_wordingOf hspecial hd
      · exact ⟨rfl, .inl rfl⟩
    · have hid := textAt?_replaceInBlockFields place fields "id"
      have hrender := textAt?_replaceInBlockFields place fields "render"
      exact ⟨generatedId?_congr (length_replaceInBlockFields place fields) hid hrender, .inl hid⟩
  | list items => exact ⟨rfl, .inl rfl⟩
  | null | bool | number | text => exact ⟨rfl, .inl rfl⟩

end MapTheme.Rendering
