/-
  MapTheme.Proofs.Document.Overlay — what one object laid over another gives, field by field.

  The keys of an overlay are visited one after the other. Where no two of them name the same field, each
  finds its field as it was at the start (`mergeField`), so the order of the visits shows only in the order
  of the new fields. Objects inside objects are merged in the same way; an overlay fails exactly if one of
  the pairs of objects that it gets to has an entry that does not fit (`merge_pointwise`).
-/

import MapTheme.Proofs.Document.Merge
import MapTheme.Proofs.Text.Pieces

namespace MapTheme

namespace MergeKey

/-- The field that a key of an overlay names. -/
def field : MergeKey → String
  | before field => field
  | behind field => field
  | plain field => field

/-- Does the key add to a list? -/
def adds : MergeKey → Bool
  | before _ => true
  | behind _ => true
  | plain _ => false

/-- How items are added to those that are there. -/
def combine : MergeKey → (added items : List Document) → List Document
  | behind _, added, items => items ++ added
  | _, added, items => added ++ items

theorem mem_combine {key : MergeKey} {added items : List Document} {d : Document} :
    d ∈ key.combine added items ↔ d ∈ added ∨ d ∈ items := by
  cases key with
  | before | plain => exact List.mem_append
  | behind => exact List.mem_append.trans or_comm

variable {key field : String}

theorem ofText_eq_before_iff : ofText key = .before field ↔ key = "+" ++ field := by
  rw [← Text.withoutStart?_eq_some_iff]
  unfold ofText
  split
  · rename_i found hstart
    rw [hstart, before.injEq, Option.some.injEq]
  · rename_i hstart
    rw [hstart]
    split <;> simp

theorem eq_of_ofText_behind (h : ofText key = .behind field) : key = field ++ "+" := by
  unfold ofText at h
  split at h
  · cases h
  · split at h
    · rename_i found hend
      cases h
      exact Text.withoutEnd?_eq_some_iff.mp hend
    · cases h

theorem eq_of_ofText_plain (h : ofText key = .plain field) : field = key := by
  unfold ofText at h
  split at h
  · cases h
  · split at h
    · cases h
    · cases h
      rfl

end MergeKey

namespace Document

/-- The fields that an overlay names, in its order. -/
def namedFields (source : List (String × Document)) : List String :=
  source.map fun (key, _) => (MergeKey.ofText key).field

/-- The items of a list that is there. -/
def itemsAt (target : Fields) (field : String) : List Document := ((Fields.get? target field).bind list?).getD []

/-- Laying `source` over `target` gets to laying one object over another. -/
inductive Reaches : (source target s t : Fields) → Prop
  | here {source target : Fields} : Reaches source target source target
  | inside {source target s t s' t' : Fields} {key field : String} : (key, object s) ∈ source →
      MergeKey.ofText key = .plain field → Fields.get? target field = some (object t) → Reaches s t s' t' →
      Reaches source target s' t'

/-- The value is no list, or what stands where it is to be added is neither null nor a list. -/
def Unaddable (target : Fields) (field : String) (value : Document) : Prop :=
  value.isList = false ∨ ∃ d, Fields.get? target field = some d ∧ d.isNull = false ∧ d.isList = false

/-- A key that adds to a list cannot do so. -/
def Misfit (source target : Fields) : Prop :=
  ∃ key value, (key, value) ∈ source ∧ (MergeKey.ofText key).adds = true ∧
    Unaddable target (MergeKey.ofText key).field value

/-- `fields` is `source` laid over `target`, field by field. -/
structure Laid (source target fields : Fields) : Prop where
  keys : Fields.keys fields = Fields.keys target ++ (namedFields source).filter (!(Fields.keys target).contains ·)
  unnamed : ∀ field, field ∉ namedFields source → Fields.get? fields field = Fields.get? target field
  before : ∀ key value field, (key, value) ∈ source → MergeKey.ofText key = .before field →
    ∃ added, value = list added ∧ Fields.get? fields field = some (list (added ++ itemsAt target field))
  behind : ∀ key value field, (key, value) ∈ source → MergeKey.ofText key = .behind field →
    ∃ added, value = list added ∧ Fields.get? fields field = some (list (itemsAt target field ++ added))
  merged : ∀ key s field t, (key, object s) ∈ source → MergeKey.ofText key = .plain field →
    Fields.get? target field = some (object t) →
    ∃ d, merge (object s) (object t) = .ok d ∧ Fields.get? fields field = some d
  replaced : ∀ key value field, (key, value) ∈ source → MergeKey.ofText key = .plain field →
    (∀ s t, value = object s → Fields.get? target field ≠ some (object t)) → Fields.get? fields field = some value

/-! ## One key -/

/-- What a key of an overlay makes of the field that it names. -/
def mergeField (target : Fields) (key : String) (value : Document) : Except MergeFault Document :=
  match MergeKey.ofText key with
  | .before field => do
    let added ← additions key value
    let items ← existingItems target field
    .ok (list (added ++ items))
  | .behind field => do
    let added ← additions key value
    let items ← existingItems target field
    .ok (list (items ++ added))
  | .plain field =>
    match Fields.get? target field with
    | some (object current) => merge value (object current)
    | _ => .ok value

theorem mergeFields_cons (key : String) (value : Document) (rest : List (String × Document)) (target : Fields) :
    mergeFields ((key, value) :: rest) target =
      (mergeField target key value).bind fun d =>
        mergeFields rest (Fields.insert target (MergeKey.ofText key).field d) := by
  rw [mergeFields, mergeField]
  cases MergeKey.ofText key with
  | before field =>
    dsimp only
    cases additions key value with
    | error => rfl
    | ok added => cases existingItems target field <;> rfl
  | behind field =>
    dsimp only
    cases additions key value with
    | error => rfl
    | ok added => cases existingItems target field <;> rfl
  | plain field =>
    dsimp only
    cases Fields.get? target field with
    | none => rfl
    | some current => cases current <;> rfl

/-- The fields of the outcome are those that were there and those that are named. -/
theorem mem_keys_mergeFields {source : List (String × Document)} {target result : Fields} {key : String}
    (h : mergeFields source target = .ok result) :
    key ∈ Fields.keys result ↔ key ∈ Fields.keys target ∨ key ∈ namedFields source := by
  induction source generalizing target with
  | nil =>
    rw [mergeFields] at h
    cases h
    simp [namedFields]
  | cons f rest ih =>
    obtain ⟨k, value⟩ := f
    rw [mergeFields_cons] at h
    obtain ⟨d, -, h⟩ := ok_of_bind h
    have hinsert : key ∈ Fields.keys (Fields.insert target (MergeKey.ofText k).field d) ↔
        key ∈ Fields.keys target ∨ key = (MergeKey.ofText k).field := by
      rw [Fields.keys_insert]
      split <;> simp_all
    rw [ih h, hinsert, or_assoc, namedFields, namedFields, List.map_cons, List.mem_cons]

/-- Adding items fails exactly where they cannot be added. -/
theorem addItems_cases (target : Fields) (key field : String) (value : Document)
    (combine : List Document → List Document → List Document) :
    (¬ Unaddable target field value ∧ ∃ added, value = list added ∧
        (do let added ← additions key value; let items ← existingItems target field
            .ok (list (combine added items))) = Except.ok (list (combine added (itemsAt target field)))) ∨
      (Unaddable target field value ∧ ∃ fault,
        (do let added ← additions key value; let items ← existingItems target field
            .ok (list (combine added items))) = Except.error fault) := by
  cases value with
  | null | bool | number | text | object => exact .inr ⟨.inl rfl, _, rfl⟩
  | list added =>
    have hadded : additions key (list added) = .ok added := rfl
    rw [hadded]
    unfold Unaddable existingItems itemsAt
    cases Fields.get? target field with
    | none => exact .inl ⟨by simp [isList, list?], added, rfl, rfl⟩
    | some d =>
      cases d with
      | null => exact .inl ⟨by simp [isList, list?, isNull], added, rfl, rfl⟩
      | list items => exact .inl ⟨by simp [isList, list?], added, rfl, rfl⟩
      | bool | number | text | object => exact .inr ⟨.inr ⟨_, rfl, rfl, rfl⟩, _, rfl⟩

/-- Only the field that is named counts. -/
theorem mergeField_congr {target target' : Fields} {key : String} (value : Document)
    (h : Fields.get? target (MergeKey.ofText key).field = Fields.get? target' (MergeKey.ofText key).field) :
    mergeField target key value = mergeField target' key value := by
  unfold mergeField
  cases hkey : MergeKey.ofText key with
  | before field =>
    rw [hkey] at h
    have h : Fields.get? target field = Fields.get? target' field := h
    simp only [existingItems, h]
  | behind field =>
    rw [hkey] at h
    have h : Fields.get? target field = Fields.get? target' field := h
    simp only [existingItems, h]
  | plain field =>
    rw [hkey] at h
    have h : Fields.get? target field = Fields.get? target' field := h
    simp only [h]

theorem mergeField_of_adds (target : Fields) {key : String} (value : Document)
    (h : (MergeKey.ofText key).adds = true) :
    (¬ Unaddable target (MergeKey.ofText key).field value ∧ ∃ added, value = list added ∧
        mergeField target key value =
          .ok (list ((MergeKey.ofText key).combine added (itemsAt target (MergeKey.ofText key).field)))) ∨
      (Unaddable target (MergeKey.ofText key).field value ∧ ∃ fault, mergeField target key value = .error fault) := by
  unfold mergeField
  cases hkey : MergeKey.ofText key with
  | before field => exact addItems_cases target key field value (· ++ ·)
  | behind field => exact addItems_cases target key field value fun added items => items ++ added
  | plain field =>
    rw [hkey] at h
    cases h

/-- A plain key merges an object into an object, and replaces anything else. -/
theorem mergeField_of_plain (target : Fields) {key field : String} (value : Document)
    (h : MergeKey.ofText key = .plain field) :
    (∃ s t, value = object s ∧ Fields.get? target field = some (object t) ∧
        mergeField target key value = (mergeFields s t).map object) ∨
      ((∀ s t, value = object s → Fields.get? target field ≠ some (object t)) ∧
        mergeField target key value = .ok value) := by
  simp only [mergeField, h]
  cases Fields.get? target field with
  | none => exact .inr ⟨by simp, rfl⟩
  | some current =>
    cases current with
    | object t =>
      cases value with
      | object s => exact .inl ⟨s, t, rfl, rfl, rfl⟩
      | null | bool | number | text | list => exact .inr ⟨by simp, rfl⟩
    | null | bool | number | text | list => exact .inr ⟨by simp, rfl⟩

section Gives

variable {target : Fields} {key field : String} {value d : Document}

/-- A key that adds to a list gives the list that it adds to, with its items in it. -/
theorem of_mergeField_adds (hadds : (MergeKey.ofText key).adds = true) (h : mergeField target key value = .ok d) :
    ¬ Unaddable target (MergeKey.ofText key).field value ∧ ∃ added, value = list added ∧
      d = list ((MergeKey.ofText key).combine added (itemsAt target (MergeKey.ofText key).field)) := by
  rcases mergeField_of_adds target value hadds with ⟨hfits, added, hvalue, hok⟩ | ⟨-, fault, hfault⟩
  · rw [hok] at h
    exact ⟨hfits, added, hvalue, (Except.ok.inj h).symm⟩
  · rw [hfault] at h
    cases h

/-- A plain key gives an object laid over an object, or its value as it stands. -/
theorem of_mergeField_plain (hplain : MergeKey.ofText key = .plain field) (h : mergeField target key value = .ok d) :
    (∃ s t r, value = object s ∧ Fields.get? target field = some (object t) ∧ mergeFields s t = .ok r ∧ d = object r) ∨
      ((∀ s t, value = object s → Fields.get? target field ≠ some (object t)) ∧ d = value) := by
  rcases mergeField_of_plain target value hplain with ⟨s, t, hvalue, ht, hmerge⟩ | ⟨hnot, hok⟩
  · rw [hmerge] at h
    cases hr : mergeFields s t with
    | error fault =>
      rw [hr] at h
      cases h
    | ok r =>
      rw [hr] at h
      exact .inl ⟨s, t, r, hvalue, ht, hr, (Except.ok.inj h).symm⟩
  · rw [hok] at h
    exact .inr ⟨hnot, (Except.ok.inj h).symm⟩

end Gives

theorem mergeField_fails_iff (target : Fields) (key : String) (value : Document) :
    (∃ fault, mergeField target key value = .error fault) ↔
      ((MergeKey.ofText key).adds = true ∧ Unaddable target (MergeKey.ofText key).field value) ∨
      ∃ s t field, value = object s ∧ MergeKey.ofText key = .plain field ∧ Fields.get? target field = some (object t) ∧
        ∃ fault, mergeFields s t = .error fault := by
  by_cases hadds : (MergeKey.ofText key).adds = true
  · have hplain : ∀ field, MergeKey.ofText key ≠ .plain field := by
      intro field hkey
      rw [hkey] at hadds
      cases hadds
    rcases mergeField_of_adds target value hadds with ⟨hfits, added, -, hok⟩ | ⟨hbad, hfault⟩
    · rw [hok]
      simp [hfits, hplain]
    · exact ⟨fun _ => .inl ⟨hadds, hbad⟩, fun _ => hfault⟩
  · obtain ⟨field, hkey⟩ : ∃ field, MergeKey.ofText key = .plain field := by
      cases hkey : MergeKey.ofText key with
      | plain field => exact ⟨field, rfl⟩
      | before | behind => simp [hkey, MergeKey.adds] at hadds
    rcases mergeField_of_plain target value hkey with ⟨s, t, rfl, ht, hmerge⟩ | ⟨hnot, hok⟩
    · rw [hmerge]
      cases hrest : mergeFields s t with
      | ok fields => simp [hkey, MergeKey.adds, ht, hrest, Except.map]
      | error fault => simp [hkey, MergeKey.adds, ht, hrest, Except.map]
    · rw [hok]
      simp only [reduceCtorEq, exists_false, hkey, MergeKey.adds, Bool.false_eq_true, false_and, false_or, false_iff]
      rintro ⟨s, t, field', rfl, hfield, ht, -⟩
      cases hfield
      exact hnot s t rfl ht

/-! ## All keys -/

variable {source target result : Fields}

/-- The other keys find their fields as they were. -/
theorem mergeField_insert {key : String} {d : Document} {rest : List (String × Document)}
    (hnew : (MergeKey.ofText key).field ∉ namedFields rest) {f : String × Document} (hf : f ∈ rest) :
    mergeField (Fields.insert target (MergeKey.ofText key).field d) f.1 f.2 = mergeField target f.1 f.2 := by
  apply mergeField_congr
  apply Fields.get?_insert_of_ne
  intro he
  exact hnew (List.mem_map.mpr ⟨f, hf, he.symm⟩)

/-- What holds of the fields that are there, and of all that the keys make of such fields, holds of the outcome. -/
theorem forall_mergeFields {P : String → Document → Prop} (ht : ∀ f ∈ target, P f.1 f.2)
    (hfield : ∀ f ∈ source, ∀ (target : Fields) (d : Document), (∀ f ∈ target, P f.1 f.2) →
      mergeField target f.1 f.2 = .ok d → P (MergeKey.ofText f.1).field d)
    (h : mergeFields source target = .ok result) : ∀ f ∈ result, P f.1 f.2 := by
  induction source generalizing target with
  | nil =>
    cases h
    exact ht
  | cons f rest ih =>
    obtain ⟨key, value⟩ := f
    obtain ⟨hfirst, hrest⟩ := List.forall_mem_cons.mp hfield
    rw [mergeFields_cons] at h
    obtain ⟨d, hd, h⟩ := ok_of_bind h
    refine ih ?_ hrest h
    intro f hf
    rcases Fields.mem_insert hf with hf | rfl
    · exact ht f hf
    · exact hfirst target d ht hd

/-- An overlay fails if one of its keys fails on the fields at the start. -/
theorem mergeFields_fails_iff (h : (namedFields source).Nodup) :
    (∃ fault, mergeFields source target = .error fault) ↔
      ∃ f ∈ source, ∃ fault, mergeField target f.1 f.2 = .error fault := by
  induction source generalizing target with
  | nil => simp [mergeFields]
  | cons f rest ih =>
    obtain ⟨key, value⟩ := f
    obtain ⟨hnew, hrest⟩ := List.nodup_cons.mp h
    simp only [List.exists_mem_cons_iff]
    rw [mergeFields_cons]
    cases hd : mergeField target key value with
    | error fault => exact ⟨fun _ => .inl ⟨fault, rfl⟩, fun _ => ⟨fault, rfl⟩⟩
    | ok d =>
      have hbind : (Except.ok d).bind (fun d => mergeFields rest (Fields.insert target (MergeKey.ofText key).field d)) =
          mergeFields rest (Fields.insert target (MergeKey.ofText key).field d) := rfl
      rw [hbind, ih hrest]
      constructor
      · rintro ⟨f, hf, fault, hfault⟩
        rw [mergeField_insert hnew hf] at hfault
        exact .inr ⟨f, hf, fault, hfault⟩
      · rintro (⟨fault, hfault⟩ | ⟨f, hf, fault, hfault⟩)
        · cases hfault
        · rw [← mergeField_insert hnew hf] at hfault
          exact ⟨f, hf, fault, hfault⟩

/-- An overlay keeps the order of fields, appends new ones in its own order and leaves those that it does not name. -/
theorem mergeFields_fields (h : (namedFields source).Nodup) (hresult : mergeFields source target = .ok result) :
    Fields.keys result = Fields.keys target ++ (namedFields source).filter (!(Fields.keys target).contains ·) ∧
      (∀ field, field ∉ namedFields source → Fields.get? result field = Fields.get? target field) ∧
      ∀ f ∈ source, ∃ d, mergeField target f.1 f.2 = .ok d ∧
        Fields.get? result (MergeKey.ofText f.1).field = some d := by
  induction source generalizing target with
  | nil =>
    cases hresult
    simp [namedFields]
  | cons f rest ih =>
    obtain ⟨key, value⟩ := f
    obtain ⟨hnew, hrest⟩ := List.nodup_cons.mp h
    rw [mergeFields_cons] at hresult
    obtain ⟨d, hd, hresult⟩ := ok_of_bind hresult
    obtain ⟨hkeys, hunnamed, hnamed⟩ := ih hrest hresult
    have hnamedFields : namedFields ((key, value) :: rest) = (MergeKey.ofText key).field :: namedFields rest := rfl
    refine ⟨?_, ?_, ?_⟩
    · rw [hkeys, Fields.keys_insert, hnamedFields]
      by_cases hin : (MergeKey.ofText key).field ∈ Fields.keys target
      · simp [hin]
      · have hother : (namedFields rest).filter (!(Fields.keys target ++ [(MergeKey.ofText key).field]).contains ·) =
            (namedFields rest).filter (!(Fields.keys target).contains ·) := by
          apply List.filter_congr
          intro field hfield
          have hne : field ≠ (MergeKey.ofText key).field := by
            rintro rfl
            exact hnew hfield
          simp [hne]
        rw [if_neg hin, hother]
        simp [hin]
    · intro field hfield
      rw [hnamedFields, List.mem_cons, not_or] at hfield
      rw [hunnamed field hfield.2, Fields.get?_insert_of_ne (Ne.symm hfield.1)]
    · intro f hf
      rcases List.mem_cons.mp hf with rfl | hf
      · refine ⟨d, hd, ?_⟩
        rw [hunnamed _ hnew, Fields.get?_insert_self]
      · obtain ⟨d', hd', hget⟩ := hnamed f hf
        rw [mergeField_insert hnew hf] at hd'
        exact ⟨d', hd', hget⟩

/-! ## Objects inside objects -/

/-- An overlay fails exactly if it gets to an entry that does not fit. -/
theorem mergeFields_fails_iff_reaches (source target : Fields)
    (h : ∀ s t, Reaches source target s t → (namedFields s).Nodup) :
    (∃ fault, mergeFields source target = .error fault) ↔ ∃ s t, Reaches source target s t ∧ Misfit s t := by
  rw [mergeFields_fails_iff (h source target .here)]
  constructor
  · rintro ⟨⟨key, value⟩, hf, hfault⟩
    rcases (mergeField_fails_iff target key value).mp hfault with ⟨hadds, hbad⟩ | ⟨s, t, field, rfl, hkey, ht, hfault⟩
    · exact ⟨source, target, .here, key, value, hf, hadds, hbad⟩
    · have hinside : ∀ s' t', Reaches s t s' t' → Reaches source target s' t' := fun _ _ hr => .inside hf hkey ht hr
      obtain ⟨s', t', hr, hmisfit⟩ :=
        (mergeFields_fails_iff_reaches s t fun s' t' hr => h s' t' (hinside s' t' hr)).mp hfault
      exact ⟨s', t', hinside s' t' hr, hmisfit⟩
  · rintro ⟨s', t', hr, hmisfit⟩
    cases hr with
    | here =>
      obtain ⟨key, value, hf, hadds, hbad⟩ := hmisfit
      exact ⟨(key, value), hf, (mergeField_fails_iff target key value).mpr (.inl ⟨hadds, hbad⟩)⟩
    | @inside _ _ s t _ _ key field hf hkey ht hr =>
      have hfault := (mergeFields_fails_iff_reaches s t fun s'' t'' hr'' =>
        h s'' t'' (.inside hf hkey ht hr'')).mpr ⟨s', t', hr, hmisfit⟩
      exact ⟨(key, object s), hf, (mergeField_fails_iff target key (object s)).mpr
        (.inr ⟨s, t, field, rfl, hkey, ht, hfault⟩)⟩
termination_by sizeOf source
decreasing_by
  all_goals
    have := List.sizeOf_lt_of_mem hf
    simp only [Prod.mk.sizeOf_spec, object.sizeOf_spec] at this
    omega

theorem laid_of_mergeFields (h : (namedFields source).Nodup) (hresult : mergeFields source target = .ok result) :
    Laid source target result := by
  obtain ⟨hkeys, hunnamed, hnamed⟩ := mergeFields_fields h hresult
  -- What a key that adds to a list gives, in the two places.
  have hadded : ∀ key value, (key, value) ∈ source → (MergeKey.ofText key).adds = true →
      ∃ added, value = list added ∧ Fields.get? result (MergeKey.ofText key).field =
        some (list ((MergeKey.ofText key).combine added (itemsAt target (MergeKey.ofText key).field))) := by
    intro key value hf hadds
    obtain ⟨d, hd, hget⟩ := hnamed _ hf
    obtain ⟨-, added, hvalue, rfl⟩ := of_mergeField_adds hadds hd
    exact ⟨added, hvalue, hget⟩
  refine ⟨hkeys, hunnamed, ?_, ?_, ?_, ?_⟩
  · intro key value field hf hkey
    have hthis := hadded key value hf (by rw [hkey]; rfl)
    rwa [hkey] at hthis
  · intro key value field hf hkey
    have hthis := hadded key value hf (by rw [hkey]; rfl)
    rwa [hkey] at hthis
  · intro key s field t hf hkey ht
    obtain ⟨d, hd, hget⟩ := hnamed _ hf
    simp only [mergeField, hkey, ht] at hd
    dsimp only at hget
    rw [hkey] at hget
    exact ⟨d, hd, hget⟩
  · intro key value field hf hkey hnot
    obtain ⟨d, hd, hget⟩ := hnamed _ hf
    dsimp only at hget
    rw [hkey] at hget
    rcases of_mergeField_plain hkey hd with ⟨s, t, -, hvalue, ht, -⟩ | ⟨-, rfl⟩
    · exact absurd ht (hnot s t hvalue)
    · exact hget

/-- Laying one object over another fails exactly if it gets to an entry that does not fit, and gives otherwise
what the fields give one by one; where no two keys of an object that it gets to name the same field. -/
theorem merge_pointwise {source target : Fields} (h : ∀ s t, Reaches source target s t → (namedFields s).Nodup) :
    ((∃ fault, merge (object source) (object target) = .error fault) ↔
      ∃ s t, Reaches source target s t ∧ Misfit s t) ∧
    ∀ result, merge (object source) (object target) = .ok result →
      ∃ fields, result = object fields ∧ Laid source target fields := by
  have hmerge : merge (object source) (object target) = (mergeFields source target).map object := by rw [merge]
  rw [hmerge, ← mergeFields_fails_iff_reaches source target h]
  cases hfields : mergeFields source target with
  | error fault =>
    refine ⟨⟨fun _ => ⟨fault, rfl⟩, fun _ => ⟨fault, rfl⟩⟩, ?_⟩
    intro result hresult
    cases hresult
  | ok fields =>
    refine ⟨⟨?_, ?_⟩, ?_⟩
    · rintro ⟨fault, hfault⟩
      cases hfault
    · rintro ⟨fault, hfault⟩
      cases hfault
    · intro result hresult
      cases hresult
      exact ⟨fields, rfl, laid_of_mergeFields (h source target .here) hfields⟩

/-- What is merged into the title of a bench. -/
def titleOverride : Fields := [("render+", .texts ["!"]), ("en", .text "Seat")]

/-- An override that goes into an object, adds to lists and brings in new fields. -/
def benchOverride : Fields :=
  [("title", .object titleOverride), ("labels+", .texts ["wood"]), ("minzoom", .ofNat 14), ("+pins", .texts ["dot"])]

def benchFields : Fields :=
  [("id", .text "bench"), ("labels", .texts ["seat"]),
   ("title", .object [("en", .text "Bench"), ("render", .texts ["a bench"])])]

theorem merge_pointwise_bench :
    (∀ s t, Reaches benchOverride benchFields s t → (namedFields s).Nodup) ∧
      (¬ ∃ s t, Reaches benchOverride benchFields s t ∧ Misfit s t) ∧
      ∃ fields, merge (object benchOverride) (object benchFields) = .ok (object fields) ∧
        Laid benchOverride benchFields fields ∧ Fields.keys fields = ["id", "labels", "title", "minzoom", "pins"] ∧
        Fields.get? fields "title" = some (object [("en", text "Seat"), ("render", texts ["a bench", "!"])]) := by
  have hreached : ∀ s t, Reaches benchOverride benchFields s t → (namedFields s).Nodup := by
    intro s t hr
    cases hr with
    | here => decide
    | @inside _ _ s _ _ _ key _ hf _ _ hr =>
      have hs : key = "title" ∧ s = titleOverride := by simpa [benchOverride, texts, ofNat] using hf
      rw [hs.2] at hr
      cases hr with
      | here => decide
      | inside hf' => simp [titleOverride, texts] at hf'
  obtain ⟨hfails, hlaid⟩ := merge_pointwise hreached
  obtain ⟨result, hresult⟩ : ∃ result, merge (object benchOverride) (object benchFields) = .ok result :=
    ⟨_, rfl⟩
  obtain ⟨fields, rfl, hfields⟩ := hlaid result hresult
  rw [← hfails, hresult]
  cases hresult
  exact ⟨hreached, by simp, _, rfl, hfields, rfl, rfl⟩

end Document

end MapTheme
