/-
  MapTheme.Proofs.Document.Directives — what becomes of the directives of an overlay.

  A key with a plus sign at one of its ends is a directive: it adds to the list of its name. An overlay carries out
  the directives of those of its objects that come over an object; every other value is put in as it stands, and the
  directives inside it with it. Each plain key finds its field as it was at the start, whatever was added to the
  field before (`mergeField_after`), so the fields of the result are known one by one (`of_mem_mergeFields`), and
  directives are left exactly if there are some in what is put in as it stands (`merge_settles_iff`).
-/

import MapTheme.Proofs.Document.Overlay

namespace MapTheme

/-- Does the key add to a list, for the plus sign at one of its ends? -/
def isDirective (key : String) : Bool := Text.startsWith "+" key || Text.endsWith "+" key

theorem isDirective_eq_adds (key : String) : isDirective key = (MergeKey.ofText key).adds := by
  have hstart : Text.startsWith "+" key = (Text.withoutStart? "+" key).isSome := by
    simp [Text.startsWith, Text.withoutStart?]
  rw [isDirective, hstart, Text.endsWith, MergeKey.ofText]
  cases Text.withoutStart? "+" key with
  | some field => rfl
  | none => cases Text.withoutEnd? "+" key <;> rfl

theorem MergeKey.ofText_of_not_directive {key : String} (h : isDirective key = false) : ofText key = .plain key := by
  rw [isDirective_eq_adds] at h
  cases hkey : ofText key with
  | plain field => rw [eq_of_ofText_plain hkey]
  | before | behind =>
    rw [hkey] at h
    cases h

theorem isDirective_of_not_mem {key : String} (h : '+' ∉ key.toList) : isDirective key = false := by
  have hplus : "+".toList = ['+'] := rfl
  rw [isDirective_eq_adds]
  cases hkey : MergeKey.ofText key with
  | plain => rfl
  | before field =>
    rw [MergeKey.ofText_eq_before_iff.mp hkey, String.toList_append, hplus] at h
    simp at h
  | behind field =>
    rw [MergeKey.eq_of_ofText_behind hkey, String.toList_append, hplus] at h
    simp at h

/-- A directive with one plus sign names a field without any. -/
theorem isDirective_field {key : String} (h : key.toList.count '+' ≤ 1) :
    isDirective (MergeKey.ofText key).field = false := by
  have hplus : "+".toList = ['+'] := rfl
  cases hkey : MergeKey.ofText key with
  | before field =>
    rw [MergeKey.ofText_eq_before_iff.mp hkey, String.toList_append, hplus] at h
    have hnone : field.toList.count '+' = 0 := by simpa using h
    exact isDirective_of_not_mem (List.count_eq_zero.mp hnone)
  | behind field =>
    rw [MergeKey.eq_of_ofText_behind hkey, String.toList_append, hplus] at h
    have hnone : field.toList.count '+' = 0 := by simpa using h
    exact isDirective_of_not_mem (List.count_eq_zero.mp hnone)
  | plain field =>
    rw [isDirective_eq_adds, MergeKey.field, MergeKey.eq_of_ofText_plain hkey, hkey]
    rfl

namespace Document

mutual

/-- The keys of a document and of all objects that fields alone, without lists, lead to. -/
def innerKeys : Document → List String
  | object fields => innerKeysOfFields fields
  | _ => []

def innerKeysOfFields : List (String × Document) → List String
  | [] => []
  | (key, d) :: rest => key :: innerKeys d ++ innerKeysOfFields rest

end

/-- No directive is in the document, as far as fields lead. -/
def Settled (d : Document) : Prop := ∀ key ∈ d.innerKeys, isDirective key = false

theorem settled_of_not_object {d : Document} (h : d.isObject = false) : d.Settled := by
  cases d with
  | object => cases h
  | null | bool | number | text | list => simp [Settled, innerKeys]

theorem mem_innerKeysOfFields {fields : List (String × Document)} {key : String} :
    key ∈ innerKeysOfFields fields ↔ ∃ f ∈ fields, key = f.1 ∨ key ∈ f.2.innerKeys := by
  induction fields with
  | nil => simp [innerKeysOfFields]
  | cons f rest ih => simp [innerKeysOfFields, ih, or_assoc]

theorem settled_object {fields : Fields} :
    (object fields).Settled ↔ ∀ f ∈ fields, isDirective f.1 = false ∧ f.2.Settled := by
  simp only [Settled, innerKeys, mem_innerKeysOfFields]
  constructor
  · intro h f hf
    exact ⟨h f.1 ⟨f, hf, .inl rfl⟩, fun key hkey => h key ⟨f, hf, .inr hkey⟩⟩
  · rintro h key ⟨f, hf, rfl | hkey⟩
    · exact (h f hf).1
    · exact (h f hf).2 key hkey

/-! ## One key -/

variable {source target result : Fields} {key field : String} {value d : Document}

/-- What is added to is no object, and becomes a list. -/
theorem isList_of_mergeField (hadds : (MergeKey.ofText key).adds = true) (h : mergeField target key value = .ok d) :
    d.isList = true ∧ ∀ t, Fields.get? target (MergeKey.ofText key).field ≠ some (object t) := by
  obtain ⟨hfits, added, -, rfl⟩ := of_mergeField_adds hadds h
  exact ⟨rfl, fun t ht => hfits (.inr ⟨object t, ht, rfl, rfl⟩)⟩

/-- A plain key does not see what another key did, be it to the same field. -/
theorem mergeField_after {other : String} (hne : other ≠ key) (hplain : MergeKey.ofText key = .plain key)
    {added : Document} (h : mergeField target other added = .ok d) (value : Document) :
    mergeField (Fields.insert target (MergeKey.ofText other).field d) key value = mergeField target key value := by
  by_cases hfield : (MergeKey.ofText other).field = key
  · have hadds : (MergeKey.ofText other).adds = true := by
      cases hother : MergeKey.ofText other with
      | before | behind => rfl
      | plain named =>
        rw [hother] at hfield
        exact absurd ((MergeKey.eq_of_ofText_plain hother).symm.trans hfield) hne
    obtain ⟨hlist, hnone⟩ := isList_of_mergeField hadds h
    rw [hfield] at hnone ⊢
    simp only [mergeField, hplain, Fields.get?_insert_self]
    cases d with
    | list items =>
      cases hget : Fields.get? target key with
      | none => rfl
      | some current =>
        cases current with
        | object t => exact absurd hget (hnone t)
        | null | bool | number | text | list => rfl
    | null | bool | number | text | object => cases hlist
  · apply mergeField_congr
    rw [hplain]
    exact Fields.get?_insert_of_ne hfield target d

/-! ## All keys -/

/-- An object stays where no plain key names its field: nothing can be added to it. -/
theorem get?_mergeFields_object {t : Fields} (hnone : ∀ f ∈ source, MergeKey.ofText f.1 ≠ .plain field)
    (ht : Fields.get? target field = some (object t)) (h : mergeFields source target = .ok result) :
    Fields.get? result field = some (object t) := by
  induction source generalizing target with
  | nil =>
    cases h
    exact ht
  | cons f rest ih =>
    obtain ⟨other, value⟩ := f
    obtain ⟨hother, hrest⟩ := List.forall_mem_cons.mp hnone
    rw [mergeFields_cons] at h
    obtain ⟨d, hd, h⟩ := ok_of_bind h
    refine ih hrest ?_ h
    rw [Fields.get?_insert_of_ne ?_, ht]
    intro hfield
    cases hof : MergeKey.ofText other with
    | plain named =>
      rw [hof] at hfield
      exact hother (hof.trans (congrArg MergeKey.plain hfield))
    | before | behind =>
      have hadds : (MergeKey.ofText other).adds = true := by rw [hof]; rfl
      exact (isList_of_mergeField hadds hd).2 t (hfield ▸ ht)

/-- A plain key finds its field as it was at the start, and what is put there stays if it is an object. -/
theorem merged_of_plain (hn : (Fields.keys source).Nodup) (hmem : (key, value) ∈ source)
    (hplain : MergeKey.ofText key = .plain key) (h : mergeFields source target = .ok result) :
    ∃ d, mergeField target key value = .ok d ∧ (d.isObject = true → Fields.get? result key = some d) := by
  induction source generalizing target with
  | nil => cases hmem
  | cons f rest ih =>
    obtain ⟨other, added⟩ := f
    obtain ⟨hnew, hn⟩ := List.nodup_cons.mp hn
    rw [mergeFields_cons] at h
    obtain ⟨d, hd, h⟩ := ok_of_bind h
    rcases List.mem_cons.mp hmem with he | hmem
    · cases he
      refine ⟨d, hd, fun hobject => ?_⟩
      cases d with
      | object t =>
        refine get?_mergeFields_object ?_ ?_ h
        · intro f hf hagain
          exact hnew (List.mem_map.mpr ⟨f, hf, (MergeKey.eq_of_ofText_plain hagain).symm⟩)
        · rw [hplain]
          exact Fields.get?_insert_self target key _
      | null | bool | number | text | list => cases hobject
    · have hne : other ≠ key := by
        rintro rfl
        exact hnew (List.mem_map.mpr ⟨_, hmem, rfl⟩)
      obtain ⟨d', hd', hget⟩ := ih hn hmem h
      rw [mergeField_after hne hplain hd] at hd'
      exact ⟨d', hd', hget⟩

/-- A field of the result was there, or is a list that was added to, or is what a plain key made of the field at
the start. -/
theorem of_mem_mergeFields (hn : (Fields.keys source).Nodup) (h : mergeFields source target = .ok result) :
    ∀ f ∈ result, f ∈ target ∨ (f.1 ∈ namedFields source ∧ f.2.isList = true) ∨
      ∃ value, (f.1, value) ∈ source ∧ MergeKey.ofText f.1 = .plain f.1 ∧ mergeField target f.1 value = .ok f.2 := by
  induction source generalizing target with
  | nil =>
    cases h
    exact fun f hf => .inl hf
  | cons g rest ih =>
    obtain ⟨other, added⟩ := g
    obtain ⟨hnew, hn⟩ := List.nodup_cons.mp hn
    rw [mergeFields_cons] at h
    obtain ⟨d, hd, h⟩ := ok_of_bind h
    intro f hf
    rcases ih hn h f hf with hf | ⟨hnamed, hlist⟩ | ⟨value, hmem, hplain, hf⟩
    · rcases Fields.mem_insert hf with hf | rfl
      · exact .inl hf
      · by_cases hadds : (MergeKey.ofText other).adds = true
        · exact .inr (.inl ⟨List.mem_cons_self, (isList_of_mergeField hadds hd).1⟩)
        · have hplain : MergeKey.ofText other = .plain other :=
            MergeKey.ofText_of_not_directive (by simpa [isDirective_eq_adds] using hadds)
          have hfield : (MergeKey.ofText other).field = other := by rw [hplain]; rfl
          rw [hfield]
          exact .inr (.inr ⟨added, List.mem_cons_self, hplain, hd⟩)
    · exact .inr (.inl ⟨List.mem_cons_of_mem _ hnamed, hlist⟩)
    · have hne : other ≠ f.1 := by
        rintro rfl
        exact hnew (List.mem_map.mpr ⟨_, hmem, rfl⟩)
      rw [mergeField_after hne hplain hd] at hf
      exact .inr (.inr ⟨value, List.mem_cons_of_mem _ hmem, hplain, hf⟩)

/-! ## Objects inside objects -/

/-- A value of the overlay comes over no object. -/
def ComesOverNone (source target : Fields) (value : Document) : Prop :=
  ∃ key field, (key, value) ∈ source ∧ MergeKey.ofText key = .plain field ∧
    ∀ t, Fields.get? target field ≠ some (object t)

/-- Every value that is put in as it stands, in this object or further inside, is without directives. -/
def PutsInSettled (source target : Fields) : Prop :=
  ∀ s t, Reaches source target s t → ∀ value, ComesOverNone s t value → value.Settled

/-- What is known of an object of the overlay holds of the objects in its fields. -/
theorem mem_innerKeys_of_mem {s : Fields} (hmem : (key, object s) ∈ source) :
    ∀ k ∈ (object s).innerKeys, k ∈ (object source).innerKeys :=
  fun _ hk => mem_innerKeysOfFields.mpr ⟨_, hmem, .inr hk⟩

/-- An object that comes over an object is laid over it. -/
theorem object_of_mergeField {s t : Fields} (hplain : MergeKey.ofText key = .plain key)
    (ht : Fields.get? target key = some (object t)) (h : mergeField target key (object s) = .ok d) :
    ∃ r, mergeFields s t = .ok r ∧ d = object r := by
  rcases of_mergeField_plain hplain h with ⟨s', t', r, hs, ht', hmerge, rfl⟩ | ⟨hnot, -⟩
  · cases hs
    rw [ht] at ht'
    cases ht'
    exact ⟨r, hmerge, rfl⟩
  · exact absurd ht (hnot s t rfl)

/-- The objects that come over objects leave no directive exactly if they put none in. -/
def SettlesInside (source target : Fields) : Prop :=
  ∀ key s t r, (key, object s) ∈ source → Fields.get? target key = some (object t) → mergeFields s t = .ok r →
    ((object r).Settled ↔ PutsInSettled s t)

/-- What comes over no object is in the result as it was put there. -/
theorem settled_of_comesOverNone (hn : (Fields.keys source).Nodup) (h : mergeFields source target = .ok result)
    (hresult : (object result).Settled) (hvalue : ComesOverNone source target value) : value.Settled := by
  obtain ⟨key, field, hmem, hplain, hnone⟩ := hvalue
  obtain rfl := MergeKey.eq_of_ofText_plain hplain
  cases hobject : value.isObject with
  | false => exact settled_of_not_object hobject
  | true =>
    obtain ⟨d, hd, hget⟩ := merged_of_plain hn hmem hplain h
    rcases of_mergeField_plain hplain hd with ⟨-, t, -, -, ht, -⟩ | ⟨-, rfl⟩
    · exact absurd ht (hnone t)
    · exact (settled_object.mp hresult _ (Fields.mem_of_get? (hget hobject))).2

theorem putsInSettled_of_settled (hn : (Fields.keys source).Nodup) (hinside : SettlesInside source target)
    (h : mergeFields source target = .ok result) (hresult : (object result).Settled) :
    PutsInSettled source target := by
  intro s t hreaches value hvalue
  cases hreaches with
  | here => exact settled_of_comesOverNone hn h hresult hvalue
  | @inside _ _ s' t' _ _ key field hmem hplain ht hr =>
    obtain rfl := MergeKey.eq_of_ofText_plain hplain
    obtain ⟨d, hd, hget⟩ := merged_of_plain hn hmem hplain h
    obtain ⟨r, hmerge, rfl⟩ := object_of_mergeField hplain ht hd
    have hr' := (settled_object.mp hresult _ (Fields.mem_of_get? (hget rfl))).2
    exact (hinside _ s' t' r hmem ht hmerge).mp hr' s t hr value hvalue

/-- What a plain key makes of its field: an object laid over an object, or the value as it stands. -/
theorem settled_of_mergeField (hinside : SettlesInside source target) (hputs : PutsInSettled source target)
    (hmem : (key, value) ∈ source) (hplain : MergeKey.ofText key = .plain key)
    (hd : mergeField target key value = .ok d) : d.Settled := by
  rcases of_mergeField_plain hplain hd with ⟨s, t, r, rfl, ht, hmerge, rfl⟩ | ⟨hnot, rfl⟩
  · exact (hinside _ s t r hmem ht hmerge).mpr fun s' t' hreaches => hputs s' t' (.inside hmem hplain ht hreaches)
  · cases d with
    | object s => exact hputs source target .here (object s) ⟨key, key, hmem, hplain, fun t => hnot s t rfl⟩
    | null | bool | number | text | list => exact settled_of_not_object rfl

theorem settled_of_putsInSettled (hn : (Fields.keys source).Nodup)
    (hone : ∀ key ∈ (object source).innerKeys, key.toList.count '+' ≤ 1) (htarget : (object target).Settled)
    (hinside : SettlesInside source target) (h : mergeFields source target = .ok result)
    (hputs : PutsInSettled source target) : (object result).Settled := by
  rw [settled_object]
  intro f hf
  rcases of_mem_mergeFields hn h f hf with hf | ⟨hnamed, hlist⟩ | ⟨value, hmem, hplain, hd⟩
  · exact settled_object.mp htarget f hf
  · obtain ⟨g, hg, hfield⟩ := List.mem_map.mp hnamed
    refine ⟨?_, settled_of_not_object ?_⟩
    · rw [← hfield]
      exact isDirective_field (hone g.1 (mem_innerKeysOfFields.mpr ⟨g, hg, .inl rfl⟩))
    · cases hd : f.2 with
      | object => simp [hd, isList, list?] at hlist
      | null | bool | number | text | list => rfl
  · refine ⟨?_, settled_of_mergeField hinside hputs hmem hplain hd⟩
    rw [isDirective_eq_adds, hplain]
    rfl

theorem mergeFields_settled_iff (source target result : Fields) (hsource : source.Distinct)
    (hone : ∀ key ∈ (object source).innerKeys, key.toList.count '+' ≤ 1) (htarget : (object target).Settled)
    (h : mergeFields source target = .ok result) : (object result).Settled ↔ PutsInSettled source target := by
  have hinside : SettlesInside source target := by
    intro key s t r hmem ht hr
    refine mergeFields_settled_iff s t r (distinct_object.mp (hsource.2 _ hmem)) ?_ ?_ hr
    · exact fun k hk => hone k (mem_innerKeys_of_mem hmem k hk)
    · exact (settled_object.mp htarget _ (Fields.mem_of_get? ht)).2
  constructor
  · exact putsInSettled_of_settled hsource.1 hinside h
  · exact settled_of_putsInSettled hsource.1 hone htarget hinside h
termination_by sizeOf source
decreasing_by
  have := List.sizeOf_lt_of_mem hmem
  simp only [Prod.mk.sizeOf_spec, object.sizeOf_spec] at this
  omega

/-- An overlay whose keys have one plus sign at most, laid over an object without directives, leaves none exactly if
there is none in what it puts in as it stands: in the values that come over no object. -/
theorem merge_settles_iff {source target : Fields} {result : Document} (hsource : source.Distinct)
    (hone : ∀ key ∈ (object source).innerKeys, key.toList.count '+' ≤ 1) (htarget : (object target).Settled)
    (h : merge (object source) (object target) = .ok result) :
    result.Settled ↔ PutsInSettled source target := by
  rw [merge] at h
  cases hfields : mergeFields source target with
  | error fault =>
    rw [hfields] at h
    cases h
  | ok fields =>
    rw [hfields] at h
    cases h
    exact mergeFields_settled_iff source target fields hsource hone htarget hfields

/-- The directives of the override, inside the title too, are carried out. -/
theorem merge_settles_iff_bench :
    benchOverride.Distinct ∧ (∀ key ∈ (object benchOverride).innerKeys, key.toList.count '+' ≤ 1) ∧
      (object benchFields).Settled ∧ PutsInSettled benchOverride benchFields ∧
      ∃ result, merge (object benchOverride) (object benchFields) = .ok result ∧ result.Settled := by
  have hdistinct : benchOverride.Distinct := by
    simp [benchOverride, titleOverride, Fields.Distinct, Fields.keys, ofNat]
  have hone : ∀ key ∈ (object benchOverride).innerKeys, key.toList.count '+' ≤ 1 := by decide
  have hbench : (object benchFields).Settled := by
    unfold Settled
    decide
  have hputs : PutsInSettled benchOverride benchFields := by
    rintro s t hreaches value ⟨key, field, hmem, hplain, hnone⟩
    cases hreaches with
    | here =>
      simp only [benchOverride, List.mem_cons, Prod.mk.injEq, List.not_mem_nil, or_false] at hmem
      rcases hmem with ⟨rfl, rfl⟩ | ⟨rfl, rfl⟩ | ⟨rfl, rfl⟩ | ⟨rfl, rfl⟩
      · exact absurd rfl (MergeKey.eq_of_ofText_plain hplain ▸ hnone _)
      all_goals exact settled_of_not_object rfl
    | @inside _ _ s' _ _ _ _ _ hmem' _ _ hr =>
      have hs : s' = titleOverride := by
        simp [benchOverride, texts, ofNat] at hmem'
        exact hmem'.2
      subst hs
      cases hr with
      | here =>
        simp only [titleOverride, List.mem_cons, Prod.mk.injEq, List.not_mem_nil, or_false] at hmem
        rcases hmem with ⟨rfl, rfl⟩ | ⟨rfl, rfl⟩
        all_goals exact settled_of_not_object rfl
      | inside hmem'' => simp [titleOverride, texts] at hmem''
  obtain ⟨result, hresult⟩ : ∃ result, merge (object benchOverride) (object benchFields) = .ok result :=
    ⟨_, rfl⟩
  exact ⟨hdistinct, hone, hbench, hputs, result, hresult,
    (merge_settles_iff hdistinct hone hbench hresult).mpr hputs⟩

/-- Mappings for the title of a layer that may have none. -/
def mappingsOverride : Fields := [("title", .object [("mappings+", .list [.object [("then", .text "Bench")]])])]

/-- Over a layer without a title the mappings are not added to an empty list: the directive itself is the field of
the new title. -/
theorem merge_misses_title :
    mappingsOverride.Distinct ∧ (∀ key ∈ (object mappingsOverride).innerKeys, key.toList.count '+' ≤ 1) ∧
      (object [("id", .text "bench")]).Settled ∧
      ∃ result, merge (object mappingsOverride) (object [("id", .text "bench")]) = .ok result ∧
        "mappings+" ∈ result.innerKeys ∧ isDirective "mappings+" = true ∧ ¬ result.Settled := by
  refine ⟨?_, by decide, ?_, _, rfl, by decide, by decide, ?_⟩
  · simp [mappingsOverride, Fields.Distinct, Fields.keys]
  · unfold Settled
    decide
  · intro hsettled
    exact absurd (hsettled "mappings+" (by decide)) (by decide)

end Document

end MapTheme
