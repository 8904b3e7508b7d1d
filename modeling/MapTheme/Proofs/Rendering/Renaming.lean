/-
  MapTheme.Proofs.Rendering.Renaming — what becomes of each rendering when generated ids are made distinct.

  The search for an id stops at the first candidate that is not used (`exists_freeId_eq`). What is used when the
  run comes to an entry are the ids that are not generated and those given before, and all of them are ids of
  other entries of the outcome (`exists_given_of_renameFrom`). So every generated id becomes the first of its
  candidates that no other entry has (`exists_renamedAt`), and all else stays (`uniqueInlineIds_renames`).
-/

import MapTheme.Proofs.Rendering.InlineId

namespace MapTheme.Rendering

variable {used : List String} {r : Document} {rest renderings : List Document} {base id : String} {i : Nat}

/-! ## The search -/

/-- The search stops at the first free candidate; there are at most as many before it as used ids. -/
theorem exists_freeId_eq (used : List String) (base : String) :
    ∃ n ≤ used.length, freeId used base = candidate base n ∧ ∀ m < n, candidate base m ∈ used := by
  have hfree := freeId_not_mem used base
  unfold freeId at hfree ⊢
  rw [List.find?_map] at hfree ⊢
  cases hfind : (List.range (used.length + 1)).find? ((fun id => !used.contains id) ∘ candidate base) with
  | some n =>
    obtain ⟨-, hn, hbefore⟩ := List.find?_range_eq_some.mp hfind
    refine ⟨n, by simpa [Nat.lt_succ_iff] using hn, rfl, fun m hm => ?_⟩
    simpa using hbefore m hm
  | none =>
    -- Not even the id itself was free, which is what the search then gives.
    have hbase := List.find?_eq_none.mp hfind 0 (by simp)
    rw [hfind] at hfree
    exact absurd (by simpa [candidate] using hbase) hfree

/-! ## Ids at other places -/

/-- The id is that of an entry at another place. -/
def IdElsewhere (renderings : List Document) (i : Nat) (id : String) : Prop :=
  ∃ j, j ≠ i ∧ renderings[j]?.bind Document.id? = some id

theorem idElsewhere_cons_zero : IdElsewhere (r :: rest) 0 id ↔ ∃ d ∈ rest, d.id? = some id := by
  constructor
  · rintro ⟨j, hj, hid⟩
    obtain ⟨k, rfl⟩ := Nat.exists_eq_succ_of_ne_zero hj
    obtain ⟨d, hd, hid⟩ := Option.bind_eq_some_iff.mp hid
    exact ⟨d, List.mem_of_getElem? hd, hid⟩
  · rintro ⟨d, hd, hid⟩
    obtain ⟨k, hk⟩ := List.getElem?_of_mem hd
    exact ⟨k + 1, k.succ_ne_zero, Option.bind_eq_some_iff.mpr ⟨d, hk, hid⟩⟩

theorem idElsewhere_cons_succ : IdElsewhere (r :: rest) (i + 1) id ↔ r.id? = some id ∨ IdElsewhere rest i id := by
  constructor
  · rintro ⟨j, hj, hid⟩
    cases j with
    | zero => exact .inl hid
    | succ k => exact .inr ⟨k, fun he => hj (congrArg (· + 1) he), hid⟩
  · rintro (hid | ⟨j, hj, hid⟩)
    · exact ⟨0, (i.succ_ne_zero).symm, hid⟩
    · exact ⟨j + 1, fun he => hj (Nat.succ.inj he), hid⟩

/-! ## The run -/

theorem length_renameFrom (used : List String) (renderings : List Document) :
    (renameFrom used renderings).length = renderings.length := by
  induction renderings generalizing used with
  | nil => rfl
  | cons r rest ih =>
    rw [renameFrom]
    split <;> rw [List.length_cons, List.length_cons, ih]

/-- Entries whose ids are not generated stay. -/
theorem getElem?_renameFrom_of_none (hr : renderings[i]? = some r) (h : generatedId? r = none) :
    (renameFrom used renderings)[i]? = some r := by
  induction renderings generalizing used i with
  | nil => cases hr
  | cons s rest ih =>
    cases i with
    | zero =>
      obtain rfl := Option.some.inj hr
      simp only [renameFrom, h]
      rfl
    | succ k =>
      rw [renameFrom]
      split
      · exact ih hr
      · exact ih hr

/-- Behind an entry, its new id does not come up again. -/
theorem id_ne_of_mem_renameFrom (hused : ∀ a ∈ authoredIds rest, a ∈ used) (hid : id ∉ used) {d : Document}
    (hd : d ∈ renameFrom (used ++ [id]) rest) : d.id? ≠ some id := by
  intro he
  have hin : id ∈ used ++ [id] := List.mem_append_right _ (List.mem_singleton_self id)
  have hrenamed : Renamed (used ++ [id]) rest (renameFrom (used ++ [id]) rest) :=
    renamed_renameFrom fun a ha => List.mem_append_left _ (hused a ha)
  cases hgen : generatedId? d with
  | some own =>
    obtain rfl : own = id := Option.some.inj ((id?_of_generatedId? hgen).symm.trans he)
    exact hrenamed.unused own (List.mem_filterMap.mpr ⟨d, hd, hgen⟩) hin
  | none =>
    have hown : id ∈ authoredIds (renameFrom (used ++ [id]) rest) :=
      List.mem_filterMap.mpr ⟨d, hd, by simp [hgen, he]⟩
    rcases hrenamed.authored id hown with hmem | hfree
    · exact hid (hused id hmem)
    · exact hfree hin

/-- What becomes of the generated id `base` of the entry `r` at its place: the free one beside the ids that were used
before and those given on the way, which are ids of other entries. -/
structure GivenAt (used : List String) (after : List Document) (i : Nat) (r : Document) (base : String)
    (given : List String) : Prop where
  entry : after[i]? = some (withId (freeId (used ++ given) base) r)
  elsewhere : ∀ a ∈ given, IdElsewhere after i a
  free : ¬ IdElsewhere after i (freeId (used ++ given) base)

/-- An entry in front keeps its id, which is one of those used. -/
theorem GivenAt.cons {after : List Document} {given : List String} {s : Document}
    (h : GivenAt used after i r base given) (hown : ∀ a, s.id? = some a → a ∈ used) :
    GivenAt used (s :: after) (i + 1) r base given := by
  refine ⟨h.entry, fun a ha => idElsewhere_cons_succ.mpr (.inr (h.elsewhere a ha)), ?_⟩
  rw [idElsewhere_cons_succ]
  rintro (hid | helse)
  · exact freeId_not_mem (used ++ given) base (List.mem_append_left _ (hown _ hid))
  · exact h.free helse

/-- An entry in front gets an id, which is the first of those given. -/
theorem GivenAt.cons_given {after : List Document} {given : List String} {s : Document}
    (h : GivenAt (used ++ [id]) after i r base given) (hid : s.id? = some id) :
    GivenAt used (s :: after) (i + 1) r base (id :: given) := by
  obtain ⟨hentry, helsewhere, hfree⟩ := h
  rw [List.append_assoc, List.singleton_append] at hentry hfree
  refine ⟨hentry, ?_, ?_⟩
  · simp only [idElsewhere_cons_succ, List.forall_mem_cons]
    exact ⟨.inl hid, fun a ha => .inr (helsewhere a ha)⟩
  · rw [idElsewhere_cons_succ]
    rintro (hown | helse)
    · have hsame : id = freeId (used ++ id :: given) base := Option.some.inj (hid.symm.trans hown)
      refine freeId_not_mem (used ++ id :: given) base (List.mem_append_right _ ?_)
      rw [← hsame]
      exact List.mem_cons_self
    · exact hfree helse

theorem exists_given_of_renameFrom (hused : ∀ a ∈ authoredIds renderings, a ∈ used) (hr : renderings[i]? = some r)
    (hbase : generatedId? r = some base) : ∃ given, GivenAt used (renameFrom used renderings) i r base given := by
  induction renderings generalizing used i with
  | nil => cases hr
  | cons s rest ih =>
    cases hs : generatedId? s with
    | none =>
      have hrename : renameFrom used (s :: rest) = s :: renameFrom used rest := by simp only [renameFrom, hs]
      simp only [mem_authoredIds_cons_of_none hs] at hused
      rw [hrename]
      cases i with
      | zero =>
        obtain rfl := Option.some.inj hr
        rw [hs] at hbase
        cases hbase
      | succ k =>
        obtain ⟨given, hgiven⟩ := ih (fun a ha => hused a (.inr ha)) hr
        exact ⟨given, hgiven.cons fun a ha => hused a (.inl ha)⟩
    | some own =>
      have hrename : renameFrom used (s :: rest) =
          withId (freeId used own) s :: renameFrom (used ++ [freeId used own]) rest := by simp only [renameFrom, hs]
      rw [authoredIds_cons_of_some hs] at hused
      rw [hrename]
      cases i with
      | zero =>
        obtain rfl := Option.some.inj hr
        obtain rfl : own = base := Option.some.inj (hs.symm.trans hbase)
        refine ⟨[], by rw [List.append_nil]; rfl, by simp, ?_⟩
        rw [List.append_nil, idElsewhere_cons_zero]
        rintro ⟨d, hd, hid⟩
        exact id_ne_of_mem_renameFrom hused (freeId_not_mem used own) hd hid
      | succ k =>
        obtain ⟨given, hgiven⟩ := ih (fun a ha => List.mem_append_left _ (hused a ha)) hr
        exact ⟨freeId used own :: given, hgiven.cons_given (id?_withId hs _)⟩

/-- What the generated id `base` of the entry `r` becomes at its place: the first candidate that no other entry
has. -/
structure RenamedAt (after : List Document) (i : Nat) (r : Document) (base : String) (n : Nat) : Prop where
  entry : after[i]? = some (withId (candidate base n) r)
  taken : ∀ m < n, IdElsewhere after i (candidate base m)
  free : ¬ IdElsewhere after i (candidate base n)

theorem exists_renamedAt (hr : renderings[i]? = some r) (hbase : generatedId? r = some base) :
    ∃ n, RenamedAt (distinctIds renderings) i r base n := by
  obtain ⟨given, hentry, hgiven, hfree⟩ := exists_given_of_renameFrom (fun _ ha => ha) hr hbase
  obtain ⟨n, -, hn, hbefore⟩ := exists_freeId_eq (authoredIds renderings ++ given) base
  rw [hn] at hentry hfree
  refine ⟨n, hentry, fun m hm => ?_, hfree⟩
  rcases List.mem_append.mp (hbefore m hm) with hauthored | hmem
  · obtain ⟨s, hs, hid⟩ := List.mem_filterMap.mp hauthored
    split at hid
    · cases hid
    · rename_i hgen
      rw [Option.not_isSome_iff_eq_none] at hgen
      obtain ⟨j, hj⟩ := List.getElem?_of_mem hs
      have hne : j ≠ i := by
        rintro rfl
        obtain rfl := Option.some.inj (hj.symm.trans hr)
        rw [hgen] at hbase
        cases hbase
      exact ⟨j, hne, Option.bind_eq_some_iff.mpr ⟨s, getElem?_renameFrom_of_none hj hgen, hid⟩⟩
  · exact hgiven _ hmem

/-- The candidates that are taken differ, and each is the id of an entry. -/
theorem RenamedAt.le_length {after : List Document} {n : Nat} (h : RenamedAt after i r base n) : n ≤ after.length := by
  have hnodup : ((List.range n).map (candidate base)).Nodup := List.nodup_range.map (candidate_injective base)
  have hsub : (List.range n).map (candidate base) ⊆ after.filterMap Document.id? := by
    intro id hid
    obtain ⟨m, hm, rfl⟩ := List.mem_map.mp hid
    obtain ⟨j, -, hj⟩ := h.taken m (List.mem_range.mp hm)
    obtain ⟨d, hd, hdid⟩ := Option.bind_eq_some_iff.mp hj
    exact List.mem_filterMap.mpr ⟨d, List.mem_of_getElem? hd, hdid⟩
  have hlength := (List.subperm_of_subset hnodup hsub).length_le
  rw [List.length_map, List.length_range] at hlength
  exact Nat.le_trans hlength (List.length_filterMap_le _ _)

/-- An id is kept where no other entry has it, and only there. -/
theorem RenamedAt.kept_iff {after : List Document} {n : Nat} (h : RenamedAt after i r base n) :
    candidate base n = base ↔ ¬ IdElsewhere after i base := by
  constructor
  · intro he
    exact he ▸ h.free
  · intro hfree
    have hn : n = 0 := by
      by_contra hn
      exact hfree (h.taken 0 (Nat.pos_of_ne_zero hn))
    rw [hn]
    rfl

/-! ## The step -/

/-- Objects with the same keys in the same order, and the same values but for the id. -/
def SameBesideId (before after : Document) : Prop :=
  ∃ fs gs : Fields, before = .object fs ∧ after = .object gs ∧ Fields.keys gs = Fields.keys fs ∧
    ∀ key, key ≠ "id" → Fields.get? gs key = Fields.get? fs key

theorem sameBesideId_withId (h : generatedId? r = some base) (id : String) : SameBesideId r (withId id r) := by
  obtain ⟨fields, -, rfl, hid, -⟩ := generatedId?_eq_some_iff.mp h
  refine ⟨fields, Fields.insert fields "id" (.text id), rfl, rfl, ?_, ?_⟩
  · have hmem : "id" ∈ Fields.keys fields := List.mem_map_of_mem (Fields.mem_of_get? hid)
    rw [Fields.keys_insert, if_pos hmem]
  · intro key hkey
    exact Fields.get?_insert_of_ne (Ne.symm hkey) fields (.text id)

/-- The step gives a list as long, in which entries without a generated id are as they were. An entry with one
keeps all else; its id becomes the first of its candidates that is the id of no other entry, and this is found
among as many as there are entries, and one more. Nothing is renamed a second time. -/
theorem uniqueInlineIds_renames (renderings : List Document) (place : String) :
    ∃ after : List Document, uniqueInlineIds.convert (.list renderings) place = .success (.list after) ∧
      after.length = renderings.length ∧
      (∀ (i : Nat) (r : Document), renderings[i]? = some r → generatedId? r = none → after[i]? = some r) ∧
      (∀ (i : Nat) (r : Document) (base : String), renderings[i]? = some r → generatedId? r = some base →
        ∃ (n : Nat) (d : Document), n ≤ renderings.length ∧ after[i]? = some d ∧ SameBesideId r d ∧
          d.id? = some (candidate base n) ∧ ¬ IdElsewhere after i (candidate base n) ∧
          ∀ m < n, IdElsewhere after i (candidate base m)) ∧
      ∀ place', uniqueInlineIds.convert (.list after) place' = .success (.list after) := by
  have hlength : (distinctIds renderings).length = renderings.length := length_renameFrom _ _
  refine ⟨distinctIds renderings, rfl, hlength, ?_, ?_, ?_⟩
  · intro i r hr hnone
    exact getElem?_renameFrom_of_none hr hnone
  · intro i r base hr hbase
    obtain ⟨n, hn⟩ := exists_renamedAt hr hbase
    exact ⟨n, withId (candidate base n) r, hlength ▸ hn.le_length, hn.entry, sameBesideId_withId hbase _,
      id?_withId hbase _, hn.free, hn.taken⟩
  · intro place'
    simp only [uniqueInlineIds, distinctIds_of_distinct (distinctIds_distinct renderings)]

/-- A suffix that an author has used is passed over. -/
example : (distinctIds [inlineRendering "\x7bwikipedia()\x7d", .object [("id", .text "wikipedia_1")],
    inlineRendering "\x7bwikipedia()\x7d"]).map Document.id? =
      [some "wikipedia", some "wikipedia_1", some "wikipedia_2"] := by decide +kernel

end MapTheme.Rendering
