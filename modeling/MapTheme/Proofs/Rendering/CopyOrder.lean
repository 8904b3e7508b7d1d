/-
  MapTheme.Proofs.Rendering.CopyOrder — the order of the source strings of a block of copies.

  A block whose source strings are listed in another order, with every row in the same order, is accepted again and
  gives as many copies, and the same ones if its replacements do not get in each other's way
  (`expandCopies_reordered`).

  That no source string contains another, which is checked, is not enough for this (`copies_depend_on_order`): a
  replacement may hold the next source string, two source strings may share a part of a text, and keys may become
  the same.
-/

import Mathlib.Data.List.Pairwise
import MapTheme.Proofs.Rendering.Replacements

namespace MapTheme.Rendering

/-! ## Lists in another order -/

/-- The entries at the given indices, in this order. -/
def reorder {α : Type} (order : List Nat) (as : List α) : List α := order.filterMap (as[·]?)

section Reorder

variable {α β : Type} {order : List Nat} {as : List α}

theorem filterMap_getElem?_range (as : List α) : (List.range as.length).filterMap (as[·]?) = as := by
  induction as with
  | nil => rfl
  | cons a as ih =>
    rw [List.length_cons, List.range_succ_eq_map, List.filterMap_cons, List.getElem?_cons_zero, List.filterMap_map]
    exact congrArg (a :: ·) ih

theorem reorder_perm (h : order.Perm (List.range as.length)) : (reorder order as).Perm as := by
  have hperm := h.filterMap (as[·]?)
  rwa [filterMap_getElem?_range] at hperm

theorem reorder_map (order : List Nat) (f : α → β) (as : List α) : reorder order (as.map f) = (reorder order as).map f := by
  simp only [reorder, List.getElem?_map, List.map_filterMap]

theorem reorder_zip {bs : List β} (h : ∀ i ∈ order, i < as.length) (hlength : bs.length = as.length) :
    reorder order (as.zip bs) = (reorder order as).zip (reorder order bs) := by
  induction order with
  | nil => rfl
  | cons i rest ih =>
    rw [List.forall_mem_cons] at h
    have hi : i < as.length := h.1
    have hib : i < bs.length := hlength ▸ hi
    have ha := List.getElem?_eq_getElem hi
    have hb := List.getElem?_eq_getElem hib
    have hzip : (as.zip bs)[i]? = some (as[i], bs[i]) := List.getElem?_zip_eq_some.mpr ⟨ha, hb⟩
    simp only [reorder, List.filterMap_cons, ha, hb, hzip, List.zip_cons_cons] at ih ⊢
    rw [ih h.2]

end Reorder

/-! ## Blocks in another order -/

/-- One field of an object changed. -/
def mapField (key : String) (f : Document → Document) : Document → Document
  | .object fields => .object (fields.map fun p => if p.1 = key then (p.1, f p.2) else p)
  | d => d

theorem get?_mapField_self (key : String) (f : Document → Document) (d : Document) :
    (mapField key f d).get? key = (d.get? key).map f := by
  cases d with
  | object fields =>
    change Fields.get? (fields.map _) key = (Fields.get? fields key).map f
    induction fields with
    | nil => rfl
    | cons p rest ih =>
      obtain ⟨k, v⟩ := p
      rw [List.map_cons, Fields.get?_cons k v]
      by_cases hk : k = key
      · rw [if_pos hk, if_pos hk, Fields.get?_cons, if_pos hk, Option.map_some]
      · rw [if_neg hk, if_neg hk, Fields.get?_cons, if_neg hk, ih]
  | _ => rfl

theorem get?_mapField_of_ne {key other : String} (h : key ≠ other) (f : Document → Document) (d : Document) :
    (mapField key f d).get? other = d.get? other := by
  cases d with
  | object fields =>
    change Fields.get? (fields.map _) other = Fields.get? fields other
    induction fields with
    | nil => rfl
    | cons p rest ih =>
      obtain ⟨k, v⟩ := p
      rw [List.map_cons, Fields.get?_cons k v]
      by_cases hk : k = key
      · rw [if_pos hk, if_neg (hk ▸ h), Fields.get?_cons, if_neg (hk ▸ h), ih]
      · rw [if_neg hk, Fields.get?_cons, ih]
  | _ => rfl

def reorderList (order : List Nat) : Document → Document
  | .list items => .list (reorder order items)
  | d => d

def reorderRows (order : List Nat) : Document → Document
  | .list rows => .list (rows.map (reorderList order))
  | d => d

def reorderTable (order : List Nat) (table : Document) : Document :=
  mapField "into" (reorderRows order) (mapField "sourceString" (reorderList order) table)

/-- The block with its source strings in another order, and the replacements of every row in the same. -/
def reorderBlock (order : List Nat) (block : Document) : Document := mapField "rewrite" (reorderTable order) block

/-! ## Accepted blocks -/

/-- Neither of the texts contains the other. -/
def Apart (a b : String) : Prop :=
  Text.contains a.toList b.toList = false ∧ Text.contains b.toList a.toList = false

instance : Std.Symm Apart := ⟨fun _ _ h => ⟨h.2, h.1⟩⟩

theorem overlap?_eq_none_iff {sources : List String} : overlap? sources = none ↔ sources.Pairwise Apart := by
  simp only [overlap?, List.findSome?_eq_none_iff, Option.map_eq_none_iff, List.find?_eq_none, Bool.and_eq_true,
    bne_iff_ne, ne_eq, not_and, Bool.not_eq_true, Prod.forall, List.mem_zipIdx_iff_getElem?, List.pairwise_iff_getElem]
  constructor
  · intro h i j hi hj hlt
    have ha := List.getElem?_eq_getElem hi
    have hb := List.getElem?_eq_getElem hj
    exact ⟨h _ i ha _ j hb (Nat.ne_of_lt hlt), h _ j hb _ i ha (Nat.ne_of_gt hlt)⟩
  · intro h a i ha b j hb hne
    obtain ⟨hi, rfl⟩ := List.getElem?_eq_some_iff.mp ha
    obtain ⟨hj, rfl⟩ := List.getElem?_eq_some_iff.mp hb
    rcases Nat.lt_or_gt_of_ne hne with hlt | hgt
    · exact (h i j hi hj hlt).1
    · exact (h j i hj hi hgt).2

/-- There is one order of a single entry. -/
theorem eq_of_perm_range_one {order : List Nat} (h : order.Perm (List.range 1)) : order = [0] :=
  List.perm_singleton.mp h

theorem mapM_text?_eq_some_iff {items : List Document} {texts : List String} :
    items.mapM Document.text? = some texts ↔ items = texts.map .text := by
  induction items generalizing texts with
  | nil => simp [eq_comm]
  | cons d rest ih =>
    cases texts with
    | nil => simp [Option.bind_eq_some_iff]
    | cons t texts =>
      cases d <;> simp [Document.text?, Option.bind_eq_some_iff, ih, and_comm]

theorem textList?_reorderList {d : Document} {order : List Nat} {texts : List String} (h : textList? d = some texts)
    (horder : order.Perm (List.range texts.length)) :
    textList? (reorderList order d) = some (reorder order texts) := by
  cases d with
  | text s =>
    cases h
    rw [eq_of_perm_range_one horder]
    rfl
  | list items =>
    obtain rfl := mapM_text?_eq_some_iff.mp h
    rw [reorderList, textList?, reorder_map]
    exact mapM_text?_eq_some_iff.mpr rfl
  | _ => cases h

variable {input table row : Document} {block : CopyBlock} {order : List Nat} {place : String}
  {found : List Document}

namespace CopyBlock

theorem ofDocument_eq_ok_iff : ofDocument input table = .ok block ↔
    (table.get? "sourceString").bind textList? = some block.sources ∧ (∀ s ∈ block.sources, s ≠ "") ∧
      block.sources.Pairwise Apart ∧ table.listAt? "into" = some block.rows ∧
      input.listAt? "renderings" = some block.renderings := by
  rw [ofDocument]
  cases hsources : (table.get? "sourceString").bind textList? with
  | none => simp only [reduceCtorEq, false_and]
  | some sources =>
    have hempty : sources.findIdx? String.isEmpty = none ↔ ∀ s ∈ sources, s ≠ "" := by
      simp only [List.findIdx?_eq_none_iff, String.isEmpty_eq_false_iff]
    simp only [Option.some.injEq]
    constructor
    · intro h
      cases hfirst : sources.findIdx? String.isEmpty with
      | some i => rw [hfirst] at h; cases h
      | none =>
        cases hoverlap : overlap? sources with
        | some pair => rw [hfirst, hoverlap] at h; cases h
        | none =>
          simp only [hfirst, hoverlap] at h
          cases hrows : table.listAt? "into" with
          | none => rw [hrows] at h; cases h
          | some rows =>
            cases hrenderings : input.listAt? "renderings" with
            | none => rw [hrows, hrenderings] at h; cases h
            | some renderings =>
              rw [hrows, hrenderings] at h
              cases h
              exact ⟨rfl, hempty.mp hfirst, overlap?_eq_none_iff.mp hoverlap, rfl, rfl⟩
    · intro h
      obtain ⟨hsame, hnonempty, hapart, hrows, hrenderings⟩ := h
      subst hsame
      simp only [hempty.mpr hnonempty, overlap?_eq_none_iff.mpr hapart, hrows, hrenderings]

/-- The row has one replacement for every source string. -/
def Fits (block : CopyBlock) (row : Document) : Prop :=
  ∃ replacements, replacementsOf block.sources row = some replacements ∧ replacements.length = block.sources.length

/-- The source strings with the replacements of a row. -/
def pairsOf (block : CopyBlock) (row : Document) : List (String × Document) :=
  block.sources.zip ((replacementsOf block.sources row).getD [])

theorem pairsOf_of_replacementsOf {replacements : List Document}
    (h : replacementsOf block.sources row = some replacements) :
    block.pairsOf row = block.sources.zip replacements := by
  rw [pairsOf, h, Option.getD_some]

theorem value_copies (h : block.Fits row) (place : String) :
    (block.copies place row).value = block.renderings.map (replacePairs (block.pairsOf row)) := by
  obtain ⟨replacements, hr, hlength⟩ := h
  rw [copies, pairsOf_of_replacementsOf hr]
  simp only [hr, if_pos hlength, Noted.value_pure]
  rfl

theorem hasErrors_copies_iff : (block.copies place row).notes.hasErrors = false ↔ block.Fits row := by
  constructor
  · intro h
    rw [copies] at h
    cases hr : replacementsOf block.sources row with
    | none =>
      rw [hr] at h
      simp at h
    | some replacements =>
      rw [hr] at h
      by_cases hlength : replacements.length = block.sources.length
      · exact ⟨replacements, hr, hlength⟩
      · simp [if_neg hlength] at h
  · intro h
    obtain ⟨replacements, hr, hlength⟩ := h
    rw [copies]
    simp only [hr, if_pos hlength, Noted.notes_pure, Diagnostics.hasErrors_empty]

/-- A block is accepted if all its rows fit, and gives the copies row by row. -/
theorem result_convert_iff (htable : input.get? "rewrite" = some table) (hblock : ofDocument input table = .ok block) :
    (expandCopies.convert input place).result = some found ↔ (∀ row ∈ block.rows, block.Fits row) ∧
      found = block.rows.flatMap fun row => block.renderings.map (replacePairs (block.pairsOf row)) := by
  simp only [expandCopies, htable, hblock]
  generalize hnumbered : (block.rows.zipIdx.map fun numbered : Document × Nat =>
    (numbered.1, Step.itemPlace (place ++ ".rewrite.into") numbered.2)) = rows
  have hrows : rows.map Prod.fst = block.rows := by
    rw [← hnumbered, List.map_map]
    exact List.zipIdx_map_fst 0 block.rows
  have haccepted : (Noted.each (fun r : Document × String => block.copies r.2 r.1) rows).notes.hasErrors = false ↔
      ∀ row ∈ block.rows, block.Fits row := by
    simp only [Noted.hasErrors_each, List.any_eq_false, Bool.not_eq_true, hasErrors_copies_iff, ← hrows,
      List.forall_mem_map]
  have hcopies (hfits : ∀ row ∈ block.rows, block.Fits row) :
      (Noted.each (fun r : Document × String => block.copies r.2 r.1) rows).value.flatten =
        block.rows.flatMap fun row => block.renderings.map (replacePairs (block.pairsOf row)) := by
    rw [Noted.value_each, ← hrows, List.flatMap, List.map_map]
    refine congrArg List.flatten (List.map_congr_left ?_)
    intro r hr
    exact value_copies (hfits r.1 (hrows ▸ List.mem_map_of_mem hr)) r.2
  constructor
  · intro h
    obtain ⟨copies, hfinish, rfl⟩ := Converted.result_of_map h
    obtain ⟨hok, rfl⟩ := Noted.result_finish hfinish
    exact ⟨haccepted.mp hok, hcopies (haccepted.mp hok)⟩
  · intro h
    obtain ⟨hfits, hfound⟩ := h
    rw [hfound, ← hcopies hfits]
    exact congrArg (fun c => (Converted.map List.flatten c).result) (Noted.finish_of_no_errors (haccepted.mpr hfits))

/-- The block in another order. -/
def reordered (order : List Nat) (block : CopyBlock) : CopyBlock :=
  ⟨reorder order block.sources, block.rows.map (reorderList order), block.renderings⟩

theorem ofDocument_reorder (hblock : ofDocument input table = .ok block)
    (horder : order.Perm (List.range block.sources.length)) :
    ofDocument (reorderBlock order input) (reorderTable order table) = .ok (block.reordered order) := by
  obtain ⟨hsources, hnonempty, hapart, hrows, hrenderings⟩ := ofDocument_eq_ok_iff.mp hblock
  have hperm := reorder_perm horder
  refine ofDocument_eq_ok_iff.mpr ⟨?_, ?_, ?_, ?_, ?_⟩
  · obtain ⟨texts, htexts, hlist⟩ := Option.bind_eq_some_iff.mp hsources
    rw [reorderTable, get?_mapField_of_ne (by decide), get?_mapField_self, htexts]
    exact textList?_reorderList hlist horder
  · intro s hs
    exact hnonempty s (hperm.mem_iff.mp hs)
  · exact (hperm.pairwise_iff And.symm).mpr hapart
  · obtain ⟨rows, hlist, hr⟩ := Option.bind_eq_some_iff.mp hrows
    rw [Document.listAt?, reorderTable, get?_mapField_self, get?_mapField_of_ne (by decide), hlist]
    cases rows <;> cases hr
    rfl
  · rw [Document.listAt?, reorderBlock, get?_mapField_of_ne (by decide)]
    exact hrenderings

theorem replacementsOf_reordered {replacements : List Document}
    (horder : order.Perm (List.range block.sources.length))
    (hr : replacementsOf block.sources row = some replacements) (hlength : replacements.length = block.sources.length) :
    replacementsOf (block.reordered order).sources (reorderList order row) = some (reorder order replacements) := by
  have hsources : (block.reordered order).sources.length = block.sources.length := (reorder_perm horder).length_eq
  cases row with
  | list values =>
    cases hr
    rfl
  | _ =>
    obtain ⟨hone, he⟩ := Option.ite_none_right_eq_some.mp hr
    cases he
    rw [hone] at horder hsources
    rw [eq_of_perm_range_one horder] at hsources ⊢
    exact if_pos hsources

theorem Fits.reordered (h : block.Fits row) (horder : order.Perm (List.range block.sources.length)) :
    (block.reordered order).Fits (reorderList order row) ∧
      ((block.reordered order).pairsOf (reorderList order row)).Perm (block.pairsOf row) := by
  obtain ⟨replacements, hr, hlength⟩ := h
  have hagain := replacementsOf_reordered horder hr hlength
  have hperm : (reorder order replacements).Perm replacements := reorder_perm (hlength ▸ horder)
  constructor
  · exact ⟨_, hagain, hperm.length_eq.trans (hlength.trans (reorder_perm horder).length_eq.symm)⟩
  · have hzip := reorder_zip (fun i hi => List.mem_range.mp (horder.mem_iff.mp hi)) hlength
    rw [pairsOf_of_replacementsOf hagain, pairsOf_of_replacementsOf hr]
    refine hzip ▸ reorder_perm ?_
    rwa [List.length_zip, hlength, Nat.min_self]

/-- Do the replacements of every row keep out of each other's way? -/
def unmixed (block : CopyBlock) : Bool :=
  block.rows.all fun row =>
    ((block.pairsOf row).all fun p => (block.pairsOf row).all fun q => p.1 == q.1 || !mentions p.1 q.2) &&
      block.renderings.all (isUnmixed (block.pairsOf row))

theorem replaceable_pairsOf (hinput : input.Distinct) (htable : table.Distinct)
    (hblock : ofDocument input table = .ok block) (hrow : row ∈ block.rows) (hfits : block.Fits row)
    (hunmixed : block.unmixed = true) : Replaceable (block.pairsOf row) := by
  obtain ⟨-, hnonempty, hapart, -, -⟩ := ofDocument_eq_ok_iff.mp hblock
  have hclear := List.all_eq_true.mp hunmixed row hrow
  rw [Bool.and_eq_true] at hclear
  obtain ⟨replacements, hr, hlength⟩ := hfits
  rw [pairsOf_of_replacementsOf hr] at hclear ⊢
  have hnodup : block.sources.Nodup := hapart.imp fun hab he => by
    subst he
    rw [Apart, Bool.eq_false_iff, ne_eq, Text.contains_iff] at hab
    exact hab.1 (List.infix_refl _)
  constructor
  · rwa [List.map_fst_zip (Nat.le_of_eq hlength.symm)]
  · intro p hp
    exact hnonempty p.1 (List.of_mem_zip hp).1
  · intro p hp q hq hne
    exact (hapart.forall (List.of_mem_zip hp).1 (List.of_mem_zip hq).1 hne).1
  · intro p hp
    exact distinct_replacementsOf ((distinct_ofDocument hinput htable hblock).1 row hrow) hr p.2 (List.of_mem_zip hp).2
  · intro p hp q hq hne
    have hno := List.all_eq_true.mp (List.all_eq_true.mp hclear.1 p hp) q hq
    rw [Bool.or_eq_true, beq_iff_eq, Bool.not_eq_true'] at hno
    exact hno.resolve_left hne

end CopyBlock

/-- The place is for messages only. -/
theorem result_expandCopies_congr (input : Document) (place place' : String) :
    (expandCopies.convert input place).result = (expandCopies.convert input place').result := by
  cases htable : input.get? "rewrite" with
  | none => simp only [expandCopies, htable]
  | some table =>
    cases hblock : CopyBlock.ofDocument input table with
    | error fault =>
      simp only [expandCopies, htable, hblock]
      rfl
    | ok block =>
      apply Option.ext
      intro found
      rw [CopyBlock.result_convert_iff htable hblock, CopyBlock.result_convert_iff htable hblock]

/-- The copies come row by row, one for each rendering. A block whose source strings are in another order, and all rows
in the same, is accepted too and gives as many copies: the same ones, if its replacements keep out of each other's
way. -/
theorem expandCopies_reordered (hinput : input.Distinct) (htable : input.get? "rewrite" = some table)
    (hblock : CopyBlock.ofDocument input table = .ok block) (horder : order.Perm (List.range block.sources.length))
    (hfound : (expandCopies.convert input place).result = some found) :
    ∃ again, (expandCopies.convert (reorderBlock order input) place).result = some again ∧
      found = (block.rows.flatMap fun row => block.renderings.map (replacePairs (block.pairsOf row))) ∧
      again.length = found.length ∧ (block.unmixed = true → again = found) := by
  have htableAgain : (reorderBlock order input).get? "rewrite" = some (reorderTable order table) := by
    rw [reorderBlock, get?_mapField_self, htable, Option.map_some]
  obtain ⟨hfits, rfl⟩ := (CopyBlock.result_convert_iff htable hblock).mp hfound
  have hblockAgain := CopyBlock.ofDocument_reorder hblock horder
  refine ⟨_, (CopyBlock.result_convert_iff htableAgain hblockAgain).mpr ⟨?_, rfl⟩, rfl, ?_, ?_⟩
  · exact List.forall_mem_map.mpr fun row hrow => ((hfits row hrow).reordered horder).1
  · simp [List.length_flatMap, CopyBlock.reordered, Function.comp_def]
  · intro hunmixed
    rw [CopyBlock.reordered, List.flatMap_map]
    refine List.flatMap_congr ?_
    intro row hrow
    refine List.map_congr_left ?_
    intro rendering hrendering
    have hperm := ((hfits row hrow).reordered horder).2.symm
    have hreplaceable :=
      CopyBlock.replaceable_pairsOf hinput (hinput.get? htable) hblock hrow (hfits row hrow) hunmixed
    have hclear := List.all_eq_true.mp hunmixed row hrow
    rw [Bool.and_eq_true] at hclear
    exact replacePairs_perm hreplaceable hperm (List.all_eq_true.mp hclear.2 rendering hrendering)

/-- Keys and names, for phone numbers and addresses. -/
def contactTable : Document :=
  .object
    [("sourceString", .texts ["_KEY_", "_NAME_"]),
      ("into", .list [.texts ["phone", "Phone"], .texts ["email", "Email"]])]

def contactRendering : Document :=
  .object
    [("id", .text "_KEY_"), ("render", .text "_NAME_: \x7b_KEY_\x7d"), ("freeform", .object [("key", .text "_KEY_")])]

def contactBlock : Document := .object [("rewrite", contactTable), ("renderings", .list [contactRendering])]

/-- The block as it is read. -/
def contactCopies : CopyBlock :=
  ⟨["_KEY_", "_NAME_"], [.texts ["phone", "Phone"], .texts ["email", "Email"]], [contactRendering]⟩

theorem expandCopies_reordered_contact :
    contactBlock.Distinct ∧ contactBlock.get? "rewrite" = some contactTable ∧
    CopyBlock.ofDocument contactBlock contactTable = .ok contactCopies ∧
    [1, 0].Perm (List.range contactCopies.sources.length) ∧ contactCopies.unmixed = true ∧
    ∃ found, (expandCopies.convert contactBlock "layers:shop.tagRenderings[0]").result = some found ∧
      found.map Document.id? = [some "phone", some "email"] ∧
      (expandCopies.convert (reorderBlock [1, 0] contactBlock) "layers:shop.tagRenderings[0]").result = some found := by
  have hdistinct : contactBlock.Distinct := by
    simp [contactBlock, contactTable, contactRendering, Fields.Distinct, Fields.keys]
  have hblock : CopyBlock.ofDocument contactBlock contactTable = .ok contactCopies := by rfl
  have horder : [1, 0].Perm (List.range contactCopies.sources.length) := by decide
  have hunmixed : contactCopies.unmixed = true := by decide +kernel
  have hids : (expandCopies.convert contactBlock "layers:shop.tagRenderings[0]").result.map (·.map Document.id?) =
      some [some "phone", some "email"] := by decide +kernel
  obtain ⟨found, hfound, hids⟩ := Option.map_eq_some_iff.mp hids
  obtain ⟨again, hagain, -, -, hsame⟩ := expandCopies_reordered hdistinct rfl hblock horder hfound
  exact ⟨hdistinct, rfl, hblock, horder, hunmixed, found, hfound, hids, hsame hunmixed ▸ hagain⟩

/-- The ids that a block with two source strings, one row and one rendering gives: as it is written, and with the
source strings the other way round. -/
def idsBothWays (row : List String) (rendering : Fields) : List (Option (List (Option String))) :=
  let block : Document := .object
    [("rewrite", .object [("sourceString", .texts ["_KEY_", "_ID_"]), ("into", .list [.texts row])]),
      ("renderings", .list [.object rendering])]
  [block, reorderBlock [1, 0] block].map fun b =>
    (expandCopies.convert b "layers:shop.tagRenderings[0]").result.map (·.map Document.id?)

/-- The order counts where a replacement holds the next source string, where two source strings share a part of a
text, and where keys become the same. -/
theorem copies_depend_on_order :
    [1, 0].Perm (List.range 2) ∧
    idsBothWays ["phone_ID_", "2"] [("id", .text "_KEY_")] = [some [some "phone2"], some [some "phone_ID_"]] ∧
    idsBothWays ["phone", "2"] [("id", .text "_KEY_ID_")] = [some [some "phoneID_"], some [some "_KEY2"]] ∧
    idsBothWays ["id", "id"] [("_KEY_", .text "phone"), ("_ID_", .text "email"), ("id", .text "fax")] =
      [some [some "email"], some [some "fax"]] := by
  decide +kernel

end MapTheme.Rendering
