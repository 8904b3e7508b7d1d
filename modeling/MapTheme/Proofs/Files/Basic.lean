/-
  MapTheme.Proofs.Files.Basic — what is read after writing, and what a folder then holds.

  A name without slashes leads one step down from any folder (`ofText_joinTexts`). After files are written one after
  the other, each path has the text that was written to it last (`read?_insertAll`), and a folder holds what it held
  and the names that the new paths lead on by (`mem_below_insertAll`).
-/

import MapTheme.Files.Basic
import MapTheme.Proofs.Library.Publicity
import MapTheme.Proofs.Text.Pieces

namespace MapTheme

namespace Path

/-- A text that is one component of a path. -/
structure Plain (name : String) : Prop where
  slash_not_mem : '/' ∉ name.toList
  ne_empty : name ≠ ""
  ne_here : name ≠ "."
  ne_up : name ≠ ".."

variable {name : String}

theorem Plain.descend (h : Plain name) (done : List String) : descend done name = name :: done := by
  simp [Path.descend, h.ne_empty, h.ne_here, h.ne_up]

theorem split_slash (folder name : String) (h : '/' ∉ name.toList) :
    Text.split '/' (folder ++ "/" ++ name) = Text.split '/' folder ++ [name] := by
  have htext : (folder ++ "/" ++ name).toList = folder.toList ++ '/' :: name.toList := by simp
  rw [Text.split, Text.split, htext, Text.splitAt_append_sep, Text.splitAt_of_not_mem h]
  simp

theorem ofText_slash (folder : String) (h : Plain name) : ofText (folder ++ "/" ++ name) = ofText folder ++ [name] := by
  rw [ofText, split_slash folder name h.slash_not_mem, List.foldl_append, List.foldl_cons, List.foldl_nil, h.descend,
    List.reverse_cons, ofText]

/-- A slash at the end of a folder says nothing. -/
theorem ofText_slash_end (folder : String) : ofText (folder ++ "/") = ofText folder := by
  have hsplit : Text.split '/' (folder ++ "/") = Text.split '/' folder ++ [""] := by
    simpa using split_slash folder "" (by simp)
  rw [ofText, hsplit, List.foldl_append]
  rfl

theorem ofText_plain (h : Plain name) : ofText name = [name] := by
  rw [ofText, Text.split, Text.splitAt_of_not_mem h.slash_not_mem]
  simp [h.descend]

/-- A name is put below a folder, however the text of the folder ends. -/
theorem ofText_joinTexts (folder : String) (h : Plain name) : ofText (joinTexts folder name) = ofText folder ++ [name] := by
  have hstart : Text.startsWith "/" name = false := by
    rw [Text.startsWith, Option.isSome_eq_false_iff, Option.isNone_iff_eq_none, Option.eq_none_iff_forall_ne_some]
    intro rest hrest
    have hname : name.toList = "/".toList ++ rest := Text.after?_eq_some_iff.mp hrest
    exact h.slash_not_mem (hname ▸ List.mem_cons_self)
  unfold joinTexts
  rw [hstart, Bool.or_false]
  split
  · rename_i hempty
    rw [String.isEmpty_iff.mp hempty, ofText_plain h]
    rfl
  · split
    · rename_i hend
      obtain ⟨start, hstart⟩ := Option.isSome_iff_exists.mp hend
      rw [Text.withoutEnd?_eq_some_iff.mp hstart, ofText_slash start h, ofText_slash_end]
    · exact ofText_slash folder h

end Path

namespace Files

variable {files : Files} {p q folder : Path} {name text : String}

/-! ## One file -/

theorem read?_insert_self (files : Files) (p : Path) (text : String) : (files.insert p text).read? p = some text := by
  simp [insert, read?]

theorem lookup_filter_of_ne (h : q ≠ p) (texts : List (Path × String)) :
    (texts.filter fun f => f.1 != p).lookup q = texts.lookup q := by
  induction texts with
  | nil => rfl
  | cons f rest ih =>
    by_cases hf : f.1 = p
    · have hq : (q == f.1) = false := by simpa [hf] using h
      rw [List.filter_cons_of_neg (by simpa using hf), ih, List.lookup_cons, hq]
    · rw [List.filter_cons_of_pos (by simpa using hf), List.lookup_cons, List.lookup_cons, ih]

theorem read?_insert_of_ne (h : q ≠ p) (text : String) : (files.insert p text).read? q = files.read? q := by
  have hne : (q == p) = false := by simpa using h
  simp only [insert, read?, List.lookup_cons, hne]
  exact lookup_filter_of_ne h files.texts

theorem write?_eq_some {written : Files} (h : files.write? p text = some written) : written = files.insert p text := by
  unfold write? at h
  split at h
  · cases h
  · exact (Option.some.inj h).symm

/-! ## Names in folders -/

/-- The names by which the paths of the tree lead on below a folder. -/
def below (files : Files) (folder : Path) : List String :=
  (files.texts.map (·.1) ++ files.folders).filterMap (childOf? folder)

theorem mem_below : name ∈ files.below folder ↔
    ∃ p, (p ∈ files.texts.map (·.1) ∨ p ∈ files.folders) ∧ childOf? folder p = some name := by
  simp only [below, List.mem_filterMap, List.mem_append]

theorem list?_of_mem_folders (h : folder ∈ files.folders) : files.list? folder = some (sortedIds (files.below folder)) := by
  have hfolder : files.isFolder folder = true := by
    rw [isFolder, Bool.or_eq_true, List.any_eq_true]
    exact .inl ⟨folder, h, List.isPrefixOf_iff_prefix.mpr (List.prefix_refl folder)⟩
  rw [list?, if_pos hfolder]
  rfl

theorem childOf?_append (folder : Path) (name : String) (rest : Path) :
    childOf? folder (folder ++ name :: rest) = some name := by
  simp [childOf?]

theorem childOf?_of_ne {a b : String} (h : a ≠ b) (folder rest : Path) :
    childOf? (folder ++ [a]) (folder ++ b :: rest) = none := by
  have hstarts : ¬ (folder ++ [a]) <+: (folder ++ b :: rest) := by
    rw [List.prefix_append_right_inj, List.cons_prefix_cons]
    exact fun hab => h hab.1
  rw [childOf?, if_neg fun hpre => hstarts (List.isPrefixOf_iff_prefix.mp hpre)]

theorem childOf?_self (folder : Path) : childOf? folder folder = none := by
  simp [childOf?]

/-- What is below a folder of a folder is below that one. -/
theorem childOf?_append_eq_none (h : childOf? folder p = none) (name : String) : childOf? (folder ++ [name]) p = none := by
  by_contra hchild
  have hstarts : (folder ++ [name]) <+: p := by
    by_contra hstarts
    exact hchild (if_neg fun hpre => hstarts (List.isPrefixOf_iff_prefix.mp hpre))
  obtain ⟨rest, rfl⟩ := hstarts
  rw [List.append_assoc, List.singleton_append, childOf?_append] at h
  cases h

/-- No path leads on below a folder in which there is nothing. -/
theorem childOf?_eq_none_of_empty (h : (files.list? folder).getD [] = [])
    (hp : p ∈ files.texts.map (·.1) ∨ p ∈ files.folders) : childOf? folder p = none := by
  by_contra hchild
  obtain ⟨name, hname⟩ := Option.ne_none_iff_exists'.mp hchild
  have hbelow : name ∈ sortedIds (files.below folder) := mem_sortedIds.mpr (mem_below.mpr ⟨p, hp, hname⟩)
  have hstarts : folder.isPrefixOf p = true := by
    by_contra hstarts
    exact hchild (if_neg hstarts)
  have hne : folder ≠ p := by
    rintro rfl
    rw [childOf?_self] at hname
    cases hname
  have hfolder : files.isFolder folder = true := by
    rw [isFolder, Bool.or_eq_true, List.any_eq_true, List.any_eq_true]
    rcases hp with hp | hp
    · obtain ⟨f, hf, rfl⟩ := List.mem_map.mp hp
      exact .inr ⟨f, hf, by simp [hstarts, hne]⟩
    · exact .inl ⟨p, hp, hstarts⟩
  rw [list?, if_pos hfolder] at h
  have hempty : sortedIds (files.below folder) = [] := h
  rw [hempty] at hbelow
  cases hbelow

theorem mem_below_insert : name ∈ (files.insert p text).below folder ↔
    name ∈ files.below folder ∨ childOf? folder p = some name := by
  simp only [mem_below, insert, List.map_cons, List.mem_cons]
  constructor
  · rintro ⟨q, (rfl | hq) | hq, hchild⟩
    · exact .inr hchild
    · obtain ⟨f, hf, rfl⟩ := List.mem_map.mp hq
      exact .inl ⟨f.1, .inl (List.mem_map_of_mem (List.mem_of_mem_filter hf)), hchild⟩
    · exact .inl ⟨q, .inr hq, hchild⟩
  · rintro (⟨q, hq | hq, hchild⟩ | hchild)
    · by_cases hp : q = p
      · exact ⟨p, .inl (.inl rfl), hp ▸ hchild⟩
      · obtain ⟨f, hf, rfl⟩ := List.mem_map.mp hq
        exact ⟨f.1, .inl (.inr (List.mem_map_of_mem (List.mem_filter.mpr ⟨hf, by simpa using hp⟩))), hchild⟩
    · exact ⟨q, .inr hq, hchild⟩
    · exact ⟨p, .inl (.inl rfl), hchild⟩

/-! ## Several files, one after the other -/

def insertAll (files : Files) (written : List (Path × String)) : Files :=
  written.foldl (fun files f => files.insert f.1 f.2) files

theorem folders_insertAll (files : Files) (written : List (Path × String)) :
    (files.insertAll written).folders = files.folders := by
  induction written generalizing files with
  | nil => rfl
  | cons f rest ih => exact ih (files.insert f.1 f.2)

/-- The last text for a path counts. -/
theorem read?_insertAll (files : Files) (written : List (Path × String)) (p : Path) :
    (files.insertAll written).read? p = (List.lookup p written.reverse).or (files.read? p) := by
  induction written generalizing files with
  | nil => rfl
  | cons f rest ih =>
    obtain ⟨q, text⟩ := f
    have hrest : (files.insertAll ((q, text) :: rest)) = (files.insert q text).insertAll rest := rfl
    rw [hrest, ih, List.reverse_cons, List.lookup_append, Option.or_assoc]
    congr 1
    by_cases hp : p = q
    · rw [hp, read?_insert_self]
      simp
    · have hne : (p == q) = false := by simpa using hp
      rw [read?_insert_of_ne hp, List.lookup_cons, hne]
      rfl

theorem mem_below_insertAll (written : List (Path × String)) : name ∈ (files.insertAll written).below folder ↔
    name ∈ files.below folder ∨ ∃ f ∈ written, childOf? folder f.1 = some name := by
  induction written generalizing files with
  | nil => simp [insertAll]
  | cons f rest ih =>
    have hrest : files.insertAll (f :: rest) = (files.insert f.1 f.2).insertAll rest := rfl
    rw [hrest, ih, mem_below_insert, or_assoc, List.exists_mem_cons_iff]

end Files

end MapTheme
