/-
  MapTheme.Proofs.Special.Template — a call that is written into a text is read back as the call.

  `Writable` says which calls can be written: their arguments have no comma, no closing parenthesis and no
  blanks at the ends, and a single empty argument reads as none.
-/

import Mathlib.Data.List.TakeDrop
import MapTheme.Proofs.Text.Blank
import MapTheme.Proofs.Text.Pieces
import MapTheme.Special.Template

namespace MapTheme.Special

namespace Call

/-- The style of a call with the colon before it. -/
def styleChars : Option String → List Char
  | none => []
  | some style => ':' :: style.toList

/-- The call as it stands in a text. -/
def written (c : Call) : List Char :=
  '\x7b' :: (c.name.toList ++ '(' :: ([','].intercalate (c.arguments.map String.toList) ++
    ')' :: (styleChars c.style ++ ['\x7d'])))

structure Writable (c : Call) : Prop where
  name_start : (c.name.toList.head?.map isNameStart).getD false = true
  name_chars : ∀ x ∈ c.name.toList, isNameChar x = true
  no_comma : ∀ a ∈ c.arguments, ',' ∉ a.toList
  no_parenthesis : ∀ a ∈ c.arguments, ')' ∉ a.toList
  trimmed : ∀ a ∈ c.arguments, Text.Trimmed a.toList
  arguments_ne : c.arguments ≠ [""]
  style_closed : ∀ s, c.style = some s → '\x7d' ∉ s.toList

end Call

theorem toList_callText (name : String) (arguments : List String) :
    (callText name arguments).toList = (Call.mk name arguments none).written := by
  simp [callText, Call.written, Call.styleChars, Text.joinWith, String.toList_intercalate]

theorem all_isBlank_intercalate {a : String} {rest : List String} (ha : Text.Trimmed a.toList) (hne : a :: rest ≠ [""]) :
    ([','].intercalate ((a :: rest).map String.toList)).all Text.isBlank = false := by
  rw [List.all_eq_false]
  cases rest with
  | nil =>
    have hchars : a.toList ≠ [] := by
      intro hnil
      apply hne
      rw [String.toList_eq_nil_iff.mp hnil]
    obtain ⟨c, r, hc⟩ := List.exists_cons_of_ne_nil hchars
    refine ⟨c, ?_, ?_⟩
    · simp [hc]
    · have hhead := ha.head c (by rw [hc]; rfl)
      simp [hhead]
  | cons b rest =>
    refine ⟨',', ?_, by decide⟩
    simp [List.intercalate_cons_cons]

/-- Arguments that are joined with commas are read back without the blanks at their ends, unless all is blank. -/
theorem argumentsOf_intercalate_eq {arguments : List String} (hcomma : ∀ a ∈ arguments, ',' ∉ a.toList) :
    argumentsOf ([','].intercalate (arguments.map String.toList)) =
      if ([','].intercalate (arguments.map String.toList)).all Text.isBlank then [] else arguments.map Text.trim := by
  unfold argumentsOf
  split
  · rfl
  · rename_i hblank
    have hne : arguments.map String.toList ≠ [] := by
      intro hnil
      rw [hnil] at hblank
      exact hblank rfl
    have hpieces : Text.splitAt ',' ([','].intercalate (arguments.map String.toList)) = arguments.map String.toList := by
      apply Text.splitAt_intercalate hne
      intro p hp
      obtain ⟨b, hb, rfl⟩ := List.mem_map.mp hp
      exact hcomma b hb
    rw [hpieces, List.map_map]
    rfl

/-- Arguments without blanks at their ends are read back as they are, unless the only one is empty. -/
theorem argumentsOf_intercalate {arguments : List String} (hcomma : ∀ a ∈ arguments, ',' ∉ a.toList)
    (htrimmed : ∀ a ∈ arguments, Text.Trimmed a.toList) (hne : arguments ≠ [""]) :
    argumentsOf ([','].intercalate (arguments.map String.toList)) = arguments := by
  have hback : arguments.map Text.trim = arguments := by
    conv_rhs => rw [← List.map_id arguments]
    apply List.map_congr_left
    intro b hb
    show String.ofList (Text.trimmed b.toList) = b
    rw [(htrimmed b hb).eq, String.ofList_toList]
  rw [argumentsOf_intercalate_eq hcomma]
  cases arguments with
  | nil => rfl
  | cons a rest => rw [all_isBlank_intercalate (htrimmed a List.mem_cons_self) hne, if_neg Bool.false_ne_true, hback]

theorem styleAt?_append {style : Option String} (h : ∀ s, style = some s → '\x7d' ∉ s.toList) (rest : List Char) :
    styleAt? (Call.styleChars style ++ '\x7d' :: rest) = some (style, rest) := by
  cases style with
  | none => rfl
  | some s =>
    have hcut := Text.cutAt?_append (h s rfl) rest
    simp [Call.styleChars, styleAt?, hcut]

/-- A call with anything but a closing parenthesis in its parentheses. -/
def callChars (name : String) (raw : List Char) (style : Option String) : List Char :=
  '\x7b' :: (name.toList ++ '(' :: (raw ++ ')' :: (Call.styleChars style ++ ['\x7d'])))

/-- Such a call is recognised, whatever follows it. -/
theorem callAt?_callChars {name : String} {raw : List Char} {style : Option String}
    (hstart : (name.toList.head?.map isNameStart).getD false = true) (hchars : ∀ x ∈ name.toList, isNameChar x = true)
    (hraw : ')' ∉ raw) (hstyle : ∀ s, style = some s → '\x7d' ∉ s.toList) (rest : List Char) :
    callAt? (callChars name raw style ++ rest) = some (⟨name, argumentsOf raw, style⟩, rest) := by
  have hname : (name.toList ++ '(' :: (raw ++ ')' :: (Call.styleChars style ++ '\x7d' :: rest))).takeWhile isNameChar =
      name.toList := by
    rw [List.takeWhile_append_of_pos hchars]
    simp [isNameChar]
  have hrest : (name.toList ++ '(' :: (raw ++ ')' :: (Call.styleChars style ++ '\x7d' :: rest))).dropWhile isNameChar =
      '(' :: (raw ++ ')' :: (Call.styleChars style ++ '\x7d' :: rest)) := by
    rw [List.dropWhile_append_of_pos hchars]
    simp [isNameChar]
  have hwritten : callChars name raw style ++ rest =
      '\x7b' :: (name.toList ++ '(' :: (raw ++ ')' :: (Call.styleChars style ++ '\x7d' :: rest))) := by
    simp [callChars]
  simp only [hwritten, callAt?, hname, hrest, hstart, if_true, Text.cutAt?_append hraw, styleAt?_append hstyle,
    String.ofList_toList]

theorem parenthesis_not_mem {arguments : List String} (h : ∀ a ∈ arguments, ')' ∉ a.toList) :
    ')' ∉ [','].intercalate (arguments.map String.toList) := by
  intro hmem
  rcases Text.mem_intercalate hmem with hcomma | ⟨p, hp, hin⟩
  · cases hcomma
  · obtain ⟨a, ha, rfl⟩ := List.mem_map.mp hp
    exact h a ha hin

/-- A written call is recognised, whatever follows it. -/
theorem callAt?_written {c : Call} (h : c.Writable) (rest : List Char) : callAt? (c.written ++ rest) = some (c, rest) := by
  have hcall := callAt?_callChars h.name_start h.name_chars (parenthesis_not_mem h.no_parenthesis) h.style_closed rest
  rwa [argumentsOf_intercalate h.no_comma h.trimmed h.arguments_ne] at hcall

/-- The text of a call has that call in it and no other. -/
theorem calls_callText {name : String} {arguments : List String} (h : (Call.mk name arguments none).Writable) :
    calls (callText name arguments) = [⟨name, arguments, none⟩] := by
  have hcall := callAt?_written h []
  rw [List.append_nil, ← toList_callText] at hcall
  rw [calls, Text.scan_of_some @callAt?_progresses hcall, Text.scan_nil @callAt?_progresses]

end MapTheme.Special
