/-
  MapTheme.Proofs.Special.Finding — which calls are found in a text that is put together.

  A call runs to its closing brace, so a text in front may take in the beginning of what follows: it does if it
  ends inside a call that it opens (`endsInCall`). If not, the calls of a text and of one behind it that begins
  with a brace are found one after the other (`scan_append`), and a call written behind any such text is found
  (`mem_calls_append`).
-/

import MapTheme.Proofs.Special.Template

namespace MapTheme.Special

/-! ## Where calls begin -/

/-- The name of a call that a text may begin with, and what follows the opening parenthesis. -/
def callStart? : List Char → Option (List Char × List Char)
  | '\x7b' :: r =>
    match r.dropWhile isNameChar with
    | '(' :: inside =>
      if ((r.takeWhile isNameChar).head?.map isNameStart).getD false then some (r.takeWhile isNameChar, inside) else none
    | _ => none
  | _ => none

/-- Does the text, which follows a closing parenthesis, end inside a style? -/
def opensStyle : List Char → Bool
  | ':' :: style => (Text.cutAt? '\x7d' style).isNone
  | _ => false

/-- Does the text end inside the call that it begins with? -/
def opensCall (s : List Char) : Bool :=
  match callStart? s with
  | none => false
  | some (_, inside) =>
    match Text.cutAt? ')' inside with
    | none => true
    | some (_, after) => opensStyle after

/-- Does the text end inside a call? The calls that end in it are passed over. -/
def endsInCall (s : List Char) : Bool :=
  match s with
  | [] => false
  | c :: r =>
    match _h : callAt? (c :: r) with
    | some (_, rest) => endsInCall rest
    | none => opensCall (c :: r) || endsInCall r
termination_by s.length
decreasing_by
  · exact length_of_callAt? _h
  · simp

theorem endsInCall_of_some {c : Char} {r rest : List Char} {call : Call} (h : callAt? (c :: r) = some (call, rest)) :
    endsInCall (c :: r) = endsInCall rest := by
  rw [endsInCall.eq_def]
  dsimp only
  split
  · rename_i hs
    rw [h] at hs
    cases hs
    rfl
  · rename_i hs
    rw [h] at hs
    cases hs

theorem endsInCall_of_none {c : Char} {r : List Char} (h : callAt? (c :: r) = none) :
    endsInCall (c :: r) = (opensCall (c :: r) || endsInCall r) := by
  rw [endsInCall.eq_def]
  dsimp only
  split
  · rename_i hs
    rw [h] at hs
    cases hs
  · rfl

theorem callStart?_of_ne {c : Char} (hc : c ≠ '\x7b') (r : List Char) : callStart? (c :: r) = none := by
  unfold callStart?
  split
  · rename_i he
    exact absurd (List.cons.inj he).1 hc
  · rfl

theorem callAt?_of_ne {c : Char} (hc : c ≠ '\x7b') (r : List Char) : callAt? (c :: r) = none := by
  unfold callAt?
  split
  · rename_i he
    exact absurd (List.cons.inj he).1 hc
  · rfl

/-- A call is a beginning, the text up to a closing parenthesis, and an end. -/
theorem callAt?_eq (s : List Char) :
    callAt? s = (callStart? s).bind fun start => (Text.cutAt? ')' start.2).bind fun cut =>
      (styleAt? cut.2).map fun ending => (⟨String.ofList start.1, argumentsOf cut.1, ending.1⟩, ending.2) := by
  cases s with
  | nil => rfl
  | cons c r =>
    by_cases hc : c = '\x7b'
    · rw [hc]
      cases hrest : r.dropWhile isNameChar with
      | nil => simp only [callAt?, callStart?, hrest, Option.bind_none]
      | cons d inside =>
        by_cases hd : d = '('
        · simp only [hd, callAt?, callStart?, hrest]
          by_cases hstart : ((r.takeWhile isNameChar).head?.map isNameStart).getD false = true
          · simp only [if_pos hstart, Option.bind_some]
            cases Text.cutAt? ')' inside with
            | none => rfl
            | some cut =>
              obtain ⟨raw, after⟩ := cut
              simp only [Option.bind_some]
              cases styleAt? after <;> rfl
          · simp only [if_neg hstart, Option.bind_none]
        · simp [callAt?, callStart?, hrest, hd]
    · rw [callAt?_of_ne hc, callStart?_of_ne hc, Option.bind_none]

/-! ## A text in front of a brace -/

variable {s : List Char}

theorem takeWhile_append_brace (r t : List Char) :
    (r ++ '\x7b' :: t).takeWhile isNameChar = r.takeWhile isNameChar := by
  induction r with
  | nil => rfl
  | cons c r ih =>
    rw [List.cons_append, List.takeWhile_cons, List.takeWhile_cons, ih]

theorem dropWhile_append_brace (r t : List Char) :
    (r ++ '\x7b' :: t).dropWhile isNameChar = r.dropWhile isNameChar ++ '\x7b' :: t := by
  induction r with
  | nil => rfl
  | cons c r ih =>
    rw [List.cons_append, List.dropWhile_cons, List.dropWhile_cons, ih]
    split <;> rfl

/-- A brace belongs to no name, so one behind the text does not change where a call begins. -/
theorem callStart?_append (hs : s ≠ []) (t : List Char) :
    callStart? (s ++ '\x7b' :: t) = (callStart? s).map fun start => (start.1, start.2 ++ '\x7b' :: t) := by
  cases s with
  | nil => exact absurd rfl hs
  | cons c r =>
    by_cases hc : c = '\x7b'
    · have hname : (r ++ '\x7b' :: t).takeWhile isNameChar = r.takeWhile isNameChar := takeWhile_append_brace r t
      have hrest : (r ++ '\x7b' :: t).dropWhile isNameChar = r.dropWhile isNameChar ++ '\x7b' :: t :=
        dropWhile_append_brace r t
      rw [hc, List.cons_append]
      simp only [callStart?, hname, hrest]
      cases r.dropWhile isNameChar with
      | nil => rfl
      | cons d inside =>
        by_cases hd : d = '('
        · rw [hd, List.cons_append]
          simp only
          split <;> rfl
        · simp [hd]
    · rw [List.cons_append, callStart?_of_ne hc, callStart?_of_ne hc, Option.map_none]

theorem styleAt?_append_brace (hopen : opensStyle s = false) (t : List Char) :
    styleAt? (s ++ '\x7b' :: t) = (styleAt? s).map fun ending => (ending.1, ending.2 ++ '\x7b' :: t) := by
  cases s with
  | nil => rfl
  | cons c r =>
    by_cases hclose : c = '\x7d'
    · rw [hclose]
      rfl
    · by_cases hcolon : c = ':'
      · rw [hcolon] at hopen ⊢
        cases hcut : Text.cutAt? '\x7d' r with
        | none =>
          rw [opensStyle, hcut] at hopen
          cases hopen
        | some cut =>
          obtain ⟨style, rest⟩ := cut
          simp only [List.cons_append, styleAt?, hcut, Text.cutAt?_append_of_some hcut, Option.map_some]
      · simp [styleAt?, hclose, hcolon]

theorem opensStyle_of_styleAt? {ending : Option String × List Char} (h : styleAt? s = some ending) :
    opensStyle s = false := by
  unfold opensStyle
  split
  · rename_i style
    obtain ⟨cut, hcut, -⟩ := Option.map_eq_some_iff.mp h
    rw [hcut]
    rfl
  · rfl

/-- A call that is found does not run on behind the text. -/
theorem opensCall_of_callAt? {found : Call × List Char} (h : callAt? s = some found) : opensCall s = false := by
  rw [callAt?_eq] at h
  obtain ⟨⟨name, inside⟩, hstart, h⟩ := Option.bind_eq_some_iff.mp h
  obtain ⟨⟨raw, after⟩, hcut, h⟩ := Option.bind_eq_some_iff.mp h
  obtain ⟨ending, hending, -⟩ := Option.map_eq_some_iff.mp h
  simp only [opensCall, hstart, hcut]
  exact opensStyle_of_styleAt? hending

/-- Unless the text ends inside the call that it begins with, that call is the same with a brace behind the text. -/
theorem callAt?_append_brace (hs : s ≠ []) (hopen : opensCall s = false) (t : List Char) :
    callAt? (s ++ '\x7b' :: t) = (callAt? s).map fun found => (found.1, found.2 ++ '\x7b' :: t) := by
  rw [callAt?_eq, callAt?_eq, callStart?_append hs]
  unfold opensCall at hopen
  cases hstart : callStart? s with
  | none => rfl
  | some start =>
    obtain ⟨name, inside⟩ := start
    rw [hstart] at hopen
    dsimp only at hopen
    cases hcut : Text.cutAt? ')' inside with
    | none =>
      rw [hcut] at hopen
      cases hopen
    | some cut =>
      obtain ⟨raw, after⟩ := cut
      rw [hcut] at hopen
      simp only [Option.map_some, Option.bind_some, Text.cutAt?_append_of_some hcut, hcut,
        styleAt?_append_brace hopen, Option.map_map]
      rfl

/-- Behind a text that does not end inside a call, the calls are found as if the text were not there. -/
theorem scan_append (h : endsInCall s = false) (t : List Char) :
    Text.scan callAt? callAt?_progresses (s ++ '\x7b' :: t) =
      Text.scan callAt? callAt?_progresses s ++ Text.scan callAt? callAt?_progresses ('\x7b' :: t) := by
  induction s using endsInCall.induct with
  | case1 => rw [Text.scan_nil @callAt?_progresses, List.nil_append, List.nil_append]
  | case2 c r call rest hfound ih =>
    rw [endsInCall_of_some hfound] at h
    have hbehind := callAt?_append_brace (List.cons_ne_nil c r) (opensCall_of_callAt? hfound) t
    rw [hfound] at hbehind
    rw [Text.scan_of_some @callAt?_progresses hbehind, Text.scan_of_some @callAt?_progresses hfound, ih h,
      List.cons_append]
  | case3 c r hnone ih =>
    rw [endsInCall_of_none hnone, Bool.or_eq_false_iff] at h
    obtain ⟨hopen, hrest⟩ := h
    have hbehind := callAt?_append_brace (List.cons_ne_nil c r) hopen t
    rw [hnone] at hbehind
    rw [List.cons_append] at hbehind ⊢
    rw [Text.scan_of_none @callAt?_progresses hbehind, Text.scan_of_none @callAt?_progresses hnone, ih hrest]

/-- A call that is written behind such a text is found there. -/
theorem mem_calls_append {before after : String} {name : String} {arguments : List String}
    (hstart : (name.toList.head?.map isNameStart).getD false = true) (hchars : ∀ x ∈ name.toList, isNameChar x = true)
    (hparenthesis : ∀ a ∈ arguments, ')' ∉ a.toList) (hbefore : endsInCall before.toList = false) :
    ⟨name, argumentsOf ([','].intercalate (arguments.map String.toList)), none⟩ ∈
      calls (before ++ callText name arguments ++ after) := by
  have hplain : ∀ s, (none : Option String) = some s → '\x7d' ∉ s.toList := by
    intro s hs
    cases hs
  have hcall := callAt?_callChars hstart hchars (parenthesis_not_mem hparenthesis) hplain after.toList
  have htext : (before ++ callText name arguments ++ after).toList =
      before.toList ++ (callChars name ([','].intercalate (arguments.map String.toList)) none ++ after.toList) := by
    rw [String.toList_append, String.toList_append, toList_callText, List.append_assoc]
    rfl
  rw [callChars, List.cons_append] at hcall htext
  rw [calls, htext, scan_append hbefore, Text.scan_of_some @callAt?_progresses hcall]
  exact List.mem_append_right _ List.mem_cons_self

end MapTheme.Special
