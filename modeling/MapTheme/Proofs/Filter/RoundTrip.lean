/-
  MapTheme.Proofs.Filter.RoundTrip — the text of a filter that was read reads back as the filter.

  A text is read as a key, an operator and a value (`Expression`). Every expression that reading gives can be
  read again from its three parts written together (`Expression.read?_chars`), with one exception: where the
  key of an `=` ends in a colon, the colon and the `=` are read as `:=`. A leaf is written by one expression
  of its own (`Leaf.expression`), which reading gives as well (`legible_expression`); so the exception is the
  only one for filters too (`Filter.read_toText_iff`).
-/

import Mathlib.Data.List.TakeDrop
import MapTheme.Filter.Reading
import MapTheme.Filter.Writing
import MapTheme.Proofs.Decimal.RoundTrip
import MapTheme.Proofs.Text.Blank

namespace MapTheme

/-! ## Operators -/

namespace Operator

/-- How the operator is written. -/
def symbol : Operator → List Char
  | equal => ['=']
  | unequal => ['!', '=']
  | accepts => ['~']
  | rejects => ['!', '~']
  | keyAccepts => ['~', '~']
  | keyRejects => ['!', '~', '~']
  | substitutes => [':', '=']
  | compares op => op.symbol.toList

theorem eq_symbol_append_of_read? {rest value : List Char} {op : Operator} (h : read? rest = some (op, value)) :
    rest = op.symbol ++ value ∧ op ≠ .substitutes := by
  unfold read? at h
  split at h <;> cases h <;> exact ⟨rfl, by simp⟩

theorem isBlank_of_last {op : Operator} {c : Char} (h : op.symbol.getLast? = some c) : Text.isBlank c = false := by
  cases op with
  | compares op =>
    cases op with
    | less => cases h; decide
    | atMost => cases h; decide
    | greater => cases h; decide
    | atLeast => cases h; decide
  | _ => cases h; decide

/-- A text with an operator at its start has an operator character there, so a key before it ends. -/
theorem startsOperator_of_read? {rest value : List Char} {op : Operator} (h : read? rest = some (op, value))
    {c : Char} (hc : rest.head? = some c) : startsOperator c = true := by
  obtain ⟨rfl, hop⟩ := eq_symbol_append_of_read? h
  cases op with
  | substitutes => exact absurd rfl hop
  | compares op =>
    cases op with
    | less => cases hc; rfl
    | atMost => cases hc; rfl
    | greater => cases hc; rfl
    | atLeast => cases hc; rfl
  | _ => cases hc; rfl

/-- A comparison is read as itself where no `=` follows it. -/
theorem read?_compares (op : Comparison) {value : List Char} (h : ∀ c ∈ value, c ≠ '=') :
    read? ((compares op).symbol ++ value) = some (compares op, value) := by
  have hhead : ∀ r, value ≠ '=' :: r := by
    rintro r rfl
    exact h '=' List.mem_cons_self rfl
  cases op with
  | less => simp [symbol, Comparison.symbol, read?]
  | atMost => rfl
  | greater => simp [symbol, Comparison.symbol, read?]
  | atLeast => rfl

end Operator

/-! ## Expressions -/

namespace Expression

/-- The three parts written together. -/
def chars (e : Expression) : List Char := e.key.toList ++ (e.op.symbol ++ e.value.toList)

/-- The expression of a key, still with its colon, an operator and a value. -/
def ofParts (key : List Char) (op : Operator) (value : List Char) : Except ReadingCause Expression :=
  let k := Text.trimmed (splitColon key op).1
  if k.isEmpty then .error .missingKey
  else if k.contains '&' || ((splitColon key op).2 == .equal && value.contains '&') then .error .ampersand
  else .ok ⟨String.ofList k, (splitColon key op).2, String.ofList value⟩

/-- Is the key free of operator characters? -/
def PlainKey (key : List Char) : Prop := ∀ c ∈ key, Operator.startsOperator c = false

theorem span_key {key rest value : List Char} {op : Operator} (hkey : PlainKey key)
    (hop : Operator.read? rest = some (op, value)) :
    (key ++ rest).span (!Operator.startsOperator ·) = (key, rest) := by
  have hinside : ∀ c ∈ key, (!Operator.startsOperator c) = true := by
    intro c hc
    rw [hkey c hc]
    rfl
  have hstop : rest.takeWhile (!Operator.startsOperator ·) = [] ∧
      rest.dropWhile (!Operator.startsOperator ·) = rest := by
    cases rest with
    | nil => exact ⟨rfl, rfl⟩
    | cons c r =>
      have hc : Operator.startsOperator c = true := Operator.startsOperator_of_read? hop rfl
      simp [hc]
  rw [List.span_eq_takeWhile_dropWhile, List.takeWhile_append_of_pos hinside, List.dropWhile_append_of_pos hinside,
    hstop.1, hstop.2, List.append_nil]

theorem read?_append {key rest value : List Char} {op : Operator} (hkey : PlainKey key) (hne : key ≠ [])
    (hop : Operator.read? rest = some (op, value)) (htrimmed : Text.Trimmed (key ++ rest)) :
    read? (key ++ rest) = ofParts key op value := by
  have hempty : key.isEmpty = false := by simpa using hne
  simp only [read?, htrimmed.eq, span_key hkey hop, hempty, hop, Bool.false_eq_true, if_false]
  rfl

theorem exists_of_read? {input : List Char} {e : Expression} (h : read? input = .ok e) :
    ∃ key rest op value, Text.trimmed input = key ++ rest ∧ PlainKey key ∧
      Operator.read? rest = some (op, value) ∧ ofParts key op value = .ok e := by
  refine ⟨(Text.trimmed input).takeWhile (!Operator.startsOperator ·),
    (Text.trimmed input).dropWhile (!Operator.startsOperator ·), ?_⟩
  simp only [read?, List.span_eq_takeWhile_dropWhile] at h
  split at h
  · cases h
  · split at h
    · cases h
    · rename_i op value hop
      refine ⟨op, value, List.takeWhile_append_dropWhile.symm, ?_, hop, h⟩
      intro c hc
      simpa using List.mem_takeWhile_imp hc

theorem splitColon_cases (key : List Char) (op : Operator) :
    (splitColon key op = (key, op) ∧ (op = .equal → key.getLast? ≠ some ':')) ∨
      ∃ r, op = .equal ∧ key = r ++ [':'] ∧ splitColon key op = (r, .substitutes) := by
  unfold splitColon
  split
  · rename_i r hr
    refine .inr ⟨r.reverse, rfl, ?_, rfl⟩
    rw [← List.reverse_reverse key, hr, List.reverse_cons]
  · rename_i hcolon
    refine .inl ⟨rfl, ?_⟩
    rintro rfl hlast
    rw [← List.head?_reverse, List.head?_eq_some_iff] at hlast
    obtain ⟨r, hr⟩ := hlast
    exact hcolon r rfl hr

theorem splitColon_colon (r : List Char) : splitColon (r ++ [':']) .equal = (r, .substitutes) := by
  simp [splitColon]

theorem splitColon_of_last {key : List Char} {op : Operator} (h : op = .equal → key.getLast? ≠ some ':') :
    splitColon key op = (key, op) := by
  rcases splitColon_cases key op with ⟨hsplit, -⟩ | ⟨r, hop, rfl, -⟩
  · exact hsplit
  · exact absurd (List.getLast?_concat) (h hop)

theorem mem_of_mem_splitColon {key : List Char} {op : Operator} {c : Char} (h : c ∈ (splitColon key op).1) :
    c ∈ key := by
  rcases splitColon_cases key op with ⟨hsplit, -⟩ | ⟨r, -, rfl, hsplit⟩
  · rwa [hsplit] at h
  · rw [hsplit] at h
    exact List.mem_append_left _ h

theorem splitColon_op {key : List Char} {op : Operator} (h : (splitColon key op).2 ≠ .substitutes) :
    (splitColon key op).2 = op := by
  rcases splitColon_cases key op with ⟨hsplit, -⟩ | ⟨r, -, -, hsplit⟩
  · rw [hsplit]
  · rw [hsplit] at h
    exact absurd rfl h

/-- There is a key, and a single test. -/
theorem of_ofParts {key value : List Char} {op : Operator} {e : Expression} (h : ofParts key op value = .ok e) :
    e = ⟨String.ofList (Text.trimmed (splitColon key op).1), (splitColon key op).2, String.ofList value⟩ ∧
      Text.trimmed (splitColon key op).1 ≠ [] ∧ '&' ∉ Text.trimmed (splitColon key op).1 ∧
      ((splitColon key op).2 = .equal → '&' ∉ value) := by
  unfold ofParts at h
  dsimp only at h
  split at h
  · cases h
  · rename_i hempty
    split at h
    · cases h
    · rename_i hsingle
      simp only [Bool.or_eq_true, Bool.and_eq_true, not_or, not_and, List.contains_iff_mem, beq_iff_eq] at hsingle
      exact ⟨(Except.ok.inj h).symm, by simpa using hempty, hsingle.1, hsingle.2⟩

/-- What holds of every expression that reading gives. -/
structure Legible (e : Expression) : Prop where
  key_ne : e.key.toList ≠ []
  key_trimmed : Text.Trimmed e.key.toList
  key_plain : PlainKey e.key.toList
  key_single : '&' ∉ e.key.toList
  /-- The operator is the longest one, also with the first characters of the value behind it. -/
  longest : e.op ≠ .substitutes → Operator.read? (e.op.symbol ++ e.value.toList) = some (e.op, e.value.toList)
  value_trimmed : ∀ c, e.value.toList.getLast? = some c → Text.isBlank c = false
  value_single : e.op = .equal → '&' ∉ e.value.toList

theorem legible_of_read? {input : List Char} {e : Expression} (h : read? input = .ok e) : e.Legible := by
  obtain ⟨key, rest, op, value, hinput, hkey, hop, hparts⟩ := exists_of_read? h
  obtain ⟨hrest, hne⟩ := Operator.eq_symbol_append_of_read? hop
  obtain ⟨rfl, hsome, hsingle, hvalue⟩ := of_ofParts hparts
  have hlast : ∀ c, value.getLast? = some c → Text.isBlank c = false := by
    intro c hc
    apply (Text.trimmed_spec input).last
    rw [hinput, hrest, List.getLast?_append, List.getLast?_append, hc]
    rfl
  refine ⟨?_, ?_, ?_, ?_, ?_, ?_, ?_⟩
  · simpa using hsome
  · simpa using Text.trimmed_spec _
  · intro c hc
    rw [String.toList_ofList] at hc
    exact hkey c (mem_of_mem_splitColon (Text.mem_of_mem_trimmed hc))
  · simpa using hsingle
  · intro hsub
    dsimp only at hsub ⊢
    rw [splitColon_op hsub, String.toList_ofList, ← hrest]
    exact hop
  · simpa using hlast
  · simpa using hvalue

namespace Legible

variable {e : Expression}

theorem trimmed_chars (h : e.Legible) : Text.Trimmed e.chars := by
  refine ⟨?_, ?_⟩
  · intro c hc
    rw [chars, List.head?_append] at hc
    rcases Option.or_eq_some_iff.mp hc with hc | ⟨hnone, -⟩
    · exact h.key_trimmed.head c hc
    · exact absurd (List.head?_eq_none_iff.mp hnone) h.key_ne
  · intro c hc
    rw [chars, List.getLast?_append, List.getLast?_append] at hc
    rcases Option.or_eq_some_iff.mp hc with hc | ⟨-, hc⟩
    · rcases Option.or_eq_some_iff.mp hc with hc | ⟨-, hc⟩
      · exact h.value_trimmed c hc
      · exact Operator.isBlank_of_last hc
    · exact h.key_trimmed.last c hc

theorem read?_chars_eq (h : e.Legible) (hsub : e.op ≠ .substitutes) :
    read? e.chars = ofParts e.key.toList e.op e.value.toList :=
  read?_append h.key_plain h.key_ne (h.longest hsub) h.trimmed_chars

theorem ofParts_eq (h : e.Legible) {key : List Char} {op : Operator}
    (hsplit : splitColon key op = (e.key.toList, e.op)) : ofParts key op e.value.toList = .ok e := by
  have hempty : e.key.toList.isEmpty = false := by simpa using h.key_ne
  have hsingle : (e.key.toList.contains '&' || (e.op == .equal && e.value.toList.contains '&')) = false := by
    have hkey := h.key_single
    have hvalue := h.value_single
    simp only [Bool.or_eq_false_iff, Bool.and_eq_false_iff, List.contains_eq_mem, decide_eq_false_iff_not,
      beq_eq_false_iff_ne]
    refine ⟨hkey, ?_⟩
    by_cases hop : e.op = .equal
    · exact .inr (hvalue hop)
    · exact .inl hop
  simp only [ofParts, hsplit, h.key_trimmed.eq, hempty, hsingle, Bool.false_eq_true, if_false, String.ofList_toList]

/-- The parts written together are read as the parts. -/
theorem read?_chars (h : e.Legible) (hcolon : e.op = .equal → e.key.toList.getLast? ≠ some ':') :
    read? e.chars = .ok e := by
  by_cases hsub : e.op = .substitutes
  · -- The colon of `:=` is read with the key.
    have hchars : e.chars = (e.key.toList ++ [':']) ++ '=' :: e.value.toList := by
      rw [chars, hsub, List.append_assoc]
      rfl
    have hplain : PlainKey (e.key.toList ++ [':']) := by
      intro c hc
      rcases List.mem_append.mp hc with hc | hc
      · exact h.key_plain c hc
      · rw [List.mem_singleton.mp hc]
        rfl
    have htrimmed := h.trimmed_chars
    rw [hchars] at htrimmed ⊢
    rw [read?_append hplain (by simp) rfl htrimmed]
    apply h.ofParts_eq
    rw [splitColon_colon, hsub]
  · rw [h.read?_chars_eq hsub]
    exact h.ofParts_eq (splitColon_of_last hcolon)

/-- Where the key of an `=` ends in a colon, what is read is a `:=`. -/
theorem op_of_colon (h : e.Legible) (hop : e.op = .equal) {r : List Char} (hkey : e.key.toList = r ++ [':'])
    {e' : Expression} (hread : read? e.chars = .ok e') : e'.op = .substitutes := by
  rw [h.read?_chars_eq (by simp [hop]), hkey, hop] at hread
  unfold ofParts at hread
  rw [splitColon_colon] at hread
  dsimp only at hread
  split at hread
  · cases hread
  · split at hread
    · cases hread
    · cases hread
      rfl

end Legible

end Expression

/-! ## Leaves -/

namespace Leaf

/-- The expression that a leaf is written as. -/
def expression : Leaf → Expression
  | tag key value => ⟨key, .equal, value⟩
  | substituting key template => ⟨key, .substitutes, template⟩
  | regex (.exact key) (.exact value) invert =>
    if invert && value.isEmpty then ⟨key, .accepts, "*"⟩
    else ⟨key, if invert then .unequal else .equal, value⟩
  | regex (.exact key) (.pattern value) invert => ⟨key, if invert then .rejects else .accepts, value.source⟩
  | regex (.pattern key) value invert => ⟨key.source, if invert then .keyRejects else .keyAccepts, value.source⟩
  | comparing key op bound => ⟨key, .compares op, bound.toText⟩

theorem expression_present (key : String) : (present key).expression = ⟨key, .accepts, "*"⟩ := by
  simp [present, expression]

theorem toList_toText (l : Leaf) : l.toText.toList = l.expression.chars := by
  have htext : ∀ s : String, toString s = s := fun _ => rfl
  cases l with
  | tag key value => simp [toText, expression, Expression.chars, Operator.symbol, htext]
  | substituting key template => simp [toText, expression, Expression.chars, Operator.symbol, htext]
  | comparing key op bound => simp [toText, expression, Expression.chars, Operator.symbol, htext]
  | regex key value invert =>
    cases key with
    | pattern key => cases invert <;> simp [toText, expression, Expression.chars, Operator.symbol, htext]
    | exact key =>
      cases value with
      | pattern value => cases invert <;> simp [toText, expression, Expression.chars, Operator.symbol, htext]
      | exact value =>
        by_cases hempty : value.isEmpty = true
        · cases invert <;> simp [toText, expression, Expression.chars, Operator.symbol, hempty, htext]
        · cases invert <;> simp [toText, expression, Expression.chars, Operator.symbol, hempty, htext]

theorem source_of_readPattern {source : String} {m : Matcher} (h : readPattern source = .ok m) :
    ∃ p : Pattern, m = .pattern p ∧ p.source = source := by
  unfold readPattern Pattern.ofSource at h
  split at h
  · rename_i p hp
    cases h
    split at hp
    · cases hp
      exact ⟨_, rfl, rfl⟩
    · cases hp
  · cases h

theorem source_of_map_readPattern {source : String} {f : Matcher → Leaf} {l : Leaf}
    (h : (readPattern source).map f = .ok l) : ∃ p : Pattern, l = f (.pattern p) ∧ p.source = source := by
  cases hm : readPattern source with
  | error e =>
    rw [hm] at h
    cases h
  | ok m =>
    rw [hm] at h
    cases h
    obtain ⟨p, rfl, hp⟩ := source_of_readPattern hm
    exact ⟨p, rfl, hp⟩

theorem sources_of_readPattern {key value : String} {invert : Bool} {l : Leaf}
    (h : ((readPattern key).bind fun k => (readPattern value).bind fun v => .ok (regex k v invert)) = .ok l) :
    ∃ p q : Pattern, l = regex (.pattern p) (.pattern q) invert ∧ p.source = key ∧ q.source = value := by
  cases hk : readPattern key with
  | error e =>
    rw [hk] at h
    cases h
  | ok k =>
    obtain ⟨p, rfl, hp⟩ := source_of_readPattern hk
    cases hv : readPattern value with
    | error e =>
      rw [hk, hv] at h
      cases h
    | ok v =>
      obtain ⟨q, rfl, hq⟩ := source_of_readPattern hv
      rw [hk, hv] at h
      cases h
      exact ⟨p, q, rfl, hp, hq⟩

/-- The whole text serves messages only. -/
theorem ofExpression_input {input : String} {e : Expression} {l : Leaf} (h : ofExpression input e = .ok l)
    (input' : String) : ofExpression input' e = .ok l := by
  obtain ⟨key, op, value⟩ := e
  cases op with
  | compares op =>
    simp only [ofExpression] at h ⊢
    split at h
    · exact h
    · cases h
  | _ => exact h

/-- A leaf is written as the expression that it was read from, up to the two spellings of presence and
the spelling of a number. -/
theorem expression_cases {input : String} {e : Expression} {l : Leaf} (h : ofExpression input e = .ok l) :
    l.expression = e ∨ l = present e.key ∨
      ∃ op x, e.op = .compares op ∧ l = comparing e.key op x ∧ Binary64.read? (Text.trim e.value) = some x := by
  obtain ⟨key, op, value⟩ := e
  cases op with
  | equal =>
    simp only [ofExpression] at h
    cases h
    split
    · exact .inr (.inl rfl)
    · exact .inl rfl
  | unequal =>
    cases h
    by_cases hempty : value.isEmpty = true
    · refine .inr (.inl ?_)
      rw [String.isEmpty_iff.mp hempty]
      rfl
    · refine .inl ?_
      simp [expression, hempty]
  | accepts =>
    simp only [ofExpression] at h
    split at h
    · cases h
      exact .inr (.inl rfl)
    · obtain ⟨p, rfl, rfl⟩ := source_of_map_readPattern h
      exact .inl rfl
  | rejects =>
    obtain ⟨p, rfl, rfl⟩ := source_of_map_readPattern h
    exact .inl rfl
  | keyAccepts =>
    obtain ⟨p, q, rfl, rfl, rfl⟩ := sources_of_readPattern h
    exact .inl rfl
  | keyRejects =>
    obtain ⟨p, q, rfl, rfl, rfl⟩ := sources_of_readPattern h
    exact .inl rfl
  | substitutes =>
    cases h
    exact .inl rfl
  | compares op =>
    simp only [ofExpression] at h
    split at h
    · rename_i x hx
      cases h
      exact .inr (.inr ⟨op, x, rfl, rfl, hx⟩)
    · cases h

/-- The expression of a leaf that was read is legible again, and is read as the leaf. -/
theorem legible_expression {input : String} {e : Expression} {l : Leaf} (he : e.Legible)
    (h : ofExpression input e = .ok l) (hnan : ∀ key op, l ≠ comparing key op .nan) :
    l.expression.Legible ∧ ∀ input', ofExpression input' l.expression = .ok l := by
  rcases expression_cases h with hsame | rfl | ⟨op, x, hop, rfl, hx⟩
  · rw [hsame]
    exact ⟨he, ofExpression_input h⟩
  · rw [expression_present]
    refine ⟨⟨he.key_ne, he.key_trimmed, he.key_plain, he.key_single, ?_, ?_, ?_⟩, fun _ => rfl⟩
    · intro _
      simp [Operator.symbol, Operator.read?]
    · intro c hc
      have hc : '*' = c := by simpa using hc
      rw [← hc]
      rfl
    · intro h
      cases h
  · have hrounded := Binary64.rounded_of_read? hx
    have hplain := Binary64.toText_plain hrounded
    have hread : Binary64.read? (Text.trim x.toText) = some x := by
      rw [Text.trim_of_plain fun c hc => (hplain c hc).1]
      apply Binary64.read?_toText hrounded
      rintro rfl
      exact hnan _ _ rfl
    refine ⟨⟨he.key_ne, he.key_trimmed, he.key_plain, he.key_single, ?_, ?_, ?_⟩, ?_⟩
    · intro _
      exact Operator.read?_compares op fun c hc => (hplain c hc).2
    · intro c hc
      exact (hplain c (List.mem_of_getLast? hc)).1
    · intro h
      cases h
    · intro input'
      simp only [ofExpression, expression, hread]

/-- Only a tag is written with `=`. -/
theorem eq_tag_of_op {input : String} {e : Expression} {l : Leaf} (h : ofExpression input e = .ok l)
    (hop : l.expression.op = .equal) : l = tag l.expression.key l.expression.value := by
  rcases expression_cases h with hsame | rfl | ⟨op, x, -, rfl, -⟩
  · rw [hsame] at hop ⊢
    simp only [ofExpression, hop] at h
    cases h
    split
    · rename_i hstar
      rw [if_pos hstar, expression_present] at hsame
      rw [← hsame] at hop
      cases hop
    · rfl
  · rw [expression_present] at hop
    cases hop
  · cases hop

end Leaf

namespace Filter

theorem exists_of_read {s : String} {f : Filter} (h : read s = .ok f) :
    ∃ l e, f = leaf l ∧ Expression.read? s.toList = .ok e ∧ Leaf.ofExpression s e = .ok l := by
  unfold read Leaf.read at h
  cases he : Expression.read? s.toList with
  | error cause =>
    rw [he] at h
    cases h
  | ok e =>
    rw [he] at h
    dsimp only at h
    cases hl : Leaf.ofExpression s e with
    | error fault =>
      rw [hl] at h
      cases h
    | ok l =>
      rw [hl] at h
      cases h
      exact ⟨l, e, rfl, rfl, hl⟩

theorem read_of_expression {s : String} {e : Expression} {l : Leaf} (he : Expression.read? s.toList = .ok e)
    (hl : Leaf.ofExpression s e = .ok l) : read s = .ok (leaf l) := by
  rw [read, Leaf.read, he]
  dsimp only
  rw [hl]
  rfl

/-- The text of a filter that was read, with no comparison with NaN, reads back as the filter, unless it is
a tag whose key ends in a colon: its colon and the `=` are read as the operator `:=`. -/
theorem read_toText_iff {s : String} {f : Filter} (h : read s = .ok f)
    (hnan : ∀ key op, f ≠ leaf (.comparing key op .nan)) :
    read f.toText = .ok f ↔ ∀ key value, f ≠ tag (key ++ ":") value := by
  obtain ⟨l, e, rfl, hread, hl⟩ := exists_of_read h
  have hnumber : ∀ key op, l ≠ .comparing key op .nan := fun key op hop => hnan key op (congrArg leaf hop)
  obtain ⟨hlegible, hagain⟩ := Leaf.legible_expression (Expression.legible_of_read? hread) hl hnumber
  have htext : (leaf l).toText.toList = l.expression.chars := Leaf.toList_toText l
  constructor
  · rintro hback key value hcolon
    cases hcolon
    obtain ⟨l', e', hl', hread', hof⟩ := exists_of_read hback
    cases hl'
    rw [htext] at hread'
    have hop : e'.op = .substitutes := hlegible.op_of_colon rfl String.toList_append hread'
    rw [Leaf.ofExpression, hop] at hof
    cases hof
  · intro hcolon
    apply read_of_expression (e := l.expression)
    · rw [htext]
      apply hlegible.read?_chars
      intro hop hlast
      obtain ⟨r, hr⟩ := List.getLast?_eq_some_iff.mp hlast
      have hkey : l.expression.key = String.ofList r ++ ":" := by
        apply String.toList_injective
        rw [hr, String.toList_append, String.toList_ofList]
        rfl
      have htag := Leaf.eq_tag_of_op hl hop
      rw [hkey] at htag
      exact hcolon _ _ (congrArg leaf htag)
    · exact hagain _

theorem read_toText_iff_bench :
    read " amenity = bench" = .ok (tag "amenity" " bench") ∧
      (read (tag "amenity" " bench").toText = .ok (tag "amenity" " bench") ↔
        ∀ key value, tag "amenity" " bench" ≠ tag (key ++ ":") value) :=
  have hread : read " amenity = bench" = .ok (tag "amenity" " bench") := by rfl
  ⟨hread, read_toText_iff hread fun _ _ h => by cases h⟩

/-- The colon before a blank stays in the key when `a: =b` is read, and is read as part of `:=` afterwards. -/
theorem read_toText_colon_differs :
    ¬ ∀ s f, read s = .ok f → (∀ key op, f ≠ leaf (.comparing key op .nan)) → read f.toText = .ok f := by
  intro hclaim
  have hread : read "a: =b" = .ok (tag "a:" "b") := by rfl
  have hagain : read (tag "a:" "b").toText = .ok (leaf (.substituting "a" "b")) := by rfl
  have hback := hclaim "a: =b" (tag "a:" "b") hread fun _ _ h => by cases h
  rw [hagain] at hback
  cases hback

end Filter

end MapTheme
