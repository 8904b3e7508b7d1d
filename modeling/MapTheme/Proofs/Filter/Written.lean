/-
  MapTheme.Proofs.Filter.Written — the document of a filter reads back as the filter.

  A leaf may be made of any texts, and not every leaf has a text of its own: a tag with the value `*` would be
  read as presence, a key with an operator in it would end there. `Writable` says what keys and values have to be
  like; each operator needs some of it. The expression of such a leaf is legible and stands for the leaf
  (`Writable.legible`, `Writable.read`), and a filter of such leaves, however nested, is read back from its
  document (`ofDocument_toDocument`).
-/

import MapTheme.Proofs.Filter.RoundTrip

namespace MapTheme

/-! ## Leaves with a text of their own -/

/-- A key, or the source of a key pattern, that ends where its operator begins. -/
structure WritableKey (key : String) : Prop where
  ne_empty : key ≠ ""
  plain : ∀ c ∈ key.toList, c ≠ '=' ∧ c ≠ '!' ∧ c ≠ '~' ∧ c ≠ '<' ∧ c ≠ '>' ∧ c ≠ '&'
  trimmed : Text.Trimmed key.toList

-- A bounded quantifier over characters could be decided by trying every character, so the list is named here.
theorem writableKey_iff {key : String} : WritableKey key ↔ key ≠ "" ∧
    key.toList.all (fun c => c ≠ '=' ∧ c ≠ '!' ∧ c ≠ '~' ∧ c ≠ '<' ∧ c ≠ '>' ∧ c ≠ '&') = true ∧
      Text.Trimmed key.toList := by
  simp only [List.all_eq_true, decide_eq_true_eq]
  exact ⟨fun h => ⟨h.ne_empty, h.plain, h.trimmed⟩, fun ⟨hne, hplain, htrimmed⟩ => ⟨hne, hplain, htrimmed⟩⟩

instance (key : String) : Decidable (WritableKey key) := decidable_of_iff _ writableKey_iff.symm

/-- A value without a blank at its end. -/
def WritableValue (value : String) : Prop := ∀ c ∈ value.toList.getLast?, Text.isBlank c = false

theorem writableValue_iff {value : String} :
    WritableValue value ↔ value.toList.getLast?.all (fun c => !Text.isBlank c) = true := by
  simp only [WritableValue, Option.all_eq_true, Option.mem_def, Bool.not_eq_true']

instance (value : String) : Decidable (WritableValue value) := decidable_of_iff _ writableValue_iff.symm

namespace Leaf

/-- A leaf with a text of its own. -/
def Writable : Leaf → Prop
  | tag key value =>
    WritableKey key ∧ key.toList.getLast? ≠ some ':' ∧ WritableValue value ∧ '&' ∉ value.toList ∧ value ≠ "*"
  | substituting key template => WritableKey key ∧ WritableValue template
  | regex (.exact key) (.exact value) invert => WritableKey key ∧ WritableValue value ∧ invert = true
  | regex (.exact key) (.pattern value) _ =>
    WritableKey key ∧ WritableValue value.source ∧ value.source.toList.head? ≠ some '~'
  | regex (.pattern key) (.pattern value) _ => WritableKey key.source ∧ WritableValue value.source
  | regex (.pattern _) (.exact _) _ => False
  | comparing key _ bound => WritableKey key ∧ bound.Rounded ∧ bound ≠ .nan

/-- A pattern has a source that is read as the pattern. -/
theorem readPattern_source (p : Pattern) : readPattern p.source = .ok (.pattern p) := by
  have hsource : Pattern.ofSource p.source = .ok p := by
    unfold Pattern.ofSource
    split
    · rename_i n hn
      exact congrArg Except.ok (Pattern.ext_source rfl)
    · rename_i fault hfault
      rw [p.compiles] at hfault
      cases hfault
  rw [readPattern, hsource]

/-- There is nothing that the star could repeat. -/
theorem source_ne_star (p : Pattern) : p.source ≠ "*" := by
  intro hstar
  have hcompiled : Pattern.compile p.source = .ok p.compiled := p.compiles
  rw [hstar] at hcompiled
  have hfault : Pattern.compile "*" = .error .malformed := by decide +kernel
  rw [hfault] at hcompiled
  cases hcompiled

namespace Writable

variable {l : Leaf}

/-- The key and the value of the expression of a leaf. -/
theorem parts (h : l.Writable) : WritableKey l.expression.key ∧ WritableValue l.expression.value := by
  have hstar : WritableValue "*" := by
    intro c hc
    have hc : '*' = c := by simpa using hc
    rw [← hc]
    rfl
  cases l with
  | tag key value => exact ⟨h.1, h.2.2.1⟩
  | substituting key template => exact h
  | comparing key op bound =>
    refine ⟨h.1, ?_⟩
    intro c hc
    exact (Binary64.toText_plain h.2.1 c (List.mem_of_getLast? hc)).1
  | regex key value invert =>
    cases key with
    | pattern key =>
      cases value with
      | pattern value => exact h
      | exact value => exact h.elim
    | exact key =>
      cases value with
      | pattern value => exact ⟨h.1, h.2.1⟩
      | exact value =>
        simp only [expression]
        split
        · exact ⟨h.1, hstar⟩
        · exact ⟨h.1, h.2.1⟩

/-- No character of the value belongs to the operator. -/
theorem longest (h : l.Writable) (hsub : l.expression.op ≠ .substitutes) :
    Operator.read? (l.expression.op.symbol ++ l.expression.value.toList) =
      some (l.expression.op, l.expression.value.toList) := by
  cases l with
  | tag key value => rfl
  | substituting key template => exact absurd rfl hsub
  | comparing key op bound =>
    exact Operator.read?_compares op fun c hc => (Binary64.toText_plain h.2.1 c hc).2
  | regex key value invert =>
    cases key with
    | pattern key => cases invert <;> rfl
    | exact key =>
      cases value with
      | pattern value =>
        have hhead : ∀ r, value.source.toList ≠ '~' :: r := by
          intro r hr
          apply h.2.2
          rw [hr]
          rfl
        -- `hhead` settles which operator is the longest.
        cases invert <;> simp [expression, Operator.symbol, Operator.read?]
      | exact value =>
        obtain ⟨-, -, rfl⟩ := h
        by_cases hempty : value.isEmpty = true
        · simp [expression, hempty, Operator.symbol, Operator.read?]
        · simp [expression, hempty, Operator.symbol, Operator.read?]

/-- Only a tag is written with `=`, and its value has no `&`. -/
theorem of_equal (h : l.Writable) (hop : l.expression.op = .equal) :
    l.expression.key.toList.getLast? ≠ some ':' ∧ '&' ∉ l.expression.value.toList := by
  cases l with
  | tag key value => exact ⟨h.2.1, h.2.2.2.1⟩
  | substituting | comparing => cases hop
  | regex key value invert =>
    cases key with
    | pattern key => cases invert <;> cases hop
    | exact key =>
      cases value with
      | pattern value => cases invert <;> cases hop
      | exact value =>
        obtain ⟨-, -, rfl⟩ := h
        by_cases hempty : value.isEmpty = true
        · simp [expression, hempty] at hop
        · simp [expression, hempty] at hop

theorem legible (h : l.Writable) : l.expression.Legible := by
  obtain ⟨hkey, hvalue⟩ := h.parts
  refine ⟨?_, hkey.trimmed, ?_, ?_, h.longest, hvalue, fun hop => (h.of_equal hop).2⟩
  · simpa using hkey.ne_empty
  · intro c hc
    obtain ⟨hequal, hnot, htilde, hless, hgreater, -⟩ := hkey.plain c hc
    simp [Operator.startsOperator, hequal, hnot, htilde, hless, hgreater]
  · intro hc
    exact (hkey.plain '&' hc).2.2.2.2.2 rfl

/-- The expression of the leaf stands for the leaf. -/
theorem ofExpression_eq (h : l.Writable) (input : String) : ofExpression input l.expression = .ok l := by
  cases l with
  | tag key value => simp [ofExpression, expression, h.2.2.2.2]
  | substituting key template => rfl
  | comparing key op bound =>
    obtain ⟨-, hrounded, hnan⟩ := h
    have hread : Binary64.read? (Text.trim bound.toText) = some bound := by
      rw [Text.trim_of_plain fun c hc => (Binary64.toText_plain hrounded c hc).1]
      exact Binary64.read?_toText hrounded hnan
    simp only [ofExpression, expression, hread]
  | regex key value invert =>
    cases key with
    | pattern key =>
      cases value with
      | pattern value => cases invert <;> simp [ofExpression, expression, Matcher.source, readPattern_source] <;> rfl
      | exact value => exact h.elim
    | exact key =>
      cases value with
      | pattern value =>
        cases invert with
        | true => simp [ofExpression, expression, readPattern_source, Except.map]
        | false => simp [ofExpression, expression, readPattern_source, source_ne_star, Except.map]
      | exact value =>
        obtain ⟨-, -, rfl⟩ := h
        by_cases hempty : value.isEmpty = true
        · have hvalue := String.isEmpty_iff.mp hempty
          simp [expression, hvalue, ofExpression, present]
        · simp [expression, hempty, ofExpression]

/-- The text of the leaf reads back as the leaf. -/
theorem read_toText (h : l.Writable) : Filter.read l.toText = .ok (.leaf l) := by
  refine Filter.read_of_expression (e := l.expression) ?_ (h.ofExpression_eq _)
  rw [toList_toText]
  exact h.legible.read?_chars fun hop => (h.of_equal hop).1

end Writable

end Leaf

/-! ## Filters as documents -/

namespace Filter

mutual

/-- Where the texts of the leaves are read back, so is the document. -/
theorem ofDocument_of_leaves : ∀ {f : Filter}, (∀ l, leaf l ∈ f.parts → read l.toText = .ok (leaf l)) →
    ofDocument f.toDocument = .ok f
  | leaf l, h => by
    rw [toDocument, ofDocument]
    exact h l (by simp [parts])
  | and fs, h => by
    have hfs := ofEach_of_leaves fs fun l hl => h l (by simp [parts, hl])
    rw [toDocument, ofDocument, if_pos rfl, hfs]
    rfl
  | or fs, h => by
    have hfs := ofEach_of_leaves fs fun l hl => h l (by simp [parts, hl])
    rw [toDocument, ofDocument, if_neg (by decide), if_pos rfl, hfs]
    rfl

theorem ofEach_of_leaves : ∀ (fs : List Filter),
    (∀ l, leaf l ∈ partsOfEach fs → read l.toText = .ok (leaf l)) → ofEach (eachToDocument fs) = .ok fs
  | [], _ => rfl
  | f :: fs, h => by
    have hf := ofDocument_of_leaves (f := f) fun l hl => h l (by simp [partsOfEach, hl])
    have hfs := ofEach_of_leaves fs fun l hl => h l (by simp [partsOfEach, hl])
    rw [eachToDocument, ofEach, hf, hfs]
    rfl

end

/-- A filter whose leaves all have a text of their own reads back from its document, whatever its shape. -/
theorem ofDocument_toDocument {f : Filter} (h : ∀ l, leaf l ∈ f.parts → l.Writable) :
    ofDocument f.toDocument = .ok f := ofDocument_of_leaves fun l hl => (h l hl).read_toText

/-- Narrow ways for feet that are no steps, in leaves of every kind. -/
def pathFilter (ways : Matcher) (bound : Binary64) : Filter :=
  and
    [or [tag "access" " yes", leaf (.regex (.exact "highway") ways false), or []],
     leaf (.regex (.exact "highway") (.exact "steps") true), leaf (.present "foot"), leaf (.regex ways ways true),
     leaf (.substituting "name:" "\x7bref\x7d"), leaf (.comparing "width" .less bound)]

theorem ofDocument_toDocument_path :
    ∃ ways bound, Leaf.readPattern "(foot|cycle)way" = .ok ways ∧ Binary64.read? "2.5" = some bound ∧
      (∀ l, leaf l ∈ (pathFilter ways bound).parts → l.Writable) ∧
      ofDocument (pathFilter ways bound).toDocument = .ok (pathFilter ways bound) := by
  obtain ⟨ways, hways⟩ : ∃ ways, (Leaf.readPattern "(foot|cycle)way").toOption = some ways :=
    Option.isSome_iff_exists.mp (by decide +kernel)
  obtain ⟨bound, hbound⟩ : ∃ bound, (Binary64.read? "2.5").filter (!·.isNaN) = some bound :=
    Option.isSome_iff_exists.mp (by decide +kernel)
  obtain ⟨hbound, hnumber⟩ := Option.filter_eq_some_iff.mp hbound
  have hnan : bound ≠ .nan := by
    rintro rfl
    cases hnumber
  cases hread : Leaf.readPattern "(foot|cycle)way" with
  | error fault =>
    rw [hread] at hways
    cases hways
  | ok m =>
    obtain ⟨p, rfl, hsource⟩ := Leaf.source_of_readPattern hread
    have hp : WritableKey p.source ∧ WritableValue p.source ∧ p.source.toList.head? ≠ some '~' := by
      rw [hsource]
      decide
    have hleaves : ∀ l, leaf l ∈ (pathFilter (.pattern p) bound).parts → l.Writable := by
      intro l hl
      simp only [pathFilter, parts, partsOfEach, tag, List.cons_append, List.nil_append, List.append_nil,
        List.mem_cons, leaf.injEq, reduceCtorEq, List.not_mem_nil, false_or, or_false] at hl
      rcases hl with rfl | rfl | rfl | rfl | rfl | rfl | rfl
      · exact ⟨by decide, by decide, by decide, by decide, by decide⟩
      · exact ⟨by decide, hp.2⟩
      · exact ⟨by decide, by decide, rfl⟩
      · exact ⟨by decide, by decide, rfl⟩
      · exact ⟨hp.1, hp.2.1⟩
      · exact ⟨by decide, by decide⟩
      · exact ⟨by decide, Binary64.rounded_of_read? hbound, hnan⟩
    exact ⟨.pattern p, bound, rfl, hbound, hleaves, ofDocument_toDocument hleaves⟩

end Filter

end MapTheme
