/-
  MapTheme.Proofs.Filter.Query — what a query text selects.

  A query text is a row of conditions in brackets, all of which have to hold (`selects`). Keys and values stand in
  quotes, where a backslash takes the next character literally, and patterns between anchors. What is written for a
  leaf is read back as one condition, or as none where every feature is asked for (`condition?_fragment`), so an
  alternative of a filter is read as the conditions of its leaves (`read?_alternativeText`).
-/

import MapTheme.Proofs.Filter.Alternatives
import MapTheme.Proofs.Pattern.Literal
import MapTheme.Proofs.Text.Pieces

namespace MapTheme

/-- The tree of a pattern is what its anchored source is read as. -/
theorem Pattern.read?_anchored (p : Pattern) : read? (anchored p.source) = some p.compiled := by
  have hcompiled : compile p.source = .ok p.compiled := p.compiles
  unfold compile at hcompiled
  split at hcompiled
  · cases hcompiled
  · rename_i n hn
    split at hcompiled
    · cases hcompiled
      exact hn
    · cases hcompiled

/-- The source of the pattern that accepts what the matcher does. -/
def Matcher.patternSource : Matcher → String
  | exact text => literalSource text
  | pattern p => p.source

namespace Query

/-! ## Conditions -/

inductive Condition
  | present (key : String)
  | absent (key : String)
  | equal (key value : String)
  /-- The key is absent, or has another value. -/
  | unequal (key value : String)
  | matching (key source : String)
  /-- The key is absent, or its value does not match. -/
  | unmatched (key source : String)
  /-- Some key and its value match. -/
  | somePair (keySource valueSource : String)
  deriving DecidableEq, Repr

/-- Is the source that of a pattern, which accepts the whole text? -/
def accepts (source text : String) : Bool := (Pattern.read? (Pattern.anchored source)).any (·.foundIn text)

def Condition.holds (p : Properties) : Condition → Bool
  | present key => (p.get? key).isSome
  | absent key => (p.get? key).isNone
  | equal key value => p.get? key == some value
  | unequal key value => p.get? key != some value
  | matching key source => (p.get? key).any (accepts source)
  | unmatched key source => !(p.get? key).any (accepts source)
  | somePair keySource valueSource => p.any fun k v => accepts keySource k && accepts valueSource v

theorem accepts_source (p : Pattern) (text : String) : accepts p.source text = p.accepts text := by
  rw [accepts, p.read?_anchored, Option.any_some, Pattern.accepts]
  rfl

theorem accepts_patternSource (m : Matcher) (text : String) : accepts m.patternSource text = m.accepts text := by
  cases m with
  | exact s =>
    obtain ⟨n, hread, hfound⟩ := Pattern.exists_read?_literalSource s
    rw [accepts, Matcher.patternSource, hread]
    exact hfound text
  | pattern p => exact accepts_source p text

/-! ## Reading -/

/-- The text up to the closing quote, and what stands behind it. After a backslash the next character is `taken` as
it is. -/
def quoted? (taken : Bool) : List Char → Option (List Char × List Char)
  | [] => none
  | c :: r =>
    if taken then (quoted? false r).map (Prod.map (c :: ·) id)
    else if c = '\\' then quoted? true r
    else if c = '"' then some ([], r)
    else (quoted? false r).map (Prod.map (c :: ·) id)

def text? : List Char → Option (String × List Char)
  | '"' :: r => (quoted? false r).map (Prod.map String.ofList id)
  | _ => none

/-- The source of a pattern, without its anchors. -/
def pattern? (s : List Char) : Option (String × List Char) := do
  let (text, r) ← text? s
  let source ← (Text.withoutStart? "^(" text).bind (Text.withoutEnd? ")$")
  some (source, r)

/-- What was read, with a closing bracket behind it. -/
def closed? {α : Type} (found : Option (α × List Char)) : Option (α × List Char) := do
  let (a, r) ← found
  let r ← Text.after? [']'] r
  some (a, r)

/-- What is asked of a key. -/
def ofKey? (key : String) : List Char → Option (Condition × List Char)
  | ']' :: r => some (.present key, r)
  | '=' :: r => (closed? (text? r)).map (Prod.map (.equal key) id)
  | '!' :: '=' :: r => (closed? (text? r)).map (Prod.map (.unequal key) id)
  | '~' :: r => (closed? (pattern? r)).map (Prod.map (.matching key) id)
  | '!' :: '~' :: r => (closed? (pattern? r)).map (Prod.map (.unmatched key) id)
  | _ => none

def condition? : List Char → Option (Condition × List Char)
  | '[' :: '"' :: r => (text? ('"' :: r)).bind fun (key, r) => ofKey? key r
  | '[' :: '!' :: r => (closed? (text? r)).map (Prod.map .absent id)
  | '[' :: '~' :: r => do
    let (key, r) ← pattern? r
    let r ← Text.after? ['~'] r
    (closed? (pattern? r)).map (Prod.map (.somePair key) id)
  | _ => none

/-- Conditions up to the end of the text; each takes a character at least. -/
def conditions? : (fuel : Nat) → List Char → Option (List Condition)
  | _, [] => some []
  | 0, _ => none
  | fuel + 1, s => do
    let (c, r) ← condition? s
    let cs ← conditions? fuel r
    some (c :: cs)

def read? (query : String) : Option (List Condition) := conditions? query.toList.length query.toList

/-- Does the feature meet all conditions of the query? -/
def selects (query : String) (p : Properties) : Bool := (read? query).any (·.all (·.holds p))

/-! ## Quoted texts -/

def escapedChar (c : Char) : List Char := if c = '\\' || c = '"' then ['\\', c] else [c]

theorem toList_escapedForQuery (s : String) : (escapedForQuery s).toList = s.toList.flatMap escapedChar :=
  String.toList_ofList

theorem quoted?_escapedChar (c : Char) (r : List Char) :
    quoted? false (escapedChar c ++ r) = (quoted? false r).map (Prod.map (c :: ·) id) := by
  unfold escapedChar
  split
  · simp [quoted?]
  · rename_i hc
    rw [Bool.or_eq_true, not_or, decide_eq_true_eq, decide_eq_true_eq] at hc
    simp [quoted?, hc]

/-- An escaped text does not end its quotes, and is read as the text. -/
theorem quoted?_escapedForQuery (s : String) (rest : List Char) :
    quoted? false ((escapedForQuery s).toList ++ '"' :: rest) = some (s.toList, rest) := by
  rw [toList_escapedForQuery]
  induction s.toList with
  | nil => rfl
  | cons c cs ih =>
    rw [List.flatMap_cons, List.append_assoc, quoted?_escapedChar, ih]
    rfl

theorem toList_inQuery (s : String) (rest : List Char) :
    (Leaf.inQuery s).toList ++ rest = '"' :: ((escapedForQuery s).toList ++ '"' :: rest) := by
  simp [Leaf.inQuery]

theorem text?_inQuery (s : String) (rest : List Char) : text? ((Leaf.inQuery s).toList ++ rest) = some (s, rest) := by
  rw [toList_inQuery, text?, quoted?_escapedForQuery, Option.map_some, Prod.map_apply, String.ofList_toList, id]

/-- The anchors have nothing to escape. -/
theorem anchoredInQuery_eq (source : String) :
    Leaf.anchoredInQuery source = Leaf.inQuery ("^(" ++ source ++ ")$") := by
  rw [Leaf.anchoredInQuery, Leaf.inQuery, ← String.toList_inj]
  simp [escapedForQuery]

theorem pattern?_anchoredInQuery (source : String) (rest : List Char) :
    pattern? ((Leaf.anchoredInQuery source).toList ++ rest) = some (source, rest) := by
  have hstart : Text.withoutStart? "^(" ("^(" ++ source ++ ")$") = some (source ++ ")$") :=
    Text.withoutStart?_eq_some_iff.mpr (String.append_assoc ..)
  have hend : Text.withoutEnd? ")$" (source ++ ")$") = some source := Text.withoutEnd?_eq_some_iff.mpr rfl
  rw [pattern?, anchoredInQuery_eq, text?_inQuery]
  simp [hstart, hend]

/-! ## Fragments -/

theorem closed?_of_some {α : Type} {found : Option (α × List Char)} {a : α} {rest : List Char}
    (h : found = some (a, ']' :: rest)) : closed? found = some (a, rest) := by
  rw [h]
  rfl

theorem condition?_inQuery (key : String) (r : List Char) :
    condition? ('[' :: ((Leaf.inQuery key).toList ++ r)) = ofKey? key r := by
  rw [toList_inQuery, condition?, ← toList_inQuery, text?_inQuery]
  rfl

theorem condition?_presence (key : String) (rest : List Char) :
    condition? ((Leaf.presenceFragment key).toList ++ rest) = some (.present key, rest) := by
  have hchars : (Leaf.presenceFragment key).toList ++ rest = '[' :: ((Leaf.inQuery key).toList ++ ']' :: rest) := by
    simp [Leaf.presenceFragment]
  rw [hchars, condition?_inQuery, ofKey?]

theorem condition?_absence (key : String) (rest : List Char) :
    condition? ((Leaf.absenceFragment key).toList ++ rest) = some (.absent key, rest) := by
  have hchars : (Leaf.absenceFragment key).toList ++ rest =
      '[' :: '!' :: ((Leaf.inQuery key).toList ++ ']' :: rest) := by
    simp [Leaf.absenceFragment]
  rw [hchars, condition?, closed?_of_some (text?_inQuery key _)]
  rfl

/-- The chars of a pair are its parts in brackets. -/
theorem toList_pairFragment (key op value : String) (rest : List Char) :
    (Leaf.pairFragment key op value).toList ++ rest =
      '[' :: (key.toList ++ (op.toList ++ (value.toList ++ ']' :: rest))) := by
  simp [Leaf.pairFragment]

theorem condition?_equal (key value : String) (invert : Bool) (rest : List Char) :
    condition? ((Leaf.pairFragment (Leaf.inQuery key) (if invert then "!=" else "=")
      (Leaf.inQuery value)).toList ++ rest) =
        some (if invert then .unequal key value else .equal key value, rest) := by
  have hchars : (if invert then "!=" else "=").toList = if invert then ['!', '='] else ['='] := by
    cases invert <;> decide
  rw [toList_pairFragment, condition?_inQuery, hchars]
  have hclosed := closed?_of_some (text?_inQuery value (']' :: rest))
  cases invert with
  | false =>
    simp only [Bool.false_eq_true, if_false, List.cons_append, List.nil_append, ofKey?, hclosed]
    rfl
  | true =>
    simp only [if_true, List.cons_append, List.nil_append, ofKey?, hclosed]
    rfl

theorem condition?_matching (key source : String) (invert : Bool) (rest : List Char) :
    condition? ((Leaf.pairFragment (Leaf.inQuery key) (if invert then "!~" else "~")
      (Leaf.anchoredInQuery source)).toList ++ rest) =
        some (if invert then .unmatched key source else .matching key source, rest) := by
  have hchars : (if invert then "!~" else "~").toList = if invert then ['!', '~'] else ['~'] := by
    cases invert <;> decide
  rw [toList_pairFragment, condition?_inQuery, hchars]
  have hclosed := closed?_of_some (pattern?_anchoredInQuery source (']' :: rest))
  cases invert with
  | false =>
    simp only [Bool.false_eq_true, if_false, List.cons_append, List.nil_append, ofKey?, hclosed]
    rfl
  | true =>
    simp only [if_true, List.cons_append, List.nil_append, ofKey?, hclosed]
    rfl

theorem condition?_somePair (key value : String) (rest : List Char) :
    condition? ((Leaf.pairFragment ("~" ++ Leaf.anchoredInQuery key) "~" (Leaf.anchoredInQuery value)).toList ++ rest) =
      some (.somePair key value, rest) := by
  have hchars : (Leaf.pairFragment ("~" ++ Leaf.anchoredInQuery key) "~" (Leaf.anchoredInQuery value)).toList ++ rest =
      '[' :: '~' :: ((Leaf.anchoredInQuery key).toList ++
        '~' :: ((Leaf.anchoredInQuery value).toList ++ ']' :: rest)) := by
    simp [toList_pairFragment]
  simp only [hchars, condition?, pattern?_anchoredInQuery, Option.bind_eq_bind, Option.bind_some, Text.after?, if_true]
  rfl

end Query

/-! ## Leaves -/

namespace Leaf

open Query (Condition)

/-- What the fragment of a leaf asks for: nothing, for a key pattern that is inverted. -/
def condition? : Leaf → Option Condition
  | tag key value => some (if value.isEmpty then .absent key else .equal key value)
  | substituting key _ => some (.present key)
  | comparing key _ _ => some (.present key)
  | regex (.exact key) (.exact value) invert =>
    some (if value.isEmpty then (if invert then .present key else .absent key)
      else if invert then .unequal key value else .equal key value)
  | regex (.exact key) (.pattern value) invert =>
    some (if invert then .unmatched key value.source else .matching key value.source)
  | regex (.pattern _) _ true => none
  | regex (.pattern key) value false => some (.somePair key.source value.patternSource)

theorem fragment_of_condition?_none {l : Leaf} (h : l.condition? = none) : l.fragment = "" := by
  unfold condition? at h
  split at h
  all_goals try cases h
  rfl

/-- The fragment of a leaf is read back as its condition, whatever stands behind it. -/
theorem condition?_fragment {l : Leaf} {c : Condition} (h : l.condition? = some c) (rest : List Char) :
    Query.condition? (l.fragment.toList ++ rest) = some (c, rest) := by
  cases l with
  | tag key value =>
    cases h
    rw [fragment]
    split
    · exact Query.condition?_absence key rest
    · exact Query.condition?_equal key value false rest
  | substituting key template =>
    cases h
    exact Query.condition?_presence key rest
  | comparing key op bound =>
    cases h
    exact Query.condition?_presence key rest
  | regex key value invert =>
    cases key with
    | exact key =>
      cases value with
      | exact value =>
        cases h
        rw [fragment]
        split
        · cases invert with
          | false => exact Query.condition?_absence key rest
          | true => exact Query.condition?_presence key rest
        · exact Query.condition?_equal key value invert rest
      | pattern value =>
        cases h
        exact Query.condition?_matching key value.source invert rest
    | pattern key =>
      cases invert with
      | true => cases h
      | false =>
        cases h
        cases value with
        | exact text => exact Query.condition?_somePair key.source (literalSource text) rest
        | pattern p => exact Query.condition?_somePair key.source p.source rest

end Leaf

/-! ## Alternatives -/

theorem Query.conditions?_alternative (ls : List Leaf) {fuel : Nat}
    (hfuel : (ls.flatMap (·.fragment.toList)).length ≤ fuel) :
    conditions? fuel (ls.flatMap (·.fragment.toList)) = some (ls.filterMap Leaf.condition?) := by
  induction ls generalizing fuel with
  | nil => simp [conditions?]
  | cons l ls ih =>
    rw [List.flatMap_cons] at hfuel ⊢
    cases hc : l.condition? with
    | none =>
      rw [Leaf.fragment_of_condition?_none hc] at hfuel ⊢
      rw [List.filterMap_cons_none hc]
      exact ih hfuel
    | some c =>
      have hread := Leaf.condition?_fragment hc
      -- The empty text is no condition.
      cases hchars : l.fragment.toList with
      | nil =>
        have hnone : condition? [] = some (c, []) := by simpa [hchars] using hread []
        cases hnone
      | cons d ds =>
        rw [hchars] at hfuel hread
        cases fuel with
        | zero => cases hfuel
        | succ fuel =>
          have hrest : (ls.flatMap (·.fragment.toList)).length ≤ fuel := by
            rw [List.length_append, List.length_cons] at hfuel
            omega
          rw [List.filterMap_cons_some hc, List.cons_append, conditions?]
          · rw [← List.cons_append, hread]
            show (conditions? fuel (ls.flatMap (·.fragment.toList))).bind _ = _
            rw [ih hrest]
            rfl
          · exact List.cons_ne_nil _ _

/-- An alternative is read as the conditions of its leaves. -/
theorem Query.read?_alternativeText (ls : List Leaf) :
    read? (Filter.alternativeText ls) = some (ls.filterMap Leaf.condition?) := by
  have hchars : (Filter.alternativeText ls).toList = ls.flatMap (·.fragment.toList) := by
    rw [Filter.alternativeText, String.toList_join, List.flatMap_map]
  rw [read?, hchars]
  exact conditions?_alternative ls (Nat.le_refl _)

end MapTheme
