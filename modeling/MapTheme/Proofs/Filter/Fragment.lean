/-
  MapTheme.Proofs.Filter.Fragment — what stands in a query fragment can be read off it.

  To escape a text is to put a backslash first before each backslash and then before each quote (`toList_escapedForQuery_eq`).
  Read from left to right, with a backslash taking the next character as it is, an escaped text has no quote of its
  own and gives back the text (`unescape?_escapedForQuery`). So a key or value cannot end the quotes around it: the
  key, the relation and the text that a leaf asks for are read off its fragment, whatever stands behind it
  (`spelled?_fragment`), and tags with different keys or values have different fragments.
-/

import MapTheme.Proofs.Filter.Query

namespace MapTheme

namespace Query

/-! ## Escaped texts -/

/-- A backslash before each such character. -/
def marked (mark : Char) (s : List Char) : List Char := s.flatMap fun c => if c = mark then ['\\', c] else [c]

/-- The backslashes before quotes come last, so that they are not doubled. -/
theorem toList_escapedForQuery_eq (s : String) : (escapedForQuery s).toList = marked '"' (marked '\\' s.toList) := by
  rw [toList_escapedForQuery, marked, marked, List.flatMap_assoc]
  congr 1
  funext c
  by_cases hbackslash : c = '\\'
  · subst hbackslash
    decide
  · by_cases hquote : c = '"' <;> simp [escapedChar, hbackslash, hquote]

/-- The text that is read where a backslash takes the next character as it is; none if a quote stands for itself, or
a backslash at the end. -/
def unescape? : List Char → Option (List Char)
  | [] => some []
  | '\\' :: c :: r => (unescape? r).map (c :: ·)
  | c :: r => if c = '\\' || c = '"' then none else (unescape? r).map (c :: ·)

theorem unescape?_escapedChar (c : Char) (r : List Char) :
    unescape? (escapedChar c ++ r) = (unescape? r).map (c :: ·) := by
  unfold escapedChar
  split
  · rfl
  · rename_i hc
    have hplain := hc
    rw [Bool.or_eq_true, not_or, decide_eq_true_eq, decide_eq_true_eq] at hplain
    rw [List.singleton_append, unescape?, if_neg hc]
    exact fun _ _ he => absurd he hplain.1

theorem unescape?_escapedForQuery (s : String) : unescape? (escapedForQuery s).toList = some s.toList := by
  rw [toList_escapedForQuery]
  induction s.toList with
  | nil => rfl
  | cons c cs ih => rw [List.flatMap_cons, unescape?_escapedChar, ih, Option.map_some]

/-- In the other order, the backslash before a quote is doubled, and the quote stands for itself. -/
example : unescape? (marked '\\' (marked '"' ['"'])) = none := by decide

/-! ## What a fragment spells -/

inductive Relation
  | equal
  | unequal
  | matching
  | unmatched
  deriving DecidableEq, Repr

namespace Relation

/-- How the value of a key has to relate to the text of the matcher. -/
def ofMatcher : Matcher → (invert : Bool) → Relation
  | .exact _, invert => if invert then unequal else equal
  | .pattern _, invert => if invert then unmatched else matching

end Relation

/-- A key, and how its value has to relate to a text. -/
structure Spelled where
  key : String
  relation : Relation
  text : String
  deriving DecidableEq, Repr

/-- A missing key has the empty value. -/
def Condition.spelled? : Condition → Option Spelled
  | present key => some ⟨key, .unequal, ""⟩
  | absent key => some ⟨key, .equal, ""⟩
  | equal key value => some ⟨key, .equal, value⟩
  | unequal key value => some ⟨key, .unequal, value⟩
  | matching key source => some ⟨key, .matching, source⟩
  | unmatched key source => some ⟨key, .unmatched, source⟩
  | somePair .. => none

/-- What the first condition of a query spells, and what stands behind it. -/
def spelled? (query : List Char) : Option (Spelled × List Char) :=
  (condition? query).bind fun (c, rest) => c.spelled?.map (·, rest)

theorem spelled?_fragment {l : Leaf} {c : Condition} {s : Spelled} (hc : l.condition? = some c)
    (hs : c.spelled? = some s) (rest : List Char) : spelled? (l.fragment.toList ++ rest) = some (s, rest) := by
  simp [spelled?, Leaf.condition?_fragment hc, hs]

end Query

namespace Leaf

open Query (Relation spelled?)

variable {key value : String}

theorem spelled?_tag (key value : String) (rest : List Char) :
    spelled? ((tag key value).fragment.toList ++ rest) = some (⟨key, .equal, value⟩, rest) := by
  refine Query.spelled?_fragment rfl ?_ rest
  cases hempty : value.isEmpty with
  | true =>
    obtain rfl := String.isEmpty_iff.mp hempty
    rfl
  | false => rfl

theorem spelled?_regex (key : String) (value : Matcher) (invert : Bool) (rest : List Char) :
    spelled? ((regex (.exact key) value invert).fragment.toList ++ rest) =
      some (⟨key, .ofMatcher value invert, value.source⟩, rest) := by
  cases value with
  | pattern p => exact Query.spelled?_fragment rfl (by cases invert <;> rfl) rest
  | exact value =>
    refine Query.spelled?_fragment rfl ?_ rest
    cases hempty : value.isEmpty with
    | true =>
      obtain rfl := String.isEmpty_iff.mp hempty
      cases invert <;> rfl
    | false => cases invert <;> rfl

theorem fragment_tag_inj {key' value' : String} :
    (tag key value).fragment = (tag key' value').fragment ↔ key = key' ∧ value = value' := by
  refine ⟨fun h => ?_, fun ⟨hkey, hvalue⟩ => by rw [hkey, hvalue]⟩
  have hspelled := spelled?_tag key value []
  rw [h, spelled?_tag key' value' []] at hspelled
  cases hspelled
  exact ⟨rfl, rfl⟩

end Leaf

/-- No text can break out of its quotes: an escaped text is read back without a quote that stands for itself, key,
relation and text of a leaf with an exact key are read off its fragment, and a tag is known by its fragment. -/
theorem fragments_recoverable :
    (∀ s : String, (escapedForQuery s).toList = Query.marked '"' (Query.marked '\\' s.toList) ∧
      Query.unescape? (escapedForQuery s).toList = some s.toList) ∧
    (∀ (key value : String) (rest : List Char),
      Query.spelled? ((Leaf.tag key value).fragment.toList ++ rest) = some (⟨key, .equal, value⟩, rest)) ∧
    (∀ (key : String) (value : Matcher) (invert : Bool) (rest : List Char),
      Query.spelled? ((Leaf.regex (.exact key) value invert).fragment.toList ++ rest) =
        some (⟨key, .ofMatcher value invert, value.source⟩, rest)) ∧
    ∀ key value key' value' : String,
      (Leaf.tag key value).fragment = (Leaf.tag key' value').fragment ↔ key = key' ∧ value = value' :=
  ⟨fun s => ⟨Query.toList_escapedForQuery_eq s, Query.unescape?_escapedForQuery s⟩, Leaf.spelled?_tag, Leaf.spelled?_regex,
    fun _ _ _ _ => Leaf.fragment_tag_inj⟩

end MapTheme
