/-
  MapTheme.Proofs.Filter.Chain — filters for which a bounded number of passes is not enough.

  A link of the chain is an alternative that a pass gives back (`optimiseOnce_closed`). Beside the mark before it,
  it loses a test and is open (`assume_closed`): the next pass makes a mark of it (`optimiseOnce_opened`), which opens
  the link behind. So each pass over a chain gets one link further (`optimiseOnce_opening`), and one with more links
  than there are passes is left unfinished (`optimiseMore_chain`).
-/

import MapTheme.Proofs.Filter.Fixpoint
import MapTheme.Proofs.Filter.Independent
import MapTheme.Proofs.Text.Pieces

namespace MapTheme.Filter.Chain

/-! ## Links -/

def key (h : Nat) : String := "k" ++ toString h

/-- The test that the link `h` comes down to. -/
def mark (h : Nat) : Filter := tag (key h) "1"

def unmarked (h : Nat) : Filter := leaf (.regex (.exact (key h)) (.exact "1") true)

def other : Filter := leaf (.present "x")

/-- What keeps a link closed, as long as nothing is known of the mark before it. -/
def hinge (h : Nat) : Filter := or [mark h, unmarked (h - 1)]

def closed (h : Nat) : Filter := or [mark h, and [other, hinge h]]

/-- What is left of a link beside the mark before it. -/
def opened (h : Nat) : Filter := or [mark h, and [other, mark h]]

/-- The links up to `p` are marks, those behind are closed. -/
def waiting (p h : Nat) : Filter := if h ≤ p then mark h else closed h

/-- The links up to `p` are marks, the next one is open, and those behind are closed. -/
def opening (p h : Nat) : Filter := if h = p + 1 then opened h else waiting p h

/-- A mark and `n` closed links. -/
def chain (n : Nat) : Filter := and ((List.range (n + 1)).map (waiting 0))

theorem key_injective {i j : Nat} (h : key i = key j) : i = j := by
  have hchars := congrArg String.toList h
  simp only [key, String.toList_append] at hchars
  exact Text.toString_injective (String.toList_injective (List.append_cancel_left hchars))

@[simp] theorem key_inj {i j : Nat} : key i = key j ↔ i = j := ⟨key_injective, congrArg key⟩

@[simp] theorem key_ne_other (h : Nat) : key h ≠ "x" := by
  intro he
  have hchars := congrArg String.toList he
  simp [key, String.toList_append] at hchars

@[simp] theorem other_ne_key (h : Nat) : "x" ≠ key h := (key_ne_other h).symm

/-! ## Features with marks -/

/-- The feature on which these keys have the value that marks ask for. -/
def marked (keys : List String) (hn : keys.Nodup) : Properties :=
  ⟨keys.map fun k => (k, "1"), by rwa [List.map_map, Function.comp_def, List.map_id']⟩

theorem lookup_marks (keys : List String) (k : String) :
    (keys.map fun k => (k, "1")).lookup k = if k ∈ keys then some "1" else none := by
  induction keys with
  | nil => rfl
  | cons k' rest ih =>
    by_cases hk : k = k'
    · simp [hk]
    · simp [List.lookup_cons, ih, hk, beq_false_of_ne hk]

section Holds

variable {keys : List String} {hn : keys.Nodup} {h : Nat}

theorem value_marked (k : String) : (marked keys hn).value k = if k ∈ keys then "1" else "" := by
  rw [Properties.value, Properties.get?, marked, lookup_marks]
  split <;> rfl

@[simp] theorem holds_mark : (mark h).holds (marked keys hn) = decide (key h ∈ keys) := by
  by_cases hk : key h ∈ keys <;> simp [mark, tag, Leaf.holds, value_marked, hk]

@[simp] theorem holds_unmarked : (unmarked h).holds (marked keys hn) = decide (key h ∉ keys) := by
  by_cases hk : key h ∈ keys <;> simp [unmarked, Leaf.holds, Matcher.accepts, value_marked, hk]

@[simp] theorem holds_other : other.holds (marked keys hn) = decide ("x" ∈ keys) := by
  by_cases hk : "x" ∈ keys <;> simp [other, Leaf.present, Leaf.holds, Matcher.accepts, value_marked, hk]

@[simp] theorem holds_hinge : (hinge h).holds (marked keys hn) = decide (key h ∈ keys ∨ key (h - 1) ∉ keys) := by
  simp [hinge]

end Holds

variable {h p n : Nat} {known : Known}

/-! ## One link -/

theorem sort_pair {f g : Filter} (hrank : f.rank < g.rank) : sort [f, g] = [f, g] :=
  sort_of_ranks (List.pairwise_pair.mpr hrank)

/-- Beside the mark before it a link loses its hinge. -/
theorem assume_closed (hprev : known.lookup (key (h - 1)) = some "1") (hkey : known.lookup (key h) = none)
    (hother : known.lookup "x" = none) : assume known (closed h) = .filter (opened h) := by
  simp [closed, hinge, opened, mark, tag, other, unmarked, Leaf.present, assume, assumeAny, assumeAll, assumeLeaf,
    Leaf.singleKey?, hprev, hkey, hother, conjunctionOf, alternativeOf, Leaf.holds, Matcher.accepts, Optimised.ofBool]

theorem assume_hinge (hprev : known.lookup (key (h - 1)) = none) (hkey : known.lookup (key h) = none) :
    assume known (hinge h) = .filter (hinge h) := by
  simp [hinge, mark, tag, unmarked, assume, assumeAny, assumeLeaf, Leaf.singleKey?, hprev, hkey, alternativeOf]

theorem assume_other (hother : known.lookup "x" = none) : assume known other = .filter other := by
  simp [other, Leaf.present, assume, assumeLeaf, Leaf.singleKey?, hother]

theorem assume_mark (hkey : known.lookup (key h) = none) : assume known (mark h) = .filter (mark h) := by
  simp [mark, tag, assume, assumeLeaf, Leaf.singleKey?, hkey]

theorem assume_closed_unknown (hprev : known.lookup (key (h - 1)) = none) (hkey : known.lookup (key h) = none)
    (hother : known.lookup "x" = none) : assume known (closed h) = .filter (closed h) := by
  simp only [closed, assume, assumeAny, assumeAll, assume_mark hkey, assume_other hother, assume_hinge hprev hkey,
    Option.map_some, conjunctionOf, alternativeOf]

theorem assume_opened (hkey : known.lookup (key h) = none) (hother : known.lookup "x" = none) :
    assume known (opened h) = .filter (opened h) := by
  simp only [opened, assume, assumeAny, assumeAll, assume_mark hkey, assume_other hother, Option.map_some, conjunctionOf,
    alternativeOf]

theorem becomes_mark (known : Known) (h : Nat) : Becomes known (mark h) (mark h) := .inl ⟨key h, "1", rfl, rfl⟩

theorem becomes_of_assume {f g : Filter} (hne : ∀ key value, f ≠ tag key value) (h : assume known f = .filter g) :
    Becomes known f g := .inr ⟨hne, h⟩

theorem simplifyOr_hinge (hh : 0 < h) : simplifyOr [mark h, unmarked (h - 1)] = .filter (hinge h) := by
  have hne : h ≠ h - 1 := by omega
  have hind : Independent [mark h, unmarked (h - 1)] := by
    refine List.pairwise_pair.mpr ⟨?_, ?_⟩
    · exact implies_eq_false (marked [key (h - 1), key h] (by simp [hne.symm])) (by simp) (by simp)
    · exact implies_eq_false (marked [] List.nodup_nil) (by simp) (by simp)
  refine simplifyOr_of_independent (p := marked [key (h - 1)] (by simp)) (by simp [hne]) ?_ hind (by simp) ?_ rfl
    (sort_pair (by simp [mark, tag, unmarked, rank]))
  · simp [mark, tag, unmarked, isOr]
  · simp [pruneKnownFalse, mark, tag, unmarked, isAnd, negated?, Leaf.negated?, pruneBy]

theorem simplifyAnd_hinge (hh : 0 < h) : simplifyAnd [other, hinge h] = .filter (and [other, hinge h]) := by
  have hne : h ≠ h - 1 := by omega
  have hind : Independent [other, hinge h] := by
    refine List.pairwise_pair.mpr ⟨?_, ?_⟩
    · exact implies_eq_false (marked ["x", key (h - 1)] (by simp)) (by simp) (by simp [hne])
    · exact implies_eq_false (marked [] List.nodup_nil) (by simp) (by simp)
  have hstays : ∀ known, Knows [other, hinge h] known → ∀ f ∈ [other, hinge h], Becomes known f f := by
    intro known hknows
    have hnone : ∀ k, known.lookup k = none :=
      fun k => hknows.lookup_eq_none (by simp [tag, other, hinge, Leaf.present])
    simp only [List.forall_mem_cons]
    refine ⟨?_, ?_, by simp⟩
    · exact becomes_of_assume (by simp [tag, other, Leaf.present]) (assume_other (hnone _))
    · exact becomes_of_assume (by simp [tag, hinge]) (assume_hinge (hnone _) (hnone _))
  rw [simplifyAnd_of_independent (p := marked ["x"] (by simp)) (by simp) (by simp [other, hinge, isAnd]) hind (by simp)
    hstays, sort_pair (by simp [other, hinge, Leaf.present, rank])]

theorem simplifyOr_link (hh : 0 < h) : simplifyOr [mark h, and [other, hinge h]] = .filter (closed h) := by
  have hne : h ≠ h - 1 := by omega
  have hind : Independent [mark h, and [other, hinge h]] := by
    refine List.pairwise_pair.mpr ⟨?_, ?_⟩
    · exact implies_eq_false (marked [key h] (by simp)) (by simp) (by simp)
    · exact implies_eq_false (marked ["x"] (by simp)) (by simp) (by simp)
  -- Without its mark a link still needs both parts of its conjunction, so nothing is pruned from it.
  have hother : (unmarked h).implies other = false :=
    implies_eq_false (marked [] List.nodup_nil) (by simp) (by simp)
  have hhinge : (unmarked h).implies (hinge h) = false :=
    implies_eq_false (marked [key (h - 1)] (by simp)) (by simp [hne]) (by simp [hne])
  have hkept : [other, hinge h].filter (fun c => !([unmarked h].any (·.implies c))) = [other, hinge h] := by
    simp [hother, hhinge]
  have hprune : pruneBy [unmarked h] [mark h, and [other, hinge h]] = some [mark h, and [other, hinge h]] := by
    rw [mark, tag, pruneBy, pruneBy, ← tag, ← mark, hkept]
    · rfl
    · simp
  refine simplifyOr_of_independent (p := marked [] List.nodup_nil) (by simp) ?_ hind (by simp) hprune rfl
    (sort_pair (by simp [mark, tag, rank]))
  simp [mark, tag, isOr]

/-- A pass over a closed link gives it back. -/
theorem optimiseOnce_closed (hh : 0 < h) : (closed h).optimiseOnce = .filter (closed h) := by
  have hmark : (mark h).optimiseOnce = .filter (mark h) := rfl
  have hunmarked : (unmarked (h - 1)).optimiseOnce = .filter (unmarked (h - 1)) := rfl
  have hother : other.optimiseOnce = .filter other := rfl
  have hhinge : (hinge h).optimiseOnce = .filter (hinge h) := by
    rw [← simplifyOr_hinge hh]
    simp only [hinge, optimiseOnce, optimiseBranches, hmark, hunmarked, Option.map_some]
  simp only [closed, optimiseOnce, optimiseBranches, optimiseConjuncts, hmark, hother, hhinge, Option.map_some,
    simplifyAnd_hinge hh, simplifyOr_link hh]

/-- An alternative of a term and one that implies it comes down to the term. -/
theorem orPass_absorbs (factor : List Filter → Option (List Filter)) {conjuncts : List Filter}
    (hfactor : factor [mark h] = some [mark h]) (hmem : mark h ∈ conjuncts)
    (hnot : (mark h).implies (and conjuncts) = false) :
    orPass factor [mark h, and conjuncts] = some [mark h] ∧ orPass factor [mark h] = some [mark h] := by
  have himplies : (and conjuncts).implies (mark h) = true := by
    have hself : (mark h).implies (mark h) = true := implies_of_same (by simp [mark, tag, same, Leaf.same])
    have hdirect : ((impliesOfEach conjuncts).any fun test => test (mark h)) = true := by
      rw [impliesOfEach_eq, List.any_map, List.any_eq_true]
      exact ⟨mark h, hmem, hself⟩
    rw [implies, mark, tag, impliedByParts]
    exact hdirect
  have hapart : Apart [mark h, and conjuncts] := List.pairwise_pair.mpr rfl
  have hleft : removeRedundant (fun candidate other => candidate.implies other) [mark h, and conjuncts] = [mark h] := by
    simp [removeRedundant, removeRedundantAfter, hnot, himplies]
  have halone : Independent [mark h] := List.pairwise_singleton _ _
  have htautology : isTautology [mark h] = false := isTautology_of_none (p := marked [] List.nodup_nil) (by simp)
  have hprune : pruneKnownFalse [mark h] = some [mark h] := rfl
  have hsort : sort [mark h] = [mark h] := sort_of_ranks (List.pairwise_singleton _ _)
  rw [orPass_eq_bind, orPass_eq_bind, dedup_of_apart hapart, hleft, dedup_of_apart halone.apart,
    removeRedundant_implying halone, hprune, Option.bind_some, htautology, hfactor]
  simp [hsort]

/-- A pass over an open link makes a mark of it. -/
theorem optimiseOnce_opened (h : Nat) : (opened h).optimiseOnce = .filter (mark h) := by
  have hmark : (mark h).optimiseOnce = .filter (mark h) := rfl
  have hother : other.optimiseOnce = .filter other := rfl
  have hind : Independent [other, mark h] := by
    refine List.pairwise_pair.mpr ⟨?_, ?_⟩
    · exact implies_eq_false (marked ["x"] (by simp)) (by simp) (by simp)
    · exact implies_eq_false (marked [key h] (by simp)) (by simp) (by simp)
  have hstays : ∀ known, Knows [other, mark h] known → ∀ f ∈ [other, mark h], Becomes known f f := by
    intro known hknows
    have hnone : known.lookup "x" = none := hknows.lookup_eq_none (by simp [tag, other, Leaf.present, mark])
    simp only [List.forall_mem_cons]
    refine ⟨?_, becomes_mark known h, by simp⟩
    exact becomes_of_assume (by simp [tag, other, Leaf.present]) (assume_other hnone)
  have hand : simplifyAnd [other, mark h] = .filter (and (sort [other, mark h])) :=
    simplifyAnd_of_independent (p := marked ["x", key h] (by simp)) (by simp) (by simp [other, mark, tag, isAnd]) hind
      (by simp) hstays
  have hmem : ∀ f, f ∈ sort [other, mark h] ↔ f ∈ [other, mark h] := fun f => (perm_sort _).mem_iff
  have hnot : (mark h).implies (and (sort [other, mark h])) = false := by
    refine implies_eq_false (marked [key h] (by simp)) (by simp) ?_
    rw [holds_and, List.all_eq_false]
    exact ⟨other, (hmem other).mpr (by simp), by simp⟩
  obtain ⟨hfirst, hsecond⟩ := orPass_absorbs (factorTerms (simplifyOrWithin (maxFactoring - 1))) rfl
    ((hmem (mark h)).mpr (by simp)) hnot
  have hor : simplifyOr [mark h, and (sort [other, mark h])] = .filter (mark h) := by
    have hflat : flattenOrs [mark h, and (sort [other, mark h])] = [mark h, and (sort [other, mark h])] := rfl
    rw [simplifyOr_eq, settledOr, hflat, maxPasses, settle_of_step _ hfirst hsecond]
    rfl
  simp only [opened, optimiseOnce, optimiseBranches, optimiseConjuncts, hmark, hother, Option.map_some, hand, hor]

/-! ## All links -/

theorem waiting_of_le (hp : h ≤ p) : waiting p h = mark h := if_pos hp

theorem waiting_of_lt (hp : p < h) : waiting p h = closed h := if_neg (by omega)

theorem opening_of_le (hp : h ≤ p) : opening p h = mark h := by
  rw [opening, if_neg (by omega), waiting_of_le hp]

theorem opening_next (p : Nat) : opening p (p + 1) = opened (p + 1) := if_pos rfl

theorem opening_of_lt (hp : p + 1 < h) : opening p h = closed h := by
  rw [opening, if_neg (by omega), waiting_of_lt (by omega)]

/-- Of a feature without the other test, a link holds if its mark is there, whatever became of it. -/
def Standing (t : Nat → Filter) : Prop :=
  ∀ h keys, ∀ hn : keys.Nodup, "x" ∉ keys → (t h).holds (marked keys hn) = decide (key h ∈ keys)

theorem standing_waiting (p : Nat) : Standing (waiting p) := by
  intro h keys hn hx
  rcases Nat.lt_or_ge p h with hp | hp
  · simp [waiting_of_lt hp, closed, hx]
  · simp [waiting_of_le hp]

theorem standing_opening (p : Nat) : Standing (opening p) := by
  intro h keys hn hx
  by_cases hp : h = p + 1
  · simp [hp, opening_next, opened, hx]
  · rw [opening, if_neg hp]
    exact standing_waiting p h keys hn hx

variable {t : Nat → Filter} {is : List Nat}

theorem Standing.independent (ht : Standing t) (his : is.Nodup) : Independent (is.map t) := by
  refine List.pairwise_map.mpr (his.imp ?_)
  intro i j hij
  have hapart : ∀ {i j}, i ≠ j → (t i).implies (t j) = false := by
    intro i j hij
    have hx : "x" ∉ [key i] := by simp
    refine implies_eq_false (marked [key i] (by simp)) ?_ ?_
    · rw [ht i _ _ hx]
      simp
    · rw [ht j _ _ hx]
      simp [hij.symm]
  exact ⟨hapart hij, hapart hij.symm⟩

theorem nodup_keys (his : is.Nodup) : (is.map key).Nodup :=
  List.Pairwise.map key (fun _ _ hne he => hne (key_injective he)) his

/-- The feature with all marks has all links. -/
theorem Standing.holds (ht : Standing t) (his : is.Nodup) :
    ∀ i ∈ is, (t i).holds (marked (is.map key) (nodup_keys his)) = true := by
  intro i hi
  have hx : "x" ∉ is.map key := by simp
  rw [ht i _ _ hx]
  simp [hi]

/-- The marks up to `p` are known, and nothing else. -/
structure KnowsUpTo (p : Nat) (is : List Nat) (known : Known) : Prop where
  marks : ∀ h ∈ is, h ≤ p → known.lookup (key h) = some "1"
  others : ∀ h, p < h → known.lookup (key h) = none
  other : known.lookup "x" = none

theorem knowsUpTo_of_knows (hmarks : ∀ h ≤ p, t h = mark h) (hlinks : ∀ h, p < h → (t h).isLeaf = false)
    (hknows : Knows (is.map t) known) : KnowsUpTo p is known := by
  have htags : ∀ k value, tag k value ∈ is.map t → ∃ h ≤ p, k = key h := by
    intro k value hin
    obtain ⟨h, -, he⟩ := List.mem_map.mp hin
    rcases Nat.lt_or_ge p h with hp | hp
    · have hlink := hlinks h hp
      rw [he] at hlink
      cases hlink
    · rw [hmarks h hp, mark, tag, tag] at he
      cases he
      exact ⟨h, hp, rfl⟩
  refine ⟨fun h hh hp => ?_, fun h hp => hknows.lookup_eq_none fun value hin => ?_,
    hknows.lookup_eq_none fun value hin => ?_⟩
  · rw [hknows]
    exact List.mem_map.mpr ⟨h, hh, hmarks h hp⟩
  · obtain ⟨h', hp', he⟩ := htags _ _ hin
    have := key_injective he
    omega
  · obtain ⟨h', -, he⟩ := htags _ _ hin
    exact other_ne_key h' he

/-- The links of a chain, in some order. -/
def Links (n : Nat) (is : List Nat) : Prop := is.Perm (List.range (n + 1))

theorem Links.mem (his : Links n is) : h ∈ is ↔ h ≤ n := by
  rw [List.Perm.mem_iff his, List.mem_range]
  omega

theorem Links.nodup (his : Links n is) : is.Nodup := (List.Perm.nodup_iff his).mpr List.nodup_range

/-- Beside the marks up to `p` the next link opens, and those behind stay closed. -/
theorem becomes_opening (his : Links n is) (hknows : Knows (is.map (waiting p)) known) :
    ∀ i ∈ is, Becomes known (waiting p i) (opening p i) := by
  have hknown : KnowsUpTo p is known :=
    knowsUpTo_of_knows (fun _ => waiting_of_le) (fun h hp => by rw [waiting_of_lt hp]; rfl) hknows
  intro i hi
  rcases Nat.lt_trichotomy i (p + 1) with hp | rfl | hp
  · rw [waiting_of_le (by omega), opening_of_le (by omega)]
    exact becomes_mark known i
  · have hprev : p ∈ is := by
      rw [his.mem] at hi ⊢
      omega
    rw [waiting_of_lt (by omega), opening_next]
    exact becomes_of_assume (by simp [tag, closed])
      (assume_closed (hknown.marks p hprev (Nat.le_refl p)) (hknown.others _ (by omega)) hknown.other)
  · rw [waiting_of_lt (by omega), opening_of_lt hp]
    exact becomes_of_assume (by simp [tag, closed])
      (assume_closed_unknown (hknown.others _ (by omega)) (hknown.others _ (by omega)) hknown.other)

theorem stays_opening (hknows : Knows (is.map (opening p)) known) : ∀ i ∈ is, Becomes known (opening p i) (opening p i) := by
  have hlinks : ∀ h, p < h → (opening p h).isLeaf = false := by
    intro h hp
    rcases Nat.lt_or_ge (p + 1) h with hp' | hp'
    · rw [opening_of_lt hp']
      rfl
    · obtain rfl : h = p + 1 := by omega
      rw [opening_next]
      rfl
  have hknown : KnowsUpTo p is known := knowsUpTo_of_knows (fun _ => opening_of_le) hlinks hknows
  intro i _
  rcases Nat.lt_trichotomy i (p + 1) with hp | rfl | hp
  · rw [opening_of_le (by omega)]
    exact becomes_mark known i
  · rw [opening_next]
    exact becomes_of_assume (by simp [tag, opened]) (assume_opened (hknown.others _ (by omega)) hknown.other)
  · rw [opening_of_lt hp]
    exact becomes_of_assume (by simp [tag, closed])
      (assume_closed_unknown (hknown.others _ (by omega)) (hknown.others _ (by omega)) hknown.other)

theorem isAnd_waiting (p h : Nat) : (waiting p h).isAnd = false := by
  rcases Nat.lt_or_ge p h with hp | hp
  · rw [waiting_of_lt hp]
    rfl
  · rw [waiting_of_le hp]
    rfl

theorem isAnd_opening (p h : Nat) : (opening p h).isAnd = false := by
  by_cases hp : h = p + 1
  · rw [hp, opening_next]
    rfl
  · rw [opening, if_neg hp, isAnd_waiting]

/-- Simplifying the conjunction opens one link. -/
theorem simplifyAnd_waiting (his : Links n is) (hn : 1 ≤ n) (p : Nat) :
    ∃ js, Links n js ∧ simplifyAnd (is.map (waiting p)) = .filter (and (js.map (opening p))) := by
  have hlength : 2 ≤ is.length := by
    rw [List.Perm.length_eq his, List.length_range]
    omega
  have hrun := simplifyAnd_map ((standing_waiting p).holds his.nodup) ((standing_opening p).holds his.nodup)
    (fun i _ => ⟨isAnd_waiting p i, isAnd_opening p i⟩) ((standing_waiting p).independent his.nodup).apart
    ((standing_opening p).independent his.nodup) hlength (fun _ => becomes_opening his) (fun _ => stays_opening)
  obtain ⟨js, hjs, hsorted⟩ := exists_perm_of_perm_map (perm_sort (is.map (opening p)))
  exact ⟨js, hjs.trans his, by rw [hrun, hsorted]⟩

/-! ## Passes -/

theorem optimiseOnce_link (p i : Nat) : (opening p i).optimiseOnce = .filter (waiting (p + 1) i) := by
  rcases Nat.lt_trichotomy i (p + 1) with hp | rfl | hp
  · rw [opening_of_le (by omega), waiting_of_le (by omega)]
    rfl
  · rw [opening_next, waiting_of_le (Nat.le_refl _), optimiseOnce_opened]
  · rw [opening_of_lt hp, waiting_of_lt hp, optimiseOnce_closed (by omega)]

/-- The first pass opens the first link. -/
theorem optimiseOnce_chain (hn : 1 ≤ n) :
    ∃ is, Links n is ∧ (chain n).optimiseOnce = .filter (and (is.map (opening 0))) := by
  have hchildren : optimiseConjuncts ((List.range (n + 1)).map (waiting 0)) =
      some ((List.range (n + 1)).map (waiting 0)) := by
    refine optimiseConjuncts_map fun i _ => ?_
    rcases Nat.eq_zero_or_pos i with rfl | hi
    · rfl
    · rw [waiting_of_lt hi, optimiseOnce_closed hi]
  obtain ⟨is, his, hrun⟩ := simplifyAnd_waiting (.refl _) hn 0
  exact ⟨is, his, by rw [chain, optimiseOnce, hchildren]; exact hrun⟩

/-- Each pass makes a mark of the open link and opens the next one. -/
theorem optimiseOnce_opening (his : Links n is) (hn : 1 ≤ n) (p : Nat) :
    ∃ js, Links n js ∧ (and (is.map (opening p))).optimiseOnce = .filter (and (js.map (opening (p + 1)))) := by
  have hchildren : optimiseConjuncts (is.map (opening p)) = some (is.map (waiting (p + 1))) :=
    optimiseConjuncts_map fun i _ => optimiseOnce_link p i
  obtain ⟨js, hjs, hrun⟩ := simplifyAnd_waiting his hn (p + 1)
  exact ⟨js, hjs, by rw [optimiseOnce, hchildren]; exact hrun⟩

theorem total_map_le {s t : Nat → Filter} (hle : ∀ i ∈ is, (t i).weight ≤ (s i).weight) :
    total (is.map t) ≤ total (is.map s) := by
  induction is with
  | nil => exact Nat.le_refl _
  | cons j rest ih =>
    obtain ⟨hj, hrest⟩ := List.forall_mem_cons.mp hle
    simp only [List.map_cons, total]
    exact Nat.add_le_add hj (ih hrest)

theorem total_map_lt {s t : Nat → Filter} (hle : ∀ i ∈ is, (t i).weight ≤ (s i).weight) {i : Nat} (hi : i ∈ is)
    (hlt : (t i).weight < (s i).weight) : total (is.map t) < total (is.map s) := by
  induction is with
  | nil => cases hi
  | cons j rest ih =>
    obtain ⟨hj, hrest⟩ := List.forall_mem_cons.mp hle
    simp only [List.map_cons, total]
    rcases List.mem_cons.mp hi with rfl | hi
    · exact Nat.add_lt_add_of_lt_of_le hlt (total_map_le hrest)
    · exact Nat.add_lt_add_of_le_of_lt hj (ih hrest hi)

theorem weight_mark (h : Nat) : (mark h).weight = 3 := rfl

theorem weight_opened (h : Nat) : (opened h).weight = 11 := rfl

theorem weight_closed (h : Nat) : (closed h).weight = 15 := rfl

/-- As long as there are links, a pass makes the chain lighter. -/
theorem weight_opening_lt {js : List Nat} (his : Links n is) (hjs : Links n js) (hp : p < n) :
    (and (js.map (opening (p + 1)))).weight < (and (is.map (opening p))).weight := by
  have hnext : p + 1 ∈ is := by
    rw [his.mem]
    omega
  have hle : ∀ i ∈ is, (opening (p + 1) i).weight ≤ (opening p i).weight := by
    intro i _
    rcases Nat.lt_trichotomy i (p + 1) with hi | rfl | hi
    · rw [opening_of_le (by omega), opening_of_le (by omega)]
    · rw [opening_of_le (Nat.le_refl _), opening_next, weight_mark, weight_opened]
      omega
    · rw [opening_of_lt hi, weight_closed]
      rcases Nat.eq_or_lt_of_le hi with rfl | hi
      · rw [opening_next, weight_opened]
        omega
      · rw [opening_of_lt hi, weight_closed]
  have hlt : (opening (p + 1) (p + 1)).weight < (opening p (p + 1)).weight := by
    rw [opening_of_le (Nat.le_refl _), opening_next, weight_mark, weight_opened]
    omega
  have hsame : total (js.map (opening (p + 1))) = total (is.map (opening (p + 1))) :=
    total_of_perm ((hjs.trans his.symm).map _)
  have hlighter := total_map_lt hle hnext hlt
  rw [weight, weight]
  omega

/-- So many more passes open so many more links. -/
theorem optimiseMore_opening (passes : Nat) (his : Links n is) (hpasses : p + passes < n) :
    ∃ js, Links n js ∧ optimiseMore passes (.filter (and (is.map (opening p)))) =
      .filter (and (js.map (opening (p + passes)))) := by
  induction passes generalizing p is with
  | zero => exact ⟨is, his, rfl⟩
  | succ passes ih =>
    obtain ⟨next, hnext, honce⟩ := optimiseOnce_opening his (by omega) p
    have hnew : ((and (is.map (opening p))).optimiseOnce).same (.filter (and (is.map (opening p)))) = false := by
      rw [honce, Bool.eq_false_iff]
      intro hsame
      have hweight := weight_of_same hsame
      have hlighter := weight_opening_lt his hnext (by omega : p < n)
      omega
    obtain ⟨js, hjs, hmore⟩ := ih hnext (by omega : p + 1 + passes < n)
    refine ⟨js, hjs, ?_⟩
    rw [optimiseMore, hnew, honce]
    simp only [Bool.false_eq_true, if_false]
    rw [hmore, Nat.add_right_comm, Nat.add_assoc]

/-- However many passes there are, a chain with one link more is not finished by them: a further pass changes
what they leave. -/
theorem optimiseMore_chain (passes : Nat) :
    ∃ g, optimiseMore passes (chain (passes + 1)).optimiseOnce = .filter g ∧ g.optimiseOnce.same (.filter g) = false := by
  obtain ⟨is, his, hfirst⟩ := optimiseOnce_chain (n := passes + 1) (by omega)
  obtain ⟨js, hjs, hmore⟩ := optimiseMore_opening (p := 0) passes his (by omega)
  obtain ⟨last, hlast, honce⟩ := optimiseOnce_opening hjs (by omega) (0 + passes)
  refine ⟨_, by rw [hfirst, hmore], ?_⟩
  rw [honce, Bool.eq_false_iff]
  intro hsame
  have hweight := weight_of_same hsame
  have hlighter := weight_opening_lt hjs hlast (by omega : 0 + passes < passes + 1)
  omega

theorem comparing_not_mem_chain (key : String) (op : Comparison) (bound : Binary64) (n : Nat) :
    leaf (.comparing key op bound) ∉ (chain n).parts := by
  intro hin
  rw [chain, parts, partsOfEach_eq_flatMap, List.mem_cons, List.mem_flatMap] at hin
  rcases hin with hin | ⟨f, hf, hin⟩
  · cases hin
  · obtain ⟨h, -, rfl⟩ := List.mem_map.mp hf
    rcases Nat.lt_or_ge 0 h with hp | hp
    · rw [waiting_of_lt hp] at hin
      simp [closed, hinge, mark, tag, other, unmarked, Leaf.present, parts, partsOfEach] at hin
    · rw [waiting_of_le hp] at hin
      simp [mark, tag, parts] at hin

/-- A chain with one link more than there are passes, simplified, is not simplified to itself. -/
theorem optimise_chain_again :
    (∀ key op, leaf (.comparing key op .nan) ∉ (chain (maxPasses + 1)).parts) ∧
      ∃ g, (chain (maxPasses + 1)).optimise = .filter g ∧ g.optimise.same (.filter g) = false := by
  have hnan : ∀ key op, leaf (.comparing key op .nan) ∉ (chain (maxPasses + 1)).parts :=
    fun key op => comparing_not_mem_chain key op .nan _
  obtain ⟨g, hg, honce⟩ := optimiseMore_chain maxPasses
  refine ⟨hnan, g, hg, ?_⟩
  rw [Bool.eq_false_iff]
  intro hsame
  rw [(same_optimise_iff carries_same (within_optimise hnan hg)).mp hsame] at honce
  cases honce

end MapTheme.Filter.Chain
