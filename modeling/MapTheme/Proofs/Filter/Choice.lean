/-
  MapTheme.Proofs.Filter.Choice — writing an answer makes it true.

  The pairs of an answer are put into a feature one after the other (`Properties.write`). If no key is given two
  values, each of them stays (`get?_write_of_mem`); if none fills a template of the answer, the templates say of the
  new feature what they said of the old one. Then the filter holds of the feature that it was written to
  (`holds_of_written`).
-/

import MapTheme.Proofs.Filter.Answer
import MapTheme.Proofs.Filter.Keys

namespace MapTheme

/-! ## Writing pairs -/

namespace Properties

theorem lookup_map_put (entries : List (String × String)) (key value k : String) :
    (entries.map fun e => if e.1 = key then (key, value) else e).lookup k =
      if k = key then (entries.lookup key).map fun _ => value else entries.lookup k := by
  induction entries with
  | nil => simp
  | cons e rest ih =>
    obtain ⟨name, old⟩ := e
    rw [List.map_cons, List.lookup_cons, List.lookup_cons, List.lookup_cons, ih]
    by_cases hname : name = key
    · subst hname
      by_cases hk : k = name
      · simp [hk]
      · simp [hk, beq_false_of_ne hk]
    · by_cases hk : k = key
      · subst hk
        simp [hname, beq_false_of_ne (Ne.symm hname)]
      · simp [hname, hk]

theorem get?_insert (p : Properties) (key value k : String) :
    (p.insert key value).get? k = if k = key then some value else p.get? k := by
  unfold get? insert put
  split
  · rename_i hkey
    rw [lookup_map_put]
    split
    · obtain ⟨e, he, rfl⟩ := List.mem_map.mp (List.contains_iff_mem.mp hkey)
      have hfound : (p.entries.lookup e.1).isSome = true := List.lookup_isSome_iff.mpr ⟨e, he, by simp⟩
      obtain ⟨old, hold⟩ := Option.isSome_iff_exists.mp hfound
      rw [hold]
      rfl
    · rfl
  · rename_i hkey
    rw [List.lookup_append]
    by_cases hk : k = key
    · subst hk
      have hnone : p.entries.lookup k = none := by
        rw [List.lookup_eq_none_iff]
        intro e he
        rw [bne_iff_ne]
        rintro rfl
        exact hkey (List.contains_iff_mem.mpr (List.mem_map_of_mem he))
      simp [hnone]
    · simp [hk]

/-- The properties with every pair put in, one after the other. -/
def write (p : Properties) (change : Change) : Properties := change.foldl (fun p e => p.insert e.1 e.2) p

/-- A key that no pair names is as before. -/
theorem get?_write_of_not_mem {p : Properties} {change : Change} {key : String} (h : ∀ e ∈ change, e.1 ≠ key) :
    (p.write change).get? key = p.get? key := by
  induction change generalizing p with
  | nil => rfl
  | cons e rest ih =>
    have hkey : key ≠ e.1 := Ne.symm (h e List.mem_cons_self)
    have hrest : ((p.insert e.1 e.2).write rest).get? key = (p.insert e.1 e.2).get? key :=
      ih fun d hd => h d (List.mem_cons_of_mem e hd)
    rw [get?_insert, if_neg hkey] at hrest
    exact hrest

end Properties

/-- No key is given two different values. -/
def Change.Consistent (change : Change) : Prop := ∀ e ∈ change, ∀ d ∈ change, e.1 = d.1 → e.2 = d.2

instance (change : Change) : Decidable change.Consistent :=
  inferInstanceAs (Decidable (∀ e ∈ change, ∀ d ∈ change, e.1 = d.1 → e.2 = d.2))

/-- After consistent pairs have been written each of them is there, an empty value too. -/
theorem Properties.get?_write_of_mem {p : Properties} {change : Change} (hc : change.Consistent) {e : String × String}
    (he : e ∈ change) : (p.write change).get? e.1 = some e.2 := by
  induction change generalizing p e with
  | nil => cases he
  | cons first rest ih =>
    have hrest : Change.Consistent rest :=
      fun a ha b hb => hc a (List.mem_cons_of_mem first ha) b (List.mem_cons_of_mem first hb)
    -- The last pair of the key decides, and it has the same value.
    by_cases hlater : ∃ d ∈ rest, d.1 = e.1
    · obtain ⟨d, hd, hkey⟩ := hlater
      have hvalue : d.2 = e.2 := hc d (List.mem_cons_of_mem first hd) e he hkey
      have hread : ((p.insert first.1 first.2).write rest).get? d.1 = some d.2 := ih hrest hd
      rw [hkey, hvalue] at hread
      exact hread
    · have hlast : ∀ d ∈ rest, d.1 ≠ e.1 := fun d hd hkey => hlater ⟨d, hd, hkey⟩
      rcases List.mem_cons.mp he with rfl | he
      · have hread : ((p.insert e.1 e.2).write rest).get? e.1 = (p.insert e.1 e.2).get? e.1 :=
          get?_write_of_not_mem hlast
        rw [get?_insert, if_pos rfl] at hread
        exact hread
      · exact absurd rfl (hlast e he)

/-! ## Answers -/

/-- A leaf holds where its pairs are, if its template still gives what was written. -/
theorem Leaf.holds_of_change {l : Leaf} {p q : Properties} {change : Change} (h : l.change p = .ok change)
    (hwritten : ∀ e ∈ change, q.value e.1 = e.2)
    (hfilled : ∀ key template, l = .substituting key template → substitute template q = substitute template p) :
    l.holds q = true := by
  cases l with
  | tag key value =>
    cases h
    rw [holds, hwritten _ List.mem_cons_self, beq_self_eq_true]
  | substituting key template =>
    cases h
    rw [holds, hwritten _ List.mem_cons_self, hfilled key template rfl, beq_self_eq_true]
  | comparing key op bound => cases h
  | regex key value invert =>
    cases key with
    | pattern key => cases h
    | exact key =>
      cases value with
      | pattern value => cases h
      | exact value =>
        cases invert with
        | true => cases h
        | false =>
          cases h
          rw [holds, hwritten _ List.mem_cons_self, Matcher.accepts, beq_self_eq_true]
          rfl

namespace Filter

variable {p q : Properties}

/-- What is written for a conjunction holds what is written for each of its parts. -/
theorem exists_change_of_mem {fs : List Filter} {change : Change} (h : changeOfEach p fs = .ok change) {f : Filter}
    (hf : f ∈ fs) : ∃ part, f.change p = .ok part ∧ part ⊆ change := by
  induction fs generalizing change with
  | nil => cases hf
  | cons g rest ih =>
    rw [changeOfEach] at h
    cases hfirst : Filter.change p g with
    | error fault =>
      rw [hfirst] at h
      cases h
    | ok first =>
      cases hrest : changeOfEach p rest with
      | error fault =>
        rw [hfirst, hrest] at h
        cases h
      | ok others =>
        rw [hfirst, hrest] at h
        cases h
        rcases List.mem_cons.mp hf with rfl | hf
        · exact ⟨first, hfirst, List.subset_append_left first others⟩
        · obtain ⟨part, hpart, hsub⟩ := ih hrest hf
          exact ⟨part, hpart, List.subset_append_of_subset_right first hsub⟩

/-- A filter holds where its pairs are, if its templates still give what was written. -/
theorem holds_of_change {f : Filter} {change : Change} (h : f.change p = .ok change)
    (hwritten : ∀ e ∈ change, q.value e.1 = e.2)
    (hfilled : ∀ key template, leaf (.substituting key template) ∈ f.parts →
      substitute template q = substitute template p) : f.holds q = true := by
  induction f using Filter.induction generalizing change with
  | leaf l =>
    rw [Filter.change] at h
    rw [holds_leaf]
    refine Leaf.holds_of_change h hwritten fun key template hl => hfilled key template ?_
    rw [hl, parts]
    exact List.mem_cons_self
  | and fs ih =>
    rw [Filter.change] at h
    rw [holds_and, List.all_eq_true]
    intro f hf
    obtain ⟨part, hpart, hsub⟩ := exists_change_of_mem h hf
    exact ih f hf hpart (fun e he => hwritten e (hsub he)) fun key template hl =>
      hfilled key template (leaf_mem_parts hf hl).1
  | or fs ih =>
    match fs with
    | [f] =>
      rw [Filter.change] at h
      have hf : f.holds q = true := ih f List.mem_cons_self h hwritten fun key template hl =>
        hfilled key template (leaf_mem_parts List.mem_cons_self hl).2
      rw [holds_or, List.any_cons, hf, Bool.true_or]
    | [] | _ :: _ :: _ =>
      simp only [Filter.change] at h
      cases h

/-- An answer can be written to every feature, and it is true of the feature that it was written to: every pair is
there then, and the filter holds, unless two pairs of one key differ or a pair fills a template of the filter. -/
theorem holds_of_written {f : Filter} (husable : f.isUsable = true) (p : Properties) :
    ∃ change, f.change p = .ok change ∧
      (change.Consistent →
        (∀ key template, leaf (.substituting key template) ∈ f.parts → ∀ e ∈ change, e.1 ∉ placeholders template) →
        (∀ e ∈ change, (p.write change).get? e.1 = some e.2) ∧ f.holds (p.write change) = true) := by
  obtain ⟨change, hchange⟩ := (exists_ok_iff_isOk (f.change p)).mpr ((isOk_change p f).trans husable)
  refine ⟨change, hchange, fun hconsistent hapart => ?_⟩
  have hthere : ∀ e ∈ change, (p.write change).get? e.1 = some e.2 :=
    fun e he => Properties.get?_write_of_mem hconsistent he
  refine ⟨hthere, holds_of_change hchange (fun e he => ?_) fun key template hl => ?_⟩
  · rw [Properties.value, hthere e he, Option.getD_some]
  · refine substitute_congr fun name hname => ?_
    have hother : ∀ e ∈ change, e.1 ≠ name := by
      rintro e he rfl
      exact hapart key template hl e he hname
    rw [Properties.value, Properties.value, Properties.get?_write_of_not_mem hother]

/-- A bench that is named twice, without a note, and with the number that its id gives. -/
def answeredBench : Filter :=
  .and [.or [.and [.tag "amenity" "bench", .tag "fixme" ""]], .tag "amenity" "bench",
    .leaf (.regex (.exact "backrest") (.exact "yes") false), .leaf (.substituting "ref" "node/\x7bid\x7d")]

def notedBench : Properties := .ofList [("id", "7"), ("fixme", "check"), ("ref", "3")]

theorem holds_of_written_bench :
    answeredBench.isUsable = true ∧ ∃ change, answeredBench.change notedBench = .ok change ∧ change.Consistent ∧
      (∀ key template, leaf (.substituting key template) ∈ answeredBench.parts →
        ∀ e ∈ change, e.1 ∉ placeholders template) ∧
      (notedBench.write change).get? "fixme" = some "" ∧ (notedBench.write change).get? "ref" = some "node/7" ∧
      answeredBench.holds (notedBench.write change) = true := by
  have husable : answeredBench.isUsable = true := by decide
  obtain ⟨change, hchange, hholds⟩ := holds_of_written husable notedBench
  have hgiven : answeredBench.change notedBench = .ok [("amenity", "bench"), ("fixme", ""), ("amenity", "bench"),
    ("backrest", "yes"), ("ref", "node/7")] := by rfl
  rw [hgiven] at hchange
  cases hchange
  have hconsistent : Change.Consistent [("amenity", "bench"), ("fixme", ""), ("amenity", "bench"),
    ("backrest", "yes"), ("ref", "node/7")] := by decide
  have hapart : ∀ key template, leaf (.substituting key template) ∈ answeredBench.parts →
      ∀ e ∈ [("amenity", "bench"), ("fixme", ""), ("amenity", "bench"), ("backrest", "yes"), ("ref", "node/7")],
        e.1 ∉ placeholders template := by
    intro key template hl
    simp only [answeredBench, parts, partsOfEach, tag, List.cons_append, List.nil_append, List.mem_cons,
      leaf.injEq, reduceCtorEq, List.not_mem_nil, false_or, or_false, Leaf.substituting.injEq] at hl
    obtain ⟨-, rfl⟩ := hl
    decide
  obtain ⟨hthere, htrue⟩ := hholds hconsistent hapart
  exact ⟨husable, _, hgiven, hconsistent, hapart, hthere ("fixme", "") (by simp), hthere ("ref", "node/7") (by simp),
    htrue⟩

end Filter

end MapTheme
