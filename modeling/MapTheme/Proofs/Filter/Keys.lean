/-
  MapTheme.Proofs.Filter.Keys — the keys that a filter reads decide it.

  Two features agree on some keys if each key has the same value in both, or is missing in both
  (`Properties.AgreeOn`). A template takes from a feature only what its placeholders name (`substitute_congr`), so
  features that agree on the keys of a leaf give it the same truth and the same pairs to write
  (`Leaf.holds_of_agree`, `Leaf.change_of_agree`), and with the leaves the whole filter (`usedKeys_decide`).
-/

import MapTheme.Filter.Answer
import MapTheme.Proofs.Filter.Meaning
import MapTheme.Proofs.Filter.Template

namespace MapTheme

/-! ## Features that agree -/

/-- Each of the keys has the same value in both, or is missing in both. -/
def Properties.AgreeOn (keys : List String) (p q : Properties) : Prop := ∀ key ∈ keys, p.get? key = q.get? key

namespace Properties.AgreeOn

variable {keys : List String} {p q : Properties}

theorem value (h : AgreeOn keys p q) {key : String} (hkey : key ∈ keys) : p.value key = q.value key := by
  rw [Properties.value, Properties.value, h key hkey]

theorem mono (h : AgreeOn keys p q) {ks : List String} (hsub : ks ⊆ keys) : AgreeOn ks p q :=
  fun key hkey => h key (hsub hkey)

end Properties.AgreeOn

/-! ## Leaves -/

namespace Leaf

variable {l : Leaf} {keys : List String} {p q : Properties}

theorem holds_of_agree (hkeys : Filter.Leaf.usedKeys? l = some keys) (h : p.AgreeOn keys q) :
    l.holds p = l.holds q := by
  cases l with
  | tag key value =>
    cases hkeys
    exact holds_congr rfl (h.value List.mem_cons_self)
  | comparing key op bound =>
    cases hkeys
    exact holds_congr rfl (h.value List.mem_cons_self)
  | substituting key template =>
    cases hkeys
    have htemplate : substitute template p = substitute template q :=
      substitute_congr fun k hk => h.value (List.mem_cons_of_mem key hk)
    rw [holds, holds, h.value List.mem_cons_self, htemplate]
  | regex key value invert =>
    cases key with
    | exact key =>
      cases hkeys
      exact holds_congr rfl (h.value List.mem_cons_self)
    | pattern key => cases hkeys

theorem change_of_agree (hkeys : Filter.Leaf.usedKeys? l = some keys) (h : p.AgreeOn keys q) :
    l.change p = l.change q := by
  cases l with
  | tag | comparing => rfl
  | substituting key template =>
    cases hkeys
    have htemplate : substitute template p = substitute template q :=
      substitute_congr fun k hk => h.value (List.mem_cons_of_mem key hk)
    rw [change, change, htemplate]
  | regex key value invert => cases key <;> cases value <;> cases invert <;> rfl

end Leaf

/-! ## Filters -/

namespace Filter

/-- What a combination reads is what its children read. -/
theorem keysRead_of_mem {fs : List Filter} {keys : List String} (h : keysReadByEach? fs = some keys) {f : Filter}
    (hf : f ∈ fs) : ∃ ks, f.keysRead? = some ks ∧ ks ⊆ keys := by
  induction fs generalizing keys with
  | nil => cases hf
  | cons g rest ih =>
    rw [keysReadByEach?] at h
    obtain ⟨first, hfirst, h⟩ := Option.bind_eq_some_iff.mp h
    obtain ⟨others, hothers, rfl⟩ := Option.map_eq_some_iff.mp h
    rcases List.mem_cons.mp hf with rfl | hf
    · exact ⟨first, hfirst, List.subset_append_left first others⟩
    · obtain ⟨ks, hks, hsub⟩ := ih hothers hf
      exact ⟨ks, hks, List.subset_append_of_subset_right first hsub⟩

theorem changeOfEach_congr {p q : Properties} {fs : List Filter} (h : ∀ f ∈ fs, f.change p = f.change q) :
    changeOfEach p fs = changeOfEach q fs := by
  induction fs with
  | nil => rfl
  | cons f rest ih =>
    rw [changeOfEach, changeOfEach, h f List.mem_cons_self, ih fun g hg => h g (List.mem_cons_of_mem f hg)]

variable {p q : Properties}

/-- Both are shown at once, as a single induction finds the keys of the children. -/
theorem decided_of_agree {f : Filter} {keys : List String} (hkeys : f.keysRead? = some keys) (h : p.AgreeOn keys q) :
    f.holds p = f.holds q ∧ f.change p = f.change q := by
  induction f using Filter.induction generalizing keys with
  | leaf l =>
    rw [holds_leaf, holds_leaf, change, change]
    exact ⟨Leaf.holds_of_agree hkeys h, Leaf.change_of_agree hkeys h⟩
  | and fs ih =>
    have hchild : ∀ f ∈ fs, f.holds p = f.holds q ∧ f.change p = f.change q := by
      intro f hf
      obtain ⟨ks, hks, hsub⟩ := keysRead_of_mem hkeys hf
      exact ih f hf hks (h.mono hsub)
    have hmap : fs.map (holds p) = fs.map (holds q) := List.map_congr_left fun f hf => (hchild f hf).1
    refine ⟨?_, ?_⟩
    · simpa only [holds_and, List.all_map, Function.id_comp] using congrArg (List.all · id) hmap
    · rw [change, change, changeOfEach_congr fun f hf => (hchild f hf).2]
  | or fs ih =>
    have hchild : ∀ f ∈ fs, f.holds p = f.holds q ∧ f.change p = f.change q := by
      intro f hf
      obtain ⟨ks, hks, hsub⟩ := keysRead_of_mem hkeys hf
      exact ih f hf hks (h.mono hsub)
    have hmap : fs.map (holds p) = fs.map (holds q) := List.map_congr_left fun f hf => (hchild f hf).1
    refine ⟨?_, ?_⟩
    · simpa only [holds_or, List.any_map, Function.id_comp] using congrArg (List.any · id) hmap
    · match fs with
      | [f] => rw [change, change, (hchild f List.mem_cons_self).2]
      -- Nothing is written for an alternative of none or of several.
      | [] | _ :: _ :: _ => simp only [change]

theorem mem_sortedDistinct {ss : List String} {s : String} : s ∈ sortedDistinct ss ↔ s ∈ ss := by
  rw [sortedDistinct, List.mem_eraseDups, List.mem_mergeSort]

/-- Where the keys that a filter reads are known, features that agree on them are all one to it: it holds of both or
of neither, and the same pairs are written to choose it. -/
theorem usedKeys_decide {f : Filter} {keys : List String} (hkeys : f.usedKeys? = some keys)
    (h : p.AgreeOn keys q) : f.holds p = f.holds q ∧ f.change p = f.change q := by
  obtain ⟨read, hread, rfl⟩ := Option.map_eq_some_iff.mp hkeys
  have hagree : p.AgreeOn read q := fun key hkey => h key (mem_sortedDistinct.mpr hkey)
  exact decided_of_agree hread hagree

/-- A bench whose template has a brace inside a hole, and one that is never closed. -/
def bracedBench : Filter :=
  .and [.or [.tag "amenity" "bench"], .leaf (.substituting "ref" "\x7ba\x7bb\x7d/\x7bid\x7d\x7brest")]

def bracedKeys : List String := sortedDistinct ["amenity", "ref", "a\x7bb", "id"]

def oldBench : Properties := .ofList [("amenity", "bench"), ("id", "7"), ("ref", "/7\x7brest"), ("a", "1")]

def newBench : Properties :=
  .ofList [("rest", "3"), ("ref", "/7\x7brest"), ("b", "2"), ("id", "7"), ("amenity", "bench")]

theorem usedKeys_decide_braced :
    bracedBench.usedKeys? = some bracedKeys ∧ oldBench.AgreeOn bracedKeys newBench ∧ bracedBench.holds oldBench = true ∧
      bracedBench.holds oldBench = bracedBench.holds newBench ∧
      bracedBench.change oldBench = bracedBench.change newBench := by
  have hkeys : bracedBench.usedKeys? = some bracedKeys := rfl
  have hagree : oldBench.AgreeOn bracedKeys newBench := by
    intro key hkey
    have hgiven : ∀ k ∈ ["amenity", "ref", "a\x7bb", "id"], oldBench.get? k = newBench.get? k := by decide
    exact hgiven key (mem_sortedDistinct.mp hkey)
  exact ⟨hkeys, hagree, by decide, usedKeys_decide hkeys hagree⟩

end Filter

end MapTheme
