/-
  MapTheme.Proofs.Theme.Order — where the layers that are added come to stand.

  The added layers are stacked in rounds: each round puts before the list what the list needs and has
  not, in the order in which it is found. So a round is the set of layers at one distance from the
  theme, and two layers of one distance stand as they are found, whichever of them needs the other.

  - `Rounds.distance`: a layer of the n-th round is n needs away from the layers of the theme, not fewer.
  - `addDependencyLayers_inOrder_iff`: every added layer stands before those that need it exactly if all
    needs of added layers lead farther, or at one distance to what was found before.
  - `addDependencyLayers_misorders`: needs without a cycle are not enough. Where a layer needs b and c,
    and b needs c, both are found in the first round, and b comes to stand before c.
-/

import Mathlib.Data.List.Pairwise
import Mathlib.Logic.Relation
import Mathlib.Order.Bounds.Basic
import MapTheme.Proofs.Theme.Imports

namespace MapTheme.Theme

open Layer (Dependency)

variable {lib : Library} {place theme : String} {own added : List Document} {rounds : List (List Document)}

/-! ## Needs between layers -/

/-- The layer `e` needs the layer `d`. -/
def Needs (e d : Document) : Prop := ∃ dep ∈ needs e, d.id? = some dep.needed

instance (e d : Document) : Decidable (Needs e d) := inferInstanceAs (Decidable (∃ dep ∈ needs e, _))

theorem not_needs_self (d : Document) : ¬ Needs d d := by
  rintro ⟨dep, hdep, hid⟩
  rcases read_layer "" d with ⟨l, hl, -, hneeds⟩ | ⟨_, -, -, hneeds⟩ <;> rw [hneeds] at hdep
  · simp only [Layer.dependencies, List.mem_eraseDups, List.mem_map, List.mem_filter, bne_iff_ne] at hdep
    obtain ⟨need, ⟨-, hother⟩, rfl⟩ := hdep
    exact hother (id_of_ofDocument hl hid).1.symm
  · cases hdep

/-- No layer needs itself in the end, through layers of the list. -/
def Acyclic (layers : List Document) : Prop :=
  ∀ d, ¬ Relation.TransGen (fun e d => e ∈ layers ∧ d ∈ layers ∧ Needs e d) d d

theorem acyclic_of_rank {layers : List Document} (rank : Document → Nat)
    (h : ∀ e ∈ layers, ∀ d ∈ layers, Needs e d → rank d < rank e) : Acyclic layers := by
  have hlt {e d : Document} (hpath : Relation.TransGen (fun e d => e ∈ layers ∧ d ∈ layers ∧ Needs e d) e d) :
      rank d < rank e := by
    induction hpath with
    | single hstep => exact h _ hstep.1 _ hstep.2.1 hstep.2.2
    | tail _ hstep ih => exact (h _ hstep.1 _ hstep.2.1 hstep.2.2).trans ih
  exact fun d hpath => (hlt hpath).false

/-- Each added layer stands before all layers of the result that need it. -/
def InOrder (added own : List Document) : Prop :=
  ∀ (i j : Nat) (d e : Document), added[i]? = some d → (added ++ own)[j]? = some e → Needs e d → i < j

/-- The layers of the theme stand behind the added ones anyway. -/
theorem inOrder_iff : InOrder added own ↔ added.Pairwise fun e d => ¬ Needs e d := by
  rw [List.pairwise_iff_getElem]
  constructor
  · intro h j i hj hi hji hneeds
    have := h i j added[i] added[j] (List.getElem?_eq_getElem hi)
      (by rw [List.getElem?_append_left hj, List.getElem?_eq_getElem hj]) hneeds
    omega
  · intro h i j d e hd he hneeds
    obtain ⟨hi, rfl⟩ := List.getElem?_eq_some_iff.mp hd
    by_contra hle
    have hj : j < added.length := by omega
    rw [List.getElem?_append_left hj] at he
    obtain ⟨_, rfl⟩ := List.getElem?_eq_some_iff.mp he
    rcases (Nat.le_of_not_lt hle).lt_or_eq with hji | rfl
    · exact h j i hj hi hji hneeds
    · exact not_needs_self _ hneeds

/-! ## Rounds -/

/-- The rounds of a run, the latest one first: each holds the shared layers that the layers before it
need and are without. -/
inductive Rounds (lib : Library) (own : List Document) : List (List Document) → Prop
  | nil : Rounds lib own []
  | cons {earlier : List (List Document)} {found : List Dependency} : Rounds lib own earlier →
      found = missingAmong (layerIdsOf (earlier.flatten ++ own)) ((earlier.flatten ++ own).flatMap needs) →
      found ≠ [] → (∀ dep ∈ found, (lib.layers.find? dep.needed).isSome = true) →
      Rounds lib own (injected lib found :: earlier)

theorem Rounds.of_append {later : List (List Document)} (h : Rounds lib own (later ++ rounds)) : Rounds lib own rounds := by
  induction later with
  | nil => exact h
  | cons round later ih =>
    cases h with
    | cons h => exact ih h

/-- A run without errors goes on with rounds. -/
theorem rounds_of_addMissing (h : Rounds lib own rounds) {n : Nat}
    (hok : (addMissing lib place theme n (rounds.flatten ++ own)).notes.hasErrors = false) :
    ∃ all, Rounds lib own all ∧ (addMissing lib place theme n (rounds.flatten ++ own)).value = all.flatten ++ own := by
  induction n generalizing rounds with
  | zero => exact ⟨rounds, h, rfl⟩
  | succ n ih =>
    rcases addMissing_succ lib place theme n (rounds.flatten ++ own) rfl with
      ⟨herr, -⟩ | ⟨-, -, hout⟩ | ⟨hsome, hfound, hvalue, herrors⟩
    · rw [herr] at hok
      cases hok
    · exact ⟨rounds, h, by rw [hout]⟩
    · rw [hvalue]
      rw [herrors] at hok
      rw [← List.append_assoc, ← List.flatten_cons] at hok ⊢
      exact ih (h.cons rfl hsome hfound) hok

/-! ## Distances -/

/-- The layers that `n` needs lead to from those of the theme, each looked up in the registry. -/
inductive ReachedIn (lib : Library) (own : List Document) : Nat → Document → Prop
  | own {d : Document} : d ∈ own → ReachedIn lib own 0 d
  | shared {n : Nat} {d e : Document} {dep : Dependency} : ReachedIn lib own n d → dep ∈ needs d →
      dep.needed ∉ layerIdsOf own → lib.layers.find? dep.needed = some e →
      ReachedIn lib own (n + 1) (markedFor dep.reason.text e)

/-- The fewest needs that lead from the layers of the theme to one with the id. -/
def Distance (lib : Library) (own : List Document) (d : Document) : Nat → Prop :=
  IsLeast {n | ∃ e, ReachedIn lib own n e ∧ e.id? = d.id?}

theorem mem_needed_missingAmong {present : List String} {ds : List Dependency} {dep : Dependency} (h : dep ∈ ds)
    (hnew : dep.needed ∉ present) : dep.needed ∈ (missingAmong present ds).map (·.needed) := by
  induction ds generalizing present with
  | nil => cases h
  | cons d rest ih =>
    by_cases hd : d.needed ∈ present
    · have hne : dep ≠ d := fun he => hnew (he ▸ hd)
      simpa [missingAmong, hd] using ih (List.mem_of_ne_of_mem hne h) hnew
    · simp only [missingAmong, List.contains_eq_mem, hd, decide_false, Bool.false_eq_true, if_false, List.map_cons,
        List.mem_cons]
      refine or_iff_not_imp_left.mpr fun hne => ih (List.mem_of_ne_of_mem (fun he => hne (he ▸ rfl)) h) ?_
      exact fun hin => (List.mem_cons.mp hin).elim hne hnew

namespace Rounds

/-- What has been added so far. -/
theorem exists_extends (h : Rounds lib own rounds) (hlib : lib.layers.Keyed) :
    ∃ deps, Extends lib own deps (rounds.flatten ++ own) := by
  induction h with
  | nil => exact ⟨[], .nil lib own⟩
  | cons _ hw _ hfound ih =>
    obtain ⟨deps, hext⟩ := ih
    exact ⟨_, by simpa using hext.round hlib hw hfound⟩

/-- After `n` rounds, all that `n` needs lead to is there, perhaps marked with another reason. -/
theorem exists_of_reachedIn (h : Rounds lib own rounds) (hlib : lib.layers.Keyed) {n : Nat} {d : Document}
    (hd : ReachedIn lib own n d) (hn : n ≤ rounds.length) :
    ∃ e ∈ rounds.flatten ++ own, e.id? = d.id? ∧ needs e = needs d := by
  induction h generalizing n d with
  | nil =>
    cases hd with
    | own hd => exact ⟨d, hd, rfl, rfl⟩
    | shared => simp at hn
  | @cons earlier found hearlier hw hsome hfound ih =>
    obtain ⟨deps, hext⟩ := (hearlier.cons hw hsome hfound).exists_extends hlib
    cases hd with
    | own hd => exact ⟨d, List.mem_append_right _ hd, rfl, rfl⟩
    | @shared n parent e dep hparent hdep hnew hfind =>
      obtain ⟨parent', hparent', -, hneeds⟩ := ih hparent (by simpa using hn)
      have hin : dep.needed ∈ layerIdsOf ((injected lib found :: earlier).flatten ++ own) := by
        rw [List.flatten_cons, List.append_assoc, layerIdsOf, List.filterMap_append, ← layerIdsOf, ← layerIdsOf,
          layerIdsOf_injected hlib hfound, List.mem_append, hw]
        refine or_iff_not_imp_right.mpr fun hmissing => mem_needed_missingAmong ?_ hmissing
        exact List.mem_flatMap.mpr ⟨parent', hparent', hneeds ▸ hdep⟩
      obtain ⟨reason, hmem⟩ := hext.exists_marked hlib hin hnew hfind
      exact ⟨_, hmem, by rw [id?_markedFor, id?_markedFor], (markedFor_congr _ _ (hlib _ _ hfind).1).2⟩

theorem id_mem_of_reachedIn (h : Rounds lib own rounds) (hlib : lib.layers.Keyed) {n : Nat} {d : Document}
    (hd : ReachedIn lib own n d) (hn : n ≤ rounds.length) {name : String} (hid : d.id? = some name) :
    name ∈ layerIdsOf (rounds.flatten ++ own) := by
  obtain ⟨e, he, heid, -⟩ := h.exists_of_reachedIn hlib hd hn
  exact List.mem_filterMap.mpr ⟨e, he, heid.trans hid⟩

theorem not_mem_own {name : String} (h : name ∉ layerIdsOf (rounds.flatten ++ own)) : name ∉ layerIdsOf own := by
  rw [layerIdsOf, List.filterMap_append, List.mem_append, not_or] at h
  exact h.2

/-- Each round leads one need further. -/
theorem exists_reachedIn (h : Rounds lib own rounds) :
    ∀ d ∈ rounds.flatten ++ own, ∃ n ≤ rounds.length, ReachedIn lib own n d := by
  induction h with
  | nil => exact fun d hd => ⟨0, le_rfl, .own hd⟩
  | cons _ hw _ _ ih =>
    intro d hd
    rw [List.flatten_cons, List.append_assoc, List.mem_append] at hd
    rcases hd with hd | hd
    · obtain ⟨parent, hparent, dep, hdep, e, hnew, hfind, rfl⟩ := exists_of_mem_injected hw hd
      obtain ⟨n, hn, hreached⟩ := ih parent hparent
      exact ⟨n + 1, by simpa using hn, .shared hreached hdep (not_mem_own hnew) hfind⟩
    · obtain ⟨n, hn, hreached⟩ := ih d hd
      exact ⟨n, by simp only [List.length_cons]; omega, hreached⟩

/-- A layer of the n-th round is `n` needs away from the layers of the theme, and no fewer lead to its id. -/
theorem distance {later : List (List Document)} {round : List Document} {earlier : List (List Document)}
    (h : Rounds lib own (later ++ round :: earlier)) (hlib : lib.layers.Keyed) {d : Document} (hd : d ∈ round) :
    Distance lib own d (earlier.length + 1) := by
  -- Only what was there when the round began decides what is in it.
  cases h.of_append with
  | cons hearlier hw =>
    obtain ⟨parent, hparent, dep, hdep, e, hnew, hfind, rfl⟩ := exists_of_mem_injected hw hd
    obtain ⟨k, hk, hreached⟩ := hearlier.exists_reachedIn parent hparent
    have hid : (markedFor dep.reason.text e).id? = some dep.needed := by rw [id?_markedFor, (hlib _ _ hfind).2]
    -- Whatever fewer needs lead to was there before the round.
    have hfar {n : Nat} {e' : Document} (he' : ReachedIn lib own n e') (hid' : e'.id? = some dep.needed) :
        earlier.length < n := by
      by_contra hle
      exact hnew (hearlier.id_mem_of_reachedIn hlib he' (Nat.le_of_not_lt hle) hid')
    have hmarked := ReachedIn.shared hreached hdep (not_mem_own hnew) hfind
    obtain rfl : k = earlier.length := by
      have := hfar hmarked hid
      omega
    refine ⟨⟨_, hmarked, rfl⟩, ?_⟩
    rintro n ⟨e', he', hid'⟩
    exact hfar he' (hid'.trans hid)

theorem exists_distance (h : Rounds lib own rounds) (hlib : lib.layers.Keyed) :
    ∀ d ∈ rounds.flatten, ∃ n, Distance lib own d n := by
  intro d hd
  obtain ⟨round, hround, hin⟩ := List.mem_flatten.mp hd
  obtain ⟨later, earlier, rfl⟩ := List.append_of_mem hround
  exact ⟨_, h.distance hlib hin⟩

/-- Rounds stand before those that they were found from, so nothing stands before what is farther from the theme. -/
theorem pairwise_distance (h : Rounds lib own rounds) (hlib : lib.layers.Keyed) :
    rounds.flatten.Pairwise fun d e => ∀ m n, Distance lib own d m → Distance lib own e n → n ≤ m := by
  induction h with
  | nil => exact .nil
  | @cons earlier found hearlier hw hsome hfound ih =>
    have hall : Rounds lib own ([] ++ injected lib found :: earlier) := hearlier.cons hw hsome hfound
    have hround {d : Document} (hd : d ∈ injected lib found) : Distance lib own d (earlier.length + 1) :=
      hall.distance hlib hd
    rw [List.flatten_cons, List.pairwise_append]
    refine ⟨List.pairwise_of_forall_mem_list fun d hd e he m n hm hn => ?_, ih, fun d hd e he m n hm hn => ?_⟩
    · exact Nat.le_of_eq (((hround he).unique hn).symm.trans ((hround hd).unique hm))
    · obtain ⟨k, hk, hreached⟩ := hearlier.exists_reachedIn e (List.mem_append_left _ he)
      have hle : n ≤ k := hn.2 ⟨e, hreached, rfl⟩
      rw [← (hround hd).unique hm]
      omega

end Rounds

/-! ## The order -/

/-- The order is right exactly if each need leads away from the theme, or at one distance to a layer that was found
before. -/
theorem inOrder_iff_distance (h : Rounds lib own rounds) (hlib : lib.layers.Keyed) :
    InOrder rounds.flatten own ↔
      ∀ (i j : Nat) (d e : Document) (m n : Nat), rounds.flatten[i]? = some d → rounds.flatten[j]? = some e →
        Needs e d → Distance lib own d m → Distance lib own e n → n < m ∨ m = n ∧ i < j := by
  have hnearer := List.pairwise_iff_getElem.mp (h.pairwise_distance hlib)
  constructor
  · intro horder i j d e m n hd he hneeds hm hn
    obtain ⟨hi, rfl⟩ := List.getElem?_eq_some_iff.mp hd
    obtain ⟨hj, rfl⟩ := List.getElem?_eq_some_iff.mp he
    have hij := horder i j _ _ hd (by rwa [List.getElem?_append_left hj]) hneeds
    have hle := hnearer i j hi hj hij m n hm hn
    omega
  · intro hneed
    rw [inOrder_iff, List.pairwise_iff_getElem]
    intro j i hj hi hji hneeds
    obtain ⟨m, hm⟩ := h.exists_distance hlib _ (List.getElem_mem hi)
    obtain ⟨n, hn⟩ := h.exists_distance hlib _ (List.getElem_mem hj)
    have hle := hnearer j i hj hi hji n m hn hm
    have hlt := hneed i j _ _ m n (List.getElem?_eq_getElem hi) (List.getElem?_eq_getElem hj) hneeds hm hn
    omega

/-- Adding the layers that are needed stacks them in rounds, by their distance from the theme. Each of
them then stands before all layers that need it exactly if no added layer needs one of an earlier round,
or one that stands behind it in its own: if every need leads to a greater distance, or at one distance to
a layer that was found before. -/
theorem addDependencyLayers_inOrder_iff {theme : Document} (h : theme.listAt? "layers" = some own) (place : String)
    (hok : ((addDependencyLayers lib).convert theme place).isOk = true) :
    ∃ result rounds, ((addDependencyLayers lib).convert theme place).result = some result ∧
      result.listAt? "layers" = some (rounds.flatten ++ own) ∧ Rounds lib own rounds ∧
      (InOrder rounds.flatten own ↔
        (∀ round ∈ rounds, round.Pairwise fun e d => ¬ Needs e d) ∧
        rounds.Pairwise fun later earlier => ∀ e ∈ later, ∀ d ∈ earlier, ¬ Needs e d) ∧
      (lib.layers.Keyed →
        (∀ later round earlier, rounds = later ++ round :: earlier → ∀ d ∈ round,
          Distance lib own d (earlier.length + 1)) ∧
        (InOrder rounds.flatten own ↔
          ∀ (i j : Nat) (d e : Document) (m n : Nat), rounds.flatten[i]? = some d → rounds.flatten[j]? = some e →
            Needs e d → Distance lib own d m → Distance lib own e n → n < m ∨ m = n ∧ i < j)) := by
  obtain ⟨hclean, hresult⟩ := result_addDependencyLayers h hok
  obtain ⟨rounds, hrounds, hvalue⟩ := rounds_of_addMissing (Rounds.nil : Rounds lib own []) hclean
  refine ⟨_, rounds, hresult, ?_, hrounds, ?_, ?_⟩
  · rw [listAt?_withLayers (isObject_of_listAt? h)]
    exact congrArg some hvalue
  · rw [inOrder_iff, List.pairwise_flatten]
  · refine fun hlib => ⟨?_, inOrder_iff_distance hrounds hlib⟩
    rintro later round earlier rfl d hd
    exact hrounds.distance hlib hd

/-- A theme of the given layers. -/
def themeOf (layers : List Document) : Document := .object [("id", .text "t"), ("layers", .list layers)]

/-- Two shared layers, of which `b` needs `c`. -/
def chainedLibrary : Library :=
  ⟨[("b", snappingLayer "b" "c"), ("c", .object [("id", .text "c"), ("source", .text "special")])], [], [],
    Settings.default⟩

/-- The two layers as they are added. -/
def chainedLayers : List Document :=
  ["c", "b"].filterMap fun id => (chainedLibrary.layers.find? id).map (markedFor Layer.Reason.snapping.text)

/-- Along a chain all is in order: each round adds one layer, nearer to the end of the chain. -/
theorem addDependencyLayers_inOrder_chain :
    (themeOf [snappingLayer "a" "b"]).listAt? "layers" = some [snappingLayer "a" "b"] ∧
    ((addDependencyLayers chainedLibrary).convert (themeOf [snappingLayer "a" "b"]) "themes:t").isOk = true ∧
    chainedLibrary.layers.Keyed ∧
    ∃ rounds, ((addDependencyLayers chainedLibrary).convert (themeOf [snappingLayer "a" "b"]) "themes:t").result =
        some (themeOf (chainedLayers ++ [snappingLayer "a" "b"])) ∧
      Rounds chainedLibrary [snappingLayer "a" "b"] rounds ∧ rounds.flatten = chainedLayers ∧
      InOrder rounds.flatten [snappingLayer "a" "b"] ∧
      (rounds.Pairwise fun later earlier => ∀ e ∈ later, ∀ d ∈ earlier, ¬ Needs e d) ∧
      ∀ later round earlier, rounds = later ++ round :: earlier → ∀ d ∈ round,
        Distance chainedLibrary [snappingLayer "a" "b"] d (earlier.length + 1) := by
  have hlib : chainedLibrary.layers.Keyed := Registry.keyed_of_all (by decide)
  have hlist : (themeOf [snappingLayer "a" "b"]).listAt? "layers" = some [snappingLayer "a" "b"] := rfl
  have hok : ((addDependencyLayers chainedLibrary).convert (themeOf [snappingLayer "a" "b"]) "themes:t").isOk = true := by
    decide +kernel
  have hresult : ((addDependencyLayers chainedLibrary).convert (themeOf [snappingLayer "a" "b"]) "themes:t").result =
      some (themeOf (chainedLayers ++ [snappingLayer "a" "b"])) := by rfl
  obtain ⟨result, rounds, hr, hls, hrounds, hiff, hdistance⟩ := addDependencyLayers_inOrder_iff hlist "themes:t" hok
  obtain rfl : result = themeOf (chainedLayers ++ [snappingLayer "a" "b"]) := Option.some.inj (hr.symm.trans hresult)
  have hflat : rounds.flatten = chainedLayers := List.append_cancel_right (Option.some.inj hls).symm
  have horder : InOrder rounds.flatten [snappingLayer "a" "b"] := by
    rw [hflat, inOrder_iff]
    decide +kernel
  exact ⟨hlist, hok, hlib, rounds, hresult, hrounds, hflat, horder, (hiff.mp horder).2, (hdistance hlib).1⟩

/-- The layer `a` needs both shared layers, so that one round finds `b` and then `c`, which `b` needs. -/
theorem addDependencyLayers_misorders :
    chainedLibrary.layers.Keyed ∧
    ((addDependencyLayers chainedLibrary).convert (themeOf [snappingLayer "a" "b;c"]) "themes:t").result =
      some (themeOf (chainedLayers.reverse ++ [snappingLayer "a" "b;c"])) ∧
    Acyclic (chainedLayers.reverse ++ [snappingLayer "a" "b;c"]) ∧
    ¬ InOrder chainedLayers.reverse [snappingLayer "a" "b;c"] := by
  refine ⟨Registry.keyed_of_all (by decide), by rfl, ?_, ?_⟩
  · exact acyclic_of_rank (fun d => ["c", "b", "a"].idxOf (d.id?.getD "")) (by decide +kernel)
  · rw [inOrder_iff]
    decide +kernel

end MapTheme.Theme
