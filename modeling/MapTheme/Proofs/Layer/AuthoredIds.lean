/-
  MapTheme.Proofs.Layer.AuthoredIds — what becomes of the ids that an author has written.

  The entries of an authored list give their renderings in their places, and an entry that is a rendering gives
  itself (`StandFor.exists_of_rendering`). From then on the list keeps its places: generated ids are made distinct,
  blocks are written out, and a map and a question box go behind the others (`exists_shown_of_result`).

  The step for generated ids is to keep those that an author has written, but tells the two apart by their shape
  alone. So an id is lost exactly if the text beside it would give it, there is nothing else in the rendering, and
  another rendering has the id (`prepareLayer_keeps_id_iff`); `authored_id_is_renamed` is such a layer.
-/

import MapTheme.Proofs.Layer.Repetition
import MapTheme.Proofs.Rendering.Renaming

namespace MapTheme

/-! ## Lists of entries -/

namespace Expansion

variable {step : Expansion} {entry result : Document} {front back items renderings : List Document} {place : String}

/-- What a list of entries gives: the results of each, one after the other. -/
inductive Gives (step : Expansion) : List Document → List Document → Prop
  | nil : Gives step [] []
  | cons {entry : Document} {place : String} {found rest renderings : List Document} :
      (step.convert entry place).result = some found → Gives step rest renderings →
        Gives step (entry :: rest) (found ++ renderings)

theorem Gives.exists_of_append (h : step.Gives (front ++ back) renderings) :
    ∃ before after, renderings = before ++ after ∧ step.Gives front before ∧ step.Gives back after := by
  induction front generalizing renderings with
  | nil => exact ⟨[], renderings, rfl, .nil, h⟩
  | cons entry front ih =>
    cases h with
    | @cons _ _ found _ _ hfound h =>
      obtain ⟨before, after, rfl, hbefore, hafter⟩ := ih h
      exact ⟨found ++ before, after, (List.append_assoc found before after).symm, .cons hfound hbefore, hafter⟩

/-- An entry that gives itself does so between what those before and behind it give. -/
theorem Gives.exists_of_itself (hself : ∀ place, step.convert entry place = .success [entry])
    (h : step.Gives (front ++ entry :: back) renderings) :
    ∃ before after, renderings = before ++ entry :: after ∧ step.Gives front before ∧ step.Gives back after := by
  obtain ⟨before, after, rfl, hbefore, hafter⟩ := h.exists_of_append
  cases hafter with
  | cons hfound hrest =>
    rw [hself] at hfound
    obtain rfl := Option.some.inj hfound
    exact ⟨before, _, rfl, hbefore, hrest⟩

theorem gives_of_concat (hstep : step.Honest)
    (h : ((Step.concat step).convert (.list items) place).result = some result) :
    ∃ found, result = .list found ∧ step.Gives items found := by
  obtain ⟨found, hfound, rfl⟩ := Converted.result_of_map h
  refine ⟨found.flatten, rfl, ?_⟩
  have hitems := Step.forall₂_of_convertItems hstep.isSome hfound
  clear h hfound
  induction hitems with
  | nil => exact .nil
  | cons hentry _ ih =>
    obtain ⟨_, hentry⟩ := hentry
    exact .cons hentry ih

end Expansion

namespace Step

/-- A step on a field that is there leaves its result there. -/
theorem exists_get?_of_on {step : Step} {input result field : Document} {key place : String}
    (h : ((on key step).convert input place).result = some result) (hfield : input.get? key = some field) :
    ∃ value, result.get? key = some value ∧ (step.convert field (fieldPlace place key)).result = some value := by
  have hthere := isSome_get?_on h
  rw [hfield] at hthere
  obtain ⟨value, hvalue⟩ := Option.isSome_iff_exists.mp hthere
  obtain ⟨_, hsame, hr⟩ := exists_of_get?_on h hvalue
  obtain rfl := Option.some.inj (hfield.symm.trans hsame)
  exact ⟨value, hvalue, hr⟩

end Step

namespace Rendering

variable {lib : Library} {entry : Document} {front back renderings named shown : List Document} {id : String} {i : Nat}

/-! ## What entries stand for -/

theorem expandCopies_honest : Conversion.Honest expandCopies := by
  intro input place
  simp only [expandCopies]
  split
  · exact Step.honest_success _
  · split
    · exact Step.honest_failure place _
    · exact Step.honest_map _ (Step.honest_finish _)

theorem expandReference_honest (lib : Library) : Conversion.Honest (expandReference lib) :=
  fun _ _ => Step.honest_finish _

/-- The renderings that entries stand for: copies are made first, then references resolved. -/
def StandFor (lib : Library) (entries renderings : List Document) : Prop :=
  ∃ copies, Expansion.Gives expandCopies entries copies ∧ Expansion.Gives (expandReference lib) copies renderings

/-- A rendering stands for itself, in its place. -/
theorem StandFor.exists_of_rendering (hentry : isResolved entry = true)
    (h : StandFor lib (front ++ entry :: back) renderings) :
    ∃ before after, renderings = before ++ entry :: after ∧ StandFor lib front before ∧ StandFor lib back after := by
  obtain ⟨copies, hcopies, hfound⟩ := h
  obtain ⟨beforeCopies, afterCopies, rfl, hfront, hback⟩ :=
    hcopies.exists_of_itself (expandCopies_of_rendering hentry)
  obtain ⟨before, after, rfl, hbefore, hafter⟩ := hfound.exists_of_itself (expandReference_of_rendering lib hentry)
  exact ⟨before, after, rfl, ⟨beforeCopies, hfront, hbefore⟩, ⟨afterCopies, hback, hafter⟩⟩

theorem expandReference_of_call {name : String} (hname : lib.renderings.find? name = none)
    (hcall : (Special.calls name).isEmpty = false) (place : String) :
    (expandReference lib).convert (.text name) place = .success [inlineRendering name] := by
  have hresolve : resolve lib maxDepth place (.text name) = pure [inlineRendering name] := by
    rw [resolve_eq_expandEntry, expandEntry]
    simp [lookUp, hname, hcall]
  exact congrArg Noted.finish hresolve

/-- A text with a call stands for one rendering, with the id that it gives. -/
theorem StandFor.eq_of_call {name : String} (hname : lib.renderings.find? name = none)
    (hcall : (Special.calls name).isEmpty = false) (h : StandFor lib [.text name] renderings) :
    renderings = [inlineRendering name] := by
  have hlist : [Document.text name] = [] ++ .text name :: [] := rfl
  obtain ⟨copies, hcopies, hfound⟩ := h
  rw [hlist] at hcopies
  obtain ⟨_, _, rfl, ⟨⟩, ⟨⟩⟩ := hcopies.exists_of_itself fun _ => rfl
  cases hfound with
  | cons hfound hrest =>
    cases hrest
    rw [expandReference_of_call hname hcall] at hfound
    obtain rfl := Option.some.inj hfound
    rfl

/-! ## What becomes of a rendering in its place -/

/-- The same rendering; if its id is a generated one, with any id. -/
def Named (r named : Document) : Prop := named = r ∨ ∃ base id, generatedId? r = some base ∧ named = withId id r

/-- The blocks inside are written out. -/
def WrittenOut (r d : Document) : Prop := ∃ place, d = (replaceBlocks place r).value

/-- The same rendering but for the id, if this is generated, and the blocks inside, which are written out. -/
def ShownAs (r d : Document) : Prop := ∃ named, Named r named ∧ WrittenOut named d

theorem forall₂_named_renameFrom (used : List String) (renderings : List Document) :
    List.Forall₂ Named renderings (renameFrom used renderings) := by
  induction renderings generalizing used with
  | nil => exact .nil
  | cons r rest ih =>
    rw [renameFrom]
    split
    · exact .cons (.inl rfl) (ih _)
    · rename_i base hbase
      exact .cons (.inr ⟨base, _, hbase, rfl⟩) (ih _)

/-- Only a wording has no place for an id, and it is no rendering with one. -/
theorem WrittenOut.id? {r d : Document} (h : WrittenOut r d) (hid : r.id? = some id) : d.id? = some id := by
  obtain ⟨place, rfl⟩ := h
  cases r with
  | object fields =>
    rw [replaceBlocks]
    split
    · split
      · rename_i hwording
        rw [id?_of_wordingOf hwording] at hid
        cases hid
      · exact hid
    · exact (textAt?_replaceInBlockFields place fields "id").trans hid
  | null | bool | number | text | list => cases hid

/-- What is written out brings in no id that could be a generated one. -/
theorem WrittenOut.id?_iff {r d : Document} (h : WrittenOut r d) (hplain : '\x7b' ∉ id.toList) :
    d.id? = some id ↔ r.id? = some id := by
  refine ⟨fun hid => ?_, h.id?⟩
  obtain ⟨place, rfl⟩ := h
  rcases (replaceBlocks_sameIds place r).2 with hkept | ⟨text, htext, hbrace⟩
  · exact hkept ▸ hid
  · exact absurd (Option.some.inj (htext.symm.trans hid) ▸ hbrace) hplain

theorem exists_getElem?_of_forall₂ {R : Document → Document → Prop} (h : List.Forall₂ R named shown)
    {r : Document} (hr : named[i]? = some r) : ∃ d, shown[i]? = some d ∧ R r d := by
  induction h generalizing i with
  | nil => cases hr
  | @cons r' d' _ _ hd _ ih =>
    cases i with
    | zero =>
      obtain rfl := Option.some.inj hr
      exact ⟨d', rfl, hd⟩
    | succ k => exact ih hr

theorem idElsewhere_iff_of_writtenOut (h : List.Forall₂ WrittenOut named shown) (hplain : '\x7b' ∉ id.toList) :
    IdElsewhere shown i id ↔ IdElsewhere named i id := by
  have hids : ∀ j : Nat, shown[j]?.bind Document.id? = some id ↔ named[j]?.bind Document.id? = some id := by
    induction h with
    | nil => exact fun _ => Iff.rfl
    | cons hd _ ih =>
      intro j
      cases j with
      | zero => exact hd.id?_iff hplain
      | succ k => exact ih k
  simp only [IdElsewhere, hids]

/-- A rendering that is renamed and written out keeps its id, unless this is generated and another one's, too. -/
theorem exists_shown_at (hshown : List.Forall₂ WrittenOut (distinctIds renderings) shown)
    (hentry : renderings[i]? = some entry) (hid : entry.id? = some id) :
    ∃ d, shown[i]? = some d ∧ (d.id? = some id ↔ generatedId? entry = none ∨ ¬ IdElsewhere shown i id) := by
  cases hgen : generatedId? entry with
  | none =>
    obtain ⟨d, hd, hwritten⟩ := exists_getElem?_of_forall₂ hshown (getElem?_renameFrom_of_none hentry hgen)
    exact ⟨d, hd, by simp [hwritten.id? hid]⟩
  | some base =>
    obtain rfl : base = id := Option.some.inj ((id?_of_generatedId? hgen).symm.trans hid)
    have hplain : '\x7b' ∉ base.toList := fun hbrace => absurd (isNameChar_of_generatedId? hgen hbrace) (by decide)
    obtain ⟨n, hn⟩ := exists_renamedAt hentry hgen
    obtain ⟨d, hd, hwritten⟩ := exists_getElem?_of_forall₂ hshown hn.entry
    refine ⟨d, hd, ?_⟩
    rw [hwritten.id? (id?_withId hgen _), idElsewhere_iff_of_writtenOut hshown hplain, ← hn.kept_iff]
    simp

end Rendering

namespace Layer

open Rendering (ofLayer StandFor WrittenOut ShownAs IdElsewhere distinctIds generatedId? isResolved)

variable {lib : Library} {layer input result entry : Document} {entries front back : List Document} {place id : String}

/-! ## The preparation -/

theorem ofLayer_addMiniMap (h : ((addMiniMap lib).convert input place).result = some result) :
    ∃ added, ofLayer result = ofLayer input ++ added ∧ ∀ r ∈ added, lib.renderings.find? "minimap" = some r := by
  rcases of_addMiniMap h with ⟨rfl, -⟩ | ⟨map, hmap, hneeds, rfl⟩
  · exact ⟨[], (List.append_nil _).symm, by simp⟩
  · exact ⟨[map], ofLayer_withRendering (ofLayer_ne_nil_of_needsMiniMap hneeds) map, by simp [hmap]⟩

theorem ofLayer_addQuestionBox (h : ((addQuestionBox lib).convert input place).result = some result) :
    ∃ added, ofLayer result = ofLayer input ++ added ∧ ∀ r ∈ added, r = questionBox := by
  rcases of_addQuestionBox h with ⟨rfl, -⟩ | ⟨hneeds, rfl⟩
  · exact ⟨[], (List.append_nil _).symm, by simp⟩
  · exact ⟨[questionBox], ofLayer_withRendering (ofLayer_ne_nil_of_needsQuestionBox hneeds) questionBox, by simp⟩

/-- The steps up to the blocks make the list; every one of its entries has a place in it. -/
theorem exists_writtenOut (hlib : lib.Distinct) {start : Noted Document} (hstart : start.value.Distinct)
    (hentries : start.value.get? "tagRenderings" = some (.list entries))
    (h : (Step.runAll place (preparationSteps lib) start).result = some result) :
    ∃ (renderings shown : List Document) (next : Noted Document), StandFor lib entries renderings ∧
      List.Forall₂ WrittenOut (distinctIds renderings) shown ∧
      next.value.Distinct ∧ next.value.get? "tagRenderings" = some (.list shown) ∧
      (Step.runAll place ((preparationSteps lib).drop 4) next).result = some result := by
  obtain ⟨copied, hcopied, h⟩ := Step.exists_of_runAll_cons h
  obtain ⟨resolved, hresolved, h⟩ := Step.exists_of_runAll_cons h
  obtain ⟨named, hnamed, h⟩ := Step.exists_of_runAll_cons h
  obtain ⟨written, hwritten, h⟩ := Step.exists_of_runAll_cons h
  have hdistinct : written.value.Distinct := by
    have hkeep := preparationSteps_keepDistinct hlib
    simp only [preparationSteps, List.forall_mem_cons] at hkeep
    obtain ⟨h1, h2, h3, h4, -⟩ := hkeep
    exact h4 (h3 (h2 (h1 hstart hcopied) hresolved) hnamed) hwritten
  -- Each step finds the list that the one before has left under the key.
  obtain ⟨_, hget, hr⟩ := Step.exists_get?_of_on hcopied hentries
  obtain ⟨copies, rfl, hcopies⟩ := Expansion.gives_of_concat Rendering.expandCopies_honest hr
  obtain ⟨_, hget, hr⟩ := Step.exists_get?_of_on hresolved hget
  obtain ⟨renderings, rfl, hrenderings⟩ := Expansion.gives_of_concat (Rendering.expandReference_honest lib) hr
  obtain ⟨_, hget, hr⟩ := Step.exists_get?_of_on hnamed hget
  obtain rfl := Option.some.inj hr
  obtain ⟨_, hget, hr⟩ := Step.exists_get?_of_on hwritten hget
  obtain ⟨shown, hshown, rfl⟩ := Converted.result_of_map hr
  refine ⟨renderings, shown, written, ⟨copies, hcopies, hrenderings⟩, ?_, hdistinct, hget, h⟩
  refine (Step.forall₂_of_convertItems Rendering.replaceSpecialBlocks_honest.isSome hshown).imp ?_
  rintro r d ⟨p, hp⟩
  exact ⟨p, (Noted.result_finish hp).2.symm⟩

/-- The steps behind the blocks put a map and a question box behind the list, and leave it as it is otherwise. -/
theorem ofLayer_of_drop (hlib : lib.Distinct) {start : Noted Document} (hstart : start.value.Distinct)
    (h : (Step.runAll place ((preparationSteps lib).drop 4) start).result = some result) :
    ∃ added, ofLayer result = ofLayer start.value ++ added ∧
      ∀ r ∈ added, lib.renderings.find? "minimap" = some r ∨ r = questionBox := by
  obtain ⟨styled, hstyled, h⟩ := Step.exists_of_runAll_cons h
  obtain ⟨defaulted, hdefaulted, h⟩ := Step.exists_of_runAll_cons h
  obtain ⟨iconed, hiconed, h⟩ := Step.exists_of_runAll_cons h
  obtain ⟨mapped, hmapped, h⟩ := Step.exists_of_runAll_cons h
  obtain ⟨boxed, hboxed, h⟩ := Step.exists_of_runAll_cons h
  obtain ⟨filtered, hfiltered, h⟩ := Step.exists_of_runAll_cons h
  obtain rfl : filtered.value = result := (Noted.result_finish h).2
  have hkeep := preparationSteps_keepDistinct hlib
  simp only [preparationSteps, List.forall_mem_cons] at hkeep
  obtain ⟨-, -, -, -, hstyle, hdefault, hicons, hmap, hbox, -⟩ := hkeep
  have hstyled' := hstyle hstart hstyled
  have hdefaulted' := hdefault hstyled' hdefaulted
  have hiconed' := hicons hdefaulted' hiconed
  have hmapped' := hmap hiconed' hmapped
  have hboxed' := hbox hmapped' hboxed
  have hother : "tagRenderings" ∉ ["titleIcons"] ∧ "tagRenderings" ∉ ["filter"] := by decide
  -- Of the six steps, only those for the map and the box touch the list.
  have hfirst : ofLayer iconed.value = ofLayer start.value := by
    refine ofLayer_congr ?_
    rw [Step.on_keeps hother.1 hdefaulted' hiconed, Step.setDefault_keeps hother.1 hstyled' hdefaulted,
      moveOldStyle_keeps (by decide) hstart hstyled]
  have hlast : ofLayer filtered.value = ofLayer boxed.value :=
    ofLayer_congr (Step.on_keeps hother.2 hboxed' hfiltered)
  obtain ⟨maps, hmaps, hmap⟩ := ofLayer_addMiniMap hmapped
  obtain ⟨boxes, hboxes, hbox⟩ := ofLayer_addQuestionBox hboxed
  refine ⟨maps ++ boxes, ?_, ?_⟩
  · rw [hlast, hboxes, hmaps, hfirst, List.append_assoc]
  · intro r hr
    exact (List.mem_append.mp hr).imp (hmap r) (hbox r)

theorem exists_shown_of_result (hlib : lib.Distinct) (hlayer : layer.Distinct)
    (hentries : layer.get? "tagRenderings" = some (.list entries))
    (h : ((prepareLayer lib).convert layer place).result = some result) :
    ∃ renderings shown added, StandFor lib entries renderings ∧
      List.Forall₂ WrittenOut (distinctIds renderings) shown ∧ ofLayer result = shown ++ added ∧
      ∀ r ∈ added, lib.renderings.find? "minimap" = some r ∨ r = questionBox := by
  have hrun : (Step.runAll place (preparationSteps lib) ⟨layer, .empty⟩).result = some result := h
  obtain ⟨renderings, shown, next, hstand, hshown, hdistinct, hget, hrun⟩ := exists_writtenOut hlib hlayer hentries hrun
  obtain ⟨added, hadded, hfrom⟩ := ofLayer_of_drop hlib hdistinct hrun
  have hlist : ofLayer next.value = shown := by
    rw [ofLayer, Document.listAt?, hget]
    rfl
  exact ⟨renderings, shown, added, hstand, hshown, hlist ▸ hadded, hfrom⟩

/-- Where a list is prepared, each entry that is a rendering with an id is shown in its place, between what the
entries before and behind it stand for. It has the same id there, unless this looks generated and another
rendering has it, too. -/
theorem prepareLayer_keeps_id_iff (hlib : lib.Distinct) (hlayer : layer.Distinct)
    (h : ((prepareLayer lib).convert layer place).result = some result)
    (hentries : layer.get? "tagRenderings" = some (.list (front ++ entry :: back)))
    (hentry : isResolved entry = true) (hid : entry.id? = some id) :
    ∃ (before after shown added : List Document) (d : Document),
      StandFor lib front before ∧ StandFor lib back after ∧
      List.Forall₂ ShownAs (before ++ entry :: after) shown ∧
      ofLayer result = shown ++ added ∧
      (∀ r ∈ added, lib.renderings.find? "minimap" = some r ∨ r = questionBox) ∧
      shown[before.length]? = some d ∧
      (d.id? = some id ↔ generatedId? entry = none ∨ ¬ IdElsewhere shown before.length id) := by
  obtain ⟨renderings, shown, added, hstand, hshown, hresult, hadded⟩ :=
    exists_shown_of_result hlib hlayer hentries h
  obtain ⟨before, after, rfl, hbefore, hafter⟩ := hstand.exists_of_rendering hentry
  have hplace : (before ++ entry :: after)[before.length]? = some entry := by simp
  obtain ⟨d, hd, hkept⟩ := Rendering.exists_shown_at hshown hplace hid
  exact ⟨before, after, shown, added, d, hbefore, hafter,
    forall₂_comp (Rendering.forall₂_named_renameFrom _ _) hshown, hresult, hadded, hd, hkept⟩

/-- A rendering with an id, a question and a text between two calls that give the same id. -/
def askedPark : Document :=
  .object [("id", .text "wikipedia"), ("question", .text "Which article?"), ("render", .text "\x7bwikipedia()\x7d")]

def emptyLibrary : Library := ⟨[], [], [], .default⟩

def parkWith (entries : List Document) : Document :=
  .object [("id", .text "park"), ("source", .object [("osmTags", .text "leisure=park")]),
    ("tagRenderings", .list entries)]

theorem prepareLayer_keeps_id_park :
    ∃ result, ((prepareLayer emptyLibrary).convert (parkWith [.text "\x7bwikipedia()\x7d", askedPark,
        .text "\x7bwikipedia()\x7d"]) "layers:park").result = some result ∧
      (ofLayer result).filterMap Document.id? = ["wikipedia_1", "wikipedia", "wikipedia_2", "leftover-questions"] ∧
      ∃ before shown d, StandFor emptyLibrary [.text "\x7bwikipedia()\x7d"] before ∧
        shown <+: ofLayer result ∧ shown[before.length]? = some d ∧ d.id? = some "wikipedia" := by
  have hlib : emptyLibrary.Distinct := by constructor <;> simp [emptyLibrary]
  have hlayer : (parkWith [.text "\x7bwikipedia()\x7d", askedPark, .text "\x7bwikipedia()\x7d"]).Distinct := by
    simp [parkWith, askedPark, Fields.Distinct, Fields.keys]
  have hrun : ((prepareLayer emptyLibrary).convert (parkWith [.text "\x7bwikipedia()\x7d", askedPark,
      .text "\x7bwikipedia()\x7d"]) "layers:park").result.map (fun r => (ofLayer r).filterMap Document.id?) =
        some ["wikipedia_1", "wikipedia", "wikipedia_2", "leftover-questions"] := by
    decide +kernel
  obtain ⟨result, hresult, hids⟩ := Option.map_eq_some_iff.mp hrun
  have hentries : (parkWith [.text "\x7bwikipedia()\x7d", askedPark, .text "\x7bwikipedia()\x7d"]).get?
      "tagRenderings" =
        some (.list ([.text "\x7bwikipedia()\x7d"] ++ askedPark :: [.text "\x7bwikipedia()\x7d"])) := rfl
  obtain ⟨before, -, shown, added, d, hbefore, -, -, hlist, -, hd, hkept⟩ :=
    prepareLayer_keeps_id_iff hlib hlayer hresult hentries rfl rfl
  exact ⟨result, hresult, hids, before, shown, d, hbefore, hlist ▸ List.prefix_append shown added, hd,
    hkept.mpr (.inl rfl)⟩

/-- A rendering that is written out, though a call would have done. -/
def writtenPark : Document := .object [("id", .text "wikipedia"), ("render", .text "\x7bwikipedia()\x7d")]

/-- The id that an author has written is changed, and the call before it gets the one that was written. -/
theorem authored_id_is_renamed : ¬ ∀ (lib : Library) (layer result entry : Document) (front back : List Document)
    (id place : String), lib.Distinct → layer.Distinct →
      ((prepareLayer lib).convert layer place).result = some result →
      layer.get? "tagRenderings" = some (.list (front ++ entry :: back)) → isResolved entry = true →
      entry.id? = some id →
      ∃ (before after shown added : List Document) (d : Document), StandFor lib front before ∧ StandFor lib back after ∧
        List.Forall₂ ShownAs (before ++ entry :: after) shown ∧ ofLayer result = shown ++ added ∧
        shown[before.length]? = some d ∧ d.id? = some id := by
  intro hall
  have hlib : emptyLibrary.Distinct := by constructor <;> simp [emptyLibrary]
  have hlayer : (parkWith [.text "\x7bwikipedia()\x7d", writtenPark]).Distinct := by
    simp [parkWith, writtenPark, Fields.Distinct, Fields.keys]
  have hrun : ((prepareLayer emptyLibrary).convert (parkWith [.text "\x7bwikipedia()\x7d", writtenPark])
      "layers:park").result.map (fun r => (ofLayer r).map Document.id?) =
        some [some "wikipedia", some "wikipedia_1"] := by
    decide +kernel
  obtain ⟨result, hresult, hids⟩ := Option.map_eq_some_iff.mp hrun
  obtain ⟨before, after, shown, added, d, hbefore, -, -, hlist, hd, hid⟩ :=
    hall _ _ _ writtenPark [.text "\x7bwikipedia()\x7d"] [] "wikipedia" _ hlib hlayer hresult rfl rfl rfl
  -- What stands before it is one rendering, so its place is the second one.
  obtain rfl := hbefore.eq_of_call rfl (by decide +kernel)
  have hthere : (ofLayer result)[1]? = some d := by
    rw [hlist]
    exact (List.getElem?_append_left (List.getElem?_eq_some_iff.mp hd).1).trans hd
  have hchanged := congrArg (·[1]?) hids
  rw [List.getElem?_map, hthere, Option.map_some, hid] at hchanged
  exact absurd (Option.some.inj (Option.some.inj hchanged)) (by decide)

end Layer

end MapTheme
