/-
  MapTheme.Proofs.Rendering.Depth — how deep references may be inside each other.

  A name is looked up one level below the reference that leads to it, and at every name the level is held
  against the limit. A run inside another one never loses its errors, so a list that is cut off is never
  taken for a whole one.

  - `expandEntry_settles`: a run without errors is the same under every larger limit.
  - `exists_tooDeep`: an entry that leads to a name inside itself is reported, whatever the limit is.
  - `depth_guards_cycles`: so the limit decides on nothing but how long a cycle is followed.
-/

import MapTheme.Proofs.Rendering.Resolution

namespace MapTheme

/-! ## Runs that settle -/

namespace Noted

variable {α β : Type}

/-- Where the first run has no errors, the second is the same. -/
def Settles (x y : Noted α) : Prop := x.notes.hasErrors = false → y = x

theorem Settles.refl (x : Noted α) : x.Settles x := fun _ => rfl

theorem settles_of_errors {x : Noted α} (h : x.notes.hasErrors = true) (y : Noted α) : x.Settles y := by
  intro hok
  rw [h] at hok
  cases hok

theorem Settles.bind {x y : Noted α} {f g : α → Noted β} (hx : x.Settles y) (hf : ∀ a, (f a).Settles (g a)) :
    (x >>= f).Settles (y >>= g) := by
  intro h
  rw [notes_bind, Diagnostics.hasErrors_append, Bool.or_eq_false_iff] at h
  rw [hx h.1]
  show Noted.bind x g = Noted.bind x f
  rw [Noted.bind, hf x.value h.2]
  rfl

theorem Settles.each {f g : α → Noted β} (h : ∀ a, (f a).Settles (g a)) (as : List α) :
    (each f as).Settles (each g as) := by
  induction as with
  | nil => exact .refl _
  | cons a as ih => exact (h a).bind fun b => ih.bind fun bs => .refl _

/-- What is without errors has the same outcome. -/
theorem Settles.finish_eq {x y : Noted α} (h : x.Settles y) {a : α} (hx : x.finish.result = some a) :
    y.finish = x.finish := by
  rw [h (result_finish hx).1]

end Noted

namespace Rendering

variable {lib : Library} {place : String} {limit fuel depth : Nat}

section

variable {expand further : Document → Noted (List Document)}

theorem selectEntry_settles (h : ∀ e, (expand e).Settles (further e)) (wanted : String) (entry : Document) :
    (selectEntry expand wanted entry).Settles (selectEntry further wanted entry) := by
  cases entry with
  | text reference =>
    rw [selectEntry, selectEntry]
    split
    · exact h _
    · exact .refl _
  | object fields =>
    rw [selectEntry, selectEntry]
    split
    · exact (h _).bind fun _ => .refl _
    · exact .refl _
  | null | bool | number | list => exact .refl _

theorem lookUpInLayer_settles (h : ∀ e, (expand e).Settles (further e)) (layer wanted : String) :
    (lookUpInLayer lib expand layer wanted place).Settles (lookUpInLayer lib further layer wanted place) := by
  unfold lookUpInLayer
  split
  · exact .refl _
  · exact (Noted.Settles.each (selectEntry_settles h wanted) _).bind fun _ => .refl _

theorem lookUp_settles (h : ∀ e, (expand e).Settles (further e)) {tooDeep deeper : Bool}
    (hdeep : tooDeep = false → deeper = false) (name : String) :
    (lookUp lib tooDeep expand place name).Settles (lookUp lib deeper further place name) := by
  cases tooDeep with
  | true => exact Noted.settles_of_errors rfl _
  | false =>
    rw [hdeep rfl]
    unfold lookUp
    simp only [Bool.false_eq_true, if_false]
    split
    · exact .refl _
    · split
      · exact .refl _
      · split
        · exact lookUpInLayer_settles h _ _
        · exact .refl _

end

/-- By induction on the fuel: a level with more room above it gives the same, if it is without errors. -/
theorem expandEntry_settles {larger more below : Nat} (hfuel : fuel ≤ more) (hroom : limit + below ≤ larger + depth)
    (entry : Document) :
    (expandEntry lib limit place fuel depth entry).Settles (expandEntry lib larger place more below entry) := by
  induction fuel generalizing depth more below entry with
  | zero => exact Noted.settles_of_errors rfl _
  | succ fuel ih =>
    obtain ⟨more, rfl⟩ : ∃ m, more = m + 1 := ⟨more - 1, by omega⟩
    have hinner : ∀ e, (expandEntry lib limit place fuel (depth + 1) e).Settles
        (expandEntry lib larger place more (below + 1) e) := fun e => ih (by omega) (by omega) e
    have hdeep : decide (limit < depth) = false → decide (larger < below) = false := by
      intro h
      rw [decide_eq_false_iff_not] at h ⊢
      omega
    have hnamed : ∀ name, (lookUp lib (limit < depth) (expandEntry lib limit place fuel (depth + 1)) place name).Settles
        (lookUp lib (larger < below) (expandEntry lib larger place more (below + 1)) place name) :=
      lookUp_settles hinner hdeep
    cases entry with
    | text name => exact hnamed name
    | object fields =>
      unfold expandEntry
      dsimp only
      split
      · refine (Noted.Settles.refl _).bind fun copies => ?_
        cases copies with
        | none => exact .refl _
        | some copies => exact (Noted.Settles.each hinner copies).bind fun _ => .refl _
      · split
        · split
          · exact .refl _
          · exact (Noted.Settles.each (fun name => (hnamed name).bind fun _ => .refl _) _).bind fun _ => .refl _
        · exact .refl _
    | null | bool | number | list => exact Noted.settles_of_errors rfl _

/-- One level further up, and under a larger limit, an entry that is resolved without errors is resolved alike. -/
theorem resolve_settles {larger : Nat} (h : limit ≤ larger) (entry : Document) :
    (resolve lib limit place entry).Settles (resolve lib larger place entry) :=
  expandEntry_settles (by omega) (by omega) entry

/-! ## Cycles -/

/-- Resolving the entry leads to a name, and what the name stands for leads to the name again. -/
def Recurs (lib : Library) (place : String) (entry : Document) : Prop :=
  ∃ name inner, LeadsTo lib place entry (.text name) ∧ inner ∈ innerEntries lib place (.text name) ∧
    LeadsTo lib place inner (.text name)

/-- The way to the cycle and the way around it never end. -/
theorem Recurs.exists_inner {entry : Document} (h : Recurs lib place entry) :
    ∃ inner ∈ innerEntries lib place entry, Recurs lib place inner := by
  obtain ⟨name, around, hlead, haround, hback⟩ := h
  cases hlead with
  | here => exact ⟨around, haround, name, around, hback, haround, hback⟩
  | inside hinner hrest => exact ⟨_, hinner, name, around, hrest, haround, hback⟩

/-- Does the entry lead to the name within so many steps? -/
def leadsWithin (lib : Library) (place name : String) : (steps : Nat) → Document → Bool
  | 0, entry => entry.text? == some name
  | steps + 1, entry =>
    entry.text? == some name || (innerEntries lib place entry).any (leadsWithin lib place name steps)

theorem leadsTo_of_text? {name : String} {entry : Document} (h : (entry.text? == some name) = true) :
    LeadsTo lib place entry (.text name) := by
  cases entry with
  | text s =>
    obtain rfl := Option.some.inj (beq_iff_eq.mp h)
    exact .here
  | null | bool | number | list | object => cases h

theorem leadsTo_of_within {name : String} {steps : Nat} {entry : Document}
    (h : leadsWithin lib place name steps entry = true) : LeadsTo lib place entry (.text name) := by
  induction steps generalizing entry with
  | zero => exact leadsTo_of_text? h
  | succ steps ih =>
    rw [leadsWithin, Bool.or_eq_true] at h
    rcases h with h | h
    · exact leadsTo_of_text? h
    · obtain ⟨inner, hinner, h⟩ := List.any_eq_true.mp h
      exact .inside hinner (ih h)

theorem recurs_of_within {name : String} {steps : Nat} {entry : Document}
    (h : leadsWithin lib place name steps entry = true)
    (hback : (innerEntries lib place (.text name)).any (leadsWithin lib place name steps) = true) :
    Recurs lib place entry := by
  obtain ⟨inner, hinner, hback⟩ := List.any_eq_true.mp hback
  exact ⟨name, inner, leadsTo_of_within h, hinner, leadsTo_of_within hback⟩

def isCopyBlock : Document → Bool
  | .object fields => Fields.has fields "rewrite"
  | _ => false

/-- There are no blocks of copies: the entry is none, and no layer of the library lists one. -/
structure WithoutCopies (lib : Library) (entry : Document) : Prop where
  entry : isCopyBlock entry = false
  layers : ∀ f ∈ lib.layers, ∀ e ∈ ofLayer f.2, isCopyBlock e = false

/-- Where a name looks for entries. -/
theorem exists_layer_of_mem_entriesBehind {name : String} {inner : Document} (h : inner ∈ entriesBehind lib name) :
    lib.renderings.find? name = none ∧ (Special.calls name).isEmpty = true ∧
    ∃ layer wanted d, Text.cutAt? '.' name.toList = some (layer, wanted) ∧
      lib.layers.find? (String.ofList layer) = some d ∧ inner ∈ ofLayer d ∧
      isLookedInto (String.ofList wanted) inner = true := by
  unfold entriesBehind at h
  split at h
  · cases h
  · rename_i hname
    simp only [Bool.or_eq_true, Bool.not_eq_true', not_or, Option.not_isSome_iff_eq_none, Bool.not_eq_false] at hname
    split at h
    · rename_i layer wanted hcut
      obtain ⟨hmem, hlooked⟩ := List.mem_filter.mp h
      cases hd : lib.layers.find? (String.ofList layer) with
      | none =>
        rw [hd] at hmem
        cases hmem
      | some d =>
        rw [hd] at hmem
        exact ⟨hname.1, hname.2, layer, wanted, d, hcut, hd, hmem, hlooked⟩
    · cases h

theorem WithoutCopies.inner {entry : Document} (h : WithoutCopies lib entry) :
    ∀ inner ∈ innerEntries lib place entry, WithoutCopies lib inner := by
  intro inner hinner
  refine ⟨?_, h.layers⟩
  cases entry with
  | text name =>
    obtain ⟨-, -, layer, wanted, d, -, hd, hmem, -⟩ := exists_layer_of_mem_entriesBehind hinner
    exact h.layers _ (Fields.mem_of_get? hd) inner hmem
  | object fields =>
    have hrewrite : Fields.has fields "rewrite" = false := h.entry
    rw [innerEntries, hrewrite, if_neg Bool.false_ne_true] at hinner
    obtain ⟨name, -, rfl⟩ := List.mem_map.mp hinner
    rfl
  | null | bool | number | list => cases hinner

/-! ## Errors come out -/

variable {message : String}

/-- What is noted inside a name is noted for the name. -/
theorem mem_errors_lookUp {expand : Document → Noted (List Document)} {name : String} {inner : Document}
    (hinner : inner ∈ entriesBehind lib name) (h : message ∈ (expand inner).notes.errors) :
    message ∈ (lookUp lib false expand place name).notes.errors := by
  obtain ⟨hnone, hcalls, layer, wanted, d, hcut, hd, hmem, hlooked⟩ := exists_layer_of_mem_entriesBehind hinner
  have hselect : message ∈ (selectEntry expand (String.ofList wanted) inner).notes.errors := by
    cases inner with
    | text reference =>
      have hwanted : (String.ofList wanted = "*" || reference = String.ofList wanted) = true := hlooked
      rw [selectEntry, if_pos hwanted]
      exact h
    | object fields =>
      have hblock : isBlock fields = true := hlooked
      rw [selectEntry, if_pos hblock]
      exact List.mem_append_left _ h
    | null | bool | number | list => cases hlooked
  rw [lookUp, if_neg Bool.false_ne_true, hnone]
  simp only [hcalls, Bool.not_true, Bool.false_eq_true, if_false, hcut]
  rw [lookUpInLayer, hd]
  exact List.mem_append_left _ (Noted.mem_errors_each.mpr ⟨inner, hmem, hselect⟩)

/-- What is noted for a name is noted for a reference by that name. -/
theorem mem_errors_reference {fields : Fields} {name : String} (hrewrite : Fields.has fields "rewrite" = false)
    (hinner : .text name ∈ innerEntries lib place (.object fields))
    (h : message ∈ (expandEntry lib limit place (fuel + 1) depth (.text name)).notes.errors) :
    message ∈ (expandEntry lib limit place (fuel + 1) depth (.object fields)).notes.errors := by
  rw [innerEntries, hrewrite, if_neg Bool.false_ne_true] at hinner
  obtain ⟨n, hname, he⟩ := List.mem_map.mp hinner
  obtain rfl := Document.text.inj he
  cases hbuiltin : Fields.get? fields "builtin" with
  | none =>
    rw [hbuiltin] at hname
    cases hname
  | some builtin =>
    rw [hbuiltin, Option.bind_some] at hname
    cases hnames : textList? builtin with
    | none =>
      rw [hnames] at hname
      cases hname
    | some names =>
      rw [hnames] at hname
      rw [expandEntry, hrewrite, if_neg Bool.false_ne_true, hbuiltin]
      simp only [hnames]
      refine List.mem_append_left _ (Noted.mem_errors_each.mpr ⟨n, hname, ?_⟩)
      rw [expandEntry] at h
      exact List.mem_append_left _ h

/-- By induction on the fuel, of which there is one more than levels up to the limit: around a cycle the
level grows with every name, and the first name below the limit is reported. -/
theorem exists_tooDeep {entry : Document} (hplain : WithoutCopies lib entry) (h : Recurs lib place entry)
    (hfuel : limit + 2 ≤ fuel + depth) (hpos : 0 < fuel) :
    ∃ name, LeadsTo lib place entry (.text name) ∧ Diagnostics.located place (ReferenceFault.tooDeep name).message ∈
      (expandEntry lib limit place fuel depth entry).notes.errors := by
  induction fuel generalizing depth entry with
  | zero => exact absurd hpos (Nat.lt_irrefl 0)
  | succ fuel ih =>
    have htext : ∀ name, Recurs lib place (.text name) → WithoutCopies lib (.text name) →
        ∃ deep, LeadsTo lib place (.text name) (.text deep) ∧
          Diagnostics.located place (ReferenceFault.tooDeep deep).message ∈
            (expandEntry lib limit place (fuel + 1) depth (.text name)).notes.errors := by
      intro name hname hwithout
      rw [expandEntry]
      by_cases hdeep : limit < depth
      · refine ⟨name, .here, ?_⟩
        rw [decide_eq_true hdeep, lookUp, if_pos rfl]
        exact List.mem_singleton.mpr rfl
      · obtain ⟨inner, hinner, hrecurs⟩ := hname.exists_inner
        have hnext : WithoutCopies lib inner := hwithout.inner inner hinner
        obtain ⟨deep, hlead, herr⟩ := @ih (depth + 1) inner hnext hrecurs (by omega) (by omega)
        refine ⟨deep, .inside hinner hlead, ?_⟩
        rw [decide_eq_false hdeep]
        exact mem_errors_lookUp hinner herr
    cases entry with
    | text name => exact htext name h hplain
    | object fields =>
      have hrewrite : Fields.has fields "rewrite" = false := hplain.entry
      obtain ⟨inner, hinner, hrecurs⟩ := h.exists_inner
      have hname : ∃ name, inner = .text name := by
        rw [innerEntries, hrewrite, if_neg Bool.false_ne_true] at hinner
        obtain ⟨name, -, he⟩ := List.mem_map.mp hinner
        exact ⟨name, he.symm⟩
      obtain ⟨name, rfl⟩ := hname
      obtain ⟨deep, hlead, herr⟩ := htext name hrecurs (hplain.inner _ hinner)
      exact ⟨deep, .inside hinner hlead, mem_errors_reference hrewrite hinner herr⟩
    | null | bool | number | list =>
      obtain ⟨inner, hinner, -⟩ := h.exists_inner
      cases hinner

/-- What is resolved within the limit is resolved to the same under every larger limit, and an entry that
leads to a name inside itself has no result under any limit: a name that it leads to is reported. -/
theorem depth_guards_cycles {entry : Document} (h : WithoutCopies lib entry) :
    (∀ found, ((expandReference lib).convert entry place).result = some found → ∀ larger, maxDepth ≤ larger →
      (resolve lib larger place entry).finish = (expandReference lib).convert entry place) ∧
    (Recurs lib place entry → ∀ limit, (resolve lib limit place entry).finish.result = none ∧
      ∃ name, LeadsTo lib place entry (.text name) ∧ Diagnostics.located place (ReferenceFault.tooDeep name).message ∈
        (resolve lib limit place entry).finish.notes.errors) := by
  constructor
  · intro found hfound larger hlarger
    exact (resolve_settles hlarger entry).finish_eq hfound
  · intro hrecurs limit
    obtain ⟨name, hlead, herr⟩ : ∃ name, LeadsTo lib place entry (.text name) ∧
        Diagnostics.located place (ReferenceFault.tooDeep name).message ∈
          (expandEntry lib limit place (limit + 2 + lib.settings.copyLevels) 0 entry).notes.errors :=
      exists_tooDeep h hrecurs (by omega) (by omega)
    refine ⟨?_, name, hlead, herr⟩
    cases hresult : (resolve lib limit place entry).finish.result with
    | none => rfl
    | some found =>
      have hok := (Noted.result_finish hresult).1
      rw [Diagnostics.hasErrors, Bool.not_eq_false', List.isEmpty_iff] at hok
      exact absurd (hok ▸ herr : _ ∈ []) List.not_mem_nil

/-- Benches list the renderings of seats; streets list those of ways, and ways those of streets. -/
def streetLibrary : Library :=
  ⟨[("bench", .object [("id", .text "bench"), ("tagRenderings", .texts ["seat.*"])]),
    ("seat", .object [("id", .text "seat"), ("tagRenderings", .list [.object [("id", .text "material")]])]),
    ("street", .object [("id", .text "street"), ("tagRenderings", .texts ["way.*"])]),
    ("way", .object [("id", .text "way"), ("tagRenderings", .list [.object [("builtin", .text "street.*")]])])],
   [], [], Settings.default⟩

theorem depth_guards_cycles_street :
    WithoutCopies streetLibrary (.text "bench.*") ∧ WithoutCopies streetLibrary (.text "street.*") ∧
    Recurs streetLibrary "layers:park.tagRenderings[0]" (.text "street.*") ∧
    (∃ found, ((expandReference streetLibrary).convert (.text "bench.*") "layers:park.tagRenderings[0]").result =
        some found ∧ found.map idOrEmpty = ["material"] ∧ ∀ larger, maxDepth ≤ larger →
      (resolve streetLibrary larger "layers:park.tagRenderings[0]" (.text "bench.*")).finish.result = some found) ∧
    ∀ limit, (resolve streetLibrary limit "layers:park.tagRenderings[0]" (.text "street.*")).finish.result = none := by
  have hlayers : ∀ f ∈ streetLibrary.layers, ∀ e ∈ ofLayer f.2, isCopyBlock e = false := by decide
  have hbench : WithoutCopies streetLibrary (.text "bench.*") := ⟨rfl, hlayers⟩
  have hstreet : WithoutCopies streetLibrary (.text "street.*") := ⟨rfl, hlayers⟩
  have hleads : leadsWithin streetLibrary "layers:park.tagRenderings[0]" "street.*" 2 (.text "street.*") = true := by
    decide +kernel
  have hrecurs := recurs_of_within hleads (by decide +kernel)
  have hids : (((expandReference streetLibrary).convert (.text "bench.*") "layers:park.tagRenderings[0]").result.map
      (·.map idOrEmpty)) = some ["material"] := by decide +kernel
  obtain ⟨found, hfound, hids⟩ := Option.map_eq_some_iff.mp hids
  refine ⟨hbench, hstreet, hrecurs, ⟨found, hfound, hids, fun larger hlarger => ?_⟩, fun limit => ?_⟩
  · rw [(depth_guards_cycles hbench).1 found hfound larger hlarger, hfound]
  · exact ((depth_guards_cycles hstreet).2 hrecurs limit).1

end Rendering

end MapTheme
