/-
  MapTheme.Proofs.Rendering.Resolution — what references are resolved to.

  Resolving an entry leads to others: the copies of a block, the names of a reference, the entries that a
  name is looked for among (`innerEntries`). A reference lays its override over what it finds, and the
  outcome is not looked at again; so overrides are all that can leave something to resolve.

  - `gives_expandEntry`: what the renderings have that an entry leads to, and overrides keep, all that the
    entry stands for has.
  - `isResolved_of_merge`: laid over a resolved rendering, an override gives a resolved one exactly if it
    is an object that names neither `builtin` nor `rewrite`.
  - `expandReference_resolves_iff`: so it is for every entry, if the overrides that it leads to are such.
  - `expandReference_gives_text`: an override that is no object takes the place of the rendering.
-/

import MapTheme.Proofs.Document.Overlay
import MapTheme.Proofs.Rendering.Distinct

namespace MapTheme.Rendering

variable {lib : Library} {place : String}

/-! ## Resolved renderings and overrides -/

/-- Is the document a rendering, and no reference or block of copies? -/
def isResolved : Document → Bool
  | .object fields => !isBlock fields
  | _ => false

/-- Is the override an object that names neither key of a block? -/
def isHarmless : Document → Bool
  | .object source =>
    !((Document.namedFields source).contains "builtin" || (Document.namedFields source).contains "rewrite")
  | _ => false

theorem isResolved_of_merge {override rendering d : Document} (hr : isResolved rendering = true)
    (h : override.merge rendering = .ok d) : isResolved d = isHarmless override := by
  cases rendering with
  | object target =>
    cases override with
    | object source =>
      rw [Document.merge] at h
      cases hfields : Document.mergeFields source target with
      | error fault =>
        rw [hfields] at h
        cases h
      | ok fields =>
        rw [hfields] at h
        cases h
        have hkeys (key : String) (hkey : Fields.has target key = false) :
            Fields.has fields key = (Document.namedFields source).contains key := by
          rw [Bool.eq_iff_iff, Fields.has_iff_mem_keys, Document.mem_keys_mergeFields hfields, ← Fields.has_iff_mem_keys,
            hkey, List.contains_iff_mem]
          simp
        simp only [isResolved, isBlock, Bool.not_eq_true', Bool.or_eq_false_iff] at hr
        simp only [isResolved, isBlock, isHarmless, hkeys _ hr.1, hkeys _ hr.2]
    | null | bool | number | text | list =>
      simp only [Document.merge] at h
      cases h
      rfl
  | null | bool | number | text | list => cases hr

/-! ## What resolving leads to -/

/-- Does looking for `wanted` in a layer resolve the entry? -/
def isLookedInto (wanted : String) : Document → Bool
  | .text reference => wanted = "*" || reference = wanted
  | .object fields => isBlock fields
  | _ => false

/-- The entries of a layer that a name is looked for among. -/
def entriesBehind (lib : Library) (name : String) : List Document :=
  if (lib.renderings.find? name).isSome || !(Special.calls name).isEmpty then []
  else match Text.cutAt? '.' name.toList with
    | some (layer, id) =>
      (((lib.layers.find? (String.ofList layer)).map ofLayer).getD []).filter (isLookedInto (String.ofList id))
    | none => []

/-- The entries that resolving an entry leads to. -/
def innerEntries (lib : Library) (place : String) : Document → List Document
  | .text name => entriesBehind lib name
  | .object fields =>
    if Fields.has fields "rewrite" then ((expandCopies.convert (.object fields) place).result).getD []
    else (((Fields.get? fields "builtin").bind textList?).getD []).map .text
  | _ => []

/-- The override of a reference. -/
def override? : Document → Option Document
  | .object fields =>
    if Fields.has fields "builtin" && !Fields.has fields "rewrite" then Fields.get? fields "override" else none
  | _ => none

/-- Resolving the one entry leads to the other in the end. -/
inductive LeadsTo (lib : Library) (place : String) : Document → Document → Prop
  | here {entry : Document} : LeadsTo lib place entry entry
  | inside {entry inner e : Document} : inner ∈ innerEntries lib place entry → LeadsTo lib place inner e →
      LeadsTo lib place entry e

theorem LeadsTo.trans {entry copy e : Document} (h : LeadsTo lib place entry copy) (he : LeadsTo lib place copy e) :
    LeadsTo lib place entry e := by
  induction h with
  | here => exact he
  | inside hinner _ ih => exact .inside hinner (ih he)

/-- All overrides that resolving the entry leads to are harmless. -/
def OverridesHarmless (lib : Library) (place : String) (entry : Document) : Prop :=
  ∀ e override, LeadsTo lib place entry e → override? e = some override → isHarmless override = true

theorem OverridesHarmless.inner {entry : Document} (h : OverridesHarmless lib place entry) :
    ∀ inner ∈ innerEntries lib place entry, OverridesHarmless lib place inner :=
  fun _ hinner e override he => h e override (.inside hinner he)

/-- The test for all that resolving the entry leads to, if that is no more than `depth` entries inside each other. -/
def passesWithin (lib : Library) (place : String) (test : Document → Bool) : (depth : Nat) → Document → Bool
  | 0, _ => false
  | depth + 1, entry =>
    test entry && (innerEntries lib place entry).all (passesWithin lib place test depth)

theorem passes_of_within {test : Document → Bool} {depth : Nat} {entry e : Document}
    (h : passesWithin lib place test depth entry = true) (he : LeadsTo lib place entry e) : test e = true := by
  induction he generalizing depth with
  | here =>
    cases depth with
    | zero => cases h
    | succ depth =>
      rw [passesWithin, Bool.and_eq_true] at h
      exact h.1
  | inside hinner _ ih =>
    cases depth with
    | zero => cases h
    | succ depth =>
      rw [passesWithin, Bool.and_eq_true, List.all_eq_true] at h
      exact ih (h.2 _ hinner)

theorem overridesHarmless_of_within {depth : Nat} {entry : Document}
    (h : passesWithin lib place (fun e => (override? e).all isHarmless) depth entry = true) :
    OverridesHarmless lib place entry := by
  intro e override he ho
  have hpass := passes_of_within h he
  rwa [ho] at hpass

/-! ## What entries stand for -/

/-- Renderings have `R` and overrides have `H` wherever the library has them, and the one laid over the other has `R`
again. -/
structure Upholds (lib : Library) (R H : Document → Prop) : Prop where
  shared : ∀ name r, lib.renderings.find? name = some r → R r
  listed : ∀ f ∈ lib.layers, ∀ entry ∈ ofLayer f.2, isResolved entry = true → R entry
  call : ∀ template, R (inlineRendering template)
  no_override : H (.object [])
  laid : ∀ {override rendering d}, H override → R rendering → override.merge rendering = .ok d → R d

/-- All renderings that resolving the entry leads to have `R`, and all overrides `H`. -/
def LeadsOnlyTo (lib : Library) (place : String) (R H : Document → Prop) (entry : Document) : Prop :=
  ∀ e, LeadsTo lib place entry e → (isResolved e = true → R e) ∧ ∀ override, override? e = some override → H override

theorem LeadsOnlyTo.inner {R H : Document → Prop} {entry : Document} (h : LeadsOnlyTo lib place R H entry) :
    ∀ inner ∈ innerEntries lib place entry, LeadsOnlyTo lib place R H inner :=
  fun _ hinner e he => h e (.inside hinner he)

theorem leadsOnlyTo_of_within {R H : Document → Bool} {depth : Nat} {entry : Document}
    (h : passesWithin lib place (fun e => (!isResolved e || R e) && (override? e).all H) depth entry = true) :
    LeadsOnlyTo lib place (R · = true) (H · = true) entry := by
  intro e he
  have hpass := passes_of_within h he
  rw [Bool.and_eq_true, Option.all_eq_true] at hpass
  exact ⟨fun hresolved => by simpa [hresolved] using hpass.1, hpass.2⟩

/-- Shared renderings that are resolved, and overrides that are harmless. -/
theorem upholds_resolved (hlib : ∀ name r, lib.renderings.find? name = some r → isResolved r = true) :
    Upholds lib (isResolved · = true) (isHarmless · = true) where
  shared := hlib
  listed _ _ _ _ h := h
  call _ := rfl
  no_override := rfl
  laid ho hr h := (isResolved_of_merge hr h).trans ho

theorem OverridesHarmless.leadsOnlyTo {entry : Document} (h : OverridesHarmless lib place entry) :
    LeadsOnlyTo lib place (isResolved · = true) (isHarmless · = true) entry :=
  fun e he => ⟨id, fun override => h e override he⟩

/-- All that a way to resolve entries gives for an entry has `R`. -/
def Gives (R : Document → Prop) (expand : Document → Noted (List Document)) (entry : Document) : Prop :=
  ∀ d ∈ (expand entry).value, R d

section

variable {R H : Document → Prop} {expand : Document → Noted (List Document)}

/-- An entry that is not looked into stands for itself. -/
theorem gives_selectEntry {wanted : String} {entry : Document} (hentry : isResolved entry = true → R entry)
    (hexpand : isLookedInto wanted entry = true → Gives R expand entry) :
    Gives R (selectEntry expand wanted) entry := by
  cases entry with
  | text reference =>
    intro d hd
    rw [selectEntry] at hd
    split at hd
    · rename_i hwanted
      exact hexpand (by simpa [isLookedInto] using hwanted) d hd
    · cases hd
  | object fields =>
    intro d hd
    rw [selectEntry] at hd
    split at hd
    · rename_i hblock
      exact hexpand hblock d (List.mem_filter.mp hd).1
    · rename_i hblock
      simp only [Noted.value_pure] at hd
      split at hd
      · rw [List.mem_singleton.mp hd]
        exact hentry (by simpa [isResolved] using hblock)
      · cases hd
  | null | bool | number | list => exact fun d hd => absurd hd List.not_mem_nil

theorem gives_lookUpInLayer (hlib : Upholds lib R H) {layer wanted : String}
    (hexpand : ∀ inner ∈ (((lib.layers.find? layer).map ofLayer).getD []).filter (isLookedInto wanted),
      Gives R expand inner) :
    ∀ d ∈ (lookUpInLayer lib expand layer wanted place).value, R d := by
  unfold lookUpInLayer
  split
  · simp
  · rename_i found hfound
    rw [hfound] at hexpand
    simp only [Noted.value_bind, Noted.value_each]
    split
    · simp
    · intro d hd
      simp only [Noted.value_pure, List.mem_flatten, List.mem_map] at hd
      obtain ⟨ds, ⟨entry, he, rfl⟩, hd⟩ := hd
      have hentry := hlib.listed _ (Fields.mem_of_get? hfound) entry he
      exact gives_selectEntry hentry (fun hlooked => hexpand entry (List.mem_filter.mpr ⟨he, hlooked⟩)) d hd

theorem gives_lookUp (hlib : Upholds lib R H) {name : String} (tooDeep : Bool)
    (hexpand : ∀ inner ∈ entriesBehind lib name, Gives R expand inner) :
    ∀ d ∈ (lookUp lib tooDeep expand place name).value, R d := by
  unfold lookUp
  unfold entriesBehind at hexpand
  split
  · simp
  · split
    · rename_i rendering hr
      simpa using hlib.shared name rendering hr
    · rename_i hnone
      split
      · simpa using hlib.call name
      · rename_i hcalls
        rw [hnone, Option.isSome_none, Bool.false_or, if_neg hcalls] at hexpand
        split
        · rename_i layer id hcut
          rw [hcut] at hexpand
          exact gives_lookUpInLayer hlib hexpand
        · simp

theorem exists_of_mem_overlay {override d : Document} {renderings : List Document}
    (hd : d ∈ (overlay place override renderings).value) : ∃ r ∈ renderings, override.merge r = .ok d := by
  simp only [overlay, Noted.value_bind, Noted.value_each, Noted.value_pure, List.mem_flatten, List.mem_map] at hd
  obtain ⟨ds, ⟨r, hr, rfl⟩, hd⟩ := hd
  split at hd
  · rename_i merged hm
    rw [List.mem_singleton.mp hd]
    exact ⟨r, hr, hm⟩
  · cases hd

end

variable {limit fuel depth : Nat} {fields : Fields} {d : Document}

/-- What a block of copies gives is what its copies give. -/
theorem exists_of_mem_expandEntry_copies (hrewrite : Fields.has fields "rewrite" = true)
    (h : d ∈ (expandEntry lib limit place (fuel + 1) depth (.object fields)).value) :
    ∃ copy ∈ innerEntries lib place (.object fields), d ∈ (expandEntry lib limit place fuel (depth + 1) copy).value := by
  rw [expandEntry, hrewrite, if_pos rfl] at h
  simp only [Noted.value_bind, Noted.value_absorb] at h
  split at h
  · cases h
  · rename_i copies hcopies
    simp only [Noted.value_bind, Noted.value_each, Noted.value_pure, List.mem_flatten, List.mem_map] at h
    obtain ⟨ds, ⟨copy, hcopy, rfl⟩, h⟩ := h
    refine ⟨copy, ?_, h⟩
    rw [innerEntries, hrewrite, if_pos rfl, hcopies]
    exact hcopy

/-- What a reference gives is its override laid over what its names stand for. -/
theorem exists_of_mem_expandEntry_reference (hrewrite : Fields.has fields "rewrite" = false)
    (hbuiltin : Fields.has fields "builtin" = true)
    (h : d ∈ (expandEntry lib limit place (fuel + 1) depth (.object fields)).value) :
    ∃ name, .text name ∈ innerEntries lib place (.object fields) ∧
      d ∈ (overlay place ((Fields.get? fields "override").getD (.object []))
        (lookUp lib (limit < depth) (expandEntry lib limit place fuel (depth + 1)) place name).value).value := by
  rw [Fields.has_eq_isSome_get?] at hbuiltin
  obtain ⟨builtin, hbuiltin⟩ := Option.isSome_iff_exists.mp hbuiltin
  rw [expandEntry, hrewrite, if_neg Bool.false_ne_true, hbuiltin] at h
  dsimp only at h
  split at h
  · cases h
  · rename_i names hnames
    simp only [Noted.value_bind, Noted.value_each, Noted.value_pure, List.mem_flatten, List.mem_map] at h
    obtain ⟨ds, ⟨name, hname, rfl⟩, h⟩ := h
    refine ⟨name, ?_, h⟩
    rw [innerEntries, hrewrite, if_neg Bool.false_ne_true, hbuiltin, Option.bind_some, hnames]
    exact List.mem_map_of_mem hname

theorem expandEntry_of_plain (hrewrite : Fields.has fields "rewrite" = false)
    (hbuiltin : Fields.has fields "builtin" = false) :
    expandEntry lib limit place (fuel + 1) depth (.object fields) = pure [.object fields] := by
  rw [Fields.has_eq_isSome_get?, Option.isSome_eq_false_iff, Option.isNone_iff_eq_none] at hbuiltin
  rw [expandEntry, hrewrite, if_neg Bool.false_ne_true, hbuiltin]

/-- There is fuel for the entry itself. -/
theorem resolve_eq_expandEntry (lib : Library) (limit : Nat) (place : String) (entry : Document) :
    resolve lib limit place entry = expandEntry lib limit place (limit + 1 + lib.settings.copyLevels + 1) 0 entry := by
  have hfuel : limit + 2 + lib.settings.copyLevels = limit + 1 + lib.settings.copyLevels + 1 := by omega
  rw [resolve, hfuel]

/-- Where the results of an entry come from: what a name stands for, the copies of a block, the names of a reference
with its override laid over them, or the entry itself. -/
theorem cases_of_mem_expandEntry {entry : Document}
    (hd : d ∈ (expandEntry lib limit place (fuel + 1) depth entry).value) :
    (∃ name, entry = .text name ∧
      d ∈ (lookUp lib (limit < depth) (expandEntry lib limit place fuel (depth + 1)) place name).value) ∨
    (override? entry = none ∧
      ∃ copy ∈ innerEntries lib place entry, d ∈ (expandEntry lib limit place fuel (depth + 1) copy).value) ∨
    (∃ name, .text name ∈ innerEntries lib place entry ∧
      ∃ r ∈ (lookUp lib (limit < depth) (expandEntry lib limit place fuel (depth + 1)) place name).value,
        ((override? entry).getD (.object [])).merge r = .ok d) ∨
    (isResolved entry = true ∧ override? entry = none ∧ d = entry) := by
  cases entry with
  | text name =>
    rw [expandEntry] at hd
    exact .inl ⟨name, rfl, hd⟩
  | object fields =>
    cases hrewrite : Fields.has fields "rewrite" with
    | true => exact .inr (.inl ⟨by simp [override?, hrewrite], exists_of_mem_expandEntry_copies hrewrite hd⟩)
    | false =>
      cases hbuiltin : Fields.has fields "builtin" with
      | true =>
        obtain ⟨name, hname, hd⟩ := exists_of_mem_expandEntry_reference hrewrite hbuiltin hd
        have hoverride : override? (.object fields) = Fields.get? fields "override" := by
          simp [override?, hrewrite, hbuiltin]
        rw [← hoverride] at hd
        exact .inr (.inr (.inl ⟨name, hname, exists_of_mem_overlay hd⟩))
      | false =>
        rw [expandEntry_of_plain hrewrite hbuiltin] at hd
        exact .inr (.inr (.inr ⟨by simp [isResolved, isBlock, hrewrite, hbuiltin],
          by simp [override?, hbuiltin], List.mem_singleton.mp hd⟩))
  | null | bool | number | list =>
    rw [expandEntry] at hd
    · cases hd
    all_goals simp

/-- By induction on the fuel: what is inside the entry has `R`, so what the entry makes of it has `R`. -/
theorem gives_expandEntry {R H : Document → Prop} (hlib : Upholds lib R H) {entry : Document}
    (h : LeadsOnlyTo lib place R H entry) : Gives R (expandEntry lib limit place fuel depth) entry := by
  induction fuel generalizing depth entry with
  | zero => exact fun d hd => absurd hd List.not_mem_nil
  | succ fuel ih =>
    intro d hd
    rcases cases_of_mem_expandEntry hd with ⟨name, rfl, hd⟩ | ⟨-, copy, hcopy, hd⟩ | ⟨name, hname, r, hr, hmerge⟩ |
        ⟨hresolved, -, rfl⟩
    · exact gives_lookUp hlib _ (fun inner hi => ih (h.inner inner hi)) d hd
    · exact ih (h.inner copy hcopy) d hd
    · refine hlib.laid ?_ (gives_lookUp hlib _ (fun inner hi => ih ((h.inner _ hname).inner inner hi)) r hr) hmerge
      cases hoverride : override? entry with
      | none => exact hlib.no_override
      | some override => exact (h entry .here).2 override hoverride
    · exact (h d .here).1 hresolved

/-- All that is inside is resolved, so only the entry's own override matters. -/
theorem isResolved_expandEntry_iff (hlib : ∀ name r, lib.renderings.find? name = some r → isResolved r = true)
    {entry : Document} (h : ∀ inner ∈ innerEntries lib place entry, OverridesHarmless lib place inner)
    (hd : d ∈ (expandEntry lib limit place fuel depth entry).value) :
    isResolved d = true ↔ ∀ override, override? entry = some override → isHarmless override = true := by
  cases fuel with
  | zero => cases hd
  | succ fuel =>
    have hupholds := upholds_resolved hlib
    have hinner {inner : Document} (hi : OverridesHarmless lib place inner) :
        Gives (isResolved · = true) (expandEntry lib limit place fuel (depth + 1)) inner :=
      gives_expandEntry hupholds hi.leadsOnlyTo
    rcases cases_of_mem_expandEntry hd with ⟨name, rfl, hd⟩ | ⟨hnone, copy, hcopy, hd⟩ | ⟨name, hname, r, hr, hmerge⟩ |
        ⟨hresolved, hnone, rfl⟩
    · have hresolved := gives_lookUp hupholds _ (fun inner hi => hinner (h inner hi)) d hd
      simp [hresolved, override?]
    · simp [hinner (h copy hcopy) d hd, hnone]
    · have hr := gives_lookUp hupholds _ (fun inner hi => hinner ((h _ hname).inner inner hi)) r hr
      rw [isResolved_of_merge hr hmerge]
      cases override? entry with
      | none => simp [isHarmless, Document.namedFields]
      | some override => simp
    · simp [hresolved, hnone]

/-- Where shared renderings are resolved and the overrides that an entry leads to are harmless, all that
the entry is resolved to is resolved. The override of the entry itself has to be harmless for that. -/
theorem expandReference_resolves_iff (hlib : ∀ name r, lib.renderings.find? name = some r → isResolved r = true)
    {entry : Document} {found : List Document} (hfound : ((expandReference lib).convert entry place).result = some found) :
    (OverridesHarmless lib place entry → ∀ d ∈ found, isResolved d = true) ∧
    ((∀ inner ∈ innerEntries lib place entry, OverridesHarmless lib place inner) →
      ∀ d ∈ found, (isResolved d = true ↔ ∀ override, override? entry = some override → isHarmless override = true)) := by
  obtain rfl := (Noted.result_finish hfound).2
  refine ⟨fun h d hd => ?_, fun h d hd => isResolved_expandEntry_iff hlib h hd⟩
  exact (isResolved_expandEntry_iff hlib h.inner hd).mpr fun override => h entry override .here

theorem resolved_of_all (h : lib.renderings.all (fun f => isResolved f.2) = true) (name : String) (r : Document)
    (hr : lib.renderings.find? name = some r) : isResolved r = true :=
  List.all_eq_true.mp h _ (Fields.mem_of_get? hr)

def phoneRendering : Document := .object [("id", .text "phone"), ("render", .text "\x7bphone\x7d")]

/-- A layer with a name, a reference and a block of copies among its renderings. -/
def shopLayer : Document :=
  .object
    [("id", .text "shop"),
     ("tagRenderings", .list
       [.text "phone",
        .object [("builtin", .text "phone"), ("override", .object [("id", .text "fax")])],
        .object
          [("rewrite", .object [("sourceString", .text "KEY"), ("into", .texts ["website", "email"])]),
           ("renderings", .list [.object [("id", .text "KEY"), ("question", .text "What is the KEY?")]])]])]

def shopLibrary : Library := ⟨[("shop", shopLayer)], [("phone", phoneRendering)], [], Settings.default⟩

/-- All renderings of the layer and a button, shown for shops only. -/
def shopEntry : Document :=
  .object
    [("builtin", .texts ["shop.*", "\x7bshare_link()\x7d"]),
     ("override", .object [("condition", .text "shop=yes")])]

theorem expandReference_resolves_shop :
    (∀ name r, shopLibrary.renderings.find? name = some r → isResolved r = true) ∧
    OverridesHarmless shopLibrary "layers:shops.tagRenderings[0]" shopEntry ∧
    ∃ found, ((expandReference shopLibrary).convert shopEntry "layers:shops.tagRenderings[0]").result = some found ∧
      found.map idOrEmpty = ["phone", "fax", "website", "email", "share_link"] ∧ ∀ d ∈ found, isResolved d = true := by
  have hlib : ∀ name r, shopLibrary.renderings.find? name = some r → isResolved r = true := resolved_of_all (by decide)
  have hwithin : passesWithin shopLibrary "layers:shops.tagRenderings[0]" (fun e => (override? e).all isHarmless) 5
      shopEntry = true := by
    decide +kernel
  have hharmless := overridesHarmless_of_within hwithin
  have hids : (((expandReference shopLibrary).convert shopEntry "layers:shops.tagRenderings[0]").result.map
      (·.map idOrEmpty)) = some ["phone", "fax", "website", "email", "share_link"] := by decide +kernel
  obtain ⟨found, hfound, hids⟩ := Option.map_eq_some_iff.mp hids
  exact ⟨hlib, hharmless, found, hfound, hids, (expandReference_resolves_iff hlib hfound).1 hharmless⟩

def phoneLibrary : Library := ⟨[], [("phone", phoneRendering)], [], Settings.default⟩

/-- The shared rendering `phone`, with a text laid over it. -/
def relabelledEntry : Document := .object [("builtin", .text "phone"), ("override", .text "Call us")]

/-- There is no override object at all here, and yet the outcome is no rendering. -/
theorem expandReference_gives_text :
    (∀ name r, phoneLibrary.renderings.find? name = some r → isResolved r = true) ∧ phoneLibrary.layers = [] ∧
    (∀ fields, override? relabelledEntry ≠ some (.object fields)) ∧
    ((expandReference phoneLibrary).convert relabelledEntry "layers:shop.tagRenderings[0]").result =
      some [.text "Call us"] ∧
    isResolved (.text "Call us") = false := by
  refine ⟨resolved_of_all (by decide), rfl, fun fields h => ?_, by rfl, rfl⟩
  cases h

end MapTheme.Rendering
