/-
  MapTheme.Proofs.Filter.Template — what a template is made of.

  Filling a template and listing its keys are scans of their own. Both go over the same pieces, the characters and
  holes of the template: one fills the pieces (`substitute_eq`), the other keeps the keys of the holes
  (`placeholders_eq`). So what is filled in comes from the listed keys and from no others (`substitute_congr`).
-/

import MapTheme.Filter.Basic

namespace MapTheme

/-- A character of a template, or a key whose value is filled in. -/
inductive TemplatePiece
  | char (c : Char)
  | hole (key : String)
  deriving DecidableEq, Repr

/-- The pieces of a template: a hole is `\x7bkey\x7d`. `inside` holds the characters since an opening brace,
last one first; a brace that is never closed stands for itself. -/
def templatePieces (inside : Option (List Char)) : List Char → List TemplatePiece
  | [] =>
    match inside with
    | none => []
    | some key => ('\x7b' :: key.reverse).map .char
  | c :: r =>
    match inside with
    | none => if c = '\x7b' then templatePieces (some []) r else .char c :: templatePieces none r
    | some key =>
      if c = '\x7d' then .hole (String.ofList key.reverse) :: templatePieces none r
      else templatePieces (some (c :: key)) r

namespace TemplatePiece

def fill (p : Properties) : TemplatePiece → List Char
  | char c => [c]
  | hole key => (p.value key).toList

def key? : TemplatePiece → Option String
  | char _ => none
  | hole key => some key

theorem flatMap_fill_char (p : Properties) (cs : List Char) : (cs.map char).flatMap (fill p) = cs := by
  induction cs with
  | nil => rfl
  | cons c cs ih => rw [List.map_cons, List.flatMap_cons, ih, fill, List.singleton_append]

theorem filterMap_key?_char (cs : List Char) : (cs.map char).filterMap key? = [] := by
  rw [List.filterMap_map]
  exact List.filterMap_eq_nil_iff.mpr fun _ _ => rfl

end TemplatePiece

/-! ## The two scans -/

variable {template : String} {p q : Properties}

theorem fillHoles_eq (p : Properties) (inside : Option (List Char)) (s : List Char) :
    fillHoles p inside s = (templatePieces inside s).flatMap (·.fill p) := by
  induction s generalizing inside with
  | nil =>
    cases inside with
    | none => rfl
    | some key => exact (TemplatePiece.flatMap_fill_char p _).symm
  | cons c r ih =>
    cases inside with
    | none =>
      by_cases hopens : c = '\x7b'
      · simp only [fillHoles, templatePieces, hopens, if_true, ih]
      · simp only [fillHoles, templatePieces, hopens, if_false, ih]
        rfl
    | some key =>
      by_cases hcloses : c = '\x7d'
      · simp only [fillHoles, templatePieces, hcloses, if_true, ih]
        rfl
      · simp only [fillHoles, templatePieces, hcloses, if_false, ih]

theorem holeKeys_eq (inside : Option (List Char)) (s : List Char) :
    holeKeys inside s = (templatePieces inside s).filterMap (·.key?) := by
  induction s generalizing inside with
  | nil =>
    cases inside with
    | none => rfl
    | some key => exact (TemplatePiece.filterMap_key?_char _).symm
  | cons c r ih =>
    cases inside with
    | none =>
      by_cases hopens : c = '\x7b'
      · simp only [holeKeys, templatePieces, hopens, if_true, ih]
      · simp only [holeKeys, templatePieces, hopens, if_false, ih]
        rfl
    | some key =>
      by_cases hcloses : c = '\x7d'
      · simp only [holeKeys, templatePieces, hcloses, if_true, ih]
        rfl
      · simp only [holeKeys, templatePieces, hcloses, if_false, ih]

theorem substitute_eq (template : String) (p : Properties) :
    substitute template p = String.ofList ((templatePieces none template.toList).flatMap (·.fill p)) := by
  rw [substitute, fillHoles_eq]

theorem placeholders_eq (template : String) :
    placeholders template = (templatePieces none template.toList).filterMap (·.key?) := holeKeys_eq none _

/-- The placeholders of a template are all that it reads. -/
theorem substitute_congr (h : ∀ key ∈ placeholders template, p.value key = q.value key) :
    substitute template p = substitute template q := by
  have hpieces : ∀ piece ∈ templatePieces none template.toList, piece.fill p = piece.fill q := by
    intro piece hpiece
    cases piece with
    | char c => rfl
    | hole key =>
      have hkey : key ∈ placeholders template := by
        rw [placeholders_eq]
        exact List.mem_filterMap.mpr ⟨.hole key, hpiece, rfl⟩
      rw [TemplatePiece.fill, TemplatePiece.fill, h key hkey]
  rw [substitute_eq, substitute_eq, List.flatMap_def, List.flatMap_def, List.map_congr_left hpieces]

/-- A template gives the empty text exactly if each of its pieces does. -/
theorem substitute_eq_empty_iff :
    substitute template p = "" ↔ ∀ piece ∈ templatePieces none template.toList, piece.fill p = [] := by
  rw [substitute_eq, ← String.ofList_nil, String.ofList_inj, List.flatMap_eq_nil_iff]

end MapTheme
