/-
  MapTheme.Proofs.Special.Interleaving — texts that are put together from pieces and written calls.

  Behind a piece that does not end inside a call, a written call is found as it was written, and the search goes on
  behind it; so the calls of the whole text are those of the pieces with the written ones in between
  (`calls_interleaved`). A piece without an opening brace has no call and does not end inside one, and then the written
  calls are all there are (`calls_of_interleaved`).
-/

import Mathlib.Data.List.Basic
import MapTheme.Proofs.Special.Finding

namespace MapTheme.Special

/-- The call as it is written with its style: a colon and the style stand before the closing brace. -/
def Call.text (c : Call) : String :=
  match c.style with
  | none => callText c.name c.arguments
  | some style => String.ofList ((callText c.name c.arguments).toList.dropLast ++ ':' :: (style.toList ++ ['\x7d']))

/-- Every call with the piece of text before it, and the text behind the last call. -/
def interleaved : List (String × Call) → (ending : String) → String
  | [], ending => ending
  | (piece, call) :: rest, ending => piece ++ (call.text ++ interleaved rest ending)

theorem toList_text (c : Call) : c.text.toList = c.written := by
  obtain ⟨name, arguments, style⟩ := c
  cases style with
  | none => exact toList_callText name arguments
  | some style =>
    have hopen : (callText name arguments).toList =
        ('\x7b' :: (name.toList ++ '(' :: ([','].intercalate (arguments.map String.toList) ++ [')']))) ++ ['\x7d'] := by
      rw [toList_callText]
      simp [Call.written, Call.styleChars]
    simp only [Call.text, String.toList_ofList, hopen, List.dropLast_concat]
    simp [Call.written, Call.styleChars]

/-! ## Any pieces -/

/-- The call comes right behind the piece, and what follows it is searched as if the two were not there. -/
theorem scan_piece {piece : List Char} {c : Call} (hpiece : endsInCall piece = false) (hc : c.Writable) (rest : List Char) :
    Text.scan callAt? callAt?_progresses (piece ++ (c.written ++ rest)) =
      Text.scan callAt? callAt?_progresses piece ++ c :: Text.scan callAt? callAt?_progresses rest := by
  have hcall := callAt?_written hc rest
  rw [Call.written, List.cons_append] at hcall ⊢
  rw [scan_append hpiece, Text.scan_of_some @callAt?_progresses hcall]

theorem calls_interleaved {pieces : List (String × Call)} (hpieces : ∀ x ∈ pieces, endsInCall x.1.toList = false)
    (hcalls : ∀ x ∈ pieces, x.2.Writable) (ending : String) :
    calls (interleaved pieces ending) = pieces.flatMap (fun x => calls x.1 ++ [x.2]) ++ calls ending := by
  induction pieces with
  | nil => rfl
  | cons x rest ih =>
    obtain ⟨piece, c⟩ := x
    rw [List.forall_mem_cons] at hpieces hcalls
    have htext : (interleaved ((piece, c) :: rest) ending).toList =
        piece.toList ++ (c.written ++ (interleaved rest ending).toList) := by
      rw [interleaved, String.toList_append, String.toList_append, toList_text]
    have hrest : Text.scan callAt? callAt?_progresses (interleaved rest ending).toList = _ := ih hpieces.2 hcalls.2
    rw [calls, htext, scan_piece hpieces.1 hcalls.1, hrest]
    simp [calls]

/-! ## Pieces without a brace -/

theorem scan_of_no_brace {piece : List Char} (h : '\x7b' ∉ piece) : Text.scan callAt? callAt?_progresses piece = [] := by
  induction piece with
  | nil => exact Text.scan_nil @callAt?_progresses
  | cons c r ih =>
    rw [List.mem_cons, not_or] at h
    rw [Text.scan_of_none @callAt?_progresses (callAt?_of_ne (Ne.symm h.1) r), ih h.2]

theorem endsInCall_of_no_brace {piece : List Char} (h : '\x7b' ∉ piece) : endsInCall piece = false := by
  induction piece with
  | nil => rw [endsInCall]
  | cons c r ih =>
    rw [List.mem_cons, not_or] at h
    rw [endsInCall_of_none (callAt?_of_ne (Ne.symm h.1) r), opensCall, callStart?_of_ne (Ne.symm h.1), ih h.2]
    rfl

/-- Calls that are written between pieces of text without an opening brace are found as they are, in their order, and
no others. -/
theorem calls_of_interleaved {pieces : List (String × Call)} {ending : String}
    (hpieces : ∀ x ∈ pieces, '\x7b' ∉ x.1.toList) (hending : '\x7b' ∉ ending.toList)
    (hcalls : ∀ x ∈ pieces, x.2.Writable) : calls (interleaved pieces ending) = pieces.map (·.2) := by
  have hnone : calls ending = [] := scan_of_no_brace hending
  have hpiece : ∀ x ∈ pieces, calls x.1 ++ [x.2] = [x.2] := by
    intro x hx
    rw [calls, scan_of_no_brace (hpieces x hx), List.nil_append]
  rw [calls_interleaved (fun x hx => endsInCall_of_no_brace (hpieces x hx)) hcalls, hnone, List.append_nil,
    List.flatMap_congr hpiece, List.map_eq_flatMap]

/-- A call whose arguments have braces, a colon and a line break, and one without any. -/
def mapAndLink : List (String × Call) :=
  [("Near\x7d ", ⟨"minimap", ["17", "\x7bid\x7d:\nx", ""], some "height:10rem"⟩), (", or ", ⟨"_wiki2", [], none⟩)]

theorem calls_of_interleaved_map :
    interleaved mapAndLink " (see)" =
      "Near\x7d \x7bminimap(17,\x7bid\x7d:\nx,):height:10rem\x7d, or \x7b_wiki2()\x7d (see)" ∧
    (∀ x ∈ mapAndLink, '\x7b' ∉ x.1.toList) ∧ '\x7b' ∉ " (see)".toList ∧ (∀ x ∈ mapAndLink, x.2.Writable) ∧
    calls "Near\x7d \x7bminimap(17,\x7bid\x7d:\nx,):height:10rem\x7d, or \x7b_wiki2()\x7d (see)" =
      [⟨"minimap", ["17", "\x7bid\x7d:\nx", ""], some "height:10rem"⟩, ⟨"_wiki2", [], none⟩] := by
  have htext : interleaved mapAndLink " (see)" =
      "Near\x7d \x7bminimap(17,\x7bid\x7d:\nx,):height:10rem\x7d, or \x7b_wiki2()\x7d (see)" := by decide +kernel
  have hpieces : ∀ x ∈ mapAndLink, '\x7b' ∉ x.1.toList := by decide +kernel
  have hending : '\x7b' ∉ " (see)".toList := by decide
  have hcalls : ∀ x ∈ mapAndLink, x.2.Writable := by
    simp only [mapAndLink, List.forall_mem_cons]
    refine ⟨⟨rfl, List.all_eq_true.mp (by decide), by decide, by decide, by decide, by decide, ?_⟩,
      ⟨rfl, List.all_eq_true.mp (by decide), by decide, by decide, by decide, by decide, by simp⟩, by simp⟩
    rintro s ⟨rfl⟩
    decide
  exact ⟨htext, hpieces, hending, hcalls, htext ▸ calls_of_interleaved hpieces hending hcalls⟩

end MapTheme.Special
