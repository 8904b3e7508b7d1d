/-
  MapTheme.Special.Template — calls of special visualisations inside display texts.

  A call is written `\x7bname(argument,argument)\x7d`, with `:style` before the closing brace if it has a
  style. Arguments run to the first closing parenthesis and are trimmed; blank ones are no arguments
  at all. `calls` finds the calls of a text from left to right.
-/

import MapTheme.Document.Basic
import MapTheme.Text.Blank
import MapTheme.Text.Scan

namespace MapTheme.Special

structure Call where
  name : String
  arguments : List String
  style : Option String
  deriving DecidableEq, Repr

def isNameStart (c : Char) : Bool := c.isAlpha || c = '_'

def isNameChar (c : Char) : Bool := c.isAlphanum || c = '_'

def argumentsOf (raw : List Char) : List String :=
  if raw.all Text.isBlank then []
  else (Text.splitAt ',' raw).map fun a => String.ofList (Text.trimmed a)

/-- What stands after the closing parenthesis: a style or nothing, and the closing brace. -/
def styleAt? : List Char → Option (Option String × List Char)
  | '\x7d' :: r => some (none, r)
  | ':' :: r => (Text.cutAt? '\x7d' r).map fun (style, r) => (some (String.ofList style), r)
  | _ => none

/-- The call that a text starts with, and the rest of the text. -/
def callAt? : List Char → Option (Call × List Char)
  | '\x7b' :: r =>
    let name := r.takeWhile isNameChar
    match r.dropWhile isNameChar with
    | '(' :: r =>
      if (name.head?.map isNameStart).getD false then
        match Text.cutAt? ')' r with
        | none => none
        | some (raw, r) =>
          match styleAt? r with
          | none => none
          | some (style, r) => some (⟨String.ofList name, argumentsOf raw, style⟩, r)
      else none
    | _ => none
  | _ => none

theorem length_of_styleAt? {s r : List Char} {style : Option String} (h : styleAt? s = some (style, r)) :
    r.length < s.length := by
  unfold styleAt? at h
  split at h
  · simp only [Option.some.injEq, Prod.mk.injEq] at h
    simp [← h.2]
  · obtain ⟨⟨x, y⟩, hx, he⟩ := Option.map_eq_some_iff.mp h
    simp only [Prod.mk.injEq] at he
    have := Text.length_of_cutAt? (he.2 ▸ hx)
    simp only [List.length_cons]
    omega
  · simp at h

theorem length_of_callAt? {s r : List Char} {call : Call} (h : callAt? s = some (call, r)) :
    r.length < s.length := by
  unfold callAt? at h
  split at h
  · rename_i t
    simp only at h
    split at h
    · rename_i u hu
      have hlen := Text.length_dropWhile_le isNameChar t
      rw [hu] at hlen
      split at h
      · split at h
        · simp at h
        · rename_i raw v hv
          split at h
          · simp at h
          · rename_i style w hw
            simp only [Option.some.injEq, Prod.mk.injEq] at h
            have h1 := Text.length_of_cutAt? hv
            have h2 := length_of_styleAt? hw
            rw [h.2] at h2
            simp only [List.length_cons] at hlen ⊢
            omega
      · simp at h
    · simp at h
  · simp at h

theorem callAt?_progresses : Text.Recogniser.Progresses callAt? := length_of_callAt?

/-- The calls of a text, known or not. -/
def calls (template : String) : List Call := Text.scan callAt? callAt?_progresses template.toList

def callsOfTexts (texts : List String) : List Call := texts.flatMap calls

/-- A call as it stands in a text. -/
def callText (name : String) (arguments : List String) : String :=
  "\x7b" ++ name ++ "(" ++ Text.joinWith "," arguments ++ ")\x7d"

/-- The calls in what a rendering displays: its `render` and the `then` of its mappings, in every
language. -/
def callsInRendering (rendering : Document) : List Call :=
  let render := ((rendering.get? "render").map Document.innerTexts).getD []
  let thens := ((rendering.listAt? "mappings").getD []).flatMap fun m =>
    ((m.get? "then").map Document.innerTexts).getD []
  callsOfTexts (render ++ thens)

end MapTheme.Special
