/-
  MapTheme.Config.Wording — display texts by language.
-/

import MapTheme.Config.Fault
import MapTheme.Text.Blank

namespace MapTheme.Config

/-- Texts in the order of their language codes; `*` stands for every language. -/
structure Wording where
  texts : List (String × String)
  deriving DecidableEq, Repr

namespace Wording

/-- Entries whose language starts with `_` are notes. -/
def readTexts (place : String) : List (String × Document) → Except Fault (List (String × String))
  | [] => .ok []
  | (language, d) :: rest =>
    if Text.startsWith "_" language then readTexts place rest
    else match d with
      | .text s => do
        let texts ← readTexts place rest
        .ok ((language, s) :: texts)
      | _ => .error (.invalid (place ++ "." ++ language) .wordingNoText)

/-- A text for every language, or an object with a text for each language. -/
def ofDocument (place : String) : Document → Except Fault Wording
  | .text s => .ok ⟨[("*", s)]⟩
  | .object fields => do
    let texts ← readTexts place fields
    .ok ⟨texts.mergeSort fun a b => a.1 ≤ b.1⟩
  | d => .error (.invalid place (.notAWording d))

def isEmpty (t : Wording) : Bool := t.texts.all fun (_, s) => Text.allBlank s

/-- English, else every language, else the first. -/
def text? (t : Wording) : Option String :=
  ((t.texts.lookup "en").or (t.texts.lookup "*")).or (t.texts.head?.map (·.2))

def allTexts (t : Wording) : List String := t.texts.map (·.2)

end Wording

end MapTheme.Config
