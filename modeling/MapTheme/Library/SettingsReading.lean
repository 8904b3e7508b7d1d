/-
  MapTheme.Library.SettingsReading — settings from documents and from files.

  `ofDocument` wants every field in its own form. A file may be looser: where a truth value is wanted
  a number or a word like `yes` will do, and where a text is wanted also a number or a truth value.
  Fields that are missing take their defaults.
-/

import MapTheme.Config.Shape
import MapTheme.Decimal.Spelling
import MapTheme.Document.Reader
import MapTheme.Document.Yaml
import MapTheme.Files.Basic
import MapTheme.Library.Settings

namespace MapTheme.Settings

/-- The value of a field by its reader, or the default where the field is missing. -/
def fieldOr {α : Type} (read : Document → Option α) (fields : Fields) (key : String) (default : α) : Option α :=
  match Fields.get? fields key with
  | some d => read d
  | none => some default

/-- Settings whose fields the three readers understand. -/
def ofFields (readFlag : Document → Option Bool) (readText : Document → Option String) (fields : Fields) :
    Option Settings := do
  let readTexts := fun (d : Document) => d.list?.bind (List.mapM readText)
  let addedByDefault ← fieldOr readTexts fields "added_by_default" default.addedByDefault
  let privilegedLayers ← fieldOr readTexts fields "privileged_layers" default.privilegedLayers
  let defaultSocialImage ← fieldOr readText fields "default_social_image" default.defaultSocialImage
  let noteImports ← fieldOr readFlag fields "note_imports" default.noteImports
  let addQuestionBox ← fieldOr readFlag fields "add_question_box" default.addQuestionBox
  some { addedByDefault, privilegedLayers, defaultSocialImage, noteImports, addQuestionBox }

/-! ## Documents -/

def shape : Config.Shape :=
  .record "CompilerSettings"
    [("added_by_default", .never, .list .text), ("privileged_layers", .never, .list .text),
     ("default_social_image", .never, .text), ("note_imports", .never, .flag), ("add_question_box", .never, .flag)]

def ofDocument (d : Document) : Except Config.ShapeProblem Settings := do
  let fields ← shape.read d
  .ok ((ofFields Document.bool? Document.text? fields).getD default)

/-! ## Files -/

def yes : List String := ["1", "true", "on", "yes"]
def no : List String := ["0", "false", "off", "no"]

def looseFlag? : Document → Option Bool
  | .bool b => some b
  | .number (.whole n) => some (n != 0)
  | .number (.float x) => some (!x.eq (Binary64.ofInt 0))
  | .text s =>
    let word := s.toLower
    if yes.contains word then some true else if no.contains word then some false else none
  | _ => none

/-- Whole numbers beyond 64 bits with a sign count as binary64 numbers. -/
def looseText? : Document → Option String
  | .text s => some s
  | .bool b => some (if b then "true" else "false")
  | .number (.whole n) => some (if n < Int.pow 2 63 then toString n else (Binary64.ofInt n).toText)
  | .number (.float x) => some x.toText
  | _ => none

/-- The formats of files, by extension. -/
def formats : List (String × (String → Option Document)) :=
  [("json", Document.read?), ("yaml", Yaml.read?), ("yml", Yaml.read?)]

/-- The format and the text of a file: the one of the path, or else one with an extension behind it. -/
def source? (files : Files) (p : Path) : Option ((String → Option Document) × String) :=
  match files.read? p with
  | some text => (p.extension?.bind (List.lookup · formats)).map fun format => (format, text)
  | none => formats.findSome? fun (extension, format) =>
    (files.read? (p.dropLast ++ [p.fileName ++ "." ++ extension])).map fun text => (format, text)

/-- The settings of a file; none if there is no file or something in it is wrong. -/
def load? (files : Files) (p : Path) : Option Settings := do
  let (format, text) ← source? files p
  let d ← format ((Text.withoutStart? "\ufeff" text).getD text)
  ofFields looseFlag? looseText? (← d.object?)

end MapTheme.Settings
