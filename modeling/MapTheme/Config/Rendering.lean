/-
  MapTheme.Config.Rendering — a finished rendering: a question with its answers, or a display text.

  A freeform key needs a text that shows it, and a question needs a freeform key or a mapping.
-/

import MapTheme.Config.Wording
import MapTheme.Filter.Reading

namespace MapTheme.Config

variable [Pattern.Engine]

/-- When a mapping is not offered as an answer. -/
inductive HideInAnswer
  | never
  | always
  | when (f : Filter)
  deriving Repr

/-- An answer, and the text that is shown where it applies. -/
structure Mapping where
  holdsIf : Filter
  ifNot : Option Filter
  shown : Wording
  hide : HideInAnswer
  extraTags : List Filter
  deriving Repr

/-- A key whose value is typed in. -/
structure Freeform where
  key : String
  kind : String
  extraTags : List Filter
  deriving Repr

structure Rendering where
  id : String
  labels : List String
  group : Option String
  question : Option Wording
  render : Option Wording
  condition : Option Filter
  freeform : Option Freeform
  multiAnswer : Bool
  mappings : List Mapping
  deriving Repr

namespace Rendering

def freeformShape : Shape :=
  .record "FreeformJson"
    [("key", .always, .text), ("type", .never, .optional .text), ("addExtraTags", .never, .list .text)]

def mappingShape : Shape :=
  .record "MappingJson"
    [("if", .always, .any), ("then", .always, .any), ("ifNot", .never, .any), ("hideInAnswer", .never, .any),
     ("addExtraTags", .never, .list .text)]

def shape : Shape :=
  .record "TagRenderingJson"
    [("id", .never, .optional .text), ("labels", .never, .list .text), ("group", .never, .optional .text),
     ("question", .never, .any), ("render", .never, .any), ("condition", .never, .any),
     ("freeform", .never, .optional freeformShape), ("multiAnswer", .never, .flag), ("mappings", .never, .list .any)]

end Rendering

def readFilter (place : String) (d : Document) : Except Fault Filter :=
  (Filter.ofDocument d).mapError (Fault.filter place)

def readTag (place tag : String) : Except Fault Filter := (Filter.read tag).mapError (Fault.filter place)

def readExtraTags (place : String) (tags : List String) : Except Fault (List Filter) :=
  readEach (fun tag i => readTag s!"{place}.addExtraTags[{i}]" tag) 0 tags

namespace Mapping

def readHide (place : String) : Option Document → Except Fault HideInAnswer
  | none | some (.bool false) => .ok .never
  | some (.bool true) => .ok .always
  | some d => (readFilter (place ++ ".hideInAnswer") d).map .when

def ofDocument (place : String) (d : Document) : Except Fault Mapping := do
  let fields ← readShape Rendering.mappingShape place d
  let hide ← readHide place (fields.given? "hideInAnswer")
  let holdsIf ← readFilter (place ++ ".if") ((Fields.get? fields "if").getD .null)
  let ifNot ← readOptional (readFilter (place ++ ".ifnot")) (fields.given? "ifNot")
  let shown ← Wording.ofDocument (place ++ ".then") ((Fields.get? fields "then").getD .null)
  let extraTags ← readExtraTags place (fields.textsAt "addExtraTags")
  .ok ⟨holdsIf, ifNot, shown, hide, extraTags⟩

def isHidden (m : Mapping) : Bool :=
  match m.hide with
  | .never => false
  | _ => true

end Mapping

namespace Freeform

/-- The freeform of a rendering whose text has been read. -/
def ofFields (place : String) (render : Option Wording) (fields : Fields) : Except Fault Freeform :=
  let key := fields.textOr "key" ""
  if render.isNone then .error (.invalid place (.freeformWithoutRender key))
  else do
    let extraTags ← readExtraTags (place ++ ".freeform") (fields.textsAt "addExtraTags")
    .ok ⟨key, fields.textOr "type" "string", extraTags⟩

end Freeform

namespace Rendering

def ofDocument (place : String) (d : Document) : Except Fault Rendering :=
  if !d.isObject then .error (.invalid place (.notExpanded "tag rendering" d))
  else do
    let fields ← readShape shape place d
    let question ← readOptional (Wording.ofDocument (place ++ ".question")) (fields.given? "question")
    let render ← readOptional (Wording.ofDocument (place ++ ".render")) (fields.given? "render")
    let freeform ← readOptional (fun d => Freeform.ofFields place render (freeformShape.fieldsOf d))
      (fields.given? "freeform")
    let mappings ← readEach (fun m i => Mapping.ofDocument s!"{place}.mappings[{i}]" m) 0 (fields.itemsAt "mappings")
    if question.isSome && freeform.isNone && mappings.isEmpty then .error (.invalid place .unanswerable)
    else
      let condition ← readOptional (readFilter (place ++ ".condition")) (fields.given? "condition")
      .ok {
        id := fields.textOr "id" ""
        labels := fields.textsAt "labels"
        group := fields.textGiven? "group"
        question, render, condition, freeform
        multiAnswer := fields.flagAt "multiAnswer"
        mappings }

def isQuestion (r : Rendering) : Bool := r.question.isSome

/-- The text and the texts of all mappings, in all languages. -/
def shownTexts (r : Rendering) : List String :=
  ((r.render.map Wording.allTexts).getD []) ++ r.mappings.flatMap fun m => m.shown.allTexts

end Rendering

end MapTheme.Config
