/-
  MapTheme.Config.Shape — what configuration documents have to look like.

  A `Shape` says what is accepted; `check` gives the first problem of a document. A record is an
  object, whose fields are looked at in the order of the document (fields of other names do not
  count, then missing ones are reported in the order of the record), or a list of the field values
  in the order of the record.
-/

import MapTheme.Document.Printer
import MapTheme.Text.Quoted

namespace MapTheme.Config

/-- When a field of a record has to be given. -/
inductive Need
  | always
  /-- It may be missing in an object, but a list has to reach it. -/
  | inList
  | never
  deriving DecidableEq, Repr

inductive Shape
  | any
  | text
  | flag
  | number
  | list (item : Shape)
  /-- Null stands for a missing value. -/
  | optional (s : Shape)
  | record (name : String) (fields : List (String × Need × Shape))
  /-- A text, or an object with `osmTags` and perhaps a text `geoJson`. -/
  | source
  deriving Repr

inductive ShapeProblem
  | wrongType (found : Document) (wanted : String)
  | missingField (name : String)
  /-- A list without its field number `index` for a record of `count` fields. -/
  | tooShort (index : Nat) (record : String) (count : Nat)
  | tooLong (length : Nat)
  | noVariant

/-- What a document is, for messages. -/
def kindOf : Document → String
  | .null => "null"
  | .bool b => "boolean " ++ "\x60" ++ (if b then "true" else "false") ++ "\x60"
  | .number (.whole n) => "integer " ++ "\x60" ++ toString n ++ "\x60"
  | .number (.float x) => "floating point " ++ "\x60" ++ (Number.float x).write ++ "\x60"
  | .text s => "string " ++ Text.inQuotes s
  | .list _ => "sequence"
  | .object _ => "map"

def ShapeProblem.message : ShapeProblem → String
  | wrongType found wanted => "invalid type: " ++ kindOf found ++ ", expected " ++ wanted
  | missingField name => "missing field " ++ "\x60" ++ name ++ "\x60"
  | tooShort index record count =>
    let plural := if count = 1 then "" else "s"
    s!"invalid length {index}, expected struct {record} with {count} element{plural}"
  | tooLong length => s!"invalid length {length}, expected fewer elements in array"
  | noVariant => "data did not match any variant of untagged enum SourceJson"

abbrev Check := Document → Except ShapeProblem Unit

def checkAll (check : Check) : List Document → Except ShapeProblem Unit
  | [] => .ok ()
  | d :: ds => do
    check d
    checkAll check ds

/-- The fields of an object in its order. -/
def checkFields (checks : List (String × Need × Check)) : List (String × Document) → Except ShapeProblem Unit
  | [] => .ok ()
  | (k, d) :: rest => do
    match checks.lookup k with
    | some (_, check) => check d
    | none => .ok ()
    checkFields checks rest

/-- The first field that has to be in an object and is not. -/
def checkMissing (checks : List (String × Need × Check)) (fields : Fields) : Except ShapeProblem Unit :=
  match checks.find? fun (name, need, _) => need = .always && !Fields.has fields name with
  | some (name, _) => .error (.missingField name)
  | none => .ok ()

/-- Field values in the order of the record, from field number `index` on. -/
def checkPositions (record : String) (count index : Nat) : List (String × Need × Check) → List Document →
    Except ShapeProblem Unit
  | [], [] => .ok ()
  | [], _ :: rest => .error (.tooLong (index + rest.length + 1))
  | (_, need, _) :: more, [] =>
    if need = .never then checkPositions record count (index + 1) more []
    else .error (.tooShort index record count)
  | (_, _, check) :: more, d :: rest => do
    check d
    checkPositions record count (index + 1) more rest

def checkRecord (name : String) (checks : List (String × Need × Check)) : Check
  | .object fields => do
    checkFields checks fields
    checkMissing checks fields
  | .list items => checkPositions name checks.length 0 checks items
  | d => .error (.wrongType d ("struct " ++ name))

def checkSource : Check
  | .text _ => .ok ()
  | .object fields =>
    match Fields.get? fields "osmTags", Fields.get? fields "geoJson" with
    | some _, none | some _, some .null | some _, some (.text _) => .ok ()
    | _, _ => .error .noVariant
  | _ => .error .noVariant

namespace Shape

mutual

def check : Shape → Check
  | any => fun _ => .ok ()
  | text => fun d => if d.isText then .ok () else .error (.wrongType d "a string")
  | flag => fun d => if d.bool?.isSome then .ok () else .error (.wrongType d "a boolean")
  | number => fun
    | .number _ => .ok ()
    | d => .error (.wrongType d "f64")
  | list item => fun
    | .list items => checkAll (check item) items
    | d => .error (.wrongType d "a sequence")
  | optional s => fun d => if d.isNull then .ok () else check s d
  | record name fields => checkRecord name (checksOf fields)
  | source => checkSource

def checksOf : List (String × Need × Shape) → List (String × Need × Check)
  | [] => []
  | (name, need, s) :: rest => (name, need, check s) :: checksOf rest

end

/-- The field names of a record, in order. -/
def fieldNames : Shape → List String
  | record _ fields => fields.map (·.1)
  | _ => []

/-- The fields of a document that fits a record. -/
def fieldsOf (s : Shape) : Document → Fields
  | .object fields => fields
  | .list items => s.fieldNames.zip items
  | _ => []

/-- The fields of a document, if it fits. -/
def read (s : Shape) (d : Document) : Except ShapeProblem Fields := do
  s.check d
  .ok (s.fieldsOf d)

end Shape

end MapTheme.Config

namespace MapTheme.Fields

/-- A value that is not null. -/
def given? (fields : Fields) (key : String) : Option Document := (get? fields key).filter (!·.isNull)

def textOr (fields : Fields) (key default : String) : String := ((given? fields key).bind Document.text?).getD default

def textGiven? (fields : Fields) (key : String) : Option String := (given? fields key).bind Document.text?

def flagAt (fields : Fields) (key : String) : Bool := ((get? fields key).bind Document.bool?).getD false

def itemsAt (fields : Fields) (key : String) : List Document := ((get? fields key).bind Document.list?).getD []

def textsAt (fields : Fields) (key : String) : List String := (itemsAt fields key).filterMap Document.text?

end MapTheme.Fields

namespace MapTheme.Document

def number? : Document → Option Binary64
  | number (.whole n) => some (Binary64.ofInt n)
  | number (.float x) => some x
  | _ => none

end MapTheme.Document
