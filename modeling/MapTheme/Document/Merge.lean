/-
  MapTheme.Document.Merge — one document laid over another.

  Objects merge field by field: a key that starts with `+` puts items before the list of that name,
  one that ends with `+` behind it, objects are merged into objects, and any other value replaces
  what was there. Over anything but an object a document replaces the whole.
-/

import MapTheme.Document.Basic
import MapTheme.Text.Pieces

namespace MapTheme

inductive MergeFault
  /-- The value of a key that adds to a list is no list. -/
  | additionNoList (key : String)
  /-- What items are added to is no list. -/
  | targetNoList (field : String)
  deriving DecidableEq, Repr

def MergeFault.message : MergeFault → String
  | additionNoList key => s!"'{key}' adds to a list, so its value must be a list"
  | targetNoList field => s!"cannot add items to '{field}': it is not a list"

/-- What a key of an overlay does to the field that it names. -/
inductive MergeKey
  | before (field : String)
  | behind (field : String)
  | plain (field : String)
  deriving DecidableEq, Repr

def MergeKey.ofText (key : String) : MergeKey :=
  match Text.withoutStart? "+" key with
  | some field => before field
  | none =>
    match Text.withoutEnd? "+" key with
    | some field => behind field
    | none => plain key

/-- The list that items are added to; a missing or null one is empty. -/
def existingItems (fields : Fields) (field : String) : Except MergeFault (List Document) :=
  match Fields.get? fields field with
  | none | some .null => .ok []
  | some (.list items) => .ok items
  | some _ => .error (.targetNoList field)

def additions (key : String) : Document → Except MergeFault (List Document)
  | .list items => .ok items
  | _ => .error (.additionNoList key)

namespace Document

mutual

/-- The first document laid over the second. -/
def merge : Document → Document → Except MergeFault Document
  | object source, object target => (mergeFields source target).map object
  | source, _ => .ok source

/-- Fields laid over an object, one after the other. -/
def mergeFields : List (String × Document) → Fields → Except MergeFault Fields
  | [], target => .ok target
  | (key, value) :: rest, target =>
    match MergeKey.ofText key with
    | .before field => do
      let added ← additions key value
      let items ← existingItems target field
      mergeFields rest (Fields.insert target field (list (added ++ items)))
    | .behind field => do
      let added ← additions key value
      let items ← existingItems target field
      mergeFields rest (Fields.insert target field (list (items ++ added)))
    | .plain field => do
      let merged ← match Fields.get? target field with
        | some (object current) => merge value (object current)
        | _ => .ok value
      mergeFields rest (Fields.insert target field merged)

end

end Document

end MapTheme
