/-
  MapTheme.Rendering.InlineId — distinct ids for renderings that are written as calls.

  A rendering with nothing but an id and a text, and the id that the text gives, has a generated id.
  Where such an id is taken, it gets the first free one of the suffixes `_1`, `_2`, …; all other ids
  are kept.
-/

import MapTheme.Rendering.Reference

namespace MapTheme.Rendering

/-- The id of a rendering whose id is generated. -/
def generatedId? : Document → Option String
  | .object fields =>
    match Fields.get? fields "id", Fields.get? fields "render" with
    | some (.text id), some (.text render) => if fields.length = 2 && id = inlineId render then some id else none
    | _, _ => none
  | _ => none

/-- The candidates for an id, in order. -/
def candidate (base : String) (n : Nat) : String := if n = 0 then base else base ++ "_" ++ toString n

/-- The first candidate that is not used. One of the first `used.length + 1` is free, since they differ. -/
def freeId (used : List String) (base : String) : String :=
  (((List.range (used.length + 1)).map (candidate base)).find? fun id => !used.contains id).getD base

/-- Ids that are not generated. -/
def authoredIds (renderings : List Document) : List String :=
  renderings.filterMap fun r => if (generatedId? r).isSome then none else r.id?

def withId (id : String) : Document → Document
  | .object fields => .object (Fields.insert fields "id" (.text id))
  | d => d

/-- The renderings with distinct generated ids, none of them in `used`. -/
def renameFrom (used : List String) : List Document → List Document
  | [] => []
  | r :: rest =>
    match generatedId? r with
    | none => r :: renameFrom used rest
    | some base =>
      let id := freeId used base
      withId id r :: renameFrom (used ++ [id]) rest

def distinctIds (renderings : List Document) : List Document := renameFrom (authoredIds renderings) renderings

def uniqueInlineIds : Step where
  name := "UniqueInlineIds"
  convert input place :=
    match input with
    | .list renderings => .success (.list (distinctIds renderings))
    | _ => .failure place "expected a list"

end MapTheme.Rendering
