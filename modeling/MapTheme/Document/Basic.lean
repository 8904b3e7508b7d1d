/-
  MapTheme.Document.Basic — documents: loosely typed values with ordered fields.

  Inserting a present key keeps its place, a new key goes last. Erasing a key moves the last field
  into the hole. Two documents are the same (`same`) when they differ at most in the order of fields
  and in the sign of zeros; whole numbers and binary64 numbers are never the same.
-/

import MapTheme.Decimal.Binary64

namespace MapTheme

/-- A number of a document; whole ones fit 64 bits, signed or unsigned. -/
inductive Number
  | whole (n : Int)
  | float (x : Binary64)
  deriving DecidableEq, Repr, Inhabited

inductive Document
  | null
  | bool (b : Bool)
  | number (n : Number)
  | text (s : String)
  | list (items : List Document)
  | object (fields : List (String × Document))
  deriving Repr, Inhabited

abbrev Fields := List (String × Document)

namespace Fields

def get? (fields : Fields) (key : String) : Option Document := List.lookup key fields

def has (fields : Fields) (key : String) : Bool := fields.any (·.1 == key)

def keys (fields : Fields) : List String := fields.map (·.1)

def insert : Fields → String → Document → Fields
  | [], key, value => [(key, value)]
  | (k, v) :: rest, key, value => if k == key then (k, value) :: rest else (k, v) :: insert rest key value

/-- Without `key`; the last field moves into its place. -/
def erase (fields : Fields) (key : String) : Fields :=
  if has fields key then
    match fields.getLast? with
    | none => fields
    | some last =>
      let others := fields.dropLast
      if last.1 == key then others else others.map fun f => if f.1 == key then last else f
  else fields

/-- Fields in the order given; of equal keys the last value stands at the first place. -/
def ofList (pairs : List (String × Document)) : Fields := pairs.foldl (fun fs (k, v) => insert fs k v) []

end Fields

namespace Document

def ofNat (n : Nat) : Document := number (.whole n)

def texts (ss : List String) : Document := list (ss.map text)

def text? : Document → Option String
  | text s => some s
  | _ => none

def list? : Document → Option (List Document)
  | list items => some items
  | _ => none

def object? : Document → Option Fields
  | object fields => some fields
  | _ => none

def bool? : Document → Option Bool
  | bool b => some b
  | _ => none

def isText (d : Document) : Bool := d.text?.isSome
def isList (d : Document) : Bool := d.list?.isSome
def isObject (d : Document) : Bool := d.object?.isSome

def isNull : Document → Bool
  | null => true
  | _ => false

/-- A field of an object; none in other documents. -/
def get? (d : Document) (key : String) : Option Document := d.object?.bind (Fields.get? · key)

def textAt? (d : Document) (key : String) : Option String := (d.get? key).bind text?

def listAt? (d : Document) (key : String) : Option (List Document) := (d.get? key).bind list?

/-- The field `id`, when it is a text. -/
def id? (d : Document) : Option String := d.textAt? "id"

end Document

namespace Number

def same : Number → Number → Bool
  | whole a, whole b => a == b
  | float a, float b => a.eq b
  | _, _ => false

end Number

namespace Document

mutual

/-- Equality without regard to the order of fields. -/
def same : Document → Document → Bool
  | null, null => true
  | bool a, bool b => a == b
  | number a, number b => a.same b
  | text a, text b => a == b
  | list a, list b => sameItems a b
  | object a, object b => a.length == b.length && sameFields a b
  | _, _ => false

def sameItems : List Document → List Document → Bool
  | [], [] => true
  | a :: as, b :: bs => same a b && sameItems as bs
  | _, _ => false

/-- Each field of the first list has its equal in the second. -/
def sameFields : List (String × Document) → Fields → Bool
  | [], _ => true
  | (k, a) :: rest, bs =>
    (match Fields.get? bs k with
      | some b => same a b
      | none => false) && sameFields rest bs

end

mutual

/-- All texts inside a document, in document order. -/
def innerTexts : Document → List String
  | text s => [s]
  | list items => innerTextsOfItems items
  | object fields => innerTextsOfFields fields
  | _ => []

def innerTextsOfItems : List Document → List String
  | [] => []
  | d :: rest => innerTexts d ++ innerTextsOfItems rest

def innerTextsOfFields : List (String × Document) → List String
  | [] => []
  | (_, d) :: rest => innerTexts d ++ innerTextsOfFields rest

end

end Document

end MapTheme
