/-
  MapTheme.Filter.Reading — reading filters from texts and documents.

  A leaf is a key, an operator and a value: `k=v`, `k!=v`, `k~p`, `k!~p`, `p~~p`, `p!~~p`, `k:=t` and
  the comparisons. The key ends at the first of `=`, `!`, `~`, `<`, `>`; the longest operator there
  is taken. The value `*` after `=` or `~` means any value that is not empty.
  A document is such a text, or an object with the one key `and` or `or` that holds a list.
-/

import MapTheme.Document.Printer
import MapTheme.Filter.Basic
import MapTheme.Filter.Fault

namespace MapTheme

variable [Pattern.Engine]

/-- What stands between key and value. -/
inductive Operator
  | equal
  | unequal
  | accepts
  | rejects
  | keyAccepts
  | keyRejects
  | substitutes
  | compares (op : Comparison)
  deriving DecidableEq, Repr

namespace Operator

def startsOperator (c : Char) : Bool := c = '=' || c = '!' || c = '~' || c = '<' || c = '>'

/-- The longest operator at the start of a text, and the rest. -/
def read? : List Char → Option (Operator × List Char)
  | '!' :: '~' :: '~' :: r => some (keyRejects, r)
  | '~' :: '~' :: r => some (keyAccepts, r)
  | '!' :: '~' :: r => some (rejects, r)
  | '!' :: '=' :: r => some (unequal, r)
  | '<' :: '=' :: r => some (compares .atMost, r)
  | '>' :: '=' :: r => some (compares .atLeast, r)
  | '~' :: r => some (accepts, r)
  | '=' :: r => some (equal, r)
  | '<' :: r => some (compares .less, r)
  | '>' :: r => some (compares .greater, r)
  | _ => none

end Operator

/-- The three parts of an expression; the key is trimmed. -/
structure Expression where
  key : String
  op : Operator
  value : String
  deriving DecidableEq, Repr

namespace Expression

/-- A colon at the end of the key makes `=` a substitution. -/
def splitColon (key : List Char) (op : Operator) : List Char × Operator :=
  match op, key.reverse with
  | .equal, ':' :: r => (r.reverse, .substitutes)
  | _, _ => (key, op)

def read? (input : List Char) : Except ReadingCause Expression :=
  let (key, rest) := (Text.trimmed input).span (!Operator.startsOperator ·)
  if key.isEmpty then .error .missingKey
  else match Operator.read? rest with
    | none => .error .missingOperator
    | some (op, value) =>
      let (key, op) := splitColon key op
      let key := Text.trimmed key
      if key.isEmpty then .error .missingKey
      else if key.contains '&' || (op == .equal && value.contains '&') then .error .ampersand
      else .ok ⟨String.ofList key, op, String.ofList value⟩

end Expression

namespace Leaf

def readPattern (source : String) : Except FilterFault Matcher :=
  match Pattern.ofSource source with
  | .ok p => .ok (.pattern p)
  | .error e => .error (.badPattern source e)

/-- The leaf of an expression; `input` is the whole text, for messages. -/
def ofExpression (input : String) (e : Expression) : Except FilterFault Leaf :=
  match e.op with
  | .equal => .ok (if e.value == "*" then present e.key else tag e.key e.value)
  | .unequal => .ok (regex (.exact e.key) (.exact e.value) true)
  | .accepts =>
    if e.value == "*" then .ok (present e.key)
    else (readPattern e.value).map fun v => regex (.exact e.key) v false
  | .rejects => (readPattern e.value).map fun v => regex (.exact e.key) v true
  | .keyAccepts => do
    let k ← readPattern e.key
    let v ← readPattern e.value
    .ok (regex k v false)
  | .keyRejects => do
    let k ← readPattern e.key
    let v ← readPattern e.value
    .ok (regex k v true)
  | .substitutes => .ok (substituting e.key e.value)
  | .compares op =>
    match Binary64.read? (Text.trim e.value) with
    | some x => .ok (comparing e.key op x)
    | none => .error (.unreadable input (.notANumber e.value))

def read (input : String) : Except FilterFault Leaf :=
  match Expression.read? input.toList with
  | .ok e => ofExpression input e
  | .error cause => .error (.unreadable input cause)

end Leaf

namespace Filter

def read (input : String) : Except FilterFault Filter := (Leaf.read input).map leaf

/-- Why a document of the wrong shape is no filter. -/
def shapeCause : Document → ReadingCause
  | .object fields =>
    match Fields.has fields "and", Fields.has fields "or" with
    | true, false => combinatorCause "and" fields
    | false, true => combinatorCause "or" fields
    | _, _ => .noSingleCombinator
  | _ => .notAFilter
where
  combinatorCause (combinator : String) (fields : Fields) : ReadingCause :=
    if fields.length = 1 then .notAList combinator
    else .extraKeys combinator ((Fields.keys fields).filter (· != combinator))

mutual

def ofDocument : Document → Except FilterFault Filter
  | .text s => read s
  | .object [(key, .list items)] =>
    if key = "and" then (ofEach items).map and
    else if key = "or" then (ofEach items).map or
    else .error (.unreadable (Document.object [(key, .list items)]).compact .noSingleCombinator)
  | d => .error (.unreadable d.compact (shapeCause d))

def ofEach : List Document → Except FilterFault (List Filter)
  | [] => .ok []
  | d :: ds => do
    let f ← ofDocument d
    let fs ← ofEach ds
    .ok (f :: fs)

end

end Filter

end MapTheme
