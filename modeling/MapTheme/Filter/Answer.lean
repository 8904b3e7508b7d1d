/-
  MapTheme.Filter.Answer — filters as answers: the values to write so that a filter holds.

  Only literal leaves and substitutions can be written, alone, in conjunctions, or as the only
  branch of an alternative. `flatten` joins several answers into one.
-/

import MapTheme.Filter.Fault
import MapTheme.Filter.Writing

namespace MapTheme

variable [Pattern.Engine]

abbrev Change := List (String × String)

namespace Leaf

def isUsable : Leaf → Bool
  | tag .. => true
  | substituting .. => true
  | regex key value invert => !invert && key.isExact && value.isExact
  | comparing .. => false

def change (existing : Properties) : Leaf → Except FilterFault Change
  | tag key value => .ok [(key, value)]
  | substituting key template => .ok [(key, substitute template existing)]
  | regex (.exact key) (.exact value) false => .ok [(key, value)]
  | comparing key op bound => .error (.unwritable (comparing key op bound).toText .comparison)
  | l => .error (.unwritable l.toText .notLiteral)

end Leaf

namespace Filter

mutual

def isUsable : Filter → Bool
  | leaf l => l.isUsable
  | and fs => allUsable fs
  | or [f] => isUsable f
  | or _ => false

def allUsable : List Filter → Bool
  | [] => true
  | f :: fs => isUsable f && allUsable fs

end

mutual

/-- The pairs to write when the filter is chosen for a feature with the `existing` properties. -/
def change (existing : Properties) : Filter → Except FilterFault Change
  | leaf l => l.change existing
  | and fs => changeOfEach existing fs
  | or [f] => change existing f
  | or fs => .error (.unwritable (or fs).toText .severalBranches)

def changeOfEach (existing : Properties) : List Filter → Except FilterFault Change
  | [] => .ok []
  | f :: fs => do
    let c ← change existing f
    let cs ← changeOfEach existing fs
    .ok (c ++ cs)

end

/-- Adds a value to those of its key; an empty value and one already there only mention the key. -/
def addValue : List (String × List String) → String × String → List (String × List String)
  | [], (key, value) => [(key, if value.isEmpty then [] else [value])]
  | (k, vs) :: rest, (key, value) =>
    if k = key then (k, if value.isEmpty || vs.contains value then vs else vs ++ [value]) :: rest
    else (k, vs) :: addValue rest (key, value)

/-- The values that the answers write, for each key in order of keys, the values in order of the answers. -/
def splitKeys (answers : List Filter) : Except FilterFault (List (String × List String)) := do
  let change ← changeOfEach .empty answers
  .ok ((change.foldl addValue []).mergeSort fun a b => a.1 ≤ b.1)

/-- One answer for several: the values of a key are joined by `;`. -/
def flatten (answers : List Filter) : Except FilterFault Filter := do
  let keys ← splitKeys answers
  .ok (and (keys.map fun (key, values) => tag key (Text.joinWith ";" values)))

end Filter

end MapTheme
