/-
  MapTheme.Text.Suggestion — "did you mean" hints for unknown names.
-/

import MapTheme.Text.Distance
import MapTheme.Text.Pieces

namespace MapTheme.Text

/-- The `n` candidates nearest to `target`, nearest first; equally near ones keep their order. -/
def closest (target : String) (candidates : List String) (n : Nat) : List String :=
  let scored := candidates.map fun c => (distance target c, c)
  ((scored.mergeSort fun a b => a.1 ≤ b.1).take n).map (·.2)

/-- A sentence that names the suggestions; empty when there are none. -/
def didYouMean : List String → String
  | [] => ""
  | [only] => s!" Did you mean {only}?"
  | first :: rest =>
    let last := rest.getLastD first
    let others := joinWith ", " (first :: rest).dropLast
    s!" Did you mean {others} or {last}?"

/-- The hint for `target` with up to three names. -/
def hint (target : String) (candidates : List String) : String := didYouMean (closest target candidates 3)

end MapTheme.Text
